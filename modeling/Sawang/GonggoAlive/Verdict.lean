import Mathlib.Data.List.Nodup
import Mathlib.Data.List.Perm.Subperm
import Sawang.GonggoAlive.Step

/-!
# Who learns of the dispatcher's end

A proxy takes the dispatcher for dead if it was told of the death of an owner of the
lock, or found the flag cleared.  Each death is told once, so as long as the flag stands
no more proxies stop than owners died: an abrupt end of the dispatcher reaches one
of them.  That one gives the lock back as it found it, and the others get no answer
from the lock any more.
-/

namespace Sawang

open GonggoAlive

/-- The step may be one that the thread makes with the lock. -/
def GonggoWatch.mayHold (watch : GonggoWatch) : Bool :=
  match watch.position with
  | .lock | .sleep | .finished => false
  | .test => watch.gonggoDead
  | .cleanup => true
  | _ => watch.status ≠ .notRecoverable

/-- Between the write of `gonggo_dead` and the test of the lock's status. -/
def WatchPosition.convicts : WatchPosition → Bool
  | .inspect | .unlinkChannel | .unlinkSubscribe | .unlinkAlive | .exit | .kill => true
  | _ => false

/-- What holds of one watch, with what it has to do with the rest: whether it has the
lock, whether it was told of a death, and the dispatcher's flag. -/
structure GonggoWatch.Regular (owns told : Prop) (alive : Bool) (watch : GonggoWatch) : Prop where
  holds : owns → watch.mayHold = true
  owned : watch.position.inside = true → watch.status ≠ .notRecoverable → owns
  convicted : watch.position.convicts = true → watch.gonggoDead = true
  warned : watch.position = .unlock → watch.status = .ownerDead → watch.gonggoDead = true
  learned : watch.position.inside = true → watch.status = .ownerDead → told
  verdict : watch.gonggoDead = true → told ∨ alive = false

theorem WatchPosition.inside_of_convicts {position : WatchPosition}
    (convicts : position.convicts = true) : position.inside = true := by
  cases position <;> first | rfl | cases convicts

theorem GonggoWatch.mayHold_of_inside {watch : GonggoWatch}
    (inside : watch.position.inside = true) :
    watch.mayHold = decide (watch.status ≠ .notRecoverable) := by
  unfold mayHold
  cases position : watch.position <;> rw [position] at inside <;> first | rfl | cases inside

/-- What the thread does between its verdict and its test of the lock's status. -/
theorem GonggoWatch.thread_of_convicts (alive : Bool) {watch : GonggoWatch}
    (convicts : watch.position.convicts = true) :
    watch.unlocks = false ∧ (watch.thread alive).position.inside = true ∧
      (watch.thread alive).status = watch.status ∧
      (watch.thread alive).gonggoDead = watch.gonggoDead := by
  unfold unlocks thread
  cases position : watch.position <;> rw [position] at convicts <;>
    first
    | exact ⟨rfl, rfl, rfl, rfl⟩
    | cases alive <;> exact ⟨rfl, rfl, rfl, rfl⟩
    | cases convicts

/-- The main thread leaves the watch's own fields alone. -/
theorem GonggoWatch.keep_same {watch after : GonggoWatch} (kept : watch.keep = some after) :
    after.position = watch.position ∧ after.status = watch.status ∧
      after.gonggoDead = watch.gonggoDead := by
  unfold keep at kept
  split at kept
  · split at kept <;> cases kept
    exact ⟨rfl, rfl, rfl⟩
  · cases kept
    exact ⟨rfl, rfl, rfl⟩
  · split at kept <;> cases kept
    exact ⟨rfl, rfl, rfl⟩
  · cases kept
    exact ⟨rfl, rfl, rfl⟩
  · cases kept
    exact ⟨rfl, rfl, rfl⟩
  · cases kept
    exact ⟨rfl, rfl, rfl⟩
  · cases kept
  · cases kept

namespace GonggoWatch.Regular

variable {owns told : Prop} {alive : Bool} {watch after : GonggoWatch}

theorem initial : GonggoWatch.initial.Regular False False true where
  holds := False.elim
  owned := by
    intro impossible
    cases impossible
  convicted := by
    intro impossible
    cases impossible
  warned := by
    intro impossible
    cases impossible
  learned := by
    intro impossible
    cases impossible
  verdict := by
    intro impossible
    cases impossible

/-- Only three fields matter. -/
theorem congr (regular : watch.Regular owns told alive)
    (position : after.position = watch.position) (status : after.status = watch.status)
    (dead : after.gonggoDead = watch.gonggoDead) : after.Regular owns told alive := by
  have same : after.mayHold = watch.mayHold := by
    unfold mayHold
    rw [position, status, dead]
  refine ⟨?_, ?_, ?_, ?_, ?_, ?_⟩
  · rw [same]
    exact regular.holds
  · rw [position, status]
    exact regular.owned
  · rw [position, dead]
    exact regular.convicted
  · rw [position, status, dead]
    exact regular.warned
  · rw [position, status]
    exact regular.learned
  · rw [dead]
    exact regular.verdict

theorem retire (regular : watch.Regular owns told alive) : watch.Regular owns told false :=
  ⟨regular.holds, regular.owned, regular.convicted, regular.warned, regular.learned,
    fun _ => Or.inr rfl⟩

/-- The thread comes to its cleanup. -/
theorem cleanup (regular : watch.Regular owns told alive)
    (position : after.position = .cleanup) (dead : after.gonggoDead = watch.gonggoDead) :
    after.Regular owns told alive where
  holds := by
    intro _
    unfold mayHold
    rw [position]
  owned := by
    rw [position]
    exact nofun
  convicted := by
    rw [position]
    exact nofun
  warned := by
    rw [position]
    exact nofun
  learned := by
    rw [position]
    exact nofun
  verdict := by
    rw [dead]
    exact regular.verdict

theorem finish (regular : watch.Regular owns told alive)
    (position : after.position = .finished) (dead : after.gonggoDead = watch.gonggoDead) :
    after.Regular False told alive where
  holds := False.elim
  owned := by
    rw [position]
    exact nofun
  convicted := by
    rw [position]
    exact nofun
  warned := by
    rw [position]
    exact nofun
  learned := by
    rw [position]
    exact nofun
  verdict := by
    rw [dead]
    exact regular.verdict

theorem lock (regular : watch.Regular owns told alive) (outcome : RobustMutex.Outcome) :
    { watch with status := outcome, position := .judge }.Regular
      (outcome ≠ RobustMutex.Outcome.notRecoverable)
      (told ∨ outcome = RobustMutex.Outcome.ownerDead) alive where
  holds owned := decide_eq_true owned
  owned _ known := known
  convicted := nofun
  warned := nofun
  learned _ ownerDead := Or.inr ownerDead
  verdict dead := (regular.verdict dead).imp_left Or.inl

/-- The thread goes on with the lock after it has seen the dispatcher dead. -/
theorem convict (regular : watch.Regular owns told alive)
    (convicts : watch.position.convicts = true) (inside : after.position.inside = true)
    (status : after.status = watch.status) (dead : after.gonggoDead = watch.gonggoDead) :
    after.Regular owns told alive := by
  have before := WatchPosition.inside_of_convicts convicts
  have seen : after.gonggoDead = true := dead.trans (regular.convicted convicts)
  refine ⟨?_, ?_, fun _ => seen, fun _ _ => seen, ?_, ?_⟩
  · intro owns
    have holds := regular.holds owns
    rw [mayHold_of_inside before] at holds
    rw [mayHold_of_inside inside, status]
    exact holds
  · intro _ known
    rw [status] at known
    exact regular.owned before known
  · intro _ ownerDead
    rw [status] at ownerDead
    exact regular.learned before ownerDead
  · intro _
    exact regular.verdict (dead.symm.trans seen)

/-- The thread judges. -/
theorem judge (regular : watch.Regular owns told alive) (position : watch.position = .judge) :
    (watch.thread alive).Regular owns told alive := by
  have inside : watch.position.inside = true := by
    rw [position]
    rfl
  have holds : owns → watch.status ≠ .notRecoverable := by
    intro owns
    have may := regular.holds owns
    rw [mayHold_of_inside inside] at may
    exact of_decide_eq_true may
  have owned := regular.owned inside
  have learned := regular.learned inside
  unfold GonggoWatch.thread
  rw [position]
  by_cases dead : watch.status = .ownerDead ∨ watch.status = .ok ∧ alive = false
  · simp only [dead, if_true, decide_true]
    refine ⟨fun owns => decide_eq_true (holds owns), fun _ => owned, fun _ => rfl, nofun,
      fun _ => learned, fun _ => ?_⟩
    rcases dead with ownerDead | ⟨_, retired⟩
    · exact Or.inl (learned ownerDead)
    · exact Or.inr retired
  · simp only [dead, if_false, decide_false]
    refine ⟨fun owns => decide_eq_true (holds owns), fun _ => owned, nofun, ?_,
      fun _ => learned, nofun⟩
    intro _ ownerDead
    exact absurd (Or.inl ownerDead) dead

/-- The thread gives the lock back where it was told nothing. -/
theorem unlock (regular : watch.Regular owns told alive) (position : watch.position = .unlock) :
    (watch.thread alive).Regular (owns ∧ watch.unlocks = false) told alive := by
  have inside : watch.position.inside = true := by
    rw [position]
    rfl
  have dead : owns ∧ watch.unlocks = false → watch.gonggoDead = true := by
    rintro ⟨owns, keeps⟩
    have may := regular.holds owns
    rw [mayHold_of_inside inside] at may
    apply regular.warned position
    unfold unlocks at keeps
    rw [position] at keeps
    cases status : watch.status with
    | ok => simp [status] at keeps
    | ownerDead => rfl
    | notRecoverable => simp [status] at may
  unfold GonggoWatch.thread
  rw [position]
  by_cases free : watch.status = .ok ∧ watch.gonggoDead = false
  · rw [if_pos free]
    refine ⟨?_, nofun, nofun, nofun, nofun, regular.verdict⟩
    intro keeps
    rw [free.2] at dead
    exact absurd (dead keeps) Bool.false_ne_true
  · rw [if_neg free]
    exact ⟨dead, nofun, nofun, nofun, nofun, regular.verdict⟩

/-- A step without `pthread_mutex_lock`. -/
theorem thread (regular : watch.Regular owns told alive)
    (elsewhere : watch.position ≠ .lock) (unfinished : watch.position ≠ .finished) :
    (watch.thread alive).Regular (owns ∧ watch.unlocks = false) told alive := by
  have keep : ∀ {after : GonggoWatch}, after.Regular owns told alive →
      watch.unlocks = false → after.Regular (owns ∧ watch.unlocks = false) told alive := by
    intro after kept keeps
    rw [propext (and_iff_left keeps)]
    exact kept
  by_cases convicts : watch.position.convicts = true
  · obtain ⟨keeps, inside, status, dead⟩ := thread_of_convicts alive convicts
    exact keep (regular.convict convicts inside status dead) keeps
  cases position : watch.position with
  | lock => exact absurd position elsewhere
  | finished => exact absurd position unfinished
  | unlock => exact regular.unlock position
  | judge =>
      apply keep (regular.judge position)
      unfold unlocks
      rw [position]
  | test =>
      have keeps : watch.unlocks = false := by
        unfold unlocks
        rw [position]
      apply keep _ keeps
      unfold GonggoWatch.thread
      rw [position]
      cases dead : watch.gonggoDead with
      | true => exact regular.cleanup rfl dead.symm
      | false =>
          refine ⟨?_, nofun, nofun, nofun, nofun, ?_⟩
          · intro owns
            have may := regular.holds owns
            unfold mayHold at may
            rw [position, dead] at may
            cases may
          · intro impossible
            cases impossible
  | sleep =>
      unfold GonggoWatch.thread
      rw [position]
      refine ⟨?_, nofun, nofun, nofun, nofun, regular.verdict⟩
      rintro ⟨owns, _⟩
      have may := regular.holds owns
      unfold mayHold at may
      rw [position] at may
      cases may
  | cleanup =>
      have gives : ¬(owns ∧ watch.unlocks = false) := by
        rintro ⟨_, keeps⟩
        unfold unlocks at keeps
        rw [position] at keeps
        cases keeps
      rw [eq_false gives]
      apply regular.finish
      · unfold GonggoWatch.thread
        rw [position]
      · unfold GonggoWatch.thread
        rw [position]
  | _ =>
      rw [position] at convicts
      exact absurd rfl convicts

end GonggoWatch.Regular

namespace GonggoAlive

variable {ι : Type} [DecidableEq ι]

/-- Every watch is regular. -/
def Regular (system : GonggoAlive ι) : Prop :=
  ∀ proxy, (system.watches proxy).Regular (system.lock.owner = some (.proxy proxy))
    (.proxy proxy ∈ system.noticed) system.alive

theorem not_owner_fall (proxy : ι) (system : GonggoAlive ι) :
    (system.fall (.proxy proxy)).lock.owner ≠ some (.proxy proxy) := by
  rw [fall, RobustMutex.owner_die]
  split
  · exact (Option.some_ne_none _).symm
  · assumption

theorem Regular.step {action : Action ι} {before after : GonggoAlive ι}
    (regular : before.Regular) (step : GonggoStep before action after) : after.Regular := by
  intro proxy
  by_cases own : action.proxy = some proxy
  · have kept := regular proxy
    cases step with
    | @locks _ outcome lock position locked =>
        cases own
        have owner : lock.owner = some (.proxy proxy) ↔ outcome ≠ .notRecoverable := by
          rw [(RobustMutex.owner_of_lock locked).2]
          split <;> simp_all
        rw [setWatch_same, setWatch_lock, setWatch_noticed, propext owner, propext mem_told]
        exact kept.lock outcome
    | unlocks unlocks =>
        cases own
        have owner : (before.lock.unlock (.proxy proxy)).owner = some (.proxy proxy) ↔
            before.lock.owner = some (.proxy proxy) ∧
              (before.watches proxy).unlocks = false := by
          rw [RobustMutex.owner_unlock, unlocks]
          split <;> simp_all
        rw [setWatch_same, setWatch_lock, propext owner]
        obtain ⟨elsewhere, unfinished⟩ := GonggoWatch.elsewhere_of_unlocks unlocks
        exact kept.thread elsewhere unfinished
    | moves elsewhere unfinished keeps =>
        cases own
        have moved := kept.thread elsewhere unfinished
        rw [propext (and_iff_left keeps)] at moved
        rw [setWatch_same]
        exact moved
    | keeps keeps =>
        cases own
        obtain ⟨position, status, dead⟩ := GonggoWatch.keep_same keeps
        rw [setWatch_same]
        exact kept.congr position status dead
    | sigterm =>
        cases own
        rw [setWatch_same]
        exact kept.congr rfl rfl rfl
    | cancels =>
        cases own
        rw [setWatch_same]
        exact kept.cleanup rfl rfl
    | cutsShort =>
        cases own
        rw [setWatch_same, setWatch_lock, eq_false (not_owner_fall proxy before)]
        exact kept.finish rfl rfl
    | killed =>
        cases own
        rw [setWatch_same, setWatch_lock, eq_false (not_owner_fall proxy before)]
        exact kept.finish rfl rfl
    | _ => cases own
  · obtain ⟨watch, owner, noticed⟩ := others step own
    have kept := regular proxy
    rw [← watch, ← propext owner, ← propext noticed] at kept
    cases alive : after.alive with
    | true =>
        rw [alive_of_step step alive] at kept
        exact kept
    | false => exact kept.retire

theorem regular_of_reaches {system : GonggoAlive ι}
    (reached : Runs.Reaches step Runs.unrestricted initial system) : system.Regular := by
  apply reached.invariant
  · intro proxy
    simp only [initial, RobustMutex.owner, Option.some.injEq, reduceCtorEq, List.not_mem_nil]
    exact .initial
  · intro before action after regular _ next
    exact regular.step (gonggoStep_of_step next)

/-- The watches exclude each other between the lock and its return, and a watch that has
ended, in whatever way, is without the lock. -/
theorem lock_custody {system : GonggoAlive ι}
    (reached : Runs.Reaches step Runs.unrestricted initial system) :
    (∀ first second,
      (system.watches first).position.inside = true →
      (system.watches first).status ≠ .notRecoverable →
      (system.watches second).position.inside = true →
      (system.watches second).status ≠ .notRecoverable → first = second) ∧
    ∀ proxy, (system.watches proxy).position = .finished →
      system.lock.owner ≠ some (.proxy proxy) := by
  have regular := regular_of_reaches reached
  constructor
  · intro first second inside known inside' known'
    have owner := (regular first).owned inside known
    rw [(regular second).owned inside' known'] at owner
    cases owner
    rfl
  · intro proxy finished owner
    have holds := (regular proxy).holds owner
    unfold GonggoWatch.mayHold at holds
    rw [finished] at holds
    cases holds

/-- The proxy that was told has the lock, and the other one waits for it. -/
theorem lock_custody_told :
    ∃ system : GonggoAlive Bool, Runs.Reaches step Runs.unrestricted initial system ∧
      (system.watches true).position.inside = true ∧
      ((∀ first second,
        (system.watches first).position.inside = true →
        (system.watches first).status ≠ .notRecoverable →
        (system.watches second).position.inside = true →
        (system.watches second).status ≠ .notRecoverable → first = second) ∧
      ∀ proxy, (system.watches proxy).position = .finished →
        system.lock.owner ≠ some (.proxy proxy)) := by
  obtain ⟨system, reached, inside⟩ := Runs.reaches_of_execute_test step Runs.unrestricted
    [.gonggoDies, .thread false, .thread true, .thread true] (initial : GonggoAlive Bool)
    (fun system => (system.watches true).position.inside) (by decide)
  exact ⟨system, reached, inside, lock_custody reached⟩

/-! ## Deaths and reports -/

/-- Each death of an owner was told once, or is still to be told. -/
def Accounted (system : GonggoAlive ι) : Prop :=
  system.noticed.length + system.lock.unreported = system.casualties

omit [DecidableEq ι] in
private theorem accounted_lock {owner : AliveOwner ι} {system : GonggoAlive ι}
    {outcome : RobustMutex.Outcome} {lock : RobustMutex (AliveOwner ι)}
    (accounted : system.Accounted) (locked : system.lock.lock owner = some (outcome, lock)) :
    (if outcome = .ownerDead then owner :: system.noticed else system.noticed).length +
      lock.unreported = system.casualties := by
  have reported := RobustMutex.unreported_of_lock locked
  unfold Accounted at accounted
  split
  · rename_i told
    rw [if_pos told] at reported
    rw [List.length_cons]
    omega
  · rename_i untold
    rw [if_neg untold] at reported
    omega

private theorem accounted_fall {system : GonggoAlive ι} (accounted : system.Accounted)
    (owner : AliveOwner ι) : (system.fall owner).Accounted := by
  have dies := RobustMutex.unreported_die owner system.lock
  unfold Accounted at accounted ⊢
  unfold fall
  dsimp only
  omega

theorem Accounted.step {action : Action ι} {before after : GonggoAlive ι}
    (accounted : before.Accounted) (step : GonggoStep before action after) :
    after.Accounted := by
  cases step with
  | locks position locked => exact accounted_lock accounted locked
  | gonggoLocks living locked => exact accounted_lock accounted locked
  | unlocks =>
      unfold Accounted
      rw [setWatch_lock, RobustMutex.unreported_unlock]
      exact accounted
  | gonggoUnlocks =>
      unfold Accounted
      rw [RobustMutex.unreported_unlock]
      exact accounted
  | gonggoRepairs =>
      unfold Accounted
      rw [RobustMutex.unreported_consistent]
      exact accounted
  | cutsShort => exact accounted_fall accounted _
  | killed => exact accounted_fall accounted _
  | gonggoDies => exact accounted_fall accounted _
  | _ => exact accounted

theorem accounted_of_reaches {system : GonggoAlive ι}
    (reached : Runs.Reaches step Runs.unrestricted initial system) : system.Accounted := by
  apply reached.invariant
  · rfl
  · intro before action after accounted _ next
    exact accounted.step (gonggoStep_of_step next)

/-- As long as the dispatcher's flag stands, no more proxies take it for dead than
owners of the lock have died. -/
theorem verdicts_le_casualties {system : GonggoAlive ι}
    (reached : Runs.Reaches step Runs.unrestricted initial system)
    (alive : system.alive = true) {proxies : List ι} (distinct : proxies.Nodup)
    (dead : ∀ proxy ∈ proxies, (system.watches proxy).gonggoDead = true) :
    proxies.length ≤ system.casualties := by
  have told : proxies.map AliveOwner.proxy ⊆ system.noticed := by
    intro owner member
    obtain ⟨proxy, listed, rfl⟩ := List.mem_map.mp member
    rcases (regular_of_reaches reached proxy).verdict (dead proxy listed) with
      told | retired
    · exact told
    · rw [alive] at retired
      cases retired
  have owners : (proxies.map AliveOwner.proxy).Nodup := by
    apply distinct.map
    intro first second equal
    exact AliveOwner.proxy.inj equal
  have reported := (owners.subperm told).length_le
  have accounted := accounted_of_reaches reached
  unfold Accounted at accounted
  rw [List.length_map] at reported
  omega

/-- The dispatcher dies with the lock, and one of two proxies is told. -/
theorem verdicts_le_casualties_told :
    ∃ system : GonggoAlive Bool, Runs.Reaches step Runs.unrestricted initial system ∧
      system.alive = true ∧ (system.watches true).gonggoDead = true ∧
      [true].length ≤ system.casualties := by
  obtain ⟨system, reached, told⟩ := Runs.reaches_of_execute_test step Runs.unrestricted
    [.gonggoDies, .thread true, .thread true, .thread true] (initial : GonggoAlive Bool)
    (fun system => decide (system.alive = true ∧ (system.watches true).gonggoDead = true))
    (by decide)
  obtain ⟨alive, dead⟩ := of_decide_eq_true told
  refine ⟨system, reached, alive, dead, verdicts_le_casualties reached alive (by decide) ?_⟩
  intro proxy member
  rw [List.mem_singleton.mp member]
  exact dead

end GonggoAlive

/-! ## A lost lock -/

/-- The watch gets no answer, takes nobody for dead, and goes on unless it is stopped. -/
structure GonggoWatch.Unaware (watch : GonggoWatch) : Prop where
  living : watch.gonggoDead = false
  acquits : watch.position.convicts = false
  unanswered : watch.position.inside = true → watch.status = .notRecoverable
  stopped : watch.position = .cleanup ∨ watch.position = .finished →
    watch.cancellation ≠ .none ∨ watch.keeper = .killed

namespace GonggoWatch.Unaware

variable {watch after : GonggoWatch}

/-- A position in the loop outside the lock. -/
theorem elsewhere (living : after.gonggoDead = false)
    (position : after.position = .test ∨ after.position = .lock ∨ after.position = .sleep) :
    after.Unaware := by
  refine ⟨living, ?_, ?_, ?_⟩
  · rcases position with there | there | there <;> rw [there] <;> rfl
  · rcases position with there | there | there <;> rw [there] <;> exact nofun
  · rcases position with there | there | there <;> rw [there] <;>
      rintro (impossible | impossible) <;> cases impossible

/-- A position with the answer of the lost lock. -/
theorem inside (living : after.gonggoDead = false)
    (position : after.position = .judge ∨ after.position = .unlock)
    (status : after.status = .notRecoverable) : after.Unaware := by
  refine ⟨living, ?_, fun _ => status, ?_⟩
  · rcases position with there | there <;> rw [there] <;> rfl
  · rcases position with there | there <;> rw [there] <;>
      rintro (impossible | impossible) <;> cases impossible

theorem thread (unaware : watch.Unaware) (alive : Bool) : (watch.thread alive).Unaware := by
  have living := unaware.living
  unfold GonggoWatch.thread
  cases position : watch.position with
  | test =>
      dsimp only
      rw [if_neg (Bool.eq_false_iff.mp living)]
      exact elsewhere living (Or.inr (Or.inl rfl))
  | sleep => exact elsewhere living (Or.inl rfl)
  | judge =>
      have status : watch.status = .notRecoverable := by
        apply unaware.unanswered
        rw [position]
        rfl
      simp only [status]
      exact inside rfl (Or.inr rfl) rfl
  | unlock =>
      have status : watch.status = .notRecoverable := by
        apply unaware.unanswered
        rw [position]
        rfl
      simp only [status]
      exact elsewhere living (Or.inl rfl)
  | lock => exact unaware
  | finished => exact unaware
  | cleanup => exact ⟨living, rfl, nofun, fun _ => unaware.stopped (Or.inl position)⟩
  | _ =>
      have acquits := unaware.acquits
      rw [position] at acquits
      cases acquits

theorem keep (unaware : watch.Unaware) (kept : watch.keep = some after) : after.Unaware := by
  obtain ⟨position, status, dead⟩ := keep_same kept
  refine ⟨dead.trans unaware.living, ?_, ?_, ?_⟩
  · rw [position]
    exact unaware.acquits
  · rw [position, status]
    exact unaware.unanswered
  · rw [position]
    intro ended
    rcases unaware.stopped ended with cancelled | killed
    · refine Or.inl ?_
      unfold GonggoWatch.keep at kept
      split at kept
      all_goals (try split at kept) <;> cases kept
      all_goals first | exact cancelled | skip
      rw [unaware.living]
      exact nofun
    · unfold GonggoWatch.keep at kept
      rw [killed] at kept
      cases kept

end GonggoWatch.Unaware

namespace GonggoAlive

variable {ι : Type} [DecidableEq ι]

/-- The lock is lost, and the proxy does not learn why. -/
structure Unaware (proxy : ι) (system : GonggoAlive ι) : Prop where
  lost : system.lock = .notRecoverable
  watch : (system.watches proxy).Unaware

omit [DecidableEq ι] in
private theorem lost_lock {owner : AliveOwner ι} {lock after : RobustMutex (AliveOwner ι)}
    {outcome : RobustMutex.Outcome} (lost : lock = .notRecoverable)
    (locked : lock.lock owner = some (outcome, after)) :
    outcome = .notRecoverable ∧ after = .notRecoverable := by
  rw [lost] at locked
  cases locked
  exact ⟨rfl, rfl⟩

/-- Nothing brings a lost lock back. -/
theorem lost_of_step {action : Action ι} {before after : GonggoAlive ι}
    (step : GonggoStep before action after) (lost : before.lock = .notRecoverable) :
    after.lock = .notRecoverable := by
  cases step with
  | locks position locked => exact (lost_lock lost locked).2
  | gonggoLocks living locked => exact (lost_lock lost locked).2
  | unlocks => simp [lost]
  | gonggoUnlocks => simp [lost]
  | gonggoRepairs => simp [lost]
  | cutsShort => simp [fall, lost]
  | killed => simp [fall, lost]
  | gonggoDies => simp [fall, lost]
  | _ => exact lost

theorem Unaware.step {proxy : ι} {action : Action ι} {before after : GonggoAlive ι}
    (unaware : before.Unaware proxy) (step : GonggoStep before action after) :
    after.Unaware proxy := by
  refine ⟨lost_of_step step unaware.lost, ?_⟩
  have watch := unaware.watch
  by_cases own : action.proxy = some proxy
  · cases step with
    | locks position locked =>
        cases own
        rw [setWatch_same]
        exact .inside watch.living (Or.inl rfl) (lost_lock unaware.lost locked).1
    | unlocks =>
        cases own
        rw [setWatch_same]
        exact watch.thread _
    | moves =>
        cases own
        rw [setWatch_same]
        exact watch.thread _
    | keeps kept =>
        cases own
        rw [setWatch_same]
        exact watch.keep kept
    | sigterm =>
        cases own
        rw [setWatch_same]
        exact ⟨watch.living, watch.acquits, watch.unanswered, watch.stopped⟩
    | cancels =>
        cases own
        rw [setWatch_same]
        exact ⟨watch.living, rfl, nofun, fun _ => Or.inl nofun⟩
    | cutsShort =>
        cases own
        rw [setWatch_same]
        exact ⟨watch.living, rfl, nofun, fun _ => Or.inl nofun⟩
    | killed =>
        cases own
        rw [setWatch_same]
        exact ⟨watch.living, rfl, nofun, fun _ => Or.inr rfl⟩
    | _ => cases own
  · rw [(others step own).watch]
    exact watch

/-- Once the lock is lost, a proxy that has not taken the dispatcher for dead never
does, and its watch ends only if it is cancelled or killed. -/
theorem watch_never_ends {system later : GonggoAlive ι} {proxy : ι}
    (reached : Runs.Reaches step Runs.unrestricted initial system)
    (lost : system.lock = .notRecoverable)
    (living : (system.watches proxy).gonggoDead = false)
    (watches : (system.watches proxy).position ≠ .cleanup ∧
      (system.watches proxy).position ≠ .finished)
    (onwards : Runs.Reaches step Runs.unrestricted system later) :
    (later.watches proxy).gonggoDead = false ∧
      ((later.watches proxy).position = .cleanup ∨ (later.watches proxy).position = .finished →
        (later.watches proxy).cancellation ≠ .none ∨
          (later.watches proxy).keeper = .killed) := by
  have regular := regular_of_reaches reached proxy
  have start : system.Unaware proxy := by
    refine ⟨lost, living, ?_, ?_, ?_⟩
    · apply Bool.eq_false_iff.mpr
      intro convicts
      rw [regular.convicted convicts] at living
      cases living
    · intro inside
      apply Decidable.byContradiction
      intro known
      have owner := regular.owned inside known
      rw [lost] at owner
      cases owner
    · rintro (cleanup | finished)
      · exact absurd cleanup watches.1
      · exact absurd finished watches.2
  have unaware : later.Unaware proxy := by
    apply onwards.invariant
    · exact start
    · intro before action after unaware _ next
      exact unaware.step (gonggoStep_of_step next)
  exact ⟨unaware.watch.living, unaware.watch.stopped⟩

/-- The proxy that was told gives the lock back, and the other one watches on. -/
theorem watch_never_ends_unaware :
    ∃ system : GonggoAlive Bool, Runs.Reaches step Runs.unrestricted initial system ∧
      (system.watches true).proxyExit = true ∧
      ∀ later, Runs.Reaches step Runs.unrestricted system later →
        (later.watches false).gonggoDead = false ∧
          ((later.watches false).position = .cleanup ∨
              (later.watches false).position = .finished →
            (later.watches false).cancellation ≠ .none ∨
              (later.watches false).keeper = .killed) := by
  obtain ⟨system, reached, lost⟩ := Runs.reaches_of_execute_test step Runs.unrestricted
    (.gonggoDies :: List.replicate 12 (.thread true)) (initial : GonggoAlive Bool)
    (fun system => decide (system.lock = .notRecoverable ∧
      (system.watches true).proxyExit = true ∧
      (system.watches false).gonggoDead = false ∧
      (system.watches false).position ≠ .cleanup ∧
      (system.watches false).position ≠ .finished)) (by decide)
  obtain ⟨lost, exit, living, watches⟩ := of_decide_eq_true lost
  exact ⟨system, reached, exit, fun later onwards =>
    watch_never_ends reached lost living watches onwards⟩

end GonggoAlive

end Sawang
