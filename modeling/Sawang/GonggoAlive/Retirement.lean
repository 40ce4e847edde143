import Sawang.GonggoAlive.Verdict

/-!
# The dispatcher retires

If the dispatcher clears its flag and gives the lock back, and nobody dies with the
lock, every proxy can learn of it: whoever has the lock gives it back on its own, and a
watch that gets the lock then stops its proxy.
-/

namespace Sawang

open GonggoAlive

/-- The steps to the point where the thread is without the lock. -/
def WatchPosition.untilUnlock : WatchPosition → Nat
  | .judge => 8
  | .inspect => 7
  | .unlinkChannel => 6
  | .unlinkSubscribe => 5
  | .unlinkAlive => 4
  | .exit => 3
  | .kill => 2
  | .unlock => 1
  | .test => 2
  | .cleanup => 1
  | .lock | .sleep | .finished => 0

/-- The steps to the write of `proxy_exit`, once the flag is cleared. -/
def WatchPosition.untilExit : WatchPosition → Nat
  | .unlock => 8
  | .sleep => 7
  | .test => 6
  | .lock => 5
  | .judge => 4
  | .inspect | .unlinkChannel => 3
  | .unlinkSubscribe => 2
  | .unlinkAlive => 1
  | .exit => 0
  | .kill | .cleanup | .finished => 0

/-- The thread writes `proxy_exit` soon, or ends without. -/
def WatchPosition.warns : WatchPosition → Bool
  | .inspect | .unlinkChannel | .unlinkSubscribe | .unlinkAlive | .exit | .cleanup
  | .finished => true
  | _ => false

/-- A proxy that takes the dispatcher for dead stops. -/
def GonggoWatch.Spoken (watch : GonggoWatch) : Prop :=
  watch.gonggoDead = true → watch.proxyExit = true ∨ watch.position.warns = true

theorem GonggoWatch.Spoken.thread {watch : GonggoWatch} (spoken : watch.Spoken)
    (alive : Bool) : (watch.thread alive).Spoken := by
  unfold Spoken GonggoWatch.thread at *
  cases position : watch.position with
  | judge =>
      intro dead
      dsimp only at dead ⊢
      rw [if_pos (of_decide_eq_true dead)]
      exact Or.inr rfl
  | exit => exact fun _ => Or.inl rfl
  | _ =>
      simp only [position] at *
      grind -ring -linarith -order [WatchPosition.warns]

theorem GonggoWatch.thread_status (alive : Bool) (watch : GonggoWatch) :
    (watch.thread alive).status = watch.status := by
  unfold GonggoWatch.thread
  cases watch.position <;> rfl

theorem GonggoWatch.keep_proxyExit {watch after : GonggoWatch}
    (kept : watch.keep = some after) : after.proxyExit = watch.proxyExit := by
  unfold GonggoWatch.keep at kept
  split at kept
  all_goals (try split at kept) <;> cases kept <;> rfl

/-- The owner of the lock comes closer to giving it back. -/
theorem GonggoWatch.untilUnlock_thread {watch : GonggoWatch} {alive : Bool}
    (holds : watch.mayHold = true) (keeps : watch.unlocks = false)
    (status : watch.position.inside = true → watch.status = .ok) :
    (watch.thread alive).position.untilUnlock < watch.position.untilUnlock := by
  unfold GonggoWatch.mayHold GonggoWatch.unlocks at *
  unfold GonggoWatch.thread
  cases position : watch.position <;> simp only [position] at * <;>
    grind -ring -linarith -order [WatchPosition.untilUnlock, WatchPosition.inside]

namespace GonggoAlive

variable {ι : Type} [DecidableEq ι]

/-! ## As long as nobody dies with the lock -/

/-- The lock comes to harm by a death only. -/
structure Unharmed (system : GonggoAlive ι) : Prop where
  lock : system.lock.Unharmed ∨ 0 < system.casualties
  status : ∀ proxy, (system.watches proxy).status = .notRecoverable → 0 < system.casualties

omit [DecidableEq ι] in
theorem unharmed_initial : (initial : GonggoAlive ι).Unharmed where
  lock := Or.inl trivial
  status := nofun

private theorem unharmed_fall {system : GonggoAlive ι} (owner : AliveOwner ι)
    (unharmed : system.lock.Unharmed ∨ 0 < system.casualties) :
    (system.fall owner).lock.Unharmed ∨ 0 < (system.fall owner).casualties := by
  unfold fall RobustMutex.die
  by_cases owned : system.lock.owner = some owner
  · refine Or.inr ?_
    simp [owned]
  · simpa [owned] using unharmed

private theorem status_setWatch {proxy : ι} {watch : GonggoWatch} {before after : GonggoAlive ι}
    (kept : ∀ other, (before.watches other).status = .notRecoverable → 0 < after.casualties)
    (own : watch.status = .notRecoverable → 0 < after.casualties)
    (watches : after.watches = before.watches) (other : ι)
    (lost : ((after.setWatch proxy watch).watches other).status = .notRecoverable) :
    0 < after.casualties := by
  by_cases same : other = proxy
  · subst same
    rw [setWatch_same] at lost
    exact own lost
  · rw [setWatch_other same, watches] at lost
    exact kept other lost

theorem Unharmed.step {action : Action ι} {before after : GonggoAlive ι}
    (unharmed : before.Unharmed) (step : GonggoStep before action after) : after.Unharmed := by
  obtain ⟨lock, status⟩ := unharmed
  have fallen : ∀ owner other, (before.watches other).status = .notRecoverable →
      0 < (before.fall owner).casualties := by
    intro owner other lost
    exact Nat.lt_of_lt_of_le (status other lost) (Nat.le_add_right ..)
  cases step with
  | @locks proxy outcome after position locked =>
      rcases lock with sound | died
      · obtain ⟨rfl, kept⟩ := sound.lock locked
        exact ⟨Or.inl kept, status_setWatch status nofun rfl⟩
      · exact ⟨Or.inr died, status_setWatch status (fun _ => died) rfl⟩
  | gonggoLocks living locked =>
      exact ⟨lock.imp_left fun sound => (sound.lock locked).2, status⟩
  | @unlocks proxy =>
      refine ⟨lock.imp_left fun sound => sound.unlock _, status_setWatch status ?_ rfl⟩
      rw [GonggoWatch.thread_status]
      exact status proxy
  | @moves proxy =>
      refine ⟨lock, status_setWatch status ?_ rfl⟩
      rw [GonggoWatch.thread_status]
      exact status proxy
  | @keeps proxy watch kept =>
      refine ⟨lock, status_setWatch status ?_ rfl⟩
      rw [(GonggoWatch.keep_same kept).2.1]
      exact status proxy
  | @sigterm proxy => exact ⟨lock, status_setWatch status (status proxy) rfl⟩
  | @cancels proxy => exact ⟨lock, status_setWatch status (status proxy) rfl⟩
  | @cutsShort proxy =>
      exact ⟨unharmed_fall _ lock, status_setWatch (fallen _) (fallen _ proxy) rfl⟩
  | @killed proxy =>
      exact ⟨unharmed_fall _ lock, status_setWatch (fallen _) (fallen _ proxy) rfl⟩
  | gonggoUnlocks => exact ⟨lock.imp_left fun sound => sound.unlock _, status⟩
  | gonggoRepairs =>
      refine ⟨lock.imp_left fun sound => ?_, status⟩
      rw [sound.consistent]
      exact sound
  | gonggoRetires => exact ⟨lock, status⟩
  | gonggoDies => exact ⟨unharmed_fall _ lock, fallen _⟩

theorem Spoken.step {action : Action ι} {before after : GonggoAlive ι}
    (spoken : ∀ proxy, (before.watches proxy).Spoken) (step : GonggoStep before action after)
    (proxy : ι) : (after.watches proxy).Spoken := by
  have kept := spoken proxy
  by_cases own : action.proxy = some proxy
  · cases step with
    | locks position locked =>
        cases own
        rw [setWatch_same]
        intro dead
        rcases kept dead with exit | warns
        · exact Or.inl exit
        · rw [position] at warns
          cases warns
    | unlocks =>
        cases own
        rw [setWatch_same]
        exact kept.thread _
    | moves =>
        cases own
        rw [setWatch_same]
        exact kept.thread _
    | keeps keeps =>
        cases own
        rw [setWatch_same]
        obtain ⟨position, _, dead⟩ := GonggoWatch.keep_same keeps
        unfold GonggoWatch.Spoken
        rw [position, dead, GonggoWatch.keep_proxyExit keeps]
        exact kept
    | sigterm =>
        cases own
        rw [setWatch_same]
        exact fun _ => Or.inl rfl
    | cancels =>
        cases own
        rw [setWatch_same]
        exact fun _ => Or.inr rfl
    | cutsShort =>
        cases own
        rw [setWatch_same]
        exact fun _ => Or.inr rfl
    | killed =>
        cases own
        rw [setWatch_same]
        exact fun _ => Or.inr rfl
    | _ => cases own
  · rw [(others step own).watch]
    exact kept

/-! ## The threads go on -/

/-- A step of a watch. -/
def Watching (_ : GonggoAlive ι) (action : Action ι) : Prop :=
  ∃ proxy, action = .thread proxy

/-- The dispatcher has retired and given the lock back, and nobody died with the lock. -/
structure Retired (system : GonggoAlive ι) : Prop where
  reached : Runs.Reaches step Runs.unrestricted initial system
  cleared : system.alive = false
  untouched : system.casualties = 0
  given : system.lock.owner ≠ some .gonggo

private theorem step_thread {proxy : ι} {system : GonggoAlive ι}
    (elsewhere : (system.watches proxy).position ≠ .lock)
    (unfinished : (system.watches proxy).position ≠ .finished) :
    ∃ after, system.step (.thread proxy) = some after ∧
      after.watches proxy = (system.watches proxy).thread system.alive ∧
      after.lock = if (system.watches proxy).unlocks then system.lock.unlock (.proxy proxy)
        else system.lock := by
  refine ⟨{ system with
    lock := if (system.watches proxy).unlocks then system.lock.unlock (.proxy proxy)
      else system.lock }.setWatch proxy ((system.watches proxy).thread system.alive),
    ?_, setWatch_same .., rfl⟩
  simp only [step, stepThread]

theorem Retired.thread {proxy : ι} {system after : GonggoAlive ι} (retired : system.Retired)
    (next : system.step (.thread proxy) = some after) :
    after.Retired ∧ ∀ other, other ≠ proxy → after.watches other = system.watches other := by
  obtain ⟨reached, cleared, untouched, given⟩ := retired
  have reached' := reached.trans (.single trivial next)
  cases gonggoStep_of_step next with
  | locks position locked =>
      refine ⟨⟨reached', cleared, untouched, ?_⟩, fun other different =>
        setWatch_other different ..⟩
      rw [setWatch_lock, (RobustMutex.owner_of_lock locked).2]
      split <;> exact nofun
  | unlocks =>
      refine ⟨⟨reached', cleared, untouched, ?_⟩, fun other different =>
        setWatch_other different ..⟩
      rw [setWatch_lock, RobustMutex.owner_unlock]
      split
      · exact nofun
      · exact given
  | moves =>
      exact ⟨⟨reached', cleared, untouched, given⟩, fun other different =>
        setWatch_other different ..⟩

theorem unharmed_of_reaches {system : GonggoAlive ι}
    (reached : Runs.Reaches step Runs.unrestricted initial system) : system.Unharmed := by
  apply reached.invariant
  · exact unharmed_initial
  · intro before action after unharmed _ next
    exact unharmed.step (gonggoStep_of_step next)

theorem spoken_of_reaches {system : GonggoAlive ι}
    (reached : Runs.Reaches step Runs.unrestricted initial system) :
    ∀ proxy, (system.watches proxy).Spoken := by
  apply reached.invariant
  · exact fun _ => nofun
  · intro before action after spoken _ next
    exact Spoken.step spoken (gonggoStep_of_step next)

theorem Retired.lock {system : GonggoAlive ι} (retired : system.Retired) :
    system.lock.Unharmed := by
  rcases (unharmed_of_reaches retired.reached).lock with sound | died
  · exact sound
  · rw [retired.untouched] at died
    cases died

/-- Who got the lock was told nothing. -/
theorem Retired.status {system : GonggoAlive ι} (retired : system.Retired) {proxy : ι}
    (inside : (system.watches proxy).position.inside = true) :
    (system.watches proxy).status = .ok := by
  cases status : (system.watches proxy).status with
  | ok => rfl
  | ownerDead =>
      have told := (regular_of_reaches retired.reached proxy).learned inside status
      have accounted := accounted_of_reaches retired.reached
      have some := List.length_pos_of_mem told
      unfold Accounted at accounted
      rw [retired.untouched] at accounted
      omega
  | notRecoverable =>
      have died := (unharmed_of_reaches retired.reached).status proxy status
      rw [retired.untouched] at died
      cases died

/-- The owner of the lock gives it back, and the others need not move for that. -/
theorem Retired.release {system : GonggoAlive ι} (retired : system.Retired) {proxy holder : ι}
    (other : proxy ≠ holder) (held : system.lock.owner = some (.proxy holder)) :
    ∃ later, Runs.Reaches step Watching system later ∧ later.Retired ∧
      later.lock.owner = none ∧ later.watches proxy = system.watches proxy := by
  apply Runs.exists_reaches_of_measure
    (fun state => state.Retired ∧ state.lock.owner = some (.proxy holder) ∧
      state.watches proxy = system.watches proxy)
    (fun state => (state.watches holder).position.untilUnlock) _ ⟨retired, held, rfl⟩
  rintro state ⟨retired, held, same⟩
  refine Or.inr ?_
  have regular := regular_of_reaches retired.reached holder
  have holds := regular.holds held
  have elsewhere : (state.watches holder).position ≠ .lock := by
    intro position
    unfold GonggoWatch.mayHold at holds
    rw [position] at holds
    cases holds
  have unfinished : (state.watches holder).position ≠ .finished := by
    intro position
    unfold GonggoWatch.mayHold at holds
    rw [position] at holds
    cases holds
  obtain ⟨after, next, watch, lock⟩ := step_thread elsewhere unfinished
  obtain ⟨kept, others⟩ := retired.thread next
  refine ⟨after, .single ⟨holder, rfl⟩ next, ?_⟩
  rw [← others proxy other] at same
  cases unlocks : (state.watches holder).unlocks with
  | true =>
      rw [if_pos unlocks] at lock
      refine Or.inl ⟨kept, ?_, same⟩
      rw [lock, RobustMutex.owner_unlock, if_pos held]
  | false =>
      rw [if_neg (Bool.eq_false_iff.mp unlocks)] at lock
      rw [← lock] at held
      refine Or.inr ⟨⟨kept, held, same⟩, ?_⟩
      rw [watch]
      exact GonggoWatch.untilUnlock_thread holds unlocks retired.status

/-! ## The flag is read -/

/-- The owner of the lock is some other proxy, or nobody. -/
private theorem Retired.waits {system : GonggoAlive ι} (retired : system.Retired) {proxy : ι}
    (position : (system.watches proxy).position = .lock) :
    system.lock.owner = none ∨
      ∃ holder, proxy ≠ holder ∧ system.lock.owner = some (.proxy holder) := by
  cases owner : system.lock.owner with
  | none => exact Or.inl rfl
  | some held =>
      cases held with
      | gonggo => exact absurd owner retired.given
      | proxy holder =>
          refine Or.inr ⟨holder, ?_, rfl⟩
          rintro rfl
          have holds := (regular_of_reaches retired.reached proxy).holds owner
          unfold GonggoWatch.mayHold at holds
          rw [position] at holds
          cases holds

/-- A watch at the lock need not wait for anybody but other watches. -/
private theorem Retired.freed {system : GonggoAlive ι} (retired : system.Retired) {proxy : ι}
    (position : (system.watches proxy).position = .lock) :
    ∃ later, Runs.Reaches step Watching system later ∧ later.Retired ∧
      later.lock.owner = none ∧ later.watches proxy = system.watches proxy := by
  rcases retired.waits position with free | ⟨holder, other, held⟩
  · exact ⟨system, .refl, retired, free, rfl⟩
  · exact retired.release other held

/-- A watch that gets the lock is told nothing. -/
private theorem Retired.takes {system : GonggoAlive ι} (retired : system.Retired) {proxy : ι}
    (position : (system.watches proxy).position = .lock) (free : system.lock.owner = none) :
    ∃ after, system.step (.thread proxy) = some after ∧
      after.watches proxy = { system.watches proxy with status := .ok, position := .judge } := by
  have unharmed := retired.lock
  cases lock : system.lock with
  | free =>
      refine ⟨{ system with lock := .held (.proxy proxy) }.setWatch proxy
        { system.watches proxy with status := .ok, position := .judge }, ?_, setWatch_same ..⟩
      simp only [step, stepThread, position, take, lock, RobustMutex.lock]
      rfl
  | held owner =>
      rw [lock] at free
      cases free
  | _ =>
      rw [lock] at unharmed
      cases unharmed

end GonggoAlive

/-- The thread is in its loop. -/
def GonggoWatch.InLoop (watch : GonggoWatch) : Prop :=
  watch.position ≠ .cleanup ∧ watch.position ≠ .finished

/-- The watch comes closer to stopping its proxy. -/
theorem GonggoWatch.untilExit_thread {owns told : Prop} {watch : GonggoWatch}
    (regular : watch.Regular owns told false) (spoken : watch.Spoken)
    (loops : watch.InLoop) (elsewhere : watch.position ≠ .lock)
    (silent : watch.proxyExit = false)
    (status : watch.position.inside = true → watch.status = .ok) :
    (watch.thread false).proxyExit = true ∨
      (watch.thread false).InLoop ∧
        (watch.thread false).position.untilExit < watch.position.untilExit := by
  have convicted := regular.convicted
  unfold InLoop Spoken at *
  unfold GonggoWatch.thread
  cases position : watch.position <;> simp only [position] at * <;>
    grind -ring -linarith -order [WatchPosition.untilExit, WatchPosition.inside,
      WatchPosition.convicts, WatchPosition.warns]

namespace GonggoAlive

variable {ι : Type} [DecidableEq ι]

/-- Once the dispatcher has retired and given the lock back, and if nobody died with it,
each watch in its loop can stop its proxy; only the threads of the watches have to move
for it. -/
theorem retirement_noticed {system : GonggoAlive ι} {proxy : ι}
    (reached : Runs.Reaches step Runs.unrestricted initial system)
    (cleared : system.alive = false) (untouched : system.casualties = 0)
    (given : system.lock.owner ≠ some .gonggo) (loops : (system.watches proxy).InLoop) :
    ∃ later, Runs.Reaches step Watching system later ∧
      (later.watches proxy).proxyExit = true := by
  apply Runs.exists_reaches_of_measure
    (fun state => state.Retired ∧ (state.watches proxy).InLoop)
    (fun state => (state.watches proxy).position.untilExit) _
    ⟨⟨reached, cleared, untouched, given⟩, loops⟩
  rintro state ⟨retired, loops⟩
  cases silent : (state.watches proxy).proxyExit with
  | true => exact Or.inl rfl
  | false =>
      refine Or.inr ?_
      by_cases position : (state.watches proxy).position = .lock
      · obtain ⟨middle, run, kept, free, same⟩ := retired.freed position
        rw [← same] at position
        obtain ⟨after, next, watch⟩ := kept.takes position free
        refine ⟨after, run.trans (.single ⟨proxy, rfl⟩ next),
          Or.inr ⟨⟨(kept.thread next).1, ?_⟩, ?_⟩⟩
        · rw [watch]
          exact ⟨nofun, nofun⟩
        · rw [watch, ← same, position]
          exact Nat.lt_succ_self 4
      · obtain ⟨after, next, watch, _⟩ := step_thread position loops.2
        refine ⟨after, .single ⟨proxy, rfl⟩ next, ?_⟩
        have closer := GonggoWatch.untilExit_thread
          (retired.cleared ▸ regular_of_reaches retired.reached proxy)
          (spoken_of_reaches retired.reached proxy) loops position silent retired.status
        rw [← retired.cleared, ← watch] at closer
        exact closer.imp_right fun ⟨loops, less⟩ => ⟨⟨(retired.thread next).1, loops⟩, less⟩

/-- Two proxies wait for the lock when the dispatcher retires. -/
theorem retirement_noticed_waiting :
    ∃ system : GonggoAlive Bool, Runs.Reaches step Runs.unrestricted initial system ∧
      (system.watches true).position = .lock ∧
      ∃ later, Runs.Reaches step Watching system later ∧
        (later.watches true).proxyExit = true := by
  obtain ⟨system, reached, told⟩ := Runs.reaches_of_execute_test step Runs.unrestricted
    [.thread true, .thread false, .gonggoRetires, .gonggoUnlocks, .thread false]
    (initial : GonggoAlive Bool)
    (fun system => decide (system.alive = false ∧ system.casualties = 0 ∧
      system.lock.owner ≠ some .gonggo ∧ (system.watches true).position = .lock)) (by decide)
  obtain ⟨cleared, untouched, given, position⟩ := of_decide_eq_true told
  refine ⟨system, reached, position,
    retirement_noticed reached cleared untouched given ⟨?_, ?_⟩⟩ <;> rw [position] <;> exact nofun

end GonggoAlive

end Sawang
