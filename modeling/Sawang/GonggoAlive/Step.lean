import Sawang.GonggoAlive

/-!
# What one step of the watch can do

`GonggoStep` has a constructor for each way a step succeeds.  What a step of somebody
else is to one proxy, `others` says once: its watch stays as it is, and so does whether
it has the lock.
-/

namespace Sawang

open GonggoAlive

/-- Between `pthread_mutex_lock` and `pthread_mutex_unlock`. -/
def WatchPosition.inside : WatchPosition → Bool
  | .judge | .inspect | .unlinkChannel | .unlinkSubscribe | .unlinkAlive | .exit | .kill
  | .unlock => true
  | _ => false

theorem GonggoWatch.elsewhere_of_unlocks {watch : GonggoWatch}
    (unlocks : watch.unlocks = true) :
    watch.position ≠ .lock ∧ watch.position ≠ .finished := by
  unfold GonggoWatch.unlocks at unlocks
  constructor <;> intro position <;> rw [position] at unlocks <;> cases unlocks

inductive GonggoStep {ι : Type} [DecidableEq ι] :
    GonggoAlive ι → Action ι → GonggoAlive ι → Prop
  | locks {system : GonggoAlive ι} {proxy : ι} {outcome : RobustMutex.Outcome}
      {lock : RobustMutex (AliveOwner ι)}
      (position : (system.watches proxy).position = .lock)
      (locked : system.lock.lock (.proxy proxy) = some (outcome, lock)) :
      GonggoStep system (.thread proxy)
        ({ system with
          lock := lock
          noticed :=
            if outcome = RobustMutex.Outcome.ownerDead then .proxy proxy :: system.noticed
            else system.noticed }.setWatch proxy
          { system.watches proxy with status := outcome, position := .judge })
  | unlocks {system : GonggoAlive ι} {proxy : ι}
      (unlocks : (system.watches proxy).unlocks = true) :
      GonggoStep system (.thread proxy)
        ({ system with lock := system.lock.unlock (.proxy proxy) }.setWatch proxy
          ((system.watches proxy).thread system.alive))
  | moves {system : GonggoAlive ι} {proxy : ι}
      (elsewhere : (system.watches proxy).position ≠ .lock)
      (unfinished : (system.watches proxy).position ≠ .finished)
      (keeps : (system.watches proxy).unlocks = false) :
      GonggoStep system (.thread proxy)
        (system.setWatch proxy ((system.watches proxy).thread system.alive))
  | keeps {system : GonggoAlive ι} {proxy : ι} {watch : GonggoWatch}
      (kept : (system.watches proxy).keep = some watch) :
      GonggoStep system (.main proxy) (system.setWatch proxy watch)
  | sigterm {system : GonggoAlive ι} {proxy : ι} :
      GonggoStep system (.sigterm proxy)
        (system.setWatch proxy { system.watches proxy with proxyExit := true })
  | cancels {system : GonggoAlive ι} {proxy : ι}
      (requested : (system.watches proxy).cancellation = .requested)
      (unfinished : (system.watches proxy).position ≠ .finished)
      (elsewhere : (system.watches proxy).position ≠ .cleanup) :
      GonggoStep system (.cancel proxy)
        (system.setWatch proxy
          { system.watches proxy with cancellation := .delivered, position := .cleanup })
  | cutsShort {system : GonggoAlive ι} {proxy : ι}
      (requested : (system.watches proxy).cancellation = .requested)
      (cleanup : (system.watches proxy).position = .cleanup) :
      GonggoStep system (.cancel proxy)
        ((system.fall (.proxy proxy)).setWatch proxy
          { system.watches proxy with cancellation := .delivered, position := .finished })
  | killed {system : GonggoAlive ι} {proxy : ι} :
      GonggoStep system (.killed proxy)
        ((system.fall (.proxy proxy)).setWatch proxy
          { system.watches proxy with position := .finished, keeper := .killed })
  | gonggoLocks {system : GonggoAlive ι} {outcome : RobustMutex.Outcome}
      {lock : RobustMutex (AliveOwner ι)} (living : system.died = false)
      (locked : system.lock.lock .gonggo = some (outcome, lock)) :
      GonggoStep system .gonggoLocks
        { system with
          lock := lock
          noticed :=
            if outcome = .ownerDead then .gonggo :: system.noticed else system.noticed }
  | gonggoUnlocks {system : GonggoAlive ι} (living : system.died = false) :
      GonggoStep system .gonggoUnlocks { system with lock := system.lock.unlock .gonggo }
  | gonggoRepairs {system : GonggoAlive ι} (living : system.died = false) :
      GonggoStep system .gonggoRepairs { system with lock := system.lock.consistent .gonggo }
  | gonggoRetires {system : GonggoAlive ι} (living : system.died = false) :
      GonggoStep system .gonggoRetires { system with alive := false }
  | gonggoDies {system : GonggoAlive ι} (living : system.died = false) :
      GonggoStep system .gonggoDies { system.fall .gonggo with died := true }

namespace GonggoAlive

variable {ι : Type} [DecidableEq ι]

@[simp] theorem setWatch_lock (proxy : ι) (watch : GonggoWatch) (system : GonggoAlive ι) :
    (system.setWatch proxy watch).lock = system.lock := rfl

@[simp] theorem setWatch_alive (proxy : ι) (watch : GonggoWatch) (system : GonggoAlive ι) :
    (system.setWatch proxy watch).alive = system.alive := rfl

@[simp] theorem setWatch_noticed (proxy : ι) (watch : GonggoWatch) (system : GonggoAlive ι) :
    (system.setWatch proxy watch).noticed = system.noticed := rfl

@[simp] theorem setWatch_casualties (proxy : ι) (watch : GonggoWatch)
    (system : GonggoAlive ι) :
    (system.setWatch proxy watch).casualties = system.casualties := rfl

@[simp] theorem setWatch_same (proxy : ι) (watch : GonggoWatch) (system : GonggoAlive ι) :
    (system.setWatch proxy watch).watches proxy = watch := Function.update_self ..

theorem setWatch_other {proxy other : ι} (different : other ≠ proxy) (watch : GonggoWatch)
    (system : GonggoAlive ι) :
    (system.setWatch proxy watch).watches other = system.watches other :=
  Function.update_of_ne different ..

omit [DecidableEq ι] in
private theorem take_eq_some {owner : AliveOwner ι} {system after : GonggoAlive ι}
    {outcome : RobustMutex.Outcome} (taken : system.take owner = some (outcome, after)) :
    ∃ lock, system.lock.lock owner = some (outcome, lock) ∧
      after = { system with
        lock := lock
        noticed :=
          if outcome = .ownerDead then owner :: system.noticed else system.noticed } := by
  obtain ⟨⟨result, lock⟩, locked, equal⟩ := Option.map_eq_some_iff.mp taken
  cases equal
  exact ⟨lock, locked, rfl⟩

private theorem gonggoStep_thread {proxy : ι} {before after : GonggoAlive ι}
    (next : before.stepThread proxy = some after) :
    GonggoStep before (.thread proxy) after := by
  simp only [stepThread] at next
  split at next
  · cases next
  · rename_i position
    obtain ⟨⟨outcome, taken⟩, took, rfl⟩ := Option.map_eq_some_iff.mp next
    obtain ⟨lock, locked, rfl⟩ := take_eq_some took
    exact .locks position locked
  · rename_i unfinished elsewhere
    cases next
    cases unlocks : (before.watches proxy).unlocks with
    | true => exact .unlocks unlocks
    | false => exact .moves elsewhere unfinished unlocks

theorem gonggoStep_of_step {action : Action ι} {before after : GonggoAlive ι}
    (next : before.step action = some after) : GonggoStep before action after := by
  cases action with
  | thread proxy => exact gonggoStep_thread next
  | main proxy =>
      obtain ⟨watch, kept, rfl⟩ := Option.map_eq_some_iff.mp next
      exact .keeps kept
  | sigterm proxy =>
      cases next
      exact .sigterm
  | cancel proxy =>
      simp only [step, stepCancel] at next
      split at next
      · rename_i requested
        split at next
        · cases next
        · rename_i cleanup
          cases next
          exact .cutsShort requested cleanup
        · rename_i unfinished elsewhere
          cases next
          exact .cancels requested unfinished elsewhere
      · cases next
  | killed proxy =>
      cases next
      exact .killed
  | gonggoLocks =>
      simp only [step] at next
      split at next
      · cases next
      · rename_i living
        obtain ⟨⟨outcome, taken⟩, took, rfl⟩ := Option.map_eq_some_iff.mp next
        obtain ⟨lock, locked, rfl⟩ := take_eq_some took
        exact .gonggoLocks (Bool.eq_false_iff.mpr living) locked
  | gonggoUnlocks =>
      simp only [step] at next
      split at next
      · cases next
      · rename_i living
        cases next
        exact .gonggoUnlocks (Bool.eq_false_iff.mpr living)
  | gonggoRepairs =>
      simp only [step] at next
      split at next
      · cases next
      · rename_i living
        cases next
        exact .gonggoRepairs (Bool.eq_false_iff.mpr living)
  | gonggoRetires =>
      simp only [step] at next
      split at next
      · cases next
      · rename_i living
        cases next
        exact .gonggoRetires (Bool.eq_false_iff.mpr living)
  | gonggoDies =>
      simp only [step] at next
      split at next
      · cases next
      · rename_i living
        cases next
        exact .gonggoDies (Bool.eq_false_iff.mpr living)

/-! ## Steps of the others -/

/-- The proxy a step is one of. -/
def Action.proxy : Action ι → Option ι
  | .thread proxy | .main proxy | .sigterm proxy | .cancel proxy | .killed proxy => some proxy
  | _ => none

/-- What everybody but the proxy may do to what it sees. -/
structure Aside (proxy : ι) (before after : GonggoAlive ι) : Prop where
  watch : after.watches proxy = before.watches proxy
  owner : after.lock.owner = some (.proxy proxy) ↔ before.lock.owner = some (.proxy proxy)
  noticed : .proxy proxy ∈ after.noticed ↔ .proxy proxy ∈ before.noticed

private theorem owner_ite {owner self : AliveOwner ι} (different : owner ≠ self)
    {held : Option (AliveOwner ι)} :
    (if held = some owner then none else held) = some self ↔ held = some self := by
  split
  · rename_i own
    simp [own, different]
  · rfl

omit [DecidableEq ι] in
private theorem owner_lock {owner self : AliveOwner ι} (different : owner ≠ self)
    {before after : RobustMutex (AliveOwner ι)} {outcome : RobustMutex.Outcome}
    (locked : before.lock owner = some (outcome, after)) :
    after.owner = some self ↔ before.owner = some self := by
  obtain ⟨free, owned⟩ := RobustMutex.owner_of_lock locked
  rw [free, owned]
  split <;> simp [different]

omit [DecidableEq ι] in
private theorem mem_noticed {owner self : AliveOwner ι} (different : owner ≠ self)
    {outcome : RobustMutex.Outcome} {noticed : List (AliveOwner ι)} :
    self ∈ (if outcome = .ownerDead then owner :: noticed else noticed) ↔
      self ∈ noticed := by
  split
  · simp [different.symm]
  · rfl

omit [DecidableEq ι] in
theorem mem_told {owner : AliveOwner ι} {outcome : RobustMutex.Outcome}
    {noticed : List (AliveOwner ι)} :
    (owner ∈ if outcome = .ownerDead then owner :: noticed else noticed) ↔
      owner ∈ noticed ∨ outcome = .ownerDead := by
  split
  · rename_i told
    simp [told]
  · rename_i untold
    simp [untold]

theorem others {action : Action ι} {before after : GonggoAlive ι}
    (step : GonggoStep before action after) {proxy : ι} (other : action.proxy ≠ some proxy) :
    Aside proxy before after := by
  have different : ∀ {own : ι}, some own ≠ some proxy →
      AliveOwner.proxy own ≠ .proxy proxy ∧ proxy ≠ own := by
    intro own distinct
    constructor
    · rintro ⟨⟩
      exact distinct rfl
    · rintro rfl
      exact distinct rfl
  have gonggo : (AliveOwner.gonggo : AliveOwner ι) ≠ .proxy proxy := nofun
  cases step with
  | locks position locked =>
      obtain ⟨owners, proxies⟩ := different other
      exact ⟨setWatch_other proxies .., owner_lock owners locked, mem_noticed owners⟩
  | unlocks unlocks =>
      obtain ⟨owners, proxies⟩ := different other
      refine ⟨setWatch_other proxies .., ?_, Iff.rfl⟩
      rw [setWatch_lock, RobustMutex.owner_unlock]
      exact owner_ite owners
  | moves => exact ⟨setWatch_other (different other).2 .., Iff.rfl, Iff.rfl⟩
  | keeps => exact ⟨setWatch_other (different other).2 .., Iff.rfl, Iff.rfl⟩
  | sigterm => exact ⟨setWatch_other (different other).2 .., Iff.rfl, Iff.rfl⟩
  | cancels => exact ⟨setWatch_other (different other).2 .., Iff.rfl, Iff.rfl⟩
  | cutsShort =>
      obtain ⟨owners, proxies⟩ := different other
      refine ⟨setWatch_other proxies .., ?_, Iff.rfl⟩
      rw [setWatch_lock, fall, RobustMutex.owner_die]
      exact owner_ite owners
  | killed =>
      obtain ⟨owners, proxies⟩ := different other
      refine ⟨setWatch_other proxies .., ?_, Iff.rfl⟩
      rw [setWatch_lock, fall, RobustMutex.owner_die]
      exact owner_ite owners
  | gonggoLocks living locked =>
      exact ⟨rfl, owner_lock gonggo locked, mem_noticed gonggo⟩
  | gonggoUnlocks =>
      refine ⟨rfl, ?_, Iff.rfl⟩
      rw [RobustMutex.owner_unlock]
      exact owner_ite gonggo
  | gonggoRepairs =>
      refine ⟨rfl, ?_, Iff.rfl⟩
      rw [RobustMutex.owner_consistent]
  | gonggoRetires => exact ⟨rfl, Iff.rfl, Iff.rfl⟩
  | gonggoDies =>
      refine ⟨rfl, ?_, Iff.rfl⟩
      rw [fall, RobustMutex.owner_die]
      exact owner_ite gonggo

/-- The dispatcher's flag is not set again. -/
theorem alive_of_step {action : Action ι} {before after : GonggoAlive ι}
    (step : GonggoStep before action after) (alive : after.alive = true) :
    before.alive = true := by
  cases step <;> first | exact alive | cases alive

end GonggoAlive

end Sawang
