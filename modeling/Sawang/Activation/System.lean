import Sawang.Activation.Step

/-!
# Calls among each other

What a step of the system is to one of its calls: a step of that call, or a write to
the segment that the call does not see happen.
-/

namespace Sawang

open ActivationSystem

/-- The first step of a call goes without the lock; the others take it and give it
back, unless the call returns with it. -/
inductive SystemStep {ι : Type} [DecidableEq ι] (identity : ι → ProxyIdentity) :
    ActivationSystem ι → Action ι → ActivationSystem ι → Prop
  | starts {system : ActivationSystem ι} {proxy : ι} {opened : Bool} {status : LockStatus}
      {call : Activation}
      (stepped : (system.activation proxy).step (identity proxy) opened status = some call)
      (position : (system.calls proxy).position = .start)
      (untouched : call.shm = system.shm ∧
        call.holdsLock = (system.calls proxy).holdsLock) :
      SystemStep identity system (.call proxy opened status)
        { system with
          calls := Function.update system.calls proxy call.toActivationCall }
  | locks {system : ActivationSystem ι} {proxy : ι} {opened : Bool} {status : LockStatus}
      {call : Activation}
      (stepped : (system.activation proxy).step (identity proxy) opened status = some call)
      (inside : (system.calls proxy).position ≠ .start) (free : system.owner = none)
      (owned : status = .ownerDead ↔ system.ownerDead = true) :
      SystemStep identity system (.call proxy opened status)
        { system with
          shm := call.shm
          calls := Function.update system.calls proxy call.toActivationCall
          owner := if call.holdsLock then some proxy else none
          ownerDead := false }
  | answer {system : ActivationSystem ι} {state : ProxyActivationState}
      (free : system.owner = none) (asked : system.shm.state = .request)
      (replies : state = .success ∨ state = .failed ∨ state = .proxyDying) :
      SystemStep identity system (.answer state)
        { system with
          shm := { system.shm with state := state }
          ownerDead := false
          answered := if state = .success then some system.shm.proxy else system.answered }
  | reset {system : ActivationSystem ι} (free : system.owner = none)
      (past : system.shm.state = .failed ∨ system.shm.state = .proxyDying ∨
        system.shm.state = .done) :
      SystemStep identity system .reset
        { system with shm := { system.shm with state := .idle }, ownerDead := false }
  | dispatcherDies {system : ActivationSystem ι} (free : system.owner = none) :
      SystemStep identity system .dispatcherDies { system with ownerDead := true }

namespace ActivationSystem

variable {ι : Type} [DecidableEq ι] {identity : ι → ProxyIdentity}

/-- The first step of a call leaves the segment alone. -/
private theorem untouched_of_start {call after : Activation} {self : ProxyIdentity}
    {opened : Bool} {status : LockStatus} (position : call.position = .start)
    (stepped : call.step self opened status = some after) :
    after.shm = call.shm ∧ after.holdsLock = call.holdsLock := by
  simp only [Activation.step, position] at stepped
  split at stepped
  · cases stepped
    exact ⟨rfl, rfl⟩
  · split at stepped
    · cases stepped
      exact ⟨rfl, rfl⟩
    · cases stepped
      exact ⟨rfl, rfl⟩

private theorem systemStep_stepCall {proxy : ι} {opened : Bool} {status : LockStatus}
    {before after : ActivationSystem ι}
    (next : before.stepCall identity proxy opened status = some after) :
    SystemStep identity before (.call proxy opened status) after := by
  unfold stepCall at next
  split at next
  · rename_i position
    obtain ⟨call, stepped, rfl⟩ := Option.map_eq_some_iff.mp next
    exact .starts stepped position (untouched_of_start position stepped)
  · rename_i inside
    split at next
    · cases next
    · rename_i enabled
      obtain ⟨free, owned⟩ := not_or.mp enabled
      obtain ⟨call, stepped, rfl⟩ := Option.map_eq_some_iff.mp next
      exact .locks stepped inside (not_not.mp free) (not_not.mp owned)

theorem systemStep_of_step {action : Action ι} {before after : ActivationSystem ι}
    (next : before.step identity action = some after) :
    SystemStep identity before action after := by
  cases action with
  | call proxy opened status => exact systemStep_stepCall next
  | answer state =>
      simp only [step] at next
      split at next
      · rename_i enabled
        obtain ⟨free, asked, replies⟩ := enabled
        cases next
        exact .answer free asked replies
      · cases next
  | reset =>
      simp only [step] at next
      split at next
      · rename_i enabled
        cases next
        exact .reset enabled.1 enabled.2
      · cases next
  | dispatcherDies =>
      simp only [step] at next
      split at next
      · rename_i free
        cases next
        exact .dispatcherDies free
      · cases next

/-! ## The calls of a system -/

/-- Every call is regular between its critical sections, and a call that has the lock
has returned with it. -/
structure Regular (system : ActivationSystem ι) : Prop where
  sound : ∀ proxy, (system.activation proxy).Sound
  held : ∀ proxy, (system.calls proxy).holdsLock = true → system.owner = some proxy
  returned : ∀ proxy, system.owner = some proxy →
    ∃ result, (system.calls proxy).position = .returned result

omit [DecidableEq ι] in
theorem regular_initial : Regular (initial : ActivationSystem ι) where
  sound := fun _ => Activation.sound_initial _
  held := nofun
  returned := nofun

/-- The regularity of a call does not depend on the segment. -/
private theorem sound_of_same {call : Activation} (sound : call.Sound)
    (shm : ActivationShm) : Activation.Sound { call with shm := shm } :=
  ⟨sound.free, sound.mapped, sound.unposted, sound.posted⟩

/-- One call has moved on. -/
private theorem sound_update {system : ActivationSystem ι} {proxy : ι} {call : Activation}
    (sound : ∀ other, (system.activation other).Sound) (moved : call.Sound)
    (other : ι) (shm : ActivationShm) :
    Activation.Sound {
      toActivationCall := Function.update system.calls proxy call.toActivationCall other
      shm := shm } := by
  by_cases same : other = proxy
  · subst same
    rw [Function.update_self]
    exact sound_of_same moved shm
  · rw [Function.update_of_ne same]
    exact sound_of_same (sound other) shm

theorem Regular.step {action : Action ι} {before after : ActivationSystem ι}
    (regular : Regular before) (next : SystemStep identity before action after) :
    Regular after := by
  cases next with
  | @starts proxy opened status call stepped position untouched =>
      have moved : call.Sound :=
        (regular.sound proxy).step
          (Activation.activationStep_of_step (regular.sound proxy) stepped)
      refine ⟨fun other => sound_update regular.sound moved other _, ?_, ?_⟩
      · intro other holds
        apply regular.held
        by_cases same : other = proxy
        · subst same
          simp only [Function.update_self] at holds
          rw [← untouched.2]
          exact holds
        · simpa only [Function.update_of_ne same] using holds
      · intro other owner
        obtain ⟨result, returned⟩ := regular.returned other owner
        have different : other ≠ proxy := by
          rintro rfl
          rw [position] at returned
          cases returned
        refine ⟨result, ?_⟩
        simpa only [Function.update_of_ne different] using returned
  | @locks proxy opened status call stepped inside free owned =>
      have moved : call.Sound :=
        (regular.sound proxy).step
          (Activation.activationStep_of_step (regular.sound proxy) stepped)
      refine ⟨fun other => sound_update regular.sound moved other _, ?_, ?_⟩
      · intro other holds
        by_cases same : other = proxy
        · subst same
          simp only [Function.update_self] at holds
          simp [holds]
        · simp only [Function.update_of_ne same] at holds
          have owner := regular.held other holds
          rw [free] at owner
          cases owner
      · intro other owner
        cases holds : call.holdsLock with
        | false => simp [holds] at owner
        | true =>
            have same : proxy = other := by simpa [holds] using owner
            subst same
            by_contra running
            simp only [Function.update_self] at running
            have unlocked := (moved.free (not_exists.mp running)).1
            rw [holds] at unlocked
            cases unlocked
  | answer free asked replies =>
      exact ⟨fun proxy => sound_of_same (regular.sound proxy) _, regular.held,
        regular.returned⟩
  | reset free past =>
      exact ⟨fun proxy => sound_of_same (regular.sound proxy) _, regular.held,
        regular.returned⟩
  | dispatcherDies free => exact ⟨regular.sound, regular.held, regular.returned⟩

theorem regular_of_reaches {admissible : ActivationSystem ι → Action ι → Prop}
    {system : ActivationSystem ι}
    (reached : Runs.Reaches (step identity) admissible initial system) :
    Regular system := by
  apply reached.invariant
  · exact regular_initial
  · intro before action after regular _ next
    exact regular.step (systemStep_of_step next)

omit [DecidableEq ι] in
private theorem Regular.unlocked {system : ActivationSystem ι} (regular : Regular system)
    (free : system.owner = none) (proxy : ι) :
    (system.calls proxy).holdsLock = false := by
  by_contra holds
  have owner := regular.held proxy (by simpa using holds)
  rw [free] at owner
  cases owner

/-- What a step of the system is to one call. -/
private theorem activation_step {action : Action ι} {before after : ActivationSystem ι}
    (regular : Regular before) (next : SystemStep identity before action after)
    (proxy : ι) :
    after.activation proxy = before.activation proxy ∨
      ∃ move, (before.activation proxy).move (identity proxy) move =
        some (after.activation proxy) := by
  have writes : before.owner = none → ∀ shm,
      (before.activation proxy).move (identity proxy) (.write shm) =
        some { before.activation proxy with shm := shm } := by
    intro free shm
    have unlocked : (before.activation proxy).holdsLock = false :=
      regular.unlocked free proxy
    simp [Activation.move, unlocked]
  cases next with
  | @starts mover opened status call stepped position untouched =>
      by_cases same : proxy = mover
      · subst same
        refine Or.inr ⟨.thread opened status, stepped.trans ?_⟩
        simp only [activation, Function.update_self]
        rw [← untouched.1]
      · refine Or.inl ?_
        simp only [activation, Function.update_of_ne same]
  | @locks mover opened status call stepped inside free owned =>
      by_cases same : proxy = mover
      · subst same
        refine Or.inr ⟨.thread opened status, stepped.trans ?_⟩
        simp only [activation, Function.update_self]
      · refine Or.inr ⟨.write call.shm, ?_⟩
        rw [writes free]
        simp only [activation, Function.update_of_ne same]
  | answer free asked replies => exact Or.inr ⟨.write _, writes free _⟩
  | reset free past => exact Or.inr ⟨.write _, writes free _⟩
  | dispatcherDies free => exact Or.inl rfl

/-- Each call of a system runs as an activation of its own. -/
theorem activation_reaches {admissible : ActivationSystem ι → Action ι → Prop}
    {system : ActivationSystem ι}
    (reached : Runs.Reaches (step identity) admissible initial system) (proxy : ι) :
    Runs.Reaches (Activation.move (identity proxy)) Runs.unrestricted
      ((initial : ActivationSystem ι).activation proxy) (system.activation proxy) := by
  apply reached.project_of (fun system => system.activation proxy)
    (fun other earlier => regular_of_reaches earlier)
  intro before action after regular _ next
  rcases activation_step regular (systemStep_of_step next) proxy with same | ⟨move, moved⟩
  · exact Or.inl same
  · exact Or.inr ⟨move, trivial, moved⟩

end ActivationSystem

end Sawang
