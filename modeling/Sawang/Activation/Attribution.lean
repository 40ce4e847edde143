import Mathlib.Data.Fintype.Basic
import Sawang.Activation.System

/-!
# Whose activation was it

All calls on one segment read the same state word.  A call that finds
`ACTIVATION_SUCCESS` takes it for the answer to its own request; that it is one
depends on who else was waiting when the dispatcher wrote it.
-/

namespace Sawang

namespace ActivationSystem

variable {ι : Type} {identity : ι → ProxyIdentity}

/-- Whoever has posted a request and not read an answer is the proxy that the segment
names. -/
def Undisputed (identity : ι → ProxyIdentity) (system : ActivationSystem ι) : Prop :=
  ∀ proxy, (system.calls proxy).position.awaits = true →
    identity proxy = system.shm.proxy

/-- `ACTIVATION_SUCCESS` is written while no other proxy waits for an answer. -/
def Attributable (identity : ι → ProxyIdentity) (system : ActivationSystem ι) :
    Action ι → Prop
  | .answer .success => system.Undisputed identity
  | _ => True

instance [Fintype ι] (system : ActivationSystem ι) :
    Decidable (system.Undisputed identity) :=
  inferInstanceAs (Decidable (∀ _ : ι, _ → _))

instance [Fintype ι] (system : ActivationSystem ι) :
    (action : Action ι) → Decidable (Attributable identity system action)
  | .answer .success => inferInstanceAs (Decidable (system.Undisputed identity))
  | .answer .init | .answer .idle | .answer .request | .answer .proxyDying
  | .answer .failed | .answer .done | .answer .termination
  | .call .. | .reset | .dispatcherDies => inferInstanceAs (Decidable True)

/-- A success answers everyone who may still read it. -/
def Attributed (identity : ι → ProxyIdentity) (system : ActivationSystem ι) : Prop :=
  system.shm.state = .success →
    ∀ proxy, (system.calls proxy).position.awaits = true →
      system.answered = some (identity proxy)

variable [DecidableEq ι]

/-! ## While a success stands -/

/-- A step of a call that leaves `ACTIVATION_SUCCESS` in the segment has not written
the segment, and the call has posted nothing. -/
private theorem success_of_step {self : ProxyIdentity} {status : LockStatus}
    {before after : Activation} (step : ActivationStep self before status after)
    (success : after.shm.state = .success) :
    before.shm.state = .success ∧
      (after.position.awaits = true → before.position.awaits = true) := by
  cases step with
  | post seeks idle => cases success
  | succeeded awaits read => cases success
  | answerWaits position unanswered =>
      change before.shm.state = .success at success
      rw [unanswered] at success
      cases success
  | unopened | opened | ownerDied | idleWaits | busyTimedOut | busyWoken | refused =>
      exact ⟨success, nofun⟩

/-- One call has moved on. -/
private theorem attributed_call {system : ActivationSystem ι} {proxy : ι}
    {status : LockStatus} {call : Activation} (kept : Attributed identity system)
    (step : ActivationStep (identity proxy) (system.activation proxy) status call)
    (success : call.shm.state = .success) (other : ι)
    (awaits : (Function.update system.calls proxy call.toActivationCall
      other).position.awaits = true) :
    system.answered = some (identity other) := by
  obtain ⟨read, waited⟩ := success_of_step step success
  apply kept read
  by_cases same : other = proxy
  · subst same
    rw [Function.update_self] at awaits
    exact waited awaits
  · rw [Function.update_of_ne same] at awaits
    exact awaits

private theorem attributed_step {action : Action ι} {before after : ActivationSystem ι}
    (regular : Regular before) (kept : Attributed identity before)
    (attributable : before.Attributable identity action)
    (next : SystemStep identity before action after) : Attributed identity after := by
  intro success other awaits
  cases next with
  | @starts proxy opened status call stepped position untouched =>
      have step := Activation.activationStep_of_step (regular.sound proxy) stepped
      rw [← untouched.1] at success
      exact attributed_call kept step success other awaits
  | @locks proxy opened status call stepped inside free owned =>
      have step := Activation.activationStep_of_step (regular.sound proxy) stepped
      exact attributed_call kept step success other awaits
  | @answer state free asked replies =>
      change state = .success at success
      subst success
      have named := attributable other awaits
      simp [named]
  | reset free past => cases success
  | dispatcherDies free => exact kept success other awaits

theorem attributed_of_reaches {system : ActivationSystem ι}
    (reached : Runs.Reaches (step identity) (Attributable identity) initial system) :
    Attributed identity system := by
  apply reached.invariant_of (fun other earlier => regular_of_reaches earlier)
  · exact nofun
  · intro before action after regular kept attributable next
    exact attributed_step regular kept attributable (systemStep_of_step next)

/-! ## Who reads a success -/

/-- A call returns `true` where it has read `ACTIVATION_SUCCESS`. -/
private theorem success_of_returned {proxy : ι} {opened : Bool} {status : LockStatus}
    {before after : ActivationSystem ι} (regular : Regular before)
    (next : before.step identity (.call proxy opened status) = some after)
    (returned : (after.calls proxy).position = .returned true) :
    before.shm.state = .success ∧ (before.calls proxy).position.awaits = true := by
  have read : ∀ call : Activation,
      (before.activation proxy).step (identity proxy) opened status = some call →
      call.position = .returned true →
      before.shm.state = .success ∧ (before.calls proxy).position.awaits = true := by
    intro call stepped ends
    cases Activation.activationStep_of_step (regular.sound proxy) stepped with
    | succeeded awaits success => exact ⟨success, awaits⟩
    | unopened | opened | ownerDied | idleWaits | busyTimedOut | busyWoken | post
    | answerWaits | refused => cases ends
  cases systemStep_of_step next with
  | @starts _ _ _ call stepped position untouched =>
      simp only [Function.update_self] at returned
      exact read call stepped returned
  | @locks _ _ _ call stepped inside free owned =>
      simp only [Function.update_self] at returned
      exact read call stepped returned

/-- A waiting call that finds the lock free and `ACTIVATION_SUCCESS` returns `true`. -/
private theorem returns_of_awaits {proxy : ι} {system : ActivationSystem ι}
    (awaits : (system.calls proxy).position.awaits = true)
    (success : system.shm.state = .success) (free : system.owner = none)
    (alive : system.ownerDead = false) :
    ∃ after, system.step identity (.call proxy true .ok) = some after ∧
      (after.calls proxy).position = .returned true := by
  obtain ⟨call, stepped, returned⟩ : ∃ call,
      (system.activation proxy).step (identity proxy) true .ok = some call ∧
        call.position = .returned true :=
    Activation.step_of_success awaits success
  have inside : (system.calls proxy).position ≠ .start := by
    intro position
    rw [position] at awaits
    cases awaits
  simp only [step]
  unfold stepCall
  split
  · rename_i position
    exact absurd position inside
  · rw [if_neg (by simp [free, alive]), stepped]
    refine ⟨_, rfl, ?_⟩
    simp only [Function.update_self]
    exact returned

/-- A written success is there for whoever takes the lock next. -/
private theorem success_of_answer {system after : ActivationSystem ι}
    (answers : system.step identity (.answer .success) = some after) :
    (after.calls = system.calls ∧ after.answered = some system.shm.proxy) ∧
      after.shm.state = .success ∧ after.owner = none ∧ after.ownerDead = false := by
  cases systemStep_of_step answers with
  | answer free asked replies => exact ⟨⟨rfl, rfl⟩, rfl, free, rfl⟩

/-- While `ACTIVATION_SUCCESS` is written only when no other proxy waits for an answer,
a call returns `true` for the answer to its own request.  A success written while
another proxy waits can be read by that proxy. -/
theorem success_attributed {system : ActivationSystem ι}
    (reached : Runs.Reaches (step identity) (Attributable identity) initial system) :
    (∀ proxy opened status after,
      system.step identity (.call proxy opened status) = some after →
      (after.calls proxy).position = .returned true →
      system.shm.state = .success ∧ system.answered = some (identity proxy)) ∧
    ∀ after, system.step identity (.answer .success) = some after →
      (system.Undisputed identity ↔ ∀ proxy opened status later,
        after.step identity (.call proxy opened status) = some later →
        (later.calls proxy).position = .returned true →
        after.answered = some (identity proxy)) := by
  have regular := regular_of_reaches reached
  have kept := attributed_of_reaches reached
  constructor
  · intro proxy opened status after next returned
    obtain ⟨success, awaits⟩ := success_of_returned regular next returned
    exact ⟨success, kept success proxy awaits⟩
  · intro after answers
    have answered := systemStep_of_step answers
    constructor
    · intro undisputed proxy opened status later next returned
      have allowed : system.Attributable identity (.answer .success) := undisputed
      have own := attributed_step regular kept allowed answered
      obtain ⟨success, awaits⟩ := success_of_returned (regular.step answered) next returned
      exact own success proxy awaits
    · intro attributed proxy awaits
      obtain ⟨⟨calls, answered⟩, success, free, alive⟩ := success_of_answer answers
      rw [← calls] at awaits
      obtain ⟨later, next, returned⟩ := returns_of_awaits awaits success free alive
      have own := attributed proxy true .ok later next returned
      rw [answered] at own
      exact (Option.some.inj own).symm

/-- Two proxies for concrete runs. -/
def twoProxies : Bool → ProxyIdentity
  | true => ⟨"first", 1⟩
  | false => ⟨"second", 2⟩

/-- The first proxy posts and is answered before the second one comes. -/
theorem success_attributed_first :
    ∃ system after : ActivationSystem Bool,
      system.step twoProxies (.call true true .ok) = some after ∧
      (after.calls true).position = .returned true ∧
      system.answered = some ⟨"first", 1⟩ := by
  obtain ⟨system, reached, tested⟩ :=
    Runs.reaches_of_execute_test (step twoProxies) (Attributable twoProxies)
      [.call true true .ok, .call true true .ok, .answer .success]
      initial
      (fun system => decide ((system.step twoProxies (.call true true .ok)).map
        (fun after => (after.calls true).position) = some (.returned true)))
      (by decide +kernel)
  obtain ⟨after, next, returned⟩ :=
    Option.map_eq_some_iff.mp (of_decide_eq_true tested)
  obtain ⟨_, own⟩ := (success_attributed reached).1 true true .ok after next returned
  exact ⟨system, after, next, returned, own⟩

/-- The first proxy's request is refused and the segment made idle before that proxy
looks; the second proxy posts and is activated, and the first one reads it. -/
theorem success_not_attributed :
    ∃ system after : ActivationSystem Bool,
      Runs.Reaches (step twoProxies) Runs.unrestricted initial system ∧
      system.step twoProxies (.call true true .ok) = some after ∧
      (after.calls true).position = .returned true ∧
      system.answered = some ⟨"second", 2⟩ := by
  obtain ⟨system, reached, tested⟩ :=
    Runs.reaches_of_execute_test (step twoProxies) Runs.unrestricted
      [.call true true .ok, .call true true .ok, .answer .failed, .reset,
        .call false true .ok, .call false true .ok, .answer .success]
      initial
      (fun system => decide (system.answered = some ⟨"second", 2⟩ ∧
        (system.step twoProxies (.call true true .ok)).map
          (fun after => (after.calls true).position) = some (.returned true)))
      (by decide +kernel)
  obtain ⟨answered, ends⟩ := of_decide_eq_true tested
  obtain ⟨after, next, returned⟩ := Option.map_eq_some_iff.mp ends
  exact ⟨system, after, reached, next, returned, answered⟩

end ActivationSystem

end Sawang
