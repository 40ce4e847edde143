import Mathlib.Data.List.Nodup
import Sawang.Activation.System

/-!
# Requests, answers and activations

The segment holds one request at a time: nobody posts until the dispatcher has answered
it and made the segment idle again, so the requests posted and the answers given pair
up, and each success activates at most one proxy.  No call takes more than nine steps,
whatever the others do meanwhile; a lock that a failed call has kept is lost to all.
-/

namespace Sawang

/-- The steps that a call has before it at most. -/
def ActivationPosition.stepsLeft : ActivationPosition → Nat
  | .start => 9
  | .mapLock => 8
  | .idleWait ttl => ttl.toNat + 3
  | .answerLock => 2
  | .answerWait => 1
  | .returned _ => 0

namespace ActivationPosition

variable {position : ActivationPosition}

theorem stepsLeft_of_seeks (seeks : position.seeks = true) : 2 < position.stepsLeft := by
  cases position with
  | mapLock => decide
  | idleWait ttl => exact Nat.le_add_left 3 ttl.toNat
  | start | answerLock | answerWait | returned => cases seeks

theorem stepsLeft_of_awaits (awaits : position.awaits = true) : 0 < position.stepsLeft := by
  cases position with
  | answerLock | answerWait => decide
  | start | mapLock | idleWait | returned => cases awaits

end ActivationPosition

namespace ActivationStep

variable {self : ProxyIdentity} {status : LockStatus} {before after : Activation}

theorem stepsLeft_lt (step : ActivationStep self before status after) :
    after.position.stepsLeft < before.position.stepsLeft := by
  cases step with
  | unopened position | opened position | answerWaits position =>
      rw [position]
      simp [ActivationPosition.stepsLeft]
  | ownerDied inside =>
      rcases inside with seeks | awaits
      · exact Nat.zero_lt_of_lt (ActivationPosition.stepsLeft_of_seeks seeks)
      · exact ActivationPosition.stepsLeft_of_awaits awaits
  | idleWaits left more busy =>
      rcases left with ⟨position, full⟩ | position
      · rw [position, full]
        simp [ActivationPosition.stepsLeft, activationIdleTtl]
      · rw [position]
        simp only [ActivationPosition.stepsLeft]
        omega
  | busyTimedOut position | busyWoken position =>
      rw [position]
      exact Nat.zero_lt_of_lt (ActivationPosition.stepsLeft_of_seeks rfl)
  | post seeks idle => exact ActivationPosition.stepsLeft_of_seeks seeks
  | refused awaits unsuccessful =>
      rcases awaits with ⟨position, _⟩ | position <;> rw [position] <;>
        simp [ActivationPosition.stepsLeft]
  | succeeded awaits success => exact ActivationPosition.stepsLeft_of_awaits awaits

/-- A call writes the segment to post its request, once, and to acknowledge a
success. -/
theorem writes (sound : before.Sound) (step : ActivationStep self before status after) :
    (after.shm = before.shm ∧ after.posted = before.posted ∧
      after.position ≠ .returned true) ∨
    ((before.shm.state = .idle ∧ before.posted = false) ∧ after.posted = true ∧
      after.shm = { proxyName := self.name, pid := self.pid, state := .request } ∧
      after.position ≠ .returned true) ∨
    (before.shm.state = .success ∧ before.posted = true ∧ after.posted = true ∧
      after.shm = { before.shm with state := .done } ∧ after.position = .returned true) := by
  cases step with
  | post seeks idle =>
      exact Or.inr (Or.inl ⟨⟨idle, sound.unposted (Or.inr seeks)⟩, rfl, rfl, nofun⟩)
  | succeeded awaits success =>
      have posted := sound.posted awaits
      exact Or.inr (Or.inr ⟨success, posted, posted, rfl, rfl⟩)
  | unopened | opened | ownerDied | idleWaits | busyTimedOut | busyWoken | answerWaits
  | refused => exact Or.inl ⟨rfl, rfl, nofun⟩

theorem not_returned (step : ActivationStep self before status after) (result : Bool) :
    before.position ≠ .returned result := by
  intro returned
  have lowered := step.stepsLeft_lt
  rw [returned] at lowered
  exact Nat.not_lt_zero _ lowered

/-- A call that returns with the lock has failed. -/
theorem fails_of_holds (sound : before.Sound) (step : ActivationStep self before status after)
    (holds : after.holdsLock = true) : after.position = .returned false := by
  have free := (sound.free step.not_returned).1
  cases step with
  | ownerDied | busyTimedOut | busyWoken => rfl
  | _ => exact absurd holds (Bool.eq_false_iff.mp free)

end ActivationStep

namespace ActivationSystem

variable {ι : Type}

namespace Action

/-- The dispatcher answers. -/
def answers : Action ι → Bool
  | .answer _ => true
  | _ => false

def answersSuccess : Action ι → Bool
  | .answer .success => true
  | _ => false

def resets : Action ι → Bool
  | .reset => true
  | _ => false

end Action

variable [DecidableEq ι] {identity : ι → ProxyIdentity} {before after : ActivationSystem ι}

/-- A step of a call is an activation step, seen in the segment and in the calls. -/
theorem activationStep_of_call {proxy : ι} {opened : Bool} {status : LockStatus}
    (regular : Regular before)
    (next : SystemStep identity before (.call proxy opened status) after) :
    ∃ call, ActivationStep (identity proxy) (before.activation proxy) status call ∧
      after.shm = call.shm ∧
      after.calls = Function.update before.calls proxy call.toActivationCall ∧
      (after.owner = before.owner ∨
        after.owner = if call.holdsLock then some proxy else none) := by
  cases next with
  | starts stepped position untouched =>
      exact ⟨_, Activation.activationStep_of_step (regular.sound proxy) stepped,
        untouched.1.symm, rfl, Or.inl rfl⟩
  | locks stepped inside free owned =>
      exact ⟨_, Activation.activationStep_of_step (regular.sound proxy) stepped, rfl, rfl,
        Or.inr rfl⟩

/-- Another request is in the way all the time: the call waits five times, posts, waits
for its answer and is activated. -/
private def crowdedRun : List (Action Bool) :=
  [.call false true .ok, .call false true .ok, .call true true .ok, .call true true .ok,
    .call true true .ok, .call true true .ok, .call true true .ok, .call true true .ok,
    .answer .failed, .reset, .call true true .ok, .call true true .ok, .answer .success,
    .call true true .ok]

private theorem trail_crowdedRun : ∃ system : ActivationSystem Bool,
    Runs.Trail (step fun _ => ⟨"sawang", 1⟩) initial crowdedRun.reverse system := by
  have runs : (Runs.execute (step fun _ => ⟨"sawang", 1⟩) Runs.unrestricted crowdedRun
      initial).isSome = true := by decide +kernel
  obtain ⟨system, executed⟩ := Option.isSome_iff_exists.mp runs
  have trail := Runs.trail_of_execute _ .start executed
  rw [List.append_nil] at trail
  exact ⟨system, trail⟩

/-- Who has posted a request, newest first, and who was activated, beside what the
dispatcher has done. -/
structure Accounts (identity : ι → ProxyIdentity) (actions : List (Action ι))
    (system : ActivationSystem ι) (posted activated : List ι) : Prop where
  nodup : posted.Nodup ∧ activated.Nodup
  subset : activated ⊆ posted
  mem_posted : ∀ proxy, proxy ∈ posted ↔ (system.calls proxy).posted = true
  mem_activated : ∀ proxy, proxy ∈ activated ↔
    (system.calls proxy).position = .returned true
  requests : posted.length =
    actions.countP Action.answers + if system.shm.state = .request then 1 else 0
  rounds : actions.countP Action.answers = actions.countP Action.resets +
    if system.shm.state = .idle ∨ system.shm.state = .request then 0 else 1
  successes : actions.countP Action.answersSuccess =
    activated.length + if system.shm.state = .success then 1 else 0
  named : system.shm.state ≠ .idle → posted.head?.map identity = some system.shm.proxy

variable {actions : List (Action ι)} {posted activated : List ι}

private theorem posted_update {calls : ι → ActivationCall} {proxy : ι} {call : ActivationCall}
    (same : call.posted = (calls proxy).posted) (other : ι) :
    (Function.update calls proxy call other).posted = (calls other).posted := by
  by_cases own : other = proxy
  · subst own
    rw [Function.update_self, same]
  · rw [Function.update_of_ne own]

private theorem activated_update {calls : ι → ActivationCall} {proxy : ι}
    {call : ActivationCall} (fresh : (calls proxy).position ≠ .returned true)
    (running : call.position ≠ .returned true) (other : ι) :
    (Function.update calls proxy call other).position = .returned true ↔
      (calls other).position = .returned true := by
  by_cases own : other = proxy
  · subst own
    rw [Function.update_self]
    exact iff_of_false running fresh
  · rw [Function.update_of_ne own]

theorem Accounts.call {proxy : ι} {opened : Bool} {status : LockStatus}
    (accounts : Accounts identity actions before posted activated) (regular : Regular before)
    (next : SystemStep identity before (.call proxy opened status) after) :
    ∃ posted activated,
      Accounts identity (.call proxy opened status :: actions) after posted activated := by
  obtain ⟨call, step, shm, calls, _⟩ := activationStep_of_call regular next
  have fresh : (before.calls proxy).position ≠ .returned true := step.not_returned true
  have requests := accounts.requests
  have rounds := accounts.rounds
  have successes := accounts.successes
  rcases step.writes (regular.sound proxy) with
    ⟨same, kept, running⟩ | ⟨⟨idle, unposted⟩, written, request, running⟩ |
      ⟨success, wasPosted, isPosted, done, returned⟩
  · have unchanged : after.shm = before.shm := shm.trans same
    have kept : call.posted = (before.calls proxy).posted := kept
    refine ⟨posted, activated, accounts.nodup, accounts.subset, ?_, ?_, ?_, ?_, ?_, ?_⟩
    · intro other
      rw [calls, posted_update kept]
      exact accounts.mem_posted other
    · intro other
      rw [calls, activated_update fresh running]
      exact accounts.mem_activated other
    all_goals
      rw [unchanged]
    · exact requests
    · exact rounds
    · exact successes
    · exact accounts.named
  · have idle : before.shm.state = .idle := idle
    have new : proxy ∉ posted := by
      rw [accounts.mem_posted]
      exact Bool.eq_false_iff.mp unposted
    refine ⟨proxy :: posted, activated, ⟨List.nodup_cons.mpr ⟨new, accounts.nodup.1⟩,
      accounts.nodup.2⟩, fun _ member => List.mem_cons_of_mem _ (accounts.subset member),
      ?_, ?_, ?_, ?_, ?_, ?_⟩
    · intro other
      rw [calls, List.mem_cons]
      by_cases own : other = proxy
      · subst own
        rw [Function.update_self]
        exact iff_of_true (Or.inl rfl) written
      · rw [Function.update_of_ne own, or_iff_right own]
        exact accounts.mem_posted other
    · intro other
      rw [calls, activated_update fresh running]
      exact accounts.mem_activated other
    all_goals
      rw [shm, request]
    · simpa [idle, Action.answers, List.countP_cons] using requests
    · simpa [idle, Action.answers, Action.resets, List.countP_cons] using rounds
    · simpa [idle, Action.answersSuccess, List.countP_cons] using successes
    · exact fun _ => rfl
  · have success : before.shm.state = .success := success
    have kept : call.posted = (before.calls proxy).posted := isPosted.trans wasPosted.symm
    have new : proxy ∉ activated := by
      rw [accounts.mem_activated]
      exact fresh
    refine ⟨posted, proxy :: activated, ⟨accounts.nodup.1, List.nodup_cons.mpr ⟨new,
      accounts.nodup.2⟩⟩, List.cons_subset.mpr ⟨(accounts.mem_posted proxy).mpr wasPosted,
      accounts.subset⟩, ?_, ?_, ?_, ?_, ?_, ?_⟩
    · intro other
      rw [calls, posted_update kept]
      exact accounts.mem_posted other
    · intro other
      rw [calls, List.mem_cons]
      by_cases own : other = proxy
      · subst own
        rw [Function.update_self]
        exact iff_of_true (Or.inl rfl) returned
      · rw [Function.update_of_ne own, or_iff_right own]
        exact accounts.mem_activated other
    all_goals
      rw [shm, done]
    · simpa [success, Action.answers, List.countP_cons] using requests
    · simpa [success, Action.answers, Action.resets, List.countP_cons] using rounds
    · simpa [success, Action.answersSuccess, List.countP_cons] using successes
    · exact fun _ => accounts.named (by rw [success]; exact nofun)

theorem Accounts.step {action : Action ι}
    (accounts : Accounts identity actions before posted activated) (regular : Regular before)
    (next : SystemStep identity before action after) :
    ∃ posted activated, Accounts identity (action :: actions) after posted activated := by
  have requests := accounts.requests
  have rounds := accounts.rounds
  have successes := accounts.successes
  cases next with
  | starts stepped position untouched =>
      exact accounts.call regular (.starts stepped position untouched)
  | locks stepped inside free owned =>
      exact accounts.call regular (.locks stepped inside free owned)
  | @answer state free asked replies =>
      simp only [asked] at requests rounds successes
      refine ⟨posted, activated, accounts.nodup, accounts.subset, accounts.mem_posted,
        accounts.mem_activated, ?_, ?_, ?_, ?_⟩
      · rcases replies with rfl | rfl | rfl <;>
          simpa [Action.answers, List.countP_cons] using requests
      · rcases replies with rfl | rfl | rfl <;>
          simpa [Action.answers, Action.resets, List.countP_cons] using rounds
      · rcases replies with rfl | rfl | rfl <;>
          simpa [Action.answersSuccess, List.countP_cons] using successes
      · exact fun _ => accounts.named (by rw [asked]; exact nofun)
  | reset free past =>
      refine ⟨posted, activated, accounts.nodup, accounts.subset, accounts.mem_posted,
        accounts.mem_activated, ?_, ?_, ?_, ?_⟩
      · rcases past with state | state | state <;>
          simpa [state, Action.answers, List.countP_cons] using requests
      · rcases past with state | state | state <;>
          simpa [state, Action.answers, Action.resets, List.countP_cons] using rounds
      · rcases past with state | state | state <;>
          simpa [state, Action.answersSuccess, List.countP_cons] using successes
      · exact fun busy => absurd rfl busy
  | dispatcherDies free =>
      exact ⟨posted, activated, accounts.nodup, accounts.subset, accounts.mem_posted,
        accounts.mem_activated, requests, rounds, successes, accounts.named⟩

/-- No request is overwritten and no answer is given twice: as many requests were posted
as answered, but for the one that stands, and the segment names the proxy that posted
last.  Each success activates one proxy, but for one that nobody has read. -/
theorem requests_accounted {system : ActivationSystem ι}
    (trail : Runs.Trail (step identity) initial actions system) :
    ∃ posted activated, Accounts identity actions system posted activated := by
  induction trail with
  | start =>
      refine ⟨[], [], ⟨.nil, .nil⟩, List.Subset.refl _, ?_, ?_, rfl, rfl, rfl, ?_⟩
      · exact fun _ => iff_of_false List.not_mem_nil nofun
      · exact fun _ => iff_of_false List.not_mem_nil nofun
      · exact fun busy => absurd rfl busy
  | step earlier next inductionHypothesis =>
      obtain ⟨posted, activated, accounts⟩ := inductionHypothesis
      exact accounts.step (regular_of_reaches earlier.reaches) (systemStep_of_step next)

theorem requests_accounted_crowded :
    ∃ (system : ActivationSystem Bool) (posted activated : List Bool),
      Accounts (fun _ => ⟨"sawang", 1⟩) crowdedRun.reverse system posted activated := by
  obtain ⟨system, trail⟩ := trail_crowdedRun
  exact ⟨system, requests_accounted trail⟩

end ActivationSystem

end Sawang
