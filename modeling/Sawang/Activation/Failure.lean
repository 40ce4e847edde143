import Sawang.Activation.Step

/-!
# What a failed activation leaves behind

A call of `proxy_activate` that fails is to give the lock up before it unmaps the
segment, and to leave no request of its own.  The exits after a refusal do; the exits
of a busy segment do not, and neither does the end of the wait for an answer when no
answer has come.
-/

namespace Sawang

namespace Activation

/-- No wait or lock reports a dead owner. -/
def OwnerAlive (_ : Activation) : Move → Prop
  | .thread _ status => status ≠ .ownerDead
  | .write _ => True

instance (call : Activation) : (action : Move) → Decidable (call.OwnerAlive action)
  | .thread _ _ => inferInstanceAs (Decidable (¬_))
  | .write _ => inferInstanceAs (Decidable True)

/-- The call is without the lock, has not touched the segment behind `munmap`, and
its request does not stand in the segment. -/
def Withdrawn (self : ProxyIdentity) (call : Activation) : Prop :=
  call.holdsLock = false ∧ call.strayed = false ∧ ¬call.CarriesRequest self

/-- The call is not in the wait for `ACTIVATION_IDLE`, and if it is in the wait for
the answer, its request has been taken out of the segment. -/
def Answered (self : ProxyIdentity) (call : Activation) : Prop :=
  match call.position with
  | .idleWait _ => False
  | .answerWait => ¬call.CarriesRequest self
  | _ => True

variable {self : ProxyIdentity} {before after : Activation} {opened : Bool}
  {status : LockStatus}

/-- A failed call has withdrawn exactly if it did not give up on a busy segment or on
an unanswered request. -/
theorem failure_withdrawn_iff {shm : ActivationShm}
    (reached : Runs.Reaches (move self) OwnerAlive (initial shm) before)
    (alive : status ≠ .ownerDead)
    (next : before.step self opened status = some after)
    (failed : after.position = .returned false) :
    after.Withdrawn self ↔ before.Answered self := by
  have sound := sound_of_reaches reached
  cases activationStep_of_step sound next with
  | unopened position =>
      obtain ⟨free, clean⟩ := sound.free (by simp [position])
      have unposted := sound.unposted (Or.inl position)
      refine iff_of_true ⟨free, clean, ?_⟩ (by simp [Answered, position])
      rintro ⟨posted, _⟩
      change before.posted = true at posted
      rw [unposted] at posted
      cases posted
  | ownerDied inside => exact absurd rfl alive
  | busyTimedOut position last =>
      refine iff_of_false ?_ (by simp [Answered, position])
      rintro ⟨free, _⟩
      cases free
  | busyWoken position last busy =>
      refine iff_of_false ?_ (by simp [Answered, position])
      rintro ⟨free, _⟩
      cases free
  | refused awaits unsuccessful =>
      rcases awaits with ⟨position, answered⟩ | position
      · obtain ⟨free, clean⟩ := sound.free (by simp [position])
        refine iff_of_true ⟨free, clean, ?_⟩ (by simp [Answered, position])
        rintro ⟨_, unanswered, _⟩
        exact answered unanswered
      · obtain ⟨free, clean⟩ := sound.free (by simp [position])
        simp only [Answered, position]
        constructor
        · rintro ⟨_, _, withdrawn⟩ carries
          exact withdrawn carries
        · intro answered
          exact ⟨free, clean, answered⟩
  | opened | idleWaits | post | answerWaits | succeeded => cases failed

/-- A call that reads `ACTIVATION_FAILED` has withdrawn. -/
theorem failure_withdrawn_iff_refused :
    ∃ before after : Activation,
      before.step ⟨"proxy", 1⟩ true .ok = some after ∧
      after.position = .returned false ∧ after.Withdrawn ⟨"proxy", 1⟩ := by
  obtain ⟨before, reached, tested⟩ :=
    Runs.reaches_of_execute_test (move ⟨"proxy", 1⟩) OwnerAlive
      [.thread true .ok, .thread true .ok, .write ⟨"proxy", 1, .failed⟩]
      (initial ⟨"", 0, .idle⟩)
      (fun call => decide (call.position = .answerLock ∧
        (call.step ⟨"proxy", 1⟩ true .ok).map (fun after => after.position) =
          some (.returned false)))
      (by decide +kernel)
  obtain ⟨position, ends⟩ := of_decide_eq_true tested
  obtain ⟨after, next, failed⟩ := Option.map_eq_some_iff.mp ends
  have answered : before.Answered ⟨"proxy", 1⟩ := by
    simp only [Answered, position]
  exact ⟨before, after, next, failed,
    (failure_withdrawn_iff reached (by decide) next failed).mpr answered⟩

/-- Nobody answers for ten seconds: the request stays.  The segment is busy with
another proxy's request: the lock stays, after five timeouts as well as after five
wake-ups, and then the lock is looked for behind `munmap`. -/
theorem failure_not_withdrawn :
    (∃ call, Runs.Reaches (move ⟨"proxy", 1⟩) OwnerAlive (initial ⟨"", 0, .idle⟩) call ∧
      call.position = .returned false ∧ call.CarriesRequest ⟨"proxy", 1⟩) ∧
    (∃ call, Runs.Reaches (move ⟨"proxy", 1⟩) OwnerAlive
        (initial ⟨"other", 2, .request⟩) call ∧
      call.position = .returned false ∧ call.holdsLock = true) ∧
    ∃ call, Runs.Reaches (move ⟨"proxy", 1⟩) OwnerAlive
        (initial ⟨"other", 2, .request⟩) call ∧
      call.position = .returned false ∧ call.holdsLock = true ∧ call.strayed = true := by
  refine ⟨?_, ?_, ?_⟩
  · obtain ⟨call, reached, tested⟩ :=
      Runs.reaches_of_execute_test (move ⟨"proxy", 1⟩) OwnerAlive
        [.thread true .ok, .thread true .ok, .thread true .ok, .thread true .timedOut]
        (initial ⟨"", 0, .idle⟩)
        (fun call => decide (call.position = .returned false ∧
          call.CarriesRequest ⟨"proxy", 1⟩))
        (by decide +kernel)
    exact ⟨call, reached, of_decide_eq_true tested⟩
  · obtain ⟨call, reached, tested⟩ :=
      Runs.reaches_of_execute_test (move ⟨"proxy", 1⟩) OwnerAlive
        ([.thread true .ok, .thread true .ok] ++
          List.replicate 5 (.thread true .timedOut))
        (initial ⟨"other", 2, .request⟩)
        (fun call => decide (call.position = .returned false ∧ call.holdsLock = true))
        (by decide +kernel)
    exact ⟨call, reached, of_decide_eq_true tested⟩
  · obtain ⟨call, reached, tested⟩ :=
      Runs.reaches_of_execute_test (move ⟨"proxy", 1⟩) OwnerAlive
        (List.replicate 7 (.thread true .ok))
        (initial ⟨"other", 2, .request⟩)
        (fun call => decide (call.position = .returned false ∧ call.holdsLock = true ∧
          call.strayed = true))
        (by decide +kernel)
    exact ⟨call, reached, of_decide_eq_true tested⟩

end Activation

end Sawang
