import Sawang.Delivery.Step
import Sawang.Foundation.History

/-!
# The subscribe thread and its termination request

`proxy_subscribe_stop` stores `SUBSCRIBE_TERMINATION` in the segment.  The
subscribe thread looks at the state only at its loop head and after a wait, and
it resets the segment without the segment's lock, so the request survives only
where the thread has no write left before it looks again.
-/

namespace Sawang

open History

namespace Delivery

/-- Since the termination request was stored, the thread has not reset the
segment and has not begun an exchange. -/
def TerminationKept (delivery : Delivery) : Prop :=
  ¬Follows delivery.traffic .wroteIdle .terminationStored ∧
    ¬Follows delivery.traffic .wroteAnswer .terminationStored

/-- The thread has popped a reply and is about to lock the segment. -/
def carriesReply (delivery : Delivery) : Bool :=
  match delivery.position with
  | .shmLock _ => true
  | _ => false

/-- Moves after which a stored termination request is seen.  The request does
not meet the thread on its way to a reset; once it is stored, the thread takes a
popped reply to the segment only to find the owner of its lock dead, and the
dispatcher does not overwrite the state. -/
def KeepsTermination (delivery : Delivery) : Move → Prop
  | .stopSegment => delivery.position ≠ .idle ∧ delivery.position ≠ .idleAgain
  | .thread _ =>
      .terminationStored ∈ delivery.traffic → delivery.carriesReply = true →
        delivery.ownerDead = true
  | .dispatcher state _ =>
      .terminationStored ∈ delivery.traffic → state = .termination
  | _ => True

/-- The thread will see the stored request before it writes the segment. -/
structure SeesTermination (delivery : Delivery) : Prop where
  state : delivery.state = .termination
  notIdle : delivery.position ≠ .idle
  notIdleAgain : delivery.position ≠ .idleAgain
  woken : ∀ task, delivery.position = .answerWait task → delivery.proxyWakeup = true

instance (delivery : Delivery) :
    (action : Move) → Decidable (delivery.KeepsTermination action)
  | .stopSegment => inferInstanceAs (Decidable (_ ∧ _))
  | .thread _ => inferInstanceAs (Decidable (_ → _ → _))
  | .dispatcher _ _ => inferInstanceAs (Decidable (_ → _))
  | .append _ | .awake | .stopThread | .ownerDies | .spuriousAnswer | .spuriousWait =>
      inferInstanceAs (Decidable True)

structure Terminating (delivery : Delivery) : Prop where
  sees : .terminationStored ∈ delivery.traffic → delivery.SeesTermination
  kept : delivery.TerminationKept

/-- Before the request is stored there is nothing to keep. -/
private theorem terminating_of_absent {delivery : Delivery}
    (absent : .terminationStored ∉ delivery.traffic) : delivery.Terminating where
  sees := fun stored => absurd stored absent
  kept := ⟨fun follows => absent follows.mem_right,
    fun follows => absent follows.mem_right⟩

/-- An event that is neither a reset nor an answer keeps the request. -/
private theorem kept_cons {traffic : List SubscribeEvent} {event write : SubscribeEvent}
    (other : event ≠ write)
    (kept : ¬Follows traffic write .terminationStored) :
    ¬Follows (event :: traffic) write .terminationStored := by
  intro follows
  rcases follows_cons_iff.mp follows with ⟨same, _⟩ | before
  · exact other same
  · exact kept before

private theorem kept_discards {traffic : List SubscribeEvent} {write : SubscribeEvent}
    (tasks : List QueuedReply) (other : ∀ task, .discarded task ≠ write)
    (kept : ¬Follows traffic write .terminationStored) :
    ¬Follows (tasks.map .discarded ++ traffic) write .terminationStored := by
  induction tasks with
  | nil => exact kept
  | cons task tasks inductionHypothesis =>
      exact kept_cons (other task) inductionHypothesis

/-- The step rule once the request is stored. -/
private theorem terminating_step_stored {before after : Delivery} {action : Move}
    (stored : .terminationStored ∈ before.traffic)
    (terminating : before.Terminating) (keeps : before.KeepsTermination action)
    (step : DeliveryStep before action after) : after.Terminating := by
  have kept := terminating.kept
  obtain ⟨state, notIdle, notIdleAgain, woken⟩ := terminating.sees stored
  cases step with
  | locked position =>
      exact ⟨fun _ => ⟨state, by simp, by simp, by simp⟩, kept⟩
  | enter position alive running live => exact absurd state live
  | finish position past =>
      refine ⟨fun _ => ⟨state, by simp, by simp, by simp⟩, ?_, ?_⟩
      · exact kept_discards _ (by simp) kept.1
      · exact kept_discards _ (by simp) kept.2
  | startPass position => exact absurd position notIdle
  | empty position queue =>
      exact ⟨fun _ => ⟨state, by simp, by simp, by simp⟩, kept⟩
  | take position queue =>
      exact ⟨fun _ => ⟨state, by simp, by simp, by simp⟩, kept⟩
  | abandon position =>
      refine ⟨fun _ => ⟨state, by simp, by simp, by simp⟩, ?_, ?_⟩
      · exact kept_cons (by simp) kept.1
      · exact kept_cons (by simp) kept.2
  | exchange position owned =>
      have dead := keeps stored (by simp [carriesReply, position])
      rw [owned] at dead
      cases dead
  | unsent position owned =>
      have dead := keeps stored (by simp [carriesReply, position])
      rw [owned] at dead
      cases dead
  | deliver position woken done =>
      rw [state] at done
      cases done
  | fail position woken live undone => exact absurd state live
  | reset position => exact absurd position notIdleAgain
  | pushBack position =>
      exact ⟨fun _ => ⟨state, by simp, by simp, by simp⟩, kept⟩
  | park position alive =>
      exact ⟨fun _ => ⟨state, by simp, by simp, by simp⟩, kept⟩
  | leave position dead =>
      exact ⟨fun _ => ⟨state, by simp, by simp, by simp⟩, kept⟩
  | unpark position woken =>
      exact ⟨fun _ => ⟨state, by simp, by simp, by simp⟩, kept⟩
  | stopSegment =>
      refine ⟨fun _ => ⟨rfl, notIdle, notIdleAgain, fun _ _ => rfl⟩, ?_, ?_⟩
      · exact kept_cons (by simp) kept.1
      · exact kept_cons (by simp) kept.2
  | dispatcher =>
      refine ⟨fun _ => ⟨keeps stored, notIdle, notIdleAgain, ?_⟩, kept⟩
      intro task waits
      simp [woken task waits]
  | spuriousAnswer =>
      exact ⟨fun _ => ⟨state, notIdle, notIdleAgain, fun _ _ => rfl⟩, kept⟩
  | append ticket =>
      exact ⟨fun _ => ⟨state, notIdle, notIdleAgain, woken⟩, kept⟩
  | awake free => exact ⟨fun _ => ⟨state, notIdle, notIdleAgain, woken⟩, kept⟩
  | stopThread free => exact ⟨fun _ => ⟨state, notIdle, notIdleAgain, woken⟩, kept⟩
  | ownerDies => exact ⟨fun _ => ⟨state, notIdle, notIdleAgain, woken⟩, kept⟩
  | spuriousWait => exact ⟨fun _ => ⟨state, notIdle, notIdleAgain, woken⟩, kept⟩

theorem terminating_step {before after : Delivery} {action : Move}
    (terminating : before.Terminating) (keeps : before.KeepsTermination action)
    (step : DeliveryStep before action after) : after.Terminating := by
  by_cases stored : .terminationStored ∈ before.traffic
  · exact terminating_step_stored stored terminating keeps step
  cases step with
  | stopSegment =>
      have unseen : ∀ write : SubscribeEvent,
          ¬Follows before.traffic write .terminationStored :=
        fun write follows => stored follows.mem_right
      obtain ⟨notIdle, notIdleAgain⟩ := keeps
      refine ⟨fun _ => ⟨rfl, notIdle, notIdleAgain, fun _ _ => rfl⟩, ?_, ?_⟩
      · exact kept_cons (by simp) (unseen _)
      · exact kept_cons (by simp) (unseen _)
  | _ => exact terminating_of_absent (by simpa using stored)

/-- Under the discipline a stored termination request is never overwritten and
no exchange follows it. -/
theorem termination_kept {delivery : Delivery}
    (reached : Runs.Reaches move KeepsTermination initial delivery) :
    delivery.TerminationKept := by
  have terminating : delivery.Terminating :=
    reached.invariant (terminating_of_absent (by simp [initial]))
      fun _ _ _ terminating keeps moved =>
        terminating_step terminating keeps (deliveryStep_of_move moved)
  exact terminating.kept

/-- A stop that meets the thread parked: the thread ends and the request stays. -/
theorem termination_kept_parked :
    ∃ delivery : Delivery,
      (delivery.position = .finished ∧ .terminationStored ∈ delivery.traffic) ∧
        delivery.TerminationKept := by
  obtain ⟨delivery, reached, tested⟩ :=
    Runs.reaches_of_execute_test move KeepsTermination
      (List.replicate 6 (.thread true) ++
        [.stopSegment, .stopThread, .thread true, .thread true])
      initial
      (fun delivery => decide (delivery.position = .finished ∧
        .terminationStored ∈ delivery.traffic))
      (by decide)
  exact ⟨delivery, of_decide_eq_true tested, termination_kept reached⟩

/-- A stop that meets the thread between its loop head and its reset is lost. -/
theorem termination_not_kept :
    ¬∀ delivery, Runs.Reaches move Runs.unrestricted initial delivery →
      delivery.TerminationKept := by
  intro always
  obtain ⟨delivery, reached, tested⟩ :=
    Runs.reaches_of_execute_test move Runs.unrestricted
      [.thread true, .thread true, .stopSegment, .thread true] initial
      (fun delivery => decide (
        delivery.traffic = [.wroteIdle, .passStarted, .terminationStored]))
      (by decide)
  have traffic : delivery.traffic = [.wroteIdle, .passStarted, .terminationStored] :=
    of_decide_eq_true tested
  apply (always delivery reached).1
  rw [traffic]
  exact follows_head (by simp)

end Delivery

end Sawang
