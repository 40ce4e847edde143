import Sawang.Foundation.LockedObject

/-!
# The queues, statement by statement

Every function of the reply queue and of the parse queue takes the queue's lock for its
library calls.  `reply_queue_push_head` makes one such call for every reply that it puts
back, and still no reply gets in between.
-/

namespace Sawang

inductive QueueCall (α : Type) where
  /-- `reply_queue_append` and `parse_queue_append`, once the task is built. -/
  | append (task : α)
  | popHead
  /-- `reply_queue_push_head`. -/
  | pushHead (src : List α)

namespace GQueue

variable {α : Type}

/-- The loop of `reply_queue_push_head` over what `g_queue_pop_tail` takes from the
source, last element first. -/
def pushHeadStatements : List α → Statements (List α) (Option α)
  | [] => .result none
  | task :: rest => .write (task :: ·) (pushHeadStatements rest)

def statements : QueueCall α → Statements (List α) (Option α)
  | .append task => .write (· ++ [task]) (.result none)
  | .popHead => .statement List.tail fun queue => .result queue.head?
  | .pushHead src => pushHeadStatements src.reverse

/-- The queue after an operation, and the task taken from it. -/
def operation : QueueCall α → List α → Option α × List α
  | .append task, queue => (none, queue ++ [task])
  | .popHead, queue => (queue.head?, queue.tail)
  | .pushHead src, queue => (none, src ++ queue)

theorem run_pushHeadStatements (tasks queue : List α) :
    (pushHeadStatements tasks).run queue = (none, tasks.reverse ++ queue) := by
  induction tasks generalizing queue with
  | nil => rfl
  | cons task rest inductionHypothesis =>
      simp only [pushHeadStatements, Statements.run_write, inductionHypothesis,
        List.reverse_cons, List.append_assoc, List.cons_append, List.nil_append]

theorem implements_statements :
    Implements (statements : QueueCall α → Statements (List α) (Option α)) operation id := by
  intro call queue
  cases call with
  | append task => rfl
  | popHead => rfl
  | pushHead src =>
      simp only [statements, run_pushHeadStatements, List.reverse_reverse, operation, id]

end GQueue

/-- The threads see what they would see if each call put its tasks into the queue, or took
one, in one step between its call and its return. -/
def SeesQueue {ι α : Type} [DecidableEq ι]
    (object : LockedObject ι (QueueCall α) (Option α) (List α)) : Prop :=
  ∃ atomic : AtomicObject ι (QueueCall α) (Option α) (List α),
    Runs.Reaches (AtomicObject.step GQueue.operation) Runs.unrestricted
      (AtomicObject.initial []) atomic ∧
    atomic.events.filter ObjectEvent.visible = object.events ∧
    Performs GQueue.operation [] atomic.performed atomic.shared ∧
    (object.owner = none → object.shared = atomic.shared)

/-- However the statements of any number of threads interleave, the queues are
linearizable: replies put back together stay together. -/
theorem queue_linearizable {ι α : Type} [DecidableEq ι]
    {object : LockedObject ι (QueueCall α) (Option α) (List α)}
    (reached : Runs.Reaches (LockedObject.step GQueue.statements) Runs.unrestricted
      (LockedObject.initial []) object) : SeesQueue object := by
  obtain ⟨atomic, run, events, free⟩ :=
    LockedObject.linearizable GQueue.implements_statements reached
  exact ⟨atomic, run, events, AtomicObject.performs_of_reaches run, free⟩

/-- One reply of two is put back in front of an appended one while the next call waits. -/
theorem queue_linearizable_inside :
    ∃ object : LockedObject Bool (QueueCall Nat) (Option Nat) (List Nat),
      object.shared = [2, 3] ∧ object.events.length = 4 ∧ SeesQueue object := by
  obtain ⟨object, reached, tested⟩ :=
    Runs.reaches_of_execute_test (LockedObject.step GQueue.statements) Runs.unrestricted
      ([.call true (.append 3)] ++ List.replicate 4 (.proceed true) ++
        [.call false (.pushHead [1, 2]), .call true .popHead, .proceed false, .proceed false])
      (LockedObject.initial [])
      (fun object : LockedObject Bool (QueueCall Nat) (Option Nat) (List Nat) =>
        decide (object.shared = [2, 3] ∧ object.events.length = 4))
      (by decide)
  obtain ⟨half, called⟩ := of_decide_eq_true tested
  exact ⟨object, half, called, queue_linearizable reached⟩

end Sawang
