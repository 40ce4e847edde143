import Sawang.Board.Awakes
import Sawang.Board.Ledger

/-!
# Requests are served in order

The comm thread takes the tasks in the order they were queued, and they are queued in
the order in which the dispatcher confirmed the requests.
-/

namespace Sawang

open Board

namespace Event

def enqueuedTask : Event → Option ParseQueueTask
  | .enqueued task => some task
  | _ => none

def dequeuedTask : Event → Option ParseQueueTask
  | .dequeued task => some task
  | _ => none

def ranTask : Event → Option ParseQueueTask
  | .ran task _ => some task
  | _ => none

end Event

/-- The request whose task the statement may still queue. -/
def ChannelOp.queues : ChannelOp → Option String
  | .createUnsubscribeTaskKey _ _ rid | .respondTableSet _ _ rid => some rid
  | .parseQueueAppend task => some task.rid
  | _ => none

/-- A task that is not an unsubscription is handed to the application. -/
def ParseQueueTask.runs (task : ParseQueueTask) : Bool := task.unsubscribeTaskKey.isNone

/-- The task the statement will hand to the application. -/
def CommOp.runs : CommOp → Option ParseQueueTask
  | .run task => some task
  | _ => none

namespace Board

/-! The lists are newest first, like the history. -/

def enqueuedTasks (board : Board) : List ParseQueueTask :=
  board.history.filterMap Event.enqueuedTask

def dequeuedTasks (board : Board) : List ParseQueueTask :=
  board.history.filterMap Event.dequeuedTask

def ranTasks (board : Board) : List ParseQueueTask :=
  board.history.filterMap Event.ranTask

/-- Tasks queued in the order of the confirmations, taken in the order of the queue and
run in the order taken. -/
structure Ordered (board : Board) : Prop where
  enqueued : (board.job.filterMap ChannelOp.queues ++
    board.enqueuedTasks.map ParseQueueTask.rid).Sublist board.confirmed
  queue : board.enqueuedTasks = board.parseQueue.reverse ++ board.dequeuedTasks
  ran : board.work.filterMap CommOp.runs ++ board.ranTasks =
    board.dequeuedTasks.filter ParseQueueTask.runs

theorem ordered_initial : initial.Ordered := ⟨.slnil, rfl, rfl⟩

/-- The tasks run are those of confirmed requests, in the order of the confirmations. -/
theorem Ordered.ranTasks_sublist {board : Board} (ordered : board.Ordered) :
    (board.ranTasks.map ParseQueueTask.rid).Sublist board.confirmed := by
  have ran : board.ranTasks.Sublist board.dequeuedTasks := by
    have pending := List.sublist_append_right (board.work.filterMap CommOp.runs) board.ranTasks
    rw [ordered.ran] at pending
    exact pending.trans List.filter_sublist
  have dequeued : board.dequeuedTasks.Sublist board.enqueuedTasks := by
    rw [ordered.queue]
    exact List.sublist_append_right _ _
  have enqueued := (List.sublist_append_right _ _).trans ordered.enqueued
  exact ((ran.trans dequeued).map _).trans enqueued

variable {env : Environment} {before after : Board}

/-- A move that records nothing about tasks and leaves no more to do with them. -/
private theorem Ordered.quiet (ordered : before.Ordered)
    (job : (after.job.filterMap ChannelOp.queues).Sublist
      (before.job.filterMap ChannelOp.queues))
    (work : after.work.filterMap CommOp.runs = before.work.filterMap CommOp.runs)
    (confirmed : after.confirmed = before.confirmed)
    (enqueued : after.enqueuedTasks = before.enqueuedTasks)
    (queue : after.parseQueue = before.parseQueue)
    (dequeued : after.dequeuedTasks = before.dequeuedTasks)
    (ran : after.ranTasks = before.ranTasks) : after.Ordered where
  enqueued := by
    rw [enqueued, confirmed]
    exact (job.append_right _).trans ordered.enqueued
  queue := by
    rw [enqueued, queue, dequeued]
    exact ordered.queue
  ran := by
    rw [work, ran, dequeued]
    exact ordered.ran

/-- What a confirmed request may queue is its own task. -/
theorem queues_exchangeJob (exchange : Exchange) (rid : String) :
    ((exchangeJob env exchange rid).filterMap ChannelOp.queues).Sublist [rid] := by
  unfold exchangeJob
  split
  · exact List.nil_sublist _
  · split <;> exact List.Sublist.refl _

theorem runs_taskWork {task : ParseQueueTask} (sound : TaskSound env task) :
    (taskWork task).filterMap CommOp.runs = [task].filter ParseQueueTask.runs := by
  rcases sound with ⟨normal, _⟩ | ⟨single, taskKey, uuid, named, dropped⟩
  · rw [taskWork_normal normal]
    simp [CommOp.runs, ParseQueueTask.runs, normal]
  · rw [taskWork_unsubscribe single named dropped]
    simp [CommOp.runs, ParseQueueTask.runs, named]

theorem ordered_step {action : Move} (shape : JobShape before.job)
    (tasks : TasksSound env before) (ordered : before.Ordered)
    (step : BoardStep env before action after) : after.Ordered := by
  cases step with
  | confirm idle =>
      refine ⟨?_, ordered.queue, ordered.ran⟩
      have earlier := ordered.enqueued
      rw [idle] at earlier
      exact (queues_exchangeJob _ _).append earlier
  | enqueue next =>
      rename_i task rest
      -- nothing else is queued for the same request
      have last : rest.filterMap ChannelOp.queues = [] := by
        rw [next] at shape
        cases shape <;> rfl
      have earlier := ordered.enqueued
      simp only [next, List.filterMap_cons, ChannelOp.queues, last] at earlier
      refine ⟨?_, ?_, ordered.ran⟩
      · have enqueued : (rest.filterMap ChannelOp.queues ++
            (task :: before.enqueuedTasks).map ParseQueueTask.rid).Sublist
              before.confirmed := by
          rw [last]
          exact earlier
        exact enqueued
      · have queue : task :: before.enqueuedTasks =
            (before.parseQueue ++ [task]).reverse ++ before.dequeuedTasks := by
          rw [ordered.queue, List.reverse_append]
          rfl
        exact queue
  | dequeue free head =>
      rename_i task rest
      refine ⟨ordered.enqueued, ?_, ?_⟩
      · have queue := ordered.queue
        rw [head, List.reverse_cons, List.append_assoc] at queue
        exact queue
      · have ran : (taskWork task).filterMap CommOp.runs ++ before.ranTasks =
            ([task] ++ before.dequeuedTasks).filter ParseQueueTask.runs := by
          have earlier := ordered.ran
          rw [free] at earlier
          have sound := (forall_head_tail tasks.queue head).1
          rw [List.filter_append, runs_taskWork sound]
          exact congrArg _ earlier
        exact ran
  | run next built normal =>
      rename_i rest task arg
      refine ⟨ordered.enqueued, ordered.queue, ?_⟩
      have last : rest.filterMap CommOp.runs = [] := by
        have stage := tasks.work
        rw [next] at stage
        cases stage
        rfl
      have ran : rest.filterMap CommOp.runs ++ task :: before.ranTasks =
          before.dequeuedTasks.filter ParseQueueTask.runs := by
        have earlier := ordered.ran
        simp only [next, List.filterMap_cons, CommOp.runs, last] at earlier
        rw [last]
        exact earlier
      exact ran
  | runDrop next built drop =>
      -- no task of the drop service is run
      have stage := tasks.work
      rw [next] at stage
      cases stage with
      | running normal key => exact absurd drop (key.service _ built)
  | dropAbsent next drops absent | dropLast next drops present last clears
  | dropQuiet next drops present quiet =>
      refine ordered.quiet (.refl _) ?_ rfl rfl rfl rfl rfl
      rename_i op rest taskKey uuid
      have drop : op.runs = none := by
        cases op <;> first | rfl | cases drops
      have popped : (op :: rest).filterMap CommOp.runs = rest.filterMap CommOp.runs := by
        simp only [List.filterMap_cons, drop]
      rw [next]
      exact popped.symm
  | clear next | confirmCall next | awaited next | callbackReturn next | callbackReply next
  | requestUnknown next | requestFound next =>
      refine ordered.quiet (.refl _) ?_ rfl rfl rfl rfl rfl
      rw [next]
      rfl
  | channelAwake next awakes =>
      refine ordered.quiet ?_ rfl rfl rfl rfl rfl rfl
      rw [next]
      rcases awakes with rfl | rfl
      · exact .refl _
      · exact .refl _
  | subscribedBefore next old =>
      refine ordered.quiet ?_ rfl rfl rfl rfl rfl rfl
      rw [next]
      exact List.sublist_cons_self _ _
  | refuse next refused =>
      refine ordered.quiet ?_ rfl rfl rfl rfl rfl rfl
      rw [next]
      exact List.sublist_cons_self _ _
  | reject next | accept next | subscribed next | registered next
  | registeredUnsubscribe next =>
      refine ordered.quiet ?_ rfl rfl rfl rfl rfl rfl
      rw [next]
      exact .refl _
  | foundSingleshot | foundMultirespond | advance | dropRecipient | append | proxyReply
  | crash =>
      exact ordered.quiet (.refl _) rfl rfl rfl rfl rfl rfl

end Board

end Sawang
