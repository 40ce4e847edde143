import Sawang.Board.Step
import Sawang.Foundation.Descent

/-!
# The work on the board

How much is left for the channel thread, the comm thread and the calls of
`ProxyReply`.  A thread takes from its own work; it may add to the work of those behind
it: the channel thread to the parse queue, the comm thread to the calls.
-/

namespace Sawang

open Board

def ChannelOp.effort : ChannelOp → Nat
  | .createUnsubscribeTaskKey .. => 4
  | .respondTableSet .. => 3
  | _ => 1

/-- A request for a drop walks the list in its task key. -/
def CommOp.effort (env : Environment) : CommOp → Nat
  | .run task =>
      match proxyCommCreateReplyArg env task.taskKey with
      | none => 2
      | some arg => 2 + 4 * (requestUuids arg.payload).length
  | .dropRequest _ => 4
  | .unsubscribe .. | .respondTableDrop .. => 3
  | .multirespondClear _ | .confirm .. => 2
  | .awaitReply _ | .callback => 1

/-- How many tables the call has still to look at. -/
def ReplyCall.lookups (call : ReplyCall) : Nat :=
  match call.position with
  | .lookupSingleshot => 2
  | .lookupMultirespond => 1
  | _ => 0

/-- The statements after the lookups. -/
def ReplyCall.effort (call : ReplyCall) : Nat :=
  match call.position with
  | .drops _ rest => 3 + rest.length
  | .append _ => 2
  | .awake => 1
  | _ => 0

/-- A call that has found its recipients looks no further. -/
theorem ReplyCall.found_lookups (call : ReplyCall) (which : RespondTableType)
    (uuids : List String) : (call.found which uuids).lookups = 0 := by
  unfold ReplyCall.lookups ReplyCall.found
  dsimp only
  split
  · rename_i position
    split at position
    · split at position <;> cases position
    · split at position <;> cases position
  · rename_i position
    split at position
    · split at position <;> cases position
    · split at position <;> cases position
  · rfl

namespace Board

def jobEffort (board : Board) : Nat := (board.job.map ChannelOp.effort).sum

def workEffort (env : Environment) (work : List CommOp) : Nat :=
  (work.map (CommOp.effort env)).sum

def taskEffort (env : Environment) (board : Board) : Nat :=
  (board.parseQueue.map fun task => workEffort env (taskWork task) + 1).sum +
    workEffort env board.work

def lookups (board : Board) : Nat := (board.calls.map ReplyCall.lookups).sum

def replyEffort (board : Board) : Nat := (board.calls.map ReplyCall.effort).sum

variable {env : Environment} {before after : Board}

/-- The channel thread works on its job. -/
theorem channel_effort (step : BoardStep env before .channel after) :
    after.crashed = before.crashed ∧ after.jobEffort < before.jobEffort := by
  cases step with
  | crash may => cases may
  | channelAwake next awakes =>
      refine ⟨rfl, ?_⟩
      rcases awakes with rfl | rfl <;> simp [jobEffort, next, ChannelOp.effort]
  | reject next | refuse next refused | accept next resolved | subscribed next new
  | subscribedBefore next old | registered next | registeredUnsubscribe next | enqueue next =>
      refine ⟨rfl, ?_⟩
      simp only [jobEffort, Board.record, next, List.map_cons, List.sum_cons, ChannelOp.effort]
      omega

theorem workEffort_cons (op : CommOp) (rest : List CommOp) :
    workEffort env (op :: rest) = op.effort env + workEffort env rest := rfl

/-- Only the comm thread works on its tasks, and it does. -/
theorem comm_effort (step : BoardStep env before (.comm .advance) after) :
    after = before.crash ∨
      after.crashed = before.crashed ∧ after.job = before.job ∧
        after.taskEffort env < before.taskEffort env := by
  cases step with
  | crash may => exact Or.inl rfl
  | dequeue free head =>
      refine Or.inr ⟨rfl, rfl, ?_⟩
      simp only [taskEffort, Board.record, free, head, List.map_cons, List.sum_cons]
      have none_ : workEffort env [] = 0 := rfl
      omega
  | runDrop next built drop =>
      refine Or.inr ⟨rfl, rfl, ?_⟩
      rename_i rest task arg
      have walk : workEffort env ((requestUuids arg.payload).map .dropRequest ++ rest) =
          4 * (requestUuids arg.payload).length + workEffort env rest := by
        unfold workEffort
        rw [List.map_append, List.sum_append, List.map_map]
        congr 1
        generalize requestUuids arg.payload = uuids
        induction uuids with
        | nil => rfl
        | cons uuid uuids inductionHypothesis =>
            simp only [List.map_cons, List.sum_cons, inductionHypothesis, List.length_cons,
              Function.comp_apply, CommOp.effort]
            omega
      simp only [taskEffort, next, workEffort_cons, walk, CommOp.effort, built]
      omega
  | dropAbsent next drops absent | dropLast next drops present last clears
  | dropQuiet next drops present quiet =>
      refine Or.inr ⟨rfl, rfl, ?_⟩
      rename_i op rest taskKey uuid
      have worth : op.effort env = 3 := by
        cases op <;> first | rfl | cases drops
      have clear : (CommOp.multirespondClear taskKey).effort env = 2 := rfl
      simp only [taskEffort, Board.record, next, workEffort_cons, worth, clear]
      omega
  | run next built normal =>
      refine Or.inr ⟨rfl, rfl, ?_⟩
      simp only [taskEffort, Board.record, next, workEffort_cons, CommOp.effort, built]
      omega
  | clear next built | confirmCall next built | awaited next there finished
  | callbackReturn next | requestUnknown next | requestFound next resolved =>
      refine Or.inr ⟨rfl, rfl, ?_⟩
      simp only [taskEffort, Board.record, next, workEffort_cons, CommOp.effort]
      omega

/-- A call gets on with its lookups or with what follows them. -/
theorem reply_effort {index : Nat} (step : BoardStep env before (.reply index) after) :
    after.crashed = before.crashed ∧ after.job = before.job ∧
      after.taskEffort env = before.taskEffort env ∧
      (after.lookups < before.lookups ∨
        after.lookups ≤ before.lookups ∧ after.replyEffort < before.replyEffort) := by
  have moves : ∀ {call other : ReplyCall}, before.calls[index]? = some call →
      other.lookups < call.lookups ∨
        other.lookups = call.lookups ∧ other.effort < call.effort →
      ((before.calls.set index other).map ReplyCall.lookups).sum < before.lookups ∨
        ((before.calls.set index other).map ReplyCall.lookups).sum ≤ before.lookups ∧
          ((before.calls.set index other).map ReplyCall.effort).sum < before.replyEffort := by
    intro call other there goes
    have looks := Runs.sum_map_set_add ReplyCall.lookups there other
    have works := Runs.sum_map_set_add ReplyCall.effort there other
    unfold lookups replyEffort
    omega
  cases step with
  | crash may => cases may
  | foundSingleshot there position present =>
      refine ⟨rfl, rfl, rfl, moves there (Or.inl ?_)⟩
      rw [ReplyCall.found_lookups]
      simp [ReplyCall.lookups, position]
  | foundMultirespond there position present =>
      refine ⟨rfl, rfl, rfl, moves there (Or.inl ?_)⟩
      rw [ReplyCall.found_lookups]
      simp [ReplyCall.lookups, position]
  | advance there passes =>
      refine ⟨rfl, rfl, rfl, moves there ?_⟩
      rcases passes with ⟨position, rfl, _⟩ | ⟨position, rfl, _⟩ | ⟨rid, position, rfl⟩ |
        ⟨position, rfl⟩ <;>
        simp [ReplyCall.lookups, ReplyCall.effort, ReplyCall.moveTo, position]
  | dropRecipient there position =>
      refine ⟨rfl, rfl, rfl, moves there (Or.inr ?_)⟩
      simp [ReplyCall.lookups, ReplyCall.effort, ReplyCall.moveTo, position]
  | append there position =>
      refine ⟨rfl, rfl, rfl, moves there (Or.inr ?_)⟩
      simp [ReplyCall.lookups, ReplyCall.effort, ReplyCall.moveTo, position]

end Board

end Sawang
