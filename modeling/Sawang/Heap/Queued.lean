import Sawang.Board.Origins
import Sawang.Heap

/-!
# What the heap hands to the queues

`Heap` and the board describe the same functions.  What an exchange or a reply hands to a
queue on the heap is what its steps on the board queue, with the tables as the steps found
them, whatever the other threads do in between.
-/

namespace Sawang

open Board
open Custody (Op)

namespace HeapObject

/-- What an operation hands to a queue. -/
def queuedBy : Op HeapObject → Option HeapObject
  | .tearDown .parseTask => some .parseTask
  | .tearDown .replyTask => some .replyTask
  | _ => none

/-- What the operations hand to the queues, in their order. -/
def queued (ops : List (Op HeapObject)) : List HeapObject := ops.filterMap queuedBy

theorem queued_append (first rest : List (Op HeapObject)) :
    queued (first ++ rest) = queued first ++ queued rest :=
  List.filterMap_append

theorem queued_readOps (exchange : Exchange) : queued (readOps exchange) = [] := by
  unfold readOps
  simp only [queued_append]
  split <;> split <;> split <;> rfl

theorem queued_cleanupOps (exchange : Exchange) (pointers : Pointers) :
    queued (cleanupOps exchange pointers) = [] := by
  unfold cleanupOps
  simp only [queued_append]
  split <;> split <;> split <;> split <;> rfl

theorem queued_normOps (exchange : Exchange) : queued (normOps exchange).1 = [] := by
  unfold normOps
  split <;> rfl

/-- The statements after `CHANNEL_DONE` are those that hand something over. -/
theorem queued_exchangeOps (env : Environment) (multirespond : RespondTable)
    (exchange : Exchange) (newJob : Bool) :
    queued (exchangeOps env multirespond exchange newJob .done) =
      queued (confirmedOps env multirespond exchange newJob).1 := by
  simp only [exchangeOps, queued_append, queued_readOps, queued_cleanupOps, List.nil_append,
    List.append_nil]

end HeapObject

/-! ## The exchange of a request -/

/-- What a statement of the channel thread hands to a queue. -/
def ChannelOp.queued : ChannelOp → Option HeapObject
  | .replyQueueAppendInvalidStatus _ _ => some .replyTask
  | .parseQueueAppend _ => some .parseTask
  | _ => none

/-- What the channel thread has handed to a queue. -/
def Event.queued : Event → Option HeapObject
  | .rejected _ _ => some .replyTask
  | .enqueued _ => some .parseTask
  | _ => none

/-- The statement leads to no others. -/
def ChannelOp.Plain : ChannelOp → Prop
  | .createUnsubscribeTaskKey _ _ _ | .respondTableSet _ _ _ => False
  | _ => True

namespace Board

/-- What `respond_table_set` answers to a subscription; anything else is a new job. -/
def newJob (env : Environment) (exchange : Exchange) (rid : String) (board : Board) : Bool :=
  exchange.parseResult ≠ .multirespond ||
    (board.multirespond.set (exchange.taskKey env) rid).1

/-- What the channel thread has queued, newest first. -/
def channelQueued (board : Board) : List HeapObject := board.history.filterMap Event.queued

/-- What it has queued and what its statements still queue. -/
def channelQueues (board : Board) : List HeapObject :=
  (board.job.filterMap ChannelOp.queued).reverse ++ board.channelQueued

/-- The move is no confirmation. -/
def Unconfirming (_ : Board) : Move → Prop
  | .confirm _ _ => False
  | _ => True

variable {env : Environment} {before after : Board} {action : Move}

theorem move_channel {op : ChannelOp} {rest : List ChannelOp} (job : before.job = op :: rest)
    (moved : before.move env .channel = some after) : after = before.channelOp env op rest := by
  unfold move at moved
  split at moved
  · cases moved
  · simpa only [job, Option.some.injEq, eq_comm] using moved

/-- The first statement after the confirmation decides what will be queued. -/
theorem channelQueues_first {exchange : Exchange} {rid : String}
    (job : before.job = exchangeJob env exchange rid)
    (moved : before.move env .channel = some after) :
    after.channelQueues = (HeapObject.queued (HeapObject.exchangeOps env before.multirespond
        exchange (before.newJob env exchange rid) .done)).reverse ++ before.channelQueued ∧
      ∀ op ∈ after.job, op.Plain := by
  rw [HeapObject.queued_exchangeOps]
  unfold exchangeJob at job
  unfold HeapObject.confirmedOps
  by_cases invalid : exchange.parseResult = .invalid
  · rw [if_pos invalid] at job ⊢
    rw [move_channel job moved]
    refine ⟨rfl, ?_⟩
    simp [channelOp, record, ChannelOp.Plain]
  · rw [if_neg invalid] at job ⊢
    cases unsubscribe : exchange.unsubscribe with
    | true =>
        rw [unsubscribe, if_pos rfl] at job
        rw [if_pos rfl, move_channel job moved]
        cases answer : createUnsubscribeTaskKey env before.multirespond exchange.payload with
        | error status =>
            simp only [channelOp, answer]
            refine ⟨rfl, ?_⟩
            simp [ChannelOp.Plain]
        | ok resolved =>
            simp only [channelOp, answer]
            refine ⟨rfl, ?_⟩
            simp [ChannelOp.Plain]
    | false =>
        rw [unsubscribe, if_neg Bool.false_ne_true] at job
        rw [if_neg Bool.false_ne_true, move_channel job moved, HeapObject.queued_append,
          HeapObject.queued_normOps, List.nil_append]
        by_cases several : exchange.parseResult = .multirespond
        · rw [if_pos several]
          cases new : (before.multirespond.set (exchange.taskKey env) rid).1 with
          | true =>
              simp only [channelOp, newJob, several, new]
              refine ⟨rfl, ?_⟩
              simp [record, ChannelOp.Plain]
          | false =>
              simp only [channelOp, newJob, several, new]
              refine ⟨rfl, ?_⟩
              simp
        · have new : before.newJob env exchange rid = true := by simp [newJob, several]
          rw [if_neg several, new]
          refine ⟨rfl, ?_⟩
          simp [channelOp, record, ChannelOp.Plain]

/-- What is queued does not depend on the order in which the threads go on. -/
theorem channelQueues_step (plain : ∀ op ∈ before.job, op.Plain)
    (unconfirming : before.Unconfirming action) (step : BoardStep env before action after) :
    after.channelQueues = before.channelQueues ∧ ∀ op ∈ after.job, op.Plain := by
  have rest : ∀ {op : ChannelOp} {ops : List ChannelOp}, before.job = op :: ops →
      op.Plain ∧ ∀ other ∈ ops, other.Plain := by
    intro op ops next
    rw [next] at plain
    exact ⟨plain op List.mem_cons_self, fun other member =>
      plain other (List.mem_cons_of_mem _ member)⟩
  cases step with
  | confirm idle => exact unconfirming.elim
  | refuse next | accept next | subscribed next | subscribedBefore next | registered next =>
      exact (rest next).1.elim
  | reject next | enqueue next =>
      refine ⟨?_, (rest next).2⟩
      simp [channelQueues, channelQueued, record, next, ChannelOp.queued, Event.queued]
  | channelAwake next awakes =>
      refine ⟨?_, (rest next).2⟩
      rcases awakes with rfl | rfl <;>
      · simp only [channelQueues, next]
        rfl
  | registeredUnsubscribe next =>
      refine ⟨?_, (rest next).2⟩
      simp only [channelQueues, next]
      rfl
  | _ => exact ⟨rfl, plain⟩

/-- What an exchange hands to the queues on the heap is what the channel thread queues on
the board until it waits for the next confirmation, however the other threads go on. -/
theorem exchange_queued {middle : Board} {exchange : Exchange} {rid : String}
    (job : before.job = exchangeJob env exchange rid)
    (moved : before.move env .channel = some middle)
    (run : Runs.Reaches (move env) Unconfirming middle after) (done : after.job = []) :
    after.channelQueued = (HeapObject.queued (HeapObject.exchangeOps env before.multirespond
      exchange (before.newJob env exchange rid) .done)).reverse ++ before.channelQueued := by
  obtain ⟨first, plain⟩ := channelQueues_first job moved
  have kept : after.channelQueues = middle.channelQueues ∧ ∀ op ∈ after.job, op.Plain := by
    apply run.invariant ⟨rfl, plain⟩
    rintro earlier action later ⟨same, plain⟩ unconfirming next
    obtain ⟨step, plain⟩ := channelQueues_step plain unconfirming (boardStep_of_move next)
    exact ⟨step.trans same, plain⟩
  rw [← first, ← kept.1, channelQueues, done]
  rfl

end Board

/-! ## A reply -/

namespace HeapObject

theorem queued_replyQueueAppend (headers payload : Bool) :
    queued (replyQueueAppend headers payload) = [.replyTask] := by
  cases headers <;> cases payload <;> rfl

theorem queued_dropOps (which : RespondTableType) (uuids : List String) :
    queued (dropOps which uuids) = [] := by
  induction uuids with
  | nil => rfl
  | cons uuid uuids inductionHypothesis =>
      simp only [dropOps, List.flatMap_cons, queued_append]
      cases which <;> exact inductionHypothesis

/-- A call hands over a reply where it has found somebody. -/
theorem queued_replyOps (env : Environment) (singleshot multirespond : RespondTable)
    (arg : ProxyReplyArg) (headers payload : Option Json) :
    queued (replyOps env singleshot multirespond arg headers payload) =
      match requestDup singleshot multirespond (taskKeyFromReplyArg env arg) with
      | none => []
      | some (_, uuids) => if uuids = [] then [] else [.replyTask] := by
  unfold replyOps
  generalize requestDup singleshot multirespond (taskKeyFromReplyArg env arg) = found
  match found with
  | none => rfl
  | some (_, []) => rfl
  | some (_, [_]) =>
      simp only [foundOps, queued_append, queued_replyQueueAppend]
      rfl
  | some (_, _ :: _ :: _) =>
      simp only [foundOps, queued_append, queued_dropOps, queued_replyQueueAppend]
      rfl

end HeapObject

/-- The call when it has looked up the tables. -/
def ReplyCall.lookedUp (call : ReplyCall) :
    Option (RespondTableType × List String) → ReplyCall
  | none => call.moveTo .returned
  | some (which, uuids) => call.found which uuids

namespace Board

variable {env : Environment} {before after : Board} {action : Move}

def LeadsTo (env : Environment) (before after : Board) : Prop :=
  Runs.Reaches (move env) Fresh before after

/-- What has become of a call since it began on a board: it looks into the tables one after
the other, and goes on with what it has found. -/
inductive Calling (env : Environment) (start : Board) (call : ReplyCall) (board : Board) :
    ReplyCall → Prop
  | asking : Calling env start call board call
  | askingAgain {first : Board} (began : LeadsTo env start first)
      (goes : LeadsTo env first board) (absent : first.singleshot.uuids call.taskKey = []) :
      Calling env start call board (call.moveTo .lookupMultirespond)
  | lookedUp {first second : Board} {position : ReplyPosition}
      (began : LeadsTo env start first) (between : LeadsTo env first second)
      (goes : LeadsTo env second board)
      (past : ((call.lookedUp (HeapObject.requestDup first.singleshot second.multirespond
        call.taskKey)).moveTo position).PastLookups) :
      Calling env start call board ((call.lookedUp (HeapObject.requestDup first.singleshot
        second.multirespond call.taskKey)).moveTo position)

theorem requestDup_of_present {singleshot multirespond : RespondTable} {taskKey : String}
    (present : singleshot.uuids taskKey ≠ []) :
    HeapObject.requestDup singleshot multirespond taskKey =
      some (.singleshot, singleshot.uuids taskKey) := by
  rw [HeapObject.requestDup, RespondTable.requestDup_eq, if_neg present]

theorem requestDup_of_absent {singleshot multirespond : RespondTable} {taskKey : String}
    (absent : singleshot.uuids taskKey = []) :
    HeapObject.requestDup singleshot multirespond taskKey =
      if multirespond.uuids taskKey = [] then none
      else some (.multirespond, multirespond.uuids taskKey) := by
  rw [HeapObject.requestDup, RespondTable.requestDup_eq, if_pos absent]
  change Option.map _ (multirespond.requestDup taskKey) = _
  rw [RespondTable.requestDup_eq]
  split <;> rfl

theorem found_pastLookups (call : ReplyCall) (which : RespondTableType) {uuids : List String}
    (present : uuids ≠ []) : (call.found which uuids).PastLookups :=
  ⟨(call.found_collects which present).past_lookup .singleshot,
    (call.found_collects which present).past_lookup .multirespond⟩

theorem calling_step {start : Board} {call : ReplyCall} {index : Nat}
    (starts : call.position = .lookupSingleshot) (reached : LeadsTo env start before)
    (fresh : before.Fresh action) (moved : before.move env action = some after)
    {current : ReplyCall} (there : before.calls[index]? = some current)
    (calling : Calling env start call before current) :
    ∃ next, after.calls[index]? = some next ∧ Calling env start call after next := by
  obtain ⟨next, later, rfl | moves⟩ := call_step there (boardStep_of_move moved)
  · refine ⟨next, later, ?_⟩
    cases calling with
    | asking => exact .asking
    | askingAgain began goes absent => exact .askingAgain began (goes.tail fresh moved) absent
    | lookedUp began between goes past =>
        exact .lookedUp began between (goes.tail fresh moved) past
  · refine ⟨next, later, ?_⟩
    have onward : LeadsTo env before after := .single fresh moved
    -- the lookup that the call has just made is its last
    have looked : ∀ {first : Board} {found : Option (RespondTableType × List String)},
        LeadsTo env start first → LeadsTo env first before →
        HeapObject.requestDup first.singleshot before.multirespond call.taskKey = found →
        (call.lookedUp found).PastLookups →
        Calling env start call after (call.lookedUp found) := by
      rintro first found began between rfl past
      exact @Calling.lookedUp env start call after first before _ began between onward past
    cases calling with
    | asking =>
        cases moves with
        | foundSingleshot position present =>
            exact looked reached .refl (requestDup_of_present present)
              (found_pastLookups call .singleshot present)
        | elsewhere position absent => exact .askingAgain reached onward absent
        | foundMultirespond position | nobody position | drop position | dropped position
        | append position | awake position =>
            rw [starts] at position
            cases position
    | askingAgain began goes absent =>
        have again := @requestDup_of_absent _ before.multirespond _ absent
        cases moves with
        | foundMultirespond position present =>
            exact looked began goes (again.trans (if_neg present))
              (found_pastLookups call .multirespond present)
        | nobody position nobody =>
            refine looked began goes (again.trans (if_pos nobody)) ?_
            exact ReplyCall.Appended.pastLookups (.inr rfl)
        | foundSingleshot position | elsewhere position | drop position | dropped position
        | append position | awake position => cases position
    | lookedUp began between goes past =>
        obtain ⟨position, rfl, within, _⟩ := moves.pastLookups past
        exact .lookedUp began between (goes.tail fresh moved) within

theorem calling_of_leadsTo {board : Board} {index : Nat} {call : ReplyCall}
    (there : board.calls[index]? = some call) (starts : call.position = .lookupSingleshot)
    (run : LeadsTo env board after) :
    ∃ current, after.calls[index]? = some current ∧ Calling env board call after current := by
  induction run with
  | refl => exact ⟨call, there, .asking⟩
  | tail earlier fresh moved inductionHypothesis =>
      obtain ⟨current, here, calling⟩ := inductionHypothesis
      exact calling_step starts earlier fresh moved here calling

/-- On the heap a call hands over as many replies as it queues on the board, and it finds the
uuids in the tables as they are when it looks. -/
theorem reply_queued {board : Board} {index : Nat} {call last : ReplyCall}
    {arg : ProxyReplyArg} (reached : LeadsTo env initial board)
    (there : board.calls[index]? = some call) (starts : call.position = .lookupSingleshot)
    (key : call.taskKey = taskKeyFromReplyArg env arg) (run : LeadsTo env board after)
    (ends : after.calls[index]? = some last) (returned : last.position = .returned) :
    ∃ first second, LeadsTo env board first ∧ LeadsTo env first second ∧
      LeadsTo env second after ∧
      HeapObject.queued (HeapObject.replyOps env first.singleshot second.multirespond arg
        call.headers call.payload) =
        (after.history.filterMap (replyOf index)).map fun _ => .replyTask := by
  obtain ⟨current, here, calling⟩ := calling_of_leadsTo there starts run
  cases here.symm.trans ends
  have single : after.history.filterMap (replyOf index) = last.queued env := by
    rw [queuedByCalls_of_reaches (reached.trans run) index, ends]
    rfl
  rw [single]
  cases calling with
  | asking =>
      rw [starts] at returned
      cases returned
  | askingAgain => cases returned
  | @lookedUp first second position began between goes past =>
      refine ⟨first, second, began, between, goes, ?_⟩
      cases returned
      rw [HeapObject.queued_replyOps, ← key]
      cases found : HeapObject.requestDup first.singleshot second.multirespond call.taskKey with
      | none =>
          -- nothing was copied before the lookups
          have shape :=
            ((caused_of_reaches reached).1.calls call (List.mem_of_getElem? there)).shape
          simp only [ReplyCall.Shape, starts] at shape
          simp [ReplyCall.queued, ReplyCall.lookedUp, ReplyCall.moveTo, shape]
      | some pair =>
          obtain ⟨which, uuids⟩ := pair
          by_cases nobody : uuids = []
          · simp [ReplyCall.queued, ReplyCall.lookedUp, ReplyCall.moveTo, ReplyCall.found,
              nobody]
          · simp [ReplyCall.queued, ReplyCall.lookedUp, ReplyCall.moveTo, ReplyCall.found,
              ReplyCall.Appended, nobody]

end Board
end Sawang
