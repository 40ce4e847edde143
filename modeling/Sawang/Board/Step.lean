import Sawang.Board

/-!
# What one move can do

`BoardStep` lists the outcomes of a move, one constructor for each critical
section and each branch taken in it.  The invariants of the board are proved by
cases on it and never unfold the executable moves.
-/

namespace Sawang

open Board

/-- The entry an operation of the comm thread drops a uuid from. -/
def CommOp.drops : CommOp → Option (String × String)
  | .unsubscribe _ unsubscribeTaskKey unsubscribeUuid =>
      some (unsubscribeTaskKey, unsubscribeUuid)
  | .respondTableDrop unsubscribeTaskKey uuid => some (unsubscribeTaskKey, uuid)
  | _ => none

/-- Moves that hand a text to a string function. -/
def Board.Move.mayCrash : Move → Bool
  | .comm _ | .channelCrash => true
  | _ => false

inductive BoardStep (env : Environment) : Board → Move → Board → Prop
  | confirm {board : Board} {exchange : Exchange} {rid : String}
      (idle : board.job = []) :
      BoardStep env board (.confirm exchange rid)
        ({ board with job := exchangeJob env exchange rid }.record (.confirmed rid))
  | reject {board : Board} {rid : String} {status : Int32} {rest : List ChannelOp}
      (next : board.job = .replyQueueAppendInvalidStatus rid status :: rest) :
      BoardStep env board .channel
        ({ board with job := rest }.record (.rejected rid status))
  | channelAwake {board : Board} {op : ChannelOp} {rest : List ChannelOp}
      (next : board.job = op :: rest)
      (awakes : op = .subscribeAwake ∨ op = .commAwake) :
      BoardStep env board .channel { board with job := rest }
  | refuse {board : Board} {payload : Option Json} {taskKey rid : String}
      {rest : List ChannelOp} {status : ProxyServiceStatus}
      (next : board.job = .createUnsubscribeTaskKey payload taskKey rid :: rest)
      (refused : createUnsubscribeTaskKey env board.multirespond payload =
        .error status) :
      BoardStep env board .channel
        { board with
          job := .replyQueueAppendInvalidStatus rid status.code ::
            .subscribeAwake :: rest }
  | accept {board : Board} {payload : Option Json} {taskKey rid : String}
      {rest : List ChannelOp} {unsubscribeTaskKey unsubscribeUuid : String}
      (next : board.job = .createUnsubscribeTaskKey payload taskKey rid :: rest)
      (resolved : createUnsubscribeTaskKey env board.multirespond payload =
        .ok (unsubscribeTaskKey, unsubscribeUuid)) :
      BoardStep env board .channel
        { board with
          job :=
            .parseQueueAppend (parseQueueTask taskKey (some unsubscribeTaskKey)
              (some unsubscribeUuid) .singleshot rid) ::
            .respondTableSetUnsubscribe taskKey rid :: .commAwake :: rest }
  | subscribed {board : Board} {taskKey rid : String} {rest : List ChannelOp}
      (next : board.job = .respondTableSet .multirespond taskKey rid :: rest)
      (new : rid ∉ board.multirespond.uuids taskKey) :
      BoardStep env board .channel
        ({ board with
          multirespond := (board.multirespond.set taskKey rid).2
          job :=
            .parseQueueAppend (parseQueueTask taskKey none none .multirespond rid) ::
            .commAwake :: rest }.record (.registered .multirespond taskKey rid false))
  | subscribedBefore {board : Board} {taskKey rid : String} {rest : List ChannelOp}
      (next : board.job = .respondTableSet .multirespond taskKey rid :: rest)
      (old : rid ∈ board.multirespond.uuids taskKey) :
      BoardStep env board .channel { board with job := rest }
  | registered {board : Board} {taskKey rid : String} {rest : List ChannelOp}
      (next : board.job = .respondTableSet .singleshot taskKey rid :: rest) :
      BoardStep env board .channel
        ({ board with
          singleshot := (board.singleshot.set taskKey rid).2
          job :=
            .parseQueueAppend (parseQueueTask taskKey none none .singleshot rid) ::
            .commAwake :: rest }.record (.registered .singleshot taskKey rid false))
  | registeredUnsubscribe {board : Board} {taskKey rid : String}
      {rest : List ChannelOp}
      (next : board.job = .respondTableSetUnsubscribe taskKey rid :: rest) :
      BoardStep env board .channel
        ({ board with
          singleshot := (board.singleshot.set taskKey rid).2
          job := rest }.record (.registered .singleshot taskKey rid true))
  | enqueue {board : Board} {task : ParseQueueTask} {rest : List ChannelOp}
      (next : board.job = .parseQueueAppend task :: rest) :
      BoardStep env board .channel
        ({ board with
          parseQueue := board.parseQueue ++ [task]
          job := rest }.record (.enqueued task))
  | dequeue {board : Board} {input : CommInput} {task : ParseQueueTask}
      {tasks : List ParseQueueTask}
      (free : board.work = []) (head : board.parseQueue = task :: tasks) :
      BoardStep env board (.comm input)
        ({ board with
          parseQueue := tasks
          work := taskWork task }.record (.dequeued task))
  | dropAbsent {board : Board} {input : CommInput} {op : CommOp}
      {rest : List CommOp} {taskKey uuid : String}
      (next : board.work = op :: rest) (drops : op.drops = some (taskKey, uuid))
      (absent : uuid ∉ board.multirespond.uuids taskKey) :
      BoardStep env board (.comm input) { board with work := rest }
  | dropLast {board : Board} {input : CommInput} {op : CommOp}
      {rest : List CommOp} {taskKey uuid : String}
      (next : board.work = op :: rest) (drops : op.drops = some (taskKey, uuid))
      (present : uuid ∈ board.multirespond.uuids taskKey)
      (last : (board.multirespond.uuids taskKey).erase uuid = [])
      (clears : env.hasMultirespondClear = true) :
      BoardStep env board (.comm input)
        ({ board with
          multirespond := (board.multirespond.drop taskKey uuid).2
          work := .multirespondClear taskKey :: rest }.record
            (.dropped taskKey uuid 0))
  | dropQuiet {board : Board} {input : CommInput} {op : CommOp}
      {rest : List CommOp} {taskKey uuid : String}
      (next : board.work = op :: rest) (drops : op.drops = some (taskKey, uuid))
      (present : uuid ∈ board.multirespond.uuids taskKey)
      (quiet : (board.multirespond.uuids taskKey).erase uuid ≠ [] ∨
        env.hasMultirespondClear = false) :
      BoardStep env board (.comm input)
        ({ board with
          multirespond := (board.multirespond.drop taskKey uuid).2
          work := rest }.record
            (.dropped taskKey uuid
              ((board.multirespond.uuids taskKey).erase uuid).length))
  | clear {board : Board} {input : CommInput} {rest : List CommOp}
      {taskKey : String} {arg : ProxyReplyArg}
      (next : board.work = .multirespondClear taskKey :: rest)
      (built : proxyCommCreateReplyArg env taskKey = some arg) :
      BoardStep env board (.comm input)
        ({ board with work := .callback :: rest }.record (.cleared taskKey arg))
  | confirmCall {board : Board} {input : CommInput} {rest : List CommOp}
      {task : ParseQueueTask} {uuid : String} {arg : ProxyReplyArg}
      (next : board.work = .confirm task uuid :: rest)
      (built : proxyCommCreateReplyArg env task.taskKey = some arg) :
      BoardStep env board (.comm input)
        { board with
          work := .awaitReply board.calls.length :: rest
          calls := board.calls ++ [replyCall env arg
            (some (statusHeaders ProxyServiceStatus.multirespondClearSuccess.code))
            (some (confirmPayload uuid)) (some task)] }
  | awaited {board : Board} {input : CommInput} {rest : List CommOp}
      {index : Nat} {call : ReplyCall}
      (next : board.work = .awaitReply index :: rest)
      (there : board.calls[index]? = some call)
      (finished : call.position = .returned) :
      BoardStep env board (.comm input) { board with work := rest }
  | run {board : Board} {input : CommInput} {rest : List CommOp}
      {task : ParseQueueTask} {arg : ProxyReplyArg}
      (next : board.work = .run task :: rest)
      (built : proxyCommCreateReplyArg env task.taskKey = some arg)
      (normal : arg.service ≠ gonggoserviceRequestDrop) :
      BoardStep env board (.comm input)
        ({ board with work := .callback :: rest }.record (.ran task arg))
  | runDrop {board : Board} {input : CommInput} {rest : List CommOp}
      {task : ParseQueueTask} {arg : ProxyReplyArg}
      (next : board.work = .run task :: rest)
      (built : proxyCommCreateReplyArg env task.taskKey = some arg)
      (drop : arg.service = gonggoserviceRequestDrop) :
      BoardStep env board (.comm input)
        { board with work := (requestUuids arg.payload).map .dropRequest ++ rest }
  | callbackReturn {board : Board} {input : CommInput} {rest : List CommOp}
      (next : board.work = .callback :: rest) :
      BoardStep env board (.comm input) { board with work := rest }
  | callbackReply {board : Board} {rest : List CommOp}
      {arg : ProxyReplyArg} {headers payload : Option Json}
      (next : board.work = .callback :: rest) :
      BoardStep env board (.comm (.proxyReply arg headers payload))
        { board with
          work := .awaitReply board.calls.length :: .callback :: rest
          calls := board.calls ++ [replyCall env arg headers payload none] }
  | requestUnknown {board : Board} {input : CommInput} {rest : List CommOp}
      {uuid : String}
      (next : board.work = .dropRequest uuid :: rest) :
      BoardStep env board (.comm input) { board with work := rest }
  | requestFound {board : Board} {input : CommInput} {rest : List CommOp}
      {uuid taskKey : String}
      (next : board.work = .dropRequest uuid :: rest)
      (resolved : board.multirespond.dupTaskKey env uuid = some taskKey) :
      BoardStep env board (.comm input)
        { board with work := .respondTableDrop taskKey uuid :: rest }
  | foundSingleshot {board : Board} {index : Nat} {call : ReplyCall}
      (there : board.calls[index]? = some call)
      (position : call.position = .lookupSingleshot)
      (present : board.singleshot.uuids call.taskKey ≠ []) :
      BoardStep env board (.reply index)
        { board with
          calls := board.calls.set index
            (call.found .singleshot (board.singleshot.uuids call.taskKey)) }
  | foundMultirespond {board : Board} {index : Nat} {call : ReplyCall}
      (there : board.calls[index]? = some call)
      (position : call.position = .lookupMultirespond)
      (present : board.multirespond.uuids call.taskKey ≠ []) :
      BoardStep env board (.reply index)
        { board with
          calls := board.calls.set index
            (call.found .multirespond (board.multirespond.uuids call.taskKey)) }
  | advance {board : Board} {index : Nat} {call : ReplyCall} {position : ReplyPosition}
      (there : board.calls[index]? = some call)
      (passes :
        (call.position = .lookupSingleshot ∧ position = .lookupMultirespond ∧
          board.singleshot.uuids call.taskKey = []) ∨
        (call.position = .lookupMultirespond ∧ position = .returned ∧
          board.multirespond.uuids call.taskKey = []) ∨
        (∃ rid, call.position = .drops rid [] ∧ position = .append rid) ∨
        (call.position = .awake ∧ position = .returned)) :
      BoardStep env board (.reply index)
        { board with calls := board.calls.set index (call.moveTo position) }
  | dropRecipient {board : Board} {index : Nat} {call : ReplyCall}
      {uuid : String} {rid rest : List String}
      (there : board.calls[index]? = some call)
      (position : call.position = .drops rid (uuid :: rest)) :
      BoardStep env board (.reply index)
        { board with
          singleshot := (board.singleshot.drop call.taskKey uuid).2
          calls := board.calls.set index (call.moveTo (.drops (rid ++ [uuid]) rest)) }
  | append {board : Board} {index : Nat} {call : ReplyCall} {rid : List String}
      (there : board.calls[index]? = some call)
      (position : call.position = .append rid) :
      BoardStep env board (.reply index)
        ({ board with
          calls := board.calls.set index (call.moveTo .awake) }.record
            (.replied index call.confirms (call.reply env rid)))
  | proxyReply {board : Board} {arg : ProxyReplyArg} {headers payload : Option Json} :
      BoardStep env board (.proxyReply arg headers payload)
        { board with
          calls := board.calls ++ [replyCall env arg headers payload none] }
  | crash {board : Board} {action : Move} (may : action.mayCrash = true) :
      BoardStep env board action board.crash

/-- A call that finds uuids still has to append its reply. -/
theorem ReplyCall.found_position (call : ReplyCall) (which : RespondTableType)
    (uuids : List String) : (call.found which uuids).position ≠ .awake := by
  simp only [ReplyCall.found]
  split
  · split <;> simp
  · split <;> simp

namespace Board

private theorem channelOp_boardStep
    {env : Environment} {board : Board} {op : ChannelOp} {rest : List ChannelOp}
    (next : board.job = op :: rest) :
    BoardStep env board .channel (board.channelOp env op rest) := by
  cases op with
  | replyQueueAppendInvalidStatus rid status => exact .reject next
  | subscribeAwake => exact .channelAwake next (Or.inl rfl)
  | commAwake => exact .channelAwake next (Or.inr rfl)
  | createUnsubscribeTaskKey payload taskKey rid =>
      cases answer : createUnsubscribeTaskKey env board.multirespond payload with
      | error status =>
          simp only [channelOp, answer]
          exact .refuse next answer
      | ok resolved =>
          simp only [channelOp, answer]
          exact .accept next answer
  | respondTableSet type taskKey rid =>
      cases type with
      | singleshot => exact .registered next
      | multirespond =>
          simp only [channelOp, RespondTable.set_fst, decide_eq_true_eq]
          split
          · rename_i new
            exact .subscribed next new
          · rename_i old
            exact .subscribedBefore next (not_not.mp old)
  | respondTableSetUnsubscribe taskKey rid => exact .registeredUnsubscribe next
  | parseQueueAppend task => exact .enqueue next

private theorem respondTableDrop_boardStep
    {env : Environment} {board : Board} {input : CommInput} {op : CommOp}
    {rest : List CommOp} {taskKey uuid : String}
    (next : board.work = op :: rest) (drops : op.drops = some (taskKey, uuid)) :
    BoardStep env board (.comm input) (board.respondTableDrop env taskKey uuid rest) := by
  unfold respondTableDrop
  simp only [RespondTable.drop_fst]
  by_cases present : uuid ∈ board.multirespond.uuids taskKey
  · simp only [if_pos present, if_true]
    by_cases last : (board.multirespond.uuids taskKey).erase uuid = []
    · cases clears : env.hasMultirespondClear with
      | true =>
          simp only [last, List.length_nil]
          exact .dropLast next drops present last clears
      | false =>
          simp only [Bool.false_eq_true, and_false, if_false]
          exact .dropQuiet next drops present (Or.inr clears)
    · have several : ¬((board.multirespond.uuids taskKey).erase uuid).length < 1 := by
        intro short
        exact last (List.length_eq_zero_iff.mp (by omega))
      simp only [several, false_and, if_false]
      exact .dropQuiet next drops present (Or.inl last)
  · simp only [if_neg present, Bool.false_eq_true, if_false]
    exact .dropAbsent next drops present

private theorem commOp_boardStep
    {env : Environment} {board after : Board} {input : CommInput} {op : CommOp}
    {rest : List CommOp}
    (next : board.work = op :: rest)
    (moved : board.commOp env input op rest = some after) :
    BoardStep env board (.comm input) after := by
  cases op with
  | unsubscribe task taskKey uuid =>
      simp only [commOp] at moved
      split at moved
      · cases moved
        exact .crash rfl
      · cases moved
        exact respondTableDrop_boardStep next rfl
  | multirespondClear taskKey =>
      simp only [commOp] at moved
      split at moved
      · cases moved
        exact .crash rfl
      · rename_i arg built
        cases moved
        exact .clear next built
  | confirm task uuid =>
      simp only [commOp] at moved
      split at moved
      · cases moved
        exact .crash rfl
      · rename_i arg built
        cases moved
        exact .confirmCall next built
  | awaitReply index =>
      simp only [commOp] at moved
      split at moved
      · rename_i there
        cases moved
        exact .awaited next there rfl
      · cases moved
  | run task =>
      simp only [commOp] at moved
      split at moved
      · cases moved
        exact .crash rfl
      · rename_i arg built
        split at moved
        · rename_i drop
          cases moved
          exact .runDrop next built drop
        · rename_i normal
          cases moved
          exact .run next built normal
  | callback =>
      cases input with
      | advance =>
          cases moved
          exact .callbackReturn next
      | proxyReply arg headers payload =>
          cases moved
          exact .callbackReply next
  | dropRequest uuid =>
      simp only [commOp] at moved
      split at moved
      · cases moved
        exact .requestUnknown next
      · rename_i taskKey resolved
        cases moved
        exact .requestFound next resolved
  | respondTableDrop taskKey uuid =>
      cases moved
      exact respondTableDrop_boardStep next rfl

private theorem replyOp_boardStep
    {env : Environment} {board after : Board} {index : Nat} {call : ReplyCall}
    (there : board.calls[index]? = some call)
    (moved : board.replyOp env index call = some after) :
    BoardStep env board (.reply index) after := by
  unfold replyOp at moved
  simp only [RespondTable.requestDup_eq] at moved
  split at moved
  · rename_i position
    cases moved
    by_cases absent : board.singleshot.uuids call.taskKey = []
    · simp only [if_pos absent]
      exact .advance there (Or.inl ⟨position, rfl, absent⟩)
    · simp only [if_neg absent]
      exact .foundSingleshot there position absent
  · rename_i position
    cases moved
    by_cases absent : board.multirespond.uuids call.taskKey = []
    · simp only [if_pos absent]
      exact .advance there (Or.inr (Or.inl ⟨position, rfl, absent⟩))
    · simp only [if_neg absent]
      exact .foundMultirespond there position absent
  · rename_i rid position
    cases moved
    exact .advance there (Or.inr (Or.inr (Or.inl ⟨rid, position, rfl⟩)))
  · rename_i rid uuid rest position
    cases moved
    exact .dropRecipient there position
  · rename_i rid position
    cases moved
    exact .append there position
  · rename_i position
    cases moved
    exact .advance there (Or.inr (Or.inr (Or.inr ⟨position, rfl⟩)))
  · cases moved

/-- Every move is one of the listed outcomes. -/
theorem boardStep_of_move
    {env : Environment} {board after : Board} {action : Move}
    (moved : board.move env action = some after) :
    BoardStep env board action after := by
  unfold move at moved
  split at moved
  · cases moved
  cases action with
  | confirm exchange rid =>
      dsimp only at moved
      split at moved
      · rename_i idle
        cases moved
        exact .confirm idle
      · cases moved
  | channel =>
      dsimp only at moved
      split at moved
      · cases moved
      · rename_i op rest next
        cases moved
        exact channelOp_boardStep next
  | comm input =>
      dsimp only at moved
      split at moved
      · rename_i free
        split at moved
        · cases moved
        · rename_i task tasks head
          cases moved
          exact .dequeue free head
      · rename_i op rest next
        exact commOp_boardStep next moved
  | reply index =>
      dsimp only at moved
      split at moved
      · cases moved
      · rename_i call there
        exact replyOp_boardStep there moved
  | proxyReply arg headers payload =>
      cases moved
      exact .proxyReply
  | channelCrash =>
      cases moved
      exact .crash rfl

variable {env : Environment} {before after : Board}

/-- A move records one event at most. -/
theorem mem_history_of_step {action : Move} (step : BoardStep env before action after)
    {event : Event} (member : event ∈ after.history) :
    event ∈ before.history ∨ after.history = event :: before.history := by
  cases step <;>
    first
    | exact Or.inl member
    | (rcases List.mem_cons.mp member with rfl | old
       · exact Or.inr rfl
       · exact Or.inl old)

theorem history_subset_of_step {action : Move} (step : BoardStep env before action after) :
    before.history ⊆ after.history := by
  cases step <;>
    first
    | exact List.Subset.refl _
    | exact List.subset_cons_self _ _

end Board

end Sawang
