import Sawang.Queue
import Sawang.RespondTable

/-!
# Tables, jobs and callbacks

The part of the proxy that decides who gets which reply: the two respond tables,
the parse queue, and what the channel thread, the comm thread and the callers of
`ProxyReply` still have to do with them.

A thread's remaining statements are a list of operations.  Each operation is one
critical section of the source, or one callback invocation; the moves of
different threads interleave freely.  Waking and waiting is the business of the
module `Proxy`, which runs a move only where the locks admit it.
-/

namespace Sawang

/-! ## Remaining statements -/

/-- The statements the channel thread runs for a confirmed request. -/
inductive ChannelOp where
  | replyQueueAppendInvalidStatus (rid : String) (status : Int32)
  | subscribeAwake
  | createUnsubscribeTaskKey (payload : Option Json) (taskKey rid : String)
  /-- `respond_table_set` of the normal branch, with the test of `new_job`. -/
  | respondTableSet (type : RespondTableType) (taskKey rid : String)
  /-- `respond_table_set` of the unsubscribe branch. -/
  | respondTableSetUnsubscribe (taskKey rid : String)
  | parseQueueAppend (task : ParseQueueTask)
  | commAwake

/-- The statements the comm thread runs for a popped task. -/
inductive CommOp where
  | unsubscribe (task : ParseQueueTask) (unsubscribeTaskKey unsubscribeUuid : String)
  | multirespondClear (taskKey : String)
  | confirm (task : ParseQueueTask) (unsubscribeUuid : String)
  | awaitReply (call : Nat)
  | run (task : ParseQueueTask)
  | callback
  | dropRequest (uuid : String)
  | respondTableDrop (unsubscribeTaskKey uuid : String)

/-- Where a call of `proxy_comm_reply` is.  The recipients collected so far and
those still to be visited are the loop's state. -/
inductive ReplyPosition where
  | lookupSingleshot
  | lookupMultirespond
  | drops (rid rest : List String)
  | append (rid : List String)
  | awake
  | returned
deriving DecidableEq

structure ReplyCall where
  taskKey : String
  headers : Option Json
  payload : Option Json
  /-- Ghost: the unsubscribe task this call confirms. -/
  confirms : Option ParseQueueTask
  which : RespondTableType
  uuids : List String
  position : ReplyPosition

/-- A call that has computed its task key. -/
def replyCall (env : Environment) (arg : ProxyReplyArg) (headers payload : Option Json)
    (confirms : Option ParseQueueTask) : ReplyCall where
  taskKey := taskKeyFromReplyArg env arg
  headers := headers
  payload := payload
  confirms := confirms
  which := .singleshot
  uuids := []
  position := .lookupSingleshot

/-- The call after `respond_table_request_dup` has found a list. -/
def ReplyCall.found (call : ReplyCall) (which : RespondTableType)
    (uuids : List String) : ReplyCall :=
  { call with
    which := which
    uuids := uuids
    position :=
      if 1 < uuids.length then
        if which = .singleshot then .drops [] uuids else .append uuids
      else if uuids.length = 1 then .append uuids
      else .returned }

def ReplyCall.moveTo (call : ReplyCall) (position : ReplyPosition) : ReplyCall :=
  { call with position := position }

/-- The reply a call appends. -/
def ReplyCall.reply (env : Environment) (call : ReplyCall) (rid : List String) :
    ReplyQueueTask :=
  replyQueueTask env (ridTree rid) call.headers call.payload
    (call.which == .multirespond)

/-! ## The state -/

/-- What has happened, for the statements about runs. -/
inductive Event where
  | confirmed (rid : String)
  | rejected (rid : String) (status : Int32)
  | registered (type : RespondTableType) (taskKey rid : String) (unsubscribe : Bool)
  | enqueued (task : ParseQueueTask)
  | dequeued (task : ParseQueueTask)
  | dropped (taskKey uuid : String) (remaining : Nat)
  | cleared (taskKey : String) (arg : ProxyReplyArg)
  | ran (task : ParseQueueTask) (arg : ProxyReplyArg)
  | replied (call : Nat) (confirms : Option ParseQueueTask) (reply : ReplyQueueTask)

structure Board where
  singleshot : RespondTable
  multirespond : RespondTable
  parseQueue : List ParseQueueTask
  /-- What the channel thread has still to do for the confirmed request. -/
  job : List ChannelOp
  /-- What the comm thread has still to do for the popped task. -/
  work : List CommOp
  calls : List ReplyCall
  /-- A NULL text reached a string function. -/
  crashed : Bool
  /-- Ghost: newest first. -/
  history : List Event

namespace Board

def initial : Board where
  singleshot := .empty
  multirespond := .empty
  parseQueue := []
  job := []
  work := []
  calls := []
  crashed := false
  history := []

def record (event : Event) (board : Board) : Board :=
  { board with history := event :: board.history }

def crash (board : Board) : Board := { board with crashed := true }

/-! ## The channel thread -/

/-- The statements after `CHANNEL_DONE`. -/
def exchangeJob (env : Environment) (exchange : Exchange) (rid : String) :
    List ChannelOp :=
  if exchange.parseResult = .invalid then
    [.replyQueueAppendInvalidStatus rid exchange.invalidStatus.toInt32, .subscribeAwake]
  else if exchange.unsubscribe then
    [.createUnsubscribeTaskKey exchange.payload (exchange.taskKey env) rid]
  else
    [.respondTableSet
      (if exchange.parseResult = .multirespond then .multirespond else .singleshot)
      (exchange.taskKey env) rid]

/-- `proxy_channel_create_unsubscribe_task_key`: the uuid to drop with the key
it is registered under, or the status of the refusal. -/
def createUnsubscribeTaskKey (env : Environment) (multirespond : RespondTable)
    (payload : Option Json) : Except ProxyServiceStatus (String × String) :=
  match payload with
  | none => .error .multirespondClearPayloadMissing
  | some payload =>
      match (payload.getObjectItem serviceRidKey).bind Json.getStringValue with
      | none => .error .multirespondClearPayloadRidMissing
      | some rid =>
          if rid = "" then .error .multirespondClearPayloadRidMissing
          else
            match multirespond.dupTaskKey env rid with
            | none => .error .multirespondClearPayloadRidInvalid
            | some taskKey => .ok (taskKey, rid)

def channelOp (env : Environment) (op : ChannelOp) (rest : List ChannelOp)
    (board : Board) : Board :=
  match op with
  | .replyQueueAppendInvalidStatus rid status =>
      { board with job := rest }.record (.rejected rid status)
  | .subscribeAwake => { board with job := rest }
  | .commAwake => { board with job := rest }
  | .createUnsubscribeTaskKey payload taskKey rid =>
      match createUnsubscribeTaskKey env board.multirespond payload with
      | .error status =>
          { board with
            job := .replyQueueAppendInvalidStatus rid status.code ::
              .subscribeAwake :: rest }
      | .ok (unsubscribeTaskKey, unsubscribeUuid) =>
          { board with
            job :=
              .parseQueueAppend (parseQueueTask taskKey (some unsubscribeTaskKey)
                (some unsubscribeUuid) .singleshot rid) ::
              .respondTableSetUnsubscribe taskKey rid :: .commAwake :: rest }
  | .respondTableSet .multirespond taskKey rid =>
      if (board.multirespond.set taskKey rid).1 then
        { board with
          multirespond := (board.multirespond.set taskKey rid).2
          job :=
            .parseQueueAppend (parseQueueTask taskKey none none .multirespond rid) ::
            .commAwake :: rest }.record (.registered .multirespond taskKey rid false)
      else
        { board with job := rest }
  | .respondTableSet .singleshot taskKey rid =>
      { board with
        singleshot := (board.singleshot.set taskKey rid).2
        job :=
          .parseQueueAppend (parseQueueTask taskKey none none .singleshot rid) ::
          .commAwake :: rest }.record (.registered .singleshot taskKey rid false)
  | .respondTableSetUnsubscribe taskKey rid =>
      { board with
        singleshot := (board.singleshot.set taskKey rid).2
        job := rest }.record (.registered .singleshot taskKey rid true)
  | .parseQueueAppend task =>
      { board with
        parseQueue := board.parseQueue ++ [task]
        job := rest }.record (.enqueued task)

/-! ## Calls of `proxy_comm_reply` -/

def replyOp (env : Environment) (index : Nat) (call : ReplyCall) (board : Board) :
    Option Board :=
  match call.position with
  | .lookupSingleshot =>
      some { board with
        calls := board.calls.set index
          (match board.singleshot.requestDup call.taskKey with
          | some uuids => call.found .singleshot uuids
          | none => call.moveTo .lookupMultirespond) }
  | .lookupMultirespond =>
      some { board with
        calls := board.calls.set index
          (match board.multirespond.requestDup call.taskKey with
          | some uuids => call.found .multirespond uuids
          | none => call.moveTo .returned) }
  | .drops rid [] =>
      some { board with calls := board.calls.set index (call.moveTo (.append rid)) }
  | .drops rid (uuid :: rest) =>
      some { board with
        singleshot := (board.singleshot.drop call.taskKey uuid).2
        calls := board.calls.set index (call.moveTo (.drops (rid ++ [uuid]) rest)) }
  | .append rid =>
      some ({ board with
        calls := board.calls.set index (call.moveTo .awake) }.record
          (.replied index call.confirms (call.reply env rid)))
  | .awake =>
      some { board with calls := board.calls.set index (call.moveTo .returned) }
  | .returned => none

/-! ## The comm thread -/

/-- What the comm thread is told by the application while a callback runs. -/
inductive CommInput where
  | advance
  | proxyReply (arg : ProxyReplyArg) (headers payload : Option Json)

/-- The statements for a popped task. -/
def taskWork (task : ParseQueueTask) : List CommOp :=
  match task.type, task.unsubscribeTaskKey, task.unsubscribeUuid with
  | .singleshot, some unsubscribeTaskKey, some unsubscribeUuid =>
      [.unsubscribe task unsubscribeTaskKey unsubscribeUuid,
        .confirm task unsubscribeUuid]
  | _, _, _ => [.run task]

/-- `respond_table_drop` on the multi-respond table and the test of `remaining`:
a drop that empties the entry is followed by the application's clear callback. -/
def respondTableDrop (env : Environment) (taskKey uuid : String) (rest : List CommOp)
    (board : Board) : Board :=
  let dropped := board.multirespond.drop taskKey uuid
  if dropped.1.existed then
    { board with
      multirespond := dropped.2
      work :=
        if dropped.1.remaining < 1 ∧ env.hasMultirespondClear = true then
          .multirespondClear taskKey :: rest
        else rest }.record (.dropped taskKey uuid dropped.1.remaining)
  else
    { board with work := rest }

/-- The strings of the list `proxy_comm_drop_multirespond_request` walks. -/
def requestUuids (payload : Option Json) : List String :=
  match payload.bind fun tree => tree.getObjectItem serviceRidKey with
  | none => []
  | some arr => arr.children.filterMap Json.getStringValue

def confirmPayload (unsubscribeUuid : String) : Json :=
  .object [(serviceRidKey, .string unsubscribeUuid)]

def commOp (env : Environment) (input : CommInput) (op : CommOp) (rest : List CommOp)
    (board : Board) : Option Board :=
  match op with
  | .unsubscribe _ unsubscribeTaskKey unsubscribeUuid =>
      -- the argument of the clear callback is built before the drop
      match proxyCommCreateReplyArg env unsubscribeTaskKey with
      | none => some board.crash
      | some _ =>
          some (board.respondTableDrop env unsubscribeTaskKey unsubscribeUuid rest)
  | .multirespondClear taskKey =>
      match proxyCommCreateReplyArg env taskKey with
      | none => some board.crash
      | some arg =>
          some ({ board with work := .callback :: rest }.record (.cleared taskKey arg))
  | .confirm task unsubscribeUuid =>
      match proxyCommCreateReplyArg env task.taskKey with
      | none => some board.crash
      | some arg =>
          some { board with
            work := .awaitReply board.calls.length :: rest
            calls := board.calls ++ [replyCall env arg
              (some (statusHeaders ProxyServiceStatus.multirespondClearSuccess.code))
              (some (confirmPayload unsubscribeUuid)) (some task)] }
  | .awaitReply index =>
      match board.calls[index]? with
      | some { position := .returned, .. } => some { board with work := rest }
      | _ => none
  | .run task =>
      match proxyCommCreateReplyArg env task.taskKey with
      | none => some board.crash
      | some arg =>
          if arg.service = gonggoserviceRequestDrop then
            some { board with
              work := (requestUuids arg.payload).map .dropRequest ++ rest }
          else
            some ({ board with work := .callback :: rest }.record (.ran task arg))
  | .callback =>
      match input with
      | .advance => some { board with work := rest }
      | .proxyReply arg headers payload =>
          some { board with
            work := .awaitReply board.calls.length :: .callback :: rest
            calls := board.calls ++ [replyCall env arg headers payload none] }
  | .dropRequest uuid =>
      match board.multirespond.dupTaskKey env uuid with
      | none => some { board with work := rest }
      | some unsubscribeTaskKey =>
          some { board with work := .respondTableDrop unsubscribeTaskKey uuid :: rest }
  | .respondTableDrop unsubscribeTaskKey uuid =>
      some (board.respondTableDrop env unsubscribeTaskKey uuid rest)

/-! ## Moves -/

inductive Move where
  /-- The channel thread finds `CHANNEL_DONE`. -/
  | confirm (exchange : Exchange) (rid : String)
  | channel
  | comm (input : CommInput)
  | reply (call : Nat)
  /-- Another thread of the application calls `ProxyReply`. -/
  | proxyReply (arg : ProxyReplyArg) (headers payload : Option Json)
  /-- The channel thread compares a NULL service name. -/
  | channelCrash

def move (env : Environment) (action : Move) (board : Board) : Option Board :=
  if board.crashed then none
  else
    match action with
    | .confirm exchange rid =>
        match board.job with
        | [] =>
            some ({ board with job := exchangeJob env exchange rid }.record
              (.confirmed rid))
        | _ :: _ => none
    | .channel =>
        match board.job with
        | [] => none
        | op :: rest => some (board.channelOp env op rest)
    | .comm input =>
        match board.work with
        | [] =>
            match board.parseQueue with
            | [] => none
            | task :: tasks =>
                some ({ board with
                  parseQueue := tasks
                  work := taskWork task }.record (.dequeued task))
        | op :: rest => board.commOp env input op rest
    | .reply index =>
        match board.calls[index]? with
        | none => none
        | some call => board.replyOp env index call
    | .proxyReply arg headers payload =>
        some { board with calls := board.calls ++ [replyCall env arg headers payload none] }
    | .channelCrash => some board.crash

/-- What a move does outside the board. -/
inductive Effect where
  | none
  | replyQueueAppend (reply : ReplyQueueTask)
  | subscribeAwake
  | commAwake

def effect (env : Environment) (action : Move) (board : Board) : Effect :=
  match action with
  | .channel =>
      match board.job with
      | .replyQueueAppendInvalidStatus rid status :: _ =>
          .replyQueueAppend (invalidStatusReply env rid status)
      | .subscribeAwake :: _ => .subscribeAwake
      | .commAwake :: _ => .commAwake
      | _ => .none
  | .reply index =>
      match board.calls[index]? with
      | some call =>
          match call.position with
          | .append rid => .replyQueueAppend (call.reply env rid)
          | .awake => .subscribeAwake
          | _ => .none
      | none => .none
  | _ => .none

end Board

end Sawang
