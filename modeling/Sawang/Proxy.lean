import Sawang.Board
import Sawang.Delivery

/-!
# The proxy

All threads of the proxy with the dispatcher and the application around them: the
main thread in `work` and `threads_stop`, the channel, comm and subscribe
threads, and the callers of `ProxyReply`.

A step is one critical section, one wait that begins or ends, or one callback.
Who holds a lock is read off the positions: the channel thread holds the lock of
the channel segment except in its waits, the comm thread holds
`proxy_comm_lock` and the subscribe thread `proxy_subscribe_lock` except while
parked.  Every other critical section on these locks is a single step, enabled
while the lock is free.  The run starts when `work` has seen every thread
started.
-/

namespace Sawang

inductive ChannelPosition where
  | loop
  | idleWait
  | acknowledgeWait (exchange : Option Exchange)
  | restWait
  | job
  | finished

/-- The handshake on the channel segment as both sides see it. -/
inductive HandshakeEvent where
  | requested (rid : String)
  /-- The channel thread finds `CHANNEL_REQUEST`. -/
  | accepted (rid : String)
  /-- The dispatcher sees `CHANNEL_ACKNOWLEDGED`. -/
  | seen (rid : String)
  /-- The dispatcher writes `CHANNEL_DONE` for a request it saw acknowledged. -/
  | done (rid : String)
deriving DecidableEq

/-- The request the dispatcher saw acknowledged and has not confirmed yet. -/
def owed : List HandshakeEvent → Option String
  | [] => none
  | .seen rid :: _ => some rid
  | .done _ :: _ => none
  | .requested _ :: earlier | .accepted _ :: earlier => owed earlier

/-- The channel segment and the channel thread. -/
structure Channel where
  position : ChannelPosition
  state : ProxyChannelState
  rid : String
  ownerDead : Bool
  /-- `proxy_wakeup` was signalled. -/
  wakeup : Bool
  /-- `proxy_channel_end`. -/
  ended : Bool
  /-- Ghost: newest first. -/
  handshake : List HandshakeEvent

inductive CommPosition where
  | lock
  | loop
  | drain
  | wait
  | finished
deriving DecidableEq

structure Comm where
  position : CommPosition
  /-- `proxy_comm_wakeup` was signalled. -/
  wakeup : Bool
  /-- `proxy_comm_end`. -/
  ended : Bool

/-- The main thread: the wait in `work`, then the steps of `threads_stop` that concern the
three threads.  Its messages and its dealings with the watch are in the module `LogLock`;
the module `Ending` puts both together. -/
inductive MainPosition where
  | running
  | stopChannel
  | stopSubscribe
  | endSubscribe
  | stopComm
  | joinChannel
  | joinSubscribe
  | joinComm
  | finished
deriving DecidableEq

structure ProxyState where
  board : Board
  delivery : Delivery
  channel : Channel
  comm : Comm
  main : MainPosition
  proxyExit : Bool
  gonggoDead : Bool

/-- What the channel thread meets outside: the request it reads, the answers of
the application, and whether the answer of a REST request could be created. -/
structure ChannelInput where
  document : Option Json
  answer : PayloadParse
  answerCreated : Bool

inductive Action where
  | channel (input : ChannelInput)
  | comm (input : Board.CommInput)
  | reply (call : Nat)
  | proxyReply (arg : ProxyReplyArg) (headers payload : Option Json)
  | subscribe (answerCreated : Bool)
  | main
  | sigterm
  /-- The dispatcher writes `CHANNEL_REQUEST` or `CHANNEL_REST` with a request id. -/
  | request (rid : String) (signal : Bool)
  | rest (rid : String) (signal : Bool)
  /-- The dispatcher writes another state. -/
  | channelState (state : ProxyChannelState) (signal : Bool)
  /-- The dispatcher finds `CHANNEL_ACKNOWLEDGED`. -/
  | sees
  | subscribeState (state : ProxySubscribeState) (signal : Bool)
  | dies
  | diesHoldingChannel
  | diesHoldingSubscribe
  /-- Spurious returns of `pthread_cond_wait`. -/
  | spuriousChannel
  | spuriousAnswer
  | spuriousSubscribe
  | spuriousComm

namespace Channel

def holdsLock (channel : Channel) : Bool :=
  match channel.position with
  | .loop | .job => true
  | _ => false

/-- `proxy_channel_shm_idle`, then the wait for a request. -/
def shmIdle (channel : Channel) : Channel :=
  { channel with state := .idle, rid := "", wakeup := false, position := .idleWait }

/-- The state is left for the dispatcher and the thread waits for the reaction. -/
def answer (state : ProxyChannelState) (position : ChannelPosition)
    (channel : Channel) : Channel :=
  { channel with state := state, wakeup := false, position := position }

/-- The thread answers a request; without an exchange the request was unreadable. -/
def accept (state : ProxyChannelState) (exchange : Option Exchange) (channel : Channel) :
    Channel :=
  { channel.answer state (.acknowledgeWait exchange) with
    handshake := .accepted channel.rid :: channel.handshake }

end Channel

namespace Comm

def holdsLock (comm : Comm) : Bool :=
  match comm.position with
  | .loop | .drain => true
  | _ => false

end Comm

namespace ProxyState

def initial : ProxyState where
  board := .initial
  delivery := .initial
  channel := {
    position := .loop
    state := .init
    rid := ""
    ownerDead := false
    wakeup := false
    ended := false
    handshake := [] }
  comm := { position := .lock, wakeup := false, ended := false }
  main := .running
  proxyExit := false
  gonggoDead := false

/-- A move on the board with its effect on the other parts; a thread that has to
awake another waits for the lock of the condition. -/
def perform (env : Environment) (action : Board.Move) (state : ProxyState) :
    Option ProxyState :=
  match state.board.move env action with
  | none => none
  | some board =>
      match state.board.effect env action with
      | .none => some { state with board := board }
      | .replyQueueAppend reply =>
          some { state with board := board, delivery := state.delivery.append reply }
      | .subscribeAwake =>
          match state.delivery.move .awake with
          | none => none
          | some delivery => some { state with board := board, delivery := delivery }
      | .commAwake =>
          if state.comm.holdsLock then none
          else some { state with
            board := board, comm := { state.comm with wakeup := true } }

/-! ## The channel thread -/

/-- The thread wakes in `proxy_channel`. -/
def wakeIdle (input : ChannelInput) (env : Environment) (state : ProxyState) :
    Option ProxyState :=
  let channel := state.channel
  if channel.ownerDead then
    some { state with channel := { channel with ownerDead := false, position := .finished } }
  else
    match channel.state with
    | .termination => some { state with channel := { channel with position := .finished } }
    | .stopRequest =>
        some { state with
          proxyExit := true, channel := { channel with position := .loop } }
    | .request =>
        match input.document with
        | none =>
            some { state with channel := channel.accept .fails none }
        | some document =>
            match Exchange.read document input.answer with
            | none => state.perform env .channelCrash
            | some exchange =>
                some { state with channel := channel.accept .acknowledged (some exchange) }
    | .rest =>
        if input.answerCreated then
          some { state with channel := channel.answer .restRespond .restWait }
        else
          some { state with channel := { channel with position := .loop } }
    | _ => some { state with channel := { channel with position := .loop } }

/-- The thread wakes in `proxy_channel_exchange`. -/
def wakeAcknowledge (exchange : Option Exchange) (env : Environment)
    (state : ProxyState) : Option ProxyState :=
  let channel := state.channel
  if channel.ownerDead then
    some { state with channel := { channel with ownerDead := false, position := .finished } }
  else
    match channel.state, exchange with
    | .termination, _ =>
        some { state with channel := { channel with position := .finished } }
    | .done, some exchange =>
        (state.perform env (.confirm exchange channel.rid)).map fun confirmed =>
          { confirmed with channel := { channel with position := .job } }
    | _, _ => some { state with channel := { channel with position := .loop } }

def stepChannel (env : Environment) (input : ChannelInput) (state : ProxyState) :
    Option ProxyState :=
  let channel := state.channel
  match channel.position with
  | .loop =>
      if channel.ended then
        some { state with channel := { channel with position := .finished } }
      else
        some { state with channel := channel.shmIdle }
  | .idleWait => if channel.wakeup then state.wakeIdle input env else none
  | .acknowledgeWait exchange =>
      if channel.wakeup then state.wakeAcknowledge exchange env else none
  | .restWait =>
      if channel.wakeup then
        if channel.ownerDead then
          some { state with
            channel := { channel with ownerDead := false, position := .finished } }
        else
          some { state with channel := { channel with position := .loop } }
      else none
  | .job =>
      match state.board.job with
      | [] => some { state with channel := { channel with position := .loop } }
      | _ :: _ => state.perform env .channel
  | .finished => none

/-! ## The comm and main threads -/

def stepComm (env : Environment) (input : Board.CommInput) (state : ProxyState) :
    Option ProxyState :=
  let comm := state.comm
  match comm.position with
  | .lock => some { state with comm := { comm with position := .loop } }
  | .loop =>
      if comm.ended then some { state with comm := { comm with position := .finished } }
      else some { state with comm := { comm with position := .drain } }
  | .drain =>
      match state.board.work, state.board.parseQueue with
      | [], [] =>
          some { state with comm := { comm with position := .wait, wakeup := false } }
      | _, _ => state.perform env (.comm input)
  | .wait =>
      if comm.wakeup then some { state with comm := { comm with position := .loop } }
      else none
  | .finished => none

def moveDelivery (action : Delivery.Move) (state : ProxyState) : Option ProxyState :=
  (state.delivery.move action).map fun delivery => { state with delivery := delivery }

def stepMain (state : ProxyState) : Option ProxyState :=
  match state.main with
  | .running => if state.proxyExit then some { state with main := .stopChannel } else none
  | .stopChannel =>
      if state.channel.holdsLock then none
      else
        some { state with
          channel := { state.channel with
            ownerDead := false, state := .termination, ended := true, wakeup := true }
          main := .stopSubscribe }
  | .stopSubscribe =>
      (state.moveDelivery .stopSegment).map fun stopped =>
        { stopped with main := .endSubscribe }
  | .endSubscribe =>
      (state.moveDelivery .stopThread).map fun stopped =>
        { stopped with main := .stopComm }
  | .stopComm =>
      if state.comm.holdsLock then none
      else
        some { state with
          comm := { state.comm with ended := true, wakeup := true }
          main := .joinChannel }
  | .joinChannel =>
      match state.channel.position with
      | .finished => some { state with main := .joinSubscribe }
      | _ => none
  | .joinSubscribe =>
      match state.delivery.position with
      | .finished => some { state with main := .joinComm }
      | _ => none
  | .joinComm =>
      match state.comm.position with
      | .finished => some { state with main := .finished }
      | _ => none
  | .finished => none

/-! ## The dispatcher -/

def signalChannel (signal : Bool) (channel : Channel) : Channel :=
  { channel with wakeup := channel.wakeup || signal }

/-- A write of the dispatcher to the channel segment, under the segment's lock. -/
def writeChannel (write : Channel → Channel) (signal : Bool) (state : ProxyState) :
    Option ProxyState :=
  if state.gonggoDead ∨ state.channel.holdsLock then none
  else some { state with channel := signalChannel signal (write state.channel) }

def writeState (written : ProxyChannelState) (channel : Channel) : Channel :=
  { channel with
    state := written
    handshake :=
      match written, owed channel.handshake with
      | .done, some rid => .done rid :: channel.handshake
      | _, _ => channel.handshake }

/-- The dispatcher finds its request acknowledged. -/
def see (channel : Channel) : Channel :=
  { channel with handshake := .seen channel.rid :: channel.handshake }

def writeRequest (written : ProxyChannelState) (rid : String) (channel : Channel) :
    Channel :=
  { channel with
    state := written, rid := rid, handshake := .requested rid :: channel.handshake }

def stepDispatcher (action : Action) (state : ProxyState) : Option ProxyState :=
  match action with
  | .request rid signal => state.writeChannel (writeRequest .request rid) signal
  | .rest rid signal => state.writeChannel (writeRequest .rest rid) signal
  | .channelState written signal =>
      if written = .request ∨ written = .rest then none
      else state.writeChannel (writeState written) signal
  | .sees =>
      if state.channel.state = .acknowledged then state.writeChannel see false else none
  | .subscribeState written signal =>
      if state.gonggoDead then none else state.moveDelivery (.dispatcher written signal)
  | .dies => if state.gonggoDead then none else some { state with gonggoDead := true }
  | .diesHoldingChannel =>
      (state.writeChannel (fun channel => { channel with ownerDead := true }) false).map
        fun dead => { dead with gonggoDead := true }
  | .diesHoldingSubscribe =>
      if state.gonggoDead then none
      else
        (state.moveDelivery .ownerDies).map fun dead => { dead with gonggoDead := true }
  | _ => none

/-! ## Steps -/

def step (env : Environment) (action : Action) (state : ProxyState) : Option ProxyState :=
  if state.board.crashed then none
  else
    match action with
    | .channel input => state.stepChannel env input
    | .comm input => state.stepComm env input
    | .reply call => state.perform env (.reply call)
    | .proxyReply arg headers payload => state.perform env (.proxyReply arg headers payload)
    | .subscribe answerCreated => state.moveDelivery (.thread answerCreated)
    | .main => state.stepMain
    | .sigterm => some { state with proxyExit := true }
    | .spuriousChannel => some { state with channel := signalChannel true state.channel }
    | .spuriousAnswer => state.moveDelivery .spuriousAnswer
    | .spuriousSubscribe => state.moveDelivery .spuriousWait
    | .spuriousComm => some { state with comm := { state.comm with wakeup := true } }
    | .request .. | .rest .. | .channelState .. | .sees | .subscribeState ..
    | .dies | .diesHoldingChannel | .diesHoldingSubscribe => state.stepDispatcher action

end ProxyState

end Sawang
