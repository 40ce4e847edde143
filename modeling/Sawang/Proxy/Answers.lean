import Sawang.Foundation.NamedStore
import Sawang.Proxy.Segment

/-!
# Answers in shared memory

A reply and the answer of a REST request travel in a segment of their own, named by
a fresh uuid in the member `aid` of the shared segment.  The subscribe thread and the
channel thread make these segments and remove them when the dispatcher has reacted;
request payloads and everything else in shared memory are made and removed by others.
A mapping without memory behind it ends the process, and what it was for stays behind.
-/

namespace Sawang

open ProxyState

/-- The threads that hand over answers. -/
inductive Answerer where
  | subscribe
  | channel
deriving DecidableEq

/-- The segments of shared memory with their texts, by path. -/
abbrev SharedMemory : Type := NamedStore String Answerer String

/-- What `ProxySubscribeShm` says of the answer. -/
structure SubscribeShm where
  aid : String
  payloadBuffLength : Nat
  removeRequest : Bool

/-- What `ProxyChannelShm` says of the answer. -/
structure ChannelShm where
  aid : String
  answerBuffLength : Nat

/-- A REST request with its id, as the channel thread found it. -/
structure RestRequest where
  rid : String
  found : ChannelOutcome

/-- What the process dies of with `SIGBUS`: reading a request, or copying an answer, of
which a part has been copied. -/
inductive Fault where
  | payload
  | answer (maker : Answerer) (path part : String)

structure AnswerState where
  proxy : ProxyState
  memory : SharedMemory
  subscribeShm : SubscribeShm
  channelShm : ChannelShm
  /-- `answer_path` of `proxy_subscribe_exchange`. -/
  subscribePath : String
  /-- `answer_path` and `respond` of `proxy_channel_rest`. -/
  channelPath : String
  respond : String
  /-- The request that `respond` answers. -/
  request : Option RestRequest
  fault : Option Fault

inductive AnswerAction where
  /-- A step of the subscribe thread with the uuid it would generate, and the length of
  what it copies where there is not memory enough. -/
  | subscribe (uuid : String) (segment : SegmentOutcome) (copied : Nat)
  /-- A step of the channel thread; what it reads is in shared memory. -/
  | channel (uuid : String) (outcome : ChannelOutcome) (copied : Nat)
  | other (action : Action)
  /-- Another process makes a segment, or removes one. -/
  | create (path text : String)
  | unlink (path : String)

/-- The path of a segment named by a uuid. -/
def answerPath (uuid : String) : String := "/" ++ uuid

/-- The length of the reply segment, with the final zero byte; 0 on failure, `none` where
the copy ends the process. -/
def proxySubscribeCreateAnswer (segment : SegmentOutcome) (task : String) : Option Nat :=
  proxyRestCreateAnswer segment task

/-- What a copy that does not find memory enough has written. -/
def copiedPart (text : String) (copied : Nat) : String :=
  String.ofList (text.toList.take copied)

/-- What making an answer leaves in shared memory. -/
def createAnswer (maker : Answerer) (segment : SegmentOutcome) (copied : Nat)
    (path text : String) (memory : SharedMemory) : SharedMemory :=
  if segment.opened then
    if segment.mapped then
      memory.create (some maker) path
        (if segment.stored then text else copiedPart text copied)
    else memory.unlink path
  else memory

namespace AnswerState

def initial : AnswerState where
  proxy := .initial
  memory := .empty
  subscribeShm := { aid := "", payloadBuffLength := 0, removeRequest := false }
  channelShm := { aid := "", answerBuffLength := 0 }
  subscribePath := ""
  channelPath := ""
  respond := ""
  request := none
  fault := none

/-- A step of the proxy that concerns no answer. -/
def stepProxy (env : Environment) (action : Action) (state : AnswerState) :
    Option AnswerState :=
  match state.fault with
  | none => (state.proxy.step env action).map fun proxy => { state with proxy := proxy }
  | some _ => none

/-- `proxy_subscribe_exchange` up to its wait. -/
def subscribeExchange (env : Environment) (uuid : String) (segment : SegmentOutcome)
    (copied : Nat) (task : QueuedReply) (state : AnswerState) : Option AnswerState :=
  let path := answerPath uuid
  let memory := createAnswer .subscribe segment copied path task.task state.memory
  match proxySubscribeCreateAnswer segment task.task with
  | none =>
      (state.stepProxy env (.subscribe false)).map fun _ =>
        { state with
          memory := memory
          subscribeShm := { state.subscribeShm with aid := uuid }
          fault := some (.answer .subscribe path (copiedPart task.task copied)) }
  | some length =>
      (state.stepProxy env (.subscribe (decide (0 < length)))).map fun after =>
        { after with
          memory := memory
          subscribeShm := {
            aid := uuid
            payloadBuffLength := length
            removeRequest :=
              if 0 < length then !task.multipleRespond
              else state.subscribeShm.removeRequest }
          subscribePath := path }

def stepSubscribe (env : Environment) (uuid : String) (segment : SegmentOutcome)
    (copied : Nat) (state : AnswerState) : Option AnswerState :=
  match state.proxy.delivery.position with
  | .idle | .idleAgain =>
      (state.stepProxy env (.subscribe false)).map fun after =>
        { after with
          subscribeShm := { aid := "", payloadBuffLength := 0, removeRequest := false } }
  | .shmLock task =>
      if state.proxy.delivery.ownerDead then state.stepProxy env (.subscribe false)
      else state.subscribeExchange env uuid segment copied task
  | .answerWait _ =>
      (state.stepProxy env (.subscribe false)).map fun after =>
        { after with memory := state.memory.unlink state.subscribePath }
  | _ => state.stepProxy env (.subscribe false)

/-- The outcome of a request read from shared memory. -/
def reads (outcome : ChannelOutcome) (state : AnswerState) : ChannelOutcome :=
  match state.memory (answerPath state.proxy.channel.rid) with
  | none => { outcome with payload := { outcome.payload with opened := false } }
  | some (_, text) => { outcome with text := text }

/-- The request is read; `after` is the state behind `proxy_channel_exchange` up to its
wait. -/
def channelExchange (env : Environment) (found : ChannelOutcome)
    (state after : AnswerState) : AnswerState :=
  match proxyChannelPayloadShmRead env found.payload found.text with
  | none => { state with fault := some .payload }
  | some _ => after

/-- `proxy_channel_rest` up to its wait; `after` is the state behind it but for the
answer. -/
def channelRest (env : Environment) (uuid : String) (found : ChannelOutcome) (copied : Nat)
    (state after : AnswerState) : AnswerState :=
  match proxyChannelRespond env found with
  | none => { state with fault := some .payload }
  | some respond =>
      let path := answerPath uuid
      let memory := createAnswer .channel found.restAnswer copied path respond state.memory
      match proxyRestCreateAnswer found.restAnswer respond with
      | none =>
          { state with
            memory := memory
            channelShm := { state.channelShm with aid := uuid }
            fault := some (.answer .channel path (copiedPart respond copied)) }
      | some length =>
          { after with
            memory := memory
            channelShm := { aid := uuid, answerBuffLength := length }
            channelPath := path
            respond := respond
            request := some ⟨state.proxy.channel.rid, found⟩ }

def stepChannel (env : Environment) (uuid : String) (outcome : ChannelOutcome)
    (copied : Nat) (state : AnswerState) : Option AnswerState :=
  let found := state.reads outcome
  (state.stepProxy env (.channel (found.input env))).map fun after =>
    match state.proxy.channel.position with
    | .idleWait =>
        if state.proxy.channel.ownerDead then after
        else
          match state.proxy.channel.state with
          | .request => state.channelExchange env found after
          | .rest => state.channelRest env uuid found copied after
          | _ => after
    | .restWait => { after with memory := state.memory.unlink state.channelPath }
    | _ => after

def step (env : Environment) (action : AnswerAction) (state : AnswerState) :
    Option AnswerState :=
  match action with
  | .subscribe uuid segment copied => state.stepSubscribe env uuid segment copied
  | .channel uuid outcome copied => state.stepChannel env uuid outcome copied
  | .other (.subscribe _) | .other (.channel _) => none
  | .other action => state.stepProxy env action
  | .create path text => some { state with memory := state.memory.create none path text }
  | .unlink path => some { state with memory := state.memory.unlink path }

/-- What a thread has handed over and not yet removed. -/
def hands (state : AnswerState) : Answerer → Option (String × String)
  | .subscribe =>
      match state.proxy.delivery.position with
      | .answerWait task => some (state.subscribePath, task.task)
      | _ => none
  | .channel =>
      match state.proxy.channel.position with
      | .restWait => some (state.channelPath, state.respond)
      | _ => none

/-- The segment of a thread that has died in the copy. -/
def left (state : AnswerState) (maker : Answerer) : Option (String × String) :=
  match state.fault with
  | some (.answer faulty path part) => if maker = faulty then some (path, part) else none
  | _ => none

/-- What there is of a thread in shared memory. -/
def keeps (state : AnswerState) (maker : Answerer) : Option (String × String) :=
  (state.hands maker).or (state.left maker)

/-- A uuid is new, and the other processes leave the answers alone. -/
def Fresh (state : AnswerState) : AnswerAction → Prop
  | .subscribe uuid .. | .channel uuid .. => state.memory (answerPath uuid) = none
  | .create path _ => state.memory path = none
  | .unlink path => ∀ maker text, state.memory path ≠ some (some maker, text)
  | .other _ => True

instance (state : AnswerState) : (action : AnswerAction) → Decidable (state.Fresh action)
  | .subscribe .. => inferInstanceAs (Decidable (_ = none))
  | .channel .. => inferInstanceAs (Decidable (_ = none))
  | .create _ _ => inferInstanceAs (Decidable (_ = none))
  | .unlink path =>
      match found : state.memory path with
      | some (some maker, text) => isFalse fun foreign => foreign maker text found
      | some (none, _) | none => isTrue (by
          intro maker text kept
          rw [found] at kept
          cases kept)
  | .other _ => inferInstanceAs (Decidable True)

end AnswerState

end Sawang
