import Sawang.Foundation.Runs
import Sawang.Queue

/-!
# Delivering replies

The reply queue, the subscribe segment and the subscribe thread.  The thread
holds `proxy_subscribe_lock` from its first statement to its last, except while
it is parked, so `holdsLock` reads the owner of the lock off its position.  The
lock of the segment is held across no step: the thread gives it up when it waits
for the dispatcher, and every other critical section on it is one step.

`pthread_cond_wait` is a position with a flag that a signal sets and that the
wait clears when it begins.
-/

namespace Sawang

/-- A queued reply and its place in the order of all appends. -/
structure QueuedReply extends ReplyQueueTask where
  ticket : Nat
deriving DecidableEq

inductive SubscribePosition where
  | lock
  | loop
  | idle
  | pop
  | shmLock (task : QueuedReply)
  | answerWait (task : QueuedReply)
  | idleAgain
  | pushBack
  | park
  | wait
  | finished
deriving DecidableEq

/-- What the subscribe thread and `proxy_subscribe_stop` did. -/
inductive SubscribeEvent where
  | passStarted
  | wroteIdle
  | wroteAnswer
  | attempted (task : QueuedReply)
  | delivered (task : QueuedReply)
  | failed (task : QueuedReply)
  | discarded (task : QueuedReply)
  | terminationStored
deriving DecidableEq

structure Delivery where
  position : SubscribePosition
  alive : Bool
  failedTask : List QueuedReply
  replyQueue : List QueuedReply
  state : ProxySubscribeState
  /-- The owner of the segment's lock died. -/
  ownerDead : Bool
  /-- The segment's `proxy_wakeup` was signalled. -/
  proxyWakeup : Bool
  /-- `proxy_subscribe_wakeup` was signalled. -/
  subscribeWakeup : Bool
  /-- `proxy_subscribe_end`. -/
  ended : Bool
  /-- Ghost: every appended reply, oldest first. -/
  posted : List QueuedReply
  /-- Ghost: newest first. -/
  traffic : List SubscribeEvent

namespace Delivery

def initial : Delivery where
  position := .lock
  alive := true
  failedTask := []
  replyQueue := []
  state := .init
  ownerDead := false
  proxyWakeup := false
  subscribeWakeup := false
  ended := false
  posted := []
  traffic := []

/-- The subscribe thread holds `proxy_subscribe_lock`. -/
def holdsLock (delivery : Delivery) : Bool :=
  match delivery.position with
  | .lock | .wait | .finished => false
  | _ => true

def record (event : SubscribeEvent) (delivery : Delivery) : Delivery :=
  { delivery with traffic := event :: delivery.traffic }

/-- `reply_queue_append`. -/
def append (reply : ReplyQueueTask) (delivery : Delivery) : Delivery :=
  let task : QueuedReply := { toReplyQueueTask := reply, ticket := delivery.posted.length }
  { delivery with
    replyQueue := delivery.replyQueue ++ [task]
    posted := delivery.posted ++ [task] }

/-- `proxy_subscribe_shm_idle`. -/
def proxySubscribeShmIdle (delivery : Delivery) : Delivery :=
  { delivery with state := .idle }.record .wroteIdle

/-- The exchange of a reply ended with a state other than termination. -/
def settle (task : QueuedReply) (done : Bool) (delivery : Delivery) : Delivery :=
  if done then { delivery with position := .idleAgain }.record (.delivered task)
  else
    { delivery with
      failedTask := delivery.failedTask ++ [task]
      position := .idleAgain }.record (.failed task)

/-- The exchange of a reply ended the thread's life. -/
def abandon (task : QueuedReply) (delivery : Delivery) : Delivery :=
  { delivery with alive := false, position := .pushBack }.record (.discarded task)

/-- One step of the subscribe thread; `answerCreated` is the outcome of
`proxy_subscribe_create_answer`. -/
def thread (answerCreated : Bool) (delivery : Delivery) : Option Delivery :=
  match delivery.position with
  | .lock => some { delivery with position := .loop }
  | .loop =>
      if delivery.alive ∧ ¬delivery.ended ∧ delivery.state ≠ .termination then
        some { delivery with position := .idle }
      else
        -- `g_queue_free_full` on what is left in `failed_task`
        some { delivery with
          failedTask := []
          position := .finished
          traffic := delivery.failedTask.map .discarded ++ delivery.traffic }
  | .idle =>
      some ({ delivery with position := .pop }.record .passStarted).proxySubscribeShmIdle
  | .pop =>
      match delivery.replyQueue with
      | [] => some { delivery with position := .pushBack }
      | task :: rest =>
          some { delivery with replyQueue := rest, position := .shmLock task }
  | .shmLock task =>
      if delivery.ownerDead then
        some ({ delivery with ownerDead := false }.abandon task)
      else if answerCreated then
        some (({ delivery with
          state := .answer
          proxyWakeup := false
          position := .answerWait task }.record (.attempted task)).record .wroteAnswer)
      else
        some ((delivery.record (.attempted task)).settle task false)
  | .answerWait task =>
      if delivery.proxyWakeup then
        if delivery.ownerDead then
          some ({ delivery with ownerDead := false }.abandon task)
        else if delivery.state = .termination then some (delivery.abandon task)
        else some (delivery.settle task (delivery.state == .done))
      else none
  | .idleAgain => some { delivery with position := .pop }.proxySubscribeShmIdle
  | .pushBack =>
      some { delivery with
        replyQueue := delivery.failedTask ++ delivery.replyQueue
        failedTask := []
        position := .park }
  | .park =>
      if delivery.alive then
        some { delivery with subscribeWakeup := false, position := .wait }
      else
        some { delivery with position := .loop }
  | .wait =>
      if delivery.subscribeWakeup then some { delivery with position := .loop } else none
  | .finished => none

inductive Move where
  | append (reply : ReplyQueueTask)
  | thread (answerCreated : Bool)
  /-- `proxy_subscribe_awake`. -/
  | awake
  /-- The two critical sections of `proxy_subscribe_stop`. -/
  | stopSegment
  | stopThread
  /-- The dispatcher writes the state and may signal. -/
  | dispatcher (state : ProxySubscribeState) (signal : Bool)
  /-- The dispatcher dies holding the lock of the segment. -/
  | ownerDies
  /-- Spurious returns of the two waits. -/
  | spuriousAnswer
  | spuriousWait

def move (action : Move) (delivery : Delivery) : Option Delivery :=
  match action with
  | .append reply => some (delivery.append reply)
  | .thread answerCreated => delivery.thread answerCreated
  | .awake =>
      if delivery.holdsLock then none else some { delivery with subscribeWakeup := true }
  | .stopSegment =>
      some ({ delivery with
        ownerDead := false
        state := .termination
        proxyWakeup := true }.record .terminationStored)
  | .stopThread =>
      if delivery.holdsLock then none
      else some { delivery with ended := true, subscribeWakeup := true }
  | .dispatcher state signal =>
      some { delivery with
        state := state
        proxyWakeup := delivery.proxyWakeup || signal }
  | .ownerDies => some { delivery with ownerDead := true }
  | .spuriousAnswer => some { delivery with proxyWakeup := true }
  | .spuriousWait => some { delivery with subscribeWakeup := true }

end Delivery

end Sawang
