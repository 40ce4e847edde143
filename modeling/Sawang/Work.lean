import Sawang.Activation.Ledger
import Sawang.Environment
import Sawang.Foundation.Custody

/-!
# What `work` builds and tears down

The main thread from its first statement to its return, as far as it builds, uses and
tears down what the threads share: locks, tables, queues, mapped segments and their paths,
and the threads themselves.  The static variables that say what is there are state of the
model, and what the system answers is told from outside.

The main thread keeps two robust locks: its own, which tells the dispatcher that it lives,
and for a while the one of the activation segment.  They are linked in a list of the
thread, and to give one back is to touch the other.
-/

namespace Sawang

/-- A lock stands for the condition that goes with it, and a queue for its lock. -/
inductive Resource where
  | uuidLock
  | logLock
  | respondTableLock
  | respondTables
  | replyQueue
  | parseQueue
  | aliveMutexPath
  | aliveMutexShm
  | proxyChannelPath
  | proxyChannelShm
  | proxySubscribePath
  | proxySubscribeShm
  | proxySubscribeLock
  | gonggoAliveShm
  | gonggoAliveLock
  | aliveLock
  | activationShm
  | activationLock
  | proxyCommLock
  | threadAttr
  | proxyChannel
  | proxySubscribe
  | gonggoAlive
  | proxyComm
deriving DecidableEq

/-- What a thread touches while it runs; a segment is mapped by its path, and a robust
lock that is held lies in its segment. -/
def Resource.needs : Resource → List Resource
  | .aliveMutexShm => [.aliveMutexPath]
  | .proxyChannelShm => [.proxyChannelPath]
  | .proxySubscribeShm => [.proxySubscribePath]
  | .gonggoAliveLock => [.gonggoAliveShm]
  | .aliveLock => [.aliveMutexShm]
  | .activationLock => [.activationShm]
  | .proxyChannel =>
      [.uuidLock, .logLock, .respondTableLock, .respondTables, .replyQueue, .parseQueue,
        .proxyChannelShm, .proxySubscribeLock, .proxyCommLock]
  | .proxySubscribe => [.uuidLock, .logLock, .replyQueue, .proxySubscribeShm, .proxySubscribeLock]
  | .gonggoAlive => [.logLock, .gonggoAliveShm]
  | .proxyComm =>
      [.respondTableLock, .respondTables, .replyQueue, .parseQueue, .proxySubscribeLock,
        .proxyCommLock]
  | _ => []

open Custody (Op)

/-- The operations so far, the resources whose static variables are set, and the robust
locks in the list of the main thread. -/
structure Work where
  ops : List (Op Resource)
  statics : List Resource
  locks : List Resource

/-- What the check in `gonggo_alive_create_shm` finds. -/
inductive GonggoCheck where
  | alive
  | dead
  /-- `EOWNERDEAD`: the main thread has the dispatcher's lock. -/
  | ownerDied
deriving DecidableEq

/-- What a call of `proxy_activate` leaves of the segment and its lock. -/
inductive ActivationEnd where
  | unopened
  /-- The segment is unmapped with its lock, which is that for the answer if the request
  was posted. -/
  | keepsLock (posted : Bool)
  /-- The segment is unmapped with its lock, and then the lock is looked for. -/
  | strays
  | refused
  | activated
deriving DecidableEq

/-- What the system answers, how `proxy_activate` ends, and what the threads did to
`gonggo_dead`. -/
structure WorkOutcome where
  payloadParse : Bool
  run : Bool
  sigaction : Bool
  alive : SegmentOutcome
  channel : SegmentOutcome
  subscribe : SegmentOutcome
  gonggo : SegmentOutcome
  gonggoCheck : GonggoCheck
  channelThread : Bool
  subscribeThread : Bool
  gonggoThread : Bool
  commThread : Bool
  activation : ActivationEnd
  gonggoDead : Bool

inductive WorkEnd where
  | errorStart
  | errorTermhandler
  | ok
  /-- A segment that is not there is touched. -/
  | crashed
deriving DecidableEq

namespace Work

def initial : Work := ⟨[], [], []⟩

def perform (op : Op Resource) (work : Work) : Work := { work with ops := work.ops ++ [op] }

def set (resource : Resource) (work : Work) : Work :=
  { work with statics := resource :: work.statics }

def clear (resource : Resource) (work : Work) : Work :=
  { work with statics := work.statics.erase resource }

def isSet (resource : Resource) (work : Work) : Bool := resource ∈ work.statics

def build (resource : Resource) (work : Work) : Work :=
  (work.perform (.build resource)).set resource

/-- Torn down if its variable is set, which is cleared. -/
def tearDown (resource : Resource) (work : Work) : Work :=
  if work.isSet resource then (work.perform (.tearDown resource)).clear resource else work

/-- Built unless its variable is set. -/
def buildOnce (resource : Resource) (work : Work) : Work :=
  if work.isSet resource then work else work.build resource

def lock (resource : Resource) (work : Work) : Work :=
  { work.perform (.build resource) with locks := resource :: work.locks }

/-- Who does not hold the lock is told so; taking it out of the list touches the others. -/
def unlock (resource : Resource) (work : Work) : Work :=
  if resource ∈ work.locks then
    let others := work.locks.erase resource
    let work := others.foldl (fun work other => work.perform (.use other)) work
    { work.perform (.tearDown resource) with locks := others }
  else work

def proxyLog (work : Work) : Work := work.perform (.use .logLock)

/-! ## Contexts -/

def proxyUuidInit (work : Work) : Work := work.buildOnce .uuidLock

def proxyLogContextInit (work : Work) : Work := work.buildOnce .logLock

def respondTableCreate (work : Work) : Work :=
  (work.buildOnce .respondTableLock).buildOnce .respondTables

def replyQueueCreate (work : Work) : Work := work.buildOnce .replyQueue

def parseQueueCreate (work : Work) : Work := work.buildOnce .parseQueue

def respondTableDestroy (work : Work) : Work :=
  (work.tearDown .respondTables).tearDown .respondTableLock

/-- A segment that was opened: `none` where it is used without its memory. -/
def mapShm (shm : Resource) (segment : SegmentOutcome) (work : Work) : Option Bool × Work :=
  if segment.mapped ∧ segment.stored then (some true, work.build shm)
  else (none, work.perform (.use shm))

/-- `alive_mutex_create`; it looks whether the mapping has failed. -/
def aliveMutexCreate (outcome : WorkOutcome) (work : Work) : Option Bool × Work :=
  let work := work.build .aliveMutexPath
  if outcome.alive.opened ∧ outcome.alive.mapped then
    work.mapShm .aliveMutexShm outcome.alive
  else (some false, work.proxyLog.tearDown .aliveMutexPath)

/-- `alive_mutex_destroy`; the variable of the mapping is not cleared. -/
def aliveMutexDestroy (work : Work) : Work :=
  let work :=
    if work.isSet .aliveMutexShm then work.perform (.tearDown .aliveMutexShm) else work
  work.tearDown .aliveMutexPath

/-- What the context of a segment comes to; `proxy_channel_shm_create` and
`proxy_subscribe_shm_create` do not look whether the mapping has failed. -/
def shmCreate (path shm : Resource) (segment : SegmentOutcome) (work : Work) :
    Option Bool × Work :=
  let work := work.build path
  if ¬segment.opened then (some false, work.proxyLog.tearDown path)
  else work.mapShm shm segment

def proxyChannelContextInit (outcome : WorkOutcome) (work : Work) : Option Bool × Work :=
  work.shmCreate .proxyChannelPath .proxyChannelShm outcome.channel

def proxyChannelContextDestroy (work : Work) : Work :=
  (work.tearDown .proxyChannelShm).tearDown .proxyChannelPath

def proxySubscribeContextInit (outcome : WorkOutcome) (work : Work) : Option Bool × Work :=
  match work.shmCreate .proxySubscribePath .proxySubscribeShm outcome.subscribe with
  | (some true, work) => (some true, work.perform (.build .proxySubscribeLock))
  | failed => failed

/-- The lock and the condition are destroyed in any case. -/
def proxySubscribeContextDestroy (work : Work) : Work :=
  ((work.tearDown .proxySubscribeShm).tearDown .proxySubscribePath).perform
    (.tearDown .proxySubscribeLock)

/-- `gonggo_alive_create_shm` looks at the lock of a segment it could not map, and unmaps
a segment whose lock it has got from a dead owner. -/
def gonggoAliveContextInit (outcome : WorkOutcome) (work : Work) : Option Bool × Work :=
  if outcome.gonggo.Usable then
    let work := work.perform (.build .gonggoAliveShm)
    match outcome.gonggoCheck with
    | .alive => (some true, work.set .gonggoAliveShm)
    | .dead => (some false, (work.perform (.tearDown .gonggoAliveShm)).proxyLog)
    | .ownerDied =>
        (some false,
          ((work.lock .gonggoAliveLock).perform (.tearDown .gonggoAliveShm)).proxyLog)
  else
    let logged := outcome.gonggo.opened = false ∨ outcome.gonggo.mapped = false
    (none, (if logged then work.proxyLog else work).perform (.use .gonggoAliveShm))

def gonggoAliveContextDestroy (work : Work) : Work := work.tearDown .gonggoAliveShm

def proxyCommContextInit (work : Work) : Work := work.perform (.build .proxyCommLock)

def proxyCommContextDestroy (work : Work) : Work := work.perform (.tearDown .proxyCommLock)

def cleanUp (work : Work) : Work :=
  (((((work.tearDown .logLock).tearDown .uuidLock).respondTableDestroy).tearDown
    .replyQueue).tearDown .parseQueue).aliveMutexDestroy

/-! ## Threads -/

/-- `pthread_create`, and the wait for the thread's flag. -/
def startThread (thread : Resource) (created : Bool) (work : Work) : Bool × Work :=
  let work := work.perform (.use .threadAttr)
  if created then (true, work.build thread) else (false, work.proxyLog)

/-- A thread that has started is told to stop through what its stop function uses. -/
def stopThread (thread : Resource) (uses : List Resource) (work : Work) : Work :=
  if work.isSet thread then
    (uses.foldl (fun work resource => work.perform (.use resource)) work.proxyLog).proxyLog
  else work

/-- The flag of a thread that has ended stays set. -/
def joinThread (thread : Resource) (work : Work) : Work :=
  if work.isSet thread then (work.proxyLog.perform (.tearDown thread)).proxyLog else work

def threadsStop (outcome : WorkOutcome) (work : Work) : Work :=
  let work := work.stopThread .proxyChannel [.proxyChannelShm]
  let work := work.stopThread .proxySubscribe [.proxySubscribeShm, .proxySubscribeLock]
  let work := work.stopThread .gonggoAlive (if outcome.gonggoDead then [] else [.gonggoAlive])
  let work := work.stopThread .proxyComm [.proxyCommLock]
  let work := work.joinThread .proxyChannel
  let work := work.joinThread .proxySubscribe
  let work := work.joinThread .gonggoAlive
  let work := work.joinThread .proxyComm
  work.proxyChannelContextDestroy.proxySubscribeContextDestroy.gonggoAliveContextDestroy
    |>.proxyCommContextDestroy

/-- `proxy_activation_get_map` with the lock in hand. -/
def activationGetMap (work : Work) : Work :=
  (work.perform (.build .activationShm)).lock .activationLock

/-- The request is written, and the lock taken again for the answer. -/
def activationRequest (work : Work) : Work :=
  (work.activationGetMap.proxyLog.unlock .activationLock).lock .activationLock

def munmapActivation (work : Work) : Work := work.perform (.tearDown .activationShm)

/-- `proxy_activate`; `none` where it touches the segment behind `munmap`. -/
def proxyActivate (ending : ActivationEnd) (work : Work) : Option Bool × Work :=
  match ending with
  | .unopened => (some false, work.proxyLog)
  | .keepsLock posted =>
      let work := if posted then work.activationRequest else work.activationGetMap
      (some false, work.proxyLog.munmapActivation)
  | .strays =>
      (none, work.activationGetMap.proxyLog.munmapActivation.perform (.use .activationShm))
  | .refused =>
      (some false, (work.activationRequest.proxyLog.unlock .activationLock).munmapActivation)
  | .activated =>
      (some true,
        (work.activationRequest.proxyLog.proxyLog.unlock .activationLock).munmapActivation)

/-- The threads one after the other, `alive_mutex_lock` and `proxy_activate`. -/
def threadsStart (outcome : WorkOutcome) (work : Work) : Option Bool × Work :=
  match work.startThread .proxyChannel outcome.channelThread with
  | (false, work) => (some false, work)
  | (true, work) =>
    match work.startThread .proxySubscribe outcome.subscribeThread with
    | (false, work) => (some false, work)
    | (true, work) =>
      match work.startThread .gonggoAlive outcome.gonggoThread with
      | (false, work) => (some false, work)
      | (true, work) =>
        match work.startThread .proxyComm outcome.commThread with
        | (false, work) => (some false, work)
        | (true, work) => (work.lock .aliveLock).proxyActivate outcome.activation

/-- `alive_mutex_die`; the unlock does not get past the lock of a segment that is not
mapped any more. -/
def aliveMutexDie (work : Work) : Bool × Work :=
  (.activationLock ∉ work.locks, (work.perform (.use .aliveMutexShm)).unlock .aliveLock)

/-! ## The function -/

/-- `work` once the contexts are there. -/
def serve (outcome : WorkOutcome) (work : Work) : WorkEnd × Work :=
  match (work.perform (.build .threadAttr)).threadsStart outcome with
  | (none, work) => (.crashed, work)
  | (some started, work) =>
    let work := work.perform (.tearDown .threadAttr)
    -- the loop around `pause` ends once `proxy_exit` is set
    let work := if started then work.proxyLog.proxyLog else work
    match work.aliveMutexDie with
    | (false, work) => (.crashed, work)
    | (true, work) =>
      let work := work.threadsStop outcome
      if started then (.ok, work.proxyLog.cleanUp) else (.errorStart, work.cleanUp)

/-- `work` once the tables are there. -/
def contexts (outcome : WorkOutcome) (work : Work) : WorkEnd × Work :=
  match work.aliveMutexCreate outcome with
  | (none, work) => (.crashed, work)
  | (some false, work) => (.errorStart, work.cleanUp)
  | (some true, work) =>
    match work.proxyChannelContextInit outcome with
    | (none, work) => (.crashed, work)
    | (some false, work) => (.errorStart, work.cleanUp)
    | (some true, work) =>
      match work.proxySubscribeContextInit outcome with
      | (none, work) => (.crashed, work)
      | (some false, work) => (.errorStart, work.proxyChannelContextDestroy.cleanUp)
      | (some true, work) =>
        match work.gonggoAliveContextInit outcome with
        | (none, work) => (.crashed, work)
        | (some false, work) =>
            (.errorStart,
              work.proxyChannelContextDestroy.proxySubscribeContextDestroy.cleanUp)
        | (some true, work) => work.proxyCommContextInit.serve outcome

def work (outcome : WorkOutcome) : WorkEnd × Work :=
  let work := initial.proxyUuidInit.proxyLogContextInit
  if ¬outcome.payloadParse then (.errorStart, work.proxyLog)
  else if ¬outcome.run then (.errorStart, work.proxyLog)
  else if ¬outcome.sigaction then (.errorTermhandler, work.proxyLog.cleanUp)
  else work.respondTableCreate.replyQueueCreate.parseQueueCreate.contexts outcome

/-! ## Everything in its place -/

/-- What is left when `work` returns: without a callback it returns before it sets its
handler, and cleans nothing up. -/
def left (outcome : WorkOutcome) : List Resource :=
  if outcome.payloadParse ∧ outcome.run then [] else [.logLock, .uuidLock]

end Work

/-- The segment is unmapped with its lock. -/
def ActivationEnd.unmapsLock : ActivationEnd → Bool
  | .keepsLock _ | .strays => true
  | .unopened | .refused | .activated => false

namespace WorkOutcome

variable (outcome : WorkOutcome)

/-- The callbacks are there, the handler is set, and the proxy's own segments are made. -/
def Maps : Prop :=
  outcome.payloadParse = true ∧ outcome.run = true ∧ outcome.sigaction = true ∧
    outcome.alive.Usable ∧ outcome.channel.Usable ∧ outcome.subscribe.Usable

/-- The dispatcher is alive, all threads are started and the activation is tried. -/
def Activates : Prop :=
  outcome.Maps ∧ outcome.gonggo.Usable ∧ outcome.gonggoCheck = .alive ∧
    outcome.channelThread = true ∧ outcome.subscribeThread = true ∧
    outcome.gonggoThread = true ∧ outcome.commThread = true

/-- A segment of the proxy is used without its memory. -/
def Unbacked : Prop :=
  (outcome.payloadParse = true ∧ outcome.run = true ∧ outcome.sigaction = true) ∧
    (outcome.alive.opened = true ∧ outcome.alive.mapped = true ∧ outcome.alive.stored = false ∨
      outcome.alive.Usable ∧
        (outcome.channel.opened = true ∧ ¬outcome.channel.Usable ∨
          outcome.channel.Usable ∧
            (outcome.subscribe.opened = true ∧ ¬outcome.subscribe.Usable)))

/-- Where the process dies: a segment is used without its memory, or `alive_mutex_die`
comes behind an activation that has unmapped its segment with the lock. -/
def Crashes : Prop :=
  outcome.Unbacked ∨ (outcome.Maps ∧ ¬outcome.gonggo.Usable) ∨
    (outcome.Activates ∧ outcome.activation.unmapsLock = true)

/-- The dispatcher's segment is unmapped with its lock. -/
def KeepsGonggoLock : Prop :=
  outcome.Maps ∧ outcome.gonggo.Usable ∧ outcome.gonggoCheck = .ownerDied

/-- Where the order of things is broken. -/
def Breaks : Prop := outcome.Crashes ∨ outcome.KeepsGonggoLock

instance : Decidable outcome.Maps := inferInstanceAs (Decidable (_ ∧ _))

instance : Decidable outcome.Activates := inferInstanceAs (Decidable (_ ∧ _))

instance : Decidable outcome.Unbacked := inferInstanceAs (Decidable (_ ∧ _))

instance : Decidable outcome.Crashes := inferInstanceAs (Decidable (_ ∨ _))

instance : Decidable outcome.KeepsGonggoLock := inferInstanceAs (Decidable (_ ∧ _))

instance : Decidable outcome.Breaks := inferInstanceAs (Decidable (_ ∨ _))

end WorkOutcome

namespace Work

/-- How the operations go and how `work` ends. -/
def Accounted (outcome : WorkOutcome) : Prop :=
  Custody.run Resource.needs (work outcome).2.ops [] =
      (if outcome.Breaks then none else some (left outcome)) ∧
    ((work outcome).1 = .crashed ↔ outcome.Crashes)

instance (outcome : WorkOutcome) : Decidable (Accounted outcome) :=
  inferInstanceAs (Decidable (_ ∧ _))

private def usable : SegmentOutcome := ⟨true, true, true⟩

/-- Once the contexts are there everything is torn down, whichever threads have started. -/
theorem accounted_contexts :
    ∀ channelThread subscribeThread gonggoThread commThread gonggoDead : Bool,
      ∀ activation ∈ [ActivationEnd.unopened, .keepsLock true, .keepsLock false, .strays,
        .refused, .activated],
        Accounted ⟨true, true, true, usable, usable, usable, usable, .alive, channelThread,
          subscribeThread, gonggoThread, commThread, activation, gonggoDead⟩ := by
  decide +kernel

/-- Every list of answers of the system: the first that fails ends the startup. -/
theorem accounted (outcome : WorkOutcome) : Accounted outcome := by
  obtain ⟨payloadParse, run, sigaction, alive, channel, subscribe, gonggo, gonggoCheck,
    channelThread, subscribeThread, gonggoThread, commThread, activation, gonggoDead⟩ := outcome
  cases payloadParse with
  | false => exact of_decide_eq_true rfl
  | true =>
  cases run with
  | false => exact of_decide_eq_true rfl
  | true =>
  cases sigaction with
  | false => exact of_decide_eq_true rfl
  | true =>
  cases alive using SegmentOutcome.stages with
  | unopened | unmapped | unstored => exact of_decide_eq_true rfl
  | usable =>
  cases channel using SegmentOutcome.stages with
  | unopened | unmapped | unstored => exact of_decide_eq_true rfl
  | usable =>
  cases subscribe using SegmentOutcome.stages with
  | unopened | unmapped | unstored => exact of_decide_eq_true rfl
  | usable =>
  cases gonggo using SegmentOutcome.stages with
  | unopened | unmapped | unstored => exact of_decide_eq_true rfl
  | usable =>
  cases gonggoCheck with
  | dead | ownerDied => exact of_decide_eq_true rfl
  | alive =>
  apply accounted_contexts
  cases activation with
  | keepsLock posted => cases posted <;> decide
  | unopened | strays | refused | activated => decide

/-- Everything that is touched is there and everything built is torn down once, but where a
segment without its memory is used, or one is unmapped with its lock. -/
structure Tidy (outcome : WorkOutcome) : Prop where
  /-- At every moment what is there, the running threads and the locks that are held among
  it, has what it needs. -/
  moments : ¬outcome.Breaks → ∀ past, past <+: (work outcome).2.ops →
    ∃ held, Custody.run Resource.needs past [] = some held ∧ Custody.Closed Resource.needs held
  returns : ¬outcome.Breaks →
    Custody.run Resource.needs (work outcome).2.ops [] = some (left outcome)
  paired : ¬outcome.Breaks → ∀ resource,
    (work outcome).2.ops.count (.build resource) =
      (work outcome).2.ops.count (.tearDown resource) + (left outcome).count resource
  breaks : outcome.Breaks → Custody.run Resource.needs (work outcome).2.ops [] = none
  crashes : (work outcome).1 = .crashed ↔ outcome.Crashes

end Work

/-! ## How an activation ends -/

/-- The end of a call that has returned. -/
def ActivationCall.ending (call : ActivationCall) : ActivationEnd :=
  if call.strayed then .strays
  else if call.holdsLock then .keepsLock call.posted
  else if call.position = .returned true then .activated
  else if call.posted then .refused
  else .unopened

namespace Activation

variable {self : ProxyIdentity} {before after : Activation}

/-- A call keeps the lock only where it has failed, and has looked for it behind `munmap`
only if it keeps it. -/
structure Keeps (call : Activation) : Prop where
  failed : call.holdsLock = true → call.position = .returned false
  strayed : call.strayed = true → call.holdsLock = true

theorem keeps_of_step {status : LockStatus} (sound : before.Sound)
    (step : ActivationStep self before status after) : after.Keeps := by
  have clean := (sound.free step.not_returned).2
  refine ⟨fun holds => step.fails_of_holds sound holds, ?_⟩
  cases step with
  | ownerDied | busyTimedOut | busyWoken => exact fun _ => rfl
  | _ =>
      intro strayed
      rw [clean] at strayed
      cases strayed

theorem keeps_of_reaches {admissible : Activation → Move → Prop} {shm : ActivationShm}
    (reached : Runs.Reaches (move self) admissible (initial shm) after) : after.Keeps := by
  apply reached.invariant_of (fun _ earlier => sound_of_reaches earlier)
  · exact ⟨nofun, nofun⟩
  · intro before action later sound keeps _ moved
    cases action with
    | thread opened status => exact keeps_of_step sound (activationStep_of_step sound moved)
    | write shm =>
        simp only [Activation.move] at moved
        split at moved <;> cases moved
        exact ⟨keeps.failed, keeps.strayed⟩

/-- To the main thread a call is what `proxy_activate` is: it does not come back where it
touches the segment behind `munmap`, and unmaps the lock exactly where it keeps it. -/
theorem proxyActivate_ending {admissible : Activation → Move → Prop} {shm : ActivationShm}
    {call : Activation} {result : Bool}
    (reached : Runs.Reaches (move self) admissible (initial shm) call)
    (returned : call.position = .returned result) (work : Work) :
    (work.proxyActivate call.ending).1 = (if call.strayed then none else some result) ∧
      (call.ending.unmapsLock = true ↔ call.holdsLock = true) := by
  obtain ⟨failed, strayed⟩ := keeps_of_reaches reached
  unfold ActivationCall.ending
  cases gone : call.strayed with
  | true => simp [Work.proxyActivate, ActivationEnd.unmapsLock, strayed gone]
  | false =>
      cases holds : call.holdsLock with
      | true =>
          have same := returned.symm.trans (failed holds)
          cases same
          simp [Work.proxyActivate, ActivationEnd.unmapsLock]
      | false =>
          cases result with
          | true => simp [returned, Work.proxyActivate, ActivationEnd.unmapsLock]
          | false =>
              cases posted : call.posted <;>
                simp [returned, Work.proxyActivate, ActivationEnd.unmapsLock]

end Activation

end Sawang
