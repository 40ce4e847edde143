import Mathlib.Logic.Function.Basic
import Sawang.Foundation.RobustMutex
import Sawang.Foundation.Runs

/-!
# Watching the dispatcher

`gonggo_alive` in any number of proxies.  The dispatcher holds the lock of its alive
segment while it lives; a proxy that gets the lock learns how the dispatcher ended, or
gives the lock back and tries again.  Here are also the parts of the main thread that
stop the watch, and those behind it that remove the proxy's own segments.

The lock is robust.  The cancellation of the watch is asynchronous, so it may hit the
thread between any two steps.  The dispatcher takes part with whatever it does to its
segment, once; it is not started again.
-/

namespace Sawang

/-- An owner of the lock. -/
inductive AliveOwner (ι : Type) where
  | gonggo
  | proxy (proxy : ι)
deriving DecidableEq

inductive WatchPosition where
  /-- Before the test of `gonggo_dead`. -/
  | test
  | lock
  /-- Behind the lock, before the write of `gonggo_dead`. -/
  | judge
  /-- Before the second look at `alive`. -/
  | inspect
  | unlinkChannel
  | unlinkSubscribe
  | unlinkAlive
  | exit
  | kill
  | unlock
  | sleep
  /-- In `gonggo_alive_cleanup`, before the lock is given back. -/
  | cleanup
  | finished
deriving DecidableEq

/-- `pthread_cancel` of the watch. -/
inductive Cancellation where
  | none
  | requested
  | delivered
deriving DecidableEq

/-- The main thread, from its wait to the end of `clean_up`. -/
inductive KeeperPosition where
  | running
  /-- In `gonggo_alive_stop`. -/
  | stop
  | join
  | channelDestroy
  | subscribeDestroy
  | aliveDestroy
  | ended
  /-- The process was killed. -/
  | killed
deriving DecidableEq

/-- One proxy. -/
structure GonggoWatch where
  position : WatchPosition
  /-- What `pthread_mutex_lock` returned last. -/
  status : RobustMutex.Outcome
  gonggoDead : Bool
  proxyExit : Bool
  /-- `proxy_channel_shm_unlink`, `proxy_subscribe_shm_unlink` and
  `alive_mutex_shm_unlink`. -/
  channelUnlink : Bool
  subscribeUnlink : Bool
  aliveUnlink : Bool
  cancellation : Cancellation
  keeper : KeeperPosition
  /-- Whether the segments of the proxy exist. -/
  channelSegment : Bool
  subscribeSegment : Bool
  aliveSegment : Bool
deriving DecidableEq

namespace GonggoWatch

/-- The watch is started, and the segments are created. -/
def initial : GonggoWatch where
  position := .test
  status := .ok
  gonggoDead := false
  proxyExit := false
  channelUnlink := false
  subscribeUnlink := false
  aliveUnlink := false
  cancellation := .none
  keeper := .running
  channelSegment := true
  subscribeSegment := true
  aliveSegment := true

/-- A step of the thread that leaves the lock alone; `alive` is the dispatcher's flag. -/
def thread (alive : Bool) (watch : GonggoWatch) : GonggoWatch :=
  match watch.position with
  | .test => { watch with position := if watch.gonggoDead then .cleanup else .lock }
  | .judge =>
      let dead := watch.status = .ownerDead ∨ watch.status = .ok ∧ alive = false
      { watch with gonggoDead := dead, position := if dead then .inspect else .unlock }
  | .inspect => { watch with position := if alive then .unlinkChannel else .exit }
  | .unlinkChannel => { watch with channelUnlink := true, position := .unlinkSubscribe }
  | .unlinkSubscribe => { watch with subscribeUnlink := true, position := .unlinkAlive }
  | .unlinkAlive => { watch with aliveUnlink := true, position := .exit }
  | .exit => { watch with proxyExit := true, position := .kill }
  | .kill => { watch with position := .unlock }
  | .unlock =>
      { watch with
        position := if watch.status = .ok ∧ watch.gonggoDead = false then .sleep else .test }
  | .sleep => { watch with position := .test }
  | .cleanup => { watch with position := .finished }
  | .lock | .finished => watch

/-- The thread gives the lock back at this step. -/
def unlocks (watch : GonggoWatch) : Bool :=
  match watch.position with
  | .unlock => watch.status = .ok
  | .cleanup => true
  | _ => false

/-- A step of the main thread. -/
def keep (watch : GonggoWatch) : Option GonggoWatch :=
  match watch.keeper with
  | .running => if watch.proxyExit then some { watch with keeper := .stop } else none
  | .stop =>
      some { watch with
        cancellation := if watch.gonggoDead then watch.cancellation else .requested
        keeper := .join }
  | .join =>
      if watch.position = .finished then some { watch with keeper := .channelDestroy } else none
  | .channelDestroy =>
      some { watch with
        channelSegment := watch.channelSegment && !watch.channelUnlink
        keeper := .subscribeDestroy }
  | .subscribeDestroy =>
      some { watch with
        subscribeSegment := watch.subscribeSegment && !watch.subscribeUnlink
        keeper := .aliveDestroy }
  | .aliveDestroy =>
      some { watch with
        aliveSegment := watch.aliveSegment && !watch.aliveUnlink
        keeper := .ended }
  | .ended | .killed => none

end GonggoWatch

structure GonggoAlive (ι : Type) where
  lock : RobustMutex (AliveOwner ι)
  /-- The flag in the dispatcher's segment. -/
  alive : Bool
  /-- The dispatcher has died. -/
  died : Bool
  watches : ι → GonggoWatch
  /-- Ghost: how often an owner of the lock died. -/
  casualties : Nat
  /-- Ghost: who was told of it, newest first. -/
  noticed : List (AliveOwner ι)

namespace GonggoAlive

variable {ι : Type}

/-- The dispatcher lives and has the lock. -/
def initial : GonggoAlive ι where
  lock := .held .gonggo
  alive := true
  died := false
  watches := fun _ => .initial
  casualties := 0
  noticed := []

inductive Action (ι : Type) where
  | thread (proxy : ι)
  | main (proxy : ι)
  /-- The handler of `SIGTERM`. -/
  | sigterm (proxy : ι)
  /-- The cancellation of the watch arrives. -/
  | cancel (proxy : ι)
  /-- The process ends at once. -/
  | killed (proxy : ι)
  | gonggoLocks
  | gonggoUnlocks
  | gonggoRepairs
  /-- The dispatcher clears `alive`. -/
  | gonggoRetires
  | gonggoDies

variable [DecidableEq ι]

def setWatch (proxy : ι) (watch : GonggoWatch) (system : GonggoAlive ι) : GonggoAlive ι :=
  { system with watches := Function.update system.watches proxy watch }

/-- An owner ends, with the lock or without it. -/
def fall (owner : AliveOwner ι) (system : GonggoAlive ι) : GonggoAlive ι :=
  { system with
    lock := system.lock.die owner
    casualties := system.casualties + if system.lock.owner = some owner then 1 else 0 }

/-- An owner takes the lock and is told how. -/
def take (owner : AliveOwner ι) (system : GonggoAlive ι) :
    Option (RobustMutex.Outcome × GonggoAlive ι) :=
  (system.lock.lock owner).map fun (outcome, lock) =>
    (outcome, { system with
      lock := lock
      noticed := if outcome = .ownerDead then owner :: system.noticed else system.noticed })

def stepThread (proxy : ι) (system : GonggoAlive ι) : Option (GonggoAlive ι) :=
  let watch := system.watches proxy
  match watch.position with
  | .finished => none
  | .lock =>
      (system.take (.proxy proxy)).map fun (outcome, taken) =>
        taken.setWatch proxy { watch with status := outcome, position := .judge }
  | _ =>
      let lock := if watch.unlocks then system.lock.unlock (.proxy proxy) else system.lock
      some ({ system with lock := lock }.setWatch proxy (watch.thread system.alive))

/-- A cancelled thread runs its cleanup.  Where it does so already of its own accord it
ends on the spot. -/
def stepCancel (proxy : ι) (system : GonggoAlive ι) : Option (GonggoAlive ι) :=
  let watch := system.watches proxy
  let delivered := { watch with cancellation := .delivered }
  if watch.cancellation = .requested then
    match watch.position with
    | .finished => none
    | .cleanup =>
        some ((system.fall (.proxy proxy)).setWatch proxy
          { delivered with position := .finished })
    | _ => some (system.setWatch proxy { delivered with position := .cleanup })
  else none

def step (action : Action ι) (system : GonggoAlive ι) : Option (GonggoAlive ι) :=
  match action with
  | .thread proxy => system.stepThread proxy
  | .main proxy => (system.watches proxy).keep.map fun watch => system.setWatch proxy watch
  | .sigterm proxy =>
      some (system.setWatch proxy { system.watches proxy with proxyExit := true })
  | .cancel proxy => system.stepCancel proxy
  | .killed proxy =>
      some ((system.fall (.proxy proxy)).setWatch proxy
        { system.watches proxy with position := .finished, keeper := .killed })
  | .gonggoLocks =>
      if system.died then none else (system.take .gonggo).map fun (_, taken) => taken
  | .gonggoUnlocks =>
      if system.died then none else some { system with lock := system.lock.unlock .gonggo }
  | .gonggoRepairs =>
      if system.died then none
      else some { system with lock := system.lock.consistent .gonggo }
  | .gonggoRetires => if system.died then none else some { system with alive := false }
  | .gonggoDies =>
      if system.died then none else some { system.fall .gonggo with died := true }

end GonggoAlive

end Sawang
