import Mathlib.Logic.Function.Basic
import Sawang.Foundation.Runs

/-!
# Activation

`proxy_activate` on the activation segment of the dispatcher.  A step is one
critical section of the segment's lock; what the lock or a timed wait returns is
told from outside.  A wait returns when it likes, so signals need no trace.

`Activation` is one call with the segment, and anyone else may write the segment
while the call does not hold the lock.  `ActivationSystem` runs any number of
calls and the dispatcher on one segment.

The lock is robust, but a call that returns with it has unmapped the segment.  When
its process ends the kernel does not reach the lock any more, and it stays taken.
-/

namespace Sawang

inductive ProxyActivationState where
  | init
  | idle
  | request
  | proxyDying
  | failed
  | success
  | done
  | termination
deriving DecidableEq, Repr

def proxynamebuflen : Nat := 51
def activationIdleTtl : Int := 5

/-- `proxy_name` and `getpid()` of a proxy. -/
structure ProxyIdentity where
  name : String
  pid : Nat
deriving DecidableEq

structure ActivationShm where
  proxyName : String
  pid : Nat
  state : ProxyActivationState
deriving DecidableEq

/-- The proxy the segment names. -/
def ActivationShm.proxy (shm : ActivationShm) : ProxyIdentity where
  name := shm.proxyName
  pid := shm.pid

/-- 0, `ETIMEDOUT` and `EOWNERDEAD`. -/
inductive LockStatus where
  | ok
  | timedOut
  | ownerDead
deriving DecidableEq

/-! ## One call -/

inductive ActivationPosition where
  | start
  /-- Before `pthread_mutex_lock` in `proxy_activation_get_map`. -/
  | mapLock
  /-- In the wait for `ACTIVATION_IDLE`. -/
  | idleWait (ttl : Int)
  /-- Before `pthread_mutex_lock` in `proxy_activate`. -/
  | answerLock
  | answerWait
  | returned (result : Bool)
deriving DecidableEq

structure ActivationCall where
  position : ActivationPosition
  mapped : Bool
  holdsLock : Bool
  /-- The call touched the segment after `munmap`. -/
  strayed : Bool
  /-- The call has written its `ACTIVATION_REQUEST`. -/
  posted : Bool

def ActivationCall.initial : ActivationCall where
  position := .start
  mapped := false
  holdsLock := false
  strayed := false
  posted := false

/-- A call with the segment it works on. -/
structure Activation extends ActivationCall where
  shm : ActivationShm

namespace Activation

def initial (shm : ActivationShm) : Activation where
  toActivationCall := .initial
  shm := shm

def moveTo (position : ActivationPosition) (call : Activation) : Activation :=
  { call with position := position }

def lock (call : Activation) : Activation :=
  if call.mapped then { call with holdsLock := true } else { call with strayed := true }

/-- The lock is in the segment: behind `munmap` it is out of reach. -/
def unlock (call : Activation) : Activation :=
  if call.mapped then { call with holdsLock := false } else { call with strayed := true }

def munmap (call : Activation) : Activation := { call with mapped := false }

/-- The request is written and the lock given up. -/
def post (self : ProxyIdentity) (call : Activation) : Activation :=
  ({ call with
    shm := { proxyName := self.name, pid := self.pid, state := .request }
    posted := true }.unlock).moveTo .answerLock

/-- The loop of `proxy_activation_get_map` from its test on, with the lock held and
the status of the last wait. -/
def awaitIdle (self : ProxyIdentity) (ttl : Int) (status : LockStatus)
    (call : Activation) : Activation :=
  if 0 < ttl ∧ call.shm.state ≠ .idle then call.unlock.moveTo (.idleWait (ttl - 1))
  else if call.shm.state ≠ .idle then
    if status = .ok then call.munmap.unlock.moveTo (.returned false)
    else call.munmap.moveTo (.returned false)
  else call.post self

/-- The end of `proxy_activate`, with the lock held. -/
def readAnswer (call : Activation) : Activation :=
  match call.shm.state with
  | .proxyDying | .failed => call.unlock.munmap.moveTo (.returned false)
  | .success =>
      ({ call with shm := { call.shm with state := .done } }.unlock).munmap.moveTo
        (.returned true)
  | _ => call.unlock.munmap.moveTo (.returned false)

/-- One critical section.  `opened` tells whether the segment could be mapped, and
`status` what the lock or the wait returned. -/
def step (self : ProxyIdentity) (opened : Bool) (status : LockStatus)
    (call : Activation) : Option Activation :=
  match call.position with
  | .start =>
      if proxynamebuflen - 1 < self.name.utf8ByteSize then
        some (call.moveTo (.returned false))
      else if opened then some ({ call with mapped := true }.moveTo .mapLock)
      else some (call.moveTo (.returned false))
  | .mapLock =>
      match status with
      | .ownerDead => some (call.lock.munmap.moveTo (.returned false))
      | .ok => some (call.lock.awaitIdle self activationIdleTtl .ok)
      | .timedOut => none
  | .idleWait ttl =>
      if status = .ownerDead then some (call.lock.munmap.moveTo (.returned false))
      else if status = .timedOut ∧ ttl < 1 then
        some (call.lock.munmap.moveTo (.returned false))
      else some (call.lock.awaitIdle self ttl status)
  | .answerLock =>
      match status with
      | .ownerDead => some (call.lock.munmap.moveTo (.returned false))
      | .ok =>
          if call.lock.shm.state = .request then
            some (call.lock.unlock.moveTo .answerWait)
          else some call.lock.readAnswer
      | .timedOut => none
  | .answerWait =>
      if status = .ownerDead then some (call.lock.munmap.moveTo (.returned false))
      else some call.lock.readAnswer
  | .returned _ => none

inductive Move where
  | thread (opened : Bool) (status : LockStatus)
  /-- The dispatcher or another proxy writes the segment. -/
  | write (shm : ActivationShm)

def move (self : ProxyIdentity) (action : Move) (call : Activation) : Option Activation :=
  match action with
  | .thread opened status => call.step self opened status
  | .write shm => if call.holdsLock then none else some { call with shm := shm }

/-- The segment carries the request the call has written. -/
def CarriesRequest (self : ProxyIdentity) (call : Activation) : Prop :=
  call.posted = true ∧ call.shm.state = .request ∧ call.shm.proxy = self

instance (self : ProxyIdentity) (call : Activation) :
    Decidable (call.CarriesRequest self) :=
  inferInstanceAs (Decidable (_ ∧ _ ∧ _))

end Activation

/-! ## Any number of calls -/

structure ActivationSystem (ι : Type) where
  shm : ActivationShm
  calls : ι → ActivationCall
  /-- The call that has returned with the lock and keeps it for good. -/
  owner : Option ι
  /-- The last owner of the lock died. -/
  ownerDead : Bool
  /-- Ghost: the proxy the segment named when `ACTIVATION_SUCCESS` was written last. -/
  answered : Option ProxyIdentity

namespace ActivationSystem

variable {ι : Type}

/-- The dispatcher has made the segment ready. -/
def initial : ActivationSystem ι where
  shm := { proxyName := "", pid := 0, state := .idle }
  calls := fun _ => .initial
  owner := none
  ownerDead := false
  answered := none

/-- The call of one proxy with the segment. -/
def activation (proxy : ι) (system : ActivationSystem ι) : Activation where
  toActivationCall := system.calls proxy
  shm := system.shm

inductive Action (ι : Type) where
  | call (proxy : ι) (opened : Bool) (status : LockStatus)
  /-- The dispatcher answers the stored request. -/
  | answer (state : ProxyActivationState)
  /-- The dispatcher makes the segment idle again. -/
  | reset
  /-- The dispatcher dies with the lock. -/
  | dispatcherDies

variable [DecidableEq ι]

/-- The first step of a call needs no lock.  The other steps take the lock, and
learn whether its last owner died. -/
def stepCall (identity : ι → ProxyIdentity) (proxy : ι) (opened : Bool)
    (status : LockStatus) (system : ActivationSystem ι) : Option (ActivationSystem ι) :=
  match (system.calls proxy).position with
  | .start =>
      ((system.activation proxy).step (identity proxy) opened status).map fun after =>
        { system with
          calls := Function.update system.calls proxy after.toActivationCall }
  | _ =>
      if system.owner ≠ none ∨ ¬(status = .ownerDead ↔ system.ownerDead = true) then none
      else
        ((system.activation proxy).step (identity proxy) opened status).map fun after =>
          { system with
            shm := after.shm
            calls := Function.update system.calls proxy after.toActivationCall
            owner := if after.holdsLock then some proxy else none
            ownerDead := false }

def step (identity : ι → ProxyIdentity) (action : Action ι)
    (system : ActivationSystem ι) : Option (ActivationSystem ι) :=
  match action with
  | .call proxy opened status => system.stepCall identity proxy opened status
  | .answer state =>
      if system.owner = none ∧ system.shm.state = .request ∧
          (state = .success ∨ state = .failed ∨ state = .proxyDying) then
        some { system with
          shm := { system.shm with state := state }
          ownerDead := false
          answered := if state = .success then some system.shm.proxy else system.answered }
      else none
  | .reset =>
      if system.owner = none ∧ (system.shm.state = .failed ∨
          system.shm.state = .proxyDying ∨ system.shm.state = .done) then
        some { system with
          shm := { system.shm with state := .idle }, ownerDead := false }
      else none
  | .dispatcherDies =>
      if system.owner = none then some { system with ownerDead := true } else none

end ActivationSystem

end Sawang
