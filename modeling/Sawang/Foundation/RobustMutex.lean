import Mathlib.Logic.Function.Basic

/-!
# Robust mutexes

A mutex that outlives its owners.  If an owner dies, the next one to lock the mutex is
told so, and has to make it consistent before giving it back; a mutex given back
without that is lost for everybody.

`unreported` counts the deaths nobody has been told of.
-/

universe u

inductive RobustMutex (ω : Type u) where
  | free
  | held (owner : ω)
  /-- The owner died. -/
  | abandoned
  /-- Locked behind a dead owner, and not made consistent. -/
  | inherited (owner : ω)
  | notRecoverable
deriving DecidableEq

namespace RobustMutex

/-- 0, `EOWNERDEAD` and `ENOTRECOVERABLE`. -/
inductive Outcome where
  | ok
  | ownerDead
  | notRecoverable
deriving DecidableEq, Repr

variable {ω : Type u}

def owner : RobustMutex ω → Option ω
  | .held owner | .inherited owner => some owner
  | .free | .abandoned | .notRecoverable => none

/-- `pthread_mutex_lock`; `none` where the call blocks. -/
def lock (self : ω) : RobustMutex ω → Option (Outcome × RobustMutex ω)
  | .free => some (.ok, .held self)
  | .abandoned => some (.ownerDead, .inherited self)
  | .notRecoverable => some (.notRecoverable, .notRecoverable)
  | .held _ | .inherited _ => none

/-- Given back by its owner. -/
def released : RobustMutex ω → RobustMutex ω
  | .held _ => .free
  | .inherited _ => .notRecoverable
  | mutex => mutex

def repaired : RobustMutex ω → RobustMutex ω
  | .inherited owner => .held owner
  | mutex => mutex

variable [DecidableEq ω]

/-- `pthread_mutex_unlock`; `EPERM` for anybody but the owner. -/
def unlock (self : ω) (mutex : RobustMutex ω) : RobustMutex ω :=
  if mutex.owner = some self then mutex.released else mutex

/-- `pthread_mutex_consistent`. -/
def consistent (self : ω) (mutex : RobustMutex ω) : RobustMutex ω :=
  if mutex.owner = some self then mutex.repaired else mutex

/-- A thread or process ends, whatever it holds. -/
def die (self : ω) (mutex : RobustMutex ω) : RobustMutex ω :=
  if mutex.owner = some self then .abandoned else mutex

/-- The deaths nobody has been told of. -/
def unreported : RobustMutex ω → Nat
  | .abandoned => 1
  | _ => 0

/-! ## Owners -/

omit [DecidableEq ω] in
theorem owner_of_lock {self : ω} {mutex after : RobustMutex ω} {outcome : Outcome}
    (locked : mutex.lock self = some (outcome, after)) :
    mutex.owner = none ∧
      after.owner = if outcome = .notRecoverable then none else some self := by
  cases mutex <;> simp only [lock, Option.some.injEq, Prod.mk.injEq, reduceCtorEq] at locked <;>
    obtain ⟨rfl, rfl⟩ := locked <;> exact ⟨rfl, rfl⟩

omit [DecidableEq ω] in
theorem lock_eq_none_iff {self : ω} {mutex : RobustMutex ω} :
    mutex.lock self = none ↔ mutex.owner ≠ none := by
  cases mutex <;> simp [lock, owner]

omit [DecidableEq ω] in
theorem owner_released (mutex : RobustMutex ω) : mutex.released.owner = none := by
  cases mutex <;> rfl

theorem owner_unlock (self : ω) (mutex : RobustMutex ω) :
    (mutex.unlock self).owner = if mutex.owner = some self then none else mutex.owner := by
  unfold unlock
  split
  · exact owner_released mutex
  · rfl

theorem owner_die (self : ω) (mutex : RobustMutex ω) :
    (mutex.die self).owner = if mutex.owner = some self then none else mutex.owner := by
  unfold die
  split <;> rfl

theorem owner_consistent (self : ω) (mutex : RobustMutex ω) :
    (mutex.consistent self).owner = mutex.owner := by
  unfold consistent
  split
  · cases mutex <;> rfl
  · rfl

/-! ## Reports -/

omit [DecidableEq ω] in
/-- A death is reported once. -/
theorem unreported_of_lock {self : ω} {mutex after : RobustMutex ω} {outcome : Outcome}
    (locked : mutex.lock self = some (outcome, after)) :
    mutex.unreported = after.unreported + if outcome = .ownerDead then 1 else 0 := by
  cases mutex <;> simp only [lock, Option.some.injEq, Prod.mk.injEq, reduceCtorEq] at locked <;>
    obtain ⟨rfl, rfl⟩ := locked <;> rfl

theorem unreported_unlock (self : ω) (mutex : RobustMutex ω) :
    (mutex.unlock self).unreported = mutex.unreported := by
  unfold unlock
  split
  · cases mutex <;> rfl
  · rfl

theorem unreported_consistent (self : ω) (mutex : RobustMutex ω) :
    (mutex.consistent self).unreported = mutex.unreported := by
  unfold consistent
  split
  · cases mutex <;> rfl
  · rfl

theorem unreported_die (self : ω) (mutex : RobustMutex ω) :
    (mutex.die self).unreported =
      mutex.unreported + if mutex.owner = some self then 1 else 0 := by
  unfold die
  split
  · rename_i owned
    cases mutex <;> first | rfl | cases owned
  · rfl

/-! ## Lost and unharmed mutexes -/

/-- No owner of the mutex has died. -/
def Unharmed : RobustMutex ω → Prop
  | .free | .held _ => True
  | .abandoned | .inherited _ | .notRecoverable => False

theorem Unharmed.unlock {mutex : RobustMutex ω} (unharmed : mutex.Unharmed) (self : ω) :
    (mutex.unlock self).Unharmed := by
  unfold RobustMutex.unlock
  split
  · cases mutex <;> trivial
  · exact unharmed

theorem Unharmed.consistent {mutex : RobustMutex ω} (unharmed : mutex.Unharmed) (self : ω) :
    mutex.consistent self = mutex := by
  unfold RobustMutex.consistent
  split
  · cases mutex <;> first | rfl | cases unharmed
  · rfl

omit [DecidableEq ω] in
theorem Unharmed.lock {mutex after : RobustMutex ω} {self : ω} {outcome : Outcome}
    (unharmed : mutex.Unharmed) (locked : mutex.lock self = some (outcome, after)) :
    outcome = .ok ∧ after.Unharmed := by
  cases mutex <;> simp only [RobustMutex.lock, Option.some.injEq, Prod.mk.injEq,
    reduceCtorEq] at locked <;> obtain ⟨rfl, rfl⟩ := locked <;>
    first | exact ⟨rfl, trivial⟩ | cases unharmed

@[simp] theorem unlock_notRecoverable (self : ω) :
    (notRecoverable : RobustMutex ω).unlock self = notRecoverable := rfl

@[simp] theorem consistent_notRecoverable (self : ω) :
    (notRecoverable : RobustMutex ω).consistent self = notRecoverable := rfl

@[simp] theorem die_notRecoverable (self : ω) :
    (notRecoverable : RobustMutex ω).die self = notRecoverable := rfl

end RobustMutex
