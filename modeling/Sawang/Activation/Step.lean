import Sawang.Activation

/-!
# What one step of an activation can do

`ActivationStep` has a constructor for each way a critical section of
`proxy_activate` ends.  Until it returns, a call is in a regular state between its
critical sections: it is without the lock and has the segment mapped.
-/

namespace Sawang

/-- The call looks for `ACTIVATION_IDLE`. -/
def ActivationPosition.seeks : ActivationPosition → Bool
  | .mapLock | .idleWait _ => true
  | _ => false

/-- The call waits for the answer to its request. -/
def ActivationPosition.awaits : ActivationPosition → Bool
  | .answerLock | .answerWait => true
  | _ => false

namespace Activation

/-- A call between two critical sections. -/
structure Sound (call : Activation) : Prop where
  free : (∀ result, call.position ≠ .returned result) →
    call.holdsLock = false ∧ call.strayed = false
  mapped : call.position.seeks = true ∨ call.position.awaits = true → call.mapped = true
  unposted : call.position = .start ∨ call.position.seeks = true → call.posted = false
  posted : call.position.awaits = true → call.posted = true

end Activation

inductive ActivationStep (self : ProxyIdentity) :
    Activation → LockStatus → Activation → Prop
  | unopened {call : Activation} {status : LockStatus}
      (position : call.position = .start) :
      ActivationStep self call status { call with position := .returned false }
  | opened {call : Activation} {status : LockStatus} (position : call.position = .start)
      (fits : self.name.utf8ByteSize ≤ proxynamebuflen - 1) :
      ActivationStep self call status { call with mapped := true, position := .mapLock }
  | ownerDied {call : Activation}
      (inside : call.position.seeks = true ∨ call.position.awaits = true) :
      ActivationStep self call .ownerDead
        { call with holdsLock := true, mapped := false, position := .returned false }
  | idleWaits {call : Activation} {status : LockStatus} {ttl : Int}
      (left : call.position = .mapLock ∧ ttl = activationIdleTtl ∨
        call.position = .idleWait ttl)
      (more : 0 < ttl) (busy : call.shm.state ≠ .idle) :
      ActivationStep self call status { call with position := .idleWait (ttl - 1) }
  | busyTimedOut {call : Activation} {ttl : Int}
      (position : call.position = .idleWait ttl) (last : ttl < 1) :
      ActivationStep self call .timedOut
        { call with holdsLock := true, mapped := false, position := .returned false }
  | busyWoken {call : Activation} {ttl : Int}
      (position : call.position = .idleWait ttl) (last : ttl < 1)
      (busy : call.shm.state ≠ .idle) :
      ActivationStep self call .ok
        { call with
          holdsLock := true, mapped := false, strayed := true
          position := .returned false }
  | post {call : Activation} {status : LockStatus}
      (seeks : call.position.seeks = true) (idle : call.shm.state = .idle) :
      ActivationStep self call status
        { call with
          shm := { proxyName := self.name, pid := self.pid, state := .request }
          posted := true
          position := .answerLock }
  | answerWaits {call : Activation} {status : LockStatus}
      (position : call.position = .answerLock) (unanswered : call.shm.state = .request) :
      ActivationStep self call status { call with position := .answerWait }
  | refused {call : Activation} {status : LockStatus}
      (awaits : call.position = .answerLock ∧ call.shm.state ≠ .request ∨
        call.position = .answerWait)
      (unsuccessful : call.shm.state ≠ .success) :
      ActivationStep self call status
        { call with mapped := false, position := .returned false }
  | succeeded {call : Activation} {status : LockStatus}
      (awaits : call.position.awaits = true) (success : call.shm.state = .success) :
      ActivationStep self call status
        { call with
          mapped := false
          shm := { call.shm with state := .done }
          position := .returned true }

namespace Activation

variable {self : ProxyIdentity} {before after : Activation} {opened : Bool}
  {status : LockStatus}

/-- From its opening to its return a call has the segment mapped, and between its
critical sections it is without the lock. -/
private theorem Sound.inside (sound : before.Sound)
    (inside : before.position.seeks = true ∨ before.position.awaits = true) :
    before.mapped = true ∧ before.holdsLock = false := by
  refine ⟨sound.mapped inside, (sound.free ?_).1⟩
  intro result position
  rw [position] at inside
  rcases inside with seeks | awaits
  · cases seeks
  · cases awaits

private theorem unlock_lock (mapped : before.mapped = true)
    (free : before.holdsLock = false) : before.lock.unlock = before := by
  obtain ⟨⟨position, mapped', holdsLock, strayed, posted⟩, shm⟩ := before
  subst mapped free
  rfl

/-- The loop of `proxy_activation_get_map` entered with the lock. -/
private theorem activationStep_awaitIdle {ttl : Int} (mapped : before.mapped = true)
    (free : before.holdsLock = false)
    (left : before.position = .mapLock ∧ ttl = activationIdleTtl ∨
      before.position = .idleWait ttl)
    (inTime : ¬(status = .timedOut ∧ ttl < 1)) (owned : status ≠ .ownerDead)
    (next : before.lock.awaitIdle self ttl status = after) :
    ActivationStep self before status after := by
  have seeks : before.position.seeks = true := by
    rcases left with ⟨position, _⟩ | position <;> rw [position] <;> rfl
  obtain ⟨⟨position, mapped', holdsLock, strayed, posted⟩, shm⟩ := before
  subst mapped free
  simp only [lock, if_true, awaitIdle] at next
  split at next
  · rename_i more
    cases next
    exact .idleWaits left more.1 more.2
  · rename_i past
    split at next
    · rename_i busy
      have last : ttl < 1 := by
        by_contra more
        exact past ⟨by omega, busy⟩
      have position : position = .idleWait ttl := by
        rcases left with ⟨_, full⟩ | position
        · rw [full] at last
          cases last
        · exact position
      cases status with
      | ok =>
          cases next
          exact .busyWoken position last busy
      | timedOut => exact absurd ⟨rfl, last⟩ inTime
      | ownerDead => exact absurd rfl owned
    · rename_i idle
      cases next
      exact .post seeks (by simpa using idle)

/-- The answer read with the lock. -/
private theorem activationStep_readAnswer (mapped : before.mapped = true)
    (free : before.holdsLock = false)
    (awaits : before.position = .answerLock ∧ before.shm.state ≠ .request ∨
      before.position = .answerWait)
    (next : before.lock.readAnswer = after) : ActivationStep self before status after := by
  have waits : before.position.awaits = true := by
    rcases awaits with ⟨position, _⟩ | position <;> rw [position] <;> rfl
  obtain ⟨⟨position, mapped', holdsLock, strayed, posted⟩, shm⟩ := before
  subst mapped free
  simp only [lock, if_true, readAnswer] at next
  split at next
  · rename_i state
    cases next
    exact .refused awaits (by simp [state])
  · rename_i state
    cases next
    exact .refused awaits (by simp [state])
  · rename_i state
    cases next
    exact .succeeded waits state
  · rename_i other
    cases next
    exact .refused awaits other

/-- The lock taken from a dead owner. -/
private theorem activationStep_ownerDied (mapped : before.mapped = true)
    (inside : before.position.seeks = true ∨ before.position.awaits = true)
    (next : before.lock.munmap.moveTo (.returned false) = after) :
    ActivationStep self before .ownerDead after := by
  simp only [lock, mapped, if_true] at next
  cases next
  exact .ownerDied inside

theorem activationStep_of_step (sound : before.Sound)
    (next : before.step self opened status = some after) :
    ActivationStep self before status after := by
  unfold step at next
  split at next
  · rename_i position
    split at next
    · cases next
      exact .unopened position
    · rename_i fits
      split at next
      · cases next
        exact .opened position (by omega)
      · cases next
        exact .unopened position
  · rename_i position
    have seeks : before.position.seeks = true := by simp [position, ActivationPosition.seeks]
    obtain ⟨mapped, free⟩ := sound.inside (Or.inl seeks)
    split at next
    · cases next
      exact activationStep_ownerDied mapped (Or.inl seeks) rfl
    · cases next
      exact activationStep_awaitIdle mapped free (Or.inl ⟨position, rfl⟩) nofun nofun rfl
    · cases next
  · rename_i ttl position
    have seeks : before.position.seeks = true := by simp [position, ActivationPosition.seeks]
    obtain ⟨mapped, free⟩ := sound.inside (Or.inl seeks)
    split at next
    · rename_i died
      subst died
      cases next
      exact activationStep_ownerDied mapped (Or.inl seeks) rfl
    · rename_i owned
      split at next
      · rename_i late
        obtain ⟨rfl, last⟩ := late
        simp only [lock, mapped, if_true] at next
        cases next
        exact .busyTimedOut position last
      · rename_i inTime
        cases next
        exact activationStep_awaitIdle mapped free (Or.inr position) inTime owned rfl
  · rename_i position
    have awaits : before.position.awaits = true := by
      simp [position, ActivationPosition.awaits]
    obtain ⟨mapped, free⟩ := sound.inside (Or.inr awaits)
    split at next
    · cases next
      exact activationStep_ownerDied mapped (Or.inr awaits) rfl
    · have same : before.lock.shm = before.shm := by simp [lock, mapped]
      rw [same] at next
      split at next
      · rename_i unanswered
        rw [unlock_lock mapped free] at next
        cases next
        exact .answerWaits position unanswered
      · rename_i answered
        cases next
        exact activationStep_readAnswer mapped free (Or.inl ⟨position, answered⟩) rfl
    · cases next
  · rename_i position
    have awaits : before.position.awaits = true := by
      simp [position, ActivationPosition.awaits]
    obtain ⟨mapped, free⟩ := sound.inside (Or.inr awaits)
    split at next
    · rename_i died
      subst died
      cases next
      exact activationStep_ownerDied mapped (Or.inr awaits) rfl
    · cases next
      exact activationStep_readAnswer mapped free (Or.inr position) rfl
  · cases next

/-- A call that looks for its answer and finds `ACTIVATION_SUCCESS` returns `true`. -/
theorem step_of_success (awaits : before.position.awaits = true)
    (success : before.shm.state = .success) :
    ∃ after, before.step self opened .ok = some after ∧ after.position = .returned true := by
  have same : before.lock.shm = before.shm := by
    unfold lock
    split <;> rfl
  have read : before.lock.readAnswer.position = .returned true := by
    simp only [readAnswer, same, success]
    rfl
  cases position : before.position with
  | answerLock =>
      refine ⟨before.lock.readAnswer, ?_, read⟩
      simp [step, position, same, success]
  | answerWait =>
      refine ⟨before.lock.readAnswer, ?_, read⟩
      simp [step, position]
  | start | mapLock | idleWait | returned =>
      rw [position] at awaits
      cases awaits

/-! ## Calls stay regular -/

theorem sound_initial (shm : ActivationShm) : (initial shm).Sound where
  free := fun _ => ⟨rfl, rfl⟩
  mapped := by
    intro inside
    rcases inside with seeks | awaits
    · cases seeks
    · cases awaits
  unposted := fun _ => rfl
  posted := nofun

/-- A returned call is past all obligations. -/
private theorem sound_of_returned {call : Activation} {result : Bool}
    (position : call.position = .returned result) : call.Sound where
  free := fun running => absurd position (running result)
  mapped := by
    intro inside
    rw [position] at inside
    rcases inside with seeks | awaits
    · cases seeks
    · cases awaits
  unposted := by
    intro early
    rw [position] at early
    rcases early with start | seeks
    · cases start
    · cases seeks
  posted := by
    intro awaits
    rw [position] at awaits
    cases awaits

theorem Sound.step (sound : before.Sound) (next : ActivationStep self before status after) :
    after.Sound := by
  cases next with
  | unopened | ownerDied | busyTimedOut | busyWoken | refused | succeeded =>
      exact sound_of_returned rfl
  | opened position fits =>
      exact {
        free := fun _ => sound.free (by simp [position])
        mapped := fun _ => rfl
        unposted := fun _ => sound.unposted (Or.inl position)
        posted := nofun }
  | idleWaits left more busy =>
      have seeks : before.position.seeks = true := by
        rcases left with ⟨position, _⟩ | position <;> rw [position] <;> rfl
      exact {
        free := fun _ => sound.free (by
          rcases left with ⟨position, _⟩ | position <;> simp [position])
        mapped := fun _ => sound.mapped (Or.inl seeks)
        unposted := fun _ => sound.unposted (Or.inr seeks)
        posted := nofun }
  | post seeks idle =>
      exact {
        free := fun _ => sound.free (by
          rintro result position
          rw [position] at seeks
          cases seeks)
        mapped := fun _ => sound.mapped (Or.inl seeks)
        unposted := by
          rintro (start | seeks)
          · cases start
          · cases seeks
        posted := fun _ => rfl }
  | answerWaits position unanswered =>
      have awaits : before.position.awaits = true := by
        simp [position, ActivationPosition.awaits]
      exact {
        free := fun _ => sound.free (by simp [position])
        mapped := fun _ => sound.mapped (Or.inr awaits)
        unposted := by
          rintro (start | seeks)
          · cases start
          · cases seeks
        posted := fun _ => sound.posted awaits }

theorem Sound.move {action : Move} (sound : before.Sound)
    (moved : before.move self action = some after) : after.Sound := by
  cases action with
  | thread opened status => exact sound.step (activationStep_of_step sound moved)
  | write shm =>
      simp only [Activation.move] at moved
      split at moved
      · cases moved
      · cases moved
        exact ⟨sound.free, sound.mapped, sound.unposted, sound.posted⟩

theorem sound_of_reaches {admissible : Activation → Move → Prop} {shm : ActivationShm}
    (reached : Runs.Reaches (move self) admissible (initial shm) after) : after.Sound := by
  apply reached.invariant
  · exact sound_initial shm
  · intro before action later sound _ moved
    exact sound.move moved

end Activation

end Sawang
