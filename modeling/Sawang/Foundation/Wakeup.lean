import Mathlib.Logic.Function.Basic
import Sawang.Foundation.Runs

/-!
# A consumer that waits for a wake-up

One consumer empties a queue and then waits on a condition variable; producers
append to the queue and afterwards wake the consumer.  The queue has a lock of
its own, so that an item may be appended at any time.  The consumer holds the
lock of the condition from its first statement to its last, except while it
waits, and a wake-up has to take that lock.

The consumer may put items back before it waits, and it does not look at the
queue again after that.
-/

namespace Wakeup

universe u

/-- Where the consumer is. -/
inductive Phase where
  /-- The lock is not taken yet. -/
  | outside
  /-- The test whether to go on. -/
  | head
  | draining
  /-- The queue was found empty. -/
  | emptied
  /-- Items were put back into the queue. -/
  | restored
  | waiting
  | finished
deriving DecidableEq

def Phase.holdsLock : Phase → Bool
  | .outside | .waiting | .finished => false
  | _ => true

structure State (ι α : Type u) where
  phase : Phase
  /-- The condition was signalled since the wait began. -/
  signalled : Bool
  /-- The consumer was told to stop. -/
  ended : Bool
  queue : List α
  /-- The items the consumer put back last. -/
  returned : List α
  /-- The item a producer has appended and not signalled yet. -/
  pending : ι → Option α

inductive Move (ι α : Type u) where
  | append (producer : ι) (item : α)
  | awake (producer : ι)
  | stop
  /-- The wait returns without a signal. -/
  | spurious
  | enter
  | start
  | quit
  | take
  | empty
  | putBack (items : List α)
  | skip
  | wait
  | wake

variable {ι α : Type u}

/-- The consumer goes from one phase to another. -/
def State.advance (source target : Phase) (state : State ι α) : Option (State ι α) :=
  if state.phase = source then some { state with phase := target } else none

def step [DecidableEq ι] (move : Move ι α) (state : State ι α) : Option (State ι α) :=
  match move with
  | .append producer item =>
      match state.pending producer with
      | none =>
          some { state with
            queue := state.queue ++ [item]
            pending := Function.update state.pending producer (some item) }
      | some _ => none
  | .awake producer =>
      if state.phase.holdsLock then none
      else
        some { state with
          signalled := true, pending := Function.update state.pending producer none }
  | .stop =>
      if state.phase.holdsLock then none
      else some { state with ended := true, signalled := true }
  | .spurious => some { state with signalled := true }
  | .enter => state.advance .outside .head
  | .start => if state.ended then none else state.advance .head .draining
  | .quit => state.advance .head .finished
  | .take =>
      match state.queue with
      | [] => none
      | _ :: rest => { state with queue := rest }.advance .draining .draining
  | .empty =>
      match state.queue with
      | [] => state.advance .draining .emptied
      | _ :: _ => none
  | .putBack items =>
      match state.phase with
      | .draining =>
          some { state with queue := items ++ state.queue, returned := items }
      | .emptied =>
          some { state with
            queue := items ++ state.queue, returned := items, phase := .restored }
      | _ => none
  | .skip => state.advance .draining .head
  | .wait =>
      match state.phase with
      | .emptied | .restored => some { state with phase := .waiting, signalled := false }
      | _ => none
  | .wake => if state.signalled then state.advance .waiting .head else none

namespace State

theorem advance_eq_some_iff {source target : Phase} {state after : State ι α} :
    state.advance source target = some after ↔
      state.phase = source ∧ { state with phase := target } = after := by
  unfold advance
  split
  · rename_i there
    simp [there]
  · rename_i elsewhere
    simp [elsewhere]

end State

/-! ## What a move can do -/

/-- One constructor for each way a move succeeds. -/
inductive Stepped [DecidableEq ι] : State ι α → Move ι α → State ι α → Prop
  | append {state : State ι α} {producer : ι} {item : α}
      (free : state.pending producer = none) :
      Stepped state (.append producer item) { state with
        queue := state.queue ++ [item]
        pending := Function.update state.pending producer (some item) }
  | awake {state : State ι α} {producer : ι} (free : state.phase.holdsLock = false) :
      Stepped state (.awake producer) { state with
        signalled := true, pending := Function.update state.pending producer none }
  | stop {state : State ι α} (free : state.phase.holdsLock = false) :
      Stepped state .stop { state with ended := true, signalled := true }
  | spurious {state : State ι α} : Stepped state .spurious { state with signalled := true }
  | enter {state : State ι α} (phase : state.phase = .outside) :
      Stepped state .enter { state with phase := .head }
  | start {state : State ι α} (phase : state.phase = .head)
      (running : state.ended = false) :
      Stepped state .start { state with phase := .draining }
  | quit {state : State ι α} (phase : state.phase = .head) :
      Stepped state .quit { state with phase := .finished }
  | take {state : State ι α} {item : α} {rest : List α} (phase : state.phase = .draining)
      (queue : state.queue = item :: rest) :
      Stepped state .take { state with queue := rest }
  | empty {state : State ι α} (phase : state.phase = .draining)
      (queue : state.queue = []) :
      Stepped state .empty { state with phase := .emptied }
  | returns {state : State ι α} {items : List α} (phase : state.phase = .draining) :
      Stepped state (.putBack items)
        { state with queue := items ++ state.queue, returned := items }
  | restore {state : State ι α} {items : List α} (phase : state.phase = .emptied) :
      Stepped state (.putBack items) { state with
        queue := items ++ state.queue, returned := items, phase := .restored }
  | skip {state : State ι α} (phase : state.phase = .draining) :
      Stepped state .skip { state with phase := .head }
  | wait {state : State ι α} (phase : state.phase = .emptied ∨ state.phase = .restored) :
      Stepped state .wait { state with phase := .waiting, signalled := false }
  | wake {state : State ι α} (phase : state.phase = .waiting)
      (signalled : state.signalled = true) :
      Stepped state .wake { state with phase := .head }

theorem stepped_of_step [DecidableEq ι] {move : Move ι α} {before after : State ι α}
    (next : step move before = some after) : Stepped before move after := by
  cases move <;> simp only [step] at next
  case append producer item =>
    split at next
    · rename_i free
      cases next
      exact .append free
    · cases next
  case awake producer =>
    split at next
    · cases next
    · rename_i free
      cases next
      exact .awake (Bool.eq_false_iff.mpr free)
  case stop =>
    split at next
    · cases next
    · rename_i free
      cases next
      exact .stop (Bool.eq_false_iff.mpr free)
  case spurious =>
    cases next
    exact .spurious
  case enter =>
    obtain ⟨phase, rfl⟩ := State.advance_eq_some_iff.mp next
    exact .enter phase
  case start =>
    split at next
    · cases next
    · rename_i running
      obtain ⟨phase, rfl⟩ := State.advance_eq_some_iff.mp next
      exact .start phase (Bool.eq_false_iff.mpr running)
  case quit =>
    obtain ⟨phase, rfl⟩ := State.advance_eq_some_iff.mp next
    exact .quit phase
  case take =>
    split at next
    · cases next
    · rename_i item rest queue
      obtain ⟨phase, rfl⟩ := State.advance_eq_some_iff.mp next
      change before.phase = .draining at phase
      have taken : Stepped before .take { before with queue := rest } := .take phase queue
      rw [phase] at taken
      exact taken
  case empty =>
    split at next
    · rename_i queue
      obtain ⟨phase, rfl⟩ := State.advance_eq_some_iff.mp next
      exact .empty phase queue
    · cases next
  case putBack items =>
    split at next
    · rename_i phase
      cases next
      exact .returns phase
    · rename_i phase
      cases next
      exact .restore phase
    · cases next
  case skip =>
    obtain ⟨phase, rfl⟩ := State.advance_eq_some_iff.mp next
    exact .skip phase
  case wait =>
    split at next
    · rename_i phase
      cases next
      exact .wait (Or.inl phase)
    · rename_i phase
      cases next
      exact .wait (Or.inr phase)
    · cases next
  case wake =>
    split at next
    · rename_i signalled
      obtain ⟨phase, rfl⟩ := State.advance_eq_some_iff.mp next
      exact .wake phase signalled
    · cases next

/-! ## Where a move is enabled -/

section Enabled

variable [DecidableEq ι] {state : State ι α}

attribute [local simp] step

theorem step_append {producer : ι} {item : α} (free : state.pending producer = none) :
    step (.append producer item) state = some { state with
      queue := state.queue ++ [item]
      pending := Function.update state.pending producer (some item) } := by
  simp only [step, free]

theorem step_awake {producer : ι} (free : state.phase.holdsLock = false) :
    step (.awake producer) state = some { state with
      signalled := true, pending := Function.update state.pending producer none } := by
  simp [free]

theorem step_stop (free : state.phase.holdsLock = false) :
    step .stop state = some { state with ended := true, signalled := true } := by
  simp [free]

theorem step_enter (phase : state.phase = .outside) :
    step .enter state = some { state with phase := .head } :=
  State.advance_eq_some_iff.mpr ⟨phase, rfl⟩

theorem step_start (phase : state.phase = .head) (running : state.ended = false) :
    step .start state = some { state with phase := .draining } := by
  simp [running, State.advance, phase]

theorem step_quit (phase : state.phase = .head) :
    step .quit state = some { state with phase := .finished } :=
  State.advance_eq_some_iff.mpr ⟨phase, rfl⟩

theorem step_take {item : α} {rest : List α} (phase : state.phase = .draining)
    (queue : state.queue = item :: rest) :
    step .take state = some { state with queue := rest } := by
  simp [queue, State.advance, phase]

theorem step_empty (phase : state.phase = .draining) (queue : state.queue = []) :
    step .empty state = some { state with phase := .emptied } := by
  simp [queue, State.advance, phase]

theorem step_putBack_draining {items : List α} (phase : state.phase = .draining) :
    step (.putBack items) state =
      some { state with queue := items ++ state.queue, returned := items } := by
  simp only [step, phase]

theorem step_putBack_emptied {items : List α} (phase : state.phase = .emptied) :
    step (.putBack items) state = some { state with
      queue := items ++ state.queue, returned := items, phase := .restored } := by
  simp only [step, phase]

theorem step_skip (phase : state.phase = .draining) :
    step .skip state = some { state with phase := .head } :=
  State.advance_eq_some_iff.mpr ⟨phase, rfl⟩

theorem step_wait (phase : state.phase = .emptied ∨ state.phase = .restored) :
    step .wait state = some { state with phase := .waiting, signalled := false } := by
  rcases phase with phase | phase <;> simp only [step, phase]

theorem step_wake (phase : state.phase = .waiting) (signalled : state.signalled = true) :
    step .wake state = some { state with phase := .head } := by
  simp [signalled, State.advance, phase]

end Enabled

/-! ## No wake-up is lost -/

namespace State

/-- The consumer waits and nobody has signalled. -/
def Parked (state : State ι α) : Prop :=
  state.phase = .waiting ∧ state.signalled = false

/-- A producer has still to signal the item. -/
def Pending (state : State ι α) (item : α) : Prop :=
  ∃ producer, state.pending producer = some item

/-- What is in the queue when the consumer goes to wait will be signalled, or the
consumer has put it there; and a consumer that was told to stop will find out. -/
structure Sound (state : State ι α) : Prop where
  emptied : state.phase = .emptied → ∀ item ∈ state.queue, state.Pending item
  covered : state.phase = .restored ∨ state.Parked →
    ∀ item ∈ state.queue, item ∈ state.returned ∨ state.Pending item
  stopped : state.ended = true →
    state.phase = .outside ∨ state.phase = .head ∨ state.phase = .finished ∨
      state.phase = .waiting ∧ state.signalled = true

/-- An appended item is pending, and so is what was pending before. -/
private theorem pending_append [DecidableEq ι] {state : State ι α} {producer : ι}
    {item other : α} (free : state.pending producer = none)
    (cases : other = item ∨ state.Pending other) :
    ∃ owner, Function.update state.pending producer (some item) owner = some other := by
  rcases cases with rfl | ⟨owner, holds⟩
  · exact ⟨producer, Function.update_self ..⟩
  · have different : owner ≠ producer := by
      rintro rfl
      rw [free] at holds
      cases holds
    refine ⟨owner, ?_⟩
    rw [Function.update_of_ne different]
    exact holds

private theorem Sound.append [DecidableEq ι] {before : State ι α} (sound : before.Sound)
    {producer : ι} (item : α) (free : before.pending producer = none) :
    Sound { before with
      queue := before.queue ++ [item]
      pending := Function.update before.pending producer (some item) } where
  emptied := by
    intro phase other member
    refine pending_append free ?_
    rcases List.mem_append.mp member with old | new
    · exact Or.inr (sound.emptied phase other old)
    · exact Or.inl (List.mem_singleton.mp new)
  covered := by
    intro phase other member
    rcases List.mem_append.mp member with old | new
    · rcases sound.covered phase other old with returned | pending
      · exact Or.inl returned
      · exact Or.inr (pending_append free (Or.inr pending))
    · exact Or.inr (pending_append free (Or.inl (List.mem_singleton.mp new)))
  stopped := sound.stopped

/-- A signal finds the consumer outside the phases that the invariant is about. -/
private theorem sound_signal {before : State ι α} (free : before.phase.holdsLock = false)
    (ended : Bool) (pending : ι → Option α) :
    Sound { before with signalled := true, ended := ended, pending := pending } where
  emptied := by
    intro phase
    change before.phase = .emptied at phase
    rw [phase] at free
    cases free
  covered := by
    rintro (phase | ⟨_, unsignalled⟩)
    · change before.phase = .restored at phase
      rw [phase] at free
      cases free
    · cases unsignalled
  stopped := by
    intro _
    change before.phase = _ ∨ before.phase = _ ∨ before.phase = _ ∨ before.phase = _ ∧ _
    cases phase : before.phase with
    | outside => exact Or.inl rfl
    | finished => exact Or.inr (Or.inr (Or.inl rfl))
    | waiting => exact Or.inr (Or.inr (Or.inr ⟨rfl, rfl⟩))
    | _ =>
        rw [phase] at free
        cases free

/-- Before it looks at the queue the consumer owes nothing. -/
private theorem sound_of_phase {state : State ι α} {phase : Phase}
    (there : state.phase = phase) (early : phase = .head ∨ phase = .finished ∨
      phase = .draining ∧ state.ended = false) : state.Sound where
  emptied := by
    intro emptied
    rw [there] at emptied
    rcases early with rfl | rfl | ⟨rfl, _⟩ <;> cases emptied
  covered := by
    rintro (restored | ⟨waiting, _⟩)
    · rw [there] at restored
      rcases early with rfl | rfl | ⟨rfl, _⟩ <;> cases restored
    · rw [there] at waiting
      rcases early with rfl | rfl | ⟨rfl, _⟩ <;> cases waiting
  stopped := by
    intro ended
    rw [there]
    rcases early with rfl | rfl | ⟨_, running⟩
    · exact Or.inr (Or.inl rfl)
    · exact Or.inr (Or.inr (Or.inl rfl))
    · rw [running] at ended
      cases ended

/-- A consumer that works on the queue was not told to stop. -/
private theorem Sound.running {state : State ι α} (sound : state.Sound)
    (works : state.phase = .draining ∨ state.phase = .emptied ∨ state.phase = .restored) :
    state.ended = false := by
  by_contra running
  have ended : state.ended = true := by simpa using running
  rcases sound.stopped ended with phase | phase | phase | ⟨phase, _⟩ <;>
  · rw [phase] at works
    rcases works with works | works | works <;> cases works

private theorem sound_of_running {state : State ι α} (running : state.ended = false)
    (emptied : state.phase = .emptied → ∀ item ∈ state.queue, state.Pending item)
    (covered : state.phase = .restored ∨ state.Parked →
      ∀ item ∈ state.queue, item ∈ state.returned ∨ state.Pending item) : state.Sound where
  emptied := emptied
  covered := covered
  stopped := by
    intro ended
    rw [running] at ended
    cases ended

theorem Sound.step [DecidableEq ι] {move : Move ι α} {before after : State ι α}
    (sound : before.Sound) (next : Stepped before move after) : after.Sound := by
  cases next with
  | @append producer item free => exact sound.append item free
  | awake free => exact sound_signal free before.ended _
  | stop free => exact sound_signal free true before.pending
  | spurious =>
      refine ⟨sound.emptied, ?_, ?_⟩
      · rintro (restored | ⟨_, unsignalled⟩)
        · exact sound.covered (Or.inl restored)
        · cases unsignalled
      · intro ended
        rcases sound.stopped ended with phase | phase | phase | ⟨phase, _⟩
        · exact Or.inl phase
        · exact Or.inr (Or.inl phase)
        · exact Or.inr (Or.inr (Or.inl phase))
        · exact Or.inr (Or.inr (Or.inr ⟨phase, rfl⟩))
  | enter phase => exact sound_of_phase rfl (Or.inl rfl)
  | start phase running => exact sound_of_phase rfl (Or.inr (Or.inr ⟨rfl, running⟩))
  | quit phase => exact sound_of_phase rfl (Or.inr (Or.inl rfl))
  | take phase queue =>
      exact sound_of_phase phase (Or.inr (Or.inr ⟨rfl, sound.running (Or.inl phase)⟩))
  | empty phase queue =>
      refine sound_of_running (sound.running (Or.inl phase)) ?_ ?_
      · intro _ item member
        change item ∈ before.queue at member
        rw [queue] at member
        cases member
      · rintro (restored | ⟨waiting, _⟩)
        · cases restored
        · cases waiting
  | returns phase =>
      exact sound_of_phase phase (Or.inr (Or.inr ⟨rfl, sound.running (Or.inl phase)⟩))
  | restore phase =>
      refine sound_of_running (sound.running (Or.inr (Or.inl phase))) nofun ?_
      intro _ item member
      rcases List.mem_append.mp member with returned | queued
      · exact Or.inl returned
      · exact Or.inr (sound.emptied phase item queued)
  | skip phase => exact sound_of_phase rfl (Or.inl rfl)
  | wait phase =>
      refine sound_of_running (sound.running (Or.inr phase)) nofun ?_
      intro _ item member
      rcases phase with emptied | restored
      · exact Or.inr (sound.emptied emptied item member)
      · exact sound.covered (Or.inl restored) item member
  | wake phase signalled => exact sound_of_phase rfl (Or.inl rfl)

theorem sound_of_reaches [DecidableEq ι] {admissible : State ι α → Move ι α → Prop}
    {start state : State ι α} (initial : start.phase = .outside)
    (reached : Runs.Reaches Wakeup.step admissible start state) : state.Sound := by
  apply reached.invariant
  · refine ⟨?_, ?_, fun _ => Or.inl initial⟩
    · intro emptied
      rw [initial] at emptied
      cases emptied
    · rintro (restored | ⟨waiting, _⟩)
      · rw [initial] at restored
        cases restored
      · rw [initial] at waiting
        cases waiting
  · intro before move after sound _ next
    exact sound.step (stepped_of_step next)

/-! ## A stopped consumer -/

/-- A consumer that was told to stop does not wait for a signal. -/
theorem Sound.not_parked {state : State ι α} (sound : state.Sound)
    (ended : state.ended = true) : ¬state.Parked := by
  rintro ⟨phase, unsignalled⟩
  rcases sound.stopped ended with other | other | other | ⟨_, signalled⟩
  · rw [phase] at other
    cases other
  · rw [phase] at other
    cases other
  · rw [phase] at other
    cases other
  · rw [unsignalled] at signalled
    cases signalled

/-- A consumer that was told to stop does not begin to wait. -/
theorem Sound.never_waits [DecidableEq ι] {move : Move ι α} {before after : State ι α}
    (sound : before.Sound) (ended : before.ended = true)
    (next : Wakeup.step move before = some after) (waits : after.phase = .waiting) :
    before.phase = .waiting := by
  cases stepped_of_step next with
  | wait phase =>
      have running := sound.running (Or.inr phase)
      rw [ended] at running
      cases running
  | append | awake | stop | spurious | take | returns => exact waits
  | enter | start | quit | empty | restore | skip | wake => cases waits

/-- A change that is no step or a step does not begin a wait of such a consumer. -/
theorem Sound.stays [DecidableEq ι] {before after : State ι α} (sound : before.Sound)
    (ended : before.ended = true)
    (changes : after = before ∨ ∃ move, Wakeup.step move before = some after)
    (waits : after.phase = .waiting) : before.phase = .waiting := by
  rcases changes with same | ⟨move, moved⟩
  · rw [same] at waits
    exact waits
  · exact sound.never_waits ended moved waits

/-- It stays told. -/
theorem ended_of_reaches [DecidableEq ι] {admissible : State ι α → Move ι α → Prop}
    {start state : State ι α} (ended : start.ended = true)
    (reached : Runs.Reaches Wakeup.step admissible start state) : state.ended = true := by
  apply reached.invariant
  · exact ended
  · intro before move after told _ next
    cases stepped_of_step next with
    | stop free => rfl
    | _ => exact told

end State

end Wakeup
