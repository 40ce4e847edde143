import Sawang.Delivery.Step
import Sawang.Foundation.Wakeup

/-!
# The two consumers and their producers

The comm thread with any number of producers of parse tasks, and the subscribe
thread with any number of producers of replies.  A producer appends one item and
then calls `proxy_comm_awake` or `proxy_subscribe_awake`; until it has signalled,
the item is noted under its name.

The comm thread is modelled statement by statement: the pop that finds the queue
empty and the wait are two steps, and a producer may append between them.  What
the thread does for a task under `proxy_comm_lock` is the business of the board;
here it is one step that touches neither the queue nor the condition.
-/

namespace Sawang

/-! ## The comm thread -/

/-- A queued parse task and its place in the order of all appends. -/
structure QueuedTask extends ParseQueueTask where
  ticket : Nat
deriving DecidableEq

inductive ParsingPosition where
  | lock
  | loop
  | pop
  | serve (task : QueuedTask)
  | park
  | wait
  | finished
deriving DecidableEq

structure Parsing (ι : Type) where
  position : ParsingPosition
  parseQueue : List QueuedTask
  /-- `proxy_comm_wakeup` was signalled. -/
  commWakeup : Bool
  /-- `proxy_comm_end`. -/
  ended : Bool
  /-- Ghost: the number of tasks appended so far. -/
  appended : Nat
  /-- The task a producer has appended and not signalled yet. -/
  producers : ι → Option QueuedTask

namespace Parsing

variable {ι : Type}

def initial : Parsing ι where
  position := .lock
  parseQueue := []
  commWakeup := false
  ended := false
  appended := 0
  producers := fun _ => none

/-- The comm thread holds `proxy_comm_lock`. -/
def holdsLock (parsing : Parsing ι) : Bool :=
  match parsing.position with
  | .lock | .wait | .finished => false
  | _ => true

/-- The comm thread waits on `proxy_comm_wakeup`. -/
def Parked (parsing : Parsing ι) : Prop :=
  parsing.position = .wait ∧ parsing.commWakeup = false

/-- One step of `proxy_comm`. -/
def thread (parsing : Parsing ι) : Option (Parsing ι) :=
  match parsing.position with
  | .lock => some { parsing with position := .loop }
  | .loop =>
      if parsing.ended then some { parsing with position := .finished }
      else some { parsing with position := .pop }
  | .pop =>
      match parsing.parseQueue with
      | [] => some { parsing with position := .park }
      | task :: rest => some { parsing with parseQueue := rest, position := .serve task }
  | .serve _ => some { parsing with position := .pop }
  | .park => some { parsing with commWakeup := false, position := .wait }
  | .wait => if parsing.commWakeup then some { parsing with position := .loop } else none
  | .finished => none

inductive Action (ι : Type) where
  | append (producer : ι) (task : ParseQueueTask)
  /-- `proxy_comm_awake`. -/
  | awake (producer : ι)
  | thread
  /-- `proxy_comm_stop`. -/
  | stop
  /-- A spurious return of `pthread_cond_wait`. -/
  | spurious

def step [DecidableEq ι] (action : Action ι) (parsing : Parsing ι) :
    Option (Parsing ι) :=
  match action with
  | .append producer task =>
      match parsing.producers producer with
      | none =>
          let queued : QueuedTask := { toParseQueueTask := task, ticket := parsing.appended }
          some { parsing with
            parseQueue := parsing.parseQueue ++ [queued]
            appended := parsing.appended + 1
            producers := Function.update parsing.producers producer (some queued) }
      | some _ => none
  | .awake producer =>
      match parsing.producers producer with
      | none => none
      | some _ =>
          if parsing.holdsLock then none
          else
            some { parsing with
              commWakeup := true
              producers := Function.update parsing.producers producer none }
  | .thread => parsing.thread
  | .stop =>
      if parsing.holdsLock then none
      else some { parsing with ended := true, commWakeup := true }
  | .spurious => some { parsing with commWakeup := true }

/-! ## The comm thread is a waiting consumer -/

def phase (parsing : Parsing ι) : Wakeup.Phase :=
  match parsing.position with
  | .lock => .outside
  | .loop => .head
  | .pop | .serve _ => .draining
  | .park => .emptied
  | .wait => .waiting
  | .finished => .finished

/-- The comm thread puts nothing back. -/
def view (parsing : Parsing ι) : Wakeup.State ι QueuedTask where
  phase := parsing.phase
  signalled := parsing.commWakeup
  ended := parsing.ended
  queue := parsing.parseQueue
  returned := []
  pending := parsing.producers

theorem phase_holdsLock (parsing : Parsing ι) :
    parsing.phase.holdsLock = parsing.holdsLock := by
  unfold phase holdsLock
  cases parsing.position <;> rfl

theorem phase_of_position {parsing : Parsing ι} {position : ParsingPosition}
    (there : parsing.position = position) :
    parsing.phase = { parsing with position := position }.phase := by
  subst there
  rfl

private theorem view_thread [DecidableEq ι] {before after : Parsing ι}
    (next : before.thread = some after) :
    after.view = before.view ∨
      ∃ move, Wakeup.step move before.view = some after.view := by
  cases position : before.position with
  | lock =>
      have phase : before.phase = .outside := phase_of_position position
      simp only [thread, position] at next
      cases next
      exact Or.inr ⟨.enter, Wakeup.step_enter phase⟩
  | loop =>
      have phase : before.phase = .head := phase_of_position position
      simp only [thread, position] at next
      split at next
      · cases next
        exact Or.inr ⟨.quit, Wakeup.step_quit phase⟩
      · rename_i running
        cases next
        exact Or.inr ⟨.start, Wakeup.step_start phase (Bool.eq_false_iff.mpr running)⟩
  | pop =>
      have phase : before.phase = .draining := phase_of_position position
      simp only [thread, position] at next
      split at next
      · rename_i queue
        cases next
        exact Or.inr ⟨.empty, Wakeup.step_empty phase queue⟩
      · rename_i task rest queue
        cases next
        refine Or.inr ⟨.take, ?_⟩
        rw [Wakeup.step_take phase queue]
        simp only [view, phase]
        rfl
  | serve task =>
      have phase : before.phase = .draining := phase_of_position position
      simp only [thread, position] at next
      cases next
      refine Or.inl ?_
      simp only [view, phase]
      rfl
  | park =>
      have phase : before.phase = .emptied := phase_of_position position
      simp only [thread, position] at next
      cases next
      exact Or.inr ⟨.wait, Wakeup.step_wait (Or.inl phase)⟩
  | wait =>
      have phase : before.phase = .waiting := phase_of_position position
      simp only [thread, position] at next
      split at next
      · rename_i woken
        cases next
        exact Or.inr ⟨.wake, Wakeup.step_wake phase woken⟩
      · cases next
  | finished =>
      simp only [thread, position] at next
      cases next

theorem view_step [DecidableEq ι] {action : Action ι} {before after : Parsing ι}
    (next : step action before = some after) :
    after.view = before.view ∨
      ∃ move, Wakeup.step move before.view = some after.view := by
  cases action with
  | thread => exact view_thread next
  | append producer task =>
      simp only [step] at next
      split at next
      · rename_i free
        cases next
        exact Or.inr ⟨.append producer _, Wakeup.step_append free⟩
      · cases next
  | awake producer =>
      simp only [step] at next
      split at next
      · cases next
      · split at next
        · cases next
        · rename_i free
          cases next
          have unlocked : before.phase.holdsLock = false := by
            rw [phase_holdsLock]
            exact Bool.eq_false_iff.mpr free
          exact Or.inr ⟨.awake producer, Wakeup.step_awake unlocked⟩
  | stop =>
      simp only [step] at next
      split at next
      · cases next
      · rename_i free
        cases next
        have unlocked : before.phase.holdsLock = false := by
          rw [phase_holdsLock]
          exact Bool.eq_false_iff.mpr free
        exact Or.inr ⟨.stop, Wakeup.step_stop unlocked⟩
  | spurious =>
      cases next
      exact Or.inr ⟨.spurious, rfl⟩

theorem view_reaches [DecidableEq ι] {start state : Parsing ι}
    (reached : Runs.Reaches step Runs.unrestricted start state) :
    Runs.Reaches Wakeup.step Runs.unrestricted start.view state.view := by
  apply reached.project_unrestricted
  intro before action after _ next
  exact view_step next

end Parsing

/-! ## The subscribe thread -/

/-- The delivery of replies with the producers of the reply queue. -/
structure Subscribing (ι : Type) where
  delivery : Delivery
  /-- Ghost: the failed replies the thread pushed back last. -/
  returned : List QueuedReply
  /-- The reply a producer has appended and not signalled yet. -/
  producers : ι → Option QueuedReply

namespace Subscribing

variable {ι : Type}

def initial : Subscribing ι where
  delivery := .initial
  returned := []
  producers := fun _ => none

/-- The subscribe thread waits on `proxy_subscribe_wakeup`. -/
def Parked (subscribing : Subscribing ι) : Prop :=
  subscribing.delivery.position = .wait ∧ subscribing.delivery.subscribeWakeup = false

inductive Action (ι : Type) where
  | append (producer : ι) (reply : ReplyQueueTask)
  /-- `proxy_subscribe_awake`. -/
  | awake (producer : ι)
  /-- A move of the subscribe thread, of `proxy_subscribe_stop`, of the dispatcher
  or of the system. -/
  | move (move : Delivery.Move)

/-- The replies put back by `reply_queue_push_head`. -/
def pushedBack (action : Delivery.Move) (subscribing : Subscribing ι) : List QueuedReply :=
  match action, subscribing.delivery.position with
  | .thread _, .pushBack => subscribing.delivery.failedTask
  | _, _ => subscribing.returned

def step [DecidableEq ι] (action : Action ι) (subscribing : Subscribing ι) :
    Option (Subscribing ι) :=
  match action with
  | .append producer reply =>
      match subscribing.producers producer with
      | none =>
          let queued : QueuedReply :=
            { toReplyQueueTask := reply, ticket := subscribing.delivery.posted.length }
          some { subscribing with
            delivery := subscribing.delivery.append reply
            producers := Function.update subscribing.producers producer (some queued) }
      | some _ => none
  | .awake producer =>
      match subscribing.producers producer with
      | none => none
      | some _ =>
          (subscribing.delivery.move .awake).map fun delivery =>
            { subscribing with
              delivery := delivery
              producers := Function.update subscribing.producers producer none }
  -- only the producers append and awake
  | .move (.append _) | .move .awake => none
  | .move action =>
      (subscribing.delivery.move action).map fun delivery =>
        { subscribing with delivery := delivery, returned := subscribing.pushedBack action }

/-! ## The subscribe thread is a waiting consumer -/

end Subscribing

/-- A thread that is not alive any more passes the wait by. -/
def Delivery.phase (delivery : Delivery) : Wakeup.Phase :=
  match delivery.position with
  | .lock => .outside
  | .loop => .head
  | .idle | .pop | .shmLock _ | .answerWait _ | .idleAgain => .draining
  | .pushBack => if delivery.alive then .emptied else .draining
  | .park => if delivery.alive then .restored else .draining
  | .wait => .waiting
  | .finished => .finished

theorem Delivery.phase_holdsLock (delivery : Delivery) :
    delivery.phase.holdsLock = delivery.holdsLock := by
  unfold phase holdsLock
  cases delivery.position with
  | pushBack => cases delivery.alive <;> rfl
  | park => cases delivery.alive <;> rfl
  | _ => rfl

theorem Delivery.phase_of_position {delivery : Delivery} {position : SubscribePosition}
    (there : delivery.position = position) :
    delivery.phase = { delivery with position := position }.phase := by
  subst there
  rfl

namespace Subscribing

variable {ι : Type}

def view (subscribing : Subscribing ι) : Wakeup.State ι QueuedReply where
  phase := subscribing.delivery.phase
  signalled := subscribing.delivery.subscribeWakeup
  ended := subscribing.delivery.ended
  queue := subscribing.delivery.replyQueue
  returned := subscribing.returned
  pending := subscribing.producers

theorem pushedBack_elsewhere {subscribing : Subscribing ι} {action : Delivery.Move}
    (elsewhere : subscribing.delivery.position ≠ .pushBack) :
    subscribing.pushedBack action = subscribing.returned := by
  unfold pushedBack
  split
  · rename_i position
    exact absurd position elsewhere
  · rfl

/-- A step inside the loop that touches neither queue nor condition is not seen. -/
private theorem view_same {before : Subscribing ι} {action : Delivery.Move}
    {after : Delivery} (elsewhere : before.delivery.position ≠ .pushBack)
    (phase : after.phase = before.delivery.phase)
    (signalled : after.subscribeWakeup = before.delivery.subscribeWakeup)
    (ended : after.ended = before.delivery.ended)
    (queue : after.replyQueue = before.delivery.replyQueue) :
    view { before with delivery := after, returned := before.pushedBack action } =
      before.view := by
  simp only [view, pushedBack_elsewhere elsewhere, phase, signalled, ended, queue]

private theorem view_move [DecidableEq ι] {before : Subscribing ι} {action : Delivery.Move}
    {after : Delivery} (produces : (∀ reply, action ≠ .append reply) ∧ action ≠ .awake)
    (stepped : DeliveryStep before.delivery action after) :
    view { before with delivery := after, returned := before.pushedBack action } =
        before.view ∨
      ∃ move, Wakeup.step move before.view =
        some (view { before with
          delivery := after, returned := before.pushedBack action }) := by
  cases stepped with
  | append ticket => exact absurd rfl (produces.1 _)
  | awake free => exact absurd rfl produces.2
  | locked position =>
      have phase : before.delivery.phase = .outside := Delivery.phase_of_position position
      refine Or.inr ⟨.enter, ?_⟩
      rw [pushedBack_elsewhere (by simp [position])]
      exact Wakeup.step_enter phase
  | enter position alive running live =>
      have phase : before.delivery.phase = .head := Delivery.phase_of_position position
      refine Or.inr ⟨.start, ?_⟩
      rw [pushedBack_elsewhere (by simp [position])]
      exact Wakeup.step_start phase running
  | finish position past =>
      have phase : before.delivery.phase = .head := Delivery.phase_of_position position
      refine Or.inr ⟨.quit, ?_⟩
      rw [pushedBack_elsewhere (by simp [position])]
      exact Wakeup.step_quit phase
  | startPass position | exchange position | unsent position | deliver position
  | fail position | reset position =>
      have phase : before.delivery.phase = .draining := Delivery.phase_of_position position
      exact Or.inl (view_same (by simp [position]) phase.symm rfl rfl rfl)
  | empty position queue =>
      have phase : before.delivery.phase = .draining := Delivery.phase_of_position position
      cases alive : before.delivery.alive with
      | false =>
          refine Or.inl (view_same (by simp [position]) ?_ rfl rfl rfl)
          rw [phase]
          simp [Delivery.phase]
      | true =>
          refine Or.inr ⟨.empty, ?_⟩
          rw [pushedBack_elsewhere (by simp [position]), Wakeup.step_empty phase queue]
          simp [view, Delivery.phase, alive]
  | take position queue =>
      have phase : before.delivery.phase = .draining := Delivery.phase_of_position position
      refine Or.inr ⟨.take, ?_⟩
      rw [pushedBack_elsewhere (by simp [position]), Wakeup.step_take phase queue]
      simp only [view, phase]
      rfl
  | abandon position =>
      have phase : before.delivery.phase = .draining := by
        rcases position with ⟨position, _⟩ | ⟨position, _⟩ <;>
          exact Delivery.phase_of_position position
      refine Or.inl (view_same ?_ phase.symm rfl rfl rfl)
      rcases position with ⟨position, _⟩ | ⟨position, _⟩ <;> simp [position]
  | pushBack position =>
      have returned : ∀ created, before.pushedBack (.thread created) =
          before.delivery.failedTask := by
        intro created
        simp [pushedBack, position]
      refine Or.inr ⟨.putBack before.delivery.failedTask, ?_⟩
      cases alive : before.delivery.alive with
      | false =>
          have phase : before.delivery.phase = .draining := by
            simp [Delivery.phase, position, alive]
          rw [returned, Wakeup.step_putBack_draining phase]
          simp only [view, phase]
          simp [Delivery.phase]
      | true =>
          have phase : before.delivery.phase = .emptied := by
            simp [Delivery.phase, position, alive]
          rw [returned, Wakeup.step_putBack_emptied phase]
          simp [view, Delivery.phase, alive]
  | park position alive =>
      have phase : before.delivery.phase = .restored := by
        simp [Delivery.phase, position, alive]
      refine Or.inr ⟨.wait, ?_⟩
      rw [pushedBack_elsewhere (by simp [position])]
      exact Wakeup.step_wait (Or.inr phase)
  | leave position dead =>
      have phase : before.delivery.phase = .draining := by
        simp [Delivery.phase, position, dead]
      refine Or.inr ⟨.skip, ?_⟩
      rw [pushedBack_elsewhere (by simp [position])]
      exact Wakeup.step_skip phase
  | unpark position woken =>
      have phase : before.delivery.phase = .waiting := Delivery.phase_of_position position
      refine Or.inr ⟨.wake, ?_⟩
      rw [pushedBack_elsewhere (by simp [position])]
      exact Wakeup.step_wake phase woken
  | stopThread free =>
      have unlocked : before.delivery.phase.holdsLock = false := by
        rw [Delivery.phase_holdsLock]
        exact free
      exact Or.inr ⟨.stop, Wakeup.step_stop unlocked⟩
  | spuriousWait => exact Or.inr ⟨.spurious, rfl⟩
  | stopSegment => exact Or.inl rfl
  | dispatcher => exact Or.inl rfl
  | ownerDies => exact Or.inl rfl
  | spuriousAnswer => exact Or.inl rfl

theorem view_step [DecidableEq ι] {action : Action ι} {before after : Subscribing ι}
    (next : step action before = some after) :
    after.view = before.view ∨
      ∃ move, Wakeup.step move before.view = some after.view := by
  cases action with
  | append producer reply =>
      simp only [step] at next
      split at next
      · rename_i free
        cases next
        exact Or.inr ⟨.append producer _, Wakeup.step_append free⟩
      · cases next
  | awake producer =>
      simp only [step] at next
      split at next
      · cases next
      · obtain ⟨delivery, moved, rfl⟩ := Option.map_eq_some_iff.mp next
        cases Delivery.deliveryStep_of_move moved with
        | awake free =>
            have unlocked : before.delivery.phase.holdsLock = false := by
              rw [Delivery.phase_holdsLock]
              exact free
            exact Or.inr ⟨.awake producer, Wakeup.step_awake unlocked⟩
  | move action =>
      have moves : ∀ {after}, ((before.delivery.move action).map fun delivery =>
            { before with
              delivery := delivery, returned := before.pushedBack action }) = some after →
          (∀ reply, action ≠ .append reply) ∧ action ≠ .awake →
          after.view = before.view ∨
            ∃ move, Wakeup.step move before.view = some after.view := by
        intro after mapped produces
        obtain ⟨delivery, moved, rfl⟩ := Option.map_eq_some_iff.mp mapped
        exact view_move produces (Delivery.deliveryStep_of_move moved)
      cases action with
      | append reply => cases next
      | awake => cases next
      | _ => exact moves next ⟨nofun, nofun⟩

theorem view_reaches [DecidableEq ι] {start state : Subscribing ι}
    (reached : Runs.Reaches step Runs.unrestricted start state) :
    Runs.Reaches Wakeup.step Runs.unrestricted start.view state.view := by
  apply reached.project_unrestricted
  intro before action after _ next
  exact view_step next

end Subscribing

/-! ## No wake-up is lost -/

namespace Parsing

variable {ι : Type} [DecidableEq ι]

theorem sound_of_reaches {parsing : Parsing ι}
    (reached : Runs.Reaches step Runs.unrestricted initial parsing) :
    parsing.view.Sound :=
  Wakeup.State.sound_of_reaches rfl (view_reaches reached)

omit [DecidableEq ι] in
private theorem phase_eq_waiting_iff {parsing : Parsing ι} :
    parsing.phase = .waiting ↔ parsing.position = .wait := by
  unfold phase
  cases parsing.position <;> simp

/-- A task in the queue of a parked comm thread is one its producer has still to
signal. -/
theorem pending_of_parked {parsing : Parsing ι}
    (reached : Runs.Reaches step Runs.unrestricted initial parsing)
    (parked : parsing.Parked) :
    ∀ task ∈ parsing.parseQueue,
      ∃ producer, parsing.producers producer = some task := by
  intro task member
  have waits : parsing.view.Parked := ⟨phase_eq_waiting_iff.mpr parked.1, parked.2⟩
  rcases (sound_of_reaches reached).covered (Or.inr waits) task member with none | pending
  · cases none
  · exact pending

/-- After `proxy_comm_stop` the comm thread does not wait and does not begin to. -/
theorem never_parks {parsing later : Parsing ι}
    (reached : Runs.Reaches step Runs.unrestricted initial parsing)
    (ended : parsing.ended = true)
    (onwards : Runs.Reaches step Runs.unrestricted parsing later) :
    ¬later.Parked ∧ ∀ action after, step action later = some after →
      after.position = .wait → later.position = .wait := by
  have sound : later.view.Sound := sound_of_reaches (reached.trans onwards)
  have told : later.view.ended = true :=
    Wakeup.State.ended_of_reaches ended (view_reaches onwards)
  constructor
  · rintro ⟨position, unsignalled⟩
    exact sound.not_parked told ⟨phase_eq_waiting_iff.mpr position, unsignalled⟩
  · intro action after next waits
    have phase : after.view.phase = .waiting := phase_eq_waiting_iff.mpr waits
    exact phase_eq_waiting_iff.mp (sound.stays told (view_step next) phase)

end Parsing

namespace Subscribing

variable {ι : Type} [DecidableEq ι]

theorem sound_of_reaches {subscribing : Subscribing ι}
    (reached : Runs.Reaches step Runs.unrestricted initial subscribing) :
    subscribing.view.Sound :=
  Wakeup.State.sound_of_reaches rfl (view_reaches reached)

private theorem phase_eq_waiting_iff {delivery : Delivery} :
    delivery.phase = .waiting ↔ delivery.position = .wait := by
  unfold Delivery.phase
  cases delivery.position <;> cases delivery.alive <;> simp

/-- A reply in the queue of a parked subscribe thread is one the thread has pushed
back itself, or one its producer has still to signal. -/
theorem pending_of_parked {subscribing : Subscribing ι}
    (reached : Runs.Reaches step Runs.unrestricted initial subscribing)
    (parked : subscribing.Parked) :
    ∀ reply ∈ subscribing.delivery.replyQueue, reply ∈ subscribing.returned ∨
      ∃ producer, subscribing.producers producer = some reply := by
  have waits : subscribing.view.Parked := ⟨phase_eq_waiting_iff.mpr parked.1, parked.2⟩
  exact (sound_of_reaches reached).covered (Or.inr waits)

/-- After `proxy_subscribe_stop` the subscribe thread does not wait and does not begin
to. -/
theorem never_parks {subscribing later : Subscribing ι}
    (reached : Runs.Reaches step Runs.unrestricted initial subscribing)
    (ended : subscribing.delivery.ended = true)
    (onwards : Runs.Reaches step Runs.unrestricted subscribing later) :
    ¬later.Parked ∧ ∀ action after, step action later = some after →
      after.delivery.position = .wait → later.delivery.position = .wait := by
  have sound : later.view.Sound := sound_of_reaches (reached.trans onwards)
  have told : later.view.ended = true :=
    Wakeup.State.ended_of_reaches ended (view_reaches onwards)
  constructor
  · rintro ⟨position, unsignalled⟩
    exact sound.not_parked told ⟨phase_eq_waiting_iff.mpr position, unsignalled⟩
  · intro action after next waits
    have phase : after.view.phase = .waiting := phase_eq_waiting_iff.mpr waits
    exact phase_eq_waiting_iff.mp (sound.stays told (view_step next) phase)

end Subscribing

/-- Neither consumer loses a wake-up, and neither waits again once it was told to
stop. -/
theorem no_wakeup_lost {ι κ : Type} [DecidableEq ι] [DecidableEq κ]
    {parsing : Parsing ι} {subscribing : Subscribing κ}
    (comm : Runs.Reaches Parsing.step Runs.unrestricted .initial parsing)
    (subscribe : Runs.Reaches Subscribing.step Runs.unrestricted .initial subscribing) :
    (parsing.Parked → ∀ task ∈ parsing.parseQueue,
      ∃ producer, parsing.producers producer = some task) ∧
    (subscribing.Parked → ∀ reply ∈ subscribing.delivery.replyQueue,
      reply ∈ subscribing.returned ∨
        ∃ producer, subscribing.producers producer = some reply) ∧
    (parsing.ended = true →
      ∀ later, Runs.Reaches Parsing.step Runs.unrestricted parsing later →
        ¬later.Parked ∧ ∀ action after, Parsing.step action later = some after →
          after.position = .wait → later.position = .wait) ∧
    (subscribing.delivery.ended = true →
      ∀ later, Runs.Reaches Subscribing.step Runs.unrestricted subscribing later →
        ¬later.Parked ∧ ∀ action after, Subscribing.step action later = some after →
          after.delivery.position = .wait → later.delivery.position = .wait) :=
  ⟨fun parked => Parsing.pending_of_parked comm parked,
    fun parked => Subscribing.pending_of_parked subscribe parked,
    fun ended _ onwards => Parsing.never_parks comm ended onwards,
    fun ended _ onwards => Subscribing.never_parks subscribe ended onwards⟩

instance {ι : Type} (parsing : Parsing ι) : Decidable parsing.Parked :=
  inferInstanceAs (Decidable (_ ∧ _))

instance {ι : Type} (subscribing : Subscribing ι) : Decidable subscribing.Parked :=
  inferInstanceAs (Decidable (_ ∧ _))

/-- Both threads go to wait just after another item was appended; the subscribe
thread has also pushed back a reply it could not send. -/
theorem no_wakeup_lost_appended :
    ∃ (parsing : Parsing Bool) (subscribing : Subscribing Bool),
      (parsing.Parked ∧ parsing.parseQueue.length = 1) ∧
      (subscribing.Parked ∧ subscribing.delivery.replyQueue.length = 2) ∧
      (∀ task ∈ parsing.parseQueue,
        ∃ producer, parsing.producers producer = some task) ∧
      ∀ reply ∈ subscribing.delivery.replyQueue,
        reply ∈ subscribing.returned ∨
          ∃ producer, subscribing.producers producer = some reply := by
  obtain ⟨parsing, comm, parsed⟩ :=
    Runs.reaches_of_execute_test Parsing.step Runs.unrestricted
      (List.replicate 3 .thread ++
        [.append true (parseQueueTask "key" none none .singleshot "rid"), .thread])
      (Parsing.initial : Parsing Bool)
      (fun parsing => decide (parsing.Parked ∧ parsing.parseQueue.length = 1))
      (by decide)
  obtain ⟨subscribing, subscribe, subscribed⟩ :=
    Runs.reaches_of_execute_test Subscribing.step Runs.unrestricted
      ([.append false ⟨"first", false⟩, .awake false] ++
        List.replicate 8 (.move (.thread false)) ++
        [.append true ⟨"second", false⟩, .move (.thread false)])
      (Subscribing.initial : Subscribing Bool)
      (fun subscribing => decide (
        subscribing.Parked ∧ subscribing.delivery.replyQueue.length = 2))
      (by decide)
  have waits := of_decide_eq_true parsed
  have subscribes := of_decide_eq_true subscribed
  obtain ⟨tasks, replies, _, _⟩ := no_wakeup_lost comm subscribe
  exact ⟨parsing, subscribing, waits, subscribes, tasks waits.1, replies subscribes.1⟩

end Sawang
