import Sawang.Board.Ledger

/-!
# Reply calls in progress

A call copies one list of one table, visits it in order and appends one reply to
exactly the copied uuids.
-/

namespace Sawang

open Board

namespace ReplyCall

/-- The copied list and the list under construction fit the position. -/
def Shape (call : ReplyCall) : Prop :=
  match call.position with
  | .lookupSingleshot | .lookupMultirespond => call.uuids = []
  | .drops rid rest =>
      call.which = .singleshot ∧ call.uuids = rid ++ rest ∧ 1 < call.uuids.length
  | .append rid => rid = call.uuids
  | .awake | .returned => True

structure Sound (history : List Event) (call : ReplyCall) : Prop where
  shape : call.Shape
  distinct : call.uuids.Nodup
  registered : ∀ uuid ∈ call.uuids, ∃ unsubscribe,
    .registered call.which call.taskKey uuid unsubscribe ∈ history

theorem Sound.mono {call : ReplyCall} {history longer : List Event}
    (sound : call.Sound history) (grows : history ⊆ longer) : call.Sound longer where
  shape := sound.shape
  distinct := sound.distinct
  registered := by
    intro uuid member
    obtain ⟨unsubscribe, recorded⟩ := sound.registered uuid member
    exact ⟨unsubscribe, grows recorded⟩

theorem sound_replyCall (env : Environment) (arg : ProxyReplyArg)
    (headers payload : Option Json) (confirms : Option ParseQueueTask)
    (history : List Event) :
    (replyCall env arg headers payload confirms).Sound history where
  shape := rfl
  distinct := List.nodup_nil
  registered := by
    intro uuid member
    cases member

theorem found_shape (call : ReplyCall) (which : RespondTableType) {uuids : List String}
    (nonempty : uuids ≠ []) : (call.found which uuids).Shape := by
  unfold Shape found
  by_cases several : 1 < uuids.length
  · cases which with
    | singleshot => simp [several]
    | multirespond => simp [several]
  · have one : uuids.length = 1 := by
      have positive := List.length_pos_iff.mpr nonempty
      omega
    simp [one]

/-- Moving on keeps what was copied. -/
theorem Sound.moveTo {call : ReplyCall} {history : List Event}
    {position : ReplyPosition} (sound : call.Sound history)
    (shape : (call.moveTo position).Shape) : (call.moveTo position).Sound history where
  shape := shape
  distinct := sound.distinct
  registered := sound.registered

/-- The recipients of the reply a call appends are the copied uuids. -/
theorem recipients_reply (env : Environment) (call : ReplyCall) (rid : List String) :
    (call.reply env rid).recipients env = rid :=
  recipients_replyQueueTask env rid _ _ _

/-- The reply the call is going to append names the uuid. -/
def Carries (call : ReplyCall) (uuid : String) : Prop :=
  match call.position with
  | .drops _ _ | .append _ => uuid ∈ call.uuids
  | _ => False

instance (call : ReplyCall) (uuid : String) : Decidable (call.Carries uuid) := by
  unfold Carries
  split <;> infer_instance

/-- The call appends its reply next. -/
def Appends (call : ReplyCall) : Prop :=
  match call.position with
  | .append _ => True
  | _ => False

instance (call : ReplyCall) : Decidable call.Appends := by
  unfold Appends
  split <;> infer_instance

/-- The copied uuids that the call has still to drop. -/
def remaining (call : ReplyCall) : List String :=
  match call.position with
  | .drops _ rest => rest
  | _ => []

theorem carries_found {call : ReplyCall} {which : RespondTableType}
    {uuids : List String} {uuid : String} :
    (call.found which uuids).Carries uuid ↔ uuid ∈ uuids := by
  unfold Carries found
  by_cases several : 1 < uuids.length
  · cases which <;> simp [several]
  · by_cases one : uuids.length = 1
    · simp [one]
    · have none : uuids = [] := List.length_eq_zero_iff.mp (by omega)
      simp [none]

end ReplyCall

def CallsSound (board : Board) : Prop :=
  ∀ call ∈ board.calls, call.Sound board.history

namespace CallsSound

private theorem set {calls : List ReplyCall} {history : List Event} {index : Nat}
    {moved : ReplyCall} (sound : ∀ call ∈ calls, call.Sound history)
    (movedSound : moved.Sound history) :
    ∀ call ∈ calls.set index moved, call.Sound history := by
  intro call member
  rcases List.mem_or_eq_of_mem_set member with old | rfl
  · exact sound call old
  · exact movedSound

private theorem push {calls : List ReplyCall} {history : List Event}
    {fresh : ReplyCall} (sound : ∀ call ∈ calls, call.Sound history)
    (freshSound : fresh.Sound history) :
    ∀ call ∈ calls ++ [fresh], call.Sound history := by
  intro call member
  rcases List.mem_append.mp member with old | new
  · exact sound call old
  · rw [List.mem_singleton.mp new]
    exact freshSound

theorem step {env : Environment} {before after : Board} {action : Move}
    (step : BoardStep env before action after) (ledger : Ledger before)
    (sound : CallsSound before) : CallsSound after := by
  have recorded : ∀ event : Event, ∀ call ∈ before.calls,
      call.Sound (event :: before.history) :=
    fun event call member => (sound call member).mono (List.subset_cons_self _ _)
  have own : ∀ {index : Nat} {call : ReplyCall},
      before.calls[index]? = some call → call.Sound before.history :=
    fun there => sound _ (List.mem_of_getElem? there)
  cases step with
  | confirm idle => exact recorded _
  | reject next => exact recorded _
  | channelAwake next awakes => exact sound
  | refuse next refused => exact sound
  | accept next resolved => exact sound
  | subscribed next new => exact recorded _
  | subscribedBefore next old => exact sound
  | registered next => exact recorded _
  | registeredUnsubscribe next => exact recorded _
  | enqueue next => exact recorded _
  | dequeue free head => exact recorded _
  | dropAbsent next drops absent => exact sound
  | dropLast next drops present last clears => exact recorded _
  | dropQuiet next drops present quiet => exact recorded _
  | clear next built => exact recorded _
  | confirmCall next built => exact push sound (ReplyCall.sound_replyCall _ _ _ _ _ _)
  | awaited next there finished => exact sound
  | run next built normal => exact recorded _
  | runDrop next built drop => exact sound
  | callbackReturn next => exact sound
  | callbackReply next => exact push sound (ReplyCall.sound_replyCall _ _ _ _ _ _)
  | requestUnknown next => exact sound
  | requestFound next resolved => exact sound
  | foundSingleshot there position present =>
      refine set sound ⟨ReplyCall.found_shape _ _ present, ?_, ?_⟩
      · exact RespondTable.uuids_nodup _ _
      · exact fun uuid member => ledger.singleshot _ uuid member
  | foundMultirespond there position present =>
      refine set sound ⟨ReplyCall.found_shape _ _ present, ?_, ?_⟩
      · exact RespondTable.uuids_nodup _ _
      · exact fun uuid member => ⟨false, ledger.multirespond _ uuid member⟩
  | advance there passes =>
      have shape := (own there).shape
      refine set sound ((own there).moveTo ?_)
      rcases passes with ⟨from_, rfl, _⟩ | ⟨from_, rfl, _⟩ | ⟨rid, from_, rfl⟩ | ⟨from_, rfl⟩
      · simpa [ReplyCall.Shape, ReplyCall.moveTo, from_] using shape
      · trivial
      · simp only [ReplyCall.Shape, from_, List.append_nil] at shape
        exact shape.2.1.symm
      · trivial
  | dropRecipient there position =>
      have shape := (own there).shape
      refine set sound ((own there).moveTo ?_)
      simp only [ReplyCall.Shape, position] at shape
      simpa [ReplyCall.Shape, ReplyCall.moveTo] using shape
  | append there position =>
      refine set (recorded _) (ReplyCall.Sound.mono ((own there).moveTo ?_)
        (List.subset_cons_self _ _))
      trivial
  | proxyReply => exact push sound (ReplyCall.sound_replyCall _ _ _ _ _ _)
  | crash => exact sound

end CallsSound

/-- The calls that do not move are still there. -/
theorem mem_set_of_mem {α : Type} {items : List α} {index : Nat} {item other : α}
    (moved : α) (there : items[index]? = some item) (member : other ∈ items) :
    other = item ∨ other ∈ items.set index moved := by
  obtain ⟨position, at_⟩ := List.mem_iff_getElem?.mp member
  by_cases same : index = position
  · subst same
    exact Or.inl (Option.some.inj (at_.symm.trans there))
  · right
    apply List.mem_iff_getElem?.mpr
    exact ⟨position, (List.getElem?_set_ne same).trans at_⟩

theorem mem_set_self {α : Type} {items : List α} {index : Nat} {item : α} (moved : α)
    (there : items[index]? = some item) : moved ∈ items.set index moved := by
  obtain ⟨bound, _⟩ := List.getElem?_eq_some_iff.mp there
  exact List.mem_set bound moved

/-- What a step of a call makes of it. -/
inductive ReplyCall.Moves (board : Board) (call : ReplyCall) : ReplyCall → Prop
  | foundSingleshot (position : call.position = .lookupSingleshot)
      (present : board.singleshot.uuids call.taskKey ≠ []) :
      Moves board call (call.found .singleshot (board.singleshot.uuids call.taskKey))
  | foundMultirespond (position : call.position = .lookupMultirespond)
      (present : board.multirespond.uuids call.taskKey ≠ []) :
      Moves board call (call.found .multirespond (board.multirespond.uuids call.taskKey))
  | elsewhere (position : call.position = .lookupSingleshot)
      (absent : board.singleshot.uuids call.taskKey = []) :
      Moves board call (call.moveTo .lookupMultirespond)
  | nobody (position : call.position = .lookupMultirespond)
      (absent : board.multirespond.uuids call.taskKey = []) :
      Moves board call (call.moveTo .returned)
  | drop {uuid : String} {rid rest : List String}
      (position : call.position = .drops rid (uuid :: rest)) :
      Moves board call (call.moveTo (.drops (rid ++ [uuid]) rest))
  | dropped {rid : List String} (position : call.position = .drops rid []) :
      Moves board call (call.moveTo (.append rid))
  | append {rid : List String} (position : call.position = .append rid) :
      Moves board call (call.moveTo .awake)
  | awake (position : call.position = .awake) : Moves board call (call.moveTo .returned)

/-- A call stays where it is, or it moves. -/
theorem call_step {env : Environment} {before after : Board} {action : Move} {index : Nat}
    {call : ReplyCall} (there : before.calls[index]? = some call)
    (step : BoardStep env before action after) :
    ∃ next, after.calls[index]? = some next ∧ (next = call ∨ call.Moves before next) := by
  obtain ⟨inside, _⟩ := List.getElem?_eq_some_iff.mp there
  have set : ∀ {moving : Nat} {mover moved : ReplyCall},
      before.calls[moving]? = some mover → mover.Moves before moved →
      ∃ next, (before.calls.set moving moved)[index]? = some next ∧
        (next = call ∨ call.Moves before next) := by
    intro moving mover moved here moves
    by_cases own : moving = index
    · subst own
      cases there.symm.trans here
      exact ⟨moved, List.getElem?_set_self inside, .inr moves⟩
    · exact ⟨call, (List.getElem?_set_ne own).trans there, .inl rfl⟩
  have push : ∀ new : ReplyCall,
      ∃ next, (before.calls ++ [new])[index]? = some next ∧
        (next = call ∨ call.Moves before next) :=
    fun new => ⟨call, (List.getElem?_append_left inside).trans there, .inl rfl⟩
  cases step with
  | foundSingleshot here position present => exact set here (.foundSingleshot position present)
  | foundMultirespond here position present =>
      exact set here (.foundMultirespond position present)
  | advance here passes =>
      apply set here
      rcases passes with ⟨from_, rfl, absent⟩ | ⟨from_, rfl, absent⟩ | ⟨rid, from_, rfl⟩ |
        ⟨from_, rfl⟩
      · exact .elsewhere from_ absent
      · exact .nobody from_ absent
      · exact .dropped from_
      · exact .awake from_
  | dropRecipient here position => exact set here (.drop position)
  | append here position => exact set here (.append position)
  | confirmCall | callbackReply | proxyReply => exact push _
  | _ => exact ⟨call, there, .inl rfl⟩

/-! ## Replies -/

/-- The reply an event appends to the reply queue. -/
def Event.reply (env : Environment) : Event → Option ReplyQueueTask
  | .rejected rid status => some (invalidStatusReply env rid status)
  | .replied _ _ reply => some reply
  | _ => none

namespace Board

/-- Every appended reply, newest first. -/
def replies (env : Environment) (board : Board) : List ReplyQueueTask :=
  board.history.filterMap (Event.reply env)

theorem replies_record (env : Environment) (event : Event) (board : Board) :
    (board.record event).replies env =
      (event.reply env).toList ++ board.replies env := by
  unfold replies record
  cases appended : event.reply env with
  | none => exact List.filterMap_cons_none appended
  | some reply => exact List.filterMap_cons_some appended

/-- The appended replies that have the uuid among their recipients. -/
def repliesNaming (env : Environment) (uuid : String) (board : Board) :
    List ReplyQueueTask :=
  (board.replies env).filter fun reply => uuid ∈ reply.recipients env

/-- Some appended reply has the uuid among its recipients. -/
def Named (env : Environment) (board : Board) (uuid : String) : Prop :=
  ∃ reply ∈ board.replies env, uuid ∈ reply.recipients env

end Board

/-- The event appends a reply that names the uuid. -/
def Event.Names (env : Environment) (uuid : String) (event : Event) : Prop :=
  ∃ reply, event.reply env = some reply ∧ uuid ∈ reply.recipients env

instance (env : Environment) (uuid : String) (event : Event) :
    Decidable (event.Names env uuid) :=
  inferInstanceAs (Decidable
    (∃ reply ∈ event.reply env, uuid ∈ reply.recipients env))

theorem named_of_names {env : Environment} {board : Board} {uuid : String} {event : Event}
    (member : event ∈ board.history) (names : event.Names env uuid) :
    board.Named env uuid := by
  obtain ⟨reply, replied, recipient⟩ := names
  exact ⟨reply, List.mem_filterMap.mpr ⟨event, member, replied⟩, recipient⟩

namespace Board

/-- The id was refused or registered. -/
def Known (board : Board) (rid : String) : Prop :=
  (∃ status, .rejected rid status ∈ board.history) ∨
    ∃ type taskKey unsubscribe,
      .registered type taskKey rid unsubscribe ∈ board.history

theorem Known.mono {before after : Board} {rid : String} (known : before.Known rid)
    (grows : before.history ⊆ after.history) : after.Known rid := by
  rcases known with ⟨status, rejected⟩ | ⟨type, taskKey, unsubscribe, registered⟩
  · exact Or.inl ⟨status, grows rejected⟩
  · exact Or.inr ⟨type, taskKey, unsubscribe, grows registered⟩

end Board

/-- The id that an operation of the channel thread refuses or registers. -/
def ChannelOp.settles : ChannelOp → Option String
  | .replyQueueAppendInvalidStatus rid _ => some rid
  | .respondTableSet _ _ rid => some rid
  | .respondTableSetUnsubscribe _ rid => some rid
  | _ => none

/-- An id about to be refused or registered is not known yet. -/
theorem Ledger.not_known {board : Board} (ledger : Ledger board) {op : ChannelOp}
    {rest : List ChannelOp} {rid : String} (next : board.job = op :: rest)
    (settles : op.settles = some rid) : ¬board.Known rid := by
  have queuedOnly : ∀ event ∈ board.history, event.effectOn rid = true →
      ∃ task, event = .enqueued task := by
    intro event recorded own
    have effect := mem_effects_iff.mpr ⟨recorded, own⟩
    cases op with
    | replyQueueAppendInvalidStatus named status =>
        cases settles
        rw [(ledger.refusing next).1.soFar] at effect
        cases effect
    | respondTableSet type taskKey named =>
        cases settles
        rw [(ledger.setting next).1.soFar] at effect
        cases effect
    | respondTableSetUnsubscribe taskKey named =>
        cases settles
        obtain ⟨task, works, _⟩ := ledger.registering next
        rw [works.soFar] at effect
        exact ⟨task, List.mem_singleton.mp effect⟩
    | _ => cases settles
  rintro (⟨status, rejected⟩ | ⟨type, taskKey, unsubscribe, registered⟩)
  · obtain ⟨task, same⟩ := queuedOnly _ rejected (beq_self_eq_true rid)
    cases same
  · obtain ⟨task, same⟩ := queuedOnly _ registered (beq_self_eq_true rid)
    cases same

/-- A settled request is known. -/
theorem Outcome.known {board : Board} {rid : String}
    (outcome : Outcome rid (effects rid board.history)) : board.Known rid := by
  have recorded : ∀ {event : Event}, event ∈ effects rid board.history →
      event ∈ board.history := fun member => (mem_effects_iff.mp member).1
  generalize effects rid board.history = known at outcome recorded
  cases outcome with
  | rejected status => exact Or.inl ⟨status, recorded List.mem_cons_self⟩
  | queued own key kind normal =>
      exact Or.inr ⟨_, _, _, recorded (List.mem_cons_of_mem _ List.mem_cons_self)⟩
  | unsubscribed own key kind drops => exact Or.inr ⟨_, _, _, recorded List.mem_cons_self⟩

/-- Nothing more happens to a settled request. -/
theorem Outcome.step {env : Environment} {before after : Board} {action : Move}
    {rid : String} (outcome : Outcome rid (effects rid before.history))
    (ledger : Ledger before) (step : BoardStep env before action after) :
    Outcome rid (effects rid after.history) := by
  have unknown : ∀ {op : ChannelOp} {rest : List ChannelOp} {other : String},
      before.job = op :: rest → op.settles = some other → (other == rid) = false := by
    intro op rest other next settles
    apply beq_eq_false_iff_ne.mpr
    rintro rfl
    exact ledger.not_known next settles outcome.known
  have recorded : ∀ {event : Event}, event.effectOn rid = false →
      Outcome rid (effects rid (event :: before.history)) := by
    intro event other
    rw [effects_cons_other other]
    exact outcome
  cases step with
  | reject next => exact recorded (unknown next rfl)
  | subscribed next new => exact recorded (unknown next rfl)
  | registered next => exact recorded (unknown next rfl)
  | registeredUnsubscribe next => exact recorded (unknown next rfl)
  | enqueue next =>
      apply recorded
      apply beq_eq_false_iff_ne.mpr
      rintro rfl
      rename_i task rest
      -- the task of a settled request is in the queue already
      rcases ledger.queueing next with ⟨works, _⟩ | ⟨works, _⟩
      · rw [works.soFar] at outcome
        cases outcome
      · rw [works.soFar] at outcome
        generalize task.type = type at outcome
        cases outcome
  | _ => exact outcome

/-- What a move records, as far as replies go: nothing, a refusal, the reply of a
call, or an event that is no reply. -/
inductive Records (env : Environment) (before after : Board) : Move → Prop
  | nothing {action : Move} (same : after.history = before.history) :
      Records env before after action
  | refusal {rid : String} {status : Int32} {rest : List ChannelOp}
      (next : before.job = .replyQueueAppendInvalidStatus rid status :: rest)
      (event : after.history = .rejected rid status :: before.history) :
      Records env before after .channel
  | reply {index : Nat} {call : ReplyCall} {rid : List String}
      (there : before.calls[index]? = some call) (position : call.position = .append rid)
      (event : after.history =
        .replied index call.confirms (call.reply env rid) :: before.history)
      (moved : after.calls[index]? = some (call.moveTo .awake)) :
      Records env before after (.reply index)
  | other {action : Move} {event : Event} (silent : event.reply env = none)
      (recorded : after.history = event :: before.history) :
      Records env before after action

theorem records_of_step {env : Environment} {before after : Board} {action : Move}
    (step : BoardStep env before action after) : Records env before after action := by
  cases step with
  | reject next => exact .refusal next rfl
  | append there position =>
      obtain ⟨inside, _⟩ := List.getElem?_eq_some_iff.mp there
      exact .reply there position rfl (List.getElem?_set_self inside)
  | _ =>
      first
      | exact .nothing rfl
      | exact .other rfl rfl

/-- Replies name known ids only. -/
def NamesKnown (env : Environment) (board : Board) : Prop :=
  ∀ event ∈ board.history, ∀ rid, event.Names env rid → board.Known rid

theorem NamesKnown.known {env : Environment} {board : Board} {rid : String}
    (names : NamesKnown env board) (named : board.Named env rid) : board.Known rid := by
  obtain ⟨reply, member, recipient⟩ := named
  obtain ⟨event, recorded, appended⟩ := List.mem_filterMap.mp member
  exact names event recorded rid ⟨reply, appended, recipient⟩

theorem namesKnown_step {env : Environment} {before after : Board} {action : Move}
    (step : BoardStep env before action after) (calls : CallsSound before)
    (names : NamesKnown env before) : NamesKnown env after := by
  -- what was known stays known, and the new event names known ids
  have extend : ∀ {event : Event}, after.history = event :: before.history →
      (∀ rid, event.Names env rid → after.Known rid) → NamesKnown env after := by
    intro event recorded fresh other member rid named
    rw [recorded] at member
    rcases List.mem_cons.mp member with rfl | old
    · exact fresh rid named
    · apply (names other old rid named).mono
      rw [recorded]
      exact List.subset_cons_self _ _
  cases records_of_step step with
  | nothing same =>
      intro event member rid named
      rw [same] at member
      apply (names event member rid named).mono
      rw [same]
      exact List.Subset.refl _
  | refusal next event =>
      apply extend event
      rintro rid ⟨reply, appended, recipient⟩
      cases appended
      rw [recipients_invalidStatusReply, List.mem_singleton] at recipient
      rw [recipient]
      exact Or.inl ⟨_, event ▸ List.mem_cons_self⟩
  | reply there position event =>
      have sound := calls _ (List.mem_of_getElem? there)
      have shape := sound.shape
      simp only [ReplyCall.Shape, position] at shape
      apply extend event
      rintro rid ⟨reply, appended, recipient⟩
      cases appended
      rw [ReplyCall.recipients_reply, shape] at recipient
      obtain ⟨unsubscribe, registered⟩ := sound.registered rid recipient
      exact Or.inr ⟨_, _, unsubscribe, event ▸ List.mem_cons_of_mem _ registered⟩
  | other silent recorded =>
      apply extend recorded
      rintro rid ⟨reply, appended, recipient⟩
      rw [silent] at appended
      cases appended

/-- The facts every board invariant builds on. -/
structure Wellformed (env : Environment) (board : Board) : Prop where
  ledger : Ledger board
  tasks : TasksSound env board
  calls : CallsSound board
  names : NamesKnown env board

theorem wellformed_initial (env : Environment) : Wellformed env Board.initial where
  ledger := ledger_initial
  tasks := tasksSound_initial env
  calls := by
    intro call member
    cases member
  names := by
    intro event member
    cases member

theorem wellformed_step {env : Environment} {before after : Board} {action : Move}
    (wellformed : Wellformed env before) (fresh : before.Fresh action)
    (step : BoardStep env before action after) : Wellformed env after where
  ledger := ledger_step wellformed.tasks step fresh wellformed.ledger
  tasks := tasksSound_step step wellformed.tasks
  calls := wellformed.calls.step step wellformed.ledger
  names := namesKnown_step step wellformed.calls wellformed.names

end Sawang
