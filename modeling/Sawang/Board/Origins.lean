import Sawang.Board.Calls
import Sawang.Board.Recipients
import Sawang.Foundation.History

/-!
# Where replies come from

Every queued reply goes back to confirmed requests: a refusal to the request it refuses,
the reply of a call to the requests that were registered under its key before.  A call
that found somebody queues one reply, with the headers and the payload it was given, and
a refused request is named by its refusal and by nothing else.
-/

namespace Sawang

open Board History

/-- The call is past the append of its reply. -/
def ReplyCall.Appended (call : ReplyCall) : Prop :=
  call.position = .awake ∨ call.position = .returned

instance (call : ReplyCall) : Decidable call.Appended := by
  unfold ReplyCall.Appended
  infer_instance

/-- The call has found a list of uuids, or nothing. -/
def ReplyCall.PastLookups (call : ReplyCall) : Prop :=
  call.position ≠ .lookupSingleshot ∧ call.position ≠ .lookupMultirespond

theorem ReplyCall.Appended.pastLookups {call : ReplyCall} (appended : call.Appended) :
    call.PastLookups := by
  rcases appended with position | position <;> simp [ReplyCall.PastLookups, position]

/-- A call past its lookups keeps what it has found, and what it has appended stays
appended. -/
theorem ReplyCall.Moves.pastLookups {before : Board} {call next : ReplyCall}
    (past : call.PastLookups) (moves : call.Moves before next) :
    ∃ position, next = call.moveTo position ∧ next.PastLookups ∧
      (call.Appended → next.Appended) := by
  cases moves with
  | foundSingleshot position | elsewhere position => exact absurd position past.1
  | foundMultirespond position | nobody position => exact absurd position past.2
  | drop position | dropped position =>
      refine ⟨_, rfl, ?_, ?_⟩
      · simp [ReplyCall.PastLookups, ReplyCall.moveTo]
      · simp [ReplyCall.Appended, position]
  | append position =>
      refine ⟨_, rfl, ?_, fun _ => .inl rfl⟩
      simp [ReplyCall.PastLookups, ReplyCall.moveTo]
  | awake position =>
      refine ⟨_, rfl, ?_, fun _ => .inr rfl⟩
      simp [ReplyCall.PastLookups, ReplyCall.moveTo]

/-- What an event that queues a reply goes back to.  The call of an answer is the one that
stands at its index, with the task key it was given and the uuids it has found. -/
inductive Origin (env : Environment) (board : Board) (past : List Event) : Event → Prop
  | refusal {rid : String} {status : Int32} (confirmed : .confirmed rid ∈ past) :
      Origin env board past (.rejected rid status)
  | answer {index : Nat} {call : ReplyCall} (there : board.calls[index]? = some call)
      (appended : call.Appended) (someone : call.uuids ≠ []) (distinct : call.uuids.Nodup)
      (registered : ∀ rid ∈ call.uuids, ∃ unsubscribe,
        Follows past (.registered call.which call.taskKey rid unsubscribe) (.confirmed rid)) :
      Origin env board past (.replied index call.confirms (call.reply env call.uuids))

namespace Board

theorem mem_confirmed_iff {board : Board} {rid : String} :
    rid ∈ board.confirmed ↔ .confirmed rid ∈ board.history := by
  unfold confirmed
  rw [List.mem_filterMap]
  constructor
  · rintro ⟨event, member, seen⟩
    cases event <;> cases seen
    exact member
  · intro member
    exact ⟨_, member, rfl⟩

/-- Who is registered was confirmed before. -/
def RegisteredLate (board : Board) : Prop :=
  ∀ which taskKey rid unsubscribe, .registered which taskKey rid unsubscribe ∈ board.history →
    Follows board.history (.registered which taskKey rid unsubscribe) (.confirmed rid)

/-- A call that queues its reply next has somebody to reply to. -/
def RepliesToSomeone (board : Board) : Prop :=
  ∀ call ∈ board.calls, ∀ rids, call.position = .append rids → rids ≠ []

/-- The history of the replies. -/
structure Caused (env : Environment) (board : Board) : Prop where
  registered : board.RegisteredLate
  calls : board.RepliesToSomeone
  replies : ∀ event past, event :: past <:+ board.history → event.reply env ≠ none →
    Origin env board past event

theorem caused_initial (env : Environment) : initial.Caused env where
  registered := by
    intro which taskKey rid unsubscribe member
    cases member
  calls := by
    intro call member
    cases member
  replies := by
    intro event past suffix
    cases List.suffix_nil.mp suffix

variable {env : Environment} {before after : Board} {action : Move}

/-- The channel thread registers the request it works on. -/
private theorem registeredLate_step (ledger : Ledger before)
    (late : before.RegisteredLate) (step : BoardStep env before action after) :
    after.RegisteredLate := by
  have recorded : ∀ event : Event,
      (∀ which taskKey rid unsubscribe, event = .registered which taskKey rid unsubscribe →
        rid ∈ before.confirmed) →
      ∀ which taskKey rid unsubscribe,
        .registered which taskKey rid unsubscribe ∈ event :: before.history →
        Follows (event :: before.history) (.registered which taskKey rid unsubscribe)
          (.confirmed rid) := by
    intro event own which taskKey rid unsubscribe member
    rcases List.mem_cons.mp member with same | old
    · rw [same]
      exact follows_head (mem_confirmed_iff.mp (own _ _ _ _ same.symm))
    · exact (late _ _ _ _ old).cons event
  have working : ∀ {rid other : String} {which type : RespondTableType}
      {taskKey key : String} {unsubscribe kind : Bool}, rid ∈ before.confirmed →
      Event.registered which taskKey rid unsubscribe = .registered type key other kind →
      other ∈ before.confirmed := by
    rintro rid other which type taskKey key unsubscribe kind member ⟨⟩
    exact member
  cases step with
  | subscribed next =>
      exact recorded _ fun _ _ _ _ => working (ledger.setting next).1.member
  | registered next =>
      exact recorded _ fun _ _ _ _ => working (ledger.setting next).1.member
  | registeredUnsubscribe next =>
      obtain ⟨task, works, _⟩ := ledger.registering next
      exact recorded _ fun _ _ _ _ => working works.member
  | _ =>
      first
      | exact late
      | exact recorded _ nofun

/-- What a call found is not empty, and its reply goes to everybody it found. -/
private theorem repliesToSomeone_step (calls : CallsSound before)
    (someone : before.RepliesToSomeone) (step : BoardStep env before action after) :
    after.RepliesToSomeone := by
  have set : ∀ {index : Nat} {moved : ReplyCall},
      (∀ rids, moved.position = .append rids → rids ≠ []) →
      ∀ call ∈ before.calls.set index moved, ∀ rids, call.position = .append rids →
        rids ≠ [] := by
    intro index moved own call member
    rcases List.mem_or_eq_of_mem_set member with old | rfl
    · exact someone call old
    · exact own
  have push : ∀ (arg : ProxyReplyArg) (headers payload : Option Json)
      (confirms : Option ParseQueueTask),
      ∀ call ∈ before.calls ++ [replyCall env arg headers payload confirms],
        ∀ rids, call.position = .append rids → rids ≠ [] := by
    intro arg headers payload confirms call member
    rcases List.mem_append.mp member with old | new
    · exact someone call old
    · rw [List.mem_singleton.mp new]
      intro rids position
      cases position
  have found : ∀ (call : ReplyCall) (which : RespondTableType) {uuids : List String},
      uuids ≠ [] → ∀ rids, (call.found which uuids).position = .append rids → rids ≠ [] := by
    intro call which uuids present rids position
    simp only [ReplyCall.found] at position
    split at position
    · split at position <;> cases position
      exact present
    · split at position <;> cases position
      exact present
  cases step with
  | foundSingleshot there position present => exact set (found _ _ present)
  | foundMultirespond there position present => exact set (found _ _ present)
  | advance there passes =>
      apply set
      have shape := (calls _ (List.mem_of_getElem? there)).shape
      rcases passes with ⟨_, rfl, _⟩ | ⟨_, rfl, _⟩ | ⟨rid, dropped, rfl⟩ | ⟨_, rfl⟩
      · intro rids position
        cases position
      · intro rids position
        cases position
      · rintro rids ⟨⟩
        -- the call walked down a list of several uuids
        simp only [ReplyCall.Shape, dropped, List.append_nil] at shape
        rw [← shape.2.1]
        exact List.length_pos_iff.mp (by omega)
      · intro rids position
        cases position
  | dropRecipient there position | append there position =>
      apply set
      intro rids elsewhere
      cases elsewhere
  | confirmCall next built => exact push _ _ _ _
  | callbackReply next => exact push _ _ _ _
  | proxyReply => exact push _ _ _ _
  | _ => exact someone

/-- The same for a step of the board. -/
theorem pastLookups_step {index : Nat} {call : ReplyCall}
    (there : before.calls[index]? = some call) (past : call.PastLookups)
    (step : BoardStep env before action after) :
    ∃ position, after.calls[index]? = some (call.moveTo position) ∧
      (call.moveTo position).PastLookups ∧
      (call.Appended → (call.moveTo position).Appended) := by
  obtain ⟨next, later, rfl | moves⟩ := call_step there step
  · exact ⟨next.position, later, past, id⟩
  · obtain ⟨position, rfl, within, appended⟩ := moves.pastLookups past
    exact ⟨position, later, within, appended⟩

/-- What a reply goes back to does not change. -/
theorem origin_step {event : Event} {past : List Event}
    (origin : Origin env before past event)
    (step : BoardStep env before action after) : Origin env after past event := by
  cases origin with
  | refusal confirmed => exact .refusal confirmed
  | @answer _ call there appended someone distinct registered =>
      obtain ⟨position, later, _, still⟩ :=
        pastLookups_step there appended.pastLookups step
      exact @Origin.answer _ _ _ _ (call.moveTo position) later (still appended) someone
        distinct registered

theorem caused_step (wellformed : Wellformed env before) (caused : before.Caused env)
    (step : BoardStep env before action after) : after.Caused env where
  registered := registeredLate_step wellformed.ledger caused.registered step
  calls := repliesToSomeone_step wellformed.calls caused.calls step
  replies := by
    intro event past suffix replies
    have recorded : ∀ {new : Event}, after.history = new :: before.history →
        (new.reply env ≠ none → Origin env after before.history new) →
        Origin env after past event := by
      intro new history own
      rw [history] at suffix
      rcases List.suffix_cons_iff.mp suffix with same | old
      · cases same
        exact own replies
      · exact origin_step (caused.replies event past old replies) step
    cases records_of_step step with
    | nothing same =>
        rw [same] at suffix
        exact origin_step (caused.replies event past suffix replies) step
    | refusal next history =>
        refine recorded history fun _ => .refusal ?_
        exact mem_confirmed_iff.mp (wellformed.ledger.refusing next).1.member
    | @reply _ call rids there position history moved =>
        refine recorded history fun _ => ?_
        have member := List.mem_of_getElem? there
        have sound := wellformed.calls _ member
        have shape := sound.shape
        simp only [ReplyCall.Shape, position] at shape
        subst shape
        refine @Origin.answer _ _ _ _ (call.moveTo .awake) moved (.inl rfl)
          (caused.calls _ member _ position) sound.distinct ?_
        intro rid named
        obtain ⟨unsubscribe, registered⟩ := sound.registered rid named
        exact ⟨unsubscribe, caused.registered _ _ _ _ registered⟩
    | other silent history => exact recorded history fun loud => absurd silent loud

theorem caused_of_reaches {board : Board}
    (reached : Runs.Reaches (move env) Fresh initial board) :
    Wellformed env board ∧ board.Caused env := by
  apply reached.invariant ⟨wellformed_initial env, caused_initial env⟩
  rintro before action after ⟨wellformed, caused⟩ fresh moved
  have step := boardStep_of_move moved
  exact ⟨wellformed_step wellformed fresh step, caused_step wellformed caused step⟩

end Board

/-! ## What a call queues -/

/-- The replies of a call so far. -/
def ReplyCall.queued (env : Environment) (call : ReplyCall) : List ReplyQueueTask :=
  if call.Appended ∧ call.uuids ≠ [] then
    [call.reply env call.uuids]
  else []

theorem ReplyCall.queued_of_mem {env : Environment} {call : ReplyCall}
    {reply : ReplyQueueTask} (member : reply ∈ call.queued env) :
    call.queued env = [reply] ∧ reply = call.reply env call.uuids := by
  unfold queued at member ⊢
  split at member
  · rename_i appended
    rw [if_pos appended, List.mem_singleton.mp member]
    exact ⟨rfl, rfl⟩
  · cases member

namespace Board

/-- The replies of the calls are those of the history. -/
def QueuedByCalls (env : Environment) (board : Board) : Prop :=
  ∀ index, board.history.filterMap (replyOf index) =
    (board.calls[index]?.map (ReplyCall.queued env)).getD []

variable {env : Environment} {before after : Board} {action : Move}

theorem queuedByCalls_step (calls : CallsSound before) (someone : before.RepliesToSomeone)
    (queued : before.QueuedByCalls env) (step : BoardStep env before action after) :
    after.QueuedByCalls env := by
  -- a call that moves on before or behind its append
  have set : ∀ {index : Nat} {call moved : ReplyCall}, before.calls[index]? = some call →
      moved.queued env = call.queued env →
      ∀ other, before.history.filterMap (replyOf other) =
        ((before.calls.set index moved)[other]?.map (ReplyCall.queued env)).getD [] := by
    intro index call moved there same other
    rw [queued other]
    by_cases own : index = other
    · subst own
      obtain ⟨inside, _⟩ := List.getElem?_eq_some_iff.mp there
      rw [List.getElem?_set_self inside, there, Option.map_some, Option.map_some, same]
    · rw [List.getElem?_set_ne own]
  have push : ∀ (arg : ProxyReplyArg) (headers payload : Option Json)
      (confirms : Option ParseQueueTask) (index : Nat),
      before.history.filterMap (replyOf index) =
        ((before.calls ++ [replyCall env arg headers payload confirms])[index]?.map
          (ReplyCall.queued env)).getD [] := by
    intro arg headers payload confirms index
    rw [queued index]
    rcases Nat.lt_trichotomy index before.calls.length with inside | new | beyond
    · rw [List.getElem?_append_left inside]
    · subst new
      simp [ReplyCall.queued, ReplyCall.Appended, replyCall]
    · have outside : (before.calls ++ [replyCall env arg headers payload confirms]).length ≤
          index := by
        rw [List.length_append]
        exact beyond
      rw [List.getElem?_eq_none (Nat.le_of_lt beyond), List.getElem?_eq_none outside]
  have found : ∀ (call : ReplyCall) (which : RespondTableType) {uuids : List String},
      uuids ≠ [] → (call.found which uuids).queued env = [] := by
    intro call which uuids present
    have positive := List.length_pos_iff.mpr present
    unfold ReplyCall.queued ReplyCall.Appended ReplyCall.found
    by_cases several : 1 < uuids.length
    · cases which <;> simp [several]
    · have one : uuids.length = 1 := by omega
      simp [one]
  have shape : ∀ {index : Nat} {call : ReplyCall}, before.calls[index]? = some call →
      call.Shape := fun there => (calls _ (List.mem_of_getElem? there)).shape
  cases step with
  | foundSingleshot there position present =>
      refine set there ?_
      rw [found _ _ present]
      simp [ReplyCall.queued, ReplyCall.Appended, position]
  | foundMultirespond there position present =>
      refine set there ?_
      rw [found _ _ present]
      simp [ReplyCall.queued, ReplyCall.Appended, position]
  | advance there passes =>
      refine set there ?_
      rcases passes with ⟨from_, rfl, _⟩ | ⟨from_, rfl, _⟩ | ⟨rid, from_, rfl⟩ | ⟨from_, rfl⟩
      · simp [ReplyCall.queued, ReplyCall.Appended, ReplyCall.moveTo, from_]
      · -- a call that found nobody
        have nobody := shape there
        simp only [ReplyCall.Shape, from_] at nobody
        simp [ReplyCall.queued, ReplyCall.Appended, ReplyCall.moveTo, from_, nobody]
      · simp [ReplyCall.queued, ReplyCall.Appended, ReplyCall.moveTo, from_]
      · simp [ReplyCall.queued, ReplyCall.Appended, ReplyCall.moveTo, ReplyCall.reply,
          from_]
  | dropRecipient there position =>
      refine set there ?_
      simp [ReplyCall.queued, ReplyCall.Appended, ReplyCall.moveTo, position]
  | append there position =>
      rename_i moving call rids
      have copied := shape there
      simp only [ReplyCall.Shape, position] at copied
      have present := someone _ (List.mem_of_getElem? there) _ position
      have nothing : before.history.filterMap (replyOf moving) = [] := by
        rw [queued moving, there]
        simp [ReplyCall.queued, ReplyCall.Appended, position]
      have appended : (call.moveTo .awake).queued env = [call.reply env rids] := by
        rw [copied]
        exact if_pos ⟨Or.inl rfl, copied ▸ present⟩
      intro index
      by_cases own : moving = index
      · subst own
        obtain ⟨inside, _⟩ := List.getElem?_eq_some_iff.mp there
        have event : replyOf moving (.replied moving call.confirms (call.reply env rids)) =
            some (call.reply env rids) := if_pos rfl
        simp only [record, List.filterMap_cons_some event, nothing,
          List.getElem?_set_self inside, Option.map_some, Option.getD_some, appended]
      · have event : replyOf index (.replied moving call.confirms (call.reply env rids)) =
            none := if_neg own
        simp only [record, List.filterMap_cons_none event, List.getElem?_set_ne own]
        exact queued index
  | confirmCall next built => exact push _ _ _ _
  | callbackReply next => exact push _ _ _ _
  | proxyReply => exact push _ _ _ _
  | _ => exact queued

theorem queuedByCalls_of_reaches {board : Board}
    (reached : Runs.Reaches (move env) Fresh initial board) : board.QueuedByCalls env := by
  apply reached.invariant_of fun _ earlier => caused_of_reaches earlier
  · intro index
    rfl
  · rintro before action after ⟨wellformed, caused⟩ queued _ moved
    exact queuedByCalls_step wellformed.calls caused.calls queued (boardStep_of_move moved)

end Board

/-- A member of the document of a reply. -/
def ReplyQueueTask.member (env : Environment) (reply : ReplyQueueTask) (name : String) :
    Option Json :=
  (env.parse reply.task).bind fun tree => tree.getObjectItem name

/-- What the dispatcher reads in a reply. -/
structure ReplyQueueTask.Reads (env : Environment) (reply : ReplyQueueTask)
    (uuids : List String) (headers payload : Option Json) : Prop where
  recipients : reply.recipients env = uuids
  headers : reply.member env serviceHeadersKey = headers
  payload : reply.member env servicePayloadKey = payload

theorem reads_replyQueueTask (env : Environment) (uuids : List String)
    (headers payload : Option Json) (multipleRespond : Bool) :
    (replyQueueTask env (ridTree uuids) headers payload multipleRespond).Reads env uuids
      headers payload where
  recipients := recipients_replyQueueTask env uuids headers payload multipleRespond
  headers := by
    unfold ReplyQueueTask.member replyQueueTask
    simp only [env.parse_printUnformatted, Option.bind_some]
    rw [Json.getObjectItem_cons_different _ _ (by decide)]
    cases headers with
    | some tree => exact Json.getObjectItem_cons_same _ _ rfl
    | none =>
        cases payload with
        | none => rfl
        | some tree => exact Json.getObjectItem_cons_different _ _ (by decide)
  payload := by
    unfold ReplyQueueTask.member replyQueueTask
    simp only [env.parse_printUnformatted, Option.bind_some]
    rw [Json.getObjectItem_cons_different _ _ (by decide)]
    have last : (Json.object ((payload.map fun tree =>
        (servicePayloadKey, tree)).toList)).getObjectItem servicePayloadKey = payload := by
      cases payload with
      | none => rfl
      | some tree => exact Json.getObjectItem_cons_same _ _ rfl
    cases headers with
    | none => exact last
    | some tree =>
        exact (Json.getObjectItem_cons_different _ _ (by decide)).trans last

/-- Where the document of a reply comes from. -/
inductive Document (env : Environment) (board : Board) (reply : ReplyQueueTask) : Prop
  | refusal {rid : String} {status : Int32} (rejected : .rejected rid status ∈ board.history)
      (reads : reply.Reads env [rid] (some (statusHeaders status)) none)
  | call {index : Nat} {call : ReplyCall} (there : board.calls[index]? = some call)
      (queued : call.queued env = [reply])
      (reads : reply.Reads env call.uuids call.headers call.payload)

theorem Board.QueuedByCalls.document {env : Environment} {board : Board}
    (queued : board.QueuedByCalls env) {reply : ReplyQueueTask}
    (member : reply ∈ board.replies env) : Document env board reply := by
  obtain ⟨event, recorded, replied⟩ := List.mem_filterMap.mp member
  cases event with
  | rejected rid status =>
      cases replied
      exact .refusal recorded (reads_replyQueueTask env [rid] _ none false)
  | replied index confirms other =>
      cases replied
      have own : reply ∈ board.history.filterMap (replyOf index) :=
        List.mem_filterMap.mpr ⟨_, recorded, if_pos rfl⟩
      rw [queued index] at own
      cases there : board.calls[index]? with
      | none => simp [there] at own
      | some call =>
          simp only [there, Option.map_some, Option.getD_some] at own
          obtain ⟨single, same⟩ := ReplyCall.queued_of_mem own
          refine .call there single ?_
          rw [same]
          exact reads_replyQueueTask env call.uuids _ _ _
  | _ => cases replied

/-! ## Refused requests -/

/-- A refusal is all that happens to a request. -/
theorem Ledger.rejected_only {board : Board} (ledger : Ledger board) {rid : String}
    {status : Int32} (rejected : .rejected rid status ∈ board.history) :
    effects rid board.history = [.rejected rid status] := by
  have member : .rejected rid status ∈ effects rid board.history :=
    mem_effects_iff.mpr ⟨rejected, beq_self_eq_true rid⟩
  have settled : ∀ {known : List Event}, Outcome rid known → .rejected rid status ∈ known →
      known = [.rejected rid status] := by
    intro known outcome there
    cases outcome with
    | rejected other => rw [List.mem_singleton.mp there]
    | queued own key kind normal => simp at there
    | unsubscribed own key kind drops => simp at there
  have confirmed : rid ∈ board.confirmed := by
    by_contra unconfirmed
    rw [ledger.untouched rid unconfirmed] at member
    cases member
  cases ledger.progress with
  | idle free outcomes => exact settled (outcomes rid confirmed) member
  | busy working there stage outcomes =>
      by_cases other : rid = working
      · subst other
        generalize effects rid board.history = known at stage member
        generalize board.job = job at stage
        cases stage with
        | waking awakes outcome => exact settled outcome member
        | registering => simp at member
        | queueing => simp at member
        | _ => cases member
      · exact settled (outcomes rid confirmed other) member

/-- A refused request is named by its refusal and by no other reply. -/
theorem Board.Caused.refused {env : Environment} {board : Board} (caused : board.Caused env)
    (ledger : Ledger board) {rid : String} {status : Int32}
    (rejected : .rejected rid status ∈ board.history) :
    board.repliesNaming env rid = [invalidStatusReply env rid status] := by
  have only := ledger.rejected_only rejected
  have unregistered : ∀ which taskKey unsubscribe,
      .registered which taskKey rid unsubscribe ∉ board.history := by
    intro which taskKey unsubscribe registered
    have member : .registered which taskKey rid unsubscribe ∈ effects rid board.history :=
      mem_effects_iff.mpr ⟨registered, beq_self_eq_true rid⟩
    rw [only] at member
    simp at member
  -- among the replies the refusals of the request are those that name it
  have named : ∀ event ∈ board.history,
      (event.reply env).bind (Option.guard fun reply => rid ∈ reply.recipients env) =
      if event.effectOn rid then event.reply env else none := by
    intro event member
    cases event with
    | rejected other given =>
        by_cases same : other = rid
        · simp [Event.reply, Event.effectOn, recipients_invalidStatusReply, same]
        · simp [Event.reply, Event.effectOn, recipients_invalidStatusReply, same,
            Ne.symm same]
    | replied index confirms reply =>
        obtain ⟨past, front, history⟩ := List.append_of_mem member
        have suffix : .replied index confirms reply :: front <:+ board.history :=
          ⟨past, history.symm⟩
        have origin := caused.replies _ _ suffix (Option.some_ne_none reply)
        have unnamed : rid ∉ reply.recipients env := by
          generalize event : Event.replied index confirms reply = replied at origin
          cases origin with
          | refusal => cases event
          | answer there appended someone distinct registered =>
              cases event
              rw [ReplyCall.recipients_reply]
              intro there
              obtain ⟨unsubscribe, follows⟩ := registered rid there
              have earlier := (History.Follows.mono follows
                ((List.suffix_cons _ _).trans suffix)).subset List.mem_cons_self
              exact unregistered _ _ _ earlier
        simp [Event.reply, Event.effectOn, unnamed]
    | _ => simp [Event.reply]
  calc board.repliesNaming env rid
      = board.history.filterMap fun event =>
          (event.reply env).bind (Option.guard fun reply => rid ∈ reply.recipients env) := by
        unfold repliesNaming Board.replies
        rw [← List.filterMap_eq_filter, List.filterMap_filterMap]
    _ = board.history.filterMap fun event =>
          if event.effectOn rid then event.reply env else none :=
        List.filterMap_congr named
    _ = (effects rid board.history).filterMap (Event.reply env) := by
        unfold effects
        rw [List.filterMap_filter]
    _ = [invalidStatusReply env rid status] := by
        rw [only]
        rfl

end Sawang
