import Sawang.Board.Calls

/-!
# Who gets a reply

One call of `proxy_comm_reply` among everything else: the moves of the proxy and,
beyond them, registrations and drops of any uuid under any key by other threads.
The recipients of its reply are one list that one table held at one instant, the
instant at which the call looked.
-/

namespace Sawang

open Board Runs

/-- What can happen while a call runs. -/
inductive Disturbance where
  | move (action : Board.Move)
  | set (which : RespondTableType) (taskKey requestUuid : String)
  | drop (which : RespondTableType) (taskKey requestUuid : String)

namespace Board

def table (board : Board) : RespondTableType → RespondTable
  | .singleshot => board.singleshot
  | .multirespond => board.multirespond

def putTable (board : Board) (table : RespondTable) : RespondTableType → Board
  | .singleshot => { board with singleshot := table }
  | .multirespond => { board with multirespond := table }

/-- A move of the proxy, or another thread's critical section on the tables. -/
def disturb (env : Environment) (action : Disturbance) (board : Board) : Option Board :=
  match action with
  | .move action => board.move env action
  | .set which taskKey requestUuid =>
      some (board.putTable ((board.table which).set taskKey requestUuid).2 which)
  | .drop which taskKey requestUuid =>
      some (board.putTable ((board.table which).drop taskKey requestUuid).2 which)

/-- The board when a call has just begun. -/
def called (env : Environment) (arg : ProxyReplyArg) (headers payload : Option Json)
    (confirms : Option ParseQueueTask) (board : Board) : Board :=
  { board with calls := board.calls ++ [replyCall env arg headers payload confirms] }

/-- The call stands at the position. -/
def standsAt (index : Nat) (position : ReplyPosition) (board : Board) : Bool :=
  (board.calls[index]?).any fun call => call.position == position

/-- The last instant passed at which the call stood at the position. -/
def lastAt (index : Nat) (position : ReplyPosition) (passed : List Board) : Option Board :=
  passed.find? (standsAt index position)

/-- Where the call looks into a table. -/
def lookupOf : RespondTableType → ReplyPosition
  | .singleshot => .lookupSingleshot
  | .multirespond => .lookupMultirespond

/-- The reply that an event queues for the call. -/
def replyOf (index : Nat) : Event → Option ReplyQueueTask
  | .replied call _ reply => if call = index then some reply else none
  | _ => none

/-- What the call has queued since a history, newest first. -/
def Queued (index : Nat) (past history : List Event) (replies : List ReplyQueueTask) : Prop :=
  ∃ since, history = since ++ past ∧ since.filterMap (replyOf index) = replies

/-- The table had the uuids under the key at the instant at which the call looked. -/
def Looked (index : Nat) (taskKey : String) (passed : List Board)
    (which : RespondTableType) (uuids : List String) : Prop :=
  ∃ instant, lastAt index (lookupOf which) passed = some instant ∧
    (instant.table which).uuids taskKey = uuids

end Board

/-- The reply of a call with the key reaches the right recipients, as far as a run has
come. -/
structure ReachesRecipients (env : Environment) (taskKey : String) (index : Nat)
    (past : List Event) (board : Board) (earlier : List Board) : Prop where
  reply : ∀ replies, Queued index past board.history replies → ∀ reply ∈ replies,
    ∃ which, Looked index taskKey (board :: earlier) which (reply.recipients env) ∧
      reply.recipients env ≠ [] ∧ (reply.recipients env).Nodup ∧
      (reply.multipleRespond = true ↔ which = .multirespond)
  silent : board.standsAt index .returned = true →
    (Queued index past board.history [] ↔
      Looked index taskKey (board :: earlier) .singleshot [] ∧
        Looked index taskKey (board :: earlier) .multirespond [])
  frame : ∀ after, board.move env (.reply index) = some after →
    after.multirespond = board.multirespond ∧
      ∀ other, other ≠ taskKey → after.singleshot.uuids other = board.singleshot.uuids other

/-! ## What others do -/

/-- Other moves leave the call alone. -/
theorem call_of_other {env : Environment} {before after : Board} {action : Move}
    {index : Nat} {call : ReplyCall} (step : BoardStep env before action after)
    (other : action ≠ .reply index) (there : before.calls[index]? = some call) :
    after.calls[index]? = some call := by
  have pushed : ∀ new : ReplyCall, (before.calls ++ [new])[index]? = some call := by
    intro new
    have inside := (List.getElem?_eq_some_iff.mp there).1
    rw [List.getElem?_append_left inside]
    exact there
  have elsewhere : ∀ {moved : Nat} (new : ReplyCall), action = .reply moved →
      (before.calls.set moved new)[index]? = some call := by
    intro moved new own
    have different : moved ≠ index := by
      rintro rfl
      exact other own
    rw [List.getElem?_set_ne different]
    exact there
  cases step with
  | confirmCall next built => exact pushed _
  | callbackReply next => exact pushed _
  | proxyReply => exact pushed _
  | foundSingleshot own position present => exact elsewhere _ rfl
  | foundMultirespond own position present => exact elsewhere _ rfl
  | advance own passes => exact elsewhere _ rfl
  | dropRecipient own position => exact elsewhere _ rfl
  | append own position => exact elsewhere _ rfl
  | _ => exact there

namespace Board

theorem Queued.unique {index : Nat} {past history : List Event}
    {replies others : List ReplyQueueTask} (queued : Queued index past history replies)
    (again : Queued index past history others) : replies = others := by
  obtain ⟨since, split, named⟩ := queued
  obtain ⟨later, another, counted⟩ := again
  have same : since = later := List.append_cancel_right (split.symm.trans another)
  rw [← named, ← counted, same]

theorem Queued.record {index : Nat} {past history : List Event}
    {replies : List ReplyQueueTask} {event : Event}
    (queued : Queued index past history replies) (silent : replyOf index event = none) :
    Queued index past (event :: history) replies := by
  obtain ⟨since, split, named⟩ := queued
  refine ⟨event :: since, by rw [split]; rfl, ?_⟩
  rw [List.filterMap_cons_none silent]
  exact named

theorem replyOf_of_silent {env : Environment} {index : Nat} {event : Event}
    (silent : event.reply env = none) : replyOf index event = none := by
  cases event <;> first | rfl | cases silent

theorem queued_of_other {env : Environment} {before after : Board} {action : Move}
    {index : Nat} {past : List Event} {replies : List ReplyQueueTask}
    (step : BoardStep env before action after) (other : action ≠ .reply index)
    (queued : Queued index past before.history replies) :
    Queued index past after.history replies := by
  cases records_of_step step with
  | nothing same =>
      rw [same]
      exact queued
  | refusal next event =>
      rw [event]
      exact queued.record rfl
  | @reply moved call rid there position event =>
      rw [event]
      refine queued.record (if_neg ?_)
      rintro rfl
      exact other rfl
  | other silent recorded =>
      rw [recorded]
      exact queued.record (replyOf_of_silent silent)

/-! ## The instants at which a call looks -/

variable {index : Nat} {position : ReplyPosition} {board : Board} {passed : List Board}

theorem standsAt_eq {call : ReplyCall} (there : board.calls[index]? = some call) :
    board.standsAt index position = (call.position == position) := by
  simp [standsAt, there]

/-- Where the call stands now it stood last. -/
theorem lastAt_here {call : ReplyCall} (there : board.calls[index]? = some call)
    (here : call.position = position) : lastAt index position (board :: passed) = some board := by
  have stands : board.standsAt index position = true := by
    rw [standsAt_eq there, here]
    exact beq_self_eq_true position
  exact List.find?_cons_of_pos stands

theorem lastAt_elsewhere {call : ReplyCall} (there : board.calls[index]? = some call)
    (elsewhere : call.position ≠ position) :
    lastAt index position (board :: passed) = lastAt index position passed := by
  have gone : board.standsAt index position = false := by
    rw [standsAt_eq there]
    exact beq_eq_false_iff_ne.mpr elsewhere
  exact List.find?_cons_of_neg (by simp [gone])

/-- What the call found in a table does not change when it is past the lookup. -/
theorem Looked.later {taskKey : String} {which : RespondTableType} {uuids : List String}
    {call : ReplyCall} (looked : Looked index taskKey passed which uuids)
    (there : board.calls[index]? = some call) (elsewhere : call.position ≠ lookupOf which) :
    Looked index taskKey (board :: passed) which uuids := by
  obtain ⟨instant, last, held⟩ := looked
  exact ⟨instant, (lastAt_elsewhere there elsewhere).trans last, held⟩

theorem Looked.unique {taskKey : String} {which : RespondTableType}
    {uuids others : List String} (looked : Looked index taskKey passed which uuids)
    (again : Looked index taskKey passed which others) : uuids = others := by
  obtain ⟨instant, last, held⟩ := looked
  obtain ⟨another, lastly, held'⟩ := again
  have same : instant = another := Option.some.inj (last.symm.trans lastly)
  rw [← held, ← held', same]

end Board

/-! ## How far a call is -/

/-- A call that goes through the uuids it copied, or appends them next. -/
def ReplyCall.Collects (call : ReplyCall) : Prop :=
  (∃ rid rest, call.position = .drops rid rest ∧ call.uuids = rid ++ rest) ∨
    call.position = .append call.uuids

theorem ReplyCall.found_collects (call : ReplyCall) (which : RespondTableType)
    {uuids : List String} (nonempty : uuids ≠ []) : (call.found which uuids).Collects := by
  have positive := List.length_pos_iff.mpr nonempty
  unfold Collects found
  by_cases several : 1 < uuids.length
  · cases which <;> simp [several]
  · have one : uuids.length = 1 := by omega
    simp [one]

theorem ReplyCall.Collects.past_lookup {call : ReplyCall} (collects : call.Collects)
    (which : RespondTableType) : call.position ≠ lookupOf which := by
  rcases collects with ⟨_, _, position, _⟩ | position <;>
    cases which <;> simp [position, lookupOf]

/-- The position of a call with what it found and what it has queued. -/
inductive CallStage (env : Environment) (index : Nat) (taskKey : String)
    (passed : List Board) (call : ReplyCall) : List ReplyQueueTask → Prop
  | asking (position : call.position = .lookupSingleshot) :
      CallStage env index taskKey passed call []
  | askingAgain (position : call.position = .lookupMultirespond)
      (absent : Looked index taskKey passed .singleshot []) :
      CallStage env index taskKey passed call []
  | collecting (nonempty : call.uuids ≠ [])
      (looked : Looked index taskKey passed call.which call.uuids)
      (collects : call.Collects) : CallStage env index taskKey passed call []
  | answered {reply : ReplyQueueTask} (nonempty : reply.recipients env ≠ [])
      (looked : Looked index taskKey passed call.which (reply.recipients env))
      (flag : reply.multipleRespond = (call.which == .multirespond))
      (position : call.position = .awake ∨ call.position = .returned) :
      CallStage env index taskKey passed call [reply]
  | nobody (position : call.position = .returned)
      (absent : Looked index taskKey passed .singleshot [])
      (neither : Looked index taskKey passed .multirespond []) :
      CallStage env index taskKey passed call []

/-- The invariant of a run around the call. -/
def Replying (env : Environment) (index : Nat) (taskKey : String) (past : List Event)
    (passed : List Board) : Prop :=
  ∃ board earlier call replies, passed = board :: earlier ∧
    board.calls[index]? = some call ∧ call.taskKey = taskKey ∧
    Queued index past board.history replies ∧
    CallStage env index taskKey passed call replies

namespace CallStage

variable {env : Environment} {index : Nat} {taskKey : String} {passed : List Board}
  {call : ReplyCall} {replies : List ReplyQueueTask} {board : Board}

/-- What others do meanwhile does not change what the call has seen. -/
theorem wait (stage : CallStage env index taskKey passed call replies)
    (there : board.calls[index]? = some call) :
    CallStage env index taskKey (board :: passed) call replies := by
  have past : ∀ {which : RespondTableType} {uuids : List String},
      Looked index taskKey passed which uuids → call.position ≠ lookupOf which →
      Looked index taskKey (board :: passed) which uuids :=
    fun looked elsewhere => looked.later there elsewhere
  cases stage with
  | asking position => exact .asking position
  | askingAgain position absent =>
      exact .askingAgain position (past absent (by simp [position, lookupOf]))
  | collecting nonempty looked collects =>
      exact .collecting nonempty (past looked (collects.past_lookup _)) collects
  | answered nonempty looked flag position =>
      refine .answered nonempty (past looked ?_) flag position
      rcases position with position | position <;> cases call.which <;>
        simp [position, lookupOf]
  | nobody position absent neither =>
      exact .nobody position (past absent (by simp [position, lookupOf]))
        (past neither (by simp [position, lookupOf]))

theorem nothing_queued (stage : CallStage env index taskKey passed call replies)
    (active : call.position ≠ .awake) (running : call.position ≠ .returned) :
    replies = [] := by
  cases stage with
  | answered nonempty looked flag position =>
      rcases position with awake | returned
      · exact absurd awake active
      · exact absurd returned running
  | _ => rfl

/-- What a call that collects has copied. -/
theorem copied (stage : CallStage env index taskKey passed call replies)
    (active : (∃ rid rest, call.position = .drops rid rest) ∨
      ∃ rid, call.position = .append rid) :
    call.uuids ≠ [] ∧ Looked index taskKey passed call.which call.uuids ∧ call.Collects := by
  cases stage with
  | collecting nonempty looked collects => exact ⟨nonempty, looked, collects⟩
  | asking position => simp [position] at active
  | askingAgain position absent => simp [position] at active
  | nobody position absent neither => simp [position] at active
  | answered nonempty looked flag position =>
      rcases position with position | position <;> simp [position] at active

/-- The call finds a list in a table. -/
private theorem found {before after : Board} {earlier : List Board} {past : List Event}
    (which : RespondTableType) (there : before.calls[index]? = some call)
    (queued : Queued index past after.history [])
    (position : call.position = lookupOf which)
    (present : (before.table which).uuids call.taskKey ≠ [])
    (moved : after.calls[index]? =
      some (call.found which ((before.table which).uuids call.taskKey))) :
    Replying env index call.taskKey past (after :: before :: earlier) := by
  have collects := call.found_collects which present
  have looked : Looked index call.taskKey (before :: earlier) which
      ((before.table which).uuids call.taskKey) := ⟨before, lastAt_here there position, rfl⟩
  refine ⟨_, _, _, _, rfl, moved, rfl, queued, .collecting present ?_ collects⟩
  exact looked.later moved (collects.past_lookup which)

/-- The call goes on with what it copied. -/
private theorem goOn {before after : Board} {earlier : List Board} {past : List Event}
    {position : ReplyPosition}
    (stage : CallStage env index call.taskKey (before :: earlier) call replies)
    (active : (∃ rid rest, call.position = .drops rid rest) ∨
      ∃ rid, call.position = .append rid)
    (queued : Queued index past after.history replies)
    (moved : after.calls[index]? = some (call.moveTo position))
    (collects : call.Collects → (call.moveTo position).Collects) :
    Replying env index call.taskKey past (after :: before :: earlier) := by
  obtain ⟨nonempty, looked, before_⟩ := stage.copied active
  have silent : replies = [] := by
    apply stage.nothing_queued <;> rcases active with ⟨_, _, here⟩ | ⟨_, here⟩ <;> simp [here]
  subst silent
  have later := collects before_
  refine ⟨_, _, _, _, rfl, moved, rfl, queued, .collecting nonempty ?_ later⟩
  exact looked.later moved (later.past_lookup _)

/-- The call makes a step. -/
theorem own {before after : Board} {earlier : List Board} {past : List Event}
    (stage : CallStage env index taskKey (before :: earlier) call replies)
    (there : before.calls[index]? = some call) (key : call.taskKey = taskKey)
    (queued : Queued index past before.history replies)
    (step : BoardStep env before (.reply index) after) :
    Replying env index taskKey past (after :: before :: earlier) := by
  subst key
  have inside := (List.getElem?_eq_some_iff.mp there).1
  have placed : ∀ moved : ReplyCall, (before.calls.set index moved)[index]? = some moved :=
    fun moved => List.getElem?_set_self inside
  have same : ∀ {other : ReplyCall}, before.calls[index]? = some other → other = call :=
    fun other => Option.some.inj (other.symm.trans there)
  -- the call finds nothing in the table it looks into
  have absent : ∀ (which : RespondTableType) {later : Board} {moved : ReplyCall},
      call.position = lookupOf which → (before.table which).uuids call.taskKey = [] →
      later.calls[index]? = some moved → moved.position ≠ lookupOf which →
      Looked index call.taskKey (later :: before :: earlier) which [] :=
    fun which _ _ position nobody place gone =>
      Looked.later ⟨before, lastAt_here there position, nobody⟩ place gone
  cases step with
  | foundSingleshot other position present =>
      cases same other
      cases stage.nothing_queued (by simp [position]) (by simp [position])
      exact found .singleshot there queued position present (placed _)
  | foundMultirespond other position present =>
      cases same other
      cases stage.nothing_queued (by simp [position]) (by simp [position])
      exact found .multirespond there queued position present (placed _)
  | advance other passes =>
      cases same other
      rcases passes with ⟨position, rfl, nobody⟩ | ⟨position, rfl, nobody⟩ |
        ⟨rid, position, rfl⟩ | ⟨position, rfl⟩
      · cases stage.nothing_queued (by simp [position]) (by simp [position])
        refine ⟨_, _, _, _, rfl, placed _, rfl, queued, .askingAgain rfl ?_⟩
        exact absent .singleshot position nobody (placed _)
          (by simp [ReplyCall.moveTo, lookupOf])
      · cases stage with
        | askingAgain _ first =>
            refine ⟨_, _, _, _, rfl, placed _, rfl, queued, .nobody rfl ?_ ?_⟩
            · exact first.later (placed _) (by simp [ReplyCall.moveTo, lookupOf])
            · exact absent .multirespond position nobody (placed _)
                (by simp [ReplyCall.moveTo, lookupOf])
        | asking elsewhere => simp [position] at elsewhere
        | collecting nonempty looked collects =>
            exact absurd position (collects.past_lookup .multirespond)
        | answered nonempty looked flag elsewhere => simp [position] at elsewhere
        | nobody elsewhere first second => simp [position] at elsewhere
      · refine goOn stage (Or.inl ⟨_, _, position⟩) queued (placed _) ?_
        rintro (⟨visited, left, here, copied⟩ | here)
        · right
          rw [position] at here
          cases here
          simp [ReplyCall.moveTo, copied]
        · rw [position] at here
          cases here
      · cases stage with
        | answered nonempty looked flag _ =>
            refine ⟨_, _, _, _, rfl, placed _, rfl, queued,
              .answered nonempty ?_ flag (Or.inr rfl)⟩
            apply looked.later (placed _)
            cases call.which <;> simp [ReplyCall.moveTo, lookupOf]
        | asking elsewhere => simp [position] at elsewhere
        | askingAgain elsewhere first => simp [position] at elsewhere
        | collecting nonempty looked collects =>
            rcases collects with ⟨_, _, elsewhere, _⟩ | elsewhere <;> simp [position] at elsewhere
        | nobody elsewhere first second => simp [position] at elsewhere
  | dropRecipient other position =>
      cases same other
      refine goOn stage (Or.inl ⟨_, _, position⟩) queued (placed _) ?_
      rintro (⟨visited, left, here, copied⟩ | here)
      · left
        rw [position] at here
        cases here
        exact ⟨_, _, rfl, by simpa [ReplyCall.moveTo] using copied⟩
      · rw [position] at here
        cases here
  | @append _ found rid other position =>
      cases same other
      obtain ⟨nonempty, looked, collects⟩ := stage.copied (Or.inr ⟨_, position⟩)
      cases stage.nothing_queued (by simp [position]) (by simp [position])
      have copied : rid = call.uuids := by
        rcases collects with ⟨_, _, elsewhere, _⟩ | here
        · rw [position] at elsewhere
          cases elsewhere
        · rw [position] at here
          exact ReplyPosition.append.inj here
      have recipients := ReplyCall.recipients_reply env call rid
      rw [copied] at recipients
      obtain ⟨since, split, silent⟩ := queued
      refine ⟨_, _, _, [call.reply env rid], rfl, placed _, rfl,
        ⟨.replied index call.confirms (call.reply env rid) :: since, ?_, ?_⟩,
        .answered ?_ ?_ rfl (Or.inl rfl)⟩
      · exact congrArg (List.cons _) split
      · have named : replyOf index (.replied index call.confirms (call.reply env rid)) =
            some (call.reply env rid) := if_pos rfl
        rw [List.filterMap_cons_some named, silent]
      · rw [copied, recipients]
        exact nonempty
      · rw [copied, recipients]
        apply looked.later (placed _)
        cases call.which <;> simp [ReplyCall.moveTo, lookupOf]
  | crash may => cases may

end CallStage

/-! ## The run -/

/-- The call itself touches no multi-respond entry and no entry of another key. -/
theorem reply_frame {env : Environment} {before after : Board} {index : Nat}
    {call : ReplyCall} (there : before.calls[index]? = some call)
    (step : BoardStep env before (.reply index) after) :
    after.multirespond = before.multirespond ∧
      ∀ other, other ≠ call.taskKey →
        after.singleshot.uuids other = before.singleshot.uuids other := by
  cases step with
  | dropRecipient own position =>
      cases Option.some.inj (own.symm.trans there)
      refine ⟨rfl, ?_⟩
      intro other different
      change (before.singleshot.drop call.taskKey _).2.uuids other = _
      rw [RespondTable.uuids_drop, if_neg different]
  | _ => exact ⟨rfl, fun _ _ => rfl⟩

theorem replying_step {env : Environment} {index : Nat} {taskKey : String}
    {past : List Event} {before after : Board} {earlier : List Board}
    {action : Disturbance} (replying : Replying env index taskKey past (before :: earlier))
    (next : before.disturb env action = some after) :
    Replying env index taskKey past (after :: before :: earlier) := by
  obtain ⟨board, rest, call, replies, passed, there, key, queued, stage⟩ := replying
  cases passed
  -- a change of the tables alone
  have undisturbed : after.calls = before.calls → after.history = before.history →
      Replying env index taskKey past (after :: before :: earlier) := by
    intro calls history
    have kept : after.calls[index]? = some call := calls ▸ there
    exact ⟨_, _, call, replies, rfl, kept, key, history ▸ queued, stage.wait kept⟩
  cases action with
  | set which taskKey requestUuid =>
      cases next
      cases which <;> exact undisturbed rfl rfl
  | drop which taskKey requestUuid =>
      cases next
      cases which <;> exact undisturbed rfl rfl
  | move action =>
      have step := boardStep_of_move next
      by_cases own : action = .reply index
      · subst own
        exact stage.own there key queued step
      · have kept := call_of_other step own there
        exact ⟨_, _, call, replies, rfl, kept, key, queued_of_other step own queued,
          stage.wait kept⟩

theorem replying_called (env : Environment) (board : Board) (arg : ProxyReplyArg)
    (headers payload : Option Json) (confirms : Option ParseQueueTask) :
    Replying env board.calls.length (taskKeyFromReplyArg env arg) board.history
      [board.called env arg headers payload confirms] :=
  ⟨_, _, replyCall env arg headers payload confirms, [], rfl, List.getElem?_concat_length,
    rfl, ⟨[], rfl, rfl⟩, .asking rfl⟩

/-- Whatever happens around a call, its reply names exactly the waiting uuids of one
table at the instant at which the call looked, and it is silent only where it found
nobody in either table. -/
theorem replies_reach_recipients (env : Environment) (start : Board) (arg : ProxyReplyArg)
    (headers payload : Option Json) (confirms : Option ParseQueueTask) {board : Board}
    {earlier : List Board}
    (run : Passes (Board.disturb env) unrestricted
      (start.called env arg headers payload confirms) (board :: earlier)) :
    ReachesRecipients env (taskKeyFromReplyArg env arg) start.calls.length start.history
      board earlier := by
  have replying := run.invariant (replying_called env start arg headers payload confirms)
    fun _ _ _ _ replying _ next => replying_step replying next
  obtain ⟨_, _, call, replies, passed, there, key, queued, stage⟩ := replying
  cases passed
  refine ⟨?_, ?_, ?_⟩
  · intro others again reply member
    cases queued.unique again
    cases stage with
    | answered nonempty looked flag position =>
        cases List.mem_singleton.mp member
        obtain ⟨instant, last, held⟩ := looked
        refine ⟨call.which, ⟨instant, last, held⟩, nonempty, ?_, ?_⟩
        · rw [← held]
          exact RespondTable.uuids_nodup _ _
        · rw [flag, beq_iff_eq]
    | asking position => cases member
    | askingAgain position absent => cases member
    | collecting nonempty looked collects => cases member
    | nobody position absent neither => cases member
  · intro returned
    rw [standsAt_eq there, beq_iff_eq] at returned
    cases stage with
    | nobody position absent neither => exact iff_of_true queued ⟨absent, neither⟩
    | answered nonempty looked flag position =>
        refine iff_of_false ?_ ?_
        · intro silent
          cases queued.unique silent
        · rintro ⟨absent, neither⟩
          cases which : call.which with
          | singleshot => exact nonempty ((which ▸ looked).unique absent)
          | multirespond => exact nonempty ((which ▸ looked).unique neither)
    | asking position => simp [returned] at position
    | askingAgain position absent => simp [returned] at position
    | collecting nonempty looked collects =>
        rcases collects with ⟨_, _, position, _⟩ | position <;> simp [returned] at position
  · intro after moved
    rw [← key]
    exact reply_frame there (boardStep_of_move moved)

/-- A call finds nobody in the first table and one uuid, just registered, in the other. -/
theorem replies_reach_recipients_registered :
    ∃ board earlier, board.standsAt 0 .awake = true ∧
      ReachesRecipients .reference (taskKeyFromReplyArg .reference ⟨"s", none⟩) 0 []
        board earlier := by
  obtain ⟨board, reached, tested⟩ :=
    reaches_of_execute_test (Board.disturb .reference) unrestricted
      [.set .multirespond (taskKeyFromReplyArg .reference ⟨"s", none⟩) "r1",
        .move (.reply 0), .move (.reply 0), .move (.reply 0)]
      (Board.initial.called .reference ⟨"s", none⟩ none none none)
      (fun board => board.standsAt 0 .awake) (by decide +kernel)
  obtain ⟨earlier, run⟩ := reached.passes
  exact ⟨board, earlier, tested,
    replies_reach_recipients .reference .initial ⟨"s", none⟩ none none none run⟩

end Sawang
