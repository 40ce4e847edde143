import Sawang.Board.Confirming
import Sawang.Board.Traces
import Sawang.Proxy.Layers

/-!
# Confirmations of unsubscriptions

An accepted unsubscription queues its task before it registers its id.  The comm
thread may serve the task in between, and its confirmation then finds nobody to
tell.  A second way to lose a confirmation is a reply of the application under
the same key, which takes the id out of the table.
-/

namespace Sawang

open Board

/-- The id of an unsubscription the operation registers. -/
def ChannelOp.unsubscribes : ChannelOp → Option String
  | .respondTableSetUnsubscribe _ rid => some rid
  | _ => none

/-- The event appends a confirmation that names the uuid. -/
def Event.ConfirmsTo (env : Environment) (uuid : String) : Event → Prop
  | .replied _ (some _) reply => uuid ∈ reply.recipients env
  | _ => False

instance (env : Environment) (uuid : String) (event : Event) :
    Decidable (event.ConfirmsTo env uuid) := by
  unfold Event.ConfirmsTo
  split <;> infer_instance

/-- The call is a confirmation that is going to name the uuid. -/
def ReplyCall.ConfirmsTo (call : ReplyCall) (uuid : String) : Prop :=
  call.confirms ≠ none ∧ call.which = .singleshot ∧ call.Carries uuid

instance (call : ReplyCall) (uuid : String) : Decidable (call.ConfirmsTo uuid) :=
  inferInstanceAs (Decidable (_ ∧ _ ∧ _))

namespace Board

/-- The channel thread has the id of an unsubscription still to register. -/
def Registering (board : Board) (rid : String) : Prop :=
  ∃ op ∈ board.job, op.unsubscribes = some rid

instance (board : Board) (rid : String) : Decidable (board.Registering rid) :=
  inferInstanceAs (Decidable (∃ op ∈ board.job, op.unsubscribes = some rid))

/-- A confirmation has been appended that names the id. -/
def ConfirmedTo (env : Environment) (board : Board) (rid : String) : Prop :=
  ∃ event ∈ board.history, event.ConfirmsTo env rid

instance (env : Environment) (board : Board) (rid : String) :
    Decidable (board.ConfirmedTo env rid) :=
  inferInstanceAs (Decidable (∃ event ∈ board.history, event.ConfirmsTo env rid))

/-- The task of an unsubscription waits, is being served or being confirmed. -/
def Outstanding (board : Board) (task : ParseQueueTask) : Prop :=
  task ∈ board.parseQueue ∨ (∃ uuid, .confirm task uuid ∈ board.work) ∨
    ∃ call ∈ board.calls, call.confirms = some task ∧ call.position ≠ .awake ∧
      call.position ≠ .returned

/-- A confirmation looks its key up only when its own request is registered, and
another reply drops the id of an unsubscription only when a confirmation has
taken care of it. -/
def ConfirmsInTime (env : Environment) (board : Board) : Move → Prop
  | .reply index => ∀ call ∈ board.calls[index]?,
      (call.position = .lookupSingleshot → ∀ task ∈ call.confirms,
        RoundTrips env task.taskKey → ¬board.Registering task.rid) ∧
      (call.confirms = none → ∀ uuid ∈ call.remaining.head?,
        (.singleshot, call.taskKey, uuid, true) ∈ board.registrations →
        (∃ other ∈ board.calls, other.ConfirmsTo uuid) ∨ board.ConfirmedTo env uuid)
  | _ => True

instance (env : Environment) (board : Board) :
    (action : Move) → Decidable (board.ConfirmsInTime env action)
  | .reply index => inferInstanceAs (Decidable (∀ call ∈ board.calls[index]?,
      (call.position = .lookupSingleshot → ∀ task ∈ call.confirms,
        RoundTrips env task.taskKey → ¬board.Registering task.rid) ∧
      (call.confirms = none → ∀ uuid ∈ call.remaining.head?,
        (.singleshot, call.taskKey, uuid, true) ∈ board.registrations →
        (∃ other ∈ board.calls, other.ConfirmsTo uuid) ∨ board.ConfirmedTo env uuid)))
  | .confirm .. | .channel | .comm _ | .proxyReply .. | .channelCrash =>
      inferInstanceAs (Decidable True)

end Board

/-- What an unsubscription can count on. -/
structure UnsubscribesConfirmed (env : Environment) (board : Board) : Prop where
  /-- What the comm thread sends as a confirmation is one. -/
  genuine : ∀ index task reply, .replied index (some task) reply ∈ board.history →
    ∃ recipients multipleRespond,
      reply = clearSuccessReply env task recipients multipleRespond
  /-- The call for a task finds its id, carries it, or leaves it confirmed. -/
  answered : ∀ call ∈ board.calls, ∀ task, call.confirms = some task →
    RoundTrips env task.taskKey →
    (call.position = .lookupSingleshot ∧ (board.Registering task.rid ∨
      task.rid ∈ board.singleshot.uuids task.taskKey)) ∨
    call.ConfirmsTo task.rid ∨ board.ConfirmedTo env task.rid
  /-- No id stays in the table without a reply and without its task. -/
  notLeft : ∀ taskKey rid,
    .registered .singleshot taskKey rid true ∈ board.history →
    RoundTrips env taskKey →
    board.Named env rid ∨
      ∃ task, task.rid = rid ∧ task.taskKey = taskKey ∧ board.Outstanding task

/-- The tracing of ids of unsubscriptions: only confirmations count. -/
theorem tracing_confirmsTo (env : Environment) (uuid : String) :
    Tracing env (fun call => call.ConfirmsTo uuid) (Event.ConfirmsTo env uuid) where
  notAtLookup := by
    rintro call position ⟨_, _, carries⟩
    rcases position with from_ | from_ | from_ <;>
      simp only [ReplyCall.Carries, from_] at carries
  collected := by
    rintro call collected shape position ⟨confirms, single, carries⟩
    simp only [ReplyCall.Carries, position] at carries
    exact ⟨confirms, single, carries⟩
  dropping := by
    rintro call collected named rest position ⟨confirms, single, carries⟩
    simp only [ReplyCall.Carries, position] at carries
    exact ⟨confirms, single, carries⟩
  appending := by
    rintro index call collected shape position ⟨confirms, single, carries⟩
    simp only [ReplyCall.Shape, position] at shape
    simp only [ReplyCall.Carries, position] at carries
    obtain ⟨task, named⟩ := Option.ne_none_iff_exists'.mp confirms
    rw [named]
    change uuid ∈ (call.reply env collected).recipients env
    rw [ReplyCall.recipients_reply, shape]
    exact carries

/-- The facts that the discipline keeps. -/
structure Kept (env : Environment) (board : Board) : Prop where
  traced : ∀ taskKey rid, .registered .singleshot taskKey rid true ∈ board.history →
    Traced (fun call => call.ConfirmsTo rid) (Event.ConfirmsTo env rid) board taskKey rid
  answered : ∀ call ∈ board.calls, ∀ task, call.confirms = some task →
    RoundTrips env task.taskKey →
    call.position = .lookupSingleshot ∨ call.ConfirmsTo task.rid ∨
      board.ConfirmedTo env task.rid

/-- The outcome of an unsubscription registers its id. -/
private theorem registered_of_outcome {rid : String} {known : List Event}
    {task : ParseQueueTask} (outcome : Outcome rid known)
    (queued : .enqueued task ∈ known) (drops : task.unsubscribeTaskKey ≠ none) :
    .registered .singleshot task.taskKey rid true ∈ known := by
  cases outcome with
  | rejected status => simp at queued
  | queued own key kind normal =>
      simp only [List.mem_cons, Event.enqueued.injEq, reduceCtorEq, List.not_mem_nil,
        or_false] at queued
      rw [queued] at drops
      exact absurd normal drops
  | unsubscribed own key kind drops' =>
      simp only [List.mem_cons, Event.enqueued.injEq, reduceCtorEq, List.not_mem_nil,
        or_false, false_or] at queued
      rw [queued, key]
      exact List.mem_cons_self

/-- A queued unsubscription is registered or about to be. -/
theorem Ledger.registering_or_registered {board : Board} (ledger : Ledger board)
    {task : ParseQueueTask} (queued : .enqueued task ∈ board.history)
    (drops : task.unsubscribeTaskKey ≠ none) :
    board.Registering task.rid ∨
      .registered .singleshot task.taskKey task.rid true ∈ board.history := by
  have effect := mem_effects_iff.mpr ⟨queued, beq_self_eq_true task.rid⟩
  have settled : Outcome task.rid (effects task.rid board.history) →
      .registered .singleshot task.taskKey task.rid true ∈ board.history :=
    fun outcome => (mem_effects_iff.mp (registered_of_outcome outcome effect drops)).1
  have member : task.rid ∈ board.confirmed := by
    by_contra absent
    rw [ledger.untouched task.rid absent] at effect
    cases effect
  cases ledger.progress with
  | idle free outcomes => exact Or.inr (settled (outcomes task.rid member))
  | busy current currentMember stage outcomes =>
      by_cases same : task.rid = current
      · subst same
        generalize effects task.rid board.history = known at stage effect settled
        unfold Registering
        generalize board.job = job at stage ⊢
        cases stage with
        | registering own key kind drops => exact Or.inl ⟨_, List.mem_cons_self, rfl⟩
        | waking awakes outcome => exact Or.inr (settled outcome)
        | queueing own key kind normal => simp at effect
        | _ => cases effect
      · exact Or.inr (settled (outcomes task.rid member same))

/-- A registered unsubscription has queued its task before. -/
theorem Ledger.queued_of_registered {board : Board} (ledger : Ledger board)
    {taskKey rid : String}
    (registered : .registered .singleshot taskKey rid true ∈ board.history) :
    ∃ task, .enqueued task ∈ board.history ∧ task.rid = rid ∧ task.taskKey = taskKey ∧
      task.unsubscribeTaskKey ≠ none := by
  have effect := mem_effects_iff.mpr ⟨registered, beq_self_eq_true rid⟩
  have settled : Outcome rid (effects rid board.history) →
      ∃ task, .enqueued task ∈ effects rid board.history ∧ task.rid = rid ∧
        task.taskKey = taskKey ∧ task.unsubscribeTaskKey ≠ none := by
    generalize effects rid board.history = known at effect ⊢
    intro outcome
    cases outcome with
    | rejected status => simp at effect
    | queued own key kind normal => simp at effect
    | @unsubscribed key' task own key kind drops =>
        simp only [List.mem_cons, Event.registered.injEq, reduceCtorEq, List.not_mem_nil,
          or_false, true_and, and_true] at effect
        exact ⟨task, by simp, own, key.trans effect.symm, drops⟩
  have member : rid ∈ board.confirmed := by
    by_contra absent
    rw [ledger.untouched rid absent] at effect
    cases effect
  have outcome : Outcome rid (effects rid board.history) := by
    cases ledger.progress with
    | idle free outcomes => exact outcomes rid member
    | busy current currentMember stage outcomes =>
        by_cases same : rid = current
        · subst same
          generalize effects rid board.history = known at stage effect ⊢
          generalize board.job = job at stage
          cases stage with
          | waking awakes outcome => exact outcome
          | registering own key kind drops => simp at effect
          | queueing own key kind normal => simp at effect
          | _ => cases effect
        · exact outcomes rid member same
  obtain ⟨task, queued, own, key, drops⟩ := settled outcome
  exact ⟨task, (mem_effects_iff.mp queued).1, own, key, drops⟩

namespace Kept

variable {env : Environment} {before after : Board}

/-- The uuid a call drops next. -/
private theorem remaining_head {call : ReplyCall} {collected rest : List String}
    {uuid : String} (position : call.position = .drops collected (uuid :: rest)) :
    uuid ∈ call.remaining.head? := by
  simp [ReplyCall.remaining, position]

private theorem traced_step {action : Move} (wellformed : Wellformed env before)
    (intime : before.ConfirmsInTime env action)
    (step : BoardStep env before action after) (kept : Kept env before) :
    ∀ taskKey rid, .registered .singleshot taskKey rid true ∈ after.history →
      Traced (fun call => call.ConfirmsTo rid) (Event.ConfirmsTo env rid) after
        taskKey rid := by
  intro taskKey rid registered
  rcases listed_of_registered step registered with recorded | listed
  · refine Traced.step (tracing_confirmsTo env rid) wellformed.calls ?_ step
      (kept.traced taskKey rid recorded)
    rintro index rfl call collected rest there position rfl
    have shape := (wellformed.calls _ (List.mem_of_getElem? there)).shape
    simp only [ReplyCall.Shape, position] at shape
    by_cases application : call.confirms = none
    · have registeredHere := mem_registrations_iff.mpr recorded
      exact Or.inr ((intime call there).2 application rid (remaining_head position)
        registeredHere)
    · left
      refine ⟨application, shape.1, ?_⟩
      change rid ∈ call.uuids
      rw [shape.2.1]
      exact List.mem_append_right _ List.mem_cons_self
  · exact Or.inl listed

/-- A call that looks the key of its task up finds the id, unless it has been
confirmed before. -/
private theorem listed_at_lookup (wellformed : Wellformed env before)
    (confirming : Confirming env before) (kept : Kept env before) {index : Nat}
    {call : ReplyCall} {task : ParseQueueTask}
    (there : before.calls[index]? = some call) (confirms : call.confirms = some task)
    (position : call.position = .lookupSingleshot)
    (registered : ¬before.Registering task.rid) :
    task.rid ∈ before.singleshot.uuids task.taskKey ∨
      before.ConfirmedTo env task.rid := by
  obtain ⟨_, queued, drops⟩ :=
    confirming.calling call (List.mem_of_getElem? there) task confirms
  have known := (wellformed.ledger.registering_or_registered queued drops).resolve_left
    registered
  rcases kept.traced _ _ known with listed | ⟨other, member, holds⟩ | confirmed
  · exact Or.inl listed
  · -- no other confirmation is in progress
    obtain ⟨position', at_⟩ := List.mem_iff_getElem?.mp member
    have pending : other.position ≠ .returned := by
      intro returned
      have carries := holds.2.2
      simp only [ReplyCall.Carries, returned] at carries
    have same := confirming.unique there (by simp [confirms]) (by simp [position])
      at_ holds.1 pending
    have carries := holds.2.2
    simp only [same, ReplyCall.Carries, position] at carries
  · exact Or.inr confirmed

/-- The call for a task is on a good way. -/
private abbrev Answered (env : Environment) (board : Board) (call : ReplyCall)
    (task : ParseQueueTask) : Prop :=
  call.position = .lookupSingleshot ∨ call.ConfirmsTo task.rid ∨
    board.ConfirmedTo env task.rid

private abbrev AllAnswered (env : Environment) (board : Board) : Prop :=
  ∀ call ∈ board.calls, ∀ task, call.confirms = some task →
    RoundTrips env task.taskKey → Answered env board call task

private theorem confirmedTo_mono {rid : String} (confirmed : before.ConfirmedTo env rid)
    (grows : before.history ⊆ after.history) : after.ConfirmedTo env rid := by
  obtain ⟨event, member, confirms⟩ := confirmed
  exact ⟨event, grows member, confirms⟩

private theorem answered_frame (kept : Kept env before)
    (calls : ∀ call ∈ after.calls, call ∈ before.calls ∨ call.confirms = none ∨
      call.position = .lookupSingleshot)
    (grows : before.history ⊆ after.history) : AllAnswered env after := by
  intro call member task confirms roundTrips
  rcases calls call member with old | application | fresh
  · rcases kept.answered call old task confirms roundTrips with lookup | holds | confirmed
    · exact Or.inl lookup
    · exact Or.inr (Or.inl holds)
    · exact Or.inr (Or.inr (confirmedTo_mono confirmed grows))
  · rw [application] at confirms
    cases confirms
  · exact Or.inl fresh

/-- One call moves on; the others are answered as before. -/
private theorem answered_moved (kept : Kept env before) {index : Nat}
    {next : ReplyCall} (calls : after.calls = before.calls.set index next)
    (grows : before.history ⊆ after.history)
    (own : ∀ task, next.confirms = some task → RoundTrips env task.taskKey →
      Answered env after next task) : AllAnswered env after := by
  intro other member task confirms roundTrips
  rw [calls] at member
  rcases List.mem_or_eq_of_mem_set member with old | rfl
  · rcases kept.answered other old task confirms roundTrips with
      lookup | holds | confirmed
    · exact Or.inl lookup
    · exact Or.inr (Or.inl holds)
    · exact Or.inr (Or.inr (confirmedTo_mono confirmed grows))
  · exact own task confirms roundTrips

private theorem answered_reply {index : Nat} (wellformed : Wellformed env before)
    (confirming : Confirming env before)
    (intime : before.ConfirmsInTime env (.reply index))
    (step : BoardStep env before (.reply index) after) (kept : Kept env before) :
    AllAnswered env after := by
  have known : ∀ {call : ReplyCall}, before.calls[index]? = some call →
      ∀ task, call.confirms = some task → RoundTrips env task.taskKey →
      Answered env before call task :=
    fun there => kept.answered _ (List.mem_of_getElem? there)
  have key : ∀ {call : ReplyCall}, before.calls[index]? = some call →
      ∀ task, call.confirms = some task → RoundTrips env task.taskKey →
      call.taskKey = task.taskKey := by
    intro call there task confirms roundTrips
    have request := (confirming.calling call (List.mem_of_getElem? there) task confirms).1
    exact request.taskKey roundTrips
  have looked : ∀ {call : ReplyCall}, before.calls[index]? = some call →
      call.position = .lookupSingleshot → ∀ task, call.confirms = some task →
      RoundTrips env task.taskKey →
      task.rid ∈ before.singleshot.uuids call.taskKey ∨
        before.ConfirmedTo env task.rid := by
    intro call there position task confirms roundTrips
    rw [key there task confirms roundTrips]
    exact listed_at_lookup wellformed confirming kept there confirms position
      ((intime call there).1 position task confirms roundTrips)
  have past : ∀ {call : ReplyCall}, before.calls[index]? = some call →
      call.position ≠ .lookupSingleshot → ∀ task, call.confirms = some task →
      RoundTrips env task.taskKey →
      call.ConfirmsTo task.rid ∨ before.ConfirmedTo env task.rid := by
    intro call there elsewhere task confirms roundTrips
    exact (known there task confirms roundTrips).resolve_left elsewhere
  have settled : ∀ {call : ReplyCall}, before.calls[index]? = some call →
      call.position = .lookupMultirespond ∨ call.position = .awake →
      ∀ task, call.confirms = some task → RoundTrips env task.taskKey →
      before.ConfirmedTo env task.rid := by
    intro call there position task confirms roundTrips
    have elsewhere : call.position ≠ .lookupSingleshot := by
      rcases position with position | position <;> simp [position]
    rcases past there elsewhere task confirms roundTrips with holds | confirmed
    · exact absurd holds ((tracing_confirmsTo env _).notAtLookup _ (Or.inr position))
    · exact confirmed
  cases step with
  | crash => exact answered_frame kept (fun _ member => Or.inl member) (List.Subset.refl _)
  | foundSingleshot there position present =>
      refine answered_moved kept rfl (List.Subset.refl _) ?_
      intro task confirms roundTrips
      rcases looked there position task confirms roundTrips with listed | confirmed
      · refine Or.inr (Or.inl ⟨?_, rfl, ReplyCall.carries_found.mpr listed⟩)
        simp [confirms]
      · exact Or.inr (Or.inr confirmed)
  | foundMultirespond there position present =>
      refine answered_moved kept rfl (List.Subset.refl _) ?_
      intro task confirms roundTrips
      exact Or.inr (Or.inr (settled there (Or.inl position) task confirms roundTrips))
  | advance there passes =>
      have shape := (wellformed.calls _ (List.mem_of_getElem? there)).shape
      refine answered_moved kept rfl (List.Subset.refl _) ?_
      intro task confirms roundTrips
      rcases passes with ⟨from_, _, empty⟩ | ⟨from_, _⟩ | ⟨collected, from_, rfl⟩ | ⟨from_, _⟩
      · rcases looked there from_ task confirms roundTrips with listed | confirmed
        · rw [empty] at listed
          cases listed
        · exact Or.inr (Or.inr confirmed)
      · exact Or.inr (Or.inr (settled there (Or.inl from_) task confirms roundTrips))
      · rcases past there (by simp [from_]) task confirms roundTrips with holds | confirmed
        · exact Or.inr (Or.inl
            ((tracing_confirmsTo env _).collected _ collected shape from_ holds))
        · exact Or.inr (Or.inr confirmed)
      · exact Or.inr (Or.inr (settled there (Or.inr from_) task confirms roundTrips))
  | dropRecipient there position =>
      refine answered_moved kept rfl (List.Subset.refl _) ?_
      intro task confirms roundTrips
      rcases past there (by simp [position]) task confirms roundTrips with holds | confirmed
      · exact Or.inr (Or.inl
          ((tracing_confirmsTo env _).dropping _ _ _ _ position holds))
      · exact Or.inr (Or.inr confirmed)
  | append there position =>
      have shape := (wellformed.calls _ (List.mem_of_getElem? there)).shape
      refine answered_moved kept rfl (List.subset_cons_self _ _) ?_
      intro task confirms roundTrips
      rcases past there (by simp [position]) task confirms roundTrips with holds | confirmed
      · exact Or.inr (Or.inr ⟨_, List.mem_cons_self,
          (tracing_confirmsTo env _).appending index _ _ shape position holds⟩)
      · exact Or.inr (Or.inr (confirmedTo_mono confirmed (List.subset_cons_self _ _)))

private theorem answered_step {action : Move} (wellformed : Wellformed env before)
    (confirming : Confirming env before) (intime : before.ConfirmsInTime env action)
    (step : BoardStep env before action after) (kept : Kept env before) :
    AllAnswered env after := by
  have started : ∀ {call other : ReplyCall}, call.position = .lookupSingleshot →
      other ∈ before.calls ++ [call] →
      other ∈ before.calls ∨ other.confirms = none ∨
        other.position = .lookupSingleshot := by
    intro call other position member
    rcases List.mem_append.mp member with old | new
    · exact Or.inl old
    · rw [List.mem_singleton.mp new]
      exact Or.inr (Or.inr position)
  cases action with
  | reply index => exact answered_reply wellformed confirming intime step kept
  | channel =>
      cases step <;>
        exact answered_frame kept (fun _ member => Or.inl member) (by simp [record, crash])
  | comm input =>
      cases step with
      | confirmCall next built =>
          exact answered_frame kept (fun _ => started rfl) (List.Subset.refl _)
      | callbackReply next =>
          exact answered_frame kept (fun _ => started rfl) (List.Subset.refl _)
      | _ =>
          exact answered_frame kept (fun _ member => Or.inl member)
            (by simp [record, crash])
  | confirm exchange rid =>
      cases step <;>
        exact answered_frame kept (fun _ member => Or.inl member) (by simp [record, crash])
  | channelCrash =>
      cases step
      exact answered_frame kept (fun _ member => Or.inl member) (List.Subset.refl _)
  | proxyReply arg headers payload =>
      cases step with
      | proxyReply => exact answered_frame kept (fun _ => started rfl) (List.Subset.refl _)
      | crash =>
          exact answered_frame kept (fun _ member => Or.inl member) (List.Subset.refl _)

theorem step {action : Move} (wellformed : Wellformed env before)
    (confirming : Confirming env before) (intime : before.ConfirmsInTime env action)
    (step : BoardStep env before action after) (kept : Kept env before) :
    Kept env after where
  traced := traced_step wellformed intime step kept
  answered := answered_step wellformed confirming intime step kept

end Kept

/-- Everything the result about unsubscriptions rests on. -/
private structure Served (env : Environment) (board : Board) : Prop where
  wellformed : Wellformed env board
  confirming : Confirming env board
  kept : Kept env board

private theorem served_of_reaches {env : Environment} {board : Board}
    (reached : Runs.Reaches (Board.move env)
      (fun board action => board.Fresh action ∧ board.ConfirmsInTime env action)
      Board.initial board) : Served env board := by
  apply reached.invariant
  · refine ⟨wellformed_initial env, .initial env, ?_, ?_⟩
    · intro taskKey rid registered
      cases registered
    · intro call member
      cases member
  · intro before action after served allowed moved
    have step := boardStep_of_move moved
    exact ⟨wellformed_step served.wellformed allowed.1 step,
      served.confirming.step served.wellformed.tasks step,
      served.kept.step served.wellformed served.confirming allowed.2 step⟩

private theorem Served.unsubscribesConfirmed {env : Environment} {board : Board}
    (served : Served env board) : UnsubscribesConfirmed env board := by
  obtain ⟨wellformed, confirming, kept⟩ := served
  refine ⟨confirming.genuine, ?_, ?_⟩
  · intro call member task confirms roundTrips
    rcases kept.answered call member task confirms roundTrips with
      position | holds | confirmed
    · obtain ⟨index, there⟩ := List.mem_iff_getElem?.mp member
      by_cases registering : board.Registering task.rid
      · exact Or.inl ⟨position, Or.inl registering⟩
      · rcases kept.listed_at_lookup wellformed confirming there confirms position
          registering with listed | confirmed
        · exact Or.inl ⟨position, Or.inr listed⟩
        · exact Or.inr (Or.inr confirmed)
    · exact Or.inr (Or.inl holds)
    · exact Or.inr (Or.inr confirmed)
  · intro taskKey rid registered roundTrips
    obtain ⟨task, queued, rfl, rfl, drops⟩ :=
      wellformed.ledger.queued_of_registered registered
    have named : board.ConfirmedTo env task.rid → board.Named env task.rid := by
      rintro ⟨event, member, confirms⟩
      unfold Event.ConfirmsTo at confirms
      split at confirms
      · exact ⟨_, List.mem_filterMap.mpr ⟨_, member, rfl⟩, confirms⟩
      · cases confirms
    rcases confirming.located task queued drops with waiting | working | called
    · exact Or.inr ⟨task, rfl, rfl, Or.inl waiting⟩
    · exact Or.inr ⟨task, rfl, rfl, Or.inr (Or.inl working)⟩
    · obtain ⟨call, member, confirms⟩ := called
      by_cases past : call.position = .awake ∨ call.position = .returned
      · left
        apply named
        rcases kept.answered call member task confirms roundTrips with
          position | holds | confirmed
        · rcases past with from_ | from_ <;> rw [from_] at position <;> cases position
        · have carries := holds.2.2
          rcases past with from_ | from_ <;>
            simp only [ReplyCall.Carries, from_] at carries
        · exact confirmed
      · rw [not_or] at past
        exact Or.inr ⟨task, rfl, rfl, Or.inr (Or.inr ⟨call, member, confirms, past⟩)⟩

/-- In every run of the proxy with distinct request ids in which confirmations
find their requests registered and no other reply takes them away. -/
theorem unsubscribe_confirmed {env : Environment} {state : ProxyState}
    (reached : Runs.Reaches (ProxyState.step env)
      (ProxyState.Lifted fun board action =>
        board.Fresh action ∧ board.ConfirmsInTime env action) .initial state) :
    UnsubscribesConfirmed env state.board :=
  (served_of_reaches (ProxyState.board_reaches reached)).unsubscribesConfirmed

/-- A run in which the channel thread is done before the comm thread begins. -/
theorem unsubscribe_confirmed_later :
    ∃ state : ProxyState,
      state.board.ConfirmedTo .reference "r2" ∧
        UnsubscribesConfirmed .reference state.board := by
  obtain ⟨state, reached, tested⟩ :=
    Runs.reaches_of_execute_test (ProxyState.step .reference)
      (ProxyState.Lifted fun board action =>
        board.Fresh action ∧ board.ConfirmsInTime .reference action)
      (ProxyState.requestActions "s" (.object []) .multirespond false "r1" 5 ++
        ProxyState.requestActions "s" (.object [("rid", .string "r1")]) .singleshot
          true "r2" 5 ++
        ProxyState.commActions 10 ++ ProxyState.replyActions 0 2)
      .initial (fun state => decide (state.board.ConfirmedTo .reference "r2"))
      (by decide +kernel)
  exact ⟨state, of_decide_eq_true tested, unsubscribe_confirmed reached⟩

/-- The comm thread confirms between the two steps of the channel thread. -/
theorem unsubscribe_lost :
    ¬∀ state, Runs.Reaches (ProxyState.step .reference)
        (ProxyState.Lifted Board.Fresh) .initial state →
      UnsubscribesConfirmed .reference state.board := by
  intro always
  obtain ⟨state, reached, tested⟩ :=
    Runs.reaches_of_execute_test (ProxyState.step .reference)
      (ProxyState.Lifted Board.Fresh)
      (ProxyState.requestActions "s" (.object []) .multirespond false "r1" 5 ++
        ProxyState.requestActions "s" (.object [("rid", .string "r1")]) .singleshot
          true "r2" 3 ++
        ProxyState.commActions 10 ++ ProxyState.replyActions 0 2 ++
        ProxyState.commActions 1 ++ [ProxyState.channelStep])
      .initial
      (fun state => decide (
        ((.singleshot,
          taskKeyFromReplyArg .reference ⟨"s", some (.object [("rid", .string "r1")])⟩,
          "r2", true) ∈ state.board.registrations ∧
        state.board.replies .reference = []) ∧
        (state.board.parseQueue = [] ∧ state.board.work.length = 0 ∧
        ∀ call ∈ state.board.calls, call.position = .returned)))
      (by decide +kernel)
  obtain ⟨⟨registered, silent⟩, queue, work, returned⟩ := of_decide_eq_true tested
  have roundTrips := proxyCommCreateReplyArg_taskKeyFromReplyArg .reference
    ⟨"s", some (.object [("rid", .string "r1")])⟩
  have kept := (always state reached).notLeft _ _ (mem_registrations_iff.mp registered)
    (by rw [RoundTrips, roundTrips]; rfl)
  rcases kept with ⟨reply, member, _⟩ | ⟨task, _, _, waits | ⟨uuid, confirm⟩ | called⟩
  · rw [silent] at member
    cases member
  · rw [queue] at waits
    cases waits
  · rw [List.length_eq_zero_iff.mp work] at confirm
    cases confirm
  · obtain ⟨call, member, _, _, pending⟩ := called
    exact pending (returned call member)

end Sawang
