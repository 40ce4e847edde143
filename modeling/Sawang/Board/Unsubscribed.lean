import Sawang.Board.Confirming
import Sawang.Board.MultiRespond

/-!
# Replies after an unsubscription

A reply call copies the subscribers under the lock of the table and appends its
reply under another lock.  The drop of a subscriber and its confirmation fit in
between, and the reply then still names the subscriber that was told it is gone.
-/

namespace Sawang

open Board History

/-- The event appends the confirmation that the uuid is unsubscribed. -/
def Event.ConfirmsDropOf (uuid : String) : Event → Prop
  | .replied _ (some task) _ => task.unsubscribeUuid = some uuid
  | _ => False

instance (uuid : String) : (event : Event) → Decidable (event.ConfirmsDropOf uuid)
  | .replied _ (some task) _ => inferInstanceAs (Decidable (task.unsubscribeUuid = some uuid))
  | .replied _ none _ | .confirmed _ | .rejected .. | .registered .. | .enqueued _
  | .dequeued _ | .dropped .. | .cleared .. | .ran .. => inferInstanceAs (Decidable False)

namespace Board

/-- The subscriber has been dropped from the entry it was registered in. -/
structure Gone (board : Board) (uuid : String) : Prop where
  registered : ∃ taskKey, .registered .multirespond taskKey uuid false ∈ board.history
  unlisted : ∀ taskKey, uuid ∉ board.multirespond.uuids taskKey

/-- A confirmation is appended while no reply of the application is on its way to
the uuid it confirms. -/
def ConfirmsAlone (board : Board) : Move → Prop
  | .reply index => ∀ call ∈ board.calls[index]?, ∀ task ∈ call.confirms,
      call.Appends → ∀ uuid ∈ task.unsubscribeUuid,
        ∀ other ∈ board.calls, other.confirms = none → ¬other.Carries uuid
  | _ => True

instance (board : Board) : (action : Move) → Decidable (board.ConfirmsAlone action)
  | .reply index => inferInstanceAs (Decidable (
      ∀ call ∈ board.calls[index]?, ∀ task ∈ call.confirms,
        call.Appends → ∀ uuid ∈ task.unsubscribeUuid,
          ∀ other ∈ board.calls, other.confirms = none → ¬other.Carries uuid))
  | .confirm .. | .channel | .comm _ | .proxyReply .. | .channelCrash =>
      inferInstanceAs (Decidable True)

/-- No reply appended after the confirmation of an unsubscription names the uuid
that was unsubscribed. -/
def UnsubscribesFinal (env : Environment) (board : Board) : Prop :=
  ∀ uuid later earlier, Follows board.history later earlier →
    earlier.ConfirmsDropOf uuid → ¬later.Names env uuid

end Board

/-! ## What a step can copy -/

/-- A call in progress that names a uuid named it before, or has just found it in
a table. -/
theorem carries_of_step {env : Environment} {before after : Board} {action : Move}
    (step : BoardStep env before action after) {call : ReplyCall} {uuid : String}
    (member : call ∈ after.calls) (carries : call.Carries uuid) :
    (∃ old ∈ before.calls, old.Carries uuid ∧ old.confirms = call.confirms) ∨
      (∃ taskKey, uuid ∈ before.singleshot.uuids taskKey) ∨
      ∃ taskKey, uuid ∈ before.multirespond.uuids taskKey := by
  have kept : ∀ {other : ReplyCall}, other ∈ before.calls → other.Carries uuid →
      ∃ old ∈ before.calls, old.Carries uuid ∧ old.confirms = other.confirms :=
    fun there holds => ⟨_, there, holds, rfl⟩
  have started : ∀ {arg : ProxyReplyArg} {headers payload : Option Json}
      {confirms : Option ParseQueueTask},
      call ∈ before.calls ++ [replyCall env arg headers payload confirms] →
      ∃ old ∈ before.calls, old.Carries uuid ∧ old.confirms = call.confirms := by
    intro arg headers payload confirms pushed
    rcases List.mem_append.mp pushed with old | new
    · exact kept old carries
    · rw [List.mem_singleton.mp new] at carries
      cases carries
  cases step with
  | confirmCall next built => exact Or.inl (started member)
  | callbackReply next => exact Or.inl (started member)
  | proxyReply => exact Or.inl (started member)
  | foundSingleshot there position present =>
      rcases List.mem_or_eq_of_mem_set member with old | rfl
      · exact Or.inl (kept old carries)
      · exact Or.inr (Or.inl ⟨_, ReplyCall.carries_found.mp carries⟩)
  | foundMultirespond there position present =>
      rcases List.mem_or_eq_of_mem_set member with old | rfl
      · exact Or.inl (kept old carries)
      · exact Or.inr (Or.inr ⟨_, ReplyCall.carries_found.mp carries⟩)
  | advance there passes =>
      rcases List.mem_or_eq_of_mem_set member with old | rfl
      · exact Or.inl (kept old carries)
      · refine Or.inl ⟨_, List.mem_of_getElem? there, ?_, rfl⟩
        rcases passes with ⟨_, rfl, _⟩ | ⟨_, rfl, _⟩ | ⟨collected, from_, rfl⟩ | ⟨_, rfl⟩
        · cases carries
        · cases carries
        · simpa only [ReplyCall.Carries, ReplyCall.moveTo, from_] using carries
        · cases carries
  | dropRecipient there position =>
      rcases List.mem_or_eq_of_mem_set member with old | rfl
      · exact Or.inl (kept old carries)
      · refine Or.inl ⟨_, List.mem_of_getElem? there, ?_, rfl⟩
        simpa only [ReplyCall.Carries, ReplyCall.moveTo, position] using carries
  | append there position =>
      rcases List.mem_or_eq_of_mem_set member with old | rfl
      · exact Or.inl (kept old carries)
      · cases carries
  | _ => exact Or.inl (kept member carries)

/-- A confirming call was one before, or is the one the comm thread starts. -/
theorem confirms_of_step {env : Environment} {before after : Board} {action : Move}
    (step : BoardStep env before action after) {call : ReplyCall} {task : ParseQueueTask}
    (member : call ∈ after.calls) (confirms : call.confirms = some task) :
    (∃ old ∈ before.calls, old.confirms = some task) ∨
      ∃ uuid rest, before.work = .confirm task uuid :: rest := by
  have moved : ∀ {index : Nat} {own next : ReplyCall},
      before.calls[index]? = some own → call ∈ before.calls.set index next →
      next.confirms = own.confirms → ∃ old ∈ before.calls, old.confirms = some task := by
    intro index own next there replaced same
    rcases List.mem_or_eq_of_mem_set replaced with old | rfl
    · exact ⟨call, old, confirms⟩
    · exact ⟨own, List.mem_of_getElem? there, same ▸ confirms⟩
  have application : ∀ {arg : ProxyReplyArg} {headers payload : Option Json},
      call ∈ before.calls ++ [replyCall env arg headers payload none] →
      ∃ old ∈ before.calls, old.confirms = some task := by
    intro arg headers payload pushed
    rcases List.mem_append.mp pushed with old | new
    · exact ⟨call, old, confirms⟩
    · rw [List.mem_singleton.mp new] at confirms
      cases confirms
  cases step with
  | confirmCall next built =>
      rcases List.mem_append.mp member with old | new
      · exact Or.inl ⟨call, old, confirms⟩
      · rw [List.mem_singleton.mp new] at confirms
        cases confirms
        exact Or.inr ⟨_, _, next⟩
  | callbackReply next => exact Or.inl (application member)
  | proxyReply => exact Or.inl (application member)
  | foundSingleshot there position present =>
      exact Or.inl (moved there member rfl)
  | foundMultirespond there position present =>
      exact Or.inl (moved there member rfl)
  | advance there passes => exact Or.inl (moved there member rfl)
  | dropRecipient there position => exact Or.inl (moved there member rfl)
  | append there position => exact Or.inl (moved there member rfl)
  | _ => exact Or.inl ⟨call, member, confirms⟩

namespace Board.Gone

variable {env : Environment} {before after : Board} {uuid : String}

/-- Nothing that registered a subscription is in the single-shot table. -/
theorem unlisted_singleshot (gone : before.Gone uuid) (ledger : Ledger before)
    (taskKey : String) : uuid ∉ before.singleshot.uuids taskKey := by
  intro member
  obtain ⟨unsubscribe, single⟩ := ledger.singleshot taskKey uuid member
  obtain ⟨key, several⟩ := gone.registered
  have same := (ledger.registered_unique single several).1
  cases same

/-- An id that is no longer registered has been dropped from everywhere. -/
theorem of_unlisted {taskKey : String} (ledger : Ledger before)
    (registered : .registered .multirespond taskKey uuid false ∈ before.history)
    (unlisted : uuid ∉ before.multirespond.uuids taskKey) : before.Gone uuid := by
  refine ⟨⟨taskKey, registered⟩, ?_⟩
  intro key member
  have other := ledger.multirespond key uuid member
  have same := (ledger.registered_unique registered other).2.1
  subst same
  exact unlisted member

private theorem mono (gone : before.Gone uuid) (grows : before.history ⊆ after.history)
    (shrinks : ∀ taskKey, uuid ∈ after.multirespond.uuids taskKey →
      uuid ∈ before.multirespond.uuids taskKey) : after.Gone uuid := by
  obtain ⟨⟨taskKey, registered⟩, unlisted⟩ := gone
  exact ⟨⟨taskKey, grows registered⟩, fun key member => unlisted key (shrinks key member)⟩

/-- An id is never registered again. -/
theorem step {action : Move} (gone : before.Gone uuid) (ledger : Ledger before)
    (step : BoardStep env before action after) : after.Gone uuid := by
  apply gone.mono (history_subset_of_step step)
  intro taskKey member
  rcases subscribed_of_step step member with old | ⟨rest, next⟩
  · exact old
  · obtain ⟨key, registered⟩ := gone.registered
    exact absurd (Or.inr ⟨_, key, _, registered⟩) (ledger.not_known next rfl)

/-- A call names a dropped uuid only if it named it before. -/
theorem carries {action : Move} (gone : before.Gone uuid) (ledger : Ledger before)
    (step : BoardStep env before action after) {call : ReplyCall}
    (member : call ∈ after.calls) (carries : call.Carries uuid) :
    ∃ old ∈ before.calls, old.Carries uuid ∧ old.confirms = call.confirms := by
  rcases carries_of_step step member carries with
    old | ⟨taskKey, single⟩ | ⟨taskKey, several⟩
  · exact old
  · exact absurd single (gone.unlisted_singleshot ledger taskKey)
  · exact absurd several (gone.unlisted taskKey)

end Board.Gone

/-! ## The invariant -/

/-- The uuid is unsubscribed and no reply is on its way to it. -/
def Board.Silenced (board : Board) (uuid : String) : Prop :=
  board.Gone uuid ∧ ∀ call ∈ board.calls, ¬call.Carries uuid

structure Final (env : Environment) (board : Board) : Prop where
  /-- The comm thread confirms after it has dropped. -/
  working : ∀ task uuid, .confirm task uuid ∈ board.work →
    (∃ taskKey, .unsubscribe task taskKey uuid ∈ board.work) ∨ board.Gone uuid
  calling : ∀ call ∈ board.calls, ∀ task uuid, call.confirms = some task →
    task.unsubscribeUuid = some uuid → board.Gone uuid ∧ ¬call.Carries uuid
  confirmed : ∀ event ∈ board.history, ∀ uuid, event.ConfirmsDropOf uuid →
    board.Silenced uuid
  final : board.UnsubscribesFinal env

namespace Final

variable {env : Environment} {before after : Board}

theorem initial (env : Environment) : Final env Board.initial where
  working := by
    intro task uuid member
    cases member
  calling := by
    intro call member
    cases member
  confirmed := by
    intro event member
    cases member
  final := by
    intro uuid later earlier follows
    exact absurd follows not_follows_nil

/-- A uuid that nobody subscribes and nobody carries stays so. -/
theorem silenced_step {action : Move} {uuid : String} (wellformed : Wellformed env before)
    (step : BoardStep env before action after) (silenced : before.Silenced uuid) :
    after.Silenced uuid := by
  obtain ⟨gone, quiet⟩ := silenced
  refine ⟨gone.step wellformed.ledger step, ?_⟩
  intro call member carries
  obtain ⟨old, there, carried, _⟩ := gone.carries wellformed.ledger step member carries
  exact quiet old there carried

private abbrev Working (board : Board) : Prop :=
  ∀ task uuid, .confirm task uuid ∈ board.work →
    (∃ taskKey, .unsubscribe task taskKey uuid ∈ board.work) ∨ board.Gone uuid

private theorem working_same {action : Move} (wellformed : Wellformed env before)
    (step : BoardStep env before action after) (kept : Final env before)
    (same : after.work = before.work) : Working after := by
  intro task uuid member
  rw [same] at member ⊢
  rcases kept.working task uuid member with unsubscribes | gone
  · exact Or.inl unsubscribes
  · exact Or.inr (gone.step wellformed.ledger step)

/-- The comm thread serves an operation that drops nothing. -/
private theorem working_serve {input : CommInput} (wellformed : Wellformed env before)
    (step : BoardStep env before (.comm input) after) (kept : Final env before)
    {op : CommOp} {rest : List CommOp} (ahead : List CommOp)
    (next : before.work = op :: rest) (work : after.work = ahead ++ rest)
    (dropless : op.drops = none) (unconfirming : ∀ task uuid, .confirm task uuid ∉ ahead) :
    Working after := by
  intro task uuid member
  rw [work, List.mem_append] at member
  have inRest := member.resolve_left (unconfirming task uuid)
  rcases kept.working task uuid (next ▸ List.mem_cons_of_mem _ inRest) with
    ⟨taskKey, unsubscribes⟩ | gone
  · left
    refine ⟨taskKey, ?_⟩
    rw [next] at unsubscribes
    rcases List.mem_cons.mp unsubscribes with rfl | behind
    · cases dropless
    · rw [work]
      exact List.mem_append_right _ behind
  · exact Or.inr (gone.step wellformed.ledger step)

/-- After the drop nobody is left to be confirmed but the dropped uuid. -/
private theorem working_drop {input : CommInput} (cyclic : Cyclic env before)
    (step : BoardStep env before (.comm input) after)
    {op : CommOp} {rest : List CommOp} {taskKey uuid : String} (ahead : List CommOp)
    (next : before.work = op :: rest) (drops : op.drops = some (taskKey, uuid))
    (work : after.work = ahead ++ rest)
    (unconfirming : ∀ task uuid, .confirm task uuid ∉ ahead)
    (grows : before.history ⊆ after.history)
    (unlisted : uuid ∉ after.multirespond.uuids taskKey) : Working after := by
  have wellformed := cyclic.wellformed
  obtain ⟨own, ownDrops, rfl, rfl⟩ := drop_stage wellformed.tasks next drops
  have pending : own ∈ before.pending := by
    unfold pending
    simp [next, CommOp.task]
  have registered := grows (cyclic.registered_of_drops ownDrops pending)
  have ledger := ledger_step wellformed.tasks step trivial wellformed.ledger
  intro task other member
  rw [work, List.mem_append] at member
  have confirmed := List.mem_singleton.mp (member.resolve_left (unconfirming task other))
  cases confirmed
  exact Or.inr (.of_unlisted ledger registered unlisted)

private theorem working_comm {input : CommInput} (cyclic : Cyclic env before)
    (step : BoardStep env before (.comm input) after) (kept : Final env before) :
    Working after := by
  have wellformed := cyclic.wellformed
  have same := working_same wellformed step kept
  have served := @working_serve env before after input wellformed step kept
  have dropped := @working_drop env before after input cyclic step
  cases step with
  | crash => exact same rfl
  | dequeue free head =>
      intro task uuid member
      obtain ⟨rfl, taskKey, _, drops⟩ := confirm_mem_taskWork member
      exact Or.inl ⟨taskKey, drops⟩
  | dropAbsent next drops absent =>
      exact dropped [] next drops rfl (by simp) (List.Subset.refl _) absent
  | dropLast next drops present last clears =>
      refine dropped [.multirespondClear _] next drops rfl (by simp)
        (List.subset_cons_self _ _) ?_
      exact RespondTable.not_mem_uuids_drop _ _ _
  | dropQuiet next drops present quiet =>
      refine dropped [] next drops rfl (by simp) (List.subset_cons_self _ _) ?_
      exact RespondTable.not_mem_uuids_drop _ _ _
  | clear next built => exact served [.callback] next rfl rfl (by simp)
  | confirmCall next built => exact served [.awaitReply _] next rfl rfl (by simp)
  | awaited next there finished => exact served [] next rfl rfl (by simp)
  | run next built normal => exact served [.callback] next rfl rfl (by simp)
  | runDrop next built drop => exact served _ next rfl rfl (by simp)
  | callbackReturn next => exact served [] next rfl rfl (by simp)
  | callbackReply next => exact served [.awaitReply _, .callback] next rfl rfl (by simp)
  | requestUnknown next => exact served [] next rfl rfl (by simp)
  | requestFound next resolved =>
      have stage := wellformed.tasks.work
      rw [next] at stage
      cases stage

private theorem working_step {action : Move} (cyclic : Cyclic env before)
    (step : BoardStep env before action after) (kept : Final env before) :
    Working after := by
  have elsewhere := working_same cyclic.wellformed step kept
  cases action with
  | comm input => exact working_comm cyclic step kept
  | confirm exchange rid => cases step <;> exact elsewhere rfl
  | channel => cases step <;> exact elsewhere rfl
  | reply index => cases step <;> exact elsewhere rfl
  | proxyReply arg headers payload => cases step <;> exact elsewhere rfl
  | channelCrash =>
      cases step
      exact elsewhere rfl

private theorem calling_step {action : Move} (wellformed : Wellformed env before)
    (step : BoardStep env before action after) (kept : Final env before) :
    ∀ call ∈ after.calls, ∀ task uuid, call.confirms = some task →
      task.unsubscribeUuid = some uuid → after.Gone uuid ∧ ¬call.Carries uuid := by
  intro call member task uuid confirms dropped
  have gone : before.Gone uuid := by
    rcases confirms_of_step step member confirms with
      ⟨old, there, confirmed⟩ | ⟨other, rest, next⟩
    · exact (kept.calling old there task uuid confirmed dropped).1
    · have stage := wellformed.tasks.work
      rw [next] at stage
      cases stage with
      | confirming named =>
          have same : other = uuid := Option.some.inj (named.symm.trans dropped)
          subst same
          rcases kept.working task other (next ▸ List.mem_cons_self) with
            ⟨taskKey, unsubscribes⟩ | gone
          · rw [next] at unsubscribes
            simp at unsubscribes
          · exact gone
  refine ⟨gone.step wellformed.ledger step, ?_⟩
  intro carries
  obtain ⟨old, there, carried, same⟩ := gone.carries wellformed.ledger step member carries
  exact (kept.calling old there task uuid (same.trans confirms) dropped).2 carried

/-- The discipline: when the confirmation is appended its uuid is silent. -/
private theorem silenced_of_append {index : Nat} {call : ReplyCall} {collected : List String}
    {task : ParseQueueTask} {uuid : String} (confirming : Confirming env before)
    (alone : before.ConfirmsAlone (.reply index)) (kept : Final env before)
    (there : before.calls[index]? = some call) (position : call.position = .append collected)
    (confirms : call.confirms = some task) (dropped : task.unsubscribeUuid = some uuid) :
    before.Silenced uuid := by
  obtain ⟨gone, notOwn⟩ :=
    kept.calling call (List.mem_of_getElem? there) task uuid confirms dropped
  refine ⟨gone, ?_⟩
  intro other member carries
  by_cases application : other.confirms = none
  · have appends : call.Appends := by
      unfold ReplyCall.Appends
      rw [position]
      trivial
    exact alone call there task confirms appends uuid dropped other member application
      carries
  · -- no other confirmation is in progress
    obtain ⟨place, at_⟩ := List.mem_iff_getElem?.mp member
    have pending : other.position ≠ .returned := by
      intro returned
      simp only [ReplyCall.Carries, returned] at carries
    have same := confirming.unique there (by simp [confirms]) (by simp [position]) at_
      application pending
    rw [same] at carries
    exact notOwn carries

/-- What a move records does not name a silent uuid. -/
private theorem unnamed {action : Move} {uuid : String} {event : Event}
    (wellformed : Wellformed env before) (step : BoardStep env before action after)
    (silenced : before.Silenced uuid)
    (recorded : after.history = event :: before.history) : ¬event.Names env uuid := by
  rintro ⟨reply, appended, recipient⟩
  cases records_of_step step with
  | nothing same =>
      rw [same] at recorded
      exact List.cons_ne_self _ _ recorded.symm
  | refusal next new =>
      cases (List.cons.inj (new.symm.trans recorded)).1
      cases appended
      rw [recipients_invalidStatusReply, List.mem_singleton] at recipient
      subst recipient
      obtain ⟨taskKey, registered⟩ := silenced.1.registered
      exact wellformed.ledger.not_known next rfl (Or.inr ⟨_, taskKey, _, registered⟩)
  | reply there position new =>
      cases (List.cons.inj (new.symm.trans recorded)).1
      cases appended
      have member := List.mem_of_getElem? there
      have shape := (wellformed.calls _ member).shape
      simp only [ReplyCall.Shape, position] at shape
      rw [ReplyCall.recipients_reply, shape] at recipient
      apply silenced.2 _ member
      simpa only [ReplyCall.Carries, position] using recipient
  | other silent new =>
      cases (List.cons.inj (new.symm.trans recorded)).1
      rw [silent] at appended
      cases appended

/-- An event that confirms an unsubscription is the reply of a confirming call. -/
private theorem confirmed_step {action : Move} (wellformed : Wellformed env before)
    (confirming : Confirming env before) (alone : before.ConfirmsAlone action)
    (step : BoardStep env before action after) (kept : Final env before) :
    ∀ event ∈ after.history, ∀ uuid, event.ConfirmsDropOf uuid → after.Silenced uuid := by
  intro event member uuid drops
  apply silenced_step wellformed step
  cases records_of_step step with
  | nothing same => exact kept.confirmed event (same ▸ member) uuid drops
  | refusal next new =>
      rw [new] at member
      rcases List.mem_cons.mp member with rfl | old
      · cases drops
      · exact kept.confirmed event old uuid drops
  | @reply index call collected there position new =>
      rw [new] at member
      rcases List.mem_cons.mp member with rfl | old
      · cases confirms : call.confirms with
        | none =>
            rw [confirms] at drops
            cases drops
        | some task =>
            rw [confirms] at drops
            exact silenced_of_append confirming alone kept there position confirms drops
      · exact kept.confirmed event old uuid drops
  | other silent new =>
      rw [new] at member
      rcases List.mem_cons.mp member with rfl | old
      · cases event <;> first | cases drops | cases silent
      · exact kept.confirmed event old uuid drops

private theorem final_step {action : Move} (wellformed : Wellformed env before)
    (step : BoardStep env before action after) (kept : Final env before) :
    after.UnsubscribesFinal env := by
  intro uuid later earlier follows drops
  have grown : after.history = before.history ∨
      ∃ event, after.history = event :: before.history := by
    cases records_of_step step with
    | nothing same => exact Or.inl same
    | refusal next new => exact Or.inr ⟨_, new⟩
    | reply there position new => exact Or.inr ⟨_, new⟩
    | other silent new => exact Or.inr ⟨_, new⟩
  rcases grown with same | ⟨event, new⟩
  · rw [same] at follows
    exact kept.final uuid later earlier follows drops
  · rw [new] at follows
    rcases follows_cons_iff.mp follows with ⟨rfl, recorded⟩ | old
    · exact unnamed wellformed step (kept.confirmed earlier recorded uuid drops) new
    · exact kept.final uuid later earlier old drops

theorem step {action : Move} (cyclic : Cyclic env before)
    (confirming : Confirming env before) (alone : before.ConfirmsAlone action)
    (step : BoardStep env before action after) (kept : Final env before) :
    Final env after where
  working := working_step cyclic step kept
  calling := calling_step cyclic.wellformed step kept
  confirmed := confirmed_step cyclic.wellformed confirming alone step kept
  final := final_step cyclic.wellformed step kept

end Final

/-- Everything the result about later replies rests on. -/
private structure Muted (env : Environment) (board : Board) : Prop where
  cyclic : Cyclic env board
  confirming : Confirming env board
  kept : Final env board

private theorem muted_of_reaches {env : Environment} {board : Board}
    (reached : Runs.Reaches (Board.move env)
      (fun board action => board.Fresh action ∧ board.ConfirmsAlone action)
      Board.initial board) : Muted env board := by
  have fresh : ∀ other, Runs.Reaches (Board.move env)
      (fun board action => board.Fresh action ∧ board.ConfirmsAlone action)
      Board.initial other → Cyclic env other := by
    intro other earlier
    exact cyclic_of_reaches (earlier.mono fun _ _ allowed => allowed.1)
  have kept : Confirming env board ∧ Final env board := by
    apply reached.invariant_of fresh ⟨.initial env, .initial env⟩
    intro before action after cyclic facts allowed moved
    have step := boardStep_of_move moved
    exact ⟨facts.1.step cyclic.wellformed.tasks step,
      facts.2.step cyclic facts.1 allowed.2 step⟩
  exact ⟨fresh board reached, kept.1, kept.2⟩

/-- In every run of the proxy with distinct request ids in which no confirmation
overtakes a reply to the subscriber it confirms. -/
theorem unsubscribe_final {env : Environment} {state : ProxyState}
    (reached : Runs.Reaches (ProxyState.step env)
      (ProxyState.Lifted fun board action =>
        board.Fresh action ∧ board.ConfirmsAlone action) .initial state) :
    state.board.UnsubscribesFinal env :=
  (muted_of_reaches (ProxyState.board_reaches reached)).kept.final

/-- A run in which a reply to the subscriber is appended before the confirmation. -/
theorem unsubscribe_final_earlier :
    ∃ state : ProxyState,
      (state.board.Named .reference "r1" ∧
        ∃ event ∈ state.board.history, event.ConfirmsDropOf "r1") ∧
      state.board.UnsubscribesFinal .reference := by
  obtain ⟨state, reached, tested⟩ :=
    Runs.reaches_of_execute_test (ProxyState.step .reference)
      (ProxyState.Lifted fun board action =>
        board.Fresh action ∧ board.ConfirmsAlone action)
      (ProxyState.requestActions "s" (.object []) .multirespond false "r1" 5 ++
        [.proxyReply ⟨"s", some (.object [])⟩ none none] ++
        ProxyState.replyActions 0 3 ++
        ProxyState.requestActions "s" (.object [("rid", .string "r1")]) .singleshot
          true "r2" 5 ++
        ProxyState.commActions 10 ++ ProxyState.replyActions 1 2)
      .initial
      (fun state => decide (
        (∃ event ∈ state.board.history, event.Names .reference "r1") ∧
          ∃ event ∈ state.board.history, event.ConfirmsDropOf "r1"))
      (by decide +kernel)
  obtain ⟨⟨event, member, names⟩, confirmed⟩ := of_decide_eq_true tested
  exact ⟨state, ⟨named_of_names member names, confirmed⟩, unsubscribe_final reached⟩

/-- The application's call has copied the subscribers and appends its reply after
the confirmation. -/
theorem unsubscribe_not_final :
    ¬∀ state, Runs.Reaches (ProxyState.step .reference)
        (ProxyState.Lifted Board.Fresh) .initial state →
      state.board.UnsubscribesFinal .reference := by
  intro always
  obtain ⟨state, reached, tested⟩ :=
    Runs.reaches_of_execute_test (ProxyState.step .reference)
      (ProxyState.Lifted Board.Fresh)
      (ProxyState.requestActions "s" (.object []) .multirespond false "r1" 5 ++
        [.proxyReply ⟨"s", some (.object [])⟩ none none] ++
        ProxyState.replyActions 0 2 ++
        ProxyState.requestActions "s" (.object [("rid", .string "r1")]) .singleshot
          true "r2" 5 ++
        ProxyState.commActions 10 ++ ProxyState.replyActions 1 2 ++
        ProxyState.replyActions 0 1)
      .initial
      (fun state => decide (
        ∃ later ∈ state.board.history.head?, later.Names .reference "r1" ∧
          ∃ earlier ∈ state.board.history.tail, earlier.ConfirmsDropOf "r1"))
      (by decide +kernel)
  obtain ⟨later, newest, names, earlier, member, confirms⟩ := of_decide_eq_true tested
  obtain ⟨past, history⟩ := List.head?_eq_some_iff.mp newest
  rw [history, List.tail_cons] at member
  have follows : Follows state.board.history later earlier := by
    rw [history]
    exact follows_head member
  exact always state reached "r1" later earlier follows confirms names

end Sawang
