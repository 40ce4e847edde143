import Sawang.Board.Calls

/-!
# Where a request goes from the single-shot table

A uuid leaves the single-shot table only through a call that drops it, and such
a call ends in an event.  `Traced` says that a uuid is listed, or in the hands of
a call of some kind, or that an event of some kind has happened; what keeps it so
is stated once for every choice of the two kinds.
-/

namespace Sawang

open Board

/-- Calls of the kind `holds` keep the kind until they append, and the event of
the append is of the kind `settles`. -/
structure Tracing (env : Environment) (holds : ReplyCall → Prop)
    (settles : Event → Prop) : Prop where
  notAtLookup : ∀ call : ReplyCall,
    call.position = .lookupSingleshot ∨ call.position = .lookupMultirespond ∨
      call.position = .awake → ¬holds call
  collected : ∀ (call : ReplyCall) (collected : List String), call.Shape →
    call.position = .drops collected [] → holds call →
    holds (call.moveTo (.append collected))
  dropping : ∀ (call : ReplyCall) (collected : List String) (uuid : String)
    (rest : List String), call.position = .drops collected (uuid :: rest) →
    holds call → holds (call.moveTo (.drops (collected ++ [uuid]) rest))
  appending : ∀ (index : Nat) (call : ReplyCall) (collected : List String), call.Shape →
    call.position = .append collected → holds call →
    settles (.replied index call.confirms (call.reply env collected))

def Traced (holds : ReplyCall → Prop) (settles : Event → Prop) (board : Board)
    (taskKey uuid : String) : Prop :=
  uuid ∈ board.singleshot.uuids taskKey ∨ (∃ call ∈ board.calls, holds call) ∨
    ∃ event ∈ board.history, settles event

namespace Traced

variable {env : Environment} {holds : ReplyCall → Prop} {settles : Event → Prop}
  {before after : Board} {taskKey uuid : String}

private theorem frame (traced : Traced holds settles before taskKey uuid)
    (singleshot : uuid ∈ before.singleshot.uuids taskKey →
      uuid ∈ after.singleshot.uuids taskKey)
    (calls : before.calls ⊆ after.calls) (grows : before.history ⊆ after.history) :
    Traced holds settles after taskKey uuid := by
  rcases traced with listed | ⟨call, member, held⟩ | ⟨event, member, settled⟩
  · exact Or.inl (singleshot listed)
  · exact Or.inr (Or.inl ⟨call, calls member, held⟩)
  · exact Or.inr (Or.inr ⟨event, grows member, settled⟩)

private theorem channel (step : BoardStep env before .channel after)
    (traced : Traced holds settles before taskKey uuid) :
    Traced holds settles after taskKey uuid := by
  have set : ∀ {key rid : String}, uuid ∈ before.singleshot.uuids taskKey →
      uuid ∈ (before.singleshot.set key rid).2.uuids taskKey :=
    fun listed => RespondTable.mem_uuids_set.mpr (Or.inl listed)
  cases step with
  | registered next =>
      exact traced.frame set (List.Subset.refl _) (List.subset_cons_self _ _)
  | registeredUnsubscribe next =>
      exact traced.frame set (List.Subset.refl _) (List.subset_cons_self _ _)
  | _ => exact traced.frame id (List.Subset.refl _) (by simp [record, crash])

private theorem comm {input : CommInput} (step : BoardStep env before (.comm input) after)
    (traced : Traced holds settles before taskKey uuid) :
    Traced holds settles after taskKey uuid := by
  cases step with
  | confirmCall next built =>
      exact traced.frame id (List.subset_append_left _ _) (List.Subset.refl _)
  | callbackReply next =>
      exact traced.frame id (List.subset_append_left _ _) (List.Subset.refl _)
  | _ => exact traced.frame id (List.Subset.refl _) (by simp [record, crash])

/-- A call moves on: if it held the uuid, it still does. -/
private theorem moved {index : Nat} {call next : ReplyCall}
    (there : before.calls[index]? = some call) (keeps : holds call → holds next)
    (traced : Traced holds settles before taskKey uuid) :
    Traced holds settles { before with calls := before.calls.set index next }
      taskKey uuid := by
  rcases traced with listed | ⟨other, member, held⟩ | settled
  · exact Or.inl listed
  · rcases mem_set_of_mem next there member with rfl | still
    · exact Or.inr (Or.inl ⟨next, mem_set_self next there, keeps held⟩)
    · exact Or.inr (Or.inl ⟨other, still, held⟩)
  · exact Or.inr (Or.inr settled)

private theorem reply {index : Nat} (tracing : Tracing env holds settles)
    (calls : CallsSound before)
    (dropped : ∀ call collected rest, before.calls[index]? = some call →
      call.position = .drops collected (uuid :: rest) → call.taskKey = taskKey →
      holds (call.moveTo (.drops (collected ++ [uuid]) rest)) ∨
        (∃ call ∈ before.calls, holds call) ∨ ∃ event ∈ before.history, settles event)
    (step : BoardStep env before (.reply index) after)
    (traced : Traced holds settles before taskKey uuid) :
    Traced holds settles after taskKey uuid := by
  cases step with
  | crash => exact traced.frame id (List.Subset.refl _) (List.Subset.refl _)
  | foundSingleshot there position present =>
      apply traced.moved there
      intro held
      exact absurd held (tracing.notAtLookup _ (Or.inl position))
  | foundMultirespond there position present =>
      apply traced.moved there
      intro held
      exact absurd held (tracing.notAtLookup _ (Or.inr (Or.inl position)))
  | advance there passes =>
      have shape := (calls _ (List.mem_of_getElem? there)).shape
      apply traced.moved there
      intro held
      rcases passes with ⟨from_, _⟩ | ⟨from_, _⟩ | ⟨collected, from_, rfl⟩ | ⟨from_, _⟩
      · exact absurd held (tracing.notAtLookup _ (Or.inl from_))
      · exact absurd held (tracing.notAtLookup _ (Or.inr (Or.inl from_)))
      · exact tracing.collected _ collected shape from_ held
      · exact absurd held (tracing.notAtLookup _ (Or.inr (Or.inr from_)))
  | @dropRecipient _ call named collected rest there position =>
      have moves := mem_set_self (call.moveTo (.drops (collected ++ [named]) rest)) there
      have others : (∃ other ∈ before.calls, holds other) →
          ∃ other ∈ before.calls.set index
            (call.moveTo (.drops (collected ++ [named]) rest)), holds other := by
        rintro ⟨other, member, held⟩
        rcases mem_set_of_mem (call.moveTo (.drops (collected ++ [named]) rest)) there
          member with rfl | still
        · exact ⟨_, moves, tracing.dropping _ _ _ _ position held⟩
        · exact ⟨other, still, held⟩
      rcases traced with listed | held | settled
      · by_cases own : uuid = named ∧ taskKey = call.taskKey
        · obtain ⟨rfl, key⟩ := own
          rcases dropped call collected rest there position key.symm with
            own | held | settled
          · exact Or.inr (Or.inl ⟨_, moves, own⟩)
          · exact Or.inr (Or.inl (others held))
          · exact Or.inr (Or.inr settled)
        · exact Or.inl (RespondTable.mem_uuids_drop.mpr ⟨listed, own⟩)
      · exact Or.inr (Or.inl (others held))
      · exact Or.inr (Or.inr settled)
  | @append _ call collected there position =>
      have shape := (calls _ (List.mem_of_getElem? there)).shape
      rcases traced with listed | ⟨other, member, held⟩ | ⟨event, member, settled⟩
      · exact Or.inl listed
      · rcases mem_set_of_mem (call.moveTo .awake) there member with rfl | still
        · exact Or.inr (Or.inr ⟨_, List.mem_cons_self,
            tracing.appending index _ collected shape position held⟩)
        · exact Or.inr (Or.inl ⟨other, still, held⟩)
      · exact Or.inr (Or.inr ⟨event, List.mem_cons_of_mem _ member, settled⟩)

/-- A traced uuid stays traced if a call that drops it takes hold of it. -/
theorem step {action : Move} (tracing : Tracing env holds settles)
    (calls : CallsSound before)
    (dropped : ∀ index, action = .reply index →
      ∀ call collected rest, before.calls[index]? = some call →
      call.position = .drops collected (uuid :: rest) → call.taskKey = taskKey →
      holds (call.moveTo (.drops (collected ++ [uuid]) rest)) ∨
        (∃ call ∈ before.calls, holds call) ∨ ∃ event ∈ before.history, settles event)
    (step : BoardStep env before action after)
    (traced : Traced holds settles before taskKey uuid) :
    Traced holds settles after taskKey uuid := by
  cases action with
  | channel => exact traced.channel step
  | comm input => exact traced.comm step
  | reply index => exact traced.reply tracing calls (dropped index rfl) step
  | confirm exchange rid =>
      cases step <;>
        exact traced.frame id (List.Subset.refl _) (by simp [record, crash])
  | channelCrash =>
      cases step
      exact traced.frame id (List.Subset.refl _) (List.Subset.refl _)
  | proxyReply arg headers payload =>
      cases step with
      | proxyReply =>
          exact traced.frame id (List.subset_append_left _ _) (List.Subset.refl _)
      | crash => exact traced.frame id (List.Subset.refl _) (List.Subset.refl _)

end Traced

/-- A registration is recorded by the move that lists the request. -/
theorem listed_of_registered {env : Environment} {before after : Board}
    {action : Move} {taskKey rid : String} {unsubscribe : Bool}
    (step : BoardStep env before action after)
    (registered : .registered .singleshot taskKey rid unsubscribe ∈ after.history) :
    .registered .singleshot taskKey rid unsubscribe ∈ before.history ∨
      rid ∈ after.singleshot.uuids taskKey := by
  cases step with
  | registered next =>
      rcases List.mem_cons.mp registered with new | old
      · cases new
        exact Or.inr (RespondTable.mem_uuids_set.mpr (Or.inr ⟨rfl, rfl⟩))
      · exact Or.inl old
  | registeredUnsubscribe next =>
      rcases List.mem_cons.mp registered with new | old
      · cases new
        exact Or.inr (RespondTable.mem_uuids_set.mpr (Or.inr ⟨rfl, rfl⟩))
      · exact Or.inl old
  | _ => exact Or.inl (by simpa [record, crash] using registered)

end Sawang
