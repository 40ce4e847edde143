import Sawang.Board.MultiRespond

/-!
# At most one reply for a single-shot request

A reply to several requests removes them from the table before it is appended; a
reply to one request leaves it there.  So a later reply under the same key names
it again, unless no later reply is made for the key while such a request is
listed.  The discipline asks that no reply looks a key up while an earlier one
has copied the entry and not removed what it copied.
-/

namespace Sawang

open Board

namespace ReplyCall

/-- The call has copied the single-shot entry of the key. -/
def Copied (call : ReplyCall) (taskKey : String) : Prop :=
  call.which = .singleshot ∧ call.taskKey = taskKey ∧ call.uuids ≠ []

instance (call : ReplyCall) (taskKey : String) : Decidable (call.Copied taskKey) :=
  inferInstanceAs (Decidable (_ ∧ _))

/-- The call found several uuids and has dropped every one of them. -/
def Emptied (call : ReplyCall) : Prop :=
  1 < call.uuids.length ∧ call.remaining = []

instance (call : ReplyCall) : Decidable call.Emptied :=
  inferInstanceAs (Decidable (_ ∧ _))

/-- The call has copied the uuid and leaves it in the table, so far or for good. -/
def Leaves (call : ReplyCall) (taskKey uuid : String) : Prop :=
  call.Copied taskKey ∧ uuid ∈ call.uuids ∧
    (call.uuids.length ≤ 1 ∨ uuid ∈ call.remaining)

theorem Leaves.not_emptied {call : ReplyCall} {taskKey uuid : String}
    (leaves : call.Leaves taskKey uuid) : ¬call.Emptied := by
  rintro ⟨several, emptied⟩
  rcases leaves.2.2 with single | remains
  · omega
  · rw [emptied] at remains
    cases remains

/-- A call that has found nothing yet leaves nothing. -/
theorem not_leaves_of_lookup {call : ReplyCall} {taskKey uuid : String}
    (shape : call.Shape)
    (position : call.position = .lookupSingleshot ∨ call.position = .lookupMultirespond) :
    ¬call.Leaves taskKey uuid := by
  intro leaves
  have copied := leaves.1.2.2
  rcases position with from_ | from_ <;> simp only [Shape, from_] at shape
  · exact copied shape
  · exact copied shape

/-- Whatever a call finds in the single-shot table it leaves there at first. -/
theorem leaves_found {call : ReplyCall} {uuids : List String} {uuid : String}
    (member : uuid ∈ uuids) : (call.found .singleshot uuids).Leaves call.taskKey uuid := by
  refine ⟨⟨rfl, rfl, List.ne_nil_of_mem member⟩, member, ?_⟩
  by_cases several : 1 < uuids.length
  · right
    simpa [remaining, found, several] using member
  · left
    simp only [found]
    omega

end ReplyCall

namespace Board

/-- A reply finds requests in the single-shot table only when every earlier reply
that copied their entry has emptied it of what it copied. -/
def RepliesApart (board : Board) : Move → Prop
  | .reply index => ∀ call ∈ board.calls[index]?, call.position = .lookupSingleshot →
      board.singleshot.uuids call.taskKey ≠ [] →
      ∀ other ∈ board.calls, other.Copied call.taskKey → other.Emptied
  | _ => True

instance (board : Board) : (action : Move) → Decidable (board.RepliesApart action)
  | .reply index => inferInstanceAs (Decidable (∀ call ∈ board.calls[index]?,
      call.position = .lookupSingleshot →
      board.singleshot.uuids call.taskKey ≠ [] →
      ∀ other ∈ board.calls, other.Copied call.taskKey → other.Emptied))
  | .confirm .. | .channel | .comm _ | .proxyReply .. | .channelCrash =>
      inferInstanceAs (Decidable True)

/-- The replies that name the uuid and the calls that are going to. -/
def mentions (env : Environment) (board : Board) (uuid : String) : Nat :=
  (board.repliesNaming env uuid).length +
    board.calls.countP fun call => decide (call.Carries uuid)

end Board

/-- Replacing one item changes a count by that item. -/
private theorem countP_set_add {α : Type} (test : α → Bool) (moved : α) :
    ∀ {items : List α} {index : Nat} {item : α}, items[index]? = some item →
      (items.set index moved).countP test + (if test item then 1 else 0) =
        items.countP test + (if test moved then 1 else 0) := by
  intro items
  induction items with
  | nil =>
      intro index item there
      simp at there
  | cons head tail inductionHypothesis =>
      intro index item there
      cases index with
      | zero =>
          have same : head = item := by simpa using there
          subst same
          simp only [List.set_cons_zero, List.countP_cons]
          omega
      | succ index =>
          have counted := inductionHypothesis (by simpa using there)
          simp only [List.set_cons_succ, List.countP_cons]
          omega

/-- A call that moves on without appending changes the mentions by its own. -/
private theorem mentions_set_add {env : Environment} {board : Board} {index : Nat}
    {call : ReplyCall} (there : board.calls[index]? = some call) (next : ReplyCall)
    (table : RespondTable) (uuid : String) :
    mentions env { board with singleshot := table, calls := board.calls.set index next }
        uuid + (if call.Carries uuid then 1 else 0) =
      mentions env board uuid + (if next.Carries uuid then 1 else 0) := by
  have counted := countP_set_add (fun call => decide (call.Carries uuid)) next there
  have replies : repliesNaming env uuid { board with
      singleshot := table, calls := board.calls.set index next } =
      board.repliesNaming env uuid := rfl
  simp only [decide_eq_true_eq] at counted
  simp only [mentions, replies]
  omega

private theorem mentions_set {env : Environment} {board : Board} {index : Nat}
    {call next : ReplyCall} {uuid : String} (there : board.calls[index]? = some call)
    (same : next.Carries uuid ↔ call.Carries uuid) (table : RespondTable) :
    mentions env { board with singleshot := table, calls := board.calls.set index next }
      uuid = mentions env board uuid := by
  have counted : mentions env _ uuid + _ = mentions env board uuid + _ :=
    mentions_set_add there next table uuid
  simp only [same] at counted
  omega

/-- What is kept about a single-shot request: it is mentioned at most once, and
while it is listed only by a call that leaves it there. -/
structure Once (env : Environment) (board : Board) (taskKey rid : String) : Prop where
  mentions : board.mentions env rid ≤ 1
  held : rid ∈ board.singleshot.uuids taskKey →
    board.mentions env rid = 0 ∨ ∃ call ∈ board.calls, call.Leaves taskKey rid

namespace Once

variable {env : Environment} {before after : Board} {taskKey rid : String}

private theorem frame (once : Once env before taskKey rid)
    (mentions : after.mentions env rid = before.mentions env rid)
    (singleshot : rid ∈ after.singleshot.uuids taskKey →
      rid ∈ before.singleshot.uuids taskKey)
    (calls : before.calls ⊆ after.calls) : Once env after taskKey rid where
  mentions := mentions ▸ once.mentions
  held := by
    intro listed
    rw [mentions]
    rcases once.held (singleshot listed) with none | ⟨call, member, leaves⟩
    · exact Or.inl none
    · exact Or.inr ⟨call, calls member, leaves⟩

private theorem started (once : Once env before taskKey rid) {call : ReplyCall}
    (position : call.position = .lookupSingleshot) {work : List CommOp} :
    Once env { before with work := work, calls := before.calls ++ [call] } taskKey rid := by
  refine once.frame ?_ id (List.subset_append_left _ _)
  have silent : ¬call.Carries rid := by
    simp [ReplyCall.Carries, position]
  have replies : ({ before with
      work := work, calls := before.calls ++ [call] }).repliesNaming env rid =
      before.repliesNaming env rid := rfl
  simp [Board.mentions, replies, silent]

/-- The other requests of the channel thread are other ids. -/
private theorem channel (wellformed : Wellformed env before)
    (known : before.Known rid) (step : BoardStep env before .channel after)
    (once : Once env before taskKey rid) : Once env after taskKey rid := by
  have ledger := wellformed.ledger
  have stillListed : ∀ {key other : String}, ¬before.Known other →
      rid ∈ (before.singleshot.set key other).2.uuids taskKey →
      rid ∈ before.singleshot.uuids taskKey := by
    intro key other unknown listed
    rcases RespondTable.mem_uuids_set.mp listed with old | ⟨rfl, _⟩
    · exact old
    · exact absurd known unknown
  cases step with
  | registered next =>
      exact once.frame rfl (stillListed (ledger.not_known next rfl)) (List.Subset.refl _)
  | registeredUnsubscribe next =>
      exact once.frame rfl (stillListed (ledger.not_known next rfl)) (List.Subset.refl _)
  | @reject refused status rest next =>
      refine once.frame ?_ id (List.Subset.refl _)
      have different : rid ≠ refused := by
        rintro rfl
        exact ledger.not_known next rfl known
      have unnamed : ¬rid ∈ (invalidStatusReply env refused status).recipients env := by
        rw [recipients_invalidStatusReply, List.mem_singleton]
        exact different
      have replies : repliesNaming env rid
          ({ before with job := rest }.record (.rejected refused status)) =
          before.repliesNaming env rid :=
        List.filter_cons_of_neg (by simpa using unnamed)
      rw [Board.mentions, replies]
      rfl
  | _ => exact once.frame rfl id (List.Subset.refl _)

private theorem comm {input : CommInput} (step : BoardStep env before (.comm input) after)
    (once : Once env before taskKey rid) : Once env after taskKey rid := by
  cases step with
  | confirmCall next built => exact once.started rfl
  | callbackReply next => exact once.started rfl
  | _ => exact once.frame rfl id (List.Subset.refl _)

/-- A call that moves on mentions what it mentioned and leaves what it left. -/
private theorem moved (once : Once env before taskKey rid) {index : Nat}
    {call next : ReplyCall} (there : before.calls[index]? = some call)
    (same : next.Carries rid ↔ call.Carries rid) {table : RespondTable}
    (singleshot : rid ∈ table.uuids taskKey → rid ∈ before.singleshot.uuids taskKey)
    (leaves : rid ∈ table.uuids taskKey → call.Leaves taskKey rid →
      next.Leaves taskKey rid) :
    Once env { before with singleshot := table, calls := before.calls.set index next }
      taskKey rid where
  mentions := (mentions_set there same table).symm ▸ once.mentions
  held := by
    intro listed
    rw [mentions_set there same table]
    rcases once.held (singleshot listed) with none | ⟨other, member, left⟩
    · exact Or.inl none
    · rcases mem_set_of_mem next there member with rfl | still
      · exact Or.inr ⟨next, mem_set_self next there, leaves listed left⟩
      · exact Or.inr ⟨other, still, left⟩

/-- The first look at the single-shot table: the discipline says that nobody
mentions what is found. -/
private theorem found (wellformed : Wellformed env before) {index : Nat}
    {call : ReplyCall} (there : before.calls[index]? = some call)
    (position : call.position = .lookupSingleshot)
    (apart : ∀ other ∈ before.calls, other.Copied call.taskKey → other.Emptied)
    {unsubscribe : Bool}
    (registered : .registered .singleshot taskKey rid unsubscribe ∈ before.history)
    (once : Once env before taskKey rid) :
    Once env { before with
      calls := before.calls.set index
        (call.found .singleshot (before.singleshot.uuids call.taskKey)) } taskKey rid := by
  have shape := (wellformed.calls _ (List.mem_of_getElem? there)).shape
  have silent : ¬call.Carries rid := by
    simp [ReplyCall.Carries, position]
  by_cases member : rid ∈ before.singleshot.uuids call.taskKey
  · obtain ⟨flag, recorded⟩ := wellformed.ledger.singleshot _ _ member
    obtain ⟨_, rfl, _⟩ := wellformed.ledger.registered_unique registered recorded
    have free : before.mentions env rid = 0 := by
      rcases once.held member with none | ⟨other, otherMember, leaves⟩
      · exact none
      · exact absurd (apart other otherMember leaves.1) leaves.not_emptied
    have next := mem_set_self
      (call.found .singleshot (before.singleshot.uuids call.taskKey)) there
    have counted : Board.mentions env _ rid + _ = before.mentions env rid + _ :=
      mentions_set_add there
        (call.found .singleshot (before.singleshot.uuids call.taskKey))
        before.singleshot rid
    simp only [ReplyCall.carries_found, member, silent, if_true, if_false] at counted
    refine ⟨?_, fun _ => Or.inr ⟨_, next, ReplyCall.leaves_found member⟩⟩
    omega
  · refine once.moved there ?_ id ?_
    · rw [ReplyCall.carries_found]
      exact iff_of_false member silent
    · intro _ leaves
      exact absurd leaves (ReplyCall.not_leaves_of_lookup shape (Or.inl position))

/-- A call that appends turns its mention into a reply. -/
private theorem append {index : Nat} {call : ReplyCall} {collected : List String}
    (there : before.calls[index]? = some call)
    (position : call.position = .append collected) (copied : collected = call.uuids)
    (once : Once env before taskKey rid) :
    Once env ({ before with
      calls := before.calls.set index (call.moveTo .awake) }.record
        (.replied index call.confirms (call.reply env collected))) taskKey rid := by
  have silent : ¬(call.moveTo .awake).Carries rid := id
  have carries : call.Carries rid ↔ rid ∈ collected := by
    rw [copied]
    simp only [ReplyCall.Carries, position]
  have counted := countP_set_add (fun call => decide (call.Carries rid))
    (call.moveTo .awake) there
  simp only [silent, carries, decide_eq_true_eq, if_false] at counted
  have recipients := ReplyCall.recipients_reply env call collected
  have same : Board.mentions env ({ before with
      calls := before.calls.set index (call.moveTo .awake) }.record
        (.replied index call.confirms (call.reply env collected))) rid =
      before.mentions env rid := by
    unfold Board.mentions
    by_cases member : rid ∈ collected
    · have replies : repliesNaming env rid ({ before with
          calls := before.calls.set index (call.moveTo .awake) }.record
            (.replied index call.confirms (call.reply env collected))) =
          call.reply env collected :: before.repliesNaming env rid :=
        List.filter_cons_of_pos (by simpa [recipients] using member)
      rw [replies]
      simp only [member, if_true] at counted
      simp only [List.length_cons, record]
      omega
    · have replies : repliesNaming env rid ({ before with
          calls := before.calls.set index (call.moveTo .awake) }.record
            (.replied index call.confirms (call.reply env collected))) =
          before.repliesNaming env rid :=
        List.filter_cons_of_neg (by simpa [recipients] using member)
      rw [replies]
      simp only [member, if_false] at counted
      simp only [record]
      omega
  refine ⟨same ▸ once.mentions, ?_⟩
  intro listed
  rw [same]
  rcases once.held listed with none | ⟨other, member, leaves⟩
  · exact Or.inl none
  · rcases mem_set_of_mem (call.moveTo .awake) there member with rfl | still
    · refine Or.inr ⟨_, mem_set_self _ there, leaves.1, leaves.2.1, ?_⟩
      rcases leaves.2.2 with single | remains
      · exact Or.inl single
      · simp [ReplyCall.remaining, position] at remains
    · exact Or.inr ⟨other, still, leaves⟩

private theorem reply {index : Nat} (wellformed : Wellformed env before)
    (apart : before.RepliesApart (.reply index)) {unsubscribe : Bool}
    (registered : .registered .singleshot taskKey rid unsubscribe ∈ before.history)
    (step : BoardStep env before (.reply index) after)
    (once : Once env before taskKey rid) : Once env after taskKey rid := by
  cases step with
  | crash => exact once.frame rfl id (List.Subset.refl _)
  | foundSingleshot there position present =>
      exact once.found wellformed there position
        (apart _ there position present) registered
  | foundMultirespond there position present =>
      have shape := (wellformed.calls _ (List.mem_of_getElem? there)).shape
      refine once.moved there ?_ id ?_
      · rw [ReplyCall.carries_found]
        apply iff_of_false
        · intro member
          have recorded := wellformed.ledger.multirespond _ _ member
          have same := wellformed.ledger.registered_unique registered recorded
          cases same.1
        · simp [ReplyCall.Carries, position]
      · intro _ leaves
        exact absurd leaves (ReplyCall.not_leaves_of_lookup shape (Or.inr position))
  | @advance _ call position there passes =>
      have shape := (wellformed.calls _ (List.mem_of_getElem? there)).shape
      refine once.moved there ?_ id ?_
      · rcases passes with ⟨from_, rfl, _⟩ | ⟨from_, rfl, _⟩ | ⟨_, from_, rfl⟩ | ⟨from_, rfl⟩ <;>
          simp [ReplyCall.Carries, ReplyCall.moveTo, from_]
      · intro _ leaves
        refine ⟨leaves.1, leaves.2.1, Or.inl ?_⟩
        rcases leaves.2.2 with single | remains
        · exact single
        · rcases passes with ⟨from_, _⟩ | ⟨from_, _⟩ | ⟨_, from_, _⟩ | ⟨from_, _⟩ <;>
            simp [ReplyCall.remaining, from_] at remains
  | @dropRecipient _ call uuid collected rest there position =>
      refine once.moved there ?_ ?_ ?_
      · simp [ReplyCall.Carries, ReplyCall.moveTo, position]
      · intro listed
        exact (RespondTable.mem_uuids_drop.mp listed).1
      · intro listed leaves
        refine ⟨leaves.1, leaves.2.1, leaves.2.2.imp_right ?_⟩
        intro remains
        simp only [ReplyCall.remaining, position] at remains
        rcases List.mem_cons.mp remains with rfl | later
        · have key := leaves.1.2.1
          exact absurd ⟨rfl, key.symm⟩ (RespondTable.mem_uuids_drop.mp listed).2
        · exact later
  | append there position =>
      have shape := (wellformed.calls _ (List.mem_of_getElem? there)).shape
      simp only [ReplyCall.Shape, position] at shape
      exact once.append there position shape

/-- A request that has just been registered has not been mentioned. -/
private theorem fresh (wellformed : Wellformed env before)
    (unknown : ¬before.Known rid) (replies : after.replies env = before.replies env)
    (calls : after.calls = before.calls) : Once env after taskKey rid := by
  have unnamed : before.repliesNaming env rid = [] := by
    apply List.filter_eq_nil_iff.mpr
    intro reply member recipient
    exact unknown (wellformed.names.known ⟨reply, member, by simpa using recipient⟩)
  have uncarried : before.calls.countP (fun call => decide (call.Carries rid)) = 0 := by
    apply List.countP_eq_zero.mpr
    intro call member carries
    have carried : rid ∈ call.uuids := by
      have unfolded := of_decide_eq_true carries
      unfold ReplyCall.Carries at unfolded
      split at unfolded
      · exact unfolded
      · exact unfolded
      · cases unfolded
    obtain ⟨unsubscribe, recorded⟩ := (wellformed.calls call member).registered rid carried
    exact unknown (Or.inr ⟨_, _, unsubscribe, recorded⟩)
  have none : after.mentions env rid = 0 := by
    have same : after.repliesNaming env rid = before.repliesNaming env rid := by
      unfold repliesNaming
      rw [replies]
    unfold Board.mentions
    rw [same, unnamed, calls, uncarried]
    rfl
  exact ⟨none ▸ Nat.zero_le 1, fun _ => Or.inl none⟩

end Once

/-- Every registered single-shot request is mentioned at most once. -/
def AllOnce (env : Environment) (board : Board) : Prop :=
  ∀ taskKey rid unsubscribe,
    .registered .singleshot taskKey rid unsubscribe ∈ board.history →
    Once env board taskKey rid

theorem allOnce_step {env : Environment} {before after : Board} {action : Move}
    (wellformed : Wellformed env before) (apart : before.RepliesApart action)
    (step : BoardStep env before action after) (once : AllOnce env before) :
    AllOnce env after := by
  intro taskKey rid unsubscribe registered
  have old : .registered .singleshot taskKey rid unsubscribe ∈ before.history →
      Once env after taskKey rid := by
    intro recorded
    have kept := once taskKey rid unsubscribe recorded
    cases action with
    | channel =>
        exact kept.channel wellformed (Or.inr ⟨_, _, _, recorded⟩) step
    | comm input => exact kept.comm step
    | reply index => exact kept.reply wellformed apart recorded step
    | confirm exchange named =>
        cases step <;> exact kept.frame rfl id (List.Subset.refl _)
    | channelCrash =>
        cases step
        exact kept.frame rfl id (List.Subset.refl _)
    | proxyReply arg headers payload =>
        cases step with
        | proxyReply => exact kept.started rfl
        | crash => exact kept.frame rfl id (List.Subset.refl _)
  cases step with
  | registered next =>
      rcases List.mem_cons.mp registered with new | recorded
      · cases new
        exact Once.fresh wellformed (wellformed.ledger.not_known next rfl) rfl rfl
      · exact old recorded
  | registeredUnsubscribe next =>
      rcases List.mem_cons.mp registered with new | recorded
      · cases new
        exact Once.fresh wellformed (wellformed.ledger.not_known next rfl) rfl rfl
      · exact old recorded
  | _ => exact old (by simpa [record, crash] using registered)

theorem allOnce_of_reaches {env : Environment} {board : Board}
    (reached : Runs.Reaches (Board.move env)
      (fun board action => board.Fresh action ∧ board.RepliesApart action)
      Board.initial board) :
    AllOnce env board := by
  have wellformed : ∀ other, Runs.Reaches (Board.move env)
      (fun board action => board.Fresh action ∧ board.RepliesApart action)
      Board.initial other → Wellformed env other := by
    intro other earlier
    exact (cyclic_of_reaches (earlier.mono fun _ _ allowed => allowed.1)).wellformed
  apply reached.invariant_of wellformed
  · intro taskKey rid unsubscribe registered
    cases registered
  · intro before action after known once allowed moved
    exact allOnce_step known allowed.2 (boardStep_of_move moved) once

/-- In every run of the proxy with distinct request ids in which no reply looks
up an entry that an earlier reply has left filled. -/
theorem singleshot_named_once {env : Environment} {state : ProxyState}
    (reached : Runs.Reaches (ProxyState.step env)
      (ProxyState.Lifted fun board action =>
        board.Fresh action ∧ board.RepliesApart action) .initial state)
    {taskKey rid : String} {unsubscribe : Bool}
    (registered :
      .registered .singleshot taskKey rid unsubscribe ∈ state.board.history) :
    (state.board.repliesNaming env rid).length ≤ 1 := by
  have once := allOnce_of_reaches (ProxyState.board_reaches reached)
    taskKey rid unsubscribe registered
  have bound := once.mentions
  unfold Board.mentions at bound
  omega

/-- Two requests that share a task are answered by one reply, and a third one
under the same key by the next. -/
theorem singleshot_named_once_shared :
    ∃ state : ProxyState,
      state.board.replies .reference ≠ [] ∧
        (state.board.repliesNaming .reference "r1").length ≤ 1 := by
  obtain ⟨state, reached, tested⟩ :=
    Runs.reaches_of_execute_test (ProxyState.step .reference)
      (ProxyState.Lifted fun board action =>
        board.Fresh action ∧ board.RepliesApart action)
      (ProxyState.commActions 3 ++
        ProxyState.requestActions "s" (.object []) .singleshot false "r1" 5 ++
        ProxyState.requestActions "s" (.object []) .singleshot false "r2" 5 ++
        ProxyState.commActions 4 ++
        [.comm (.proxyReply ⟨"s", some (.object [])⟩ none none)] ++
        ProxyState.replyActions 0 6 ++
        ProxyState.requestActions "s" (.object []) .singleshot false "r3" 3 ++
        [.proxyReply ⟨"s", some (.object [])⟩ none none] ++
        ProxyState.replyActions 1 3)
      .initial
      (fun state => decide (
        (.singleshot, taskKeyFromReplyArg .reference ⟨"s", some (.object [])⟩, "r1",
          false) ∈ state.board.registrations) &&
        decide (state.board.replies .reference ≠ []))
      (by decide +kernel)
  obtain ⟨registered, replied⟩ := Bool.and_eq_true_iff.mp tested
  have recorded := mem_registrations_iff.mp (of_decide_eq_true registered)
  exact ⟨state, of_decide_eq_true replied, singleshot_named_once reached recorded⟩

/-- A request that got its reply alone is named again by the reply to the next
request under its key. -/
theorem singleshot_named_twice :
    ¬∀ state, Runs.Reaches (ProxyState.step .reference)
        (ProxyState.Lifted Board.Fresh) .initial state →
      ∀ taskKey rid unsubscribe,
        .registered .singleshot taskKey rid unsubscribe ∈ state.board.history →
        (state.board.repliesNaming .reference rid).length ≤ 1 := by
  intro always
  obtain ⟨state, reached, tested⟩ :=
    Runs.reaches_of_execute_test (ProxyState.step .reference)
      (ProxyState.Lifted Board.Fresh)
      (ProxyState.commActions 3 ++
        ProxyState.requestActions "s" (.object []) .singleshot false "r1" 5 ++
        ProxyState.commActions 4 ++
        [.comm (.proxyReply ⟨"s", some (.object [])⟩ none none)] ++
        ProxyState.replyActions 0 3 ++ ProxyState.commActions 3 ++
        ProxyState.requestActions "s" (.object []) .singleshot false "r2" 5 ++
        ProxyState.commActions 4 ++
        [.comm (.proxyReply ⟨"s", some (.object [])⟩ none none)] ++
        ProxyState.replyActions 1 5)
      .initial
      (fun state => decide (
        (.singleshot, taskKeyFromReplyArg .reference ⟨"s", some (.object [])⟩, "r1",
          false) ∈ state.board.registrations) &&
        decide ((state.board.repliesNaming .reference "r1").length = 2))
      (by decide +kernel)
  obtain ⟨registered, twice⟩ := Bool.and_eq_true_iff.mp tested
  have recorded := mem_registrations_iff.mp (of_decide_eq_true registered)
  have once := always state reached _ _ _ recorded
  have two := of_decide_eq_true twice
  omega

end Sawang
