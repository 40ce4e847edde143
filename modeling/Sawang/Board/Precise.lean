import Sawang.Board.Unsubscribed

/-!
# What an unsubscription removes

The channel thread looks up the key of the uuid it is to unsubscribe, and the
comm thread drops the uuid from that key later.  Whatever happens in between, the
key is the one the uuid subscribed under, and nothing else is dropped.
-/

namespace Sawang

open Board

/-- The task the comm thread takes from the parse queue. -/
def Event.popped : Event → Option ParseQueueTask
  | .dequeued task => some task
  | _ => none

namespace Board

/-- The uuids in the entries of both tables. -/
def listed (board : Board) : List String :=
  board.singleshot.allUuids ++ board.multirespond.allUuids

/-- The task popped last: the one the comm thread processes, if it is not done. -/
def serving (board : Board) : Option ParseQueueTask :=
  board.history.findSome? Event.popped

/-- The uuid has been registered as a subscriber of the key and not otherwise. -/
def SubscribedUnder (board : Board) (taskKey uuid : String) : Prop :=
  ∀ type key unsubscribe, .registered type key uuid unsubscribe ∈ board.history ↔
    type = .multirespond ∧ key = taskKey ∧ unsubscribe = false

/-- Only the subscriber that the processed task names leaves the table. -/
def RemovesServed (before after : Board) : Prop :=
  ∀ taskKey uuid, uuid ∈ before.multirespond.uuids taskKey →
    uuid ∉ after.multirespond.uuids taskKey →
    ∃ task, before.serving = some task ∧ task.Drops taskKey uuid

/-- Only the subscribers that the popped task names are left to be dropped. -/
structure UnsubscribesPrecisely (env : Environment) (board : Board) : Prop where
  /-- No uuid is listed twice, neither in an entry nor in two. -/
  apart : board.listed.Nodup
  /-- A string is accepted exactly with the key that lists it. -/
  resolved : ∀ payload taskKey uuid,
    createUnsubscribeTaskKey env board.multirespond payload = .ok (taskKey, uuid) ↔
      uuid ≠ "" ∧ payload.bind (·.getObjectItem serviceRidKey) = some (.string uuid) ∧
        uuid ∈ board.multirespond.uuids taskKey
  /-- What is accepted is queued with the key the uuid subscribed under. -/
  accepted : ∀ payload own rid rest taskKey uuid,
    board.job = .createUnsubscribeTaskKey payload own rid :: rest →
    createUnsubscribeTaskKey env board.multirespond payload = .ok (taskKey, uuid) →
    board.SubscribedUnder taskKey uuid ∧
      ∃ task, task.Drops taskKey uuid ∧ task.rid = rid ∧
        (board.channelOp env (.createUnsubscribeTaskKey payload own rid) rest).job =
          .parseQueueAppend task :: .respondTableSetUnsubscribe own rid ::
            .commAwake :: rest
  queued : ∀ task taskKey uuid, .enqueued task ∈ board.history →
    task.Drops taskKey uuid → board.SubscribedUnder taskKey uuid
  /-- The uuid of a processed task is in no entry. -/
  processed : ∀ task taskKey uuid, .dequeued task ∈ board.history →
    task.Drops taskKey uuid →
    .unsubscribe task taskKey uuid ∈ board.work ∨ uuid ∉ board.listed

end Board

/-! ## The tables -/

theorem subscribedUnder_of_registered {board : Board} {taskKey uuid : String}
    (ledger : Ledger board)
    (registered : .registered .multirespond taskKey uuid false ∈ board.history) :
    board.SubscribedUnder taskKey uuid := by
  intro type key unsubscribe
  constructor
  · intro member
    exact ledger.registered_unique member registered
  · rintro ⟨rfl, rfl, rfl⟩
    exact registered

/-- A registered id is in one entry of one table. -/
theorem Ledger.listed_nodup {board : Board} (ledger : Ledger board) :
    board.listed.Nodup := by
  unfold listed
  rw [List.nodup_append']
  refine ⟨RespondTable.nodup_allUuids ?_, RespondTable.nodup_allUuids ?_, ?_⟩
  · intro uuid left right leftMember rightMember
    obtain ⟨_, leftRegistered⟩ := ledger.singleshot left uuid leftMember
    obtain ⟨_, rightRegistered⟩ := ledger.singleshot right uuid rightMember
    exact (ledger.registered_unique leftRegistered rightRegistered).2.1
  · intro uuid left right leftMember rightMember
    exact (ledger.registered_unique (ledger.multirespond left uuid leftMember)
      (ledger.multirespond right uuid rightMember)).2.1
  · intro uuid single several
    obtain ⟨left, leftMember⟩ := RespondTable.mem_allUuids_iff.mp single
    obtain ⟨right, rightMember⟩ := RespondTable.mem_allUuids_iff.mp several
    obtain ⟨_, leftRegistered⟩ := ledger.singleshot left uuid leftMember
    have same := ledger.registered_unique leftRegistered
      (ledger.multirespond right uuid rightMember)
    cases same.1

theorem Board.Gone.not_listed {board : Board} {uuid : String} (gone : board.Gone uuid)
    (ledger : Ledger board) : uuid ∉ board.listed := by
  unfold listed
  rw [List.mem_append, RespondTable.mem_allUuids_iff, RespondTable.mem_allUuids_iff]
  rintro (⟨taskKey, single⟩ | ⟨taskKey, several⟩)
  · exact gone.unlisted_singleshot ledger taskKey single
  · exact gone.unlisted taskKey several

/-- The search by uuid has one possible answer. -/
theorem Ledger.createUnsubscribeTaskKey_ok_iff {env : Environment} {board : Board}
    (ledger : Ledger board) {payload : Option Json} {taskKey uuid : String} :
    createUnsubscribeTaskKey env board.multirespond payload = .ok (taskKey, uuid) ↔
      uuid ≠ "" ∧ payload.bind (·.getObjectItem serviceRidKey) = some (.string uuid) ∧
        uuid ∈ board.multirespond.uuids taskKey := by
  cases payload with
  | none => simp [createUnsubscribeTaskKey]
  | some payload =>
      constructor
      · intro resolved
        obtain ⟨nonempty, member⟩ := createUnsubscribeTaskKey_ok resolved
        refine ⟨nonempty, ?_, member⟩
        unfold createUnsubscribeTaskKey at resolved
        dsimp only at resolved
        split at resolved
        · cases resolved
        · rename_i named
          obtain ⟨item, found, text⟩ := Option.bind_eq_some_iff.mp named
          rw [Json.getStringValue_eq_some_iff.mp text] at found
          split at resolved
          · cases resolved
          · split at resolved
            · cases resolved
            · cases resolved
              exact found
      · rintro ⟨nonempty, found, member⟩
        have named : (payload.getObjectItem serviceRidKey).bind Json.getStringValue =
            some uuid := by
          rw [show payload.getObjectItem serviceRidKey = some (.string uuid) from found]
          rfl
        unfold createUnsubscribeTaskKey
        simp only [named, if_neg nonempty]
        cases answer : board.multirespond.dupTaskKey env uuid with
        | none =>
            exact absurd member (RespondTable.not_mem_of_dupTaskKey_eq_none answer taskKey)
        | some key =>
            have other := RespondTable.mem_of_dupTaskKey_eq_some answer
            have same := (ledger.registered_unique (ledger.multirespond key uuid other)
              (ledger.multirespond taskKey uuid member)).2.1
            rw [same]

/-! ## The invariant -/

/-- What has become of the unsubscriptions. -/
structure Precise (board : Board) : Prop where
  registered : ∀ task taskKey uuid,
    .enqueued task ∈ board.history ∨ .dequeued task ∈ board.history →
    task.Drops taskKey uuid → .registered .multirespond taskKey uuid false ∈ board.history
  serving : ∀ task taskKey uuid, .unsubscribe task taskKey uuid ∈ board.work →
    board.serving = some task
  processed : ∀ task taskKey uuid, .dequeued task ∈ board.history →
    task.Drops taskKey uuid →
    .unsubscribe task taskKey uuid ∈ board.work ∨ board.Gone uuid

namespace Precise

variable {env : Environment} {before after : Board}

theorem initial : Precise Board.initial where
  registered := by
    intro task taskKey uuid recorded
    rcases recorded with member | member <;> cases member
  serving := by
    intro task taskKey uuid member
    cases member
  processed := by
    intro task taskKey uuid member
    cases member

/-- A task is in circulation when it is queued and when it is popped. -/
private theorem registered_step {action : Move} (cyclic : Cyclic env before)
    (step : BoardStep env before action after) (precise : Precise before) :
    ∀ task taskKey uuid,
      .enqueued task ∈ after.history ∨ .dequeued task ∈ after.history →
      task.Drops taskKey uuid →
      .registered .multirespond taskKey uuid false ∈ after.history := by
  intro task taskKey uuid recorded drops
  have old : .enqueued task ∈ before.history ∨ .dequeued task ∈ before.history →
      .registered .multirespond taskKey uuid false ∈ before.history :=
    fun earlier => precise.registered task taskKey uuid earlier drops
  cases step with
  | enqueue next =>
      apply List.mem_cons_of_mem
      by_cases same : task ∈ before.pending
      · exact cyclic.registered_of_drops drops same
      · apply old
        rcases recorded with member | member
        · rcases List.mem_cons.mp member with new | earlier
          · cases new
            exact absurd (by simp [pending, next, ChannelOp.task]) same
          · exact Or.inl earlier
        · exact Or.inr ((List.mem_cons.mp member).resolve_left (by simp))
  | dequeue free head =>
      apply List.mem_cons_of_mem
      by_cases same : task ∈ before.pending
      · exact cyclic.registered_of_drops drops same
      · apply old
        rcases recorded with member | member
        · exact Or.inl ((List.mem_cons.mp member).resolve_left (by simp))
        · rcases List.mem_cons.mp member with new | earlier
          · cases new
            exact absurd (by simp [pending, head]) same
          · exact Or.inr earlier
  | _ =>
      first
      | exact old recorded
      | exact List.mem_cons_of_mem _ (old (by simpa [record] using recorded))

/-- The drop comes first in the statements of a popped task. -/
private theorem unsubscribe_head {op : CommOp} {rest : List CommOp}
    (stage : CommStage env (op :: rest)) (task : ParseQueueTask) (taskKey uuid : String) :
    .unsubscribe task taskKey uuid ∉ rest := by
  cases stage <;> simp

private theorem mem_taskWork {task other : ParseQueueTask} {taskKey uuid : String}
    (member : .unsubscribe other taskKey uuid ∈ taskWork task) : other = task := by
  unfold taskWork at member
  split at member <;> simp at member
  exact member.1

/-- A drop still to be made was there before, with the task popped last, or comes
with the task that is popped. -/
private theorem unsubscribe_of_step {action : Move} (wellformed : Wellformed env before)
    (step : BoardStep env before action after) {task : ParseQueueTask}
    {taskKey uuid : String} (member : .unsubscribe task taskKey uuid ∈ after.work) :
    (.unsubscribe task taskKey uuid ∈ before.work ∧ after.serving = before.serving) ∨
      after.serving = some task := by
  have stage := wellformed.tasks.work
  have behind : ∀ {op : CommOp} {rest : List CommOp}, before.work = op :: rest →
      .unsubscribe task taskKey uuid ∉ rest := by
    intro op rest next
    rw [next] at stage
    exact unsubscribe_head stage task taskKey uuid
  cases step with
  | dequeue free head =>
      right
      rw [mem_taskWork member]
      rfl
  | dropAbsent next drops absent => exact absurd member (behind next)
  | dropLast next drops present last clears =>
      exact absurd ((List.mem_cons.mp member).resolve_left (by simp)) (behind next)
  | dropQuiet next drops present quiet => exact absurd member (behind next)
  | clear next built =>
      exact absurd ((List.mem_cons.mp member).resolve_left (by simp)) (behind next)
  | confirmCall next built =>
      exact absurd ((List.mem_cons.mp member).resolve_left (by simp)) (behind next)
  | awaited next there finished => exact absurd member (behind next)
  | run next built normal =>
      exact absurd ((List.mem_cons.mp member).resolve_left (by simp)) (behind next)
  | runDrop next built drop =>
      refine absurd ?_ (behind next)
      simpa using member
  | callbackReturn next => exact absurd member (behind next)
  | callbackReply next =>
      refine absurd ?_ (behind next)
      simpa using member
  | requestUnknown next => exact absurd member (behind next)
  | requestFound next resolved =>
      exact absurd ((List.mem_cons.mp member).resolve_left (by simp)) (behind next)
  | _ => exact Or.inl ⟨member, rfl⟩

private theorem serving_step {action : Move} (wellformed : Wellformed env before)
    (step : BoardStep env before action after) (precise : Precise before) :
    ∀ task taskKey uuid, .unsubscribe task taskKey uuid ∈ after.work →
      after.serving = some task := by
  intro task taskKey uuid member
  rcases unsubscribe_of_step wellformed step member with ⟨old, same⟩ | new
  · rw [same]
    exact precise.serving task taskKey uuid old
  · exact new

/-- A popped task is just popped, or was popped before. -/
private theorem dequeued_of_step {action : Move}
    (step : BoardStep env before action after) {task : ParseQueueTask}
    (member : .dequeued task ∈ after.history) :
    .dequeued task ∈ before.history ∨
      (task ∈ before.parseQueue ∧ after.work = taskWork task) := by
  cases step with
  | dequeue free head =>
      rcases List.mem_cons.mp member with new | earlier
      · cases new
        refine Or.inr ⟨?_, rfl⟩
        rw [head]
        exact List.mem_cons_self
      · exact Or.inl earlier
  | _ =>
      left
      first
      | exact member
      | exact (List.mem_cons.mp member).resolve_left (by simp)

/-- A drop is made as soon as the comm thread goes on. -/
private theorem unsubscribed_comm {input : CommInput} (cyclic : Cyclic env before)
    (step : BoardStep env before (.comm input) after) {task : ParseQueueTask}
    {taskKey uuid : String} (drops : task.Drops taskKey uuid)
    (member : .unsubscribe task taskKey uuid ∈ before.work) :
    .unsubscribe task taskKey uuid ∈ after.work ∨ after.Gone uuid := by
  have wellformed := cyclic.wellformed
  have ledger := ledger_step wellformed.tasks step trivial wellformed.ledger
  have stage := wellformed.tasks.work
  -- the drop is the statement the comm thread stands at
  have next : before.work =
      [.unsubscribe task taskKey uuid, .confirm task uuid] := by
    generalize before.work = work at stage member
    cases stage <;> simp at member
    obtain ⟨rfl, rfl, rfl⟩ := member
    rfl
  have pending : task ∈ before.pending := by
    simp [pending, next, CommOp.task]
  have registered := cyclic.registered_of_drops drops pending
  have own : ∀ {op : CommOp} {rest : List CommOp}, before.work = op :: rest →
      op = .unsubscribe task taskKey uuid := by
    intro op rest found
    rw [next] at found
    exact (List.cons.inj found).1.symm
  have target : ∀ {op : CommOp} {rest : List CommOp} {key other : String},
      before.work = op :: rest → op.drops = some (key, other) →
      key = taskKey ∧ other = uuid := by
    intro op rest key other found dropped
    rw [own found] at dropped
    cases dropped
    exact ⟨rfl, rfl⟩
  cases step with
  | dequeue free head =>
      rw [free] at member
      cases member
  | dropAbsent found dropped absent =>
      obtain ⟨rfl, rfl⟩ := target found dropped
      exact Or.inr (.of_unlisted ledger registered absent)
  | dropLast found dropped present last clears =>
      obtain ⟨rfl, rfl⟩ := target found dropped
      refine Or.inr (.of_unlisted ledger (List.mem_cons_of_mem _ registered) ?_)
      exact RespondTable.not_mem_uuids_drop _ _ _
  | dropQuiet found dropped present quiet =>
      obtain ⟨rfl, rfl⟩ := target found dropped
      refine Or.inr (.of_unlisted ledger (List.mem_cons_of_mem _ registered) ?_)
      exact RespondTable.not_mem_uuids_drop _ _ _
  | clear found built => cases own found
  | confirmCall found built => cases own found
  | awaited found there finished => cases own found
  | run found built normal => cases own found
  | runDrop found built drop => cases own found
  | callbackReturn found => cases own found
  | callbackReply found => cases own found
  | requestUnknown found => cases own found
  | requestFound found resolved => cases own found
  | crash => exact Or.inl member

private theorem unsubscribed_step {action : Move} (cyclic : Cyclic env before)
    (step : BoardStep env before action after) {task : ParseQueueTask}
    {taskKey uuid : String} (drops : task.Drops taskKey uuid)
    (member : .unsubscribe task taskKey uuid ∈ before.work) :
    .unsubscribe task taskKey uuid ∈ after.work ∨ after.Gone uuid := by
  by_cases elsewhere : ∀ input, action ≠ .comm input
  · left
    rw [ProxyState.work_step step elsewhere]
    exact member
  · simp only [not_forall, not_not] at elsewhere
    obtain ⟨input, rfl⟩ := elsewhere
    exact unsubscribed_comm cyclic step drops member

private theorem processed_step {action : Move} (cyclic : Cyclic env before)
    (step : BoardStep env before action after) (precise : Precise before) :
    ∀ task taskKey uuid, .dequeued task ∈ after.history → task.Drops taskKey uuid →
      .unsubscribe task taskKey uuid ∈ after.work ∨ after.Gone uuid := by
  intro task taskKey uuid member drops
  have wellformed := cyclic.wellformed
  rcases dequeued_of_step step member with old | ⟨queued, work⟩
  · rcases precise.processed task taskKey uuid old drops with waits | gone
    · exact unsubscribed_step cyclic step drops waits
    · exact Or.inr (gone.step wellformed.ledger step)
  · left
    obtain ⟨named, dropped⟩ := drops
    rcases wellformed.tasks.queue task queued with ⟨normal, _⟩ | ⟨single, _⟩
    · rw [normal] at named
      cases named
    · rw [work, taskWork_unsubscribe single named dropped]
      exact List.mem_cons_self

theorem step {action : Move} (cyclic : Cyclic env before)
    (step : BoardStep env before action after) (precise : Precise before) :
    Precise after where
  registered := registered_step cyclic step precise
  serving := serving_step cyclic.wellformed step precise
  processed := processed_step cyclic step precise

end Precise

/-! ## Every run -/

private structure Exact (env : Environment) (board : Board) : Prop where
  cyclic : Cyclic env board
  precise : Precise board

private theorem exact_of_reaches {env : Environment} {board : Board}
    (reached : Runs.Reaches (Board.move env) Board.Fresh Board.initial board) :
    Exact env board := by
  have fresh : ∀ other, Runs.Reaches (Board.move env) Board.Fresh Board.initial other →
      Cyclic env other := fun _ earlier => cyclic_of_reaches earlier
  have precise : Precise board := by
    apply reached.invariant_of fresh .initial
    intro before action after cyclic facts allowed moved
    exact facts.step cyclic (boardStep_of_move moved)
  exact ⟨fresh board reached, precise⟩

private theorem Exact.unsubscribesPrecisely {env : Environment} {board : Board}
    (facts : Exact env board) : board.UnsubscribesPrecisely env := by
  obtain ⟨cyclic, precise⟩ := facts
  have ledger := cyclic.wellformed.ledger
  refine ⟨ledger.listed_nodup, fun _ _ _ => ledger.createUnsubscribeTaskKey_ok_iff, ?_, ?_, ?_⟩
  · intro payload own rid rest taskKey uuid next resolved
    obtain ⟨nonempty, member⟩ := createUnsubscribeTaskKey_ok resolved
    refine ⟨subscribedUnder_of_registered ledger (ledger.multirespond taskKey uuid member), ?_⟩
    have keyNonempty := cyclic.wellformed.tasks.listed taskKey uuid member
    refine ⟨parseQueueTask own (some taskKey) (some uuid) .singleshot rid, ?_, rfl, ?_⟩
    · simp [ParseQueueTask.Drops, parseQueueTask, Option.filter, nonempty, keyNonempty]
    · simp only [channelOp, resolved]
  · intro task taskKey uuid enqueued drops
    exact subscribedUnder_of_registered ledger
      (precise.registered task taskKey uuid (Or.inl enqueued) drops)
  · intro task taskKey uuid dequeued drops
    exact (precise.processed task taskKey uuid dequeued drops).imp_right
      fun gone => gone.not_listed ledger

/-- Registrations add, replies drop from the other table. -/
private theorem Exact.removesServed {env : Environment} {before after : Board}
    {action : Move} (facts : Exact env before)
    (step : BoardStep env before action after) : before.RemovesServed after := by
  intro taskKey uuid member gone
  have served : ∀ {op : CommOp} {rest : List CommOp} {key other : String},
      before.work = op :: rest → op.drops = some (key, other) →
      uuid = other ∧ taskKey = key →
      ∃ task, before.serving = some task ∧ task.Drops taskKey uuid := by
    rintro op rest key other next dropped ⟨rfl, rfl⟩
    obtain ⟨task, drops, rfl, rfl⟩ := drop_stage facts.cyclic.wellformed.tasks next dropped
    have serving := facts.precise.serving task taskKey uuid (next ▸ List.mem_cons_self)
    exact ⟨task, serving, drops⟩
  cases step with
  | dropLast next dropped present last clears =>
      apply served next dropped
      by_contra different
      exact gone (RespondTable.mem_uuids_drop.mpr ⟨member, different⟩)
  | dropQuiet next dropped present quiet =>
      apply served next dropped
      by_contra different
      exact gone (RespondTable.mem_uuids_drop.mpr ⟨member, different⟩)
  | subscribed next new => exact absurd (RespondTable.mem_uuids_set.mpr (Or.inl member)) gone
  | _ => exact absurd member gone

/-- In every run of the proxy with distinct request ids. -/
theorem unsubscribe_precise {env : Environment} {state : ProxyState}
    (reached : Runs.Reaches (ProxyState.step env) (ProxyState.Lifted Board.Fresh)
      .initial state) :
    state.board.UnsubscribesPrecisely env ∧
      ∀ action after, state.step env action = some after →
        state.board.RemovesServed after.board := by
  have facts := exact_of_reaches (ProxyState.board_reaches reached)
  refine ⟨facts.unsubscribesPrecisely, ?_⟩
  intro action after next
  rcases (ProxyState.refines_of_step next).board with same | ⟨move, _, moved⟩
  · intro taskKey uuid member gone
    rw [same] at gone
    exact absurd member gone
  · exact facts.removesServed (boardStep_of_move moved)

/-- A run in which two unsubscriptions of one subscriber are accepted before the
first is processed. -/
theorem unsubscribe_precise_repeated :
    ∃ state : ProxyState,
      ((state.board.history.filterMap Event.popped).countP
          (fun task => task.unsubscribeUuid = some "r1") = 2 ∧
        "r3" ∈ state.board.listed) ∧
        (state.board.UnsubscribesPrecisely .reference ∧
          ∀ action after, state.step .reference action = some after →
            state.board.RemovesServed after.board) := by
  obtain ⟨state, reached, tested⟩ :=
    Runs.reaches_of_execute_test (ProxyState.step .reference)
      (ProxyState.Lifted Board.Fresh)
      (ProxyState.requestActions "s" (.object []) .multirespond false "r1" 5 ++
        ProxyState.requestActions "s" (.object []) .multirespond false "r3" 5 ++
        ProxyState.requestActions "s" (.object [("rid", .string "r1")]) .singleshot
          true "r2" 6 ++
        ProxyState.requestActions "s" (.object [("rid", .string "r1")]) .singleshot
          true "r4" 6 ++
        ProxyState.commActions 11 ++ ProxyState.replyActions 0 6 ++
        ProxyState.commActions 3)
      .initial
      (fun state => decide ((state.board.history.filterMap Event.popped).countP
          (fun task => task.unsubscribeUuid = some "r1") = 2 ∧
        "r3" ∈ state.board.listed))
      (by decide +kernel)
  exact ⟨state, of_decide_eq_true tested, unsubscribe_precise reached⟩

end Sawang
