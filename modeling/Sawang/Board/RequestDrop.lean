import Sawang.Board.Precise

/-!
# A list of uuids to drop

The comm thread can walk a list of uuids under the drop service, and drop each of
them.  But the channel thread refuses every payload whose uuid is no string, and
the list never reaches the comm thread.
-/

namespace Sawang

open Board

/-- A request under the drop service whose payload names a list. -/
structure Exchange.DropsList (exchange : Exchange) (items : List Json) : Prop where
  service : exchange.serviceName = gonggoserviceRequestDrop
  listed : exchange.payload.bind (·.getObjectItem serviceRidKey) = some (.array items)

namespace Board

/-- The channel thread has just found the request confirmed. -/
structure Begins (env : Environment) (exchange : Exchange) (rid : String)
    (board : Board) : Prop where
  newest : board.confirmed.head? = some rid
  job : board.job = exchangeJob env exchange rid

/-- The move is made by the channel thread for its request, or by the comm thread
for a task of the request. -/
def ownMove (rid : String) (board : Board) : Move → Bool
  | .channel => board.confirmed.head? == some rid
  | .comm _ => board.serving.any fun task => task.rid == rid
  | _ => false

/-- Neither thread has anything left to do for the request. -/
def processed (rid : String) (board : Board) : Bool :=
  (board.confirmed.head? != some rid || board.job.isEmpty) &&
    (board.parseQueue.all fun task => task.rid != rid) &&
    (board.work.isEmpty || !(board.serving.any fun task => task.rid == rid))

end Board

/-- What one move does: the board before and after it. -/
structure BoardChange where
  before : Board
  after : Board

namespace BoardChange

def clears (taskKey : String) (change : BoardChange) : Bool :=
  change.after.history.length != change.before.history.length &&
    match change.after.history.head? with
    | some (.cleared other _) => other == taskKey
    | _ => false

def empties (taskKey : String) (change : BoardChange) : Bool :=
  !(change.before.multirespond.uuids taskKey).isEmpty &&
    (change.after.multirespond.uuids taskKey).isEmpty

end BoardChange

/-- The proxy while it processes a request, with what the request itself has
changed, newest first. -/
structure Processing where
  state : ProxyState
  own : List BoardChange

namespace Processing

/-- A step of any thread, as long as the request is not processed. -/
def step (env : Environment) (rid : String) (action : Action)
    (run : Processing) : Option Processing :=
  if run.state.board.processed rid then none
  else
    (run.state.step env action).map fun after =>
      { state := after
        own :=
          if (run.state.boardMove action).any (run.state.board.ownMove rid) then
            ⟨run.state.board, after.board⟩ :: run.own
          else run.own }

/-- What a list of uuids is to bring about. -/
structure DropsListed (env : Environment) (items : List Json) (run : Processing) :
    Prop where
  /-- None of the strings is listed any more. -/
  dropped : ∀ uuid, .string uuid ∈ items →
    ∀ taskKey, uuid ∉ run.state.board.multirespond.uuids taskKey
  /-- The request leaves the other pairs alone. -/
  others : ∀ change ∈ run.own, ∀ taskKey uuid, .string uuid ∉ items →
    (uuid ∈ change.after.multirespond.uuids taskKey ↔
      uuid ∈ change.before.multirespond.uuids taskKey)
  /-- An entry that the request empties is cleared once. -/
  cleared : env.hasMultirespondClear = true → ∀ taskKey,
    run.own.countP (BoardChange.clears taskKey) =
      if run.own.any (BoardChange.empties taskKey) then 1 else 0

end Processing

/-! ## What is recorded of tasks and drops -/

private structure Recorded (board : Board) : Prop where
  queued : ∀ task ∈ board.parseQueue, .enqueued task ∈ board.history
  popped : ∀ task, .dequeued task ∈ board.history → .enqueued task ∈ board.history
  dropped : ∀ taskKey uuid remaining, .dropped taskKey uuid remaining ∈ board.history →
    board.Gone uuid

namespace Recorded

variable {env : Environment} {before after : Board}

private theorem initial : Recorded Board.initial where
  queued := by
    intro task member
    cases member
  popped := by
    intro task member
    cases member
  dropped := by
    intro taskKey uuid remaining member
    cases member

private theorem queued_step {action : Move} (step : BoardStep env before action after)
    (recorded : Recorded before) : ∀ task ∈ after.parseQueue, .enqueued task ∈ after.history := by
  intro task member
  cases step with
  | enqueue next =>
      rcases List.mem_append.mp member with old | new
      · exact List.mem_cons_of_mem _ (recorded.queued task old)
      · rw [List.mem_singleton.mp new]
        exact List.mem_cons_self
  | dequeue free head =>
      apply List.mem_cons_of_mem
      apply recorded.queued task
      rw [head]
      exact List.mem_cons_of_mem _ member
  | _ =>
      have old := recorded.queued task member
      first
      | exact old
      | exact List.mem_cons_of_mem _ old

/-- A uuid that is dropped was a subscriber and is none any more. -/
private theorem gone_of_dropped {action : Move} (cyclic : Cyclic env before)
    (step : BoardStep env before action after) {taskKey uuid : String} {remaining : Nat}
    (new : after.history = .dropped taskKey uuid remaining :: before.history) :
    after.Gone uuid := by
  have wellformed := cyclic.wellformed
  have target : ∀ {op : CommOp} {rest : List CommOp},
      before.work = op :: rest → op.drops = some (taskKey, uuid) →
      .registered .multirespond taskKey uuid false ∈ before.history := by
    intro op rest next drops
    obtain ⟨task, own, rfl, rfl⟩ := drop_stage wellformed.tasks next drops
    apply cyclic.registered_of_drops own
    simp [pending, next, CommOp.task]
  have ledger : ∀ {input : CommInput}, action = .comm input → Ledger after := by
    rintro input rfl
    exact ledger_step wellformed.tasks step trivial wellformed.ledger
  cases step with
  | dropLast next drops present last clears =>
      cases (List.cons.inj new).1
      refine .of_unlisted (ledger rfl) (List.mem_cons_of_mem _ (target next drops)) ?_
      exact RespondTable.not_mem_uuids_drop _ _ _
  | dropQuiet next drops present quiet =>
      cases (List.cons.inj new).1
      refine .of_unlisted (ledger rfl) (List.mem_cons_of_mem _ (target next drops)) ?_
      exact RespondTable.not_mem_uuids_drop _ _ _
  | _ =>
      first
      | exact absurd new.symm (List.cons_ne_self _ _)
      | exact absurd (List.cons.inj new).1 (by simp)

private theorem step {action : Move} (cyclic : Cyclic env before)
    (step : BoardStep env before action after) (recorded : Recorded before) :
    Recorded after where
  queued := recorded.queued_step step
  popped := by
    intro task member
    rcases mem_history_of_step step member with old | new
    · exact history_subset_of_step step (recorded.popped task old)
    · cases step with
      | dequeue free head =>
          cases (List.cons.inj new).1
          apply List.mem_cons_of_mem
          apply recorded.queued
          rw [head]
          exact List.mem_cons_self
      | _ =>
          first
          | exact absurd new.symm (List.cons_ne_self _ _)
          | exact absurd (List.cons.inj new).1 (by simp)
  dropped := by
    intro taskKey uuid remaining member
    rcases mem_history_of_step step member with old | new
    · exact (recorded.dropped taskKey uuid remaining old).step cyclic.wellformed.ledger step
    · exact gone_of_dropped cyclic step new

private theorem of_serving {board : Board} (recorded : Recorded board)
    {task : ParseQueueTask} (serving : board.serving = some task) :
    .enqueued task ∈ board.history := by
  obtain ⟨event, member, popped⟩ := List.exists_of_findSome?_eq_some serving
  cases event <;> cases popped
  exact recorded.popped task member

end Recorded

/-! ## The refusal -/

/-- What the channel thread does with a list. -/
private inductive Refusal (rid : String) : List ChannelOp → Prop
  | resolving {payload : Option Json} {items : List Json} (taskKey : String)
      (listed : payload.bind (·.getObjectItem serviceRidKey) = some (.array items)) :
      Refusal rid [.createUnsubscribeTaskKey payload taskKey rid]
  | refusing (status : Int32) :
      Refusal rid [.replyQueueAppendInvalidStatus rid status, .subscribeAwake]
  | waking : Refusal rid [.subscribeAwake]
  | past : Refusal rid []

private structure Refusing (rid : String) (board : Board) : Prop where
  newest : board.confirmed.head? = some rid
  job : Refusal rid board.job
  unqueued : ∀ task, .enqueued task ∈ board.history → task.rid ≠ rid

namespace Refusing

variable {env : Environment} {rid : String} {before after : Board}

/-- A list is no string. -/
private theorem not_resolved {payload : Option Json} {items : List Json}
    {table : RespondTable} {taskKey uuid : String}
    (listed : payload.bind (·.getObjectItem serviceRidKey) = some (.array items)) :
    createUnsubscribeTaskKey env table payload ≠ .ok (taskKey, uuid) := by
  obtain ⟨tree, rfl, found⟩ := Option.bind_eq_some_iff.mp listed
  have unnamed : (tree.getObjectItem serviceRidKey).bind Json.getStringValue = none := by
    rw [found]
    rfl
  unfold createUnsubscribeTaskKey
  simp [unnamed]

/-- Nothing is queued, so the request is processed when the channel thread is done
with it. -/
private theorem busy (refusing : Refusing rid before) (recorded : Recorded before)
    (unprocessed : before.processed rid = false) : before.job ≠ [] := by
  intro free
  have notServing : (before.serving.any fun task => task.rid == rid) = false := by
    cases serving : before.serving with
    | none => rfl
    | some task =>
        exact beq_eq_false_iff_ne.mpr (refusing.unqueued task (recorded.of_serving serving))
  have notQueued : (before.parseQueue.all fun task => task.rid != rid) = true := by
    rw [List.all_eq_true]
    intro task member
    exact bne_iff_ne.mpr (refusing.unqueued task (recorded.queued task member))
  unfold processed at unprocessed
  simp [free, notServing, notQueued] at unprocessed

private theorem unqueued_step {action : Move} (refusing : Refusing rid before)
    (step : BoardStep env before action after) :
    ∀ task, .enqueued task ∈ after.history → task.rid ≠ rid := by
  intro task member
  rcases mem_history_of_step step member with old | new
  · exact refusing.unqueued task old
  · have job := refusing.job
    cases step with
    | enqueue next =>
        rw [next] at job
        cases job
    | _ =>
        first
        | exact absurd new.symm (List.cons_ne_self _ _)
        | exact absurd (List.cons.inj new).1 (by simp)

/-- The channel thread refuses, appends the refusal and awakes. -/
private theorem job_step {action : Move} (refusing : Refusing rid before)
    (busy : before.job ≠ []) (step : BoardStep env before action after) :
    after.confirmed = before.confirmed ∧ Refusal rid after.job := by
  have job := refusing.job
  cases action with
  | confirm exchange other =>
      cases step with
      | confirm idle => exact absurd idle busy
      | crash may => cases may
  | channel =>
      cases step with
      | crash may => cases may
      | reject next =>
          rw [next] at job
          cases job
          exact ⟨rfl, .waking⟩
      | channelAwake next awakes =>
          rw [next] at job
          cases job with
          | resolving taskKey listed => rcases awakes with awakes | awakes <;> cases awakes
          | refusing status => rcases awakes with awakes | awakes <;> cases awakes
          | waking => exact ⟨rfl, .past⟩
      | refuse next refused =>
          rw [next] at job
          cases job
          exact ⟨rfl, .refusing _⟩
      | accept next resolved =>
          rw [next] at job
          cases job with
          | resolving taskKey listed => exact absurd resolved (not_resolved listed)
      | subscribed next new =>
          rw [next] at job
          cases job
      | subscribedBefore next old =>
          rw [next] at job
          cases job
      | registered next =>
          rw [next] at job
          cases job
      | registeredUnsubscribe next =>
          rw [next] at job
          cases job
      | enqueue next =>
          rw [next] at job
          cases job
  | comm input => cases step <;> exact ⟨rfl, job⟩
  | reply index => cases step <;> exact ⟨rfl, job⟩
  | proxyReply arg headers payload => cases step <;> exact ⟨rfl, job⟩
  | channelCrash =>
      cases step
      exact ⟨rfl, job⟩

private theorem step {action : Move} (refusing : Refusing rid before)
    (busy : before.job ≠ []) (step : BoardStep env before action after) :
    Refusing rid after where
  newest := by
    rw [(refusing.job_step busy step).1]
    exact refusing.newest
  job := (refusing.job_step busy step).2
  unqueued := refusing.unqueued_step step

/-- Meanwhile subscribers leave the table by drops and none comes. -/
private theorem listed_step {action : Move} (refusing : Refusing rid before)
    (step : BoardStep env before action after) (taskKey uuid : String) :
    (uuid ∈ after.multirespond.uuids taskKey → uuid ∈ before.multirespond.uuids taskKey) ∧
      (uuid ∈ before.multirespond.uuids taskKey →
        uuid ∈ after.multirespond.uuids taskKey ∨
          ∃ remaining, .dropped taskKey uuid remaining ∈ after.history) := by
  have job := refusing.job
  cases step with
  | subscribed next new =>
      rw [next] at job
      cases job
  | @dropLast _ _ _ key other | @dropQuiet _ _ _ key other =>
      refine ⟨fun member => (RespondTable.mem_uuids_drop.mp member).1, ?_⟩
      intro member
      by_cases same : uuid = other ∧ taskKey = key
      · obtain ⟨rfl, rfl⟩ := same
        exact Or.inr ⟨_, List.mem_cons_self⟩
      · exact Or.inl (RespondTable.mem_uuids_drop.mpr ⟨member, same⟩)
  | _ => exact ⟨id, Or.inl⟩

/-- A change that touches no subscriber and calls nobody back. -/
private def Quiet (change : BoardChange) : Prop :=
  change.after.multirespond = change.before.multirespond ∧
    ∀ taskKey, change.clears taskKey = false

private theorem quiet_same (board : Board) : Quiet ⟨board, board⟩ :=
  ⟨rfl, fun _ => by simp [BoardChange.clears]⟩

private theorem own_quiet {action : Move} (refusing : Refusing rid before)
    (recorded : Recorded before) (own : before.ownMove rid action = true)
    (step : BoardStep env before action after) : Quiet ⟨before, after⟩ := by
  have job := refusing.job
  cases action with
  | channel =>
      cases step with
      | subscribed next new =>
          rw [next] at job
          cases job
      | _ => exact ⟨rfl, fun _ => by simp [BoardChange.clears, record, crash]⟩
  | comm input =>
      unfold ownMove at own
      cases serving : before.serving with
      | none =>
          rw [serving] at own
          cases own
      | some task =>
          rw [serving] at own
          exact absurd (eq_of_beq own)
            (refusing.unqueued task (recorded.of_serving serving))
  | _ => cases own

end Refusing

/-! ## Every run -/

private structure Known (env : Environment) (board : Board) : Prop where
  cyclic : Cyclic env board
  recorded : Recorded board

private theorem known_of_reaches {env : Environment} {state : ProxyState}
    (reached : Runs.Reaches (ProxyState.step env) (ProxyState.Lifted Board.Fresh)
      .initial state) : Known env state.board := by
  have run := ProxyState.board_reaches reached
  have fresh : ∀ other, Runs.Reaches (Board.move env) Board.Fresh Board.initial other →
      Cyclic env other := fun _ earlier => cyclic_of_reaches earlier
  refine ⟨fresh _ run, ?_⟩
  apply run.invariant_of fresh .initial
  intro before action after cyclic recorded allowed moved
  exact recorded.step cyclic (boardStep_of_move moved)

/-- While a list is processed. -/
private structure Refused (rid : String) (start : Board) (run : Processing) : Prop where
  refusing : Refusing rid run.state.board
  listed : ∀ taskKey uuid,
    (uuid ∈ run.state.board.multirespond.uuids taskKey →
      uuid ∈ start.multirespond.uuids taskKey) ∧
    (uuid ∈ start.multirespond.uuids taskKey →
      uuid ∈ run.state.board.multirespond.uuids taskKey ∨
        ∃ remaining, .dropped taskKey uuid remaining ∈ run.state.board.history)
  quiet : ∀ change ∈ run.own, Refusing.Quiet change

namespace Refused

variable {env : Environment} {rid : String} {start : Board}

private theorem own_step {before after : Processing} {action : Action}
    {changed : ProxyState} (quiet : ∀ change ∈ before.own, Refusing.Quiet change)
    (own : after.own =
      if (before.state.boardMove action).any (before.state.board.ownMove rid) then
        ⟨before.state.board, changed.board⟩ :: before.own
      else before.own)
    (new : (before.state.boardMove action).any (before.state.board.ownMove rid) = true →
      Refusing.Quiet ⟨before.state.board, changed.board⟩) :
    ∀ change ∈ after.own, Refusing.Quiet change := by
  rw [own]
  split
  · rename_i chosen
    exact List.forall_mem_cons.mpr ⟨new chosen, quiet⟩
  · exact quiet

private theorem step {before after : Processing} {action : Action}
    (known : Known env before.state.board) (refused : Refused rid start before)
    (next : before.step env rid action = some after) : Refused rid start after := by
  obtain ⟨refusing, listed, quiet⟩ := refused
  unfold Processing.step at next
  split at next
  · cases next
  · rename_i unprocessed
    obtain ⟨changed, moved, rfl⟩ := Option.map_eq_some_iff.mp next
    have busy := refusing.busy known.recorded (Bool.eq_false_iff.mpr unprocessed)
    rcases (ProxyState.refines_of_step moved).board with same | ⟨move, chosen, performed⟩
    · refine ⟨?_, ?_, own_step quiet rfl ?_⟩
      · rw [same]
        exact refusing
      · rw [same]
        exact listed
      · intro _
        rw [same]
        exact Refusing.quiet_same _
    · have step := boardStep_of_move performed
      refine ⟨refusing.step busy step, ?_, own_step quiet rfl ?_⟩
      · intro taskKey uuid
        obtain ⟨kept, lost⟩ := refusing.listed_step step taskKey uuid
        obtain ⟨old, gone⟩ := listed taskKey uuid
        refine ⟨fun member => old (kept member), ?_⟩
        intro member
        rcases gone member with still | ⟨remaining, dropped⟩
        · exact lost still
        · exact Or.inr ⟨remaining, history_subset_of_step step dropped⟩
      · intro own
        rw [chosen] at own
        exact refusing.own_quiet known.recorded own step

end Refused

/-- The request has caused nothing before the channel thread begins with it. -/
private theorem refusing_of_begins {env : Environment} {exchange : Exchange} {rid : String}
    {board : Board} {items : List Json} (ledger : Ledger board)
    (begins : board.Begins env exchange rid) (list : exchange.DropsList items) :
    Refusing rid board := by
  obtain ⟨unsubscribes, parsed⟩ := exchange.dropUnsubscribes list.service
  have job : board.job =
      [.createUnsubscribeTaskKey exchange.payload (exchange.taskKey env) rid] := by
    rw [begins.job]
    simp [exchangeJob, unsubscribes, parsed]
  refine ⟨begins.newest, ?_, ?_⟩
  · rw [job]
    exact .resolving _ list.listed
  · intro task enqueued own
    obtain ⟨works, _⟩ := ledger.resolving job
    have effect : .enqueued task ∈ effects rid board.history :=
      mem_effects_iff.mpr ⟨enqueued, beq_iff_eq.mpr own⟩
    rw [works.soFar] at effect
    cases effect

/-- In every run with distinct request ids, a list of uuids is dropped when all of
its subscribers are dropped for other requests. -/
theorem request_drop_list_iff {env : Environment} {start : ProxyState} {exchange : Exchange}
    {rid : String} {items : List Json} {run : Processing}
    (reached : Runs.Reaches (ProxyState.step env) (ProxyState.Lifted Board.Fresh)
      .initial start)
    (begins : start.board.Begins env exchange rid) (list : exchange.DropsList items)
    (processing : Runs.Reaches (Processing.step env rid)
      (fun run action => ProxyState.Lifted Board.Fresh run.state action) ⟨start, []⟩ run)
    (_processed : run.state.board.processed rid = true) :
    run.DropsListed env items ↔
      ∀ uuid, .string uuid ∈ items → ∀ taskKey,
        uuid ∈ start.board.multirespond.uuids taskKey →
          ∃ remaining, .dropped taskKey uuid remaining ∈ run.state.board.history := by
  have whole : ∀ other, Runs.Reaches (Processing.step env rid)
      (fun run action => ProxyState.Lifted Board.Fresh run.state action) ⟨start, []⟩ other →
      Known env other.state.board := by
    intro other earlier
    apply known_of_reaches
    apply reached.trans
    refine earlier.project Processing.state ?_
    intro before action after allowed next
    right
    unfold Processing.step at next
    split at next
    · cases next
    · obtain ⟨changed, moved, rfl⟩ := Option.map_eq_some_iff.mp next
      exact ⟨action, allowed, moved⟩
  have refused : Refused rid start.board run := by
    apply processing.invariant_of whole
    · refine ⟨?_, fun _ _ => ⟨id, Or.inl⟩, ?_⟩
      · exact refusing_of_begins (known_of_reaches reached).cyclic.wellformed.ledger begins list
      · intro change member
        cases member
    · intro before action after known refused _ next
      exact refused.step known next
  constructor
  · intro effect uuid item taskKey member
    exact ((refused.listed taskKey uuid).2 member).resolve_left
      (effect.dropped uuid item taskKey)
  · intro elsewhere
    refine ⟨?_, ?_, ?_⟩
    · intro uuid item taskKey member
      obtain ⟨remaining, dropped⟩ :=
        elsewhere uuid item taskKey ((refused.listed taskKey uuid).1 member)
      exact ((whole run processing).recorded.dropped taskKey uuid remaining dropped).unlisted
        taskKey member
    · intro change member taskKey uuid _
      rw [(refused.quiet change member).1]
    · intro _ taskKey
      have unclear : run.own.countP (BoardChange.clears taskKey) = 0 := by
        rw [List.countP_eq_zero]
        intro change member
        rw [(refused.quiet change member).2 taskKey]
        exact Bool.false_ne_true
      have unempty : run.own.any (BoardChange.empties taskKey) = false := by
        rw [List.any_eq_false]
        intro change member
        unfold BoardChange.empties
        rw [(refused.quiet change member).1, Bool.not_and_self]
        exact Bool.false_ne_true
      rw [unclear, unempty]
      rfl

/-! ## A list with a subscriber -/

/-- The request to drop `r1`, as a list. -/
private def listRequest : Exchange where
  serviceAndPayload :=
    serviceAndPayloadObject gonggoserviceRequestDrop
      (some (.object [(serviceRidKey, .array [.string "r1"])]))
  serviceName := gonggoserviceRequestDrop
  parseResult := .singleshot
  normalizedPayload := .payload
  unsubscribe := true
  invalidStatus := 0
  named := by
    unfold Sawang.serviceName
    rw [getObjectItem_service]
    rfl
  dropUnsubscribes := fun _ => ⟨rfl, rfl⟩

private theorem listRequest_payload :
    listRequest.payload = some (.object [(serviceRidKey, .array [.string "r1"])]) := by
  unfold Exchange.payload
  exact getObjectItem_payload gonggoserviceRequestDrop
    (some (.object [(serviceRidKey, .array [.string "r1"])]))

private theorem listRequest_dropsList : listRequest.DropsList [.string "r1"] where
  service := rfl
  listed := by
    rw [listRequest_payload, Option.bind_some]
    exact Json.getObjectItem_cons_same _ _ rfl

private def beginsList : List ChannelOp → Bool
  | [.createUnsubscribeTaskKey (some (.object [(name, .array [.string uuid])])) taskKey rid] =>
      name == serviceRidKey && uuid == "r1" && taskKey == listRequest.taskKey .reference &&
        rid == "r2"
  | _ => false

private theorem eq_of_beginsList {job : List ChannelOp} (begins : beginsList job = true) :
    job = exchangeJob .reference listRequest "r2" := by
  unfold beginsList at begins
  split at begins
  · simp only [Bool.and_eq_true, beq_iff_eq] at begins
    obtain ⟨⟨⟨rfl, rfl⟩, rfl⟩, rfl⟩ := begins
    unfold exchangeJob
    rw [listRequest_payload]
    rfl
  · cases begins

private def refusal (start : ProxyState) : Option Processing :=
  Runs.execute (Processing.step .reference "r2")
    (fun run action => ProxyState.Lifted Board.Fresh run.state action)
    (List.replicate 3 ProxyState.channelStep) ⟨start, []⟩

private def leftListed (run : Processing) : Bool :=
  run.state.board.processed "r2" && decide ("r1" ∈ run.state.board.multirespond.allUuids)

/-- The request is processed while its subscriber is listed. -/
private theorem listRequest_processed :
    ∃ start run, Runs.Reaches (ProxyState.step .reference) (ProxyState.Lifted Board.Fresh)
        .initial start ∧
      start.board.Begins .reference listRequest "r2" ∧
      Runs.Reaches (Processing.step .reference "r2")
        (fun run action => ProxyState.Lifted Board.Fresh run.state action) ⟨start, []⟩ run ∧
      run.state.board.processed "r2" = true ∧
      "r1" ∈ run.state.board.multirespond.allUuids := by
  obtain ⟨start, reached, tested⟩ :=
    Runs.reaches_of_execute_test (ProxyState.step .reference)
      (ProxyState.Lifted Board.Fresh)
      (ProxyState.requestActions "s" (.object []) .multirespond false "r1" 5 ++
        ProxyState.requestActions gonggoserviceRequestDrop
          (.object [(serviceRidKey, .array [.string "r1"])]) .singleshot true "r2" 1)
      .initial
      (fun start =>
        (decide (start.board.confirmed.head? = some "r2") && beginsList start.board.job) &&
          (refusal start).any leftListed)
      (by decide +kernel)
  rw [Bool.and_eq_true, Bool.and_eq_true] at tested
  obtain ⟨⟨newest, job⟩, refused⟩ := tested
  obtain ⟨run, executed, done⟩ := (Option.any_eq_true _ _).mp refused
  obtain ⟨processed, listed⟩ := (Bool.and_eq_true _ _).mp done
  exact ⟨start, run, reached, ⟨of_decide_eq_true newest, eq_of_beginsList job⟩,
    Runs.reaches_of_execute _ _ executed, processed, of_decide_eq_true listed⟩

/-- The list of one subscriber is refused. -/
theorem request_drop_list_iff_refused :
    ∃ run : Processing, "r1" ∈ run.state.board.multirespond.allUuids ∧
      ∃ start : ProxyState, (run.DropsListed .reference [.string "r1"] ↔
        ∀ uuid, .string uuid ∈ [Json.string "r1"] → ∀ taskKey,
          uuid ∈ start.board.multirespond.uuids taskKey →
            ∃ remaining, .dropped taskKey uuid remaining ∈ run.state.board.history) := by
  obtain ⟨start, run, reached, begins, processing, processed, listed⟩ := listRequest_processed
  exact ⟨run, listed, start,
    request_drop_list_iff reached begins listRequest_dropsList processing processed⟩

/-- The subscriber stays listed. -/
theorem request_drop_list_fails :
    ¬∀ (start : ProxyState) (exchange : Exchange) (rid : String) (items : List Json)
        (run : Processing),
      Runs.Reaches (ProxyState.step .reference) (ProxyState.Lifted Board.Fresh)
        .initial start →
      start.board.Begins .reference exchange rid → exchange.DropsList items →
      Runs.Reaches (Processing.step .reference rid)
        (fun run action => ProxyState.Lifted Board.Fresh run.state action) ⟨start, []⟩ run →
      run.state.board.processed rid = true → run.DropsListed .reference items := by
  intro always
  obtain ⟨start, run, reached, begins, processing, processed, listed⟩ := listRequest_processed
  have effect := always start listRequest "r2" [.string "r1"] run reached begins
    listRequest_dropsList processing processed
  obtain ⟨taskKey, member⟩ := RespondTable.mem_allUuids_iff.mp listed
  exact effect.dropped "r1" List.mem_cons_self taskKey member

end Sawang
