import Sawang.Board.Tasks

/-!
# One effect for each confirmed request

Whatever becomes of a request is recorded under its id: a refusal, a
registration in a respond table, a parse-queue task.  The ledger says that each
confirmed request has exactly one outcome, or is the one the channel thread is
working on, and that the tables hold registered ids only.
-/

namespace Sawang

open Board

/-- The event records an effect of the request. -/
def Event.effectOn (rid : String) : Event → Bool
  | .rejected other _ => other == rid
  | .registered _ _ other _ => other == rid
  | .enqueued task => task.rid == rid
  | _ => false

def Event.confirmedRid : Event → Option String
  | .confirmed rid => some rid
  | _ => none

/-- Table, key and id of a registration, and whether it is an unsubscription's. -/
def Event.registration : Event → Option (RespondTableType × String × String × Bool)
  | .registered type taskKey rid unsubscribe => some (type, taskKey, rid, unsubscribe)
  | _ => none

namespace Board

/-- The effects of a request, newest first. -/
def effects (rid : String) (history : List Event) : List Event :=
  history.filter (Event.effectOn rid)

/-- The requests the dispatcher has confirmed, newest first. -/
def confirmed (board : Board) : List String :=
  board.history.filterMap Event.confirmedRid

def registrations (board : Board) : List (RespondTableType × String × String × Bool) :=
  board.history.filterMap Event.registration

theorem mem_registrations_iff {board : Board} {type : RespondTableType}
    {taskKey rid : String} {unsubscribe : Bool} :
    (type, taskKey, rid, unsubscribe) ∈ board.registrations ↔
      .registered type taskKey rid unsubscribe ∈ board.history := by
  unfold registrations
  rw [List.mem_filterMap]
  constructor
  · rintro ⟨event, member, seen⟩
    cases event <;> cases seen
    exact member
  · intro member
    exact ⟨_, member, rfl⟩

/-- Request ids are pairwise distinct. -/
def Fresh (board : Board) : Move → Prop
  | .confirm _ rid => rid ∉ board.confirmed
  | _ => True

instance (board : Board) : (action : Move) → Decidable (board.Fresh action)
  | .confirm _ _ => inferInstanceAs (Decidable (¬_))
  | .channel | .comm _ | .reply _ | .proxyReply .. | .channelCrash =>
      inferInstanceAs (Decidable True)

end Board

/-- What a settled request has caused, newest first. -/
inductive Outcome (rid : String) : List Event → Prop
  | rejected (status : Int32) : Outcome rid [.rejected rid status]
  | queued {type : RespondTableType} {taskKey : String} {task : ParseQueueTask}
      (own : task.rid = rid) (key : task.taskKey = taskKey) (kind : task.type = type)
      (normal : task.unsubscribeTaskKey = none) :
      Outcome rid [.enqueued task, .registered type taskKey rid false]
  | unsubscribed {taskKey : String} {task : ParseQueueTask}
      (own : task.rid = rid) (key : task.taskKey = taskKey)
      (kind : task.type = .singleshot) (drops : task.unsubscribeTaskKey ≠ none) :
      Outcome rid [.registered .singleshot taskKey rid true, .enqueued task]

/-- How far the channel thread is with a request: its remaining statements and
the effects so far. -/
inductive JobStage (rid : String) : List ChannelOp → List Event → Prop
  | refusing (status : Int32) :
      JobStage rid [.replyQueueAppendInvalidStatus rid status, .subscribeAwake] []
  | resolving (payload : Option Json) (taskKey : String) :
      JobStage rid [.createUnsubscribeTaskKey payload taskKey rid] []
  | accepted {taskKey : String} {task : ParseQueueTask}
      (own : task.rid = rid) (key : task.taskKey = taskKey)
      (kind : task.type = .singleshot) (drops : task.unsubscribeTaskKey ≠ none) :
      JobStage rid
        [.parseQueueAppend task, .respondTableSetUnsubscribe taskKey rid, .commAwake] []
  | registering {taskKey : String} {task : ParseQueueTask}
      (own : task.rid = rid) (key : task.taskKey = taskKey)
      (kind : task.type = .singleshot) (drops : task.unsubscribeTaskKey ≠ none) :
      JobStage rid [.respondTableSetUnsubscribe taskKey rid, .commAwake]
        [.enqueued task]
  | setting (type : RespondTableType) (taskKey : String) :
      JobStage rid [.respondTableSet type taskKey rid] []
  | queueing {type : RespondTableType} {taskKey : String} {task : ParseQueueTask}
      (own : task.rid = rid) (key : task.taskKey = taskKey) (kind : task.type = type)
      (normal : task.unsubscribeTaskKey = none) :
      JobStage rid [.parseQueueAppend task, .commAwake]
        [.registered type taskKey rid false]
  | waking {op : ChannelOp} {effects : List Event}
      (awakes : op = .subscribeAwake ∨ op = .commAwake)
      (outcome : Outcome rid effects) :
      JobStage rid [op] effects

inductive Progress (board : Board) : Prop
  | idle (free : board.job = [])
      (settled : ∀ rid ∈ board.confirmed, Outcome rid (effects rid board.history))
  | busy (rid : String) (member : rid ∈ board.confirmed)
      (stage : JobStage rid board.job (effects rid board.history))
      (settled : ∀ other ∈ board.confirmed, other ≠ rid →
        Outcome other (effects other board.history))

structure Ledger (board : Board) : Prop where
  untouched : ∀ rid, rid ∉ board.confirmed → effects rid board.history = []
  progress : Progress board
  singleshot : ∀ taskKey rid, rid ∈ board.singleshot.uuids taskKey →
    ∃ unsubscribe, .registered .singleshot taskKey rid unsubscribe ∈ board.history
  multirespond : ∀ taskKey rid, rid ∈ board.multirespond.uuids taskKey →
    .registered .multirespond taskKey rid false ∈ board.history

namespace Board

/-! ## Effects of a longer history -/

theorem effects_cons_own {history : List Event} {event : Event} {rid : String}
    (own : event.effectOn rid = true) :
    effects rid (event :: history) = event :: effects rid history :=
  List.filter_cons_of_pos own

theorem effects_cons_other {history : List Event} {event : Event} {rid : String}
    (other : event.effectOn rid = false) :
    effects rid (event :: history) = effects rid history :=
  List.filter_cons_of_neg (by simp [other])

theorem mem_effects_iff {history : List Event} {rid : String} {event : Event} :
    event ∈ effects rid history ↔ event ∈ history ∧ event.effectOn rid = true :=
  List.mem_filter

/-- What is an effect of one request is an effect of no other. -/
theorem effectOn_other {event : Event} {rid other : String}
    (own : event.effectOn rid = true) (different : other ≠ rid) :
    event.effectOn other = false := by
  cases event <;> simp_all [Event.effectOn, different.symm]

theorem confirmedRid_of_effectOn {event : Event} {rid : String}
    (own : event.effectOn rid = true) : event.confirmedRid = none := by
  cases event <;> first | rfl | cases own

/-- The channel thread works on the request, which has had the effects `known` so
far, and every other confirmed request is settled. -/
structure WorksOn (board : Board) (rid : String) (known : List Event) : Prop where
  member : rid ∈ board.confirmed
  soFar : effects rid board.history = known
  settled : ∀ other ∈ board.confirmed, other ≠ rid →
    Outcome other (effects other board.history)

end Board

theorem ledger_initial : Ledger Board.initial where
  untouched := fun _ _ => rfl
  progress := .idle rfl (by
    intro rid member
    cases member)
  singleshot := by
    intro taskKey rid member
    cases member
  multirespond := by
    intro taskKey rid member
    cases member

/-- The first stage of a confirmed request. -/
theorem jobStage_exchangeJob (env : Environment) (exchange : Exchange) (rid : String) :
    JobStage rid (exchangeJob env exchange rid) [] := by
  unfold exchangeJob
  split
  · exact .refusing _
  · split
    · exact .resolving _ _
    · exact .setting _ _

/-- The channel thread takes a request one stage further: the requests of other
ids are left alone. -/
private theorem Ledger.advance {before after : Board} {rid : String} {known : List Event}
    (ledger : Ledger before) (works : before.WorksOn rid known)
    (confirmed : after.confirmed = before.confirmed)
    (others : ∀ other, other ≠ rid → effects other after.history = effects other before.history)
    (stage : JobStage rid after.job (effects rid after.history) ∨
      (after.job = [] ∧ Outcome rid (effects rid after.history)))
    (singleshot : ∀ taskKey other, other ∈ after.singleshot.uuids taskKey →
      ∃ unsubscribe, .registered .singleshot taskKey other unsubscribe ∈ after.history)
    (multirespond : ∀ taskKey other, other ∈ after.multirespond.uuids taskKey →
      .registered .multirespond taskKey other false ∈ after.history) :
    Ledger after where
  untouched := by
    intro other absent
    rw [confirmed] at absent
    have different : other ≠ rid := by
      rintro rfl
      exact absent works.member
    rw [others other different]
    exact ledger.untouched other absent
  progress := by
    have rest : ∀ other ∈ after.confirmed, other ≠ rid →
        Outcome other (effects other after.history) := by
      intro other otherMember different
      rw [confirmed] at otherMember
      rw [others other different]
      exact works.settled other otherMember different
    rcases stage with stage | ⟨free, outcome⟩
    · exact .busy rid (confirmed ▸ works.member) stage rest
    · refine .idle free ?_
      intro other otherMember
      by_cases same : other = rid
      · rw [same]
        exact outcome
      · exact rest other otherMember same
  singleshot := singleshot
  multirespond := multirespond

/-- A statement of the channel thread that has an effect. -/
private theorem Ledger.record {before after : Board} {rid : String} {known : List Event}
    {event : Event} (ledger : Ledger before) (works : before.WorksOn rid known)
    (history : after.history = event :: before.history) (own : event.effectOn rid = true)
    (stage : JobStage rid after.job (event :: known))
    (singleshot : ∀ taskKey other, other ∈ after.singleshot.uuids taskKey →
      ∃ unsubscribe, .registered .singleshot taskKey other unsubscribe ∈
        event :: before.history)
    (multirespond : ∀ taskKey other, other ∈ after.multirespond.uuids taskKey →
      .registered .multirespond taskKey other false ∈ event :: before.history) :
    Ledger after := by
  rw [← history] at singleshot multirespond
  refine ledger.advance works ?_ ?_ (Or.inl ?_) singleshot multirespond
  · unfold Board.confirmed
    rw [history, List.filterMap_cons_none (confirmedRid_of_effectOn own)]
  · intro other different
    rw [history, effects_cons_other (effectOn_other own different)]
  · rw [history, effects_cons_own own, works.soFar]
    exact stage

/-- A statement of the channel thread that has no effect. -/
private theorem Ledger.proceed {before after : Board} {rid : String} {known : List Event}
    (ledger : Ledger before) (works : before.WorksOn rid known)
    (history : after.history = before.history)
    (stage : JobStage rid after.job known ∨ (after.job = [] ∧ Outcome rid known))
    (singleshot : after.singleshot = before.singleshot)
    (multirespond : after.multirespond = before.multirespond) : Ledger after := by
  refine ledger.advance works ?_ ?_ ?_ ?_ ?_
  · unfold Board.confirmed
    rw [history]
  · intro other different
    rw [history]
  · rw [history, works.soFar]
    exact stage
  · rw [history, singleshot]
    exact ledger.singleshot
  · rw [history, multirespond]
    exact ledger.multirespond

/-- A move of another thread records no effect and keeps the tables' contents. -/
private theorem Ledger.frame {before after : Board} (ledger : Ledger before)
    (job : after.job = before.job)
    (confirmed : after.confirmed = before.confirmed)
    (effects : ∀ rid, effects rid after.history = effects rid before.history)
    (grows : before.history ⊆ after.history)
    (singleshot : ∀ taskKey rid, rid ∈ after.singleshot.uuids taskKey →
      rid ∈ before.singleshot.uuids taskKey)
    (multirespond : ∀ taskKey rid, rid ∈ after.multirespond.uuids taskKey →
      rid ∈ before.multirespond.uuids taskKey) : Ledger after where
  untouched := by
    intro rid absent
    rw [effects]
    exact ledger.untouched rid (confirmed ▸ absent)
  progress := by
    cases ledger.progress with
    | idle free settled =>
        refine .idle (job.trans free) ?_
        intro rid member
        rw [effects]
        exact settled rid (confirmed ▸ member)
    | busy rid member stage settled =>
        refine .busy rid (confirmed ▸ member) ?_ ?_
        · rw [job, effects]
          exact stage
        · intro other otherMember different
          rw [effects]
          exact settled other (confirmed ▸ otherMember) different
  singleshot := by
    intro taskKey rid member
    obtain ⟨unsubscribe, registered⟩ :=
      ledger.singleshot taskKey rid (singleshot taskKey rid member)
    exact ⟨unsubscribe, grows registered⟩
  multirespond := by
    intro taskKey rid member
    exact grows (ledger.multirespond taskKey rid (multirespond taskKey rid member))

private theorem Ledger.same {before after : Board} (ledger : Ledger before)
    (job : after.job = before.job) (history : after.history = before.history)
    (singleshot : after.singleshot = before.singleshot)
    (multirespond : after.multirespond = before.multirespond) : Ledger after := by
  refine ledger.frame job ?_ ?_ ?_ ?_ ?_
  · unfold Board.confirmed
    rw [history]
  · intro rid
    rw [history]
  · rw [history]
    exact List.Subset.refl _
  · intro taskKey rid member
    rw [← singleshot]
    exact member
  · intro taskKey rid member
    rw [← multirespond]
    exact member

private theorem ledger_confirm {env : Environment} {board : Board}
    {exchange : Exchange} {rid : String} (ledger : Ledger board)
    (idle : board.job = []) (fresh : rid ∉ board.confirmed) :
    Ledger ({ board with job := exchangeJob env exchange rid }.record
      (.confirmed rid)) where
  untouched := by
    intro other absent
    exact ledger.untouched other fun member => absent (List.mem_cons_of_mem _ member)
  progress := by
    refine .busy rid List.mem_cons_self ?_ ?_
    · have none := ledger.untouched rid fresh
      have stage := jobStage_exchangeJob env exchange rid
      rw [← none] at stage
      exact stage
    · intro other member different
      have old : other ∈ board.confirmed := by
        rcases List.mem_cons.mp member with same | old
        · exact absurd same different
        · exact old
      cases ledger.progress with
      | idle free settled => exact settled other old
      | busy current currentMember stage settled =>
          rw [idle] at stage
          cases stage
  singleshot := by
    intro taskKey other member
    obtain ⟨unsubscribe, registered⟩ := ledger.singleshot taskKey other member
    exact ⟨unsubscribe, List.mem_cons_of_mem _ registered⟩
  multirespond := by
    intro taskKey other member
    exact List.mem_cons_of_mem _ (ledger.multirespond taskKey other member)

/-! ## The request the channel thread is working on -/

section Working

variable {board : Board} {rest : List ChannelOp} {taskKey rid : String}

theorem Ledger.busy {op : ChannelOp} (ledger : Ledger board)
    (next : board.job = op :: rest) :
    ∃ rid known, board.WorksOn rid known ∧ JobStage rid (op :: rest) known := by
  cases ledger.progress with
  | idle free settled =>
      rw [free] at next
      cases next
  | busy rid member stage settled =>
      exact ⟨rid, _, ⟨member, rfl, settled⟩, next ▸ stage⟩

theorem Ledger.refusing {status : Int32} (ledger : Ledger board)
    (next : board.job = .replyQueueAppendInvalidStatus rid status :: rest) :
    board.WorksOn rid [] ∧ rest = [.subscribeAwake] := by
  obtain ⟨_, _, works, stage⟩ := ledger.busy next
  cases stage with
  | refusing => exact ⟨works, rfl⟩
  | waking awakes outcome => rcases awakes with awakes | awakes <;> cases awakes

theorem Ledger.resolving {payload : Option Json} (ledger : Ledger board)
    (next : board.job = .createUnsubscribeTaskKey payload taskKey rid :: rest) :
    board.WorksOn rid [] ∧ rest = [] := by
  obtain ⟨_, _, works, stage⟩ := ledger.busy next
  cases stage with
  | resolving => exact ⟨works, rfl⟩
  | waking awakes outcome => rcases awakes with awakes | awakes <;> cases awakes

theorem Ledger.setting {type : RespondTableType} (ledger : Ledger board)
    (next : board.job = .respondTableSet type taskKey rid :: rest) :
    board.WorksOn rid [] ∧ rest = [] := by
  obtain ⟨_, _, works, stage⟩ := ledger.busy next
  cases stage with
  | setting => exact ⟨works, rfl⟩
  | waking awakes outcome => rcases awakes with awakes | awakes <;> cases awakes

theorem Ledger.registering (ledger : Ledger board)
    (next : board.job = .respondTableSetUnsubscribe taskKey rid :: rest) :
    ∃ task, board.WorksOn rid [.enqueued task] ∧ rest = [.commAwake] ∧
      task.rid = rid ∧ task.taskKey = taskKey ∧ task.type = .singleshot ∧
      task.unsubscribeTaskKey ≠ none := by
  obtain ⟨_, _, works, stage⟩ := ledger.busy next
  cases stage with
  | registering own key kind drops => exact ⟨_, works, rfl, own, key, kind, drops⟩
  | waking awakes outcome => rcases awakes with awakes | awakes <;> cases awakes

/-- A task is queued before an unsubscription is registered and after any other
request is. -/
theorem Ledger.queueing {task : ParseQueueTask} (ledger : Ledger board)
    (next : board.job = .parseQueueAppend task :: rest) :
    (board.WorksOn task.rid [] ∧ task.type = .singleshot ∧ task.unsubscribeTaskKey ≠ none ∧
      rest = [.respondTableSetUnsubscribe task.taskKey task.rid, .commAwake]) ∨
    (board.WorksOn task.rid [.registered task.type task.taskKey task.rid false] ∧
      task.unsubscribeTaskKey = none ∧ rest = [.commAwake]) := by
  obtain ⟨_, _, works, stage⟩ := ledger.busy next
  cases stage with
  | accepted own key kind drops =>
      subst own key
      exact Or.inl ⟨works, kind, drops, rfl⟩
  | queueing own key kind normal =>
      subst own key kind
      exact Or.inr ⟨works, normal, rfl⟩
  | waking awakes outcome => rcases awakes with awakes | awakes <;> cases awakes

theorem Ledger.waking {op : ChannelOp} (ledger : Ledger board)
    (next : board.job = op :: rest) (awakes : op = .subscribeAwake ∨ op = .commAwake) :
    ∃ rid known, board.WorksOn rid known ∧ Outcome rid known ∧ rest = [] := by
  obtain ⟨rid, known, works, stage⟩ := ledger.busy next
  refine ⟨rid, known, works, ?_⟩
  rcases awakes with rfl | rfl <;> cases stage with
  | waking awakes outcome => exact ⟨outcome, rfl⟩

end Working

/-- The channel thread registers and queues under the id it works on. -/
private theorem ledger_channel {env : Environment} {before after : Board}
    (tasks : TasksSound env before)
    (step : BoardStep env before .channel after) (ledger : Ledger before) :
    Ledger after := by
  have singleKept : ∀ event taskKey rid, rid ∈ before.singleshot.uuids taskKey →
      ∃ unsubscribe, .registered .singleshot taskKey rid unsubscribe ∈
        event :: before.history := by
    intro event taskKey rid member
    obtain ⟨unsubscribe, registered⟩ := ledger.singleshot taskKey rid member
    exact ⟨unsubscribe, List.mem_cons_of_mem _ registered⟩
  have multiKept : ∀ event taskKey rid, rid ∈ before.multirespond.uuids taskKey →
      .registered .multirespond taskKey rid false ∈ event :: before.history := by
    intro event taskKey rid member
    exact List.mem_cons_of_mem _ (ledger.multirespond taskKey rid member)
  -- an id newly listed in the single-shot table has just been registered
  have singleSet : ∀ named key unsubscribe taskKey rid,
      rid ∈ (before.singleshot.set key named).2.uuids taskKey →
      ∃ flag, .registered .singleshot taskKey rid flag ∈
        .registered .singleshot key named unsubscribe :: before.history := by
    intro named key unsubscribe taskKey rid member
    rcases RespondTable.mem_uuids_set.mp member with old | ⟨rfl, rfl⟩
    · exact singleKept _ taskKey rid old
    · exact ⟨unsubscribe, List.mem_cons_self⟩
  cases step with
  | crash => exact ledger.same rfl rfl rfl rfl
  | reject next =>
      obtain ⟨works, rfl⟩ := ledger.refusing next
      exact ledger.record works rfl (by simp [Event.effectOn])
        (.waking (Or.inl rfl) (.rejected _)) (singleKept _) (multiKept _)
  | channelAwake next awakes =>
      obtain ⟨rid, known, works, outcome, rfl⟩ := ledger.waking next awakes
      exact ledger.proceed works rfl (Or.inr ⟨rfl, outcome⟩) rfl rfl
  | refuse next refused =>
      obtain ⟨works, rfl⟩ := ledger.resolving next
      exact ledger.proceed works rfl (Or.inl (.refusing _)) rfl rfl
  | accept next resolved =>
      have present := (createUnsubscribeTaskKey_ok resolved).2
      have keyNonempty := tasks.listed _ _ present
      obtain ⟨works, rfl⟩ := ledger.resolving next
      refine ledger.proceed works rfl (Or.inl ?_) rfl rfl
      refine .accepted rfl rfl (by simp [parseQueueTask]) ?_
      simp [parseQueueTask, Option.filter, keyNonempty]
  | subscribed next new =>
      obtain ⟨works, rfl⟩ := ledger.setting next
      refine ledger.record works rfl (by simp [Event.effectOn])
        (.queueing rfl rfl (by simp [parseQueueTask]) rfl) (singleKept _) ?_
      intro other named listed
      rcases RespondTable.mem_uuids_set.mp listed with old | ⟨rfl, rfl⟩
      · exact multiKept _ other named old
      · exact List.mem_cons_self
  | subscribedBefore next old =>
      -- a listed id has been registered, so it is not at this stage
      obtain ⟨works, _⟩ := ledger.setting next
      have registered := ledger.multirespond _ _ old
      have effect := mem_effects_iff.mpr ⟨registered, beq_self_eq_true _⟩
      rw [works.soFar] at effect
      cases effect
  | registered next =>
      obtain ⟨works, rfl⟩ := ledger.setting next
      exact ledger.record works rfl (by simp [Event.effectOn])
        (.queueing rfl rfl (by simp [parseQueueTask]) rfl) (singleSet _ _ _) (multiKept _)
  | registeredUnsubscribe next =>
      obtain ⟨task, works, rfl, own, key, kind, drops⟩ := ledger.registering next
      exact ledger.record works rfl (by simp [Event.effectOn])
        (.waking (Or.inr rfl) (.unsubscribed own key kind drops))
        (singleSet _ _ _) (multiKept _)
  | enqueue next =>
      rcases ledger.queueing next with ⟨works, kind, drops, rfl⟩ | ⟨works, normal, rfl⟩
      · exact ledger.record works rfl (by simp [Event.effectOn])
          (.registering rfl rfl kind drops) (singleKept _) (multiKept _)
      · exact ledger.record works rfl (by simp [Event.effectOn])
          (.waking (Or.inr rfl) (.queued rfl rfl rfl normal)) (singleKept _) (multiKept _)

/-- The comm thread records no effect; it removes ids from the multi-respond
table only. -/
private theorem ledger_comm {env : Environment} {before after : Board}
    {input : CommInput} (step : BoardStep env before (.comm input) after)
    (ledger : Ledger before) : Ledger after := by
  have recorded : ∀ event : Event, before.history ⊆ event :: before.history :=
    fun event => List.subset_cons_self event before.history
  cases step with
  | dequeue free head =>
      exact ledger.frame rfl rfl (fun _ => rfl) (recorded _)
        (fun _ _ member => member) (fun _ _ member => member)
  | dropLast next drops present last clears =>
      exact ledger.frame rfl rfl (fun _ => rfl) (recorded _)
        (fun _ _ member => member)
        (fun _ _ member => (RespondTable.mem_uuids_drop.mp member).1)
  | dropQuiet next drops present quiet =>
      exact ledger.frame rfl rfl (fun _ => rfl) (recorded _)
        (fun _ _ member => member)
        (fun _ _ member => (RespondTable.mem_uuids_drop.mp member).1)
  | clear next built =>
      exact ledger.frame rfl rfl (fun _ => rfl) (recorded _)
        (fun _ _ member => member) (fun _ _ member => member)
  | run next built normal =>
      exact ledger.frame rfl rfl (fun _ => rfl) (recorded _)
        (fun _ _ member => member) (fun _ _ member => member)
  | _ => exact ledger.same rfl rfl rfl rfl

/-- A reply call records no effect; it removes ids from the single-shot table
only. -/
private theorem ledger_reply {env : Environment} {before after : Board}
    {index : Nat} (step : BoardStep env before (.reply index) after)
    (ledger : Ledger before) : Ledger after := by
  cases step with
  | dropRecipient there position =>
      exact ledger.frame rfl rfl (fun _ => rfl) (List.Subset.refl _)
        (fun _ _ member => (RespondTable.mem_uuids_drop.mp member).1)
        (fun _ _ member => member)
  | append there position =>
      exact ledger.frame rfl rfl (fun _ => rfl) (List.subset_cons_self _ _)
        (fun _ _ member => member) (fun _ _ member => member)
  | _ => exact ledger.same rfl rfl rfl rfl

/-- With distinct request ids every move keeps the ledger. -/
theorem ledger_step {env : Environment} {before after : Board} {action : Move}
    (tasks : TasksSound env before) (step : BoardStep env before action after)
    (fresh : before.Fresh action) (ledger : Ledger before) : Ledger after := by
  cases action with
  | confirm exchange rid =>
      cases step with
      | confirm idle => exact ledger_confirm ledger idle fresh
      | crash => exact ledger.same rfl rfl rfl rfl
  | channel => exact ledger_channel tasks step ledger
  | comm input => exact ledger_comm step ledger
  | reply index => exact ledger_reply step ledger
  | proxyReply arg headers payload =>
      cases step <;> exact ledger.same rfl rfl rfl rfl
  | channelCrash =>
      cases step
      exact ledger.same rfl rfl rfl rfl

/-! ## What the ledger says about an id -/

namespace Ledger

/-- The effects of an id contain at most one registration. -/
private theorem registered_unique_of_stage {rid : String} {known : List Event}
    (stage : Outcome rid known ∨ ∃ job, JobStage rid job known)
    {type otherType : RespondTableType} {taskKey otherKey : String}
    {unsubscribe otherUnsubscribe : Bool}
    (left : .registered type taskKey rid unsubscribe ∈ known)
    (right : .registered otherType otherKey rid otherUnsubscribe ∈ known) :
    type = otherType ∧ taskKey = otherKey ∧ unsubscribe = otherUnsubscribe := by
  have settled : Outcome rid known →
      type = otherType ∧ taskKey = otherKey ∧ unsubscribe = otherUnsubscribe := by
    intro outcome
    cases outcome <;> simp_all
  rcases stage with outcome | ⟨job, stage⟩
  · exact settled outcome
  · cases stage with
    | waking awakes outcome => exact settled outcome
    | queueing own key kind normal => simp_all
    | _ => simp_all

/-- An id is registered at most once, in one table and under one key. -/
theorem registered_unique {board : Board} (ledger : Ledger board) {rid : String}
    {type otherType : RespondTableType} {taskKey otherKey : String}
    {unsubscribe otherUnsubscribe : Bool}
    (left : .registered type taskKey rid unsubscribe ∈ board.history)
    (right : .registered otherType otherKey rid otherUnsubscribe ∈ board.history) :
    type = otherType ∧ taskKey = otherKey ∧ unsubscribe = otherUnsubscribe := by
  have leftEffect := mem_effects_iff.mpr ⟨left, beq_self_eq_true rid⟩
  have rightEffect := mem_effects_iff.mpr ⟨right, beq_self_eq_true rid⟩
  have member : rid ∈ board.confirmed := by
    by_contra absent
    rw [ledger.untouched rid absent] at leftEffect
    cases leftEffect
  apply registered_unique_of_stage ?_ leftEffect rightEffect
  cases ledger.progress with
  | idle free settled => exact Or.inl (settled rid member)
  | busy current currentMember stage settled =>
      by_cases same : rid = current
      · exact Or.inr ⟨_, same ▸ stage⟩
      · exact Or.inl (settled rid member same)

end Ledger

end Sawang
