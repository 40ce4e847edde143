import Sawang.Board.Circulation
import Sawang.Board.Tasks
import Sawang.RespondTable.Reference

/-!
# The trace of the respond tables

Each move of the board sets or drops one uuid at most.  The trace of these calls,
newest first, tells who is listed: the last call that names a uuid under a key
registered it.  Whoever is to be dropped was registered before.
-/

namespace Sawang

deriving instance DecidableEq for TableCall

/-- The call sets or drops the uuid under the key. -/
def TableCall.names (which : RespondTableType) (taskKey requestUuid : String)
    (call : TableCall) : Bool :=
  call = .set which taskKey requestUuid ∨ call = .drop which taskKey requestUuid

/-- The last call that names the uuid under the key. -/
def lastNaming (trace : List TableCall) (which : RespondTableType)
    (taskKey requestUuid : String) : Option TableCall :=
  trace.find? fun call => call.names which taskKey requestUuid

namespace Waiting

theorem mem_after_set {waiting : Waiting} {which other : RespondTableType}
    {taskKey otherKey requestUuid uuid : String} :
    uuid ∈ waiting.after (.set which taskKey requestUuid) other otherKey ↔
      uuid ∈ waiting other otherKey ∨
        (other = which ∧ otherKey = taskKey ∧ uuid = requestUuid) := by
  by_cases member : requestUuid ∈ waiting which taskKey
  · rw [after, if_pos member]
    constructor
    · exact Or.inl
    · rintro (old | ⟨rfl, rfl, rfl⟩)
      · exact old
      · exact member
  · rw [after, if_neg member, put_apply]
    by_cases here : other = which ∧ otherKey = taskKey
    · obtain ⟨rfl, rfl⟩ := here
      simp
    · rw [if_neg here]
      exact (or_iff_left fun new => here ⟨new.1, new.2.1⟩).symm

theorem mem_after_drop {waiting : Waiting} {which other : RespondTableType}
    {taskKey otherKey requestUuid uuid : String} :
    uuid ∈ waiting.after (.drop which taskKey requestUuid) other otherKey ↔
      uuid ∈ waiting other otherKey ∧
        ¬(other = which ∧ otherKey = taskKey ∧ uuid = requestUuid) := by
  rw [after, put_apply]
  by_cases here : other = which ∧ otherKey = taskKey
  · obtain ⟨rfl, rfl⟩ := here
    simp
  · rw [if_neg here]
    exact (and_iff_left fun gone => here ⟨gone.1, gone.2.1⟩).symm

theorem after_drop_absent {waiting : Waiting} {which : RespondTableType}
    {taskKey requestUuid : String} (absent : requestUuid ∉ waiting which taskKey) :
    waiting.after (.drop which taskKey requestUuid) = waiting := by
  have kept : (waiting which taskKey).filter (· ≠ requestUuid) = waiting which taskKey := by
    rw [List.filter_eq_self]
    intro uuid member
    rw [decide_eq_true_eq]
    rintro rfl
    exact absent member
  funext other otherKey
  rw [after, kept, put_apply]
  by_cases here : other = which ∧ otherKey = taskKey
  · rw [if_pos here, here.1, here.2]
  · rw [if_neg here]

/-- Listed are those whose last call registered them. -/
def Recalls (waiting : Waiting) (trace : List TableCall) : Prop :=
  ∀ which taskKey uuid, uuid ∈ waiting which taskKey ↔
    lastNaming trace which taskKey uuid = some (.set which taskKey uuid)

theorem recalls_nobody : nobody.Recalls [] := by
  intro which taskKey uuid
  exact iff_of_false List.not_mem_nil (by simp [lastNaming])

theorem Recalls.set {waiting : Waiting} {trace : List TableCall} (recalls : waiting.Recalls trace)
    (which : RespondTableType) (taskKey requestUuid : String) :
    (waiting.after (.set which taskKey requestUuid)).Recalls
      (.set which taskKey requestUuid :: trace) := by
  intro other otherKey uuid
  rw [mem_after_set, recalls]
  unfold lastNaming TableCall.names
  by_cases same : which = other ∧ taskKey = otherKey ∧ requestUuid = uuid
  · obtain ⟨rfl, rfl, rfl⟩ := same
    simp
  · have elsewhere : ¬(other = which ∧ otherKey = taskKey ∧ uuid = requestUuid) := by
      rintro ⟨rfl, rfl, rfl⟩
      exact same ⟨rfl, rfl, rfl⟩
    simp [same, elsewhere]

theorem Recalls.drop {waiting : Waiting} {trace : List TableCall}
    (recalls : waiting.Recalls trace) (which : RespondTableType) (taskKey requestUuid : String) :
    (waiting.after (.drop which taskKey requestUuid)).Recalls
      (.drop which taskKey requestUuid :: trace) := by
  intro other otherKey uuid
  rw [mem_after_drop, recalls]
  unfold lastNaming TableCall.names
  by_cases same : which = other ∧ taskKey = otherKey ∧ requestUuid = uuid
  · obtain ⟨rfl, rfl, rfl⟩ := same
    simp
  · have elsewhere : ¬(other = which ∧ otherKey = taskKey ∧ uuid = requestUuid) := by
      rintro ⟨rfl, rfl, rfl⟩
      exact same ⟨rfl, rfl, rfl⟩
    simp [same, elsewhere]

end Waiting

namespace Board

def tables (board : Board) : RespondTables where
  singleshotTable := board.singleshot
  multirespondTable := board.multirespond

/-- The call that a move makes to set or drop a uuid. -/
def tableCall (env : Environment) (board : Board) : Move → Option TableCall
  | .channel =>
      match board.job with
      | .respondTableSet type taskKey rid :: _ => some (.set type taskKey rid)
      | .respondTableSetUnsubscribe taskKey rid :: _ => some (.set .singleshot taskKey rid)
      | _ => none
  | .comm _ =>
      match board.work with
      | .unsubscribe _ taskKey uuid :: _ =>
          (proxyCommCreateReplyArg env taskKey).map fun _ => .drop .multirespond taskKey uuid
      | .respondTableDrop taskKey uuid :: _ => some (.drop .multirespond taskKey uuid)
      | _ => none
  | .reply index =>
      match board.calls[index]? with
      | some call =>
          match call.position with
          | .drops _ (uuid :: _) => some (.drop .singleshot call.taskKey uuid)
          | _ => none
      | none => none
  | _ => none

variable {env : Environment} {before after : Board}

theorem set_or_drop_of_tableCall {board : Board} {action : Move} {call : TableCall}
    (called : board.tableCall env action = some call) :
    (∃ type taskKey rid, call = .set type taskKey rid) ∨
      ∃ type taskKey uuid, call = .drop type taskKey uuid := by
  cases action with
  | channel =>
      simp only [tableCall] at called
      split at called
      · cases called
        exact Or.inl ⟨_, _, _, rfl⟩
      · cases called
        exact Or.inl ⟨_, _, _, rfl⟩
      · cases called
  | comm input =>
      simp only [tableCall] at called
      split at called
      · obtain ⟨arg, _, rfl⟩ := Option.map_eq_some_iff.mp called
        exact Or.inr ⟨_, _, _, rfl⟩
      · cases called
        exact Or.inr ⟨_, _, _, rfl⟩
      · cases called
  | reply index =>
      simp only [tableCall] at called
      split at called
      · split at called
        · cases called
          exact Or.inr ⟨_, _, _, rfl⟩
        · cases called
      · cases called
  | _ => cases called

/-- A drop of the comm thread that does not crash is made. -/
theorem tableCall_of_drops {input : CommInput} {op : CommOp} {rest : List CommOp}
    {taskKey uuid : String} (moved : before.move env (.comm input) = some after)
    (running : after.crashed = false) (next : before.work = op :: rest)
    (drops : op.drops = some (taskKey, uuid)) :
    before.tableCall env (.comm input) = some (.drop .multirespond taskKey uuid) := by
  unfold move at moved
  split at moved
  · cases moved
  · simp only [next] at moved
    simp only [tableCall, next]
    cases op with
    | unsubscribe task key dropped =>
        cases drops
        dsimp only [commOp] at moved ⊢
        split at moved
        · rw [← Option.some.inj moved] at running
          cases running
        · rename_i arg built
          rw [built]
          rfl
    | respondTableDrop key dropped =>
        cases drops
        rfl
    | _ => cases drops

end Board

/-! ## Whoever is to be dropped was registered -/

def ParseQueueTask.Traced (trace : List TableCall) (task : ParseQueueTask) : Prop :=
  ∀ taskKey uuid, task.unsubscribeTaskKey = some taskKey → task.unsubscribeUuid = some uuid →
    .set .multirespond taskKey uuid ∈ trace

def ChannelOp.Traced (trace : List TableCall) : ChannelOp → Prop
  | .parseQueueAppend task => task.Traced trace
  | _ => True

def CommOp.Traced (trace : List TableCall) (op : CommOp) : Prop :=
  ∀ taskKey uuid, op.drops = some (taskKey, uuid) → .set .multirespond taskKey uuid ∈ trace

def ReplyCall.Traced (trace : List TableCall) (call : ReplyCall) : Prop :=
  ∀ rid rest, call.position = .drops rid rest →
    ∀ uuid ∈ rest, .set .singleshot call.taskKey uuid ∈ trace

namespace Board

structure Traced (trace : List TableCall) (board : Board) : Prop where
  job : ∀ op ∈ board.job, op.Traced trace
  queue : ∀ task ∈ board.parseQueue, task.Traced trace
  work : ∀ op ∈ board.work, op.Traced trace
  calls : ∀ call ∈ board.calls, call.Traced trace

theorem traced_initial : initial.Traced [] where
  job := by
    intro op member
    cases member
  queue := by
    intro task member
    cases member
  work := by
    intro op member
    cases member
  calls := by
    intro call member
    cases member

theorem Traced.cons {trace : List TableCall} {board : Board} (traced : board.Traced trace)
    (call : TableCall) : board.Traced (call :: trace) where
  job := by
    intro op member
    have own := traced.job op member
    cases op with
    | parseQueueAppend task =>
        exact fun taskKey uuid named dropped =>
          List.mem_cons_of_mem _ (own taskKey uuid named dropped)
    | _ => trivial
  queue := fun task member taskKey uuid named dropped =>
    List.mem_cons_of_mem _ (traced.queue task member taskKey uuid named dropped)
  work := fun op member taskKey uuid drops =>
    List.mem_cons_of_mem _ (traced.work op member taskKey uuid drops)
  calls := fun other member rid rest position uuid listed =>
    List.mem_cons_of_mem _ (traced.calls other member rid rest position uuid listed)

variable {env : Environment} {before after : Board} {trace : List TableCall}

/-- An operation that drops nothing. -/
private theorem traced_quiet {op : CommOp} (quiet : op.drops = none) : op.Traced trace := by
  intro taskKey uuid drops
  rw [quiet] at drops
  cases drops

private theorem traced_taskWork {task : ParseQueueTask} (traced : task.Traced trace) :
    ∀ op ∈ taskWork task, op.Traced trace := by
  unfold taskWork
  split
  · rename_i taskKey uuid _ named dropped
    refine forall_push ?_ (forall_push (traced_quiet rfl) (List.forall_mem_nil _))
    intro key other drops
    cases drops
    exact traced taskKey uuid named dropped
  · exact forall_push (traced_quiet rfl) (List.forall_mem_nil _)

private theorem traced_normal (taskKey rid : String) (type : RespondTableType) :
    (parseQueueTask taskKey none none type rid).Traced trace := by
  intro key uuid named
  cases named

private theorem traced_unsubscribe {taskKey rid unsubscribeTaskKey unsubscribeUuid : String}
    {type : RespondTableType}
    (registered : .set .multirespond unsubscribeTaskKey unsubscribeUuid ∈ trace) :
    (parseQueueTask taskKey (some unsubscribeTaskKey) (some unsubscribeUuid) type rid).Traced
      trace := by
  intro key uuid named dropped
  have keptKey : (some unsubscribeTaskKey).filter (· ≠ "") = some key := named
  have keptUuid : (some unsubscribeUuid).filter (· ≠ "") = some uuid := dropped
  rw [← Option.some.inj (Option.filter_eq_some_iff.mp keptKey).1,
    ← Option.some.inj (Option.filter_eq_some_iff.mp keptUuid).1]
  exact registered

private theorem traced_handsOn {action : Move}
    (listed : ∀ taskKey uuid, uuid ∈ before.multirespond.uuids taskKey →
      .set .multirespond taskKey uuid ∈ trace) :
    HandsOn env (ChannelOp.Traced trace) (ParseQueueTask.Traced trace) (CommOp.Traced trace)
      before action where
  starts := by
    intro exchange rid _
    unfold exchangeJob
    split
    · simp [ChannelOp.Traced]
    · split <;> simp [ChannelOp.Traced]
  replies := fun _ _ => trivial
  awakes := ⟨trivial, trivial⟩
  registers := fun type taskKey rid _ => traced_normal taskKey rid type
  resolves := by
    intro payload taskKey rid rest unsubscribeTaskKey unsubscribeUuid _ next resolved _
    have registered := listed _ _ (createUnsubscribeTaskKey_ok resolved).2
    exact ⟨traced_unsubscribe registered, trivial⟩
  enqueues := fun _ task => task
  dequeues := fun _ task => traced_taskWork task
  calls := ⟨traced_quiet rfl, fun _ => traced_quiet rfl⟩
  lists := fun _ => traced_quiet rfl
  finds := by
    intro uuid taskKey resolved key other drops
    cases drops
    exact listed _ _ (RespondTable.mem_of_dupTaskKey_eq_some resolved)
  clears := fun _ _ _ _ _ => traced_quiet rfl

/-- A call that has not looked anything up yet drops nothing. -/
private theorem traced_replyCall {arg : ProxyReplyArg} {headers payload : Option Json}
    {confirms : Option ParseQueueTask} (calls : ∀ call ∈ before.calls, call.Traced trace) :
    ∀ call ∈ before.calls ++ [replyCall env arg headers payload confirms],
      call.Traced trace := by
  intro call member
  rcases List.mem_append.mp member with old | new
  · exact calls call old
  · rw [List.mem_singleton.mp new]
    intro rid rest position
    cases position

/-- A call among the others that moves on. -/
private theorem traced_set {index : Nat} {call : ReplyCall}
    (calls : ∀ other ∈ before.calls, other.Traced trace) (moved : call.Traced trace) :
    ∀ other ∈ before.calls.set index call, other.Traced trace := by
  intro other member
  rcases List.mem_or_eq_of_mem_set member with old | rfl
  · exact calls other old
  · exact moved

/-- The calls after a move. -/
private theorem traced_calls {action : Move} (calls : ∀ call ∈ before.calls, call.Traced trace)
    (listed : ∀ taskKey uuid, uuid ∈ before.singleshot.uuids taskKey →
      .set .singleshot taskKey uuid ∈ trace)
    (step : BoardStep env before action after) : ∀ call ∈ after.calls, call.Traced trace := by
  cases step with
  | confirmCall next built => exact traced_replyCall calls
  | callbackReply next => exact traced_replyCall calls
  | proxyReply => exact traced_replyCall calls
  | foundSingleshot there position present =>
      refine traced_set calls ?_
      intro rid rest found uuid member
      simp only [ReplyCall.found] at found
      split at found
      · simp only [if_true, ReplyPosition.drops.injEq] at found
        rw [← found.2] at member
        exact listed _ uuid member
      · split at found <;> cases found
  | foundMultirespond there position present =>
      refine traced_set calls ?_
      intro rid rest found
      simp only [ReplyCall.found] at found
      split at found
      · cases found
      · split at found <;> cases found
  | advance there passes =>
      refine traced_set calls ?_
      intro rid rest found
      rcases passes with ⟨_, rfl, _⟩ | ⟨_, rfl, _⟩ | ⟨_, _, rfl⟩ | ⟨_, rfl⟩ <;> cases found
  | @dropRecipient _ call uuid rid rest there position =>
      have own := calls call (List.mem_of_getElem? there)
      refine traced_set calls ?_
      intro others left found other member
      cases found
      exact own rid (uuid :: rest) position other (List.mem_cons_of_mem _ member)
  | append there position =>
      refine traced_set calls ?_
      intro rid rest found
      cases found
  | _ => exact calls

theorem traced_step {action : Move} (traced : before.Traced trace)
    (listed : ∀ which taskKey uuid, uuid ∈ before.tables.waiting which taskKey →
      .set which taskKey uuid ∈ trace)
    (step : BoardStep env before action after) : after.Traced trace := by
  have circulates := circulates_step (traced_handsOn (listed .multirespond)) step
    ⟨traced.job, traced.queue, traced.work⟩
  exact {
    job := circulates.job
    queue := circulates.queue
    work := circulates.work
    calls := traced_calls traced.calls (listed .singleshot) step }

/-! ## The trace of a move -/

/-- A move changes the lists as the call that it makes. -/
theorem waiting_move {action : Move} (moved : before.move env action = some after)
    (running : after.crashed = false) :
    after.tables.waiting =
      match before.tableCall env action with
      | none => before.tables.waiting
      | some call => before.tables.waiting.after call := by
  have set (type : RespondTableType) (taskKey rid : String) :=
    before.tables.waiting_set type taskKey rid
  have drop (type : RespondTableType) (taskKey rid : String) :=
    before.tables.waiting_drop type taskKey rid
  have step := boardStep_of_move moved
  cases step with
  | crash may => cases running
  | subscribed next new =>
      simp only [tableCall, next]
      exact set .multirespond _ _
  | subscribedBefore next old =>
      simp only [tableCall, next]
      have unchanged : before.tables.waiting.after (.set .multirespond _ _) =
          before.tables.waiting := if_pos old
      exact unchanged.symm
  | registered next =>
      simp only [tableCall, next]
      exact set .singleshot _ _
  | registeredUnsubscribe next =>
      simp only [tableCall, next]
      exact set .singleshot _ _
  | dropLast next drops present last clears =>
      rw [tableCall_of_drops moved running next drops]
      exact drop .multirespond _ _
  | dropQuiet next drops present several =>
      rw [tableCall_of_drops moved running next drops]
      exact drop .multirespond _ _
  | dropAbsent next drops absent =>
      rw [tableCall_of_drops moved running next drops]
      exact (Waiting.after_drop_absent absent).symm
  | dropRecipient there position =>
      simp only [tableCall, there, position]
      exact drop .singleshot _ _
  | channelAwake next awakes =>
      rcases awakes with rfl | rfl <;> simp only [tableCall, next] <;> rfl
  | advance there passes =>
      rcases passes with ⟨from_, _⟩ | ⟨from_, _⟩ | ⟨_, from_, _⟩ | ⟨from_, _⟩ <;>
        simp only [tableCall, there, from_] <;> rfl
  | foundSingleshot there position present =>
      simp only [tableCall, there, position]
      rfl
  | foundMultirespond there position present =>
      simp only [tableCall, there, position]
      rfl
  | append there position =>
      simp only [tableCall, there, position]
      rfl
  | dequeue free head =>
      simp only [tableCall, free]
      rfl
  | confirm idle => rfl
  | proxyReply => rfl
  | reject next | refuse next refused | accept next resolved | enqueue next | clear next built
  | confirmCall next built | awaited next there finished | run next built normal
  | runDrop next built drops | callbackReturn next | callbackReply next | requestUnknown next
  | requestFound next resolved =>
      simp only [tableCall, next]
      rfl

/-- The trace goes on telling who is listed. -/
theorem recalls_move {action : Move} (recalls : before.tables.waiting.Recalls trace)
    (moved : before.move env action = some after) (running : after.crashed = false) :
    after.tables.waiting.Recalls ((before.tableCall env action).toList ++ trace) := by
  rw [waiting_move moved running]
  cases called : before.tableCall env action with
  | none => exact recalls
  | some call =>
      rcases set_or_drop_of_tableCall called with
        ⟨type, taskKey, rid, rfl⟩ | ⟨type, taskKey, uuid, rfl⟩
      · exact recalls.set type taskKey rid
      · exact recalls.drop type taskKey uuid

/-! ## Drops of what is there -/

/-- The last call that names the uuid of a drop is not a drop itself, or there is
another uuid under the key. -/
def Undropped (trace : List TableCall) (board : Board) : TableCall → Prop
  | .drop which taskKey uuid =>
      lastNaming trace which taskKey uuid ≠ some (.drop which taskKey uuid) ∨
        ∃ other ∈ board.tables.waiting which taskKey, other ≠ uuid
  | _ => True

instance (trace : List TableCall) (board : Board) (call : TableCall) :
    Decidable (board.Undropped trace call) :=
  match call with
  | .drop _ _ _ => inferInstanceAs (Decidable (_ ∨ ∃ _ ∈ _, _))
  | .set _ _ _ | .remove _ _ | .requestDup _ _ | .dupTaskKey _ _ | .taskExists _ _
  | .requestExists _ _ _ => isTrue trivial

/-- The call drops from a key that is not in its table: `respond_table_drop_do` searches
the NULL array. -/
def misses (board : Board) : TableCall → Bool
  | .drop which taskKey _ => !(board.tables.which which).taskExists taskKey
  | _ => false

/-- Whoever is to be dropped was registered. -/
theorem set_mem_of_drop {action : Move} {which : RespondTableType} {taskKey uuid : String}
    (traced : before.Traced trace)
    (called : before.tableCall env action = some (.drop which taskKey uuid)) :
    .set which taskKey uuid ∈ trace := by
  cases action with
  | channel =>
      simp only [tableCall] at called
      split at called <;> cases called
  | comm input =>
      simp only [tableCall] at called
      split at called
      · rename_i task key dropped rest next
        obtain ⟨arg, _, same⟩ := Option.map_eq_some_iff.mp called
        cases same
        exact (forall_head_tail traced.work next).1 _ _ rfl
      · rename_i key dropped rest next
        cases called
        exact (forall_head_tail traced.work next).1 _ _ rfl
      · cases called
  | reply index =>
      simp only [tableCall] at called
      split at called
      · rename_i call there
        split at called
        · rename_i rid first rest position
          cases called
          exact traced.calls call (List.mem_of_getElem? there) _ _ position _ List.mem_cons_self
        · cases called
      · cases called
  | _ => cases called

/-- The last call that names a registered uuid registered it, unless it dropped it. -/
theorem lastNaming_of_set_mem {which : RespondTableType} {taskKey uuid : String}
    (registered : .set which taskKey uuid ∈ trace)
    (undropped : lastNaming trace which taskKey uuid ≠ some (.drop which taskKey uuid)) :
    lastNaming trace which taskKey uuid = some (.set which taskKey uuid) := by
  cases last : lastNaming trace which taskKey uuid with
  | none =>
      have unnamed := List.find?_eq_none.mp last _ registered
      simp [TableCall.names] at unnamed
  | some call =>
      have named := List.find?_some last
      simp only [TableCall.names, decide_eq_true_eq] at named
      rcases named with rfl | rfl
      · rfl
      · exact absurd last undropped

/-- A drop hits a key of its table just if its uuid was not dropped before, or another
one is left. -/
theorem misses_eq_false_iff {action : Move} {call : TableCall} (traced : before.Traced trace)
    (recalls : before.tables.waiting.Recalls trace)
    (called : before.tableCall env action = some call) :
    before.misses call = false ↔ before.Undropped trace call := by
  cases call with
  | drop which taskKey uuid =>
      have listed : before.misses (.drop which taskKey uuid) = false ↔
          before.tables.waiting which taskKey ≠ [] := by
        unfold misses
        dsimp only
        rw [RespondTable.taskExists_eq]
        simp [RespondTables.waiting]
      rw [listed]
      unfold Undropped
      constructor
      · intro some
        obtain ⟨other, member⟩ := List.exists_mem_of_ne_nil _ some
        by_cases same : other = uuid
        · subst same
          left
          rw [(recalls which taskKey other).mp member]
          simp
        · exact Or.inr ⟨other, member, same⟩
      · rintro (undropped | ⟨other, member, _⟩)
        · have registered := set_mem_of_drop traced called
          have last := lastNaming_of_set_mem registered undropped
          exact List.ne_nil_of_mem ((recalls which taskKey uuid).mpr last)
        · exact List.ne_nil_of_mem member
  | _ => exact iff_of_true rfl trivial

end Board

end Sawang
