import Sawang.Board.Calls
import Sawang.Lifecycle

/-!
# The board follows the life cycle

Forgetting who does what, a move of the board is a step of the life cycle: the
channel thread registers and queues, the comm thread serves.
-/

namespace Sawang

open Board

/-- The task an operation of the channel thread is about to queue. -/
def ChannelOp.task : ChannelOp → Option ParseQueueTask
  | .parseQueueAppend task => some task
  | _ => none

/-- The popped task an operation of the comm thread is about to serve. -/
def CommOp.task : CommOp → Option ParseQueueTask
  | .unsubscribe task _ _ | .run task => some task
  | _ => none

def Event.lifecycle : Event → Option LifecycleEvent
  | .registered type taskKey rid false => some (.registered type taskKey rid)
  | .dropped taskKey uuid 0 => some (.emptied taskKey uuid)
  | .cleared taskKey arg => some (.cleared taskKey arg)
  | .ran task arg => some (.ran task arg)
  | _ => none

/-- Without a clear callback an emptied entry goes unreported. -/
def LifecycleEvent.reported (env : Environment) : LifecycleEvent → Bool
  | .emptied .. => env.hasMultirespondClear
  | _ => true

namespace Board

/-- From the task the comm thread has popped to the one the channel thread is
about to append. -/
def pending (board : Board) : List ParseQueueTask :=
  board.work.filterMap CommOp.task ++ board.parseQueue ++
    board.job.filterMap ChannelOp.task

/-- The key whose clear callback the comm thread invokes next. -/
def due (board : Board) : Option String :=
  match board.work with
  | .multirespondClear taskKey :: _ => some taskKey
  | _ => none

/-- Registrations, emptying drops and callbacks, newest first. -/
def chronicle (board : Board) : List LifecycleEvent :=
  board.history.filterMap Event.lifecycle

def events (env : Environment) (board : Board) : List LifecycleEvent :=
  board.chronicle.filter (LifecycleEvent.reported env)

theorem events_eq_chronicle {env : Environment} {board : Board}
    (clears : env.hasMultirespondClear = true) : board.events env = board.chronicle := by
  apply List.filter_eq_self.mpr
  intro event member
  cases event <;> simp [LifecycleEvent.reported, clears]

def lifecycle (env : Environment) (board : Board) : Lifecycle where
  pending := board.pending
  listed taskKey uuid := uuid ∈ board.multirespond.uuids taskKey
  due := board.due
  events := board.events env

end Board

private theorem exchangeJob_task (env : Environment) (exchange : Exchange)
    (rid : String) : (exchangeJob env exchange rid).filterMap ChannelOp.task = [] := by
  unfold exchangeJob
  split
  · rfl
  · split <;> rfl

/-- A popped task is what its statements serve, and no clear is due for it. -/
private theorem taskWork_task {env : Environment} {task : ParseQueueTask}
    (sound : TaskSound env task) :
    (taskWork task).filterMap CommOp.task = [task] ∧
      ∀ taskKey rest, taskWork task ≠ .multirespondClear taskKey :: rest := by
  rcases sound with ⟨normal, _⟩ | ⟨single, taskKey, uuid, named, dropped⟩
  · rw [taskWork_normal normal]
    exact ⟨rfl, by simp⟩
  · rw [taskWork_unsubscribe single named dropped]
    exact ⟨rfl, by simp⟩

/-- A drop is the first statement of a popped unsubscription. -/
theorem drop_stage {env : Environment} {board : Board} {op : CommOp}
    {rest : List CommOp} {taskKey uuid : String}
    (tasks : TasksSound env board) (next : board.work = op :: rest)
    (drops : op.drops = some (taskKey, uuid)) :
    ∃ task, task.Drops taskKey uuid ∧ op = .unsubscribe task taskKey uuid ∧
      rest = [.confirm task uuid] := by
  have stage := tasks.work
  rw [next] at stage
  cases stage <;> cases drops
  rename_i task single named dropped
  exact ⟨task, ⟨named, dropped⟩, rfl, rfl⟩

/-- A move that leaves tasks, entries and events alone. -/
private theorem lifecycle_same {env : Environment} {before after : Board}
    (pending : after.pending = before.pending)
    (multirespond : after.multirespond = before.multirespond)
    (due : after.due = before.due) (events : after.events env = before.events env) :
    LifecycleStep (proxyCommCreateReplyArg env) (before.lifecycle env)
      (after.lifecycle env) := by
  apply LifecycleStep.same
  unfold lifecycle
  rw [pending, multirespond, due, events]

theorem mem_chronicle_registered {board : Board} {type : RespondTableType}
    {taskKey rid : String} :
    .registered type taskKey rid ∈ board.chronicle ↔
      .registered type taskKey rid false ∈ board.history := by
  unfold chronicle
  rw [List.mem_filterMap]
  constructor
  · rintro ⟨event, member, seen⟩
    unfold Event.lifecycle at seen
    split at seen <;> cases seen
    exact member
  · intro member
    exact ⟨_, member, rfl⟩

theorem mem_events_registered {env : Environment} {board : Board}
    {type : RespondTableType} {taskKey rid : String} :
    .registered type taskKey rid ∈ board.events env ↔
      .registered type taskKey rid false ∈ board.history := by
  unfold events
  rw [List.mem_filter, mem_chronicle_registered]
  exact and_iff_left rfl

/-- An id without effects has not registered. -/
private theorem not_registered {env : Environment} {board : Board} {rid : String}
    (untouched : effects rid board.history = [])
    (type : RespondTableType) (taskKey : String) :
    .registered type taskKey rid ∉ board.events env := by
  intro member
  have recorded := mem_events_registered.mp member
  have effect := mem_effects_iff.mpr ⟨recorded, beq_self_eq_true rid⟩
  rw [untouched] at effect
  cases effect

private theorem drops_parseQueueTask {unsubscribeTaskKey unsubscribeUuid : String}
    (taskKey rid : String) (keyNonempty : unsubscribeTaskKey ≠ "")
    (uuidNonempty : unsubscribeUuid ≠ "") :
    (parseQueueTask taskKey (some unsubscribeTaskKey) (some unsubscribeUuid)
      .singleshot rid).Drops unsubscribeTaskKey unsubscribeUuid := by
  constructor
  · simp [parseQueueTask, Option.filter, keyNonempty]
  · simp [parseQueueTask, Option.filter, uuidNonempty]

private theorem lifecycle_channel {env : Environment} {before after : Board}
    (wellformed : Wellformed env before) (step : BoardStep env before .channel after) :
    LifecycleStep (proxyCommCreateReplyArg env) (before.lifecycle env)
      (after.lifecycle env) := by
  have ledger := wellformed.ledger
  -- what the channel thread finishes without queueing keeps the pending tasks
  have finished : ∀ {op : ChannelOp} {rest job : List ChannelOp},
      before.job = op :: rest →
      job.filterMap ChannelOp.task = (op :: rest).filterMap ChannelOp.task →
      before.work.filterMap CommOp.task ++ before.parseQueue ++
        job.filterMap ChannelOp.task = before.pending := by
    intro op rest job next tasks
    rw [tasks, ← next]
    rfl
  cases step with
  | crash => exact lifecycle_same rfl rfl rfl rfl
  | reject next => exact lifecycle_same (finished next rfl) rfl rfl rfl
  | channelAwake next awakes =>
      refine lifecycle_same (finished next ?_) rfl rfl rfl
      rcases awakes with rfl | rfl <;> rfl
  | refuse next refused => exact lifecycle_same (finished next rfl) rfl rfl rfl
  | subscribedBefore next old => exact lifecycle_same (finished next rfl) rfl rfl rfl
  | registeredUnsubscribe next => exact lifecycle_same (finished next rfl) rfl rfl rfl
  | enqueue next =>
      refine lifecycle_same ?_ rfl rfl rfl
      simp [pending, record, next, ChannelOp.task]
  | accept next resolved =>
      rename_i payload taskKey rid rest unsubscribeTaskKey unsubscribeUuid
      obtain ⟨_, rfl⟩ := ledger.resolving next
      obtain ⟨uuidNonempty, present⟩ := createUnsubscribeTaskKey_ok resolved
      have keyNonempty := wellformed.tasks.listed _ _ present
      have drops := drops_parseQueueTask taskKey rid keyNonempty uuidNonempty
      refine .unsubscribe _ _ _ drops present ?_ rfl rfl rfl
      simp [lifecycle, pending, next, List.filterMap_cons, ChannelOp.task]
  | subscribed next new =>
      obtain ⟨works, rfl⟩ := ledger.setting next
      refine .register .multirespond _ _ (not_registered works.soFar _ _) ?_ ?_ rfl rfl
      · simp [lifecycle, pending, record, next, List.filterMap_cons, ChannelOp.task]
      · intro key uuid
        simpa [lifecycle, record] using RespondTable.mem_uuids_set
  | registered next =>
      obtain ⟨works, rfl⟩ := ledger.setting next
      refine .register .singleshot _ _ (not_registered works.soFar _ _) ?_ ?_ rfl rfl
      · simp [lifecycle, pending, record, next, List.filterMap_cons, ChannelOp.task]
      · intro key uuid
        simp [lifecycle, record]

private theorem lifecycle_comm {env : Environment} {before after : Board}
    {input : CommInput} (wellformed : Wellformed env before)
    (step : BoardStep env before (.comm input) after) :
    LifecycleStep (proxyCommCreateReplyArg env) (before.lifecycle env)
      (after.lifecycle env) := by
  have tasks := wellformed.tasks
  have stage := tasks.work
  cases step with
  | crash => exact lifecycle_same rfl rfl rfl rfl
  | dequeue free head =>
      have sound := tasks.queue _ (head ▸ List.mem_cons_self)
      obtain ⟨served, notClearing⟩ := taskWork_task sound
      refine lifecycle_same ?_ rfl ?_ rfl
      · simp [pending, record, free, head, served]
      · simp [due, record, free]
  | dropAbsent next drops absent =>
      obtain ⟨task, taskDrops, rfl, rfl⟩ := drop_stage tasks next drops
      refine .drop task _ _ taskDrops ?_ ?_ ?_ rfl rfl
      · simp [lifecycle, due, next]
      · simp [lifecycle, pending, next, List.filterMap_cons, CommOp.task]
      · intro key other
        constructor
        · intro member
          refine ⟨member, ?_⟩
          rintro ⟨rfl, rfl⟩
          exact absent member
        · exact And.left
  | dropLast next drops present last clears =>
      obtain ⟨task, taskDrops, rfl, rfl⟩ := drop_stage tasks next drops
      refine .dropLast task _ _ taskDrops ?_ ?_ present ?_ ?_ rfl ?_
      · simp [lifecycle, due, next]
      · simp [lifecycle, pending, record, next, List.filterMap_cons, CommOp.task]
      · intro key other
        exact RespondTable.mem_uuids_drop
      · intro other member
        simp only [lifecycle, record, RespondTable.uuids_drop, if_true, last] at member
        cases member
      · simp [lifecycle, events, chronicle, record, Event.lifecycle,
          LifecycleEvent.reported, clears]
  | dropQuiet next drops present quiet =>
      obtain ⟨task, taskDrops, rfl, rfl⟩ := drop_stage tasks next drops
      refine .drop task _ _ taskDrops ?_ ?_ ?_ rfl ?_
      · simp [lifecycle, due, next]
      · simp [lifecycle, pending, record, next, List.filterMap_cons, CommOp.task]
      · intro key other
        exact RespondTable.mem_uuids_drop
      · cases length : ((before.multirespond.uuids _).erase _).length with
        | succ count =>
            simp [lifecycle, events, chronicle, record, Event.lifecycle]
        | zero =>
            rcases quiet with several | silent
            · exact absurd (List.length_eq_zero_iff.mp length) several
            · simp [lifecycle, events, chronicle, record, Event.lifecycle,
                LifecycleEvent.reported, silent]
  | clear next built =>
      rw [next] at stage
      cases stage with
      | clearing taskKey dropped =>
          refine .clear _ _ built ?_ ?_ rfl rfl rfl
          · simp [lifecycle, due, next]
          · simp [lifecycle, pending, record, next, List.filterMap_cons, CommOp.task]
  | confirmCall next built =>
      refine lifecycle_same ?_ rfl ?_ rfl
      · simp [pending, next, List.filterMap_cons, CommOp.task]
      · simp [due, next]
  | awaited next there finished =>
      rw [next] at stage
      refine lifecycle_same ?_ rfl ?_ rfl
      · simp [pending, next, List.filterMap_cons, CommOp.task]
      · cases stage <;> simp [due, next]
  | run next built normal =>
      rw [next] at stage
      cases stage with
      | running unsubscribes key =>
          refine .run _ _ built ?_ ?_ rfl rfl rfl
          · simp [lifecycle, due, next]
          · simp [lifecycle, pending, record, next, List.filterMap_cons, CommOp.task]
  | runDrop next built drop =>
      rw [next] at stage
      cases stage with
      | running unsubscribes key => exact absurd drop (key.service _ built)
  | callbackReturn next =>
      rw [next] at stage
      refine lifecycle_same ?_ rfl ?_ rfl
      · simp [pending, next, List.filterMap_cons, CommOp.task]
      · cases stage <;> simp [due, next]
  | callbackReply next =>
      refine lifecycle_same ?_ rfl ?_ rfl
      · simp [pending, next, List.filterMap_cons, CommOp.task]
      · simp [due, next]
  | requestUnknown next =>
      rw [next] at stage
      cases stage
  | requestFound next resolved =>
      rw [next] at stage
      cases stage

/-- A move of the board is a step of the life cycle. -/
theorem lifecycleStep_of_boardStep {env : Environment} {before after : Board}
    {action : Move} (wellformed : Wellformed env before)
    (step : BoardStep env before action after) :
    LifecycleStep (proxyCommCreateReplyArg env) (before.lifecycle env)
      (after.lifecycle env) := by
  cases action with
  | channel => exact lifecycle_channel wellformed step
  | comm input => exact lifecycle_comm wellformed step
  | confirm exchange rid =>
      cases step with
      | confirm idle =>
          refine lifecycle_same ?_ rfl rfl rfl
          simp [pending, record, idle, exchangeJob_task]
      | crash => exact lifecycle_same rfl rfl rfl rfl
  | reply index => cases step <;> exact lifecycle_same rfl rfl rfl rfl
  | proxyReply arg headers payload =>
      cases step <;> exact lifecycle_same rfl rfl rfl rfl
  | channelCrash =>
      cases step
      exact lifecycle_same rfl rfl rfl rfl

theorem lifecycle_sound_initial (env : Environment) :
    (initial.lifecycle env).Sound (proxyCommCreateReplyArg env) :=
  Lifecycle.sound_initial _ rfl (fun _ _ member => by cases member) rfl rfl

end Sawang
