import Sawang.Board.Circulation
import Sawang.Foundation.Runs

/-!
# The tasks in circulation

A request under the drop service is always an unsubscription, and a resolved
unsubscription always carries the key and the uuid it resolved.  So the comm
thread never runs a task of the drop service, and the branch that walks a list of
uuids is never reached.
-/

namespace Sawang

open Board

/-- The key of a request that is not an unsubscription. -/
structure NormalKey (env : Environment) (taskKey : String) : Prop where
  nonempty : taskKey ≠ ""
  service : ∀ arg, proxyCommCreateReplyArg env taskKey = some arg →
    arg.service ≠ gonggoserviceRequestDrop

theorem Exchange.normalKey (env : Environment) (exchange : Exchange)
    (normal : exchange.unsubscribe = false) : NormalKey env (exchange.taskKey env) := by
  have notDrop : exchange.serviceName ≠ gonggoserviceRequestDrop := by
    intro drop
    have unsubscribes := (exchange.dropUnsubscribes drop).1
    rw [normal] at unsubscribes
    cases unsubscribes
  rcases exchange.taskKey_cases env with ⟨_, payload, key⟩ | ⟨_, key⟩
  · rw [key]
    refine ⟨env.printUnformatted_ne_empty _, ?_⟩
    intro arg built
    rw [proxyCommCreateReplyArg_print, getObjectItem_service] at built
    cases built
    exact notDrop
  · rw [key]
    refine ⟨env.printUnformatted_ne_empty _, ?_⟩
    intro arg built
    rw [proxyCommCreateReplyArg_print] at built
    obtain ⟨service, read, rfl⟩ := Option.map_eq_some_iff.mp built
    obtain ⟨item, found, text⟩ := Option.bind_eq_some_iff.mp read
    have named := exchange.named
    simp only [Sawang.serviceName, found] at named
    have same : service = exchange.serviceName :=
      Option.some.inj (text.symm.trans named)
    rw [same]
    exact notDrop

/-- A queued task is a normal one, or names what it unsubscribes. -/
def TaskSound (env : Environment) (task : ParseQueueTask) : Prop :=
  (task.unsubscribeTaskKey = none ∧ NormalKey env task.taskKey) ∨
    (task.type = .singleshot ∧ ∃ taskKey uuid,
      task.unsubscribeTaskKey = some taskKey ∧ task.unsubscribeUuid = some uuid)

def ChannelOp.Sound (env : Environment) : ChannelOp → Prop
  | .respondTableSet _ taskKey _ => NormalKey env taskKey
  | .parseQueueAppend task => TaskSound env task
  | _ => True

/-- The statements the comm thread can have left, from the pop of a task to the
next. -/
inductive CommStage (env : Environment) : List CommOp → Prop
  | free : CommStage env []
  | unsubscribing {task : ParseQueueTask} {taskKey uuid : String}
      (single : task.type = .singleshot)
      (named : task.unsubscribeTaskKey = some taskKey)
      (dropped : task.unsubscribeUuid = some uuid) :
      CommStage env [.unsubscribe task taskKey uuid, .confirm task uuid]
  | clearing (taskKey : String) {task : ParseQueueTask} {uuid : String}
      (dropped : task.unsubscribeUuid = some uuid) :
      CommStage env [.multirespondClear taskKey, .confirm task uuid]
  | clearCallback {task : ParseQueueTask} {uuid : String}
      (dropped : task.unsubscribeUuid = some uuid) :
      CommStage env [.callback, .confirm task uuid]
  | clearReply (index : Nat) {task : ParseQueueTask} {uuid : String}
      (dropped : task.unsubscribeUuid = some uuid) :
      CommStage env [.awaitReply index, .callback, .confirm task uuid]
  | confirming {task : ParseQueueTask} {uuid : String}
      (dropped : task.unsubscribeUuid = some uuid) :
      CommStage env [.confirm task uuid]
  | confirmReply (index : Nat) : CommStage env [.awaitReply index]
  | running {task : ParseQueueTask} (normal : task.unsubscribeTaskKey = none)
      (key : NormalKey env task.taskKey) : CommStage env [.run task]
  | runCallback : CommStage env [.callback]
  | runReply (index : Nat) : CommStage env [.awaitReply index, .callback]

structure TasksSound (env : Environment) (board : Board) : Prop where
  job : ∀ op ∈ board.job, op.Sound env
  queue : ∀ task ∈ board.parseQueue, TaskSound env task
  work : CommStage env board.work
  listed : ∀ taskKey rid, rid ∈ board.multirespond.uuids taskKey → taskKey ≠ ""

theorem tasksSound_initial (env : Environment) : TasksSound env Board.initial where
  job := by
    intro op member
    cases member
  queue := by
    intro task member
    cases member
  work := .free
  listed := by
    intro taskKey rid member
    cases member

theorem exchangeJob_sound (env : Environment) (exchange : Exchange) (rid : String) :
    ∀ op ∈ exchangeJob env exchange rid, op.Sound env := by
  unfold exchangeJob
  split
  · simp [ChannelOp.Sound]
  · split
    · simp [ChannelOp.Sound]
    · rename_i normal
      have key := exchange.normalKey env (Bool.eq_false_iff.mpr normal)
      simpa [ChannelOp.Sound] using key

theorem taskWork_normal {task : ParseQueueTask} (normal : task.unsubscribeTaskKey = none) :
    taskWork task = [.run task] := by
  unfold taskWork
  rw [normal]
  split <;> simp_all

theorem taskWork_unsubscribe {task : ParseQueueTask} {taskKey uuid : String}
    (single : task.type = .singleshot) (named : task.unsubscribeTaskKey = some taskKey)
    (dropped : task.unsubscribeUuid = some uuid) :
    taskWork task = [.unsubscribe task taskKey uuid, .confirm task uuid] := by
  unfold taskWork
  rw [single, named, dropped]

/-- Only an unsubscription is confirmed, and after its drop. -/
theorem confirm_mem_taskWork {task other : ParseQueueTask} {uuid : String}
    (member : .confirm other uuid ∈ taskWork task) :
    other = task ∧ ∃ taskKey, task.unsubscribeTaskKey = some taskKey ∧
      .unsubscribe task taskKey uuid ∈ taskWork task := by
  unfold taskWork at member
  split at member
  · rename_i taskKey dropping single named dropped
    simp only [List.mem_cons, reduceCtorEq, CommOp.confirm.injEq, List.not_mem_nil,
      or_false, false_or] at member
    obtain ⟨rfl, rfl⟩ := member
    rw [taskWork_unsubscribe single named dropped]
    exact ⟨rfl, taskKey, named, List.mem_cons_self⟩
  · simp at member

theorem taskWork_stage {env : Environment} {task : ParseQueueTask}
    (sound : TaskSound env task) : CommStage env (taskWork task) := by
  rcases sound with ⟨normal, key⟩ | ⟨single, taskKey, uuid, named, dropped⟩
  · rw [taskWork_normal normal]
    exact .running normal key
  · rw [taskWork_unsubscribe single named dropped]
    exact .unsubscribing single named dropped

/-- A resolved unsubscription has a key and a uuid that are not empty. -/
theorem createUnsubscribeTaskKey_ok {env : Environment} {table : RespondTable}
    {payload : Option Json} {taskKey uuid : String}
    (resolved : createUnsubscribeTaskKey env table payload = .ok (taskKey, uuid)) :
    uuid ≠ "" ∧ uuid ∈ table.uuids taskKey := by
  unfold createUnsubscribeTaskKey at resolved
  split at resolved
  · cases resolved
  · split at resolved
    · cases resolved
    · split at resolved
      · cases resolved
      · rename_i nonempty
        split at resolved
        · cases resolved
        · rename_i found
          cases resolved
          exact ⟨nonempty, RespondTable.mem_of_dupTaskKey_eq_some found⟩

private theorem taskSound_parseQueueTask_normal {env : Environment} {taskKey rid : String}
    {type : RespondTableType} (key : NormalKey env taskKey) :
    TaskSound env (parseQueueTask taskKey none none type rid) :=
  Or.inl ⟨rfl, key⟩

private theorem taskSound_parseQueueTask_unsubscribe
    (env : Environment) {taskKey rid unsubscribeTaskKey unsubscribeUuid : String}
    (keyNonempty : unsubscribeTaskKey ≠ "") (uuidNonempty : unsubscribeUuid ≠ "") :
    TaskSound env (parseQueueTask taskKey (some unsubscribeTaskKey)
      (some unsubscribeUuid) .singleshot rid) := by
  refine Or.inr ⟨?_, unsubscribeTaskKey, unsubscribeUuid, ?_, ?_⟩
  · simp [parseQueueTask]
  · simp [parseQueueTask, Option.filter, keyNonempty]
  · simp [parseQueueTask, Option.filter, uuidNonempty]

private theorem tasksSound_handsOn {env : Environment} {before : Board} {action : Move}
    (sound : TasksSound env before) :
    HandsOn env (ChannelOp.Sound env) (TaskSound env) (fun _ => True) before action where
  starts := fun exchange rid _ => exchangeJob_sound env exchange rid
  replies := fun _ _ => trivial
  awakes := ⟨trivial, trivial⟩
  registers := fun _ _ _ key => taskSound_parseQueueTask_normal key
  resolves := by
    intro payload taskKey rid rest unsubscribeTaskKey unsubscribeUuid _ next resolved _
    obtain ⟨uuidNonempty, member⟩ := createUnsubscribeTaskKey_ok resolved
    have keyNonempty := sound.listed _ _ member
    exact ⟨taskSound_parseQueueTask_unsubscribe env keyNonempty uuidNonempty, trivial⟩
  enqueues := fun _ task => task
  dequeues := fun _ _ _ _ => trivial
  calls := ⟨trivial, fun _ => trivial⟩
  lists := fun _ => trivial
  finds := fun _ _ _ => trivial
  clears := fun _ _ _ _ _ => trivial

private theorem commStage_step {env : Environment} {before after : Board} {action : Move}
    (step : BoardStep env before action after) (sound : TasksSound env before) :
    CommStage env after.work := by
  have work := sound.work
  cases step with
  | dequeue free head => exact taskWork_stage (forall_head_tail sound.queue head).1
  | dropAbsent next drops absent =>
      rw [next] at work
      cases work <;> try cases drops
      rename_i single named dropped
      exact .confirming dropped
  | dropLast next drops present last clears =>
      rw [next] at work
      cases work <;> try cases drops
      rename_i single named dropped
      exact .clearing _ dropped
  | dropQuiet next drops present quiet =>
      rw [next] at work
      cases work <;> try cases drops
      rename_i single named dropped
      exact .confirming dropped
  | clear next built =>
      rw [next] at work
      cases work with
      | clearing taskKey dropped => exact .clearCallback dropped
  | confirmCall next built =>
      rw [next] at work
      cases work with
      | confirming dropped => exact .confirmReply _
  | awaited next there finished =>
      rw [next] at work
      cases work with
      | clearReply index dropped => exact .clearCallback dropped
      | confirmReply index => exact .free
      | runReply index => exact .runCallback
  | run next built normal =>
      rw [next] at work
      cases work with
      | running normal key => exact .runCallback
  | runDrop next built drop =>
      rw [next] at work
      cases work with
      | running normal key => exact absurd drop (key.service _ built)
  | callbackReturn next =>
      rw [next] at work
      cases work with
      | clearCallback dropped => exact .confirming dropped
      | runCallback => exact .free
  | callbackReply next =>
      rw [next] at work
      cases work with
      | clearCallback dropped => exact .clearReply _ dropped
      | runCallback => exact .runReply _
  | requestUnknown next =>
      rw [next] at work
      cases work
  | requestFound next resolved =>
      rw [next] at work
      cases work
  | _ => exact work

theorem tasksSound_step {env : Environment} {before after : Board} {action : Move}
    (step : BoardStep env before action after) (sound : TasksSound env before) :
    TasksSound env after := by
  have circulates := circulates_step (tasksSound_handsOn sound) step
    ⟨sound.job, sound.queue, fun _ _ => trivial⟩
  refine ⟨circulates.job, circulates.queue, commStage_step step sound, ?_⟩
  intro taskKey rid member
  rcases subscribed_of_step step member with old | ⟨rest, next⟩
  · exact sound.listed taskKey rid old
  · have key : NormalKey env taskKey := (forall_head_tail sound.job next).1
    exact key.nonempty

end Sawang
