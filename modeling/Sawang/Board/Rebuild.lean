import Sawang.Board.Circulation
import Sawang.Board.Tasks

/-!
# Keys the comm thread can rebuild

The comm thread duplicates the service of a task key without a look at it.  The
module says what keeps every key in circulation free of that crash: each request
whose key is registered has a service, or the channel thread built a new object for it.
-/

namespace Sawang

/-- The comm thread builds an argument from the key; it duplicates no NULL text. -/
def Rebuildable (env : Environment) (taskKey : String) : Prop :=
  proxyCommCreateReplyArg env taskKey ≠ none

theorem rebuildable_print_iff (env : Environment) (tree : Json) :
    Rebuildable env (env.printUnformatted tree) ↔
      (tree.getObjectItem serviceServiceKey).bind Json.getStringValue ≠ none := by
  unfold Rebuildable
  rw [proxyCommCreateReplyArg_print]
  simp

/-- The request that the key is the text of has the service member. -/
def KeyHasService (env : Environment) (taskKey : String) : Prop :=
  ((env.parse taskKey).bind fun tree => tree.getObjectItem serviceServiceKey) ≠ none

instance (env : Environment) (taskKey : String) : Decidable (KeyHasService env taskKey) :=
  inferInstanceAs (Decidable (_ ≠ none))

instance (normalizedPayload : NormalizedPayload) : Decidable (normalizedPayload = .payload) :=
  match normalizedPayload with
  | .payload => isTrue rfl
  | .null => isFalse NormalizedPayload.noConfusion
  | .tree _ => isFalse NormalizedPayload.noConfusion

namespace Exchange

/-- The request has the service member; that is a text then. -/
def HasService (exchange : Exchange) : Prop :=
  exchange.serviceAndPayload.getObjectItem serviceServiceKey ≠ none

instance (exchange : Exchange) : Decidable exchange.HasService :=
  inferInstanceAs (Decidable (_ ≠ none))

instance (exchange : Exchange) : Decidable exchange.Rebuilds :=
  inferInstanceAs (Decidable (_ ∧ _ ≠ none ∧ _))

theorem rebuildable_request_iff (env : Environment) (exchange : Exchange) :
    Rebuildable env (env.printUnformatted exchange.serviceAndPayload) ↔
      exchange.HasService := by
  have named := exchange.named
  unfold Sawang.serviceName at named
  rw [rebuildable_print_iff]
  unfold HasService
  cases found : exchange.serviceAndPayload.getObjectItem serviceServiceKey with
  | none => simp
  | some service =>
      rw [found] at named
      dsimp only at named
      simp [named]

theorem keyHasService_request_iff (env : Environment) (exchange : Exchange) :
    KeyHasService env (env.printUnformatted exchange.serviceAndPayload) ↔
      exchange.HasService := by
  unfold KeyHasService
  rw [env.parse_printUnformatted, Option.bind_some]
  rfl

theorem rebuildable_taskKey_iff (env : Environment) (exchange : Exchange) :
    Rebuildable env (exchange.taskKey env) ↔ exchange.Rebuilds ∨ exchange.HasService := by
  rcases exchange.taskKey_cases env with ⟨rebuilds, payload, key⟩ | ⟨keeps, key⟩
  · rw [key, rebuildable_print_iff, getObjectItem_service]
    exact iff_of_true (by simp) (Or.inl rebuilds)
  · rw [key, rebuildable_request_iff]
    exact (or_iff_right keeps).symm

end Exchange

/-- The key that an operation of the channel thread registers. -/
def ChannelOp.registers : ChannelOp → Option String
  | .respondTableSet _ taskKey _ | .respondTableSetUnsubscribe taskKey _ => some taskKey
  | _ => none

def ParseQueueTask.Rebuilt (env : Environment) (task : ParseQueueTask) : Prop :=
  Rebuildable env task.taskKey ∧
    ∀ taskKey ∈ task.unsubscribeTaskKey, Rebuildable env taskKey

/-- The keys of an operation can be rebuilt; an unsubscription still to be resolved
has the text of its request. -/
def ChannelOp.Rebuilt (env : Environment) : ChannelOp → Prop
  | .createUnsubscribeTaskKey _ taskKey _ =>
      ∃ exchange : Exchange, taskKey = env.printUnformatted exchange.serviceAndPayload
  | .respondTableSet _ taskKey _ => Rebuildable env taskKey
  | .respondTableSetUnsubscribe taskKey _ => Rebuildable env taskKey
  | .parseQueueAppend task => task.Rebuilt env
  | _ => True

def CommOp.Rebuilt (env : Environment) : CommOp → Prop
  | .unsubscribe _ taskKey _ => Rebuildable env taskKey
  | .multirespondClear taskKey => Rebuildable env taskKey
  | .respondTableDrop taskKey _ => Rebuildable env taskKey
  | .confirm task _ => Rebuildable env task.taskKey
  | .run task => Rebuildable env task.taskKey
  | _ => True

namespace Board

structure KeysRebuilt (env : Environment) (board : Board) : Prop where
  job : ∀ op ∈ board.job, op.Rebuilt env
  queue : ∀ task ∈ board.parseQueue, task.Rebuilt env
  work : ∀ op ∈ board.work, op.Rebuilt env
  listed : ∀ taskKey rid, rid ∈ board.multirespond.uuids taskKey → Rebuildable env taskKey
  registered : ∀ type taskKey rid unsubscribe,
    .registered type taskKey rid unsubscribe ∈ board.history → Rebuildable env taskKey

/-- What a move asks of the request it registers: a service, unless the request is
invalid or refused or its payload was replaced. -/
def Keyed (env : Environment) (board : Board) : Move → Prop
  | .confirm exchange _ => exchange.parseResult = .invalid ∨ exchange.unsubscribe = true ∨
      exchange.Rebuilds ∨ exchange.HasService
  | .channel =>
      match board.job with
      | .createUnsubscribeTaskKey payload taskKey _ :: _ =>
          (createUnsubscribeTaskKey env board.multirespond payload).toOption = none ∨
            KeyHasService env taskKey
      | _ => True
  | _ => True

instance (env : Environment) (board : Board) (action : Move) :
    Decidable (board.Keyed env action) :=
  match action with
  | .confirm _ _ => inferInstanceAs (Decidable (_ ∨ _ ∨ _ ∨ _))
  | .channel =>
      match chosen : board.job with
      | .createUnsubscribeTaskKey payload taskKey rid :: rest =>
          decidable_of_iff
            ((createUnsubscribeTaskKey env board.multirespond payload).toOption = none ∨
              KeyHasService env taskKey)
            (by simp [Keyed, chosen])
      | [] | .replyQueueAppendInvalidStatus _ _ :: _ | .subscribeAwake :: _
      | .respondTableSet _ _ _ :: _ | .respondTableSetUnsubscribe _ _ :: _
      | .parseQueueAppend _ :: _ | .commAwake :: _ => isTrue (by simp [Keyed, chosen])
  | .comm _ | .reply _ | .proxyReply _ _ _ | .channelCrash => isTrue trivial

theorem keysRebuilt_initial (env : Environment) : KeysRebuilt env .initial where
  job := by
    intro op member
    cases member
  queue := by
    intro task member
    cases member
  work := by
    intro op member
    cases member
  listed := by
    intro taskKey rid member
    cases member
  registered := by
    intro type taskKey rid unsubscribe member
    cases member

variable {env : Environment} {before after : Board}

private theorem exchangeJob_rebuilt {exchange : Exchange} {rid : String}
    (keyed : Keyed env before (.confirm exchange rid)) :
    ∀ op ∈ exchangeJob env exchange rid, op.Rebuilt env := by
  unfold exchangeJob
  split
  · simp [ChannelOp.Rebuilt]
  · rename_i valid
    split
    · rename_i unsubscribes
      intro op member
      rw [List.mem_singleton.mp member]
      refine ⟨exchange, ?_⟩
      unfold Exchange.taskKey
      rw [if_pos unsubscribes]
    · rename_i normal
      intro op member
      rw [List.mem_singleton.mp member]
      rw [ChannelOp.Rebuilt, exchange.rebuildable_taskKey_iff]
      rcases keyed with invalid | unsubscribes | named
      · exact absurd invalid valid
      · exact absurd unsubscribes normal
      · exact named

theorem taskWork_rebuilt {task : ParseQueueTask} (rebuilt : task.Rebuilt env) :
    ∀ op ∈ taskWork task, op.Rebuilt env := by
  unfold taskWork
  split
  · rename_i taskKey uuid _ named _
    intro op member
    rcases List.mem_cons.mp member with rfl | last
    · exact rebuilt.2 taskKey named
    · rw [List.mem_singleton.mp last]
      exact rebuilt.1
  · intro op member
    rw [List.mem_singleton.mp member]
    exact rebuilt.1

/-- A task names keys that were given to it. -/
theorem parseQueueTask_rebuilt {taskKey rid : String} {unsubscribeTaskKey : Option String}
    {unsubscribeUuid : Option String} {type : RespondTableType}
    (own : Rebuildable env taskKey)
    (other : ∀ key ∈ unsubscribeTaskKey, Rebuildable env key) :
    (parseQueueTask taskKey unsubscribeTaskKey unsubscribeUuid type rid).Rebuilt env := by
  refine ⟨own, fun key member => other key ?_⟩
  have kept : unsubscribeTaskKey.filter (· ≠ "") = some key := member
  exact (Option.filter_eq_some_iff.mp kept).1

private theorem rebuilt_of_drops {op : CommOp} {taskKey uuid : String}
    (rebuilt : op.Rebuilt env) (drops : op.drops = some (taskKey, uuid)) :
    Rebuildable env taskKey := by
  cases op with
  | unsubscribe task key dropped =>
      cases drops
      exact rebuilt
  | respondTableDrop key dropped =>
      cases drops
      exact rebuilt
  | _ => cases drops

private theorem keysRebuilt_handsOn {action : Move} (keys : KeysRebuilt env before)
    (keyed : Keyed env before action) :
    HandsOn env (ChannelOp.Rebuilt env) (ParseQueueTask.Rebuilt env) (CommOp.Rebuilt env)
      before action where
  starts := by
    rintro exchange rid rfl
    exact exchangeJob_rebuilt keyed
  replies := fun _ _ => trivial
  awakes := ⟨trivial, trivial⟩
  registers := fun _ _ _ own => parseQueueTask_rebuilt own (by simp)
  resolves := by
    rintro payload taskKey rid rest unsubscribeTaskKey unsubscribeUuid rfl next resolved own
    obtain ⟨exchange, rfl⟩ := own
    have has : exchange.HasService := by
      simp only [Keyed, next, resolved, exchange.keyHasService_request_iff] at keyed
      exact keyed.resolve_left (by simp [Except.toOption])
    have rebuilt := (exchange.rebuildable_request_iff env).mpr has
    have member := (createUnsubscribeTaskKey_ok resolved).2
    refine ⟨parseQueueTask_rebuilt rebuilt ?_, rebuilt⟩
    intro key named
    rw [← Option.mem_some_iff.mp named]
    exact keys.listed _ _ member
  enqueues := fun _ task => task
  dequeues := fun _ task => taskWork_rebuilt task
  calls := ⟨trivial, fun _ => trivial⟩
  lists := fun _ => trivial
  finds := fun _ _ resolved => keys.listed _ _ (RespondTable.mem_of_dupTaskKey_eq_some resolved)
  clears := fun _ _ _ drops own => rebuilt_of_drops own drops

theorem registers_rebuilt {op : ChannelOp} {taskKey : String} (rebuilt : op.Rebuilt env)
    (registers : op.registers = some taskKey) : Rebuildable env taskKey := by
  cases op with
  | respondTableSet type key rid =>
      cases registers
      exact rebuilt
  | respondTableSetUnsubscribe key rid =>
      cases registers
      exact rebuilt
  | _ => cases registers

/-- A key that a move registers was about to be. -/
private theorem registered_of_step {action : Move} {type : RespondTableType}
    {taskKey rid : String} {unsubscribe : Bool} (step : BoardStep env before action after)
    (member : .registered type taskKey rid unsubscribe ∈ after.history) :
    .registered type taskKey rid unsubscribe ∈ before.history ∨
      ∃ op rest, before.job = op :: rest ∧ op.registers = some taskKey := by
  cases step with
  | subscribed next new | registered next | registeredUnsubscribe next =>
      rcases List.mem_cons.mp member with own | old
      · cases own
        exact Or.inr ⟨_, _, next, rfl⟩
      · exact Or.inl old
  | _ =>
      left
      first
      | exact member
      | exact (List.mem_cons.mp member).resolve_left (by simp)

theorem keysRebuilt_step {action : Move} (keys : KeysRebuilt env before)
    (keyed : Keyed env before action) (step : BoardStep env before action after) :
    KeysRebuilt env after := by
  have circulates := circulates_step (keysRebuilt_handsOn keys keyed) step
    ⟨keys.job, keys.queue, keys.work⟩
  refine ⟨circulates.job, circulates.queue, circulates.work, ?_, ?_⟩
  · intro taskKey rid member
    rcases subscribed_of_step step member with old | ⟨rest, next⟩
    · exact keys.listed taskKey rid old
    · exact (forall_head_tail keys.job next).1
  · intro type taskKey rid unsubscribe member
    rcases registered_of_step step member with old | ⟨op, rest, next, registers⟩
    · exact keys.registered type taskKey rid unsubscribe old
    · exact registers_rebuilt (forall_head_tail keys.job next).1 registers

/-! ## The crashes -/

private theorem crashed_channelOp {board : Board} (op : ChannelOp) (rest : List ChannelOp) :
    (board.channelOp env op rest).crashed = board.crashed := by
  cases op with
  | createUnsubscribeTaskKey payload taskKey rid =>
      unfold channelOp
      dsimp only
      split <;> rfl
  | respondTableSet type taskKey rid =>
      cases type with
      | singleshot => rfl
      | multirespond =>
          unfold channelOp
          dsimp only
          split <;> rfl
  | _ => rfl

private theorem crashed_respondTableDrop {board : Board} (taskKey uuid : String)
    (rest : List CommOp) :
    (board.respondTableDrop env taskKey uuid rest).crashed = board.crashed := by
  unfold respondTableDrop
  dsimp only
  split <;> rfl

/-- The comm thread crashes on nothing but a key it cannot rebuild. -/
private theorem crashed_commOp {board : Board} {input : CommInput} {op : CommOp}
    {rest : List CommOp} (rebuilt : op.Rebuilt env)
    (moved : board.commOp env input op rest = some after) : after.crashed = board.crashed := by
  cases op with
  | unsubscribe task taskKey uuid =>
      simp only [commOp] at moved
      split at moved
      · rename_i unbuilt
        exact absurd unbuilt rebuilt
      · cases moved
        exact crashed_respondTableDrop taskKey uuid rest
  | multirespondClear taskKey =>
      simp only [commOp] at moved
      split at moved
      · rename_i unbuilt
        exact absurd unbuilt rebuilt
      · cases moved
        rfl
  | confirm task uuid =>
      simp only [commOp] at moved
      split at moved
      · rename_i unbuilt
        exact absurd unbuilt rebuilt
      · cases moved
        rfl
  | awaitReply index =>
      simp only [commOp] at moved
      split at moved
      · cases moved
        rfl
      · cases moved
  | run task =>
      simp only [commOp] at moved
      split at moved
      · rename_i unbuilt
        exact absurd unbuilt rebuilt
      · split at moved
        · cases moved
          rfl
        · cases moved
          rfl
  | callback =>
      cases input with
      | advance =>
          cases moved
          rfl
      | proxyReply arg headers payload =>
          cases moved
          rfl
  | dropRequest uuid =>
      simp only [commOp] at moved
      split at moved
      · cases moved
        rfl
      · cases moved
        rfl
  | respondTableDrop taskKey uuid =>
      cases moved
      exact crashed_respondTableDrop taskKey uuid rest

private theorem crashed_replyOp {board : Board} {index : Nat} {call : ReplyCall}
    (moved : board.replyOp env index call = some after) : after.crashed = board.crashed := by
  unfold replyOp at moved
  split at moved
  · cases moved
    rfl
  · cases moved
    rfl
  · cases moved
    rfl
  · cases moved
    rfl
  · cases moved
    rfl
  · cases moved
    rfl
  · cases moved

/-- Over keys that can be rebuilt nothing crashes but a compared NULL name. -/
theorem crashed_move {action : Move} (keys : KeysRebuilt env before)
    (named : action ≠ .channelCrash) (moved : before.move env action = some after) :
    after.crashed = false := by
  unfold move at moved
  split at moved
  · cases moved
  rename_i alive
  have running : before.crashed = false := Bool.eq_false_iff.mpr alive
  cases action with
  | confirm exchange rid =>
      dsimp only at moved
      split at moved
      · cases moved
        exact running
      · cases moved
  | channel =>
      dsimp only at moved
      split at moved
      · cases moved
      · cases moved
        rw [crashed_channelOp]
        exact running
  | comm input =>
      dsimp only at moved
      split at moved
      · split at moved
        · cases moved
        · cases moved
          exact running
      · rename_i op rest next
        have rebuilt := (forall_head_tail keys.work next).1
        rw [crashed_commOp rebuilt moved]
        exact running
  | reply index =>
      dsimp only at moved
      split at moved
      · cases moved
      · rw [crashed_replyOp moved]
        exact running
  | proxyReply arg headers payload =>
      cases moved
      exact running
  | channelCrash => exact absurd rfl named

end Board

end Sawang
