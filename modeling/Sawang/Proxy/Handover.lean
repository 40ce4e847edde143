import Sawang.Proxy.Answers

/-!
# Handing over answers

An answer lies in shared memory from the moment it is announced until the thread that
made it has seen a reaction: the announced uuid names it and the announced length fits.
No answer is left behind but the one that the process dies in copying.
-/

namespace Sawang

open ProxyState

/-! ## What a step does to the answers -/

namespace AnswerState

/-- The reply handed over, if any, is the same as before. -/
def SameReply (before after : AnswerState) : Prop :=
  (∀ task, before.proxy.delivery.position ≠ .answerWait task) ∧
      (∀ task, after.proxy.delivery.position ≠ .answerWait task) ∨
    after.proxy.delivery.position = before.proxy.delivery.position ∧
      after.subscribePath = before.subscribePath ∧ after.subscribeShm = before.subscribeShm

/-- The REST answer handed over, if any, is the same as before. -/
def SameRest (before after : AnswerState) : Prop :=
  before.proxy.channel.position ≠ .restWait ∧ after.proxy.channel.position ≠ .restWait ∨
    after.proxy.channel.position = before.proxy.channel.position ∧
      after.channelPath = before.channelPath ∧ after.respond = before.respond ∧
      after.request = before.request ∧ after.channelShm = before.channelShm

/-- The process goes on. -/
def Lives (before after : AnswerState) : Prop := before.fault = none ∧ after.fault = none

end AnswerState

inductive AnswerStep (env : Environment) (before after : AnswerState) : Prop
  | reply (lives : before.Lives after) (uuid : String) (task : QueuedReply)
      (fresh : before.memory (answerPath uuid) = none)
      (position : before.proxy.delivery.position = .shmLock task)
      (waits : after.proxy.delivery.position = .answerWait task)
      (memory : after.memory =
        before.memory.create (some .subscribe) (answerPath uuid) task.task)
      (path : after.subscribePath = answerPath uuid)
      (shm : after.subscribeShm = {
        aid := uuid
        payloadBuffLength := task.task.utf8ByteSize + 1
        removeRequest := !task.multipleRespond })
      (rest : before.SameRest after)
  | replied (lives : before.Lives after) (task : QueuedReply)
      (position : before.proxy.delivery.position = .answerWait task)
      (leaves : ∀ other, after.proxy.delivery.position ≠ .answerWait other)
      (memory : after.memory = before.memory.unlink before.subscribePath)
      (rest : before.SameRest after)
  | rest (lives : before.Lives after) (uuid respond : String) (found : ChannelOutcome)
      (fresh : before.memory (answerPath uuid) = none)
      (position : before.proxy.channel.position = .idleWait)
      (waits : after.proxy.channel.position = .restWait)
      (made : proxyChannelRespond env found = some respond)
      (memory : after.memory =
        before.memory.create (some .channel) (answerPath uuid) respond)
      (path : after.channelPath = answerPath uuid)
      (keeps : after.respond = respond)
      (request : after.request = some ⟨before.proxy.channel.rid, found⟩)
      (shm : after.channelShm = {
        aid := uuid
        answerBuffLength := respond.utf8ByteSize + 1 })
      (reply : before.SameReply after)
  | rested (lives : before.Lives after) (position : before.proxy.channel.position = .restWait)
      (leaves : after.proxy.channel.position ≠ .restWait)
      (memory : after.memory = before.memory.unlink before.channelPath)
      (reply : before.SameReply after)
  /-- The process dies in the copy. -/
  | faults (lives : before.fault = none) (maker : Answerer) (uuid part : String)
      (fresh : before.memory (answerPath uuid) = none) (hands : before.hands maker = none)
      (memory : after.memory = before.memory.create (some maker) (answerPath uuid) part)
      (fault : after.fault = some (.answer maker (answerPath uuid) part))
      (reply : before.SameReply after) (rest : before.SameRest after)
  | elsewhere (left : after.left = before.left)
      (reply : before.SameReply after) (rest : before.SameRest after)
      (memory : after.memory = before.memory ∨
        (∃ path text, before.memory path = none ∧
          after.memory = before.memory.create none path text) ∨
        ∃ path, (∀ maker text, before.memory path ≠ some (some maker, text)) ∧
          after.memory = before.memory.unlink path)

namespace AnswerState

variable {env : Environment} {before after : AnswerState}

/-- Making an answer adds it to shared memory or leaves that alone. -/
theorem createAnswer_of_made {maker : Answerer} {segment : SegmentOutcome} {copied : Nat}
    {path text : String} {memory : SharedMemory} {length : Nat} (fresh : memory path = none)
    (made : proxyRestCreateAnswer segment text = some length) :
    createAnswer maker segment copied path text memory =
      if 0 < length then memory.create (some maker) path text else memory := by
  unfold proxyRestCreateAnswer at made
  unfold createAnswer
  split at made
  · split at made
    · split at made
      · cases made
        simp [*]
      · cases made
    · cases made
      simp [*, NamedStore.unlink_free fresh]
  · cases made
    simp [*]

/-- A copy without memory leaves its segment behind, with what it has copied. -/
theorem createAnswer_of_fault {maker : Answerer} {segment : SegmentOutcome} {copied : Nat}
    {path text : String} {memory : SharedMemory}
    (faults : proxyRestCreateAnswer segment text = none) :
    createAnswer maker segment copied path text memory =
      memory.create (some maker) path (copiedPart text copied) := by
  unfold proxyRestCreateAnswer at faults
  unfold createAnswer
  split at faults
  · split at faults
    · split at faults
      · cases faults
      · simp [*]
    · cases faults
  · cases faults

theorem stepProxy_cases {action : Action} (next : before.stepProxy env action = some after) :
    before.fault = none ∧ ∃ proxy, before.proxy.step env action = some proxy ∧
      after = { before with proxy := proxy } := by
  unfold stepProxy at next
  split at next
  · rename_i lives
    obtain ⟨proxy, moved, same⟩ := Option.map_eq_some_iff.mp next
    exact ⟨lives, proxy, moved, same.symm⟩
  · cases next

/-- What is left behind is so for one fault. -/
theorem left_eq (same : after.fault = before.fault) : after.left = before.left := by
  funext maker
  unfold left
  rw [same]

end AnswerState

namespace Delivery

/-- With the lock of the segment in hand the thread waits exactly for what it made. -/
theorem position_of_exchange {delivery after : Delivery} {answerCreated : Bool}
    {task : QueuedReply} (position : delivery.position = .shmLock task)
    (owned : delivery.ownerDead = false)
    (step : DeliveryStep delivery (.thread answerCreated) after) :
    after.position = if answerCreated then .answerWait task else .idleAgain := by
  cases step <;> simp_all

/-- A step to a wait for the dispatcher comes from the lock of the segment. -/
theorem not_answerWait {delivery after : Delivery} {answerCreated : Bool}
    (elsewhere : ∀ task, delivery.position = .shmLock task → delivery.ownerDead = true)
    (step : DeliveryStep delivery (.thread answerCreated) after) (task : QueuedReply) :
    after.position ≠ .answerWait task := by
  cases step <;> simp_all

end Delivery

namespace ProxyState

variable {env : Environment} {before after : ProxyState}

/-- A step of the subscribe thread moves only the delivery. -/
theorem subscribe_step {answerCreated : Bool}
    (next : before.step env (.subscribe answerCreated) = some after) :
    ∃ delivery, DeliveryStep before.delivery (.thread answerCreated) delivery ∧
      after = { before with delivery := delivery } := by
  unfold step at next
  split at next
  · cases next
  · obtain ⟨delivery, moved, rfl⟩ := Option.map_eq_some_iff.mp next
    exact ⟨delivery, Delivery.deliveryStep_of_move moved, rfl⟩

/-- Nobody else moves the subscribe thread. -/
theorem subscribe_elsewhere {action : Action}
    (elsewhere : ∀ answerCreated, action ≠ .subscribe answerCreated)
    (next : before.step env action = some after) :
    after.delivery.position = before.delivery.position := by
  have moves : ∀ {move : Delivery.Move} {delivery : Delivery},
      before.delivery.move move = some delivery →
      (∀ answerCreated, move ≠ .thread answerCreated) →
      delivery.position = before.delivery.position := by
    intro move delivery moved away
    cases Delivery.deliveryStep_of_move moved <;>
      first
      | rfl
      | exact absurd rfl (away _)
  cases proxyStep_of_step next with
  | perform chosen unconfirmed busy performed =>
      obtain ⟨board, _, changed⟩ := performed_of_perform performed
      cases changed <;> rfl
  | deliver chosen moved =>
      refine moves moved ?_
      intro answerCreated thread
      subst thread
      cases action <;> cases chosen
      exact elsewhere _ rfl
  | stopSubscribe position moved => exact moves moved nofun
  | endSubscribe position moved => exact moves moved nofun
  | diesHoldingSubscribe alive moved => exact moves moved nofun
  | _ => rfl

/-- The channel thread waits for the reaction to a REST answer that it has made. -/
theorem restWait_iff {input : ChannelInput} {events : List ChannelEvent}
    (step : ThreadStep input before events after) :
    after.channel.position = .restWait ↔
      before.channel.position = .idleWait ∧ before.channel.ownerDead = false ∧
        before.channel.state = .rest ∧ input.answerCreated = true := by
  cases step with
  | crashes position alive asked read unnamed channel crashed => simp [channel, position, asked]
  | confirmed position alive asked channel => simp [channel, position]
  | works position channel => rcases channel with channel | channel <;> simp [channel, position]
  | unasked proxyExit position alive unasked =>
      constructor
      · intro impossible
        cases impossible
      · rintro ⟨_, _, rest, created⟩
        rw [unasked.2.2 rest] at created
        cases created
  | rest position alive asked created =>
      exact ⟨fun _ => ⟨position, alive, asked, created⟩, fun _ => rfl⟩
  | ownerDied waits dead => simp [dead]
  | terminated waits alive asked => simp [asked]
  | returns waits alive =>
      rcases waits with position | ⟨_, exchange, position⟩ <;> simp [position]
  | acknowledges position alive asked => simp [Channel.accept, Channel.answer, asked]
  | fails position alive asked => simp [Channel.accept, Channel.answer, asked]
  | ends position => simp [position]
  | idle position => simp [Channel.shmIdle, position]

end ProxyState

namespace AnswerState

variable {env : Environment} {before after : AnswerState}

/-- A step of the subscribe thread on the proxy. -/
private theorem subscribe_cases {answerCreated : Bool}
    (next : before.stepProxy env (.subscribe answerCreated) = some after) :
    before.fault = none ∧
      ∃ delivery, DeliveryStep before.proxy.delivery (.thread answerCreated) delivery ∧
        after = { before with proxy := { before.proxy with delivery := delivery } } := by
  obtain ⟨lives, proxy, moved, rfl⟩ := stepProxy_cases next
  obtain ⟨delivery, step, rfl⟩ := subscribe_step moved
  exact ⟨lives, delivery, step, rfl⟩

/-- The thread is at no exchange before and after the step. -/
private theorem answerStep_idle {delivery : Delivery} {shm : SubscribeShm} {path : String}
    (away : ∀ task, before.proxy.delivery.position ≠ .answerWait task)
    (later : ∀ task, delivery.position ≠ .answerWait task) :
    AnswerStep env before { before with
      proxy := { before.proxy with delivery := delivery }
      subscribeShm := shm
      subscribePath := path } :=
  .elsewhere (left_eq rfl) (Or.inl ⟨away, later⟩) (Or.inr ⟨rfl, rfl, rfl, rfl, rfl⟩)
    (Or.inl rfl)

private theorem answerStep_exchange {uuid : String} {segment : SegmentOutcome}
    {copied : Nat} {task : QueuedReply} (fresh : before.memory (answerPath uuid) = none)
    (position : before.proxy.delivery.position = .shmLock task)
    (owned : before.proxy.delivery.ownerDead = false)
    (next : before.subscribeExchange env uuid segment copied task = some after) :
    AnswerStep env before after := by
  have away : ∀ other, before.proxy.delivery.position ≠ .answerWait other := by
    simp [position]
  unfold subscribeExchange at next
  dsimp only at next
  split at next
  · rename_i faults
    obtain ⟨middle, moved, rfl⟩ := Option.map_eq_some_iff.mp next
    exact .faults (stepProxy_cases moved).1 .subscribe uuid _ fresh (by simp [hands, position])
      (createAnswer_of_fault faults) rfl (Or.inl ⟨away, away⟩)
      (Or.inr ⟨rfl, rfl, rfl, rfl, rfl⟩)
  · rename_i length made
    obtain ⟨middle, moved, rfl⟩ := Option.map_eq_some_iff.mp next
    obtain ⟨lives, delivery, step, rfl⟩ := subscribe_cases moved
    have waits := Delivery.position_of_exchange position owned step
    rw [createAnswer_of_made fresh made]
    by_cases created : 0 < length
    · rw [if_pos (decide_eq_true created)] at waits
      have whole := (proxyRestCreateAnswer_pos_iff made).mp created
      refine .reply ⟨lives, lives⟩ uuid task fresh position waits (if_pos created) rfl ?_
        (Or.inr ⟨rfl, rfl, rfl, rfl, rfl⟩)
      dsimp only
      rw [if_pos created, whole]
    · rw [if_neg (by simpa using created)] at waits
      refine .elsewhere (left_eq rfl) (Or.inl ⟨away, ?_⟩)
        (Or.inr ⟨rfl, rfl, rfl, rfl, rfl⟩) (Or.inl (if_neg created))
      intro other waiting
      rw [waits] at waiting
      cases waiting

private theorem answerStep_subscribe {uuid : String} {segment : SegmentOutcome}
    {copied : Nat} (fresh : before.memory (answerPath uuid) = none)
    (next : before.stepSubscribe env uuid segment copied = some after) :
    AnswerStep env before after := by
  unfold stepSubscribe at next
  split at next
  case h_1 position | h_2 position =>
    obtain ⟨middle, moved, rfl⟩ := Option.map_eq_some_iff.mp next
    obtain ⟨lives, delivery, step, rfl⟩ := subscribe_cases moved
    exact answerStep_idle (by simp [position])
      (Delivery.not_answerWait (by simp [position]) step)
  case h_3 task position =>
    split at next
    · rename_i dead
      obtain ⟨lives, delivery, step, rfl⟩ := subscribe_cases next
      exact answerStep_idle (by simp [position])
        (Delivery.not_answerWait (fun _ _ => dead) step)
    · rename_i owned
      exact answerStep_exchange fresh position (Bool.eq_false_iff.mpr owned) next
  case h_4 task position =>
    obtain ⟨middle, moved, rfl⟩ := Option.map_eq_some_iff.mp next
    obtain ⟨lives, delivery, step, rfl⟩ := subscribe_cases moved
    exact .replied ⟨lives, lives⟩ task position
      (Delivery.not_answerWait (by simp [position]) step) rfl
      (Or.inr ⟨rfl, rfl, rfl, rfl, rfl⟩)
  case h_5 notIdle notIdleAgain notLock notWait =>
    obtain ⟨lives, delivery, step, rfl⟩ := subscribe_cases next
    exact answerStep_idle (fun task waiting => notWait task waiting)
      (Delivery.not_answerWait (fun task locked => absurd locked (notLock task)) step)

/-- Death at a read leaves the answers as they are. -/
private theorem answerStep_payload (lives : before.fault = none) :
    AnswerStep env before { before with fault := some .payload } := by
  refine .elsewhere ?_ (Or.inr ⟨rfl, rfl, rfl⟩) (Or.inr ⟨rfl, rfl, rfl, rfl, rfl⟩)
    (Or.inl rfl)
  funext maker
  unfold left
  rw [lives]

private theorem answerStep_rest {uuid : String} {found : ChannelOutcome} {copied : Nat}
    {proxy : ProxyState} (fresh : before.memory (answerPath uuid) = none)
    (lives : before.fault = none)
    (delivery : proxy.delivery.position = before.proxy.delivery.position)
    (position : before.proxy.channel.position = .idleWait)
    (waits : proxy.channel.position = .restWait ↔ (found.input env).answerCreated = true) :
    AnswerStep env before
      (before.channelRest env uuid found copied { before with proxy := proxy }) := by
  have away : before.proxy.channel.position ≠ .restWait := by simp [position]
  unfold channelRest
  split
  · exact answerStep_payload lives
  · rename_i respond made
    dsimp only
    split
    · rename_i faults
      exact .faults lives .channel uuid _ fresh (by simp [hands, position])
        (createAnswer_of_fault faults) rfl (Or.inr ⟨rfl, rfl, rfl⟩) (Or.inl ⟨away, away⟩)
    · rename_i length copied
      have announced : (found.input env).answerCreated = true ↔ 0 < length := by
        unfold ChannelOutcome.input ChannelOutcome.answerLength
        rw [made, Option.bind_some, copied]
        simp
      rw [announced] at waits
      rw [createAnswer_of_made fresh copied]
      by_cases created : 0 < length
      · have whole := (proxyRestCreateAnswer_pos_iff copied).mp created
        refine .rest ⟨lives, lives⟩ uuid respond found fresh position (waits.mpr created) made
          (if_pos created) rfl rfl rfl ?_ (Or.inr ⟨delivery, rfl, rfl⟩)
        dsimp only
        rw [whole]
      · exact .elsewhere (left_eq rfl) (Or.inr ⟨delivery, rfl, rfl⟩)
          (Or.inl ⟨away, fun waiting => created (waits.mp waiting)⟩)
          (Or.inl (if_neg created))

private theorem answerStep_channel {uuid : String} {outcome : ChannelOutcome}
    {copied : Nat} (fresh : before.memory (answerPath uuid) = none)
    (next : before.stepChannel env uuid outcome copied = some after) :
    AnswerStep env before after := by
  obtain ⟨middle, stepped, rfl⟩ := Option.map_eq_some_iff.mp next
  obtain ⟨lives, proxy, moved, rfl⟩ := stepProxy_cases stepped
  have waits := restWait_iff (threadStep_of_step moved)
  have delivery : proxy.delivery.position = before.proxy.delivery.position := by
    refine subscribe_elsewhere ?_ moved
    intro answerCreated impossible
    cases impossible
  -- the thread does not wait with an answer before or after the step
  have elsewhere : before.proxy.channel.position ≠ .restWait →
      ¬(before.proxy.channel.ownerDead = false ∧ before.proxy.channel.state = .rest) →
      AnswerStep env before { before with proxy := proxy } := by
    intro away unasked
    refine .elsewhere (left_eq rfl) (Or.inr ⟨delivery, rfl, rfl⟩) (Or.inl ⟨away, ?_⟩)
      (Or.inl rfl)
    intro waiting
    exact unasked ⟨(waits.mp waiting).2.1, (waits.mp waiting).2.2.1⟩
  cases position : before.proxy.channel.position with
  | idleWait =>
      dsimp only
      have away : before.proxy.channel.position ≠ .restWait := by simp [position]
      split
      · rename_i dead
        exact elsewhere away (by simp [dead])
      · rename_i living
        have alive := Bool.eq_false_iff.mpr living
        split
        · rename_i asked
          unfold channelExchange
          split
          · exact answerStep_payload lives
          · exact elsewhere away (by simp [asked])
        · rename_i asked
          refine answerStep_rest fresh lives delivery position ?_
          rw [waits]
          simp [position, alive, asked]
        · rename_i notRequest notRest
          exact elsewhere away fun asked => notRest asked.2
  | restWait =>
      refine .rested ⟨lives, lives⟩ position ?_ rfl (Or.inr ⟨delivery, rfl, rfl⟩)
      rw [Ne, waits, position]
      simp
  | _ =>
      refine .elsewhere (left_eq rfl) (Or.inr ⟨delivery, rfl, rfl⟩) (Or.inl ⟨?_, ?_⟩)
        (Or.inl rfl)
      · rw [position]
        exact nofun
      · rw [Ne, waits, position]
        simp

/-- What an admissible step can do to the answers. -/
theorem answerStep_of_step {action : AnswerAction} (fresh : before.Fresh action)
    (next : before.step env action = some after) : AnswerStep env before after := by
  cases action with
  | subscribe uuid segment copied => exact answerStep_subscribe fresh next
  | channel uuid outcome copied => exact answerStep_channel fresh next
  | create path text =>
      cases next
      exact .elsewhere (left_eq rfl) (Or.inr ⟨rfl, rfl, rfl⟩)
        (Or.inr ⟨rfl, rfl, rfl, rfl, rfl⟩) (Or.inr (Or.inl ⟨path, text, fresh, rfl⟩))
  | unlink path =>
      cases next
      exact .elsewhere (left_eq rfl) (Or.inr ⟨rfl, rfl, rfl⟩)
        (Or.inr ⟨rfl, rfl, rfl, rfl, rfl⟩) (Or.inr (Or.inr ⟨path, fresh, rfl⟩))
  | other own =>
      unfold step at next
      split at next
      · rename_i impossible
        cases impossible
      · rename_i impossible
        cases impossible
      · cases next
      · cases next
      · rename_i other notSubscribe notChannel same
        cases same
        obtain ⟨lives, proxy, moved, rfl⟩ := stepProxy_cases next
        exact .elsewhere (left_eq rfl)
          (Or.inr ⟨subscribe_elsewhere (fun created same => notSubscribe created same) moved,
            rfl, rfl⟩)
          (Or.inr ⟨(channel_elsewhere (fun input same => notChannel input same) moved).1,
            rfl, rfl, rfl, rfl⟩)
          (Or.inl rfl)
      · rename_i impossible
        cases impossible
      · rename_i impossible
        cases impossible

/-! ## Answers in place -/

/-- Every answer has a code, and the dispatcher reads it back. -/
theorem code_of_respond {env : Environment} {outcome : ChannelOutcome} {respond : String}
    (made : proxyChannelRespond env outcome = some respond) :
    ∃ filled : ProxyRestRespond, filled.code ≠ 0 ∧
      respond = proxyChannelRespondCreate env filled := by
  unfold proxyChannelRespond at made
  split at made
  · cases made
    exact ⟨_, by decide, rfl⟩
  · rename_i proxyRest handler
    obtain ⟨read, _, rfl⟩ := Option.map_eq_some_iff.mp made
    refine ⟨_, ?_, rfl⟩
    unfold proxyRestHandled
    split
    · exact (by decide : (500 : Int32) ≠ 0)
    · dsimp only
      split
      · exact (by decide : (503 : Int32) ≠ 0)
      · assumption

theorem parse_respondCreate (env : Environment) (filled : ProxyRestRespond) :
    ((env.parse (proxyChannelRespondCreate env filled)).bind
      fun tree => tree.getObjectItem "code") = some (.ofInt filled.code.toInt) := by
  unfold proxyChannelRespondCreate
  rw [env.parse_printUnformatted]
  exact Json.getObjectItem_cons_same _ _ rfl

/-- The shared segment names the reply that is kept and gives its length. -/
def ReplyAnnounced (state : AnswerState) (task : QueuedReply) : Prop :=
  state.subscribePath = answerPath state.subscribeShm.aid ∧
    state.subscribeShm.payloadBuffLength = task.task.utf8ByteSize + 1 ∧
    state.subscribeShm.removeRequest = !task.multipleRespond

/-- The shared segment names the answer that is kept, which is the one to the request. -/
def RestAnnounced (env : Environment) (state : AnswerState) : Prop :=
  state.channelPath = answerPath state.channelShm.aid ∧
    state.channelShm.answerBuffLength = state.respond.utf8ByteSize + 1 ∧
    ∃ request ∈ state.request, proxyChannelRespond env request.found = some state.respond

/-- What the shared segments say of the answers; who has died kept none. -/
structure Announced (env : Environment) (state : AnswerState) : Prop where
  reply : ∀ task, state.proxy.delivery.position = .answerWait task →
    state.ReplyAnnounced task
  rest : state.proxy.channel.position = .restWait → state.RestAnnounced env
  apart : ∀ maker, state.left maker ≠ none → state.hands maker = none

theorem SameReply.hands (same : before.SameReply after) :
    after.hands .subscribe = before.hands .subscribe := by
  unfold AnswerState.hands
  rcases same with ⟨early, late⟩ | ⟨position, path, _⟩
  · cases earlier : before.proxy.delivery.position <;>
      cases later : after.proxy.delivery.position <;> simp_all
  · rw [position, path]

theorem SameRest.hands (same : before.SameRest after) :
    after.hands .channel = before.hands .channel := by
  unfold AnswerState.hands
  rcases same with ⟨early, late⟩ | ⟨position, path, respond, _⟩
  · cases earlier : before.proxy.channel.position <;>
      cases later : after.proxy.channel.position <;> simp_all
  · rw [position, path, respond]

theorem hands_eq (reply : before.SameReply after) (rest : before.SameRest after) :
    after.hands = before.hands := by
  funext maker
  cases maker with
  | subscribe => exact reply.hands
  | channel => exact rest.hands

theorem left_of_lives {state : AnswerState} (lives : state.fault = none) (maker : Answerer) :
    state.left maker = none := by
  unfold left
  rw [lives]

theorem keeps_of_lives {state : AnswerState} (lives : state.fault = none) :
    state.keeps = state.hands := by
  funext maker
  unfold keeps
  rw [left_of_lives lives, Option.or_none]

/-- What has been handed over is kept. -/
theorem keeps_of_hands {state : AnswerState} {maker : Answerer} {segment : String × String}
    (hands : state.hands maker = some segment) : state.keeps maker = some segment := by
  unfold keeps
  rw [hands]
  rfl

/-- The shared memory holds what there is of the threads. -/
def Accounts (state : AnswerState) : Prop := state.memory.Accounted state.keeps

theorem accounts_step {action : AnswerAction} (accounted : before.Accounts)
    (fresh : before.Fresh action) (next : before.step env action = some after) :
    after.Accounts := by
  unfold Accounts at accounted ⊢
  cases answerStep_of_step fresh next with
  | reply lives uuid task free position waits memory path shm rest =>
      rw [keeps_of_lives lives.1] at accounted
      rw [memory, keeps_of_lives lives.2]
      refine accounted.create free ?_ ?_ ?_
      · simp [hands, position]
      · simp [hands, waits, path]
      · intro other different
        cases other with
        | subscribe => exact absurd rfl different
        | channel => exact rest.hands
  | replied lives task position leaves memory rest =>
      rw [keeps_of_lives lives.1] at accounted
      rw [memory, keeps_of_lives lives.2]
      have kept : before.hands .subscribe = some (before.subscribePath, task.task) := by
        simp [hands, position]
      refine accounted.unlink kept ?_ ?_
      · unfold hands
        cases later : after.proxy.delivery.position <;> simp_all
      · intro other different
        cases other with
        | subscribe => exact absurd rfl different
        | channel => exact rest.hands
  | rest lives uuid respond found free position waits made memory path keeps request shm reply =>
      rw [keeps_of_lives lives.1] at accounted
      rw [memory, keeps_of_lives lives.2]
      refine accounted.create free ?_ ?_ ?_
      · simp [hands, position]
      · simp [hands, waits, path, keeps]
      · intro other different
        cases other with
        | subscribe => exact reply.hands
        | channel => exact absurd rfl different
  | rested lives position leaves memory reply =>
      rw [keeps_of_lives lives.1] at accounted
      rw [memory, keeps_of_lives lives.2]
      have kept : before.hands .channel = some (before.channelPath, before.respond) := by
        simp [hands, position]
      refine accounted.unlink kept ?_ ?_
      · unfold hands
        cases later : after.proxy.channel.position <;> simp_all
      · intro other different
        cases other with
        | subscribe => exact reply.hands
        | channel => exact absurd rfl different
  | faults lives maker uuid part free idle memory fault reply rest =>
      rw [keeps_of_lives lives] at accounted
      rw [memory]
      refine accounted.create free idle ?_ ?_
      · simp [keeps, hands_eq reply rest, idle, left, fault]
      · intro other different
        simp [keeps, hands_eq reply rest, left, fault, different]
  | elsewhere left reply rest memory =>
      have same : after.keeps = before.keeps := by
        funext maker
        unfold keeps
        rw [left, hands_eq reply rest]
      rw [same]
      rcases memory with memory | ⟨path, text, free, memory⟩ | ⟨path, foreign, memory⟩ <;>
        rw [memory]
      · exact accounted
      · exact accounted.createOutside free
      · exact accounted.unlinkOutside foreign

theorem SameReply.announced (same : before.SameReply after)
    (announced : before.Announced env) (task : QueuedReply)
    (position : after.proxy.delivery.position = .answerWait task) :
    after.ReplyAnnounced task := by
  rcases same with ⟨_, late⟩ | ⟨still, path, shm⟩
  · exact absurd position (late task)
  · unfold ReplyAnnounced
    rw [path, shm]
    exact announced.reply task (still.symm.trans position)

theorem SameRest.announced (same : before.SameRest after) (announced : before.Announced env)
    (position : after.proxy.channel.position = .restWait) : after.RestAnnounced env := by
  rcases same with ⟨_, late⟩ | ⟨still, path, respond, request, shm⟩
  · exact absurd position late
  · unfold RestAnnounced
    rw [path, shm, respond, request]
    exact announced.rest (still.symm.trans position)

theorem announced_step {action : AnswerAction} (announced : before.Announced env)
    (fresh : before.Fresh action) (next : before.step env action = some after) :
    after.Announced env := by
  have alive : before.Lives after → ∀ maker, after.left maker ≠ none →
      after.hands maker = none :=
    fun lives maker behind => absurd (left_of_lives lives.2 maker) behind
  cases answerStep_of_step fresh next with
  | reply lives uuid task free position waits memory path shm rest =>
      refine ⟨fun other waiting => ?_, rest.announced announced, alive lives⟩
      rw [waits] at waiting
      cases waiting
      unfold ReplyAnnounced
      rw [path, shm]
      exact ⟨rfl, rfl, rfl⟩
  | replied lives task position leaves memory rest =>
      exact ⟨fun other waiting => absurd waiting (leaves other), rest.announced announced,
        alive lives⟩
  | rest lives uuid respond found free position waits made memory path keeps request shm reply =>
      refine ⟨reply.announced announced, fun _ => ?_, alive lives⟩
      unfold RestAnnounced
      rw [path, shm, keeps, request]
      exact ⟨rfl, rfl, _, rfl, made⟩
  | rested lives position leaves memory reply =>
      exact ⟨reply.announced announced, fun waiting => absurd waiting leaves, alive lives⟩
  | faults lives maker uuid part free idle memory fault reply rest =>
      refine ⟨reply.announced announced, rest.announced announced, fun other behind => ?_⟩
      rw [hands_eq reply rest]
      by_cases same : other = maker
      · rw [same, idle]
      · simp [left, fault, same] at behind
  | elsewhere left reply rest memory =>
      refine ⟨reply.announced announced, rest.announced announced, ?_⟩
      rw [left, hands_eq reply rest]
      exact announced.apart

theorem accounts_of_reaches {state : AnswerState}
    (reached : Runs.Reaches (step env) Fresh initial state) : state.Accounts := by
  apply reached.invariant
  · intro maker name content
    cases maker <;> exact ⟨nofun, nofun⟩
  · intro before action after accounts fresh next
    exact accounts_step accounts fresh next

theorem announced_of_reaches {state : AnswerState}
    (reached : Runs.Reaches (step env) Fresh initial state) : state.Announced env := by
  apply reached.invariant
  · exact ⟨nofun, nofun, fun _ => absurd rfl⟩
  · intro before action after announced fresh next
    exact announced_step announced fresh next

/-- The announced reply is in shared memory. -/
def ReplyInPlace (state : AnswerState) (task : QueuedReply) : Prop :=
  state.memory (answerPath state.subscribeShm.aid) = some (some .subscribe, task.task) ∧
    state.subscribeShm.payloadBuffLength = task.task.utf8ByteSize + 1 ∧
    state.subscribeShm.removeRequest = !task.multipleRespond

/-- The announced answer is in shared memory, and it is what `proxy_channel_rest` makes of
the request. -/
def RestInPlace (env : Environment) (state : AnswerState) (request : RestRequest) : Prop :=
  proxyChannelRespond env request.found = some state.respond ∧
    state.memory (answerPath state.channelShm.aid) = some (some .channel, state.respond) ∧
    state.channelShm.answerBuffLength = state.respond.utf8ByteSize + 1

/-- The answers in shared memory are those whose exchange is going on, under the uuid
and with the length that the shared segment gives, and the segment of a thread that has
died in the copy. -/
structure AnswersInPlace (env : Environment) (state : AnswerState) : Prop where
  reply : ∀ task, state.proxy.delivery.position = .answerWait task → state.ReplyInPlace task
  rest : state.proxy.channel.position = .restWait →
    ∃ request ∈ state.request, state.RestInPlace env request
  replies : ∀ path text, state.memory path = some (some .subscribe, text) →
    (∃ task, state.proxy.delivery.position = .answerWait task ∧
      path = answerPath state.subscribeShm.aid) ∨
      state.fault = some (.answer .subscribe path text)
  rests : ∀ path text, state.memory path = some (some .channel, text) →
    (state.proxy.channel.position = .restWait ∧ path = answerPath state.channelShm.aid) ∨
      state.fault = some (.answer .channel path text)
  left : ∀ maker path part, state.fault = some (.answer maker path part) →
    state.memory path = some (some maker, part)

theorem reply_in_place {state : AnswerState} {task : QueuedReply}
    (reached : Runs.Reaches (step env) Fresh initial state)
    (position : state.proxy.delivery.position = .answerWait task) :
    state.ReplyInPlace task := by
  obtain ⟨path, length, remove⟩ := (announced_of_reaches reached).reply task position
  refine ⟨?_, length, remove⟩
  rw [← path]
  exact (accounts_of_reaches reached .subscribe _ _).mpr
    (keeps_of_hands (by simp [hands, position]))

theorem rest_in_place {state : AnswerState}
    (reached : Runs.Reaches (step env) Fresh initial state)
    (position : state.proxy.channel.position = .restWait) :
    ∃ request ∈ state.request, state.RestInPlace env request := by
  obtain ⟨path, length, request, asked, respond⟩ := (announced_of_reaches reached).rest position
  refine ⟨request, asked, respond, ?_, length⟩
  rw [← path]
  exact (accounts_of_reaches reached .channel _ _).mpr
    (keeps_of_hands (by simp [hands, position]))

/-- What is kept and not handed over was left behind. -/
theorem fault_of_keeps {state : AnswerState} {maker : Answerer} {path text : String}
    (kept : state.keeps maker = some (path, text)) (idle : state.hands maker = none) :
    state.fault = some (.answer maker path text) := by
  unfold keeps left at kept
  rw [idle, Option.none_or] at kept
  split at kept
  · rename_i faulty other part fault
    split at kept
    · rename_i same
      cases kept
      rw [fault, same]
    · cases kept
  · cases kept

/-- No answer is lost, and none is left behind but by a death in the copy. -/
theorem answers_in_place {state : AnswerState}
    (reached : Runs.Reaches (step env) Fresh initial state) : state.AnswersInPlace env := by
  have accounted := accounts_of_reaches reached
  have announced := announced_of_reaches reached
  refine ⟨fun _ => reply_in_place reached, rest_in_place reached, ?_, ?_, ?_⟩
  · intro path text found
    have kept := (accounted .subscribe path text).mp found
    cases position : state.proxy.delivery.position with
    | answerWait task =>
        have handed : state.hands .subscribe = some (state.subscribePath, task.task) := by
          simp [hands, position]
        rw [keeps_of_hands handed, Option.some.injEq, Prod.mk.injEq] at kept
        exact Or.inl ⟨task, rfl, kept.1.symm.trans (announced.reply task position).1⟩
    | _ => exact Or.inr (fault_of_keeps kept (by simp [hands, position]))
  · intro path text found
    have kept := (accounted .channel path text).mp found
    cases position : state.proxy.channel.position with
    | restWait =>
        have handed : state.hands .channel = some (state.channelPath, state.respond) := by
          simp [hands, position]
        rw [keeps_of_hands handed, Option.some.injEq, Prod.mk.injEq] at kept
        exact Or.inl ⟨rfl, kept.1.symm.trans (announced.rest position).1⟩
    | _ => exact Or.inr (fault_of_keeps kept (by simp [hands, position]))
  · intro maker path part fault
    have behind : state.left maker = some (path, part) := by simp [left, fault]
    refine (accounted maker path part).mpr ?_
    unfold keeps
    rw [announced.apart maker (by simp [behind]), behind]
    rfl

/-- The calls to the operating system succeed and the application refuses requests. -/
def works : SegmentOutcome where
  opened := true
  mapped := true
  stored := true

def refuses : ChannelOutcome where
  payload := works
  text := ""
  answer := {
    result := .invalid
    normalizedPayload := .null
    unsubscribe := false
    invalidStatus := 7 }
  rest := none
  restAnswer := works

/-- A refused request and a REST request, with the answers to both announced. -/
def bothActions : List AnswerAction :=
  [.create "/r1" (JsonText.print (serviceAndPayloadObject "s" none)), .channel "u" refuses 0,
    .other (.request "r1" true), .channel "u" refuses 0, .other .sees,
    .other (.channelState .done true)] ++
  List.replicate 5 (.channel "u" refuses 0) ++
  [.other (.rest "r2" true), .channel "a1" refuses 0] ++
  List.replicate 5 (.subscribe "a2" works 0)

theorem answers_in_place_both :
    ∃ state : AnswerState,
      ((state.hands .subscribe).isSome = true ∧ (state.hands .channel).isSome = true) ∧
        state.AnswersInPlace .reference := by
  obtain ⟨state, reached, tested⟩ :=
    Runs.reaches_of_execute_test (step .reference) Fresh bothActions initial
      (fun state => decide (
        (state.hands .subscribe).isSome = true ∧ (state.hands .channel).isSome = true))
      (by decide +kernel)
  exact ⟨state, of_decide_eq_true tested, answers_in_place reached⟩

end AnswerState

end Sawang
