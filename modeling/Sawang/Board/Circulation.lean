import Sawang.Board.Step

/-!
# What circulates between the threads

The channel thread works off its statements and queues tasks; the comm thread turns a
task into statements of its own.  A property that is handed on from each to what
follows from it is kept by every move, whatever it says.
-/

namespace Sawang

namespace Board

/-- Everything in circulation has its property. -/
structure Circulates (channel : ChannelOp → Prop) (queued : ParseQueueTask → Prop)
    (comm : CommOp → Prop) (board : Board) : Prop where
  job : ∀ op ∈ board.job, channel op
  queue : ∀ task ∈ board.parseQueue, queued task
  work : ∀ op ∈ board.work, comm op

/-- A move on the board starts with the properties and hands them on. -/
structure HandsOn (env : Environment) (channel : ChannelOp → Prop)
    (queued : ParseQueueTask → Prop) (comm : CommOp → Prop) (board : Board) (action : Move) :
    Prop where
  starts : ∀ exchange rid, action = .confirm exchange rid →
    ∀ op ∈ exchangeJob env exchange rid, channel op
  replies : ∀ rid status, channel (.replyQueueAppendInvalidStatus rid status)
  awakes : channel .subscribeAwake ∧ channel .commAwake
  registers : ∀ type taskKey rid, channel (.respondTableSet type taskKey rid) →
    channel (.parseQueueAppend (parseQueueTask taskKey none none type rid))
  resolves : ∀ payload taskKey rid rest unsubscribeTaskKey unsubscribeUuid,
    action = .channel →
    board.job = .createUnsubscribeTaskKey payload taskKey rid :: rest →
    createUnsubscribeTaskKey env board.multirespond payload =
      .ok (unsubscribeTaskKey, unsubscribeUuid) →
    channel (.createUnsubscribeTaskKey payload taskKey rid) →
    channel (.parseQueueAppend (parseQueueTask taskKey (some unsubscribeTaskKey)
        (some unsubscribeUuid) .singleshot rid)) ∧
      channel (.respondTableSetUnsubscribe taskKey rid)
  enqueues : ∀ task, channel (.parseQueueAppend task) → queued task
  dequeues : ∀ task, queued task → ∀ op ∈ taskWork task, comm op
  calls : comm .callback ∧ ∀ index, comm (.awaitReply index)
  lists : ∀ uuid, comm (.dropRequest uuid)
  finds : ∀ uuid taskKey, board.multirespond.dupTaskKey env uuid = some taskKey →
    comm (.respondTableDrop taskKey uuid)
  clears : ∀ op taskKey uuid, op.drops = some (taskKey, uuid) → comm op →
    comm (.multirespondClear taskKey)

variable {env : Environment} {before after : Board} {channel : ChannelOp → Prop}
  {queued : ParseQueueTask → Prop} {comm : CommOp → Prop}

/-- The first of a thread's statements, and what is left behind it. -/
theorem forall_head_tail {α : Type} {holds : α → Prop} {op : α} {rest all : List α}
    (before : ∀ other ∈ all, holds other) (next : all = op :: rest) :
    holds op ∧ ∀ other ∈ rest, holds other :=
  List.forall_mem_cons.mp (next ▸ before)

/-- A statement put in front of the others. -/
theorem forall_push {α : Type} {holds : α → Prop} {op : α} {rest : List α} (own : holds op)
    (others : ∀ other ∈ rest, holds other) : ∀ other ∈ op :: rest, holds other :=
  List.forall_mem_cons.mpr ⟨own, others⟩

private theorem circulates_channel (handsOn : HandsOn env channel queued comm before .channel)
    (step : BoardStep env before .channel after)
    (circulates : Circulates channel queued comm before) :
    Circulates channel queued comm after := by
  obtain ⟨job, queue, work⟩ := circulates
  cases step with
  | crash may => cases may
  | reject next => exact ⟨(forall_head_tail job next).2, queue, work⟩
  | channelAwake next awakes => exact ⟨(forall_head_tail job next).2, queue, work⟩
  | refuse next refused =>
      have rest := (forall_head_tail job next).2
      have awoken := forall_push handsOn.awakes.1 rest
      exact ⟨forall_push (handsOn.replies _ _) awoken, queue, work⟩
  | accept next resolved =>
      obtain ⟨own, rest⟩ := forall_head_tail job next
      obtain ⟨enqueues, registers⟩ := handsOn.resolves _ _ _ _ _ _ rfl next resolved own
      have awoken := forall_push handsOn.awakes.2 rest
      exact ⟨forall_push enqueues (forall_push registers awoken), queue, work⟩
  | subscribed next new =>
      obtain ⟨own, rest⟩ := forall_head_tail job next
      have awoken := forall_push handsOn.awakes.2 rest
      exact ⟨forall_push (handsOn.registers _ _ _ own) awoken, queue, work⟩
  | subscribedBefore next old => exact ⟨(forall_head_tail job next).2, queue, work⟩
  | registered next =>
      obtain ⟨own, rest⟩ := forall_head_tail job next
      have awoken := forall_push handsOn.awakes.2 rest
      exact ⟨forall_push (handsOn.registers _ _ _ own) awoken, queue, work⟩
  | registeredUnsubscribe next => exact ⟨(forall_head_tail job next).2, queue, work⟩
  | enqueue next =>
      obtain ⟨own, rest⟩ := forall_head_tail job next
      have last := List.forall_mem_singleton.mpr (handsOn.enqueues _ own)
      exact ⟨rest, List.forall_mem_append.mpr ⟨queue, last⟩, work⟩

private theorem circulates_comm {input : CommInput}
    (handsOn : HandsOn env channel queued comm before (.comm input))
    (step : BoardStep env before (.comm input) after)
    (circulates : Circulates channel queued comm before) :
    Circulates channel queued comm after := by
  obtain ⟨job, queue, work⟩ := circulates
  cases step with
  | crash may => exact ⟨job, queue, work⟩
  | dequeue free head =>
      obtain ⟨task, rest⟩ := forall_head_tail queue head
      exact ⟨job, rest, handsOn.dequeues _ task⟩
  | dropAbsent next drops absent => exact ⟨job, queue, (forall_head_tail work next).2⟩
  | dropLast next drops present last clears =>
      obtain ⟨own, rest⟩ := forall_head_tail work next
      exact ⟨job, queue, forall_push (handsOn.clears _ _ _ drops own) rest⟩
  | dropQuiet next drops present several => exact ⟨job, queue, (forall_head_tail work next).2⟩
  | clear next built =>
      exact ⟨job, queue, forall_push handsOn.calls.1 (forall_head_tail work next).2⟩
  | confirmCall next built =>
      exact ⟨job, queue, forall_push (handsOn.calls.2 _) (forall_head_tail work next).2⟩
  | awaited next there finished => exact ⟨job, queue, (forall_head_tail work next).2⟩
  | run next built normal =>
      exact ⟨job, queue, forall_push handsOn.calls.1 (forall_head_tail work next).2⟩
  | runDrop next built drop =>
      refine ⟨job, queue, List.forall_mem_append.mpr ⟨?_, (forall_head_tail work next).2⟩⟩
      exact List.forall_mem_map.mpr fun uuid _ => handsOn.lists uuid
  | callbackReturn next => exact ⟨job, queue, (forall_head_tail work next).2⟩
  | callbackReply next =>
      have rest := (forall_head_tail work next).2
      have returns := forall_push handsOn.calls.1 rest
      exact ⟨job, queue, forall_push (handsOn.calls.2 _) returns⟩
  | requestUnknown next => exact ⟨job, queue, (forall_head_tail work next).2⟩
  | requestFound next resolved =>
      have rest := (forall_head_tail work next).2
      exact ⟨job, queue, forall_push (handsOn.finds _ _ resolved) rest⟩

/-- A move keeps what it hands on. -/
theorem circulates_step {action : Move}
    (handsOn : HandsOn env channel queued comm before action)
    (step : BoardStep env before action after)
    (circulates : Circulates channel queued comm before) :
    Circulates channel queued comm after := by
  cases action with
  | channel => exact circulates_channel handsOn step circulates
  | comm input => exact circulates_comm handsOn step circulates
  | confirm exchange rid =>
      obtain ⟨job, queue, work⟩ := circulates
      cases step with
      | crash may => cases may
      | confirm idle => exact ⟨handsOn.starts exchange rid rfl, queue, work⟩
  | reply index =>
      obtain ⟨job, queue, work⟩ := circulates
      cases step <;> exact ⟨job, queue, work⟩
  | proxyReply arg headers payload =>
      obtain ⟨job, queue, work⟩ := circulates
      cases step <;> exact ⟨job, queue, work⟩
  | channelCrash =>
      obtain ⟨job, queue, work⟩ := circulates
      cases step
      exact ⟨job, queue, work⟩

/-- Whoever is subscribed after a move was so before, or the move registers him. -/
theorem subscribed_of_step {action : Move} {taskKey uuid : String}
    (step : BoardStep env before action after)
    (member : uuid ∈ after.multirespond.uuids taskKey) :
    uuid ∈ before.multirespond.uuids taskKey ∨
      ∃ rest, before.job = .respondTableSet .multirespond taskKey uuid :: rest := by
  cases step with
  | subscribed next new =>
      rcases RespondTable.mem_uuids_set.mp member with old | ⟨rfl, rfl⟩
      · exact Or.inl old
      · exact Or.inr ⟨_, next⟩
  | dropLast next drops present last clears =>
      exact Or.inl (RespondTable.mem_uuids_drop.mp member).1
  | dropQuiet next drops present several =>
      exact Or.inl (RespondTable.mem_uuids_drop.mp member).1
  | _ => exact Or.inl member

end Board

end Sawang
