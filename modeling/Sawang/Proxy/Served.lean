import Sawang.Board.Departures
import Sawang.Board.Origins
import Sawang.Board.Recipients
import Sawang.Board.SingleShot
import Sawang.Proxy.Callbacks
import Sawang.Proxy.Settling

/-!
# From a confirmation to its end

What the dispatcher is offered goes back to requests it has confirmed.  Where the threads
have come to rest, every confirmed request has been refused or handed to the application,
or its unsubscription has been worked off.
-/

namespace Sawang

open Board ProxyState

/-- The channel thread waits for a request and is not signalled. -/
def Channel.parked (channel : Channel) : Bool :=
  match channel.position with
  | .idleWait => !channel.wakeup
  | _ => false

/-! ## Replies in the queue -/

namespace Delivery

/-- The appended replies that name the uuid. -/
def postedTo (env : Environment) (uuid : String) (delivery : Delivery) : List QueuedReply :=
  delivery.posted.filter fun task => uuid ∈ task.recipients env

/-- What the subscribe thread tries to hand over was appended. -/
def OffersPosted (delivery : Delivery) : Prop :=
  ∀ task, .attempted task ∈ delivery.traffic → task ∈ delivery.posted

theorem offersPosted_step {before after : Delivery} {action : Move}
    (orderly : before.Orderly) (offers : before.OffersPosted)
    (step : DeliveryStep before action after) : after.OffersPosted := by
  have exchanged : ∀ {task : QueuedReply}, before.position = .shmLock task →
      task ∈ before.posted := by
    intro task position
    apply orderly.conserved.ordered.subset
    change task ∈ before.failedTask ++ before.exchanging ++ before.replyQueue
    simp [exchanging, position]
  intro task member
  cases step with
  | append ticket => exact List.mem_append_left _ (offers task member)
  | finish position past =>
      apply offers
      simpa using member
  | exchange position owned =>
      simp only [List.mem_cons, reduceCtorEq, SubscribeEvent.attempted.injEq,
        false_or] at member
      rcases member with rfl | old
      · exact exchanged position
      · exact offers task old
  | unsent position owned =>
      simp only [List.mem_cons, reduceCtorEq, SubscribeEvent.attempted.injEq,
        false_or] at member
      rcases member with rfl | old
      · exact exchanged position
      · exact offers task old
  | startPass position =>
      simp only [List.mem_cons, reduceCtorEq, false_or] at member
      exact offers task member
  | abandon position | deliver position woken done | fail position woken live undone
  | reset position | stopSegment =>
      simp only [List.mem_cons, reduceCtorEq, false_or] at member
      exact offers task member
  | _ => exact offers task member

theorem offersPosted_of_reaches {delivery : Delivery}
    (reached : Runs.Reaches move Runs.unrestricted initial delivery) :
    delivery.OffersPosted := by
  apply reached.invariant_of fun _ earlier => orderly_of_reaches earlier
  · intro task member
    cases member
  · intro before action after orderly offers _ moved
    exact offersPosted_step orderly offers (deliveryStep_of_move moved)

/-- While the subscribe thread waits for a signal no reply is on its way: it was delivered
or is in the queue. -/
theorem Orderly.place_of_wait {delivery : Delivery} (orderly : delivery.Orderly)
    (position : delivery.position = .wait) {task : QueuedReply}
    (posted : task ∈ delivery.posted) :
    task ∈ delivery.delivered ∨ task ∈ delivery.replyQueue := by
  have undiscarded : delivery.discarded = [] := by
    by_contra some
    have leaves := orderly.tidy.ends (orderly.tidy.discards some)
    simp [leaving, position] at leaves
  have aside : delivery.failedTask = [] := orderly.tidy.aside (by simp [inPass, position])
  have member := orderly.conserved.once.mem_iff.mpr posted
  simp only [line, aside, exchanging, position, undiscarded, List.mem_append,
    List.append_nil, List.nil_append] at member
  exact member.symm

end Delivery

namespace ProxyState

variable {env : Environment} {state : ProxyState}

/-- The replies that name a uuid are appended as the board records them. -/
theorem Posted.postedTo (posted : state.Posted env) (uuid : String) :
    (state.delivery.postedTo env uuid).map QueuedReply.toReplyQueueTask =
      (state.board.repliesNaming env uuid).reverse := by
  calc (state.delivery.postedTo env uuid).map QueuedReply.toReplyQueueTask
      = (state.delivery.posted.map QueuedReply.toReplyQueueTask).filter
          fun reply => uuid ∈ reply.recipients env := by
        rw [List.filter_map]
        rfl
    _ = (state.board.replies env).reverse.filter fun reply => uuid ∈ reply.recipients env := by
        rw [posted]
    _ = (state.board.repliesNaming env uuid).reverse := List.filter_reverse ..

/-- Where what the dispatcher is offered comes from. -/
structure Traced (env : Environment) (state : ProxyState) : Prop where
  /-- The subscribe thread offers what was appended to the reply queue. -/
  offered : ∀ task, .attempted task ∈ state.delivery.traffic → task ∈ state.delivery.posted
  /-- The replies were appended one by one by the events that queue a reply. -/
  posted : state.delivery.posted.map QueuedReply.toReplyQueueTask =
    (state.board.replies env).reverse
  origin : ∀ event past, event :: past <:+ state.board.history → event.reply env ≠ none →
    Origin env state.board past event
  /-- A call queues one reply if it has found somebody, and none otherwise. -/
  calls : state.board.QueuedByCalls env
  document : ∀ task ∈ state.delivery.posted, Document env state.board task.toReplyQueueTask
  /-- A refused request is named by its refusal only. -/
  refused : ∀ rid status, .rejected rid status ∈ state.board.history →
    ∃ task, state.delivery.postedTo env rid = [task] ∧
      task.toReplyQueueTask = invalidStatusReply env rid status

theorem refused_once
    (reached : Runs.Reaches (step env) (Lifted Board.Fresh) initial state) {rid : String}
    {status : Int32} (rejected : .rejected rid status ∈ state.board.history) :
    ∃ task, state.delivery.postedTo env rid = [task] ∧
      task.toReplyQueueTask = invalidStatusReply env rid status := by
  obtain ⟨wellformed, caused⟩ := caused_of_reaches (board_reaches reached)
  have posted := (posted_of_reaches reached).postedTo rid
  rw [caused.refused wellformed.ledger rejected] at posted
  obtain ⟨task, same, refusal⟩ := List.map_eq_singleton_iff.mp posted
  exact ⟨task, same, refusal⟩

/-- What the dispatcher is offered answers requests it has confirmed before. -/
theorem replies_traced
    (reached : Runs.Reaches (step env) (Lifted Board.Fresh) initial state) :
    state.Traced env where
  offered := Delivery.offersPosted_of_reaches (delivery_reaches reached)
  posted := posted_of_reaches reached
  origin := (caused_of_reaches (board_reaches reached)).2.replies
  calls := queuedByCalls_of_reaches (board_reaches reached)
  document := by
    intro task posted
    apply (queuedByCalls_of_reaches (board_reaches reached)).document
    have member := List.mem_map_of_mem (f := QueuedReply.toReplyQueueTask) posted
    rw [posted_of_reaches reached] at member
    exact List.mem_reverse.mp member
  refused := fun _ _ => refused_once reached

/-- The dispatcher sends one request that is accepted and one that is refused; the task
of the first is run, and the refusal of the second is taken. -/
def servedActions : List Action :=
  requestActions "s" (.object []) .singleshot false "r1" 5 ++ commActions 6 ++
    requestActions "s" (.object []) .invalid false "r2" 5 ++
    List.replicate 5 (.subscribe true) ++ [.subscribeState .done true] ++
    List.replicate 5 (.subscribe true)

theorem replies_traced_refused :
    ∃ state : ProxyState, state.delivery.delivered.length = 1 ∧ state.Traced .reference := by
  obtain ⟨state, reached, tested⟩ :=
    Runs.reaches_of_execute_test (step .reference) (Lifted Board.Fresh) servedActions .initial
      (fun state => decide (state.delivery.delivered.length = 1))
      (by decide +kernel)
  exact ⟨state, of_decide_eq_true tested, replies_traced reached⟩

end ProxyState

/-! ## Served requests -/

/-- The tasks of a request are among its effects. -/
theorem Board.enqueuedTasks_filter (board : Board) (rid : String) :
    board.enqueuedTasks.filter (fun task => task.rid == rid) =
      (effects rid board.history).filterMap Event.enqueuedTask := by
  unfold enqueuedTasks effects
  rw [← List.filterMap_eq_filter, List.filterMap_filterMap, List.filterMap_filter]
  apply List.filterMap_congr
  intro event _
  cases event <;> simp [Event.enqueuedTask, Event.effectOn, Option.guard]

namespace ProxyState

variable {env : Environment} {state : ProxyState}

/-- The dispatcher took the reply, or an attempt to hand it over failed: the dispatcher
refused it, or the proxy could not put it into shared memory. -/
def Handed (state : ProxyState) (reply : QueuedReply) : Prop :=
  reply ∈ state.delivery.delivered ∨ .failed reply ∈ state.delivery.traffic

/-- The request of a task is listed, or has left its table as it should: through a reply
that names it, or through an unsubscription. -/
inductive Kept (env : Environment) (state : ProxyState) (task : ParseQueueTask) : Prop
  | listed (member : task.rid ∈ (state.board.table task.type).uuids task.taskKey)
  | answered {reply : QueuedReply} (single : task.type = .singleshot)
      (named : reply ∈ state.delivery.postedTo env task.rid) (handed : state.Handed reply)
  | unsubscribed {other : ParseQueueTask} (several : task.type = .multirespond)
      (taken : other ∈ state.board.dequeuedTasks)
      (drops : other.Drops task.taskKey task.rid)

/-- What has become of a confirmed request. -/
inductive Served (env : Environment) (state : ProxyState) (rid : String) : Prop
  | refused {status : Int32} {reply : QueuedReply}
      (outcome : effects rid state.board.history = [.rejected rid status])
      (posted : state.delivery.postedTo env rid = [reply])
      (refusal : reply.toReplyQueueTask = invalidStatusReply env rid status)
      (handed : state.Handed reply)
  | ran {task : ParseQueueTask} (own : task.rid = rid)
      (outcome : effects rid state.board.history =
        [.enqueued task, .registered task.type task.taskKey rid false])
      (once : state.board.ranTasks.filter (fun other => other.rid == rid) = [task])
      (kept : Kept env state task)
  | unsubscribed {task : ParseQueueTask} (own : task.rid = rid)
      (drops : task.unsubscribeTaskKey ≠ none)
      (outcome : effects rid state.board.history =
        [.registered task.type task.taskKey rid true, .enqueued task])
      (taken : state.board.dequeuedTasks.filter (fun other => other.rid == rid) = [task])
      (unrun : state.board.ranTasks.filter (fun other => other.rid == rid) = [])
      (kept : Kept env state task)

/-- What is left to show once every call has returned and every reply has been offered. -/
private theorem kept_of_registered
    (reached : Runs.Reaches (step env) (Lifted Board.Fresh) initial state)
    (settled : state.Settled) (handed : ∀ reply ∈ state.delivery.posted, state.Handed reply)
    {task : ParseQueueTask} {unsubscribe : Bool}
    (registered : .registered task.type task.taskKey task.rid unsubscribe ∈
      state.board.history) : Kept env state task := by
  cases type : task.type with
  | singleshot =>
      rw [type] at registered
      rcases allAccounted_of_reaches (board_reaches reached) _ _ _ registered with
        listed | ⟨call, member, dropped⟩ | ⟨event, member, names⟩
      · exact .listed (by rw [type]; exact listed)
      · simp only [ReplyCall.HasDropped, settled.calls call member] at dropped
      · obtain ⟨reply, replied, recipient⟩ := named_of_names member names
        have naming : reply ∈ (state.board.repliesNaming env task.rid).reverse :=
          List.mem_reverse.mpr
            (List.mem_filter.mpr ⟨replied, decide_eq_true recipient⟩)
        rw [← (posted_of_reaches reached).postedTo] at naming
        obtain ⟨queued, there, _⟩ := List.mem_map.mp naming
        exact .answered type there (handed queued (List.mem_filter.mp there).1)
  | multirespond =>
      rw [type] at registered
      have kept := subscribersKept_of_reaches
        ((board_reaches reached).mono fun _ _ _ => trivial)
      rcases kept _ _ _ registered with listed | ⟨other, taken, drops⟩
      · exact .listed (by rw [type]; exact listed)
      · exact .unsubscribed type taken drops

/-- Where the threads stand still, but for a dispatcher that owes no reaction, every
confirmed request has been served. -/
theorem requests_served
    (reached : Runs.Reaches (step env) (Lifted Board.Fresh) initial state)
    (running : state.board.crashed = false) (answered : state.delivery.unanswered = false)
    (comm : state.comm.position ≠ .finished)
    (subscribe : state.delivery.position ≠ .finished) (stuck : state.Stuck env) :
    ∀ rid ∈ state.board.confirmed, state.Served env rid := by
  have settled := settled_of_stuck reached running answered stuck
  -- every reply has been offered
  have waits : state.delivery.position = .wait := by
    rcases Delivery.blocked_thread (stuck.subscribe running) with
      finished | waits | ⟨parked, _⟩
    · exact absurd finished subscribe
    · rw [waits] at answered
      cases answered
    · exact parked
  have orderly := Delivery.orderly_of_reaches (delivery_reaches reached)
  have handed : ∀ reply ∈ state.delivery.posted, state.Handed reply := by
    intro reply posted
    exact (orderly.place_of_wait waits posted).imp_right
      (settled.replies.resolve_left subscribe reply)
  -- every task queued has been taken, and every task taken has been run
  have ordered := ordered_of_reaches reached
  have taken : state.board.dequeuedTasks = state.board.enqueuedTasks := by
    rw [ordered.queue, settled.tasks.resolve_left comm]
    rfl
  have ran : state.board.ranTasks = state.board.enqueuedTasks.filter ParseQueueTask.runs := by
    rw [← taken, ← ordered.ran, settled.work]
    rfl
  intro rid confirmed
  have dequeued := enqueuedTasks_filter state.board rid
  have once : state.board.ranTasks.filter (fun task => task.rid == rid) =
      ((effects rid state.board.history).filterMap Event.enqueuedTask).filter
        ParseQueueTask.runs := by
    rw [ran, ← dequeued, List.filter_filter, List.filter_filter]
    simp only [Bool.and_comm]
  rw [← taken] at dequeued
  have outcome : Outcome rid (effects rid state.board.history) := by
    cases (caused_of_reaches (board_reaches reached)).1.ledger.progress with
    | idle free outcomes => exact outcomes rid confirmed
    | busy working member stage outcomes =>
        rw [settled.job] at stage
        cases stage
  have recorded : ∀ event ∈ effects rid state.board.history, event ∈ state.board.history :=
    fun event there => (mem_effects_iff.mp there).1
  generalize known : effects rid state.board.history = events at outcome once recorded dequeued
  cases outcome with
  | rejected status =>
      obtain ⟨reply, posted, refusal⟩ :=
        refused_once reached (recorded _ List.mem_cons_self)
      have named : reply ∈ state.delivery.postedTo env rid := by
        rw [posted]
        exact List.mem_cons_self
      exact .refused known posted refusal (handed reply (List.mem_filter.mp named).1)
  | @queued type taskKey task own key kind normal =>
      subst own key kind
      refine .ran rfl known ?_ ?_
      · rw [once]
        simp [Event.enqueuedTask, ParseQueueTask.runs, normal]
      · exact kept_of_registered reached settled handed
          (recorded _ (List.mem_cons_of_mem _ List.mem_cons_self))
  | @unsubscribed taskKey task own key kind drops =>
      subst own key
      rw [← kind] at known recorded
      refine .unsubscribed rfl drops known ?_ ?_ ?_
      · rw [dequeued]
        rfl
      · rw [once]
        simp [Event.enqueuedTask, ParseQueueTask.runs, drops]
      · exact kept_of_registered reached settled handed (recorded _ List.mem_cons_self)

/-- Every thread waits for a signal, and no call is going on. -/
def Parked (state : ProxyState) : Prop :=
  state.channel.parked = true ∧
    (state.comm.position = .wait ∧ state.comm.wakeup = false) ∧
    (state.delivery.position = .wait ∧ state.delivery.subscribeWakeup = false) ∧
    (state.main = .running ∧ state.proxyExit = false) ∧
    ∀ call ∈ state.board.calls, call.position = .returned

instance (state : ProxyState) : Decidable state.Parked := by
  unfold Parked
  infer_instance

theorem Parked.stuck (parked : state.Parked) : state.Stuck env := by
  obtain ⟨channel, comm, delivery, main, calls⟩ := parked
  intro action own
  unfold step
  split
  · rfl
  · cases action with
    | channel input =>
        unfold Channel.parked at channel
        split at channel
        · rename_i position
          simp only [Bool.not_eq_true'] at channel
          simp [stepChannel, position, channel]
        · cases channel
    | comm input => simp [stepComm, comm]
    | subscribe answerCreated =>
        simp [moveDelivery, Delivery.move, Delivery.thread, delivery]
    | main => simp [stepMain, main]
    | reply index =>
        have returned : state.board.move env (.reply index) = none := by
          unfold Board.move
          split
          · rfl
          · cases there : state.board.calls[index]? with
            | none => simp [there]
            | some call =>
                simp [there, Board.replyOp, calls call (List.mem_of_getElem? there)]
        simp [perform, returned]
    | _ => cases own

/-- One request was run, the other refused. -/
theorem requests_served_parked :
    ∃ state : ProxyState, state.board.confirmed = ["r2", "r1"] ∧
      ∀ rid ∈ state.board.confirmed, state.Served .reference rid := by
  obtain ⟨state, reached, tested⟩ :=
    Runs.reaches_of_execute_test (step .reference) (Lifted Board.Fresh) servedActions .initial
      (fun state => decide (state.board.confirmed = ["r2", "r1"] ∧
        state.board.crashed = false ∧ state.delivery.unanswered = false ∧ state.Parked))
      (by decide +kernel)
  obtain ⟨confirmed, running, answered, parked⟩ := of_decide_eq_true tested
  have comm : state.comm.position ≠ .finished := by
    rw [parked.2.1.1]
    exact nofun
  have subscribe : state.delivery.position ≠ .finished := by
    rw [parked.2.2.1.1]
    exact nofun
  exact ⟨state, confirmed,
    requests_served reached running answered comm subscribe parked.stuck⟩

end ProxyState
end Sawang
