import Sawang.Board.Effort
import Sawang.Delivery.Conservation
import Sawang.Proxy.Consumers
import Sawang.Proxy.Shutdown

/-!
# The threads come to rest

Left to themselves, with no message from the dispatcher and no further call of the
application, the threads of the proxy stop after finitely many steps in whatever order
they run.
-/

namespace Sawang

open ProxyState

/-! ## Work in layers -/

/-- What may be left to do; every thread adds only to what stands behind its own. -/
inductive Layer where
  | crash
  | main
  | signal
  | job
  | tasks
  | lookups
  | replies
  | channel
  | comm
  | pass
  | place
deriving DecidableEq

namespace Layer

def rank : Layer → Fin 11
  | .crash => 0
  | .main => 1
  | .signal => 2
  | .job => 3
  | .tasks => 4
  | .lookups => 5
  | .replies => 6
  | .channel => 7
  | .comm => 8
  | .pass => 9
  | .place => 10

theorem rank_injective : Function.Injective rank := by
  intro first second same
  cases first <;> cases second <;> first | rfl | cases same

instance : LinearOrder Layer := LinearOrder.lift' rank rank_injective

instance : Finite Layer := Finite.of_injective rank rank_injective

end Layer

/-- The main thread's stages that are left. -/
def MainPosition.remaining (position : MainPosition) : Nat := 8 - position.stage

namespace Channel

/-- A wait that is over. -/
def signal (channel : Channel) : Nat :=
  match channel.position with
  | .idleWait | .acknowledgeWait _ | .restWait => if channel.wakeup then 1 else 0
  | .loop | .job | .finished => 0

/-- The way to the next wait. -/
def remaining (channel : Channel) : Nat :=
  match channel.position with
  | .job => 2
  | .loop => 1
  | _ => 0

theorem Waits.signal {channel : Channel} (waits : channel.Waits)
    (woken : channel.wakeup = true) : channel.signal = 1 := by
  rcases waits with position | position | ⟨exchange, position⟩ <;>
    simp [Channel.signal, position, woken]

end Channel

def Comm.remaining (comm : Comm) : Nat :=
  match comm.position with
  | .lock => 4
  | .wait => if comm.wakeup then 4 else 0
  | .loop => 3
  | .drain => 2
  | .finished => 0

namespace Delivery

/-- How far the subscribe thread is from the end of its pass over the queue. -/
def pass (delivery : Delivery) : Nat :=
  match delivery.position with
  | .lock => 4
  | .wait => if delivery.subscribeWakeup then 4 else 0
  | .loop => if delivery.alive then 3 else 0
  | .idle => 2
  | .pop | .shmLock _ | .answerWait _ | .idleAgain => 1
  | .pushBack | .park | .finished => 0

/-- Where the thread is in the pass, and what is left behind the pass. -/
def place (delivery : Delivery) : Nat :=
  match delivery.position with
  | .pop => 4 * delivery.replyQueue.length
  | .idleAgain => 4 * delivery.replyQueue.length + 1
  | .answerWait _ => 4 * delivery.replyQueue.length + 2
  | .shmLock _ => 4 * delivery.replyQueue.length + 3
  | .pushBack => 3
  | .park => 2
  | .loop => if delivery.alive then 0 else 1
  | .lock | .wait | .idle | .finished => 0

/-- Every step of the subscribe thread brings it nearer to its wait or to its end. -/
theorem thread_goesDown {before after : Delivery} {answerCreated : Bool}
    (step : DeliveryStep before (.thread answerCreated) after) :
    after.pass < before.pass ∨ after.pass ≤ before.pass ∧ after.place < before.place := by
  cases step with
  | locked position =>
      left
      simp only [pass, position]
      split <;> decide
  | finish position past =>
      cases alive : before.alive <;> simp [pass, place, position, alive]
  | abandon position =>
      left
      rcases position with ⟨position, _⟩ | ⟨position, _⟩ <;> simp [pass, position]
  | unpark position woken =>
      left
      simp only [pass, position, woken, if_true]
      split <;> decide
  | take position queue =>
      right
      simp only [pass, place, position, queue, List.length_cons]
      omega
  | enter position alive running live => simp [pass, position, alive]
  | leave position dead => simp [pass, place, position, dead]
  | startPass position | empty position | exchange position | unsent position
  | deliver position | fail position | reset position | pushBack position
  | park position => simp [pass, place, position]

end Delivery

namespace ProxyState

/-- What is left to do, layer by layer. -/
def layers (env : Environment) (state : ProxyState) : Layer → Nat
  | .crash => if state.board.crashed then 0 else 1
  | .main => state.main.remaining
  | .signal => state.channel.signal
  | .job => state.board.jobEffort
  | .tasks => state.board.taskEffort env
  | .lookups => state.board.lookups
  | .replies => state.board.replyEffort
  | .channel => state.channel.remaining
  | .comm => state.comm.remaining
  | .pass => state.delivery.pass
  | .place => state.delivery.place

/-- A step of a thread of the proxy whose callbacks just return. -/
def Quiet (_ : ProxyState) : Action → Prop
  | .channel _ | .comm .advance | .reply _ | .subscribe _ | .main => True
  | _ => False

variable {env : Environment} {before after : ProxyState}

theorem running_of_step {action : Action} (next : before.step env action = some after) :
    before.board.crashed = false := by
  unfold step at next
  split at next
  · cases next
  · rename_i running
    exact Bool.eq_false_iff.mpr running

/-- A move of the board goes down, whatever it does to the other parts. -/
private theorem perform_goesDown {action : Action} {move : Board.Move}
    (quiet : before.Quiet action) (running : before.board.crashed = false)
    (chosen : before.boardMove action = some move)
    (unconfirmed : ∀ exchange rid, move ≠ .confirm exchange rid)
    (performed : before.perform env move = some after) :
    Runs.Descends (layers env) after before := by
  obtain ⟨board, moved, changed⟩ := performed_of_perform performed
  have step := Board.boardStep_of_move moved
  have kept : after.board = board ∧ after.main = before.main ∧
      after.channel = before.channel := by
    cases changed <;> exact ⟨rfl, rfl, rfl⟩
  obtain ⟨same, main, channel⟩ := kept
  have crashes : board.crashed = true → Runs.Descends (layers env) after before := by
    intro crashed
    rw [← same] at crashed
    refine ⟨.crash, ?_, fun above earlier => ?_⟩
    · simp [layers, crashed, running]
    · cases above <;> exact absurd earlier (by decide)
  have signal : after.channel.signal = before.channel.signal := by rw [channel]
  cases action with
  | channel input =>
      have own : move = .channel ∨ move = .channelCrash := by
        simp only [boardMove] at chosen
        split at chosen
        · exact Or.inr (Option.some.inj chosen).symm
        · exact absurd (Option.some.inj chosen).symm (unconfirmed _ _)
        · exact Or.inl (Option.some.inj chosen).symm
        · cases chosen
      rcases own with rfl | rfl
      · obtain ⟨crashed, less⟩ := Board.channel_effort step
        rw [← same] at crashed less
        refine ⟨.job, less, fun above earlier => ?_⟩
        cases above <;> first
          | exact absurd earlier (by decide)
          | simp [layers, crashed, main, signal]
      · cases step with
        | crash may => exact crashes rfl
  | comm input =>
      cases chosen
      cases input with
      | proxyReply arg headers payload => cases quiet
      | advance =>
          rcases Board.comm_effort step with crashed | ⟨crashed, job, less⟩
          · exact crashes (by rw [crashed]; rfl)
          · rw [← same] at crashed job less
            refine ⟨.tasks, less, fun above earlier => ?_⟩
            cases above <;> first
              | exact absurd earlier (by decide)
              | simp [layers, Board.jobEffort, crashed, main, signal, job]
  | reply index =>
      cases chosen
      rw [← same] at step
      obtain ⟨crashed, job, tasks, less | ⟨looks, less⟩⟩ := Board.reply_effort step
      · refine ⟨.lookups, less, fun above earlier => ?_⟩
        cases above <;> first
          | exact absurd earlier (by decide)
          | simp [layers, Board.jobEffort, crashed, main, signal, job, tasks]
      · refine ⟨.replies, less, fun above earlier => ?_⟩
        cases above <;> first
          | exact absurd earlier (by decide)
          | simp [layers, Board.jobEffort, crashed, main, signal, job, tasks, looks]
  | subscribe answerCreated | main => cases chosen
  | _ => cases quiet

/-- The channel thread ends a wait, or comes nearer to the next one. -/
private theorem channel_goesDown (board : after.board = before.board)
    (main : after.main = before.main)
    (goes : after.channel.signal < before.channel.signal ∨
      after.channel.signal ≤ before.channel.signal ∧
        after.channel.remaining < before.channel.remaining) :
    Runs.Descends (layers env) after before := by
  rcases goes with less | ⟨signal, less⟩
  · refine ⟨.signal, less, fun above earlier => ?_⟩
    cases above <;> first
      | exact absurd earlier (by decide)
      | simp [layers, board, main]
  · refine ⟨.channel, less, fun above earlier => ?_⟩
    cases above <;> first
      | exact absurd earlier (by decide)
      | simp [layers, board, main, signal]

private theorem main_goesDown (board : after.board = before.board)
    (less : after.main.remaining < before.main.remaining) :
    Runs.Descends (layers env) after before := by
  refine ⟨.main, less, fun above earlier => ?_⟩
  cases above <;> first
    | exact absurd earlier (by decide)
    | simp [layers, board]

private theorem comm_goesDown {comm : Comm} (less : comm.remaining < before.comm.remaining) :
    Runs.Descends (layers env) { before with comm := comm } before := by
  refine ⟨.comm, less, fun above earlier => ?_⟩
  cases above <;> first
    | exact Nat.le_refl _
    | exact absurd earlier (by decide)

private theorem delivery_goesDown {delivery : Delivery} {answerCreated : Bool}
    (step : DeliveryStep before.delivery (.thread answerCreated) delivery) :
    Runs.Descends (layers env) { before with delivery := delivery } before := by
  rcases Delivery.thread_goesDown step with less | ⟨pass, less⟩
  · refine ⟨.pass, less, fun above earlier => ?_⟩
    cases above <;> first
      | exact Nat.le_refl _
      | exact absurd earlier (by decide)
  · refine ⟨.place, less, fun above earlier => ?_⟩
    cases above <;> first
      | exact Nat.le_refl _
      | exact pass
      | exact absurd earlier (by decide)

/-- Every step of a thread takes from the work that is left. -/
theorem quiet_goesDown (env : Environment) :
    Runs.GoesDown (step env) Quiet (layers env) := by
  intro before action after quiet next
  have running := running_of_step next
  cases proxyStep_of_step next with
  | perform chosen unconfirmed busy performed =>
      exact perform_goesDown quiet running chosen unconfirmed performed
  | deliver chosen moved =>
      cases action <;> cases chosen <;> cases quiet
      exact delivery_goesDown (Delivery.deliveryStep_of_move moved)
  -- the channel thread
  | channelEnd position ended =>
      refine channel_goesDown rfl rfl (Or.inr ?_)
      simp [Channel.signal, Channel.remaining, position]
  | channelIdle position open_ =>
      refine channel_goesDown rfl rfl (Or.inr ?_)
      simp [Channel.signal, Channel.remaining, Channel.shmIdle, position]
  | jobDone position empty =>
      refine channel_goesDown rfl rfl (Or.inr ?_)
      simp [Channel.signal, Channel.remaining, position]
  | channelFinish ownerDead woken ends =>
      refine channel_goesDown rfl rfl (Or.inl ?_)
      rw [ends.waits.signal woken]
      exact Nat.one_pos
  | channelReturn proxyExit woken returns =>
      refine channel_goesDown rfl rfl (Or.inl ?_)
      rw [returns.waits.signal woken]
      exact Nat.one_pos
  | channelAccept written exchange position woken asked fits =>
      refine channel_goesDown rfl rfl (Or.inl ?_)
      simp [Channel.signal, Channel.accept, Channel.answer, position, woken]
  | channelRest position woken asked =>
      refine channel_goesDown rfl rfl (Or.inl ?_)
      simp [Channel.signal, Channel.answer, position, woken]
  | confirm position woken done moved =>
      refine ⟨.signal, ?_, fun above earlier => ?_⟩
      · simp [layers, Channel.signal, position, woken]
      · cases Board.boardStep_of_move moved with
        | confirm idle =>
            cases above <;> first
              | exact Nat.le_refl _
              | exact absurd earlier (by decide)
        | crash may => cases may
  -- the comm thread
  | commLock position => exact comm_goesDown (by simp [Comm.remaining, position])
  | commEnd position ended => exact comm_goesDown (by simp [Comm.remaining, position])
  | commDrain position open_ => exact comm_goesDown (by simp [Comm.remaining, position])
  | commWait position free empty => exact comm_goesDown (by simp [Comm.remaining, position])
  | commWake position woken => exact comm_goesDown (by simp [Comm.remaining, position, woken])
  -- the main thread
  | stopping position | stopChannel position | stopSubscribe position | endSubscribe position
  | stopComm position | joinChannel position | joinSubscribe position | joinComm position =>
      exact main_goesDown rfl (by simp [MainPosition.remaining, MainPosition.stage, position])
  | request written rid signal asks =>
      rcases asks with ⟨rfl, _⟩ | ⟨rfl, _⟩ <;> cases quiet
  | _ => cases quiet

/-! ## What rest means -/

/-- What the analysis of a thread that is stuck rests on. -/
structure Working (env : Environment) (state : ProxyState) : Prop where
  tasks : TasksSound env state.board
  idle : state.channel.position ≠ .job → state.board.job = []
  called : ∀ index ∈ state.board.awaited, index < state.board.calls.length

theorem working_of_reaches {admissible : ProxyState → Action → Prop} {state : ProxyState}
    (reached : Runs.Reaches (step env) admissible initial state) : Working env state := by
  apply reached.invariant
  · exact ⟨tasksSound_initial env, fun _ => rfl, nofun⟩
  · intro before action after working _ next
    have step := proxyStep_of_step next
    exact {
      tasks := board_step working.tasks step fun _ _ moved => tasksSound_step moved working.tasks
      idle := idle_step working.idle step
      called := board_step working.called step fun _ _ => called_step working.tasks working.called }

/-- What a callback does decides over no other step of the comm thread. -/
theorem move_comm_none {board : Board} (input : Board.CommInput)
    (blocked : board.move env (.comm .advance) = none) : board.move env (.comm input) = none := by
  unfold Board.move at blocked ⊢
  split
  · rfl
  · rename_i running
    rw [if_neg running] at blocked
    dsimp only at blocked ⊢
    split
    · rename_i free
      rw [free] at blocked
      exact blocked
    · rename_i op rest next
      rw [next] at blocked
      cases op with
      | callback => cases blocked
      | _ => exact blocked

/-- A comm thread that is blocked while callbacks return is blocked. -/
theorem stepComm_none {state : ProxyState} (input : Board.CommInput)
    (blocked : state.stepComm env .advance = none) : state.stepComm env input = none := by
  unfold stepComm at blocked ⊢
  dsimp only at blocked ⊢
  split
  case h_3 position =>
    rw [position] at blocked
    dsimp only at blocked
    split
    · rename_i free empty
      rw [free, empty] at blocked
      cases blocked
    · rename_i busy
      split at blocked
      · rename_i free empty
        exact absurd empty (busy free)
      · unfold perform at blocked ⊢
        split at blocked
        · rename_i unmoved
          rw [move_comm_none input unmoved]
        · cases blocked
  case h_5 => rfl
  all_goals
    rename_i position
    rw [position] at blocked
    exact blocked

/-- Where no thread can take a quiet step none can take a step. -/
theorem stuck_of_rest {state : ProxyState}
    (rest : ∀ action, state.Quiet action → state.step env action = none) : state.Stuck env := by
  intro action own
  cases action with
  | comm input =>
      have blocked := rest (.comm .advance) trivial
      unfold step at blocked ⊢
      split
      · rfl
      · rename_i running
        rw [if_neg running] at blocked
        exact stepComm_none input blocked
  | channel input => exact rest _ trivial
  | reply index => exact rest _ trivial
  | subscribe answerCreated => exact rest _ trivial
  | main => exact rest _ trivial
  | _ => cases own

end ProxyState

namespace Subscribing

variable {ι : Type} [DecidableEq ι]

/-- The replies that were set aside or put back have failed. -/
structure Failing (subscribing : Subscribing ι) : Prop where
  setAside : ∀ task ∈ subscribing.delivery.failedTask,
    .failed task ∈ subscribing.delivery.traffic
  returned : ∀ task ∈ subscribing.returned, .failed task ∈ subscribing.delivery.traffic

theorem failing_step {action : Action ι} {before after : Subscribing ι}
    (failing : before.Failing) (next : step action before = some after) : after.Failing := by
  have moves : ∀ {move : Delivery.Move} {delivery : Delivery} {returned : List QueuedReply},
      before.delivery.move move = some delivery →
      returned ⊆ before.returned ++ before.delivery.failedTask →
      ∀ producers : ι → Option QueuedReply,
        Failing { delivery := delivery, returned := returned, producers := producers } := by
    intro move delivery returned moved within producers
    have stepped := Delivery.deliveryStep_of_move moved
    have grows := Delivery.traffic_grows stepped
    refine ⟨Delivery.setAside_step stepped failing.setAside, fun task member => grows.subset ?_⟩
    rcases List.mem_append.mp (within member) with old | aside
    · exact failing.returned task old
    · exact failing.setAside task aside
  cases action with
  | append producer reply =>
      simp only [step] at next
      split at next
      · cases next
        exact ⟨failing.setAside, failing.returned⟩
      · cases next
  | awake producer =>
      simp only [step] at next
      split at next
      · cases next
      · obtain ⟨delivery, moved, rfl⟩ := Option.map_eq_some_iff.mp next
        exact moves moved (List.subset_append_left _ _) _
  | move action =>
      have moved : (before.delivery.move action).map (fun delivery =>
          { before with delivery := delivery, returned := before.pushedBack action }) =
            some after := by
        cases action <;> first | exact next | cases next
      obtain ⟨delivery, stepped, rfl⟩ := Option.map_eq_some_iff.mp moved
      refine moves stepped ?_ _
      unfold pushedBack
      split
      · exact List.subset_append_right _ _
      · exact List.subset_append_left _ _

theorem failing_of_reaches {subscribing : Subscribing ι}
    (reached : Runs.Reaches step Runs.unrestricted initial subscribing) :
    subscribing.Failing := by
  apply reached.invariant
  · exact ⟨nofun, nofun⟩
  · intro before action after failing _ next
    exact failing_step failing next

end Subscribing

namespace ProxyState

variable {env : Environment}

/-- Whatever the proxy has taken on is done, as far as it can be done without the
dispatcher and without a thread that has ended. -/
structure Settled (state : ProxyState) : Prop where
  job : state.board.job = []
  calls : ∀ call ∈ state.board.calls, call.position = .returned
  work : state.board.work = []
  tasks : state.comm.position = .finished ∨ state.board.parseQueue = []
  replies : state.delivery.position = .finished ∨
    ∀ task ∈ state.delivery.replyQueue, .failed task ∈ state.delivery.traffic

theorem settled_of_stuck {admissible : ProxyState → Action → Prop} {state : ProxyState}
    (reached : Runs.Reaches (step env) admissible initial state)
    (running : state.board.crashed = false) (answered : state.delivery.unanswered = false)
    (stuck : state.Stuck env) : state.Settled := by
  have working := working_of_reaches reached
  have calls : ∀ call ∈ state.board.calls, call.position = .returned := by
    intro call member
    obtain ⟨index, there⟩ := List.mem_iff_getElem?.mp member
    by_contra pending
    rw [(stuck.reply running there pending).2] at answered
    cases answered
  have job : state.board.job = [] := by
    apply working.idle
    intro busy
    rcases stuck.channel running working.idle working.called with
      finished | ⟨idle, _⟩ | waits | ⟨_, waits, _⟩
    · rw [busy] at finished
      cases finished
    · rw [busy] at idle
      cases idle
    · simp [Channel.unanswered, busy] at waits
    · rw [waits] at answered
      cases answered
  obtain ⟨parsing, _, parses⟩ := parses_of_reaches reached
  obtain ⟨subscribing, run, subscribes⟩ := subscribes_of_reaches reached
  refine ⟨job, calls, ?_, ?_, ?_⟩
  · rcases stuck.comm running working.called with finished | ⟨parked, _⟩ | ⟨_, waits, _⟩
    · exact (parses.stands.idle (by simp [finished])).1
    · exact (parses.stands.idle (by simp [parked])).1
    · rw [waits] at answered
      cases answered
  · rcases stuck.comm running working.called with
      finished | ⟨parked, unsignalled⟩ | ⟨_, waits, _⟩
    · exact Or.inl finished
    · refine Or.inr ?_
      by_contra queued
      have owes := owesComm_of_parked reached parked unsignalled queued
      simp [Board.owesComm, Board.owesCommAwake, job] at owes
    · rw [waits] at answered
      cases answered
  · rcases Delivery.blocked_thread (stuck.subscribe running) with
      finished | waits | ⟨parked, unsignalled⟩
    · exact Or.inl finished
    · rw [waits] at answered
      cases answered
    · refine Or.inr fun task member => ?_
      have delivery := subscribes.delivery
      have waits : subscribing.Parked := by
        unfold Subscribing.Parked
        rw [delivery]
        exact ⟨parked, unsignalled⟩
      rw [← delivery] at member ⊢
      rcases Subscribing.pending_of_parked run waits task member with
        returned | ⟨producer, pending⟩
      · exact (Subscribing.failing_of_reaches run).returned task returned
      · -- nobody has a wake-up left to give
        have owes := subscribes.owes producer
        rw [pending] at owes
        cases producer with
        | none => simp [Board.owesSubscribe, Board.owesSubscribeAwake, job] at owes
        | some index =>
            obtain ⟨call, there, awake⟩ := (Option.any_eq_true _ _).mp owes.symm
            rw [calls call (List.mem_of_getElem? there)] at awake
            cases awake

/-- Left to themselves the threads take finitely many steps, whatever their order.  Where
they stop the proxy has crashed, or a reply waits for the reaction of the dispatcher, or
everything is settled. -/
structure ComesToRest (env : Environment) (state : ProxyState) : Prop where
  finite : ∀ run : Nat → ProxyState, run 0 = state →
    ¬∀ n, ∃ action, (run n).Quiet action ∧ (run n).step env action = some (run (n + 1))
  settles : ∀ rest, Runs.Reaches (step env) Quiet state rest →
    (∀ action, rest.Quiet action → rest.step env action = none) →
    rest.board.crashed = true ∨ rest.delivery.unanswered = true ∨ rest.Settled

theorem comes_to_rest {state : ProxyState}
    (reached : Runs.Reaches (step env) Runs.unrestricted initial state) :
    state.ComesToRest env where
  finite := fun run _ => Runs.not_endless (quiet_goesDown env) run
  settles := by
    intro rest onwards stopped
    cases crashed : rest.board.crashed with
    | true => exact Or.inl rfl
    | false =>
        cases answered : rest.delivery.unanswered with
        | true => exact Or.inr (Or.inl rfl)
        | false =>
            have run := reached.trans (onwards.mono fun _ _ _ => trivial)
            exact Or.inr (Or.inr (settled_of_stuck run crashed answered (stuck_of_rest stopped)))

/-- A confirmed subscription with nothing of it done yet. -/
theorem comes_to_rest_confirmed :
    ∃ state : ProxyState, state.board.job.length = 1 ∧ state.ComesToRest .reference := by
  obtain ⟨state, reached, tested⟩ :=
    Runs.reaches_of_execute_test (step .reference) Runs.unrestricted
      (requestActions "s" (.object []) .multirespond false "r1" 1) .initial
      (fun state => decide (state.board.job.length = 1))
      (by decide +kernel)
  exact ⟨state, of_decide_eq_true tested, comes_to_rest reached⟩

end ProxyState

end Sawang
