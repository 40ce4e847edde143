import Sawang.Board.Awakes
import Sawang.Consumer
import Sawang.Proxy.Layers

/-!
# The proxy's consumers

The proxy refines both consumers.  The comm thread has one producer, the channel
thread; the subscribe thread has the channel thread and the calls of
`proxy_comm_reply`.
-/

namespace Sawang

open ProxyState

variable {env : Environment}

/-! ## The jobs of the channel thread -/

theorem jobShape_of_reaches {admissible : ProxyState → Action → Prop} {state : ProxyState}
    (reached : Runs.Reaches (step env) admissible initial state) :
    JobShape state.board.job := by
  apply reached.invariant
  · exact .idle
  · intro before action after shape _ next
    rcases (refines_of_step next).board with same | ⟨move, _, moved⟩
    · rw [same]
      exact shape
    · exact Board.jobShape_step shape (Board.boardStep_of_move moved)

/-! ## The comm thread -/

/-- Where the comm thread stands, by its position and what is left of its task. -/
inductive Stands : CommPosition → List CommOp → ParsingPosition → Prop
  | lock : Stands .lock [] .lock
  | loop : Stands .loop [] .loop
  | pop : Stands .drain [] .pop
  | serve (task : QueuedTask) (op : CommOp) (rest : List CommOp) :
      Stands .drain (op :: rest) (.serve task)
  | wait : Stands .wait [] .wait
  | finished : Stands .finished [] .finished

/-- Where a comm thread without a task stands. -/
def CommPosition.stage : CommPosition → ParsingPosition
  | .lock => .lock
  | .loop => .loop
  | .drain => .pop
  | .wait => .wait
  | .finished => .finished

theorem stands_stage (position : CommPosition) : Stands position [] position.stage := by
  cases position with
  | lock => exact .lock
  | loop => exact .loop
  | drain => exact .pop
  | wait => exact .wait
  | finished => exact .finished

/-- Only a thread that drains the queue has a task. -/
theorem Stands.idle {position : CommPosition} {work : List CommOp}
    {stage : ParsingPosition} (stands : Stands position work stage)
    (free : position = .drain → work = []) : work = [] ∧ stage = position.stage := by
  cases stands with
  | serve task op rest => exact absurd (free rfl) (by simp)
  | _ => exact ⟨rfl, rfl⟩

/-- The comm thread of the proxy and its queue as a consumer. -/
structure Parses (state : ProxyState) (parsing : Parsing Unit) : Prop where
  stands : Stands state.comm.position state.board.work parsing.position
  wakeup : parsing.commWakeup = state.comm.wakeup
  ended : parsing.ended = state.comm.ended
  queue : parsing.parseQueue.map QueuedTask.toParseQueueTask = state.board.parseQueue
  owes : (parsing.producers ()).isSome = state.board.owesComm

theorem Stands.holdsLock {comm : Comm} {work : List CommOp} {parsing : Parsing Unit}
    (stands : Stands comm.position work parsing.position) :
    parsing.holdsLock = comm.holdsLock := by
  obtain ⟨position, wakeup, ended⟩ := comm
  obtain ⟨stage, queue, commWakeup, stopped, appended, producers⟩ := parsing
  cases stands <;> rfl

/-- What performing a move means to the comm thread. -/
private theorem comm_of_performed {move : Board.Move} {before after : ProxyState}
    {board : Board} (performed : Performed env move before board after) :
    after.board = board ∧
      (before.board.effect env move ≠ .commAwake ∧ after.comm = before.comm ∨
        before.board.effect env move = .commAwake ∧ before.comm.holdsLock = false ∧
          after.comm = { before.comm with wakeup := true }) := by
  cases performed with
  | quiet effect => exact ⟨rfl, Or.inl ⟨by simp [effect], rfl⟩⟩
  | appends effect => exact ⟨rfl, Or.inl ⟨by simp [effect], rfl⟩⟩
  | awakesSubscribe effect free => exact ⟨rfl, Or.inl ⟨by simp [effect], rfl⟩⟩
  | awakesComm effect free => exact ⟨rfl, Or.inr ⟨effect, free, rfl⟩⟩

private theorem Parses.idle {state : ProxyState} {parsing : Parsing Unit}
    (parses : Parses state parsing) (free : state.board.owesComm = false) :
    parsing.producers () = none := by
  have none_ := parses.owes
  rw [free] at none_
  simpa using none_

private theorem Parses.owing {state : ProxyState} {parsing : Parsing Unit}
    (parses : Parses state parsing) (owed : state.board.owesComm = true) :
    ∃ task, parsing.producers () = some task := by
  have some_ := parses.owes
  rw [owed] at some_
  exact Option.isSome_iff_exists.mp some_

/-- A step that leaves the condition of the comm thread alone. -/
private theorem Parses.quiet {before after : ProxyState} {parsing next : Parsing Unit}
    (parses : Parses before parsing) (comm : after.comm = before.comm)
    (stands : Stands before.comm.position after.board.work next.position)
    (flags : next.commWakeup = parsing.commWakeup ∧ next.ended = parsing.ended)
    (queue : next.parseQueue.map QueuedTask.toParseQueueTask = after.board.parseQueue)
    (owes : (next.producers ()).isSome = after.board.owesComm) : Parses after next where
  stands := by
    rw [comm]
    exact stands
  wakeup := by
    rw [comm, flags.1]
    exact parses.wakeup
  ended := by
    rw [comm, flags.2]
    exact parses.ended
  queue := queue
  owes := owes

private theorem parses_perform {move : Board.Move} {action : Action}
    {before after : ProxyState} {parsing : Parsing Unit}
    (parses : Parses before parsing) (shape : JobShape before.board.job)
    (chosen : before.boardMove action = some move)
    (busy : ∀ input, action = .comm input → before.comm.position = .drain)
    (performed : before.perform env move = some after) :
    ∃ next, Runs.Reaches Parsing.step Runs.unrestricted parsing next ∧
      Parses after next := by
  obtain ⟨board, moved, changed⟩ := performed_of_perform performed
  obtain ⟨rfl, comm⟩ := comm_of_performed changed
  have parseMoved := Board.parseMoved_of_step shape (Board.boardStep_of_move moved)
  generalize before.board.effect env move = effect at parseMoved comm
  have same : effect ≠ .commAwake → after.comm = before.comm := by
    intro quiet
    rcases comm with ⟨_, same⟩ | ⟨awakes, _⟩
    · exact same
    · exact absurd awakes quiet
  have stands := parses.stands
  cases parseMoved with
  | enqueue quiet queue work free owes =>
      rename_i task
      let queued : QueuedTask := { toParseQueueTask := task, ticket := parsing.appended }
      have next : parsing.step (.append () task) = some { parsing with
          parseQueue := parsing.parseQueue ++ [queued]
          appended := parsing.appended + 1
          producers := Function.update parsing.producers () (some queued) } := by
        simp only [Parsing.step, parses.idle free]
        rfl
      refine ⟨_, .single trivial next,
        parses.quiet (same quiet) (by rw [work]; exact stands) ⟨rfl, rfl⟩ ?_ ?_⟩
      · rw [queue, ← parses.queue, List.map_append]
        rfl
      · rw [owes]
        simp
  | awake queue work owed free =>
      obtain ⟨task, pending⟩ := parses.owing owed
      rcases comm with ⟨quiet, _⟩ | ⟨_, unlocked, woken⟩
      · exact absurd rfl quiet
      · have holds : parsing.holdsLock = false := stands.holdsLock.trans unlocked
        have next : parsing.step (.awake ()) = some { parsing with
            commWakeup := true
            producers := Function.update parsing.producers () none } := by
          simp only [Parsing.step, pending, holds]
          rfl
        refine ⟨_, .single trivial next, ?_⟩
        exact {
          stands := by
            rw [woken, work]
            exact stands
          wakeup := by rw [woken]
          ended := by
            rw [woken]
            exact parses.ended
          queue := by
            rw [queue]
            exact parses.queue
          owes := by
            rw [free]
            simp }
  | dequeue quiet idle queue work owes =>
      have drains := drain_of_boardMove busy chosen
      rw [drains, idle] at stands
      have queued := parses.queue
      rw [queue] at queued
      obtain ⟨head, tail, cells, rfl, rest⟩ := List.map_eq_cons_iff.mp queued
      obtain ⟨op, left, task⟩ := List.exists_cons_of_ne_nil work
      cases position : parsing.position with
      | pop =>
          have next : parsing.step .thread =
              some { parsing with parseQueue := tail, position := .serve head } := by
            simp only [Parsing.step, Parsing.thread, position, cells]
          refine ⟨_, .single trivial next,
            parses.quiet (same quiet) ?_ ⟨rfl, rfl⟩ rest (parses.owes.trans owes.symm)⟩
          rw [drains, task]
          exact .serve _ _ _
      | _ =>
          rw [position] at stands
          cases stands
  | serve quiet working queue owes =>
      have drains := drain_of_boardMove busy chosen
      obtain ⟨op, rest, job⟩ := List.exists_cons_of_ne_nil working
      rw [drains, job] at stands
      have kept : ∀ next : Parsing Unit,
          Stands .drain after.board.work next.position →
          next = { parsing with position := next.position } → Parses after next := by
        intro next there changed
        rw [changed]
        exact parses.quiet (same quiet) (by rw [drains]; exact there) ⟨rfl, rfl⟩
          (parses.queue.trans queue.symm) (parses.owes.trans owes.symm)
      cases position : parsing.position with
      | serve task =>
          cases work : after.board.work with
          | nil =>
              have next : parsing.step .thread = some { parsing with position := .pop } := by
                simp only [Parsing.step, Parsing.thread, position]
              exact ⟨_, .single trivial next, kept _ (by rw [work]; exact .pop) rfl⟩
          | cons op rest =>
              refine ⟨parsing, .refl, kept parsing ?_ rfl⟩
              rw [work, position]
              exact .serve _ _ _
      | _ =>
          rw [position] at stands
          cases stands
  | other quiet queue work owes =>
      exact ⟨parsing, .refl, parses.quiet (same quiet) (by rw [work]; exact stands)
        ⟨rfl, rfl⟩ (parses.queue.trans queue.symm) (parses.owes.trans owes.symm)⟩

/-- The comm thread moves on without a task. -/
private theorem parses_thread {before : ProxyState} {parsing : Parsing Unit}
    (parses : Parses before parsing) (position : CommPosition)
    (work : before.board.work = [])
    (next : parsing.step .thread = some { parsing with position := position.stage }) :
    ∃ next, Runs.Reaches Parsing.step Runs.unrestricted parsing next ∧
      Parses { before with comm := { before.comm with position := position } } next := by
  refine ⟨_, .single trivial next, ?_, parses.wakeup, parses.ended, parses.queue, parses.owes⟩
  rw [work]
  exact stands_stage position

/-- A step of the proxy is a run of its comm thread. -/
private theorem parses_step {action : Action} {before after : ProxyState}
    {parsing : Parsing Unit} (shape : JobShape before.board.job)
    (parses : Parses before parsing) (step : ProxyStep env before action after) :
    ∃ next, Runs.Reaches Parsing.step Runs.unrestricted parsing next ∧
      Parses after next := by
  have stands := parses.stands
  cases step with
  | perform chosen unconfirmed busy performed =>
      exact parses_perform parses shape chosen busy performed
  | confirm position woken done moved =>
      have parseMoved := Board.parseMoved_of_step shape (Board.boardStep_of_move moved)
      cases parseMoved with
      | other quiet queue work owes =>
          exact ⟨parsing, .refl, parses.quiet rfl (by rw [work]; exact stands) ⟨rfl, rfl⟩
            (parses.queue.trans queue.symm) (parses.owes.trans owes.symm)⟩
  | commLock position =>
      obtain ⟨work, there⟩ := stands.idle (by simp [position])
      rw [position] at there
      apply parses_thread parses .loop work
      simp only [Parsing.step, Parsing.thread, there, CommPosition.stage]
  | commEnd position ended =>
      obtain ⟨work, there⟩ := stands.idle (by simp [position])
      rw [position] at there
      have told : parsing.ended = true := parses.ended.trans ended
      apply parses_thread parses .finished work
      simp only [Parsing.step, Parsing.thread, there, CommPosition.stage, told, if_true]
  | commDrain position running =>
      obtain ⟨work, there⟩ := stands.idle (by simp [position])
      rw [position] at there
      have untold : parsing.ended = false := parses.ended.trans running
      apply parses_thread parses .drain work
      simp [Parsing.step, Parsing.thread, there, CommPosition.stage, untold]
  | commWait position free empty =>
      obtain ⟨work, there⟩ := stands.idle (fun _ => free)
      rw [position] at there
      have queue : parsing.parseQueue = [] := by
        have mapped := parses.queue
        rw [empty] at mapped
        exact List.map_eq_nil_iff.mp mapped
      have finds : parsing.step .thread = some { parsing with position := .park } := by
        simp only [Parsing.step, Parsing.thread, there, CommPosition.stage, queue]
      have parks : Parsing.step .thread { parsing with position := .park } =
          some { parsing with position := .wait, commWakeup := false } := rfl
      exact ⟨_, (Runs.Reaches.single trivial finds).tail trivial parks,
        by rw [work]; exact .wait, rfl, parses.ended, parses.queue, parses.owes⟩
  | commWake position woken =>
      obtain ⟨work, there⟩ := stands.idle (by simp [position])
      rw [position] at there
      have signalled : parsing.commWakeup = true := parses.wakeup.trans woken
      apply parses_thread parses .loop work
      simp only [Parsing.step, Parsing.thread, there, CommPosition.stage, signalled, if_true]
  | stopComm position free =>
      have holds : parsing.holdsLock = false := stands.holdsLock.trans free
      have next : parsing.step .stop =
          some { parsing with ended := true, commWakeup := true } := by
        simp [Parsing.step, holds]
      exact ⟨_, .single trivial next, stands, rfl, rfl, parses.queue, parses.owes⟩
  | spuriousComm =>
      have next : parsing.step .spurious = some { parsing with commWakeup := true } := rfl
      exact ⟨_, .single trivial next, stands, rfl, parses.ended, parses.queue, parses.owes⟩
  | _ =>
      exact ⟨parsing, .refl, stands, parses.wakeup, parses.ended, parses.queue, parses.owes⟩

/-- Every run of the proxy is a run of its comm thread as a consumer. -/
theorem parses_of_reaches {admissible : ProxyState → Action → Prop} {state : ProxyState}
    (reached : Runs.Reaches (step env) admissible initial state) :
    ∃ parsing, Runs.Reaches Parsing.step Runs.unrestricted Parsing.initial parsing ∧
      Parses state parsing := by
  apply reached.simulate (fun other earlier => jobShape_of_reaches earlier)
  · exact ⟨.lock, rfl, rfl, rfl, rfl⟩
  · intro before action after parsing shape parses _ next
    exact parses_step shape parses (proxyStep_of_step next)

/-- While the comm thread is parked with tasks in its queue, the channel thread is on
its way to wake it. -/
theorem owesComm_of_parked {admissible : ProxyState → Action → Prop} {state : ProxyState}
    (reached : Runs.Reaches (step env) admissible initial state)
    (position : state.comm.position = .wait) (unsignalled : state.comm.wakeup = false)
    (queued : state.board.parseQueue ≠ []) : state.board.owesComm = true := by
  obtain ⟨parsing, run, parses⟩ := parses_of_reaches reached
  have there := (parses.stands.idle (by simp [position])).2
  rw [position] at there
  have filled : parsing.parseQueue ≠ [] := by
    intro empty
    apply queued
    rw [← parses.queue, empty]
    rfl
  obtain ⟨task, member⟩ := List.exists_mem_of_ne_nil _ filled
  have parked : parsing.Parked := ⟨there, parses.wakeup.trans unsignalled⟩
  obtain ⟨producer, pending⟩ := Parsing.pending_of_parked run parked task member
  rw [← parses.owes, pending]
  rfl

/-! ## The subscribe thread -/

/-- The delivery of the proxy as a consumer. -/
structure Subscribes (state : ProxyState) (subscribing : Subscribing (Option Nat)) :
    Prop where
  delivery : subscribing.delivery = state.delivery
  owes : ∀ producer,
    (subscribing.producers producer).isSome = state.board.owesSubscribe producer

/-- What performing a move means to the subscribe thread. -/
private theorem delivery_of_performed {move : Board.Move} {before after : ProxyState}
    {board : Board} (performed : Performed env move before board after) :
    after.board = board ∧
      match before.board.effect env move with
      | .replyQueueAppend reply => after.delivery = before.delivery.append reply
      | .subscribeAwake => before.delivery.holdsLock = false ∧
          after.delivery = { before.delivery with subscribeWakeup := true }
      | _ => after.delivery = before.delivery := by
  cases performed with
  | quiet effect => exact ⟨rfl, by rw [effect]⟩
  | appends effect => exact ⟨rfl, by rw [effect]⟩
  | awakesSubscribe effect free => exact ⟨rfl, by rw [effect]; exact ⟨free, rfl⟩⟩
  | awakesComm effect free => exact ⟨rfl, by rw [effect]⟩

private theorem subscribes_perform {move : Board.Move} {before after : ProxyState}
    {subscribing : Subscribing (Option Nat)} (subscribes : Subscribes before subscribing)
    (shape : JobShape before.board.job)
    (performed : before.perform env move = some after) :
    ∃ next, Runs.Reaches Subscribing.step Runs.unrestricted subscribing next ∧
      Subscribes after next := by
  obtain ⟨board, moved, changed⟩ := performed_of_perform performed
  obtain ⟨rfl, delivery⟩ := delivery_of_performed changed
  have replyMoved := Board.replyMoved_of_step shape (Board.boardStep_of_move moved)
  generalize before.board.effect env move = effect at replyMoved delivery
  have updated : ∀ (producer : Option Nat) (queued : Option QueuedReply) (owes : Bool),
      queued.isSome = owes →
      after.board.owesSubscribe =
        Function.update before.board.owesSubscribe producer owes →
      ∀ other, (Function.update subscribing.producers producer queued other).isSome =
        after.board.owesSubscribe other := by
    intro producer queued owes same changed other
    rw [changed]
    by_cases own : other = producer
    · subst own
      rw [Function.update_self, Function.update_self]
      exact same
    · rw [Function.update_of_ne own, Function.update_of_ne own]
      exact subscribes.owes other
  cases replyMoved with
  | append producer free owes =>
      rename_i reply
      have idle : subscribing.producers producer = none := by
        have none_ := subscribes.owes producer
        rw [free] at none_
        simpa using none_
      let queued : QueuedReply :=
        { toReplyQueueTask := reply, ticket := subscribing.delivery.posted.length }
      have next : subscribing.step (.append producer reply) = some { subscribing with
          delivery := subscribing.delivery.append reply
          producers := Function.update subscribing.producers producer (some queued) } := by
        simp only [Subscribing.step, idle]
        rfl
      refine ⟨_, .single trivial next, ?_, updated producer _ true rfl owes⟩
      rw [subscribes.delivery]
      exact delivery.symm
  | awake producer owed owes =>
      obtain ⟨free, woken⟩ := delivery
      have waits : ∃ reply, subscribing.producers producer = some reply := by
        have some_ := subscribes.owes producer
        rw [owed] at some_
        exact Option.isSome_iff_exists.mp some_
      obtain ⟨reply, pending⟩ := waits
      have next : subscribing.step (.awake producer) = some { subscribing with
          delivery := { subscribing.delivery with subscribeWakeup := true }
          producers := Function.update subscribing.producers producer none } := by
        have unlocked : subscribing.delivery.holdsLock = false := by
          rw [subscribes.delivery]
          exact free
        simp [Subscribing.step, pending, Delivery.move, unlocked]
      refine ⟨_, .single trivial next, ?_, updated producer none false rfl owes⟩
      rw [subscribes.delivery]
      exact woken.symm
  | other quiet same =>
      refine ⟨subscribing, .refl, ?_, ?_⟩
      · rcases quiet with rfl | rfl
        · exact subscribes.delivery.trans delivery.symm
        · exact subscribes.delivery.trans delivery.symm
      · intro producer
        rw [same]
        exact subscribes.owes producer

/-- A move of the delivery that is neither an append nor a wake-up. -/
private theorem subscribes_move {before after : ProxyState}
    {subscribing : Subscribing (Option Nat)} {move : Delivery.Move}
    (subscribes : Subscribes before subscribing)
    (own : (∀ reply, move ≠ .append reply) ∧ move ≠ .awake)
    (moved : before.delivery.move move = some after.delivery)
    (same : after.board = before.board) :
    ∃ next, Runs.Reaches Subscribing.step Runs.unrestricted subscribing next ∧
      Subscribes after next := by
  have next : subscribing.step (.move move) = some { subscribing with
      delivery := after.delivery, returned := subscribing.pushedBack move } := by
    rw [← subscribes.delivery] at moved
    cases move with
    | append reply => exact absurd rfl (own.1 reply)
    | awake => exact absurd rfl own.2
    | _ => simp only [Subscribing.step, moved, Option.map_some]
  refine ⟨_, .single trivial next, rfl, ?_⟩
  intro producer
  rw [same]
  exact subscribes.owes producer

/-- A step of the proxy is a run of its subscribe thread. -/
private theorem subscribes_step {action : Action} {before after : ProxyState}
    {subscribing : Subscribing (Option Nat)} (shape : JobShape before.board.job)
    (subscribes : Subscribes before subscribing)
    (step : ProxyStep env before action after) :
    ∃ next, Runs.Reaches Subscribing.step Runs.unrestricted subscribing next ∧
      Subscribes after next := by
  cases step with
  | perform chosen unconfirmed busy performed =>
      exact subscribes_perform subscribes shape performed
  | confirm position woken done moved =>
      have replyMoved := Board.replyMoved_of_step shape (Board.boardStep_of_move moved)
      cases replyMoved with
      | other quiet same =>
          refine ⟨subscribing, .refl, subscribes.delivery, ?_⟩
          intro producer
          rw [same]
          exact subscribes.owes producer
  | deliver chosen moved =>
      refine subscribes_move subscribes ?_ moved rfl
      cases action <;> cases chosen <;> exact ⟨nofun, nofun⟩
  | stopSubscribe position moved => exact subscribes_move subscribes (by simp) moved rfl
  | endSubscribe position moved => exact subscribes_move subscribes (by simp) moved rfl
  | diesHoldingSubscribe alive moved => exact subscribes_move subscribes (by simp) moved rfl
  | _ => exact ⟨subscribing, .refl, subscribes.delivery, subscribes.owes⟩

/-- Every run of the proxy is a run of its subscribe thread as a consumer. -/
theorem subscribes_of_reaches {admissible : ProxyState → Action → Prop}
    {state : ProxyState} (reached : Runs.Reaches (step env) admissible initial state) :
    ∃ subscribing,
      Runs.Reaches Subscribing.step Runs.unrestricted Subscribing.initial subscribing ∧
        Subscribes state subscribing := by
  apply reached.simulate (fun other earlier => jobShape_of_reaches earlier)
  · refine ⟨rfl, ?_⟩
    intro producer
    cases producer <;> rfl
  · intro before action after subscribing shape subscribes _ next
    exact subscribes_step shape subscribes (proxyStep_of_step next)

end Sawang
