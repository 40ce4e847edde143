import Sawang.Board.Order
import Sawang.Proxy.Settling

/-!
# The callbacks of the comm thread

`ProxyStart`, `ProxyRun`, `ProxyMultiRespondClear` and `ProxyStop` all run in the comm
thread.  The proxy does not distinguish where the thread stands outside its loop; here
it does, and every callback is recorded when it is called and when it returns.
-/

namespace Sawang

open Board ProxyState

/-- What the comm thread calls in the application. -/
inductive Callback where
  | start
  | run (arg : ProxyReplyArg)
  | multirespondClear (arg : ProxyReplyArg)
  | stop

inductive CallbackEvent where
  | called (callback : Callback)
  | returned

/-- Which of the optional callbacks `work` was given. -/
structure Hooks where
  hasStart : Bool
  hasStop : Bool

/-- Where the comm thread is in `proxy_comm`. -/
inductive CommLife where
  | created
  | starting
  | looping
  | stopping
  | ended
deriving DecidableEq

structure CallbackState where
  proxy : ProxyState
  life : CommLife
  /-- Ghost: newest first. -/
  events : List CallbackEvent

inductive CallbackAction where
  /-- The comm thread outside its loop. -/
  | life
  | proxy (action : Action)

/-- What the next statement of a task means to the application. -/
def Board.callbackEvents (env : Environment) (input : Board.CommInput) (board : Board) :
    List CallbackEvent :=
  match board.work with
  | .run task :: _ =>
      match proxyCommCreateReplyArg env task.taskKey with
      | none => []
      | some arg =>
          if arg.service = gonggoserviceRequestDrop then [] else [.called (.run arg)]
  | .multirespondClear taskKey :: _ =>
      match proxyCommCreateReplyArg env taskKey with
      | none => []
      | some arg => [.called (.multirespondClear arg)]
  | .callback :: _ =>
      match input with
      | .advance => [.returned]
      | .proxyReply .. => []
  | _ => []

/-- The comm thread works on a task where it drains the queue. -/
def ProxyState.callbackEvents (env : Environment) (action : Action) (state : ProxyState) :
    List CallbackEvent :=
  match action, state.comm.position with
  | .comm input, .drain => state.board.callbackEvents env input
  | _, _ => []

namespace CallbackState

def initial : CallbackState where
  proxy := .initial
  life := .created
  events := []

/-- `proxy_comm` before its loop and after it. -/
def stepLife (hooks : Hooks) (state : CallbackState) : Option CallbackState :=
  if state.proxy.board.crashed then none
  else
    match state.life with
    | .created =>
        if hooks.hasStart then
          some { state with life := .starting, events := .called .start :: state.events }
        else some { state with life := .looping }
    | .starting => some { state with life := .looping, events := .returned :: state.events }
    | .looping =>
        if state.proxy.comm.position = .finished then
          if hooks.hasStop then
            some { state with life := .stopping, events := .called .stop :: state.events }
          else some { state with life := .ended }
        else none
    | .stopping => some { state with life := .ended, events := .returned :: state.events }
    | .ended => none

/-- The loop runs between the two callbacks, and `pthread_join` waits for the end of
the thread. -/
def Waits (state : CallbackState) : Action → Prop
  | .comm _ => state.life ≠ .looping
  | .main => state.proxy.main = .joinComm ∧ state.life ≠ .ended
  | _ => False

instance (state : CallbackState) : (action : Action) → Decidable (state.Waits action)
  | .comm _ => inferInstanceAs (Decidable (_ ≠ _))
  | .main => inferInstanceAs (Decidable (_ ∧ _))
  | .channel _ | .reply _ | .proxyReply .. | .subscribe _ | .sigterm | .request .. | .rest ..
  | .channelState .. | .sees | .subscribeState .. | .dies | .diesHoldingChannel
  | .diesHoldingSubscribe | .spuriousChannel | .spuriousAnswer | .spuriousSubscribe
  | .spuriousComm => inferInstanceAs (Decidable False)

def step (env : Environment) (hooks : Hooks) (action : CallbackAction)
    (state : CallbackState) : Option CallbackState :=
  match action with
  | .life => state.stepLife hooks
  | .proxy action =>
      if state.Waits action then none
      else
        (state.proxy.step env action).map fun proxy =>
          { state with
            proxy := proxy
            events := state.proxy.callbackEvents env action ++ state.events }

end CallbackState

/-! ## Taking turns -/

namespace Callback

/-- The callbacks of the loop. -/
def inLoop : Callback → Bool
  | .run _ | .multirespondClear _ => true
  | .start | .stop => false

/-- A call and its return. -/
def span (callback : Callback) : List CallbackEvent := [.called callback, .returned]

end Callback

namespace Hooks

/-- What happens before the loop, and after it. -/
def opening (hooks : Hooks) : List CallbackEvent :=
  if hooks.hasStart then Callback.start.span else []

def closing (hooks : Hooks) : List CallbackEvent :=
  if hooks.hasStop then Callback.stop.span else []

end Hooks

def CallbackEvent.inLoop : CallbackEvent → Option Callback
  | .called callback => if callback.inLoop then some callback else none
  | .returned => none

/-- The callbacks of the loop in the order of their calls. -/
def served (events : List CallbackEvent) : List Callback :=
  (events.filterMap CallbackEvent.inLoop).reverse

theorem served_returned (events : List CallbackEvent) :
    served (.returned :: events) = served events := rfl

theorem served_called {callback : Callback} (events : List CallbackEvent)
    (loops : callback.inLoop = true) :
    served (.called callback :: events) = served events ++ [callback] := by
  simp [served, CallbackEvent.inLoop, loops]

theorem served_outside {callback : Callback} (events : List CallbackEvent)
    (outside : callback.inLoop = false) :
    served (.called callback :: events) = served events := by
  simp [served, CallbackEvent.inLoop, outside]

/-- The events of a comm thread that calls one callback at a time, newest first.  The
flag tells whether a callback of the loop is going on. -/
inductive InTurn (hooks : Hooks) : CommLife → Bool → List CallbackEvent → Prop
  | created : InTurn hooks .created false []
  | starting (has : hooks.hasStart = true) :
      InTurn hooks .starting false [.called .start]
  | unstarted (none : hooks.hasStart = false) : InTurn hooks .looping false []
  | started (has : hooks.hasStart = true) :
      InTurn hooks .looping false [.returned, .called .start]
  | called {callback : Callback} {events : List CallbackEvent}
      (loops : callback.inLoop = true) (before : InTurn hooks .looping false events) :
      InTurn hooks .looping true (.called callback :: events)
  | returned {events : List CallbackEvent} (before : InTurn hooks .looping true events) :
      InTurn hooks .looping false (.returned :: events)
  | stopping {events : List CallbackEvent} (has : hooks.hasStop = true)
      (before : InTurn hooks .looping false events) :
      InTurn hooks .stopping false (.called .stop :: events)
  | unstopped {events : List CallbackEvent} (none : hooks.hasStop = false)
      (before : InTurn hooks .looping false events) : InTurn hooks .ended false events
  | stopped {events : List CallbackEvent} (has : hooks.hasStop = true)
      (before : InTurn hooks .stopping false events) :
      InTurn hooks .ended false (.returned :: events)

namespace InTurn

variable {hooks : Hooks} {events : List CallbackEvent}

/-- Between two callbacks of the loop every call has returned. -/
theorem complete {going : Bool} (turn : InTurn hooks .looping going events) :
    (going = false →
      events.reverse = hooks.opening ++ (served events).flatMap Callback.span) ∧
    (going = true → ∃ callback earlier, events = .called callback :: earlier ∧
      callback.inLoop = true ∧
      earlier.reverse = hooks.opening ++ (served earlier).flatMap Callback.span) := by
  generalize position : CommLife.looping = life at turn
  induction turn with
  | unstarted none => exact ⟨fun _ => by simp [Hooks.opening, none, served], nofun⟩
  | started has =>
      refine ⟨fun _ => ?_, nofun⟩
      rw [served_returned, served_outside _ rfl]
      simp [Hooks.opening, has, served, Callback.span]
  | called loops before inductionHypothesis =>
      exact ⟨nofun, fun _ => ⟨_, _, rfl, loops, (inductionHypothesis position).1 rfl⟩⟩
  | returned before inductionHypothesis =>
      obtain ⟨callback, earlier, rfl, loops, complete⟩ := (inductionHypothesis position).2 rfl
      refine ⟨fun _ => ?_, nofun⟩
      rw [served_returned, served_called _ loops]
      simp [complete, Callback.span]
  | _ => cases position

theorem stopping_complete (turn : InTurn hooks .stopping false events) :
    hooks.hasStop = true ∧ ∃ earlier, events = .called .stop :: earlier ∧
      served events = served earlier ∧
      earlier.reverse = hooks.opening ++ (served earlier).flatMap Callback.span := by
  cases turn with
  | stopping has before =>
      exact ⟨has, _, rfl, served_outside _ rfl, before.complete.1 rfl⟩

/-- A thread that has ended has called everything it had to. -/
theorem ended (turn : InTurn hooks .ended false events) :
    events.reverse = hooks.opening ++ (served events).flatMap Callback.span ++
      hooks.closing := by
  cases turn with
  | unstopped none before => simp [before.complete.1 rfl, Hooks.closing, none]
  | stopped has before =>
      obtain ⟨_, earlier, rfl, same, complete⟩ := before.stopping_complete
      rw [served_returned, same]
      simp [complete, Callback.span, Hooks.closing, has]

/-- The events so far are a beginning of what the application is promised. -/
theorem isPrefix {life : CommLife} {going : Bool} (turn : InTurn hooks life going events) :
    events.reverse <+: hooks.opening ++ (served events).flatMap Callback.span ++
      hooks.closing := by
  cases life with
  | created =>
      cases turn
      exact List.nil_prefix
  | starting =>
      cases turn with
      | starting has =>
          rw [served_outside _ rfl]
          simp [Hooks.opening, has, served, Callback.span]
  | looping =>
      cases going with
      | false =>
          rw [turn.complete.1 rfl]
          exact List.prefix_append _ _
      | true =>
          obtain ⟨callback, earlier, rfl, loops, complete⟩ := turn.complete.2 rfl
          rw [served_called _ loops]
          simp [complete, Callback.span]
  | stopping =>
      cases turn with
      | stopping has before =>
          rw [served_outside _ rfl]
          simp [before.complete.1 rfl, Callback.span, Hooks.closing, has]
  | ended =>
      cases going with
      | false =>
          rw [turn.ended]
      | true => cases turn

end InTurn

/-! ## The tasks behind the callbacks -/

theorem ProxyState.ordered_of_reaches {env : Environment}
    {admissible : ProxyState → Action → Prop} {state : ProxyState}
    (reached : Runs.Reaches (step env) admissible initial state) : state.board.Ordered := by
  have known : ∀ other, Runs.Reaches (step env) admissible initial other →
      JobShape other.board.job ∧ TasksSound env other.board :=
    fun _ earlier => ⟨jobShape_of_reaches earlier, (working_of_reaches earlier).tasks⟩
  apply reached.invariant_of known
  · exact ordered_initial
  · intro before action after sound ordered _ next
    exact board_step ordered (proxyStep_of_step next) fun _ _ moved =>
      ordered_step sound.1 sound.2 ordered moved

/-- The comm thread serves the requests in the order of their confirmation: it takes the
tasks in the order they were queued, and between two of them it has handed each one taken
to the application, once. -/
theorem ProxyState.served_in_order {env : Environment}
    {admissible : ProxyState → Action → Prop} {state : ProxyState}
    (reached : Runs.Reaches (step env) admissible initial state) :
    (state.board.ranTasks.map ParseQueueTask.rid).Sublist state.board.confirmed ∧
      state.board.enqueuedTasks =
        state.board.parseQueue.reverse ++ state.board.dequeuedTasks ∧
      (state.board.work = [] →
        state.board.ranTasks = state.board.dequeuedTasks.filter ParseQueueTask.runs) := by
  have ordered := ordered_of_reaches reached
  refine ⟨ordered.ranTasks_sublist, ordered.queue, fun idle => ?_⟩
  have ran := ordered.ran
  rw [idle] at ran
  exact ran

/-- A second request waits while the first is being run. -/
theorem ProxyState.served_in_order_waiting :
    ∃ state : ProxyState, state.board.ranTasks.length = 1 ∧
      state.board.parseQueue.length = 1 ∧
      (state.board.ranTasks.map ParseQueueTask.rid).Sublist state.board.confirmed ∧
      state.board.enqueuedTasks =
        state.board.parseQueue.reverse ++ state.board.dequeuedTasks ∧
      (state.board.work = [] →
        state.board.ranTasks = state.board.dequeuedTasks.filter ParseQueueTask.runs) := by
  obtain ⟨state, reached, tested⟩ :=
    Runs.reaches_of_execute_test (step .reference) Runs.unrestricted
      (requestActions "s" (.object []) .singleshot false "r1" 5 ++ commActions 4 ++
        requestActions "t" (.object []) .singleshot false "r2" 3)
      .initial
      (fun state => decide (state.board.ranTasks.length = 1 ∧
        state.board.parseQueue.length = 1))
      (by decide +kernel)
  obtain ⟨ran, queued⟩ := of_decide_eq_true tested
  exact ⟨state, ran, queued, served_in_order reached⟩

/-- What `ProxyRun` is given. -/
def Callback.ranArg : Callback → Option ProxyReplyArg
  | .run arg => some arg
  | _ => none

/-- A callback of the application is going on. -/
def CommOp.isCallback : CommOp → Bool
  | .callback => true
  | _ => false

namespace Board

def calling (board : Board) : Bool := board.work.any CommOp.isCallback

/-- The arguments of the tasks run, newest first. -/
def ranArgs (env : Environment) (board : Board) : List (Option ProxyReplyArg) :=
  board.ranTasks.map fun task => proxyCommCreateReplyArg env task.taskKey

end Board

/-- What a step of a task tells the application. -/
inductive Tells (env : Environment) (before after : Board) : List CallbackEvent → Prop
  | called {callback : Callback} (loops : callback.inLoop = true)
      (idle : before.calling = false) (going : after.calling = true)
      (ran : after.ranArgs env = callback.ranArg.toList.map some ++ before.ranArgs env) :
      Tells env before after [.called callback]
  | returned (going : before.calling = true) (idle : after.calling = false)
      (ran : after.ranArgs env = before.ranArgs env) : Tells env before after [.returned]
  | silent (same : after.calling = before.calling)
      (ran : after.ranArgs env = before.ranArgs env) : Tells env before after []

section Tells

variable {env : Environment} {before after : Board} {input : Board.CommInput}

/-- A text that cannot be read is not handed on. -/
theorem callbackEvents_crash (moved : before.move env (.comm input) = some before.crash) :
    before.callbackEvents env input = [] := by
  unfold Board.move at moved
  split at moved
  · cases moved
  · rename_i running
    have alive : ∀ board : Board, board.crashed = before.crashed →
        some board ≠ some before.crash := by
      rintro board same equal
      cases equal
      exact running same.symm
    dsimp only at moved
    unfold Board.callbackEvents
    split
    · rename_i task rest work
      rw [work] at moved
      simp only [Board.commOp] at moved
      split
      · rfl
      · rename_i arg built
        rw [built] at moved
        dsimp only at moved
        split
        · rfl
        · rename_i normal
          rw [if_neg normal] at moved
          exact absurd moved (alive _ rfl)
    · rename_i taskKey rest work
      rw [work] at moved
      simp only [Board.commOp] at moved
      split
      · rfl
      · rename_i arg built
        rw [built] at moved
        exact absurd moved (alive _ rfl)
    · rename_i rest work
      rw [work] at moved
      simp only [Board.commOp] at moved
      split
      · exact absurd moved (alive _ rfl)
      · rfl
    · rfl

theorem calling_taskWork (task : ParseQueueTask) :
    (taskWork task).any CommOp.isCallback = false := by
  unfold taskWork
  split <;> rfl

theorem tells_of_move (tasks : TasksSound env before)
    (moved : before.move env (.comm input) = some after) :
    Tells env before after (before.callbackEvents env input) := by
  have stage := tasks.work
  have quiet : before.callbackEvents env input = [] → after.calling = before.calling →
      after.ranArgs env = before.ranArgs env →
      Tells env before after (before.callbackEvents env input) := by
    intro silent same ran
    rw [silent]
    exact .silent same ran
  cases Board.boardStep_of_move moved with
  | crash may => exact quiet (callbackEvents_crash moved) rfl rfl
  | dequeue free head =>
      refine quiet (by simp only [Board.callbackEvents, free]) ?_ rfl
      simp only [Board.calling, free]
      exact calling_taskWork _
  | run next built normal =>
      rename_i rest task arg
      rw [next] at stage
      have called : before.callbackEvents env input = [.called (.run arg)] := by
        simp only [Board.callbackEvents, next, built, if_neg normal]
      rw [called]
      cases stage
      refine .called rfl (by simp [Board.calling, next, CommOp.isCallback]) rfl ?_
      simp [Board.ranArgs, Board.ranTasks, Board.record, Event.ranTask, Callback.ranArg,
        built]
  | runDrop next built drop =>
      rw [next] at stage
      cases stage with
      | running normal key => exact absurd drop (key.service _ built)
  | clear next built =>
      rename_i rest taskKey arg
      rw [next] at stage
      have called : before.callbackEvents env input = [.called (.multirespondClear arg)] := by
        simp only [Board.callbackEvents, next, built]
      rw [called]
      cases stage
      exact .called rfl (by simp [Board.calling, next, CommOp.isCallback]) rfl rfl
  | callbackReturn next =>
      rw [next] at stage
      cases input with
      | advance =>
          have returned : before.callbackEvents env .advance = [.returned] := by
            simp only [Board.callbackEvents, next]
          rw [returned]
          cases stage with
          | clearCallback dropped =>
              exact .returned (by simp [Board.calling, next, CommOp.isCallback]) rfl rfl
          | runCallback =>
              exact .returned (by simp [Board.calling, next, CommOp.isCallback]) rfl rfl
      | proxyReply arg headers payload =>
          -- a callback that replies goes on
          refine quiet (by simp only [Board.callbackEvents, next]) ?_ rfl
          unfold Board.move at moved
          split at moved
          · cases moved
          · rw [next] at moved
            dsimp only [Board.commOp] at moved
            have work := congrArg (Option.map fun board => board.work.length) moved
            simp only [Option.map_some, List.length_cons, Option.some.injEq] at work
            omega
  | callbackReply next =>
      refine quiet (by simp only [Board.callbackEvents, next]) ?_ rfl
      simp [Board.calling, next, CommOp.isCallback]
  | awaited next there finished | confirmCall next built =>
      refine quiet (by simp only [Board.callbackEvents, next]) ?_ rfl
      simp [Board.calling, next, CommOp.isCallback]
  | requestUnknown next | requestFound next =>
      rw [next] at stage
      cases stage
  | dropAbsent next drops | dropLast next drops | dropQuiet next drops =>
      rw [next] at stage
      cases stage <;> try cases drops
      exact quiet (by simp only [Board.callbackEvents, next])
        (by simp [Board.calling, next, CommOp.isCallback, Board.record]) rfl

/-- Only the comm thread changes what the application is told. -/
theorem untold_step {action : Board.Move} (step : BoardStep env before action after)
    (elsewhere : ∀ input, action ≠ .comm input) :
    after.calling = before.calling ∧ after.ranArgs env = before.ranArgs env := by
  constructor
  · simp only [Board.calling, ProxyState.work_step step elsewhere]
  · cases action with
    | comm input => exact absurd rfl (elsewhere input)
    | confirm exchange rid => cases step <;> rfl
    | channel => cases step <;> rfl
    | reply index => cases step <;> rfl
    | proxyReply arg headers payload => cases step <;> rfl
    | channelCrash =>
        cases step
        rfl

end Tells

/-! ## Runs -/

namespace CallbackState

/-- What the comm thread can do outside its loop. -/
inductive LifeStep (hooks : Hooks) : CallbackState → CallbackState → Prop
  | start {state : CallbackState} (life : state.life = .created)
      (has : hooks.hasStart = true) :
      LifeStep hooks state
        { state with life := .starting, events := .called .start :: state.events }
  | unstarted {state : CallbackState} (life : state.life = .created)
      (none : hooks.hasStart = false) : LifeStep hooks state { state with life := .looping }
  | started {state : CallbackState} (life : state.life = .starting) :
      LifeStep hooks state
        { state with life := .looping, events := .returned :: state.events }
  | stop {state : CallbackState} (life : state.life = .looping)
      (finished : state.proxy.comm.position = .finished) (has : hooks.hasStop = true) :
      LifeStep hooks state
        { state with life := .stopping, events := .called .stop :: state.events }
  | unstopped {state : CallbackState} (life : state.life = .looping)
      (finished : state.proxy.comm.position = .finished) (none : hooks.hasStop = false) :
      LifeStep hooks state { state with life := .ended }
  | stopped {state : CallbackState} (life : state.life = .stopping) :
      LifeStep hooks state { state with life := .ended, events := .returned :: state.events }

variable {env : Environment} {hooks : Hooks} {before after : CallbackState}

theorem lifeStep_of_stepLife (next : before.stepLife hooks = some after) :
    LifeStep hooks before after := by
  unfold stepLife at next
  split at next
  · cases next
  · split at next
    · rename_i life
      split at next
      · rename_i has
        cases next
        exact .start life has
      · rename_i none
        cases next
        exact .unstarted life (Bool.eq_false_iff.mpr none)
    · rename_i life
      cases next
      exact .started life
    · rename_i life
      split at next
      · rename_i finished
        split at next
        · rename_i has
          cases next
          exact .stop life finished has
        · rename_i none
          cases next
          exact .unstopped life finished (Bool.eq_false_iff.mpr none)
      · cases next
    · rename_i life
      cases next
      exact .stopped life
    · cases next

theorem LifeStep.proxy (step : LifeStep hooks before after) : after.proxy = before.proxy := by
  cases step <;> rfl

theorem proxy_reaches {state : CallbackState}
    (reached : Runs.Reaches (step env hooks) Runs.unrestricted initial state) :
    Runs.Reaches (ProxyState.step env) Runs.unrestricted .initial state.proxy := by
  apply reached.project_unrestricted CallbackState.proxy
  intro before action after _ next
  cases action with
  | life => exact Or.inl (lifeStep_of_stepLife next).proxy
  | proxy action =>
      simp only [step] at next
      split at next
      · cases next
      · obtain ⟨proxy, moved, rfl⟩ := Option.map_eq_some_iff.mp next
        exact Or.inr ⟨action, moved⟩

/-- What is kept about a run with its callbacks. -/
structure Turns (env : Environment) (hooks : Hooks) (state : CallbackState) : Prop where
  turn : InTurn hooks state.life state.proxy.board.calling state.events
  ran : ((served state.events).filterMap Callback.ranArg).map some =
    (state.proxy.board.ranArgs env).reverse
  joined : state.proxy.main = .finished → state.life = .ended

theorem turns_initial : Turns env hooks initial := ⟨.created, rfl, nofun⟩

/-- The callbacks outside the loop come where they are due. -/
private theorem inTurn_life (step : LifeStep hooks before after) {going : Bool}
    (turn : InTurn hooks before.life going before.events)
    (free : before.proxy.comm.position = .finished → going = false) :
    InTurn hooks after.life going after.events ∧ served after.events = served before.events := by
  obtain ⟨proxy, life, events⟩ := before
  cases step with
  | start created has =>
      cases created
      cases turn
      exact ⟨.starting has, served_outside _ rfl⟩
  | unstarted created none =>
      cases created
      cases turn
      exact ⟨.unstarted none, rfl⟩
  | started starting =>
      cases starting
      cases turn with
      | starting has => exact ⟨.started has, served_returned _⟩
  | stop looping finished has =>
      cases looping
      cases free finished
      exact ⟨.stopping has turn, served_outside _ rfl⟩
  | unstopped looping finished none =>
      cases looping
      cases free finished
      exact ⟨.unstopped none turn, rfl⟩
  | stopped stopping =>
      cases stopping
      cases turn with
      | stopping has before => exact ⟨.stopped has (.stopping has before), served_returned _⟩

private theorem turns_life (turns : Turns env hooks before)
    (free : before.proxy.comm.position = .finished → before.proxy.board.calling = false)
    (step : LifeStep hooks before after) : Turns env hooks after := by
  obtain ⟨turn, same⟩ := inTurn_life step turns.turn free
  refine ⟨?_, ?_, ?_⟩
  · rw [step.proxy]
    exact turn
  · rw [step.proxy, same]
    exact turns.ran
  · intro finished
    rw [step.proxy] at finished
    have ended := turns.joined finished
    cases step with
    | start life | unstarted life | started life | stop life =>
        rw [life] at ended
        cases ended
    | unstopped | stopped => rfl

/-- The comm thread calls and returns in its loop only. -/
private theorem inTurn_tells {board : Board} {events told : List CallbackEvent}
    {before : Board} (tells : Tells env before board told)
    (turn : InTurn hooks .looping before.calling events)
    (ran : ((served events).filterMap Callback.ranArg).map some =
      (before.ranArgs env).reverse) :
    InTurn hooks .looping board.calling (told ++ events) ∧
      ((served (told ++ events)).filterMap Callback.ranArg).map some =
        (board.ranArgs env).reverse := by
  cases tells with
  | called loops idle going runs =>
      rename_i callback
      rw [idle] at turn
      rw [going, runs]
      refine ⟨.called loops turn, ?_⟩
      change ((served (.called callback :: events)).filterMap Callback.ranArg).map some = _
      rw [served_called _ loops, List.filterMap_append, List.map_append, ran,
        List.reverse_append]
      cases callback <;> rfl
  | returned going idle same =>
      rw [going] at turn
      rw [idle, same]
      exact ⟨.returned turn, ran⟩
  | silent same unrun =>
      rw [same, unrun]
      exact ⟨turn, ran⟩

/-- What the loop tells the application is what the step of its task tells. -/
private theorem tells_of_step {input : Board.CommInput} {before after : ProxyState}
    (tasks : TasksSound env before.board)
    (next : before.step env (.comm input) = some after) :
    Tells env before.board after.board (before.callbackEvents env (.comm input)) := by
  have elsewhere : before.comm.position ≠ .drain →
      before.callbackEvents env (.comm input) = [] := by
    intro position
    unfold ProxyState.callbackEvents
    split
    · rename_i drains
      exact absurd drains position
    · rfl
  have silent : before.comm.position ≠ .drain → Tells env before.board before.board
      (before.callbackEvents env (.comm input)) := by
    intro position
    rw [elsewhere position]
    exact .silent rfl rfl
  cases proxyStep_of_step next with
  | perform chosen unconfirmed busy performed =>
      cases chosen
      have drains := busy input rfl
      have told : before.callbackEvents env (.comm input) =
          before.board.callbackEvents env input := by
        simp only [ProxyState.callbackEvents, drains]
      rw [told]
      exact tells_of_move tasks (perform_cases performed).1
  | commLock position | commEnd position | commDrain position | commWake position =>
      exact silent (by simp [position])
  | commWait position free empty =>
      have told : before.callbackEvents env (.comm input) = [] := by
        simp only [ProxyState.callbackEvents, position, Board.callbackEvents, free]
      rw [told]
      exact .silent rfl rfl
  | deliver chosen moved => cases chosen
  | request written rid signal asks => rcases asks with ⟨chosen, _⟩ | ⟨chosen, _⟩ <;> cases chosen

/-- The other threads and the dispatcher tell nothing. -/
private theorem untold_of_step {action : Action} {before after : ProxyState}
    (elsewhere : ∀ input, action ≠ .comm input)
    (next : before.step env action = some after) :
    before.callbackEvents env action = [] ∧ after.board.calling = before.board.calling ∧
      after.board.ranArgs env = before.board.ranArgs env := by
  constructor
  · unfold ProxyState.callbackEvents
    split
    · exact absurd rfl (elsewhere _)
    · rfl
  · rcases (refines_of_step next).board with same | ⟨move, chosen, moved⟩
    · rw [same]
      exact ⟨rfl, rfl⟩
    · refine untold_step (Board.boardStep_of_move moved) ?_
      rintro input rfl
      cases action with
      | comm other => exact elsewhere other rfl
      | channel other =>
          simp only [boardMove] at chosen
          split at chosen <;> cases chosen
      | _ => cases chosen

/-- The main thread finishes by joining the comm thread. -/
private theorem joinComm_of_step {action : Action} {before after : ProxyState}
    (next : before.step env action = some after) (running : before.main ≠ .finished)
    (finished : after.main = .finished) : action = .main ∧ before.main = .joinComm := by
  cases proxyStep_of_step next with
  | perform chosen unconfirmed busy performed =>
      obtain ⟨board, _, changed⟩ := performed_of_perform performed
      cases changed <;> exact absurd finished running
  | joinComm position => exact ⟨rfl, position⟩
  | stopping | stopChannel | stopSubscribe | endSubscribe | stopComm | joinChannel
  | joinSubscribe => cases finished
  | _ => exact absurd finished running

private theorem turns_proxy {action : Action} {proxy : ProxyState}
    (turns : Turns env hooks before) (tasks : TasksSound env before.proxy.board)
    (free : ¬before.Waits action) (next : before.proxy.step env action = some proxy) :
    Turns env hooks { before with
      proxy := proxy, events := before.proxy.callbackEvents env action ++ before.events } := by
  have joined : proxy.main = .finished → before.life = .ended := by
    intro finished
    by_cases earlier : before.proxy.main = .finished
    · exact turns.joined earlier
    · obtain ⟨rfl, joining⟩ := joinComm_of_step next earlier finished
      by_contra running
      exact free ⟨joining, running⟩
  by_cases comm : ∃ input, action = .comm input
  · obtain ⟨input, rfl⟩ := comm
    have looping : before.life = .looping := not_not.mp free
    have turn := turns.turn
    rw [looping] at turn
    obtain ⟨told, ran⟩ := inTurn_tells (tells_of_step tasks next) turn turns.ran
    refine ⟨?_, ran, joined⟩
    rw [looping]
    exact told
  · obtain ⟨silent, calling, ran⟩ := untold_of_step (fun input same => comm ⟨input, same⟩) next
    refine ⟨?_, ?_, joined⟩
    · rw [silent, calling]
      exact turns.turn
    · rw [silent, ran]
      exact turns.ran

theorem turns_of_reaches {state : CallbackState}
    (reached : Runs.Reaches (step env hooks) Runs.unrestricted initial state) :
    Turns env hooks state := by
  have established : ∀ other,
      Runs.Reaches (step env hooks) Runs.unrestricted initial other →
      Runs.Reaches (ProxyState.step env) Runs.unrestricted .initial other.proxy :=
    fun _ earlier => proxy_reaches earlier
  refine reached.invariant_of established turns_initial ?_
  intro before action after known turns _ next
  cases action with
  | life =>
      refine turns_life turns ?_ (lifeStep_of_stepLife next)
      intro finished
      obtain ⟨parsing, _, parses⟩ := parses_of_reaches known
      have idle := (parses.stands.idle (by simp [finished])).1
      simp only [Board.calling, idle]
      rfl
  | proxy action =>
      simp only [step] at next
      split at next
      · cases next
      · rename_i free
        obtain ⟨proxy, moved, rfl⟩ := Option.map_eq_some_iff.mp next
        exact turns_proxy turns (working_of_reaches known).tasks free moved

/-- What the application can rely on. -/
structure Promise (env : Environment) (hooks : Hooks) (state : CallbackState) : Prop where
  /-- `ProxyStart`, then the callbacks of the loop one after the other, then `ProxyStop`. -/
  turns : state.events.reverse <+:
    hooks.opening ++ (served state.events).flatMap Callback.span ++ hooks.closing
  /-- `work` returns after the last of them. -/
  finished : state.proxy.main = .finished → state.events.reverse =
    hooks.opening ++ (served state.events).flatMap Callback.span ++ hooks.closing
  /-- `ProxyRun` is given the tasks in the order in which their requests were confirmed. -/
  ran : ((served state.events).filterMap Callback.ranArg).map some =
    (state.proxy.board.ranArgs env).reverse
  confirmed : (state.proxy.board.ranTasks.map ParseQueueTask.rid).Sublist
    state.proxy.board.confirmed

theorem callbacks_in_turn {state : CallbackState}
    (reached : Runs.Reaches (step env hooks) Runs.unrestricted initial state) :
    Promise env hooks state := by
  have turns := turns_of_reaches reached
  exact {
    turns := turns.turn.isPrefix
    finished := by
      intro finished
      have turn := turns.turn
      rw [turns.joined finished] at turn
      cases calling : state.proxy.board.calling with
      | false =>
          rw [calling] at turn
          exact turn.ended
      | true =>
          rw [calling] at turn
          cases turn
    ran := turns.ran
    confirmed := (ordered_of_reaches (proxy_reaches reached)).ranTasks_sublist }

/-- One request is run before the proxy is told to stop. -/
theorem callbacks_in_turn_finished :
    ∃ state : CallbackState, state.proxy.main = .finished ∧ (served state.events).length = 1 ∧
      Promise .reference ⟨true, true⟩ state := by
  obtain ⟨state, reached, tested⟩ :=
    Runs.reaches_of_execute_test (step .reference ⟨true, true⟩) Runs.unrestricted
      ([.life, .life] ++
        (requestActions "s" (.object []) .singleshot false "r1" 5 ++ commActions 6 ++
          [channelStep, .sigterm] ++ List.replicate 5 Action.main ++ commActions 2).map
            .proxy ++
        [.life, .life] ++
        ([channelStep, .subscribe false, .subscribe false] ++
          List.replicate 3 Action.main).map .proxy)
      initial
      (fun state => decide (state.proxy.main = .finished ∧ (served state.events).length = 1))
      (by decide +kernel)
  obtain ⟨finished, once⟩ := of_decide_eq_true tested
  exact ⟨state, finished, once, callbacks_in_turn reached⟩

end CallbackState

end Sawang
