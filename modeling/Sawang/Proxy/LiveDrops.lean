import Sawang.Board.Drops
import Sawang.Proxy.Layers

/-!
# Drops of the proxy and the keys in its tables

The recipients of a reply and the target of an unsubscription are looked up in one
lock section and dropped in another.  In between another thread, or another
unsubscription of the queue, may drop the same uuid, and with the last uuid the key
leaves its table.  The module says when a drop still finds its key.
-/

namespace Sawang

/-- The call that a step makes to set or drop a uuid. -/
def ProxyState.tableCall (env : Environment) (state : ProxyState) : Action → Option TableCall
  | .channel _ =>
      match state.channel.position with
      | .job => state.board.tableCall env .channel
      | _ => none
  | .comm input =>
      match state.comm.position with
      | .drain => state.board.tableCall env (.comm input)
      | _ => none
  | .reply call => state.board.tableCall env (.reply call)
  | _ => none

namespace ProxyState

variable {env : Environment} {before after : ProxyState}

/-- A step that calls nothing leaves the board alone, or calls what its move calls. -/
inductive Calls (env : Environment) (action : Action) (before after : ProxyState) : Prop
  | silent (uncalled : before.tableCall env action = none) (same : after.board = before.board)
  | move (move : Board.Move)
      (called : before.tableCall env action = before.board.tableCall env move)
      (moved : before.board.move env move = some after.board)

private theorem uncalled_of_waits {input : ChannelInput} (waits : before.channel.Waits) :
    before.tableCall env (.channel input) = none := by
  rcases waits with position | position | ⟨exchange, position⟩ <;>
    simp only [tableCall, position]

private theorem calls_of_perform {action : Action} {move : Board.Move}
    (chosen : before.boardMove action = some move)
    (unconfirmed : ∀ exchange rid, move ≠ .confirm exchange rid)
    (busy : ∀ input, action = .comm input → before.comm.position = .drain)
    (moved : before.board.move env move = some after.board) :
    Calls env action before after := by
  refine .move move ?_ moved
  cases action with
  | channel input =>
      simp only [boardMove] at chosen
      split at chosen
      · rename_i position
        cases chosen
        simp only [tableCall, position]
        rfl
      · cases chosen
        exact absurd rfl (unconfirmed _ _)
      · rename_i position
        cases chosen
        simp only [tableCall, position]
      · cases chosen
  | comm input =>
      cases chosen
      simp only [tableCall, busy input rfl]
  | reply call =>
      cases chosen
      rfl
  | proxyReply arg headers payload =>
      cases chosen
      rfl
  | _ => cases chosen

theorem calls_of_step {action : Action} (next : before.step env action = some after) :
    Calls env action before after := by
  cases proxyStep_of_step next with
  | perform chosen unconfirmed busy performed =>
      exact calls_of_perform chosen unconfirmed busy (perform_cases performed).1
  | @confirm _ exchange board position woken done moved =>
      refine .move (.confirm exchange before.channel.rid) ?_ moved
      simp only [tableCall, position]
      rfl
  | jobDone position empty =>
      refine .silent ?_ rfl
      simp only [tableCall, position, Board.tableCall, empty]
  | commWait position free empty =>
      refine .silent ?_ rfl
      simp only [tableCall, position, Board.tableCall, free]
  | channelFinish ownerDead woken ends =>
      exact .silent (uncalled_of_waits ends.waits) rfl
  | channelReturn proxyExit woken returns =>
      exact .silent (uncalled_of_waits returns.waits) rfl
  | channelEnd position | channelIdle position | channelAccept _ _ position
  | channelRest position | commLock position | commEnd position | commDrain position
  | commWake position =>
      refine .silent ?_ rfl
      simp only [tableCall, position]
  | deliver chosen moved =>
      refine .silent ?_ rfl
      cases action <;> first | rfl | cases chosen
  | request written rid signal asks free alive =>
      rcases asks with ⟨rfl, _⟩ | ⟨rfl, _⟩ <;> exact .silent rfl rfl
  | _ => exact .silent rfl rfl

end ProxyState

/-- The proxy with the calls that set or drop a uuid, newest first. -/
structure DropRun where
  state : ProxyState
  trace : List TableCall
  /-- A drop did not find its key. -/
  missed : Bool

open ProxyState

namespace DropRun

def initial : DropRun where
  state := .initial
  trace := []
  missed := false

def step (env : Environment) (action : Action) (run : DropRun) : Option DropRun :=
  (run.state.step env action).map fun after =>
    match run.state.tableCall env action with
    | none => { run with state := after }
    | some call =>
        { state := after
          trace := call :: run.trace
          missed := run.missed || run.state.board.misses call }

/-- A drop of the step does not repeat the last call for its uuid, or finds another
uuid under the key. -/
def Undropped (env : Environment) (run : DropRun) (action : Action) : Prop :=
  ∀ call ∈ run.state.tableCall env action, run.state.board.Undropped run.trace call

instance (env : Environment) (run : DropRun) (action : Action) :
    Decidable (run.Undropped env action) :=
  inferInstanceAs (Decidable (∀ call ∈ run.state.tableCall env action, _))

variable {env : Environment} {before after : DropRun}

/-- What a step adds to the run. -/
theorem step_cases {action : Action} (next : before.step env action = some after) :
    before.state.step env action = some after.state ∧
      after.trace = (before.state.tableCall env action).toList ++ before.trace ∧
      (after.missed = true ↔ before.missed = true ∨
        ∃ call, before.state.tableCall env action = some call ∧
          before.state.board.misses call = true) := by
  obtain ⟨state, moved, rfl⟩ := Option.map_eq_some_iff.mp next
  cases called : before.state.tableCall env action with
  | none => exact ⟨moved, rfl, by simp⟩
  | some call => exact ⟨moved, rfl, by simp⟩

/-! ## The trace along a run -/

/-- The trace tells who is listed, and whoever is to be dropped was registered. -/
structure Sound (run : DropRun) : Prop where
  traced : run.state.board.Traced run.trace
  recalls : run.state.board.tables.waiting.Recalls run.trace

theorem sound_initial : initial.Sound where
  traced := Board.traced_initial
  recalls := by
    change RespondTables.create.waiting.Recalls []
    rw [RespondTables.waiting_create]
    exact Waiting.recalls_nobody

/-- A registered uuid was set. -/
private theorem Sound.listed {run : DropRun} (sound : run.Sound) {which : RespondTableType}
    {taskKey uuid : String} (member : uuid ∈ run.state.board.tables.waiting which taskKey) :
    .set which taskKey uuid ∈ run.trace :=
  List.mem_of_find?_eq_some ((sound.recalls which taskKey uuid).mp member)

theorem Sound.step {action : Action} (sound : before.Sound)
    (next : before.step env action = some after)
    (running : after.state.board.crashed = false) : after.Sound := by
  obtain ⟨moved, grown, _⟩ := step_cases next
  cases ProxyState.calls_of_step moved with
  | silent uncalled same =>
      rw [uncalled, Option.toList_none, List.nil_append] at grown
      constructor
      · rw [same, grown]
        exact sound.traced
      · rw [same, grown]
        exact sound.recalls
  | move move called moves =>
      rw [called] at grown
      have traced := Board.traced_step sound.traced
        (fun which taskKey uuid member => sound.listed member) (Board.boardStep_of_move moves)
      constructor
      · rw [grown]
        cases before.state.board.tableCall env move with
        | none => exact traced
        | some call => exact traced.cons call
      · rw [grown]
        exact Board.recalls_move sound.recalls moves running

/-- A step is made before a NULL text is met. -/
private theorem running_of_step {action : Action} (next : before.step env action = some after) :
    before.state.board.crashed = false := by
  have moved := (step_cases next).1
  unfold ProxyState.step at moved
  split at moved
  · cases moved
  · rename_i running
    exact Bool.eq_false_iff.mpr running

theorem sound_of_reaches {admissible : DropRun → Action → Prop} {run : DropRun}
    (reached : Runs.Reaches (step env) admissible initial run)
    (running : run.state.board.crashed = false) : run.Sound := by
  induction reached with
  | refl => exact sound_initial
  | tail earlier _ next inductionHypothesis =>
      exact (inductionHypothesis (running_of_step next)).step next running

/-- A call of a step is the call of a move of the board. -/
private theorem move_of_call {action : Action} {call : TableCall}
    (next : before.step env action = some after)
    (called : before.state.tableCall env action = some call) :
    ∃ move, before.state.board.tableCall env move = some call := by
  cases ProxyState.calls_of_step (step_cases next).1 with
  | silent uncalled same =>
      rw [uncalled] at called
      cases called
  | move move moves moved => exact ⟨move, moves ▸ called⟩

/-- A step adds a drop that misses its key just if it repeats the last drop of its uuid
and nobody else is left. -/
theorem missed_step_iff {action : Action} (sound : before.Sound) (hits : before.missed = false)
    (next : before.step env action = some after) :
    after.missed = false ↔ before.Undropped env action := by
  have misses := (step_cases next).2.2
  rw [hits] at misses
  unfold Undropped
  cases called : before.state.tableCall env action with
  | none => simpa [called] using misses
  | some call =>
      obtain ⟨move, moves⟩ := move_of_call next called
      have hit := Board.misses_eq_false_iff sound.traced sound.recalls moves
      rw [Bool.eq_false_iff, ne_eq, misses]
      simpa [called] using hit

/-- In every run that repeats no drop of a last uuid, every drop finds its key; the first
that repeats one does not. -/
theorem drops_live_iff {env : Environment} {run : DropRun}
    (reached : Runs.Reaches (step env) (Undropped env) initial run) :
    run.missed = false ∧
      ∀ action after, run.step env action = some after →
        (after.missed = false ↔ run.Undropped env action) := by
  have hits : run.missed = false := by
    induction reached with
    | refl => rfl
    | tail earlier undropped next inductionHypothesis =>
        have sound := sound_of_reaches earlier (running_of_step next)
        exact (missed_step_iff sound inductionHypothesis next).mpr undropped
  refine ⟨hits, fun action after next => ?_⟩
  exact missed_step_iff (sound_of_reaches reached (running_of_step next)) hits next

/-- A client subscribes as `r1` and asks to be dropped in the requests `r2` and `r3`; the
channel thread has queued both before the comm thread begins. -/
private def unsubscribedActions (commSteps : Nat) : List Action :=
  requestActions "s" (.object []) .multirespond false "r1" 5 ++
    requestActions "s" (.object [("rid", .string "r1")]) .singleshot true "r2" 6 ++
    requestActions "s" (.object [("rid", .string "r1")]) .singleshot true "r3" 6 ++
    commActions commSteps

/-- The first of the two requests drops the uuid. -/
theorem drops_live_iff_once :
    ∃ run : DropRun,
      (∃ taskKey, run.trace.head? = some (.drop .multirespond taskKey "r1")) ∧
      (run.missed = false ∧ ∀ action after, run.step .reference action = some after →
        (after.missed = false ↔ run.Undropped .reference action)) := by
  let taskKey := taskKeyFromReplyArg .reference ⟨"s", some (.object [])⟩
  obtain ⟨run, reached, tested⟩ := Runs.reaches_of_execute_test (step .reference)
    (Undropped .reference) (unsubscribedActions 10) initial
    (fun run => decide (run.trace.head? = some (.drop .multirespond taskKey "r1")))
    (by decide +kernel)
  exact ⟨run, ⟨taskKey, of_decide_eq_true tested⟩, drops_live_iff reached⟩

/-- The second of the two requests drops the uuid again. -/
theorem drops_not_live :
    ¬∀ (env : Environment) (run : DropRun),
      Runs.Reaches (step env) Runs.unrestricted initial run → run.missed = false := by
  intro live
  obtain ⟨run, reached, missed⟩ := Runs.reaches_of_execute_test (step .reference)
    Runs.unrestricted (unsubscribedActions 10 ++ replyActions 0 6 ++ commActions 3) initial
    (fun run => run.missed) (by decide +kernel)
  rw [live .reference run reached] at missed
  cases missed

end DropRun

end Sawang
