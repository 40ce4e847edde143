import Mathlib.Data.Fintype.WithTopBot
import Sawang.GonggoAlive.LogLock
import Sawang.Proxy.Settling

/-!
# The end of work

The threads of the proxy beside the watch and the lock of the log.  They meet in the main
thread: its statements on the other threads are steps of both, its messages and what it
does with the watch are steps of the log alone.
-/

namespace Sawang

namespace ProxyState

variable {env : Environment} {before after : ProxyState} {action : Action}

end ProxyState

namespace LogLock

variable {before after : LogLock} {action : LogLock.Action}

end LogLock

structure Ending where
  proxy : ProxyState
  log : LogLock

namespace Ending

inductive Move where
  | main
  | proxy (action : Action)
  | log (action : LogLock.Action)

def initial : Ending := ⟨.initial, .initial⟩

def stepMain (env : Environment) (state : Ending) : Option Ending :=
  match state.log.main with
  | .thread :: _ =>
      (state.proxy.step env .main).bind fun proxy =>
        (state.log.step .main).map fun log => ⟨proxy, log⟩
  | _ => (state.log.step .main).map fun log => { state with log := log }

/-- The process has died. -/
def crashed (state : Ending) : Bool := state.proxy.board.crashed || state.log.crashed

def step (env : Environment) (action : Move) (state : Ending) : Option Ending :=
  if state.crashed then none
  else
    match action with
    | .main => state.stepMain env
    | .proxy .main | .log .main => none
    | .proxy action =>
        (state.proxy.step env action).map fun proxy => { state with proxy := proxy }
    | .log action => (state.log.step action).map fun log => { state with log := log }

/-- What the step does to each of the two; `none` where it leaves it alone. -/
inductive Steps (env : Environment) (before after : Ending) : Move → Prop
  | both (position : ∃ rest, before.log.main = .thread :: rest)
      (proxy : before.proxy.step env .main = some after.proxy)
      (log : before.log.step .main = some after.log) : Steps env before after .main
  | mainLog (position : ∀ rest, before.log.main ≠ .thread :: rest)
      (same : after.proxy = before.proxy)
      (log : before.log.step .main = some after.log) : Steps env before after .main
  | proxy {action : Action} (other : action ≠ .main)
      (proxy : before.proxy.step env action = some after.proxy)
      (same : after.log = before.log) : Steps env before after (.proxy action)
  | log {action : LogLock.Action} (other : action ≠ .main)
      (same : after.proxy = before.proxy)
      (log : before.log.step action = some after.log) : Steps env before after (.log action)

variable {env : Environment} {before after state : Ending} {action : Move}

theorem step_main (running : state.crashed = false) :
    state.step env .main = state.stepMain env := by
  unfold step
  rw [if_neg (by simp [running])]

theorem step_proxy {action : Action} (running : state.crashed = false)
    (other : action ≠ .main) :
    state.step env (.proxy action) =
      (state.proxy.step env action).map fun proxy => { state with proxy := proxy } := by
  unfold step
  rw [if_neg (by simp [running])]
  cases action <;> first | exact absurd rfl other | rfl

theorem step_log {action : LogLock.Action} (running : state.crashed = false)
    (other : action ≠ .main) :
    state.step env (.log action) =
      (state.log.step action).map fun log => { state with log := log } := by
  unfold step
  rw [if_neg (by simp [running])]
  cases action <;> first | exact absurd rfl other | rfl

theorem steps_of_step (next : before.step env action = some after) :
    Steps env before after action := by
  have running : before.crashed = false := by
    by_contra crashed
    unfold step at next
    rw [if_pos (by simpa using crashed)] at next
    cases next
  cases action with
  | main =>
      rw [step_main running, stepMain] at next
      split at next
      · rename_i rest position
        obtain ⟨proxy, moved, next⟩ := Option.bind_eq_some_iff.mp next
        obtain ⟨log, logged, rfl⟩ := Option.map_eq_some_iff.mp next
        exact .both ⟨rest, position⟩ moved logged
      · rename_i position
        obtain ⟨log, logged, rfl⟩ := Option.map_eq_some_iff.mp next
        exact .mainLog position rfl logged
  | proxy action =>
      by_cases main : action = .main
      · subst main
        unfold step at next
        split at next <;> cases next
      · rw [step_proxy running main] at next
        obtain ⟨proxy, moved, rfl⟩ := Option.map_eq_some_iff.mp next
        exact .proxy main moved rfl
  | log action =>
      by_cases main : action = .main
      · subst main
        unfold step at next
        split at next <;> cases next
      · rw [step_log running main] at next
        obtain ⟨log, logged, rfl⟩ := Option.map_eq_some_iff.mp next
        exact .log main rfl logged

/-- No thread comes to need a dead dispatcher. -/
def AvoidsGonggo (state : Ending) : Move → Prop
  | .main => state.log.main.head? = some .thread → state.proxy.AvoidsGonggo .main
  | .proxy action => state.proxy.AvoidsGonggo action
  | .log _ => True

instance (state : Ending) : (action : Move) → Decidable (state.AvoidsGonggo action)
  | .main => inferInstanceAs (Decidable (_ → _))
  | .proxy action => inferInstanceAs (Decidable (state.proxy.AvoidsGonggo action))
  | .log _ => inferInstanceAs (Decidable True)

/-- A step of the main thread, of the watch or of a thread whose callbacks just return.
The messages of the threads are not counted, but end. -/
def Quiet (state : Ending) : Move → Prop
  | .main => True
  | .proxy action => state.proxy.Quiet action
  | .log action => action ≠ .otherLocks

/-! ## The two parts -/

theorem proxy_reaches (reached : Runs.Reaches (step env) AvoidsGonggo initial state) :
    Runs.Reaches (ProxyState.step env) ProxyState.AvoidsGonggo .initial state.proxy := by
  apply reached.project Ending.proxy
  intro before action after avoids next
  cases steps_of_step next with
  | both position proxy log =>
      obtain ⟨rest, position⟩ := position
      exact Or.inr ⟨.main, avoids (by rw [position]; rfl), proxy⟩
  | proxy other proxy same => exact Or.inr ⟨_, avoids, proxy⟩
  | mainLog position same | log other same => exact Or.inl same

theorem sound_step (sound : before.log.Sound) (next : before.step env action = some after) :
    after.log.Sound := by
  cases steps_of_step next with
  | both _ _ log | mainLog _ _ log | log _ _ log => exact LogLock.sound_step sound log
  | proxy _ _ same => exact same ▸ sound

/-- The layers of the proxy, and what is left of the watch and the messages behind them. -/
def layers (env : Environment) (state : Ending) : WithTop Layer → Nat
  | some layer => state.proxy.layers env layer
  | none => state.log.remaining

/-- Every step takes from the work that is left. -/
theorem quiet_goesDown (env : Environment) :
    Runs.GoesDown (step env) (fun state action => state.Quiet action ∧ state.log.Sound)
      (layers env) := by
  rintro before action after ⟨quiet, sound⟩ next
  have proxyDown : ∀ {move : Action}, before.proxy.Quiet move →
      before.proxy.step env move = some after.proxy →
      Runs.Descends (layers env) after before := by
    intro move own moved
    obtain ⟨layer, less, others⟩ := ProxyState.quiet_goesDown env _ _ _ own moved
    refine ⟨(layer : WithTop Layer), less, fun above earlier => ?_⟩
    cases above with
    | top => exact absurd earlier not_top_lt
    | coe above => exact others above (WithTop.coe_lt_coe.mp earlier)
  have logDown : ∀ {move : LogLock.Action}, move ≠ .otherLocks → after.proxy = before.proxy →
      before.log.step move = some after.log → Runs.Descends (layers env) after before := by
    intro move own same logged
    refine ⟨⊤, LogLock.remaining_step sound own logged, fun above earlier => ?_⟩
    cases above with
    | top => exact absurd earlier (lt_irrefl _)
    | coe above => exact le_of_eq (congrArg (fun proxy => proxy.layers env above) same)
  cases steps_of_step next with
  | both position proxy log =>
      exact proxyDown (show before.proxy.Quiet .main from trivial) proxy
  | mainLog position same log =>
      exact logDown (show LogLock.Action.main ≠ .otherLocks by decide) same log
  | proxy other proxy same => exact proxyDown quiet proxy
  | log other same log => exact logDown quiet same log

/-- Every thread has ended, and the main thread is at the end of `work`. -/
structure Finished (state : Ending) : Prop where
  proxy : state.proxy.Finished
  watch : state.log.watch = .ended
  main : state.log.main = []

end Ending

end Sawang
