import Mathlib.Logic.Relation

/-!
# Runs of a partial step function

A system is a partial function `step`: `step action state` is the next state, or
`none` where the action is not enabled.  A run may be restricted by a predicate
on the state before a step and the action taken, so that one notion covers the
unrestricted system and the runs of an environment that keeps a discipline.

The module states the invariant rules once: an invariant is established at the
start and preserved by one admissible step.
-/

namespace Runs

universe u v

variable {σ : Type u} {α : Type v}

/-- The states that runs from `start` reach when every step is `admissible`. -/
inductive Reaches (step : α → σ → Option σ)
    (admissible : σ → α → Prop) (start : σ) : σ → Prop
  | refl : Reaches step admissible start start
  | tail {middle target : σ} {action : α} :
      Reaches step admissible start middle →
      admissible middle action →
      step action middle = some target →
      Reaches step admissible start target

/-- The discipline that admits every step. -/
def unrestricted (_ : σ) (_ : α) : Prop := True

instance (state : σ) (action : α) : Decidable (unrestricted state action) :=
  inferInstanceAs (Decidable True)

/-- None of the given actions is enabled. -/
def Stuck (step : α → σ → Option σ) (own : α → Prop) (state : σ) : Prop :=
  ∀ action, own action → step action state = none

namespace Reaches

variable {step : α → σ → Option σ} {admissible : σ → α → Prop} {start : σ}

/-- A weaker discipline has at least the same runs. -/
theorem mono {weaker : σ → α → Prop} {state : σ}
    (reached : Reaches step admissible start state)
    (implies : ∀ before action,
      admissible before action → weaker before action) :
    Reaches step weaker start state := by
  induction reached with
  | refl => exact .refl
  | tail _ allowed next inductionHypothesis =>
      exact .tail inductionHypothesis (implies _ _ allowed) next

/-- One step is a run. -/
theorem single {target : σ} {action : α} (allowed : admissible start action)
    (next : step action start = some target) : Reaches step admissible start target :=
  .tail .refl allowed next

theorem trans {middle target : σ}
    (first : Reaches step admissible start middle)
    (second : Reaches step admissible middle target) :
    Reaches step admissible start target := by
  induction second with
  | refl => exact first
  | tail _ allowed next inductionHypothesis =>
      exact .tail inductionHypothesis allowed next

/-- A predicate that holds at the start and survives each admissible step holds
in every state reached. -/
theorem invariant {holds : σ → Prop} {state : σ}
    (reached : Reaches step admissible start state)
    (initial : holds start)
    (preserved : ∀ before action after,
      holds before → admissible before action →
      step action before = some after → holds after) :
    holds state := by
  induction reached with
  | refl => exact initial
  | tail _ allowed next inductionHypothesis =>
      exact preserved _ _ _ inductionHypothesis allowed next

/-- The same rule when the step lemma may use facts `known` of every state
reached before the step. -/
theorem invariant_of {known holds : σ → Prop} {state : σ}
    (reached : Reaches step admissible start state)
    (established : ∀ other, Reaches step admissible start other → known other)
    (initial : holds start)
    (preserved : ∀ before action after,
      known before → holds before → admissible before action →
      step action before = some after → holds after) :
    holds state := by
  induction reached with
  | refl => exact initial
  | tail earlier allowed next inductionHypothesis =>
      exact preserved _ _ _ (established _ earlier)
        inductionHypothesis allowed next

/-- A view of the system whose changes are steps of a smaller system: runs of the
one are seen as runs of the other.  The changes may be explained by facts `known`
of every state reached. -/
theorem project_of {τ : Type u} {β : Type v} {known : σ → Prop}
    {viewStep : β → τ → Option τ} {allowed : τ → β → Prop} {state : σ}
    (reached : Reaches step admissible start state) (view : σ → τ)
    (established : ∀ other, Reaches step admissible start other → known other)
    (simulates : ∀ before action after, known before →
      admissible before action → step action before = some after →
      view after = view before ∨
        ∃ move, allowed (view before) move ∧
          viewStep move (view before) = some (view after)) :
    Reaches viewStep allowed (view start) (view state) := by
  induction reached with
  | refl => exact .refl
  | tail earlier permitted next inductionHypothesis =>
      rcases simulates _ _ _ (established _ earlier) permitted next with
        same | ⟨move, allowedMove, moved⟩
      · rw [same]
        exact inductionHypothesis
      · exact .tail inductionHypothesis allowedMove moved

theorem project {τ : Type u} {β : Type v}
    {viewStep : β → τ → Option τ} {allowed : τ → β → Prop} {state : σ}
    (reached : Reaches step admissible start state) (view : σ → τ)
    (simulates : ∀ before action after,
      admissible before action → step action before = some after →
      view after = view before ∨
        ∃ move, allowed (view before) move ∧
          viewStep move (view before) = some (view after)) :
    Reaches viewStep allowed (view start) (view state) :=
  @project_of _ _ _ _ _ _ _ (fun _ => True) _ _ _ reached view (fun _ _ => trivial)
    (fun before action after _ => simulates before action after)

/-- A view whose changes are steps of a smaller system that is not restricted. -/
theorem project_unrestricted {τ : Type u} {β : Type v} {viewStep : β → τ → Option τ}
    {state : σ} (reached : Reaches step admissible start state) (view : σ → τ)
    (simulates : ∀ before action after,
      admissible before action → step action before = some after →
      view after = view before ∨ ∃ move, viewStep move (view before) = some (view after)) :
    Reaches viewStep unrestricted (view start) (view state) := by
  apply reached.project view
  intro before action after permitted next
  rcases simulates before action after permitted next with same | ⟨move, moved⟩
  · exact Or.inl same
  · exact Or.inr ⟨move, trivial, moved⟩

/-- A relation whose every step is matched by a run of another system: each run has a
related run there. -/
theorem simulate {τ : Type u} {β : Type v} {known : σ → Prop}
    {otherStep : β → τ → Option τ} {allowed : τ → β → Prop} {related : σ → τ → Prop}
    {origin : τ} {state : σ}
    (reached : Reaches step admissible start state)
    (established : ∀ other, Reaches step admissible start other → known other)
    (initial : related start origin)
    (simulates : ∀ before action after image, known before → related before image →
      admissible before action → step action before = some after →
      ∃ next, Reaches otherStep allowed image next ∧ related after next) :
    ∃ image, Reaches otherStep allowed origin image ∧ related state image := by
  induction reached with
  | refl => exact ⟨origin, .refl, initial⟩
  | tail earlier permitted next inductionHypothesis =>
      obtain ⟨image, run, relates⟩ := inductionHypothesis
      obtain ⟨target, further, related⟩ :=
        simulates _ _ _ _ (established _ earlier) relates permitted next
      exact ⟨target, run.trans further, related⟩

end Reaches

/-- A measure that goes down until a goal is met leads there. -/
theorem exists_reaches_of_measure {step : α → σ → Option σ} {admissible : σ → α → Prop}
    {goal : σ → Prop} (known : σ → Prop) (measure : σ → Nat)
    (progress : ∀ state, known state → goal state ∨
      ∃ after, Reaches step admissible state after ∧
        (goal after ∨ known after ∧ measure after < measure state))
    {start : σ} (starts : known start) :
    ∃ later, Reaches step admissible start later ∧ goal later := by
  generalize bound : measure start = n
  induction n using Nat.strongRecOn generalizing start with
  | ind n inductionHypothesis =>
      rcases progress start starts with met | ⟨after, run, met | ⟨goes, less⟩⟩
      · exact ⟨start, .refl, met⟩
      · exact ⟨after, run, met⟩
      · rw [bound] at less
        obtain ⟨later, further, met⟩ := inductionHypothesis _ less goes rfl
        exact ⟨later, run.trans further, met⟩

/-- The states that a run passes, newest first. -/
inductive Passes (step : α → σ → Option σ)
    (admissible : σ → α → Prop) (start : σ) : List σ → Prop
  | start : Passes step admissible start [start]
  | step {middle target : σ} {passed : List σ} {action : α} :
      Passes step admissible start (middle :: passed) →
      admissible middle action →
      step action middle = some target →
      Passes step admissible start (target :: middle :: passed)

namespace Passes

variable {step : α → σ → Option σ} {admissible : σ → α → Prop} {start : σ}

/-- The invariant rule for what holds of the states passed so far. -/
theorem invariant {holds : List σ → Prop} {passed : List σ}
    (run : Passes step admissible start passed)
    (initial : holds [start])
    (preserved : ∀ middle earlier action target,
      holds (middle :: earlier) → admissible middle action →
      step action middle = some target → holds (target :: middle :: earlier)) :
    holds passed := by
  induction run with
  | start => exact initial
  | step _ allowed next inductionHypothesis =>
      exact preserved _ _ _ _ inductionHypothesis allowed next

end Passes

/-- Every state reached is at the head of what some run passes. -/
theorem Reaches.passes {step : α → σ → Option σ} {admissible : σ → α → Prop}
    {start state : σ} (reached : Reaches step admissible start state) :
    ∃ earlier, Passes step admissible start (state :: earlier) := by
  induction reached with
  | refl => exact ⟨[], .start⟩
  | tail _ allowed next inductionHypothesis =>
      obtain ⟨earlier, run⟩ := inductionHypothesis
      exact ⟨_, .step run allowed next⟩

/-- The actions of a run, newest first. -/
inductive Trail (step : α → σ → Option σ) (start : σ) : List α → σ → Prop
  | start : Trail step start [] start
  | step {middle target : σ} {actions : List α} {action : α} :
      Trail step start actions middle →
      step action middle = some target →
      Trail step start (action :: actions) target

namespace Trail

variable {step : α → σ → Option σ} {start state : σ} {actions : List α}

theorem reaches (trail : Trail step start actions state) :
    Reaches step unrestricted start state := by
  induction trail with
  | start => exact .refl
  | step _ next inductionHypothesis => exact inductionHypothesis.tail trivial next

end Trail

section Execution

variable (step : α → σ → Option σ) (admissible : σ → α → Prop)
  [∀ state action, Decidable (admissible state action)]

/-- Execute a list of actions, refusing a step that is disabled or that the
discipline does not admit. -/
def execute : List α → σ → Option σ
  | [], state => some state
  | action :: rest, state =>
      if admissible state action then (step action state).bind (execute rest)
      else none

/-- A successful execution is a run. -/
theorem reaches_of_execute {actions : List α} :
    ∀ {start target : σ},
      execute step admissible actions start = some target →
      Reaches step admissible start target := by
  induction actions with
  | nil =>
      intro start target executed
      cases executed
      exact .refl
  | cons action rest inductionHypothesis =>
      intro start target executed
      simp only [execute] at executed
      split at executed
      · rename_i allowed
        obtain ⟨middle, next, remaining⟩ := Option.bind_eq_some_iff.mp executed
        exact (Reaches.single allowed next).trans (inductionHypothesis remaining)
      · cases executed

/-- The actions of a successful execution are those of a run. -/
theorem trail_of_execute {origin : σ} {actions : List α} :
    ∀ {past : List α} {start target : σ},
      Trail step origin past start →
      execute step unrestricted actions start = some target →
      Trail step origin (actions.reverse ++ past) target := by
  induction actions with
  | nil =>
      intro past start target trail executed
      cases executed
      exact trail
  | cons action rest inductionHypothesis =>
      intro past start target trail executed
      rw [execute, if_pos (show unrestricted start action from trivial)] at executed
      obtain ⟨middle, next, remaining⟩ := Option.bind_eq_some_iff.mp executed
      rw [List.reverse_cons, List.append_assoc]
      exact inductionHypothesis (trail.step next) remaining

/-- The end of an execution that passes a test. -/
theorem reaches_of_execute_test
    (actions : List α) (start : σ) (test : σ → Bool)
    (tested : (execute step admissible actions start).map test = some true) :
    ∃ target, Reaches step admissible start target ∧ test target = true := by
  obtain ⟨target, executed, passed⟩ := Option.map_eq_some_iff.mp tested
  exact ⟨target, reaches_of_execute step admissible executed, passed⟩

end Execution

end Runs
