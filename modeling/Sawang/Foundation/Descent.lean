import Mathlib.Data.DFinsupp.WellFounded
import Sawang.Foundation.Runs

/-!
# Runs that come to an end

Work is measured in layers, the most important first: a step may add any amount of
work to the layers below the one it takes work from.  A system whose own steps go down
in this order takes only finitely many of them in a row, whoever chooses them.
-/

namespace Runs

universe u v w

variable {σ : Type u} {α : Type v} {ι : Type w} [LinearOrder ι]

/-- Some layer goes down and none before it goes up. -/
def Descends (layers : σ → ι → Nat) (after before : σ) : Prop :=
  ∃ layer, layers after layer < layers before layer ∧
    ∀ above, above < layer → layers after above ≤ layers before above

theorem descends_wellFounded [Finite ι] (layers : σ → ι → Nat) :
    WellFounded (Descends layers) := by
  have order : WellFounded fun first second : ι → Nat => toLex first < toLex second :=
    InvImage.wf toLex wellFounded_lt
  apply Subrelation.wf _ (InvImage.wf layers order)
  rintro after before ⟨layer, less, others⟩
  -- the first layer that changes goes down as well
  obtain ⟨first, goes, least⟩ := wellFounded_lt.has_min
    {layer | layers after layer < layers before layer} ⟨layer, less⟩
  refine ⟨first, fun above earlier => ?_, goes⟩
  have within : above < layer := lt_of_lt_of_le earlier (le_of_not_gt (least layer less))
  exact le_antisymm (others above within) (le_of_not_gt fun down => least above down earlier)

/-- Every own step goes down. -/
def GoesDown (step : α → σ → Option σ) (own : σ → α → Prop) (layers : σ → ι → Nat) : Prop :=
  ∀ before action after, own before action → step action before = some after →
    Descends layers after before

variable [Finite ι] {step : α → σ → Option σ} {own : σ → α → Prop} {layers : σ → ι → Nat}

/-- No run of own steps goes on for ever. -/
theorem not_endless (goesDown : GoesDown step own layers) (run : Nat → σ) :
    ¬∀ n, ∃ action, own (run n) action ∧ step action (run n) = some (run (n + 1)) := by
  intro endless
  obtain ⟨_, ⟨n, rfl⟩, least⟩ :=
    (descends_wellFounded layers).has_min (Set.range run) ⟨run 0, 0, rfl⟩
  obtain ⟨action, admitted, next⟩ := endless n
  exact least _ ⟨n + 1, rfl⟩ (goesDown _ _ _ admitted next)

/-- Replacing an item of a list changes the sum by what the item is worth. -/
theorem sum_map_set_add {β : Type u} (worth : β → Nat) {items : List β} {index : Nat}
    {old : β} (there : items[index]? = some old) (new : β) :
    ((items.set index new).map worth).sum + worth old =
      (items.map worth).sum + worth new := by
  induction items generalizing index with
  | nil => cases there
  | cons head tail inductionHypothesis =>
      cases index with
      | zero =>
          cases there
          simp only [List.set_cons_zero, List.map_cons, List.sum_cons]
          omega
      | succ index =>
          have smaller := inductionHypothesis there
          simp only [List.set_cons_succ, List.map_cons, List.sum_cons]
          omega

end Runs
