import Mathlib.Data.List.Basic
import Mathlib.Data.List.Nodup

/-!
# Things that are built and torn down

A thing is built where it is not there and everything it needs is, is used while it is
there, and is torn down when nothing that is left needs it.  An operation that breaks
these rules is none of `perform`'s.
-/

universe u

namespace Custody

inductive Op (ρ : Type u) where
  | build (thing : ρ)
  | use (thing : ρ)
  | tearDown (thing : ρ)
deriving DecidableEq

variable {ρ : Type u} [DecidableEq ρ] (needs : ρ → List ρ)

def perform (op : Op ρ) (held : List ρ) : Option (List ρ) :=
  match op with
  | .build thing =>
      if thing ∉ held ∧ ∀ needed ∈ needs thing, needed ∈ held then some (thing :: held)
      else none
  | .use thing => if thing ∈ held then some held else none
  | .tearDown thing =>
      if thing ∈ held ∧ ∀ other ∈ held, thing ∉ needs other then some (held.erase thing)
      else none

def run : List (Op ρ) → List ρ → Option (List ρ)
  | [], held => some held
  | op :: rest, held => (perform needs op held).bind (run rest)

/-- Nothing is held twice, and what is held has what it needs. -/
structure Closed (held : List ρ) : Prop where
  distinct : held.Nodup
  needed : ∀ thing ∈ held, ∀ other ∈ needs thing, other ∈ held

variable {needs}

theorem Closed.perform {op : Op ρ} {held after : List ρ} (closed : Closed needs held)
    (performed : perform needs op held = some after) : Closed needs after := by
  cases op with
  | build thing =>
      simp only [Custody.perform] at performed
      split at performed <;> cases performed
      rename_i allowed
      refine ⟨List.nodup_cons.mpr ⟨allowed.1, closed.distinct⟩, ?_⟩
      intro other member needed named
      rcases List.mem_cons.mp member with rfl | old
      · exact List.mem_cons_of_mem _ (allowed.2 needed named)
      · exact List.mem_cons_of_mem _ (closed.needed other old needed named)
  | use thing =>
      simp only [Custody.perform] at performed
      split at performed <;> cases performed
      exact closed
  | tearDown thing =>
      simp only [Custody.perform] at performed
      split at performed <;> cases performed
      rename_i allowed
      refine ⟨closed.distinct.erase thing, ?_⟩
      intro other member needed named
      have old := List.mem_of_mem_erase member
      have kept : needed ≠ thing := by
        rintro rfl
        exact allowed.2 other old named
      exact (List.mem_erase_of_ne kept).mpr (closed.needed other old needed named)

theorem Closed.run {ops : List (Op ρ)} :
    ∀ {held after : List ρ}, Closed needs held → run needs ops held = some after →
      Closed needs after := by
  induction ops with
  | nil =>
      intro held after closed ran
      cases ran
      exact closed
  | cons op rest inductionHypothesis =>
      intro held after closed ran
      obtain ⟨middle, performed, remaining⟩ := Option.bind_eq_some_iff.mp ran
      exact inductionHypothesis (closed.perform performed) remaining

theorem run_append (first rest : List (Op ρ)) (held : List ρ) :
    run needs (first ++ rest) held = (run needs first held).bind (run needs rest) := by
  induction first generalizing held with
  | nil => rfl
  | cons op first inductionHypothesis =>
      simp only [List.cons_append, run, Option.bind_assoc]
      exact congrArg _ (funext inductionHypothesis)

end Custody
