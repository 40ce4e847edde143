import Mathlib.Data.List.Perm.Basic

/-!
# A line that is served with gaps

Items join a line at its end.  An item may leave from any place, served or
given up; nobody joins in the middle and nobody changes places.  Whatever the
order of the steps, every item that joined is in exactly one place, and those
still in line stand in the order in which they joined.
-/

universe u

structure Line (α : Type u) where
  waiting : List α
  served : List α
  dropped : List α
  joined : List α

namespace Line

variable {α : Type u}

inductive Step : Line α → Line α → Prop
  | stay {line : Line α} : Step line line
  | join {line : Line α} (item : α) :
      Step line { line with
        waiting := line.waiting ++ [item], joined := line.joined ++ [item] }
  | serve {line : Line α} {front back : List α} {item : α}
      (place : line.waiting = front ++ item :: back) :
      Step line { line with waiting := front ++ back, served := item :: line.served }
  | drop {line : Line α} {front back : List α} {item : α}
      (place : line.waiting = front ++ item :: back) :
      Step line { line with waiting := front ++ back, dropped := item :: line.dropped }

structure Conserved (line : Line α) : Prop where
  once : (line.waiting ++ line.served ++ line.dropped).Perm line.joined
  ordered : line.waiting.Sublist line.joined

theorem conserved_empty : Conserved (⟨[], [], [], []⟩ : Line α) where
  once := List.Perm.refl _
  ordered := List.Sublist.refl _

private theorem sublist_without (front back : List α) (item : α) :
    (front ++ back).Sublist (front ++ item :: back) :=
  (List.sublist_cons_self item back).append_left front

theorem Step.conserved {before after : Line α} (step : Step before after)
    (conserved : before.Conserved) : after.Conserved := by
  obtain ⟨once, ordered⟩ := conserved
  cases step with
  | stay => exact ⟨once, ordered⟩
  | join item =>
      refine ⟨?_, ordered.append (List.Sublist.refl [item])⟩
      have moved :
          (before.waiting ++ [item] ++ before.served ++ before.dropped).Perm
            (before.waiting ++ before.served ++ before.dropped ++ [item]) := by
        simp only [List.append_assoc]
        apply List.Perm.append_left
        rw [← List.append_assoc before.served]
        exact List.perm_append_comm
      exact moved.trans (once.append_right [item])
  | serve place =>
      rename_i front back item
      rw [place] at once ordered
      refine ⟨?_, (sublist_without front back item).trans ordered⟩
      have moved :
          (front ++ back ++ item :: before.served ++ before.dropped).Perm
            (front ++ item :: back ++ before.served ++ before.dropped) := by
        simp only [List.append_assoc, List.cons_append]
        apply List.Perm.append_left
        exact List.perm_middle
      exact moved.trans once
  | drop place =>
      rename_i front back item
      rw [place] at once ordered
      refine ⟨?_, (sublist_without front back item).trans ordered⟩
      have moved :
          (front ++ back ++ before.served ++ item :: before.dropped).Perm
            (front ++ item :: back ++ before.served ++ before.dropped) := by
        simp only [List.append_assoc, List.cons_append]
        apply List.Perm.append_left
        rw [← List.append_assoc, ← List.append_assoc]
        exact List.perm_middle
      exact moved.trans once

/-- When no item joins twice, no item is in two places or twice in one. -/
theorem Conserved.nodup {line : Line α} (conserved : line.Conserved)
    (distinct : line.joined.Nodup) :
    (line.waiting ++ line.served ++ line.dropped).Nodup :=
  conserved.once.nodup_iff.mpr distinct

end Line
