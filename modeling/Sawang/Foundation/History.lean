import Mathlib.Data.List.Basic

/-!
# Order of events in a history

A history lists events newest first and grows at its head.  `Follows history
later earlier` says that `later` happened after `earlier`.
-/

namespace History

universe u

variable {α : Type u}

def Follows (history : List α) (later earlier : α) : Prop :=
  [later, earlier].Sublist history

theorem Follows.mem_right {history : List α} {later earlier : α}
    (follows : Follows history later earlier) : earlier ∈ history :=
  follows.subset (List.mem_cons_of_mem _ List.mem_cons_self)

/-- What follows in a history follows in every longer one. -/
theorem Follows.mono {history longer : List α} {later earlier : α}
    (follows : Follows history later earlier) (grows : history <:+ longer) :
    Follows longer later earlier :=
  List.Sublist.trans follows grows.sublist

theorem Follows.cons {history : List α} {later earlier : α} (event : α)
    (follows : Follows history later earlier) :
    Follows (event :: history) later earlier :=
  follows.mono (List.suffix_cons event history)

/-- A new event follows everything recorded before. -/
theorem follows_head {history : List α} {event earlier : α}
    (recorded : earlier ∈ history) : Follows (event :: history) event earlier :=
  List.Sublist.cons_cons event (List.singleton_sublist.mpr recorded)

theorem follows_cons_iff {history : List α} {event later earlier : α} :
    Follows (event :: history) later earlier ↔
      (event = later ∧ earlier ∈ history) ∨ Follows history later earlier := by
  constructor
  · intro follows
    cases follows with
    | cons _ rest => exact Or.inr rest
    | cons_cons _ rest => exact Or.inl ⟨rfl, List.singleton_sublist.mp rest⟩
  · rintro (⟨rfl, recorded⟩ | follows)
    · exact follows_head recorded
    · exact follows.cons event

/-- What a recorded event follows was recorded before it. -/
theorem Follows.suffix {history : List α} {later earlier : α}
    (follows : Follows history later earlier) :
    ∃ past, later :: past <:+ history ∧ earlier ∈ past := by
  induction history with
  | nil => cases follows
  | cons head tail inductionHypothesis =>
      rcases List.cons_sublist_cons'.mp follows with inner | ⟨rfl, single⟩
      · obtain ⟨past, suffix, member⟩ := inductionHypothesis inner
        exact ⟨past, suffix.trans (List.suffix_cons head tail), member⟩
      · exact ⟨tail, List.suffix_rfl, List.singleton_sublist.mp single⟩

theorem not_follows_nil {later earlier : α} : ¬Follows [] later earlier := by
  intro follows
  cases follows

end History
