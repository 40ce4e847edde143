import Mathlib.Logic.Function.Basic

/-!
# A store of named objects and who is to remove them

Objects are made and removed by name.  Each maker of a group keeps at most one
object at a time and knows what is in it; the store is also used by others, whose
objects have no maker in the group.
-/

universe u v w

/-- The objects by name, with the member of the group that made them. -/
def NamedStore (κ : Type u) (ω : Type v) (υ : Type w) : Type (max u v w) :=
  κ → Option (Option ω × υ)

namespace NamedStore

variable {κ : Type u} {ω : Type v} {υ : Type w}

def empty : NamedStore κ ω υ := fun _ => none

/-- What the members keep is what the store holds of theirs. -/
def Accounted (store : NamedStore κ ω υ) (keeps : ω → Option (κ × υ)) : Prop :=
  ∀ maker name content,
    store name = some (some maker, content) ↔ keeps maker = some (name, content)

namespace Accounted

variable {store : NamedStore κ ω υ} {keeps : ω → Option (κ × υ)}

theorem empty : Accounted (NamedStore.empty : NamedStore κ ω υ) fun _ => none := by
  intro maker name content
  exact ⟨nofun, nofun⟩

/-- Two members never keep objects of one name. -/
theorem apart (accounted : store.Accounted keeps) {first second : ω} {name : κ} {left right : υ}
    (one : keeps first = some (name, left)) (other : keeps second = some (name, right)) :
    first = second := by
  have found := (accounted first name left).mpr one
  rw [(accounted second name right).mpr other] at found
  exact (Option.some.inj (congrArg Prod.fst (Option.some.inj found))).symm

end Accounted

variable [DecidableEq κ]

def create (maker : Option ω) (name : κ) (content : υ) (store : NamedStore κ ω υ) :
    NamedStore κ ω υ :=
  Function.update store name (some (maker, content))

def unlink (name : κ) (store : NamedStore κ ω υ) : NamedStore κ ω υ :=
  Function.update store name none

@[simp]
theorem create_self (maker : Option ω) (name : κ) (content : υ) (store : NamedStore κ ω υ) :
    store.create maker name content name = some (maker, content) :=
  Function.update_self name _ store

@[simp]
theorem unlink_self (name : κ) (store : NamedStore κ ω υ) : store.unlink name name = none :=
  Function.update_self name _ store

theorem create_of_ne {maker : Option ω} {name other : κ} {content : υ}
    {store : NamedStore κ ω υ} (different : other ≠ name) :
    store.create maker name content other = store other :=
  Function.update_of_ne different _ store

theorem unlink_of_ne {name other : κ} {store : NamedStore κ ω υ} (different : other ≠ name) :
    store.unlink name other = store other :=
  Function.update_of_ne different _ store

/-- Removing a name that is free changes nothing. -/
theorem unlink_free {name : κ} {store : NamedStore κ ω υ} (free : store name = none) :
    store.unlink name = store := by
  funext other
  by_cases same : other = name
  · rw [same, unlink_self, free]
  · exact unlink_of_ne same

namespace Accounted

variable {store : NamedStore κ ω υ} {keeps later : ω → Option (κ × υ)}

/-- A member that keeps nothing may make an object under a free name. -/
theorem create (accounted : store.Accounted keeps) {maker : ω} {name : κ} {content : υ}
    (free : store name = none) (idle : keeps maker = none)
    (made : later maker = some (name, content))
    (others : ∀ other, other ≠ maker → later other = keeps other) :
    (store.create (some maker) name content).Accounted later := by
  intro owner sought text
  by_cases same : sought = name
  · subst same
    rw [create_self]
    constructor
    · intro found
      cases found
      exact made
    · intro kept
      by_cases owns : owner = maker
      · subst owns
        rw [made] at kept
        cases kept
        rfl
      · -- the name was free, so nobody else keeps it
        rw [others owner owns, ← accounted, free] at kept
        cases kept
  · rw [create_of_ne same]
    by_cases owns : owner = maker
    · subst owns
      rw [accounted, idle, made]
      constructor
      · intro impossible
        cases impossible
      · intro kept
        cases kept
        exact absurd rfl same
    · rw [others owner owns]
      exact accounted owner sought text

/-- A member removes what it keeps. -/
theorem unlink (accounted : store.Accounted keeps) {maker : ω} {name : κ} {content : υ}
    (kept : keeps maker = some (name, content)) (dropped : later maker = none)
    (others : ∀ other, other ≠ maker → later other = keeps other) :
    (store.unlink name).Accounted later := by
  intro owner sought text
  by_cases same : sought = name
  · subst same
    rw [unlink_self]
    constructor
    · intro impossible
      cases impossible
    · intro keeping
      by_cases owns : owner = maker
      · subst owns
        rw [dropped] at keeping
        cases keeping
      · rw [others owner owns] at keeping
        exact absurd (accounted.apart keeping kept) owns
  · rw [unlink_of_ne same]
    by_cases owns : owner = maker
    · subst owns
      rw [accounted, kept, dropped]
      constructor
      · intro keeping
        cases keeping
        exact absurd rfl same
      · intro impossible
        cases impossible
    · rw [others owner owns]
      exact accounted owner sought text

/-- Others may use names that are free. -/
theorem createOutside (accounted : store.Accounted keeps) {name : κ} {content : υ}
    (free : store name = none) : (store.create none name content).Accounted keeps := by
  intro owner sought text
  by_cases same : sought = name
  · subst same
    rw [create_self, ← accounted owner sought text, free]
    exact ⟨nofun, nofun⟩
  · rw [create_of_ne same]
    exact accounted owner sought text

/-- Others may remove what is not kept by a member. -/
theorem unlinkOutside (accounted : store.Accounted keeps) {name : κ}
    (foreign : ∀ maker content, store name ≠ some (some maker, content)) :
    (store.unlink name).Accounted keeps := by
  intro owner sought text
  by_cases same : sought = name
  · subst same
    rw [unlink_self, ← accounted owner sought text]
    exact ⟨nofun, fun found => absurd found (foreign owner text)⟩
  · rw [unlink_of_ne same]
    exact accounted owner sought text

end Accounted

end NamedStore
