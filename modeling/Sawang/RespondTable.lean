import Sawang.Environment
import Sawang.Protocol
import Mathlib.Data.List.AList

/-!
# Respond tables

A table maps a task key to the uuids of the requests that wait for a reply, in
the order of their registration.  The functions are those of the source on raw
hash tables; `RespondTable` is the subtype of the tables that can arise, in
which no key has an empty list and no list repeats a uuid.

Everything above this module reads a table through `uuids`.
-/

namespace Sawang

/-- A hash table from task keys to pointer arrays. -/
abbrev GHashTable := AList (fun _ : String => List String)

/-- Register a uuid under a key; `true` on a new entry. -/
def respondTableSetDo (table : GHashTable) (taskKey requestUuid : String) :
    Bool × GHashTable :=
  match table.lookup taskKey with
  | none => (true, table.insert taskKey [requestUuid])
  | some arr =>
      if requestUuid ∈ arr then (false, table)
      else (true, table.insert taskKey (arr ++ [requestUuid]))

/-- What a drop reports: whether the uuid was there, and how many remain. -/
structure DropResult where
  existed : Bool
  remaining : Nat
deriving DecidableEq, Repr

/-- Remove a uuid from the list of a key, and the key with its last uuid.  The
search in the NULL array of an absent key finds nothing. -/
def respondTableDropDo (table : GHashTable) (taskKey requestUuid : String) :
    DropResult × GHashTable :=
  match table.lookup taskKey with
  | none => (⟨false, 0⟩, table)
  | some arr =>
      if requestUuid ∈ arr then
        let count := (arr.erase requestUuid).length
        (⟨true, count⟩,
          if count < 1 then table.erase taskKey
          else table.insert taskKey (arr.erase requestUuid))
      else (⟨false, 0⟩, table)

/-- The list of a key, empty for an absent key. -/
def GHashTable.uuids (table : GHashTable) (taskKey : String) : List String :=
  (table.lookup taskKey).getD []

theorem respondTableSetDo_fst
    (table : GHashTable) (taskKey requestUuid : String) :
    (respondTableSetDo table taskKey requestUuid).1 =
      decide (requestUuid ∉ table.uuids taskKey) := by
  unfold respondTableSetDo GHashTable.uuids
  cases table.lookup taskKey with
  | none => simp
  | some arr => by_cases member : requestUuid ∈ arr <;> simp [member]

theorem uuids_respondTableSetDo
    (table : GHashTable) (taskKey requestUuid other : String) :
    (respondTableSetDo table taskKey requestUuid).2.uuids other =
      if other = taskKey ∧ requestUuid ∉ table.uuids taskKey then
        table.uuids taskKey ++ [requestUuid]
      else table.uuids other := by
  unfold respondTableSetDo GHashTable.uuids
  by_cases same : other = taskKey
  · subst same
    cases found : table.lookup other with
    | none => simp
    | some arr => by_cases member : requestUuid ∈ arr <;> simp [member, found]
  · cases found : table.lookup taskKey with
    | none => simp [same, AList.lookup_insert_ne same]
    | some arr =>
        by_cases member : requestUuid ∈ arr <;>
          simp [same, member, AList.lookup_insert_ne same]

theorem respondTableDropDo_fst
    (table : GHashTable) (taskKey requestUuid : String) :
    (respondTableDropDo table taskKey requestUuid).1 =
      if requestUuid ∈ table.uuids taskKey then
        ⟨true, ((table.uuids taskKey).erase requestUuid).length⟩
      else ⟨false, 0⟩ := by
  unfold respondTableDropDo GHashTable.uuids
  cases table.lookup taskKey with
  | none => simp
  | some arr => by_cases member : requestUuid ∈ arr <;> simp [member]

theorem uuids_respondTableDropDo
    (table : GHashTable) (taskKey requestUuid other : String) :
    (respondTableDropDo table taskKey requestUuid).2.uuids other =
      if other = taskKey then (table.uuids taskKey).erase requestUuid
      else table.uuids other := by
  unfold respondTableDropDo GHashTable.uuids
  cases found : table.lookup taskKey with
  | none =>
      by_cases same : other = taskKey
      · subst same
        simp [found]
      · simp [same]
  | some arr =>
      by_cases member : requestUuid ∈ arr
      · simp only [if_pos member]
        split
        · rename_i last
          have nothing : arr.erase requestUuid = [] := by
            rw [← List.length_eq_zero_iff]
            omega
          by_cases same : other = taskKey
          · subst same
            simp [nothing]
          · simp [same, AList.lookup_erase_ne same]
        · by_cases same : other = taskKey
          · subst same
            simp
          · simp [same, AList.lookup_insert_ne same]
      · by_cases same : other = taskKey
        · subst same
          simp [member, found, List.erase_of_not_mem member]
        · simp [same, member]

/-- No key with an empty list, no list with a repeated uuid. -/
def GHashTable.WellFormed (table : GHashTable) : Prop :=
  ∀ taskKey arr, table.lookup taskKey = some arr → arr ≠ [] ∧ arr.Nodup

theorem respondTableSetDo_wellFormed
    {table : GHashTable} (wellFormed : table.WellFormed)
    (taskKey requestUuid : String) :
    (respondTableSetDo table taskKey requestUuid).2.WellFormed := by
  intro other arr found
  unfold respondTableSetDo at found
  split at found
  · by_cases same : other = taskKey
    · subst same
      simp only [AList.lookup_insert, Option.some.injEq] at found
      simp [← found]
    · rw [AList.lookup_insert_ne same] at found
      exact wellFormed other arr found
  · rename_i entry lookedUp
    split at found
    · exact wellFormed other arr found
    · rename_i absent
      by_cases same : other = taskKey
      · subst same
        simp only [AList.lookup_insert, Option.some.injEq] at found
        have nodup := (wellFormed other entry lookedUp).2
        rw [← found]
        refine ⟨by simp, ?_⟩
        rw [List.nodup_append]
        refine ⟨nodup, List.nodup_singleton _, ?_⟩
        intro uuid member other single equal
        rw [List.mem_singleton] at single
        rw [equal, single] at member
        exact absent member
      · rw [AList.lookup_insert_ne same] at found
        exact wellFormed other arr found

theorem respondTableDropDo_wellFormed
    {table : GHashTable} (wellFormed : table.WellFormed)
    (taskKey requestUuid : String) :
    (respondTableDropDo table taskKey requestUuid).2.WellFormed := by
  intro other arr found
  unfold respondTableDropDo at found
  split at found
  · exact wellFormed other arr found
  · rename_i entry lookedUp
    split at found
    · dsimp only at found
      split at found
      · by_cases same : other = taskKey
        · subst same
          simp at found
        · rw [AList.lookup_erase_ne same] at found
          exact wellFormed other arr found
      · rename_i several
        by_cases same : other = taskKey
        · subst same
          simp only [AList.lookup_insert, Option.some.injEq] at found
          rw [← found]
          refine ⟨?_, (wellFormed other entry lookedUp).2.erase requestUuid⟩
          intro empty
          simp [empty] at several
        · rw [AList.lookup_insert_ne same] at found
          exact wellFormed other arr found
    · exact wellFormed other arr found

theorem erase_wellFormed {table : GHashTable} (wellFormed : table.WellFormed)
    (taskKey : String) : GHashTable.WellFormed (table.erase taskKey) := by
  intro other arr found
  by_cases same : other = taskKey
  · subst same
    simp at found
  · rw [AList.lookup_erase_ne same] at found
    exact wellFormed other arr found

/-- A table that the operations can build from the empty one. -/
def RespondTable := { table : GHashTable // table.WellFormed }

namespace RespondTable

def empty : RespondTable :=
  ⟨∅, by
    intro taskKey arr found
    simp at found⟩

/-- The uuids registered under a key, in the order of their registration. -/
def uuids (table : RespondTable) (taskKey : String) : List String :=
  table.1.uuids taskKey

def set (table : RespondTable) (taskKey requestUuid : String) :
    Bool × RespondTable :=
  ((respondTableSetDo table.1 taskKey requestUuid).1,
    ⟨(respondTableSetDo table.1 taskKey requestUuid).2,
      respondTableSetDo_wellFormed table.2 taskKey requestUuid⟩)

def drop (table : RespondTable) (taskKey requestUuid : String) :
    DropResult × RespondTable :=
  ((respondTableDropDo table.1 taskKey requestUuid).1,
    ⟨(respondTableDropDo table.1 taskKey requestUuid).2,
      respondTableDropDo_wellFormed table.2 taskKey requestUuid⟩)

def remove (table : RespondTable) (taskKey : String) : RespondTable :=
  ⟨table.1.erase taskKey, erase_wellFormed table.2 taskKey⟩

def taskExists (table : RespondTable) (taskKey : String) : Bool :=
  (table.1.lookup taskKey).isSome

def requestExists (table : RespondTable) (taskKey requestUuid : String) : Bool :=
  match table.1.lookup taskKey with
  | none => false
  | some arr => decide (requestUuid ∈ arr)

/-- A copy of the list of a key; `none` is the NULL pointer. -/
def requestDup (table : RespondTable) (taskKey : String) : Option (List String) :=
  table.1.lookup taskKey

/-- The first key, in hash order, whose list has the uuid. -/
def dupTaskKey (env : Environment) (table : RespondTable) (requestUuid : String) :
    Option String :=
  ((env.hashOrder table.1.entries).find? fun entry => requestUuid ∈ entry.2).map
    Sigma.fst

/-! ## The operations in terms of `uuids` -/

@[simp]
theorem uuids_empty (taskKey : String) : empty.uuids taskKey = [] := rfl

theorem uuids_nodup (table : RespondTable) (taskKey : String) :
    (table.uuids taskKey).Nodup := by
  unfold uuids GHashTable.uuids
  cases found : table.1.lookup taskKey with
  | none => exact List.nodup_nil
  | some arr => exact (table.2 taskKey arr found).2

/-- Erasing a uuid leaves the others in their order. -/
theorem erase_uuids (table : RespondTable) (taskKey requestUuid : String) :
    (table.uuids taskKey).erase requestUuid =
      (table.uuids taskKey).filter (· ≠ requestUuid) := by
  rw [(table.uuids_nodup taskKey).erase_eq_filter]
  refine List.filter_congr ?_
  intro uuid _
  by_cases same : uuid = requestUuid <;> simp [same]

/-- A key is absent exactly when its list is empty. -/
theorem requestDup_eq (table : RespondTable) (taskKey : String) :
    table.requestDup taskKey =
      if table.uuids taskKey = [] then none else some (table.uuids taskKey) := by
  unfold requestDup uuids GHashTable.uuids
  cases found : table.1.lookup taskKey with
  | none => rfl
  | some arr =>
      have nonempty := (table.2 taskKey arr found).1
      simp [nonempty]

theorem set_fst (table : RespondTable) (taskKey requestUuid : String) :
    (table.set taskKey requestUuid).1 =
      decide (requestUuid ∉ table.uuids taskKey) :=
  respondTableSetDo_fst table.1 taskKey requestUuid

theorem uuids_set (table : RespondTable) (taskKey requestUuid other : String) :
    (table.set taskKey requestUuid).2.uuids other =
      if other = taskKey ∧ requestUuid ∉ table.uuids taskKey then
        table.uuids taskKey ++ [requestUuid]
      else table.uuids other :=
  uuids_respondTableSetDo table.1 taskKey requestUuid other

theorem drop_fst (table : RespondTable) (taskKey requestUuid : String) :
    (table.drop taskKey requestUuid).1 =
      if requestUuid ∈ table.uuids taskKey then
        ⟨true, ((table.uuids taskKey).erase requestUuid).length⟩
      else ⟨false, 0⟩ :=
  respondTableDropDo_fst table.1 taskKey requestUuid

theorem uuids_drop (table : RespondTable) (taskKey requestUuid other : String) :
    (table.drop taskKey requestUuid).2.uuids other =
      if other = taskKey then (table.uuids taskKey).erase requestUuid
      else table.uuids other :=
  uuids_respondTableDropDo table.1 taskKey requestUuid other

theorem uuids_remove (table : RespondTable) (taskKey other : String) :
    (table.remove taskKey).uuids other =
      if other = taskKey then [] else table.uuids other := by
  unfold remove uuids GHashTable.uuids
  by_cases same : other = taskKey
  · subst same
    simp
  · simp [same, AList.lookup_erase_ne same]

theorem taskExists_eq (table : RespondTable) (taskKey : String) :
    table.taskExists taskKey = decide (table.uuids taskKey ≠ []) := by
  unfold taskExists uuids GHashTable.uuids
  cases found : table.1.lookup taskKey with
  | none => rfl
  | some arr =>
      have nonempty := (table.2 taskKey arr found).1
      simp [nonempty]

theorem requestExists_eq (table : RespondTable) (taskKey requestUuid : String) :
    table.requestExists taskKey requestUuid =
      decide (requestUuid ∈ table.uuids taskKey) := by
  unfold requestExists uuids GHashTable.uuids
  cases found : table.1.lookup taskKey <;> simp

/-- Registration keeps what is there and adds at most the uuid itself. -/
theorem mem_uuids_set
    {table : RespondTable} {taskKey requestUuid other uuid : String} :
    uuid ∈ (table.set taskKey requestUuid).2.uuids other ↔
      uuid ∈ table.uuids other ∨ (uuid = requestUuid ∧ other = taskKey) := by
  rw [uuids_set]
  by_cases same : other = taskKey
  · subst same
    by_cases member : requestUuid ∈ table.uuids other
    · simp only [member, not_true_eq_false, and_false, if_false, and_true]
      constructor
      · exact Or.inl
      · rintro (old | rfl)
        · exact old
        · exact member
    · simp [member]
  · simp [same]

/-- A drop removes the uuid from its key and nothing else. -/
theorem mem_uuids_drop
    {table : RespondTable} {taskKey requestUuid other uuid : String} :
    uuid ∈ (table.drop taskKey requestUuid).2.uuids other ↔
      uuid ∈ table.uuids other ∧ ¬(uuid = requestUuid ∧ other = taskKey) := by
  rw [uuids_drop]
  by_cases same : other = taskKey
  · subst same
    rw [if_pos rfl, (table.uuids_nodup other).mem_erase_iff]
    constructor
    · rintro ⟨different, member⟩
      exact ⟨member, fun equal => different equal.1⟩
    · rintro ⟨member, different⟩
      exact ⟨fun equal => different ⟨equal, rfl⟩, member⟩
  · simp [same]

theorem not_mem_uuids_drop (table : RespondTable) (taskKey requestUuid : String) :
    requestUuid ∉ (table.drop taskKey requestUuid).2.uuids taskKey :=
  fun member => (mem_uuids_drop.mp member).2 ⟨rfl, rfl⟩

theorem mem_uuids_iff_entry
    {table : RespondTable} {taskKey requestUuid : String} :
    requestUuid ∈ table.uuids taskKey ↔
      ∃ arr, (⟨taskKey, arr⟩ : Σ _ : String, List String) ∈ table.1.entries ∧
        requestUuid ∈ arr := by
  unfold uuids GHashTable.uuids
  constructor
  · intro member
    cases found : table.1.lookup taskKey with
    | none => simp [found] at member
    | some arr =>
        rw [found] at member
        exact ⟨arr, AList.mem_lookup_iff.mp found, member⟩
  · rintro ⟨arr, entry, member⟩
    have found : table.1.lookup taskKey = some arr := AList.mem_lookup_iff.mpr entry
    simpa [found] using member

/-- A key that the search returns has the uuid. -/
theorem mem_of_dupTaskKey_eq_some
    {env : Environment} {table : RespondTable} {requestUuid taskKey : String}
    (resolved : table.dupTaskKey env requestUuid = some taskKey) :
    requestUuid ∈ table.uuids taskKey := by
  obtain ⟨entry, found, named⟩ := Option.map_eq_some_iff.mp resolved
  have member : entry ∈ table.1.entries :=
    (env.hashOrder_perm _).mem_iff.mp (List.mem_of_find?_eq_some found)
  have has : requestUuid ∈ entry.2 := by
    simpa using List.find?_some found
  subst named
  exact mem_uuids_iff_entry.mpr ⟨entry.2, member, has⟩

/-- The search fails only when no key has the uuid. -/
theorem not_mem_of_dupTaskKey_eq_none
    {env : Environment} {table : RespondTable} {requestUuid : String}
    (unresolved : table.dupTaskKey env requestUuid = none) (taskKey : String) :
    requestUuid ∉ table.uuids taskKey := by
  intro member
  obtain ⟨arr, entry, has⟩ := mem_uuids_iff_entry.mp member
  have missing := List.find?_eq_none.mp (Option.map_eq_none_iff.mp unresolved)
    _ ((env.hashOrder_perm _).mem_iff.mpr entry)
  simp [has] at missing

/-- The uuids of all entries, one list after the other. -/
def allUuids (table : RespondTable) : List String :=
  table.1.entries.flatMap Sigma.snd

theorem mem_allUuids_iff {table : RespondTable} {uuid : String} :
    uuid ∈ table.allUuids ↔ ∃ taskKey, uuid ∈ table.uuids taskKey := by
  unfold allUuids
  rw [List.mem_flatMap]
  constructor
  · rintro ⟨entry, member, has⟩
    exact ⟨entry.1, mem_uuids_iff_entry.mpr ⟨entry.2, member, has⟩⟩
  · rintro ⟨taskKey, listed⟩
    obtain ⟨arr, member, has⟩ := mem_uuids_iff_entry.mp listed
    exact ⟨_, member, has⟩

/-- Nothing is listed twice where no uuid has two keys. -/
theorem nodup_allUuids {table : RespondTable}
    (apart : ∀ uuid left right, uuid ∈ table.uuids left → uuid ∈ table.uuids right →
      left = right) : table.allUuids.Nodup := by
  unfold allUuids
  rw [List.nodup_flatMap]
  constructor
  · intro entry member
    exact (table.2 entry.1 entry.2 (AList.mem_lookup_iff.mpr member)).2
  · have keys : table.1.entries.Pairwise fun left right => left.1 ≠ right.1 :=
      List.pairwise_map.mp table.1.nodupKeys
    apply keys.imp_of_mem
    intro left right leftMember rightMember different uuid leftHas rightHas
    exact different (apart uuid left.1 right.1
      (mem_uuids_iff_entry.mpr ⟨left.2, leftMember, leftHas⟩)
      (mem_uuids_iff_entry.mpr ⟨right.2, rightMember, rightHas⟩))

end RespondTable

end Sawang
