import Sawang.Foundation.NearestPow

/-!
# The pointer arrays of the GLib shim

Where GLib has no `g_ptr_array_copy` the proxy brings its own, with GLib's way to make
room in an array.  An array is a block of cells, of which the first `len` are its
elements.  Every access names a cell of the block, and an access outside the block is a
fault like the two checks of GLib that abort.
-/

namespace Sawang

def gMaxsize : UInt64 := 0xFFFFFFFFFFFFFFFF
def gMaxuint : UInt32 := 0xFFFFFFFF
def sizeofGpointer : UInt64 := 8
def minArraySize : UInt64 := 16

/-- Why a call does not return. -/
inductive ArrayFault where
  /-- `g_error` in `g_ptr_array_maybe_expand`. -/
  | overflow
  /-- `g_assert`. -/
  | assertion
  /-- An access outside the block. -/
  | outside
deriving DecidableEq, Repr

/-- `g_nearest_pow` for a `gsize` of 64 bits. -/
def gNearestPow (num : UInt64) : Except ArrayFault UInt64 :=
  let n := num - 1
  if 0 < num ∧ num ≤ gMaxsize / 2 then
    let n := n ||| n >>> 1
    let n := n ||| n >>> 2
    let n := n ||| n >>> 4
    let n := n ||| n >>> 8
    let n := n ||| n >>> 16
    let n := n ||| n >>> 32
    .ok (n + 1)
  else .error .assertion

/-- An array of pointers, `none` being NULL and what was never written. -/
structure GRealPtrArray (α δ : Type) where
  /-- The cells of the block; there are none where `pdata` is NULL. -/
  pdata : List (Option α)
  len : UInt32
  alloc : UInt32
  nullTerminated : Bool
  elementFreeFunc : Option δ

namespace GRealPtrArray

variable {α δ : Type}

def read (array : GRealPtrArray α δ) (index : Nat) : Except ArrayFault (Option α) :=
  match array.pdata[index]? with
  | some cell => .ok cell
  | none => .error .outside

def write (array : GRealPtrArray α δ) (index : Nat) (cell : Option α) :
    Except ArrayFault (GRealPtrArray α δ) :=
  if index < array.pdata.length then .ok { array with pdata := array.pdata.set index cell }
  else .error .outside

/-- A loop that writes cell after cell. -/
def fill (cell : Nat → Except ArrayFault (Option α)) :
    Nat → Nat → GRealPtrArray α δ → Except ArrayFault (GRealPtrArray α δ)
  | 0, _, array => .ok array
  | left + 1, index, array =>
      match cell index with
      | .error fault => .error fault
      | .ok value =>
          match array.write index value with
          | .error fault => .error fault
          | .ok written => fill cell left (index + 1) written

/-- `g_realloc` to a number of cells. -/
def realloc (array : GRealPtrArray α δ) (cells : Nat) : GRealPtrArray α δ :=
  { array with
    pdata := array.pdata.take cells ++ List.replicate (cells - array.pdata.length) none }

/-- `g_ptr_array_maybe_expand`; the flag is `g_mem_gc_friendly`. -/
def maybeExpand (gcFriendly : Bool) (array : GRealPtrArray α δ) (len : UInt32) :
    Except ArrayFault (GRealPtrArray α δ) :=
  let maxLen := (min (gMaxsize / 2 / sizeofGpointer) gMaxuint.toUInt64).toUInt32
  if maxLen - array.len < len then .error .overflow
  else if array.alloc < array.len + len then
    let oldAlloc := array.alloc
    match gNearestPow (sizeofGpointer * (array.len + len).toUInt64) with
    | .error fault => .error fault
    | .ok pow =>
        let wantAlloc := max pow minArraySize
        let alloc := (min (wantAlloc / sizeofGpointer) gMaxuint.toUInt64).toUInt32
        let expanded :=
          { array with alloc := alloc }.realloc (wantAlloc / sizeofGpointer).toNat
        if gcFriendly then
          expanded.fill (fun _ => .ok none) (alloc.toNat - oldAlloc.toNat) oldAlloc.toNat
        else .ok expanded
  else .ok array

/-- `ptr_array_new`. -/
def new (gcFriendly : Bool) (reservedSize : UInt32) (elementFreeFunc : Option δ)
    (nullTerminated : Bool) : Except ArrayFault (GRealPtrArray α δ) :=
  let array : GRealPtrArray α δ := {
    pdata := []
    len := 0
    alloc := 0
    nullTerminated := nullTerminated
    elementFreeFunc := elementFreeFunc }
  if reservedSize = 0 then .ok array
  else
    let reservedSize :=
      if reservedSize < gMaxuint ∧ nullTerminated then reservedSize + 1 else reservedSize
    match array.maybeExpand gcFriendly reservedSize with
    | .error fault => .error fault
    | .ok array =>
        if array.pdata = [] then .error .assertion
        else if nullTerminated then array.write 0 none
        else .ok array

/-- `ptr_array_maybe_null_terminate`. -/
def maybeNullTerminate (array : GRealPtrArray α δ) :
    Except ArrayFault (GRealPtrArray α δ) :=
  if array.nullTerminated then array.write array.len.toNat none else .ok array

/-- `memcpy` of a number of cells between two blocks. -/
def memcpy (target source : GRealPtrArray α δ) (cells : Nat) :
    Except ArrayFault (GRealPtrArray α δ) :=
  if cells ≤ source.pdata.length ∧ cells ≤ target.pdata.length then
    .ok { target with pdata := source.pdata.take cells ++ target.pdata.drop cells }
  else .error .outside

/-- The elements of `g_ptr_array_copy`; a NULL function copies the pointers. -/
def copyElements (newArray array : GRealPtrArray α δ)
    (func : Option (Option α → Option α)) : Except ArrayFault (GRealPtrArray α δ) :=
  match func with
  | some func => newArray.fill (fun index => (array.read index).map func) array.len.toNat 0
  | none => newArray.memcpy array array.len.toNat

/-- `g_ptr_array_copy`. -/
def copy (gcFriendly : Bool) (array : GRealPtrArray α δ)
    (func : Option (Option α → Option α)) : Except ArrayFault (GRealPtrArray α δ) := do
  let newArray ← new gcFriendly 0 array.elementFreeFunc array.nullTerminated
  if 0 < array.alloc then
    let newArray ← newArray.maybeExpand gcFriendly
      (array.len + if array.nullTerminated then 1 else 0)
    if 0 < array.len then
      let newArray ← newArray.copyElements array func
      { newArray with len := array.len }.maybeNullTerminate
    else newArray.maybeNullTerminate
  else .ok newArray

end GRealPtrArray

/-! ## The next power of two -/

/-- One line of `g_nearest_pow`. -/
private theorem spread_or {number : Nat} {n width : UInt64} (small : width.toNat < 64)
    (spreads : Spread width.toNat number n.toNat) :
    Spread (2 * width.toNat) number (n ||| n >>> width).toNat := by
  rw [UInt64.toNat_or, UInt64.toNat_shiftRight, Nat.mod_eq_of_lt small]
  exact spreads.double

/-- The result is the least power of two that is not less than the argument. -/
theorem gNearestPow_ok {num : UInt64} (positive : 0 < num) (fits : num ≤ gMaxsize / 2) :
    ∃ pow, gNearestPow num = .ok pow ∧ pow.toNat = 2 ^ nearestExponent num.toNat := by
  have above : 0 < num.toNat := UInt64.lt_iff_toNat_lt.mp positive
  have below : num.toNat ≤ 2 ^ 63 - 1 := UInt64.le_iff_toNat_le.mp fits
  have predecessor : (num - 1).toNat = num.toNat - 1 :=
    UInt64.toNat_sub_of_le _ _ (UInt64.le_iff_toNat_le.mpr above)
  have one : Spread (1 : UInt64).toNat (num - 1).toNat _ := Spread.start _
  have two : Spread (2 : UInt64).toNat (num - 1).toNat _ := spread_or (by decide) one
  have four : Spread (4 : UInt64).toNat (num - 1).toNat _ := spread_or (by decide) two
  have eight : Spread (8 : UInt64).toNat (num - 1).toNat _ := spread_or (by decide) four
  have sixteen : Spread (16 : UInt64).toNat (num - 1).toNat _ := spread_or (by decide) eight
  have half : Spread (32 : UInt64).toNat (num - 1).toNat _ := spread_or (by decide) sixteen
  have all : Spread 64 (num - 1).toNat _ := spread_or (by decide) half
  have spread := all.eq_two_pow_sub_one (by omega)
  have exponent : (num.toNat - 1).size ≤ 63 := Nat.size_le.mpr (by omega)
  have power : 2 ^ (num.toNat - 1).size ≤ 2 ^ 63 := Nat.pow_le_pow_right Nat.two_pos exponent
  have nonzero : 0 < 2 ^ (num.toNat - 1).size := Nat.two_pow_pos _
  refine ⟨_, if_pos ⟨positive, fits⟩, ?_⟩
  rw [UInt64.toNat_add, spread, predecessor]
  change (2 ^ (num.toNat - 1).size - 1 + 1) % 2 ^ 64 = _
  rw [Nat.sub_add_cancel nonzero, Nat.mod_eq_of_lt (by omega)]
  rfl

/-- Exactly the powers of two from the result on are not less than the argument. -/
theorem gNearestPow_least {num : UInt64} (positive : 0 < num) (fits : num ≤ gMaxsize / 2) :
    ∃ pow exponent, gNearestPow num = .ok pow ∧ pow.toNat = 2 ^ exponent ∧
      ∀ other, exponent ≤ other ↔ num.toNat ≤ 2 ^ other := by
  obtain ⟨pow, found, power⟩ := gNearestPow_ok positive fits
  have above : 0 < num.toNat := UInt64.lt_iff_toNat_lt.mp positive
  exact ⟨pow, _, found, power, fun _ => nearestExponent_le_iff above⟩

theorem gNearestPow_least_largest :
    ∃ pow exponent, gNearestPow (gMaxsize / 2) = .ok pow ∧ pow.toNat = 2 ^ exponent ∧
      ∀ other, exponent ≤ other ↔ (gMaxsize / 2).toNat ≤ 2 ^ other :=
  gNearestPow_least (by decide) (by decide)

/-! ## Loops -/

namespace GRealPtrArray

variable {α δ : Type}

/-- A loop over cells that are there writes what it is given. -/
theorem fill_ok {cell : Nat → Except ArrayFault (Option α)} (values : List (Option α)) :
    ∀ (index : Nat) (array : GRealPtrArray α δ),
      (∀ offset (inside : offset < values.length), cell (index + offset) = .ok values[offset]) →
      index + values.length ≤ array.pdata.length →
      array.fill cell values.length index = .ok { array with
        pdata := array.pdata.take index ++ values ++
          array.pdata.drop (index + values.length) } := by
  induction values with
  | nil =>
      intro index array known room
      simp [fill]
  | cons value rest inductionHypothesis =>
      intro index array known room
      simp only [List.length_cons] at known room
      have here := known 0 (by omega)
      have there : index < array.pdata.length := by omega
      have later := inductionHypothesis (index + 1)
        { array with pdata := array.pdata.set index value } ?_ ?_
      · have taken : (array.pdata.set index value).take (index + 1) =
            array.pdata.take index ++ [value] := by
          rw [List.take_add_one, List.take_set_of_le (Nat.le_refl _),
            List.getElem?_set_self there]
          rfl
        have dropped : (array.pdata.set index value).drop (index + 1 + rest.length) =
            array.pdata.drop (index + (rest.length + 1)) := by
          rw [List.drop_set_of_lt (by omega)]
          congr 1
          omega
        simp only [Nat.add_zero, List.getElem_cons_zero] at here
        simp only [List.length_cons, fill, here, write, if_pos there, later, taken, dropped,
          List.append_assoc, List.cons_append, List.nil_append]
      · intro offset inside
        have next := known (offset + 1) (by omega)
        rw [show index + 1 + offset = index + (offset + 1) by omega]
        exact next
      · simp only [List.length_set]
        omega

/-! ## Making room -/

/-- What every array keeps: the block has the cells it is said to have, and room for the
elements and the NULL behind them. -/
structure WellFormed (array : GRealPtrArray α δ) : Prop where
  block : array.alloc.toNat ≤ array.pdata.length
  elements : array.len.toNat ≤ array.alloc.toNat
  terminated : array.nullTerminated = true → 0 < array.alloc.toNat →
    array.len.toNat < array.alloc.toNat

/-- An array that has got room for more elements. -/
structure Expanded (array : GRealPtrArray α δ) (more : Nat) (expanded : GRealPtrArray α δ) :
    Prop where
  room : array.len.toNat + more ≤ expanded.alloc.toNat
  block : expanded.alloc.toNat ≤ expanded.pdata.length
  kept : expanded.pdata.take array.len.toNat = array.pdata.take array.len.toNat
  len : expanded.len = array.len
  nullTerminated : expanded.nullTerminated = array.nullTerminated
  elementFreeFunc : expanded.elementFreeFunc = array.elementFreeFunc

private theorem toNat_max (left right : UInt64) :
    (max left right).toNat = max left.toNat right.toNat := by
  change (if left ≤ right then right else left).toNat = _
  split
  · rename_i le
    exact (Nat.max_eq_right (UInt64.le_iff_toNat_le.mp le)).symm
  · rename_i gt
    have lt : right.toNat < left.toNat := by
      rw [UInt64.le_iff_toNat_le] at gt
      omega
    omega

private theorem toNat_min (left right : UInt64) :
    (min left right).toNat = min left.toNat right.toNat := by
  change (if left ≤ right then left else right).toNat = _
  split
  · rename_i le
    exact (Nat.min_eq_left (UInt64.le_iff_toNat_le.mp le)).symm
  · rename_i gt
    have lt : right.toNat < left.toNat := by
      rw [UInt64.le_iff_toNat_le] at gt
      omega
    omega

private theorem eq_zero_of_not_pos {count : UInt32} (none : ¬0 < count) : count = 0 := by
  rw [UInt32.lt_iff_toNat_lt] at none
  change ¬0 < _ at none
  exact UInt32.toNat_inj.mp (Nat.eq_zero_of_not_pos none)

theorem length_realloc (array : GRealPtrArray α δ) (cells : Nat) :
    (array.realloc cells).pdata.length = cells := by
  simp only [realloc, List.length_append, List.length_take, List.length_replicate]
  omega

/-- The bytes asked for hold the elements, and what is recorded of them is there. -/
private theorem wantAlloc_ok {count : UInt32} (some_ : 0 < count.toNat) :
    ∃ pow, gNearestPow (sizeofGpointer * count.toUInt64) = .ok pow ∧
      count.toNat ≤ (min (max pow minArraySize / sizeofGpointer)
        gMaxuint.toUInt64).toUInt32.toNat ∧
      (min (max pow minArraySize / sizeofGpointer) gMaxuint.toUInt64).toUInt32.toNat ≤
        (max pow minArraySize / sizeofGpointer).toNat := by
  have bounded : count.toNat < 2 ^ 32 := count.toNat_lt
  have bytes : (sizeofGpointer * count.toUInt64).toNat = 8 * count.toNat := by
    rw [UInt64.toNat_mul, UInt32.toNat_toUInt64]
    change 8 * count.toNat % 2 ^ 64 = _
    exact Nat.mod_eq_of_lt (by omega)
  have positive : 0 < sizeofGpointer * count.toUInt64 := by
    rw [UInt64.lt_iff_toNat_lt, bytes]
    change 0 < _
    omega
  have fits : sizeofGpointer * count.toUInt64 ≤ gMaxsize / 2 := by
    rw [UInt64.le_iff_toNat_le, bytes]
    change _ ≤ 2 ^ 63 - 1
    omega
  obtain ⟨pow, found, power⟩ := gNearestPow_ok positive fits
  rw [bytes] at power
  have holds : 8 * count.toNat ≤ pow.toNat := by
    rw [power]
    exact le_two_pow_nearestExponent (by omega)
  have want : (max pow minArraySize / sizeofGpointer).toNat = max pow.toNat 16 / 8 := by
    rw [UInt64.toNat_div, toNat_max]
    rfl
  have recorded : (min (max pow minArraySize / sizeofGpointer)
      gMaxuint.toUInt64).toUInt32.toNat = min (max pow.toNat 16 / 8) (2 ^ 32 - 1) := by
    rw [UInt64.toNat_toUInt32, toNat_min, want]
    change min (max pow.toNat 16 / 8) (2 ^ 32 - 1) % 2 ^ 32 = _
    exact Nat.mod_eq_of_lt (by omega)
  refine ⟨pow, found, ?_, ?_⟩
  · rw [recorded]
    omega
  · rw [recorded, want]
    omega

/-- As long as the number of elements fits in a `guint` there will be room. -/
theorem maybeExpand_ok {array : GRealPtrArray α δ} (wellFormed : array.WellFormed)
    (gcFriendly : Bool) {len : UInt32} (fits : array.len.toNat + len.toNat < 2 ^ 32) :
    ∃ expanded, array.maybeExpand gcFriendly len = .ok expanded ∧
      array.Expanded len.toNat expanded := by
  have sum : (array.len + len).toNat = array.len.toNat + len.toNat := by
    rw [UInt32.toNat_add, Nat.mod_eq_of_lt fits]
  have most : (min (gMaxsize / 2 / sizeofGpointer) gMaxuint.toUInt64).toUInt32 = gMaxuint := by
    decide
  have checked : ¬gMaxuint - array.len < len := by
    have atMost : array.len ≤ gMaxuint := by
      rw [UInt32.le_iff_toNat_le]
      change _ ≤ 2 ^ 32 - 1
      omega
    rw [UInt32.lt_iff_toNat_lt, UInt32.toNat_sub_of_le _ _ atMost]
    change ¬2 ^ 32 - 1 - array.len.toNat < len.toNat
    omega
  unfold maybeExpand
  simp only [most, if_neg checked]
  split
  · rename_i small
    rw [UInt32.lt_iff_toNat_lt] at small
    obtain ⟨pow, found, holds, recorded⟩ := wantAlloc_ok (Nat.lt_of_le_of_lt (Nat.zero_le _) small)
    rw [sum] at holds
    simp only [found]
    generalize (max pow minArraySize / sizeofGpointer).toNat = cells at recorded
    generalize (min (max pow minArraySize / sizeofGpointer) gMaxuint.toUInt64).toUInt32 = alloc
      at holds recorded
    have length := length_realloc { array with alloc := alloc } cells
    have elements := wellFormed.elements
    have block := wellFormed.block
    have kept : ({ array with alloc := alloc }.realloc cells).pdata.take array.len.toNat =
        array.pdata.take array.len.toNat := by
      change (array.pdata.take cells ++ List.replicate _ none).take array.len.toNat = _
      have inside : array.len.toNat ≤ (array.pdata.take cells).length := by
        rw [List.length_take]
        omega
      rw [List.take_append_of_le_length inside, List.take_take, Nat.min_eq_left (by omega)]
    split
    · -- the new cells are set to NULL
      have cleared := @fill_ok α δ (fun _ => .ok none)
        (List.replicate (alloc.toNat - array.alloc.toNat) none) array.alloc.toNat
        ({ array with alloc := alloc }.realloc cells)
        (fun offset inside => by rw [List.getElem_replicate])
        (by
          rw [List.length_replicate, length]
          omega)
      rw [List.length_replicate] at cleared
      refine ⟨_, cleared, holds, ?_, ?_, rfl, rfl, rfl⟩
      · simp only [List.length_append, List.length_take, List.length_replicate,
          List.length_drop, length]
        change alloc.toNat ≤ _
        omega
      · have inside : array.len.toNat ≤
            (({ array with alloc := alloc }.realloc cells).pdata.take
              array.alloc.toNat).length := by
          rw [List.length_take, length]
          omega
        change (List.take _ _ ++ _ ++ _).take _ = _
        rw [List.append_assoc, List.take_append_of_le_length inside, List.take_take,
          Nat.min_eq_left wellFormed.elements]
        exact kept
    · exact ⟨_, rfl, holds, by rw [length]; exact recorded, kept, rfl, rfl, rfl⟩
  · rename_i large
    rw [UInt32.lt_iff_toNat_lt, sum, Nat.not_lt] at large
    exact ⟨array, rfl, large, wellFormed.block, rfl, rfl, rfl, rfl⟩

/-! ## Copies -/

/-- The elements of an array. -/
def elements (array : GRealPtrArray α δ) : List (Option α) :=
  array.pdata.take array.len.toNat

/-- A copy of an array under a function on its elements. -/
structure CopyOf (array : GRealPtrArray α δ) (func : Option (Option α → Option α))
    (copy : GRealPtrArray α δ) : Prop where
  wellFormed : copy.WellFormed
  len : copy.len = array.len
  elements : copy.elements = array.elements.map (func.getD id)
  nullTerminated : copy.nullTerminated = array.nullTerminated
  elementFreeFunc : copy.elementFreeFunc = array.elementFreeFunc
  /-- Behind the elements of a terminated copy stands NULL. -/
  terminator : copy.nullTerminated = true → 0 < array.alloc →
    copy.pdata[copy.len.toNat]? = some none

theorem length_elements {array : GRealPtrArray α δ} (wellFormed : array.WellFormed) :
    array.elements.length = array.len.toNat := by
  have block := wellFormed.block
  have inside := wellFormed.elements
  rw [elements, List.length_take]
  omega

/-- The elements are copied one by one or all at once. -/
private theorem copyElements_ok {array expanded : GRealPtrArray α δ}
    (wellFormed : array.WellFormed) (func : Option (Option α → Option α))
    (room : array.len.toNat ≤ expanded.pdata.length) :
    expanded.copyElements array func = .ok { expanded with
      pdata := array.elements.map (func.getD id) ++ expanded.pdata.drop array.len.toNat } := by
  have block := wellFormed.block
  have inside := wellFormed.elements
  have length := length_elements wellFormed
  cases func with
  | none =>
      simp only [copyElements, memcpy, elements, Option.getD_none, List.map_id]
      rw [if_pos ⟨by omega, room⟩]
  | some func =>
      have filled := @fill_ok α δ (fun index => (array.read index).map func)
        (array.elements.map func) 0 expanded ?_ ?_
      · rw [List.length_map, length, Nat.zero_add, List.take_zero, List.nil_append] at filled
        exact filled
      · intro offset before
        rw [List.length_map, length] at before
        have there : array.pdata[offset]? = some array.pdata[offset] :=
          List.getElem?_eq_getElem (by omega)
        simp only [Nat.zero_add, read, there, Except.map, elements, List.getElem_map,
          List.getElem_take]
      · rw [List.length_map, length]
        omega

/-- Once the elements are there the copy is complete. -/
private theorem copyOf_prepared {array prepared : GRealPtrArray α δ} {rest : List (Option α)}
    {func : Option (Option α → Option α)} (wellFormed : array.WellFormed)
    (cells : prepared.pdata = array.elements.map (func.getD id) ++ rest)
    (block : prepared.alloc.toNat ≤ prepared.pdata.length)
    (room : array.len.toNat + (if array.nullTerminated then 1 else 0) ≤ prepared.alloc.toNat)
    (len : prepared.len = array.len)
    (nullTerminated : prepared.nullTerminated = array.nullTerminated)
    (elementFreeFunc : prepared.elementFreeFunc = array.elementFreeFunc) :
    ∃ copied, prepared.maybeNullTerminate = .ok copied ∧ array.CopyOf func copied := by
  have length : (array.elements.map (func.getD id)).length = array.len.toNat := by
    rw [List.length_map, length_elements wellFormed]
  have taken : prepared.pdata.take array.len.toNat = array.elements.map (func.getD id) := by
    rw [cells, ← length, List.take_left']
    rfl
  unfold maybeNullTerminate
  split
  · rename_i terminated
    rw [nullTerminated] at terminated
    rw [if_pos terminated] at room
    have inside : prepared.len.toNat < prepared.pdata.length := by
      rw [len]
      omega
    refine ⟨_, if_pos inside, ⟨?_, ?_, ?_⟩, len, ?_, nullTerminated, elementFreeFunc, ?_⟩
    · rw [List.length_set]
      exact block
    · change prepared.len.toNat ≤ prepared.alloc.toNat
      rw [len]
      omega
    · intro _ _
      change prepared.len.toNat < prepared.alloc.toNat
      rw [len]
      omega
    · change (prepared.pdata.set prepared.len.toNat none).take prepared.len.toNat = _
      rw [List.take_set_of_le (Nat.le_refl _), len, taken]
    · intro _ _
      exact List.getElem?_set_self inside
  · rename_i unterminated
    refine ⟨prepared, rfl, ⟨block, ?_, ?_⟩, len, ?_, nullTerminated, elementFreeFunc, ?_⟩
    · rw [len]
      omega
    · intro terminated
      exact absurd terminated unterminated
    · rw [elements, len, taken]
    · intro terminated
      exact absurd terminated unterminated

/-- Copying never faults: neither check of GLib aborts, and no access is outside the
blocks. -/
theorem copy_ok {array : GRealPtrArray α δ} (wellFormed : array.WellFormed)
    (gcFriendly : Bool) (func : Option (Option α → Option α)) :
    ∃ copied, array.copy gcFriendly func = .ok copied ∧ array.CopyOf func copied := by
  have few := array.alloc.toNat_lt
  have inside := wellFormed.elements
  have start : (new gcFriendly 0 array.elementFreeFunc array.nullTerminated :
      Except ArrayFault (GRealPtrArray α δ)) = .ok {
        pdata := []
        len := 0
        alloc := 0
        nullTerminated := array.nullTerminated
        elementFreeFunc := array.elementFreeFunc } := by
    simp only [new, if_true]
  have empty : ({
      pdata := []
      len := 0
      alloc := 0
      nullTerminated := array.nullTerminated
      elementFreeFunc := array.elementFreeFunc } : GRealPtrArray α δ).WellFormed :=
    ⟨Nat.le_refl _, Nat.le_refl _, fun _ allocated => absurd allocated (Nat.lt_irrefl _)⟩
  simp only [copy, start, bind, Except.bind]
  split
  · rename_i allocated
    rw [UInt32.lt_iff_toNat_lt] at allocated
    have wanted : (array.len + if array.nullTerminated then 1 else 0).toNat =
        array.len.toNat + if array.nullTerminated then 1 else 0 := by
      rw [UInt32.toNat_add]
      split
      · rename_i terminated
        have below := wellFormed.terminated terminated allocated
        exact Nat.mod_eq_of_lt (Nat.lt_of_le_of_lt below few)
      · exact Nat.mod_eq_of_lt (Nat.lt_of_le_of_lt inside few)
    have fits : (0 : UInt32).toNat +
        (array.len + if array.nullTerminated then 1 else 0).toNat < 2 ^ 32 := by
      change 0 + _ < _
      rw [Nat.zero_add]
      exact UInt32.toNat_lt _
    obtain ⟨expanded, found, expands⟩ := maybeExpand_ok empty gcFriendly fits
    simp only [found]
    have room := expands.room
    have block := expands.block
    rw [wanted] at room
    change 0 + _ ≤ _ at room
    rw [Nat.zero_add] at room
    split
    · have enough : array.len.toNat ≤ expanded.pdata.length := by omega
      rw [copyElements_ok wellFormed func enough]
      refine copyOf_prepared wellFormed rfl ?_ room rfl expands.nullTerminated
        expands.elementFreeFunc
      simp only [List.length_append, List.length_map, length_elements wellFormed,
        List.length_drop]
      omega
    · rename_i none
      have nothing := eq_zero_of_not_pos none
      have cells : expanded.pdata = array.elements.map (func.getD id) ++ expanded.pdata := by
        rw [elements, nothing]
        rfl
      exact copyOf_prepared wellFormed cells block room (expands.len.trans nothing.symm)
        expands.nullTerminated expands.elementFreeFunc
  · rename_i unallocated
    have none : array.len.toNat = 0 := by
      rw [eq_zero_of_not_pos unallocated] at inside
      exact Nat.le_zero.mp inside
    have nothing : array.len = 0 := UInt32.toNat_inj.mp none
    refine ⟨_, rfl, empty, nothing.symm, ?_, rfl, rfl, ?_⟩
    · rw [elements, elements, nothing]
      rfl
    · intro _ allocated
      exact absurd allocated unallocated

/-- A terminated array of two elements in a block of four cells. -/
theorem copy_ok_terminated :
    ∃ copied, copy true ⟨[some 1, some 2, none, none], 2, 4, true, some ()⟩
        (some (Option.map (· + 1))) = .ok copied ∧
      CopyOf ⟨[some 1, some 2, none, none], 2, 4, true, some ()⟩
        (some (Option.map (· + 1))) copied :=
  copy_ok ⟨by decide, by decide, fun _ _ => by decide⟩ true (some (Option.map (· + 1)))

end GRealPtrArray

end Sawang
