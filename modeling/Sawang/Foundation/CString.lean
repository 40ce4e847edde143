import Mathlib.Data.List.TakeWhile

/-!
# Texts in memory

A block of memory is the list of its characters.  A text starts at an offset of
its block and ends before the first NUL from there on; the functions that walk a
text never look behind that NUL.  A block that holds `text` behind `front` is
written `front ++ text ++ nul :: back`.
-/

namespace CString

/-- The character that ends a text. -/
def nul : Char := '\x00'

/-- The text that starts at an offset. -/
def textAt (block : List Char) (start : Nat) : List Char :=
  (block.drop start).takeWhile (· ≠ nul)

def strlen (block : List Char) (start : Nat) : Nat :=
  (textAt block start).length

/-- The offset of the first `sought` in the text; `none` is the NULL pointer. -/
def strchr (block : List Char) (start : Nat) (sought : Char) : Option Nat :=
  ((textAt block start).findIdx? (· = sought)).map (start + ·)

/-! ## Up to the first occurrence -/

section

variable {before after text : List Char} {sought : Char}

/-- A search passes a text without what it seeks. -/
theorem passed_of_not_mem (absent : sought ∉ text) :
    ∀ c ∈ text, decide (c ≠ sought) = true := by
  intro c member
  rw [decide_eq_true_eq]
  intro same
  exact absent (same ▸ member)

theorem takeWhile_first (first : sought ∉ before) :
    (before ++ sought :: after).takeWhile (· ≠ sought) = before := by
  rw [List.takeWhile_append_of_pos (passed_of_not_mem first)]
  simp

theorem dropWhile_first (first : sought ∉ before) :
    (before ++ sought :: after).dropWhile (· ≠ sought) = sought :: after := by
  rw [List.dropWhile_append_of_pos (passed_of_not_mem first)]
  simp

theorem takeWhile_absent (absent : sought ∉ text) : text.takeWhile (· ≠ sought) = text :=
  List.takeWhile_eq_self_iff.mpr (passed_of_not_mem absent)

theorem dropWhile_absent (absent : sought ∉ text) : text.dropWhile (· ≠ sought) = [] :=
  List.dropWhile_eq_nil_iff.mpr (passed_of_not_mem absent)

/-- What is taken does not have the character. -/
theorem not_mem_takeWhile (text : List Char) (sought : Char) :
    sought ∉ text.takeWhile (· ≠ sought) := by
  intro member
  simpa using List.mem_takeWhile_imp member

end

/-! ## In a block -/

section

variable {front text back : List Char} {sought : Char}

theorem textAt_append (clean : nul ∉ text) :
    textAt (front ++ (text ++ nul :: back)) front.length = text := by
  unfold textAt
  rw [List.drop_left, takeWhile_first clean]

theorem textAt_zero (clean : nul ∉ text) : textAt (text ++ nul :: back) 0 = text :=
  @textAt_append [] text back clean

/-- A text without the character has no offset of it. -/
private theorem findIdx_absent (absent : sought ∉ text) :
    text.findIdx? (fun c => decide (c = sought)) = none := by
  rw [List.findIdx?_eq_none_iff]
  intro c member
  rw [decide_eq_false_iff_not]
  intro same
  exact absent (same ▸ member)

theorem strchr_eq_none {block : List Char} {start : Nat}
    (absent : sought ∉ textAt block start) : strchr block start sought = none := by
  unfold strchr
  rw [findIdx_absent absent]
  rfl

theorem strchr_eq_some {block before after : List Char} {start : Nat}
    (split : textAt block start = before ++ sought :: after) (first : sought ∉ before) :
    strchr block start sought = some (start + before.length) := by
  unfold strchr
  rw [split, List.findIdx?_append, findIdx_absent first]
  simp [List.findIdx?_cons]

/-- A character written behind `front`. -/
theorem set_length_append (c written : Char) :
    (front ++ c :: back).set front.length written = front ++ written :: back := by
  rw [List.set_append_right _ _ (Nat.le_refl _), Nat.sub_self, List.set_cons_zero]

end

end CString
