import Sawang.Confvar
import Sawang.Foundation.Strto

/-!
# Numeric settings

The three readers share one body: look the key up, convert, look at `errno`, store,
look at the end pointer.  `errno` is only ever compared with `ERANGE`, so it is kept
as the answer to that; the conversions set it and nobody clears it.
-/

namespace Sawang

open Strto

/-- What a reader returns, what `*value` holds then (`none` is the NULL pointer), and
whether `errno` is `ERANGE`. -/
structure Reading (α : Type) where
  returned : Bool
  value : Option α
  erange : Bool

/-- The body of the readers, with the conversion they use. -/
def confvarNumber {α : Type} (convert : List Char → Conversion α) (erange : Bool)
    (head : List ConfVar) (key : List Char) (value : Option α) : Reading α :=
  match confvarValue head key with
  | none => ⟨false, value, erange⟩
  | some s =>
      let converted := convert s
      if erange || converted.erange then ⟨false, value, true⟩
      else ⟨converted.rest = [], value.map fun _ => converted.value, false⟩

def confvarLong (erange : Bool) (head : List ConfVar) (key : List Char)
    (value : Option Int) : Reading Int :=
  confvarNumber strtol erange head key value

/-- The conversion of `strtof`, whatever its numbers are. -/
def confvarFloat {φ : Type} (strtof : List Char → Conversion φ) (erange : Bool)
    (head : List ConfVar) (key : List Char) (value : Option φ) : Reading φ :=
  confvarNumber strtof erange head key value

/-- The `unsigned long` is assigned to an `unsigned int`. -/
def strtoui (text : List Char) : Conversion Nat :=
  let converted := strtoul text
  { converted with value := converted.value % 2 ^ 32 }

def confvarUint (erange : Bool) (head : List ConfVar) (key : List Char)
    (value : Option Nat) : Reading Nat :=
  confvarNumber strtoui erange head key value

/-! ## Exact reading -/

def FitsLong (number : Int) : Prop := longMin ≤ number ∧ number ≤ longMax

def FitsUint (number : Int) : Prop := 0 ≤ number ∧ number ≤ 2 ^ 32 - 1

/-- The reading accepts exactly the numerals that fit, stores their numbers, and
stores nothing else. -/
structure ReadsExactly {α : Type} (number : α → Int) (Fits : Int → Prop)
    (head : List ConfVar) (key : List Char) (value : Option α) (reading : Reading α) :
    Prop where
  accepts : reading.returned = true ↔
    ∃ numeral : Numeral, confvarValue head key = some numeral.text ∧ Fits numeral.value
  stores : ∀ numeral : Numeral, confvarValue head key = some numeral.text →
    Fits numeral.value → reading.value.map number = value.map fun _ => numeral.value
  keeps : reading.returned = false → reading.value = value

/-- The setting is no numeral that a `long` reader takes or stores by mistake. -/
def LongSound (text : List Char) (value : Option Int) : Prop :=
  text ≠ [] ∧ (leftOver text = [] ∨ ¬FitsLong (leadingValue text) ∨
    ∀ old ∈ value, old = leadingValue text)

def UintSound (text : List Char) (value : Option Nat) : Prop :=
  text ≠ [] ∧ (ulongMax < (leadingValue text).natAbs ∨
    (leftOver text = [] ∧ FitsUint (leadingValue text)) ∨
    (leftOver text ≠ [] ∧ ∀ old ∈ value, (old : Int) = leadingValue text % 2 ^ 32))

/-! ## What the readers do -/

theorem leftOver_nil : leftOver [] = [] := rfl

theorem readsExactly_absent {α : Type} {number : α → Int} {Fits : Int → Prop}
    {convert : List Char → Conversion α} {head : List ConfVar} {key : List Char}
    {value : Option α} (absent : confvarValue head key = none) :
    ReadsExactly number Fits head key value (confvarNumber convert false head key value) := by
  have reading : confvarNumber convert false head key value = ⟨false, value, false⟩ := by
    unfold confvarNumber
    rw [absent]
  rw [reading]
  constructor
  · simp [absent]
  · intro numeral found
    rw [absent] at found
    cases found
  · intro _
    rfl

/-- A reader whose conversion ends where the numeral does, fails on no number that
fits, and is right about those. -/
theorem readsExactly_found {α : Type} {number : α → Int} {Fits : Int → Prop}
    {convert : List Char → Conversion α} {head : List ConfVar} {key text : List Char}
    {value : Option α} (found : confvarValue head key = some text)
    (ends : (convert text).rest = leftOver text)
    (inRange : Fits (leadingValue text) → (convert text).erange = false)
    (right : Fits (leadingValue text) → number (convert text).value = leadingValue text) :
    ReadsExactly number Fits head key value (confvarNumber convert false head key value) ↔
      (convert text).erange = true ∨
        (text ≠ [] ∧ leftOver text = [] ∧ Fits (leadingValue text)) ∨
        (leftOver text ≠ [] ∧ ∀ old ∈ value, old = (convert text).value) := by
  have asked : (∃ numeral : Numeral,
      confvarValue head key = some numeral.text ∧ Fits numeral.value) ↔
        text ≠ [] ∧ leftOver text = [] ∧ Fits (leadingValue text) := by
    rw [← numeral_iff, found]
    simp only [Option.some.injEq, eq_comm]
  have reading : confvarNumber convert false head key value =
      if (convert text).erange then ⟨false, value, true⟩
      else ⟨leftOver text = [], value.map fun _ => (convert text).value, false⟩ := by
    unfold confvarNumber
    rw [found]
    simp [ends]
  cases ranged : (convert text).erange with
  | true =>
      have misfit : ¬Fits (leadingValue text) := by
        intro fits
        rw [inRange fits] at ranged
        cases ranged
      rw [reading, ranged, if_pos rfl]
      refine ⟨fun _ => Or.inl rfl, fun _ => ⟨?_, ?_, fun _ => rfl⟩⟩
      · rw [asked]
        simp [misfit]
      · intro numeral same fits
        exact absurd (asked.mp ⟨numeral, same, fits⟩).2.2 misfit
  | false =>
      rw [reading, ranged, if_neg Bool.false_ne_true]
      constructor
      · intro exact
        by_cases spent : leftOver text = []
        · exact Or.inr (Or.inl (asked.mp (exact.accepts.mp (by simpa using spent))))
        · have kept := exact.keeps (by simpa using spent)
          refine Or.inr (Or.inr ⟨spent, fun old held => ?_⟩)
          rw [Option.mem_def] at held
          rw [held] at kept
          exact (Option.some.inj kept).symm
      · intro sound
        rcases sound with impossible | ⟨more, spent, fits⟩ | ⟨spent, same⟩
        · cases impossible
        · refine ⟨?_, ?_, ?_⟩
          · rw [asked]
            simp [more, spent, fits]
          · intro numeral stored _
            have equal : leadingValue text = numeral.value := by
              rw [found] at stored
              rw [Option.some.inj stored]
              unfold leadingValue
              rw [scan_text]
            cases value with
            | none => rfl
            | some old => exact congrArg some ((right fits).trans equal)
          · intro refused
            exact absurd refused (by simp [spent])
        · refine ⟨?_, ?_, ?_⟩
          · rw [asked]
            simp [spent]
          · intro numeral stored fits
            exact absurd (asked.mp ⟨numeral, stored, fits⟩).2.1 spent
          · intro _
            cases value with
            | none => rfl
            | some old => exact congrArg some (same old rfl).symm

theorem strtol_rest (text : List Char) : (strtol text).rest = leftOver text := by
  rw [strtol_eq]
  split
  · rfl
  · split <;> rfl

theorem strtol_erange (text : List Char) :
    (strtol text).erange = true ↔ ¬FitsLong (leadingValue text) := by
  rw [strtol_eq]
  unfold FitsLong
  split
  · simp
    omega
  · split
    · simp
      omega
    · simp
      omega

theorem strtol_value {text : List Char} (fits : FitsLong (leadingValue text)) :
    (strtol text).value = leadingValue text := by
  have notBelow : ¬leadingValue text < longMin := Int.not_lt.mpr fits.1
  have notAbove : ¬longMax < leadingValue text := Int.not_lt.mpr fits.2
  rw [strtol_eq, if_neg notBelow, if_neg notAbove]

theorem confvarLong_exact_iff {head : List ConfVar} {key text : List Char} {value : Option Int}
    (found : confvarValue head key = some text) :
    ReadsExactly id FitsLong head key value (confvarLong false head key value) ↔
      LongSound text value := by
  have inRange : FitsLong (leadingValue text) → (strtol text).erange = false := by
    intro fits
    rw [Bool.eq_false_iff]
    intro ranged
    exact (strtol_erange text).mp ranged fits
  unfold confvarLong
  rw [readsExactly_found found (strtol_rest text) inRange strtol_value, strtol_erange]
  unfold LongSound
  by_cases fits : FitsLong (leadingValue text)
  · rw [strtol_value fits]
    by_cases empty : text = []
    · subst empty
      simp [fits, leftOver_nil]
    · by_cases spent : leftOver text = [] <;> simp [fits, empty, spent]
  · have more : text ≠ [] := by
      rintro rfl
      exact fits ⟨by decide, by decide⟩
    simp [fits, more]

/-- The number a text begins with, modulo `2 ^ 32`. -/
theorem strtoui_value {text : List Char} (inside : (leadingValue text).natAbs ≤ ulongMax) :
    ((strtoui text).value : Int) = leadingValue text % 2 ^ 32 := by
  have wide := strtoul_value inside
  unfold strtoui
  dsimp only
  omega

theorem confvarUint_exact_iff {head : List ConfVar} {key text : List Char} {value : Option Nat}
    (found : confvarValue head key = some text) :
    ReadsExactly (fun number : Nat => (number : Int)) FitsUint head key value
        (confvarUint false head key value) ↔
      UintSound text value := by
  have inRange : FitsUint (leadingValue text) → (strtoui text).erange = false := by
    intro fits
    rw [Bool.eq_false_iff]
    intro ranged
    have outside := (strtoul_erange text).mp ranged
    unfold FitsUint ulongMax at *
    omega
  have right : FitsUint (leadingValue text) →
      ((strtoui text).value : Int) = leadingValue text := by
    intro fits
    rw [strtoui_value (by unfold FitsUint ulongMax at *; omega)]
    unfold FitsUint at fits
    omega
  have ends : (strtoui text).rest = leftOver text := strtoul_rest text
  unfold confvarUint
  rw [readsExactly_found found ends inRange right]
  unfold UintSound
  by_cases outside : ulongMax < (leadingValue text).natAbs
  · have ranged : (strtoui text).erange = true := (strtoul_erange text).mpr outside
    have more : text ≠ [] := by
      rintro rfl
      exact absurd outside (by decide)
    simp [ranged, outside, more]
  · have ranged : (strtoui text).erange = false := by
      rw [Bool.eq_false_iff]
      intro ranged
      exact outside ((strtoul_erange text).mp ranged)
    have held : (∀ old ∈ value, old = (strtoui text).value) ↔
        ∀ old ∈ value, (old : Int) = leadingValue text % 2 ^ 32 := by
      rw [← strtoui_value (not_lt.mp outside)]
      simp only [Int.natCast_inj]
    rw [held, ranged]
    by_cases empty : text = []
    · subst empty
      simp [leftOver_nil, outside]
    · simp [empty, outside]

/-- Each reader is exact on a key that is absent or whose text is sound for it, and on
no other. -/
theorem confvarNumbers_exact_iff (head : List ConfVar) (key : List Char)
    (long : Option Int) (uint : Option Nat) :
    (ReadsExactly id FitsLong head key long (confvarLong false head key long) ↔
        ∀ text, confvarValue head key = some text → LongSound text long) ∧
      (ReadsExactly (fun number : Nat => (number : Int)) FitsUint head key uint
          (confvarUint false head key uint) ↔
        ∀ text, confvarValue head key = some text → UintSound text uint) := by
  cases found : confvarValue head key with
  | none =>
      have long_exact : ReadsExactly id FitsLong head key long
          (confvarLong false head key long) := readsExactly_absent found
      have uint_exact : ReadsExactly (fun number : Nat => (number : Int)) FitsUint head key uint
          (confvarUint false head key uint) := readsExactly_absent found
      constructor
      · exact iff_of_true long_exact (by simp)
      · exact iff_of_true uint_exact (by simp)
  | some text =>
      rw [confvarLong_exact_iff found, confvarUint_exact_iff found]
      simp

/-- `4294967296` is read as an `unsigned int` without complaint. -/
theorem not_confvarNumbers_exact :
    ¬∀ (head : List ConfVar) (key : List Char) (long : Option Int) (uint : Option Nat),
      ReadsExactly id FitsLong head key long (confvarLong false head key long) ∧
        ReadsExactly (fun number : Nat => (number : Int)) FitsUint head key uint
          (confvarUint false head key uint) := by
  intro exact
  have accepted := (exact [⟨['n'], "4294967296".toList⟩] ['n'] none none).2.accepts.mp (by decide)
  obtain ⟨numeral, same, fits⟩ := accepted
  have inside : FitsUint (leadingValue "4294967296".toList) :=
    (numeral_iff.mp ⟨numeral, (Option.some.inj same).symm, fits⟩).2.2
  exact absurd inside.2 (by decide)

end Sawang
