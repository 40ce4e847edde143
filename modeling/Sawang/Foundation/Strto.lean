import Mathlib.Algebra.Group.Int.Defs
import Mathlib.Algebra.Group.Nat.Defs
import Mathlib.Data.List.TakeWhile
import Mathlib.Order.Basic

/-!
# Decimal numerals and their conversion

`strtol` and `strtoul` of the C library in base 10, with a `long` of 64 bits.  A
conversion reads the longest numeral its text begins with; `rest` is the text the
end pointer is left at, and `erange` says that `errno` is set to `ERANGE`.

`Numeral` is the grammar: white space, an optional sign and at least one digit.
-/

namespace Strto

/-- `isspace` in the C locale. -/
def isspace (c : Char) : Bool :=
  c = ' ' || c = '\t' || c = '\n' || c = '\x0b' || c = '\x0c' || c = '\r'

def isdigit (c : Char) : Bool := '0' ≤ c && c ≤ '9'

def digitsValue (digits : List Char) : Nat :=
  digits.foldl (fun value c => 10 * value + (c.toNat - '0'.toNat)) 0

inductive Sign where
  | absent
  | plus
  | minus
deriving DecidableEq

def Sign.text : Sign → List Char
  | .absent => []
  | .plus => ['+']
  | .minus => ['-']

structure Numeral where
  blanks : List Char
  sign : Sign
  digits : List Char
  spaces : ∀ c ∈ blanks, isspace c = true
  decimal : ∀ c ∈ digits, isdigit c = true
  nonempty : digits ≠ []

namespace Numeral

def text (numeral : Numeral) : List Char :=
  numeral.blanks ++ (numeral.sign.text ++ numeral.digits)

def magnitude (numeral : Numeral) : Nat := digitsValue numeral.digits

def value (numeral : Numeral) : Int :=
  if numeral.sign = .minus then -(numeral.magnitude : Int) else numeral.magnitude

end Numeral

/-! ## Scanning -/

def scanSign : List Char → Sign × List Char
  | '-' :: rest => (.minus, rest)
  | '+' :: rest => (.plus, rest)
  | rest => (.absent, rest)

/-- The numeral a text begins with and what is left of the text. -/
def scan (text : List Char) : Option (Numeral × List Char) :=
  let signed := scanSign (text.dropWhile isspace)
  if nonempty : signed.2.takeWhile isdigit ≠ [] then
    some (
      { blanks := text.takeWhile isspace
        sign := signed.1
        digits := signed.2.takeWhile isdigit
        spaces := fun _ => List.mem_takeWhile_imp
        decimal := fun _ => List.mem_takeWhile_imp
        nonempty := nonempty },
      signed.2.dropWhile isdigit)
  else none

/-- The number a text begins with, 0 if it begins with none. -/
def leadingValue (text : List Char) : Int :=
  match scan text with
  | none => 0
  | some (numeral, _) => numeral.value

/-- What a conversion leaves of its text: all of it without a numeral. -/
def leftOver (text : List Char) : List Char :=
  match scan text with
  | none => text
  | some (_, rest) => rest

/-! ## Conversion -/

structure Conversion (α : Type) where
  value : α
  rest : List Char
  erange : Bool

def longMin : Int := -2 ^ 63
def longMax : Int := 2 ^ 63 - 1
def ulongMax : Nat := 2 ^ 64 - 1

def strtol (text : List Char) : Conversion Int :=
  match scan text with
  | none => ⟨0, text, false⟩
  | some (numeral, rest) =>
      if numeral.value < longMin then ⟨longMin, rest, true⟩
      else if longMax < numeral.value then ⟨longMax, rest, true⟩
      else ⟨numeral.value, rest, false⟩

/-- A minus sign negates the number in 64 bits. -/
def strtoul (text : List Char) : Conversion Nat :=
  match scan text with
  | none => ⟨0, text, false⟩
  | some (numeral, rest) =>
      if ulongMax < numeral.magnitude then ⟨ulongMax, rest, true⟩
      else
        ⟨if numeral.sign = .minus then (2 ^ 64 - numeral.magnitude) % 2 ^ 64
          else numeral.magnitude, rest, false⟩

/-! ## The scanner and the grammar -/

theorem scanSign_text (text : List Char) : (scanSign text).1.text ++ (scanSign text).2 = text := by
  unfold scanSign
  split <;> rfl

theorem scanSign_append {digits : List Char} (sign : Sign)
    (decimal : ∀ c ∈ digits, isdigit c = true) :
    scanSign (sign.text ++ digits) = (sign, digits) := by
  cases sign with
  | plus => rfl
  | minus => rfl
  | absent =>
      cases digits with
      | nil => rfl
      | cons c digits =>
          have digit := decimal c List.mem_cons_self
          have notMinus : c ≠ '-' := by
            rintro rfl
            exact absurd digit (by decide)
          have notPlus : c ≠ '+' := by
            rintro rfl
            exact absurd digit (by decide)
          simp only [Sign.text, List.nil_append]
          unfold scanSign
          split
          · rename_i same
            exact absurd (List.cons.inj same).1 notMinus
          · rename_i same
            exact absurd (List.cons.inj same).1 notPlus
          · rfl

/-- What is scanned is a beginning of the text. -/
theorem text_of_scan {text rest : List Char} {numeral : Numeral}
    (scanned : scan text = some (numeral, rest)) : text = numeral.text ++ rest := by
  unfold scan at scanned
  dsimp only at scanned
  split at scanned
  · cases scanned
    unfold Numeral.text
    dsimp only
    rw [List.append_assoc, List.append_assoc, List.takeWhile_append_dropWhile, scanSign_text,
      List.takeWhile_append_dropWhile]
  · cases scanned

theorem isspace_of_isdigit {c : Char} (digit : isdigit c = true) : isspace c = false := by
  by_contra space
  have listed := Bool.of_not_eq_false space
  simp only [isspace, Bool.or_eq_true, decide_eq_true_eq] at listed
  rcases listed with ((((rfl | rfl) | rfl) | rfl) | rfl) | rfl <;> exact absurd digit (by decide)

/-- Behind its blanks a numeral begins with something visible. -/
private theorem signed_head (numeral : Numeral) :
    ∃ c rest, numeral.sign.text ++ numeral.digits = c :: rest ∧ isspace c = false := by
  obtain ⟨blanks, sign, digits, spaces, decimal, nonempty⟩ := numeral
  obtain ⟨digit, others, rfl⟩ := List.exists_cons_of_ne_nil nonempty
  cases sign with
  | absent => exact ⟨digit, others, rfl, isspace_of_isdigit (decimal digit List.mem_cons_self)⟩
  | plus => exact ⟨'+', digit :: others, rfl, rfl⟩
  | minus => exact ⟨'-', digit :: others, rfl, rfl⟩

/-- A numeral is scanned as a whole. -/
theorem scan_text (numeral : Numeral) : scan numeral.text = some (numeral, []) := by
  obtain ⟨c, rest, signed, visible⟩ := signed_head numeral
  have blanks : numeral.text.takeWhile isspace = numeral.blanks := by
    unfold Numeral.text
    rw [List.takeWhile_append_of_pos numeral.spaces, signed]
    simp [visible]
  have behind : numeral.text.dropWhile isspace = numeral.sign.text ++ numeral.digits := by
    unfold Numeral.text
    rw [List.dropWhile_append_of_pos numeral.spaces, signed]
    simp [visible]
  have digits : numeral.digits.takeWhile isdigit = numeral.digits :=
    List.takeWhile_eq_self_iff.mpr numeral.decimal
  have ended : numeral.digits.dropWhile isdigit = [] :=
    List.dropWhile_eq_nil_iff.mpr numeral.decimal
  unfold scan
  simp only [blanks, behind, scanSign_append numeral.sign numeral.decimal, digits, ended]
  exact dif_pos numeral.nonempty

/-- A whole text is a numeral if it is not empty and nothing is left of it. -/
theorem numeral_iff {text : List Char} {P : Int → Prop} :
    (∃ numeral : Numeral, numeral.text = text ∧ P numeral.value) ↔
      text ≠ [] ∧ leftOver text = [] ∧ P (leadingValue text) := by
  constructor
  · rintro ⟨numeral, rfl, holds⟩
    obtain ⟨c, rest, signed, _⟩ := signed_head numeral
    unfold leftOver leadingValue
    rw [scan_text]
    refine ⟨?_, rfl, holds⟩
    unfold Numeral.text
    rw [signed]
    simp
  · rintro ⟨more, spent, holds⟩
    unfold leftOver at spent
    unfold leadingValue at holds
    cases scanned : scan text with
    | none =>
        rw [scanned] at spent
        exact absurd spent more
    | some found =>
        obtain ⟨numeral, rest⟩ := found
        rw [scanned] at spent holds
        dsimp only at spent holds
        subst spent
        exact ⟨numeral, by simpa using (text_of_scan scanned).symm, holds⟩

/-! ## The conversions -/

theorem strtol_eq (text : List Char) :
    strtol text =
      if leadingValue text < longMin then ⟨longMin, leftOver text, true⟩
      else if longMax < leadingValue text then ⟨longMax, leftOver text, true⟩
      else ⟨leadingValue text, leftOver text, false⟩ := by
  unfold strtol leadingValue leftOver
  cases scan text with
  | none => rfl
  | some found => rfl

theorem natAbs_value (numeral : Numeral) : numeral.value.natAbs = numeral.magnitude := by
  unfold Numeral.value
  split <;> simp

theorem strtoul_rest (text : List Char) : (strtoul text).rest = leftOver text := by
  unfold strtoul leftOver
  cases scan text with
  | none => rfl
  | some found =>
      dsimp only
      split <;> rfl

theorem strtoul_erange (text : List Char) :
    (strtoul text).erange = true ↔ ulongMax < (leadingValue text).natAbs := by
  unfold strtoul leadingValue
  cases scan text with
  | none => simp
  | some found =>
      dsimp only
      rw [natAbs_value]
      split <;> simp [*]

/-- Within its range the conversion is the number modulo `2 ^ 64`. -/
theorem strtoul_value {text : List Char}
    (inside : (leadingValue text).natAbs ≤ ulongMax) :
    ((strtoul text).value : Int) = leadingValue text % 2 ^ 64 := by
  unfold strtoul
  unfold leadingValue at inside ⊢
  cases found : scan text with
  | none => rfl
  | some found =>
      rw [found] at inside
      dsimp only at inside ⊢
      rw [natAbs_value] at inside
      rw [if_neg (Nat.not_lt.mpr inside)]
      unfold Numeral.value ulongMax at *
      dsimp only
      split <;> omega

end Strto
