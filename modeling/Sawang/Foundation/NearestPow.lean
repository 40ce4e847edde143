import Mathlib.Algebra.Group.Nat.Defs
import Mathlib.Data.Nat.Size

/-!
# The next power of two

Or-ing a number with its shifts by 1, 2, 4 and so on spreads every bit to the places
below it, twice as far each time.  Once the bits have been spread over the whole width,
what is left is the highest bit and all places below it.
-/

/-- Every bit of the number has been spread to the places less than `width` below it. -/
def Spread (width number spread : Nat) : Prop :=
  ∀ place, spread.testBit place = true ↔
    ∃ distance < width, number.testBit (place + distance) = true

namespace Spread

variable {width number spread : Nat}

theorem start (number : Nat) : Spread 1 number number := by
  intro place
  constructor
  · intro bit
    exact ⟨0, Nat.one_pos, bit⟩
  · rintro ⟨distance, near, bit⟩
    rw [Nat.lt_one_iff] at near
    subst near
    exact bit

/-- A shift by the width doubles it. -/
theorem double (spreads : Spread width number spread) :
    Spread (2 * width) number (spread ||| spread >>> width) := by
  intro place
  rw [Nat.testBit_or, Nat.testBit_shiftRight, Bool.or_eq_true, spreads place,
    spreads (width + place)]
  constructor
  · rintro (⟨distance, near, bit⟩ | ⟨distance, near, bit⟩)
    · exact ⟨distance, by omega, bit⟩
    · refine ⟨width + distance, by omega, ?_⟩
      rwa [← Nat.add_assoc, Nat.add_comm place width]
  · rintro ⟨distance, far, bit⟩
    by_cases near : distance < width
    · exact Or.inl ⟨distance, near, bit⟩
    · refine Or.inr ⟨distance - width, by omega, ?_⟩
      rwa [show width + place + (distance - width) = place + distance by omega]

/-- A number spread over its whole width has all bits up to its highest. -/
theorem eq_two_pow_sub_one (spreads : Spread width number spread)
    (fits : number < 2 ^ width) : spread = 2 ^ number.size - 1 := by
  apply Nat.eq_of_testBit_eq
  intro place
  rw [Nat.testBit_two_pow_sub_one, Bool.eq_iff_iff, decide_eq_true_iff, spreads place,
    Nat.lt_size]
  constructor
  · rintro ⟨distance, near, bit⟩
    have high := Nat.ge_two_pow_of_testBit bit
    exact Nat.le_trans (Nat.pow_le_pow_right Nat.two_pos (Nat.le_add_right _ _)) high
  · intro reaches
    obtain ⟨high, above, bit⟩ := Nat.exists_ge_and_testBit_of_ge_two_pow reaches
    have inside : high < width :=
      (Nat.pow_lt_pow_iff_right Nat.one_lt_two).mp
        (Nat.lt_of_le_of_lt (Nat.ge_two_pow_of_testBit bit) fits)
    refine ⟨high - place, by omega, ?_⟩
    rwa [Nat.add_sub_cancel' above]

end Spread

/-- The exponent of the least power of two that is not less than the number. -/
def nearestExponent (number : Nat) : Nat := (number - 1).size

/-- A power of two is not less than the number exactly from that exponent on. -/
theorem nearestExponent_le_iff {number exponent : Nat} (positive : 0 < number) :
    nearestExponent number ≤ exponent ↔ number ≤ 2 ^ exponent := by
  unfold nearestExponent
  rw [Nat.size_le]
  omega

theorem le_two_pow_nearestExponent {number : Nat} (positive : 0 < number) :
    number ≤ 2 ^ nearestExponent number :=
  (nearestExponent_le_iff positive).mp (Nat.le_refl _)
