import Mathlib
import RecordExtraction.Locator.Numeral
import RecordExtraction.Proofs.Number.Integers

/-!
# Rounding integers

Rounding adds one half and takes the floor.  The sum is rounded itself, but an integer with at least
one bit less than the precision leaves room for the half, and then the floor is the integer again.
-/

namespace RecordExtraction

/-! ## One half -/

namespace FloatFormat

/-- The number of units in one half. -/
def halfOne (format : FloatFormat) : Nat := twoPow (format.scale - 1)

variable {format : FloatFormat}

theorem halfOne_pos : (0 : Int) < format.halfOne := Int.natCast_pos.mpr (Nat.two_pow_pos _)

theorem one_eq_two_mul_halfOne (hscale : 0 < format.scale) :
    (format.one : Int) = 2 * format.halfOne := by
  have hpower : format.one = 2 * format.halfOne := by
    unfold one halfOne
    rw [← Nat.sub_add_cancel hscale, Nat.add_comm, twoPow_add, Nat.add_sub_cancel_left]
  rw [hpower, Nat.cast_mul, Nat.cast_two]

/-- The format can hold every number of halves that has no more bits than its precision. -/
theorem representable_halves {n : Nat}
    (hfits : format.precision + format.scale ≤ format.limitBits)
    (hn : n < twoPow format.precision) :
    format.Representable (n * format.halfOne) :=
  representable_mul_twoPow (by omega) hn

end FloatFormat

namespace Locator

open Number FloatFormat

variable {x : Double} {n : Int}

theorem fits_binary64 : binary64.precision + binary64.scale ≤ binary64.limitBits := by decide

theorem units?_half : half.units? = some (binary64.halfOne : Int) := by decide +kernel

/-! ## Integers -/

theorem isSmallNegative_eq_false (hx : x.Denotes n) : isSmallNegative x = false := by
  have hone : (binary64.one : Int) = 2 * binary64.halfOne := one_eq_two_mul_halfOne (by decide)
  have hhalf : (0 : Int) < binary64.halfOne := halfOne_pos
  have hzero : (0 : Double).Denotes 0 := denotes_ofNat fits_binary64 (Nat.two_pow_pos _)
  unfold isSmallNegative
  rw [lessOrEqual_of_units? (units?_neg units?_half) hx, less_of_units? hx hzero, hone,
    Bool.and_eq_false_iff, decide_eq_false_iff_not, decide_eq_false_iff_not]
  by_cases hn : n < 0
  · left
    have hproduct : n * (2 * binary64.halfOne : Int) ≤ -1 * (2 * binary64.halfOne) :=
      mul_le_mul_of_nonneg_right (by omega) (by omega)
    omega
  · right
    have hproduct : 0 ≤ n * (2 * binary64.halfOne : Int) := mul_nonneg (by omega) (by omega)
    omega

theorem denotes_roundHalfUp (hx : x.Denotes n) (hn : n.natAbs < 2 ^ 52) :
    (roundHalfUp x).Denotes n := by
  have hone : (binary64.one : Int) = 2 * binary64.halfOne := one_eq_two_mul_halfOne (by decide)
  have hhalf : (0 : Int) < binary64.halfOne := halfOne_pos
  have hsum : (n * binary64.one + binary64.halfOne : Int).natAbs =
      (2 * n + 1).natAbs * binary64.halfOne := by
    rw [hone, ← Int.natAbs_natCast binary64.halfOne, ← Int.natAbs_mul, Int.natAbs_natCast]
    congr 1
    ring
  have hadded : (x.add half).units? = some (n * binary64.one + binary64.halfOne) := by
    apply units?_add hx units?_half
    rw [hsum]
    have hbits : (2 * n + 1).natAbs < 2 ^ 53 := by omega
    exact representable_halves fits_binary64 hbits
  have hfloor : (x.add half).floor.Denotes n := by
    apply denotes_floor hadded (by omega) (by omega)
    exact representable_of_lt fits_binary64 (hn.trans (by decide))
  unfold roundHalfUp
  rw [isSmallNegative_eq_false hx, isFinite_of_units? hx, if_neg Bool.false_ne_true, if_pos rfl]
  exact hfloor

end Locator
end RecordExtraction
