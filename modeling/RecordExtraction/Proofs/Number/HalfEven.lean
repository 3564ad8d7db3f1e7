import Mathlib
import RecordExtraction.Proofs.Number.WholeNumbers

/-!
# Rounding to the nearest number

Around a magnitude the numbers of a format are the multiples of a power of two, the spacing.
Rounding takes the magnitude to one of the two multiples next to it.  Which of them depends on the
remainder, and in the middle on the quotient; so a multiple that is further than half of the spacing
away is never reached.
-/

namespace RecordExtraction
namespace FloatFormat

variable {format : FloatFormat} {units other multiple distance bits : Nat}

/-- The distance between neighbours of the format around a magnitude. -/
def spacing (format : FloatFormat) (units : Nat) : Nat := twoPow (format.spareBits units)

theorem spacing_pos : 0 < format.spacing units := Nat.two_pow_pos _

/-! ## Spare bits -/

theorem spareBits_le_iff :
    format.spareBits units ≤ bits ↔ units < twoPow (format.precision + bits) := by
  have hprecision := format.precision_pos
  unfold spareBits
  by_cases hzero : units = 0
  · subst hzero
    have hpos : 0 < twoPow (format.precision + bits) := Nat.two_pow_pos _
    rw [Nat.log2_zero]
    omega
  · have hlog := @Nat.log2_lt units (format.precision + bits) hzero
    change units.log2 < format.precision + bits ↔ units < twoPow (format.precision + bits) at hlog
    rw [← hlog]
    omega

theorem lt_spareBits_iff :
    bits < format.spareBits units ↔ twoPow (format.precision + bits) ≤ units := by
  rw [← not_le, spareBits_le_iff, not_lt]

theorem spareBits_mono (hle : units ≤ other) : format.spareBits units ≤ format.spareBits other := by
  rw [spareBits_le_iff]
  exact hle.trans_lt (spareBits_le_iff.mp le_rfl)

/-- The format has at least so many numbers below a magnitude as its precision says. -/
theorem precision_mul_le (hpos : 0 < distance) (hdistance : 2 * distance ≤ format.spacing units) :
    twoPow format.precision * distance ≤ units := by
  cases hspare : format.spareBits units with
  | zero =>
      have hone : format.spacing units = 1 := by rw [spacing, hspare]
      omega
  | succ bits =>
      have hbits : twoPow (format.precision + bits) ≤ units := lt_spareBits_iff.mp (by omega)
      have hdouble : format.spacing units = 2 * twoPow bits := by
        rw [spacing, hspare, Nat.add_comm, twoPow_add]
      have hle : distance ≤ twoPow bits := by omega
      calc
        twoPow format.precision * distance ≤ twoPow format.precision * twoPow bits :=
          Nat.mul_le_mul_left _ hle
        _ = twoPow (format.precision + bits) := (twoPow_add _ _).symm
        _ ≤ units := hbits

/-! ## Rounding -/

theorem roundHalfEven_mul_add (quotient : Nat) {remainder den : Nat}
    (hremainder : remainder < den) :
    roundHalfEven (quotient * den + remainder) den =
      if 2 * remainder < den then quotient
      else if den < 2 * remainder then quotient + 1
      else if quotient % 2 = 0 then quotient
      else quotient + 1 := by
  have hquotient : (quotient * den + remainder) / den = quotient := by
    rw [Nat.mul_comm, Nat.mul_add_div (by omega), Nat.div_eq_of_lt hremainder, Nat.add_zero]
  have hrest : (quotient * den + remainder) % den = remainder := by
    rw [Nat.mul_comm, Nat.mul_add_mod, Nat.mod_eq_of_lt hremainder]
  unfold roundHalfEven
  rw [hquotient, hrest]

theorem round_eq (format : FloatFormat) (units : Nat) :
    format.round units 1 = roundHalfEven units (format.spacing units) * format.spacing units := by
  unfold round spacing
  dsimp only
  rw [Nat.div_one, Nat.one_mul]

/-- What rounding does with a magnitude between two multiples of the spacing. -/
theorem round_of_remainder {step quotient remainder : Nat} (hstep : format.spacing units = step)
    (hunits : units = quotient * step + remainder) (hremainder : remainder < step) :
    format.round units 1 =
      (if 2 * remainder < step then quotient
        else if step < 2 * remainder then quotient + 1
        else if quotient % 2 = 0 then quotient
        else quotient + 1) * step := by
  rw [round_eq, hstep, hunits, roundHalfEven_mul_add quotient hremainder]

theorem le_round_of_dvd (hdvd : format.spacing units ∣ multiple) (hle : multiple ≤ units) :
    multiple ≤ format.round units 1 := by
  rcases hdvd with ⟨quotient, rfl⟩
  rw [round_eq, Nat.mul_comm]
  apply Nat.mul_le_mul_right
  apply le_trans _ (div_le_roundHalfEven _ _)
  rw [Nat.le_div_iff_mul_le spacing_pos, Nat.mul_comm]
  exact hle

/-- A multiple that is further than half of the spacing above is not reached. -/
theorem round_lt_of_dvd (hdvd : format.spacing units ∣ multiple) (hle : units ≤ multiple)
    (hfar : format.spacing units < 2 * (multiple - units)) :
    format.round units 1 < multiple := by
  rcases hdvd with ⟨quotient, rfl⟩
  have hpos := @spacing_pos format units
  have hsplit := Nat.div_add_mod units (format.spacing units)
  have hremainder := Nat.mod_lt units hpos
  have hround := round_of_remainder rfl (by rw [Nat.mul_comm]; exact hsplit.symm) hremainder
  rw [hround, Nat.mul_comm]
  generalize format.spacing units = step at *
  generalize units / step = below at *
  generalize units % step = remainder at *
  apply Nat.mul_lt_mul_of_pos_left _ hpos
  have hbelow : below < quotient := by
    by_contra hnot
    have hproduct := Nat.mul_le_mul_left step (Nat.le_of_not_lt hnot)
    omega
  rcases Nat.lt_or_ge (below + 1) quotient with hbeyond | hnext
  · split_ifs <;> omega
  · have hquotient : quotient = below + 1 := by omega
    have hproduct : step * quotient = step * below + step := by rw [hquotient, Nat.mul_succ]
    have hlow : 2 * remainder < step := by omega
    rw [if_pos hlow]
    exact hbelow

end FloatFormat
end RecordExtraction
