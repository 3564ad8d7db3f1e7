import Mathlib
import RecordExtraction.Proofs.Locator.Rounding
import RecordExtraction.Proofs.Number.HalfEven

/-!
# Sums with one half

The sum of a magnitude and one half is rounded to a number of the format.  Below the integers of
full precision this does not take it to the next integer, except for the number before one half:
nothing lies between that sum and one.  Large integers have no room for the half, and the sum is
rounded to an even integer.
-/

namespace RecordExtraction

namespace FloatFormat

variable {format : FloatFormat} {units n k : Nat}

/-- The distance between one half and the number before it. -/
def halfGap (format : FloatFormat) : Nat := twoPow (format.scale - 1 - format.precision)

/-! ## Spacings and one half -/

theorem four_le (hprecision : 1 < format.precision) : 4 ≤ twoPow format.precision :=
  Nat.pow_le_pow_right (show 0 < 2 by decide) hprecision

theorem four_dvd (hprecision : 1 < format.precision) : 4 ∣ twoPow format.precision :=
  Nat.pow_dvd_pow 2 hprecision

theorem one_eq (hscale : 0 < format.scale) : format.one = 2 * format.halfOne :=
  Int.natCast_inj.mp (by rw [one_eq_two_mul_halfOne hscale, Nat.cast_mul, Nat.cast_two])

theorem halfOne_eq_mul_halfGap (hscale : format.precision < format.scale) :
    format.halfOne = twoPow format.precision * format.halfGap := by
  rw [halfOne, halfGap, ← twoPow_add]
  congr 1
  omega

theorem halfGap_lt_halfOne (hscale : format.precision < format.scale) :
    format.halfGap < format.halfOne := by
  have hprecision := format.precision_pos
  exact Nat.pow_lt_pow_right (by decide) (by omega)

theorem spacing_dvd_halfOne (hsmall : units < twoPow format.precision * format.halfOne) :
    format.spacing units ∣ format.halfOne := by
  rw [halfOne, ← twoPow_add] at hsmall
  exact Nat.pow_dvd_pow 2 (spareBits_le_iff.mpr hsmall)

theorem one_dvd_spacing (hscale : 0 < format.scale)
    (hlarge : twoPow format.precision * format.halfOne ≤ units) :
    format.one ∣ format.spacing units := by
  rw [halfOne, ← twoPow_add] at hlarge
  have hspare := lt_spareBits_iff.mpr hlarge
  exact Nat.pow_dvd_pow 2 (by omega)

theorem lt_mul_spacing (format : FloatFormat) (units : Nat) :
    units < twoPow format.precision * format.spacing units := by
  rw [spacing, ← twoPow_add]
  exact spareBits_le_iff.mp le_rfl

/-! ## Sums -/

/-- A number so near below one half is the number before it. -/
theorem add_gap_eq_halfOne {distance : Nat} (hprecision : 1 < format.precision)
    (hhalf : units + distance = format.halfOne) (hgrid : format.spacing units ∣ distance)
    (hpos : 0 < distance)
    (hbelow : twoPow format.precision * format.spacing units ≤ format.halfOne)
    (hmany : twoPow format.precision * distance ≤ units + format.halfOne) :
    units + format.halfGap = format.halfOne := by
  have hunits := lt_mul_spacing format units
  have hbits : format.precision + format.spareBits units ≤ format.scale - 1 := by
    rw [spacing, halfOne, ← twoPow_add] at hbelow
    exact (Nat.pow_le_pow_iff_right (by decide)).mp hbelow
  rcases Nat.eq_or_lt_of_le hbits with heq | hlt
  · have hspacing : format.spacing units = format.halfGap := by
      rw [spacing, halfGap, ← heq, Nat.add_sub_cancel_left]
    have hproduct : twoPow format.precision * format.spacing units = format.halfOne := by
      rw [spacing, ← twoPow_add, heq, halfOne]
    have htwice : twoPow format.precision * distance <
        twoPow format.precision * (2 * format.spacing units) := by
      rw [Nat.mul_left_comm]
      omega
    have hfew := Nat.lt_of_mul_lt_mul_left htwice
    rcases hgrid with ⟨count, rfl⟩
    rw [Nat.mul_comm 2] at hfew
    have hcount : count < 2 := Nat.lt_of_mul_lt_mul_left hfew
    have hcountPos : 0 < count := Nat.pos_of_mul_pos_left hpos
    have hsingle : count = 1 := by omega
    rw [hsingle, Nat.mul_one] at hhalf
    rwa [← hspacing]
  · -- The number is below one quarter, and too far from one half.
    have hquarter : 2 * (twoPow format.precision * format.spacing units) ≤ format.halfOne := by
      have hpower : twoPow (1 + (format.precision + format.spareBits units)) ≤
          twoPow (format.scale - 1) := Nat.pow_le_pow_right (by decide) (by omega)
      rwa [twoPow_add, twoPow_add] at hpower
    have hproduct : 4 * distance ≤ twoPow format.precision * distance :=
      Nat.mul_le_mul_right distance (four_le hprecision)
    omega

/-- A sum with one half is so near to the next integer only if the number is the one before one
half. -/
theorem spacing_lt_of_add_halfOne (hprecision : 1 < format.precision) (hscale : 0 < format.scale)
    (hdvd : format.spacing units ∣ units)
    (hsmall : units < twoPow format.precision * format.halfOne)
    (hgap : units + format.halfGap ≠ format.halfOne)
    (hlow : n * format.one ≤ units + format.halfOne)
    (hhigh : units + format.halfOne < (n + 1) * format.one) :
    format.spacing (units + format.halfOne) <
      2 * ((n + 1) * format.one - (units + format.halfOne)) := by
  have hone := one_eq hscale
  have hhalf := spacing_dvd_halfOne hsmall
  have hbelow := lt_mul_spacing format units
  by_contra hnear
  obtain ⟨distance, hdistance⟩ := Nat.exists_eq_add_of_le hhigh.le
  have hpos : 0 < distance := by omega
  rw [hdistance, Nat.add_sub_cancel_left] at hnear
  have hmany : twoPow format.precision * distance ≤ units + format.halfOne :=
    precision_mul_le hpos (Nat.le_of_not_lt hnear)
  have hgrid : format.spacing units ∣ distance := by
    have hnext : format.spacing units ∣ (n + 1) * format.one :=
      hone ▸ ((hhalf.mul_left 2).mul_left (n + 1))
    rw [hdistance] at hnext
    exact (Nat.dvd_add_right (hdvd.add hhalf)).mp hnext
  have hreach := Nat.mul_le_mul_left (twoPow format.precision) (Nat.le_of_dvd hpos hgrid)
  by_cases hcoarse : format.scale ≤ format.precision + format.spareBits units
  · -- The next number with more bits is an integer, and so not above the integer below the sum.
    have hinteger : format.one ∣ twoPow format.precision * format.spacing units := by
      rw [spacing, ← twoPow_add]
      exact Nat.pow_dvd_pow 2 hcoarse
    rcases hinteger with ⟨count, hcount⟩
    have hle : count * format.one ≤ n * format.one := by
      apply Nat.mul_le_mul_right
      by_contra habove
      have hproduct := Nat.mul_le_mul_left format.one (Nat.lt_of_not_le habove)
      rw [Nat.succ_eq_add_one, Nat.mul_comm _ (n + 1)] at hproduct
      omega
    rw [Nat.mul_comm, ← hcount] at hle
    have hnext : (n + 1) * format.one = n * format.one + format.one := Nat.succ_mul _ _
    have hrest : format.spacing units ≤ distance - format.halfOne :=
      Nat.le_of_dvd (by omega) (Nat.dvd_sub hgrid hhalf)
    have hproduct := Nat.mul_le_mul_left (twoPow format.precision)
      (show format.halfOne + format.spacing units ≤ distance by omega)
    rw [Nat.mul_add] at hproduct
    have hleast : format.halfOne ≤ twoPow format.precision * format.halfOne :=
      Nat.le_mul_of_pos_left _ (Nat.two_pow_pos _)
    omega
  · have hquotient : twoPow format.precision * format.spacing units ≤ format.halfOne := by
      rw [spacing, halfOne, ← twoPow_add]
      exact Nat.pow_le_pow_right (by decide) (by omega)
    have hzero : n = 0 := by
      by_contra hne
      have hproduct := Nat.mul_le_mul_right format.one (Nat.one_le_iff_ne_zero.mpr hne)
      omega
    subst hzero
    exact hgap (add_gap_eq_halfOne hprecision (by omega) hgrid hpos hquotient hmany)

/-- A sum with one half that is not an integer is not rounded to one either, unless the number is
the one before one half. -/
theorem round_add_halfOne_of_small (hprecision : 1 < format.precision) (hscale : 0 < format.scale)
    (hdvd : format.spacing units ∣ units)
    (hsmall : units < twoPow format.precision * format.halfOne)
    (hgap : units + format.halfGap ≠ format.halfOne)
    (hlow : n * format.one ≤ units + format.halfOne)
    (hhigh : units + format.halfOne < (n + 1) * format.one) :
    n * format.one ≤ format.round (units + format.halfOne) 1 ∧
      format.round (units + format.halfOne) 1 < (n + 1) * format.one := by
  have hspacing : format.spacing (units + format.halfOne) ∣ format.one := by
    apply Nat.pow_dvd_pow 2
    rw [spareBits_le_iff, twoPow_add]
    change units + format.halfOne < twoPow format.precision * format.one
    have hleast : format.halfOne ≤ twoPow format.precision * format.halfOne :=
      Nat.le_mul_of_pos_left _ (Nat.two_pow_pos _)
    rw [one_eq hscale, Nat.mul_left_comm]
    omega
  constructor
  · exact le_round_of_dvd (hspacing.mul_left n) hlow
  · exact round_lt_of_dvd (hspacing.mul_left (n + 1)) hhigh.le
      (spacing_lt_of_add_halfOne hprecision hscale hdvd hsmall hgap hlow hhigh)

/-! ## Large integers -/

/-- The numbers around a large integer are the integers, or all of them are even. -/
theorem spacing_of_large (hscale : 0 < format.scale)
    (hlarge : twoPow format.precision * format.halfOne ≤ units) :
    format.spacing units = format.one ∨ 2 * format.one ∣ format.spacing units := by
  rw [halfOne, ← twoPow_add] at hlarge
  have hspare := lt_spareBits_iff.mpr hlarge
  have hbits : format.scale ≤ format.spareBits units := by omega
  rcases Nat.eq_or_lt_of_le hbits with heq | hlt
  · left
    rw [spacing, ← heq, one]
  · right
    have hdouble : 2 * format.one = twoPow (1 + format.scale) := (twoPow_add 1 _).symm
    rw [hdouble, spacing]
    exact Nat.pow_dvd_pow 2 (by omega)

theorem even_of_dvd (hdvd : 2 * format.one ∣ k * format.one) : k % 2 = 0 :=
  Nat.mod_eq_zero_of_dvd (Nat.dvd_of_mul_dvd_mul_right (Nat.two_pow_pos _) hdvd)

/-- The sum of a large integer and one half is in the middle between two integers, or the format has
only even integers around it. -/
theorem round_add_halfOne_of_large (hscale : 0 < format.scale)
    (hdvd : format.spacing (k * format.one) ∣ k * format.one)
    (hlarge : twoPow format.precision * format.halfOne ≤ k * format.one) :
    format.round (k * format.one + format.halfOne) 1 =
      if k % 2 = 0 then k * format.one else (k + 1) * format.one := by
  have hone := one_eq hscale
  have hhalf : 0 < format.halfOne := Nat.two_pow_pos _
  have hspacing : format.spacing (k * format.one + format.halfOne) =
      format.spacing (k * format.one) := by
    have hunits := lt_mul_spacing format (k * format.one)
    have hinteger := (one_dvd_spacing hscale hlarge).mul_left (twoPow format.precision)
    rcases hinteger with ⟨count, hcount⟩
    rw [hcount, Nat.mul_comm] at hunits
    have hnext := Nat.mul_le_mul_left format.one (Nat.lt_of_mul_lt_mul_left hunits)
    rw [Nat.succ_eq_add_one, Nat.mul_succ, ← hcount, spacing, ← twoPow_add, Nat.mul_comm] at hnext
    unfold spacing
    congr 1
    apply le_antisymm
    · rw [spareBits_le_iff]
      omega
    · exact spareBits_mono (Nat.le_add_right _ _)
  rcases spacing_of_large hscale hlarge with hsame | hcoarse
  · have hround := round_of_remainder (hspacing.trans hsame) rfl
      (show format.halfOne < format.one by omega)
    rw [hround, if_neg (by omega), if_neg (by omega)]
    split <;> rfl
  · rw [if_pos (even_of_dvd (hcoarse.trans hdvd))]
    obtain ⟨quotient, hquotient⟩ := exists_eq_mul_left_of_dvd hdvd
    have hle := Nat.le_of_dvd spacing_pos hcoarse
    have hround := round_of_remainder hspacing (congrArg (· + format.halfOne) hquotient) (by omega)
    rw [hround, if_pos (by omega), ← hquotient]

/-- One half less than a large integer is in the middle between two integers, or it is a number of
the format, or the format has only even integers around it. -/
theorem round_sub_halfOne_of_large (hprecision : 1 < format.precision) (hscale : 0 < format.scale)
    (hdvd : format.spacing (k * format.one) ∣ k * format.one)
    (hlarge : twoPow format.precision * format.halfOne ≤ k * format.one) :
    (k % 2 = 1 → format.round (k * format.one - format.halfOne) 1 = (k - 1) * format.one) ∧
    (k % 2 = 0 → format.round (k * format.one - format.halfOne) 1 = k * format.one ∨
      format.round (k * format.one - format.halfOne) 1 = k * format.one - format.halfOne) := by
  have hone := one_eq hscale
  have hhalf : 0 < format.halfOne := Nat.two_pow_pos _
  have hleast : format.halfOne ≤ twoPow format.precision * format.halfOne :=
    Nat.le_mul_of_pos_left _ (Nat.two_pow_pos _)
  have hfiner : format.spacing (k * format.one - format.halfOne) ∣ k * format.one :=
    (Nat.pow_dvd_pow 2 (spareBits_mono (Nat.sub_le _ _))).trans hdvd
  by_cases hexact : k * format.one - format.halfOne < twoPow format.precision * format.halfOne
  · -- Only the least of the large integers is so near to the numbers with more bits.
    have hdouble : k * format.one = 2 * k * format.halfOne := by
      rw [hone, Nat.mul_left_comm, Nat.mul_assoc]
    rw [hdouble] at hlarge hexact
    have hlow := Nat.le_of_mul_le_mul_right hlarge hhalf
    have hhigh : 2 * k < twoPow format.precision + 1 := by
      apply Nat.lt_of_mul_lt_mul_right (a := format.halfOne)
      have hproduct : (twoPow format.precision + 1) * format.halfOne =
          twoPow format.precision * format.halfOne + format.halfOne := Nat.succ_mul _ _
      omega
    have hfour := four_dvd hprecision
    have heven : k % 2 = 0 := by omega
    refine ⟨fun hodd => absurd hodd (by omega), fun _ => .inr ?_⟩
    rw [← hdouble] at hexact
    exact round_of_dvd (Nat.dvd_sub hfiner (spacing_dvd_halfOne hexact))
  · rcases spacing_of_large hscale (Nat.le_of_not_lt hexact) with hsame | hcoarse
    · have hpos : 0 < k := Nat.pos_of_mul_pos_right (show 0 < k * format.one by omega)
      have hsplit : k * format.one - format.halfOne = (k - 1) * format.one + format.halfOne := by
        have hnext : k * format.one = (k - 1) * format.one + format.one := by
          rw [← Nat.succ_mul, Nat.succ_eq_add_one, Nat.sub_add_cancel hpos]
        omega
      have hround := round_of_remainder hsame hsplit (by omega)
      rw [hround, if_neg (by omega), if_neg (by omega)]
      constructor
      · intro hodd
        rw [if_pos (by omega)]
      · intro heven
        rw [if_neg (by omega), Nat.sub_add_cancel hpos]
        exact .inl rfl
    · have heven := even_of_dvd (hcoarse.trans hfiner)
      refine ⟨fun hodd => absurd hodd (by omega), fun _ => .inl ?_⟩
      obtain ⟨quotient, hquotient⟩ := exists_eq_mul_left_of_dvd hfiner
      have hle := Nat.le_of_dvd spacing_pos hcoarse
      have hpos : 0 < quotient := by
        by_contra hzero
        rw [Nat.eq_zero_of_not_pos hzero, Nat.zero_mul] at hquotient
        omega
      have hnext := Nat.succ_mul (quotient - 1)
        (format.spacing (k * format.one - format.halfOne))
      rw [Nat.succ_eq_add_one, Nat.sub_add_cancel hpos, ← hquotient] at hnext
      have hround := round_of_remainder rfl
        (show k * format.one - format.halfOne =
          (quotient - 1) * format.spacing (k * format.one - format.halfOne) +
            (format.spacing (k * format.one - format.halfOne) - format.halfOne) by omega)
        (by omega)
      rw [hround, if_neg (by omega), if_pos (by omega), Nat.sub_add_cancel hpos, ← hquotient]

end FloatFormat
end RecordExtraction
