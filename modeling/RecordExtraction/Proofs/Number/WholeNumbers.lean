import Mathlib
import RecordExtraction.Number.Decimal

/-!
# Whole numbers in a floating-point format

A natural number with no more bits than the precision of a format is a number of that format.
Rounding keeps it, and takes no other natural number to it: what has more bits is rounded to
something that has more bits as well.  So small numbers can be counted and compared without error,
whatever they are compared with.
-/

namespace RecordExtraction

variable {format : FloatFormat}

theorem twoPow_add (a b : Nat) : twoPow (a + b) = twoPow a * twoPow b :=
  Nat.pow_add 2 a b

/-! ## Rounding -/

namespace FloatFormat

theorem div_le_roundHalfEven (num den : Nat) : num / den ≤ roundHalfEven num den := by
  unfold roundHalfEven
  dsimp only
  split_ifs <;> omega

theorem roundHalfEven_of_dvd {num den : Nat} (hden : 0 < den) (hdvd : den ∣ num) :
    roundHalfEven num den = num / den := by
  have hremainder : num % den = 0 := Nat.mod_eq_zero_of_dvd hdvd
  unfold roundHalfEven
  rw [hremainder]
  exact if_pos hden

theorem round_of_dvd {units : Nat} (hdvd : twoPow (format.spareBits units) ∣ units) :
    format.round units 1 = units := by
  have hpos : 0 < twoPow (format.spareBits units) := Nat.two_pow_pos _
  unfold round
  dsimp only
  rw [Nat.div_one, Nat.one_mul, roundHalfEven_of_dvd hpos hdvd]
  exact Nat.div_mul_cancel hdvd

/-- Rounding keeps the leading bit at least. -/
theorem twoPow_log2_le_round {units : Nat} (hunits : units ≠ 0) :
    twoPow units.log2 ≤ format.round units 1 := by
  have hprecision := format.precision_pos
  have hspare : format.spareBits units ≤ units.log2 := by
    unfold spareBits
    omega
  have hsplit : twoPow units.log2 =
      twoPow (units.log2 - format.spareBits units) * twoPow (format.spareBits units) := by
    rw [← twoPow_add, Nat.sub_add_cancel hspare]
  have hleading : twoPow (units.log2 - format.spareBits units) ≤
      units / twoPow (format.spareBits units) := by
    apply (Nat.le_div_iff_mul_le (Nat.two_pow_pos _)).mpr
    exact hsplit.symm.le.trans (Nat.log2_self_le hunits)
  unfold round
  dsimp only
  rw [Nat.div_one, Nat.one_mul, hsplit]
  exact Nat.mul_le_mul_right _ (hleading.trans (div_le_roundHalfEven _ _))

theorem twoPow_le_round {bits units : Nat} (hbits : twoPow bits ≤ units) :
    twoPow bits ≤ format.round units 1 := by
  have hpos : 0 < twoPow bits := Nat.two_pow_pos _
  have hunits : units ≠ 0 := by omega
  have hlog : bits ≤ units.log2 := (Nat.le_log2 hunits).mpr hbits
  exact (Nat.pow_le_pow_right (by decide) hlog).trans (twoPow_log2_le_round hunits)

/-- The format can hold every magnitude that has no more bits than its precision, apart from zeros
at its end. -/
theorem representable_mul_twoPow {n bits : Nat}
    (hfits : format.precision + bits ≤ format.limitBits)
    (hn : n < twoPow format.precision) :
    format.Representable (n * twoPow bits) := by
  have hbound : n * twoPow bits < twoPow (format.precision + bits) := by
    rw [twoPow_add]
    exact Nat.mul_lt_mul_of_pos_right hn (Nat.two_pow_pos _)
  refine ⟨?_, hbound.trans_le (Nat.pow_le_pow_right (by decide) hfits)⟩
  by_cases hzero : n * twoPow bits = 0
  · rw [hzero]
    exact Nat.dvd_zero _
  · have hlog : (n * twoPow bits).log2 < format.precision + bits :=
      (Nat.log2_lt hzero).mpr hbound
    have hspare : format.spareBits (n * twoPow bits) ≤ bits := by
      unfold spareBits
      omega
    exact (Nat.pow_dvd_pow 2 hspare).trans (Nat.dvd_mul_left _ n)

theorem representable_of_lt {n : Nat}
    (hfits : format.precision + format.scale ≤ format.limitBits)
    (hn : n < twoPow format.precision) :
    format.Representable (n * format.one) :=
  representable_mul_twoPow hfits hn

end FloatFormat

/-! ## Comparing -/

namespace Number

theorem ofRatio_of_representable {units : Nat} (negative : Bool)
    (h : format.Representable units) :
    ofRatio negative units 1 = .finite negative units h := by
  have hround := FloatFormat.round_of_dvd h.1
  unfold ofRatio
  simp only [hround, h.2, dif_pos]

theorem compare?_swap (x y : Number format) :
    y.compare? x = (x.compare? y).map Ordering.swap := by
  cases x with
  | nan => cases y <;> rfl
  | infinite a =>
      cases y with
      | nan => rfl
      | infinite b => cases a <;> cases b <;> rfl
      | finite b v hv => cases a <;> rfl
  | finite a u hu =>
      cases y with
      | nan => rfl
      | infinite b => cases b <;> rfl
      | finite b v hv =>
          have hswap : compare (signed b v) (signed a u) =
              (compare (signed a u) (signed b v)).swap :=
            Std.OrientedCmp.eq_swap
          simp only [compare?, hswap, Option.map_some]

theorem equal_comm (x y : Number format) : x.equal y = y.equal x := by
  unfold equal
  rw [compare?_swap x y]
  cases x.compare? y with
  | none => rfl
  | some order => cases order <;> rfl

theorem equal_finite {a b : Bool} {u v : Nat} {hu : format.Representable u}
    {hv : format.Representable v} :
    (Number.finite a u hu).equal (.finite b v hv) = decide (signed a u = signed b v) := by
  simp only [equal, compare?, beq_eq_decide, Option.some.injEq, Std.compare_eq_iff_eq]

section

variable {k n : Nat} (hfits : format.precision + format.scale ≤ format.limitBits)
include hfits

theorem ofNat_of_lt (hn : n < twoPow format.precision) :
    (ofNat n : Number format) =
      .finite false (n * format.one) (FloatFormat.representable_of_lt hfits hn) :=
  ofRatio_of_representable false _

/-- A natural number that the format can hold is equal to the nearest number of another natural
number only if the two are the same. -/
theorem ofNat_equal_ofNat (hn : n < twoPow format.precision) :
    (ofNat k : Number format).equal (ofNat n) = decide (k = n) := by
  have hone : 0 < format.one := Nat.two_pow_pos _
  rw [ofNat_of_lt hfits hn]
  by_cases hk : k < twoPow format.precision
  · rw [ofNat_of_lt hfits hk, equal_finite]
    simp only [signed, Bool.false_eq_true, if_false, Nat.cast_inj, Nat.mul_left_inj hone.ne']
  · -- The other number has more bits, and keeps them when it is rounded.
    have hne : k ≠ n := by omega
    have hsmall : n * format.one < twoPow (format.precision + format.scale) := by
      rw [twoPow_add]
      exact Nat.mul_lt_mul_of_pos_right hn hone
    have hbig : twoPow (format.precision + format.scale) ≤ k * format.one := by
      rw [twoPow_add]
      exact Nat.mul_le_mul_right _ (Nat.le_of_not_lt hk)
    have hround : twoPow (format.precision + format.scale) ≤ format.round (k * format.one) 1 :=
      FloatFormat.twoPow_le_round hbig
    simp only [hne, decide_false]
    unfold ofNat ofRatio
    split
    · rw [equal_finite]
      simp only [signed, Bool.false_eq_true, if_false, Nat.cast_inj, decide_eq_false_iff_not]
      omega
    · rfl

end

end Number

/-! ## Reading -/

theorem digitsValue_toDigits (n : Nat) : digitsValue (Nat.toDigits 10 n) = n := by
  have hvalue : digitsValue (Nat.toDigits 10 n) = Nat.ofDigitChars 10 (Nat.toDigits 10 n) 0 := by
    simp only [digitsValue, Nat.ofDigitChars_eq_foldl, Nat.mul_comm]
  rw [hvalue, Nat.ofDigitChars_ten_toDigits]

namespace Decimal

/-- The digits of a natural number are taken to the number nearest to it, or to infinity if there
are very many of them. -/
theorem toNumber_natural {n : Nat} (hn : 0 < n) :
    (toNumber false ⟨n, 0⟩ : Number format) =
      if extremeOrder < length n then .infinite false else .ofNat n := by
  unfold toNumber
  dsimp only
  rw [if_neg hn.ne', Int.add_zero]
  by_cases hmany : extremeOrder < length n
  · rw [if_pos hmany, if_pos (by exact_mod_cast hmany)]
  · have hnotHuge : ¬(length n : Int) > extremeOrder := by exact_mod_cast hmany
    have hnotTiny : ¬(length n : Int) < -(extremeOrder : Int) := by omega
    rw [if_neg hmany, if_neg hnotHuge, if_neg hnotTiny]
    show Number.ofRatio false (n * tenPow 0 * format.one) (tenPow 0) = Number.ofNat n
    have hone : tenPow 0 = 1 := rfl
    rw [hone, Nat.mul_one]
    rfl

theorem toNumber_equal_ofNat {k n : Nat} (hk : 0 < k) (hn : n < 2 ^ 53) :
    (toNumber false ⟨k, 0⟩ : Double).equal (.ofNat n) = decide (k = n) := by
  have hfits : FloatFormat.binary64.precision + FloatFormat.binary64.scale ≤
      FloatFormat.binary64.limitBits := by decide
  rw [toNumber_natural hk]
  split
  · next hmany =>
      have hlarge : 10 ^ 16 ≤ k := by
        by_contra hsmall
        have hfew : length k ≤ 16 :=
          (Nat.length_toDigits_le_iff (by decide) (by decide)).mpr (Nat.lt_of_not_le hsmall)
        unfold extremeOrder at hmany
        omega
      have hne : k ≠ n := by omega
      rw [Number.ofNat_of_lt hfits hn, decide_eq_false hne]
      rfl
  · exact Number.ofNat_equal_ofNat hfits hn

end Decimal

end RecordExtraction
