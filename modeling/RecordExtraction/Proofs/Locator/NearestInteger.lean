import Mathlib
import RecordExtraction.Proofs.Locator.HalfFloors
import RecordExtraction.Proofs.Locator.Substrings

/-!
# The nearest integer

Rounding adds one half and takes the floor, which is the nearest integer as long as the rounded sum
stays between the same integers as the exact one.  So the number before one half is rounded to one,
an odd integer of full precision to the next integer, and every other number to the integer closest
to it.
-/

namespace RecordExtraction

/-! ## Closest integers -/

/-- No integer is closer to the number, and no greater one is as close. -/
structure ClosestInteger (q : Rat) (m : Int) : Prop where
  nearest : ∀ k : Int, |q - m| ≤ |q - k|
  greatest : ∀ k : Int, |q - k| = |q - m| → k ≤ m

theorem closestInteger_of_between {q : Rat} {m : Int} (hlow : m ≤ q + 1 / 2)
    (hhigh : q + 1 / 2 < m + 1) : ClosestInteger q m := by
  have hbound : |q - m| ≤ 1 / 2 := abs_le.mpr ⟨by linarith, by linarith⟩
  have hbelow : ∀ k : Int, k < m → |q - m| ≤ |q - k| := by
    intro k hk
    have hgap : (k : Rat) + 1 ≤ m := by exact_mod_cast hk
    exact hbound.trans (le_abs.mpr (.inl (by linarith)))
  have habove : ∀ k : Int, m < k → |q - m| < |q - k| := by
    intro k hk
    have hgap : (m : Rat) + 1 ≤ k := by exact_mod_cast hk
    exact hbound.trans_lt (lt_abs.mpr (.inr (by linarith)))
  constructor
  · intro k
    rcases lt_trichotomy k m with hk | rfl | hk
    · exact hbelow k hk
    · exact le_rfl
    · exact (habove k hk).le
  · intro k hsame
    by_contra hk
    exact (habove k (lt_of_not_ge hk)).ne hsame.symm

theorem ClosestInteger.unique {q : Rat} {m n : Int} (hm : ClosestInteger q m)
    (hn : ClosestInteger q n) : m = n := by
  have hsame : |q - m| = |q - n| := le_antisymm (hm.nearest n) (hn.nearest m)
  exact le_antisymm (hn.greatest m hsame) (hm.greatest n hsame.symm)

theorem closestInteger_self (k : Int) : ClosestInteger k k :=
  closestInteger_of_between (by linarith) (by linarith)

/-! ## Values -/

namespace FloatFormat

variable {format : FloatFormat} {u m k : Int}

theorem one_ne_zero (format : FloatFormat) : (format.one : Rat) ≠ 0 :=
  Nat.cast_ne_zero.mpr (Nat.two_pow_pos _).ne'

theorem div_one_eq_iff : (u : Rat) / format.one = k ↔ u = k * format.one := by
  rw [div_eq_iff (one_ne_zero format)]
  norm_cast

theorem halfOne_div_one (hscale : 0 < format.scale) :
    (format.halfOne : Rat) / format.one = 1 / 2 := by
  have hone : (format.one : Rat) = 2 * format.halfOne := by exact_mod_cast one_eq hscale
  rw [div_eq_div_iff (one_ne_zero format) two_ne_zero, hone]
  ring

theorem div_one_add_half (hscale : 0 < format.scale) :
    (u : Rat) / format.one + 1 / 2 = ((u + format.halfOne : Int) : Rat) / format.one := by
  rw [← halfOne_div_one hscale, Int.cast_add, Int.cast_natCast, add_div]

theorem halfGap_div_one (hscale : format.precision < format.scale) :
    (format.halfGap : Rat) / format.one = 1 / 2 ^ (format.precision + 1) := by
  have hparts : format.halfGap * 2 ^ (format.precision + 1) = format.one := by
    rw [one_eq (by omega), halfOne_eq_mul_halfGap hscale, pow_succ, ← Nat.mul_assoc, Nat.mul_comm,
      Nat.mul_comm format.halfGap]
    rfl
  rw [div_eq_div_iff (one_ne_zero format) (by positivity), one_mul]
  exact_mod_cast hparts

/-- The number before one half as a fraction. -/
theorem div_one_eq_iff_add_halfGap (hscale : format.precision < format.scale) :
    (u : Rat) / format.one = 1 / 2 - 1 / 2 ^ (format.precision + 1) ↔
      u + format.halfGap = format.halfOne := by
  rw [← halfGap_div_one hscale, ← halfOne_div_one (Nat.zero_lt_of_lt hscale), eq_sub_iff_add_eq,
    ← add_div, div_left_inj' (one_ne_zero format)]
  norm_cast

theorem closestInteger_div_one (hscale : 0 < format.scale)
    (hlow : m * format.one ≤ u + format.halfOne)
    (hhigh : u + format.halfOne < (m + 1) * format.one) : ClosestInteger (u / format.one) m := by
  have hpos : (0 : Rat) < format.one := Nat.cast_pos.mpr (Nat.two_pow_pos _)
  apply closestInteger_of_between
  · rw [div_one_add_half hscale, le_div_iff₀ hpos]
    exact_mod_cast hlow
  · rw [div_one_add_half hscale, div_lt_iff₀ hpos]
    exact_mod_cast hhigh

/-! ## Rounded numbers -/

section

variable (hscale : format.precision < format.scale)
include hscale

theorem RoundsTo.eq_one (hrounds : format.RoundsTo u m)
    (hgap : u + format.halfGap = format.halfOne) : m = 1 := by
  cases hrounds with
  | belowHalf => rfl
  | @oddInteger k hu => exact absurd (hu ▸ hgap) (mul_one_add_halfGap_ne hscale k)
  | closest hne => exact absurd hgap hne

theorem RoundsTo.closestInteger_iff (hrounds : format.RoundsTo u m) :
    ClosestInteger (u / format.one) m ↔ u + format.halfGap ≠ format.halfOne ∧
      ∀ k : Int, u = k * format.one → k % 2 = 1 → 2 * k.natAbs ≤ twoPow format.precision := by
  cases hrounds with
  | belowHalf hgap =>
      have hone : format.one = 2 * format.halfOne := one_eq (by omega)
      have hpos : 0 < format.halfGap := Nat.two_pow_pos _
      have hless := halfGap_lt_halfOne hscale
      have hzero : ClosestInteger (u / format.one) 0 :=
        closestInteger_div_one (by omega) (by omega) (by omega)
      constructor
      · intro hclosest
        have hsame := hclosest.unique hzero
        omega
      · exact fun hnot => absurd hgap hnot.1
  | @oddInteger k hu hodd hlarge =>
      rw [div_one_eq_iff.mpr hu]
      constructor
      · intro hclosest
        have hsame := hclosest.unique (closestInteger_self k)
        omega
      · exact fun hnot => absurd (hnot.2 k hu hodd) (by omega)
  | closest hgap hsmall hlow hhigh =>
      exact ⟨fun _ => ⟨hgap, hsmall⟩, fun _ => closestInteger_div_one (by omega) hlow hhigh⟩

/-- Integers are rounded to themselves, unless they are odd and of full precision. -/
theorem RoundsTo.eq_of_integer (hrounds : format.RoundsTo (k * format.one) m) :
    m = if k % 2 = 1 ∧ twoPow format.precision < 2 * k.natAbs then k + 1 else k := by
  have hone : (0 : Int) < format.one := Int.natCast_pos.mpr (Nat.two_pow_pos _)
  by_cases hcase : k % 2 = 1 ∧ twoPow format.precision < 2 * k.natAbs
  · rw [if_pos hcase]
    cases hrounds with
    | belowHalf hgap => exact absurd hgap (mul_one_add_halfGap_ne hscale k)
    | @oddInteger other hu => rw [(Int.mul_eq_mul_right_iff hone.ne').mp hu]
    | closest _ hsmall => exact absurd (hsmall k rfl hcase.1) (by omega)
  · rw [if_neg hcase]
    have hclosest : ClosestInteger (((k * format.one : Int) : Rat) / format.one) m := by
      refine (hrounds.closestInteger_iff hscale).mpr ⟨mul_one_add_halfGap_ne hscale k, ?_⟩
      intro other hother hodd
      have hsame : k = other := (Int.mul_eq_mul_right_iff hone.ne').mp hother
      omega
    rw [div_one_eq_iff.mpr rfl] at hclosest
    exact hclosest.unique (closestInteger_self k)

end

end FloatFormat

namespace Number

variable {format : FloatFormat} {x : Number format} {m : Int} {q : Rat}

/-- The rational number that a finite number is. -/
def value? (x : Number format) : Option Rat :=
  x.units?.map fun units : Int => (units : Rat) / format.one

theorem exists_of_value? (hx : x.value? = some q) :
    ∃ u : Int, x.units? = some u ∧ (u : Rat) / format.one = q :=
  Option.map_eq_some_iff.mp hx

theorem Denotes.value? (hx : x.Denotes m) : x.value? = some (m : Rat) := by
  unfold Number.value?
  rw [hx, Option.map_some, FloatFormat.div_one_eq_iff.mpr rfl]

end Number

namespace Locator

open Number FloatFormat Markup

variable {x : Double} {u : Int}

theorem units?_zero : (0 : Double).units? = some 0 := by
  have hzero : (0 : Double).Denotes 0 := denotes_ofNat fits_binary64 (Nat.two_pow_pos _)
  rwa [Denotes, Int.zero_mul] at hzero

theorem isSmallNegative_eq (hx : x.units? = some u) :
    isSmallNegative x = decide (-(binary64.halfOne : Int) ≤ u ∧ u < 0) := by
  unfold isSmallNegative
  rw [lessOrEqual_of_units? (units?_neg units?_half) hx, less_of_units? hx units?_zero,
    Bool.decide_and]

theorem roundHalfUp_roundsTo (hx : x.units? = some u) :
    ∃ m, (roundHalfUp x).Denotes m ∧ binary64.RoundsTo u m := by
  unfold roundHalfUp
  rw [isSmallNegative_eq hx, isFinite_of_units? hx]
  by_cases hsmall : -(binary64.halfOne : Int) ≤ u ∧ u < 0
  · rw [decide_eq_true hsmall, if_pos rfl]
    exact ⟨0, by decide +kernel, roundsTo_zero (by decide) hsmall.1 hsmall.2⟩
  · rw [decide_eq_false hsmall, if_neg Bool.false_ne_true, if_pos rfl]
    exact floor_add_half units?_half (by decide) (by decide) (by decide) hx hsmall

/-- Odd integers that need all bits of the precision. -/
theorem odd_of_fullPrecision_iff {k : Int} :
    k % 2 = 1 ∧ twoPow binary64.precision < 2 * k.natAbs ↔ Odd k ∧ 2 ^ 52 < |k| := by
  have hbits : twoPow binary64.precision = 2 ^ 53 := rfl
  rw [hbits, Int.odd_iff, Int.abs_eq_natAbs]
  omega

/-- Rounding a finite number gives the integer closest to it, the greater one of two, except that
the number before one half becomes one and an odd integer of full precision the next integer: there
the sum with one half has no place among the numbers and is rounded up before its floor is taken. -/
theorem round_gives_closest_integer_unless_sum_rounds_up {n : Double} {q : Rat}
    (hn : n.value? = some q) :
    ∃ m : Int, (roundHalfUp n).value? = some (m : Rat) ∧
      (∀ (document : Document) (context : Context) (x : Expr) (value : Value),
        x.eval document context = .ok value → value.toNumber document = n →
          (Expr.call .round [x]).eval document context = .ok (.number (roundHalfUp n))) ∧
      (ClosestInteger q m ↔
        q ≠ 1 / 2 - 1 / 2 ^ 54 ∧ ∀ k : Int, q = k → ¬(Odd k ∧ 2 ^ 52 < |k|)) ∧
      (q = 1 / 2 - 1 / 2 ^ 54 → m = 1) ∧
      ∀ k : Int, q = k → m = if Odd k ∧ 2 ^ 52 < |k| then k + 1 else k := by
  rcases exists_of_value? hn with ⟨u, hu, rfl⟩
  rcases roundHalfUp_roundsTo hu with ⟨m, hm, hrounds⟩
  have hscale : binary64.precision < binary64.scale := by decide
  have hgap : (u : Rat) / binary64.one = 1 / 2 - 1 / 2 ^ 54 ↔
      u + binary64.halfGap = binary64.halfOne := div_one_eq_iff_add_halfGap hscale
  refine ⟨m, hm.value?, ?_, ?_, ?_, ?_⟩
  · rintro document context x value hvalue rfl
    rw [Expr.eval_call .round (.cons hvalue .nil)]
    rfl
  · simp only [hrounds.closestInteger_iff hscale, ← odd_of_fullPrecision_iff, ne_eq, hgap,
      div_one_eq_iff, not_and, not_lt]
  · exact fun hbelow => hrounds.eq_one hscale (hgap.mp hbelow)
  · intro k hk
    rw [div_one_eq_iff.mp hk] at hrounds
    simp only [← odd_of_fullPrecision_iff]
    exact hrounds.eq_of_integer hscale

/-- Two and a half. -/
def twoAndHalf : Double := (Number.ofNat 2).add half

theorem round_gives_closest_integer_to_twoAndHalf :
    twoAndHalf.value? = some (5 / 2) ∧
    (Expr.call .round [.number twoAndHalf]).eval overlappingDocument rootContext =
      .ok (.number (.ofNat 3)) ∧
    ClosestInteger (5 / 2) 3 := by
  have hvalue : twoAndHalf.value? = some (5 / 2) := by decide +kernel
  have hround : roundHalfUp twoAndHalf = .ofNat 3 := by decide +kernel
  rcases round_gives_closest_integer_unless_sum_rounds_up hvalue with
    ⟨m, hm, hcall, hclosest, -, -⟩
  have hthree : (Number.ofNat 3 : Double).Denotes 3 := by decide +kernel
  rw [hround, hthree.value?, Option.some.injEq, Int.cast_inj] at hm
  subst hm
  refine ⟨hvalue, ?_, hclosest.mpr ⟨by norm_num, ?_⟩⟩
  · rw [← hround]
    exact hcall overlappingDocument rootContext (.number twoAndHalf) (.number twoAndHalf) rfl rfl
  · intro k hk
    have hdouble : (5 : Rat) = 2 * k := by linarith
    have hinteger : (5 : Int) = 2 * k := by exact_mod_cast hdouble
    omega

/-- The least odd integer of full precision. -/
def oddInteger : Double := .ofNat 4503599627370497

/-- The number before one half. -/
def belowHalf : Double := half.sub (.ofRatio false binary64.halfGap 1)

theorem round_misses_closest_integer :
    (oddInteger.value? = some 4503599627370497 ∧
      (Expr.call .round [.number oddInteger]).eval overlappingDocument rootContext =
        .ok (.number (.ofNat 4503599627370498)) ∧
      ¬ClosestInteger 4503599627370497 4503599627370498) ∧
    belowHalf.value? = some (1 / 2 - 1 / 2 ^ 54) ∧
      (Expr.call .round [.number belowHalf]).eval overlappingDocument rootContext =
        .ok (.number (.ofNat 1)) ∧
      ¬ClosestInteger (1 / 2 - 1 / 2 ^ 54) 1 := by
  refine ⟨⟨by decide +kernel, by decide +kernel, ?_⟩, by decide +kernel, by decide +kernel, ?_⟩
  · intro hclosest
    have hnearest := hclosest.nearest 4503599627370497
    norm_num at hnearest
  · intro hclosest
    have hnearest := hclosest.nearest 0
    norm_num at hnearest

end Locator
end RecordExtraction
