import Mathlib
import RecordExtraction.Proofs.Number.WholeNumbers

/-!
# Integers in a floating-point format

A finite number is an integer number of units, and an integer is a number of units as well.  Sums
that the format can hold are sums of these integers, floors leave the integer part, and comparisons
are those of the integers, also with natural numbers that the format has to round.
-/

namespace RecordExtraction
namespace Number

variable {format : FloatFormat} {x y : Number format} {u v m n : Int}

/-- The number of units that a finite number is, with its sign. -/
def units? : Number format → Option Int
  | .finite negative units _ => some (signed negative units)
  | _ => none

/-- The number is the integer. -/
def Denotes (x : Number format) (n : Int) : Prop := x.units? = some (n * format.one)

instance (x : Number format) (n : Int) : Decidable (x.Denotes n) :=
  inferInstanceAs (Decidable (_ = _))

theorem exists_of_units? (hx : x.units? = some u) :
    ∃ negative magnitude h, x = .finite negative magnitude h ∧ signed negative magnitude = u := by
  cases x with
  | nan => cases hx
  | infinite negative => cases hx
  | finite negative magnitude h => exact ⟨negative, magnitude, h, rfl, Option.some.inj hx⟩

theorem isFinite_of_units? (hx : x.units? = some u) : x.isFinite = true := by
  rcases exists_of_units? hx with ⟨negative, magnitude, h, rfl, -⟩
  rfl

/-! ## Arithmetic -/

theorem units?_neg (hx : x.units? = some u) : x.neg.units? = some (-u) := by
  rcases exists_of_units? hx with ⟨negative, magnitude, h, rfl, rfl⟩
  cases negative <;> simp [neg, units?, signed]

theorem units?_ofRatio {negative : Bool} {magnitude : Nat}
    (hrepresentable : format.Representable magnitude) :
    (ofRatio negative magnitude 1 : Number format).units? = some (signed negative magnitude) := by
  rw [ofRatio_of_representable negative hrepresentable]
  rfl

theorem units?_ofUnits (hrepresentable : format.Representable u.natAbs) :
    (ofUnits u : Number format).units? = some u := by
  unfold ofUnits
  rw [units?_ofRatio hrepresentable, Option.some.injEq]
  by_cases hu : u < 0
  · simp only [signed, hu, decide_true, if_true]
    omega
  · simp only [signed, hu, decide_false, Bool.false_eq_true, if_false]
    omega

theorem units?_add (hx : x.units? = some u) (hy : y.units? = some v)
    (hrepresentable : format.Representable (u + v).natAbs) : (x.add y).units? = some (u + v) := by
  rcases exists_of_units? hx with ⟨a, xUnits, hxUnits, rfl, rfl⟩
  rcases exists_of_units? hy with ⟨b, yUnits, hyUnits, rfl, rfl⟩
  unfold add
  dsimp only
  split
  · next hzero =>
      rw [hzero]
      cases a && b <;> rfl
  · exact units?_ofUnits hrepresentable

/-- A number between an integer and the next one has the integer as its floor. -/
theorem denotes_floor (hx : x.units? = some (n * format.one + u)) (hlow : 0 ≤ u)
    (hhigh : u < format.one) (hrepresentable : format.Representable (n.natAbs * format.one)) :
    x.floor.Denotes n := by
  rcases exists_of_units? hx with ⟨negative, magnitude, h, rfl, hunits⟩
  have hnext : (n.natAbs + 1) * format.one = n.natAbs * format.one + format.one :=
    Nat.succ_mul _ _
  unfold floor Denotes
  dsimp only
  cases negative with
  | true =>
      have hunits : -(magnitude : Int) = n * format.one + u := hunits
      have hsign : n ≤ 0 := by
        by_contra hpositive
        have hleast : 1 * (format.one : Int) ≤ n * format.one :=
          mul_le_mul_of_nonneg_right (by omega) (by omega)
        omega
      have hproduct : n * format.one = -((n.natAbs * format.one : Nat) : Int) := by
        rw [Nat.cast_mul, ← neg_mul]
        congr 1
        omega
      have hwhole : (magnitude + format.one - 1) / format.one = n.natAbs :=
        Nat.div_eq_of_lt_le (by omega) (by omega)
      simp only [if_true, hwhole]
      rw [units?_ofRatio hrepresentable, hproduct]
      rfl
  | false =>
      have hunits : (magnitude : Int) = n * format.one + u := hunits
      have hsign : 0 ≤ n := by
        by_contra hnegative
        have hgreatest : n * (format.one : Int) ≤ -1 * format.one :=
          mul_le_mul_of_nonneg_right (by omega) (by omega)
        omega
      have hproduct : n * format.one = ((n.natAbs * format.one : Nat) : Int) := by
        rw [Nat.cast_mul]
        congr 1
        omega
      have hwhole : magnitude / format.one = n.natAbs :=
        Nat.div_eq_of_lt_le (by omega) (by omega)
      simp only [Bool.false_eq_true, if_false, hwhole]
      rw [units?_ofRatio hrepresentable, hproduct]
      rfl

/-! ## Comparing -/

theorem compare?_of_units? (hx : x.units? = some u) (hy : y.units? = some v) :
    x.compare? y = some (compare u v) := by
  rcases exists_of_units? hx with ⟨a, xUnits, hxUnits, rfl, rfl⟩
  rcases exists_of_units? hy with ⟨b, yUnits, hyUnits, rfl, rfl⟩
  rfl

theorem less_of_units? (hx : x.units? = some u) (hy : y.units? = some v) :
    x.less y = decide (u < v) := by
  unfold less
  rw [compare?_of_units? hx hy, Bool.eq_iff_iff, beq_iff_eq, Option.some.injEq,
    Std.compare_eq_lt, decide_eq_true_iff]

theorem equal_of_units? (hx : x.units? = some u) (hy : y.units? = some v) :
    x.equal y = decide (u = v) := by
  unfold equal
  rw [compare?_of_units? hx hy, Bool.eq_iff_iff, beq_iff_eq, Option.some.injEq,
    Std.compare_eq_iff_eq, decide_eq_true_iff]

theorem lessOrEqual_of_units? (hx : x.units? = some u) (hy : y.units? = some v) :
    x.lessOrEqual y = decide (u ≤ v) := by
  unfold lessOrEqual
  rw [less_of_units? hx hy, equal_of_units? hx hy, ← Bool.decide_or, decide_eq_decide]
  exact le_iff_lt_or_eq.symm

/-! ## Comparing with natural numbers -/

section

variable {k : Nat}

theorem denotes_ofNat (hfits : format.precision + format.scale ≤ format.limitBits)
    (hk : k < twoPow format.precision) :
    (ofNat k : Number format).Denotes k := by
  rw [Denotes, ofNat_of_lt hfits hk, ← Nat.cast_mul]
  rfl

theorem Denotes.add (hx : x.Denotes m) (hy : y.Denotes n)
    (hfits : format.precision + format.scale ≤ format.limitBits)
    (hsum : (m + n).natAbs < twoPow format.precision) : (x.add y).Denotes (m + n) := by
  have hunits : m * (format.one : Int) + n * format.one = (m + n) * format.one :=
    (add_mul m n _).symm
  have hadded := units?_add hx hy
  rw [hunits, Int.natAbs_mul, Int.natAbs_natCast] at hadded
  exact hadded (FloatFormat.representable_of_lt hfits hsum)

/-- A natural number with more bits than the precision is rounded, but not below the numbers with
fewer bits. -/
theorem ofNat_of_le (hk : twoPow format.precision ≤ k) :
    (ofNat k : Number format) = .infinite false ∨
      ∃ u, (ofNat k : Number format).units? = some u ∧
        (twoPow format.precision : Int) * format.one ≤ u := by
  unfold ofNat ofRatio
  split
  · refine .inr ⟨_, rfl, ?_⟩
    have hbits : twoPow (format.precision + format.scale) ≤ k * format.one := by
      rw [twoPow_add]
      exact Nat.mul_le_mul_right _ hk
    have hround : twoPow format.precision * format.one ≤ format.round (k * format.one) 1 := by
      rw [FloatFormat.one, ← twoPow_add]
      exact FloatFormat.twoPow_le_round hbits
    rw [← Nat.cast_mul]
    exact Int.ofNat_le.mpr hround
  · exact .inl rfl

variable (hfits : format.precision + format.scale ≤ format.limitBits) (hx : x.Denotes m)
  (hm : m < twoPow format.precision)
include hfits hx hm

theorem Denotes.compare?_ofNat : x.compare? (ofNat k) = some (compare m k) := by
  have hone : (0 : Int) < format.one := Int.natCast_pos.mpr (Nat.two_pow_pos _)
  by_cases hk : k < twoPow format.precision
  · rw [compare?_of_units? hx (denotes_ofNat hfits hk), Option.some.injEq]
    have hlt : m * (format.one : Int) < k * format.one ↔ m < k := Int.mul_lt_mul_right hone
    have heq : m * (format.one : Int) = k * format.one ↔ m = k := Int.mul_eq_mul_right_iff hone.ne'
    simp only [compare, compareOfLessAndEq, hlt, heq]
  · have hless : m < k := by omega
    rw [Std.compare_eq_lt.mpr hless]
    rcases @ofNat_of_le format k (Nat.le_of_not_lt hk) with hbeyond | ⟨u, hu, hlarge⟩
    · rcases exists_of_units? hx with ⟨negative, magnitude, h, rfl, -⟩
      rw [hbeyond]
      rfl
    · have hproduct := Int.mul_lt_mul_of_pos_right hm hone
      rw [compare?_of_units? hx hu, Option.some.injEq, Std.compare_eq_lt]
      omega

theorem Denotes.lessOrEqual_ofNat : x.lessOrEqual (ofNat k) = decide (m ≤ k) := by
  unfold lessOrEqual less equal
  rw [hx.compare?_ofNat hfits hm, Bool.eq_iff_iff, Bool.or_eq_true, beq_iff_eq, beq_iff_eq,
    Option.some.injEq, Option.some.injEq, Std.compare_eq_lt, Std.compare_eq_iff_eq,
    decide_eq_true_iff]
  exact le_iff_lt_or_eq.symm

theorem Denotes.ofNat_less : (ofNat k).less x = decide (k < m) := by
  unfold less
  rw [compare?_swap x, hx.compare?_ofNat hfits hm, Bool.eq_iff_iff, Option.map_some, beq_iff_eq,
    Option.some.injEq, Ordering.swap_eq_lt, Std.compare_eq_gt, decide_eq_true_iff]

end

end Number
end RecordExtraction
