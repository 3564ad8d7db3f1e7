import Mathlib
import RecordExtraction.Proofs.Locator.HalfSums

/-!
# Floors of sums with one half

The rounded sum of a number and one half stays between the same integers as the exact sum.  The
exceptions are the number before one half, whose sum becomes one, and the odd integers of full
precision, whose sums become the next integer.
-/

namespace RecordExtraction

namespace FloatFormat

variable {format : FloatFormat} {units a k : Nat} {u : Int}

/-- The integer that the rounded sum with one half leaves of a number of units.  It is the floor of
the exact sum in all cases but two. -/
inductive RoundsTo (format : FloatFormat) (u : Int) : Int → Prop
  | belowHalf (hgap : u + format.halfGap = format.halfOne) : RoundsTo format u 1
  | oddInteger {k : Int} (hu : u = k * format.one) (hodd : k % 2 = 1)
      (hlarge : twoPow format.precision < 2 * k.natAbs) : RoundsTo format u (k + 1)
  | closest {m : Int} (hgap : u + format.halfGap ≠ format.halfOne)
      (hsmall : ∀ k : Int, u = k * format.one → k % 2 = 1 →
        2 * k.natAbs ≤ twoPow format.precision)
      (hlow : m * format.one ≤ u + format.halfOne)
      (hhigh : u + format.halfOne < (m + 1) * format.one) : RoundsTo format u m

theorem lt_limit (hfits : format.precision + format.scale < format.limitBits)
    (hunits : units ≤ twoPow format.precision * format.one) :
    units < twoPow format.limitBits := by
  rw [one, ← twoPow_add] at hunits
  exact hunits.trans_lt (Nat.pow_lt_pow_right (by decide) hfits)

section

variable (hscale : format.precision < format.scale) (hgap : units + format.halfGap = format.halfOne)
include hscale hgap

/-- Between one half and one the numbers are two gaps apart. -/
theorem spacing_of_halfGap : format.spacing (units + format.halfOne) = 2 * format.halfGap := by
  have hone : format.one = 2 * format.halfOne := one_eq (by omega)
  have hpos : 0 < format.halfGap := Nat.two_pow_pos _
  have hless := halfGap_lt_halfOne hscale
  have hspare : format.spareBits (units + format.halfOne) =
      1 + (format.scale - 1 - format.precision) := by
    apply le_antisymm
    · rw [spareBits_le_iff, show format.precision + (1 + (format.scale - 1 - format.precision)) =
        format.scale by omega]
      change units + format.halfOne < format.one
      omega
    · rw [Nat.one_add_le_iff, lt_spareBits_iff,
        show format.precision + (format.scale - 1 - format.precision) = format.scale - 1 by omega]
      exact Nat.le_add_left _ _
  rw [spacing, hspare, twoPow_add]
  rfl

/-- The number before one half and one half have a sum in the middle between two numbers, of which
one is the even one. -/
theorem round_of_halfGap : format.round (units + format.halfOne) 1 = format.one := by
  have hone : format.one = 2 * format.halfOne := one_eq (by omega)
  have hparts := halfOne_eq_mul_halfGap hscale
  have hpos : 0 < format.halfGap := Nat.two_pow_pos _
  have hbits : 0 < twoPow format.precision := Nat.two_pow_pos _
  have heven : 2 ∣ twoPow format.precision := dvd_pow_self 2 format.precision_pos.ne'
  have hsplit : units + format.halfOne =
      (twoPow format.precision - 1) * (2 * format.halfGap) + format.halfGap := by
    have hless := halfGap_lt_halfOne hscale
    rw [Nat.sub_mul, Nat.mul_left_comm, ← hparts]
    omega
  rw [round_of_remainder (spacing_of_halfGap hscale hgap) hsplit (by omega), if_neg (by omega),
    if_neg (by omega), if_neg (by omega), Nat.sub_add_cancel hbits, Nat.mul_left_comm, ← hparts,
    hone]

end

theorem precision_le_two_mul (hscale : 0 < format.scale)
    (hlarge : twoPow format.precision * format.halfOne ≤ k * format.one) :
    twoPow format.precision ≤ 2 * k := by
  rw [one_eq hscale, Nat.mul_left_comm, ← Nat.mul_assoc] at hlarge
  exact Nat.le_of_mul_le_mul_right hlarge (Nat.two_pow_pos _)

theorem precision_lt_of_odd (hprecision : 1 < format.precision) (hscale : 0 < format.scale)
    (hodd : k % 2 = 1) (hlarge : twoPow format.precision * format.halfOne ≤ k * format.one) :
    twoPow format.precision < 2 * k := by
  have hle := precision_le_two_mul hscale hlarge
  have hfour := four_dvd hprecision
  omega

/-- The number before one half is not an integer. -/
theorem mul_one_add_halfGap_ne (hscale : format.precision < format.scale) (k : Int) :
    k * format.one + format.halfGap ≠ format.halfOne := by
  have hone : (format.one : Int) = 2 * format.halfOne := one_eq_two_mul_halfOne (by omega)
  have hpos : 0 < format.halfGap := Nat.two_pow_pos _
  have hgap := halfGap_lt_halfOne hscale
  rcases lt_or_ge 0 k with hpositive | hnonpos
  · have hproduct : 1 * (format.one : Int) ≤ k * format.one :=
      mul_le_mul_of_nonneg_right hpositive (by omega)
    omega
  · have hproduct : k * (format.one : Int) ≤ 0 * format.one :=
      mul_le_mul_of_nonneg_right hnonpos (by omega)
    omega

/-- Even integers are rounded to themselves. -/
theorem roundsTo_of_even {k : Int} (hscale : format.precision < format.scale)
    (heven : k % 2 = 0) : format.RoundsTo (k * format.one) k := by
  have hone : (format.one : Int) = 2 * format.halfOne := one_eq_two_mul_halfOne (by omega)
  have hpos : (0 : Int) < format.halfOne := halfOne_pos
  refine .closest (mul_one_add_halfGap_ne hscale k) ?_ (by omega) (by rw [add_mul]; omega)
  intro other hother hodd
  have hsame : k = other := (Int.mul_eq_mul_right_iff (by omega)).mp hother
  omega

/-- The numbers from minus one half to zero are rounded to zero. -/
theorem roundsTo_zero (hscale : format.precision < format.scale)
    (hlow : -(format.halfOne : Int) ≤ u) (hhigh : u < 0) : format.RoundsTo u 0 := by
  have hone : (format.one : Int) = 2 * format.halfOne := one_eq_two_mul_halfOne (by omega)
  have hgap := halfGap_lt_halfOne hscale
  refine .closest (by omega) ?_ (by omega) (by omega)
  intro k hk _
  have hneg : k < 0 := neg_of_mul_neg_left (hk ▸ hhigh) (Int.natCast_nonneg format.one)
  have hproduct : k * (format.one : Int) ≤ -1 * format.one :=
    mul_le_mul_of_nonneg_right (by omega) (by omega)
  omega

/-- An integer of odd magnitude has no more bits than the precision. -/
theorem lt_of_odd (hscale : 0 < format.scale) (hodd : k % 2 = 1)
    (hdvd : format.spacing (k * format.one) ∣ k * format.one)
    (hlarge : twoPow format.precision * format.halfOne ≤ k * format.one) :
    k < twoPow format.precision := by
  rcases spacing_of_large hscale hlarge with hsame | hcoarse
  · have hbound := lt_mul_spacing format (k * format.one)
    rw [hsame] at hbound
    exact Nat.lt_of_mul_lt_mul_right hbound
  · have heven := even_of_dvd (hcoarse.trans hdvd)
    omega

section

variable (hscale : 0 < format.scale)
  (hsmall : u.natAbs < twoPow format.precision * format.halfOne)
include hscale hsmall

theorem two_mul_natAbs_le_of_small {k : Int} (hu : u = k * format.one) :
    2 * k.natAbs ≤ twoPow format.precision := by
  rw [hu, Int.natAbs_mul, Int.natAbs_natCast, one_eq hscale, Nat.mul_left_comm, ← Nat.mul_assoc]
    at hsmall
  exact (Nat.lt_of_mul_lt_mul_right hsmall).le

theorem natAbs_lt_of_small {m : Int} (hlow : m * format.one ≤ u + format.halfOne)
    (hhigh : u + format.halfOne < (m + 1) * format.one) : m.natAbs < twoPow format.precision := by
  have hone := one_eq hscale
  have hpos : 0 < format.halfOne := Nat.two_pow_pos _
  have hleast : format.halfOne ≤ twoPow format.precision * format.halfOne :=
    Nat.le_mul_of_pos_left _ (Nat.two_pow_pos _)
  by_contra hlarge
  have hproduct := Nat.mul_le_mul_right format.one (Nat.le_of_not_lt hlarge)
  rw [hone, Nat.mul_left_comm, Nat.mul_left_comm m.natAbs] at hproduct
  rw [hone, Nat.cast_mul, Nat.cast_two] at hlow hhigh
  rcases Int.natAbs_eq m with hm | hm
  · rw [hm, mul_left_comm] at hlow
    omega
  · rw [hm, add_mul, one_mul, neg_mul, mul_left_comm] at hhigh
    omega

end

end FloatFormat

namespace Number

open FloatFormat

variable {format : FloatFormat} {x y half : Number format} {u v m : Int} {a k sum : Nat}

theorem signed_true (units : Nat) : signed true units = -(units : Int) := rfl

theorem signed_false (units : Nat) : signed false units = (units : Int) := rfl

theorem natAbs_signed (negative : Bool) (units : Nat) : (signed negative units).natAbs = units := by
  cases negative
  · rw [signed_false, Int.natAbs_natCast]
  · rw [signed_true, Int.natAbs_neg, Int.natAbs_natCast]

theorem representable_of_units? (hx : x.units? = some u) : format.Representable u.natAbs := by
  rcases exists_of_units? hx with ⟨negative, magnitude, h, rfl, rfl⟩
  rwa [natAbs_signed]

theorem Denotes.representable (hx : x.Denotes m) :
    format.Representable (m.natAbs * format.one) := by
  have hrepresentable := representable_of_units? hx
  rwa [Int.natAbs_mul, Int.natAbs_natCast] at hrepresentable

theorem floor_of_units? (hx : x.units? = some u) (hlow : m * format.one ≤ u)
    (hhigh : u < (m + 1) * format.one) (hm : format.Representable (m.natAbs * format.one)) :
    x.floor.Denotes m := by
  rw [show u = m * format.one + (u - m * format.one) by omega] at hx
  rw [add_mul, one_mul] at hhigh
  exact denotes_floor hx (by omega) (by omega) hm

theorem Denotes.floor (hx : x.Denotes m) : x.floor.Denotes m := by
  have hpos : (0 : Int) < format.one := Int.natCast_pos.mpr (Nat.two_pow_pos _)
  refine floor_of_units? hx le_rfl ?_ hx.representable
  rw [add_mul]
  omega

/-! ## Sums with one half -/

theorem units?_ofUnits_round (hround : format.round u.natAbs 1 < twoPow format.limitBits) :
    (ofUnits u : Number format).units? =
      some (signed (decide (u < 0)) (format.round u.natAbs 1)) := by
  unfold ofUnits ofRatio
  rw [dif_pos hround]
  rfl

theorem units?_add_round (hx : x.units? = some u) (hy : y.units? = some v) (hne : u + v ≠ 0)
    (hround : format.round (u + v).natAbs 1 < twoPow format.limitBits) :
    (x.add y).units? = some (signed (decide (u + v < 0)) (format.round (u + v).natAbs 1)) := by
  rcases exists_of_units? hx with ⟨a, xUnits, hxUnits, rfl, rfl⟩
  rcases exists_of_units? hy with ⟨b, yUnits, hyUnits, rfl, rfl⟩
  unfold add
  dsimp only
  rw [if_neg hne]
  exact units?_ofUnits_round hround

section

variable (hhalf : half.units? = some (format.halfOne : Int))
include hhalf

theorem units?_add_half (hx : x.units? = some (a : Int))
    (hround : format.round (a + format.halfOne) 1 = sum) (hlimit : sum < twoPow format.limitBits) :
    (x.add half).units? = some (sum : Int) := by
  have hpos : (0 : Int) < format.halfOne := halfOne_pos
  have hmagnitude : ((a : Int) + format.halfOne).natAbs = a + format.halfOne := by omega
  have hadded := units?_add_round hx hhalf (by omega) (by rwa [hmagnitude, hround])
  rw [hmagnitude, hround, decide_eq_false (by omega), signed_false] at hadded
  exact hadded

theorem units?_neg_add_half (hx : x.units? = some (-(a : Int))) (hlarge : format.halfOne < a)
    (hround : format.round (a - format.halfOne) 1 = sum) (hlimit : sum < twoPow format.limitBits) :
    (x.add half).units? = some (-(sum : Int)) := by
  have hmagnitude : (-(a : Int) + format.halfOne).natAbs = a - format.halfOne := by omega
  have hadded := units?_add_round hx hhalf (by omega) (by rwa [hmagnitude, hround])
  rw [hmagnitude, hround, decide_eq_true (by omega), signed_true] at hadded
  exact hadded

end

/-! ## Floors of the sums -/

/-- A sum that stays between the integers around the exact sum has the floor of the exact sum. -/
theorem floor_of_between (hscale : 0 < format.scale)
    (hfits : format.precision + format.scale < format.limitBits)
    (hsmall : u.natAbs < twoPow format.precision * format.halfOne)
    (hgap : u + format.halfGap ≠ format.halfOne) (hlow : m * format.one ≤ u + format.halfOne)
    (hhigh : u + format.halfOne < (m + 1) * format.one) (hy : y.units? = some v)
    (hylow : m * format.one ≤ v) (hyhigh : v < (m + 1) * format.one) :
    y.floor.Denotes m ∧ format.RoundsTo u m := by
  have hm := natAbs_lt_of_small hscale hsmall hlow hhigh
  constructor
  · exact floor_of_units? hy hylow hyhigh (representable_of_lt hfits.le hm)
  · exact .closest hgap (fun k hk _ => two_mul_natAbs_le_of_small hscale hsmall hk) hlow hhigh

section

variable (hhalf : half.units? = some (format.halfOne : Int)) (hprecision : 1 < format.precision)
  (hscale : format.precision < format.scale)
  (hfits : format.precision + format.scale < format.limitBits)
include hhalf hprecision hscale hfits

theorem floor_add_half_of_halfGap (hx : x.units? = some (a : Int))
    (hgap : a + format.halfGap = format.halfOne) : (x.add half).floor.Denotes 1 := by
  have hbits := four_le hprecision
  have hleast : format.one ≤ twoPow format.precision * format.one :=
    Nat.le_mul_of_pos_left _ (by omega)
  have hadded := units?_add_half hhalf hx (round_of_halfGap hscale hgap) (lt_limit hfits hleast)
  rw [← one_mul (format.one : Int)] at hadded
  exact Denotes.floor hadded

/-- The sum of a small magnitude and one half stays below the next integer, unless the number is the
one before one half. -/
theorem floor_add_half_of_small (hx : x.units? = some (a : Int))
    (hsmall : a < twoPow format.precision * format.halfOne) :
    ∃ m, (x.add half).floor.Denotes m ∧ format.RoundsTo a m := by
  by_cases hgap : a + format.halfGap = format.halfOne
  · exact ⟨1, floor_add_half_of_halfGap hhalf hprecision hscale hfits hx hgap,
      .belowHalf (by omega)⟩
  · have honePos : 0 < format.one := Nat.two_pow_pos _
    obtain ⟨n, hlow, hhigh⟩ : ∃ n, n * format.one ≤ a + format.halfOne ∧
        a + format.halfOne < (n + 1) * format.one :=
      ⟨_, Nat.div_mul_le_self _ _, Nat.lt_mul_of_div_lt (Nat.lt_succ_self _) honePos⟩
    have hround := round_add_halfOne_of_small hprecision (by omega) (representable_of_units? hx).1
      hsmall hgap hlow hhigh
    have hmagnitude : (a : Int).natAbs < twoPow format.precision * format.halfOne := by
      rwa [Int.natAbs_natCast]
    have hintLow : (n : Int) * format.one ≤ a + format.halfOne := by exact_mod_cast hlow
    have hintHigh : (a : Int) + format.halfOne < (n + 1) * format.one := by exact_mod_cast hhigh
    have hn : (n : Int).natAbs < twoPow format.precision :=
      natAbs_lt_of_small (by omega) hmagnitude hintLow hintHigh
    have hlimit := hround.2.trans_le (Nat.mul_le_mul_right format.one hn)
    have hadded := units?_add_half hhalf hx rfl (lt_limit hfits hlimit.le)
    exact ⟨n, floor_of_between (by omega) hfits hmagnitude (by omega) hintLow hintHigh hadded
      (by exact_mod_cast hround.1) (by exact_mod_cast hround.2)⟩

/-- The sum of a small negative number and one half is exact. -/
theorem floor_add_half_of_small_neg (hx : x.units? = some (-(a : Int)))
    (hlarge : format.halfOne < a) (hsmall : a < twoPow format.precision * format.halfOne) :
    ∃ m, (x.add half).floor.Denotes m ∧ format.RoundsTo (-(a : Int)) m := by
  have hmagnitude : (-(a : Int)).natAbs = a := by omega
  have hrepresentable := representable_of_units? hx
  rw [hmagnitude] at hrepresentable
  have hfiner : format.spacing (a - format.halfOne) ∣ a :=
    (Nat.pow_dvd_pow 2 (spareBits_mono (Nat.sub_le _ _))).trans hrepresentable.1
  have hgrid : format.spacing (a - format.halfOne) ∣ a - format.halfOne :=
    Nat.dvd_sub hfiner (spacing_dvd_halfOne (by omega))
  have hsum : (-(a : Int) + format.halfOne).natAbs = a - format.halfOne := by omega
  have hadded := units?_add hx hhalf (by
    rw [hsum]
    exact ⟨hgrid, (Nat.sub_le _ _).trans_lt hrepresentable.2⟩)
  have hpos : (0 : Int) < format.one := Int.natCast_pos.mpr (Nat.two_pow_pos _)
  have hgap := halfGap_lt_halfOne hscale
  obtain ⟨m, hlow, hhigh⟩ : ∃ m : Int, m * format.one ≤ -(a : Int) + format.halfOne ∧
      -(a : Int) + format.halfOne < (m + 1) * format.one :=
    ⟨_, Int.ediv_mul_le _ hpos.ne', Int.lt_ediv_add_one_mul_self _ hpos⟩
  exact ⟨m, floor_of_between (by omega) hfits (by rwa [hmagnitude]) (by omega) hlow hhigh hadded
    hlow hhigh⟩

/-- A large integer is rounded to itself if it is even, and to the next integer if it is odd. -/
theorem floor_add_half_of_large (hx : x.Denotes k)
    (hlarge : twoPow format.precision * format.halfOne ≤ k * format.one) :
    ∃ m, (x.add half).floor.Denotes m ∧ format.RoundsTo (k * format.one) m := by
  have hrepresentable := hx.representable
  rw [Int.natAbs_natCast] at hrepresentable
  have hround := round_add_halfOne_of_large (by omega) hrepresentable.1 hlarge
  rw [Denotes, ← Nat.cast_mul] at hx
  by_cases heven : k % 2 = 0
  · rw [if_pos heven] at hround
    have hsum : (x.add half).Denotes k := by
      rw [Denotes, ← Nat.cast_mul]
      exact units?_add_half hhalf hx hround hrepresentable.2
    exact ⟨k, hsum.floor, roundsTo_of_even hscale (by omega)⟩
  · have hodd : k % 2 = 1 := by omega
    rw [if_neg heven] at hround
    have hlimit := lt_limit hfits
      (Nat.mul_le_mul_right format.one (lt_of_odd (by omega) hodd hrepresentable.1 hlarge))
    have hsum : (x.add half).Denotes (k + 1 : Nat) := by
      rw [Denotes, ← Nat.cast_mul]
      exact units?_add_half hhalf hx hround hlimit
    exact ⟨_, hsum.floor, .oddInteger rfl (by omega)
      (precision_lt_of_odd hprecision (by omega) hodd hlarge)⟩

omit hfits in
/-- The negative of a large integer is rounded to itself or to the next integer as well. -/
theorem floor_add_half_of_large_neg (hx : x.Denotes (-(k : Int)))
    (hlarge : twoPow format.precision * format.halfOne ≤ k * format.one) :
    ∃ m, (x.add half).floor.Denotes m ∧ format.RoundsTo (-(k : Int) * format.one) m := by
  have hone : format.one = 2 * format.halfOne := one_eq (by omega)
  have hpos : 0 < format.halfOne := Nat.two_pow_pos _
  have hrepresentable := hx.representable
  rw [Int.natAbs_neg, Int.natAbs_natCast] at hrepresentable
  have hround := round_sub_halfOne_of_large hprecision (by omega) hrepresentable.1 hlarge
  have hbits := precision_le_two_mul (by omega) hlarge
  have hfour := four_le hprecision
  have hk : 0 < k := by omega
  have hleast : format.one ≤ k * format.one := Nat.le_mul_of_pos_left _ hk
  have hunits : x.units? = some (-((k * format.one : Nat) : Int)) := by
    rw [Nat.cast_mul, ← neg_mul]
    exact hx
  by_cases heven : k % 2 = 0
  · have hrounds : format.RoundsTo (-(k : Int) * format.one) (-k) :=
      roundsTo_of_even hscale (by omega)
    rcases hround.2 heven with hsame | hexact
    · have hsum : (x.add half).Denotes (-(k : Int)) := by
        rw [Denotes, neg_mul, ← Nat.cast_mul]
        exact units?_neg_add_half hhalf hunits (by omega) hsame hrepresentable.2
      exact ⟨_, hsum.floor, hrounds⟩
    · have hsum := units?_neg_add_half hhalf hunits (by omega) hexact
        ((Nat.sub_le _ _).trans_lt hrepresentable.2)
      refine ⟨_, floor_of_units? hsum ?_ ?_ hx.representable, hrounds⟩
      · rw [neg_mul]
        omega
      · rw [add_mul, neg_mul, one_mul]
        omega
  · have hodd : k % 2 = 1 := by omega
    have hbelow : (k - 1) * format.one ≤ k * format.one := Nat.mul_le_mul_right _ (Nat.sub_le _ _)
    have hsum : (x.add half).Denotes (-(k : Int) + 1) := by
      rw [Denotes, units?_neg_add_half hhalf hunits (by omega) (hround.1 hodd)
        (hbelow.trans_lt hrepresentable.2), Nat.cast_mul, Nat.cast_sub hk, ← neg_mul]
      congr 2
      ring
    refine ⟨_, hsum.floor, .oddInteger rfl (by omega) ?_⟩
    rw [Int.natAbs_neg, Int.natAbs_natCast]
    exact precision_lt_of_odd hprecision (by omega) hodd hlarge

/-- Apart from the numbers from minus one half to zero, the floor of the sum with one half is the
integer that the number is rounded to. -/
theorem floor_add_half (hx : x.units? = some u) (hnot : ¬(-(format.halfOne : Int) ≤ u ∧ u < 0)) :
    ∃ m, (x.add half).floor.Denotes m ∧ format.RoundsTo u m := by
  by_cases hsmall : u.natAbs < twoPow format.precision * format.halfOne
  · rcases lt_or_ge u 0 with hneg | hpos
    · rw [show u = -(u.natAbs : Int) by omega] at hx ⊢
      exact floor_add_half_of_small_neg hhalf hprecision hscale hfits hx (by omega) (by simpa)
    · rw [show u = (u.natAbs : Int) by omega] at hx ⊢
      exact floor_add_half_of_small hhalf hprecision hscale hfits hx (by simpa)
  · -- The numbers beyond are integers.
    have hlarge := Nat.le_of_not_lt hsmall
    obtain ⟨k, hk⟩ := exists_eq_mul_left_of_dvd
      ((one_dvd_spacing (by omega) hlarge).trans (representable_of_units? hx).1)
    rw [hk] at hlarge
    rcases lt_or_ge u 0 with hneg | hpos
    · have hu : u = -(k : Int) * format.one := by
        rw [neg_mul, ← Nat.cast_mul]
        omega
      rw [hu] at hx ⊢
      exact floor_add_half_of_large_neg hhalf hprecision hscale hx hlarge
    · have hu : u = (k : Int) * format.one := by
        rw [← Nat.cast_mul]
        omega
      rw [hu] at hx ⊢
      exact floor_add_half_of_large hhalf hprecision hscale hfits hx hlarge

end

end Number
end RecordExtraction
