import RecordExtraction.Number.Power

/-!
# Binary floating-point formats

Every finite number of a binary format is a whole multiple of the least positive number of that
format, its *unit*.  A magnitude is therefore stored as a natural number of units; it belongs to
the format when it has at most `precision` significant bits and lies below the overflow bound.

`FloatFormat.round` takes a quotient of two natural numbers, again counted in units, to the nearest
number of the format, with ties to the even neighbour.  `representable_round` says that the result
has no more significant bits than the format admits.
-/

namespace RecordExtraction

/-- A binary floating-point format: the number of significant bits, the exponent of the unit
`2 ^ (-scale)`, and the number of bits of the least magnitude that overflows, less one. -/
structure FloatFormat where
  precision : Nat
  scale : Nat
  limitBits : Nat
  precision_pos : 0 < precision := by decide
deriving DecidableEq

namespace FloatFormat

/-- Double precision: 53 significant bits, unit `2 ^ (-1074)`, overflow at `2 ^ 1024`. -/
def binary64 : FloatFormat where
  precision := 53
  scale := 1074
  limitBits := 2098

/-- Single precision: 24 significant bits, unit `2 ^ (-149)`, overflow at `2 ^ 128`. -/
def binary32 : FloatFormat where
  precision := 24
  scale := 149
  limitBits := 277

/-- The number of units in one. -/
def one (format : FloatFormat) : Nat := twoPow format.scale

/-- The number of low bits that a magnitude of this size must leave zero. -/
def spareBits (format : FloatFormat) (units : Nat) : Nat :=
  units.log2 + 1 - format.precision

/-- A magnitude that the format can hold. -/
def Representable (format : FloatFormat) (units : Nat) : Prop :=
  twoPow (format.spareBits units) ∣ units ∧ units < twoPow format.limitBits

instance (format : FloatFormat) (units : Nat) : Decidable (format.Representable units) :=
  inferInstanceAs (Decidable (_ ∧ _))

/-- The whole number nearest to `num / den`; of two equally near ones the even one. -/
def roundHalfEven (num den : Nat) : Nat :=
  let floor := num / den
  let twice := 2 * (num % den)
  if twice < den then floor
  else if den < twice then floor + 1
  else if floor % 2 = 0 then floor
  else floor + 1

/-- The magnitude nearest to `num / den` among those with `precision` significant bits. -/
def round (format : FloatFormat) (num den : Nat) : Nat :=
  let spare := format.spareBits (num / den)
  roundHalfEven num (den * twoPow spare) * twoPow spare

theorem roundHalfEven_le (num den : Nat) : roundHalfEven num den ≤ num / den + 1 := by
  unfold roundHalfEven
  dsimp only
  split
  · omega
  · split
    · omega
    · split <;> omega

theorem representable_zero (format : FloatFormat) : format.Representable 0 := by
  refine ⟨Nat.dvd_zero _, Nat.two_pow_pos _⟩

/-- Rounding leaves at most `precision` significant bits. -/
theorem spareBits_round_dvd (format : FloatFormat) (num den : Nat) :
    twoPow (format.spareBits (format.round num den)) ∣ format.round num den := by
  obtain ⟨precision, scale, limitBits, hprecision⟩ := format
  unfold round
  simp only [twoPow, Nat.pow_eq]
  generalize hspare : FloatFormat.spareBits ⟨precision, scale, limitBits, hprecision⟩ (num / den) =
    spare
  generalize hm : roundHalfEven num (den * 2 ^ spare) = m
  have hbound : m ≤ 2 ^ precision := by
    have hle := roundHalfEven_le num (den * 2 ^ spare)
    rw [hm, ← Nat.div_div_eq_div_mul] at hle
    have hlog : (num / den).log2 + 1 ≤ precision + spare := by
      simp only [spareBits] at hspare
      omega
    have hlt : num / den < 2 ^ (precision + spare) :=
      Nat.lt_of_lt_of_le Nat.lt_log2_self (Nat.pow_le_pow_right (by decide) hlog)
    have hdiv : num / den / 2 ^ spare < 2 ^ precision := by
      rw [Nat.div_lt_iff_lt_mul (Nat.two_pow_pos _), ← Nat.pow_add]
      exact hlt
    omega
  rcases Nat.lt_or_eq_of_le hbound with hlt | heq
  · refine Nat.dvd_trans (Nat.pow_dvd_pow 2 ?_) (Nat.dvd_mul_left _ _)
    by_cases hzero : m = 0
    · subst hzero
      simp only [spareBits, Nat.zero_mul, Nat.log2_zero]
      omega
    · have hne : m * 2 ^ spare ≠ 0 := Nat.mul_ne_zero hzero (Nat.ne_of_gt (Nat.two_pow_pos _))
      have hlog : (m * 2 ^ spare).log2 < precision + spare := by
        rw [Nat.log2_lt hne, Nat.pow_add]
        exact Nat.mul_lt_mul_of_pos_right hlt (Nat.two_pow_pos _)
      simp only [spareBits]
      omega
  · subst heq
    rw [← Nat.pow_add]
    refine Nat.pow_dvd_pow 2 ?_
    simp only [spareBits, Nat.log2_two_pow]
    omega

theorem representable_round (format : FloatFormat) {num den : Nat}
    (h : format.round num den < twoPow format.limitBits) :
    format.Representable (format.round num den) :=
  ⟨format.spareBits_round_dvd num den, h⟩

end FloatFormat
end RecordExtraction
