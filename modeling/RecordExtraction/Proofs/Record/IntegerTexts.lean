import Mathlib
import RecordExtraction.Proofs.Number.WholeNumbers
import RecordExtraction.Record.Coercion

/-!
# Texts of integers

A text denotes an integer when it has one decimal digit or more after an optional sign.  It is read
at a width exactly when that integer is one of the width: the digits before a place never denote
more than all of them, so no number on the way is too large if the last one is not.
-/

namespace RecordExtraction

open Number (signed)

/-- The text is an optional sign with decimal digits after it, and denotes the integer. -/
inductive SpellsInteger : (text : List Char) → (n : Int) → Prop
  | plain {digits : List Char} (hne : digits ≠ []) (hdigits : ∀ c ∈ digits, c.isDigit = true) :
      SpellsInteger digits (digitsValue digits)
  | plus {digits : List Char} (hne : digits ≠ []) (hdigits : ∀ c ∈ digits, c.isDigit = true) :
      SpellsInteger ('+' :: digits) (digitsValue digits)
  | minus {digits : List Char} (hne : digits ≠ []) (hdigits : ∀ c ∈ digits, c.isDigit = true) :
      SpellsInteger ('-' :: digits) (-digitsValue digits)

variable {width wider : IntegerWidth} {text digits : List Char} {n : Int}

/-! ## Signs -/

theorem splitSign_of_isDigit {c : Char} (hc : c.isDigit = true) (rest : List Char) :
    splitSign (c :: rest) = (false, c :: rest) := by
  have hminus : c ≠ '-' := by
    rintro rfl
    cases hc
  have hplus : c ≠ '+' := by
    rintro rfl
    cases hc
  unfold splitSign
  split
  · next heq =>
      cases heq
      exact absurd rfl hminus
  · next heq =>
      cases heq
      exact absurd rfl hplus
  · rfl

theorem spellsInteger_iff :
    SpellsInteger text n ↔
      (splitSign text).2 ≠ [] ∧ (∀ c ∈ (splitSign text).2, c.isDigit = true) ∧
        n = signed (splitSign text).1 (digitsValue (splitSign text).2) := by
  constructor
  · intro hspells
    cases hspells with
    | plain hne hdigits =>
        rcases List.exists_cons_of_ne_nil hne with ⟨c, rest, rfl⟩
        rw [splitSign_of_isDigit (hdigits c List.mem_cons_self)]
        exact ⟨hne, hdigits, rfl⟩
    | plus hne hdigits => exact ⟨hne, hdigits, rfl⟩
    | minus hne hdigits => exact ⟨hne, hdigits, rfl⟩
  · rintro ⟨hne, hdigits, rfl⟩
    generalize hparts : splitSign text = parts at hne hdigits ⊢
    unfold splitSign at hparts
    split at hparts
    · cases hparts
      exact .minus hne hdigits
    · cases hparts
      exact .plus hne hdigits
    · cases hparts
      exact .plain hne hdigits

theorem spellsInteger_toString (n : Int) : SpellsInteger (toString n).toList n := by
  have hdigits : ∀ m : Nat, ∀ c ∈ Nat.toDigits 10 m, c.isDigit = true :=
    fun m c hc => Nat.isDigit_of_mem_toDigits (by decide) (by decide) hc
  cases n with
  | ofNat m =>
      have hspells := SpellsInteger.plain Nat.toDigits_ne_nil (hdigits m)
      rw [digitsValue_toDigits] at hspells
      have htext : (toString (Int.ofNat m)).toList = Nat.toDigits 10 m := by
        rw [Int.toString_eq_repr, Int.repr, Nat.repr_eq_ofList_toDigits, String.toList_ofList]
      rw [htext]
      exact hspells
  | negSucc m =>
      have hspells := SpellsInteger.minus Nat.toDigits_ne_nil (hdigits (m + 1))
      rw [digitsValue_toDigits] at hspells
      have htext : (toString (Int.negSucc m)).toList = '-' :: Nat.toDigits 10 (m + 1) := by
        rw [Int.toString_eq_repr, Int.repr, Nat.repr_eq_ofList_toDigits, String.toList_append,
          String.toList_ofList (l := Nat.toDigits 10 m.succ)]
        rfl
      rw [htext]
      exact hspells

/-! ## Appending digits -/

theorem IntegerWidth.bound_pos (width : IntegerWidth) : 0 < width.bound := by
  cases width <;> decide

/-- A width that has an integer has all integers nearer to zero on the same side. -/
theorem contains_signed_of_le {negative : Bool} {a b : Nat} (hab : a ≤ b)
    (hb : width.Contains (signed negative b)) : width.Contains (signed negative a) := by
  have hpos := width.bound_pos
  unfold IntegerWidth.Contains signed at hb ⊢
  cases negative with
  | true =>
      rw [if_pos rfl] at hb ⊢
      omega
  | false =>
      rw [if_neg Bool.false_ne_true] at hb ⊢
      omega

/-- The number that digits denote when they follow digits that denote `value`. -/
def extendedBy (value : Nat) (digits : List Char) : Nat :=
  digits.foldl (fun value digit => value * 10 + (digit.toNat - '0'.toNat)) value

theorem le_extendedBy (value : Nat) (digits : List Char) : value ≤ extendedBy value digits := by
  induction digits generalizing value with
  | nil => exact Nat.le_refl value
  | cons c rest ih =>
      have hrest := ih (value * 10 + (c.toNat - '0'.toNat))
      exact Nat.le_trans (by omega) hrest

theorem signed_extended (negative : Bool) (value digit : Nat) :
    (if negative then signed negative value * 10 - (digit : Int)
      else signed negative value * 10 + (digit : Int)) = signed negative (value * 10 + digit) := by
  cases negative with
  | true =>
      simp only [signed, if_true]
      push_cast
      ring
  | false =>
      simp only [signed, Bool.false_eq_true, if_false]
      push_cast
      ring

/-- Appending succeeds if only digits are appended and the number is one of the width in the end. -/
theorem appendDigits_eq_ok_iff {negative : Bool} {value : Nat}
    (hvalue : width.Contains (signed negative value)) {result : { n : Int // width.Contains n }} :
    appendDigits width negative ⟨signed negative value, hvalue⟩ digits = .ok result ↔
      (∀ c ∈ digits, c.isDigit = true) ∧
        result.val = signed negative (extendedBy value digits) := by
  induction digits generalizing value with
  | nil =>
      rw [appendDigits, Except.ok.injEq, Subtype.ext_iff, eq_comm]
      exact (and_iff_right (List.forall_mem_nil _)).symm
  | cons c rest ih =>
      rw [appendDigits, List.forall_mem_cons, extendedBy, List.foldl_cons]
      by_cases hdigit : c.isDigit = true
      · rw [if_pos hdigit]
        dsimp only
        simp only [signed_extended]
        split
        · next hnext =>
            rw [ih hnext, and_assoc]
            exact (and_iff_right hdigit).symm
        · next hnext =>
            -- The width does not have the number so far, and so not the one in the end either.
            constructor
            · intro herror
              cases herror
            · rintro ⟨-, hresult⟩
              have hcontains := result.property
              rw [hresult] at hcontains
              exact absurd (contains_signed_of_le (le_extendedBy _ rest) hcontains) hnext
      · rw [if_neg hdigit]
        constructor
        · intro herror
          cases herror
        · rintro ⟨⟨hc, -⟩, -⟩
          exact absurd hc hdigit

/-! ## Reading -/

theorem readIntegerChars_eq_ok_iff {result : { n : Int // width.Contains n }} :
    readIntegerChars width text = .ok result ↔ SpellsInteger text result.val := by
  have hzero : signed (splitSign text).1 0 = 0 := by
    unfold signed
    split <;> rfl
  rw [spellsInteger_iff]
  unfold readIntegerChars
  split
  · next hempty =>
      rw [List.isEmpty_iff.mp hempty]
      constructor
      · intro herror
        cases herror
      · rintro ⟨hne, -, -⟩
        exact absurd rfl hne
  · dsimp only
    split
    · next hempty =>
        constructor
        · intro herror
          cases herror
        · rintro ⟨hne, -, -⟩
          exact absurd (List.isEmpty_iff.mp hempty) hne
    · next hnonempty =>
        have hne : (splitSign text).2 ≠ [] := by simpa using hnonempty
        have hstart : width.Contains (signed (splitSign text).1 0) :=
          hzero.symm ▸ (zeroOf width).property
        have hzeroOf : zeroOf width = ⟨signed (splitSign text).1 0, hstart⟩ :=
          Subtype.ext hzero.symm
        rw [hzeroOf, appendDigits_eq_ok_iff hstart]
        exact (and_iff_right hne).symm

theorem readInteger_eq_ok_iff {text : String} {value : FieldValue} :
    readInteger width text = .ok value ↔
      ∃ n, ∃ h : width.Contains n, SpellsInteger text.toList n ∧ value = .integer width n h := by
  unfold readInteger
  constructor
  · intro hread
    split at hread
    · next result hresult =>
        cases hread
        exact ⟨result.val, result.property, readIntegerChars_eq_ok_iff.mp hresult, rfl⟩
    · cases hread
  · rintro ⟨n, h, hspells, rfl⟩
    have hread : readIntegerChars width text.toList = .ok ⟨n, h⟩ :=
      readIntegerChars_eq_ok_iff.mpr hspells
    rw [hread]

/-- What is not read is an integer error. -/
theorem exists_readInteger_error_iff {text : String} :
    (∃ fault, readInteger width text = .error (.integer fault)) ↔
      ¬∃ n, width.Contains n ∧ SpellsInteger text.toList n := by
  constructor
  · rintro ⟨fault, herror⟩ ⟨n, h, hspells⟩
    have hread := readInteger_eq_ok_iff.mpr ⟨n, h, hspells, rfl⟩
    rw [herror] at hread
    cases hread
  · intro hnone
    unfold readInteger
    split
    · next result hresult =>
        exact absurd ⟨result.val, result.property, readIntegerChars_eq_ok_iff.mp hresult⟩ hnone
    · next fault hfault => exact ⟨fault, rfl⟩

/-- An integer property takes a text exactly when it denotes an integer of the width, and then the
value is this integer.  Any other text is an integer error.  So a wider integer has the same value
for the text, and what an integer is shown as is read as the integer again. -/
theorem integers_are_read_exactly (width : IntegerWidth) (text : String) :
    (∀ value, coerce (.integer width) text = .ok value ↔
      ∃ n, ∃ h : width.Contains n, SpellsInteger text.toList n ∧ value = .integer width n h) ∧
    ((∃ fault, coerce (.integer width) text = .error (.integer fault)) ↔
      ¬∃ n, width.Contains n ∧ SpellsInteger text.toList n) ∧
    (∀ wider n h, width.bound ≤ wider.bound →
      coerce (.integer width) text = .ok (.integer width n h) →
      ∃ h', coerce (.integer wider) text = .ok (.integer wider n h')) ∧
    ∀ n h, coerce (.integer width) (FieldValue.integer width n h).display =
      .ok (.integer width n h) := by
  refine ⟨fun value => readInteger_eq_ok_iff, exists_readInteger_error_iff, ?_, ?_⟩
  · intro wider n h hwider hread
    rcases readInteger_eq_ok_iff.mp hread with ⟨m, hm, hspells, hvalue⟩
    cases hvalue
    have hcontains : wider.Contains n := by
      unfold IntegerWidth.Contains at hm ⊢
      omega
    exact ⟨hcontains, readInteger_eq_ok_iff.mpr ⟨n, hcontains, hspells, rfl⟩⟩
  · intro n h
    exact readInteger_eq_ok_iff.mpr ⟨n, h, spellsInteger_toString n, rfl⟩

theorem least_shortInteger_is_read_exactly :
    IntegerWidth.bits16.bound ≤ IntegerWidth.bits64.bound ∧
    SpellsInteger "-032768".toList (-32768) ∧
    coerce (.integer .bits16) "-032768" = .ok (.integer .bits16 (-32768) (by decide)) ∧
    coerce (.integer .bits64) "-032768" = .ok (.integer .bits64 (-32768) (by decide)) := by
  have hbound : IntegerWidth.bits16.bound ≤ IntegerWidth.bits64.bound := by decide
  have htext : "-032768".toList = '-' :: ['0', '3', '2', '7', '6', '8'] := by decide
  have hspells : SpellsInteger "-032768".toList (-32768) := by
    rw [htext]
    exact .minus (by decide) (List.all_eq_true.mp rfl)
  rcases integers_are_read_exactly .bits16 "-032768" with ⟨hread, -, hwider, -⟩
  have hshort := (hread _).mpr ⟨-32768, by decide, hspells, rfl⟩
  rcases hwider .bits64 _ _ hbound hshort with ⟨h, hlong⟩
  exact ⟨hbound, hspells, hshort, hlong⟩

end RecordExtraction
