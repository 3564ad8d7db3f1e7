import Mathlib
import RecordExtraction.Proofs.Locator.Rounding
import RecordExtraction.Proofs.Locator.Substrings

/-!
# Slices of texts

The positions of the characters are compared with a rounded number and with a sum of two such
numbers.  Where these are integers nothing is lost: rounding keeps them, the sum is exact, and a
position that the format cannot hold lies behind every integer that it can add up.  So what is kept
is a slice, and two slices that meet make up the text.
-/

namespace RecordExtraction
namespace Locator

open Number Markup

/-! ## Slices -/

variable {text : List Char} {low high i n k : Int}

/-- The characters whose positions, counted from one, are from `low` to `high`, in order. -/
def slice (low high : Int) (text : List Char) : List Char :=
  ((text.zipIdx 1).filter fun place => decide (low ≤ place.2 ∧ place.2 ≤ high)).map Prod.fst

theorem filter_zipIdx_eq (low high : Int) (passed : Nat) (text : List Char) :
    ((text.zipIdx (passed + 1)).filter fun place =>
        decide (low ≤ place.2 ∧ place.2 ≤ high)).map Prod.fst =
      (text.take (high - passed).toNat).drop (low - 1 - passed).toNat := by
  induction text generalizing passed with
  | nil => simp
  | cons c rest ih =>
      have hlater := ih (passed + 1)
      rw [List.zipIdx_cons, List.filter_cons]
      by_cases hend : high ≤ passed
      · -- The positions have gone past the last one of the slice.
        have hnone : (high - (passed + 1 : Nat)).toNat = 0 := by omega
        have hempty : (high - passed).toNat = 0 := by omega
        have hpast : ¬(low ≤ (passed + 1 : Nat) ∧ (passed + 1 : Nat) ≤ high) := by omega
        rw [hnone, List.take_zero, List.drop_nil] at hlater
        rw [if_neg (by simpa using hpast), hlater, hempty, List.take_zero, List.drop_nil]
      · have htake : (high - passed).toNat = (high - (passed + 1 : Nat)).toNat + 1 := by omega
        rw [htake, List.take_succ_cons]
        by_cases hbegin : low ≤ (passed + 1 : Nat)
        · have hkept : low ≤ (passed + 1 : Nat) ∧ (passed + 1 : Nat) ≤ high := by omega
          have hdrop : (low - 1 - passed).toNat = 0 := by omega
          have hdropLater : (low - 1 - (passed + 1 : Nat)).toNat = 0 := by omega
          rw [hdropLater, List.drop_zero] at hlater
          rw [if_pos (decide_eq_true hkept), List.map_cons, hlater, hdrop, List.drop_zero]
        · have hleft : ¬(low ≤ (passed + 1 : Nat) ∧ (passed + 1 : Nat) ≤ high) := by omega
          have hdrop : (low - 1 - passed).toNat = (low - 1 - (passed + 1 : Nat)).toNat + 1 := by
            omega
          rw [if_neg (by simpa using hleft), hlater, hdrop, List.drop_succ_cons]

theorem slice_eq (low high : Int) (text : List Char) :
    slice low high text = (text.take high.toNat).drop (low - 1).toNat := by
  have hslice := filter_zipIdx_eq low high 0 text
  rw [Nat.cast_zero, sub_zero, sub_zero] at hslice
  exact hslice

theorem slice_min_length : slice low (min text.length high) text = slice low high text := by
  rw [slice_eq, slice_eq]
  congr 1
  rw [List.take_eq_take_iff]
  omega

/-- The slice up to a position and the slice behind it are the whole text. -/
theorem slice_append_slice (k : Int) (text : List Char) :
    slice 1 k text ++ slice (k + 1) text.length text = text := by
  rw [slice_eq, slice_eq, Int.toNat_natCast, List.take_length, Int.add_sub_cancel, sub_self,
    Int.toNat_zero, List.drop_zero]
  exact List.take_append_drop k.toNat text

/-! ## What is kept -/

theorem charsBetween_eq_filter (start : Double) (stop : Option Double) (position : Nat)
    (text : List Char) :
    charsBetween start stop position text =
      ((text.zipIdx position).filter fun place =>
        start.lessOrEqual (.ofNat place.2) && stop.all (Number.less (.ofNat place.2))).map
          Prod.fst := by
  induction text generalizing position with
  | nil => rfl
  | cons c rest ih =>
      rw [List.zipIdx_cons, List.filter_cons, charsBetween]
      dsimp only
      rw [ih (position + 1)]
      split <;> rfl

/-- Where every position that the text has is kept exactly if it lies in the slice. -/
theorem charsBetween_eq_slice {start : Double} {stop : Option Double}
    (hkept : ∀ position : Nat, 1 ≤ position → position ≤ text.length →
      ((start.lessOrEqual (.ofNat position) && stop.all (Number.less (.ofNat position))) = true ↔
        low ≤ position ∧ position ≤ high)) :
    charsBetween start stop 1 text = slice low high text := by
  unfold slice
  rw [charsBetween_eq_filter]
  congr 1
  apply List.filter_congr
  intro place hplace
  have hbounds := List.mem_zipIdx hplace
  rw [Bool.eq_iff_iff, decide_eq_true_iff]
  exact hkept place.2 hbounds.1 (by omega)

section

variable {start length : Double}

theorem substring_eq_slice (hstart : start.Denotes i) (hlength : length.Denotes n)
    (hi : i.natAbs < 2 ^ 52) (hn : n.natAbs < 2 ^ 52) :
    substring text start (some length) =
      slice (max 1 i) (min text.length (i + n - 1)) text := by
  have hfirst := denotes_roundHalfUp hstart hi
  have hsum : (i + n).natAbs < 2 ^ 53 := by omega
  have hstop : ((roundHalfUp start).add (roundHalfUp length)).Denotes (i + n) :=
    hfirst.add (denotes_roundHalfUp hlength hn) fits_binary64 hsum
  have hfirstBits : i < 2 ^ 53 := by omega
  have hstopBits : i + n < 2 ^ 53 := by omega
  apply charsBetween_eq_slice
  intro position hpositive hlast
  rw [Bool.and_eq_true, Option.map_some, Option.all_some,
    hfirst.lessOrEqual_ofNat fits_binary64 hfirstBits, hstop.ofNat_less fits_binary64 hstopBits,
    decide_eq_true_iff, decide_eq_true_iff]
  omega

theorem substring_eq_slice_to_end (hstart : start.Denotes i) (hi : i.natAbs < 2 ^ 52) :
    substring text start none = slice i text.length text := by
  have hfirst := denotes_roundHalfUp hstart hi
  have hfirstBits : i < 2 ^ 53 := by omega
  apply charsBetween_eq_slice
  intro position hpositive hlast
  rw [Option.map_none, Option.all_none, Bool.and_true,
    hfirst.lessOrEqual_ofNat fits_binary64 hfirstBits, decide_eq_true_iff]
  omega

end

/-! ## Evaluating calls -/

/-- The expression has a value, and the integer is the number that the value is taken as. -/
def Expr.HasInteger (document : Document) (context : Context) (expr : Expr) (n : Int) : Prop :=
  ∃ value, expr.eval document context = .ok value ∧ (value.toNumber document).Denotes n

section

variable {document : Document} {context : Context} {x start length : Expr} {whole : String}

theorem Expr.eval_substring (hx : x.HasText document context whole)
    (hstart : start.HasInteger document context i) (hlength : length.HasInteger document context n)
    (hi : i.natAbs < 2 ^ 52) (hn : n.natAbs < 2 ^ 52) :
    (Expr.call .substring [x, start, length]).eval document context =
      .ok (.text
        (String.ofList (slice (max 1 i) (min whole.length (i + n - 1)) whole.toList))) := by
  rcases hx with ⟨first, hfirst, rfl⟩
  rcases hstart with ⟨second, hsecond, hi'⟩
  rcases hlength with ⟨third, hthird, hn'⟩
  rw [Expr.eval_call _ (.cons hfirst (.cons hsecond (.cons hthird .nil)))]
  simp only [CoreFunction.apply, substring_eq_slice hi' hn' hi hn, String.length_toList]

theorem Expr.eval_substring_to_end (hx : x.HasText document context whole)
    (hstart : start.HasInteger document context i) (hi : i.natAbs < 2 ^ 52) :
    (Expr.call .substring [x, start]).eval document context =
      .ok (.text (String.ofList (slice i whole.length whole.toList))) := by
  rcases hx with ⟨first, hfirst, rfl⟩
  rcases hstart with ⟨second, hsecond, hi'⟩
  rw [Expr.eval_call _ (.cons hfirst (.cons hsecond .nil))]
  simp only [CoreFunction.apply, substring_eq_slice_to_end hi' hi, String.length_toList]

end

/-- Calls of `substring` for integers that are exact, with a bit to spare: the call for a start and
a length gives the characters from the position of the start on, as many as the length says, and
the call without a length gives all of them.  The call for the first `k` characters and the one for
the characters from `k + 1` on make up the text, also when `k` is negative or too large. -/
theorem substrings_are_slices (document : Document) (context : Context) (x : Expr) {whole : String}
    (hx : x.HasText document context whole) :
    (∀ start length i n, start.HasInteger document context i →
      length.HasInteger document context n → i.natAbs < 2 ^ 51 → n.natAbs < 2 ^ 51 →
        (Expr.call .substring [x, start, length]).eval document context =
          .ok (.text
            (String.ofList (slice (max 1 i) (min whole.length (i + n - 1)) whole.toList)))) ∧
    (∀ start i, start.HasInteger document context i → i.natAbs < 2 ^ 51 →
      (Expr.call .substring [x, start]).eval document context =
        .ok (.text (String.ofList (slice i whole.length whole.toList)))) ∧
    ∀ one count next k, one.HasInteger document context 1 →
      count.HasInteger document context k → next.HasInteger document context (k + 1) →
      k.natAbs < 2 ^ 51 →
        (Expr.call .concat [.call .substring [x, one, count], .call .substring [x, next]]).eval
          document context = .ok (.text whole) := by
  refine ⟨?_, ?_, ?_⟩
  · intro start length i n hstart hlength hi hn
    exact Expr.eval_substring hx hstart hlength (by omega) (by omega)
  · intro start i hstart hi
    exact Expr.eval_substring_to_end hx hstart (by omega)
  · intro one count next k hone hcount hnext hk
    have hfront := Expr.eval_substring hx hone hcount (by decide) (by omega)
    have hback := Expr.eval_substring_to_end hx hnext (by omega)
    have hmeet := slice_append_slice k whole.toList
    rw [String.length_toList] at hmeet
    rw [max_self, add_sub_cancel_left, ← String.length_toList, slice_min_length] at hfront
    rw [Expr.eval_concat (.cons (Expr.hasText_of_eval hfront)
      (.cons (Expr.hasText_of_eval hback) .nil)), Except.ok.injEq, Value.text.injEq,
      ← String.toList_inj]
    simpa using hmeet

theorem substrings_around_second_letter_are_slices :
    (Expr.literal "héllo").HasText overlappingDocument rootContext "héllo" ∧
    (Expr.negate (.number 1)).HasInteger overlappingDocument rootContext (-1) ∧
    (Expr.number 4).HasInteger overlappingDocument rootContext 4 ∧
    (Expr.call .substring [.literal "héllo", .negate (.number 1), .number 4]).eval
      overlappingDocument rootContext = .ok (.text "hé") ∧
    (Expr.call .substring [.literal "héllo", .number 4]).eval overlappingDocument rootContext =
      .ok (.text "lo") ∧
    (Expr.number 1).HasInteger overlappingDocument rootContext 1 ∧
    (Expr.number 3).HasInteger overlappingDocument rootContext 3 ∧
    (Expr.call .concat [.call .substring [.literal "héllo", .number 1, .number 3],
        .call .substring [.literal "héllo", .number 4]]).eval overlappingDocument rootContext =
      .ok (.text "héllo") := by
  have htext : (Expr.literal "héllo").HasText overlappingDocument rootContext "héllo" :=
    ⟨.text "héllo", rfl, rfl⟩
  have hbefore : (Expr.negate (.number 1)).HasInteger overlappingDocument rootContext (-1) :=
    ⟨.number (Number.neg 1), rfl, by decide +kernel⟩
  have hone : (Expr.number 1).HasInteger overlappingDocument rootContext 1 :=
    ⟨.number 1, rfl, by decide +kernel⟩
  have hthree : (Expr.number 3).HasInteger overlappingDocument rootContext 3 :=
    ⟨.number 3, rfl, by decide +kernel⟩
  have hfour : (Expr.number 4).HasInteger overlappingDocument rootContext 4 :=
    ⟨.number 4, rfl, by decide +kernel⟩
  rcases substrings_are_slices overlappingDocument rootContext _ htext with ⟨hslice, hend, hmeet⟩
  have hfront := hslice _ _ _ _ hbefore hfour (by decide) (by decide)
  have hback := hend _ _ hfour (by decide)
  have hfrontText : String.ofList (slice (max 1 (-1))
      (min ("héllo".length : Int) (-1 + 4 - 1)) "héllo".toList) = "hé" := by cbv
  have hbackText : String.ofList (slice 4 ("héllo".length : Int) "héllo".toList) = "lo" := by cbv
  rw [hfrontText] at hfront
  rw [hbackText] at hback
  exact ⟨htext, hbefore, hfour, hfront, hback, hone, hthree,
    hmeet _ _ _ 3 hone hthree hfour (by decide)⟩

end Locator
end RecordExtraction
