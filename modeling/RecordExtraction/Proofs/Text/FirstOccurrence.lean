import Mathlib.Data.List.Infix
import RecordExtraction.Text.Search

/-!
# First occurrences

A text is split by a needle exactly when the needle occurs in it, and the part before the needle is
then the shortest one that any occurrence leaves.  The empty needle occurs in front of everything.
-/

namespace RecordExtraction

variable {α : Type} [BEq α] [LawfulBEq α] {needle text before after : List α}

theorem afterStart?_eq_none_iff : afterStart? needle text = none ↔ ¬needle <+: text := by
  constructor
  · intro hnone hstart
    rcases hstart with ⟨rest, hrest⟩
    rw [afterStart?_eq_some_iff.mpr hrest.symm] at hnone
    cases hnone
  · intro hstart
    rw [Option.eq_none_iff_forall_ne_some]
    intro rest hrest
    exact hstart ⟨rest, (afterStart?_eq_some_iff.mp hrest).symm⟩

/-- The needle stands between the two parts of the text, and nowhere further to the front. -/
structure FirstBetween (needle text before after : List α) : Prop where
  joined : before ++ needle ++ after = text
  first : ∀ front rest, front ++ needle ++ rest = text → before.length ≤ front.length

omit [BEq α] [LawfulBEq α] in
theorem FirstBetween.of_append (htext : needle ++ after = text) :
    FirstBetween needle text [] after :=
  ⟨htext, fun front _ _ => Nat.zero_le front.length⟩

omit [BEq α] [LawfulBEq α] in
/-- A character in front makes no difference, unless the needle occurs where it stands. -/
theorem FirstBetween.cons {x : α} (hbetween : FirstBetween needle text before after)
    (hstart : ¬needle <+: x :: text) : FirstBetween needle (x :: text) (x :: before) after := by
  constructor
  · rw [List.cons_append, List.cons_append, hbetween.joined]
  · intro front rest htext
    cases front with
    | nil => exact absurd ⟨rest, htext⟩ hstart
    | cons y front =>
        rw [List.cons_append, List.cons_append, List.cons.injEq] at htext
        exact Nat.succ_le_succ (hbetween.first front rest htext.2)

omit [LawfulBEq α] in
theorem splitFirst?_cons (x : α) :
    splitFirst? needle (x :: text) =
      match afterStart? needle (x :: text) with
      | some after => some ([], after)
      | none => (splitFirst? needle text).map fun (before, after) => (x :: before, after) := rfl

theorem firstBetween_of_splitFirst? (hsplit : splitFirst? needle text = some (before, after)) :
    FirstBetween needle text before after := by
  induction text generalizing before with
  | nil =>
      cases needle with
      | nil =>
          cases hsplit
          exact .of_append rfl
      | cons x needle => cases hsplit
  | cons x text ih =>
      rw [splitFirst?_cons] at hsplit
      split at hsplit
      · next rest hrest =>
          cases hsplit
          exact .of_append (afterStart?_eq_some_iff.mp hrest).symm
      · next hnone =>
          simp only [Option.map_eq_some_iff, Prod.exists, Prod.mk.injEq] at hsplit
          rcases hsplit with ⟨later, rest, hlater, rfl, rfl⟩
          exact (ih hlater).cons (afterStart?_eq_none_iff.mp hnone)

theorem splitFirst?_eq_none_iff : splitFirst? needle text = none ↔ ¬needle <:+: text := by
  induction text with
  | nil => cases needle <;> simp [splitFirst?]
  | cons x text ih =>
      rw [List.infix_cons_iff, not_or, ← ih, ← afterStart?_eq_none_iff, splitFirst?_cons]
      cases afterStart? needle (x :: text) <;> simp

theorem isSome_splitFirst?_iff : (splitFirst? needle text).isSome = true ↔ needle <:+: text := by
  rw [← not_iff_not, ← splitFirst?_eq_none_iff, Bool.not_eq_true, Option.isSome_eq_false_iff,
    Option.isNone_iff_eq_none]

/-- The needle occurs at the front exactly when it occurs and nothing is before its first
occurrence. -/
theorem isSome_afterStart?_iff :
    (afterStart? needle text).isSome = true ↔
      ∃ after, splitFirst? needle text = some ([], after) := by
  rw [Option.isSome_iff_exists]
  constructor
  · intro hstart
    rcases hstart with ⟨rest, hrest⟩
    have htext := (afterStart?_eq_some_iff.mp hrest).symm
    cases hsplit : splitFirst? needle text with
    | none =>
        have hfront : needle <+: text := ⟨rest, htext⟩
        exact absurd hfront.isInfix (splitFirst?_eq_none_iff.mp hsplit)
    | some parts =>
        rcases parts with ⟨before, after⟩
        have hshort := (firstBetween_of_splitFirst? hsplit).first [] rest htext
        rw [List.eq_nil_of_length_eq_zero (Nat.le_zero.mp hshort)]
        exact ⟨after, rfl⟩
  · intro hsplit
    rcases hsplit with ⟨after, hafter⟩
    have htext := (firstBetween_of_splitFirst? hafter).joined
    exact ⟨after, afterStart?_eq_some_iff.mpr htext.symm⟩

end RecordExtraction
