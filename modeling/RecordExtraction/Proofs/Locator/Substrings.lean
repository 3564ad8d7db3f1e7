import Mathlib
import RecordExtraction.Locator.Evaluation
import RecordExtraction.Proofs.Outcome
import RecordExtraction.Proofs.Text.FirstOccurrence

/-!
# Texts around a part of a text

A call has the value that its function returns for the values of its arguments.  The functions that
look for one text in another all find its first occurrence: what is before it, the part itself and
what is after it make up the text, and the text starts with the part when nothing is before it.
-/

namespace RecordExtraction
namespace Locator

open Markup

variable {document : Document} {context : Context}

/-! ## Calls -/

theorem evalAll_of_values {arguments : List Expr} {values : List Value}
    (hvalues : List.Forall₂ (fun argument value => argument.eval document context = .ok value)
      arguments values) :
    evalAll document arguments context = .ok values := by
  induction hvalues with
  | nil => rfl
  | cons hvalue _ ih => simp only [evalAll, hvalue, ih, ok_bind]

theorem Expr.eval_call (function : CoreFunction) {arguments : List Expr} {values : List Value}
    (hvalues : List.Forall₂ (fun argument value => argument.eval document context = .ok value)
      arguments values) :
    (Expr.call function arguments).eval document context =
      function.apply document context values := by
  simp only [Expr.eval, evalAll_of_values hvalues, ok_bind]

/-- The expression has a value, and the text is what the value is taken as. -/
def Expr.HasText (document : Document) (context : Context) (expr : Expr) (text : String) : Prop :=
  ∃ value, expr.eval document context = .ok value ∧ value.toText document = text

theorem Expr.hasText_of_eval {expr : Expr} {text : String}
    (hvalue : expr.eval document context = .ok (.text text)) :
    expr.HasText document context text :=
  ⟨.text text, hvalue, rfl⟩

/-- A call of `concat` puts the texts of its arguments together. -/
theorem Expr.eval_concat {arguments : List Expr} {texts : List String}
    (htexts : List.Forall₂ (fun argument text => argument.HasText document context text)
      arguments texts) :
    (Expr.call .concat arguments).eval document context = .ok (.text (String.join texts)) := by
  have hjoin : ∃ values : List Value,
      List.Forall₂ (fun argument value => argument.eval document context = .ok value)
        arguments values ∧
      values.map (Value.toText document) = texts := by
    induction htexts with
    | nil => exact ⟨[], .nil, rfl⟩
    | cons htext _ ih =>
        rcases htext with ⟨value, hvalue, rfl⟩
        rcases ih with ⟨values, hvalues, rfl⟩
        exact ⟨value :: values, .cons hvalue hvalues, rfl⟩
  rcases hjoin with ⟨values, hvalues, rfl⟩
  rw [Expr.eval_call _ hvalues]
  simp only [CoreFunction.apply, Except.ok.injEq, Value.text.injEq]
  rw [← String.toList_inj, String.toList_ofList, String.toList_join, List.flatMap_map]

theorem ofList_eq_empty_iff {chars : List Char} : String.ofList chars = "" ↔ chars = [] := by
  rw [← String.toList_inj, String.toList_ofList, String.toList_empty]

/-! ## Parts of texts -/

variable {text part before after : List Char}

theorem contains_eq_true_iff : contains text part = true ↔ part <:+: text :=
  isSome_splitFirst?_iff

theorem contains_eq_false_iff : contains text part = false ↔ splitFirst? part text = none := by
  unfold contains
  rw [Option.isSome_eq_false_iff, Option.isNone_iff_eq_none]

theorem firstBetween_of_contains (hcontains : contains text part = true) :
    FirstBetween part text (substringBefore text part) (substringAfter text part) := by
  unfold contains at hcontains
  rcases Option.isSome_iff_exists.mp hcontains with ⟨⟨before, after⟩, hsplit⟩
  unfold substringBefore substringAfter
  rw [hsplit]
  exact firstBetween_of_splitFirst? hsplit

theorem parts_of_not_contains (hcontains : contains text part = false) :
    substringBefore text part = [] ∧ substringAfter text part = [] := by
  unfold substringBefore substringAfter
  rw [contains_eq_false_iff.mp hcontains]
  exact ⟨rfl, rfl⟩

theorem startsWith_eq (text part : List Char) :
    startsWith text part = (contains text part && (substringBefore text part).isEmpty) := by
  rw [Bool.eq_iff_iff, Bool.and_eq_true, List.isEmpty_iff]
  unfold startsWith contains substringBefore
  rw [isSome_afterStart?_iff]
  cases hsplit : splitFirst? part text with
  | none => simp
  | some parts => simp [Prod.ext_iff]

/-! ## Evaluating calls -/

/-- The part stands between the two others in the text, and no shorter text before it makes it
stand there. -/
structure SplitsAtFirst (text part before after : String) : Prop where
  joined : before ++ part ++ after = text
  first : ∀ front rest, front ++ part ++ rest = text → before.length ≤ front.length

theorem splitsAtFirst_of_firstBetween {text part : String}
    (hbetween : FirstBetween part.toList text.toList before after) :
    SplitsAtFirst text part (String.ofList before) (String.ofList after) := by
  constructor
  · rw [← String.toList_inj]
    simpa using hbetween.joined
  · intro front rest hjoined
    have htext := congrArg String.toList hjoined
    rw [String.toList_append, String.toList_append] at htext
    have hlength := hbetween.first front.toList rest.toList htext
    rwa [String.length_toList, ← String.length_ofList] at hlength

/-- The calls that look for one text in another have values.  The text contains the part if that
occurs in it; then `concat` puts the text together again from the part and what the calls find
before and after it, and no shorter piece of the text stands before the part.  If it does not occur,
both pieces are empty.  The text starts with the part if it contains it and nothing is before it. -/
theorem calls_split_at_first_occurrence (document : Document) (context : Context) (x y : Expr)
    {text part : String} (hx : x.HasText document context text)
    (hy : y.HasText document context part) :
    ∃ found starts before after,
      (Expr.call .contains [x, y]).eval document context = .ok (.boolean found) ∧
      (Expr.call .startsWith [x, y]).eval document context = .ok (.boolean starts) ∧
      (Expr.call .substringBefore [x, y]).eval document context = .ok (.text before) ∧
      (Expr.call .substringAfter [x, y]).eval document context = .ok (.text after) ∧
      (found = true ↔ part.toList <:+: text.toList) ∧
      (found = true →
        (Expr.call .concat [.call .substringBefore [x, y], y, .call .substringAfter [x, y]]).eval
            document context = .ok (.text text) ∧
          SplitsAtFirst text part before after) ∧
      (found = false → before = "" ∧ after = "") ∧
      (starts = true ↔ found = true ∧ before = "") := by
  rcases hx with ⟨first, hfirst, htext⟩
  rcases hy with ⟨second, hsecond, hpart⟩
  have hvalues : List.Forall₂ (fun argument value => argument.eval document context = .ok value)
      [x, y] [first, second] := .cons hfirst (.cons hsecond .nil)
  have hbefore :
      (Expr.call .substringBefore [x, y]).eval document context =
        .ok (.text (String.ofList (substringBefore text.toList part.toList))) := by
    simp only [Expr.eval_call _ hvalues, CoreFunction.apply, htext, hpart]
  have hafter :
      (Expr.call .substringAfter [x, y]).eval document context =
        .ok (.text (String.ofList (substringAfter text.toList part.toList))) := by
    simp only [Expr.eval_call _ hvalues, CoreFunction.apply, htext, hpart]
  refine ⟨contains text.toList part.toList, startsWith text.toList part.toList, _, _, ?_, ?_,
    hbefore, hafter, contains_eq_true_iff, ?_, ?_, ?_⟩
  · simp only [Expr.eval_call _ hvalues, CoreFunction.apply, htext, hpart]
  · simp only [Expr.eval_call _ hvalues, CoreFunction.apply, htext, hpart]
  · intro hcontains
    have hsplits := splitsAtFirst_of_firstBetween (firstBetween_of_contains hcontains)
    refine ⟨?_, hsplits⟩
    rw [Expr.eval_concat (.cons (Expr.hasText_of_eval hbefore)
      (.cons ⟨second, hsecond, hpart⟩ (.cons (Expr.hasText_of_eval hafter) .nil)))]
    simpa [String.append_assoc] using hsplits.joined
  · intro hcontains
    rw [ofList_eq_empty_iff, ofList_eq_empty_iff]
    exact parts_of_not_contains hcontains
  · rw [startsWith_eq, Bool.and_eq_true, List.isEmpty_iff, ofList_eq_empty_iff]

/-- An element with a text in which `éaé` occurs twice, and the occurrences overlap. -/
def overlappingDocument : Document :=
  .ofContent (.element ⟨none, "a", [], {}⟩ (.leaf (.text "xéaéaé") .nil) .nil)

theorem calls_split_overlapping_at_first_occurrence :
    (Expr.path .root []).HasText overlappingDocument rootContext "xéaéaé" ∧
    (Expr.literal "éaé").HasText overlappingDocument rootContext "éaé" ∧
    (Expr.call .contains [.path .root [], .literal "éaé"]).eval overlappingDocument rootContext =
      .ok (.boolean true) ∧
    (Expr.call .concat [.call .substringBefore [.path .root [], .literal "éaé"], .literal "éaé",
        .call .substringAfter [.path .root [], .literal "éaé"]]).eval overlappingDocument
          rootContext = .ok (.text "xéaéaé") ∧
    SplitsAtFirst "xéaéaé" "éaé" "x" "aé" ∧
    (Expr.call .startsWith [.path .root [], .literal "éaé"]).eval overlappingDocument rootContext =
      .ok (.boolean false) := by
  have hroot : (Expr.path .root []).HasText overlappingDocument rootContext "xéaéaé" :=
    ⟨.nodes [.node 0], by cbv, by cbv⟩
  have hliteral : (Expr.literal "éaé").HasText overlappingDocument rootContext "éaé" :=
    ⟨.text "éaé", by cbv, rfl⟩
  have hcontains : (Expr.call .contains [.path .root [], .literal "éaé"]).eval overlappingDocument
      rootContext = .ok (.boolean true) := by cbv
  have hbefore : (Expr.call .substringBefore [.path .root [], .literal "éaé"]).eval
      overlappingDocument rootContext = .ok (.text "x") := by cbv
  have hafter : (Expr.call .substringAfter [.path .root [], .literal "éaé"]).eval
      overlappingDocument rootContext = .ok (.text "aé") := by cbv
  rcases calls_split_at_first_occurrence overlappingDocument rootContext _ _ hroot hliteral with
    ⟨found, starts, before, after, hfound, hstarts, hbefore', hafter', -, hsplits, -, hiff⟩
  rw [hcontains] at hfound
  rw [hbefore] at hbefore'
  rw [hafter] at hafter'
  cases hfound
  cases hbefore'
  cases hafter'
  have hnot : starts = false := by
    cases starts with
    | true => exact absurd (hiff.mp rfl).2 (by decide)
    | false => rfl
  rw [hnot] at hstarts
  exact ⟨hroot, hliteral, hcontains, (hsplits rfl).1, (hsplits rfl).2, hstarts⟩

end Locator
end RecordExtraction
