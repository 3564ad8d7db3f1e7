import Mathlib
import RecordExtraction.Proofs.Locator.Substrings
import RecordExtraction.Proofs.Text.Words

/-!
# Normalizing space

A text with normalized space is made up of the words of the text, with one space between them.  So
no white space is left at its ends, its words are the same, and it is its own normal form.
-/

namespace RecordExtraction
namespace Locator

open Markup

variable {text : List Char}

/-! ## Texts -/

theorem runs_normalizeSpace (text : List Char) :
    Runs isSpace (normalizeSpace text) (words isSpace text) :=
  (runs_words isSpace text).intercalate rfl

theorem singlySeparated_normalizeSpace (text : List Char) :
    SinglySeparated isSpace ' ' (normalizeSpace text) :=
  (runs_words isSpace text).singlySeparated

theorem words_normalizeSpace (text : List Char) :
    words isSpace (normalizeSpace text) = words isSpace text :=
  (runs_iff.mp (runs_normalizeSpace text)).symm

theorem normalizeSpace_normalizeSpace (text : List Char) :
    normalizeSpace (normalizeSpace text) = normalizeSpace text := by
  rw [normalizeSpace, words_normalizeSpace]
  rfl

/-! ## Evaluating calls -/

variable {document : Document} {context : Context} {x : Expr} {whole : String}

theorem Expr.eval_normalizeSpace (hx : x.HasText document context whole) :
    (Expr.call .normalizeSpace [x]).eval document context =
      .ok (.text (String.ofList (normalizeSpace whole.toList))) := by
  rcases hx with ⟨value, hvalue, rfl⟩
  rw [Expr.eval_call _ (.cons hvalue .nil)]
  rfl

theorem Expr.eval_normalizeSpace_context (document : Document) (context : Context) :
    (Expr.call .normalizeSpace []).eval document context =
      .ok (.text (String.ofList (normalizeSpace (context.item.text document).toList))) := by
  rw [Expr.eval_call _ .nil]
  rfl

/-- What `normalize-space` returns for a text, also for the one of the context item, has no white
space at its ends and one space, which is no other white space, between two words.  Its words are
those of the text, and the function leaves it as it is. -/
theorem space_is_normalized (document : Document) (context : Context) (x : Expr) {whole : String}
    (hx : x.HasText document context whole) :
    ∃ result,
      (Expr.call .normalizeSpace [x]).eval document context = .ok (.text result) ∧
      (context.item.text document = whole →
        (Expr.call .normalizeSpace []).eval document context = .ok (.text result)) ∧
      Trimmed isSpace result.toList ∧
      SinglySeparated isSpace ' ' result.toList ∧
      (∃ runs, (∀ others, Runs isSpace whole.toList others ↔ others = runs) ∧
        (∀ others, Runs isSpace result.toList others ↔ others = runs) ∧
        result = " ".intercalate (runs.map String.ofList)) ∧
      (Expr.call .normalizeSpace [.call .normalizeSpace [x]]).eval document context =
        .ok (.text result) := by
  have hsingle := singlySeparated_normalizeSpace whole.toList
  have hresult := Expr.eval_normalizeSpace hx
  refine ⟨String.ofList (normalizeSpace whole.toList), hresult, ?_, ?_, ?_, ?_, ?_⟩
  · rintro rfl
    exact Expr.eval_normalizeSpace_context document context
  · rw [String.toList_ofList]
    exact hsingle.trimmed
  · rw [String.toList_ofList]
    exact hsingle
  · refine ⟨words isSpace whole.toList, fun others => runs_iff, ?_, ?_⟩
    · intro others
      rw [String.toList_ofList, runs_iff, words_normalizeSpace]
    · rw [← String.toList_inj, String.toList_ofList, String.toList_intercalate, List.map_map]
      simp [normalizeSpace]
  · rw [Expr.eval_normalizeSpace (Expr.hasText_of_eval hresult), String.toList_ofList,
      normalizeSpace_normalizeSpace]

/-- White space of all sorts, and a no-break space, which is none in a document. -/
def indentedText : String := "\n a\t\r b\u00a0c "

theorem space_of_indentedText_is_normalized :
    (Expr.literal indentedText).HasText overlappingDocument rootContext indentedText ∧
    (Expr.call .normalizeSpace [.literal indentedText]).eval overlappingDocument rootContext =
      .ok (.text "a b\u00a0c") ∧
    Runs isSpace indentedText.toList ["a".toList, "b\u00a0c".toList] ∧
    (Expr.call .normalizeSpace [.call .normalizeSpace [.literal indentedText]]).eval
      overlappingDocument rootContext = .ok (.text "a b\u00a0c") := by
  have htext : (Expr.literal indentedText).HasText overlappingDocument rootContext indentedText :=
    ⟨_, rfl, rfl⟩
  rcases space_is_normalized overlappingDocument rootContext _ htext with
    ⟨result, hresult, -, -, -, ⟨runs, hruns, -, rfl⟩, hagain⟩
  have hwords : Runs isSpace indentedText.toList ["a".toList, "b\u00a0c".toList] :=
    runs_iff.mpr (by decide)
  cases (hruns _).mp hwords
  exact ⟨htext, hresult, hwords, hagain⟩

end Locator
end RecordExtraction
