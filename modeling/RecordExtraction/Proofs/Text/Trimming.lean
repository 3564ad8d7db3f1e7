import Mathlib.Data.List.DropRight
import RecordExtraction.Text.Blank

/-!
# Trimming

Trimming a list cuts off the longest pieces at both ends whose members are all of one sort.  What is
left neither begins nor ends with such a member, and this determines it: it is the same however the
ends are padded.
-/

namespace RecordExtraction

section

variable {α : Type} {p : α → Bool} {front core back rest items : List α}

/-! ## The end -/

theorem dropEndWhile_eq_nil_iff : dropEndWhile p rest = [] ↔ ∀ x ∈ rest, p x = true :=
  List.rdropWhile_eq_nil_iff

theorem dropEndWhile_append_of_all (hrest : ∀ x ∈ rest, p x = true) :
    dropEndWhile p (front ++ rest) = dropEndWhile p front := by
  unfold dropEndWhile
  rw [List.reverse_append, List.dropWhile_append_of_pos]
  intro x hx
  exact hrest x (List.mem_reverse.mp hx)

theorem dropEndWhile_append_of_ne_nil (hrest : dropEndWhile p rest ≠ []) :
    dropEndWhile p (front ++ rest) = front ++ dropEndWhile p rest := by
  have hleft : (rest.reverse.dropWhile p).isEmpty = false := by
    rw [List.isEmpty_eq_false_iff]
    intro hnil
    exact hrest (by rw [dropEndWhile, hnil, List.reverse_nil])
  unfold dropEndWhile
  rw [List.reverse_append, List.dropWhile_append, hleft]
  simp

/-- If not everything is dropped, the first member stays. -/
theorem exists_dropEndWhile_cons {x : α} (hrest : dropEndWhile p (x :: rest) ≠ []) :
    ∃ more, dropEndWhile p (x :: rest) = x :: more := by
  have hbegin : dropEndWhile p (x :: rest) <+: x :: rest := List.rdropWhile_prefix p _
  rcases List.prefix_cons_iff.mp hbegin with hnil | ⟨more, hmore, -⟩
  · exact absurd hnil hrest
  · exact ⟨more, hmore⟩

/-! ## Both ends -/

theorem exists_trimWhile (p : α → Bool) (items : List α) :
    ∃ tail, (∀ item ∈ tail, p item = true) ∧
      items = items.takeWhile p ++ (trimWhile p items ++ tail) := by
  refine ⟨(items.dropWhile p).rtakeWhile p, fun item => List.mem_rtakeWhile_imp, ?_⟩
  have hend : trimWhile p items ++ (items.dropWhile p).rtakeWhile p = items.dropWhile p :=
    List.rdropWhile_append_rtakeWhile
  rw [hend, List.takeWhile_append_dropWhile]

/-- The list neither begins nor ends with a member of the sort. -/
structure Trimmed (p : α → Bool) (items : List α) : Prop where
  first : ∀ x ∈ items.head?, p x = false
  last : ∀ x ∈ items.getLast?, p x = false

theorem trimmed_trimWhile : Trimmed p (trimWhile p items) := by
  constructor
  · intro x hx
    rcases List.head?_eq_some_iff.mp hx with ⟨more, hmore⟩
    have hprefix : trimWhile p items <+: items.dropWhile p := List.rdropWhile_prefix p _
    rcases hprefix with ⟨tail, htail⟩
    have hnot := List.head?_dropWhile_not p items
    rw [← htail, hmore, List.cons_append, List.head?_cons] at hnot
    exact hnot
  · intro x hx
    have hne : trimWhile p items ≠ [] := by
      intro hnil
      rw [hnil] at hx
      cases hx
    have hnot := List.rdropWhile_last_not p (items.dropWhile p) hne
    rw [List.getLast?_eq_some_getLast hne, Option.mem_def, Option.some.injEq] at hx
    rw [← hx]
    exact Bool.not_eq_true _ ▸ hnot

/-- Padding at both ends is cut off. -/
theorem Trimmed.trimWhile_padded (htrimmed : Trimmed p core) (hfront : ∀ x ∈ front, p x = true)
    (hback : ∀ x ∈ back, p x = true) :
    trimWhile p (front ++ (core ++ back)) = core := by
  rw [trimWhile, List.dropWhile_append_of_pos hfront]
  cases core with
  | nil =>
      rw [List.nil_append, List.dropWhile_eq_nil_iff.mpr hback]
      rfl
  | cons x more =>
      have hx : ¬p x = true := by
        rw [htrimmed.first x rfl]
        exact Bool.false_ne_true
      rw [List.cons_append, List.dropWhile_cons_of_neg hx, ← List.cons_append,
        dropEndWhile_append_of_all hback]
      apply List.rdropWhile_eq_self_iff.mpr
      intro hne
      rw [htrimmed.last _ (List.getLast?_eq_some_getLast hne)]
      exact Bool.false_ne_true

theorem Trimmed.trimWhile_eq (htrimmed : Trimmed p core) : trimWhile p core = core := by
  have hbare := htrimmed.trimWhile_padded (List.forall_mem_nil _) (List.forall_mem_nil _)
  rwa [List.nil_append, List.append_nil] at hbare

end
end RecordExtraction
