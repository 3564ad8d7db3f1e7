import Mathlib
import RecordExtraction.Proofs.Text.Trimming

/-!
# Words

The words of a text are its maximal runs of characters that do not separate.  Every text has one row
of such runs, and `words` finds it.  When the words are put together again with one separator
between them, the runs are the same, and the separators that are left stand between two other
characters.
-/

namespace RecordExtraction

variable {separates : Char → Bool} {text gap rest before after : List Char}
  {runs others : List (List Char)} {c separator : Char}

/-- The maximal runs of characters that do not separate, in order.  After each of them the text ends
or a separator follows. -/
inductive Runs (separates : Char → Bool) : (text : List Char) → (runs : List (List Char)) → Prop
  | gap {text : List Char} (hgap : ∀ c ∈ text, separates c = true) : Runs separates text []
  | run {gap run rest : List Char} {runs : List (List Char)}
      (hgap : ∀ c ∈ gap, separates c = true) (hne : run ≠ [])
      (hrun : ∀ c ∈ run, separates c = false) (hend : ∀ c ∈ rest.head?, separates c = true)
      (hrest : Runs separates rest runs) : Runs separates (gap ++ (run ++ rest)) (run :: runs)

/-! ## Finding the runs -/

theorem Runs.cons (hc : separates c = true) (hruns : Runs separates text runs) :
    Runs separates (c :: text) runs := by
  cases hruns with
  | gap hgap => exact .gap (List.forall_mem_cons.mpr ⟨hc, hgap⟩)
  | run hgap hne hrun hend hrest =>
      exact .run (List.forall_mem_cons.mpr ⟨hc, hgap⟩) hne hrun hend hrest

/-- A text that begins with a run. -/
theorem Runs.front {run : List Char} (hne : run ≠ []) (hrun : ∀ c ∈ run, separates c = false)
    (hend : ∀ c ∈ rest.head?, separates c = true) (hrest : Runs separates rest runs) :
    Runs separates (run ++ rest) (run :: runs) :=
  .run (List.forall_mem_nil _) hne hrun hend hrest

theorem Runs.single {run : List Char} (hne : run ≠ []) (hrun : ∀ c ∈ run, separates c = false) :
    Runs separates run [run] := by
  have hfront : Runs separates (run ++ []) [run] :=
    .front hne hrun nofun (.gap (List.forall_mem_nil _))
  rwa [List.append_nil] at hfront

theorem runs_go (word : List Char) (hword : ∀ c ∈ word, separates c = false) (text : List Char) :
    Runs separates (word.reverse ++ text) (words.go separates word text) := by
  have hreverse : ∀ c ∈ word.reverse, separates c = false :=
    fun c hc => hword c (List.mem_reverse.mp hc)
  induction text generalizing word with
  | nil =>
      rw [words.go]
      split
      · next hempty =>
          rw [List.isEmpty_iff.mp hempty]
          exact .gap (List.forall_mem_nil _)
      · next hnonempty =>
          have hne : word.reverse ≠ [] := by simpa using hnonempty
          rw [List.append_nil]
          exact .single hne hreverse
  | cons c rest ih =>
      rw [words.go]
      split
      · next hc =>
          have hlater : Runs separates (c :: rest) (words.go separates [] rest) :=
            .cons hc (ih [] (List.forall_mem_nil _) (List.forall_mem_nil _))
          split
          · next hempty =>
              rw [List.isEmpty_iff.mp hempty]
              exact hlater
          · next hnonempty =>
              have hne : word.reverse ≠ [] := by simpa using hnonempty
              exact .front hne hreverse (by simpa using hc) hlater
      · next hc =>
          have hlonger : ∀ d ∈ c :: word, separates d = false :=
            List.forall_mem_cons.mpr ⟨Bool.eq_false_iff.mpr hc, hword⟩
          have hrest := ih (c :: word) hlonger fun d hd => hlonger d (List.mem_reverse.mp hd)
          rwa [List.reverse_cons, List.append_assoc] at hrest

theorem runs_words (separates : Char → Bool) (text : List Char) :
    Runs separates text (words separates text) :=
  runs_go [] (List.forall_mem_nil _) text

theorem words_gap_append (hgap : ∀ c ∈ gap, separates c = true) (rest : List Char) :
    words separates (gap ++ rest) = words separates rest := by
  induction gap with
  | nil => rfl
  | cons c gap ih =>
      rw [List.forall_mem_cons] at hgap
      rw [← ih hgap.2, words, List.cons_append, words.go, if_pos hgap.1]
      rfl

theorem go_run_append {run : List Char} (hrun : ∀ c ∈ run, separates c = false)
    (word rest : List Char) :
    words.go separates word (run ++ rest) = words.go separates (run.reverse ++ word) rest := by
  induction run generalizing word with
  | nil => rfl
  | cons c run ih =>
      rw [List.forall_mem_cons] at hrun
      rw [List.cons_append, words.go, if_neg (by rw [hrun.1]; exact Bool.false_ne_true),
        ih hrun.2, List.reverse_cons, List.append_assoc]
      rfl

theorem words_run_append {run : List Char} (hne : run ≠ []) (hrun : ∀ c ∈ run, separates c = false)
    (hend : ∀ c ∈ rest.head?, separates c = true) :
    words separates (run ++ rest) = run :: words separates rest := by
  have hnonempty : ¬run.reverse.isEmpty = true := by simpa using hne
  rw [words, go_run_append hrun, List.append_nil]
  cases rest with
  | nil =>
      rw [words.go, if_neg hnonempty, List.reverse_reverse]
      rfl
  | cons c rest =>
      have hc : separates c = true := hend c rfl
      rw [words.go, if_pos hc, if_neg hnonempty, List.reverse_reverse, words, words.go, if_pos hc]
      rfl

/-- A text has one row of maximal runs, and its words are these. -/
theorem runs_iff : Runs separates text runs ↔ runs = words separates text := by
  constructor
  · intro hruns
    induction hruns with
    | @gap text hgap =>
        rw [← List.append_nil text, words_gap_append hgap]
        rfl
    | run hgap hne hrun hend hrest ih =>
        rw [words_gap_append hgap, words_run_append hne hrun hend, ih]
  · rintro rfl
    exact runs_words separates text

/-! ## One separator between two words -/

theorem intercalate_cons_of_ne_nil {run : List Char} (hruns : runs ≠ []) :
    [separator].intercalate (run :: runs) = run ++ separator :: [separator].intercalate runs := by
  cases runs with
  | nil => exact absurd rfl hruns
  | cons next runs =>
      rw [List.intercalate_cons_cons, List.append_assoc]
      rfl

/-- Words with one separator between them are the runs of what they make up. -/
theorem Runs.intercalate (hseparator : separates separator = true)
    (hruns : Runs separates text runs) :
    Runs separates ([separator].intercalate runs) runs := by
  induction hruns with
  | gap hgap => exact .gap (List.forall_mem_nil _)
  | @run gap run rest runs hgap hne hrun hend hrest ih =>
      by_cases hlast : runs = []
      · subst hlast
        rw [List.intercalate_singleton]
        exact .single hne hrun
      · rw [intercalate_cons_of_ne_nil hlast]
        exact .front hne hrun (by simpa using hseparator) (.cons hseparator ih)

/-- Every character that separates is the given one, and stands between two characters that do not
separate. -/
def SinglySeparated (separates : Char → Bool) (separator : Char) (text : List Char) : Prop :=
  ∀ before c after, text = before ++ c :: after → separates c = true →
    c = separator ∧ (∃ d ∈ before.getLast?, separates d = false) ∧
      ∃ d ∈ after.head?, separates d = false

theorem SinglySeparated.trimmed (h : SinglySeparated separates separator text) :
    Trimmed separates text := by
  constructor
  · intro c hc
    rcases List.head?_eq_some_iff.mp hc with ⟨after, htext⟩
    rw [Bool.eq_false_iff]
    intro hseparates
    rcases (h [] c after htext hseparates).2.1 with ⟨d, hd, -⟩
    cases hd
  · intro c hc
    rcases List.getLast?_eq_some_iff.mp hc with ⟨before, htext⟩
    rw [Bool.eq_false_iff]
    intro hseparates
    rcases (h before c [] htext hseparates).2.2 with ⟨d, hd, -⟩
    cases hd

/-- The first character of words that are put together is the one of the first word. -/
theorem exists_head?_intercalate (hruns : Runs separates text runs) (hne : runs ≠ []) :
    ∃ d ∈ ([separator].intercalate runs).head?, separates d = false := by
  cases hruns with
  | gap hgap => exact absurd rfl hne
  | @run gap run rest runs hgap hword hrun hend hrest =>
      rcases List.exists_cons_of_ne_nil hword with ⟨d, more, rfl⟩
      refine ⟨d, ?_, hrun d List.mem_cons_self⟩
      by_cases hlast : runs = []
      · rw [hlast, List.intercalate_singleton]
        rfl
      · rw [intercalate_cons_of_ne_nil hlast]
        rfl

theorem exists_getLast? {run : List Char} (hne : run ≠ [])
    (hrun : ∀ c ∈ run, separates c = false) : ∃ d ∈ run.getLast?, separates d = false :=
  ⟨run.getLast hne, List.getLast?_eq_some_getLast hne, hrun _ (List.getLast_mem hne)⟩

/-- A character that is not in the front of a text comes after it. -/
theorem exists_of_not_mem_front {front : List Char}
    (hsplit : front ++ rest = before ++ c :: after) (hnot : c ∉ front) :
    ∃ between, before = front ++ between ∧ rest = between ++ c :: after := by
  rcases List.append_eq_append_iff.mp hsplit with h | ⟨between, hfront, hrest⟩
  · exact h
  · cases between with
    | nil =>
        rw [List.append_nil] at hfront
        exact ⟨[], by rw [List.append_nil, hfront], hrest.symm⟩
    | cons d between =>
        rw [List.cons_append, List.cons.injEq] at hrest
        rw [hfront, hrest.1] at hnot
        exact absurd (List.mem_append_right _ List.mem_cons_self) hnot

theorem Runs.singlySeparated (hruns : Runs separates text runs) :
    SinglySeparated separates separator ([separator].intercalate runs) := by
  induction hruns with
  | gap hgap =>
      intro before c after hsplit
      rw [List.intercalate_nil, eq_comm, List.append_eq_nil_iff] at hsplit
      cases hsplit.2
  | @run gap run rest runs hgap hne hrun hend hrest ih =>
      intro before c after hsplit hc
      have hnot : c ∉ run := by
        intro hmem
        rw [hrun c hmem] at hc
        cases hc
      by_cases hlast : runs = []
      · rw [hlast, List.intercalate_singleton] at hsplit
        exact absurd (hsplit ▸ List.mem_append_right before List.mem_cons_self) hnot
      · rw [intercalate_cons_of_ne_nil hlast] at hsplit
        rcases exists_of_not_mem_front hsplit hnot with ⟨between, rfl, hrest'⟩
        -- Either it is the separator after the word, or it stands among the words after that.
        cases between with
        | nil =>
            cases hrest'
            rw [List.append_nil]
            exact ⟨rfl, exists_getLast? hne hrun, exists_head?_intercalate hrest hlast⟩
        | cons d between =>
            rw [List.cons_append, List.cons.injEq] at hrest'
            rcases ih between c after hrest'.2 hc with ⟨heq, ⟨e, he, hsep⟩, hafter⟩
            refine ⟨heq, ⟨e, ?_, hsep⟩, hafter⟩
            rw [List.getLast?_append_cons, List.getLast?_cons, he]
            rfl

end RecordExtraction
