import Mathlib.Data.List.Forall2

/-!
# Computations that can fail

A chain of computations succeeds exactly when each of its links does, and then with the results of
the links.  It fails where the first of its links fails.  A computation for every member of a list
succeeds exactly when it does for each of them, and relates the list to that of the results.
-/

namespace RecordExtraction

variable {ε α β γ : Type}

@[simp] theorem ok_bind (value : α) (next : α → Except ε β) :
    (Except.ok value >>= next) = next value := rfl

@[simp] theorem error_bind (e : ε) (next : α → Except ε β) :
    ((Except.error e : Except ε α) >>= next) = .error e := rfl

theorem bind_eq_ok_iff
    {computation : Except ε α} {next : α → Except ε β} {result : β} :
    (computation >>= next) = .ok result ↔
      ∃ value, computation = .ok value ∧ next value = .ok result := by
  cases computation with
  | error e => simp
  | ok value => simp

theorem bind_eq_error_iff
    {computation : Except ε α} {next : α → Except ε β} {e : ε} :
    (computation >>= next) = .error e ↔
      computation = .error e ∨ ∃ value, computation = .ok value ∧ next value = .error e := by
  cases computation with
  | error e => simp
  | ok value => simp

/-- The second computation of a chain matters only for the results of the first one. -/
theorem bind_congr_of_ok {first second : Except ε α} {f g : α → Except ε β}
    (hsame : first = second) (hnext : ∀ value, first = .ok value → f value = g value) :
    (first >>= f) = (second >>= g) := by
  subst hsame
  cases first with
  | error e => rfl
  | ok value => exact hnext value rfl

theorem map_eq_ok_iff
    {computation : Except ε α} {f : α → β} {result : β} :
    computation.map f = .ok result ↔ ∃ value, computation = .ok value ∧ f value = result := by
  cases computation with
  | error e => simp [Except.map]
  | ok value => simp [Except.map]

theorem map_eq_error_iff {computation : Except ε α} {f : α → β} {e : ε} :
    computation.map f = .error e ↔ computation = .error e := by
  cases computation with
  | error e => simp [Except.map]
  | ok value => simp [Except.map]

/-- Computations that have the same results and fail in one way only are the same. -/
theorem eq_of_same_results {first second : Except ε α}
    (hresults : ∀ result, first = .ok result ↔ second = .ok result)
    {e : ε} (hfirst : ∀ e', first = .error e' → e' = e)
    (hsecond : ∀ e', second = .error e' → e' = e) :
    first = second := by
  cases hcase : first with
  | ok result => exact ((hresults result).mp hcase).symm
  | error e' =>
      cases hother : second with
      | ok result =>
          rw [(hresults result).mpr hother] at hcase
          cases hcase
      | error e'' => rw [hfirst e' hcase, hsecond e'' hother]

/-! ## Lists -/

section

variable {R : α → β → Prop} {as : List α} {bs : List β}

theorem map_eq_of_forall₂ {f : α → γ} {g : β → γ}
    (hrelated : List.Forall₂ R as bs) (hsame : ∀ a b, R a b → f a = g b) :
    as.map f = bs.map g := by
  induction hrelated with
  | nil => rfl
  | cons hab _ ih => rw [List.map_cons, List.map_cons, hsame _ _ hab, ih]

theorem exists_mem_of_forall₂ (hrelated : List.Forall₂ R as bs) {a : α} (ha : a ∈ as) :
    ∃ b ∈ bs, R a b := by
  induction hrelated with
  | nil => cases ha
  | cons hab _ ih =>
      rcases List.mem_cons.mp ha with rfl | ha
      · exact ⟨_, List.mem_cons_self, hab⟩
      · obtain ⟨b, hb, hrelated⟩ := ih ha
        exact ⟨b, List.mem_cons_of_mem _ hb, hrelated⟩

end

theorem mapM_eq_ok_iff {f : α → Except ε β} {items : List α} {results : List β} :
    items.mapM f = .ok results ↔
      List.Forall₂ (fun item result => f item = .ok result) items results := by
  induction items generalizing results with
  | nil => simp [pure, Except.pure, eq_comm]
  | cons item rest ih =>
      rw [List.mapM_cons, bind_eq_ok_iff, List.forall₂_cons_left_iff]
      constructor
      · rintro ⟨first, hfirst, hrest⟩
        rw [bind_eq_ok_iff] at hrest
        obtain ⟨later, hlater, hresults⟩ := hrest
        cases hresults
        exact ⟨first, later, hfirst, ih.mp hlater, rfl⟩
      · rintro ⟨first, later, hfirst, hlater, rfl⟩
        refine ⟨first, hfirst, ?_⟩
        rw [ih.mpr hlater]
        rfl

end RecordExtraction
