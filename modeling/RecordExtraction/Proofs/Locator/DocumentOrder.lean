import Mathlib
import RecordExtraction.Proofs.Locator.Kind

/-!
# Sets of items are in document order

Steps visit their items in order of proximity, which runs backwards on half of the axes, and the
items of different places overlap.  Nevertheless every set of items that an expression denotes is
listed in document order and without repetition: paths and unions sort what they collect, predicates
only leave items out, and the elements with given identifiers are found in order.
-/

namespace RecordExtraction

open Locator Markup

namespace Item

/-- The place of the one item is less than the place of the other.  Places are compared by the node
or owner first. -/
def Before (a b : Item) : Prop :=
  a.orderKey.1 < b.orderKey.1 ∨
    (a.orderKey.1 = b.orderKey.1 ∧ a.orderKey.2 < b.orderKey.2)

/-- The items are strictly increasing in document order. -/
def InOrder (items : List Item) : Prop :=
  items.Pairwise Before

theorem orderKey_injective {a b : Item} (hkey : a.orderKey = b.orderKey) : a = b := by
  cases a <;> cases b <;> simp_all [orderKey]

theorem Before.ne {a b : Item} (h : a.Before b) : a ≠ b := by
  rintro rfl
  rcases h with h | ⟨-, h⟩ <;> exact Nat.lt_irrefl _ h

theorem Before.trans {a b c : Item} (hab : a.Before b) (hbc : b.Before c) : a.Before c := by
  unfold Before at *
  omega

theorem Before.asymm {a b : Item} (hab : a.Before b) : ¬b.Before a :=
  fun hba => (hab.trans hba).ne rfl

theorem precedesOrEquals_iff {a b : Item} :
    precedesOrEquals a b = true ↔ a = b ∨ a.Before b := by
  have hkey : a = b ↔ a.orderKey.1 = b.orderKey.1 ∧ a.orderKey.2 = b.orderKey.2 := by
    constructor
    · rintro rfl
      exact ⟨rfl, rfl⟩
    · rintro ⟨hfst, hsnd⟩
      exact orderKey_injective (Prod.ext hfst hsnd)
  simp only [precedesOrEquals, Before, hkey, Bool.or_eq_true, Bool.and_eq_true, decide_eq_true_eq,
    beq_iff_eq]
  omega

theorem precedesOrEquals_trans (a b c : Item)
    (hab : precedesOrEquals a b = true) (hbc : precedesOrEquals b c = true) :
    precedesOrEquals a c = true := by
  rw [precedesOrEquals_iff] at *
  rcases hab with rfl | hab
  · exact hbc
  · rcases hbc with rfl | hbc
    · exact .inr hab
    · exact .inr (hab.trans hbc)

theorem precedesOrEquals_total (a b : Item) :
    (precedesOrEquals a b || precedesOrEquals b a) = true := by
  simp only [precedesOrEquals, Bool.or_eq_true, Bool.and_eq_true, decide_eq_true_eq, beq_iff_eq]
  omega

/-! ## Sorting -/

theorem mem_dedupAdjacent {item : Item} {items : List Item} :
    item ∈ dedupAdjacent items ↔ item ∈ items := by
  induction items using dedupAdjacent.induct with
  | case1 => rfl
  | case2 a => rfl
  | case3 b rest ih => simp [dedupAdjacent, ih]
  | case4 a b rest hne ih => simp [dedupAdjacent, hne, ih]

theorem inOrder_dedupAdjacent {items : List Item}
    (hsorted : items.Pairwise fun a b => precedesOrEquals a b = true) :
    InOrder (dedupAdjacent items) := by
  induction items using dedupAdjacent.induct with
  | case1 => exact List.Pairwise.nil
  | case2 a => exact List.pairwise_singleton _ _
  | case3 b rest ih =>
      rw [dedupAdjacent, if_pos rfl]
      exact ih hsorted.tail
  | case4 a b rest hne ih =>
      rw [dedupAdjacent, if_neg hne]
      have hab : a.Before b := by
        have hle := List.rel_of_pairwise_cons hsorted List.mem_cons_self
        exact (precedesOrEquals_iff.mp hle).resolve_left hne
      refine List.pairwise_cons.mpr ⟨?_, ih hsorted.tail⟩
      intro c hc
      rcases List.mem_cons.mp (mem_dedupAdjacent.mp hc) with rfl | hc
      · exact hab
      · have hbc := List.rel_of_pairwise_cons hsorted.tail hc
        rcases precedesOrEquals_iff.mp hbc with rfl | hbc
        · exact hab
        · exact hab.trans hbc

theorem inOrder_normalize (items : List Item) : InOrder (normalize items) :=
  inOrder_dedupAdjacent
    (List.pairwise_mergeSort precedesOrEquals_trans precedesOrEquals_total items)

@[simp] theorem mem_normalize {item : Item} {items : List Item} :
    item ∈ normalize items ↔ item ∈ items := by
  rw [normalize, mem_dedupAdjacent, List.mem_mergeSort]

theorem InOrder.nodup {items : List Item} (h : InOrder items) : items.Nodup :=
  h.imp Before.ne

/-- Items in document order are the same lists if they are the same sets. -/
theorem InOrder.ext {first second : List Item} (hfirst : InOrder first) (hsecond : InOrder second)
    (hsame : ∀ item, item ∈ first ↔ item ∈ second) :
    first = second := by
  refine List.Perm.eq_of_pairwise ?_ hfirst hsecond
    ((List.perm_ext_iff_of_nodup hfirst.nodup hsecond.nodup).mpr hsame)
  intro a b _ _ hab hba
  exact absurd hba hab.asymm

theorem normalize_congr {first second : List Item}
    (hsame : ∀ item, item ∈ first ↔ item ∈ second) :
    normalize first = normalize second := by
  apply (inOrder_normalize first).ext (inOrder_normalize second)
  intro item
  rw [mem_normalize, mem_normalize, hsame item]

/-- The first of items in order is the least of them. -/
theorem InOrder.head?_eq_some_iff {items : List Item} (h : InOrder items) {item : Item} :
    items.head? = some item ↔
      item ∈ items ∧ ∀ other ∈ items, other ≠ item → item.Before other := by
  cases items with
  | nil => simp
  | cons first rest =>
      have hfirst : ∀ other ∈ rest, first.Before other := (List.pairwise_cons.mp h).1
      simp only [List.head?_cons, Option.some.injEq]
      constructor
      · rintro rfl
        refine ⟨List.mem_cons_self, ?_⟩
        intro other hother hne
        exact hfirst other ((List.mem_cons.mp hother).resolve_left hne)
      · rintro ⟨hmem, hleast⟩
        rcases List.mem_cons.mp hmem with rfl | hmem
        · rfl
        · have hbefore := hfirst item hmem
          exact absurd (hleast first List.mem_cons_self hbefore.ne) hbefore.asymm

end Item

namespace Locator

open Item

theorem keepItems_sublist
    {test : Item → Nat → Except PathError Bool} {position : Nat} {items kept : List Item}
    (hkept : keepItems test position items = .ok kept) :
    kept.Sublist items := by
  induction items generalizing position kept with
  | nil =>
      cases hkept
      exact List.Sublist.refl _
  | cons item rest ih =>
      simp only [keepItems, bind_eq_ok_iff, Except.ok.injEq] at hkept
      obtain ⟨keep, -, kept', hrest, rfl⟩ := hkept
      cases keep with
      | true => exact (ih hrest).cons_cons item
      | false => exact (ih hrest).cons item

theorem applyPredicates_sublist
    {document : Document} {predicates : List Expr} {items kept : List Item}
    (hkept : applyPredicates document predicates items = .ok kept) :
    kept.Sublist items := by
  induction predicates generalizing items with
  | nil =>
      simp only [applyPredicates, Except.ok.injEq] at hkept
      subst kept
      exact List.Sublist.refl _
  | cons predicate rest ih =>
      simp only [applyPredicates, bind_eq_ok_iff] at hkept
      obtain ⟨passed, hpassed, hrest⟩ := hkept
      exact (ih hrest).trans (keepItems_sublist hpassed)

theorem inOrder_selectAll
    {step : Item → Except PathError (List Item)} {items selected : List Item}
    (hselected : selectAll step items = .ok selected) :
    InOrder selected := by
  simp only [selectAll, bind_eq_ok_iff, Except.ok.injEq] at hselected
  obtain ⟨found, -, rfl⟩ := hselected
  exact inOrder_normalize _

theorem inOrder_walk
    {document : Document} {steps : List Step} {items reached : List Item}
    (hitems : InOrder items) (hreached : walk document steps items = .ok reached) :
    InOrder reached := by
  induction steps generalizing items with
  | nil =>
      simp only [walk, Except.ok.injEq] at hreached
      rwa [← hreached]
  | cons step rest ih =>
      simp only [walk, bind_eq_ok_iff] at hreached
      obtain ⟨selected, hselected, hrest⟩ := hreached
      exact ih (inOrder_selectAll hselected) hrest

theorem inOrder_map_node {ids : List Nat} (hids : ids.Pairwise (· < ·)) :
    InOrder (ids.map .node) := by
  refine List.pairwise_map.mpr (hids.imp ?_)
  intro a b hab
  exact .inl hab

theorem inOrder_elementsById (document : Document) (wanted : List (List Char)) :
    InOrder (elementsById document wanted) :=
  inOrder_map_node (List.pairwise_lt_range.filter _)

theorem CoreFunction.inOrder_apply
    {document : Document} {context : Context} {function : CoreFunction}
    {values : List Value} {items : List Item}
    (hitems : function.apply document context values = .ok (.nodes items)) :
    InOrder items := by
  have hkind : ValueKind.nodes = function.resultKind := kind_of_apply hitems
  cases function <;> simp only [resultKind, reduceCtorEq] at hkind
  rcases values with _ | ⟨value, _ | ⟨_, _⟩⟩
  · cases hitems
  · cases hitems
    exact inOrder_elementsById document _
  · cases hitems

theorem inOrder_combine
    {document : Document} {operator : BinaryOperator} {left right : Value} {items : List Item}
    (hitems : combine document operator left right = .ok (.nodes items)) :
    InOrder items := by
  have hkind : ValueKind.nodes = operator.resultKind := kind_of_combine hitems
  cases operator <;> simp only [BinaryOperator.resultKind, reduceCtorEq] at hkind
  simp only [combine, bind_eq_ok_iff, Except.ok.injEq, Value.nodes.injEq] at hitems
  obtain ⟨_, _, _, _, rfl⟩ := hitems
  exact inOrder_normalize _

mutual

theorem Expr.inOrder_eval
    (document : Document) (expr : Expr) (context : Context) {items : List Item}
    (hitems : expr.eval document context = .ok (.nodes items)) :
    InOrder items := by
  cases expr with
  | binary operator left right =>
      simp only [Expr.eval, bind_eq_ok_iff] at hitems
      obtain ⟨l, -, hitems⟩ := hitems
      cases hdecided : decidedByLeft operator l with
      | some value =>
          simp only [hdecided, Except.ok.injEq] at hitems
          subst hitems
          cases operator <;> simp [decidedByLeft] at hdecided
      | none =>
          simp only [hdecided, bind_eq_ok_iff] at hitems
          obtain ⟨r, -, hcombine⟩ := hitems
          exact inOrder_combine hcombine
  | negate operand =>
      simp [Expr.eval, bind_eq_ok_iff] at hitems
  | literal value =>
      simp [Expr.eval] at hitems
  | number value =>
      simp [Expr.eval] at hitems
  | call function arguments =>
      simp only [Expr.eval, bind_eq_ok_iff] at hitems
      obtain ⟨values, -, happly⟩ := hitems
      exact CoreFunction.inOrder_apply happly
  | filter primary predicates =>
      simp only [Expr.eval, bind_eq_ok_iff, Value.items_eq_ok_iff, Except.ok.injEq,
        Value.nodes.injEq] at hitems
      obtain ⟨value, hprimary, found, rfl, kept, hkept, rfl⟩ := hitems
      have hfound := Expr.inOrder_eval document primary context hprimary
      exact hfound.sublist (applyPredicates_sublist hkept)
  | path start steps =>
      simp only [Expr.eval, bind_eq_ok_iff, Except.ok.injEq, Value.nodes.injEq] at hitems
      obtain ⟨found, hstart, reached, hwalk, rfl⟩ := hitems
      exact inOrder_walk (Start.inOrder_items document start context hstart) hwalk
termination_by structural expr

theorem Start.inOrder_items
    (document : Document) (start : Start) (context : Context) {items : List Item}
    (hitems : start.items document context = .ok items) :
    InOrder items := by
  cases start with
  | root =>
      simp only [Start.items, Except.ok.injEq] at hitems
      rw [← hitems]
      exact List.pairwise_singleton _ _
  | context =>
      simp only [Start.items, Except.ok.injEq] at hitems
      rw [← hitems]
      exact List.pairwise_singleton _ _
  | filter primary =>
      simp only [Start.items, bind_eq_ok_iff, Value.items_eq_ok_iff] at hitems
      obtain ⟨value, hprimary, rfl⟩ := hitems
      exact Expr.inOrder_eval document primary context hprimary
termination_by structural start

end

/-- Every set of items that an expression denotes is strictly increasing in document order.  So a
locator selects its items in document order without repetition, and its first item is the least of
them. -/
theorem nodeSets_in_documentOrder (document : Document) :
    (∀ (expr : Expr) (context : Context) (items : List Item),
      expr.eval document context = .ok (.nodes items) → InOrder items) ∧
    (∀ (locator : Locator) (items : List Item),
      locator.select document = .ok items →
        locator.expr.eval document rootContext = .ok (.nodes items) ∧
        InOrder items ∧
        items.Nodup ∧
        ∃ first : Option Item,
          locator.selectFirst document = .ok first ∧
          (first = none ↔ items = []) ∧
          ∀ item, first = some item ↔
            item ∈ items ∧ ∀ other ∈ items, other ≠ item → item.Before other) := by
  refine ⟨fun expr context items hitems => expr.inOrder_eval document context hitems, ?_⟩
  intro locator items hselect
  have heval : locator.expr.eval document rootContext = .ok (.nodes items) := by
    simpa only [select, bind_eq_ok_iff, Value.items_eq_ok_iff, exists_eq_right] using hselect
  have horder : InOrder items := locator.expr.inOrder_eval document rootContext heval
  refine ⟨heval, horder, horder.nodup, items.head?, ?_, List.head?_eq_none_iff, ?_⟩
  · simp only [selectFirst, hselect, ok_bind]
  · intro item
    exact horder.head?_eq_some_iff

/-- Two elements `b`, the second of which holds an element `c`, in an element `a` with an
attribute. -/
def nestedDocument : Document :=
  .ofContent
    (.element ⟨none, "a", [⟨none, "id", "1"⟩], {}⟩
      (.element ⟨none, "b", [], {}⟩ .nil
        (.element ⟨none, "b", [], {}⟩ (.element ⟨none, "c", [], {}⟩ .nil .nil) .nil))
      .nil)

/-- The ancestors of the innermost element, which a step finds the nearest first, and all
attributes. -/
def ancestorsAndAttributes : Locator where
  expression := "//c/ancestor::node() | //@*"
  expr :=
    .binary .union
      (.path .root
        [.anyDepth, .mk .child (.name none (some "c")) [], .mk .ancestor .any []])
      (.path .root [.anyDepth, .mk .attributes (.name none none) []])

theorem select_ancestorsAndAttributes_in_documentOrder :
    ancestorsAndAttributes.expr.eval nestedDocument rootContext =
      .ok (.nodes [.node 0, .node 1, .attribute 1 0, .node 3]) ∧
    InOrder [.node 0, .node 1, .attribute 1 0, .node 3] ∧
    ancestorsAndAttributes.select nestedDocument =
      .ok [.node 0, .node 1, .attribute 1 0, .node 3] ∧
    ∃ first, ancestorsAndAttributes.selectFirst nestedDocument = .ok first ∧
      first = some (.node 0) := by
  have heval :
      ancestorsAndAttributes.expr.eval nestedDocument rootContext =
        .ok (.nodes [.node 0, .node 1, .attribute 1 0, .node 3]) := by cbv
  have hselect :
      ancestorsAndAttributes.select nestedDocument =
        .ok [.node 0, .node 1, .attribute 1 0, .node 3] := by cbv
  obtain ⟨heach, hlocator⟩ := nodeSets_in_documentOrder nestedDocument
  obtain ⟨-, -, -, first, hfirst, -, hleast⟩ := hlocator ancestorsAndAttributes _ hselect
  refine ⟨heval, heach _ _ _ heval, hselect, first, hfirst, (hleast _).mpr ?_⟩
  refine ⟨by decide, ?_⟩
  simp [Before, orderKey]

end Locator
end RecordExtraction
