import Mathlib
import RecordExtraction.Proofs.Locator.DocumentOrder
import RecordExtraction.Proofs.Markup.Siblings
import RecordExtraction.Proofs.Number.WholeNumbers

/-!
# Positions of items

A step counts the items that it reaches from the nearest one on.  On the axes that lead backwards
this is against the order of the document, on all others along it; among the items of a filter
expression, which are a set, positions always follow the document.  A predicate that is a number
keeps the one item at that position, because positions are small enough to be counted exactly.
-/

namespace RecordExtraction
namespace Locator

open Item Markup

/-- The axis leads back through the document. -/
def Axis.isReverse : Axis → Bool
  | ancestor | ancestorOrSelf | preceding | precedingSibling => true
  | _ => false

/-- A numeral for a natural number, with the value that its digits have. -/
def Expr.numeral (n : Nat) : Expr :=
  .number (numeralValue false (toString n).toList)

variable {document : Document}

/-! ## The order of the items on an axis -/

theorem map_node_decreasing {ids : List Nat} (hids : ids.Pairwise (· > ·)) :
    (ids.map Item.node).Pairwise fun a b => b.Before a := by
  apply List.pairwise_map.mpr (hids.imp ?_)
  intro a b hab
  exact .inl hab

theorem cons_ancestors_decreasing (document : Document) (id : Nat) :
    (id :: document.ancestors id).Pairwise (· > ·) := by
  apply List.pairwise_cons.mpr ⟨?_, document.ancestors_decreasing id⟩
  intro outer houter
  exact (Document.mem_ancestors.mp houter).lt

theorem reverseAxis_items_decreasing {axis : Axis} (hreverse : axis.isReverse = true)
    (item : Item) :
    (axis.items document item).Pairwise fun a b => b.Before a := by
  cases axis with
  | ancestor =>
      cases item with
      | node id => exact map_node_decreasing (document.ancestors_decreasing id)
      | «attribute» owner position =>
          exact map_node_decreasing (cons_ancestors_decreasing document owner)
  | ancestorOrSelf =>
      cases item with
      | node id => exact map_node_decreasing (cons_ancestors_decreasing document id)
      | «attribute» owner position =>
          -- The attribute comes after its owner, which comes after the nodes around the owner.
          have hnodes := map_node_decreasing (cons_ancestors_decreasing document owner)
          apply List.pairwise_cons.mpr ⟨?_, hnodes⟩
          intro other hother
          obtain ⟨outer, houter, rfl⟩ := List.mem_map.mp hother
          rcases List.mem_cons.mp houter with rfl | houter
          · exact .inr ⟨rfl, Nat.succ_pos position⟩
          · exact .inl (Document.mem_ancestors.mp houter).lt
  | preceding =>
      exact map_node_decreasing (document.preceding_decreasing item.anchor)
  | precedingSibling =>
      cases item with
      | node id => exact map_node_decreasing (document.precedingSiblings_decreasing id)
      | «attribute» owner position => exact List.Pairwise.nil
  | _ => cases hreverse

theorem inOrder_attributesOf (document : Document) (id : Nat) :
    InOrder (Item.attributesOf document id) := by
  unfold Item.attributesOf
  split
  · next tag htag =>
      apply List.pairwise_map.mpr (List.pairwise_lt_range.imp ?_)
      intro a b hab
      exact .inr ⟨rfl, Nat.succ_lt_succ hab⟩
  · exact List.Pairwise.nil

theorem cons_descendants_increasing (document : Document) (id : Nat) :
    (id :: document.descendants id).Pairwise (· < ·) := by
  apply List.pairwise_cons.mpr ⟨?_, List.pairwise_lt_range'⟩
  intro inner hinner
  exact (Document.mem_descendants.mp hinner).lt

theorem forwardAxis_items_inOrder {axis : Axis} (hforward : axis.isReverse = false)
    (item : Item) :
    InOrder (axis.items document item) := by
  cases axis with
  | self => exact List.pairwise_singleton _ _
  | attributes =>
      cases item with
      | node id => exact inOrder_attributesOf document id
      | «attribute» owner position => exact List.Pairwise.nil
  | parent =>
      cases item with
      | node id =>
          apply inOrder_map_node
          cases document.parent? id with
          | none => exact List.Pairwise.nil
          | some parent => exact List.pairwise_singleton _ _
      | «attribute» owner position => exact List.pairwise_singleton _ _
  | child =>
      cases item with
      | node id => exact inOrder_map_node (document.membersFrom_increasing _ _)
      | «attribute» owner position => exact List.Pairwise.nil
  | descendant =>
      cases item with
      | node id => exact inOrder_map_node List.pairwise_lt_range'
      | «attribute» owner position => exact List.Pairwise.nil
  | descendantOrSelf =>
      cases item with
      | node id => exact inOrder_map_node (cons_descendants_increasing document id)
      | «attribute» owner position => exact List.pairwise_singleton _ _
  | following =>
      cases item with
      | node id => exact inOrder_map_node (List.pairwise_lt_range.filter _)
      | «attribute» owner position => exact inOrder_map_node (List.pairwise_lt_range.filter _)
  | followingSibling =>
      cases item with
      | node id => exact inOrder_map_node (document.followingSiblings_increasing id)
      | «attribute» owner position => exact List.Pairwise.nil
  | namespaces => cases item <;> exact List.Pairwise.nil
  | _ => cases hforward

/-! ## The item at a position -/

/-- A test that only one position passes keeps the item there, if there is one. -/
theorem keepItems_at_place
    {test : Item → Nat → Except PathError Bool} {items : List Item} {start place : Nat}
    (htest : ∀ item position, start ≤ position → position < start + items.length →
      test item position = .ok (decide (place = position))) :
    keepItems test start items =
      .ok (if start ≤ place then items[place - start]?.toList else []) := by
  induction items generalizing start with
  | nil => simp [keepItems]
  | cons item rest ih =>
      have hfirst : test item start = .ok (decide (place = start)) :=
        htest item start (Nat.le_refl _) (by simp)
      have hrest : keepItems test (start + 1) rest =
          .ok (if start + 1 ≤ place then rest[place - (start + 1)]?.toList else []) := by
        apply ih
        intro other position hstart hend
        apply htest other position (by omega)
        rw [List.length_cons]
        omega
      rw [keepItems, hfirst, ok_bind, hrest, ok_bind]
      rcases Nat.lt_trichotomy place start with hbefore | rfl | hafter
      · have hne : place ≠ start := by omega
        rw [if_neg (by simpa using hne), if_neg (by omega), if_neg (by omega)]
      · rw [if_pos (by simp), if_neg (by omega), if_pos (Nat.le_refl _), Nat.sub_self]
        rfl
      · have hne : place ≠ start := by omega
        have hplace : place - start = place - (start + 1) + 1 := by omega
        rw [if_neg (by simpa using hne), if_pos (Nat.succ_le_of_lt hafter), if_pos hafter.le,
          hplace, List.getElem?_cons_succ]

/-- A predicate whose value is a number keeps the item at the place that the number is equal to. -/
theorem applyPredicates_at_place
    {predicate : Expr} {items : List Item} {value : Double} {place : Nat}
    (hitems : items.length < 2 ^ 53)
    (heval : ∀ item position,
      predicate.eval document ⟨item, position, items.length⟩ = .ok (.number value))
    (hvalue : ∀ position < 2 ^ 53, value.equal (.ofNat position) = decide (place = position))
    (hplace : 0 < place) :
    applyPredicates document [predicate] items = .ok items[place - 1]?.toList := by
  have hkept :
      keepItems
          (fun item position =>
            (predicate.eval document ⟨item, position, items.length⟩).map (Value.keeps position))
          1 items =
        .ok (if 1 ≤ place then items[place - 1]?.toList else []) := by
    apply keepItems_at_place
    intro item position hstart hend
    have hequal : value.equal (.ofNat position) = decide (place = position) :=
      hvalue position (by omega)
    rw [heval, ← hequal]
    rfl
  rw [if_pos (Nat.succ_le_of_lt hplace)] at hkept
  simp only [applyPredicates, hkept, ok_bind]

theorem numeralValue_natural (n : Nat) :
    numeralValue false (toString n).toList = Decimal.toNumber false ⟨n, 0⟩ := by
  have hdigits : (toString n).toList = Nat.toDigits 10 n := by
    simp
  have hpoint : ∀ c ∈ Nat.toDigits 10 n, (c != '.') = true := by
    intro c hc
    have hdigit : c.isDigit = true := Nat.isDigit_of_mem_toDigits (by decide) (by decide) hc
    rw [bne_iff_ne]
    rintro rfl
    exact absurd hdigit (by decide)
  unfold numeralValue
  dsimp only
  rw [hdigits, List.takeWhile_eq_self_iff.mpr hpoint, List.dropWhile_eq_nil_iff.mpr hpoint]
  simp [digitsValue_toDigits]

theorem applyPredicates_numeral {items : List Item} (hitems : items.length < 2 ^ 53) {k : Nat}
    (hk : 0 < k) :
    applyPredicates document [.numeral k] items = .ok items[k - 1]?.toList := by
  have heval : ∀ item position,
      (Expr.numeral k).eval document ⟨item, position, items.length⟩ =
        .ok (.number (Decimal.toNumber false ⟨k, 0⟩)) := by
    intro item position
    rw [Expr.numeral, Expr.eval, numeralValue_natural]
  exact applyPredicates_at_place hitems heval
    (fun position hposition => Decimal.toNumber_equal_ofNat hk hposition) hk

theorem applyPredicates_last {items : List Item} (hitems : items.length < 2 ^ 53) :
    applyPredicates document [.call .last []] items = .ok items.getLast?.toList := by
  by_cases hempty : items = []
  · subst hempty
    simp only [applyPredicates, keepItems, ok_bind, List.getLast?_nil, Option.toList_none]
  · have hpos : 0 < items.length := List.length_pos_iff.mpr hempty
    have heval : ∀ item position,
        (Expr.call .last []).eval document ⟨item, position, items.length⟩ =
          .ok (.number (.ofNat items.length)) := by
      intro item position
      simp only [Expr.eval, evalAll, ok_bind, CoreFunction.apply]
    have hfits : FloatFormat.binary64.precision + FloatFormat.binary64.scale ≤
        FloatFormat.binary64.limitBits := by decide
    rw [List.getLast?_eq_getElem?]
    exact applyPredicates_at_place hitems heval
      (fun position hposition => Number.ofNat_equal_ofNat hfits hposition) hpos

/-! ## Steps and filters with one predicate -/

/-- A step selects these items from an item, and so does the path of this one step. -/
structure Step.Selects (document : Document) (step : Step) (item : Item) (items : List Item) :
    Prop where
  select : step.select document item = .ok items
  path : ∀ position size,
    (Expr.path .context [step]).eval document ⟨item, position, size⟩ = .ok (.nodes items)

theorem Step.selects_of_select {step : Step} {item : Item} {item? : Option Item}
    (hselect : step.select document item = .ok item?.toList) :
    step.Selects document item item?.toList := by
  have hresults : [item].mapM (step.select document) = .ok [item?.toList] :=
    mapM_eq_ok_iff.mpr (.cons hselect .nil)
  have hnormal : Item.normalize item?.toList = item?.toList := by
    cases item? <;> simp [Item.normalize, dedupAdjacent]
  have hselected : selectAll (step.select document) [item] = .ok item?.toList := by
    rw [selectAll, hresults, ok_bind, List.flatten_singleton, hnormal]
  refine ⟨hselect, ?_⟩
  intro position size
  simp only [Expr.eval, Start.items, walk, ok_bind, hselected]

theorem eval_filter_of_items {primary : Expr} {predicates : List Expr} {context : Context}
    {items kept : List Item} (hprimary : primary.eval document context = .ok (.nodes items))
    (hkept : applyPredicates document predicates items = .ok kept) :
    (Expr.filter primary predicates).eval document context = .ok (.nodes kept) := by
  simp only [Expr.eval, hprimary, ok_bind, Value.items, hkept]

/-- The items that a step reaches are listed against the order of the document on the axes that
lead back, and in document order on all others.  The step with a numeral as its predicate selects
the item at that place of the list, with `last()` the item at its end, and nothing if there is
none.  A filter expression with a numeral as its predicate selects the item at that place among the
items in document order. -/
theorem positions_count_in_proximity (document : Document) :
    (∀ (axis : Axis) (test : NodeTest) (item : Item),
      (axis.isReverse = true →
        (candidates document axis test item).Pairwise fun a b => b.Before a) ∧
      (axis.isReverse = false → InOrder (candidates document axis test item))) ∧
    (∀ (axis : Axis) (test : NodeTest) (item : Item) (found : List Item),
      found = candidates document axis test item → found.length < 2 ^ 53 →
        (∀ k, 0 < k →
          (Step.mk axis test [.numeral k]).Selects document item found[k - 1]?.toList) ∧
        (Step.mk axis test [.call .last []]).Selects document item found.getLast?.toList) ∧
    ∀ (primary : Expr) (context : Context) (items : List Item),
      primary.eval document context = .ok (.nodes items) → items.length < 2 ^ 53 →
        InOrder items ∧
        ∀ k, 0 < k →
          (Expr.filter primary [.numeral k]).eval document context =
            .ok (.nodes items[k - 1]?.toList) := by
  refine ⟨?_, ?_, ?_⟩
  · intro axis test item
    constructor
    · intro hreverse
      exact (reverseAxis_items_decreasing hreverse item).filter _
    · intro hforward
      exact (forwardAxis_items_inOrder hforward item).filter _
  · intro axis test item found hcandidates hfound
    rw [hcandidates] at hfound ⊢
    constructor
    · intro k hk
      exact Step.selects_of_select (applyPredicates_numeral hfound hk)
    · exact Step.selects_of_select (applyPredicates_last hfound)
  · intro primary context items hprimary hitems
    refine ⟨primary.inOrder_eval document context hprimary, ?_⟩
    intro k hk
    exact eval_filter_of_items hprimary (applyPredicates_numeral hitems hk)

/-- The nodes around the context item, as a set. -/
def around : Expr := .path .context [.mk .ancestor .any []]

theorem first_and_last_around_innermost :
    candidates nestedDocument .ancestor .any (.node 4) = [.node 3, .node 1, .node 0] ∧
    Axis.ancestor.isReverse = true ∧
    (candidates nestedDocument .ancestor .any (.node 4)).Pairwise (fun a b => b.Before a) ∧
    Axis.child.isReverse = false ∧
    InOrder (candidates nestedDocument .child .any (.node 1)) ∧
    (Step.mk .ancestor .any [.numeral 1]).Selects nestedDocument (.node 4) [.node 3] ∧
    (Step.mk .ancestor .any [.numeral 4]).Selects nestedDocument (.node 4) [] ∧
    (Step.mk .ancestor .any [.call .last []]).Selects nestedDocument (.node 4) [.node 0] ∧
    around.eval nestedDocument ⟨.node 4, 1, 1⟩ = .ok (.nodes [.node 0, .node 1, .node 3]) ∧
    InOrder [.node 0, .node 1, .node 3] ∧
    (Expr.filter around [.numeral 1]).eval nestedDocument ⟨.node 4, 1, 1⟩ =
      .ok (.nodes [.node 0]) := by
  obtain ⟨horder, hsteps, hfilters⟩ := positions_count_in_proximity nestedDocument
  have hfound : candidates nestedDocument .ancestor .any (.node 4) =
      [.node 3, .node 1, .node 0] := by decide
  have haround : around.eval nestedDocument ⟨.node 4, 1, 1⟩ =
      .ok (.nodes [.node 0, .node 1, .node 3]) := by cbv
  obtain ⟨hnumerals, hlast⟩ :=
    hsteps .ancestor .any (.node 4) [.node 3, .node 1, .node 0] hfound.symm (by decide)
  obtain ⟨hinOrder, hfiltered⟩ := hfilters around _ _ haround (by decide)
  exact ⟨hfound, rfl, (horder .ancestor .any (.node 4)).1 rfl, rfl,
    (horder .child .any (.node 1)).2 rfl, hnumerals 1 (by decide), hnumerals 4 (by decide), hlast,
    haround, hinOrder, hfiltered 1 (by decide)⟩

end Locator
end RecordExtraction
