import Mathlib
import RecordExtraction.Proofs.Locator.PathAlgebra
import RecordExtraction.Proofs.Markup.Siblings

/-!
# Paths to what comes after and before

The axes `following` and `preceding` compare numbers of nodes over the whole document.  They lead to
the same nodes as a walk through the tree: outwards from a node, over to the siblings on the one
side, and down again.
-/

namespace RecordExtraction
namespace Locator

open Item Markup

/-! ## Steps without predicates -/

section

variable {document : Document} {axis : Axis} {test : NodeTest}

theorem selectAll_ok (step : Item → List Item) (items : List Item) :
    selectAll (fun item => .ok (step item)) items = .ok (normalize (items.flatMap step)) := by
  have hresults : items.mapM (fun item => (.ok (step item) : Except PathError (List Item))) =
      .ok (items.map step) := by
    apply mapM_eq_ok_iff.mpr
    induction items with
    | nil => exact .nil
    | cons item rest ih => exact .cons rfl ih
  rw [selectAll, hresults, ok_bind, List.flatMap_def]

/-- The items that steps without predicates reach. -/
def reach (document : Document) : List (Axis × NodeTest) → List Item → List Item
  | [], items => items
  | (axis, test) :: rest, items =>
      reach document rest (normalize (items.flatMap (candidates document axis test)))

/-- A step along an axis without predicates. -/
def Step.plain (step : Axis × NodeTest) : Step := .mk step.1 step.2 []

theorem walk_plain (steps : List (Axis × NodeTest)) (items : List Item) :
    walk document (steps.map Step.plain) items = .ok (reach document steps items) := by
  induction steps generalizing items with
  | nil => rfl
  | cons step rest ih =>
      have hselect : (Step.plain step).select document =
          fun item => .ok (candidates document step.1 step.2 item) := rfl
      rw [List.map_cons, walk, hselect, selectAll_ok, ok_bind, ih]
      rfl

theorem inOrder_reach {steps : List (Axis × NodeTest)} {items : List Item}
    (hitems : InOrder items) :
    InOrder (reach document steps items) :=
  inOrder_walk hitems (walk_plain steps items)

theorem eval_path_plain (steps : List (Axis × NodeTest)) (context : Context) :
    (Expr.path .context (steps.map Step.plain)).eval document context =
      .ok (.nodes (reach document steps [context.item])) := by
  simp only [Expr.eval, Start.items, ok_bind, walk_plain]

end

/-! ## Nodes on the axes of a node -/

section

variable {document : Document} {id other : Nat} {item : Item}

theorem accepts_of_ne_attributes (axis axis' : Axis) {test : NodeTest}
    (haxis : axis ≠ .attributes) (haxis' : axis' ≠ .attributes) :
    test.accepts document axis item = test.accepts document axis' item := by
  cases test <;> cases item <;> simp [NodeTest.accepts, haxis, haxis']

theorem mem_candidates {axis : Axis} {test : NodeTest} {start : Item} :
    item ∈ candidates document axis test start ↔
      item ∈ axis.items document start ∧ test.accepts document axis item = true := by
  rw [candidates, List.mem_filter]

theorem accepts_any (axis : Axis) (item : Item) :
    NodeTest.any.accepts document axis item = true := rfl

theorem mem_ancestorOrSelf :
    item ∈ Axis.ancestorOrSelf.items document (.node id) ↔
      ∃ outer, document.Covers outer id ∧ item = .node outer := by
  simp only [Axis.items, List.mem_map, List.mem_cons, Document.mem_ancestors, Document.Covers]
  constructor
  · rintro ⟨outer, houter, rfl⟩
    exact ⟨outer, houter, rfl⟩
  · rintro ⟨outer, houter, rfl⟩
    exact ⟨outer, houter, rfl⟩

theorem mem_descendantOrSelf :
    item ∈ Axis.descendantOrSelf.items document (.node id) ↔
      ∃ inner, document.Covers id inner ∧ item = .node inner := by
  simp only [Axis.items, List.mem_map, List.mem_cons, Document.mem_descendants, Document.Covers]
  constructor
  · rintro ⟨inner, hinner, rfl⟩
    exact ⟨inner, hinner.imp_left Eq.symm, rfl⟩
  · rintro ⟨inner, hinner, rfl⟩
    exact ⟨inner, hinner.imp_left Eq.symm, rfl⟩

/-- Outwards from a node, along an axis from there, and down again. -/
theorem mem_reach_aside {axis : Axis} {siblings : Nat → List Nat} {test : NodeTest}
    (haxis : ∀ outer, axis.items document (.node outer) = (siblings outer).map .node) :
    item ∈ reach document
        [(.ancestorOrSelf, .any), (axis, .any), (.descendantOrSelf, test)] [.node id] ↔
      (∃ other, item = .node other ∧
        ∃ outer, document.Covers outer id ∧
          ∃ sibling ∈ siblings outer, document.Covers sibling other) ∧
      test.accepts document .descendantOrSelf item = true := by
  simp only [reach, mem_normalize, List.mem_flatMap, mem_candidates, accepts_any, and_true,
    List.mem_singleton, exists_eq_left, mem_ancestorOrSelf]
  constructor
  · rintro ⟨_, ⟨_, ⟨outer, houter, rfl⟩, haside⟩, hdown, haccepts⟩
    rw [haxis] at haside
    obtain ⟨sibling, hsibling, rfl⟩ := List.mem_map.mp haside
    obtain ⟨other, hother, rfl⟩ := mem_descendantOrSelf.mp hdown
    exact ⟨⟨other, rfl, outer, houter, sibling, hsibling, hother⟩, haccepts⟩
  · rintro ⟨⟨other, rfl, outer, houter, sibling, hsibling, hother⟩, haccepts⟩
    refine ⟨.node sibling, ⟨.node outer, ⟨outer, houter, rfl⟩, ?_⟩, ?_, haccepts⟩
    · rw [haxis]
      exact List.mem_map_of_mem hsibling
    · exact mem_descendantOrSelf.mpr ⟨other, hother, rfl⟩

/-- An axis to the nodes on one side of a node leads to the same nodes as the way over the siblings
on that side, if the nodes on that side are those inside the siblings. -/
theorem reach_eq_reach_aside {axis aside : Axis} {family siblings : Nat → List Nat}
    {test : NodeTest} (haxis : axis ≠ .attributes)
    (hitems : axis.items document (.node id) = (family id).map .node)
    (haside : ∀ outer, aside.items document (.node outer) = (siblings outer).map .node)
    (hfamily : ∀ other, other ∈ family id ↔
      ∃ outer, document.Covers outer id ∧
        ∃ sibling ∈ siblings outer, document.Covers sibling other) :
    reach document [(axis, test)] [.node id] =
      reach document
        [(.ancestorOrSelf, .any), (aside, .any), (.descendantOrSelf, test)] [.node id] := by
  have hstart : InOrder [Item.node id] := List.pairwise_singleton _ _
  apply (inOrder_reach hstart).ext (inOrder_reach hstart)
  intro item
  rw [mem_reach_aside haside, accepts_of_ne_attributes _ axis (by decide) haxis]
  simp only [reach, mem_normalize, List.mem_flatMap, List.mem_singleton, exists_eq_left,
    mem_candidates, hitems, List.mem_map, hfamily]
  constructor
  · rintro ⟨⟨other, hother, rfl⟩, haccepts⟩
    exact ⟨⟨other, rfl, hother⟩, haccepts⟩
  · rintro ⟨⟨other, rfl, hother⟩, haccepts⟩
    exact ⟨⟨other, hother, rfl⟩, haccepts⟩

end

/-- From every node of a document and for every test, the axis `following` selects what the path
`ancestor-or-self::node()/following-sibling::node()/descendant-or-self::` does with the same test,
and the axis `preceding` what the path over the preceding siblings does. -/
theorem following_and_preceding_over_siblings (document : Document) (test : NodeTest)
    (context : Context) {id : Nat} (hitem : context.item = .node id) (hid : id < document.size) :
    (∃ items,
      (Expr.path .context [.mk .following test []]).eval document context = .ok (.nodes items) ∧
      (Expr.path .context
          [.mk .ancestorOrSelf .any [], .mk .followingSibling .any [],
            .mk .descendantOrSelf test []]).eval document context = .ok (.nodes items) ∧
      InOrder items) ∧
    ∃ items,
      (Expr.path .context [.mk .preceding test []]).eval document context = .ok (.nodes items) ∧
      (Expr.path .context
          [.mk .ancestorOrSelf .any [], .mk .precedingSibling .any [],
            .mk .descendantOrSelf test []]).eval document context = .ok (.nodes items) ∧
      InOrder items := by
  have hstart : InOrder [context.item] := List.pairwise_singleton _ _
  constructor
  · refine ⟨_, eval_path_plain [(.following, test)] context, ?_, inOrder_reach hstart⟩
    have hsame : reach document [(.following, test)] [.node id] =
        reach document
          [(.ancestorOrSelf, .any), (.followingSibling, .any), (.descendantOrSelf, test)]
          [.node id] :=
      reach_eq_reach_aside (by decide) rfl (fun _ => rfl)
        (fun other => Document.mem_following_iff_exists_sibling hid)
    rw [hitem, hsame, ← hitem]
    exact eval_path_plain
      [(.ancestorOrSelf, .any), (.followingSibling, .any), (.descendantOrSelf, test)] context
  · refine ⟨_, eval_path_plain [(.preceding, test)] context, ?_, inOrder_reach hstart⟩
    have hsame : reach document [(.preceding, test)] [.node id] =
        reach document
          [(.ancestorOrSelf, .any), (.precedingSibling, .any), (.descendantOrSelf, test)]
          [.node id] :=
      reach_eq_reach_aside (by decide) rfl (fun _ => rfl)
        (fun other => Document.mem_preceding_iff_exists_sibling hid)
    rw [hitem, hsame, ← hitem]
    exact eval_path_plain
      [(.ancestorOrSelf, .any), (.precedingSibling, .any), (.descendantOrSelf, test)] context

/-- The test for elements `b`. -/
def partTest : NodeTest := .name none (some "b")

theorem following_and_preceding_of_parts_over_siblings :
    2 < nestedDocument.size ∧ 4 < nestedDocument.size ∧
    (Expr.path .context
        [.mk .ancestorOrSelf .any [], .mk .followingSibling .any [],
          .mk .descendantOrSelf partTest []]).eval nestedDocument ⟨.node 2, 1, 1⟩ =
      .ok (.nodes [.node 3]) ∧
    (Expr.path .context
        [.mk .ancestorOrSelf .any [], .mk .precedingSibling .any [],
          .mk .descendantOrSelf partTest []]).eval nestedDocument ⟨.node 4, 1, 1⟩ =
      .ok (.nodes [.node 2]) := by
  have hsecond : 2 < nestedDocument.size := by decide
  have hlast : 4 < nestedDocument.size := by decide
  obtain ⟨⟨after, hafter, hbesideAfter, -⟩, -⟩ :=
    following_and_preceding_over_siblings nestedDocument partTest ⟨.node 2, 1, 1⟩ rfl hsecond
  obtain ⟨-, before, hbefore, hbesideBefore, -⟩ :=
    following_and_preceding_over_siblings nestedDocument partTest ⟨.node 4, 1, 1⟩ rfl hlast
  have hfollowing :
      (Expr.path .context [.mk .following partTest []]).eval nestedDocument ⟨.node 2, 1, 1⟩ =
        .ok (.nodes [.node 3]) := by cbv
  have hpreceding :
      (Expr.path .context [.mk .preceding partTest []]).eval nestedDocument ⟨.node 4, 1, 1⟩ =
        .ok (.nodes [.node 2]) := by cbv
  rw [hfollowing] at hafter
  rw [hpreceding] at hbefore
  rw [hbesideAfter, hbesideBefore]
  exact ⟨hsecond, hlast, hafter.symm, hbefore.symm⟩

end Locator
end RecordExtraction
