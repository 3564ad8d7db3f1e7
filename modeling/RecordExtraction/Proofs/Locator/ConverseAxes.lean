import Mathlib
import RecordExtraction.Proofs.Locator.AxisPartition
import RecordExtraction.Proofs.Locator.SiblingPaths

/-!
# Axes that lead back

An axis from one node to another has a counterpart that leads from the other node to the one.  The
two are computed apart from each other: what follows a node is found by the end of the node, what
precedes it by the ends of the others, and members are found from above, a parent from below.  Each
pair meets in one relation between the two nodes.
-/

namespace RecordExtraction
namespace Locator

open Markup

/-- From any node the one axis leads to a node exactly when the other axis leads back. -/
def Axis.ConverseOn (document : Document) (axis back : Axis) : Prop :=
  ∀ x < document.size, ∀ y < document.size,
    .node y ∈ axis.items document (.node x) ↔ .node x ∈ back.items document (.node y)

variable {document : Document}

theorem node_mem_map_iff {id : Nat} {family : List Nat} :
    Item.node id ∈ family.map .node ↔ id ∈ family := by
  simp

theorem following_converse_preceding :
    Axis.ConverseOn document .following .preceding := by
  intro x hx y hy
  simp only [Axis.items, Item.anchor, node_mem_map_iff, Document.mem_following,
    Document.mem_preceding, hy, true_and]

theorem descendant_converse_ancestor :
    Axis.ConverseOn document .descendant .ancestor := by
  intro x hx y hy
  simp only [Axis.items, node_mem_map_iff, Document.mem_descendants, Document.mem_ancestors]

theorem descendantOrSelf_converse_ancestorOrSelf :
    Axis.ConverseOn document .descendantOrSelf .ancestorOrSelf := by
  intro x hx y hy
  simp only [mem_descendantOrSelf, mem_ancestorOrSelf, Item.node.injEq, exists_eq_right']

theorem followingSibling_converse_precedingSibling :
    Axis.ConverseOn document .followingSibling .precedingSibling := by
  intro x hx y hy
  simp only [Axis.items, node_mem_map_iff, Document.mem_followingSiblings,
    Document.mem_precedingSiblings]
  have hparent :
      (∃ parent, document.parent? x = some parent ∧ document.parent? y = some parent) ↔
        ∃ parent, document.parent? y = some parent ∧ document.parent? x = some parent :=
    exists_congr fun _ => and_comm
  rw [hparent]

theorem child_converse_parent : Axis.ConverseOn document .child .parent := by
  intro x hx y hy
  simp only [Axis.items, node_mem_map_iff, Document.mem_children, Option.mem_toList]

/-- An attribute of the document is found on the axis of its owner and of no other node. -/
theorem mem_attributesOf_iff {id owner position : Nat} {found : Attribute}
    (hfound : (Item.attribute owner position).attribute? document = some found) :
    .attribute owner position ∈ Item.attributesOf document id ↔ owner = id := by
  have hmem :
      .attribute owner position ∈ Item.attributesOf document id ↔
        ∃ tag, document.tag? id = some tag ∧ position < tag.attributes.length ∧ owner = id := by
    unfold Item.attributesOf
    cases document.tag? id <;> simp [eq_comm]
  rw [hmem]
  constructor
  · intro h
    obtain ⟨_, _, _, howner⟩ := h
    exact howner
  · intro howner
    obtain ⟨tag, htag, hposition⟩ := Option.bind_eq_some_iff.mp hfound
    have hbound : position < tag.attributes.length := (List.getElem?_eq_some_iff.mp hposition).1
    exact ⟨tag, howner ▸ htag, hbound, howner⟩

/-- On every document each of the axes `following`, `descendant`, `descendant-or-self`,
`following-sibling` and `child` leads from one node to another exactly when `preceding`, `ancestor`,
`ancestor-or-self`, `preceding-sibling` and `parent` leads back; and an attribute is among those of
a node exactly when the node is the parent of the attribute. -/
theorem axes_in_converse_pairs (document : Document) :
    Axis.ConverseOn document .following .preceding ∧
    Axis.ConverseOn document .descendant .ancestor ∧
    Axis.ConverseOn document .descendantOrSelf .ancestorOrSelf ∧
    Axis.ConverseOn document .followingSibling .precedingSibling ∧
    Axis.ConverseOn document .child .parent ∧
    ∀ owner position found,
      (Item.attribute owner position).attribute? document = some found →
        ∀ x < document.size,
          .attribute owner position ∈ Axis.attributes.items document (.node x) ↔
            .node x ∈ Axis.parent.items document (.attribute owner position) := by
  refine ⟨following_converse_preceding, descendant_converse_ancestor,
    descendantOrSelf_converse_ancestorOrSelf, followingSibling_converse_precedingSibling,
    child_converse_parent, ?_⟩
  intro owner position found hfound x hx
  have hattributes : .attribute owner position ∈ Axis.attributes.items document (.node x) ↔
      owner = x :=
    mem_attributesOf_iff hfound
  have hparent : .node x ∈ Axis.parent.items document (.attribute owner position) ↔ owner = x := by
    simp [Axis.items, eq_comm]
  rw [hattributes, hparent]

theorem axes_of_parts_in_converse_pairs :
    2 < nestedDocument.size ∧ 3 < nestedDocument.size ∧ 4 < nestedDocument.size ∧
    .node 4 ∈ Axis.following.items nestedDocument (.node 2) ∧
    .node 2 ∈ Axis.preceding.items nestedDocument (.node 4) ∧
    .node 3 ∈ Axis.followingSibling.items nestedDocument (.node 2) ∧
    .node 2 ∈ Axis.precedingSibling.items nestedDocument (.node 3) ∧
    .node 4 ∉ Axis.followingSibling.items nestedDocument (.node 2) ∧
    .node 2 ∉ Axis.precedingSibling.items nestedDocument (.node 4) ∧
    (Item.attribute 1 0).attribute? nestedDocument = some ⟨none, "id", "1"⟩ ∧
    .attribute 1 0 ∈ Axis.attributes.items nestedDocument (.node 1) ∧
    .node 1 ∈ Axis.parent.items nestedDocument (.attribute 1 0) := by
  obtain ⟨hfollowing, -, -, hsibling, -, hattributes⟩ := axes_in_converse_pairs nestedDocument
  have hfirst : 2 < nestedDocument.size := by decide
  have hsecond : 3 < nestedDocument.size := by decide
  have hinner : 4 < nestedDocument.size := by decide
  have hfound : (Item.attribute 1 0).attribute? nestedDocument = some ⟨none, "id", "1"⟩ := rfl
  have hafter : .node 4 ∈ Axis.following.items nestedDocument (.node 2) := by decide
  have hsiblings : Axis.followingSibling.items nestedDocument (.node 2) = [.node 3] := by cbv
  have hbeside : .node 3 ∈ Axis.followingSibling.items nestedDocument (.node 2) := by
    simp [hsiblings]
  have hbelow : .node 4 ∉ Axis.followingSibling.items nestedDocument (.node 2) := by
    simp [hsiblings]
  have hbefore := (hfollowing 2 hfirst 4 hinner).mp hafter
  have hbesideBack := (hsibling 2 hfirst 3 hsecond).mp hbeside
  have hbelowBack := mt (hsibling 2 hfirst 4 hinner).mpr hbelow
  have hattribute : .attribute 1 0 ∈ Axis.attributes.items nestedDocument (.node 1) := by decide
  have howner := (hattributes 1 0 _ hfound 1 (by decide)).mp hattribute
  exact ⟨hfirst, hsecond, hinner, hafter, hbefore, hbeside, hbesideBack, hbelow, hbelowBack,
    hfound, hattribute, howner⟩

end Locator
end RecordExtraction
