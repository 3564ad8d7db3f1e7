import Mathlib
import RecordExtraction.Proofs.Locator.DocumentOrder
import RecordExtraction.Proofs.Markup.Nesting

/-!
# Axes share out the nodes of a document

From a node, the nodes around it, inside it, after it and before it are all nodes of the document
but itself, each of them in one of the four directions.  An attribute stands between its owner and
what is inside the owner: the owner is around it, and the nodes inside the owner come after it.
-/

namespace RecordExtraction
namespace Locator

open Markup

/-- The lists have no item in common, and hold every node of the document exactly once and nothing
else. -/
structure PartitionNodes (document : Document) (lists : List (List Item)) : Prop where
  disjoint : lists.Pairwise List.Disjoint
  exactlyOnce : lists.flatten.Perm (document.all.map .node)

theorem partitionNodes_map_node {document : Document} (families : List (List Nat))
    (hnodup : ∀ family ∈ families, family.Nodup) (hdisjoint : families.Pairwise List.Disjoint)
    (hmem : ∀ id, id ∈ families.flatten ↔ id < document.size) :
    PartitionNodes document (families.map (List.map .node)) := by
  have hinjective : Function.Injective Item.node := fun _ _ h => Item.node.inj h
  constructor
  · refine List.pairwise_map.mpr (hdisjoint.imp ?_)
    intro first second
    exact List.disjoint_map hinjective
  · rw [← List.map_flatten]
    refine List.Perm.map _ ?_
    have hflatten : families.flatten.Nodup := List.nodup_flatten.mpr ⟨hnodup, hdisjoint⟩
    refine (List.perm_ext_iff_of_nodup hflatten List.nodup_range).mpr ?_
    intro id
    rw [hmem, List.mem_range]

variable {document : Document}

/-- Of two nodes the one comes before, around, inside or after the other, unless they are the
same. -/
theorem axes_of_node_partition {id : Nat} (hid : id < document.size) :
    PartitionNodes document
      ([.self, .ancestor, .descendant, .following, .preceding].map fun axis : Axis =>
        axis.items document (.node id)) := by
  refine partitionNodes_map_node
    [[id], document.ancestors id, document.descendants id, document.following id,
      document.preceding id] ?_ ?_ ?_
  · simp [Document.nodup_ancestors, Document.nodup_descendants, Document.nodup_following,
      Document.nodup_preceding]
  · simp only [List.pairwise_cons, List.disjoint_left, List.mem_cons, List.not_mem_nil,
      or_false, forall_eq_or_imp, forall_eq, Document.mem_ancestors, Document.mem_descendants,
      Document.mem_following, Document.mem_preceding]
    -- Those around and before have smaller numbers, those inside and after have greater ones.
    grind [→ Document.Encloses.lt]
  · intro other
    simp only [List.mem_flatten, List.mem_cons, List.not_mem_nil, or_false, exists_eq_or_imp,
      exists_eq_left, Document.mem_ancestors, Document.mem_descendants, Document.mem_following,
      Document.mem_preceding]
    constructor
    · rintro (rfl | h | h | ⟨h, -⟩ | ⟨h, -⟩)
      · exact hid
      · exact h.lt.trans hid
      · exact h.lt_size
      · exact h
      · exact h.trans hid
    · intro hother
      rcases Nat.lt_trichotomy other id with h | h | h
      · tauto
      · tauto
      · tauto

/-- An attribute divides its owner from the nodes inside the owner. -/
theorem axes_of_attribute_partition {owner position : Nat} (howner : owner < document.size) :
    PartitionNodes document
      ([.ancestor, .following, .preceding].map fun axis : Axis =>
        axis.items document (.attribute owner position)) := by
  refine partitionNodes_map_node
    [owner :: document.ancestors owner, document.all.filter (owner < ·),
      document.preceding owner] ?_ ?_ ?_
  · have hself : owner ∉ document.ancestors owner := by
      intro h
      exact (Document.mem_ancestors.mp h).lt.false
    simp [Document.nodup_ancestors, Document.nodup_preceding, Document.nodup_all_filter, hself]
  · simp only [List.pairwise_cons, List.disjoint_left, List.mem_cons, List.not_mem_nil,
      or_false, forall_eq_or_imp, forall_eq, Document.mem_ancestors, Document.mem_preceding,
      Document.mem_all_filter_lt]
    grind [→ Document.Encloses.lt]
  · intro other
    simp only [List.mem_flatten, List.mem_cons, List.not_mem_nil, or_false, exists_eq_or_imp,
      exists_eq_left, Document.mem_ancestors, Document.mem_preceding,
      Document.mem_all_filter_lt]
    constructor
    · rintro ((rfl | h) | ⟨h, -⟩ | ⟨h, -⟩)
      · exact howner
      · exact h.lt.trans howner
      · exact h
      · exact h.trans howner
    · intro hother
      rcases Nat.lt_trichotomy other owner with h | h | h
      · tauto
      · tauto
      · tauto

theorem lt_size_of_attribute? {owner position : Nat} {found : Attribute}
    (hfound : (Item.attribute owner position).attribute? document = some found) :
    owner < document.size := by
  by_contra hsize
  have hrow : document.row? owner = none := by
    simpa [Document.row?, Document.size] using hsize
  simp [Item.attribute?, Document.tag?, hrow] at hfound

/-- From a node of a document the axes `self`, `ancestor`, `descendant`, `following` and `preceding`
lead to every node of the document, each of them on one axis and once; the ancestors are the nodes
that it lies inside, and the descendants those inside it.  From an attribute `ancestor`, `following`
and `preceding` do: the owner is an ancestor, the nodes inside the owner follow. -/
theorem axes_partition (document : Document) :
    (∀ id < document.size,
      PartitionNodes document
        ([.self, .ancestor, .descendant, .following, .preceding].map fun axis : Axis =>
          axis.items document (.node id)) ∧
      (∀ other,
        .node other ∈ Axis.ancestor.items document (.node id) ↔ document.Encloses other id) ∧
      ∀ other,
        .node other ∈ Axis.descendant.items document (.node id) ↔ document.Encloses id other) ∧
    ∀ owner position found,
      (Item.attribute owner position).attribute? document = some found →
        PartitionNodes document
          ([.ancestor, .following, .preceding].map fun axis : Axis =>
            axis.items document (.attribute owner position)) ∧
        (∀ other,
          .node other ∈ Axis.ancestor.items document (.attribute owner position) ↔
            other = owner ∨ document.Encloses other owner) ∧
        (∀ inner, document.Encloses owner inner →
          .node inner ∈ Axis.following.items document (.attribute owner position)) ∧
        Axis.descendant.items document (.attribute owner position) = [] ∧
        Axis.self.items document (.attribute owner position) = [.attribute owner position] := by
  constructor
  · intro id hid
    refine ⟨axes_of_node_partition hid, ?_, ?_⟩
    · simp [Axis.items, Document.mem_ancestors]
    · simp [Axis.items, Document.mem_descendants]
  · intro owner position found hfound
    refine ⟨axes_of_attribute_partition (lt_size_of_attribute? hfound), ?_, ?_, rfl, rfl⟩
    · simp [Axis.items, Document.mem_ancestors]
    · intro inner h
      refine List.mem_map_of_mem ?_
      exact Document.mem_all_filter_lt.mpr ⟨h.lt_size, h.lt⟩

theorem axes_of_secondPart_and_attribute_partition :
    3 < nestedDocument.size ∧
    PartitionNodes nestedDocument
      [[.node 3], [.node 1, .node 0], [.node 4], [], [.node 2]] ∧
    nestedDocument.Encloses 1 3 ∧
    nestedDocument.Encloses 3 4 ∧
    (Item.attribute 1 0).attribute? nestedDocument = some ⟨none, "id", "1"⟩ ∧
    PartitionNodes nestedDocument [[.node 1, .node 0], [.node 2, .node 3, .node 4], []] ∧
    .node 4 ∈ Axis.following.items nestedDocument (.attribute 1 0) := by
  obtain ⟨hnodes, hattributes⟩ := axes_partition nestedDocument
  have hid : 3 < nestedDocument.size := by decide
  have hfound : (Item.attribute 1 0).attribute? nestedDocument = some ⟨none, "id", "1"⟩ := rfl
  obtain ⟨hnode, hancestors, hdescendants⟩ := hnodes 3 hid
  obtain ⟨hattribute, -, hfollowing, -, -⟩ := hattributes 1 0 _ hfound
  have houter : nestedDocument.Encloses 1 3 := (hancestors 1).mp (by decide)
  have hinner : nestedDocument.Encloses 3 4 := (hdescendants 4).mp (by decide)
  have hinside : nestedDocument.Encloses 1 4 := .content (.own (by decide) (by decide))
  exact ⟨hid, hnode, houter, hinner, hfound, hattribute, hfollowing 4 hinside⟩

end Locator
end RecordExtraction
