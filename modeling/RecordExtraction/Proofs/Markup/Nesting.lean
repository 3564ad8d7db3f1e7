import Mathlib
import RecordExtraction.Markup.Document

/-!
# Nodes inside nodes

Nodes are numbered in the order in which they begin.  That a node lies inside another one is a
question about the tree, which the content of a document is; the numbers answer it, because the
nodes inside a node are those that follow it up to its last one.  So the families of nodes of a
document are the ones that the tree has.
-/

namespace RecordExtraction
namespace Markup

/-- One node of a sequence lies inside another.  `first` is the number of the first node of the
sequence. -/
inductive Content.Encloses : Content → (first outer inner : Nat) → Prop
  | own {tag : Tag} {children rest : Content} {first inner : Nat}
      (hafter : first < inner) (hwithin : inner ≤ first + children.size) :
      (element tag children rest).Encloses first first inner
  | deeper {tag : Tag} {children rest : Content} {first outer inner : Nat}
      (h : children.Encloses (first + 1) outer inner) :
      (element tag children rest).Encloses first outer inner
  | afterElement {tag : Tag} {children rest : Content} {first outer inner : Nat}
      (h : rest.Encloses (first + 1 + children.size) outer inner) :
      (element tag children rest).Encloses first outer inner
  | afterLeaf {item : Leaf} {rest : Content} {first outer inner : Nat}
      (h : rest.Encloses (first + 1) outer inner) :
      (leaf item rest).Encloses first outer inner

/-- One node of a document lies inside another.  All nodes lie inside the root. -/
inductive Document.Encloses (document : Document) : (outer inner : Nat) → Prop
  | root {inner : Nat} (hafter : 0 < inner) (hnode : inner < document.size) :
      document.Encloses 0 inner
  | content {outer inner : Nat} (h : document.content.Encloses 1 outer inner) :
      document.Encloses outer inner

namespace Content

variable {content children rest : Content} {tag : Tag} {item : Leaf} {first outer inner : Nat}

theorem Encloses.bounds (h : content.Encloses first outer inner) :
    first ≤ outer ∧ outer < inner ∧ inner < first + content.size := by
  induction h with
  | own | deeper | afterElement | afterLeaf =>
      simp only [size]
      omega

theorem encloses_leaf_iff :
    (leaf item rest).Encloses first outer inner ↔ rest.Encloses (first + 1) outer inner := by
  constructor
  · rintro (_ | _ | _ | h)
    exact h
  · exact .afterLeaf

theorem encloses_element_iff :
    (element tag children rest).Encloses first outer inner ↔
      (outer = first ∧ first < inner ∧ inner ≤ first + children.size) ∨
        children.Encloses (first + 1) outer inner ∨
        rest.Encloses (first + 1 + children.size) outer inner := by
  constructor
  · rintro (⟨hafter, hwithin⟩ | h | h)
    · exact .inl ⟨rfl, hafter, hwithin⟩
    · exact .inr (.inl h)
    · exact .inr (.inr h)
  · rintro (⟨rfl, hafter, hwithin⟩ | h | h)
    · exact .own hafter hwithin
    · exact .deeper h
    · exact .afterElement h

/-- The number of nodes inside the node at a place of the sequence. -/
def extentAt (content : Content) (place : Nat) : Nat :=
  content.rows[place]?.elim 0 Row.extent

theorem extentAt_element_within {place : Nat} (hplace : place < children.size) :
    (element tag children rest).extentAt (place + 1) = children.extentAt place := by
  simp only [extentAt, rows, List.getElem?_cons_succ]
  rw [List.getElem?_append_left (by simpa using hplace)]

theorem extentAt_element_after (place : Nat) :
    (element tag children rest).extentAt (children.size + place + 1) = rest.extentAt place := by
  simp only [extentAt, rows, List.getElem?_cons_succ]
  rw [List.getElem?_append_right (by simp), length_rows, Nat.add_sub_cancel_left]

/-- Pre-order numbers turn the question of what lies inside a node into one about an interval. -/
theorem encloses_iff (place : Nat) :
    content.Encloses first (first + place) inner ↔
      first + place < inner ∧ inner ≤ first + place + content.extentAt place := by
  induction content generalizing first place with
  | nil =>
      simp only [extentAt, rows, List.getElem?_nil, Option.elim_none]
      constructor
      · rintro ⟨⟩
      · omega
  | leaf item rest ih =>
      rw [encloses_leaf_iff]
      cases place with
      | zero =>
          have hnone : (leaf item rest).extentAt 0 = 0 := rfl
          constructor
          · intro h
            have := h.bounds
            omega
          · omega
      | succ place =>
          have hrest : (leaf item rest).extentAt (place + 1) = rest.extentAt place := rfl
          rw [hrest, show first + (place + 1) = first + 1 + place by omega]
          exact ih place
  | element tag children rest ihchildren ihrest =>
      rw [encloses_element_iff]
      -- The node is the element itself, one of the nodes inside it, or one of those after it.
      rcases place with _ | place
      · have hown : (element tag children rest).extentAt 0 = children.size := rfl
        constructor
        · rintro (h | h | h)
          · omega
          · have := h.bounds
            omega
          · have := h.bounds
            omega
        · intro h
          exact .inl ⟨rfl, by omega, by omega⟩
      · rw [show first + (place + 1) = first + 1 + place by omega]
        rcases Nat.lt_or_ge place children.size with hplace | hplace
        · rw [extentAt_element_within hplace, ← ihchildren place]
          constructor
          · rintro (h | h | h)
            · omega
            · exact h
            · have := h.bounds
              omega
          · exact fun h => .inr (.inl h)
        · obtain ⟨place, rfl⟩ := Nat.exists_eq_add_of_le hplace
          rw [extentAt_element_after, ← Nat.add_assoc, ← ihrest place]
          constructor
          · rintro (h | h | h)
            · omega
            · have := h.bounds
              omega
            · exact h
          · exact fun h => .inr (.inr h)

end Content

namespace Document

variable {document : Document} {outer inner id other : Nat}

theorem extent_zero : document.extent 0 = document.content.size := by
  simp [extent, row?, document.rows_eq]

theorem extent_succ (place : Nat) :
    document.extent (place + 1) = document.content.extentAt place := by
  simp [extent, row?, document.rows_eq, Content.extentAt]

/-- A node lies inside another one exactly when its number is among those up to the last node of the
other one. -/
theorem encloses_iff :
    document.Encloses outer inner ↔ outer < inner ∧ inner ≤ document.last outer := by
  have hsize := document.size_eq
  cases outer with
  | zero =>
      rw [last, extent_zero]
      constructor
      · rintro (⟨hafter, hnode⟩ | h)
        · omega
        · have := h.bounds
          omega
      · intro h
        exact .root h.1 (by omega)
  | succ place =>
      have hcontent :
          document.Encloses (place + 1) inner ↔ document.content.Encloses 1 (place + 1) inner := by
        constructor
        · rintro (_ | h)
          exact h
        · exact .content
      rw [hcontent, last, extent_succ, Nat.add_comm place 1]
      exact Content.encloses_iff place

theorem Encloses.lt (h : document.Encloses outer inner) : outer < inner :=
  (encloses_iff.mp h).1

theorem Encloses.lt_size (h : document.Encloses outer inner) : inner < document.size := by
  cases h with
  | root _ hnode => exact hnode
  | content h =>
      have := h.bounds
      have := document.size_eq
      omega

/-! ## Families of nodes -/

theorem mem_descendants : inner ∈ document.descendants id ↔ document.Encloses id inner := by
  rw [encloses_iff, descendants, List.mem_range'_1, last]
  omega

theorem mem_ancestors : outer ∈ document.ancestors id ↔ document.Encloses outer id := by
  simp [ancestors, encloses_iff]

theorem mem_following :
    other ∈ document.following id ↔
      other < document.size ∧ id < other ∧ ¬document.Encloses id other := by
  simp only [following, all, encloses_iff, List.mem_filter, List.mem_range, decide_eq_true_eq]
  have hlast : id ≤ document.last id := Nat.le_add_right id _
  omega

theorem mem_preceding :
    other ∈ document.preceding id ↔ other < id ∧ ¬document.Encloses other id := by
  simp only [preceding, encloses_iff, List.mem_filter, List.mem_reverse, List.mem_range,
    decide_eq_true_eq]
  omega

theorem mem_all_filter_lt :
    other ∈ document.all.filter (id < ·) ↔ other < document.size ∧ id < other := by
  simp [all]

theorem nodup_descendants : (document.descendants id).Nodup :=
  List.nodup_range'

theorem nodup_ancestors : (document.ancestors id).Nodup :=
  (List.nodup_reverse.mpr List.nodup_range).filter _

theorem nodup_all_filter {keep : Nat → Bool} : (document.all.filter keep).Nodup :=
  List.nodup_range.filter _

theorem nodup_following : (document.following id).Nodup :=
  nodup_all_filter

theorem nodup_preceding : (document.preceding id).Nodup :=
  (List.nodup_reverse.mpr List.nodup_range).filter _

end Document
end Markup
end RecordExtraction
