import Mathlib
import RecordExtraction.Locator.Item
import RecordExtraction.Proofs.Markup.RootElement
import RecordExtraction.Proofs.Markup.Siblings

/-!
# String values of elements

The string value of an element is read off the numbers of the nodes inside it: those that are texts
are put together.  The nodes inside a node are its members, each followed by the nodes inside the
member, so the string value is made up of the string values of the members, and in the end of the
texts of the tree in the order in which it has them.
-/

namespace RecordExtraction

open Markup

namespace Markup

/-! ## Contents of nodes -/

/-- The element with the given number has the given content.  `first` is the number of the first
node of the sequence. -/
inductive Content.HasContent : Content → (first id : Nat) → (inner : Content) → Prop
  | own {tag : Tag} {children rest : Content} {first : Nat} :
      (element tag children rest).HasContent first first children
  | deeper {tag : Tag} {children rest inner : Content} {first id : Nat}
      (h : children.HasContent (first + 1) id inner) :
      (element tag children rest).HasContent first id inner
  | afterElement {tag : Tag} {children rest inner : Content} {first id : Nat}
      (h : rest.HasContent (first + 1 + children.size) id inner) :
      (element tag children rest).HasContent first id inner
  | afterLeaf {item : Leaf} {rest inner : Content} {first id : Nat}
      (h : rest.HasContent (first + 1) id inner) :
      (leaf item rest).HasContent first id inner

/-- The root or the element with the given number has the given content. -/
inductive Document.HasContent (document : Document) : (id : Nat) → (inner : Content) → Prop
  | root : document.HasContent 0 document.content
  | content {id : Nat} {inner : Content} (h : document.content.HasContent 1 id inner) :
      document.HasContent id inner

/-- The text that a row stands for. -/
def Row.text? (row : Row) : Option String :=
  match row.kind with
  | .leaf (.text value) => some value
  | _ => none

namespace Content

variable {content inner : Content} {tag : Tag} {first id place extent : Nat}

theorem join_texts_of_rows (content : Content) :
    String.join (content.rows.filterMap Row.text?) = content.text := by
  induction content with
  | nil => rfl
  | leaf item rest ih =>
      cases item with
      | text value =>
          have hrow : Row.text? ⟨.leaf (.text value), 0⟩ = some value := rfl
          rw [rows, List.filterMap_cons_some hrow, String.join_cons, ih]
          rfl
      | comment value => exact ih
      | instruction target data => exact ih
  | element tag children rest ihchildren ihrest =>
      have hrow : Row.text? ⟨.element tag, children.size⟩ = none := rfl
      rw [rows, List.filterMap_cons_none hrow, List.filterMap_append, String.join_append,
        ihchildren, ihrest]
      rfl

/-- The rows of what an element holds follow its own row. -/
theorem HasContent.exists_rows (h : content.HasContent first id inner) :
    ∃ before kind after, content.rows = before ++ ⟨kind, inner.size⟩ :: (inner.rows ++ after) ∧
      id = first + before.length := by
  induction h with
  | @own tag children rest first => exact ⟨[], .element tag, rest.rows, rfl, rfl⟩
  | @deeper tag children rest inner first id h ih =>
      rcases ih with ⟨before, kind, after, hrows, hid⟩
      refine ⟨⟨.element tag, children.size⟩ :: before, kind, after ++ rest.rows, ?_, ?_⟩
      · rw [rows, hrows]
        simp only [List.cons_append, List.append_assoc]
      · rw [hid, List.length_cons]
        omega
  | @afterElement tag children rest inner first id h ih =>
      rcases ih with ⟨before, kind, after, hrows, hid⟩
      refine ⟨⟨.element tag, children.size⟩ :: (children.rows ++ before), kind, after, ?_, ?_⟩
      · rw [rows, hrows]
        simp only [List.cons_append, List.append_assoc]
      · rw [hid, List.length_cons, List.length_append, length_rows]
        omega
  | @afterLeaf item rest inner first id h ih =>
      rcases ih with ⟨before, kind, after, hrows, hid⟩
      refine ⟨⟨.leaf item, 0⟩ :: before, kind, after, ?_, ?_⟩
      · rw [rows, hrows, List.cons_append]
      · rw [hid, List.length_cons]
        omega

theorem exists_hasContent (helement : content.rows[place]? = some ⟨.element tag, extent⟩)
    (first : Nat) : ∃ inner, content.HasContent first (first + place) inner := by
  induction content generalizing first place with
  | nil => cases helement
  | leaf item rest ih =>
      rcases place with _ | place
      · cases helement
      · rcases ih helement (first + 1) with ⟨inner, hinner⟩
        rw [Nat.add_assoc, Nat.add_comm 1] at hinner
        exact ⟨inner, .afterLeaf hinner⟩
  | element other children rest ihchildren ihrest =>
      rcases place with _ | place
      · exact ⟨children, .own⟩
      · rw [rows, List.getElem?_cons_succ] at helement
        rcases Nat.lt_or_ge place children.size with hwithin | hafter
        · rw [List.getElem?_append_left (by simpa using hwithin)] at helement
          rcases ihchildren helement (first + 1) with ⟨inner, hinner⟩
          rw [Nat.add_assoc, Nat.add_comm 1] at hinner
          exact ⟨inner, .deeper hinner⟩
        · rw [List.getElem?_append_right (by simpa using hafter), length_rows] at helement
          rcases ihrest helement (first + 1 + children.size) with ⟨inner, hinner⟩
          have hplace : first + 1 + children.size + (place - children.size) =
              first + (place + 1) := by omega
          rw [hplace] at hinner
          exact ⟨inner, .afterElement hinner⟩

/-- Below the root there are elements and leaves, and nothing lies inside a leaf. -/
theorem element_or_leaf_of_mem_rows {row : Row} (hrow : row ∈ content.rows) :
    (∃ tag, row.kind = .element tag) ∨ ∃ item, row = ⟨.leaf item, 0⟩ := by
  induction content with
  | nil => cases hrow
  | leaf item rest ih =>
      rcases List.mem_cons.mp hrow with rfl | hrow
      · exact .inr ⟨item, rfl⟩
      · exact ih hrow
  | element tag children rest ihchildren ihrest =>
      rcases List.mem_cons.mp hrow with rfl | hrow
      · exact .inl ⟨tag, rfl⟩
      · rcases List.mem_append.mp hrow with hrow | hrow
        · exact ihchildren hrow
        · exact ihrest hrow

end Content

namespace Document

variable {document : Document} {inner : Content} {tag : Tag} {value : String}
  {id stop member : Nat}

/-- The text that a node is. -/
def text? (document : Document) (id : Nat) : Option String :=
  (document.row? id).bind Row.text?

theorem text?_eq_some_iff :
    document.text? id = some value ↔ document.leaf? id = some (.text value) := by
  unfold text? leaf?
  cases document.row? id with
  | none => simp
  | some row =>
      rcases row with ⟨_ | _ | item, extent⟩
      · simp [Row.text?]
      · simp [Row.text?]
      · cases item <;> simp [Row.text?]

theorem innerText_eq (document : Document) (id : Nat) :
    document.innerText id = String.join ((document.descendants id).filterMap document.text?) := by
  unfold innerText
  congr 2
  funext inner
  cases htext : document.text? inner with
  | some value => rw [text?_eq_some_iff.mp htext]
  | none =>
      split
      · next value hleaf =>
          rw [text?_eq_some_iff.mpr hleaf] at htext
          cases htext
      · rfl

/-! ## The nodes inside a node -/

/-- The nodes from one number to another are the outermost of them, each followed by the nodes
inside it, if none of them reaches further. -/
theorem flatMap_membersFrom
    (hstop : ∀ member, id ≤ member → member ≤ stop → document.last member ≤ stop) :
    (document.membersFrom id stop).flatMap (fun member => member :: document.descendants member) =
      List.range' id (stop + 1 - id) := by
  induction id using membersFrom.induct document stop with
  | case1 id hle ih =>
      have hlast := document.le_last id
      have hreach := hstop id (Nat.le_refl id) hle
      have hlater := ih fun member hmember => hstop member (by omega)
      have hown : id :: document.descendants id = List.range' id (document.extent id + 1) := rfl
      have hend : id + (document.extent id + 1) = document.last id + 1 := rfl
      rw [membersFrom, if_pos hle, List.flatMap_cons, hlater, hown, ← hend, List.range'_append_1]
      congr 1
      unfold last at hreach
      omega
  | case2 id hlt =>
      have hnone : stop + 1 - id = 0 := by omega
      rw [membersFrom, if_neg hlt, hnone]
      rfl

theorem descendants_eq_flatMap (document : Document) (id : Nat) :
    document.descendants id =
      (document.children id).flatMap fun member => member :: document.descendants member := by
  have hlength : document.last id + 1 - (id + 1) = document.extent id := by
    unfold last
    omega
  unfold children
  rw [flatMap_membersFrom, hlength]
  · rfl
  · intro member hfirst hwithin
    exact Encloses.last_le (encloses_iff.mpr ⟨hfirst, hwithin⟩)

theorem descendants_increasing (document : Document) (id : Nat) :
    (document.descendants id).Pairwise (· < ·) :=
  List.pairwise_lt_range' 1

/-- The node is an element or a text: a member of this kind has a part in the string value. -/
def bearsText (document : Document) (id : Nat) : Bool :=
  (document.tag? id).isSome || (document.text? id).isSome

/-- A node that is no element and not the root has nothing inside it. -/
theorem tag_or_leaf_of_pos (hpos : 0 < id) (hsize : id < document.size) :
    (∃ tag, document.tag? id = some tag) ∨
      ∃ item, document.row? id = some ⟨.leaf item, 0⟩ := by
  obtain ⟨place, rfl⟩ := Nat.exists_eq_add_of_lt hpos
  rw [Nat.zero_add] at hsize ⊢
  have hrow : document.row? (place + 1) = document.content.rows[place]? := by
    rw [row?, document.rows_eq, List.getElem?_toArray, List.getElem?_cons_succ]
  have hplace : place < document.content.rows.length := by
    rw [Content.length_rows]
    rw [document.size_eq] at hsize
    omega
  have hsome := List.getElem?_eq_getElem hplace
  have hmem := List.getElem_mem hplace
  rcases Content.element_or_leaf_of_mem_rows hmem with ⟨tag, htag⟩ | ⟨item, hitem⟩
  · left
    refine ⟨tag, ?_⟩
    rw [tag?_succ_eq_some_iff, hsome, ← htag]
    exact ⟨_, rfl⟩
  · right
    rw [hrow, hsome, hitem]
    exact ⟨item, rfl⟩

theorem leaf?_zero : document.leaf? 0 = none := by
  have hrow : document.row? 0 = some ⟨.root, document.content.size⟩ := by
    rw [row?, document.rows_eq]
    rfl
  rw [leaf?, hrow]

theorem leaf?_of_tag? (htag : document.tag? id = some tag) : document.leaf? id = none := by
  unfold tag? at htag
  unfold leaf?
  split at htag
  · next hrow => rw [hrow]
  · cases htag

/-- The rows of what a node holds follow the row of the node. -/
theorem HasContent.exists_rows (h : document.HasContent id inner) :
    ∃ before kind after,
      document.rows.toList = before ++ ⟨kind, inner.size⟩ :: (inner.rows ++ after) ∧
        before.length = id := by
  rw [document.rows_eq, List.toList_toArray]
  cases h with
  | root => exact ⟨[], .root, [], by simp, rfl⟩
  | content h =>
      rcases h.exists_rows with ⟨before, kind, after, hrows, hid⟩
      refine ⟨⟨.root, document.content.size⟩ :: before, kind, after, ?_, ?_⟩
      · rw [hrows, List.cons_append]
      · rw [hid, List.length_cons, Nat.add_comm]

theorem exists_hasContent (hid : id = 0 ∨ ∃ tag, document.tag? id = some tag) :
    ∃ inner, document.HasContent id inner := by
  rcases hid with rfl | ⟨tag, htag⟩
  · exact ⟨_, .root⟩
  · rcases id with _ | place
    · exact ⟨_, .root⟩
    · rcases tag?_succ_eq_some_iff.mp htag with ⟨extent, hrow⟩
      rcases Content.exists_hasContent hrow 1 with ⟨inner, hinner⟩
      rw [Nat.add_comm] at hinner
      exact ⟨inner, .content hinner⟩

/-- The nodes inside a node are the ones that its content has, in the same order. -/
theorem HasContent.texts_eq (h : document.HasContent id inner) :
    (document.descendants id).filterMap document.text? = inner.rows.filterMap Row.text? := by
  rcases h.exists_rows with ⟨before, kind, after, hrows, rfl⟩
  have hrow : ∀ place, document.row? (before.length + place) =
      (⟨kind, inner.size⟩ :: (inner.rows ++ after))[place]? := by
    intro place
    rw [row?, ← Array.getElem?_toList, hrows, List.getElem?_append_right (Nat.le_add_right _ _),
      Nat.add_sub_cancel_left]
  have hextent : document.extent before.length = inner.rows.length := by
    have hown := hrow 0
    rw [Nat.add_zero, List.getElem?_cons_zero] at hown
    rw [extent, hown, Content.length_rows]
    rfl
  have hmap : (document.descendants before.length).map document.row? =
      inner.rows.map Option.some := by
    rw [descendants, hextent]
    apply List.ext_getElem
    · simp
    · intro place hleft hright
      rw [List.length_map] at hright
      rw [List.getElem_map, List.getElem_map, List.getElem_range', Nat.one_mul, Nat.add_assoc,
        hrow, Nat.add_comm 1, List.getElem?_cons_succ, List.getElem?_append_left hright,
        List.getElem?_eq_getElem hright]
  have htexts : document.text? = (fun row? => row?.bind Row.text?) ∘ document.row? := rfl
  rw [htexts, ← List.filterMap_map, hmap, List.filterMap_map]
  rfl

end Document
end Markup

namespace Item

variable {document : Document} {inner : Content} {value : String} {id : Nat}

theorem text_of_text? (htext : document.text? id = some value) :
    (node id).text document = value := by
  rw [text, Document.text?_eq_some_iff.mp htext]

theorem text_of_no_leaf (hinner : document.leaf? id = none) :
    (node id).text document =
      String.join ((document.descendants id).filterMap document.text?) := by
  rw [text, hinner, document.innerText_eq]

/-- What a member and the nodes inside it bring to the string value around them. -/
theorem join_member_and_inside (hpos : 0 < id) (hsize : id < document.size) :
    String.join ((id :: document.descendants id).filterMap document.text?) =
      if document.bearsText id then (node id).text document else "" := by
  rcases Document.tag_or_leaf_of_pos hpos hsize with ⟨tag, htag⟩ | ⟨item, hrow⟩
  · have hleaf := Document.leaf?_of_tag? htag
    have hnone : document.text? id = none := by
      rw [Option.eq_none_iff_forall_ne_some]
      intro value htext
      rw [Document.text?_eq_some_iff, hleaf] at htext
      cases htext
    have hbears : document.bearsText id = true := by
      unfold Document.bearsText
      rw [htag]
      rfl
    rw [List.filterMap_cons_none hnone, hbears, if_pos rfl, text_of_no_leaf hleaf]
  · have hnothing : document.descendants id = [] := by
      rw [Document.descendants, Document.extent, hrow]
      rfl
    have htag : document.tag? id = none := by rw [Document.tag?, hrow]
    have htext : document.text? id = Row.text? ⟨.leaf item, 0⟩ := by
      rw [Document.text?, hrow, Option.bind_some]
    rw [hnothing, Document.bearsText, htag, Option.isSome_none, Bool.false_or]
    cases hitem : document.text? id with
    | some value =>
        rw [List.filterMap_cons_some hitem, text_of_text? hitem]
        simp
    | none =>
        rw [List.filterMap_cons_none hitem]
        rfl

theorem join_flatMap {α : Type} (pieces : α → List String) (items : List α) :
    String.join (items.flatMap pieces) =
      String.join (items.map fun item => String.join (pieces item)) := by
  induction items with
  | nil => rfl
  | cons item rest ih =>
      rw [List.flatMap_cons, List.map_cons, String.join_append, String.join_cons, ih]

theorem join_map_if {α : Type} (p : α → Bool) (piece : α → String) (items : List α) :
    String.join (items.map fun item => if p item then piece item else "") =
      String.join ((items.filter p).map piece) := by
  induction items with
  | nil => rfl
  | cons item rest ih =>
      rw [List.map_cons, String.join_cons, ih, List.filter_cons]
      by_cases hitem : p item = true
      · rw [if_pos hitem, if_pos hitem, List.map_cons, String.join_cons]
      · rw [if_neg hitem, if_neg hitem, String.empty_append]

/-- The string value is made up of the string values of the members that are elements or texts. -/
theorem text_eq_join_members (hinner : document.leaf? id = none) :
    (node id).text document =
      String.join (((document.children id).filter document.bearsText).map fun member =>
        (node member).text document) := by
  rw [text_of_no_leaf hinner, document.descendants_eq_flatMap, List.filterMap_flatMap,
    join_flatMap, ← join_map_if]
  congr 1
  apply List.map_congr_left
  intro member hmember
  have hparent := Document.mem_children.mp hmember
  have hencloses := (Document.parent?_eq_some_iff.mp hparent).1
  exact join_member_and_inside (Nat.zero_lt_of_lt hencloses.lt) hencloses.lt_size

/-- The string value is made up of the texts inside. -/
theorem text_eq_join_texts (hinner : document.leaf? id = none) :
    (node id).text document =
      String.join (((document.descendants id).filter fun place => (document.text? place).isSome).map
        fun place => (node place).text document) := by
  rw [text_of_no_leaf hinner, ← List.filterMap_eq_map, List.filterMap_filter]
  congr 2
  funext place
  cases htext : document.text? place with
  | none => rfl
  | some value =>
      rw [Option.isSome_some, if_pos rfl, Function.comp_apply, text_of_text? htext]

theorem text_eq_text_of_content (hinner : document.leaf? id = none)
    (hcontent : document.HasContent id inner) :
    (node id).text document = inner.text := by
  rw [text_of_no_leaf hinner, hcontent.texts_eq, inner.join_texts_of_rows]

end Item

/-- The string value of the root or of an element is made up of the string values of those of its
members that are elements or texts, in document order, so that comments and instructions bring
nothing to it at any depth.  It is what the texts inside the node are when they are put together in
document order, and no other text: the texts that the tree has in the content of the node. -/
theorem stringValues_compose (document : Document) (id : Nat)
    (hid : id = 0 ∨ ∃ tag, document.tag? id = some tag) :
    (Item.node id).text document =
        String.join (((document.children id).filter document.bearsText).map fun member =>
          (Item.node member).text document) ∧
      (∃ texts : List Nat, texts.Pairwise (· < ·) ∧
        (∀ place, place ∈ texts ↔
          document.Encloses id place ∧ ∃ value, document.leaf? place = some (.text value)) ∧
        (Item.node id).text document =
          String.join (texts.map fun place => (Item.node place).text document)) ∧
      (∃ inner, document.HasContent id inner) ∧
      ∀ inner, document.HasContent id inner → (Item.node id).text document = inner.text := by
  have hinner : document.leaf? id = none := by
    rcases hid with rfl | ⟨tag, htag⟩
    · exact Document.leaf?_zero
    · exact Document.leaf?_of_tag? htag
  refine ⟨Item.text_eq_join_members hinner, ?_, Document.exists_hasContent hid, ?_⟩
  · refine ⟨_, (document.descendants_increasing id).filter _, ?_, Item.text_eq_join_texts hinner⟩
    intro place
    rw [List.mem_filter, Document.mem_descendants, Option.isSome_iff_exists]
    simp only [Document.text?_eq_some_iff]
  · intro inner hcontent
    exact Item.text_eq_text_of_content hinner hcontent

/-- `<a>x<!--c--><b>y<?p q?><c>z</c></b>w</a>`. -/
def mixedDocument : Document :=
  .ofContent (.element ⟨none, "a", [], {}⟩
    (.leaf (.text "x") (.leaf (.comment "c") (.element ⟨none, "b", [], {}⟩
      (.leaf (.text "y") (.leaf (.instruction "p" (some "q"))
        (.element ⟨none, "c", [], {}⟩ (.leaf (.text "z") .nil) .nil)))
      (.leaf (.text "w") .nil)))) .nil)

theorem stringValue_of_mixedContent_composes :
    (∃ tag, mixedDocument.tag? 1 = some tag) ∧
    (Item.node 1).text mixedDocument =
      String.join ([2, 4, 9].map fun member => (Item.node member).text mixedDocument) ∧
    (Item.node 1).text mixedDocument = "xyzw" := by
  have htag : ∃ tag, mixedDocument.tag? 1 = some tag := ⟨_, rfl⟩
  have hmembers : (mixedDocument.children 1).filter mixedDocument.bearsText = [2, 4, 9] := by
    decide +kernel
  rcases stringValues_compose mixedDocument 1 (.inr htag) with ⟨hjoin, -, -, hcontent⟩
  rw [hmembers] at hjoin
  exact ⟨htag, hjoin, hcontent _ (.content .own)⟩

end RecordExtraction
