import RecordExtraction.Markup.Content

/-!
# Documents with numbered nodes

The nodes of a document are numbered in the order in which they begin, the root first.  Each row of
the table of nodes tells how many nodes lie inside the node, so the descendants of node `i` are the
numbers after `i` up to its last one, and every question about the tree is a question about
intervals of numbers.
-/

namespace RecordExtraction
namespace Markup

/-- What a node is. -/
inductive NodeKind where
  | root
  | element (tag : Tag)
  | leaf (leaf : Leaf)
deriving DecidableEq

/-- A node and the number of nodes inside it. -/
structure Row where
  kind : NodeKind
  extent : Nat
deriving DecidableEq

/-- The nodes of a sequence in the order in which they begin. -/
def Content.rows : Content → List Row
  | nil => []
  | leaf item rest => ⟨.leaf item, 0⟩ :: rest.rows
  | element tag children rest => ⟨.element tag, children.size⟩ :: (children.rows ++ rest.rows)

@[simp] theorem Content.length_rows (content : Content) : content.rows.length = content.size := by
  induction content with
  | nil => rfl
  | leaf item rest ih => simp [rows, size, ih]
  | element tag children rest ihc ihr => simp [rows, size, ihc, ihr]

/-- A document: its content below the root, and the table of its nodes. -/
structure Document where
  content : Content
  rows : Array Row
  rows_eq : rows = (⟨.root, content.size⟩ :: content.rows).toArray

namespace Document

/-- The document with the given content. -/
def ofContent (content : Content) : Document :=
  ⟨content, (⟨.root, content.size⟩ :: content.rows).toArray, rfl⟩

/-- The number of nodes, the root included. -/
def size (document : Document) : Nat := document.rows.size

theorem size_eq (document : Document) : document.size = document.content.size + 1 := by
  simp [size, document.rows_eq]

/-- The row of a node. -/
def row? (document : Document) (id : Nat) : Option Row := document.rows[id]?

/-- The number of nodes inside a node. -/
def extent (document : Document) (id : Nat) : Nat :=
  (document.row? id).elim 0 Row.extent

/-- The number of the last node inside a node, or of the node itself when it has none. -/
def last (document : Document) (id : Nat) : Nat := id + document.extent id

/-- The start tag of a node that is an element. -/
def tag? (document : Document) (id : Nat) : Option Tag :=
  match document.row? id with
  | some ⟨.element tag, _⟩ => some tag
  | _ => none

/-- The leaf that a node is. -/
def leaf? (document : Document) (id : Nat) : Option Leaf :=
  match document.row? id with
  | some ⟨.leaf leaf, _⟩ => some leaf
  | _ => none

/-- The namespaces in scope at a node.  Only an element has any. -/
def scope (document : Document) (id : Nat) : Scope :=
  (document.tag? id).elim {} Tag.scope

/-! ## Families of nodes -/

/-- All nodes in document order. -/
def all (document : Document) : List Nat := List.range document.size

/-- The nodes inside a node, in document order. -/
def descendants (document : Document) (id : Nat) : List Nat :=
  List.range' (id + 1) (document.extent id)

/-- The nodes that a node lies inside, the nearest first. -/
def ancestors (document : Document) (id : Nat) : List Nat :=
  (List.range id).reverse.filter fun outer => id ≤ document.last outer

/-- The node that a node is a member of. -/
def parent? (document : Document) (id : Nat) : Option Nat :=
  (document.ancestors id).head?

/-- The nodes from `id` to `stop` that do not lie inside an earlier one of them. -/
def membersFrom (document : Document) (id stop : Nat) : List Nat :=
  if id ≤ stop then id :: document.membersFrom (document.last id + 1) stop else []
termination_by stop + 1 - id
decreasing_by simp only [last]; omega

/-- The members of a node in document order. -/
def children (document : Document) (id : Nat) : List Nat :=
  document.membersFrom (id + 1) (document.last id)

/-- The members of the parent after a node. -/
def followingSiblings (document : Document) (id : Nat) : List Nat :=
  match document.parent? id with
  | some parent => document.membersFrom (document.last id + 1) (document.last parent)
  | none => []

/-- The members of the parent before a node, the nearest first. -/
def precedingSiblings (document : Document) (id : Nat) : List Nat :=
  match document.parent? id with
  | some parent => ((document.children parent).filter (· < id)).reverse
  | none => []

/-- The nodes that begin after a node has ended. -/
def following (document : Document) (id : Nat) : List Nat :=
  document.all.filter (document.last id < ·)

/-- The nodes that end before a node begins, the nearest first. -/
def preceding (document : Document) (id : Nat) : List Nat :=
  (List.range id).reverse.filter (document.last · < id)

/-- The texts inside a node, in document order. -/
def innerText (document : Document) (id : Nat) : String :=
  String.join ((document.descendants id).filterMap fun inner =>
    match document.leaf? inner with
    | some (.text value) => some value
    | _ => none)

end Document
end Markup
end RecordExtraction
