import RecordExtraction.Markup.Document

/-!
# Items

What a locator selects: a node of the document or an attribute of one of its elements.  Items have a
string value, a name and a place in document order, where the attributes of an element come after
the element and before its content.
-/

namespace RecordExtraction

open Markup

/-- A node, or an attribute by its owner and its number among the attributes of the owner. -/
inductive Item where
  | node (id : Nat)
  | attribute (owner position : Nat)
deriving DecidableEq, Repr

namespace Item

/-- The node itself, or the owner of the attribute. -/
def anchor : Item → Nat
  | node id => id
  | .attribute owner _ => owner

/-- The place in document order: the number of the node or owner, then zero for the node itself and
the position counted from one for an attribute. -/
def orderKey : Item → Nat × Nat
  | node id => (id, 0)
  | .attribute owner position => (owner, position + 1)

/-- Document order. -/
def precedesOrEquals (a b : Item) : Bool :=
  a.orderKey.1 < b.orderKey.1 || (a.orderKey.1 == b.orderKey.1 && a.orderKey.2 ≤ b.orderKey.2)

/-- Leaves out every item that is equal to the one before it. -/
def dedupAdjacent : List Item → List Item
  | [] => []
  | [a] => [a]
  | a :: b :: rest => if a = b then dedupAdjacent (b :: rest) else a :: dedupAdjacent (b :: rest)

/-- The items in document order without repetition. -/
def normalize (items : List Item) : List Item :=
  dedupAdjacent (items.mergeSort precedesOrEquals)

/-- The attribute that an item is. -/
def attribute? (document : Document) : Item → Option Attribute
  | node _ => none
  | .attribute owner position => (document.tag? owner).bind fun tag => tag.attributes[position]?

/-- The string value: the value of an attribute, the content of a leaf, or all texts inside an
element or the root. -/
def text (document : Document) : Item → String
  | node id =>
      match document.leaf? id with
      | some (.text value) => value
      | some (.comment value) => value
      | some (.instruction _ data) => data.getD ""
      | none => document.innerText id
  | item@(.attribute ..) => (item.attribute? document).elim "" (·.value)

/-- The local part of the name.  Texts, comments and the root have none. -/
def localName (document : Document) : Item → String
  | node id =>
      match document.row? id with
      | some ⟨.element tag, _⟩ => tag.name
      | some ⟨.leaf (.instruction target _), _⟩ => target
      | _ => ""
  | item@(.attribute ..) => (item.attribute? document).elim "" (·.name)

/-- The namespace of the name. -/
def namespaceUri (document : Document) : Item → Option String
  | node id => (document.tag? id).bind (·.uri)
  | item@(.attribute ..) => (item.attribute? document).bind (·.uri)

/-- The name, with a qualifier if one stands for its namespace at this place. -/
def qualifiedName (document : Document) (item : Item) : String :=
  let qualifier? :=
    (item.namespaceUri document).bind fun uri => (document.scope item.anchor).qualifier? uri
  match qualifier? with
  | some qualifier =>
      if qualifier.isEmpty then item.localName document
      else qualifier ++ ":" ++ item.localName document
  | none => item.localName document

/-- The attributes of a node in the order of its start tag. -/
def attributesOf (document : Document) (id : Nat) : List Item :=
  match document.tag? id with
  | some tag => (List.range tag.attributes.length).map (.attribute id)
  | none => []

end Item
end RecordExtraction
