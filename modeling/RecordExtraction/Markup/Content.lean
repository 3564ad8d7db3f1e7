import RecordExtraction.Markup.Scope

/-!
# The content of a document

The content of an element, or of a whole document, is a sequence of elements, which have content of
their own, and of leaves: texts, comments and processing instructions.  `Content` holds the first
member of a sequence together with the rest, so that one induction reaches every node.
-/

namespace RecordExtraction
namespace Markup

/-- An attribute with its namespace.  Only a qualified attribute has one. -/
structure Attribute where
  uri : Option String
  name : String
  value : String
deriving DecidableEq

/-- What a start tag says about an element. -/
structure Tag where
  uri : Option String
  name : String
  attributes : List Attribute
  scope : Scope
deriving DecidableEq

/-- A node without content of its own. -/
inductive Leaf where
  | text (value : String)
  | comment (value : String)
  | instruction (target : String) (data : Option String)
deriving DecidableEq

/-- A sequence of nodes. -/
inductive Content where
  | nil
  | leaf (leaf : Leaf) (rest : Content)
  | element (tag : Tag) (children : Content) (rest : Content)
deriving DecidableEq

namespace Content

/-- The number of nodes at all depths. -/
def size : Content → Nat
  | nil => 0
  | leaf _ rest => rest.size + 1
  | element _ children rest => children.size + rest.size + 1

/-- The texts at all depths, in order.  Comments and instructions contribute nothing. -/
def text : Content → String
  | nil => ""
  | leaf (.text value) rest => value ++ rest.text
  | leaf _ rest => rest.text
  | element _ children rest => children.text ++ rest.text

/-- One of the nodes of the sequence itself is an element. -/
def hasElement : Content → Bool
  | nil => false
  | leaf _ rest => rest.hasElement
  | element .. => true

end Content
end Markup
end RecordExtraction
