import RecordExtraction.Number.Decimal
import RecordExtraction.Text.Quoted

/-!
# Data trees

What a schema file holds before it is understood as a schema, in either format: scalars, sequences
and mappings.  A tree keeps the place at which the text of the file breaks, so that whoever walks
the tree from left to right meets the problems of a file in the order of its text.
-/

namespace RecordExtraction
namespace SchemaFile

/-- What stands in a file, for reports. -/
inductive Found where
  | null
  | unit
  | boolean (value : Bool)
  | integer (value : Int)
  /-- An integer that needs more than 64 bits, and the type that holds it. -/
  | wideInteger (value : Int) (type : String)
  | float (value : Double)
  | text (value : String)
  | sequence
  | mapping
deriving DecidableEq

/-- Numbers in reports have no power of ten and always a point. -/
def reportedNumberLayout : NumberLayout := { NumberLayout.plain with keepsPoint := true }

def Found.description : Found → String
  | null => "null"
  | unit => "unit value"
  | boolean value => "boolean `" ++ (if value then "true" else "false") ++ "`"
  | integer value => s!"integer `{value}`"
  | wideInteger value type => s!"integer `{value}` as {type}"
  | float value => "floating point `" ++ reportedNumberLayout.render value ++ "`"
  | text value => "string " ++ quoted value
  | sequence => "sequence"
  | mapping => "map"

/-- A scalar by what it can be taken for. -/
structure Scalar where
  /-- The scalar as a text. -/
  text : Option String
  /-- The scalar as a truth value. -/
  boolean : Option Bool
  /-- The scalar stands for an absent value. -/
  isNull : Bool
  /-- The scalar stands for a collection without members. -/
  isEmpty : Bool
  /-- What is reported when the scalar does not fit. -/
  found : Found
deriving DecidableEq

/-- A tree of data. -/
inductive Node where
  | scalar (scalar : Scalar)
  | sequence (items : List Node)
  | mapping (entries : List (Node × Node))
  /-- A node that aliases can refer to. -/
  | anchored (id : Nat) (node : Node)
  | alias (id : Nat)
  /-- A scalar that is well-formed but has no value. -/
  | unreadable
  /-- The place where the text breaks. -/
  | malformed

mutual

/-- The text does not break inside the node. -/
def Node.isWellFormed : Node → Bool
  | .sequence items => areWellFormed items
  | .mapping entries => areWellFormedEntries entries
  | .anchored _ node => node.isWellFormed
  | .malformed => false
  | _ => true

/-- The text does not break inside the nodes. -/
def areWellFormed : List Node → Bool
  | [] => true
  | node :: rest => node.isWellFormed && areWellFormed rest

/-- The text does not break inside the entries of a mapping. -/
def areWellFormedEntries : List (Node × Node) → Bool
  | [] => true
  | (key, value) :: rest => key.isWellFormed && value.isWellFormed && areWellFormedEntries rest

end

mutual

/-- The nodes that aliases can refer to, in the order in which they begin. -/
def Node.anchors : Node → List (Nat × Node)
  | .sequence items => anchorsOfAll items
  | .mapping entries => anchorsOfEntries entries
  | .anchored id node => (id, node) :: node.anchors
  | _ => []

/-- The anchored nodes in a sequence. -/
def anchorsOfAll : List Node → List (Nat × Node)
  | [] => []
  | node :: rest => node.anchors ++ anchorsOfAll rest

/-- The anchored nodes in a mapping. -/
def anchorsOfEntries : List (Node × Node) → List (Nat × Node)
  | [] => []
  | (key, value) :: rest => key.anchors ++ value.anchors ++ anchorsOfEntries rest

end

/-- The data of a file. -/
structure Data where
  root : Node
  /-- Nothing but the end of the file follows the root. -/
  endsAfterRoot : Bool
  /-- A structure may be written as the sequence of its fields. -/
  admitsPositional : Bool

/-- The node that a node stands for.  Of several nodes with the anchor of an alias the last one
counts. -/
def Data.resolve (data : Data) : Node → Node
  | .anchored _ node => node
  | .alias id =>
      (data.root.anchors.filter fun entry => entry.1 == id).getLast?.elim .malformed (·.2)
  | node => node

end SchemaFile
end RecordExtraction
