import RecordExtraction.Locator.Token
import RecordExtraction.Locator.Numeral

/-!
# Expressions

The abstract form of a locator.  A path begins somewhere and takes steps; a step follows an axis,
tests the nodes that it finds and filters them by predicates, which are expressions again.
-/

namespace RecordExtraction
namespace Locator

/-- A direction in which a step looks for nodes. -/
inductive Axis where
  | ancestor
  | ancestorOrSelf
  | attributes
  | child
  | descendant
  | descendantOrSelf
  | following
  | followingSibling
  | namespaces
  | parent
  | preceding
  | precedingSibling
  | self
deriving DecidableEq, Repr

namespace Axis

def name : Axis → String
  | ancestor => "ancestor"
  | ancestorOrSelf => "ancestor-or-self"
  | attributes => "attribute"
  | child => "child"
  | descendant => "descendant"
  | descendantOrSelf => "descendant-or-self"
  | following => "following"
  | followingSibling => "following-sibling"
  | namespaces => "namespace"
  | parent => "parent"
  | preceding => "preceding"
  | precedingSibling => "preceding-sibling"
  | self => "self"

def all : List Axis :=
  [ancestor, ancestorOrSelf, attributes, child, descendant, descendantOrSelf, following,
   followingSibling, namespaces, parent, preceding, precedingSibling, self]

def ofName? (name : String) : Option Axis := all.find? fun axis => axis.name == name

end Axis

/-- A condition on the nodes of an axis. -/
inductive NodeTest where
  /-- A name.  Without a qualifier or without a local name that part is not compared. -/
  | name (qualifier : Option String) (localName : Option String)
  | text
  | comment
  /-- A processing instruction, with a given target if there is one. -/
  | instruction (target : Option String)
  | any
deriving DecidableEq, Repr

/-- A function that every locator may call. -/
inductive CoreFunction where
  | last
  | position
  | count
  | id
  | localName
  | namespaceUri
  | name
  | string
  | concat
  | startsWith
  | contains
  | substringBefore
  | substringAfter
  | substring
  | stringLength
  | normalizeSpace
  | translate
  | boolean
  | not
  | true
  | false
  | lang
  | number
  | sum
  | floor
  | ceiling
  | round
deriving DecidableEq, Repr

namespace CoreFunction

def spelling : CoreFunction → String
  | last => "last"
  | position => "position"
  | count => "count"
  | id => "id"
  | localName => "local-name"
  | namespaceUri => "namespace-uri"
  | name => "name"
  | string => "string"
  | concat => "concat"
  | startsWith => "starts-with"
  | contains => "contains"
  | substringBefore => "substring-before"
  | substringAfter => "substring-after"
  | substring => "substring"
  | stringLength => "string-length"
  | normalizeSpace => "normalize-space"
  | translate => "translate"
  | boolean => "boolean"
  | not => "not"
  | true => "true"
  | false => "false"
  | lang => "lang"
  | number => "number"
  | sum => "sum"
  | floor => "floor"
  | ceiling => "ceiling"
  | round => "round"

def all : List CoreFunction :=
  [last, position, count, id, localName, namespaceUri, name, string, concat, startsWith, contains,
   substringBefore, substringAfter, substring, stringLength, normalizeSpace, translate, boolean,
   not, true, false, lang, number, sum, floor, ceiling, round]

def ofName? (spelled : String) : Option CoreFunction :=
  all.find? fun function => function.spelling == spelled

/-- The least number of arguments, and the greatest unless there is none. -/
def arity : CoreFunction → Nat × Option Nat
  | last | position | true | false => (0, some 0)
  | count | id | boolean | not | lang | sum | floor | ceiling | round => (1, some 1)
  | localName | namespaceUri | name | string | stringLength | normalizeSpace | number => (0, some 1)
  | startsWith | contains | substringBefore | substringAfter => (2, some 2)
  | substring => (2, some 3)
  | translate => (3, some 3)
  | concat => (2, none)

/-- The function takes this number of arguments. -/
def accepts (function : CoreFunction) (count : Nat) : Bool :=
  function.arity.1 ≤ count && function.arity.2.all (count ≤ ·)

end CoreFunction

mutual

/-- An expression. -/
inductive Expr where
  | binary (operator : BinaryOperator) (left right : Expr)
  | negate (operand : Expr)
  | literal (value : String)
  | number (value : Double)
  | call (function : CoreFunction) (arguments : List Expr)
  | filter (primary : Expr) (predicates : List Expr)
  | path (start : Start) (steps : List Step)

/-- Where a path begins: at the root, at the context node, or at the nodes of an expression. -/
inductive Start where
  | root
  | context
  | filter (primary : Expr)

/-- A step of a path. -/
inductive Step where
  | mk (axis : Axis) (test : NodeTest) (predicates : List Expr)

end

instance : Inhabited Expr := ⟨.literal ""⟩

/-- A step to all nodes of an axis. -/
def Step.all (axis : Axis) : Step := .mk axis .any []

/-- The step that two slashes stand for. -/
def Step.anyDepth : Step := .all .descendantOrSelf

end Locator
end RecordExtraction
