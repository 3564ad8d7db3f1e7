import RecordExtraction.Locator.Axis
import RecordExtraction.Locator.Numeral

/-!
# Values of expressions

An expression is evaluated to a set of items, a truth value, a number or a text.  Every value can be
taken as a truth value, as a number and as a text; a set of items is taken by its first item.
-/

namespace RecordExtraction
namespace Locator

open Markup

/-- The result of evaluating an expression.  A set of items is listed in document order. -/
inductive Value where
  | nodes (items : List Item)
  | boolean (value : Bool)
  | number (value : Double)
  | text (value : String)
deriving DecidableEq

namespace Value

/-- The value as a truth value: something is there. -/
def toBool : Value → Bool
  | nodes items => !items.isEmpty
  | boolean value => value
  | number value => !value.isZero && !value.isNaN
  | text value => !value.isEmpty

/-- The value as a text. -/
def toText (document : Document) : Value → String
  | nodes items => items.head?.elim "" (Item.text document)
  | boolean value => if value then "true" else "false"
  | number value => formatNumber value
  | text value => value

/-- The value as a number. -/
def toNumber (document : Document) : Value → Double
  | nodes items => parseNumber ((nodes items).toText document)
  | boolean value => if value then 1 else 0
  | number value => value
  | text value => parseNumber value

/-- The items of a value, which has to be a set of items. -/
def items : Value → Except PathError (List Item)
  | nodes items => .ok items
  | _ => .error .notANodeSet

/-- A predicate with this value keeps the item at the position: a number keeps the item at that
position, any other value decides by its truth. -/
def keeps (position : Nat) : Value → Bool
  | number value => value.equal (.ofNat position)
  | value => value.toBool

end Value

/-! ## Comparison -/

def Comparison.ofNumbers (comparison : Comparison) (x y : Double) : Bool :=
  match comparison with
  | .equal => x.equal y
  | .notEqual => !x.equal y
  | .less => x.less y
  | .lessOrEqual => x.lessOrEqual y
  | .greater => y.less x
  | .greaterOrEqual => y.lessOrEqual x

/-- Two values are equal: as truth values if one of them is one, else as numbers if one of them is
one, else as texts. -/
def equalScalars (document : Document) (left right : Value) : Bool :=
  match left, right with
  | .boolean a, b => a == b.toBool
  | a, .boolean b => a.toBool == b
  | .number a, b => a.equal (b.toNumber document)
  | a, .number b => (a.toNumber document).equal b
  | a, b => a.toText document == b.toText document

/-- Compares two values that are not sets of items. -/
def compareScalars (document : Document) (comparison : Comparison) (left right : Value) : Bool :=
  match comparison with
  | .equal => equalScalars document left right
  | .notEqual => !equalScalars document left right
  | order => order.ofNumbers (left.toNumber document) (right.toNumber document)

/-- The texts of the items, as values. -/
def itemTexts (document : Document) (items : List Item) : List Value :=
  items.map fun item => .text (item.text document)

/-- The values that stand for one side of a comparison: a truth value is compared with a set of
items as a whole, any other value with the items one by one. -/
def comparands (document : Document) (value other : Value) : List Value :=
  match value, other with
  | .nodes items, .boolean _ => [.boolean !items.isEmpty]
  | .nodes items, _ => itemTexts document items
  | value, _ => [value]

/-- Compares two values: some comparand of the one side compares with some comparand of the other
side. -/
def compareValues (document : Document) (comparison : Comparison) (left right : Value) : Bool :=
  (comparands document left right).any fun l =>
    (comparands document right left).any fun r => compareScalars document comparison l r

/-! ## Arithmetic -/

def Arithmetic.apply (operator : Arithmetic) (x y : Double) : Double :=
  match operator with
  | .add => x.add y
  | .subtract => x.sub y
  | .multiply => x.mul y
  | .divide => x.div y
  | .remainder => x.mod y

end Locator
end RecordExtraction
