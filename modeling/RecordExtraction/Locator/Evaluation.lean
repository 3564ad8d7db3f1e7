import RecordExtraction.Locator.Functions
import RecordExtraction.Locator.Parser

/-!
# Evaluating expressions

An expression has a value at every place of a document, or fails because something that has to be a
set of items is not.  Sets of items are brought into document order after every step and every
union; predicates see their items in order of proximity.
-/

namespace RecordExtraction
namespace Locator

open Markup

/-- Keeps the items that pass a test of the item and its position.  `position` is the position of
the first item. -/
def keepItems (test : Item → Nat → Except PathError Bool) (position : Nat) :
    List Item → Except PathError (List Item)
  | [] => .ok []
  | item :: rest => do
      let keep ← test item position
      let kept ← keepItems test (position + 1) rest
      .ok (if keep then item :: kept else kept)

/-- The items that a step selects from each item in turn, all together in document order. -/
def selectAll (step : Item → Except PathError (List Item)) (items : List Item) :
    Except PathError (List Item) := do
  let selected ← items.mapM step
  .ok (Item.normalize selected.flatten)

/-- Combines the values of two operands. -/
def combine (document : Document) (operator : BinaryOperator) (left right : Value) :
    Except PathError Value :=
  match operator with
  | .or => .ok (.boolean (left.toBool || right.toBool))
  | .and => .ok (.boolean (left.toBool && right.toBool))
  | .compare comparison => .ok (.boolean (compareValues document comparison left right))
  | .arithmetic operator =>
      .ok (.number (operator.apply (left.toNumber document) (right.toNumber document)))
  | .union => do .ok (.nodes (Item.normalize ((← left.items) ++ (← right.items))))

/-- The value that the left operand alone decides. -/
def decidedByLeft (operator : BinaryOperator) (left : Value) : Option Value :=
  match operator with
  | .or => if left.toBool then some (.boolean true) else none
  | .and => if left.toBool then none else some (.boolean false)
  | _ => none

mutual

/-- The value of an expression. -/
def Expr.eval (document : Document) : Expr → Context → Except PathError Value
  | .binary operator left right, context => do
      let l ← left.eval document context
      match decidedByLeft operator l with
      | some value => .ok value
      | none => combine document operator l (← right.eval document context)
  | .negate operand, context => do
      .ok (.number ((← operand.eval document context).toNumber document).neg)
  | .literal value, _ => .ok (.text value)
  | .number value, _ => .ok (.number value)
  | .call function arguments, context => do
      function.apply document context (← evalAll document arguments context)
  | .filter primary predicates, context => do
      let items ← (← primary.eval document context).items
      .ok (.nodes (← applyPredicates document predicates items))
  | .path start steps, context => do
      .ok (.nodes (← walk document steps (← start.items document context)))

/-- The values of several expressions. -/
def evalAll (document : Document) : List Expr → Context → Except PathError (List Value)
  | [], _ => .ok []
  | expr :: rest, context => do
      .ok ((← expr.eval document context) :: (← evalAll document rest context))

/-- The items that pass all predicates.  Each predicate counts the items that passed those
before. -/
def applyPredicates (document : Document) : List Expr → List Item → Except PathError (List Item)
  | [], items => .ok items
  | predicate :: rest, items => do
      let kept ← keepItems
        (fun item position =>
          (predicate.eval document ⟨item, position, items.length⟩).map (Value.keeps position))
        1 items
      applyPredicates document rest kept

/-- The items at which a path begins. -/
def Start.items (document : Document) : Start → Context → Except PathError (List Item)
  | .root, _ => .ok [.node 0]
  | .context, context => .ok [context.item]
  | .filter primary, context => do (← primary.eval document context).items

/-- The items that a step selects from an item, in order of proximity. -/
def Step.select (document : Document) : Step → Item → Except PathError (List Item)
  | .mk axis test predicates, item =>
      applyPredicates document predicates (candidates document axis test item)

/-- The items that are reached by all steps in turn. -/
def walk (document : Document) : List Step → List Item → Except PathError (List Item)
  | [], items => .ok items
  | step :: rest, items => do
      walk document rest (← selectAll (step.select document) items)

end

end Locator

open Locator Markup

/-- A compiled locator: the text as it was given, and the expression that it denotes. -/
structure Locator where
  expression : String
  expr : Expr

namespace Locator

/-- The place where a locator is evaluated: the root, alone. -/
def rootContext : Context := ⟨.node 0, 1, 1⟩

/-- Compiles a text.  Offsets in errors count from the first character that is not white space. -/
def compile (text : String) : Except PathError Locator := do
  let trimmed := trimBlank text
  if trimmed.isEmpty then .error .empty
  else .ok ⟨text, ← Parser.parse trimmed⟩

/-- All items that a locator selects, in document order.  A locator whose value is not a set of
items fails. -/
def select (locator : Locator) (document : Document) : Except PathError (List Item) := do
  (← locator.expr.eval document rootContext).items

/-- The first item that a locator selects. -/
def selectFirst (locator : Locator) (document : Document) : Except PathError (Option Item) := do
  .ok (← locator.select document).head?

end Locator

/-- Anything that finds at most one item of a document for a locator. -/
abbrev PathEvaluator := String → Document → Except PathError (Option Item)

/-- Compiles the locator and takes the first item that it selects. -/
def locatorEvaluator : PathEvaluator := fun text document => do
  (← Locator.compile text).selectFirst document

end RecordExtraction
