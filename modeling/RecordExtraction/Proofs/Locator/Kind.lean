import RecordExtraction.Locator.Evaluation
import RecordExtraction.Proofs.Outcome

/-!
# Kinds of values of expressions

Every value is of one of four kinds.  The kind of the result of a function does not depend on its
arguments, so the kind of the value of an expression can be read off its outermost form.
-/

namespace RecordExtraction
namespace Locator

open Markup

/-- What the value of an expression is. -/
inductive ValueKind where
  | nodes
  | boolean
  | number
  | text
deriving DecidableEq, Repr

def Value.kind : Value → ValueKind
  | nodes _ => .nodes
  | boolean _ => .boolean
  | number _ => .number
  | text _ => .text

/-- The kind of the values that an operator makes. -/
def BinaryOperator.resultKind : BinaryOperator → ValueKind
  | or | and | compare _ => .boolean
  | arithmetic _ => .number
  | union => .nodes

/-- The kind of the values that a function returns. -/
def CoreFunction.resultKind : CoreFunction → ValueKind
  | id => .nodes
  | startsWith | contains | boolean | not | true | false | lang => .boolean
  | last | position | count | stringLength | number | sum | floor | ceiling | round => .number
  | localName | namespaceUri | name | string | concat | substringBefore | substringAfter
  | substring | normalizeSpace | translate => .text

/-- The kind of the values of an expression. -/
def Expr.kind : Expr → ValueKind
  | binary operator _ _ => operator.resultKind
  | negate _ | number _ => .number
  | literal _ => .text
  | call function _ => function.resultKind
  | filter .. | path .. => .nodes

theorem Value.items_eq_ok_iff {value : Value} {items : List Item} :
    value.items = .ok items ↔ value = .nodes items := by
  cases value <;> simp [Value.items]

theorem Value.kind_eq_nodes_iff {value : Value} :
    value.kind = .nodes ↔ ∃ items, value = .nodes items := by
  cases value <;> simp [Value.kind]

theorem kind_of_combine
    {document : Document} {operator : BinaryOperator} {left right value : Value}
    (hvalue : combine document operator left right = .ok value) :
    value.kind = operator.resultKind := by
  cases operator with
  | union =>
      simp only [combine, bind_eq_ok_iff, Except.ok.injEq] at hvalue
      obtain ⟨_, _, _, _, rfl⟩ := hvalue
      rfl
  | _ =>
      simp only [combine, Except.ok.injEq] at hvalue
      subst value
      rfl

theorem kind_of_decidedByLeft
    {operator : BinaryOperator} {left value : Value}
    (hvalue : decidedByLeft operator left = some value) :
    value.kind = operator.resultKind := by
  cases operator <;> simp only [decidedByLeft, reduceCtorEq] at hvalue
  all_goals
    split at hvalue <;> cases hvalue
    rfl

/-- A function returns values of its kind only, whatever it is called with. -/
theorem CoreFunction.kind_of_apply
    {document : Document} {context : Context} {function : CoreFunction}
    {values : List Value} {value : Value}
    (hvalue : function.apply document context values = .ok value) :
    value.kind = function.resultKind := by
  revert hvalue
  fun_cases CoreFunction.apply document context function values
  all_goals intro hvalue
  -- Functions of a set of items pass on that there is none; all others answer outright.
  all_goals first
    | cases hvalue
      rfl
    | cases hvalue
    | obtain ⟨_, _, hresult⟩ := bind_eq_ok_iff.mp hvalue
      cases hresult
      rfl

end Locator
end RecordExtraction
