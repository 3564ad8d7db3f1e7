import RecordExtraction.Locator.Parser

/-!
# The grammar of expressions

`Derives` says which tokens form which phrase of the language of locators, with the expression,
step or test that the phrase stands for.  It is a context-free grammar: it looks at no token outside
the phrase, and knows nothing of the way in which the parser chooses among its rules.

Expressions have nine levels.  A level with operators takes its own expressions on the left of them
and tighter ones on the right, so that its operators associate to the left.
-/

namespace RecordExtraction
namespace Locator

/-- The levels of expressions, from the loosest to the tightest. -/
inductive Level where
  | disjunction
  | conjunction
  | equality
  | relation
  | sum
  | product
  | negation
  | union
  | path
deriving DecidableEq, Repr

namespace Level

def tighter? : Level → Option Level
  | disjunction => some conjunction
  | conjunction => some equality
  | equality => some relation
  | relation => some sum
  | sum => some product
  | product => some negation
  | negation => some union
  | union => some path
  | path => none

/-- The operators between the expressions of a level. -/
def operators : Level → List BinaryOperator
  | disjunction => [.or]
  | conjunction => [.and]
  | equality => [.compare .equal, .compare .notEqual]
  | relation =>
      [.compare .less, .compare .lessOrEqual, .compare .greater, .compare .greaterOrEqual]
  | sum => [.arithmetic .add, .arithmetic .subtract]
  | product => [.arithmetic .multiply, .arithmetic .divide, .arithmetic .remainder]
  | union => [.union]
  | negation | path => []

end Level

/-- A separator between two steps, with the steps that it stands for. -/
inductive Separates : Token → List Step → Prop where
  | slash : Separates .slash []
  | doubleSlash : Separates .doubleSlash [.anyDepth]

/-- A primary expression with predicates.  Without any it stands for itself. -/
def Expr.filteredBy (primary : Expr) (predicates : List Expr) : Expr :=
  if predicates.isEmpty then primary else .filter primary predicates

/-- What a sequence of tokens can form. -/
inductive Phrase where
  | expression (level : Level) (expr : Expr)
  | primary (expr : Expr)
  | steps (steps : List Step)
  | step (step : Step)
  | test (test : NodeTest)
  | predicates (predicates : List Expr)
  /-- The arguments of a call, without the parentheses around them. -/
  | arguments (arguments : List Expr)
  | argumentList (arguments : List Expr)

/-- The tokens form the phrase. -/
inductive Derives : Phrase → List Token → Prop where
  | tighter {level next : Level} {expr : Expr} {ts : List Token} :
      level.tighter? = some next →
      Derives (.expression next expr) ts →
      Derives (.expression level expr) ts
  | binary {level next : Level} {operator : BinaryOperator} {left right : Expr}
      {ts us : List Token} :
      operator ∈ level.operators →
      level.tighter? = some next →
      Derives (.expression level left) ts →
      Derives (.expression next right) us →
      Derives (.expression level (.binary operator left right)) (ts ++ .operator operator :: us)
  | negate {operand : Expr} {ts : List Token} :
      Derives (.expression .negation operand) ts →
      Derives (.expression .negation (.negate operand)) (.operator (.arithmetic .subtract) :: ts)
  | root :
      Derives (.expression .path (.path .root [])) [.slash]
  | absolute {steps : List Step} {ts : List Token} :
      Derives (.steps steps) ts →
      Derives (.expression .path (.path .root steps)) (.slash :: ts)
  | absoluteAnyDepth {steps : List Step} {ts : List Token} :
      Derives (.steps steps) ts →
      Derives (.expression .path (.path .root (.anyDepth :: steps))) (.doubleSlash :: ts)
  | relative {steps : List Step} {ts : List Token} :
      Derives (.steps steps) ts →
      Derives (.expression .path (.path .context steps)) ts
  | filtered {primary : Expr} {predicates : List Expr} {ts us : List Token} :
      Derives (.primary primary) ts →
      Derives (.predicates predicates) us →
      Derives (.expression .path (primary.filteredBy predicates)) (ts ++ us)
  | continued {primary : Expr} {predicates : List Expr} {separator : Token}
      {implied steps : List Step} {ts us vs : List Token} :
      Derives (.primary primary) ts →
      Derives (.predicates predicates) us →
      Separates separator implied →
      Derives (.steps steps) vs →
      Derives
        (.expression .path (.path (.filter (primary.filteredBy predicates)) (implied ++ steps)))
        (ts ++ us ++ separator :: vs)
  | parenthesized {expr : Expr} {ts : List Token} :
      Derives (.expression .disjunction expr) ts →
      Derives (.primary expr) (.leftParen :: (ts ++ [.rightParen]))
  | literal {value : String} :
      Derives (.primary (.literal value)) [.literal value]
  | number {digits : String} :
      Derives (.primary (.number (numeralValue false digits.toList))) [.number digits]
  | call {name : String} {function : CoreFunction} {arguments : List Expr} {ts : List Token} :
      CoreFunction.ofName? name = some function →
      function.accepts arguments.length = true →
      Derives (.arguments arguments) ts →
      Derives (.primary (.call function arguments))
        (.functionName name :: .leftParen :: (ts ++ [.rightParen]))
  | noArguments :
      Derives (.arguments []) []
  | someArguments {arguments : List Expr} {ts : List Token} :
      Derives (.argumentList arguments) ts →
      Derives (.arguments arguments) ts
  | lastArgument {argument : Expr} {ts : List Token} :
      Derives (.expression .disjunction argument) ts →
      Derives (.argumentList [argument]) ts
  | nextArgument {argument : Expr} {arguments : List Expr} {ts us : List Token} :
      Derives (.expression .disjunction argument) ts →
      Derives (.argumentList arguments) us →
      Derives (.argumentList (argument :: arguments)) (ts ++ .comma :: us)
  | lastStep {step : Step} {ts : List Token} :
      Derives (.step step) ts →
      Derives (.steps [step]) ts
  | nextStep {step : Step} {separator : Token} {implied steps : List Step}
      {ts us : List Token} :
      Derives (.step step) ts →
      Separates separator implied →
      Derives (.steps steps) us →
      Derives (.steps (step :: implied ++ steps)) (ts ++ separator :: us)
  | selfStep :
      Derives (.step (.all .self)) [.dot]
  | parentStep :
      Derives (.step (.all .parent)) [.dotDot]
  | childStep {test : NodeTest} {predicates : List Expr} {ts us : List Token} :
      Derives (.test test) ts →
      Derives (.predicates predicates) us →
      Derives (.step (.mk .child test predicates)) (ts ++ us)
  | attributeStep {test : NodeTest} {predicates : List Expr} {ts us : List Token} :
      Derives (.test test) ts →
      Derives (.predicates predicates) us →
      Derives (.step (.mk .attributes test predicates)) (.atSign :: (ts ++ us))
  | axisStep {name : String} {axis : Axis} {test : NodeTest} {predicates : List Expr}
      {ts us : List Token} :
      Axis.ofName? name = some axis →
      Derives (.test test) ts →
      Derives (.predicates predicates) us →
      Derives (.step (.mk axis test predicates)) (.axisName name :: .axisMark :: (ts ++ us))
  | nameTest {qualifier localName : Option String} :
      Derives (.test (.name qualifier localName)) [.nameTest qualifier localName]
  | textTest :
      Derives (.test .text) [.nodeType .text, .leftParen, .rightParen]
  | commentTest :
      Derives (.test .comment) [.nodeType .comment, .leftParen, .rightParen]
  | anyTest :
      Derives (.test .any) [.nodeType .any, .leftParen, .rightParen]
  | instructionTest :
      Derives (.test (.instruction none)) [.nodeType .instruction, .leftParen, .rightParen]
  | targetTest {target : String} :
      Derives (.test (.instruction (some target)))
        [.nodeType .instruction, .leftParen, .literal target, .rightParen]
  | noPredicates :
      Derives (.predicates []) []
  | predicate {predicate : Expr} {predicates : List Expr} {ts us : List Token} :
      Derives (.expression .disjunction predicate) ts →
      Derives (.predicates predicates) us →
      Derives (.predicates (predicate :: predicates))
        (.leftBracket :: (ts ++ .rightBracket :: us))

namespace Level

/-- The number of the level, counted from the loosest one. -/
def rank : Level → Nat
  | disjunction => 0
  | conjunction => 1
  | equality => 2
  | relation => 3
  | sum => 4
  | product => 5
  | negation => 6
  | union => 7
  | path => 8

theorem rank_of_tighter {level next : Level} (h : level.tighter? = some next) :
    next.rank = level.rank + 1 := by
  cases level <;> cases h <;> rfl

theorem mem_operators_iff {level : Level} {operator : BinaryOperator} :
    operator ∈ level.operators ↔ operator.level = level.rank := by
  cases level <;> rcases operator with _ | _ | comparison | arithmetic | _ <;>
    first
    | decide
    | cases comparison <;> decide
    | cases arithmetic <;> decide

theorem rank_le_pathLevel (level : Level) : level.rank ≤ pathLevel := by
  cases level <;> decide

theorem eq_path_of_pathLevel_le {level : Level} (h : pathLevel ≤ level.rank) : level = path := by
  cases level <;> first | rfl | exact absurd h (by decide)

theorem eq_negation_of_rank {level : Level} (h : level.rank = negationLevel) :
    level = negation := by
  cases level <;> first | rfl | exact absurd h (by decide)

theorem exists_tighter {level : Level} (h : ¬pathLevel ≤ level.rank) :
    ∃ next, level.tighter? = some next := by
  cases level <;> first | exact ⟨_, rfl⟩ | exact absurd (by decide) h

end Level
end Locator
end RecordExtraction
