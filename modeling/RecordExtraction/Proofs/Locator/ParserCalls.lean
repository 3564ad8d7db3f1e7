import Mathlib
import RecordExtraction.Proofs.Locator.GrammarSoundness

/-!
# How the parsers call each other

`Parsers.next` says what each parser makes of its tokens when the parsers that it calls are the
given ones.  With one more unit of fuel, the parsers are made so of those with one unit less.  The
parser of paths looks ahead before it takes a primary expression; what happens where none begins is
left open, and makes no difference.

`Calls` lists the calls of each parser.  What a parser makes of its tokens depends on the outcomes
of these calls and on nothing else.
-/

namespace RecordExtraction
namespace Locator
namespace Parser

/-- The parsers that call each other. -/
@[ext]
structure Parsers where
  expression : Nat → List Lexeme → Except PathError (Expr × List Lexeme)
  operators : Nat → Expr → List Lexeme → Except PathError (Expr × List Lexeme)
  path : List Lexeme → Except PathError (Expr × List Lexeme)
  filtered : Expr → List Lexeme → Except PathError (Expr × List Lexeme)
  steps : List Lexeme → Except PathError (List Step × List Lexeme)
  step : List Lexeme → Except PathError (Step × List Lexeme)
  tested : Axis → List Lexeme → Except PathError (Step × List Lexeme)
  predicates : List Lexeme → Except PathError (List Expr × List Lexeme)
  arguments : List Lexeme → Except PathError (List Expr × List Lexeme)
  argumentList : List Lexeme → Except PathError (List Expr × List Lexeme)

def withFuel (fuel : Nat) : Parsers where
  expression := expression fuel
  operators := operators fuel
  path := path fuel
  filtered := filtered fuel
  steps := steps fuel
  step := step fuel
  tested := tested fuel
  predicates := predicates fuel
  arguments := arguments fuel
  argumentList := argumentList fuel

/-- A primary expression begins at the front of the tokens. -/
def startsPrimary : List Lexeme → Bool
  | ⟨.variableName _, _, _⟩ :: _ | ⟨.leftParen, _, _⟩ :: _ | ⟨.literal _, _, _⟩ :: _
  | ⟨.number _, _, _⟩ :: _ | ⟨.functionName _, _, _⟩ :: _ => true
  | _ => false

namespace Parsers

variable (parsers : Parsers)

/-- Takes a primary expression.  Where none begins, the outcome is that of the fallback. -/
def primary (fallback : List Lexeme → Except PathError (Expr × List Lexeme))
    (lexemes : List Lexeme) : Except PathError (Expr × List Lexeme) :=
  match lexemes with
  | [] => .error .unexpectedEnd
  | ⟨.variableName name, _, _⟩ :: _ => .error (.unboundVariable name)
  | ⟨.leftParen, _, _⟩ :: rest => do
      let (inner, rest) ← parsers.expression 0 rest
      let rest ← expect .rightParen rest
      .ok (inner, rest)
  | ⟨.literal value, _, _⟩ :: rest => .ok (.literal value, rest)
  | ⟨.number digits, _, _⟩ :: rest => .ok (.number (numeralValue false digits.toList), rest)
  | ⟨.functionName name, _, _⟩ :: rest => do
      let rest ← expect .leftParen rest
      let (arguments, rest) ← parsers.arguments rest
      let primary ← call name arguments
      .ok (primary, rest)
  | lexemes => fallback lexemes

/-- Takes a location path. -/
def locationPath (lexemes : List Lexeme) : Except PathError (Expr × List Lexeme) :=
  match lexemes with
  | ⟨.slash, _, _⟩ :: rest =>
      if startsStep rest then do
        let (steps, rest) ← parsers.steps rest
        .ok (.path .root steps, rest)
      else .ok (.path .root [], rest)
  | ⟨.doubleSlash, _, _⟩ :: rest => do
      let (steps, rest) ← parsers.steps rest
      .ok (.path .root (.anyDepth :: steps), rest)
  | _ => do
      let (steps, rest) ← parsers.steps lexemes
      .ok (.path .context steps, rest)

/-- The parsers that call the given ones. -/
def next (fallback : List Lexeme → Except PathError (Expr × List Lexeme)) : Parsers where
  expression level lexemes :=
    if pathLevel ≤ level then parsers.path lexemes
    else if level = negationLevel then
      match lexemes with
      | ⟨.operator (.arithmetic .subtract), _, _⟩ :: rest => do
          let (operand, rest) ← parsers.expression level rest
          .ok (.negate operand, rest)
      | _ => parsers.expression (level + 1) lexemes
    else do
      let (left, rest) ← parsers.expression (level + 1) lexemes
      parsers.operators level left rest
  operators level left lexemes :=
    match lexemes with
    | ⟨.operator operator, _, _⟩ :: rest =>
        if operator.level = level then do
          let (right, rest) ← parsers.expression (level + 1) rest
          parsers.operators level (.binary operator left right) rest
        else .ok (left, lexemes)
    | _ => .ok (left, lexemes)
  path lexemes :=
    if startsPrimary lexemes then do
      let (primary, rest) ← parsers.primary fallback lexemes
      parsers.filtered primary rest
    else parsers.locationPath lexemes
  filtered primary lexemes := do
    let (predicates, rest) ← parsers.predicates lexemes
    let filter := primary.filteredBy predicates
    match separator? rest with
    | some (implied, rest) =>
        let (steps, rest) ← parsers.steps rest
        .ok (.path (.filter filter) (implied ++ steps), rest)
    | none => .ok (filter, rest)
  steps lexemes := do
    let (step, rest) ← parsers.step lexemes
    match separator? rest with
    | some (implied, rest) =>
        let (steps, rest) ← parsers.steps rest
        .ok (step :: implied ++ steps, rest)
    | none => .ok ([step], rest)
  step lexemes :=
    match lexemes with
    | ⟨.dot, _, _⟩ :: rest => .ok (.all .self, rest)
    | ⟨.dotDot, _, _⟩ :: rest => .ok (.all .parent, rest)
    | ⟨.atSign, _, _⟩ :: rest => parsers.tested .attributes rest
    | ⟨.axisName name, _, _⟩ :: rest =>
        match Axis.ofName? name with
        | none => .error (.unknownAxis name)
        | some axis => do
            let rest ← expect .axisMark rest
            parsers.tested axis rest
    | _ => parsers.tested .child lexemes
  tested axis lexemes := do
    let (test, rest) ← nodeTest lexemes
    let (predicates, rest) ← parsers.predicates rest
    .ok (.mk axis test predicates, rest)
  predicates lexemes :=
    match lexemes with
    | ⟨.leftBracket, _, _⟩ :: rest => do
        let (predicate, rest) ← parsers.expression 0 rest
        let rest ← expect .rightBracket rest
        let (predicates, rest) ← parsers.predicates rest
        .ok (predicate :: predicates, rest)
    | _ => .ok ([], lexemes)
  arguments lexemes :=
    match lexemes with
    | ⟨.rightParen, _, _⟩ :: rest => .ok ([], rest)
    | _ => parsers.argumentList lexemes
  argumentList lexemes := do
    let (argument, rest) ← parsers.expression 0 lexemes
    match rest with
    | ⟨.comma, _, _⟩ :: rest =>
        let (arguments, rest) ← parsers.argumentList rest
        .ok (argument :: arguments, rest)
    | rest =>
        let rest ← expect .rightParen rest
        .ok ([argument], rest)

end Parsers

theorem path_succ (fuel : Nat) (fallback : List Lexeme → Except PathError (Expr × List Lexeme))
    (lexemes : List Lexeme) :
    path (fuel + 1) lexemes = ((withFuel fuel).next fallback).path lexemes := by
  rcases lexemes with _ | ⟨⟨token, offset, head⟩, rest⟩
  · rfl
  · cases token with
    -- Both sides make the same calls, only grouped differently.
    | leftParen =>
        change (expression fuel 0 rest >>= fun taken =>
            expect .rightParen taken.2 >>= fun rest => filtered fuel taken.1 rest) =
          ((expression fuel 0 rest >>= fun taken =>
              expect .rightParen taken.2 >>= fun rest => .ok (taken.1, rest)) >>= fun taken =>
            filtered fuel taken.1 taken.2)
        simp only [bind_assoc, ok_bind]
    | functionName name =>
        change (expect .leftParen rest >>= fun rest => arguments fuel rest >>= fun taken =>
            call name taken.1 >>= fun primary => filtered fuel primary taken.2) =
          ((expect .leftParen rest >>= fun rest => arguments fuel rest >>= fun taken =>
              call name taken.1 >>= fun primary => .ok (primary, taken.2)) >>= fun taken =>
            filtered fuel taken.1 taken.2)
        simp only [bind_assoc, ok_bind]
    | _ => rfl

theorem withFuel_succ (fuel : Nat)
    (fallback : List Lexeme → Except PathError (Expr × List Lexeme)) :
    withFuel (fuel + 1) = (withFuel fuel).next fallback := by
  ext1
  · funext level lexemes
    exact expression.eq_def _ _ _
  · funext level left lexemes
    exact operators.eq_def _ _ _ _
  · funext lexemes
    exact path_succ fuel fallback lexemes
  · funext primary lexemes
    exact filtered_succ _ _ _
  · funext lexemes
    exact steps.eq_def _ _
  · funext lexemes
    exact step.eq_def _ _
  · funext axis lexemes
    exact tested.eq_def _ _ _
  · funext lexemes
    exact predicates.eq_def _ _
  · funext lexemes
    exact arguments.eq_def _ _
  · funext lexemes
    exact argumentList.eq_def _ _

/-! ## Calls -/

/-- A parser, without the arguments that it only hands on. -/
inductive Routine where
  | expression (level : Nat)
  | operators (level : Nat)
  | path
  | filtered
  | steps
  | step
  | tested
  | predicates
  | arguments
  | argumentList
deriving DecidableEq, Repr

/-- A parser with the tokens from which it takes something. -/
structure Call where
  routine : Routine
  lexemes : List Lexeme

namespace Parsers

/-- Both make the same of the tokens, whatever is handed on. -/
def AgreeAt (parsers others : Parsers) (call : Call) : Prop :=
  match call.routine with
  | .expression level =>
      parsers.expression level call.lexemes = others.expression level call.lexemes
  | .operators level =>
      ∀ left, parsers.operators level left call.lexemes = others.operators level left call.lexemes
  | .path => parsers.path call.lexemes = others.path call.lexemes
  | .filtered =>
      ∀ primary, parsers.filtered primary call.lexemes = others.filtered primary call.lexemes
  | .steps => parsers.steps call.lexemes = others.steps call.lexemes
  | .step => parsers.step call.lexemes = others.step call.lexemes
  | .tested => ∀ axis, parsers.tested axis call.lexemes = others.tested axis call.lexemes
  | .predicates => parsers.predicates call.lexemes = others.predicates call.lexemes
  | .arguments => parsers.arguments call.lexemes = others.arguments call.lexemes
  | .argumentList => parsers.argumentList call.lexemes = others.argumentList call.lexemes

/-- The first call can make the second one.  Which tokens are left for it, the calls made before it
decide. -/
inductive Calls (parsers : Parsers) : Call → Call → Prop
  | path {level : Nat} {lexemes : List Lexeme} (hlevel : pathLevel ≤ level) :
      Calls parsers ⟨.expression level, lexemes⟩ ⟨.path, lexemes⟩
  | negated {level offset : Nat} {head : Char} {rest : List Lexeme} :
      Calls parsers
        ⟨.expression level, ⟨.operator (.arithmetic .subtract), offset, head⟩ :: rest⟩
        ⟨.expression level, rest⟩
  | tighter {level : Nat} {lexemes : List Lexeme} (hlevel : level < pathLevel) :
      Calls parsers ⟨.expression level, lexemes⟩ ⟨.expression (level + 1), lexemes⟩
  | operators {level : Nat} {left : Expr} {lexemes rest : List Lexeme}
      (hleft : parsers.expression (level + 1) lexemes = .ok (left, rest)) :
      Calls parsers ⟨.expression level, lexemes⟩ ⟨.operators level, rest⟩
  | rightOperand {level offset : Nat} {operator : BinaryOperator} {head : Char}
      {rest : List Lexeme} :
      Calls parsers ⟨.operators level, ⟨.operator operator, offset, head⟩ :: rest⟩
        ⟨.expression (level + 1), rest⟩
  | moreOperators {level offset : Nat} {operator : BinaryOperator} {head : Char} {right : Expr}
      {rest later : List Lexeme}
      (hright : parsers.expression (level + 1) rest = .ok (right, later)) :
      Calls parsers ⟨.operators level, ⟨.operator operator, offset, head⟩ :: rest⟩
        ⟨.operators level, later⟩
  | parenthesized {offset : Nat} {head : Char} {rest : List Lexeme} :
      Calls parsers ⟨.path, ⟨.leftParen, offset, head⟩ :: rest⟩ ⟨.expression 0, rest⟩
  | arguments {name : String} {offset : Nat} {head : Char} {others rest : List Lexeme}
      (hopening : expect .leftParen others = .ok rest) :
      Calls parsers ⟨.path, ⟨.functionName name, offset, head⟩ :: others⟩ ⟨.arguments, rest⟩
  | filtered {fallback : List Lexeme → Except PathError (Expr × List Lexeme)} {expr : Expr}
      {lexemes rest : List Lexeme} (hstarts : startsPrimary lexemes = true)
      (hprimary : parsers.primary fallback lexemes = .ok (expr, rest)) :
      Calls parsers ⟨.path, lexemes⟩ ⟨.filtered, rest⟩
  | absolute {offset : Nat} {head : Char} {rest : List Lexeme} :
      Calls parsers ⟨.path, ⟨.slash, offset, head⟩ :: rest⟩ ⟨.steps, rest⟩
  | absoluteAnyDepth {offset : Nat} {head : Char} {rest : List Lexeme} :
      Calls parsers ⟨.path, ⟨.doubleSlash, offset, head⟩ :: rest⟩ ⟨.steps, rest⟩
  | relative {lexemes : List Lexeme} (hstarts : startsPrimary lexemes = false) :
      Calls parsers ⟨.path, lexemes⟩ ⟨.steps, lexemes⟩
  | filters {lexemes : List Lexeme} :
      Calls parsers ⟨.filtered, lexemes⟩ ⟨.predicates, lexemes⟩
  | continued {passing : List Expr} {implied : List Step} {lexemes others rest : List Lexeme}
      (hpassing : parsers.predicates lexemes = .ok (passing, others))
      (hseparator : separator? others = some (implied, rest)) :
      Calls parsers ⟨.filtered, lexemes⟩ ⟨.steps, rest⟩
  | firstStep {lexemes : List Lexeme} :
      Calls parsers ⟨.steps, lexemes⟩ ⟨.step, lexemes⟩
  | laterSteps {first : Step} {implied : List Step} {lexemes others rest : List Lexeme}
      (hfirst : parsers.step lexemes = .ok (first, others))
      (hseparator : separator? others = some (implied, rest)) :
      Calls parsers ⟨.steps, lexemes⟩ ⟨.steps, rest⟩
  | attributes {offset : Nat} {head : Char} {rest : List Lexeme} :
      Calls parsers ⟨.step, ⟨.atSign, offset, head⟩ :: rest⟩ ⟨.tested, rest⟩
  | axis {name : String} {offset : Nat} {head : Char} {others rest : List Lexeme}
      (hmark : expect .axisMark others = .ok rest) :
      Calls parsers ⟨.step, ⟨.axisName name, offset, head⟩ :: others⟩ ⟨.tested, rest⟩
  | child {lexemes : List Lexeme} :
      Calls parsers ⟨.step, lexemes⟩ ⟨.tested, lexemes⟩
  | stepPredicates {test : NodeTest} {lexemes rest : List Lexeme}
      (htest : nodeTest lexemes = .ok (test, rest)) :
      Calls parsers ⟨.tested, lexemes⟩ ⟨.predicates, rest⟩
  | predicate {offset : Nat} {head : Char} {rest : List Lexeme} :
      Calls parsers ⟨.predicates, ⟨.leftBracket, offset, head⟩ :: rest⟩ ⟨.expression 0, rest⟩
  | morePredicates {first : Expr} {offset : Nat} {head : Char} {rest others later : List Lexeme}
      (hfirst : parsers.expression 0 rest = .ok (first, others))
      (hclosing : expect .rightBracket others = .ok later) :
      Calls parsers ⟨.predicates, ⟨.leftBracket, offset, head⟩ :: rest⟩ ⟨.predicates, later⟩
  | argumentList {lexemes : List Lexeme} :
      Calls parsers ⟨.arguments, lexemes⟩ ⟨.argumentList, lexemes⟩
  | argument {lexemes : List Lexeme} :
      Calls parsers ⟨.argumentList, lexemes⟩ ⟨.expression 0, lexemes⟩
  | moreArguments {first : Expr} {offset : Nat} {head : Char} {lexemes rest : List Lexeme}
      (hfirst : parsers.expression 0 lexemes = .ok (first, ⟨.comma, offset, head⟩ :: rest)) :
      Calls parsers ⟨.argumentList, lexemes⟩ ⟨.argumentList, rest⟩

/-- The parsers agree at all calls that the call can make. -/
def AgreeBelow (parsers others : Parsers) (call : Call) : Prop :=
  ∀ made, parsers.Calls call made → parsers.AgreeAt others made

/-! ## Outcomes depend on calls -/

section

variable {parsers others : Parsers} {lexemes : List Lexeme}
  {fallback other : List Lexeme → Except PathError (Expr × List Lexeme)}

theorem expression_eq_of_agreeBelow {level : Nat}
    (hagree : parsers.AgreeBelow others ⟨.expression level, lexemes⟩) :
    (parsers.next fallback).expression level lexemes =
      (others.next other).expression level lexemes := by
  unfold next
  dsimp only
  split
  · next hlevel => exact hagree _ (.path hlevel)
  · next hlevel =>
      have htighter := hagree _ (.tighter (Nat.lt_of_not_le hlevel))
      split
      · split
        · apply bind_congr_of_ok (hagree _ .negated)
          intro taken _
          rfl
        · exact htighter
      · apply bind_congr_of_ok htighter
        intro taken hleft
        exact hagree _ (.operators hleft) taken.1

theorem operators_eq_of_agreeBelow {level : Nat} (left : Expr)
    (hagree : parsers.AgreeBelow others ⟨.operators level, lexemes⟩) :
    (parsers.next fallback).operators level left lexemes =
      (others.next other).operators level left lexemes := by
  unfold next
  dsimp only
  split
  · split
    · apply bind_congr_of_ok (hagree _ .rightOperand)
      intro taken hright
      exact hagree _ (.moreOperators hright) _
    · rfl
  · rfl

/-- Where the look-ahead sees no primary expression, none of the cases that take one applies. -/
theorem primary_of_not_startsPrimary (hstarts : startsPrimary lexemes = false)
    (hnonempty : lexemes ≠ []) : parsers.primary fallback lexemes = fallback lexemes := by
  rcases lexemes with _ | ⟨⟨token, offset, head⟩, rest⟩
  · exact absurd rfl hnonempty
  · cases token with
    | variableName _ | leftParen | literal _ | number _ | functionName _ => cases hstarts
    | _ => rfl

/-- Where a primary expression begins, the fallback is not used. -/
theorem primary_eq_of_agreeBelow (hstarts : startsPrimary lexemes = true)
    (hagree : parsers.AgreeBelow others ⟨.path, lexemes⟩) :
    parsers.primary fallback lexemes = others.primary other lexemes := by
  rcases lexemes with _ | ⟨⟨token, offset, head⟩, rest⟩
  · cases hstarts
  · cases token with
    | variableName name => rfl
    | leftParen =>
        apply bind_congr_of_ok (hagree _ .parenthesized)
        intro taken _
        rfl
    | literal value => rfl
    | number digits => rfl
    | functionName name =>
        apply bind_congr_of_ok rfl
        intro rest hopening
        apply bind_congr_of_ok (hagree _ (.arguments hopening))
        intro taken _
        rfl
    | _ => cases hstarts

theorem locationPath_eq_of_agreeBelow (hstarts : startsPrimary lexemes = false)
    (hagree : parsers.AgreeBelow others ⟨.path, lexemes⟩) :
    parsers.locationPath lexemes = others.locationPath lexemes := by
  unfold locationPath
  split
  · split
    · apply bind_congr_of_ok (hagree _ .absolute)
      intro taken _
      rfl
    · rfl
  · apply bind_congr_of_ok (hagree _ .absoluteAnyDepth)
    intro taken _
    rfl
  · apply bind_congr_of_ok (hagree _ (.relative hstarts))
    intro taken _
    rfl

theorem path_eq_of_agreeBelow (hagree : parsers.AgreeBelow others ⟨.path, lexemes⟩) :
    (parsers.next fallback).path lexemes = (others.next other).path lexemes := by
  unfold next
  dsimp only
  split
  · next hstarts =>
      apply bind_congr_of_ok (primary_eq_of_agreeBelow hstarts hagree)
      intro taken hprimary
      exact hagree _ (.filtered hstarts hprimary) taken.1
  · next hstarts => exact locationPath_eq_of_agreeBelow (Bool.eq_false_iff.mpr hstarts) hagree

theorem filtered_eq_of_agreeBelow (expr : Expr)
    (hagree : parsers.AgreeBelow others ⟨.filtered, lexemes⟩) :
    (parsers.next fallback).filtered expr lexemes =
      (others.next other).filtered expr lexemes := by
  unfold next
  apply bind_congr_of_ok (hagree _ .filters)
  intro taken hpassing
  dsimp only
  split
  · next hseparator =>
      apply bind_congr_of_ok (hagree _ (.continued hpassing hseparator))
      intro taken _
      rfl
  · rfl

theorem steps_eq_of_agreeBelow (hagree : parsers.AgreeBelow others ⟨.steps, lexemes⟩) :
    (parsers.next fallback).steps lexemes = (others.next other).steps lexemes := by
  unfold next
  apply bind_congr_of_ok (hagree _ .firstStep)
  intro taken hfirst
  dsimp only
  split
  · next hseparator =>
      apply bind_congr_of_ok (hagree _ (.laterSteps hfirst hseparator))
      intro taken _
      rfl
  · rfl

theorem step_eq_of_agreeBelow (hagree : parsers.AgreeBelow others ⟨.step, lexemes⟩) :
    (parsers.next fallback).step lexemes = (others.next other).step lexemes := by
  unfold next
  dsimp only
  split
  · rfl
  · rfl
  · exact hagree _ .attributes _
  · split
    · rfl
    · apply bind_congr_of_ok rfl
      intro rest hmark
      exact hagree _ (.axis hmark) _
  · exact hagree _ .child _

theorem tested_eq_of_agreeBelow (axis : Axis)
    (hagree : parsers.AgreeBelow others ⟨.tested, lexemes⟩) :
    (parsers.next fallback).tested axis lexemes = (others.next other).tested axis lexemes := by
  unfold next
  apply bind_congr_of_ok rfl
  intro taken htest
  apply bind_congr_of_ok (hagree _ (.stepPredicates htest))
  intro taken _
  rfl

theorem predicates_eq_of_agreeBelow (hagree : parsers.AgreeBelow others ⟨.predicates, lexemes⟩) :
    (parsers.next fallback).predicates lexemes = (others.next other).predicates lexemes := by
  unfold next
  dsimp only
  split
  · apply bind_congr_of_ok (hagree _ .predicate)
    intro taken hfirst
    apply bind_congr_of_ok rfl
    intro later hclosing
    apply bind_congr_of_ok (hagree _ (.morePredicates hfirst hclosing))
    intro taken _
    rfl
  · rfl

theorem arguments_eq_of_agreeBelow (hagree : parsers.AgreeBelow others ⟨.arguments, lexemes⟩) :
    (parsers.next fallback).arguments lexemes = (others.next other).arguments lexemes := by
  unfold next
  dsimp only
  split
  · rfl
  · exact hagree _ .argumentList

theorem argumentList_eq_of_agreeBelow
    (hagree : parsers.AgreeBelow others ⟨.argumentList, lexemes⟩) :
    (parsers.next fallback).argumentList lexemes = (others.next other).argumentList lexemes := by
  unfold next
  apply bind_congr_of_ok (hagree _ .argument)
  rintro ⟨first, rest⟩ hfirst
  dsimp only
  split
  · apply bind_congr_of_ok (hagree _ (.moreArguments hfirst))
    intro taken _
    rfl
  · rfl

end

/-- What the parsers make of a call depends on the outcomes of the calls that it can make, and on
nothing else. -/
theorem agreeAt_next {parsers others : Parsers} {call : Call}
    (fallback other : List Lexeme → Except PathError (Expr × List Lexeme))
    (hagree : parsers.AgreeBelow others call) :
    (parsers.next fallback).AgreeAt (others.next other) call := by
  rcases call with ⟨routine, lexemes⟩
  cases routine with
  | expression level => exact expression_eq_of_agreeBelow hagree
  | operators level => exact fun left => operators_eq_of_agreeBelow left hagree
  | path => exact path_eq_of_agreeBelow hagree
  | filtered => exact fun expr => filtered_eq_of_agreeBelow expr hagree
  | steps => exact steps_eq_of_agreeBelow hagree
  | step => exact step_eq_of_agreeBelow hagree
  | tested => exact fun axis => tested_eq_of_agreeBelow axis hagree
  | predicates => exact predicates_eq_of_agreeBelow hagree
  | arguments => exact arguments_eq_of_agreeBelow hagree
  | argumentList => exact argumentList_eq_of_agreeBelow hagree

theorem AgreeAt.refl (parsers : Parsers) (call : Call) : parsers.AgreeAt parsers call := by
  rcases call with ⟨routine, lexemes⟩
  cases routine <;> simp [AgreeAt]

theorem AgreeAt.symm {parsers others : Parsers} {call : Call}
    (hagree : parsers.AgreeAt others call) : others.AgreeAt parsers call := by
  rcases call with ⟨routine, lexemes⟩
  cases routine <;> simp_all [AgreeAt]

theorem AgreeAt.trans {parsers others further : Parsers} {call : Call}
    (hagree : parsers.AgreeAt others call) (hfurther : others.AgreeAt further call) :
    parsers.AgreeAt further call := by
  rcases call with ⟨routine, lexemes⟩
  cases routine <;> simp_all [AgreeAt]

theorem eq_of_agreeAt {parsers others : Parsers}
    (hagree : ∀ call, parsers.AgreeAt others call) : parsers = others := by
  ext1
  · funext level lexemes
    exact hagree ⟨.expression level, lexemes⟩
  · funext level left lexemes
    exact hagree ⟨.operators level, lexemes⟩ left
  · funext lexemes
    exact hagree ⟨.path, lexemes⟩
  · funext primary lexemes
    exact hagree ⟨.filtered, lexemes⟩ primary
  · funext lexemes
    exact hagree ⟨.steps, lexemes⟩
  · funext lexemes
    exact hagree ⟨.step, lexemes⟩
  · funext axis lexemes
    exact hagree ⟨.tested, lexemes⟩ axis
  · funext lexemes
    exact hagree ⟨.predicates, lexemes⟩
  · funext lexemes
    exact hagree ⟨.arguments, lexemes⟩
  · funext lexemes
    exact hagree ⟨.argumentList, lexemes⟩

/-- The parser of paths looks ahead for all that the parser of primary expressions takes, so the
fallback makes no difference. -/
theorem next_eq_next (parsers : Parsers)
    (fallback other : List Lexeme → Except PathError (Expr × List Lexeme)) :
    parsers.next fallback = parsers.next other :=
  eq_of_agreeAt fun _ => agreeAt_next fallback other fun made _ => AgreeAt.refl parsers made

end Parsers

end Parser
end Locator
end RecordExtraction
