import RecordExtraction.Locator.Expr
import RecordExtraction.Locator.Lexer

/-!
# From tokens to expressions

Operators are grouped by `BinaryOperator.level`, from the loosest to the tightest, and all of them
associate to the left.  A parser takes an expression off the front of a list of tokens.  The parsers
call each other with less fuel each time; between two calls that take a token there are at most a
dozen others, so the fuel that `parse` provides is never used up.
-/

namespace RecordExtraction
namespace Locator

/-- How tightly an operator binds. -/
def BinaryOperator.level : BinaryOperator → Nat
  | .or => 0
  | .and => 1
  | .compare .equal | .compare .notEqual => 2
  | .compare _ => 3
  | .arithmetic .add | .arithmetic .subtract => 4
  | .arithmetic _ => 5
  | .union => 7

/-- The level of the minus sign before an operand. -/
def negationLevel : Nat := 6

/-- The level of paths, which bind tighter than all operators. -/
def pathLevel : Nat := 8

namespace Parser

/-- The error at the front of the tokens. -/
def unexpected : List Lexeme → PathError
  | lexeme :: _ => .unexpectedChar lexeme.head lexeme.offset
  | [] => .unexpectedEnd

/-- Takes a given token. -/
def expect (token : Token) (lexemes : List Lexeme) : Except PathError (List Lexeme) :=
  match lexemes with
  | lexeme :: rest => if lexeme.token = token then .ok rest else .error (unexpected lexemes)
  | [] => .error .unexpectedEnd

/-- A step can begin at the front of the tokens. -/
def startsStep : List Lexeme → Bool
  | ⟨.nameTest .., _, _⟩ :: _ | ⟨.nodeType _, _, _⟩ :: _ | ⟨.axisName _, _, _⟩ :: _
  | ⟨.functionName _, _, _⟩ :: _ | ⟨.atSign, _, _⟩ :: _ | ⟨.dot, _, _⟩ :: _
  | ⟨.dotDot, _, _⟩ :: _ => true
  | _ => false

/-- Takes a separator between two steps, if there is one, with the step that it stands for. -/
def separator? : List Lexeme → Option (List Step × List Lexeme)
  | ⟨.slash, _, _⟩ :: rest => some ([], rest)
  | ⟨.doubleSlash, _, _⟩ :: rest => some ([.anyDepth], rest)
  | _ => none

/-- Takes a test for a kind of nodes after the name of the kind. -/
def typeTest (type : NodeType) (lexemes : List Lexeme) :
    Except PathError (NodeTest × List Lexeme) := do
  let rest ← expect .leftParen lexemes
  match type, rest with
  | .instruction, ⟨.literal target, _, _⟩ :: rest =>
      let rest ← expect .rightParen rest
      .ok (.instruction (some target), rest)
  | _, rest =>
      let rest ← expect .rightParen rest
      match type with
      | .text => .ok (.text, rest)
      | .comment => .ok (.comment, rest)
      | .instruction => .ok (.instruction none, rest)
      | .any => .ok (.any, rest)

/-- Takes a node test. -/
def nodeTest (lexemes : List Lexeme) : Except PathError (NodeTest × List Lexeme) :=
  match lexemes with
  | ⟨.nameTest qualifier localName, _, _⟩ :: rest => .ok (.name qualifier localName, rest)
  | ⟨.nodeType type, _, _⟩ :: rest => typeTest type rest
  | ⟨.functionName name, _, _⟩ :: _ => .error (.unknownNodeTest name)
  | _ => .error (unexpected lexemes)

/-- A call of a function that exists and takes this number of arguments. -/
def call (name : String) (arguments : List Expr) : Except PathError Expr :=
  match CoreFunction.ofName? name with
  | none => .error (.unknownFunction name)
  | some function =>
      if function.accepts arguments.length then .ok (.call function arguments)
      else .error (.argumentCount name arguments.length)

mutual

/-- Takes an expression whose operators all bind at least as tightly as the level. -/
def expression (fuel level : Nat) (lexemes : List Lexeme) : Except PathError (Expr × List Lexeme) :=
  match fuel with
  | 0 => .error .unexpectedEnd
  | fuel + 1 =>
      if pathLevel ≤ level then path fuel lexemes
      else if level = negationLevel then
        match lexemes with
        | ⟨.operator (.arithmetic .subtract), _, _⟩ :: rest => do
            let (operand, rest) ← expression fuel level rest
            .ok (.negate operand, rest)
        | _ => expression fuel (level + 1) lexemes
      else do
        let (left, rest) ← expression fuel (level + 1) lexemes
        operators fuel level left rest

/-- Takes the operators of a level and their right operands after the first left operand. -/
def operators (fuel level : Nat) (left : Expr) (lexemes : List Lexeme) :
    Except PathError (Expr × List Lexeme) :=
  match fuel with
  | 0 => .error .unexpectedEnd
  | fuel + 1 =>
      match lexemes with
      | ⟨.operator operator, _, _⟩ :: rest =>
          if operator.level = level then do
            let (right, rest) ← expression fuel (level + 1) rest
            operators fuel level (.binary operator left right) rest
          else .ok (left, lexemes)
      | _ => .ok (left, lexemes)

/-- Takes a location path, or a primary expression with predicates and further steps. -/
def path (fuel : Nat) (lexemes : List Lexeme) : Except PathError (Expr × List Lexeme) :=
  match fuel with
  | 0 => .error .unexpectedEnd
  | fuel + 1 =>
      match lexemes with
      | ⟨.variableName name, _, _⟩ :: _ => .error (.unboundVariable name)
      | ⟨.leftParen, _, _⟩ :: rest => do
          let (inner, rest) ← expression fuel 0 rest
          let rest ← expect .rightParen rest
          filtered fuel inner rest
      | ⟨.literal value, _, _⟩ :: rest => filtered fuel (.literal value) rest
      | ⟨.number digits, _, _⟩ :: rest =>
          filtered fuel (.number (numeralValue false digits.toList)) rest
      | ⟨.functionName name, _, _⟩ :: rest => do
          let rest ← expect .leftParen rest
          let (arguments, rest) ← arguments fuel rest
          let primary ← call name arguments
          filtered fuel primary rest
      | ⟨.slash, _, _⟩ :: rest =>
          if startsStep rest then do
            let (steps, rest) ← steps fuel rest
            .ok (.path .root steps, rest)
          else .ok (.path .root [], rest)
      | ⟨.doubleSlash, _, _⟩ :: rest => do
          let (steps, rest) ← steps fuel rest
          .ok (.path .root (.anyDepth :: steps), rest)
      | _ => do
          let (steps, rest) ← steps fuel lexemes
          .ok (.path .context steps, rest)

/-- Takes the predicates and steps after a primary expression. -/
def filtered (fuel : Nat) (primary : Expr) (lexemes : List Lexeme) :
    Except PathError (Expr × List Lexeme) :=
  match fuel with
  | 0 => .error .unexpectedEnd
  | fuel + 1 => do
      let (predicates, rest) ← predicates fuel lexemes
      let filter := if predicates.isEmpty then primary else .filter primary predicates
      match separator? rest with
      | some (implied, rest) =>
          let (steps, rest) ← steps fuel rest
          .ok (.path (.filter filter) (implied ++ steps), rest)
      | none => .ok (filter, rest)

/-- Takes one step or more with separators between them. -/
def steps (fuel : Nat) (lexemes : List Lexeme) : Except PathError (List Step × List Lexeme) :=
  match fuel with
  | 0 => .error .unexpectedEnd
  | fuel + 1 => do
      let (step, rest) ← step fuel lexemes
      match separator? rest with
      | some (implied, rest) =>
          let (steps, rest) ← steps fuel rest
          .ok (step :: implied ++ steps, rest)
      | none => .ok ([step], rest)

/-- Takes one step. -/
def step (fuel : Nat) (lexemes : List Lexeme) : Except PathError (Step × List Lexeme) :=
  match fuel with
  | 0 => .error .unexpectedEnd
  | fuel + 1 =>
      match lexemes with
      | ⟨.dot, _, _⟩ :: rest => .ok (.all .self, rest)
      | ⟨.dotDot, _, _⟩ :: rest => .ok (.all .parent, rest)
      | ⟨.atSign, _, _⟩ :: rest => tested fuel .attributes rest
      | ⟨.axisName name, _, _⟩ :: rest =>
          match Axis.ofName? name with
          | none => .error (.unknownAxis name)
          | some axis => do
              let rest ← expect .axisMark rest
              tested fuel axis rest
      | _ => tested fuel .child lexemes

/-- Takes the node test and the predicates of a step. -/
def tested (fuel : Nat) (axis : Axis) (lexemes : List Lexeme) :
    Except PathError (Step × List Lexeme) :=
  match fuel with
  | 0 => .error .unexpectedEnd
  | fuel + 1 => do
      let (test, rest) ← nodeTest lexemes
      let (predicates, rest) ← predicates fuel rest
      .ok (.mk axis test predicates, rest)

/-- Takes any number of predicates. -/
def predicates (fuel : Nat) (lexemes : List Lexeme) : Except PathError (List Expr × List Lexeme) :=
  match fuel with
  | 0 => .error .unexpectedEnd
  | fuel + 1 =>
      match lexemes with
      | ⟨.leftBracket, _, _⟩ :: rest => do
          let (predicate, rest) ← expression fuel 0 rest
          let rest ← expect .rightBracket rest
          let (predicates, rest) ← predicates fuel rest
          .ok (predicate :: predicates, rest)
      | _ => .ok ([], lexemes)

/-- Takes the arguments of a call after its opening parenthesis, and the closing one. -/
def arguments (fuel : Nat) (lexemes : List Lexeme) : Except PathError (List Expr × List Lexeme) :=
  match fuel with
  | 0 => .error .unexpectedEnd
  | fuel + 1 =>
      match lexemes with
      | ⟨.rightParen, _, _⟩ :: rest => .ok ([], rest)
      | _ => argumentList fuel lexemes

/-- Takes one argument or more, and the closing parenthesis. -/
def argumentList (fuel : Nat) (lexemes : List Lexeme) :
    Except PathError (List Expr × List Lexeme) :=
  match fuel with
  | 0 => .error .unexpectedEnd
  | fuel + 1 => do
      let (argument, rest) ← expression fuel 0 lexemes
      match rest with
      | ⟨.comma, _, _⟩ :: rest =>
          let (arguments, rest) ← argumentList fuel rest
          .ok (argument :: arguments, rest)
      | rest =>
          let rest ← expect .rightParen rest
          .ok ([argument], rest)

end

/-- Fuel for any expression of this many tokens. -/
def fuelFor (length : Nat) : Nat := 24 * (length + 1)

/-- The expression that a list of tokens forms as a whole. -/
def parseTokens (lexemes : List Lexeme) : Except PathError Expr := do
  let (expr, rest) ← expression (fuelFor lexemes.length) 0 lexemes
  if rest.isEmpty then .ok expr else .error (unexpected rest)

/-- The expression that a text denotes. -/
def parse (text : String) : Except PathError Expr := do
  parseTokens (← tokenize text)

end Parser
end Locator
end RecordExtraction
