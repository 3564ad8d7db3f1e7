import RecordExtraction.Locator.Error
import RecordExtraction.Text.Blank
import RecordExtraction.Text.Letter

/-!
# The tokens of a locator

A locator is a sequence of tokens with any spaces between them.  A star or a name means different
things in different places: after an operand it is an operator, elsewhere it names something.
-/

namespace RecordExtraction
namespace Locator

/-- How two values are compared. -/
inductive Comparison where
  | equal
  | notEqual
  | less
  | lessOrEqual
  | greater
  | greaterOrEqual
deriving DecidableEq, Repr

/-- How two numbers are combined. -/
inductive Arithmetic where
  | add
  | subtract
  | multiply
  | divide
  | remainder
deriving DecidableEq, Repr

/-- An operator between two operands. -/
inductive BinaryOperator where
  | or
  | and
  | compare (comparison : Comparison)
  | arithmetic (arithmetic : Arithmetic)
  | union
deriving DecidableEq, Repr

/-- The kinds of nodes that a test with parentheses can ask for. -/
inductive NodeType where
  | text
  | comment
  | instruction
  | any
deriving DecidableEq, Repr

/-- The name of a kind of nodes as it stands before the parentheses. -/
def NodeType.name : NodeType → String
  | .text => "text"
  | .comment => "comment"
  | .instruction => "processing-instruction"
  | .any => "node"

def NodeType.all : List NodeType := [.text, .comment, .instruction, .any]

def NodeType.ofName? (name : String) : Option NodeType :=
  NodeType.all.find? fun type => type.name == name

/-- A token.  Numbers keep the digits they are written with. -/
inductive Token where
  | leftParen
  | rightParen
  | leftBracket
  | rightBracket
  | dot
  | dotDot
  | atSign
  | comma
  /-- The two colons after the name of an axis. -/
  | axisMark
  | slash
  | doubleSlash
  | operator (operator : BinaryOperator)
  | literal (value : String)
  | number (digits : String)
  | variableName (name : String)
  /-- A test for a name.  Without a local name it is the wildcard. -/
  | nameTest (qualifier : Option String) (localName : Option String)
  | nodeType (type : NodeType)
  | functionName (name : String)
  | axisName (name : String)
deriving DecidableEq, Repr

/-- The token can end an operand, which makes a star or a name after it an operator. -/
def Token.endsOperand : Token → Bool
  | .atSign | .axisMark | .leftParen | .leftBracket | .comma | .slash | .doubleSlash
  | .operator _ => false
  | _ => true

/-- A token with its place in the text: the byte at which it begins, and its first character. -/
structure Lexeme where
  token : Token
  offset : Nat
  head : Char
deriving DecidableEq, Repr

/-- The character may begin a name in a locator. -/
def isNameStart (c : Char) : Bool := isAlphabetic c || c == '_'

/-- The character may stand in a name of a locator. -/
def isNameChar (c : Char) : Bool := isAlphanumeric c || c == '_' || c == '-' || c == '.'

theorem isNameChar_of_isNameStart {c : Char} (h : isNameStart c = true) : isNameChar c = true := by
  simp only [isNameStart, Bool.or_eq_true] at h
  rcases h with h | h
  · simp [isNameChar, isAlphanumeric_of_isAlphabetic h]
  · simp [isNameChar, h]

end Locator
end RecordExtraction
