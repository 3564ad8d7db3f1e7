import RecordExtraction.Locator.Token

/-!
# Splitting a locator into tokens

`scanToken` looks at the front of a text and tells which token stands there and how many characters
it has; whether an operand has just ended is all it needs to know of the tokens before.  `scan` goes
through the text once, character by character, and passes over the characters that belong to the
token found last.
-/

namespace RecordExtraction
namespace Locator

/-- The number of bytes of a text. -/
def byteLength (chars : List Char) : Nat := chars.foldr (fun c rest => c.utf8Size + rest) 0

/-- A token at the front of a text and the number of its characters. -/
structure Scanned where
  token : Token
  length : Nat
deriving DecidableEq, Repr

/-- The error at a place where something else should stand. -/
def unexpectedAt (offset : Nat) : List Char → PathError
  | c :: _ => .unexpectedChar c offset
  | [] => .unexpectedEnd

/-- The name at the front of a text, empty if there is none. -/
def leadingName (chars : List Char) : List Char :=
  match chars with
  | c :: _ => if isNameStart c then chars.takeWhile isNameChar else []
  | [] => []

/-- The digits at the front of a text. -/
def leadingDigits (chars : List Char) : List Char := chars.takeWhile Char.isDigit

/-- The numeral at the front of a text: digits, and more digits after a point. -/
def leadingNumeral (chars : List Char) : List Char :=
  let whole := leadingDigits chars
  match chars.drop whole.length with
  | '.' :: rest => whole ++ '.' :: leadingDigits rest
  | _ => whole

/-- A name, or two names with a colon between them, at the front of a text. -/
def leadingQualifiedName (chars : List Char) : List Char :=
  let first := leadingName chars
  match chars.drop first.length with
  | ':' :: rest =>
      let second := leadingName rest
      if first.isEmpty || second.isEmpty then first else first ++ ':' :: second
  | _ => first

/-- The operator that a name is after an operand. -/
def operatorOfName? (name : String) : Option BinaryOperator :=
  match name with
  | "and" => some .and
  | "or" => some .or
  | "div" => some (.arithmetic .divide)
  | "mod" => some (.arithmetic .remainder)
  | _ => none

/-- What an unqualified name is where an operand is expected.  The text that follows decides: two
colons make it an axis, a parenthesis a kind of nodes or a function. -/
def unqualified (name : String) (following : List Char) : Token :=
  match following.dropWhile isSpace with
  | ':' :: ':' :: _ => .axisName name
  | '(' :: _ =>
      match NodeType.ofName? name with
      | some type => .nodeType type
      | none => .functionName name
  | _ => .nameTest none (some name)

/-- What a qualified name is where an operand is expected. -/
def qualified (qualifier name : String) (following : List Char) : Token :=
  match following.dropWhile isSpace with
  | '(' :: _ => .functionName (qualifier ++ ":" ++ name)
  | _ => .nameTest (some qualifier) (some name)

/-- Scans a name where an operand is expected. -/
def scanOperandName (offset : Nat) (chars : List Char) : Except PathError Scanned :=
  let first := leadingName chars
  let name := String.ofList first
  match chars.drop first.length with
  | ':' :: ':' :: rest => .ok ⟨unqualified name (':' :: ':' :: rest), first.length⟩
  | ':' :: '*' :: _ => .ok ⟨.nameTest (some name) none, first.length + 2⟩
  | ':' :: rest =>
      let second := leadingName rest
      if second.isEmpty then .error (unexpectedAt (offset + byteLength first + 1) rest)
      else
        .ok ⟨qualified name (String.ofList second) (rest.drop second.length),
          first.length + 1 + second.length⟩
  | rest => .ok ⟨unqualified name rest, first.length⟩

/-- Scans a name after an operand, where it has to be an operator. -/
def scanOperatorName (offset : Nat) (chars : List Char) : Except PathError Scanned :=
  let name := leadingName chars
  match operatorOfName? (String.ofList name) with
  | some operator => .ok ⟨.operator operator, name.length⟩
  | none => .error (unexpectedAt offset chars)

/-- Scans a literal after its quotation mark. -/
def scanLiteral (offset : Nat) (mark : Char) (rest : List Char) : Except PathError Scanned :=
  let body := rest.takeWhile (· != mark)
  if body.length < rest.length then .ok ⟨.literal (String.ofList body), body.length + 2⟩
  else .error (.unterminatedLiteral offset)

/-- Scans the token at the front of a text that does not begin with a space. -/
def scanToken (afterOperand : Bool) (offset : Nat) (chars : List Char) :
    Except PathError Scanned :=
  match chars with
  | [] => .error .unexpectedEnd
  | '(' :: _ => .ok ⟨.leftParen, 1⟩
  | ')' :: _ => .ok ⟨.rightParen, 1⟩
  | '[' :: _ => .ok ⟨.leftBracket, 1⟩
  | ']' :: _ => .ok ⟨.rightBracket, 1⟩
  | '@' :: _ => .ok ⟨.atSign, 1⟩
  | ',' :: _ => .ok ⟨.comma, 1⟩
  | '|' :: _ => .ok ⟨.operator .union, 1⟩
  | '+' :: _ => .ok ⟨.operator (.arithmetic .add), 1⟩
  | '-' :: _ => .ok ⟨.operator (.arithmetic .subtract), 1⟩
  | '=' :: _ => .ok ⟨.operator (.compare .equal), 1⟩
  | '!' :: '=' :: _ => .ok ⟨.operator (.compare .notEqual), 2⟩
  | '<' :: '=' :: _ => .ok ⟨.operator (.compare .lessOrEqual), 2⟩
  | '<' :: _ => .ok ⟨.operator (.compare .less), 1⟩
  | '>' :: '=' :: _ => .ok ⟨.operator (.compare .greaterOrEqual), 2⟩
  | '>' :: _ => .ok ⟨.operator (.compare .greater), 1⟩
  | '/' :: '/' :: _ => .ok ⟨.doubleSlash, 2⟩
  | '/' :: _ => .ok ⟨.slash, 1⟩
  | ':' :: ':' :: _ => .ok ⟨.axisMark, 2⟩
  | '.' :: '.' :: _ => .ok ⟨.dotDot, 2⟩
  | '*' :: _ =>
      if afterOperand then .ok ⟨.operator (.arithmetic .multiply), 1⟩
      else .ok ⟨.nameTest none none, 1⟩
  | '$' :: rest =>
      let name := leadingQualifiedName rest
      if name.isEmpty then .error (unexpectedAt (offset + 1) rest)
      else .ok ⟨.variableName (String.ofList name), name.length + 1⟩
  | c :: rest =>
      if c == '"' || c == '\'' then scanLiteral offset c rest
      else if c.isDigit || (c == '.' && rest.head?.any Char.isDigit) then
        let numeral := leadingNumeral (c :: rest)
        .ok ⟨.number (String.ofList numeral), numeral.length⟩
      else if c == '.' then .ok ⟨.dot, 1⟩
      else if isNameStart c then
        if afterOperand then scanOperatorName offset (c :: rest)
        else scanOperandName offset (c :: rest)
      else .error (.unexpectedChar c offset)

/-- The tokens of a text.  `skip` characters belong to the token found last, `afterOperand` tells
whether that token ends an operand, and `offset` is the number of bytes passed. -/
def scan (afterOperand : Bool) (offset skip : Nat) : List Char → Except PathError (List Lexeme)
  | [] => .ok []
  | c :: rest =>
      match skip with
      | skip + 1 => scan afterOperand (offset + c.utf8Size) skip rest
      | 0 =>
          if isSpace c then scan afterOperand (offset + c.utf8Size) 0 rest
          else
            match scanToken afterOperand offset (c :: rest) with
            | .error e => .error e
            | .ok scanned =>
                (scan scanned.token.endsOperand (offset + c.utf8Size) (scanned.length - 1) rest).map
                  (⟨scanned.token, offset, c⟩ :: ·)

/-- The tokens of a text, or the first place where there is none. -/
def tokenize (text : String) : Except PathError (List Lexeme) :=
  scan false 0 0 text.toList

end Locator
end RecordExtraction
