import RecordExtraction.SchemaFile.Yaml.Cursor

/-!
# Scalars over several lines

White space inside a scalar is held back until the next character of the scalar.  Blanks between two
characters of a line are kept.  A single line break becomes a space; of several breaks the first is
dropped and the others are kept.
-/

namespace RecordExtraction
namespace SchemaFile
namespace Yaml

/-- White space that was read but does not belong to the scalar yet, in reverse. -/
structure Held where
  blanks : List Char
  /-- A line ended since the last character. -/
  broken : Bool
  /-- The first line break, unless it was escaped. -/
  first : Option Char
  more : List Char

namespace Held

def empty : Held := ⟨[], false, none, []⟩

def isEmpty (held : Held) : Bool := held.blanks.isEmpty && !held.broken

/-- The white space after one more blank.  Blanks after a line break are indentation. -/
def blank (held : Held) (c : Char) : Held :=
  if held.broken then held else { held with blanks := c :: held.blanks }

/-- The white space after one more line break.  Blanks before a line break do not count. -/
def lineBreak (held : Held) (value : Char) : Held :=
  if held.broken then { held with more := value :: held.more }
  else ⟨[], true, some value, []⟩

/-- The white space after an escaped line break. -/
def escapedBreak : Held := ⟨[], true, none, []⟩

/-- What the white space contributes to the scalar, in reverse. -/
def join (held : Held) : List Char :=
  if held.broken then
    match held.first with
    | none => held.more
    | some '\n' => if held.more.isEmpty then [' '] else held.more
    | some c => held.more ++ [c]
  else held.blanks

end Held

/-- A scalar and the cursor after it. -/
structure ScannedScalar where
  text : List Char
  cursor : Cursor

/-- What ends or breaks a plain scalar at a character that is no white space. -/
inductive PlainStop where
  | goesOn
  | ends
  | fails

/-- In flow collections, brackets and commas end a plain scalar, and a colon in front of them is an
error.  A colon before white space ends it anywhere. -/
def plainStop (inFlow : Bool) (c : Char) (rest : List Char) : PlainStop :=
  if inFlow && c == ':' && rest.head?.any (",?[]\x7b\x7d".contains ·) then .fails
  else if c == ':' && gapAfter 0 rest then .ends
  else if inFlow && ",[]\x7b\x7d".contains c then .ends
  else .goesOn

/-- A plain scalar ends in front of this character, which follows white space. -/
def plainEndsAfterGap (inFlow : Bool) (indent : Nat) (mark : Mark) (text : List Char) : Bool :=
  (!inFlow && mark.column < indent) || (mark.column == 0 && isDocumentMarker text) ||
    text.head? == some '#'

/-- Reads a plain scalar on.  `text` is what was read in reverse; the second part of the result says
that a line ended after the last character.  Nothing is returned where the scalar breaks. -/
def plainScalar (inFlow : Bool) (indent : Nat) (mark : Mark) (held : Held) (text : List Char) :
    List Char → Option (ScannedScalar × Bool)
  | [] => some (⟨text.reverse, [], mark⟩, held.broken)
  | '\r' :: '\n' :: rest =>
      plainScalar inFlow indent (mark.newLine 2) (held.lineBreak '\n') text rest
  | c :: rest =>
      if isBreak c then
        plainScalar inFlow indent (mark.newLine 1) (held.lineBreak (breakValue c)) text rest
      else if isBlankChar c then
        if held.broken && mark.column < indent && c == '\t' then none
        else plainScalar inFlow indent (mark.advance 1) (held.blank c) text rest
      else if !held.isEmpty && plainEndsAfterGap inFlow indent mark (c :: rest) then
        some (⟨text.reverse, c :: rest, mark⟩, held.broken)
      else
        match plainStop inFlow c rest with
        | .fails => none
        | .ends => some (⟨text.reverse, c :: rest, mark⟩, held.broken)
        | .goesOn =>
            plainScalar inFlow indent (mark.advance 1) .empty (c :: (held.join ++ text)) rest

/-- Reads a scalar in single quotes on.  A quote is written twice inside. -/
def singleQuoted (mark : Mark) (held : Held) (text : List Char) :
    List Char → Option ScannedScalar
  | [] => none
  | '\r' :: '\n' :: rest => singleQuoted (mark.newLine 2) (held.lineBreak '\n') text rest
  | '\'' :: '\'' :: rest =>
      singleQuoted (mark.advance 2) .empty ('\'' :: (held.join ++ text)) rest
  | c :: rest =>
      if isBreak c then singleQuoted (mark.newLine 1) (held.lineBreak (breakValue c)) text rest
      else if isBlankChar c then singleQuoted (mark.advance 1) (held.blank c) text rest
      else if mark.column == 0 && isDocumentMarker (c :: rest) then none
      else if c == '\'' then some ⟨(held.join ++ text).reverse, rest, mark.advance 1⟩
      else singleQuoted (mark.advance 1) .empty (c :: (held.join ++ text)) rest

/-- The character that an escape of one letter stands for. -/
def escapedChar? (c : Char) : Option Char :=
  match c with
  | '0' => some (Char.ofNat 0)
  | 'a' => some (Char.ofNat 0x7)
  | 'b' => some (Char.ofNat 0x8)
  | 't' => some '\t'
  | '\t' => some '\t'
  | 'n' => some '\n'
  | 'v' => some (Char.ofNat 0xb)
  | 'f' => some (Char.ofNat 0xc)
  | 'r' => some '\r'
  | 'e' => some (Char.ofNat 0x1b)
  | ' ' => some ' '
  | '"' => some '"'
  | '/' => some '/'
  | '\\' => some '\\'
  | 'N' => some (Char.ofNat 0x85)
  | '_' => some (Char.ofNat 0xa0)
  | 'L' => some (Char.ofNat 0x2028)
  | 'P' => some (Char.ofNat 0x2029)
  | _ => none

/-- The number of hexadecimal digits after the letter of an escape. -/
def escapeDigits? (c : Char) : Option Nat :=
  if c == 'x' then some 2 else if c == 'u' then some 4 else if c == 'U' then some 8 else none

/-- The value of a hexadecimal digit. -/
def hexDigit? (c : Char) : Option Nat :=
  if c.isDigit then some (c.toNat - '0'.toNat)
  else if 'a' ≤ c ∧ c ≤ 'f' then some (c.toNat - 'a'.toNat + 10)
  else if 'A' ≤ c ∧ c ≤ 'F' then some (c.toNat - 'A'.toNat + 10)
  else none

/-- The character whose code point hexadecimal digits denote. -/
def charOfHex? (digits : List Char) : Option Char := do
  let values ← digits.mapM hexDigit?
  let code := values.foldl (fun code value => code * 16 + value) 0
  if Nat.isValidChar code then some (Char.ofNat code) else none

/-- The state of reading a scalar in double quotes. -/
inductive QuotedState where
  | text
  /-- After a backslash. -/
  | escape
  /-- Inside the digits of an escape: how many are missing, and those that were read, in reverse. -/
  | digits (missing : Nat) (read : List Char)

/-- Reads a scalar in double quotes on, one character at a time. -/
def doubleQuoted (state : QuotedState) (mark : Mark) (held : Held) (text : List Char) :
    List Char → Option ScannedScalar
  | [] => none
  | '\r' :: '\n' :: rest =>
      match state with
      | .text => doubleQuoted .text (mark.newLine 2) (held.lineBreak '\n') text rest
      | .escape => doubleQuoted .text (mark.newLine 2) .escapedBreak text rest
      | .digits .. => none
  | c :: rest =>
      match state with
      | .text =>
          if isBreak c then
            doubleQuoted .text (mark.newLine 1) (held.lineBreak (breakValue c)) text rest
          else if isBlankChar c then doubleQuoted .text (mark.advance 1) (held.blank c) text rest
          else if mark.column == 0 && isDocumentMarker (c :: rest) then none
          else if c == '"' then some ⟨(held.join ++ text).reverse, rest, mark.advance 1⟩
          else if c == '\\' then
            doubleQuoted .escape (mark.advance 1) .empty (held.join ++ text) rest
          else doubleQuoted .text (mark.advance 1) .empty (c :: (held.join ++ text)) rest
      | .escape =>
          if isBreak c then doubleQuoted .text (mark.newLine 1) .escapedBreak text rest
          else
            match escapedChar? c, escapeDigits? c with
            | some value, _ => doubleQuoted .text (mark.advance 1) .empty (value :: text) rest
            | none, some count =>
                doubleQuoted (.digits count []) (mark.advance 1) .empty text rest
            | none, none => none
      | .digits missing read =>
          let read := c :: read
          if missing ≤ 1 then
            match charOfHex? read.reverse with
            | some value => doubleQuoted .text (mark.advance 1) .empty (value :: text) rest
            | none => none
          else doubleQuoted (.digits (missing - 1) read) (mark.advance 1) .empty text rest

end Yaml
end SchemaFile
end RecordExtraction
