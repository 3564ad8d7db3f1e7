/-!
# Reading positions in block-structured text

A cursor is the rest of a text with its position: characters from the start, line, and column.  Five
kinds of line break exist; carriage return and line feed together are one break.
-/

namespace RecordExtraction
namespace SchemaFile
namespace Yaml

/-- Space and tab. -/
def isBlankChar (c : Char) : Bool := c == ' ' || c == '\t'

/-- The characters that end a line. -/
def isBreak (c : Char) : Bool :=
  c == '\n' || c == '\r' || c.toNat == 0x85 || c.toNat == 0x2028 || c.toNat == 0x2029

/-- White space of either kind. -/
def isGap (c : Char) : Bool := isBlankChar c || isBreak c

/-- The characters of names of anchors. -/
def isWordChar (c : Char) : Bool := c.isAlphanum || c == '_' || c == '-'

/-- The characters that a file may hold. -/
def isPermitted (c : Char) : Bool :=
  let code := c.toNat
  code == 0x9 || code == 0xa || code == 0xd || (0x20 ≤ code && code ≤ 0x7e) || code == 0x85 ||
    (0xa0 ≤ code && code ≤ 0xd7ff) || (0xe000 ≤ code && code ≤ 0xfffd) || 0x10000 ≤ code

/-- A line break as it counts in the content of a scalar. -/
def breakValue (c : Char) : Char :=
  if c.toNat == 0x2028 || c.toNat == 0x2029 then c else '\n'

/-- A position in a text. -/
structure Mark where
  index : Nat
  line : Nat
  column : Nat
deriving DecidableEq, Repr

namespace Mark

def start : Mark := ⟨0, 0, 0⟩

/-- The position after characters that end no line. -/
def advance (mark : Mark) (count : Nat) : Mark :=
  ⟨mark.index + count, mark.line, mark.column + count⟩

/-- The position after a line break of so many characters. -/
def newLine (mark : Mark) (count : Nat) : Mark := ⟨mark.index + count, mark.line + 1, 0⟩

end Mark

/-- The rest of a text and its position. -/
structure Cursor where
  rest : List Char
  mark : Mark
deriving DecidableEq, Repr

namespace Cursor

/-- The cursor after characters that end no line. -/
def skip (cursor : Cursor) (count : Nat) : Cursor :=
  ⟨cursor.rest.drop count, cursor.mark.advance count⟩

/-- The characters at the front that satisfy a predicate, and the cursor after them.  None of them
may end a line. -/
def span (cursor : Cursor) (p : Char → Bool) : List Char × Cursor :=
  let taken := cursor.rest.takeWhile p
  (taken, cursor.skip taken.length)

def skipWhile (cursor : Cursor) (p : Char → Bool) : Cursor := (cursor.span p).2

/-- The cursor after the rest of the line, in front of its break. -/
def skipLine (cursor : Cursor) : Cursor := cursor.skipWhile (!isBreak ·)

/-- The value of the line break at the cursor, if one is there, and the cursor after it. -/
def takeBreak? (cursor : Cursor) : Option (Char × Cursor) :=
  match cursor.rest with
  | '\r' :: '\n' :: rest => some ('\n', ⟨rest, cursor.mark.newLine 2⟩)
  | c :: rest => if isBreak c then some (breakValue c, ⟨rest, cursor.mark.newLine 1⟩) else none
  | [] => none

/-- A break or the end of the text. -/
def atLineEnd (cursor : Cursor) : Bool := cursor.rest.head?.all isBreak

/-- White space or the end of the text. -/
def atGap (cursor : Cursor) : Bool := cursor.rest.head?.all isGap

end Cursor

/-- White space or the end of the text after so many characters. -/
def gapAfter (count : Nat) (text : List Char) : Bool := (text.drop count).head?.all isGap

/-- Three hyphens or three full stops that stand alone at the front of a text. -/
def isDocumentMarker (text : List Char) : Bool :=
  match text with
  | a :: b :: c :: rest =>
      ((a == '-' && b == '-' && c == '-') || (a == '.' && b == '.' && c == '.')) &&
        rest.head?.all isGap
  | _ => false

end Yaml
end SchemaFile
end RecordExtraction
