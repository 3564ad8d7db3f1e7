import RecordExtraction.SchemaFile.Yaml.Folding

/-!
# Block scalars

A block scalar takes whole lines that are indented more than their surroundings.  Its header says
whether line breaks are folded, what happens to the breaks at its end, and how deep it is indented;
without the last, its first line that is not empty decides.
-/

namespace RecordExtraction
namespace SchemaFile
namespace Yaml

/-- What happens to the line breaks at the end of a block scalar. -/
inductive Chomping where
  | clip
  | strip
  | keep
deriving DecidableEq, Repr

/-- The header of a block scalar. -/
structure BlockHeader where
  chomping : Chomping
  /-- Zero if the first line decides. -/
  increment : Nat

/-- The chomping that a character asks for. -/
def chomping? (c : Char) : Option Chomping :=
  if c == '+' then some .keep else if c == '-' then some .strip else none

/-- The indentation that a digit asks for. -/
def increment? (c : Char) : Option Nat :=
  if c.isDigit then some (c.toNat - '0'.toNat) else none

/-- Splits a character with a meaning from the front of a text. -/
def takeMeaning? {α : Type} (meaning : Char → Option α) (cursor : Cursor) : Option (α × Cursor) :=
  match cursor.rest with
  | c :: _ => (meaning c).map fun value => (value, cursor.skip 1)
  | [] => none

/-- Reads the header up to the end of its line, where blanks and a comment may follow. -/
def blockHeader (cursor : Cursor) : Option (BlockHeader × Cursor) :=
  let (chomping, increment, cursor) :=
    match takeMeaning? chomping? cursor with
    | some (chomping, cursor) =>
        match takeMeaning? increment? cursor with
        | some (increment, cursor) => (chomping, some increment, cursor)
        | none => (chomping, none, cursor)
    | none =>
        match takeMeaning? increment? cursor with
        | some (increment, cursor) =>
            match takeMeaning? chomping? cursor with
            | some (chomping, cursor) => (chomping, some increment, cursor)
            | none => (.clip, some increment, cursor)
        | none => (.clip, none, cursor)
  if increment = some 0 then none
  else
    let cursor := cursor.skipWhile isBlankChar
    let cursor := if cursor.rest.head? = some '#' then cursor.skipLine else cursor
    if cursor.atLineEnd then
      let cursor := cursor.takeBreak?.elim cursor (·.2)
      some (⟨chomping, increment.getD 0⟩, cursor)
    else none

/-- Reads empty lines and the indentation of the line after them.  An indentation of zero is not
known yet.  The result has the line breaks in reverse and the widest indentation; a tab in the
indentation is an error. -/
def emptyLines (indent widest : Nat) (mark : Mark) (breaks : List Char) :
    List Char → Option (List Char × Nat × Cursor)
  | [] => some (breaks, max widest mark.column, ⟨[], mark⟩)
  | '\r' :: '\n' :: rest =>
      emptyLines indent (max widest mark.column) (mark.newLine 2) ('\n' :: breaks) rest
  | c :: rest =>
      let isIndentation := indent == 0 || mark.column < indent
      if isIndentation && c == ' ' then emptyLines indent widest (mark.advance 1) breaks rest
      else if isIndentation && c == '\t' then none
      else if isBreak c then
        emptyLines indent (max widest mark.column) (mark.newLine 1) (breakValue c :: breaks) rest
      else some (breaks, max widest mark.column, ⟨c :: rest, mark⟩)

/-- The breaks between two lines of a block scalar: the break that ends the first line, those of the
empty lines after it, in reverse, and whether the first line begins with a blank. -/
structure LineGap where
  ending : List Char
  empty : List Char
  afterBlank : Bool

/-- What the gap in front of a line contributes to the scalar, in reverse.  When lines are folded, a
break between two lines that begin with no blank becomes a space. -/
def LineGap.join (gap : LineGap) (folds beforeBlank : Bool) : List Char :=
  if folds && gap.ending == ['\n'] && !gap.afterBlank && !beforeBlank then
    if gap.empty.isEmpty then [' '] else gap.empty
  else gap.empty ++ gap.ending

/-- Reads the lines of a block scalar.  `text` is what was read, in reverse.  Every line has a
character at least. -/
def blockLines (folds : Bool) (indent : Nat) (text : List Char) (gap : LineGap) :
    Nat → Cursor → Option (List Char × LineGap × Cursor)
  | 0, cursor => some (text, gap, cursor)
  | fuel + 1, cursor =>
      match cursor.rest with
      | [] => some (text, gap, cursor)
      | c :: _ =>
          if cursor.mark.column ≠ indent then some (text, gap, cursor)
          else
            let startsBlank := isBlankChar c
            let (line, cursor) := cursor.span (!isBreak ·)
            let text := line.reverse ++ (gap.join folds startsBlank ++ text)
            let (ending, cursor) :=
              match cursor.takeBreak? with
              | some (value, cursor) => ([value], cursor)
              | none => ([], cursor)
            match emptyLines indent 0 cursor.mark [] cursor.rest with
            | none => none
            | some (empty, _, cursor) =>
                blockLines folds indent text ⟨ending, empty, startsBlank⟩ fuel cursor

/-- Reads a block scalar after its indicator.  `parent` is the indentation around it, less than zero
if there is none. -/
def blockScalar (folds : Bool) (parent : Int) (cursor : Cursor) : Option ScannedScalar := do
  let (header, cursor) ← blockHeader cursor
  let known := if header.increment = 0 then 0 else parent.toNat + header.increment
  let (empty, widest, cursor) ← emptyLines known 0 cursor.mark [] cursor.rest
  let indent := if known = 0 then max widest (max (parent + 1).toNat 1) else known
  let (text, gap, cursor) ←
    blockLines folds indent [] ⟨[], empty, false⟩ (cursor.rest.length + 1) cursor
  let text := if header.chomping = .strip then text else gap.ending ++ text
  let text := if header.chomping = .keep then gap.empty ++ text else text
  some ⟨text.reverse, cursor⟩

end Yaml
end SchemaFile
end RecordExtraction
