import RecordExtraction.SchemaFile.Yaml.Folding
import RecordExtraction.Text.Utf8

/-!
# Tags and directives

A tag is written with a handle and a suffix or in full between angle brackets.  Directives stand
alone on lines in front of a document.
-/

namespace RecordExtraction
namespace SchemaFile
namespace Yaml

/-- The characters of tags that are no letters or digits, in flow collections and elsewhere. -/
def isTagChar (c : Char) : Bool :=
  isWordChar c || ";/?:@&=+$.!~*'()".contains c

/-- The characters of tags that are written in full. -/
def isFullTagChar (c : Char) : Bool := isTagChar c || ",[]".contains c

/-- The bytes that percent signs with two hexadecimal digits denote at the front of a text, and how
many characters they take. -/
def escapedBytes : List Char → List UInt8 × Nat
  | '%' :: a :: b :: rest =>
      match hexDigit? a, hexDigit? b with
      | some a, some b =>
          let (bytes, count) := escapedBytes rest
          (UInt8.ofNat (a * 16 + b) :: bytes, count + 3)
      | _, _ => ([], 0)
  | _ => ([], 0)

/-- Reads the characters of a tag.  `fuel` bounds the number of pieces. -/
def tagChars (admits : Char → Bool) : Nat → Cursor → Option (List Char × Cursor)
  | 0, cursor => some ([], cursor)
  | fuel + 1, cursor =>
      match cursor.rest with
      | [] => some ([], cursor)
      | c :: _ =>
          if c == '%' then
            let (bytes, count) := escapedBytes cursor.rest
            if bytes.isEmpty then none
            else
              match Utf8.decode bytes with
              | .ok chars =>
                  (tagChars admits fuel (cursor.skip count)).map fun (more, cursor) =>
                    (chars ++ more, cursor)
              | .error _ => none
          else if admits c then
            (tagChars admits fuel (cursor.skip 1)).map fun (more, cursor) => (c :: more, cursor)
          else some ([], cursor)

/-- Reads the characters of a tag; there has to be one at least. -/
def tagText (admits : Char → Bool) (cursor : Cursor) : Option (List Char × Cursor) :=
  match tagChars admits (cursor.rest.length + 1) cursor with
  | some ([], _) => none
  | result => result

/-- Reads an exclamation mark and a word with another one after it, if there is one. -/
def tagHandle (cursor : Cursor) : Option (List Char × Cursor) :=
  if cursor.rest.head? = some '!' then
    let (word, cursor) := (cursor.skip 1).span isWordChar
    if cursor.rest.head? = some '!' then some ('!' :: word ++ ['!'], cursor.skip 1)
    else some ('!' :: word, cursor)
  else none

/-- Reads a tag: its handle, its suffix and the cursor after it. -/
def tag (inFlow : Bool) (cursor : Cursor) : Option (String × String × Cursor) := do
  let (handle, suffix, cursor) ←
    (if (cursor.rest.drop 1).head? = some '<' then do
      let (suffix, cursor) ← tagText isFullTagChar (cursor.skip 2)
      if cursor.rest.head? = some '>' then some ("", suffix, cursor.skip 1) else none
    else do
      let (handle, after) ← tagHandle cursor
      if 1 < handle.length ∧ handle.getLast? = some '!' then do
        let (suffix, cursor) ← tagText isTagChar after
        some (String.ofList handle, suffix, cursor)
      else do
        let (more, cursor) ← tagChars isTagChar (after.rest.length + 1) after
        let suffix := handle.drop 1 ++ more
        if suffix.isEmpty then some ("", ['!'], cursor) else some ("!", suffix, cursor))
  if cursor.atGap ∨ (inFlow ∧ cursor.rest.head? = some ',') then
    some (handle, String.ofList suffix, cursor)
  else none

/-- The greatest number of digits in a version. -/
def versionDigits : Nat := 9

/-- Reads a part of a version. -/
def versionNumber (cursor : Cursor) : Option (Nat × Cursor) :=
  let (digits, cursor) := cursor.span Char.isDigit
  if digits.isEmpty ∨ versionDigits < digits.length then none
  else
    some (digits.foldl (fun value digit => value * 10 + (digit.toNat - '0'.toNat)) 0, cursor)

/-- What a directive says. -/
inductive Directive where
  | version (major minor : Nat)
  | tag (handle target : String)

/-- Reads a directive with the rest of its line. -/
def directive (cursor : Cursor) : Option (Directive × Cursor) := do
  let (name, cursor) := (cursor.skip 1).span isWordChar
  let content := cursor.skipWhile isBlankChar
  let (value, cursor) ←
    (if !cursor.atGap then none
    else if name = "YAML".toList then do
      let (major, cursor) ← versionNumber content
      if cursor.rest.head? = some '.' then do
        let (minor, cursor) ← versionNumber (cursor.skip 1)
        some (Directive.version major minor, cursor)
      else none
    else if name = "TAG".toList then do
      let (handle, cursor) ← tagHandle content
      if cursor.rest.head?.any isBlankChar then do
        let (target, cursor) ← tagText isFullTagChar (cursor.skipWhile isBlankChar)
        if (handle = ['!'] ∨ handle.getLast? = some '!') ∧ cursor.atGap then
          some (.tag (String.ofList handle) (String.ofList target), cursor)
        else none
      else none
    else none)
  let cursor := cursor.skipWhile isBlankChar
  let cursor := if cursor.rest.head? = some '#' then cursor.skipLine else cursor
  if cursor.atLineEnd then some (value, cursor.takeBreak?.elim cursor (·.2)) else none

end Yaml
end SchemaFile
end RecordExtraction
