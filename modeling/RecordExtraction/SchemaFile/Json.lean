import RecordExtraction.SchemaFile.JsonNumber
import RecordExtraction.SchemaFile.JsonString
import RecordExtraction.SchemaFile.Node

/-!
# JSON files

The tree of a JSON text.  Reading stops where the text breaks; the tree then ends in a malformed
node, and all open collections are closed around it.
-/

namespace RecordExtraction
namespace SchemaFile
namespace Json

/-- White space between the parts of a JSON text. -/
def isGap (c : Char) : Bool := c == ' ' || c == '\n' || c == '\t' || c == '\r'

def skipGap (text : List Char) : List Char := text.dropWhile isGap

/-- A node and the text after it; none where the text broke. -/
abbrev Read := Node × Option (List Char)

/-- The end of reading. -/
def Read.broken : Read := (.malformed, none)

def nullScalar : Scalar := ⟨none, none, true, false, .null⟩

def booleanScalar (value : Bool) : Scalar := ⟨none, some value, false, false, .boolean value⟩

def textScalar (value : String) : Scalar := ⟨some value, none, false, false, .text value⟩

def numberScalar (found : Found) : Scalar := ⟨none, none, false, false, found⟩

/-- A scalar that is written with a word. -/
def readWord (word : String) (scalar : Scalar) (text : List Char) : Read :=
  match afterStart? word.toList text with
  | some rest => (.scalar scalar, some rest)
  | none => .broken

/-- A string, after its opening quote. -/
def readString (text : List Char) : Read :=
  match stringParts? text with
  | none => .broken
  | some (parts, rest) =>
      match textOfParts? parts with
      | some chars => (.scalar (textScalar (String.ofList chars)), some rest)
      | none => (.unreadable, some rest)

def readNumber (text : List Char) : Read :=
  match number? text with
  | none => .broken
  | some (digits, rest) =>
      match digits.value? with
      | some found => (.scalar (numberScalar found), some rest)
      | none => (.unreadable, some rest)

mutual

/-- The value at the front of a text. -/
def readValue : Nat → List Char → Read
  | 0, _ => .broken
  | fuel + 1, text =>
      match skipGap text with
      | '[' :: rest =>
          match skipGap rest with
          | ']' :: rest => (.sequence [], some rest)
          | rest =>
              let (items, rest) := readItems fuel rest
              (.sequence items, rest)
      | '\x7b' :: rest =>
          match skipGap rest with
          | '\x7d' :: rest => (.mapping [], some rest)
          | rest =>
              let (entries, rest) := readEntries fuel rest
              (.mapping entries, rest)
      | '"' :: rest => readString rest
      | c :: rest =>
          if c == 'n' then readWord "null" nullScalar (c :: rest)
          else if c == 't' then readWord "true" (booleanScalar true) (c :: rest)
          else if c == 'f' then readWord "false" (booleanScalar false) (c :: rest)
          else readNumber (c :: rest)
      | [] => .broken

/-- The items of a sequence up to its closing bracket. -/
def readItems : Nat → List Char → List Node × Option (List Char)
  | 0, _ => ([.malformed], none)
  | fuel + 1, text =>
      match readValue fuel text with
      | (node, none) => ([node], none)
      | (node, some rest) =>
          match skipGap rest with
          | ',' :: rest =>
              let (items, rest) := readItems fuel rest
              (node :: items, rest)
          | ']' :: rest => ([node], some rest)
          | _ => ([node, .malformed], none)

/-- The entries of a mapping up to its closing brace. -/
def readEntries : Nat → List Char → List (Node × Node) × Option (List Char)
  | 0, _ => ([(.malformed, .malformed)], none)
  | fuel + 1, text =>
      match readKey text with
      | (key, none) => ([(key, .malformed)], none)
      | (key, some rest) =>
          match skipGap rest with
          | ':' :: rest =>
              match readValue fuel rest with
              | (value, none) => ([(key, value)], none)
              | (value, some rest) =>
                  match skipGap rest with
                  | ',' :: rest =>
                      let (entries, rest) := readEntries fuel rest
                      ((key, value) :: entries, rest)
                  | '\x7d' :: rest => ([(key, value)], some rest)
                  | _ => ([(key, value), (.malformed, .malformed)], none)
          | _ => ([(key, .malformed)], none)
where
  /-- The key of an entry: a string. -/
  readKey (text : List Char) : Read :=
    match skipGap text with
    | '"' :: rest => readString rest
    | _ => .broken

end

/-- The data of a JSON text.  Every level of nesting and every member takes a character at least, so
that the length of the text bounds the depth of reading. -/
def read (text : String) : Data :=
  let chars := text.toList
  let (root, rest) := readValue (2 * chars.length + 1) chars
  ⟨root, rest.any fun rest => (skipGap rest).isEmpty, true⟩

end Json
end SchemaFile
end RecordExtraction
