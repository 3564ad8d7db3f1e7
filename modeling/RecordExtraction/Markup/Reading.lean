import RecordExtraction.Markup.Name
import RecordExtraction.Text.Search

/-!
# Reading a document from left to right

A reader takes a part off the front of the input and returns it with the input that is left, which
is never longer.  The readers of this module know spaces, fixed texts, names and quoted values.
-/

namespace RecordExtraction
namespace Markup

/-- Why a text is not accepted as a document.  The first problem in reading order counts. -/
inductive Fault where
  /-- A document type declaration stands at its place but is not allowed. -/
  | typeDeclaration
  /-- The document has more nodes than allowed. -/
  | tooManyNodes
  | malformed
deriving DecidableEq, Repr

/-- A value read from the front of `input`, and what is left of the input. -/
structure Reading (α : Type) (input : List Char) where
  value : α
  rest : List Char
  le : rest.length ≤ input.length

theorem length_le_of_two {first second third : List Char} (h : second.length ≤ first.length)
    (h' : third.length ≤ second.length) : third.length ≤ first.length :=
  Nat.le_trans h' h

theorem length_le_of_three {first second third fourth : List Char}
    (h : second.length ≤ first.length) (h' : third.length ≤ second.length)
    (h'' : fourth.length ≤ third.length) : fourth.length ≤ first.length :=
  Nat.le_trans h'' (length_le_of_two h h')

namespace Reading

theorem length_dropWhile_le {α : Type} (p : α → Bool) (xs : List α) :
    (xs.dropWhile p).length ≤ xs.length := by
  induction xs with
  | nil => simp
  | cons x xs ih =>
    simp only [List.dropWhile_cons]
    split
    · exact Nat.le_succ_of_le ih
    · exact Nat.le_refl _

/-- A reading from a part of the input is a reading from the whole. -/
def weaken {α : Type} {input whole : List Char} (h : input.length ≤ whole.length)
    (reading : Reading α input) : Reading α whole :=
  ⟨reading.value, reading.rest, Nat.le_trans reading.le h⟩

/-- Skips any spaces. -/
def spaces (input : List Char) : Reading Unit input :=
  ⟨(), input.dropWhile isSpace, length_dropWhile_le isSpace input⟩

/-- Skips one space or more. -/
def someSpaces (input : List Char) : Except Fault (Reading Unit input) :=
  match input with
  | c :: _ => if isSpace c then .ok (spaces _) else .error .malformed
  | [] => .error .malformed

theorem length_afterStart?_le {start input rest : List Char}
    (h : afterStart? start input = some rest) : rest.length ≤ input.length := by
  rw [afterStart?_eq_some_iff] at h
  simp [h]

/-- Skips a fixed text. -/
def literal (text : String) (input : List Char) : Except Fault (Reading Unit input) :=
  match h : afterStart? text.toList input with
  | some rest => .ok ⟨(), rest, length_afterStart?_le h⟩
  | none => .error .malformed

/-- The input begins with a fixed text. -/
def startsWith (text : String) (input : List Char) : Bool :=
  (afterStart? text.toList input).isSome

/-- Takes characters until the input that is left satisfies `stops` or is empty. -/
def takeUntil (stops : List Char → Bool) (input : List Char) : Reading (List Char) input :=
  match input with
  | [] => ⟨[], [], Nat.le_refl _⟩
  | c :: rest =>
      if stops (c :: rest) then ⟨[], c :: rest, Nat.le_refl _⟩
      else
        let ⟨taken, left, le⟩ := takeUntil stops rest
        ⟨c :: taken, left, Nat.le_succ_of_le le⟩

/-- Takes characters like `takeUntil`; all of them, and the one that follows, have to be characters
of a document. -/
def text (stops : List Char → Bool) (input : List Char) :
    Except Fault (Reading (List Char) input) :=
  let reading := takeUntil stops input
  if reading.value.all isDocumentChar && (reading.rest.head?.all isDocumentChar) then .ok reading
  else .error .malformed

/-- Takes a name, in which colons have no meaning. -/
def name (input : List Char) : Except Fault (Reading (List Char) input) :=
  match input with
  | [] => .error .malformed
  | c :: rest =>
      if isNameStart c then .ok (takeUntil (fun left => !left.head?.all isNameChar) (c :: rest))
      else .error .malformed

/-- Takes a name with at most one colon.  The part after the colon must not be empty, and both parts
begin as names do. -/
def qualifiedName (input : List Char) : Except Fault (Reading QualifiedName input) :=
  let begins : List Char → Bool := fun part => part.head?.all isNameStart
  let ⟨whole, rest, le⟩ := takeUntil (fun left => !left.head?.all isNameChar) input
  let first := whole.takeWhile (· != ':')
  let parts? : Option (List Char × List Char) :=
    match whole.dropWhile (· != ':') with
    | [] => some ([], first)
    | _ :: second => if second.contains ':' then none else some (first, second)
  match parts? with
  | some (qualifier, localName) =>
      if begins qualifier && !localName.isEmpty && begins localName then
        .ok ⟨⟨String.ofList qualifier, String.ofList localName⟩, rest, le⟩
      else .error .malformed
  | none => .error .malformed

/-- Skips an equals sign with spaces around it. -/
def equals (input : List Char) : Except Fault (Reading Unit input) := do
  let ⟨_, rest, le⟩ := spaces input
  let ⟨_, rest, le'⟩ ← literal "=" rest
  let ⟨_, rest, le''⟩ := spaces rest
  .ok ⟨(), rest, length_le_of_three le le' le''⟩

/-- Takes a quotation mark of either kind. -/
def quote (input : List Char) : Except Fault (Reading Char input) :=
  match input with
  | c :: rest =>
      if c == '"' || c == '\'' then .ok ⟨c, rest, Nat.le_succ _⟩ else .error .malformed
  | [] => .error .malformed

/-- Takes a value in quotes as it is written. -/
def quotedValue (input : List Char) : Except Fault (Reading (List Char) input) := do
  let ⟨mark, rest, le⟩ ← quote input
  let ⟨value, rest, le'⟩ := takeUntil (fun left => left.head? == some mark) rest
  let ⟨_, rest, le''⟩ ← literal (String.singleton mark) rest
  .ok ⟨value, rest, length_le_of_three le le' le''⟩

/-- Takes the value of an attribute as it is written: characters of a document other than the left
angle bracket. -/
def attributeValue (input : List Char) : Except Fault (Reading (List Char) input) := do
  let ⟨mark, rest, le⟩ ← quote input
  let ⟨value, rest, le'⟩ ← text (fun left => left.head? == some mark || left.head? == some '<') rest
  let ⟨_, rest, le''⟩ ← literal (String.singleton mark) rest
  .ok ⟨value, rest, length_le_of_three le le' le''⟩

end Reading

/-- What an ampersand begins. -/
inductive Reference where
  | char (c : Char)
  | entity (name : String)

namespace Reference

/-- The character with a code point.  A code point that no character has stands for the replacement
character; a character that may not stand in a document is refused. -/
def ofCode? (code : Nat) : Option Char :=
  if code ≥ 0x100000000 then none
  else
    let c := if code.isValidChar then Char.ofNat code else Char.ofNat 0xfffd
    if isDocumentChar c then some c else none

/-- The entities that every document has. -/
def predefined (name : String) : Reference :=
  match name with
  | "quot" => .char '"'
  | "amp" => .char '&'
  | "apos" => .char '\''
  | "lt" => .char '<'
  | "gt" => .char '>'
  | _ => .entity name

/-- The value of a digit up to fifteen. -/
def digitValue (c : Char) : Nat :=
  if c.isDigit then c.toNat - '0'.toNat
  else if c.isUpper then c.toNat - 'A'.toNat + 10
  else c.toNat - 'a'.toNat + 10

def isHexDigit (c : Char) : Bool :=
  c.isDigit || ('a' ≤ c && c ≤ 'f') || ('A' ≤ c && c ≤ 'F')

/-- Takes a code point in the given base. -/
def code (base : Nat) (isDigit : Char → Bool) (input : List Char) :
    Except Fault (Reading Reference input) := do
  let ⟨digits, rest, le⟩ := Reading.takeUntil (fun left => !left.head?.all isDigit) input
  if digits.isEmpty then .error .malformed
  else
    match ofCode? (digits.foldl (fun value c => value * base + digitValue c) 0) with
    | some c => .ok ⟨.char c, rest, le⟩
    | none => .error .malformed

/-- Takes what stands between an ampersand and a semicolon. -/
def body (input : List Char) : Except Fault (Reading Reference input) :=
  match input with
  | '#' :: 'x' :: digits =>
      (code 16 isHexDigit digits).map (Reading.weaken (by simp only [List.length_cons]; omega))
  | '#' :: digits => (code 10 Char.isDigit digits).map (Reading.weaken (by simp))
  | other => (Reading.name other).map fun ⟨name, rest, le⟩ =>
      ⟨predefined (String.ofList name), rest, le⟩

/-- Takes what follows an ampersand, up to and with the semicolon. -/
def read (input : List Char) : Except Fault (Reading Reference input) := do
  let ⟨reference, rest, le⟩ ← body input
  let ⟨_, rest, le'⟩ ← Reading.literal ";" rest
  .ok ⟨reference, rest, length_le_of_two le le'⟩

end Reference
end Markup
end RecordExtraction
