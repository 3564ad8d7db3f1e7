import RecordExtraction.Text.Search

/-!
# Strings in JSON files

A string is a sequence of characters and escapes.  An escape with four digits is one half of a pair
or a character of its own; a string with a half that has no partner is well-formed but has no value.
-/

namespace RecordExtraction
namespace SchemaFile
namespace Json

/-- One element of a string: a character, or a number of 16 bits. -/
inductive StringPart where
  | char (c : Char)
  | unit (code : Nat)
deriving DecidableEq, Repr

/-- The value of a hexadecimal digit. -/
def hexValue? (c : Char) : Option Nat :=
  if c.isDigit then some (c.toNat - '0'.toNat)
  else if 'a' ≤ c ∧ c ≤ 'f' then some (c.toNat - 'a'.toNat + 10)
  else if 'A' ≤ c ∧ c ≤ 'F' then some (c.toNat - 'A'.toNat + 10)
  else none

/-- The character that an escape of one letter stands for. -/
def escaped? (c : Char) : Option Char :=
  if c == '"' || c == '\\' || c == '/' then some c
  else if c == 'b' then some (Char.ofNat 0x8)
  else if c == 'f' then some (Char.ofNat 0xc)
  else if c == 'n' then some '\n'
  else if c == 'r' then some '\r'
  else if c == 't' then some '\t'
  else none

/-- The number that four hexadecimal digits denote. -/
def unit? (a b c d : Char) : Option Nat := do
  let a ← hexValue? a
  let b ← hexValue? b
  let c ← hexValue? c
  let d ← hexValue? d
  some (((a * 16 + b) * 16 + c) * 16 + d)

/-- Splits the elements of a string up to its closing quote from the front of a text. -/
def stringParts? : List Char → Option (List StringPart × List Char)
  | '"' :: rest => some ([], rest)
  | '\\' :: 'u' :: a :: b :: c :: d :: rest =>
      match unit? a b c d with
      | some code => (stringParts? rest).map fun (parts, rest) => (.unit code :: parts, rest)
      | none => none
  | '\\' :: c :: rest =>
      match escaped? c with
      | some c => (stringParts? rest).map fun (parts, rest) => (.char c :: parts, rest)
      | none => none
  | c :: rest =>
      if c.toNat < 0x20 then none
      else (stringParts? rest).map fun (parts, rest) => (.char c :: parts, rest)
  | [] => none

/-- The first half of a pair. -/
def isFirstHalf (code : Nat) : Bool := 0xd800 ≤ code && code < 0xdc00

/-- The second half of a pair. -/
def isSecondHalf (code : Nat) : Bool := 0xdc00 ≤ code && code < 0xe000

/-- The text that the elements of a string make up, if all halves have partners. -/
def textOfParts? : List StringPart → Option (List Char)
  | [] => some []
  | .char c :: rest => (textOfParts? rest).map (c :: ·)
  | .unit first :: .unit second :: rest =>
      if isFirstHalf first then
        if isSecondHalf second then
          (textOfParts? rest).map
            (Char.ofNat (0x10000 + (first - 0xd800) * 0x400 + (second - 0xdc00)) :: ·)
        else none
      else if isSecondHalf first then none
      else (textOfParts? (.unit second :: rest)).map (Char.ofNat first :: ·)
  | .unit code :: rest =>
      if isFirstHalf code || isSecondHalf code then none
      else (textOfParts? rest).map (Char.ofNat code :: ·)

end Json
end SchemaFile
end RecordExtraction
