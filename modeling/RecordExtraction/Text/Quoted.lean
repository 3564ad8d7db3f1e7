import RecordExtraction.Text.Graphic

/-!
# Quoted texts

A quoted text stands between double quotes.  Inside, the quote and the backslash are preceded by a
backslash, four control characters have names of one letter, and every other character that a
reader could not see is written as its code point in braces.
-/

namespace RecordExtraction
namespace Quoted

/-- The written form of one character. -/
def escape (c : Char) : List Char :=
  if c == '"' then ['\\', '"']
  else if c == '\\' then ['\\', '\\']
  else if c == '\n' then ['\\', 'n']
  else if c == '\r' then ['\\', 'r']
  else if c == '\t' then ['\\', 't']
  else if c.toNat == 0 then ['\\', '0']
  else if isGraphic c then [c]
  else ['\\', 'u', '\x7b'] ++ Nat.toDigits 16 c.toNat ++ ['\x7d']

/-- The written form of a text with its quotes. -/
def encode (text : List Char) : List Char :=
  '"' :: text.flatMap escape ++ ['"']

end Quoted

/-- The text in quotes, on one line and with all its characters visible. -/
def quoted (text : String) : String :=
  String.ofList (Quoted.encode text.toList)

end RecordExtraction
