import RecordExtraction.Record.Basic

/-!
# Records as JSON

A record is written as one object whose members stand in the order of the fields.  Numbers that JSON
can not express become null.
-/

namespace RecordExtraction

/-- Floating-point numbers in JSON.  `low` and `high` bound the exponents of the first digit for
which no power of ten is written. -/
def jsonNumberLayout (low high : Int) : NumberLayout where
  positional := fun order => low ≤ order && order < high
  keepsPoint := true
  plus := "+"
  tie := .toEven
  nan := "null"
  infinity := "null"
  negativeInfinity := "null"

/-- The layout of floating-point numbers of a precision. -/
def FloatPrecision.jsonLayout : FloatPrecision → NumberLayout
  | single => jsonNumberLayout (-6) 13
  | double => jsonNumberLayout (-5) 16

namespace Json

/-- The written form of one character of a JSON string. -/
def escape (c : Char) : List Char :=
  if c == '"' then ['\\', '"']
  else if c == '\\' then ['\\', '\\']
  else if c == '\n' then ['\\', 'n']
  else if c == '\r' then ['\\', 'r']
  else if c == '\t' then ['\\', 't']
  else if c.toNat == 0x8 then ['\\', 'b']
  else if c.toNat == 0xc then ['\\', 'f']
  else if c.toNat < 0x20 then
    ['\\', 'u', '0', '0', Nat.digitChar (c.toNat / 16), Nat.digitChar (c.toNat % 16)]
  else [c]

/-- A text as a JSON string. -/
def string (text : String) : String :=
  String.ofList ('"' :: text.toList.flatMap escape ++ ['"'])

end Json

/-- A value as JSON. -/
def FieldValue.toJson : FieldValue → String
  | null => "null"
  | text value => Json.string value
  | boolean value => booleanText value
  | integer _ value _ => toString value
  | float precision value => precision.jsonLayout.render value

/-- A record as a JSON object. -/
def Record.toJson (record : Record) : String :=
  let members := record.fields.map fun (name, value) => Json.string name ++ ":" ++ value.toJson
  "\x7b" ++ String.intercalate "," members ++ "\x7d"

end RecordExtraction
