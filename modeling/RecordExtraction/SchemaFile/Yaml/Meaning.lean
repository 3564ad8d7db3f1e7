import RecordExtraction.Number.Numeral
import RecordExtraction.SchemaFile.Node
import RecordExtraction.SchemaFile.Yaml.Token
import RecordExtraction.Text.Search

/-!
# What scalars mean

A scalar that is not quoted may be taken for null, a truth value or a number by the way it looks.
Any scalar can be taken for a text.
-/

namespace RecordExtraction
namespace SchemaFile
namespace Yaml

/-- The words for null. -/
def isNullWord (text : String) : Bool := ["null", "Null", "NULL", "~"].contains text

/-- The truth value that a word stands for. -/
def booleanWord? (text : String) : Option Bool :=
  if ["true", "True", "TRUE"].contains text then some true
  else if ["false", "False", "FALSE"].contains text then some false
  else none

/-- The value of a digit in a base. -/
def digitOfBase? (base : Nat) (c : Char) : Option Nat :=
  let value? :=
    if c.isDigit then some (c.toNat - '0'.toNat)
    else if c.isLower then some (c.toNat - 'a'.toNat + 10)
    else if c.isUpper then some (c.toNat - 'A'.toNat + 10)
    else none
  value?.bind fun value => if value < base then some value else none

/-- The value of one digit or more in a base. -/
def naturalOfBase? (base : Nat) (digits : List Char) : Option Nat :=
  if digits.isEmpty then none
  else
    (digits.mapM (digitOfBase? base)).map fun values =>
      values.foldl (fun value digit => value * base + digit) 0

/-- Several digits that begin with a zero are a text. -/
def isPaddedNumber (text : List Char) : Bool :=
  let digits :=
    match text with
    | c :: rest => if c == '-' || c == '+' then rest else text
    | [] => []
  1 < digits.length && digits.head? == some '0' && digits.all Char.isDigit

/-- The value of digits after the mark of their base: `0x`, `0o` or `0b`. -/
def markedNatural? (digits : List Char) : Option Nat :=
  match digits with
  | '0' :: 'x' :: rest => naturalOfBase? 16 rest
  | '0' :: 'o' :: rest => naturalOfBase? 8 rest
  | '0' :: 'b' :: rest => naturalOfBase? 2 rest
  | _ => none

/-- The magnitude of an integer without its sign. -/
def magnitude? (digits : List Char) : Option Nat :=
  match markedNatural? digits with
  | some value => some value
  | none => if isPaddedNumber digits then none else naturalOfBase? 10 digits

/-- The integer that a text looks like. -/
def integer? (text : List Char) : Option Int :=
  match text with
  | '+' :: digits => (magnitude? digits).map fun n => (n : Int)
  | '-' :: digits => (magnitude? digits).map fun n => -(n : Int)
  | digits => (magnitude? digits).map fun n => (n : Int)

/-- An integer as it is reported.  An integer beyond 128 bits is no integer. -/
def reportedInteger? (value : Int) : Option Found :=
  if -0x8000000000000000 ≤ value ∧ value < 0x10000000000000000 then some (.integer value)
  else if 0 ≤ value ∧ value < 0x100000000000000000000000000000000 then
    some (.wideInteger value "u128")
  else if -0x80000000000000000000000000000000 ≤ value ∧ value < 0 then
    some (.wideInteger value "i128")
  else none

/-- The floating-point number that a text looks like. -/
def float? (text : String) : Option Double :=
  let unsigned? :=
    match text.toList with
    | '+' :: rest =>
        if rest.head?.any fun c => c == '+' || c == '-' then none else some rest
    | rest => some rest
  unsigned?.bind fun chars =>
    let rest := String.ofList chars
    if [".inf", ".Inf", ".INF"].contains rest then some (.infinite false)
    else if ["-.inf", "-.Inf", "-.INF"].contains text then some (.infinite true)
    else if [".nan", ".NaN", ".NAN"].contains text then some .nan
    else
      match Number.ofText? chars with
      | some number => if number.isFinite then some number else none
      | none => none

/-- What a scalar that is not quoted looks like. -/
def appearance (text : String) : Found :=
  if text.isEmpty || isNullWord text then .unit
  else
    match booleanWord? text with
    | some value => .boolean value
    | none =>
        match (integer? text.toList).bind reportedInteger? with
        | some found => found
        | none =>
            if isPaddedNumber text.toList then .text text
            else (float? text).elim (.text text) .float

/-- A tag that does not name one of the common types leaves a scalar what it looks like. -/
def isOwnTag (handle suffix : String) : Bool := handle == "!" || suffix == "!"

/-- What a scalar can be taken for. -/
def meaning (style : Style) (tag : Option (String × String)) (text : String) : Scalar :=
  let plain := style == .plain
  let looks := plain && tag.all fun (handle, suffix) => isOwnTag handle suffix
  let isNull :=
    plain &&
      (match tag with
        | none => text.isEmpty || isNullWord text
        | some (handle, suffix) => handle == "!!" && suffix == "null" && isNullWord text)
  { text := some text
    boolean := if plain then booleanWord? text else none
    isNull := isNull
    isEmpty := plain && text.isEmpty
    found := if looks then appearance text else .text text }

end Yaml
end SchemaFile
end RecordExtraction
