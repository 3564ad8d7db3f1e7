import RecordExtraction.Number.Numeral
import RecordExtraction.SchemaFile.Node

/-!
# Numbers in JSON files

An integer of 64 bits is kept exactly.  Any other number is approximated: the leading digits that
fit into 64 bits are taken as one number, which is multiplied or divided by a power of ten, each
operation with a rounding of its own.  Numbers beyond the greatest finite one can not be read.
-/

namespace RecordExtraction
namespace SchemaFile
namespace Json

/-- The least natural number that 64 bits can not hold. -/
def wordBound : Nat := 0x10000000000000000

/-- The greatest power of ten that a number of double precision can hold. -/
def greatestPower : Nat := 308

/-- The number nearest to a power of ten. -/
def powerOfTen (exponent : Nat) : Double := Decimal.toNumber false ⟨1, exponent⟩

/-- Appends digits to a number while 64 bits hold it.  The second part is the digits that are left
over. -/
def leadingDigits (value : Nat) : List Char → Nat × List Char
  | [] => (value, [])
  | digit :: rest =>
      let next := value * 10 + (digit.toNat - '0'.toNat)
      if next < wordBound then leadingDigits next rest else (value, digit :: rest)

/-- Divides by ten to the given power, in steps of at most the greatest power.  After four steps
nothing is left of 64 bits. -/
def divideByPower (value : Double) (exponent : Nat) : Nat → Double
  | 0 => value
  | steps + 1 =>
      if exponent ≤ greatestPower then value.div (powerOfTen exponent)
      else divideByPower (value.div (powerOfTen greatestPower)) (exponent - greatestPower) steps

/-- The approximation of `significand * 10 ^ exponent`, if it is finite. -/
def scaled? (significand : Nat) (exponent : Int) : Option Double :=
  let value : Double := .ofNat significand
  if significand = 0 then some value
  else if exponent < 0 then some (divideByPower value exponent.natAbs 4)
  else if exponent.natAbs ≤ greatestPower then
    let product := value.mul (powerOfTen exponent.natAbs)
    if product.isFinite then some product else none
  else none

/-- The parts of a number. -/
structure Digits where
  negative : Bool
  whole : List Char
  fraction : List Char
  exponent : Option Int

/-- The value of a number, if it can be read. -/
def Digits.value? (digits : Digits) : Option Found :=
  let (significand, left) := leadingDigits 0 digits.whole
  if digits.fraction.isEmpty && digits.exponent.isNone && left.isEmpty then
    if !digits.negative then some (.integer significand)
    else if significand = 0 ∨ wordBound / 2 < significand then
      some (.float (Number.neg (.ofNat significand)))
    else some (.integer (-(significand : Int)))
  else
    let (significand, dropped) := leadingDigits significand digits.fraction
    let taken := digits.fraction.length - dropped.length
    let exponent := (left.length : Int) - taken + digits.exponent.getD 0
    (scaled? significand exponent).map fun value =>
      .float (if digits.negative then value.neg else value)

/-- Splits digits from the front of a text; there has to be one at least. -/
def digits? (text : List Char) : Option (List Char × List Char) :=
  let digits := text.takeWhile Char.isDigit
  if digits.isEmpty then none else some (digits, text.dropWhile Char.isDigit)

/-- Splits the whole part of a number from the front of a text.  A zero stands alone. -/
def whole? (text : List Char) : Option (List Char × List Char) :=
  match digits? text with
  | some (digits, rest) =>
      if digits.head? = some '0' ∧ digits.length ≠ 1 then none else some (digits, rest)
  | none => none

/-- Splits a point with digits from the front of a text, if there is one. -/
def fraction? : List Char → Option (List Char × List Char)
  | '.' :: rest => digits? rest
  | rest => some ([], rest)

/-- Splits an exponent from the front of a text, if there is one. -/
def exponent? : List Char → Option (Option Int × List Char)
  | letter :: rest =>
      if letter == 'e' || letter == 'E' then
        let (negative, rest) := splitSign rest
        (digits? rest).map fun (digits, rest) =>
          let magnitude : Int := digitsValue digits
          (some (if negative then -magnitude else magnitude), rest)
      else some (none, letter :: rest)
  | [] => some (none, [])

/-- Splits a number from the front of a text. -/
def number? (text : List Char) : Option (Digits × List Char) := do
  let (negative, text) :=
    match text with
    | '-' :: rest => (true, rest)
    | rest => (false, rest)
  let (whole, text) ← whole? text
  let (fraction, text) ← fraction? text
  let (exponent, text) ← exponent? text
  some (⟨negative, whole, fraction, exponent⟩, text)

end Json
end SchemaFile
end RecordExtraction
