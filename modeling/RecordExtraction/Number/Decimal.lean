import RecordExtraction.Number.Basic

/-!
# Decimal numerals

A decimal is a natural number times a power of ten.  `Decimal.toNumber` takes it to the nearest
number of a format.  `Decimal.shortest` goes the other way: of all decimals that are nearer to the
given magnitude than to any other number of the format, it takes those with the fewest digits, and
of these the nearest one.  All comparisons are made in natural numbers.
-/

namespace RecordExtraction

/-- The number `digits * 10 ^ exponent`. -/
structure Decimal where
  digits : Nat
  exponent : Int
deriving DecidableEq

/-- The number that a list of decimal digits denotes. -/
def digitsValue (digits : List Char) : Nat :=
  digits.foldl (fun value digit => value * 10 + (digit.toNat - '0'.toNat)) 0

namespace Decimal

/-- The number of decimal digits of a natural number; zero has one. -/
def length (n : Nat) : Nat := (Nat.toDigits 10 n).length

/-- Decimals of at least this order of magnitude exceed every format, and those of the opposite
order lie below every unit. -/
def extremeOrder : Nat := 400

/-- The nearest number.  Ties go to the even neighbour. -/
def toNumber {format : FloatFormat} (negative : Bool) (decimal : Decimal) : Number format :=
  let order : Int := length decimal.digits + decimal.exponent
  if decimal.digits = 0 then .zero negative
  else if order > extremeOrder then .infinite negative
  else if order < -(extremeOrder : Int) then .zero negative
  else
    .ofRatio negative (decimal.digits * tenPow decimal.exponent.toNat * format.one)
      (tenPow (-decimal.exponent).toNat)

/-- Moves the zeros at the end of the digits into the exponent. -/
def trim (decimal : Decimal) : Decimal :=
  if h : decimal.digits ≠ 0 ∧ decimal.digits % 10 = 0 then
    trim ⟨decimal.digits / 10, decimal.exponent + 1⟩
  else decimal
termination_by decimal.digits
decreasing_by omega

/-- What to do with two decimals that are equally near. -/
inductive Tie where
  | up
  | toEven
deriving DecidableEq

/-- The decimals that read back as a magnitude: from `low` to `high` quarters of a unit, the ends
included or not. -/
structure Interval where
  low : Nat
  high : Nat
  closed : Bool

/-- The interval of decimals whose nearest number is the given one.  Below a power of two the
numbers are twice as dense as above it. -/
def Interval.around (format : FloatFormat) (units : Nat) : Interval :=
  let spacing := twoPow (format.spareBits units)
  let below :=
    if 1 < spacing ∧ units = twoPow units.log2 then spacing else 2 * spacing
  ⟨4 * units - below, 4 * units + 2 * spacing, units / spacing % 2 == 0⟩

/-- The decimal lies in the interval. -/
def Interval.covers (format : FloatFormat) (interval : Interval) (decimal : Decimal) : Bool :=
  let value := 4 * decimal.digits * tenPow decimal.exponent.toNat * format.one
  let scale := tenPow (-decimal.exponent).toNat
  if interval.closed then
    interval.low * scale ≤ value && value ≤ interval.high * scale
  else
    interval.low * scale < value && value < interval.high * scale

/-- The exponent of the first digit of a magnitude other than zero. -/
def leadingExponent (format : FloatFormat) (units : Nat) : Int :=
  (length (units * tenPow extremeOrder / format.one) : Int) - 1 - extremeOrder

/-- The nearest decimal with `count` digits among those that read back, if there is one. -/
def withDigits? (format : FloatFormat) (tie : Tie) (units count : Nat) : Option Decimal :=
  let interval := Interval.around format units
  let exponent := leadingExponent format units - count + 1
  let num := units * tenPow (-exponent).toNat
  let den := format.one * tenPow exponent.toNat
  let below : Decimal := ⟨num / den, exponent⟩
  let above : Decimal := ⟨num / den + 1, exponent⟩
  match interval.covers format below, interval.covers format above with
  | true, true =>
      let twice := 2 * (num % den)
      if twice < den then some below
      else if den < twice then some above
      else match tie with
        | .up => some above
        | .toEven => if below.digits % 2 = 0 then some below else some above
  | true, false => some below
  | false, true => some above
  | false, false => none

/-- The shortest decimal that reads back as the magnitude, without zeros at the end.  Seventeen
digits tell all numbers of double precision apart. -/
def shortest (format : FloatFormat) (tie : Tie) (units : Nat) : Decimal :=
  if units = 0 then ⟨0, 0⟩
  else
    match (List.range 17).findSome? fun count => withDigits? format tie units (count + 1) with
    | some decimal => decimal.trim
    | none => ⟨units / format.one, 0⟩

/-- The exponent of the first digit. -/
def order (decimal : Decimal) : Int :=
  (length decimal.digits : Int) - 1 + decimal.exponent

end Decimal

/-- How a number is written in decimal digits. -/
structure NumberLayout where
  /-- The exponents of the first digit for which no power of ten is written. -/
  positional : Int → Bool
  /-- A whole number ends in a point and a zero. -/
  keepsPoint : Bool
  /-- The sign of an exponent that is not negative. -/
  plus : String
  tie : Decimal.Tie
  nan : String
  infinity : String
  negativeInfinity : String

namespace NumberLayout

/-- The digits with a point after the first `whole` of them; zeros fill the places that the digits
do not reach. -/
def positionalDigits (layout : NumberLayout) (decimal : Decimal) : String :=
  let digits := Nat.toDigits 10 decimal.digits
  let whole : Int := digits.length + decimal.exponent
  if decimal.exponent ≥ 0 then
    String.ofList (digits ++ List.replicate decimal.exponent.toNat '0') ++
      (if layout.keepsPoint then ".0" else "")
  else if whole > 0 then
    String.ofList (digits.take whole.toNat) ++ "." ++ String.ofList (digits.drop whole.toNat)
  else
    "0." ++ String.ofList (List.replicate (-whole).toNat '0' ++ digits)

/-- One digit, a point, the other digits, and the power of ten. -/
def exponentDigits (layout : NumberLayout) (decimal : Decimal) : String :=
  let digits := Nat.toDigits 10 decimal.digits
  let fraction := digits.drop 1
  let order := decimal.order
  String.ofList (digits.take 1) ++
    (if fraction.isEmpty then "" else "." ++ String.ofList fraction) ++ "e" ++
    (if order < 0 then "-" else layout.plus) ++ toString order.natAbs

/-- The text of a number. -/
def render {format : FloatFormat} (layout : NumberLayout) : Number format → String
  | .nan => layout.nan
  | .infinite negative => if negative then layout.negativeInfinity else layout.infinity
  | .finite negative units _ =>
      let decimal := Decimal.shortest format layout.tie units
      (if negative then "-" else "") ++
        (if units = 0 ∨ layout.positional decimal.order then layout.positionalDigits decimal
         else layout.exponentDigits decimal)

/-- Numbers as a reader expects them: no power of ten and no point in a whole number. -/
def plain : NumberLayout where
  positional := fun _ => true
  keepsPoint := false
  plus := ""
  tie := .up
  nan := "NaN"
  infinity := "inf"
  negativeInfinity := "-inf"

/-- Numbers in a technical listing: a point in every whole number, and a power of ten below
`10 ^ (-4)` and from `10 ^ 16`. -/
def technical : NumberLayout where
  positional := fun order => -4 ≤ order && order < 16
  keepsPoint := true
  plus := ""
  tie := .up
  nan := "NaN"
  infinity := "inf"
  negativeInfinity := "-inf"

end NumberLayout
end RecordExtraction
