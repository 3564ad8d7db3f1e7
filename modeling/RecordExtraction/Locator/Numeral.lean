import RecordExtraction.Number.Decimal
import RecordExtraction.Text.Blank

/-!
# Numbers as texts

How the language of locators reads a number from a text and writes a number as a text, and how it
rounds.  A text that is no numeral is read as not-a-number; exponents and a plus sign are not part
of a numeral.
-/

namespace RecordExtraction
namespace Locator

/-- The number that digits with at most one point denote. -/
def numeralValue (negative : Bool) (chars : List Char) : Double :=
  let whole := chars.takeWhile (· != '.')
  let fraction := (chars.dropWhile (· != '.')).drop 1
  Decimal.toNumber negative ⟨digitsValue (whole ++ fraction), -fraction.length⟩

/-- Digits with at most one point among them, and at least one digit. -/
def isNumeral (chars : List Char) : Bool :=
  chars.any Char.isDigit && chars.all (fun c => c.isDigit || c == '.') && chars.count '.' ≤ 1

/-- The number that a text denotes: a numeral after an optional minus, with any spaces around. -/
def parseNumber (text : String) : Double :=
  match trimWhile isSpace text.toList with
  | '-' :: chars => if isNumeral chars then numeralValue true chars else .nan
  | chars => if isNumeral chars then numeralValue false chars else .nan

/-- Numbers as texts in the language of locators: no powers of ten, and no point in a whole
number. -/
def numberLayout : NumberLayout :=
  { NumberLayout.plain with infinity := "Infinity", negativeInfinity := "-Infinity" }

/-- The text of a number.  Zero has no sign. -/
def formatNumber (n : Double) : String :=
  if n.isZero then "0" else numberLayout.render n

/-- One half. -/
def half : Double := Number.ofRatio false FloatFormat.binary64.one 2

/-- The number is at least minus one half and less than zero. -/
def isSmallNegative (n : Double) : Bool := half.neg.lessOrEqual n && n.less 0

/-- Rounding: the floor of the sum with one half, which is negative zero from minus one half up to
zero. -/
def roundHalfUp (n : Double) : Double :=
  if isSmallNegative n then .zero true
  else if n.isFinite then (n.add half).floor
  else n

end Locator
end RecordExtraction
