import RecordExtraction.Number.Decimal

/-!
# Numerals with a power of ten

A numeral has digits, at most one point among them, and may end in an exponent.  Its value is a
decimal.  Signs and the names of numbers that have no digits are recognised around it.
-/

namespace RecordExtraction

/-- The exponent after the digits of a numeral: nothing, or the letter `e` with an integer. -/
def exponentValue? : List Char → Option Int
  | [] => some 0
  | letter :: rest =>
      if letter == 'e' || letter == 'E' then
        match rest with
        | '-' :: digits => (magnitude? digits).map fun n => -(n : Int)
        | '+' :: digits => (magnitude? digits).map fun n => (n : Int)
        | digits => (magnitude? digits).map fun n => (n : Int)
      else none
where
  /-- The value of one digit or more. -/
  magnitude? (digits : List Char) : Option Nat :=
    if digits.isEmpty || digits.any (!·.isDigit) then none else some (digitsValue digits)

/-- The value of a numeral without a sign. -/
def Decimal.ofNumeral? (text : List Char) : Option Decimal :=
  let whole := text.takeWhile Char.isDigit
  let (fraction, rest) :=
    match text.dropWhile Char.isDigit with
    | '.' :: rest => (rest.takeWhile Char.isDigit, rest.dropWhile Char.isDigit)
    | rest => ([], rest)
  if whole.isEmpty && fraction.isEmpty then none
  else
    (exponentValue? rest).map fun exponent =>
      ⟨digitsValue (whole ++ fraction), exponent - fraction.length⟩

/-- Splits an optional sign from a text.  The first part says that the sign is a minus. -/
def splitSign : List Char → Bool × List Char
  | '-' :: rest => (true, rest)
  | '+' :: rest => (false, rest)
  | rest => (false, rest)

/-- The number that a text denotes: a numeral or the name of an infinity or of not-a-number, after
an optional sign.  Names are read in any case. -/
def Number.ofText? {format : FloatFormat} (text : List Char) : Option (Number format) :=
  let (negative, rest) := splitSign text
  let name := String.ofList (rest.map Char.toLower)
  if name == "inf" || name == "infinity" then some (.infinite negative)
  else if name == "nan" then some .nan
  else (Decimal.ofNumeral? rest).map (·.toNumber negative)

end RecordExtraction
