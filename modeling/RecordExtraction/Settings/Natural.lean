import RecordExtraction.Number.Decimal

/-!
# Natural numbers in settings

A natural number is written with digits after an optional plus and has to stay below a bound.
-/

namespace RecordExtraction

/-- The natural number below a bound that a text denotes. -/
def naturalBelow? (bound : Nat) (text : String) : Option Nat :=
  let digits :=
    match text.toList with
    | '+' :: digits => digits
    | digits => digits
  if digits.isEmpty || digits.any (!·.isDigit) then none
  else
    let value := digitsValue digits
    if value < bound then some value else none

/-- The truth value that a text names. -/
def truthValue? (text : String) : Option Bool :=
  if text = "true" then some true else if text = "false" then some false else none

end RecordExtraction
