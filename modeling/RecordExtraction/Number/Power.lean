/-!
# Powers of two and of ten

Formats of numbers are described by powers of two, and numerals by powers of ten.
-/

namespace RecordExtraction

/-- Two to a power. -/
abbrev twoPow (exponent : Nat) : Nat := Nat.pow 2 exponent

/-- Ten to a power. -/
abbrev tenPow (exponent : Nat) : Nat := Nat.pow 10 exponent

end RecordExtraction
