import RecordExtraction.Number.Format

/-!
# Floating-point numbers

A number of a format is not-a-number, an infinity, or a sign with a magnitude that the format can
hold.  Arithmetic is done exactly on whole numbers of units and rounded once at the end, so a sum
of units is a sum of integers and a comparison is a comparison of integers.
-/

namespace RecordExtraction

/-- A floating-point number.  Zero has a sign, too. -/
inductive Number (format : FloatFormat) where
  | nan
  | infinite (negative : Bool)
  | finite (negative : Bool) (units : Nat) (representable : format.Representable units)
deriving DecidableEq

/-- Numbers of double precision, the numbers that a locator computes with. -/
abbrev Double := Number .binary64

/-- Numbers of single precision. -/
abbrev Single := Number .binary32

namespace Number

variable {format : FloatFormat}

instance : Inhabited (Number format) := ⟨.nan⟩

/-- Zero with a sign. -/
def zero (negative : Bool) : Number format :=
  .finite negative 0 format.representable_zero

/-- The number nearest to `num / den` units, with the given sign. -/
def ofRatio (negative : Bool) (num den : Nat) : Number format :=
  if h : format.round num den < twoPow format.limitBits then
    .finite negative (format.round num den) (format.representable_round h)
  else .infinite negative

/-- The number nearest to an integer number of units.  Zero is positive. -/
def ofUnits (units : Int) : Number format :=
  ofRatio (units < 0) units.natAbs 1

/-- The number nearest to a natural number. -/
def ofNat (n : Nat) : Number format :=
  ofRatio false (n * format.one) 1

instance (n : Nat) : OfNat (Number format) n := ⟨ofNat n⟩

/-- A magnitude with its sign, as an integer. -/
def signed (negative : Bool) (units : Nat) : Int :=
  if negative then -(units : Int) else (units : Int)

def isNaN : Number format → Bool
  | .nan => true
  | _ => false

def isFinite : Number format → Bool
  | .finite .. => true
  | _ => false

/-- The number is plus or minus zero. -/
def isZero : Number format → Bool
  | .finite _ units _ => units == 0
  | _ => false

/-! ## Arithmetic -/

def neg : Number format → Number format
  | .nan => .nan
  | .infinite negative => .infinite (!negative)
  | .finite negative units h => .finite (!negative) units h

/-- The rounded sum.  A sum of opposite numbers is plus zero, a sum of two negative zeros minus
zero. -/
def add : Number format → Number format → Number format
  | .nan, _ => .nan
  | _, .nan => .nan
  | .infinite a, .infinite b => if a = b then .infinite a else .nan
  | .infinite a, .finite .. => .infinite a
  | .finite .., .infinite b => .infinite b
  | .finite a u _, .finite b v _ =>
      let sum := signed a u + signed b v
      if sum = 0 then zero (a && b) else ofUnits sum

def sub (x y : Number format) : Number format := x.add y.neg

/-- The rounded product.  Zero times infinity is not a number. -/
def mul : Number format → Number format → Number format
  | .nan, _ => .nan
  | _, .nan => .nan
  | .infinite a, .infinite b => .infinite (a != b)
  | .infinite a, .finite b v _ => if v = 0 then .nan else .infinite (a != b)
  | .finite a u _, .infinite b => if u = 0 then .nan else .infinite (a != b)
  | .finite a u _, .finite b v _ => ofRatio (a != b) (u * v) format.one

/-- The rounded quotient.  A number other than zero divided by zero is infinite. -/
def div : Number format → Number format → Number format
  | .nan, _ => .nan
  | _, .nan => .nan
  | .infinite _, .infinite _ => .nan
  | .infinite a, .finite b _ _ => .infinite (a != b)
  | .finite a _ _, .infinite b => zero (a != b)
  | .finite a u _, .finite b v _ =>
      if v = 0 then (if u = 0 then .nan else .infinite (a != b))
      else ofRatio (a != b) (u * format.one) v

/-- The remainder of the truncated quotient: it has the sign of the dividend. -/
def mod : Number format → Number format → Number format
  | .nan, _ => .nan
  | _, .nan => .nan
  | .infinite _, _ => .nan
  | .finite a u h, .infinite _ => .finite a u h
  | .finite a u _, .finite _ v _ => if v = 0 then .nan else ofRatio a (u % v) 1

/-- The greatest whole number that is not above. -/
def floor : Number format → Number format
  | .finite negative units _ =>
      let whole := if negative then (units + format.one - 1) / format.one else units / format.one
      ofRatio negative (whole * format.one) 1
  | x => x

/-- The least whole number that is not below. -/
def ceiling (x : Number format) : Number format := x.neg.floor.neg

/-! ## Comparison -/

/-- The order of two numbers, if neither is not-a-number.  The two zeros are equal. -/
def compare? : Number format → Number format → Option Ordering
  | .nan, _ => none
  | _, .nan => none
  | .infinite a, .infinite b => some (compare b.toNat a.toNat)
  | .infinite a, .finite .. => some (if a then .lt else .gt)
  | .finite .., .infinite b => some (if b then .gt else .lt)
  | .finite a u _, .finite b v _ => some (compare (signed a u) (signed b v))

/-- Equality of numbers: the two zeros are equal, and not-a-number differs from itself. -/
def equal (x y : Number format) : Bool := x.compare? y == some .eq

def less (x y : Number format) : Bool := x.compare? y == some .lt

def lessOrEqual (x y : Number format) : Bool := x.less y || x.equal y

end Number
end RecordExtraction
