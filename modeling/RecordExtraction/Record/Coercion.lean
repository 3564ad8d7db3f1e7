import RecordExtraction.Number.Numeral
import RecordExtraction.Record.Value
import RecordExtraction.Text.Blank

/-!
# From text to values

`coerce` reads the text of a node as a value of a kind.  Texts are taken as they are, truth values
and integers have to stand alone, and floating-point numbers may be surrounded by spaces and control
characters.
-/

namespace RecordExtraction

/-- Why a text is no integer of a width. -/
inductive IntegerFault where
  | empty
  | invalidDigit
  | tooLarge
  | tooSmall
deriving DecidableEq, Repr

def IntegerFault.message : IntegerFault → String
  | empty => "cannot parse integer from empty string"
  | invalidDigit => "invalid digit found in string"
  | tooLarge => "number too large to fit in target type"
  | tooSmall => "number too small to fit in target type"

/-- Why a text is no floating-point number. -/
inductive FloatFault where
  | empty
  | invalid
deriving DecidableEq, Repr

def FloatFault.message : FloatFault → String
  | empty => "cannot parse float from empty string"
  | invalid => "invalid float literal"

/-- Why a text can not be read as a value of a kind. -/
inductive CoercionError where
  | boolean
  | integer (fault : IntegerFault)
  | float (fault : FloatFault)
deriving DecidableEq, Repr

def CoercionError.message : CoercionError → String
  | boolean => "not a boolean: provided string was not `true` or `false`"
  | integer fault => "not an integer: " ++ fault.message
  | float fault => "not a floating point number: " ++ fault.message

/-- The truth value that a text names. -/
def readBoolean (text : String) : Except CoercionError FieldValue :=
  if text = "true" then .ok (.boolean true)
  else if text = "false" then .ok (.boolean false)
  else .error .boolean

/-- Appends decimal digits to an integer of a width, one at a time.  A negative number grows
downwards, so that the least integer of the width is never exceeded on the way. -/
def appendDigits (width : IntegerWidth) (negative : Bool) :
    { n : Int // width.Contains n } → List Char →
      Except IntegerFault { n : Int // width.Contains n }
  | n, [] => .ok n
  | n, c :: rest =>
      if c.isDigit then
        let digit : Int := ((c.toNat - '0'.toNat : Nat) : Int)
        let next := if negative then n.val * 10 - digit else n.val * 10 + digit
        if h : width.Contains next then appendDigits width negative ⟨next, h⟩ rest
        else .error (if negative then .tooSmall else .tooLarge)
      else .error .invalidDigit

/-- The integer zero of a width. -/
def zeroOf (width : IntegerWidth) : { n : Int // width.Contains n } :=
  ⟨0, by cases width <;> decide⟩

/-- The integer that one digit or more denote after an optional sign. -/
def readIntegerChars (width : IntegerWidth) (text : List Char) :
    Except IntegerFault { n : Int // width.Contains n } :=
  if text.isEmpty then .error .empty
  else
    let (negative, digits) := splitSign text
    if digits.isEmpty then .error .invalidDigit
    else appendDigits width negative (zeroOf width) digits

def readInteger (width : IntegerWidth) (text : String) : Except CoercionError FieldValue :=
  match readIntegerChars width text.toList with
  | .ok n => .ok (.integer width n.val n.property)
  | .error fault => .error (.integer fault)

/-- The floating-point number nearest to the numeral in a text. -/
def readFloat (precision : FloatPrecision) (text : String) : Except CoercionError FieldValue :=
  let trimmed := trimWhile isUpToSpace text.toList
  if trimmed.isEmpty then .error (.float .empty)
  else
    match Number.ofText? trimmed with
    | some number => .ok (.float precision number)
    | none => .error (.float .invalid)

/-- The value of a kind that a text denotes. -/
def coerce (kind : ScalarKind) (text : String) : Except CoercionError FieldValue :=
  match kind with
  | .text => .ok (.text text)
  | .boolean => readBoolean text
  | .integer width => readInteger width text
  | .float precision => readFloat precision text

end RecordExtraction
