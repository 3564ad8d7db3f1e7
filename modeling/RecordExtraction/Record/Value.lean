import RecordExtraction.Number.Decimal
import RecordExtraction.Schema.Kind
import RecordExtraction.Text.Quoted

/-!
# Values of properties

The value that a property has in a record: null, or a value of one of the supported kinds.
-/

namespace RecordExtraction

/-- The value of a property. -/
inductive FieldValue where
  | null
  | text (value : String)
  | boolean (value : Bool)
  | integer (width : IntegerWidth) (value : Int) (contained : width.Contains value)
  | float (precision : FloatPrecision) (value : Number precision.format)
deriving DecidableEq

namespace FieldValue

/-- The kind of a value that is not null. -/
def kind? : FieldValue → Option ScalarKind
  | null => none
  | text _ => some .text
  | boolean _ => some .boolean
  | integer width .. => some (.integer width)
  | float precision _ => some (.float precision)

def isNull (value : FieldValue) : Bool := value.kind?.isNone

/-- The name of the kind. -/
def kindName (value : FieldValue) : String := value.kind?.elim "null" (·.name)

/-- The text of a truth value. -/
def booleanText (value : Bool) : String := if value then "true" else "false"

/-- The value as a reader expects it.  Texts are quoted. -/
def display : FieldValue → String
  | null => "null"
  | text value => quoted value
  | boolean value => booleanText value
  | integer _ value _ => toString value
  | float _ value => NumberLayout.plain.render value

/-- The value in a technical listing: like `display`, but floating-point numbers always show that
they are no integers. -/
def inspect : FieldValue → String
  | float _ value => NumberLayout.technical.render value
  | value => value.display

end FieldValue
end RecordExtraction
