import RecordExtraction.Number.Basic

/-!
# Kinds of values

The kinds that a property can be declared with: texts, truth values, integers of three widths and
floating-point numbers of two precisions.  A kind has one canonical name and may have other names;
any other text names a kind that is not supported.
-/

namespace RecordExtraction

/-- The widths of integers, in bits. -/
inductive IntegerWidth where
  | bits16
  | bits32
  | bits64
deriving DecidableEq, Repr

namespace IntegerWidth

/-- The least integer that is too large. -/
def bound : IntegerWidth → Int
  | bits16 => 0x8000
  | bits32 => 0x80000000
  | bits64 => 0x8000000000000000

/-- The integers of a width: as many negative ones as others. -/
def Contains (width : IntegerWidth) (n : Int) : Prop :=
  -width.bound ≤ n ∧ n < width.bound

instance (width : IntegerWidth) (n : Int) : Decidable (width.Contains n) :=
  inferInstanceAs (Decidable (_ ∧ _))

end IntegerWidth

/-- The precisions of floating-point numbers. -/
inductive FloatPrecision where
  | single
  | double
deriving DecidableEq, Repr

/-- The format that holds numbers of a precision. -/
def FloatPrecision.format : FloatPrecision → FloatFormat
  | single => .binary32
  | double => .binary64

/-- The supported kinds of values. -/
inductive ScalarKind where
  | text
  | boolean
  | integer (width : IntegerWidth)
  | float (precision : FloatPrecision)
deriving DecidableEq, Repr

namespace ScalarKind

/-- All kinds in the order in which they are listed. -/
def all : List ScalarKind :=
  [text, boolean, integer .bits16, integer .bits32, integer .bits64, float .single, float .double]

theorem mem_all (kind : ScalarKind) : kind ∈ all := by
  rcases kind with _ | _ | width | precision
  · decide
  · decide
  · cases width <;> decide
  · cases precision <;> decide

/-- The canonical name. -/
def name : ScalarKind → String
  | text => "String"
  | boolean => "bool"
  | integer .bits16 => "i16"
  | integer .bits32 => "i32"
  | integer .bits64 => "i64"
  | float .single => "f32"
  | float .double => "f64"

/-- The other names. -/
def aliases : ScalarKind → List String
  | text => ["string", "str", "&str", "text"]
  | boolean => ["boolean"]
  | integer .bits16 => ["short"]
  | integer .bits32 => ["int", "integer"]
  | integer .bits64 => ["long"]
  | float .single => ["float"]
  | float .double => ["double"]

/-- The name in stored data. -/
def storedName : ScalarKind → String
  | text => "text"
  | kind => kind.name

/-- The name in technical listings. -/
def label : ScalarKind → String
  | text => "Text"
  | boolean => "Bool"
  | integer .bits16 => "Int16"
  | integer .bits32 => "Int32"
  | integer .bits64 => "Int64"
  | float .single => "Float32"
  | float .double => "Float64"

/-- The text names the kind. -/
def isNamed (kind : ScalarKind) (name : String) : Bool :=
  name == kind.name || kind.aliases.contains name

/-- The kind with the given name. -/
def ofName? (name : String) : Option ScalarKind :=
  all.find? (·.isNamed name)

end ScalarKind

/-- A supported kind, or the name of one that is not supported. -/
inductive TypeKind where
  | scalar (kind : ScalarKind)
  | unsupported (name : String)
deriving DecidableEq, Repr

namespace TypeKind

/-- The kind that a text names.  Any text names one. -/
def parse (name : String) : TypeKind :=
  match ScalarKind.ofName? name with
  | some kind => scalar kind
  | none => unsupported name

/-- The canonical name, or the name as it was given. -/
def name : TypeKind → String
  | scalar kind => kind.name
  | unsupported name => name

def isSupported : TypeKind → Bool
  | scalar _ => true
  | unsupported _ => false

/-- The name in stored data. -/
def storedName : TypeKind → String
  | scalar kind => kind.storedName
  | unsupported name => name

/-- The kind that a name in stored data stands for. -/
def ofStoredName (name : String) : TypeKind :=
  match ScalarKind.all.find? (·.storedName == name) with
  | some kind => scalar kind
  | none => parse name

end TypeKind
end RecordExtraction
