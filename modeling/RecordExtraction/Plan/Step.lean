import RecordExtraction.Schema.Basic
import RecordExtraction.Text.Quoted

/-!
# Extraction steps

A step says how one property is extracted: where its node is found, what an absent node means, and
as what kind the text of the node is read.  Resolution is total: a property whose type is not
supported gets a step that says so.

The listing of a step spells it as two assignments, first of the node and then of the value.
-/

namespace RecordExtraction

/-- What an absent node means: an error, or null. -/
inductive NullGuard where
  | required
  | nullable
deriving DecidableEq, Repr

/-- The name in technical listings. -/
def NullGuard.label : NullGuard → String
  | required => "Required"
  | nullable => "Nullable"

/-- How a property is extracted. -/
inductive Strategy where
  | unsupported (typeName : String)
  | extract (kind : ScalarKind) (guard : NullGuard)
deriving DecidableEq, Repr

def Strategy.isUnsupported : Strategy → Bool
  | unsupported _ => true
  | extract .. => false

/-- The strategy in a technical listing. -/
def Strategy.inspect : Strategy → String
  | unsupported typeName => "Unsupported \x7b type_name: " ++ quoted typeName ++ " \x7d"
  | extract kind guard =>
      "Extract \x7b coercion: " ++ kind.label ++ ", guard: " ++ guard.label ++ " \x7d"

/-- The planned extraction of one property. -/
structure Step where
  index : Nat
  property : String
  locator : String
  type : DeclaredType
  strategy : Strategy
deriving DecidableEq, Repr

/-- The guard of a type's nullability. -/
def DeclaredType.guard (type : DeclaredType) : NullGuard :=
  if type.nullable then .nullable else .required

/-- The way to extract values of a type. -/
def DeclaredType.strategy (type : DeclaredType) : Strategy :=
  match type.kind with
  | .scalar kind => .extract kind type.guard
  | .unsupported _ => .unsupported type.display

/-- The step that extracts a property. -/
def Property.resolve (property : Property) (index : Nat) : Step where
  index := index
  property := property.name
  locator := property.locator
  type := property.type
  strategy := property.type.strategy

namespace Step

def isUnsupported (step : Step) : Bool := step.strategy.isUnsupported

/-- The name of the node in listings. -/
def nodeBinding (step : Step) : String := "node" ++ toString step.index

/-- The name of the value in listings. -/
def valueBinding (step : Step) : String := step.property

/-- How the text of the node is read as a value of a kind. -/
def reading (step : Step) : ScalarKind → String
  | .text => step.nodeBinding ++ ".text()"
  | kind => kind.name ++ "::parse(" ++ step.nodeBinding ++ ".text())"

/-- What is assigned to the value. -/
def valueListing (step : Step) : String :=
  match step.strategy with
  | .unsupported typeName => "unsupported(" ++ typeName ++ ")"
  | .extract kind .required => step.reading kind
  | .extract kind .nullable =>
      "if " ++ step.nodeBinding ++ " is absent \x7b null \x7d else \x7b " ++ step.reading kind ++
        " \x7d"

/-- The step as two assignments. -/
def listing (step : Step) : String :=
  step.nodeBinding ++ " = evaluate(path, " ++ quoted step.locator ++ ", document)\n" ++
    step.valueBinding ++ " = " ++ step.valueListing

end Step
end RecordExtraction
