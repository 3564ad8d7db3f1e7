import RecordExtraction.Logging.Level
import RecordExtraction.Plan.Basic
import RecordExtraction.Record.Value

/-!
# Events

Planning and construction report what they do as events.  An event has a level, the target that it
is filed under, a message, and named fields.
-/

namespace RecordExtraction

inductive Event where
  /-- A strategy was chosen for a property. -/
  | resolved (step : Step)
  /-- A property of an unsupported type stops the planning. -/
  | rejected (typeName property declaredType : String)
  | assembled (typeName : String) (steps : Nat)
  /-- A property was extracted. -/
  | evaluated (step : Step) (value : FieldValue)
  | constructed (typeName : String) (properties : Nat)
  /-- The source of the input could not be closed. -/
  | closeFailed (message : String)
deriving DecidableEq

namespace Event

def level : Event → Level
  | rejected .. => .warn
  | evaluated .. => .trace
  | _ => .debug

def target : Event → String
  | resolved _ => "xmlfactory::plan::resolver"
  | rejected .. => "xmlfactory::plan::assembler"
  | assembled .. => "xmlfactory::plan::assembler"
  | evaluated .. => "xmlfactory::factory"
  | constructed .. => "xmlfactory::factory"
  | closeFailed _ => "xmlfactory::document::source"

def message : Event → String
  | resolved _ => "Resolved extraction strategy"
  | rejected .. => "Unsupported property type, aborting plan"
  | assembled .. => "Assembled construction plan"
  | evaluated .. => "Evaluated extraction step"
  | constructed .. => "Constructed record"
  | closeFailed _ => "Ignoring failure while closing input source"

/-- The named details of an event. -/
def fields : Event → List (String × String)
  | resolved step =>
      [("index", toString step.index), ("property", step.property),
        ("declared_type", step.type.display), ("strategy", step.strategy.inspect)]
  | rejected typeName property declaredType =>
      [("value_type", typeName), ("property", property), ("declared_type", declaredType)]
  | assembled typeName steps => [("value_type", typeName), ("steps", toString steps)]
  | evaluated step value =>
      [("node", step.nodeBinding), ("property", step.property), ("path", step.locator),
        ("value", value.display)]
  | constructed typeName properties =>
      [("value_type", typeName), ("properties", toString properties)]
  | closeFailed message => [("error", message)]

end Event

/-- The events of planning properties of which the first has the given index, up to the first one of
an unsupported type. -/
def resolutionEvents (typeName : String) (index : Nat) : List Property → List Event
  | [] => [.assembled typeName index]
  | property :: rest =>
      let step := property.resolve index
      match step.strategy with
      | .unsupported declaredType =>
          [.resolved step, .rejected typeName step.property declaredType]
      | .extract .. => .resolved step :: resolutionEvents typeName (index + 1) rest

/-- The events of assembling the plan of a schema. -/
def Schema.assemblyEvents (schema : Schema) : List Event :=
  resolutionEvents schema.typeName 0 schema.properties

end RecordExtraction
