import RecordExtraction.Extraction.Error
import RecordExtraction.Locator.Evaluation
import RecordExtraction.Logging.Event

/-!
# Constructing records

A factory runs a plan against an input: it reads and parses the input, extracts the value of every
step in turn, and collects the values in a record.  The source of the input is closed once at the
end, whatever the outcome, and a failure to close it changes nothing but the events.
-/

namespace RecordExtraction

open Markup

/-- A plan with the way to evaluate its locators and the limits on its inputs. -/
structure Factory where
  plan : Plan
  evaluator : PathEvaluator
  options : InputOptions

/-- The value of a node for a step: the text of the node, coerced.  An absent node is null or an
error. -/
def Step.read (step : Step) (kind : ScalarKind) (guard : NullGuard) (document : Document) :
    Option Item → Except ConstructError FieldValue
  | some item =>
      let text := item.text document
      match coerce kind text with
      | .ok value => .ok value
      | .error cause => .error (.coercion step.property step.locator text cause)
  | none =>
      match guard with
      | .nullable => .ok .null
      | .required => .error (.missingNode step.property step.locator)

/-- The value that a step extracts from a document. -/
def Step.extract (step : Step) (evaluator : PathEvaluator) (document : Document) :
    Except ConstructError FieldValue :=
  match step.strategy with
  | .unsupported typeName => .error (.unsupported step.property typeName)
  | .extract kind guard =>
      match evaluator step.locator document with
      | .ok found => step.read kind guard document found
      | .error cause => .error (.pathEvaluation step.property step.locator cause)

/-- The fields that steps extract, up to the first failure. -/
def extractAll (evaluator : PathEvaluator) (document : Document) :
    List Step → Except ConstructError (List (String × FieldValue))
  | [] => .ok []
  | step :: rest => do
      let value ← step.extract evaluator document
      let fields ← extractAll evaluator document rest
      .ok ((step.property, value) :: fields)

/-- The events of extracting fields, up to the first failure. -/
def extractionEvents (evaluator : PathEvaluator) (document : Document) : List Step → List Event
  | [] => []
  | step :: rest =>
      match step.extract evaluator document with
      | .ok value => .evaluated step value :: extractionEvents evaluator document rest
      | .error _ => []

/-- The outcome of a construction, the source as it was left, and the events on the way. -/
structure Construction where
  outcome : Except ConstructError Record
  source : Source
  events : List Event

namespace Factory

/-- A factory that evaluates the language of locators under the standard limits. -/
def ofPlan (plan : Plan) : Factory := ⟨plan, locatorEvaluator, .standard⟩

/-- The record that a plan makes of a document. -/
def realize (factory : Factory) (document : Document) : Except ConstructError Record := do
  let fields ← extractAll factory.evaluator document factory.plan.steps
  .ok ⟨factory.plan.typeName, fields⟩

/-- The document that a source supplies, and the source after it was read. -/
def readDocument (factory : Factory) (source : Source) : Except InputError Document × Source :=
  match source.readAll factory.options.inputLimit with
  | (.ok bytes, after) => (documentOfBytes factory.options bytes, after)
  | (.error fault, after) => (.error fault.toInputError, after)

/-- The record that a plan makes of a document, if there is one. -/
def outcome (factory : Factory) : Except InputError Document → Except ConstructError Record
  | .ok document => factory.realize document
  | .error cause => .error (.input cause)

/-- The events of running a plan on a document, if there is one. -/
def realizationEvents (factory : Factory) : Except InputError Document → List Event
  | .ok document =>
      extractionEvents factory.evaluator document factory.plan.steps ++
        (match factory.realize document with
          | .ok record => [.constructed factory.plan.typeName record.fields.length]
          | .error _ => [])
  | .error _ => []

/-- Constructs a record from a source and closes the source. -/
def constructFrom (factory : Factory) (source : Source) : Construction :=
  let (document, after) := factory.readDocument source
  { outcome := factory.outcome document
    source := after.close
    events := factory.realizationEvents document ++
      (after.closeFailure.elim [] fun message => [.closeFailed message]) }

/-- Constructs a record from bytes. -/
def constructBytes (factory : Factory) (bytes : List UInt8) : Except ConstructError Record :=
  (factory.constructFrom (.ofBytes bytes)).outcome

/-- Constructs a record from a text. -/
def construct (factory : Factory) (text : String) : Except ConstructError Record :=
  factory.constructBytes (Utf8.encode text)

/-- Constructs a record and hands its values to a constructor with the given parameters. -/
def constructInto (factory : Factory) (text : String) (parameters : List ParameterType) :
    Except ConstructError (List Argument) := do
  let record ← factory.construct text
  match record.toArguments.takeAll parameters with
  | .ok arguments => .ok arguments
  | .error cause => .error (.record cause)

end Factory

/-- The factory of a schema, if all its types are supported. -/
def Schema.factory (schema : Schema) : Except SchemaError Factory := do
  .ok (.ofPlan (← schema.assemble))

end RecordExtraction
