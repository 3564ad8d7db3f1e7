import RecordExtraction.Extraction.Input
import RecordExtraction.Locator.Error
import RecordExtraction.Record.Arguments
import RecordExtraction.Record.Coercion

/-!
# Failures of constructions

A construction fails with its input, at one of the properties, or when the constructor does not take
the values.
-/

namespace RecordExtraction

/-- Why an input gives no value. -/
inductive ConstructError where
  | input (cause : InputError)
  | pathEvaluation (property path : String) (cause : PathError)
  | missingNode (property path : String)
  | coercion (property path text : String) (cause : CoercionError)
  | unsupported (property typeName : String)
  | record (cause : RecordError)
deriving DecidableEq

namespace ConstructError

/-- The property that a failure is attributed to. -/
def property? : ConstructError → Option String
  | pathEvaluation property .. => some property
  | missingNode property _ => some property
  | coercion property .. => some property
  | unsupported property _ => some property
  | _ => none

def message : ConstructError → String
  | input cause => "Document processing failed: " ++ cause.message
  | pathEvaluation _ path _ => s!"Could not evaluate path '{path}'"
  | missingNode property path =>
      s!"No node matched path '{path}' for required property '{property}'"
  | coercion property path text _ =>
      s!"Could not convert '{text}' at path '{path}' for property '{property}'"
  | unsupported _ typeName => s!"assembled plan contains unsupported type '{typeName}'"
  | record cause => "Constructor rejected arguments: " ++ cause.message

end ConstructError
end RecordExtraction
