import RecordExtraction.Markup.Reader
import RecordExtraction.Source.Basic
import RecordExtraction.Text.Utf8

/-!
# From input to documents

An input is read within a limit of bytes, decoded and parsed.  Each of the three can fail.
-/

namespace RecordExtraction

open Markup

/-- Limits on the input and on the document in it. -/
structure InputOptions where
  allowTypeDeclaration : Bool
  nodesLimit : Nat
  inputLimit : Nat
deriving DecidableEq, Repr

namespace InputOptions

/-- Without other wishes there are no document type declarations, as many nodes as 32 bits can
count, and at most ten mebibytes. -/
def standard : InputOptions := ⟨false, 4294967295, 10485760⟩

/-- The limits on the document. -/
def limits (options : InputOptions) : Limits := ⟨options.allowTypeDeclaration, options.nodesLimit⟩

end InputOptions

/-- Why an input gives no document. -/
inductive InputError where
  | read (message : String)
  | encoding (cause : Utf8Error)
  | tooLarge (limit : Nat)
  | parse (fault : Fault)
deriving DecidableEq, Repr

/-- What is reported of an input, up to the account that the reader gives of a faulty document. -/
def InputError.message : InputError → String
  | read message => "Failed to read input: " ++ message
  | encoding cause => "Input is not valid UTF-8: " ++ cause.message
  | tooLarge limit => s!"Input exceeds the limit of {limit} bytes"
  | parse _ => "Malformed document: "

/-- The error that a fault of the source becomes. -/
def SourceFault.toInputError : SourceFault → InputError
  | failed message => .read message
  | tooLarge limit => .tooLarge limit

/-- The text that bytes encode. -/
def decodeInput (bytes : List UInt8) : Except InputError String :=
  match Utf8.decode bytes with
  | .ok chars => .ok (String.ofList chars)
  | .error cause => .error (.encoding cause)

/-- The document that a text holds. -/
def parseInput (options : InputOptions) (text : String) : Except InputError Document :=
  match Document.parse options.limits text with
  | .ok document => .ok document
  | .error fault => .error (.parse fault)

/-- The document that bytes hold. -/
def documentOfBytes (options : InputOptions) (bytes : List UInt8) : Except InputError Document := do
  parseInput options (← decodeInput bytes)

end RecordExtraction
