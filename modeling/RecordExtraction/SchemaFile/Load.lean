import RecordExtraction.SchemaFile.Decode
import RecordExtraction.SchemaFile.Json
import RecordExtraction.SchemaFile.Yaml.Tree
import RecordExtraction.Text.Utf8

/-!
# Loading schema files

A schema file is read as a text, and the end of its name says in which format it is written.
-/

namespace RecordExtraction
namespace SchemaFile

/-- The formats of schema files. -/
inductive Format where
  | yaml
  | json
deriving DecidableEq, Repr

def Format.name : Format → String
  | yaml => "YAML"
  | json => "JSON"

/-- The data of a text. -/
def Format.read : Format → String → Data
  | yaml => Yaml.read
  | json => Json.read

/-- The schema that a text holds. -/
def parse (format : Format) (text : String) : Except ContentError Schema :=
  (format.read text).toSchema

/-- Why a file can not be read as a text. -/
inductive ReadFailure where
  | notFound
  | notText
deriving DecidableEq, Repr

/-- Why no schema could be loaded. -/
inductive LoadError where
  | unreadable (path : String) (failure : ReadFailure)
  | unknownFormat (path : String)
  | invalid (path : String) (format : Format) (cause : ContentError)
deriving DecidableEq

/-- What was attempted when a text could not be parsed. -/
def Format.parseContext (format : Format) : String :=
  "Failed to parse " ++ format.name ++ " value schema"

/-- What was attempted when loading failed, the outermost attempt first. -/
def LoadError.contexts : LoadError → List String
  | unreadable path _ => ["Failed to read value schema " ++ path]
  | unknownFormat path =>
      ["Unsupported value schema format: " ++ path ++ " (expected .yaml, .yml or .json)"]
  | invalid path format _ => ["Invalid value schema " ++ path, format.parseContext]

/-- The end of a file name behind its last full stop.  One at the beginning does not count. -/
def extension? (path : String) : Option String :=
  let reversed := path.toList.reverse.takeWhile (· != '/')
  match reversed.dropWhile (· != '.') with
  | _ :: _ :: _ => some (String.ofList (reversed.takeWhile (· != '.')).reverse)
  | _ => none

/-- The format that a file name asks for. -/
def Format.ofPath? (path : String) : Option Format :=
  match extension? path with
  | some "yaml" => some yaml
  | some "yml" => some yaml
  | some "json" => some json
  | _ => none

/-- The text of a file, of which the content is given if it exists. -/
def readText (path : String) : Option (List UInt8) → Except LoadError String
  | none => .error (.unreadable path .notFound)
  | some bytes =>
      match Utf8.decode bytes with
      | .ok chars => .ok (String.ofList chars)
      | .error _ => .error (.unreadable path .notText)

/-- Loads the schema of a file.  The file is read before its name matters. -/
def load (path : String) (content : Option (List UInt8)) : Except LoadError Schema := do
  let text ← readText path content
  match Format.ofPath? path with
  | none => .error (.unknownFormat path)
  | some format =>
      match parse format text with
      | .ok schema => .ok schema
      | .error cause => .error (.invalid path format cause)

end SchemaFile
end RecordExtraction
