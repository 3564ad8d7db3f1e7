import RecordExtraction.Schema.Entry
import RecordExtraction.SchemaFile.Node

/-!
# Schema entries from data

The data of a schema file is read from left to right, and the first problem is reported: data of the
wrong shape, or the place where the text breaks.  Values under unknown keys only have to be
well-formed.
-/

namespace RecordExtraction
namespace SchemaFile

/-- What a place in a schema file asks for. -/
inductive Wanted where
  | text
  | boolean
  | sequence
  | schema
  | property
  | fieldName
deriving DecidableEq, Repr

def Wanted.description : Wanted → String
  | text => "a string"
  | boolean => "a boolean"
  | sequence => "a sequence"
  | schema => "struct RawSchema"
  | property => "struct RawProperty"
  | fieldName => "field identifier"

/-- Well-formed data that is no schema. -/
inductive DataError where
  | missingField (name : String)
  | duplicateField (name : String)
  | wrongType (found : Found) (wanted : Wanted)
  | tooShort (length : Nat) (wanted : Wanted) (fields : Nat)
deriving DecidableEq

def DataError.message : DataError → String
  | missingField name => s!"missing field `{name}`"
  | duplicateField name => s!"duplicate field `{name}`"
  | wrongType found wanted =>
      "invalid type: " ++ found.description ++ ", expected " ++ wanted.description
  | tooShort length wanted fields =>
      s!"invalid length {length}, expected {wanted.description} with {fields} elements"

/-- Why the data of a file can not be read. -/
inductive Problem where
  | data (error : DataError)
  | broken
deriving DecidableEq

/-- The problem of a node that is not what its place asks for. -/
def mismatch (wanted : Wanted) : Node → Problem
  | .scalar scalar => .data (.wrongType scalar.found wanted)
  | .sequence _ => .data (.wrongType .sequence wanted)
  | .mapping _ => .data (.wrongType .mapping wanted)
  | _ => .broken

namespace Data

/-- A text. -/
def readText (data : Data) (wanted : Wanted) (node : Node) : Except Problem String :=
  match data.resolve node with
  | .scalar ⟨some text, _, _, _, _⟩ => .ok text
  | other => .error (mismatch wanted other)

/-- A text that may be absent. -/
def readOptionalText (data : Data) (node : Node) : Except Problem (Option String) :=
  match data.resolve node with
  | .scalar ⟨_, _, true, _, _⟩ => .ok none
  | other => (data.readText .text other).map some

/-- A truth value. -/
def readBoolean (data : Data) (node : Node) : Except Problem Bool :=
  match data.resolve node with
  | .scalar ⟨_, some value, _, _, _⟩ => .ok value
  | other => .error (mismatch .boolean other)

/-- A value that does not matter. -/
def skip (node : Node) : Except Problem Unit :=
  if node.isWellFormed then .ok () else .error .broken

/-- The fields of a structure: the entries of a mapping, or in order. -/
inductive Fields where
  | named (entries : List (Node × Node))
  | positional (items : List Node)

/-- The fields of the structure that a node is. -/
def readFields (data : Data) (wanted : Wanted) (node : Node) : Except Problem Fields :=
  match data.resolve node with
  | .mapping entries => .ok (.named entries)
  | .scalar ⟨_, _, _, true, _⟩ => .ok (.named [])
  | .sequence items =>
      if data.admitsPositional then .ok (.positional items)
      else .error (mismatch wanted (.sequence items))
  | other => .error (mismatch wanted other)

/-- The fields of a property that were read so far. -/
structure PropertyFields where
  name : Option String
  typeName : Option String
  path : Option (Option String)
  nullable : Option Bool

/-- The property that all fields make up.  Path and nullability may be missing. -/
def PropertyFields.finish (fields : PropertyFields) : Except Problem PropertyEntry :=
  match fields.name, fields.typeName with
  | none, _ => .error (.data (.missingField "name"))
  | some _, none => .error (.data (.missingField "type"))
  | some name, some typeName =>
      .ok ⟨name, typeName, fields.path.getD none, fields.nullable.getD false⟩

/-- Fails if a field was read before. -/
def once {α : Type} (name : String) (field : Option α) : Except Problem Unit :=
  if field.isSome then .error (.data (.duplicateField name)) else .ok ()

/-- A property from named fields. -/
def readPropertyEntries (data : Data) (fields : PropertyFields) :
    List (Node × Node) → Except Problem PropertyEntry
  | [] => fields.finish
  | (key, value) :: rest => do
      let name ← data.readText .fieldName key
      if name = "name" then
        once name fields.name
        let text ← data.readText .text value
        readPropertyEntries data { fields with name := some text } rest
      else if name = "type" then
        once name fields.typeName
        let text ← data.readText .text value
        readPropertyEntries data { fields with typeName := some text } rest
      else if name = "path" then
        once name fields.path
        let path ← data.readOptionalText value
        readPropertyEntries data { fields with path := some path } rest
      else if name = "nullable" then
        once name fields.nullable
        let nullable ← data.readBoolean value
        readPropertyEntries data { fields with nullable := some nullable } rest
      else
        skip value
        readPropertyEntries data fields rest

/-- A property from its fields in order.  Path and nullability may be left out. -/
def readPropertyItems (data : Data) : List Node → Except Problem PropertyEntry
  | [] => .error (.data (.tooShort 0 .property 4))
  | [name] => do
      let _ ← data.readText .text name
      .error (.data (.tooShort 1 .property 4))
  | [name, typeName] => do
      .ok ⟨← data.readText .text name, ← data.readText .text typeName, none, false⟩
  | [name, typeName, path] => do
      .ok ⟨← data.readText .text name, ← data.readText .text typeName,
        ← data.readOptionalText path, false⟩
  | name :: typeName :: path :: nullable :: rest => do
      let entry : PropertyEntry :=
        ⟨← data.readText .text name, ← data.readText .text typeName,
          ← data.readOptionalText path, ← data.readBoolean nullable⟩
      if rest.isEmpty then .ok entry else .error .broken

/-- A property. -/
def readProperty (data : Data) (node : Node) : Except Problem PropertyEntry := do
  match ← data.readFields .property node with
  | .named entries => data.readPropertyEntries ⟨none, none, none, none⟩ entries
  | .positional items => data.readPropertyItems items

/-- A list of properties. -/
def readProperties (data : Data) (node : Node) : Except Problem (List PropertyEntry) :=
  match data.resolve node with
  | .sequence items => items.mapM data.readProperty
  | .scalar ⟨_, _, _, true, _⟩ => .ok []
  | other => .error (mismatch .sequence other)

/-- A schema from named fields, after the fields that were read so far. -/
def readSchemaEntries (data : Data) (typeName : Option String)
    (properties : Option (List PropertyEntry)) :
    List (Node × Node) → Except Problem SchemaEntry
  | [] =>
      match typeName with
      | some typeName => .ok ⟨typeName, properties.getD []⟩
      | none => .error (.data (.missingField "type_name"))
  | (key, value) :: rest => do
      let name ← data.readText .fieldName key
      if name = "type_name" then
        once name typeName
        let text ← data.readText .text value
        readSchemaEntries data (some text) properties rest
      else if name = "properties" then
        once name properties
        let entries ← data.readProperties value
        readSchemaEntries data typeName (some entries) rest
      else
        skip value
        readSchemaEntries data typeName properties rest

/-- A schema from its fields in order.  The properties may be left out. -/
def readSchemaItems (data : Data) : List Node → Except Problem SchemaEntry
  | [] => .error (.data (.tooShort 0 .schema 2))
  | [typeName] => do .ok ⟨← data.readText .text typeName, []⟩
  | typeName :: properties :: rest => do
      let entry : SchemaEntry := ⟨← data.readText .text typeName, ← data.readProperties properties⟩
      if rest.isEmpty then .ok entry else .error .broken

/-- The schema that the root of a file holds. -/
def readSchema (data : Data) : Except Problem SchemaEntry := do
  match ← data.readFields .schema data.root with
  | .named entries => data.readSchemaEntries none none entries
  | .positional items => data.readSchemaItems items

end Data

/-- Why a file holds no schema. -/
inductive ContentError where
  | schema (error : SchemaError)
  | data (error : DataError)
  | broken
deriving DecidableEq

/-- The schema that the data of a file holds.  The schema is validated before anything that follows
the root. -/
def Data.toSchema (data : Data) : Except ContentError Schema :=
  match data.readSchema with
  | .error (.data error) => .error (.data error)
  | .error .broken => .error .broken
  | .ok entry =>
      match entry.toSchema with
      | .error error => .error (.schema error)
      | .ok schema => if data.endsAfterRoot then .ok schema else .error .broken

end SchemaFile
end RecordExtraction
