import RecordExtraction.Schema.Basic

/-!
# Entries of schema files

A schema file spells the type of a property as a text and may declare the property nullable a second
time, with a flag.  The flag only ever switches nullability on.
-/

namespace RecordExtraction

/-- A property as a schema file declares it. -/
structure PropertyEntry where
  name : String
  typeName : String
  path : Option String
  nullable : Bool
deriving DecidableEq, Repr

/-- The property that an entry declares. -/
def PropertyEntry.toProperty (entry : PropertyEntry) : Property :=
  let type := DeclaredType.parse entry.typeName
  ⟨entry.name, if entry.nullable then type.intoNullable else type, entry.path⟩

/-- A schema as a file declares it. -/
structure SchemaEntry where
  typeName : String
  properties : List PropertyEntry
deriving DecidableEq, Repr

/-- The schema that the entries declare, if nothing is wrong with them. -/
def SchemaEntry.toSchema (entry : SchemaEntry) : Except SchemaError Schema :=
  Schema.ofProperties entry.typeName (entry.properties.map PropertyEntry.toProperty)

end RecordExtraction
