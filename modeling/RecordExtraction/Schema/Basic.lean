import RecordExtraction.Schema.DeclaredType

/-!
# Schemas

A schema describes the properties of one type of value, in the order in which they are extracted and
handed to the constructor.  `Schema.ofProperties` admits a list of properties when every name is an
identifier that no earlier property has, and no locator is blank.
-/

namespace RecordExtraction

/-- One property of a value.  Without a locator of its own it is located by its name. -/
structure Property where
  name : String
  type : DeclaredType
  explicitLocator : Option String
deriving DecidableEq, Repr

/-- The text that locates the property in a document. -/
def Property.locator (property : Property) : String :=
  property.explicitLocator.getD property.name

/-- Why a list of properties makes no schema, or a schema no plan. -/
inductive SchemaError where
  | unsupportedType (property typeName : String)
  | duplicateProperty (property : String)
  | invalidPropertyName (property : String)
  | emptyLocator (property : String)
deriving DecidableEq, Repr

def SchemaError.message : SchemaError → String
  | unsupportedType property typeName =>
      s!"Can not read type '{typeName}' for property '{property}'"
  | duplicateProperty property => s!"Property '{property}' is declared more than once"
  | invalidPropertyName property =>
      s!"Invalid property name '{property}': expected an identifier"
  | emptyLocator property => s!"Property '{property}' has an empty locator"

/-- A letter of the Latin alphabet or the low line. -/
def isIdentifierStart (c : Char) : Bool := c.isAlpha || c == '_'

/-- A character that may follow in an identifier. -/
def isIdentifierPart (c : Char) : Bool := c.isAlphanum || c == '_'

/-- The text is an identifier. -/
def isIdentifier (text : String) : Bool :=
  match text.toList with
  | [] => false
  | c :: rest => isIdentifierStart c && rest.all isIdentifierPart

/-- The text has no character but white space. -/
def isBlankText (text : String) : Bool := text.toList.all isBlank

/-- What is wrong with a property that comes after properties with the given names. -/
def Property.problem? (property : Property) (earlier : List String) : Option SchemaError :=
  if !isIdentifier property.name then some (.invalidPropertyName property.name)
  else if earlier.contains property.name then some (.duplicateProperty property.name)
  else if property.explicitLocator.any isBlankText then some (.emptyLocator property.name)
  else none

/-- The first problem of a list of properties. -/
def firstProblem? (earlier : List String) : List Property → Option SchemaError
  | [] => none
  | property :: rest =>
      match property.problem? earlier with
      | some problem => some problem
      | none => firstProblem? (property.name :: earlier) rest

/-- The properties of one type of value, in the order of their declaration. -/
structure Schema where
  typeName : String
  properties : List Property
  accepted : firstProblem? [] properties = none
deriving DecidableEq

namespace Schema

/-- The schema of a list of properties, if nothing is wrong with it. -/
def ofProperties (typeName : String) (properties : List Property) : Except SchemaError Schema :=
  match h : firstProblem? [] properties with
  | none => .ok ⟨typeName, properties, h⟩
  | some problem => .error problem

/-- The property with the given name. -/
def property? (schema : Schema) (name : String) : Option Property :=
  schema.properties.find? (·.name == name)

end Schema
end RecordExtraction
