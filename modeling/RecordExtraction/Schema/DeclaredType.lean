import RecordExtraction.Schema.Kind
import RecordExtraction.Text.Blank
import RecordExtraction.Text.Search

/-!
# Declared types

A property is declared with a kind and is either required or nullable.  In writing, `Option<T>` is
the nullable variant of `T`.  Options do not nest: the text of a nested option is the name of an
unsupported kind.
-/

namespace RecordExtraction

/-- A kind with its nullability. -/
structure DeclaredType where
  kind : TypeKind
  nullable : Bool
deriving DecidableEq, Repr

namespace DeclaredType

/-- How a nullable type begins. -/
def optionOpening : List Char := "Option<".toList

/-- The argument of an option, if the text is one. -/
def optionArgument? (text : List Char) : Option (List Char) :=
  match afterStart? optionOpening text with
  | some rest => if rest.getLast? = some '>' then some rest.dropLast else none
  | none => none

/-- The type that a text declares.  White space around the text and around the argument of an option
does not count. -/
def parse (text : String) : DeclaredType :=
  let trimmed := trimWhile isBlank text.toList
  match optionArgument? trimmed with
  | some argument =>
      let inner := trimWhile isBlank argument
      if optionOpening.isPrefixOf inner then
        ⟨.unsupported (String.ofList trimmed), false⟩
      else ⟨.parse (String.ofList inner), true⟩
  | none => ⟨.parse (String.ofList trimmed), false⟩

/-- The text that declares the type. -/
def display (type : DeclaredType) : String :=
  if type.nullable then String.ofList optionOpening ++ type.kind.name ++ ">"
  else type.kind.name

def isSupported (type : DeclaredType) : Bool := type.kind.isSupported

/-- The same kind, nullable. -/
def intoNullable (type : DeclaredType) : DeclaredType := { type with nullable := true }

end DeclaredType
end RecordExtraction
