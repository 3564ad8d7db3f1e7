/-!
# Namespaces in scope

An element sees the namespace declarations of its start tag and, after them, those declarations of
its parent that it does not repeat.  Both questions about a scope, the namespace of a qualifier and
the qualifier of a namespace, are answered by its first fitting entry.
-/

namespace RecordExtraction
namespace Markup

/-- The namespace that the qualifier `xml` always stands for. -/
def xmlNamespace : String := "http://www.w3.org/XML/1998/namespace"

/-- The namespace of namespace declarations, which no name may belong to. -/
def declarationNamespace : String := "http://www.w3.org/2000/xmlns/"

/-- A namespace declaration.  The default namespace has no qualifier. -/
structure Binding where
  qualifier : Option String
  uri : String
deriving DecidableEq

/-- The declarations that an element sees, the nearest first. -/
structure Scope where
  bindings : List Binding := []
deriving DecidableEq

namespace Scope

/-- The scope declares the qualifier. -/
def declares (scope : Scope) (qualifier : Option String) : Bool :=
  scope.bindings.any fun binding => binding.qualifier == qualifier

/-- The namespace that a qualifier stands for. -/
def uri? (scope : Scope) (qualifier : Option String) : Option String :=
  (scope.bindings.find? fun binding => binding.qualifier == qualifier).map (·.uri)

/-- The qualifier to write before a name of the namespace: none when the namespace is not in scope
or its first declaration is a default. -/
def qualifier? (scope : Scope) (uri : String) : Option String :=
  if uri = xmlNamespace then some "xml"
  else (scope.bindings.find? fun binding => binding.uri == uri).bind (·.qualifier)

/-- Adds an entry at the end unless its qualifier is declared already. -/
def inherit (scope : Scope) (binding : Binding) : Scope :=
  if scope.declares binding.qualifier then scope else ⟨scope.bindings ++ [binding]⟩

/-- The scope of an element with its own declarations in a parent's scope. -/
def extend (parent : Scope) (own : List Binding) : Scope :=
  if own.isEmpty then parent else parent.bindings.foldl inherit ⟨own⟩

end Scope
end Markup
end RecordExtraction
