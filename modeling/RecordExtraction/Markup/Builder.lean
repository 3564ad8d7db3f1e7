import RecordExtraction.Markup.Document
import RecordExtraction.Markup.Reading

/-!
# A document under construction

The builder holds the members read so far at the current place, and the elements around that place
whose end has not been seen.  Every node counts against the limit at the moment it is added.
-/

namespace RecordExtraction
namespace Markup

/-- A member of a sequence of nodes. -/
inductive Member where
  | leaf (leaf : Leaf)
  | element (tag : Tag) (children : Content)

/-- The sequence whose members are given in reverse. -/
def Content.ofReversed (members : List Member) : Content :=
  members.foldl (fun rest member =>
    match member with
    | .leaf item => .leaf item rest
    | .element tag children => .element tag children rest) .nil

/-- An element whose end has not been seen. -/
structure OpenElement where
  qualifier : String
  tag : Tag
  /-- The members before the element, in reverse. -/
  before : List Member

/-- An attribute whose namespace is not known yet. -/
structure WrittenAttribute where
  name : QualifiedName
  value : String

/-- The state of reading. -/
structure Builder where
  nodesLimit : Nat
  /-- The number of nodes, the root included. -/
  count : Nat := 1
  /-- The open elements, the innermost first. -/
  outer : List OpenElement := []
  /-- The members at the current place, in reverse. -/
  members : List Member := []
  /-- The last node is a text that a further text continues. -/
  afterText : Bool := false
  /-- The attributes and declarations of the current start tag. -/
  attributes : List WrittenAttribute := []
  bindings : List Binding := []
  /-- A start tag was read in the current entity. -/
  tagSeen : Bool := false
  /-- The values of the declared entities, in order. -/
  entities : List (String × List Char) := []
  /-- The entities expanded inside the current outermost one. -/
  references : Nat := 0

namespace Builder

/-- The namespaces in scope at the current place. -/
def scope (builder : Builder) : Scope :=
  builder.outer.head?.elim {} fun element => element.tag.scope

def entity? (builder : Builder) (name : String) : Option (List Char) :=
  (builder.entities.find? fun entity => entity.1 == name).map (·.2)

/-- Counts one more node. -/
def countNode (builder : Builder) : Except Fault Builder :=
  if builder.count < builder.nodesLimit then .ok { builder with count := builder.count + 1 }
  else .error .tooManyNodes

/-- Adds a leaf. -/
def addLeaf (builder : Builder) (leaf : Leaf) : Except Fault Builder := do
  let builder ← builder.countNode
  .ok { builder with members := .leaf leaf :: builder.members, afterText := false }

/-- Adds text: to the text before it, or as a node of its own. -/
def addText (builder : Builder) (text : List Char) : Except Fault Builder := do
  match builder.afterText, builder.members with
  | true, .leaf (.text before) :: members =>
      .ok { builder with members := .leaf (.text (before ++ String.ofList text)) :: members }
  | _, _ =>
      let builder ← builder.addLeaf (.text (String.ofList text))
      .ok { builder with afterText := true }

/-- Adds the declaration of a qualifier.  The two reserved namespaces and the qualifier `xml` belong
to each other, and no qualifier is declared twice. -/
def declare (builder : Builder) (qualifier uri : String) : Except Fault Builder :=
  if uri = declarationNamespace then .error .malformed
  else if (qualifier = "xml") ≠ (uri = xmlNamespace) then .error .malformed
  else if builder.bindings.any fun binding => binding.qualifier == some qualifier then
    .error .malformed
  else if uri = xmlNamespace then .ok builder
  else .ok { builder with bindings := builder.bindings ++ [⟨some qualifier, uri⟩] }

/-- Adds the declaration of the default namespace. -/
def declareDefault (builder : Builder) (uri : String) : Except Fault Builder :=
  if uri = xmlNamespace ∨ uri = declarationNamespace then .error .malformed
  else .ok { builder with bindings := builder.bindings ++ [⟨none, uri⟩] }

/-- Adds an attribute as it is written: a declaration or an attribute proper. -/
def addAttribute (builder : Builder) (written : WrittenAttribute) : Except Fault Builder :=
  if written.name.qualifier = "xmlns" then
    builder.declare written.name.localName written.value
  else if written.name.localName = "xmlns" then builder.declareDefault written.value
  else .ok { builder with attributes := builder.attributes ++ [written] }

/-- The namespace of a name with the given qualifier; an empty one stands for the default. -/
def resolve (scope : Scope) (qualifier : String) : Except Fault (Option String) :=
  if qualifier.isEmpty then .ok (scope.uri? none)
  else
    match scope.uri? (some qualifier) with
    | some uri => .ok (some uri)
    | none => .error .malformed

/-- Finds the namespaces of attributes, of which no two may then have the same name. -/
def resolveAttributes (scope : Scope) (resolved : List Attribute) :
    List WrittenAttribute → Except Fault (List Attribute)
  | [] => .ok resolved
  | written :: rest => do
      let uri ←
        if written.name.qualifier = "xml" then .ok (some xmlNamespace)
        else if written.name.qualifier.isEmpty then .ok none
        else resolve scope written.name.qualifier
      let name := written.name.localName
      if resolved.any fun other => other.uri == uri && other.name == name then .error .malformed
      else resolveAttributes scope (resolved ++ [⟨uri, name, written.value⟩]) rest

/-- Takes the attributes and declarations that were written since the last tag. -/
def takeAttributes (builder : Builder) : Except Fault (Builder × Scope × List Attribute) := do
  let scope := builder.scope.extend builder.bindings
  let attributes ← resolveAttributes scope [] builder.attributes
  .ok ({ builder with attributes := [], bindings := [] }, scope, attributes)

/-- The tag of the element whose start tag has been read. -/
def finishTag (builder : Builder) (name : QualifiedName) : Except Fault (Builder × Tag) := do
  let (builder, scope, attributes) ← builder.takeAttributes
  let uri ← resolve scope name.qualifier
  let builder ← builder.countNode
  .ok ({ builder with afterText := false }, ⟨uri, name.localName, attributes, scope⟩)

/-- Adds an element without content. -/
def addEmpty (builder : Builder) (name : QualifiedName) : Except Fault Builder := do
  let (builder, tag) ← builder.finishTag name
  .ok { builder with members := .element tag .nil :: builder.members }

/-- Begins an element. -/
def openElement (builder : Builder) (name : QualifiedName) : Except Fault Builder := do
  let (builder, tag) ← builder.finishTag name
  .ok { builder with
    outer := ⟨name.qualifier, tag, builder.members⟩ :: builder.outer
    members := [] }

/-- Ends the innermost open element, whose name has to be the given one. -/
def closeElement (builder : Builder) (name : QualifiedName) : Except Fault Builder := do
  if !builder.tagSeen then .error .malformed
  else
    let (builder, _, _) ← builder.takeAttributes
    match builder.outer with
    | element :: outer =>
        if element.qualifier = name.qualifier ∧ element.tag.name = name.localName then
          .ok { builder with
            outer := outer
            members := .element element.tag (.ofReversed builder.members) :: element.before
            afterText := false }
        else .error .malformed
    | [] => .error .malformed

/-- The document, which needs an element at the top and all elements closed. -/
def finish (builder : Builder) : Except Fault Document :=
  let content := Content.ofReversed builder.members
  if builder.outer.isEmpty && content.hasElement then .ok (.ofContent content)
  else .error .malformed

end Builder
end Markup
end RecordExtraction
