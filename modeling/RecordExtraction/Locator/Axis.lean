import RecordExtraction.Locator.Expr
import RecordExtraction.Locator.Item

/-!
# Axes and node tests

The items that a step from an item can reach, in order of proximity: in document order, or nearest
first on the axes that lead backwards.  An attribute has neither children nor siblings, and the
nodes of namespaces are not modelled.
-/

namespace RecordExtraction
namespace Locator

open Markup

/-- The items on an axis from an item, the nearest first. -/
def Axis.items (document : Document) (axis : Axis) (item : Item) : List Item :=
  match axis, item with
  | .self, _ => [item]
  | .child, .node id => (document.children id).map .node
  | .descendant, .node id => (document.descendants id).map .node
  | .descendantOrSelf, .node id => (id :: document.descendants id).map .node
  | .descendantOrSelf, .attribute .. => [item]
  | .parent, .node id => (document.parent? id).toList.map .node
  | .parent, .attribute owner _ => [.node owner]
  | .ancestor, .node id => (document.ancestors id).map .node
  | .ancestor, .attribute owner _ => (owner :: document.ancestors owner).map .node
  | .ancestorOrSelf, .node id => (id :: document.ancestors id).map .node
  | .ancestorOrSelf, .attribute owner _ =>
      item :: (owner :: document.ancestors owner).map .node
  | .followingSibling, .node id => (document.followingSiblings id).map .node
  | .precedingSibling, .node id => (document.precedingSiblings id).map .node
  | .following, .node id => (document.following id).map .node
  | .following, .attribute owner _ => (document.all.filter (owner < ·)).map .node
  | .preceding, item => (document.preceding item.anchor).map .node
  | .attributes, .node id => Item.attributesOf document id
  | _, _ => []

/-- A part of a name test that is given has to be equal. -/
def agrees (wanted : Option String) (found : String) : Bool :=
  wanted.all (· == found)

/-- The namespace of an item is the one that the qualifier stands for at this place. -/
def inNamespace (scope : Scope) (qualifier : String) (uri : Option String) : Bool :=
  match scope.uri? (some qualifier) with
  | some wanted => uri == some wanted
  | none => false

/-- An attribute passes a name test.  A local name without a qualifier asks for an attribute without
a namespace. -/
def testAttribute (scope : Scope) (qualifier localName : Option String) (found : Attribute) :
    Bool :=
  let namespaceAgrees :=
    match qualifier with
    | some qualifier => inNamespace scope qualifier found.uri
    | none => localName.isNone || found.uri.isNone
  namespaceAgrees && agrees localName found.name

/-- An element passes a name test.  Without a qualifier the namespace is not compared. -/
def testElement (qualifier localName : Option String) (tag : Tag) : Bool :=
  let namespaceAgrees :=
    match qualifier with
    | some qualifier => inNamespace tag.scope qualifier tag.uri
    | none => true
  namespaceAgrees && agrees localName tag.name

/-- An item on an axis passes a test.  The names of attributes count on their own axis only, those
of elements on all others. -/
def NodeTest.accepts (document : Document) (axis : Axis) (test : NodeTest) (item : Item) : Bool :=
  match test, item with
  | .any, _ => true
  | .text, .node id => (document.leaf? id matches some (.text _))
  | .comment, .node id => (document.leaf? id matches some (.comment _))
  | .instruction wanted, .node id =>
      match document.leaf? id with
      | some (.instruction target _) => agrees wanted target
      | _ => false
  | .name qualifier localName, .attribute owner _ =>
      axis = .attributes &&
        (item.attribute? document).any (testAttribute (document.scope owner) qualifier localName)
  | .name qualifier localName, .node id =>
      axis ≠ .attributes && (document.tag? id).any (testElement qualifier localName)
  | _, _ => false

/-- The items that a step reaches before its predicates are applied. -/
def candidates (document : Document) (axis : Axis) (test : NodeTest) (item : Item) : List Item :=
  (axis.items document item).filter (test.accepts document axis)

end Locator
end RecordExtraction
