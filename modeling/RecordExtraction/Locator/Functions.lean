import RecordExtraction.Locator.Value
import RecordExtraction.Text.LowerCase
import RecordExtraction.Text.Search

/-!
# The functions of locators

What each function returns for the values of its arguments, at the place where it is called.  The
functions on texts are functions on lists of characters, so that positions count characters.
-/

namespace RecordExtraction
namespace Locator

open Markup

/-- Where an expression is evaluated: at an item, which is one of `size` items and stands at
`position` among them, counted from one. -/
structure Context where
  item : Item
  position : Nat
  size : Nat
deriving DecidableEq, Repr

/-! ## Texts -/

def startsWith (text start : List Char) : Bool := (afterStart? start text).isSome

def contains (text part : List Char) : Bool := (splitFirst? part text).isSome

/-- The part of a text before the first occurrence of another, empty if there is none. -/
def substringBefore (text part : List Char) : List Char :=
  (splitFirst? part text).elim [] (·.1)

/-- The part of a text after the first occurrence of another, empty if there is none. -/
def substringAfter (text part : List Char) : List Char :=
  (splitFirst? part text).elim [] (·.2)

/-- The characters at the positions from `start` up to but without `stop`.  `position` is the
position of the first character of the list. -/
def charsBetween (start : Double) (stop : Option Double) (position : Nat) :
    List Char → List Char
  | [] => []
  | c :: rest =>
      let here : Double := .ofNat position
      let kept := charsBetween start stop (position + 1) rest
      if start.lessOrEqual here && stop.all here.less then c :: kept else kept

/-- The characters from a rounded position on, as many as a rounded length says, or all of them. -/
def substring (text : List Char) (start : Double) (length : Option Double) : List Char :=
  let start := roundHalfUp start
  charsBetween start (length.map fun length => start.add (roundHalfUp length)) 1 text

/-- The words of a text with one space between them. -/
def normalizeSpace (text : List Char) : List Char :=
  [' '].intercalate (words isSpace text)

/-- Replaces each character that occurs in `from` by the character at the same place of `to`, or
leaves it out when there is none. -/
def translate (text source target : List Char) : List Char :=
  text.filterMap fun c =>
    match source.idxOf? c with
    | some place => target[place]?
    | none => some c

/-- A language is the wanted one or a variant of it; letters in either case are the same. -/
def isLanguage (wanted found : String) : Bool :=
  let wanted := (lowerCase wanted).toList
  let found := (lowerCase found).toList
  found == wanted || startsWith found (wanted ++ ['-'])

/-! ## Nodes -/

/-- The value of an attribute in the namespace of `xml` on an element. -/
def xmlAttribute? (document : Document) (name : String) (id : Nat) : Option String :=
  (document.tag? id).bind fun tag =>
    (tag.attributes.find? fun found => found.uri == some xmlNamespace && found.name == name).map
      (·.value)

/-- The elements whose identifier is one of the words. -/
def elementsById (document : Document) (wanted : List (List Char)) : List Item :=
  (document.all.filter fun id =>
    (xmlAttribute? document "id" id).any fun found => wanted.contains found.toList).map .node

/-- The language declared nearest to a node. -/
def language? (document : Document) (id : Nat) : Option String :=
  (id :: document.ancestors id).findSome? (xmlAttribute? document "lang")

/-- The sum of the numbers that the items denote.  The sum of no items is negative zero. -/
def sumOf (document : Document) (items : List Item) : Double :=
  items.foldl (fun sum item => sum.add (parseNumber (item.text document))) (.zero true)

/-- The words that name the elements to find. -/
def identifiers (document : Document) : Value → List (List Char)
  | .nodes items => items.flatMap fun item => words isSpace (item.text document).toList
  | value => words isSpace (value.toText document).toList

/-! ## Calls -/

/-- The text of the only argument, or of the context item without one. -/
def textOrContext (document : Document) (context : Context) : List Value → String
  | value :: _ => value.toText document
  | [] => context.item.text document

/-- The first item of the only argument, or the context item without one. -/
def itemOrContext (context : Context) : List Value → Except PathError (Option Item)
  | value :: _ => value.items.map List.head?
  | [] => .ok (some context.item)

/-- A text that an item has, empty if there is no item. -/
def describe (context : Context) (values : List Value) (property : Item → String) :
    Except PathError Value := do
  let item? ← itemOrContext context values
  .ok (.text (item?.elim "" property))

/-- The value of a call for the values of its arguments. -/
def CoreFunction.apply (document : Document) (context : Context) (function : CoreFunction)
    (values : List Value) : Except PathError Value :=
  let text : Value → List Char := fun value => (value.toText document).toList
  let ofChars : List Char → Except PathError Value := fun chars => .ok (.text (String.ofList chars))
  match function, values with
  | .last, [] => .ok (.number (.ofNat context.size))
  | .position, [] => .ok (.number (.ofNat context.position))
  | .count, [value] => do .ok (.number (.ofNat (← value.items).length))
  | .id, [value] => .ok (.nodes (elementsById document (identifiers document value)))
  | .localName, values => describe context values (Item.localName document)
  | .namespaceUri, values => describe context values fun item =>
      (item.namespaceUri document).getD ""
  | .name, values => describe context values (Item.qualifiedName document)
  | .string, values => .ok (.text (textOrContext document context values))
  | .concat, values => ofChars (values.flatMap text)
  | .startsWith, [a, b] => .ok (.boolean (Locator.startsWith (text a) (text b)))
  | .contains, [a, b] => .ok (.boolean (Locator.contains (text a) (text b)))
  | .substringBefore, [a, b] => ofChars (Locator.substringBefore (text a) (text b))
  | .substringAfter, [a, b] => ofChars (Locator.substringAfter (text a) (text b))
  | .substring, [a, start] =>
      ofChars (Locator.substring (text a) (start.toNumber document) none)
  | .substring, [a, start, length] =>
      ofChars
        (Locator.substring (text a) (start.toNumber document) (some (length.toNumber document)))
  | .stringLength, values =>
      .ok (.number (.ofNat (textOrContext document context values).length))
  | .normalizeSpace, values =>
      ofChars (Locator.normalizeSpace (textOrContext document context values).toList)
  | .translate, [a, source, target] =>
      ofChars (Locator.translate (text a) (text source) (text target))
  | .boolean, [value] => .ok (.boolean value.toBool)
  | .not, [value] => .ok (.boolean !value.toBool)
  | .true, [] => .ok (.boolean Bool.true)
  | .false, [] => .ok (.boolean Bool.false)
  | .lang, [value] =>
      .ok (.boolean
        ((language? document context.item.anchor).any (isLanguage (value.toText document))))
  | .number, [] => .ok (.number (parseNumber (context.item.text document)))
  | .number, value :: _ => .ok (.number (value.toNumber document))
  | .sum, [value] => do .ok (.number (sumOf document (← value.items)))
  | .floor, [value] => .ok (.number (value.toNumber document).floor)
  | .ceiling, [value] => .ok (.number (value.toNumber document).ceiling)
  | .round, [value] => .ok (.number (roundHalfUp (value.toNumber document)))
  | function, values => .error (.argumentCount function.spelling values.length)

end Locator
end RecordExtraction
