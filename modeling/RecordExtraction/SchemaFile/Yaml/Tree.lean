import RecordExtraction.SchemaFile.Yaml.Meaning
import RecordExtraction.SchemaFile.Yaml.Scanner

/-!
# Trees of block-structured text

The tree that tokens spell.  Reading stops where the tokens break off or do not fit; the tree then
ends in a malformed node, and all open collections are closed around it.
-/

namespace RecordExtraction
namespace SchemaFile
namespace Yaml

/-- The tokens that are left and the names that were defined. -/
structure Remaining where
  tokens : List Token
  /-- The anchors by name, the latest first. -/
  anchors : List (String × Nat)
  /-- The handles of tags. -/
  handles : List String

namespace Remaining

/-- Nothing is left where the text breaks. -/
def broken (remaining : Remaining) : Remaining := { remaining with tokens := [] }

def next (remaining : Remaining) (tokens : List Token) : Remaining :=
  { remaining with tokens := tokens }

/-- The number of different names of anchors. -/
def anchorCount (remaining : Remaining) : Nat := (remaining.anchors.map (·.1)).eraseDups.length

/-- Defines an anchor.  Its number is the number of names before. -/
def define (remaining : Remaining) (name : Option String) : Option Nat × Remaining :=
  match name with
  | none => (none, remaining)
  | some name =>
      let id := remaining.anchorCount
      (some id, { remaining with anchors := (name, id) :: remaining.anchors })

end Remaining

/-- An anchored node, if it has an anchor. -/
def anchor (id : Option Nat) (node : Node) : Node := id.elim node (.anchored · node)

/-- The node of an absent scalar. -/
def absentNode : Node := .scalar (meaning .plain none "")

/-- What may stand in front of a node. -/
structure Properties where
  anchor : Option String
  tag : Option (String × String)

/-- Splits an anchor and a tag, in either order, from the front of the tokens. -/
def properties : List Token → Properties × List Token
  | .anchor name :: .tag handle suffix :: rest => (⟨some name, some (handle, suffix)⟩, rest)
  | .anchor name :: rest => (⟨some name, none⟩, rest)
  | .tag handle suffix :: .anchor name :: rest => (⟨some name, some (handle, suffix)⟩, rest)
  | .tag handle suffix :: rest => (⟨none, some (handle, suffix)⟩, rest)
  | rest => (⟨none, none⟩, rest)

/-- The token begins an item or ends a collection of block style. -/
def endsBlockNode : Token → Bool
  | .key | .value | .blockEnd => true
  | _ => false

mutual

/-- The node at the front of the tokens.  In a mapping of block style the items of a sequence may
stand without indentation. -/
def readNode : Nat → (inBlock unindented : Bool) → Remaining → Node × Remaining
  | 0, _, _, remaining => (.malformed, remaining.broken)
  | fuel + 1, inBlock, unindented, remaining =>
      match remaining.tokens with
      | .alias name :: rest =>
          match remaining.anchors.find? (·.1 == name) with
          | some (_, id) => (.alias id, remaining.next rest)
          | none => (.malformed, remaining.broken)
      | tokens =>
          let (properties, rest) := properties tokens
          if properties.tag.any fun (handle, _) =>
              !handle.isEmpty && !remaining.handles.contains handle then
            (.malformed, remaining.broken)
          else
            let (id, defined) := remaining.define properties.anchor
            match rest with
            | .blockEntry :: _ =>
                if unindented then
                  let (items, remaining) := readUnindentedItems fuel (defined.next rest)
                  (anchor id (.sequence items), remaining)
                else readAbsent remaining properties id defined rest
            | .scalar style text :: rest =>
                (anchor id (.scalar (meaning style properties.tag text)), defined.next rest)
            | .flowSequenceStart :: rest =>
                let (items, remaining) := readFlowItems fuel true (defined.next rest)
                (anchor id (.sequence items), remaining)
            | .flowMappingStart :: rest =>
                let (entries, remaining) := readFlowEntries fuel true (defined.next rest)
                (anchor id (.mapping entries), remaining)
            | .blockSequenceStart :: after =>
                if inBlock then
                  let (items, remaining) := readBlockItems fuel (defined.next after)
                  (anchor id (.sequence items), remaining)
                else readAbsent remaining properties id defined rest
            | .blockMappingStart :: after =>
                if inBlock then
                  let (entries, remaining) := readBlockEntries fuel (defined.next after)
                  (anchor id (.mapping entries), remaining)
                else readAbsent remaining properties id defined rest
            | [] => (.malformed, remaining.broken)
            | rest => readAbsent remaining properties id defined rest

/-- The items of a sequence of block style. -/
def readBlockItems : Nat → Remaining → List Node × Remaining
  | 0, remaining => ([.malformed], remaining.broken)
  | fuel + 1, remaining =>
      match remaining.tokens with
      | .blockEnd :: rest => ([], remaining.next rest)
      | .blockEntry :: rest =>
          let (item, remaining) :=
            match rest with
            | .blockEntry :: _ => (absentNode, remaining.next rest)
            | .blockEnd :: _ => (absentNode, remaining.next rest)
            | _ => readNode fuel true false (remaining.next rest)
          let (items, remaining) := readBlockItems fuel remaining
          (item :: items, remaining)
      | _ => ([.malformed], remaining.broken)

/-- The items of a sequence that is not indented in its mapping. -/
def readUnindentedItems : Nat → Remaining → List Node × Remaining
  | 0, remaining => ([.malformed], remaining.broken)
  | fuel + 1, remaining =>
      match remaining.tokens with
      | [] => ([.malformed], remaining.broken)
      | .blockEntry :: rest =>
          let absent :=
            match rest with
            | .blockEntry :: _ => true
            | token :: _ => endsBlockNode token
            | [] => false
          let (item, remaining) :=
            if absent then (absentNode, remaining.next rest)
            else readNode fuel true false (remaining.next rest)
          let (items, remaining) := readUnindentedItems fuel remaining
          (item :: items, remaining)
      | _ => ([], remaining)

/-- The entries of a mapping of block style. -/
def readBlockEntries : Nat → Remaining → List (Node × Node) × Remaining
  | 0, remaining => ([(.malformed, .malformed)], remaining.broken)
  | fuel + 1, remaining =>
      match remaining.tokens with
      | .blockEnd :: rest => ([], remaining.next rest)
      | .key :: rest =>
          let (key, remaining) := readBlockPart fuel (remaining.next rest)
          let (value, remaining) :=
            match remaining.tokens with
            | .value :: rest => readBlockPart fuel (remaining.next rest)
            | [] => (.malformed, remaining.broken)
            | _ => (absentNode, remaining)
          let (entries, remaining) := readBlockEntries fuel remaining
          ((key, value) :: entries, remaining)
      | _ => ([(.malformed, .malformed)], remaining.broken)

/-- The key or the value of an entry of block style, which may be absent. -/
def readBlockPart : Nat → Remaining → Node × Remaining
  | 0, remaining => (.malformed, remaining.broken)
  | fuel + 1, remaining =>
      if remaining.tokens.head?.any endsBlockNode then (absentNode, remaining)
      else readNode fuel true true remaining

/-- The items of a sequence in brackets. -/
def readFlowItems : Nat → (first : Bool) → Remaining → List Node × Remaining
  | 0, _, remaining => ([.malformed], remaining.broken)
  | fuel + 1, first, remaining =>
      match remaining.tokens with
      | .flowSequenceEnd :: rest => ([], remaining.next rest)
      | tokens =>
          let afterComma? :=
            match tokens with
            | .flowEntry :: rest => if first then some tokens else some rest
            | _ => if first then some tokens else none
          match afterComma? with
          | none => ([.malformed], remaining.broken)
          | some (.flowSequenceEnd :: rest) => ([], remaining.next rest)
          | some (.key :: rest) =>
              let (entries, remaining) := readSingleEntry fuel (remaining.next rest)
              let (items, remaining) := readFlowItems fuel false remaining
              (.mapping entries :: items, remaining)
          | some rest =>
              let (item, remaining) := readNode fuel false false (remaining.next rest)
              let (items, remaining) := readFlowItems fuel false remaining
              (item :: items, remaining)

/-- The only entry of a mapping that is an item of a sequence in brackets. -/
def readSingleEntry : Nat → Remaining → List (Node × Node) × Remaining
  | 0, remaining => ([(.malformed, .malformed)], remaining.broken)
  | fuel + 1, remaining =>
      let (key, remaining) :=
        match remaining.tokens with
        | .value :: rest => (absentNode, remaining.next rest)
        | .flowEntry :: rest => (absentNode, remaining.next rest)
        | .flowSequenceEnd :: rest => (absentNode, remaining.next rest)
        | _ => readNode fuel false false remaining
      let (value, remaining) :=
        match remaining.tokens with
        | .value :: rest =>
            match rest with
            | .flowEntry :: _ => (absentNode, remaining.next rest)
            | .flowSequenceEnd :: _ => (absentNode, remaining.next rest)
            | _ => readNode fuel false false (remaining.next rest)
        | [] => (.malformed, remaining.broken)
        | _ => (absentNode, remaining)
      if remaining.tokens.isEmpty then ([(key, value), (.malformed, .malformed)], remaining)
      else ([(key, value)], remaining)

/-- The entries of a mapping in braces. -/
def readFlowEntries : Nat → (first : Bool) → Remaining → List (Node × Node) × Remaining
  | 0, _, remaining => ([(.malformed, .malformed)], remaining.broken)
  | fuel + 1, first, remaining =>
      match remaining.tokens with
      | .flowMappingEnd :: rest => ([], remaining.next rest)
      | tokens =>
          let afterComma? :=
            match tokens with
            | .flowEntry :: rest => if first then some tokens else some rest
            | _ => if first then some tokens else none
          match afterComma? with
          | none => ([(.malformed, .malformed)], remaining.broken)
          | some (.flowMappingEnd :: rest) => ([], remaining.next rest)
          | some (.key :: rest) =>
              let (key, remaining) := readFlowPart fuel true (remaining.next rest)
              let (value, remaining) :=
                match remaining.tokens with
                | .value :: rest => readFlowPart fuel false (remaining.next rest)
                | [] => (.malformed, remaining.broken)
                | _ => (absentNode, remaining)
              let (entries, remaining) := readFlowEntries fuel false remaining
              ((key, value) :: entries, remaining)
          | some rest =>
              let (key, remaining) := readNode fuel false false (remaining.next rest)
              let value := if remaining.tokens.isEmpty then .malformed else absentNode
              let (entries, remaining) := readFlowEntries fuel false remaining
              ((key, value) :: entries, remaining)

/-- The key or the value of an entry in braces, which may be absent. -/
def readFlowPart : Nat → (isKey : Bool) → Remaining → Node × Remaining
  | 0, _, remaining => (.malformed, remaining.broken)
  | fuel + 1, isKey, remaining =>
      match remaining.tokens with
      | .flowEntry :: _ => (absentNode, remaining)
      | .flowMappingEnd :: _ => (absentNode, remaining)
      | .value :: _ =>
          if isKey then (absentNode, remaining) else readNode fuel false false remaining
      | _ => readNode fuel false false remaining

/-- The node that only its anchor or its tag shows. -/
def readAbsent (before : Remaining) (properties : Properties) (id : Option Nat)
    (defined : Remaining) (rest : List Token) : Node × Remaining :=
  if properties.anchor.isSome || properties.tag.isSome then
    (anchor id (.scalar (meaning .plain properties.tag "")), defined.next rest)
  else (.malformed, before.broken)

end

/-- The handles that need no directive. -/
def commonHandles : List String := ["!", "!!"]

/-- The versions that can be read. -/
def isKnownVersion (major minor : Nat) : Bool := major == 1 && (minor == 1 || minor == 2)

/-- Reads the directives in front of a document and its first token.  `versioned` says that a
version was declared, and `declared` are the handles that were declared. -/
def directives (versioned : Bool) (declared : List String) :
    List Token → Option (List String × List Token)
  | .versionDirective major minor :: rest =>
      if versioned || !isKnownVersion major minor then none else directives true declared rest
  | .tagDirective handle _ :: rest =>
      if declared.contains handle then none else directives versioned (handle :: declared) rest
  | .documentStart :: rest => some (declared, rest)
  | _ => none

/-- Only the end of the text follows a document. -/
def endsDocument : List Token → Bool
  | .documentEnd :: rest => endsDocument rest
  | [.streamEnd] => true
  | _ => false

/-- The root of a document after its first token, if it has one. -/
def readContent (fuel : Nat) (remaining : Remaining) : Node × Remaining :=
  match remaining.tokens with
  | .versionDirective .. :: _ => (absentNode, remaining)
  | .tagDirective .. :: _ => (absentNode, remaining)
  | .documentStart :: _ => (absentNode, remaining)
  | .documentEnd :: _ => (absentNode, remaining)
  | .streamEnd :: _ => (absentNode, remaining)
  | _ => readNode fuel true false remaining

/-- The root of a document and what is left after it.  A text without any token holds an absent
scalar. -/
def readDocument (fuel : Nat) (tokens : List Token) : Node × Remaining :=
  let remaining : Remaining := ⟨tokens, [], commonHandles⟩
  let explicit :=
    match directives false [] tokens with
    | some (declared, rest) =>
        readContent fuel ⟨rest, [], declared ++ commonHandles⟩
    | none => (.malformed, remaining.broken)
  match tokens with
  | .versionDirective .. :: _ => explicit
  | .tagDirective .. :: _ => explicit
  | .documentStart :: _ => explicit
  | .streamEnd :: _ => (absentNode, remaining)
  | _ => readNode fuel true false remaining

/-- The data of a text.  Every call of the reader takes a token or is followed by one that does, so
that the number of tokens bounds the depth of reading. -/
def read (text : String) : Data :=
  let tokens := scan text.toList
  let (root, remaining) := readDocument (4 * tokens.length + 4) tokens
  ⟨root, endsDocument remaining.tokens, false⟩

end Yaml
end SchemaFile
end RecordExtraction
