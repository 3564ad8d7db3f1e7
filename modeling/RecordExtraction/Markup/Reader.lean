import RecordExtraction.Markup.Builder

/-!
# Reading a document

The grammar of documents.  An entity is expanded where it is referred to: in an attribute its value
is text, in content it is read like the rest of the document.  Expansion is nested at most
`maxNesting` deep, which bounds the whole reading.
-/

namespace RecordExtraction
namespace Markup

/-- What is allowed in a document. -/
structure Limits where
  allowTypeDeclaration : Bool
  nodesLimit : Nat
deriving DecidableEq

namespace Reader

open Reading

/-- How deep references to entities may be nested. -/
def maxNesting : Nat := 10

/-- How many references may occur inside one outermost entity. -/
def maxReferences : Nat := 255

/-- Counts a reference to an entity; an outermost one is free.  `nesting` is the number of entities
that may still be nested. -/
def countReference (nesting references : Nat) : Except Fault Nat :=
  if nesting = maxNesting then .ok references
  else if references < maxReferences then .ok (references + 1)
  else .error .malformed

/-- After an outermost entity, counting begins anew. -/
def leaveEntity (nesting references : Nat) : Nat :=
  if nesting = maxNesting then 0 else references

/-! ## Attributes -/

/-- White space in the value of an attribute becomes a space. -/
def flatten (c : Char) : Char :=
  if isSpace c then ' ' else c

/-- Expands the value of an attribute.  `done` is the value so far, in reverse.  The second result
is the number of references inside the current outermost entity. -/
def expandValue (builder : Builder) (nesting references : Nat) (done input : List Char) :
    Except Fault (List Char × Nat) :=
  match input with
  | [] => .ok (done, references)
  | '&' :: rest => do
      match Reference.read rest with
      | .error fault => .error fault
      | .ok ⟨.char c, left, _⟩ =>
          if nesting = maxNesting then expandValue builder nesting references (c :: done) left
          else if c == '<' then .error .malformed
          else expandValue builder nesting references (flatten c :: done) left
      | .ok ⟨.entity name, left, _⟩ =>
          match nesting, builder.entity? name with
          | inner + 1, some value =>
              match countReference (inner + 1) references with
              | .error fault => .error fault
              | .ok counted =>
                  match expandValue builder inner counted done value with
                  | .error fault => .error fault
                  | .ok (done, references) =>
                      expandValue builder (inner + 1) (leaveEntity (inner + 1) references) done left
          | _, _ => .error .malformed
  | c :: rest =>
      if c == '\r' && rest.head? == some '\n' then expandValue builder nesting references done rest
      else expandValue builder nesting references (flatten c :: done) rest
termination_by (nesting, input.length)
decreasing_by
  all_goals simp_wf
  all_goals omega

/-- How a start tag ends. -/
inductive TagEnd where
  /-- With a slash: the element has no content. -/
  | empty
  | content
  /-- The entity that contains the tag ends before the tag. -/
  | unfinished

/-- Takes an attribute as it is written: name, equals sign and quoted value. -/
def writtenAttribute (input : List Char) :
    Except Fault (Reading (QualifiedName × List Char) input) := do
  let ⟨name, rest, le⟩ ← qualifiedName input
  let ⟨_, rest, le'⟩ ← equals rest
  let ⟨value, rest, le''⟩ ← attributeValue rest
  .ok ⟨(name, value), rest, length_le_of_three le le' le''⟩

/-- Adds an attribute to the current start tag. -/
def addWritten (builder : Builder) (nesting : Nat) (name : QualifiedName) (value : List Char) :
    Except Fault Builder := do
  let (value, references) ← expandValue builder nesting builder.references [] value
  { builder with references := references }.addAttribute ⟨name, String.ofList value.reverse⟩

/-- Reads the attributes of a start tag, each after a space, and the end of the tag. -/
def tagRest (builder : Builder) (nesting : Nat) (input : List Char) :
    Except Fault (Builder × Reading TagEnd input) :=
  match input with
  | [] => .ok (builder, ⟨.unfinished, [], Nat.le_refl _⟩)
  | '/' :: rest =>
      (literal ">" rest).map fun ⟨_, left, le⟩ => (builder, ⟨.empty, left, Nat.le_succ_of_le le⟩)
  | '>' :: rest => .ok (builder, ⟨.content, rest, Nat.le_succ _⟩)
  | c :: tail =>
      if isSpace c then
        let ⟨_, start, hstart⟩ := spaces tail
        match start.head? with
        | none => .error .malformed
        | some d =>
            if d == '/' || d == '>' then
              (tagRest builder nesting start).map fun (builder, reading) =>
                (builder, reading.weaken (Nat.le_succ_of_le hstart))
            else
              match writtenAttribute start with
              | .error fault => .error fault
              | .ok ⟨(name, value), left, le⟩ =>
                  match addWritten builder nesting name value with
                  | .error fault => .error fault
                  | .ok builder =>
                      (tagRest builder nesting left).map fun (builder, reading) =>
                        (builder, reading.weaken (Nat.le_succ_of_le (Nat.le_trans le hstart)))
      else .error .malformed
termination_by input.length
decreasing_by
  all_goals simp_wf
  all_goals omega

/-- Reads a start tag after the angle bracket and adds the element, if the tag is finished. -/
def startTag (builder : Builder) (nesting : Nat) (input : List Char) :
    Except Fault (Builder × Reading TagEnd input) := do
  let ⟨name, rest, le⟩ ← qualifiedName input
  if name.qualifier = "xmlns" then .error .malformed
  else
    let (builder, ⟨ending, rest, le'⟩) ←
      tagRest { builder with tagSeen := true, afterText := false } nesting rest
    let builder ←
      match ending with
      | .empty => builder.addEmpty name
      | .content => builder.openElement name
      | .unfinished => .ok builder
    .ok (builder, ⟨ending, rest, length_le_of_two le le'⟩)

/-- Reads an end tag after the slash. -/
def endTag (builder : Builder) (input : List Char) :
    Except Fault (Builder × Reading Unit input) := do
  let ⟨name, rest, le⟩ ← qualifiedName input
  let ⟨_, rest, le'⟩ := spaces rest
  let ⟨_, rest, le''⟩ ← literal ">" rest
  let builder ← { builder with afterText := false }.closeElement name
  .ok (builder, ⟨(), rest, length_le_of_three le le' le''⟩)

/-! ## Leaves -/

/-- The text contains another one. -/
def containsText (text : String) (chars : List Char) : Bool :=
  (splitFirst? text.toList chars).isSome

/-- Reads a comment after its opening.  Inside, two hyphens must not meet, and the last character
must not be a hyphen. -/
def comment (builder : Builder) (input : List Char) :
    Except Fault (Builder × Reading Unit input) := do
  let ⟨value, rest, le⟩ ← text (startsWith "-->") input
  let ⟨_, rest, le'⟩ ← literal "-->" rest
  if containsText "--" value || value.getLast? == some '-' then .error .malformed
  else
    let builder ← builder.addLeaf (.comment (String.ofList value))
    .ok (builder, ⟨(), rest, length_le_of_two le le'⟩)

/-- Reads a processing instruction after its opening.  A declaration of the document is none. -/
def instruction (builder : Builder) (input : List Char) :
    Except Fault (Builder × Reading Unit input) := do
  if startsWith "xml " input then .error .malformed
  else
    let ⟨target, rest, le⟩ ← name input
    let ⟨_, rest, le'⟩ := spaces rest
    let ⟨data, rest, le''⟩ ← text (startsWith "?>") rest
    let ⟨_, rest, le₃⟩ ← literal "?>" rest
    let data? := if data.isEmpty then none else some (String.ofList data)
    let builder ← builder.addLeaf (.instruction (String.ofList target) data?)
    .ok (builder, ⟨(), rest, length_le_of_two (length_le_of_three le le' le'') le₃⟩)

/-- Appends a character to a text in reverse.  A carriage return with the line feed after it, or
alone, is one line feed; `last` says that no character follows. -/
def pushLine (done : List Char) (c : Char) (last : Bool) : List Char :=
  let ended := last && c == '\r'
  match done with
  | '\r' :: before =>
      if ended then '\n' :: '\n' :: before
      else if c == '\n' then '\n' :: before
      else c :: '\n' :: before
  | _ => if ended then '\n' :: done else c :: done

/-- The characters of a marked section with line ends made line feeds.  `done` is the text so far,
in reverse. -/
def sectionText (done : List Char) : List Char → List Char
  | [] => done.reverse
  | c :: rest => sectionText (pushLine done c rest.isEmpty) rest

/-- Reads a marked section after its opening.  It is text even when it is empty. -/
def markedSection (builder : Builder) (input : List Char) :
    Except Fault (Builder × Reading Unit input) := do
  let ⟨value, rest, le⟩ ← text (startsWith "]]>") input
  let ⟨_, rest, le'⟩ ← literal "]]>" rest
  let builder ← builder.addText (sectionText [] value)
  .ok (builder, ⟨(), rest, length_le_of_two le le'⟩)

/-- Reads a comment or a marked section after the exclamation mark. -/
def marked (builder : Builder) (input : List Char) : Except Fault (Builder × Reading Unit input) :=
  match h : afterStart? "--".toList input with
  | some rest =>
      (comment builder rest).map fun (builder, reading) =>
        (builder, reading.weaken (length_afterStart?_le h))
  | none =>
      match h : afterStart? "[CDATA[".toList input with
      | some rest =>
          (markedSection builder rest).map fun (builder, reading) =>
            (builder, reading.weaken (length_afterStart?_le h))
      | none => .error .malformed

/-! ## Content -/

/-- Adds the text read so far, unless there is none. -/
def flush (builder : Builder) (done : List Char) : Except Fault Builder :=
  if done.isEmpty then .ok builder else builder.addText done.reverse

mutual

/-- Reads a run of text up to the next tag.  `done` is the text so far, in reverse; `verbatim` says
that the next character follows a reference and keeps its form. -/
def textRun (builder : Builder) (nesting : Nat) (done : List Char) (verbatim : Bool)
    (input : List Char) : Except Fault Builder :=
  match input with
  | [] => flush builder done
  | '&' :: rest =>
      match Reference.read rest with
      | .error fault => .error fault
      | .ok ⟨.char c, left, _⟩ =>
          if nesting = maxNesting then textRun builder nesting (c :: done) true left
          else textRun builder nesting (pushLine done c left.isEmpty) verbatim left
      | .ok ⟨.entity name, left, _⟩ =>
          match builder.entity? name with
          | none => .error .malformed
          | some value =>
              match flush builder done with
              | .error fault => .error fault
              | .ok before =>
                  match nesting, countReference nesting before.references with
                  | inner + 1, .ok references =>
                      match content { before with references := references, tagSeen := false }
                          inner 1 value with
                      | .error fault => .error fault
                      | .ok (after, _) =>
                          textRun
                            { after with
                              references := leaveEntity (inner + 1) after.references
                              tagSeen := before.tagSeen }
                            (inner + 1) [] false left
                  | _, _ => .error .malformed
  | c :: rest =>
      if verbatim then textRun builder nesting (c :: done) false rest
      else textRun builder nesting (pushLine done c rest.isEmpty) false rest
termination_by (nesting, 0, input.length)
decreasing_by
  all_goals
    first
    | (apply Prod.Lex.left; omega)
    | (apply Prod.Lex.right; apply Prod.Lex.left; omega)
    | (apply Prod.Lex.right; apply Prod.Lex.right; simp only [List.length_cons]; omega)

/-- Reads content until the end of the element at the given level, counted from the place where
reading began, or to the end of the input. -/
def content (builder : Builder) (nesting level : Nat) (input : List Char) :
    Except Fault (Builder × List Char) :=
  match input with
  | [] => .ok (builder, [])
  | '<' :: '/' :: rest =>
      match endTag builder rest with
      | .error fault => .error fault
      | .ok (builder, ⟨_, left, _⟩) =>
          if level ≤ 1 then .ok (builder, left) else content builder nesting (level - 1) left
  | '<' :: '?' :: rest =>
      match instruction builder rest with
      | .error fault => .error fault
      | .ok (builder, ⟨_, left, _⟩) => content builder nesting level left
  | '<' :: '!' :: rest =>
      match marked builder rest with
      | .error fault => .error fault
      | .ok (builder, ⟨_, left, _⟩) => content builder nesting level left
  | '<' :: rest =>
      match startTag builder nesting rest with
      | .error fault => .error fault
      | .ok (builder, ⟨.content, left, _⟩) => content builder nesting (level + 1) left
      | .ok (builder, ⟨_, left, _⟩) => content builder nesting level left
  | c :: rest =>
      match text (fun left => left.head? == some '<') rest with
      | .error fault => .error fault
      | .ok ⟨run, left, _⟩ =>
          if !isDocumentChar c || containsText "]]>" (c :: run) then .error .malformed
          else
            match textRun builder nesting [] false (c :: run) with
            | .error fault => .error fault
            | .ok builder => content builder nesting level left
termination_by (nesting, 1, input.length)
decreasing_by
  all_goals
    first
    | (apply Prod.Lex.left; omega)
    | (apply Prod.Lex.right; apply Prod.Lex.left; omega)
    | (apply Prod.Lex.right; apply Prod.Lex.right; simp only [List.length_cons]; omega)

end

/-! ## The document type declaration -/

/-- Skips the name of an external part, if there is one, and tells whether there was. -/
def externalName (input : List Char) : Except Fault (Reading Bool input) :=
  if startsWith "SYSTEM" input then do
    let ⟨_, rest, le⟩ ← literal "SYSTEM" input
    let ⟨_, rest, le'⟩ ← someSpaces rest
    let ⟨_, rest, le''⟩ ← quotedValue rest
    .ok ⟨true, rest, length_le_of_three le le' le''⟩
  else if startsWith "PUBLIC" input then do
    let ⟨_, rest, le⟩ ← literal "PUBLIC" input
    let ⟨_, rest, le'⟩ ← someSpaces rest
    let ⟨_, rest, le''⟩ ← quotedValue rest
    let ⟨_, rest, le₃⟩ ← someSpaces rest
    let ⟨_, rest, le₄⟩ ← quotedValue rest
    .ok ⟨true, rest, length_le_of_three (length_le_of_three le le' le'') le₃ le₄⟩
  else .ok ⟨false, input, Nat.le_refl _⟩

/-- Skips the notation of an external entity, if there is one. -/
def externalNotation (input : List Char) : Except Fault (Reading Unit input) := do
  let ⟨_, rest, le⟩ := spaces input
  if startsWith "NDATA" rest then
    let ⟨_, rest, le'⟩ ← literal "NDATA" rest
    let ⟨_, rest, le''⟩ ← someSpaces rest
    let ⟨_, rest, le₃⟩ ← name rest
    .ok ⟨(), rest, length_le_of_two (length_le_of_three le le' le'') le₃⟩
  else .ok ⟨(), rest, le⟩

/-- Reads what an entity stands for.  An external entity has no value. -/
def entityValue (general : Bool) (input : List Char) :
    Except Fault (Reading (Option (List Char)) input) := do
  match input.head? with
  | some c =>
      if c == '"' || c == '\'' then
        let ⟨value, rest, le⟩ ← quotedValue input
        .ok ⟨some value, rest, le⟩
      else
        let ⟨isExternal, rest, le⟩ ← externalName input
        if !isExternal then .error .malformed
        else if general then
          let ⟨_, rest, le'⟩ ← externalNotation rest
          .ok ⟨none, rest, length_le_of_two le le'⟩
        else .ok ⟨none, rest, le⟩
  | none => .error .malformed

/-- Skips the mark of an entity for use in the declarations themselves, and tells whether the entity
is for general use, without the mark. -/
def entityUse (input : List Char) : Except Fault (Reading Bool input) :=
  match input with
  | '%' :: left => (someSpaces left).map fun ⟨_, left, le⟩ => ⟨false, left, Nat.le_succ_of_le le⟩
  | rest => .ok ⟨true, rest, Nat.le_refl _⟩

/-- Reads the declaration of an entity after its opening.  Only an entity for general use with a
value is remembered. -/
def entityDeclaration (builder : Builder) (input : List Char) :
    Except Fault (Builder × Reading Unit input) := do
  let ⟨_, rest, le⟩ ← someSpaces input
  let ⟨general, rest, le'⟩ ← entityUse rest
  let ⟨entity, rest, le''⟩ ← name rest
  let ⟨_, rest, le₃⟩ ← someSpaces rest
  let ⟨value?, rest, le₄⟩ ← entityValue general rest
  let ⟨_, rest, le₅⟩ := spaces rest
  let ⟨_, rest, le₆⟩ ← literal ">" rest
  let builder :=
    match general, value? with
    | true, some value =>
        { builder with entities := builder.entities ++ [(String.ofList entity, value)] }
    | _, _ => builder
  .ok (builder, ⟨(), rest, by omega⟩)

/-- Skips a declaration that has no effect. -/
def skipDeclaration (input : List Char) : Except Fault (Reading Unit input) := do
  let ⟨_, rest, le⟩ := takeUntil (fun left => left.head? == some '>') input
  let ⟨_, rest, le'⟩ ← literal ">" rest
  .ok ⟨(), rest, length_le_of_two le le'⟩

/-- Reads one declaration, comment or processing instruction after the angle bracket. -/
def subsetItem (builder : Builder) (input : List Char) :
    Except Fault (Builder × Reading Unit input) :=
  match h : afterStart? "!ENTITY".toList input, h' : afterStart? "!--".toList input,
      h'' : afterStart? "?".toList input with
  | some left, _, _ =>
      (entityDeclaration builder left).map fun (builder, reading) =>
        (builder, reading.weaken (length_afterStart?_le h))
  | _, some left, _ =>
      (comment builder left).map fun (builder, reading) =>
        (builder, reading.weaken (length_afterStart?_le h'))
  | _, _, some left =>
      (instruction builder left).map fun (builder, reading) =>
        (builder, reading.weaken (length_afterStart?_le h''))
  | none, none, none =>
      if startsWith "!ELEMENT" input || startsWith "!ATTLIST" input ||
          startsWith "!NOTATION" input then
        (skipDeclaration input).map fun reading => (builder, reading)
      else .error .malformed

/-- Reads the declarations in brackets up to the end of the document type declaration. -/
def subset (builder : Builder) (input : List Char) : Except Fault (Builder × List Char) :=
  match input with
  | [] => .error .malformed
  | ']' :: rest => do
      let ⟨_, rest, _⟩ := spaces rest
      let ⟨_, rest, _⟩ ← literal ">" rest
      .ok (builder, rest)
  | '<' :: rest =>
      match subsetItem builder rest with
      | .error fault => .error fault
      | .ok (builder, ⟨_, left, _⟩) => subset builder left
  | c :: rest => if isSpace c then subset builder rest else .error .malformed
termination_by input.length
decreasing_by
  all_goals simp_wf
  all_goals omega

/-- Reads the document type declaration after its opening. -/
def typeDeclaration (builder : Builder) (input : List Char) :
    Except Fault (Builder × List Char) := do
  let ⟨_, rest, _⟩ ← someSpaces input
  let ⟨_, rest, _⟩ ← name rest
  let ⟨_, rest, _⟩ := spaces rest
  let ⟨_, rest, _⟩ ← externalName rest
  let ⟨_, rest, _⟩ := spaces rest
  match rest with
  | '>' :: rest => .ok (builder, rest)
  | '[' :: rest => subset builder rest
  | _ => .error .malformed

/-! ## The document -/

/-- Skips the spaces between two values of the declaration, which only its end does without. -/
def declarationSpaces (input : List Char) : Except Fault (List Char) :=
  match input with
  | [] => .ok []
  | c :: _ => if isSpace c || startsWith "?>" input then .ok (spaces input).rest
      else .error .malformed

/-- Reads the declaration of the document after its opening: a version and, optionally, an encoding
and whether the document stands alone, in this order. -/
def declaration (input : List Char) : Except Fault (List Char) := do
  let ⟨_, rest, _⟩ := spaces input
  if !startsWith "version" rest then .error .malformed
  else
    let ⟨_, rest, _⟩ ← writtenAttribute rest
    let rest ← declarationSpaces rest
    let rest ←
      if startsWith "encoding" rest then do
        let ⟨_, rest, _⟩ ← writtenAttribute rest
        declarationSpaces rest
      else .ok rest
    let rest ←
      if startsWith "standalone" rest then do
        let ⟨_, rest, _⟩ ← writtenAttribute rest
        .ok rest
      else .ok rest
    let ⟨_, rest, _⟩ := spaces rest
    let ⟨_, rest, _⟩ ← literal "?>" rest
    .ok rest

/-- Reads comments, processing instructions and spaces outside the root element. -/
def miscellany (builder : Builder) (input : List Char) : Except Fault (Builder × List Char) :=
  match input with
  | '<' :: '!' :: '-' :: '-' :: rest =>
      match comment builder rest with
      | .error fault => .error fault
      | .ok (builder, ⟨_, left, _⟩) => miscellany builder left
  | '<' :: '?' :: rest =>
      match instruction builder rest with
      | .error fault => .error fault
      | .ok (builder, ⟨_, left, _⟩) => miscellany builder left
  | c :: rest => if isSpace c then miscellany builder rest else .ok (builder, c :: rest)
  | [] => .ok (builder, [])
termination_by input.length
decreasing_by
  all_goals simp_wf
  all_goals omega

/-- Reads the document type declaration, if there is one, and what follows it. -/
def prologEnd (limits : Limits) (builder : Builder) (input : List Char) :
    Except Fault (Builder × List Char) :=
  match afterStart? "<!DOCTYPE".toList input with
  | some rest => do
      if !limits.allowTypeDeclaration then .error .typeDeclaration
      else
        let (builder, rest) ← typeDeclaration builder rest
        miscellany builder rest
  | none => .ok (builder, input)

/-- Reads the root element. -/
def rootElement (builder : Builder) (input : List Char) : Except Fault (Builder × List Char) :=
  match input with
  | '<' :: rest => do
      let (builder, ⟨ending, rest, _⟩) ← startTag builder maxNesting rest
      match ending with
      | .content => content builder maxNesting 1 rest
      | _ => .ok (builder, rest)
  | rest => .ok (builder, rest)

/-- The text without a byte order mark in front of it. -/
def dropMark (input : List Char) : List Char :=
  if input.head? == some (Char.ofNat 0xfeff) then input.tail else input

/-- Reads a whole document.  A byte order mark in front of it is skipped. -/
def document (limits : Limits) (input : List Char) : Except Fault Document := do
  let rest := dropMark input
  let rest ←
    match afterStart? "<?xml ".toList rest with
    | some rest => declaration rest
    | none => .ok rest
  let (builder, rest) ← miscellany { nodesLimit := limits.nodesLimit } rest
  let (builder, rest) ← prologEnd limits builder rest
  let (builder, rest) ← rootElement builder rest
  let (builder, rest) ← miscellany builder rest
  if rest.isEmpty then builder.finish else .error .malformed

end Reader

/-- The document that a text denotes.  One byte order mark is dropped before reading begins, and
reading skips another one. -/
def Document.parse (limits : Limits) (text : String) : Except Fault Document :=
  Reader.document limits (Reader.dropMark text.toList)

end Markup
end RecordExtraction
