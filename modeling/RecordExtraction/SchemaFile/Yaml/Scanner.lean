import RecordExtraction.SchemaFile.Yaml.BlockScalar
import RecordExtraction.SchemaFile.Yaml.Tag
import RecordExtraction.SchemaFile.Yaml.Token

/-!
# Scanning block-structured text

Tokens are found from left to right.  Whether a scalar is a key is seen only at the colon after it;
then the tokens that mark a key and perhaps a new mapping are inserted in front of it.  Until this
is decided the scalar and all tokens after it are withheld, and where the text breaks they are lost.
-/

namespace RecordExtraction
namespace SchemaFile
namespace Yaml

/-- A token that may turn out to be a key. -/
structure KeyCandidate where
  /-- The number of tokens in front of it. -/
  position : Nat
  mark : Mark
  /-- It stands where only a key can stand. -/
  required : Bool
deriving DecidableEq, Repr

/-- The greatest number of characters of a key. -/
def keyLimit : Nat := 1024

/-- A key has to end in its line and within the limit. -/
def KeyCandidate.isStale (candidate : KeyCandidate) (mark : Mark) : Bool :=
  candidate.mark.line < mark.line || candidate.mark.index + keyLimit < mark.index

/-- A candidate at a position, unless it is stale.  Nothing is returned if it was required. -/
def keepFresh (mark : Mark) : Option KeyCandidate → Option (Option KeyCandidate)
  | none => some none
  | some candidate =>
      if candidate.isStale mark then (if candidate.required then none else some none)
      else some (some candidate)

/-- The state of a scanner. -/
structure Scanner where
  cursor : Cursor
  /-- The tokens that were found, in reverse. -/
  tokens : List Token
  count : Nat
  /-- The indentation of the innermost block collection, and of those around it.  Less than zero
  outside of all. -/
  indent : Int
  outer : List Int
  /-- A key may begin here. -/
  keyAllowed : Bool
  /-- The candidate of the current level. -/
  candidate : Option KeyCandidate
  /-- The candidates around the flow collections, the innermost one first. -/
  around : List (Option KeyCandidate)

namespace Scanner

def start (text : List Char) : Scanner := ⟨⟨text, .start⟩, [], 0, -1, [], true, none, []⟩

def inFlow (scanner : Scanner) : Bool := !scanner.around.isEmpty

def mark (scanner : Scanner) : Mark := scanner.cursor.mark

/-- Appends a token. -/
def push (scanner : Scanner) (token : Token) : Scanner :=
  { scanner with tokens := token :: scanner.tokens, count := scanner.count + 1 }

/-- Inserts a token so that so many tokens stand in front of it. -/
def insert (scanner : Scanner) (position : Nat) (token : Token) : Scanner :=
  let behind := scanner.count - position
  { scanner with
    tokens := scanner.tokens.take behind ++ token :: scanner.tokens.drop behind
    count := scanner.count + 1 }

/-- Moves on behind so many characters. -/
def skip (scanner : Scanner) (count : Nat) : Scanner :=
  { scanner with cursor := scanner.cursor.skip count }

def allowKey (scanner : Scanner) (allowed : Bool) : Scanner :=
  { scanner with keyAllowed := allowed }

/-- The number of tokens that are not withheld. -/
def delivered (scanner : Scanner) : Nat :=
  let positions := (scanner.candidate :: scanner.around).filterMap (·.map KeyCandidate.position)
  positions.foldl min scanner.count

/-! ## Keys and indentation -/

/-- Drops the candidates that are stale. -/
def dropStale (scanner : Scanner) : Option Scanner := do
  let candidate ← keepFresh scanner.mark scanner.candidate
  let around ← scanner.around.mapM (keepFresh scanner.mark)
  some { scanner with candidate := candidate, around := around }

/-- Drops the candidate of the current level. -/
def dropCandidate (scanner : Scanner) : Option Scanner :=
  if scanner.candidate.any (·.required) then none else some { scanner with candidate := none }

/-- Makes the next token a candidate, if a key is allowed. -/
def saveCandidate (scanner : Scanner) : Option Scanner :=
  if scanner.keyAllowed then do
    let scanner ← scanner.dropCandidate
    let required := !scanner.inFlow && scanner.indent == scanner.mark.column
    some { scanner with candidate := some ⟨scanner.count, scanner.mark, required⟩ }
  else some scanner

/-- Closes the block collections around whose indentation is greater than the given one. -/
def closeBlocks (column : Int) (scanner : Scanner) : List Int → Scanner
  | [] => { scanner with outer := [] }
  | outer :: rest =>
      if scanner.indent > column then
        closeBlocks column { scanner.push .blockEnd with indent := outer } rest
      else { scanner with outer := outer :: rest }

/-- Ends all block collections that are indented more than the given column. -/
def unindent (scanner : Scanner) (column : Int) : Scanner :=
  if scanner.inFlow then scanner else closeBlocks column scanner scanner.outer

/-- Begins a block collection at a column, unless one is open there.  The token is inserted behind
so many tokens. -/
def indentTo (scanner : Scanner) (column position : Nat) (token : Token) : Scanner :=
  if scanner.inFlow ∨ (column : Int) ≤ scanner.indent then scanner
  else
    { scanner.insert position token with
      outer := scanner.indent :: scanner.outer
      indent := column }

/-! ## Tokens -/

/-- Skips white space and comments.  Tabs are no indentation: they are skipped only where no key may
begin.  After the end of a line a key may begin, except in flow collections. -/
def skipGaps (inFlow keyAllowed inComment : Bool) (mark : Mark) : List Char → Bool × Cursor
  | [] => (keyAllowed, ⟨[], mark⟩)
  | '\r' :: '\n' :: rest => skipGaps inFlow (keyAllowed || !inFlow) false (mark.newLine 2) rest
  | c :: rest =>
      if isBreak c then skipGaps inFlow (keyAllowed || !inFlow) false (mark.newLine 1) rest
      else if inComment || c == '#' then skipGaps inFlow keyAllowed true (mark.advance 1) rest
      else if c == ' ' || (c == '\t' && (inFlow || !keyAllowed)) ||
          (c.toNat == 0xfeff && mark.column == 0) then
        skipGaps inFlow keyAllowed false (mark.advance 1) rest
      else (keyAllowed, ⟨c :: rest, mark⟩)

/-- Moves to the next token. -/
def toNextToken (scanner : Scanner) : Scanner :=
  let (allowed, cursor) :=
    skipGaps scanner.inFlow scanner.keyAllowed false scanner.mark scanner.cursor.rest
  { scanner with cursor := cursor, keyAllowed := allowed }

/-- The end of the text. -/
def fetchEnd (scanner : Scanner) : Option Scanner := do
  let scanner ← (scanner.unindent (-1)).dropCandidate
  some ((scanner.allowKey false).push .streamEnd)

def fetchDirective (scanner : Scanner) : Option Scanner := do
  let scanner ← (scanner.unindent (-1)).dropCandidate
  let (directive, cursor) ← directive scanner.cursor
  let token : Token :=
    match directive with
    | .version major minor => .versionDirective major minor
    | .tag handle target => .tagDirective handle target
  some (({ scanner with cursor := cursor }.allowKey false).push token)

def fetchDocumentMarker (scanner : Scanner) (token : Token) : Option Scanner := do
  let scanner ← (scanner.unindent (-1)).dropCandidate
  some (((scanner.allowKey false).skip 3).push token)

def fetchFlowStart (scanner : Scanner) (token : Token) : Option Scanner := do
  let scanner ← scanner.saveCandidate
  let scanner :=
    { scanner with around := scanner.candidate :: scanner.around, candidate := none }
  some (((scanner.allowKey true).skip 1).push token)

def fetchFlowEnd (scanner : Scanner) (token : Token) : Option Scanner := do
  let scanner ← scanner.dropCandidate
  let scanner :=
    match scanner.around with
    | [] => scanner
    | candidate :: around => { scanner with candidate := candidate, around := around }
  some (((scanner.allowKey false).skip 1).push token)

def fetchFlowEntry (scanner : Scanner) : Option Scanner := do
  let scanner ← scanner.dropCandidate
  some (((scanner.allowKey true).skip 1).push .flowEntry)

/-- Begins a block collection at this place, where a key has to be allowed. -/
def beginBlock (scanner : Scanner) (token : Token) : Option Scanner :=
  if scanner.inFlow then some scanner
  else if scanner.keyAllowed then
    some (scanner.indentTo scanner.mark.column scanner.count token)
  else none

def fetchBlockEntry (scanner : Scanner) : Option Scanner := do
  let scanner ← (← scanner.beginBlock .blockSequenceStart).dropCandidate
  some (((scanner.allowKey true).skip 1).push .blockEntry)

def fetchKey (scanner : Scanner) : Option Scanner := do
  let scanner ← (← scanner.beginBlock .blockMappingStart).dropCandidate
  some (((scanner.allowKey !scanner.inFlow).skip 1).push .key)

/-- The indicator of a value.  It makes a key of the candidate, if there is one. -/
def fetchValue (scanner : Scanner) : Option Scanner :=
  match scanner.candidate with
  | some candidate =>
      let scanner := scanner.insert candidate.position .key
      let scanner :=
        scanner.indentTo candidate.mark.column candidate.position .blockMappingStart
      some ((({ scanner with candidate := none }.allowKey false).skip 1).push .value)
  | none => do
      let scanner ← scanner.beginBlock .blockMappingStart
      some (((scanner.allowKey !scanner.inFlow).skip 1).push .value)

/-- The name of an anchor or alias. -/
def fetchName (scanner : Scanner) (token : String → Token) : Option Scanner := do
  let scanner ← scanner.saveCandidate
  let (name, cursor) := (scanner.cursor.skip 1).span isWordChar
  if !name.isEmpty && (cursor.atGap || cursor.rest.head?.any ("?:,]\x7d%@".contains ·) ||
      cursor.rest.head?.any (·.toNat == 0x60)) then
    some (({ scanner with cursor := cursor }.allowKey false).push (token (String.ofList name)))
  else none

def fetchTag (scanner : Scanner) : Option Scanner := do
  let scanner ← scanner.saveCandidate
  let (handle, suffix, cursor) ← tag scanner.inFlow scanner.cursor
  some (({ scanner with cursor := cursor }.allowKey false).push (.tag handle suffix))

def fetchBlockScalar (scanner : Scanner) (folds : Bool) : Option Scanner := do
  let scanner ← scanner.dropCandidate
  let scalar ← blockScalar folds scanner.indent (scanner.cursor.skip 1)
  some (({ scanner with cursor := scalar.cursor }.allowKey true).push
    (.scalar .block (String.ofList scalar.text)))

def fetchQuoted (scanner : Scanner) (single : Bool) : Option Scanner := do
  let scanner ← scanner.saveCandidate
  let cursor := scanner.cursor.skip 1
  let scalar ←
    if single then singleQuoted cursor.mark .empty [] cursor.rest
    else doubleQuoted .text cursor.mark .empty [] cursor.rest
  some (({ scanner with cursor := scalar.cursor }.allowKey false).push
    (.scalar .quoted (String.ofList scalar.text)))

def fetchPlain (scanner : Scanner) : Option Scanner := do
  let scanner ← scanner.saveCandidate
  let (scalar, broken) ←
    plainScalar scanner.inFlow (scanner.indent + 1).toNat scanner.mark .empty []
      scanner.cursor.rest
  some (({ scanner with cursor := scalar.cursor }.allowKey broken).push
    (.scalar .plain (String.ofList scalar.text)))

/-- The characters that begin no plain scalar. -/
def isIndicator (c : Char) : Bool :=
  "-?:,[]\x7b\x7d#&*!|>'\"%@".contains c || c.toNat == 0x60

/-- A plain scalar begins with this character.  Some indicators begin one in front of a character
that is no white space. -/
def beginsPlain (inFlow : Bool) (c : Char) (rest : List Char) : Bool :=
  !(isGap c || isIndicator c) || (c == '-' && !rest.head?.any isBlankChar) ||
    (!inFlow && (c == '?' || c == ':') && !gapAfter 0 rest)

/-- Finds the next token at its first character. -/
def fetchAt (scanner : Scanner) (c : Char) (rest : List Char) : Option Scanner :=
  let inFlow := scanner.inFlow
  let atLineStart := scanner.mark.column == 0
  if atLineStart && c == '%' then scanner.fetchDirective
  else if atLineStart && isDocumentMarker (c :: rest) then
    scanner.fetchDocumentMarker (if c == '-' then .documentStart else .documentEnd)
  else if c == '[' then scanner.fetchFlowStart .flowSequenceStart
  else if c == '\x7b' then scanner.fetchFlowStart .flowMappingStart
  else if c == ']' then scanner.fetchFlowEnd .flowSequenceEnd
  else if c == '\x7d' then scanner.fetchFlowEnd .flowMappingEnd
  else if c == ',' then scanner.fetchFlowEntry
  else if c == '-' && gapAfter 0 rest then scanner.fetchBlockEntry
  else if c == '?' && (inFlow || gapAfter 0 rest) then scanner.fetchKey
  else if c == ':' && (inFlow || gapAfter 0 rest) then scanner.fetchValue
  else if c == '*' then scanner.fetchName .alias
  else if c == '&' then scanner.fetchName .anchor
  else if c == '!' then scanner.fetchTag
  else if c == '|' && !inFlow then scanner.fetchBlockScalar false
  else if c == '>' && !inFlow then scanner.fetchBlockScalar true
  else if c == '\'' then scanner.fetchQuoted true
  else if c == '"' then scanner.fetchQuoted false
  else if beginsPlain inFlow c rest then scanner.fetchPlain
  else none

/-- Finds the next token. -/
def fetch (scanner : Scanner) : Option Scanner := do
  let scanner ← scanner.toNextToken.dropStale
  let scanner := scanner.unindent scanner.mark.column
  match scanner.cursor.rest with
  | [] => scanner.fetchEnd
  | c :: rest => scanner.fetchAt c rest

/-- Finds tokens to the end of the text, or to the place where it breaks.  Every token but the last
takes a character. -/
def run : Nat → Scanner → List Token
  | 0, scanner => deliver scanner
  | fuel + 1, scanner =>
      match scanner.fetch.bind dropStale with
      | none => deliver scanner
      | some next =>
          if next.tokens.head? = some .streamEnd then next.tokens.reverse else run fuel next
where
  /-- The tokens that are not withheld. -/
  deliver (scanner : Scanner) : List Token :=
    (scanner.tokens.drop (scanner.count - scanner.delivered)).reverse

end Scanner

/-- The tokens of a text.  The end of the text is a token of its own; without it the text is
broken. -/
def scan (text : List Char) : List Token :=
  let content :=
    match text with
    | c :: rest => if c.toNat == 0xfeff then rest else text
    | [] => []
  if content.all isPermitted then Scanner.run (content.length + 1) (.start content) else []

end Yaml
end SchemaFile
end RecordExtraction
