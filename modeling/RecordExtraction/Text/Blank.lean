/-!
# White space

Three classes of white space occur: the four characters that separate words in a document or a
locator, the Unicode property `White_Space` for texts written by hand, and everything up to the
space for numerals.  Trimming takes the class as a parameter.
-/

namespace RecordExtraction

/-- The white space of documents and locators: space, tab, carriage return and line feed. -/
def isSpace (c : Char) : Bool :=
  c == ' ' || c == '\t' || c == '\r' || c == '\n'

/-- The Unicode property `White_Space`. -/
def isBlank (c : Char) : Bool :=
  let code := c.toNat
  (0x9 ≤ code && code ≤ 0xd) || code == 0x20 || code == 0x85 || code == 0xa0 || code == 0x1680 ||
    (0x2000 ≤ code && code ≤ 0x200a) || code == 0x2028 || code == 0x2029 || code == 0x202f ||
    code == 0x205f || code == 0x3000

/-- The space and all characters before it. -/
def isUpToSpace (c : Char) : Bool := c.toNat ≤ 0x20

/-- Drops the longest end of a list whose members all satisfy the predicate. -/
def dropEndWhile {α : Type} (p : α → Bool) (xs : List α) : List α :=
  (xs.reverse.dropWhile p).reverse

/-- Drops the members that satisfy the predicate at both ends. -/
def trimWhile {α : Type} (p : α → Bool) (xs : List α) : List α :=
  dropEndWhile p (xs.dropWhile p)

/-- The text without white space at its ends. -/
def trimBlank (text : String) : String :=
  String.ofList (trimWhile isBlank text.toList)

/-- The words of a text: the maximal runs of characters that do not separate. -/
def words (separates : Char → Bool) (text : List Char) : List (List Char) :=
  go [] text
where
  /-- `word` holds the current word in reverse. -/
  go (word : List Char) : List Char → List (List Char)
    | [] => if word.isEmpty then [] else [word.reverse]
    | c :: rest =>
        if separates c then
          if word.isEmpty then go [] rest else word.reverse :: go [] rest
        else go (c :: word) rest

end RecordExtraction
