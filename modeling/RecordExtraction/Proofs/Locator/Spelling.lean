import Mathlib
import RecordExtraction.Locator.Lexer
import RecordExtraction.Locator.Numeral

/-!
# How tokens are written

Every token has its own way to be written, only literals have two, one for each quotation mark.
What a star or a name stands for is not seen from its characters; it depends on the token before,
which may have ended an operand, and on the token after, which may be a parenthesis or two colons.
`WellPlaced` collects these conditions on a sequence of tokens.
-/

namespace RecordExtraction
namespace Locator

/-- The characters make up a name without a colon. -/
def isName (chars : List Char) : Bool :=
  chars.head?.any isNameStart && chars.all isNameChar

/-- The characters make up a name, or two names with a colon between them. -/
def IsQualifiedName (chars : List Char) : Prop :=
  isName chars = true ∨
    ∃ qualifier name, isName qualifier = true ∧ isName name = true ∧
      chars = qualifier ++ ':' :: name

def BinaryOperator.spelling : BinaryOperator → List Char
  | .or => ['o', 'r']
  | .and => ['a', 'n', 'd']
  | .compare .equal => ['=']
  | .compare .notEqual => ['!', '=']
  | .compare .less => ['<']
  | .compare .lessOrEqual => ['<', '=']
  | .compare .greater => ['>']
  | .compare .greaterOrEqual => ['>', '=']
  | .arithmetic .add => ['+']
  | .arithmetic .subtract => ['-']
  | .arithmetic .multiply => ['*']
  | .arithmetic .divide => ['d', 'i', 'v']
  | .arithmetic .remainder => ['m', 'o', 'd']
  | .union => ['|']

/-- The characters are a way to write the token. -/
inductive Token.Spells : Token → List Char → Prop
  | leftParen : Spells .leftParen ['(']
  | rightParen : Spells .rightParen [')']
  | leftBracket : Spells .leftBracket ['[']
  | rightBracket : Spells .rightBracket [']']
  | dot : Spells .dot ['.']
  | dotDot : Spells .dotDot ['.', '.']
  | atSign : Spells .atSign ['@']
  | comma : Spells .comma [',']
  | axisMark : Spells .axisMark [':', ':']
  | slash : Spells .slash ['/']
  | doubleSlash : Spells .doubleSlash ['/', '/']
  | operator (operator : BinaryOperator) : Spells (.operator operator) operator.spelling
  /-- Between quotation marks of one kind, which does not occur inside. -/
  | literal {value : String} {mark : Char} (hmark : mark = '"' ∨ mark = '\'')
      (hvalue : mark ∉ value.toList) :
      Spells (.literal value) (mark :: (value.toList ++ [mark]))
  | number {digits : String} (hdigits : isNumeral digits.toList = true) :
      Spells (.number digits) digits.toList
  | variableName {name : String} (hname : IsQualifiedName name.toList) :
      Spells (.variableName name) ('$' :: name.toList)
  | anyName : Spells (.nameTest none none) ['*']
  | anyNameOf {qualifier : String} (hqualifier : isName qualifier.toList = true) :
      Spells (.nameTest (some qualifier) none) (qualifier.toList ++ [':', '*'])
  | localName {name : String} (hname : isName name.toList = true) :
      Spells (.nameTest none (some name)) name.toList
  | qualifiedName {qualifier name : String} (hqualifier : isName qualifier.toList = true)
      (hname : isName name.toList = true) :
      Spells (.nameTest (some qualifier) (some name)) (qualifier.toList ++ ':' :: name.toList)
  | nodeType (type : NodeType) : Spells (.nodeType type) type.name.toList
  /-- The names of the types of nodes are no names of functions. -/
  | functionName {name : String} (hname : IsQualifiedName name.toList)
      (htype : NodeType.ofName? name = none) :
      Spells (.functionName name) name.toList
  | axisName {name : String} (hname : isName name.toList = true) :
      Spells (.axisName name) name.toList

/-- The parts of the token are such that it can be written: its names consist of the characters of
names, a literal has not both quotation marks in it, and a number has digits and at most one
point. -/
def Token.IsLexical : Token → Prop
  | literal value => '"' ∉ value.toList ∨ '\'' ∉ value.toList
  | number digits => isNumeral digits.toList = true
  | variableName name => IsQualifiedName name.toList
  | nameTest qualifier? name? =>
      (∀ qualifier ∈ qualifier?, isName qualifier.toList = true) ∧
        ∀ name ∈ name?, isName name.toList = true
  | functionName name => IsQualifiedName name.toList ∧ NodeType.ofName? name = none
  | axisName name => isName name.toList = true
  | _ => True

theorem Token.exists_spells {token : Token} (hlexical : token.IsLexical) :
    ∃ chars, token.Spells chars := by
  cases token with
  | literal value =>
      rcases hlexical with hvalue | hvalue
      · exact ⟨_, .literal (.inl rfl) hvalue⟩
      · exact ⟨_, .literal (.inr rfl) hvalue⟩
  | nameTest qualifier? name? =>
      obtain ⟨hqualifier, hname⟩ := hlexical
      cases qualifier? with
      | none =>
          cases name? with
          | none => exact ⟨_, .anyName⟩
          | some name => exact ⟨_, .localName (hname name rfl)⟩
      | some qualifier =>
          cases name? with
          | none => exact ⟨_, .anyNameOf (hqualifier qualifier rfl)⟩
          | some name => exact ⟨_, .qualifiedName (hqualifier qualifier rfl) (hname name rfl)⟩
  | leftParen => exact ⟨_, .leftParen⟩
  | rightParen => exact ⟨_, .rightParen⟩
  | leftBracket => exact ⟨_, .leftBracket⟩
  | rightBracket => exact ⟨_, .rightBracket⟩
  | dot => exact ⟨_, .dot⟩
  | dotDot => exact ⟨_, .dotDot⟩
  | atSign => exact ⟨_, .atSign⟩
  | comma => exact ⟨_, .comma⟩
  | axisMark => exact ⟨_, .axisMark⟩
  | slash => exact ⟨_, .slash⟩
  | doubleSlash => exact ⟨_, .doubleSlash⟩
  | operator operator => exact ⟨_, .operator operator⟩
  | number digits => exact ⟨_, .number hlexical⟩
  | variableName name => exact ⟨_, .variableName hlexical⟩
  | nodeType type => exact ⟨_, .nodeType type⟩
  | functionName name => exact ⟨_, .functionName hlexical.1 hlexical.2⟩
  | axisName name => exact ⟨_, .axisName hlexical⟩

/-! ## Places of tokens -/

/-- The token may stand where an operand has just ended, or where none has.  Operators with the
spelling of a name or a star stand in the one place only, what else is spelled so in the other. -/
def Token.FitsAfter (afterOperand : Bool) : Token → Prop
  | operator .or | operator .and | operator (.arithmetic .multiply)
  | operator (.arithmetic .divide) | operator (.arithmetic .remainder) => afterOperand = true
  | nameTest .. | nodeType _ | functionName _ | axisName _ => afterOperand = false
  | _ => True

/-- The token may stand before the given one, if there is one. -/
def Token.FitsBefore (next : Option Token) : Token → Prop
  | axisName _ => next = some .axisMark
  | nodeType _ | functionName _ => next = some .leftParen
  | nameTest none (some _) => next ≠ some .leftParen ∧ next ≠ some .axisMark
  | nameTest (some _) (some _) => next ≠ some .leftParen
  | _ => True

/-- No name goes on at the front of the text. -/
def StopsName (text : List Char) : Prop :=
  ∀ c ∈ text.head?, isNameChar c = false

/-- What comes first in the text, after any white space, is a parenthesis. -/
def OpensParen (text : List Char) : Prop :=
  ∃ more, text.dropWhile isSpace = '(' :: more

/-- What comes first in the text, after any white space, are the two colons of an axis. -/
def OpensAxis (text : List Char) : Prop :=
  ∃ more, text.dropWhile isSpace = ':' :: ':' :: more

/-- The token ends where the text begins: it does not go on there, and what comes first in the text
tells what the name of the token stands for. -/
def Token.EndsBefore (following : List Char) : Token → Prop
  | operator (.compare .less) | operator (.compare .greater) => '=' ∉ following.head?
  | operator .or | operator .and | operator (.arithmetic .divide)
  | operator (.arithmetic .remainder) => StopsName following
  | slash => '/' ∉ following.head?
  | dot => '.' ∉ following.head? ∧ ∀ c ∈ following.head?, c.isDigit = false
  | number digits =>
      ∀ c ∈ following.head?, c.isDigit = false ∧ (c = '.' → '.' ∈ digits.toList)
  | variableName name =>
      StopsName following ∧
        (':' ∈ name.toList ∨ ∀ c more, following = ':' :: c :: more → isNameStart c = false)
  | nameTest none (some _) =>
      StopsName following ∧ ':' ∉ following.head? ∧ ¬OpensParen following ∧ ¬OpensAxis following
  | nameTest (some _) (some _) => StopsName following ∧ ¬OpensParen following
  | nodeType _ | functionName _ => OpensParen following
  | axisName _ => OpensAxis following
  | _ => True

/-- Every token stands at a place where it may stand. -/
def WellPlaced (afterOperand : Bool) : List Token → Prop
  | [] => True
  | token :: rest =>
      token.FitsAfter afterOperand ∧ token.FitsBefore rest.head? ∧
        WellPlaced token.endsOperand rest

/-- The text is the sequence of tokens, written with white space between them.  There may be white
space at both ends as well. -/
inductive Written : List Token → List Char → Prop
  | nil {gap : List Char} (hgap : ∀ c ∈ gap, isSpace c = true) : Written [] gap
  | cons {token : Token} {tokens : List Token} {gap chars rest : List Char}
      (hgap : ∀ c ∈ gap, isSpace c = true) (hspells : token.Spells chars)
      (hseparated : ∀ c ∈ rest.head?, isSpace c = true) (hrest : Written tokens rest) :
      Written (token :: tokens) (gap ++ (chars ++ rest))

/-- A token after one space. -/
theorem Written.space {token : Token} {tokens : List Token} {chars rest : List Char}
    (hspells : token.Spells chars) (hrest : Written tokens rest)
    (hseparated : ∀ c ∈ rest.head?, isSpace c = true) :
    Written (token :: tokens) (' ' :: (chars ++ rest)) :=
  have hgap : ∀ c ∈ [' '], isSpace c = true := by simp [isSpace]
  .cons hgap hspells hseparated hrest

theorem exists_written {tokens : List Token} (hlexical : ∀ token ∈ tokens, token.IsLexical) :
    ∃ text, Written tokens text := by
  -- A space before every token separates it from the one before.
  have hspaced : ∃ text, Written tokens text ∧ ∀ c ∈ text.head?, isSpace c = true := by
    induction tokens with
    | nil => exact ⟨[], .nil (by simp), by simp⟩
    | cons token rest ih =>
        obtain ⟨chars, hspells⟩ := Token.exists_spells (hlexical token List.mem_cons_self)
        obtain ⟨text, hrest, hseparated⟩ :=
          ih fun other hother => hlexical other (List.mem_cons_of_mem _ hother)
        exact ⟨_, .space hspells hrest hseparated, by simp [isSpace]⟩
  obtain ⟨text, hwritten, -⟩ := hspaced
  exact ⟨text, hwritten⟩

/-! ## First characters -/

theorem isDigit_iff {c : Char} : c.isDigit = true ↔ 48 ≤ c.toNat ∧ c.toNat ≤ 57 := by
  simp [Char.isDigit, UInt32.le_iff_toNat_le]

theorem isNameStart_eq_false_of_isDigit {c : Char} (hc : c.isDigit = true) :
    isNameStart c = false := by
  have hcode := isDigit_iff.mp hc
  have hlow : c.toNat < 128 := by omega
  have hline : c ≠ '_' := by
    rintro rfl
    simp at hcode
  have halpha : c.isAlpha = false := by
    simp [Char.isAlpha, Char.isUpper, Char.isLower, UInt32.le_iff_toNat_le]
    omega
  simp [isNameStart, isAlphabetic, hlow, halpha, hline]

theorem isName_cons {c : Char} {rest : List Char} :
    isName (c :: rest) = true ↔ isNameStart c = true ∧ ∀ d ∈ rest, isNameChar d = true := by
  simp only [isName, List.head?_cons, Option.any_some, List.all_cons, Bool.and_eq_true,
    List.all_eq_true]
  constructor
  · rintro ⟨hfirst, -, hrest⟩
    exact ⟨hfirst, hrest⟩
  · rintro ⟨hfirst, hrest⟩
    exact ⟨hfirst, isNameChar_of_isNameStart hfirst, hrest⟩

theorem exists_of_isName {chars : List Char} (hname : isName chars = true) :
    ∃ c rest, chars = c :: rest ∧ isNameStart c = true := by
  cases chars with
  | nil => cases hname
  | cons c rest => exact ⟨c, rest, rfl, (isName_cons.mp hname).1⟩

theorem exists_of_isQualifiedName {chars : List Char} (hname : IsQualifiedName chars) :
    ∃ c rest, chars = c :: rest ∧ isNameStart c = true := by
  rcases hname with hname | ⟨qualifier, name, hqualifier, -, rfl⟩
  · exact exists_of_isName hname
  · obtain ⟨c, rest, rfl, hc⟩ := exists_of_isName hqualifier
    exact ⟨c, rest ++ ':' :: name, rfl, hc⟩

theorem isNumeral_cases {chars : List Char} (hnumeral : isNumeral chars = true) :
    (chars ≠ [] ∧ ∀ c ∈ chars, c.isDigit = true) ∨
      ∃ whole fraction, chars = whole ++ '.' :: fraction ∧ (∀ c ∈ whole, c.isDigit = true) ∧
        (∀ c ∈ fraction, c.isDigit = true) ∧ (whole = [] → fraction ≠ []) := by
  simp only [isNumeral, Bool.and_eq_true, List.any_eq_true, List.all_eq_true, Bool.or_eq_true,
    beq_iff_eq, decide_eq_true_eq] at hnumeral
  obtain ⟨⟨⟨digit, hmem, hdigit⟩, hall⟩, hcount⟩ := hnumeral
  by_cases hpoint : '.' ∈ chars
  · obtain ⟨whole, fraction, rfl⟩ := List.append_of_mem hpoint
    rw [List.count_append, List.count_cons_self] at hcount
    have hwhole : '.' ∉ whole := List.count_eq_zero.mp (by omega)
    have hfraction : '.' ∉ fraction := List.count_eq_zero.mp (by omega)
    refine .inr ⟨whole, fraction, rfl, ?_, ?_, ?_⟩
    · intro c hc
      have hne : c ≠ '.' := fun heq => hwhole (heq ▸ hc)
      exact (hall c (by simp [hc])).resolve_right hne
    · intro c hc
      have hne : c ≠ '.' := fun heq => hfraction (heq ▸ hc)
      exact (hall c (by simp [hc])).resolve_right hne
    · rintro rfl rfl
      simp only [List.nil_append, List.mem_singleton] at hmem
      subst hmem
      simp at hdigit
  · refine .inl ⟨List.ne_nil_of_mem hmem, ?_⟩
    intro c hc
    have hne : c ≠ '.' := fun heq => hpoint (heq ▸ hc)
    exact (hall c hc).resolve_right hne

end Locator
end RecordExtraction
