import Mathlib
import RecordExtraction.Proofs.Locator.Spelling
import RecordExtraction.Proofs.Outcome

/-!
# Written tokens are read back

Scanning takes the longest token at the front of a text.  White space ends every token, so written
tokens are found one after the other; what a star or a name is decided by the token before and by
the next character that is not white space, and both are the same in the sequence and in the text.
-/

namespace RecordExtraction
namespace Locator

/-! ## Passing over characters -/

theorem byteLength_cons (c : Char) (chars : List Char) :
    byteLength (c :: chars) = c.utf8Size + byteLength chars := rfl

theorem scan_skip (afterOperand : Bool) (offset : Nat) (chars rest : List Char) :
    scan afterOperand offset chars.length (chars ++ rest) =
      scan afterOperand (offset + byteLength chars) 0 rest := by
  induction chars generalizing offset with
  | nil => rfl
  | cons c chars ih =>
      have hskip := ih (offset + c.utf8Size)
      rw [byteLength_cons, ← Nat.add_assoc, ← hskip]
      rfl

theorem scan_gap {gap : List Char} (hgap : ∀ c ∈ gap, isSpace c = true) (afterOperand : Bool)
    (offset : Nat) (rest : List Char) :
    scan afterOperand offset 0 (gap ++ rest) =
      scan afterOperand (offset + byteLength gap) 0 rest := by
  induction gap generalizing offset with
  | nil => rfl
  | cons c gap ih =>
      have hspace : isSpace c = true := hgap c List.mem_cons_self
      have hlater := ih (fun d hd => hgap d (List.mem_cons_of_mem _ hd)) (offset + c.utf8Size)
      rw [byteLength_cons, ← Nat.add_assoc, ← hlater, List.cons_append, scan, if_pos hspace]

theorem scan_token {afterOperand : Bool} {offset : Nat} {c : Char} {chars rest : List Char}
    {token : Token} (hspace : isSpace c = false)
    (hscanned :
      scanToken afterOperand offset (c :: (chars ++ rest)) = .ok ⟨token, chars.length + 1⟩) :
    scan afterOperand offset 0 (c :: (chars ++ rest)) =
      (scan token.endsOperand (offset + byteLength (c :: chars)) 0 rest).map
        (⟨token, offset, c⟩ :: ·) := by
  have hskip := scan_skip token.endsOperand (offset + c.utf8Size) chars rest
  rw [byteLength_cons, ← Nat.add_assoc, ← hskip, scan, if_neg (by simp [hspace]), hscanned]
  rfl

/-! ## Classes of characters -/

theorem ne_of_class {p : Char → Bool} {c d : Char} (hc : p c = true) (hd : p d = false) :
    c ≠ d := by
  rintro rfl
  rw [hc] at hd
  cases hd

/-- What begins names or numerals begins no literal. -/
theorem isQuote_eq_false {p : Char → Bool} {c : Char} (hc : p c = true) (hdouble : p '"' = false)
    (hsingle : p '\'' = false) : (c == '"' || c == '\'') = false := by
  rw [Bool.or_eq_false_iff, beq_eq_false_iff_ne, beq_eq_false_iff_ne]
  exact ⟨ne_of_class hc hdouble, ne_of_class hc hsingle⟩

/-! ## Ends of names and numerals -/

theorem isSpace_iff {c : Char} :
    isSpace c = true ↔ c = ' ' ∨ c = '\t' ∨ c = '\r' ∨ c = '\n' := by
  simp [isSpace, or_assoc]

theorem isNameChar_eq_false_of_isSpace {c : Char} (hc : isSpace c = true) :
    isNameChar c = false := by
  rcases isSpace_iff.mp hc with rfl | rfl | rfl | rfl <;> decide

theorem isDigit_eq_false_of_isSpace {c : Char} (hc : isSpace c = true) : c.isDigit = false := by
  rcases isSpace_iff.mp hc with rfl | rfl | rfl | rfl <;> decide

theorem takeWhile_append_of_stop {p : Char → Bool} {chars rest : List Char}
    (hall : ∀ c ∈ chars, p c = true) (hstop : ∀ c ∈ rest.head?, p c = false) :
    (chars ++ rest).takeWhile p = chars := by
  rw [List.takeWhile_append_of_pos hall]
  cases rest with
  | nil => simp
  | cons c rest =>
      have hc : p c = false := hstop c rfl
      simp [hc]

theorem not_mem_head?_of_ne_cons {c : Char} {rest : List Char} (hrest : ∀ more, rest ≠ c :: more) :
    c ∉ rest.head? := by
  intro hc
  rcases List.head?_eq_some_iff.mp hc with ⟨more, hmore⟩
  exact hrest more hmore

theorem leadingName_append {chars rest : List Char} (hname : isName chars = true)
    (hstop : ∀ c ∈ rest.head?, isNameChar c = false) :
    leadingName (chars ++ rest) = chars := by
  cases chars with
  | nil => cases hname
  | cons c chars =>
      obtain ⟨hc, hchars⟩ := isName_cons.mp hname
      have hall : ∀ d ∈ c :: chars, isNameChar d = true := by
        intro d hd
        rcases List.mem_cons.mp hd with rfl | hd
        · exact isNameChar_of_isNameStart hc
        · exact hchars d hd
      have htake := takeWhile_append_of_stop hall hstop
      simpa only [leadingName, List.cons_append, if_pos hc] using htake

theorem leadingNumeral_append {chars rest : List Char} (hnumeral : isNumeral chars = true)
    (hrest : ∀ c ∈ rest.head?, c.isDigit = false ∧ (c = '.' → '.' ∈ chars)) :
    leadingNumeral (chars ++ rest) = chars := by
  have hdigits : ∀ c ∈ rest.head?, c.isDigit = false := fun c hc => (hrest c hc).1
  rcases isNumeral_cases hnumeral with ⟨-, hall⟩ | ⟨whole, fraction, rfl, hwhole, hfraction, -⟩
  · have hleading : leadingDigits (chars ++ rest) = chars := takeWhile_append_of_stop hall hdigits
    simp only [leadingNumeral, hleading, List.drop_left]
    split
    · -- A point would belong to the numeral.
      have hpoint : '.' ∈ chars := (hrest '.' rfl).2 rfl
      exact absurd (hall '.' hpoint) (by decide)
    · rfl
  · have hleading : leadingDigits (whole ++ '.' :: (fraction ++ rest)) = whole :=
      takeWhile_append_of_stop hwhole (by simp)
    have hlater : leadingDigits (fraction ++ rest) = fraction :=
      takeWhile_append_of_stop hfraction hdigits
    rw [List.append_assoc, List.cons_append]
    simp only [leadingNumeral, hleading, List.drop_left, hlater]

theorem isNameChar_colon : isNameChar ':' = false := by decide

theorem colon_not_mem_of_isName {chars : List Char} (hname : isName chars = true) :
    ':' ∉ chars := by
  simp only [isName, Bool.and_eq_true, List.all_eq_true] at hname
  intro hcolon
  have hchar := hname.2 ':' hcolon
  rw [isNameChar_colon] at hchar
  cases hchar

theorem leadingName_eq_nil {rest : List Char}
    (hrest : ∀ c ∈ rest.head?, isNameStart c = false) : leadingName rest = [] := by
  cases rest with
  | nil => rfl
  | cons c rest => exact if_neg (by simp [hrest c rfl])

theorem leadingQualifiedName_append {chars rest : List Char} (hname : IsQualifiedName chars)
    (hstops : StopsName rest)
    (hcolon : ':' ∈ chars ∨ ∀ c more, rest = ':' :: c :: more → isNameStart c = false) :
    leadingQualifiedName (chars ++ rest) = chars := by
  rcases hname with hname | ⟨qualifier, name, hqualifier, hname, rfl⟩
  · have hend := hcolon.resolve_left (colon_not_mem_of_isName hname)
    simp only [leadingQualifiedName, leadingName_append hname hstops, List.drop_left]
    split
    · next more =>
        have hsecond : leadingName more = [] := by
          apply leadingName_eq_nil
          intro c hc
          rcases List.head?_eq_some_iff.mp hc with ⟨later, rfl⟩
          exact hend c later rfl
        rw [hsecond, List.isEmpty_nil, Bool.or_true, if_pos rfl]
    · rfl
  · have hfirst : leadingName (qualifier ++ ':' :: (name ++ rest)) = qualifier :=
      leadingName_append hqualifier (by simp [isNameChar_colon])
    have hsecond : leadingName (name ++ rest) = name := leadingName_append hname hstops
    have hnonempty : ∀ {chars : List Char}, isName chars = true → chars.isEmpty = false := by
      intro chars h
      obtain ⟨c, more, rfl, -⟩ := exists_of_isName h
      rfl
    rw [List.append_assoc, List.cons_append]
    simp only [leadingQualifiedName, hfirst, List.drop_left, hsecond, hnonempty hqualifier,
      hnonempty hname, Bool.or_self, Bool.false_eq_true, if_false]

/-! ## What follows a name -/

theorem unqualified_of_axisMark {following more : List Char} (name : String)
    (hfollowing : following.dropWhile isSpace = ':' :: ':' :: more) :
    unqualified name following = .axisName name := by
  simp only [unqualified, hfollowing]

theorem unqualified_of_type {following more : List Char} {name : String} {type : NodeType}
    (hfollowing : following.dropWhile isSpace = '(' :: more)
    (htype : NodeType.ofName? name = some type) :
    unqualified name following = .nodeType type := by
  simp only [unqualified, hfollowing, htype]

theorem unqualified_of_function {following more : List Char} {name : String}
    (hfollowing : following.dropWhile isSpace = '(' :: more)
    (htype : NodeType.ofName? name = none) :
    unqualified name following = .functionName name := by
  simp only [unqualified, hfollowing, htype]

theorem unqualified_of_other {following : List Char} (name : String)
    (hmark : ∀ more, following.dropWhile isSpace ≠ ':' :: ':' :: more)
    (hparen : ∀ more, following.dropWhile isSpace ≠ '(' :: more) :
    unqualified name following = .nameTest none (some name) := by
  unfold unqualified
  split
  · next more heq => exact absurd heq (hmark more)
  · next more heq => exact absurd heq (hparen more)
  · rfl

theorem qualified_of_leftParen {following more : List Char} (qualifier name : String)
    (hfollowing : following.dropWhile isSpace = '(' :: more) :
    qualified qualifier name following = .functionName (qualifier ++ ":" ++ name) := by
  simp only [qualified, hfollowing]

theorem qualified_of_other {following : List Char} (qualifier name : String)
    (hparen : ∀ more, following.dropWhile isSpace ≠ '(' :: more) :
    qualified qualifier name following = .nameTest (some qualifier) (some name) := by
  unfold qualified
  split
  · next more heq => exact absurd heq (hparen more)
  · rfl

/-! ## What a text opens -/

section

variable {text : List Char}

theorem stopsName_of_isSpace (htext : ∀ c ∈ text.head?, isSpace c = true) : StopsName text :=
  fun c hc => isNameChar_eq_false_of_isSpace (htext c hc)

/-- What comes first, if it is not white space, comes first after any white space. -/
theorem isSpace_or_eq_of_dropWhile {c d : Char} {more : List Char} (hc : c ∈ text.head?)
    (htext : text.dropWhile isSpace = d :: more) : isSpace c = true ∨ c = d := by
  rcases List.head?_eq_some_iff.mp hc with ⟨rest, rfl⟩
  by_cases hspace : isSpace c = true
  · exact .inl hspace
  · rw [List.dropWhile_cons_of_neg hspace, List.cons.injEq] at htext
    exact .inr htext.1

theorem OpensParen.stopsName (hparen : OpensParen text) : StopsName text := by
  rcases hparen with ⟨more, hmore⟩
  intro c hc
  rcases isSpace_or_eq_of_dropWhile hc hmore with hspace | rfl
  · exact isNameChar_eq_false_of_isSpace hspace
  · decide

theorem OpensParen.colon_not_mem (hparen : OpensParen text) : ':' ∉ text.head? := by
  rcases hparen with ⟨more, hmore⟩
  intro hc
  rcases isSpace_or_eq_of_dropWhile hc hmore with hspace | hparen
  · exact absurd hspace (by decide)
  · exact absurd hparen (by decide)

theorem OpensAxis.stopsName (haxis : OpensAxis text) : StopsName text := by
  rcases haxis with ⟨more, hmore⟩
  intro c hc
  rcases isSpace_or_eq_of_dropWhile hc hmore with hspace | rfl
  · exact isNameChar_eq_false_of_isSpace hspace
  · exact isNameChar_colon

theorem opensAxis_colon_iff : OpensAxis (':' :: text) ↔ ∃ more, text = ':' :: more := by
  unfold OpensAxis
  rw [List.dropWhile_cons_of_neg (by decide)]
  simp only [List.cons.injEq, true_and]

end

/-! ## Scanning a name -/

section

variable {offset : Nat} {afterOperand : Bool} {chars rest : List Char}

theorem scanToken_of_isNameStart {c : Char} (hc : isNameStart c = true) :
    scanToken afterOperand offset (c :: rest) =
      if afterOperand then scanOperatorName offset (c :: rest)
      else scanOperandName offset (c :: rest) := by
  have hdigit : c.isDigit = false := by
    by_contra h
    rw [isNameStart_eq_false_of_isDigit (by simpa using h)] at hc
    cases hc
  have hquote := isQuote_eq_false hc (by decide) (by decide)
  have hpoint : (c == '.') = false := beq_eq_false_iff_ne.mpr (ne_of_class hc (by decide))
  -- The other characters that begin a token begin no name.
  rw [scanToken]
  · simp [hquote, hdigit, hpoint, hc]
  all_goals
    intros
    subst c
    exact absurd hc (by decide)

theorem scanOperandName_of_isName (hname : isName chars = true) (hstops : StopsName rest)
    (hcolon : ':' ∈ rest.head? → OpensAxis rest) :
    scanOperandName offset (chars ++ rest) =
      .ok ⟨unqualified (String.ofList chars) rest, chars.length⟩ := by
  have hfirst : leadingName (chars ++ rest) = chars := leadingName_append hname hstops
  simp only [scanOperandName, hfirst, List.drop_left]
  split
  · rfl
  · rcases opensAxis_colon_iff.mp (hcolon rfl) with ⟨more, hmore⟩
    cases hmore
  · next hmark _ =>
      rcases opensAxis_colon_iff.mp (hcolon rfl) with ⟨more, hmore⟩
      exact absurd hmore (hmark more)
  · rfl

theorem scanOperandName_anyNameOf (offset : Nat) (rest : List Char) (hname : isName chars = true) :
    scanOperandName offset (chars ++ ':' :: '*' :: rest) =
      .ok ⟨.nameTest (some (String.ofList chars)) none, chars.length + 2⟩ := by
  have hfirst : leadingName (chars ++ ':' :: '*' :: rest) = chars :=
    leadingName_append hname (by simp [isNameChar_colon])
  simp only [scanOperandName, hfirst, List.drop_left]

theorem scanOperandName_of_isQualifiedName {name : List Char} (hqualifier : isName chars = true)
    (hname : isName name = true) (hstops : StopsName rest) :
    scanOperandName offset (chars ++ ':' :: (name ++ rest)) =
      .ok ⟨qualified (String.ofList chars) (String.ofList name) rest,
        chars.length + 1 + name.length⟩ := by
  have hfirst : leadingName (chars ++ ':' :: (name ++ rest)) = chars :=
    leadingName_append hqualifier (by simp [isNameChar_colon])
  have hsecond : leadingName (name ++ rest) = name := leadingName_append hname hstops
  simp only [scanOperandName, hfirst, List.drop_left]
  obtain ⟨c, more, rfl, hc⟩ := exists_of_isName hname
  split
  · next heq =>
      simp only [List.cons_append, List.cons.injEq, true_and] at heq
      rw [heq.1] at hc
      exact absurd hc (by decide)
  · next heq =>
      simp only [List.cons_append, List.cons.injEq, true_and] at heq
      rw [heq.1] at hc
      exact absurd hc (by decide)
  · next heq =>
      rw [List.cons.injEq] at heq
      rw [← heq.2, hsecond]
      simp
  · next hother => exact absurd rfl (hother _)

theorem scanOperatorName_of_isName (hname : isName chars = true) (hstops : StopsName rest)
    {operator : BinaryOperator}
    (hoperator : operatorOfName? (String.ofList chars) = some operator) :
    scanOperatorName offset (chars ++ rest) = .ok ⟨.operator operator, chars.length⟩ := by
  have hfirst : leadingName (chars ++ rest) = chars := leadingName_append hname hstops
  simp only [scanOperatorName, hfirst, hoperator]

/-! ## First characters of tokens -/

/-- The text begins with a character that is neither white space nor one that tells what the name
before it is. -/
def BeginsOther (text : List Char) : Prop :=
  ∃ c more, text = c :: more ∧ isSpace c = false ∧ c ≠ '(' ∧ c ≠ ':'

theorem beginsOther_of_class {p : Char → Bool} {c : Char} (hc : p c = true)
    (hspace : ∀ d, isSpace d = true → p d = false) (hparen : p '(' = false)
    (hcolon : p ':' = false) (more : List Char) : BeginsOther (c :: more) := by
  have hnot : isSpace c = false := by
    by_contra h
    rw [hspace c (by simpa using h)] at hc
    cases hc
  exact ⟨c, more, rfl, hnot, ne_of_class hc hparen, ne_of_class hc hcolon⟩

theorem beginsOther_of_isNameStart {c : Char} (hc : isNameStart c = true) (more : List Char) :
    BeginsOther (c :: more) :=
  beginsOther_of_class (isNameChar_of_isNameStart hc) (fun _ h => isNameChar_eq_false_of_isSpace h)
    (by decide) (by decide) more

theorem beginsOther_of_isName (hname : isName chars = true) : BeginsOther (chars ++ rest) := by
  obtain ⟨c, more, rfl, hc⟩ := exists_of_isName hname
  exact beginsOther_of_isNameStart hc _

theorem beginsOther_of_isQualifiedName (hname : IsQualifiedName chars) : BeginsOther chars := by
  obtain ⟨c, more, rfl, hc⟩ := exists_of_isQualifiedName hname
  exact beginsOther_of_isNameStart hc _

theorem beginsOther_of_isNumeral (hnumeral : isNumeral chars = true) : BeginsOther chars := by
  cases chars with
  | nil => cases hnumeral
  | cons c more =>
      simp only [isNumeral, Bool.and_eq_true, List.all_cons, Bool.or_eq_true, beq_iff_eq]
        at hnumeral
      rcases hnumeral.1.2.1 with hdigit | rfl
      · exact beginsOther_of_class hdigit (fun _ h => isDigit_eq_false_of_isSpace h) (by decide)
          (by decide) more
      · exact ⟨'.', more, rfl, by decide, by decide, by decide⟩

/-- Only the parenthesis and the two colons begin as what tells the name before them. -/
theorem Token.Spells.begins {token : Token} (hspells : token.Spells chars) :
    (token = .leftParen ∧ chars = ['(']) ∨ (token = .axisMark ∧ chars = [':', ':']) ∨
      (token ≠ .leftParen ∧ token ≠ .axisMark ∧ BeginsOther chars) := by
  cases hspells with
  | leftParen => exact .inl ⟨rfl, rfl⟩
  | axisMark => exact .inr (.inl ⟨rfl, rfl⟩)
  | operator operator =>
      refine .inr (.inr ⟨nofun, nofun, ?_⟩)
      rcases operator with _ | _ | comparison | arithmetic | _
      · exact ⟨_, _, rfl, by decide, by decide, by decide⟩
      · exact ⟨_, _, rfl, by decide, by decide, by decide⟩
      · cases comparison <;> exact ⟨_, _, rfl, by decide, by decide, by decide⟩
      · cases arithmetic <;> exact ⟨_, _, rfl, by decide, by decide, by decide⟩
      · exact ⟨_, _, rfl, by decide, by decide, by decide⟩
  | literal hmark hvalue =>
      refine .inr (.inr ⟨nofun, nofun, ?_⟩)
      rcases hmark with rfl | rfl
      · exact ⟨_, _, rfl, by decide, by decide, by decide⟩
      · exact ⟨_, _, rfl, by decide, by decide, by decide⟩
  | number hdigits =>
      exact .inr (.inr ⟨nofun, nofun, beginsOther_of_isNumeral hdigits⟩)
  | anyNameOf hqualifier =>
      exact .inr (.inr ⟨nofun, nofun, beginsOther_of_isName hqualifier⟩)
  | localName hname =>
      exact .inr (.inr ⟨nofun, nofun, beginsOther_of_isQualifiedName (.inl hname)⟩)
  | qualifiedName hqualifier _ =>
      exact .inr (.inr ⟨nofun, nofun, beginsOther_of_isName hqualifier⟩)
  | nodeType type =>
      refine .inr (.inr ⟨nofun, nofun, ?_⟩)
      cases type <;> exact ⟨_, _, rfl, by decide, by decide, by decide⟩
  | functionName hname _ =>
      exact .inr (.inr ⟨nofun, nofun, beginsOther_of_isQualifiedName hname⟩)
  | axisName hname =>
      exact .inr (.inr ⟨nofun, nofun, beginsOther_of_isQualifiedName (.inl hname)⟩)
  | _ =>
      exact .inr (.inr ⟨nofun, nofun, _, _, rfl, by decide, by decide, by decide⟩)

theorem Token.Spells.exists_head {token : Token} (hspells : token.Spells chars) :
    ∃ c more, chars = c :: more ∧ isSpace c = false := by
  rcases hspells.begins with ⟨-, hchars⟩ | ⟨-, hchars⟩ | ⟨-, -, c, more, hchars, hc⟩
  · exact ⟨_, _, hchars, by decide⟩
  · exact ⟨_, _, hchars, by decide⟩
  · exact ⟨c, more, hchars, hc.1⟩

theorem Token.Spells.dropWhile_isSpace {token : Token} {gap : List Char}
    (hspells : token.Spells chars) (hgap : ∀ c ∈ gap, isSpace c = true) :
    (gap ++ (chars ++ rest)).dropWhile isSpace = chars ++ rest := by
  rcases hspells.exists_head with ⟨c, more, rfl, hc⟩
  rw [List.dropWhile_append_of_pos hgap, List.cons_append,
    List.dropWhile_cons_of_neg (by simp [hc])]

theorem Token.Spells.opensParen_iff {token : Token} {gap : List Char}
    (hspells : token.Spells chars) (hgap : ∀ c ∈ gap, isSpace c = true) :
    OpensParen (gap ++ (chars ++ rest)) ↔ token = .leftParen := by
  unfold OpensParen
  rw [hspells.dropWhile_isSpace hgap]
  rcases hspells.begins with ⟨rfl, rfl⟩ | ⟨rfl, rfl⟩ | ⟨hparen, _, c, more, rfl, hc⟩
  · simp
  · simp
  · simp [hparen, hc.2.1]

theorem Token.Spells.opensAxis_iff {token : Token} {gap : List Char}
    (hspells : token.Spells chars) (hgap : ∀ c ∈ gap, isSpace c = true) :
    OpensAxis (gap ++ (chars ++ rest)) ↔ token = .axisMark := by
  unfold OpensAxis
  rw [hspells.dropWhile_isSpace hgap]
  rcases hspells.begins with ⟨rfl, rfl⟩ | ⟨rfl, rfl⟩ | ⟨_, haxis, c, more, rfl, hc⟩
  · simp
  · simp
  · simp [haxis, hc.2.2]

/-- The text begins with white space or is empty, and shows whether the given token comes next. -/
structure Announces (next : Option Token) (text : List Char) : Prop where
  separated : ∀ c ∈ text.head?, isSpace c = true
  axisMark : next = some .axisMark ↔ ∃ more, text.dropWhile isSpace = ':' :: ':' :: more
  leftParen : next = some .leftParen ↔ ∃ more, text.dropWhile isSpace = '(' :: more

theorem announces_of_written {tokens : List Token} {text : List Char}
    (hwritten : Written tokens text) (hseparated : ∀ c ∈ text.head?, isSpace c = true) :
    Announces tokens.head? text := by
  cases hwritten with
  | nil hgap =>
      have hempty : text.dropWhile isSpace = [] := List.dropWhile_eq_nil_iff.mpr hgap
      exact ⟨hseparated, by simp [hempty], by simp [hempty]⟩
  | cons hgap hspells _ _ =>
      rw [List.head?_cons]
      exact ⟨hseparated, Option.some_inj.trans (hspells.opensAxis_iff hgap).symm,
        Option.some_inj.trans (hspells.opensParen_iff hgap).symm⟩

/-! ## Scanning a token -/

theorem NodeType.ofName?_name (type : NodeType) : NodeType.ofName? type.name = some type := by
  cases type <;> rfl

theorem isName_typeName (type : NodeType) : isName type.name.toList = true := by
  cases type <;> decide

theorem scanToken_of_isName (hname : isName chars = true) :
    scanToken afterOperand offset (chars ++ rest) =
      if afterOperand then scanOperatorName offset (chars ++ rest)
      else scanOperandName offset (chars ++ rest) := by
  obtain ⟨c, more, rfl, hc⟩ := exists_of_isName hname
  exact scanToken_of_isNameStart hc

/-- An operator that is written as a name. -/
theorem scanToken_namedOperator {operator : BinaryOperator} (hname : isName chars = true)
    (hoperator : operatorOfName? (String.ofList chars) = some operator) (hstops : StopsName rest) :
    scanToken true offset (chars ++ rest) = .ok ⟨.operator operator, chars.length⟩ := by
  rw [scanToken_of_isName hname, if_pos rfl]
  exact scanOperatorName_of_isName hname hstops hoperator

theorem scanLiteral_append {value : List Char} {mark : Char} (hvalue : mark ∉ value) :
    scanLiteral offset mark (value ++ mark :: rest) =
      .ok ⟨.literal (String.ofList value), value.length + 2⟩ := by
  have hbody : (value ++ mark :: rest).takeWhile (· != mark) = value := by
    apply takeWhile_append_of_stop
    · intro c hc
      have hne : c ≠ mark := fun heq => hvalue (heq ▸ hc)
      simpa using hne
    · simp
  rw [scanLiteral]
  simp [hbody]

theorem scanToken_literal {value : List Char} {mark : Char} (hmark : mark = '"' ∨ mark = '\'')
    (hvalue : mark ∉ value) :
    scanToken afterOperand offset (mark :: (value ++ mark :: rest)) =
      .ok ⟨.literal (String.ofList value), value.length + 2⟩ := by
  have hquote : scanToken afterOperand offset (mark :: (value ++ mark :: rest)) =
      scanLiteral offset mark (value ++ mark :: rest) := by
    rcases hmark with rfl | rfl <;> rfl
  rw [hquote, scanLiteral_append hvalue]

theorem scanToken_digit {c : Char} (hc : c.isDigit = true) :
    scanToken afterOperand offset (c :: rest) =
      .ok ⟨.number (String.ofList (leadingNumeral (c :: rest))),
        (leadingNumeral (c :: rest)).length⟩ := by
  have hquote := isQuote_eq_false hc (by decide) (by decide)
  -- No sign is a digit.
  rw [scanToken]
  · simp [hquote, hc]
  all_goals
    intros
    subst c
    exact absurd hc (by decide)

theorem scanToken_point {c : Char} (hc : c.isDigit = true) :
    scanToken afterOperand offset ('.' :: c :: rest) =
      .ok ⟨.number (String.ofList (leadingNumeral ('.' :: c :: rest))),
        (leadingNumeral ('.' :: c :: rest)).length⟩ := by
  rw [scanToken]
  · simp [hc]
  all_goals simp
  exact ne_of_class hc (by decide)

theorem scanToken_number (hnumeral : isNumeral chars = true)
    (hrest : ∀ c ∈ rest.head?, c.isDigit = false ∧ (c = '.' → '.' ∈ chars)) :
    scanToken afterOperand offset (chars ++ rest) =
      .ok ⟨.number (String.ofList chars), chars.length⟩ := by
  have hleading := leadingNumeral_append hnumeral hrest
  rcases isNumeral_cases hnumeral with ⟨hne, hall⟩ | ⟨whole, fraction, rfl, hwhole, hfraction, hne⟩
  · obtain ⟨c, more, rfl⟩ := List.exists_cons_of_ne_nil hne
    rw [List.cons_append] at hleading ⊢
    rw [scanToken_digit (hall c List.mem_cons_self), hleading]
  · cases whole with
    | nil =>
        obtain ⟨c, more, rfl⟩ := List.exists_cons_of_ne_nil (hne rfl)
        simp only [List.nil_append, List.cons_append] at hleading ⊢
        rw [scanToken_point (hfraction c List.mem_cons_self), hleading]
    | cons c more =>
        simp only [List.cons_append] at hleading ⊢
        rw [scanToken_digit (hwhole c List.mem_cons_self), hleading]

theorem scanToken_less (hrest : '=' ∉ rest.head?) :
    scanToken afterOperand offset ('<' :: rest) = .ok ⟨.operator (.compare .less), 1⟩ := by
  rw [scanToken]
  rintro more rfl
  exact hrest rfl

theorem scanToken_greater (hrest : '=' ∉ rest.head?) :
    scanToken afterOperand offset ('>' :: rest) = .ok ⟨.operator (.compare .greater), 1⟩ := by
  rw [scanToken]
  rintro more rfl
  exact hrest rfl

theorem scanToken_slash (hrest : '/' ∉ rest.head?) :
    scanToken afterOperand offset ('/' :: rest) = .ok ⟨.slash, 1⟩ := by
  rw [scanToken]
  rintro more rfl
  exact hrest rfl

theorem scanToken_dot (hrest : '.' ∉ rest.head?) (hdigit : ∀ c ∈ rest.head?, c.isDigit = false) :
    scanToken afterOperand offset ('.' :: rest) = .ok ⟨.dot, 1⟩ := by
  rw [scanToken]
  · cases rest with
    | nil => rfl
    | cons c more => simp [hdigit c rfl]
  all_goals simp
  rintro more rfl
  exact hrest rfl

theorem scanToken_operator {operator : BinaryOperator}
    (hspells : (Token.operator operator).Spells chars)
    (hafter : (Token.operator operator).FitsAfter afterOperand)
    (hends : (Token.operator operator).EndsBefore rest) :
    scanToken afterOperand offset (chars ++ rest) = .ok ⟨.operator operator, chars.length⟩ := by
  cases hspells
  rcases operator with _ | _ | comparison | arithmetic | _
  · obtain rfl : afterOperand = true := hafter
    exact scanToken_namedOperator (by decide) rfl hends
  · obtain rfl : afterOperand = true := hafter
    exact scanToken_namedOperator (by decide) rfl hends
  · cases comparison with
    | less => exact scanToken_less hends
    | greater => exact scanToken_greater hends
    | _ => rfl
  · cases arithmetic with
    | multiply =>
        obtain rfl : afterOperand = true := hafter
        rfl
    | divide =>
        obtain rfl : afterOperand = true := hafter
        exact scanToken_namedOperator (by decide) rfl hends
    | remainder =>
        obtain rfl : afterOperand = true := hafter
        exact scanToken_namedOperator (by decide) rfl hends
    | _ => rfl
  · rfl

theorem scanToken_variableName (hname : IsQualifiedName chars) (hstops : StopsName rest)
    (hcolon : ':' ∈ chars ∨ ∀ c more, rest = ':' :: c :: more → isNameStart c = false) :
    scanToken afterOperand offset ('$' :: (chars ++ rest)) =
      .ok ⟨.variableName (String.ofList chars), chars.length + 1⟩ := by
  have hleading := leadingQualifiedName_append hname hstops hcolon
  have hne : chars.isEmpty = false := by
    obtain ⟨c, more, rfl, -⟩ := exists_of_isQualifiedName hname
    rfl
  rw [scanToken]
  simp [hleading, hne]

/-- Where an operand is expected, what follows a name tells what it is. -/
theorem scanToken_unqualified (hname : isName chars = true) (hstops : StopsName rest)
    (hcolon : ':' ∈ rest.head? → OpensAxis rest) :
    scanToken false offset (chars ++ rest) =
      .ok ⟨unqualified (String.ofList chars) rest, chars.length⟩ := by
  rw [scanToken_of_isName hname, if_neg (by decide),
    scanOperandName_of_isName hname hstops hcolon]

theorem scanToken_qualified {name : List Char} (hqualifier : isName chars = true)
    (hname : isName name = true) (hstops : StopsName rest) :
    scanToken false offset ((chars ++ ':' :: name) ++ rest) =
      .ok ⟨qualified (String.ofList chars) (String.ofList name) rest,
        (chars ++ ':' :: name).length⟩ := by
  have hlength : (chars ++ ':' :: name).length = chars.length + 1 + name.length := by
    simp
    omega
  rw [hlength, List.append_assoc, scanToken_of_isName hqualifier, if_neg (by decide),
    List.cons_append, scanOperandName_of_isQualifiedName hqualifier hname hstops]

theorem scanToken_functionName {name : String} (hname : IsQualifiedName name.toList)
    (htype : NodeType.ofName? name = none) (hparen : OpensParen rest) :
    scanToken false offset (name.toList ++ rest) =
      .ok ⟨.functionName name, name.toList.length⟩ := by
  obtain ⟨more, hmore⟩ := hparen
  have hparen : OpensParen rest := ⟨more, hmore⟩
  rcases hname with hname | ⟨qualifier, localName, hqualifier, hlocal, hchars⟩
  · rw [scanToken_unqualified hname hparen.stopsName fun hc => absurd hc hparen.colon_not_mem,
      String.ofList_toList, unqualified_of_function hmore htype]
  · have hparts : String.ofList qualifier ++ ":" ++ String.ofList localName = name := by
      rw [← String.toList_inj]
      simp [hchars]
    rw [hchars, scanToken_qualified hqualifier hlocal hparen.stopsName,
      qualified_of_leftParen _ _ hmore, hparts]

/-- Where it may stand and ends, a token is found at the front of a text. -/
theorem scanToken_of_endsBefore (offset : Nat) {token : Token} (hspells : token.Spells chars)
    (hafter : token.FitsAfter afterOperand) (hends : token.EndsBefore rest) :
    scanToken afterOperand offset (chars ++ rest) = .ok ⟨token, chars.length⟩ := by
  cases hspells with
  | operator operator => exact scanToken_operator (.operator operator) hafter hends
  | @literal value mark hmark hvalue =>
      have hscanned : scanToken afterOperand offset (mark :: (value.toList ++ mark :: rest)) =
          .ok ⟨.literal (String.ofList value.toList), value.toList.length + 2⟩ :=
        scanToken_literal hmark hvalue
      simpa using hscanned
  | number hdigits => rw [scanToken_number hdigits hends, String.ofList_toList]
  | variableName hname =>
      rw [List.cons_append, scanToken_variableName hname hends.1 hends.2, String.ofList_toList,
        List.length_cons]
  | anyName =>
      obtain rfl : afterOperand = false := hafter
      rfl
  | anyNameOf hqualifier =>
      obtain rfl : afterOperand = false := hafter
      rw [List.append_assoc, scanToken_of_isName hqualifier, if_neg (by decide), List.cons_append,
        List.cons_append, List.nil_append, scanOperandName_anyNameOf offset rest hqualifier]
      simp
  | localName hname =>
      obtain rfl : afterOperand = false := hafter
      obtain ⟨hstops, hcolon, hparen, haxis⟩ := hends
      rw [scanToken_unqualified hname hstops fun hc => absurd hc hcolon, unqualified_of_other,
        String.ofList_toList]
      · intro more hmore
        exact haxis ⟨more, hmore⟩
      · intro more hmore
        exact hparen ⟨more, hmore⟩
  | qualifiedName hqualifier hname =>
      obtain rfl : afterOperand = false := hafter
      rw [scanToken_qualified hqualifier hname hends.1, qualified_of_other, String.ofList_toList,
        String.ofList_toList]
      intro more hmore
      exact hends.2 ⟨more, hmore⟩
  | nodeType type =>
      obtain rfl : afterOperand = false := hafter
      have hparen : OpensParen rest := hends
      obtain ⟨more, hmore⟩ := hends
      rw [scanToken_unqualified (isName_typeName type) hparen.stopsName
          fun hc => absurd hc hparen.colon_not_mem, String.ofList_toList,
        unqualified_of_type hmore type.ofName?_name]
  | functionName hname htype =>
      obtain rfl : afterOperand = false := hafter
      exact scanToken_functionName hname htype hends
  | axisName hname =>
      obtain rfl : afterOperand = false := hafter
      have haxis : OpensAxis rest := hends
      obtain ⟨more, hmore⟩ := hends
      rw [scanToken_unqualified hname haxis.stopsName fun _ => haxis,
        unqualified_of_axisMark _ hmore, String.ofList_toList]
  | dot => exact scanToken_dot hends.1 hends.2
  | slash => exact scanToken_slash hends
  | _ => rfl

/-- White space ends every token, and the next token tells what the name before it is. -/
theorem endsBefore_of_announces {token : Token} {next : Option Token}
    (hbefore : token.FitsBefore next) (hrest : Announces next rest) : token.EndsBefore rest := by
  have hstops : StopsName rest := stopsName_of_isSpace hrest.separated
  have hother : ∀ d : Char, isSpace d = false → d ∉ rest.head? := by
    intro d hd hmem
    rw [hrest.separated d hmem] at hd
    cases hd
  have hdigit : ∀ c ∈ rest.head?, c.isDigit = false := fun c hc =>
    isDigit_eq_false_of_isSpace (hrest.separated c hc)
  cases token with
  | operator operator =>
      rcases operator with _ | _ | comparison | arithmetic | _
      · exact hstops
      · exact hstops
      · cases comparison <;> first | exact trivial | exact hother '=' (by decide)
      · cases arithmetic <;> first | exact trivial | exact hstops
      · trivial
  | slash => exact hother '/' (by decide)
  | dot => exact ⟨hother '.' (by decide), hdigit⟩
  | number digits =>
      intro c hc
      refine ⟨hdigit c hc, ?_⟩
      rintro rfl
      exact absurd hc (hother '.' (by decide))
  | variableName name =>
      refine ⟨hstops, .inr ?_⟩
      rintro c more rfl
      exact absurd rfl (hother ':' (by decide))
  | nameTest qualifier? name? =>
      cases name? with
      | none => cases qualifier? <;> trivial
      | some name =>
          cases qualifier? with
          | none =>
              refine ⟨hstops, hother ':' (by decide), ?_, ?_⟩
              · exact fun hparen => hbefore.1 (hrest.leftParen.mpr hparen)
              · exact fun haxis => hbefore.2 (hrest.axisMark.mpr haxis)
          | some qualifier =>
              exact ⟨hstops, fun hparen => hbefore (hrest.leftParen.mpr hparen)⟩
  | nodeType type => exact hrest.leftParen.mp hbefore
  | functionName name => exact hrest.leftParen.mp hbefore
  | axisName name => exact hrest.axisMark.mp hbefore
  | _ => trivial

theorem scanToken_of_spells (offset : Nat) {token : Token} {next : Option Token}
    (hspells : token.Spells chars)
    (hafter : token.FitsAfter afterOperand) (hbefore : token.FitsBefore next)
    (hrest : Announces next rest) :
    scanToken afterOperand offset (chars ++ rest) = .ok ⟨token, chars.length⟩ :=
  scanToken_of_endsBefore offset hspells hafter (endsBefore_of_announces hbefore hrest)

end

/-! ## Scanning a text -/

theorem exists_scan_of_spells {token : Token} {chars rest : List Char} {afterOperand : Bool}
    {offset : Nat} {lexemes : List Lexeme} (hspells : token.Spells chars)
    (hscanned : scanToken afterOperand offset (chars ++ rest) = .ok ⟨token, chars.length⟩)
    (hrest : scan token.endsOperand (offset + byteLength chars) 0 rest = .ok lexemes) :
    ∃ lexeme : Lexeme, lexeme.token = token ∧
      scan afterOperand offset 0 (chars ++ rest) = .ok (lexeme :: lexemes) := by
  obtain ⟨c, more, rfl, hc⟩ := hspells.exists_head
  rw [List.length_cons, List.cons_append] at hscanned
  refine ⟨⟨token, offset, c⟩, rfl, ?_⟩
  rw [List.cons_append, scan_token hc hscanned, hrest]
  rfl

theorem scan_of_written {tokens : List Token} {text : List Char} (hwritten : Written tokens text)
    {afterOperand : Bool} (hplaced : WellPlaced afterOperand tokens) (offset : Nat) :
    ∃ lexemes, scan afterOperand offset 0 text = .ok lexemes ∧
      lexemes.map Lexeme.token = tokens := by
  induction hwritten generalizing afterOperand offset with
  | @nil gap hgap =>
      have hscan := scan_gap hgap afterOperand offset []
      rw [List.append_nil] at hscan
      exact ⟨[], hscan, rfl⟩
  | @cons token tokens gap chars rest hgap hspells hseparated hrest ih =>
      obtain ⟨hafter, hbefore, hlater⟩ := hplaced
      have hscanned :=
        scanToken_of_spells (offset + byteLength gap) hspells hafter hbefore
          (announces_of_written hrest hseparated)
      obtain ⟨lexemes, hlexemes, htokens⟩ :=
        ih hlater (offset + byteLength gap + byteLength chars)
      obtain ⟨lexeme, htoken, hscan⟩ := exists_scan_of_spells hspells hscanned hlexemes
      refine ⟨lexeme :: lexemes, ?_, by rw [List.map_cons, htoken, htokens]⟩
      rw [scan_gap hgap, hscan]

/-- The names of operators and of types of nodes, which elements can have as well. -/
def ambiguousNames : List String := ["and", "or", "div", "mod", "text", "node", "comment"]

theorem isName_of_mem_ambiguousNames {name : String} (hname : name ∈ ambiguousNames) :
    isName name.toList = true := by
  have hall : ∀ name ∈ ambiguousNames, isName name.toList = true := by decide
  exact hall name hname

theorem fitsBefore_of_endsOperand_eq_false {token : Token} (htoken : token.endsOperand = false)
    (next : Option Token) :
    token.FitsBefore next := by
  cases token <;> first | exact trivial | cases htoken

/-- Where the first tokens leave an operand to be expected, others may follow that begin with
one. -/
theorem wellPlaced_append {before after : List Token} {afterOperand : Bool}
    (hbefore : WellPlaced afterOperand before) (hafter : WellPlaced false after)
    (hlast : ∀ token ∈ before.getLast?, token.endsOperand = false)
    (hstart : before = [] → afterOperand = false) :
    WellPlaced afterOperand (before ++ after) := by
  induction before generalizing afterOperand with
  | nil =>
      rw [hstart rfl]
      exact hafter
  | cons token rest ih =>
      obtain ⟨hfits, hnext, hrest⟩ := hbefore
      cases rest with
      | nil =>
          have hexpects : token.endsOperand = false := hlast token rfl
          refine ⟨hfits, fitsBefore_of_endsOperand_eq_false hexpects _, ?_⟩
          rw [hexpects]
          exact hafter
      | cons second rest =>
          refine ⟨hfits, hnext, ih hrest ?_ nofun⟩
          intro last hmem
          exact hlast last (by rwa [List.getLast?_cons_cons])

/-- The tokens can be written, and scanning finds just them in every text that they are written
as. -/
def ReadBack (tokens : List Token) : Prop :=
  (∃ text : String, Written tokens text.toList) ∧
    ∀ text : String, Written tokens text.toList →
      ∃ lexemes, tokenize text = .ok lexemes ∧ lexemes.map Lexeme.token = tokens

theorem readBack_of_wellPlaced {tokens : List Token}
    (hlexical : ∀ token ∈ tokens, token.IsLexical) (hplaced : WellPlaced false tokens) :
    ReadBack tokens := by
  constructor
  · obtain ⟨text, hwritten⟩ := exists_written hlexical
    exact ⟨String.ofList text, by rwa [String.toList_ofList]⟩
  · intro text hwritten
    exact scan_of_written hwritten hplaced 0

/-- Tokens that stand where they may stand are read back from every text that they are written as.
In particular the names of operators and of types of nodes come back as tests for names wherever an
operand is expected. -/
theorem wellPlaced_tokens_are_read_back :
    (∀ tokens : List Token,
      (∀ token ∈ tokens, token.IsLexical) → WellPlaced false tokens → ReadBack tokens) ∧
    ∀ name ∈ ambiguousNames, ∀ before after : List Token,
      (∀ token ∈ before ++ after, token.IsLexical) →
      WellPlaced false before → (∀ token ∈ before.getLast?, token.endsOperand = false) →
      WellPlaced true after →
      after.head? ≠ some .leftParen → after.head? ≠ some .axisMark →
        ReadBack (before ++ .nameTest none (some name) :: after) := by
  refine ⟨fun tokens hlexical hplaced => readBack_of_wellPlaced hlexical hplaced, ?_⟩
  intro name hname before after hlexical hbefore hlast hafter hparen hmark
  have htest : WellPlaced false (.nameTest none (some name) :: after) :=
    ⟨rfl, ⟨hparen, hmark⟩, hafter⟩
  refine readBack_of_wellPlaced ?_ (wellPlaced_append hbefore htest hlast fun _ => rfl)
  intro token htoken
  rcases List.mem_append.mp htoken with htoken | htoken
  · exact hlexical token (List.mem_append_left _ htoken)
  · rcases List.mem_cons.mp htoken with rfl | htoken
    · exact ⟨nofun, by simpa using isName_of_mem_ambiguousNames hname⟩
    · exact hlexical token (List.mem_append_right _ htoken)

/-- Names of operators and stars on both sides of the operators, and a test with parentheses. -/
def crossedTokens : List Token :=
  [.nameTest none (some "div"), .operator (.arithmetic .divide), .nameTest none none,
    .operator (.arithmetic .multiply), .nameTest none (some "text"), .operator .and,
    .nodeType .text, .leftParen, .rightParen]

theorem written_crossedTokens :
    Written crossedTokens " div div * * text and text ( )".toList := by
  have hspace : ∀ {rest : List Char}, ∀ c ∈ (' ' :: rest).head?, isSpace c = true := by
    simp [isSpace]
  have hend : Written [] [] := .nil (by simp)
  have hwritten : Written crossedTokens _ :=
    .space (.localName (by decide)) (.space (.operator _) (.space .anyName (.space (.operator _)
      (.space (.localName (by decide)) (.space (.operator _) (.space (.nodeType _)
        (.space .leftParen (.space .rightParen hend (by simp))
          hspace) hspace) hspace) hspace) hspace) hspace) hspace) hspace
  exact hwritten

theorem crossedTokens_are_read_back :
    (∀ token ∈ crossedTokens, token.IsLexical) ∧ WellPlaced false crossedTokens ∧
    (∃ lexemes,
      tokenize " div div * * text and text ( )" = .ok lexemes ∧
        lexemes.map Lexeme.token = crossedTokens) ∧
    WellPlaced false [.slash] ∧ WellPlaced true [.leftBracket, .dot, .rightBracket] ∧
    ReadBack [.slash, .nameTest none (some "mod"), .leftBracket, .dot, .rightBracket] := by
  obtain ⟨htokens, hnames⟩ := wellPlaced_tokens_are_read_back
  have hlexical : ∀ token ∈ crossedTokens, token.IsLexical := by
    simp [crossedTokens, Token.IsLexical]
    decide
  have hplaced : WellPlaced false crossedTokens := by
    simp [crossedTokens, WellPlaced, Token.FitsAfter, Token.FitsBefore, Token.endsOperand]
  have hslash : WellPlaced false [.slash] := ⟨trivial, trivial, trivial⟩
  have hpredicate : WellPlaced true [.leftBracket, .dot, .rightBracket] :=
    ⟨trivial, trivial, trivial, trivial, trivial, trivial, trivial⟩
  have hmodulo : ReadBack ([.slash] ++ .nameTest none (some "mod") ::
      [.leftBracket, .dot, .rightBracket]) := by
    refine hnames "mod" (by decide) _ _ ?_ hslash ?_ hpredicate (by decide) (by decide)
    · simp [Token.IsLexical]
    · simp [Token.endsOperand]
  exact ⟨hlexical, hplaced, (htokens _ hlexical hplaced).2 _ written_crossedTokens, hslash,
    hpredicate, hmodulo⟩

end Locator
end RecordExtraction
