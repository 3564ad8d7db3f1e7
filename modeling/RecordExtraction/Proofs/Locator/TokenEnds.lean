import Mathlib
import RecordExtraction.Proofs.Locator.Tokenization

/-!
# Scanned tokens

The scanner finds a token at the front of a text exactly when the text begins with a spelling of it,
the token may stand there, and it ends there.  So what it finds depends on the characters of the
token and on little more: on the next character, and on what comes first behind white space.
-/

namespace RecordExtraction
namespace Locator

/-- The text begins with a spelling of the token, which has so many characters; the token may stand
there, and it ends where the spelling does. -/
def FoundAt (afterOperand : Bool) (text : List Char) (scanned : Scanned) : Prop :=
  ∃ chars rest,
    text = chars ++ rest ∧ scanned.length = chars.length ∧ scanned.token.Spells chars ∧
      scanned.token.FitsAfter afterOperand ∧ scanned.token.EndsBefore rest

section

variable {afterOperand : Bool} {offset : Nat} {text rest : List Char} {scanned : Scanned}

theorem FoundAt.of_spells {chars : List Char} {token : Token} (hspells : token.Spells chars)
    (hafter : token.FitsAfter afterOperand) (hends : token.EndsBefore rest) :
    FoundAt afterOperand (chars ++ rest) ⟨token, chars.length⟩ :=
  ⟨chars, rest, rfl, rfl, hspells, hafter, hends⟩

theorem exists_toList_eq (chars : List Char) : ∃ text : String, text.toList = chars :=
  ⟨String.ofList chars, String.toList_ofList⟩

theorem stops_dropWhile (p : Char → Bool) (text : List Char) :
    ∀ c ∈ (text.dropWhile p).head?, p c = false := by
  intro c hc
  have hnot := List.head?_dropWhile_not p text
  rw [Option.mem_def.mp hc] at hnot
  exact hnot

/-! ## Names -/

theorem exists_of_leadingName (hname : (leadingName text).isEmpty = false) :
    ∃ (name : String) (rest : List Char),
      text = name.toList ++ rest ∧ isName name.toList = true ∧ StopsName rest := by
  cases text with
  | nil => cases hname
  | cons c more =>
      by_cases hc : isNameStart c = true
      · rcases exists_toList_eq ((c :: more).takeWhile isNameChar) with ⟨name, hchars⟩
        refine ⟨name, (c :: more).dropWhile isNameChar, ?_, ?_, stops_dropWhile isNameChar _⟩
        · rw [hchars, List.takeWhile_append_dropWhile]
        · rw [hchars, List.takeWhile_cons_of_pos (isNameChar_of_isNameStart hc), isName_cons]
          exact ⟨hc, fun d hd => List.mem_takeWhile_imp hd⟩
      · have hleading : leadingName (c :: more) = [] := if_neg hc
        rw [hleading] at hname
        cases hname

theorem isEmpty_leadingName {c : Char} (hc : isNameStart c = true) :
    (leadingName (c :: rest)).isEmpty = false := by
  have hleading : leadingName (c :: rest) = (c :: rest).takeWhile isNameChar := if_pos hc
  rw [hleading, List.takeWhile_cons_of_pos (isNameChar_of_isNameStart hc)]
  rfl

theorem exists_of_leadingQualifiedName (hname : (leadingQualifiedName text).isEmpty = false) :
    ∃ (name : String) (rest : List Char),
      text = name.toList ++ rest ∧ IsQualifiedName name.toList ∧
        (Token.variableName name).EndsBefore rest := by
  by_cases hfirst : (leadingName text).isEmpty = true
  · have hempty : leadingQualifiedName text = [] := by
      have hnil := List.isEmpty_iff.mp hfirst
      unfold leadingQualifiedName
      simp only [hnil]
      split <;> rfl
    rw [hempty] at hname
    cases hname
  · rcases exists_of_leadingName (by simpa using hfirst) with ⟨first, rest, rfl, hfirstName, hstops⟩
    by_cases hcolon : ∃ c more, rest = ':' :: c :: more ∧ isNameStart c = true
    · rcases hcolon with ⟨c, more, rfl, hc⟩
      rcases exists_of_leadingName (isEmpty_leadingName hc) with
        ⟨second, later, hmore, hsecondName, hlater⟩
      have hchars : (first ++ ":" ++ second).toList = first.toList ++ ':' :: second.toList := by
        simp
      refine ⟨first ++ ":" ++ second, later, ?_, ?_, hlater, .inl (by simp)⟩
      · rw [hchars, hmore, List.append_assoc, List.cons_append]
      · exact .inr ⟨_, _, hfirstName, hsecondName, hchars⟩
    · refine ⟨first, rest, rfl, .inl hfirstName, hstops, .inr ?_⟩
      intro c more hrest
      by_contra hc
      exact hcolon ⟨c, more, hrest, by simpa using hc⟩

/-! ## Numerals -/

theorem point_not_mem {chars : List Char} (hall : ∀ c ∈ chars, c.isDigit = true) :
    '.' ∉ chars := by
  intro hmem
  exact absurd (hall '.' hmem) (by decide)

theorem isNumeral_of_digits {chars : List Char} (hne : chars ≠ [])
    (hall : ∀ c ∈ chars, c.isDigit = true) : isNumeral chars = true := by
  rcases List.exists_mem_of_ne_nil chars hne with ⟨digit, hdigit⟩
  simp only [isNumeral, Bool.and_eq_true, List.any_eq_true, List.all_eq_true, Bool.or_eq_true,
    decide_eq_true_eq, List.count_eq_zero.mpr (point_not_mem hall)]
  exact ⟨⟨⟨digit, hdigit, hall digit hdigit⟩, fun c hc => .inl (hall c hc)⟩, Nat.zero_le 1⟩

theorem isNumeral_of_point {whole fraction : List Char} (hwhole : ∀ c ∈ whole, c.isDigit = true)
    (hfraction : ∀ c ∈ fraction, c.isDigit = true) (hne : whole ++ fraction ≠ []) :
    isNumeral (whole ++ '.' :: fraction) = true := by
  have hcount : (whole ++ '.' :: fraction).count '.' = 1 := by
    rw [List.count_append, List.count_cons_self, List.count_eq_zero.mpr (point_not_mem hwhole),
      List.count_eq_zero.mpr (point_not_mem hfraction)]
  have hmem : ∀ c, c ∈ whole ++ '.' :: fraction ↔ c = '.' ∨ c ∈ whole ++ fraction := by
    intro c
    simp [or_left_comm]
  have hall : ∀ c ∈ whole ++ fraction, c.isDigit = true := by
    intro c hc
    exact (List.mem_append.mp hc).elim (hwhole c) (hfraction c)
  rcases List.exists_mem_of_ne_nil _ hne with ⟨digit, hdigit⟩
  simp only [isNumeral, Bool.and_eq_true, List.any_eq_true, List.all_eq_true, Bool.or_eq_true,
    beq_iff_eq, decide_eq_true_eq, hcount, hmem]
  refine ⟨⟨⟨digit, .inr hdigit, hall digit hdigit⟩, ?_⟩, Nat.le_refl 1⟩
  intro c hc
  exact hc.symm.imp_left (hall c)

theorem exists_of_numeral {c : Char}
    (hc : (c.isDigit || (c == '.' && rest.head?.any Char.isDigit)) = true) :
    ∃ (digits : String) (later : List Char),
      c :: rest = digits.toList ++ later ∧ isNumeral digits.toList = true ∧
        (Token.number digits).EndsBefore later := by
  have hall : ∀ text : List Char, ∀ d ∈ text.takeWhile Char.isDigit, d.isDigit = true :=
    fun text d hd => List.mem_takeWhile_imp hd
  have hstops := stops_dropWhile Char.isDigit
  rw [Bool.or_eq_true, Bool.and_eq_true, beq_iff_eq, Option.any_eq_true] at hc
  generalize htext : c :: rest = text
  by_cases hpoint : ∃ more, text.dropWhile Char.isDigit = '.' :: more
  · rcases hpoint with ⟨more, hmore⟩
    rcases exists_toList_eq (text.takeWhile Char.isDigit ++ '.' :: more.takeWhile Char.isDigit)
      with ⟨digits, hdigits⟩
    have hsplit : text.takeWhile Char.isDigit ++ '.' :: more = text := by
      rw [← hmore, List.takeWhile_append_dropWhile]
    refine ⟨digits, more.dropWhile Char.isDigit, ?_, ?_, ?_⟩
    · rw [hdigits, List.append_assoc, List.cons_append, List.takeWhile_append_dropWhile, hsplit]
    · rw [hdigits]
      apply isNumeral_of_point (hall _) (hall _)
      -- In front of the point or after it there is the digit that the numeral begins with.
      subst text
      rcases hc with hc | ⟨rfl, d, hhead, hd⟩
      · rw [List.takeWhile_cons_of_pos hc]
        nofun
      · rw [List.dropWhile_cons_of_neg (by decide), List.cons.injEq] at hmore
        rcases List.head?_eq_some_iff.mp hhead with ⟨later, rfl⟩
        rw [← hmore.2, List.takeWhile_cons_of_pos hd]
        simp
    · intro d hd
      exact ⟨hstops more d hd, fun _ => by simp [hdigits]⟩
  · rcases exists_toList_eq (text.takeWhile Char.isDigit) with ⟨digits, hdigits⟩
    refine ⟨digits, text.dropWhile Char.isDigit, ?_, ?_, ?_⟩
    · rw [hdigits, List.takeWhile_append_dropWhile]
    · rw [hdigits]
      apply isNumeral_of_digits _ (hall _)
      subst text
      rcases hc with hc | ⟨rfl, -⟩
      · rw [List.takeWhile_cons_of_pos hc]
        nofun
      · exact absurd ⟨rest, List.dropWhile_cons_of_neg (by decide)⟩ hpoint
    · intro d hd
      refine ⟨hstops text d hd, ?_⟩
      rintro rfl
      rcases List.head?_eq_some_iff.mp hd with ⟨more, hmore⟩
      exact absurd ⟨more, hmore⟩ hpoint

/-! ## Names of operators and of operands -/

theorem spells_of_operatorOfName? {chars : List Char} {operator : BinaryOperator}
    (hname : operatorOfName? (String.ofList chars) = some operator) :
    (Token.operator operator).Spells chars ∧ (Token.operator operator).FitsAfter true ∧
      ∀ rest, StopsName rest → (Token.operator operator).EndsBefore rest := by
  unfold operatorOfName? at hname
  split at hname
  case h_5 => cases hname
  all_goals
    next hchars =>
      cases hname
      obtain rfl := String.ofList_injective hchars
      exact ⟨.operator _, rfl, fun rest hstops => hstops⟩

theorem foundAt_of_scanOperatorName (hfirst : (leadingName text).isEmpty = false)
    (hscanned : scanOperatorName offset text = .ok scanned) : FoundAt true text scanned := by
  rcases exists_of_leadingName hfirst with ⟨name, rest, rfl, hname, hstops⟩
  simp only [scanOperatorName, leadingName_append hname hstops] at hscanned
  split at hscanned
  · next operator hoperator =>
      rcases spells_of_operatorOfName? hoperator with ⟨hspells, hafter, hends⟩
      cases hscanned
      exact ⟨_, rest, rfl, rfl, hspells, hafter, hends rest hstops⟩
  · cases hscanned

theorem name_of_ofName? {name : String} {type : NodeType}
    (htype : NodeType.ofName? name = some type) : type.name = name := by
  simpa using List.find?_some htype

theorem foundAt_unqualified {name : String} (hname : isName name.toList = true)
    (hstops : StopsName rest) (hcolon : ':' ∈ rest.head? → OpensAxis rest) :
    FoundAt false (name.toList ++ rest) ⟨unqualified name rest, name.toList.length⟩ := by
  refine ⟨name.toList, rest, rfl, rfl, ?_⟩
  by_cases haxis : OpensAxis rest
  · rcases haxis with ⟨more, hmore⟩
    rw [unqualified_of_axisMark _ hmore]
    exact ⟨.axisName hname, rfl, more, hmore⟩
  · by_cases hparen : OpensParen rest
    · rcases hparen with ⟨more, hmore⟩
      cases htype : NodeType.ofName? name with
      | some type =>
          rw [unqualified_of_type hmore htype, ← name_of_ofName? htype]
          exact ⟨.nodeType type, rfl, more, hmore⟩
      | none =>
          rw [unqualified_of_function hmore htype]
          exact ⟨.functionName (.inl hname) htype, rfl, more, hmore⟩
    · rw [unqualified_of_other _ (fun more h => haxis ⟨more, h⟩) fun more h => hparen ⟨more, h⟩]
      exact ⟨.localName hname, rfl, hstops, fun h => haxis (hcolon h), hparen, haxis⟩

/-- No type of nodes has a name with a colon. -/
theorem ofName?_eq_none {name : String} (hcolon : ':' ∈ name.toList) :
    NodeType.ofName? name = none := by
  cases htype : NodeType.ofName? name with
  | none => rfl
  | some type =>
      rw [← name_of_ofName? htype] at hcolon
      exact absurd hcolon (colon_not_mem_of_isName (isName_typeName type))

theorem foundAt_qualified {qualifier name : String} (hqualifier : isName qualifier.toList = true)
    (hname : isName name.toList = true) (hstops : StopsName rest) :
    FoundAt false (qualifier.toList ++ ':' :: (name.toList ++ rest))
      ⟨qualified qualifier name rest, qualifier.toList.length + 1 + name.toList.length⟩ := by
  refine ⟨qualifier.toList ++ ':' :: name.toList, rest, by simp, by simp; omega, ?_⟩
  by_cases hparen : OpensParen rest
  · rcases hparen with ⟨more, hmore⟩
    have hchars : (qualifier ++ ":" ++ name).toList = qualifier.toList ++ ':' :: name.toList := by
      simp
    have htype : NodeType.ofName? (qualifier ++ ":" ++ name) = none :=
      ofName?_eq_none (by simp)
    have hboth : IsQualifiedName (qualifier ++ ":" ++ name).toList :=
      .inr ⟨_, _, hqualifier, hname, hchars⟩
    rw [qualified_of_leftParen _ _ hmore, ← hchars]
    exact ⟨.functionName hboth htype, rfl, more, hmore⟩
  · rw [qualified_of_other _ _ fun more h => hparen ⟨more, h⟩]
    exact ⟨.qualifiedName hqualifier hname, rfl, hstops, hparen⟩

theorem foundAt_of_scanOperandName (hfirst : (leadingName text).isEmpty = false)
    (hscanned : scanOperandName offset text = .ok scanned) : FoundAt false text scanned := by
  rcases exists_of_leadingName hfirst with ⟨name, rest, rfl, hname, hstops⟩
  simp only [scanOperandName, leadingName_append hname hstops, List.drop_left,
    String.ofList_toList] at hscanned
  split at hscanned
  · cases hscanned
    exact foundAt_unqualified hname hstops fun _ => opensAxis_colon_iff.mpr ⟨_, rfl⟩
  · next more =>
      cases hscanned
      exact ⟨name.toList ++ [':', '*'], more, by simp, by simp, .anyNameOf hname, rfl, trivial⟩
  · split at hscanned
    · cases hscanned
    · next hsecond =>
        rcases exists_of_leadingName (by simpa using hsecond) with
          ⟨second, later, rfl, hsecondName, hlater⟩
        rw [leadingName_append hsecondName hlater, List.drop_left, String.ofList_toList] at hscanned
        cases hscanned
        exact foundAt_qualified hname hsecondName hlater
  · next hcolon =>
      cases hscanned
      have hother : ':' ∉ rest.head? := not_mem_head?_of_ne_cons hcolon
      exact foundAt_unqualified hname hstops fun h => absurd h hother

/-! ## Tokens -/

theorem foundAt_of_scanLiteral {mark : Char} (hmark : mark = '"' ∨ mark = '\'')
    (hscanned : scanLiteral offset mark rest = .ok scanned) :
    FoundAt afterOperand (mark :: rest) scanned := by
  by_cases hmem : mark ∈ rest
  · rcases List.eq_append_cons_of_mem hmem with ⟨chars, later, rfl, hvalue⟩
    rw [scanLiteral_append hvalue] at hscanned
    cases hscanned
    rcases exists_toList_eq chars with ⟨value, rfl⟩
    rw [String.ofList_toList]
    exact ⟨mark :: (value.toList ++ [mark]), later, by simp, by simp, .literal hmark hvalue,
      trivial, trivial⟩
  · have hbody : rest.takeWhile (· != mark) = rest := by
      rw [List.takeWhile_eq_self_iff]
      intro c hc
      rw [bne_iff_ne]
      rintro rfl
      exact hmem hc
    rw [scanLiteral, hbody, if_neg (Nat.lt_irrefl _)] at hscanned
    cases hscanned

theorem foundAt_number {c : Char}
    (hc : (c.isDigit || (c == '.' && rest.head?.any Char.isDigit)) = true) :
    FoundAt afterOperand (c :: rest)
      ⟨.number (String.ofList (leadingNumeral (c :: rest))),
        (leadingNumeral (c :: rest)).length⟩ := by
  rcases exists_of_numeral hc with ⟨digits, later, htext, hdigits, hends⟩
  rw [htext, leadingNumeral_append hdigits hends, String.ofList_toList]
  exact .of_spells (.number hdigits) trivial hends

theorem foundAt_variableName (hname : (leadingQualifiedName rest).isEmpty = false) :
    FoundAt afterOperand ('$' :: rest)
      ⟨.variableName (String.ofList (leadingQualifiedName rest)),
        (leadingQualifiedName rest).length + 1⟩ := by
  rcases exists_of_leadingQualifiedName hname with ⟨name, later, rfl, hqualified, hends⟩
  rw [leadingQualifiedName_append hqualified hends.1 hends.2, String.ofList_toList]
  exact .of_spells (.variableName hqualified) trivial hends

theorem foundAt_dot (hdots : ∀ more, rest ≠ '.' :: more)
    (hdigit : rest.head?.any Char.isDigit = false) :
    FoundAt afterOperand ('.' :: rest) ⟨.dot, 1⟩ := by
  refine .of_spells .dot trivial ⟨not_mem_head?_of_ne_cons hdots, ?_⟩
  intro c hc
  rw [Option.mem_def.mp hc] at hdigit
  exact hdigit

theorem foundAt_of_scanToken (hscanned : scanToken afterOperand offset text = .ok scanned) :
    FoundAt afterOperand text scanned := by
  unfold scanToken at hscanned
  split at hscanned
  case h_1 => cases hscanned
  case h_21 =>
    -- A star.
    split at hscanned
    · next hafter =>
        cases hscanned
        exact .of_spells (.operator (.arithmetic .multiply)) hafter trivial
    · next hafter =>
        cases hscanned
        exact .of_spells .anyName (Bool.eq_false_iff.mpr hafter) trivial
  case h_22 =>
    dsimp only at hscanned
    split at hscanned
    · cases hscanned
    · next hname =>
        cases hscanned
        exact foundAt_variableName (Bool.eq_false_iff.mpr hname)
  case h_23 hdots _ _ =>
    split at hscanned
    · next hquote => exact foundAt_of_scanLiteral (by simpa using hquote) hscanned
    · split at hscanned
      · next hnumeral =>
          cases hscanned
          exact foundAt_number hnumeral
      · next hnumeral =>
          split at hscanned
          · next hpoint =>
              obtain rfl := eq_of_beq hpoint
              cases hscanned
              exact foundAt_dot (fun more => hdots more rfl) (by simpa using hnumeral)
          · split at hscanned
            · next hname =>
                cases afterOperand with
                | true => exact foundAt_of_scanOperatorName (isEmpty_leadingName hname) hscanned
                | false => exact foundAt_of_scanOperandName (isEmpty_leadingName hname) hscanned
            · cases hscanned
  all_goals cases hscanned
  · exact .of_spells .leftParen trivial trivial
  · exact .of_spells .rightParen trivial trivial
  · exact .of_spells .leftBracket trivial trivial
  · exact .of_spells .rightBracket trivial trivial
  · exact .of_spells .atSign trivial trivial
  · exact .of_spells .comma trivial trivial
  · exact .of_spells (.operator .union) trivial trivial
  · exact .of_spells (.operator (.arithmetic .add)) trivial trivial
  · exact .of_spells (.operator (.arithmetic .subtract)) trivial trivial
  · exact .of_spells (.operator (.compare .equal)) trivial trivial
  · exact .of_spells (.operator (.compare .notEqual)) trivial trivial
  · exact .of_spells (.operator (.compare .lessOrEqual)) trivial trivial
  · next hother =>
      exact .of_spells (.operator (.compare .less)) trivial (not_mem_head?_of_ne_cons hother)
  · exact .of_spells (.operator (.compare .greaterOrEqual)) trivial trivial
  · next hother =>
      exact .of_spells (.operator (.compare .greater)) trivial (not_mem_head?_of_ne_cons hother)
  · exact .of_spells .doubleSlash trivial trivial
  · next hother => exact .of_spells .slash trivial (not_mem_head?_of_ne_cons hother)
  · exact .of_spells .axisMark trivial trivial
  · exact .of_spells .dotDot trivial trivial

/-- The scanner finds a token where it may stand and ends, and nothing else. -/
theorem scanToken_eq_ok_iff :
    scanToken afterOperand offset text = .ok scanned ↔ FoundAt afterOperand text scanned := by
  constructor
  · exact foundAt_of_scanToken
  · rintro ⟨chars, rest, rfl, hlength, hspells, hafter, hends⟩
    rw [scanToken_of_endsBefore offset hspells hafter hends, ← hlength]

end

/-! ## Texts -/

/-- The text consists of the tokens and white space, the first character having the given offset.
Every token may stand where it does, and ends there. -/
inductive Lexed : Bool → Nat → List Char → List Lexeme → Prop
  | nil {afterOperand : Bool} {offset : Nat} {gap : List Char}
      (hgap : ∀ c ∈ gap, isSpace c = true) : Lexed afterOperand offset gap []
  | cons {afterOperand : Bool} {offset : Nat} {gap chars rest : List Char} {lexeme : Lexeme}
      {lexemes : List Lexeme} (hgap : ∀ c ∈ gap, isSpace c = true)
      (hspells : lexeme.token.Spells chars) (hafter : lexeme.token.FitsAfter afterOperand)
      (hends : lexeme.token.EndsBefore rest) (hoffset : lexeme.offset = offset + byteLength gap)
      (hhead : chars.head? = some lexeme.head)
      (hrest :
        Lexed lexeme.token.endsOperand (lexeme.offset + byteLength chars) rest lexemes) :
      Lexed afterOperand offset (gap ++ (chars ++ rest)) (lexeme :: lexemes)

section

variable {afterOperand : Bool} {offset skip : Nat} {text : List Char} {lexemes : List Lexeme}

theorem Lexed.space {c : Char} (hc : isSpace c = true)
    (hlexed : Lexed afterOperand (offset + c.utf8Size) text lexemes) :
    Lexed afterOperand offset (c :: text) lexemes := by
  cases hlexed with
  | nil hgap => exact .nil (List.forall_mem_cons.mpr ⟨hc, hgap⟩)
  | @cons _ _ gap chars rest lexeme lexemes hgap hspells hafter hends hoffset hhead hrest =>
      have hspaces : ∀ d ∈ c :: gap, isSpace d = true := List.forall_mem_cons.mpr ⟨hc, hgap⟩
      have hplace : lexeme.offset = offset + byteLength (c :: gap) := by
        rw [hoffset, byteLength_cons, Nat.add_assoc]
      exact .cons hspaces hspells hafter hends hplace hhead hrest

theorem scan_of_lexed (hlexed : Lexed afterOperand offset text lexemes) :
    scan afterOperand offset 0 text = .ok lexemes := by
  induction hlexed with
  | @nil afterOperand offset gap hgap =>
      have hscan := scan_gap hgap afterOperand offset []
      rw [List.append_nil] at hscan
      exact hscan
  | @cons afterOperand offset gap chars rest lexeme lexemes hgap hspells hafter hends hoffset hhead
      hrest ih =>
      rcases lexeme with ⟨token, place, c⟩
      have hscanned := scanToken_of_endsBefore place hspells hafter hends
      rcases hspells.exists_head with ⟨d, more, rfl, hspace⟩
      cases hhead
      rw [scan_gap hgap, ← hoffset, List.cons_append, scan_token hspace hscanned, ih]
      rfl

theorem lexed_of_scan (hscan : scan afterOperand offset skip text = .ok lexemes) :
    Lexed afterOperand (offset + byteLength (text.take skip)) (text.drop skip) lexemes := by
  induction text generalizing afterOperand offset skip lexemes with
  | nil =>
      cases hscan
      rw [List.drop_nil]
      exact .nil (List.forall_mem_nil _)
  | cons c rest ih =>
      cases skip with
      | succ skip =>
          have hlater := ih hscan
          rw [Nat.add_assoc] at hlater
          exact hlater
      | zero =>
          unfold scan at hscan
          dsimp only at hscan
          split at hscan
          · next hspace => exact (ih hscan).space hspace
          · next hspace =>
              split at hscan
              · cases hscan
              · next scanned hscanned =>
                  rcases map_eq_ok_iff.mp hscan with ⟨later, hlater, rfl⟩
                  rcases scanToken_eq_ok_iff.mp hscanned with
                    ⟨chars, tail, htext, hlength, hspells, hafter, hends⟩
                  rcases hspells.exists_head with ⟨d, more, rfl, -⟩
                  rw [List.cons_append, List.cons.injEq] at htext
                  rcases htext with ⟨rfl, rfl⟩
                  have hrest := ih hlater
                  rw [hlength, List.length_cons, Nat.add_sub_cancel, List.take_left,
                    List.drop_left, Nat.add_assoc, ← byteLength_cons] at hrest
                  exact @Lexed.cons _ _ [] _ _ ⟨scanned.token, offset, c⟩ _
                    (List.forall_mem_nil _) hspells hafter hends rfl rfl hrest

/-- Scanning finds the one sequence of tokens that the text consists of. -/
theorem scan_eq_ok_iff :
    scan afterOperand offset 0 text = .ok lexemes ↔ Lexed afterOperand offset text lexemes :=
  ⟨lexed_of_scan, scan_of_lexed⟩

end

end Locator
end RecordExtraction
