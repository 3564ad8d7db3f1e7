import Mathlib
import RecordExtraction.Proofs.Locator.ErrorPositions
import RecordExtraction.Proofs.Locator.TokenEnds

/-!
# Where tokens stand

A text that is split into tokens consists of them and of white space.  Each token is spelled from
its own offset on, no two of them overlap, and what is not part of a token is white space.  The
scanner goes from one character to the next, so the bytes at which it arrives are the ends of
beginnings of the text, whether or not the text is split in the end.
-/

namespace RecordExtraction
namespace Locator

/-- The text, whose first character has the given offset, is the tokens one after the other.  Each
of them is spelled from its offset on, by one character at least, and has white space behind it. -/
inductive LaidOut : Nat → List Lexeme → List Char → Prop
  | nil {offset : Nat} : LaidOut offset [] []
  | cons {offset : Nat} {lexeme : Lexeme} {lexemes : List Lexeme} {chars gap rest : List Char}
      (hoffset : lexeme.offset = offset) (hspells : lexeme.token.Spells chars)
      (hnonempty : chars ≠ []) (hgap : ∀ c ∈ gap, isSpace c = true)
      (hrest : LaidOut (offset + byteLength chars + byteLength gap) lexemes rest) :
      LaidOut offset (lexeme :: lexemes) (chars ++ (gap ++ rest))

/-- The characters spell the token, and stand at its offset in the text, whose first character has
the given one. -/
def Lexeme.SpelledIn (offset : Nat) (text chars : List Char) (lexeme : Lexeme) : Prop :=
  lexeme.token.Spells chars ∧
    ∃ before after, text = before ++ (chars ++ after) ∧ lexeme.offset = offset + byteLength before

section

variable {offset : Nat} {text front chars gap rest before after : List Char} {lexeme : Lexeme}
  {lexemes : List Lexeme}

theorem byteLength_pos (hnonempty : chars ≠ []) : 0 < byteLength chars := by
  rcases List.exists_cons_of_ne_nil hnonempty with ⟨c, more, rfl⟩
  have hsize := Char.utf8Size_pos c
  rw [byteLength_cons]
  omega

/-! ## Tokens and white space -/

theorem Lexeme.spelledIn_append (hspells : lexeme.token.Spells chars)
    (hoffset : lexeme.offset = offset) : lexeme.SpelledIn offset (chars ++ after) chars := by
  refine ⟨hspells, [], after, (List.nil_append _).symm, ?_⟩
  rw [hoffset]
  exact (Nat.add_zero offset).symm

theorem Lexeme.SpelledIn.append_left
    (hspelled : lexeme.SpelledIn (offset + byteLength front) text chars) :
    lexeme.SpelledIn offset (front ++ text) chars := by
  rcases hspelled with ⟨hspells, before, after, rfl, hoffset⟩
  refine ⟨hspells, front ++ before, after, (List.append_assoc _ _ _).symm, ?_⟩
  rw [hoffset, byteLength_append, Nat.add_assoc]

theorem exists_laidOut_of_lexed {afterOperand : Bool}
    (hlexed : Lexed afterOperand offset text lexemes) :
    ∃ gap rest,
      text = gap ++ rest ∧ (∀ c ∈ gap, isSpace c = true) ∧
        LaidOut (offset + byteLength gap) lexemes rest := by
  induction hlexed with
  | @nil _ offset gap hgap => exact ⟨gap, [], (List.append_nil gap).symm, hgap, .nil⟩
  | @cons _ offset gap chars _ lexeme lexemes hgap hspells _ _ hoffset _ _ ih =>
      rcases ih with ⟨behind, rest, rfl, hbehind, hrest⟩
      have hnonempty : chars ≠ [] := by
        rcases hspells.exists_head with ⟨c, more, rfl, -⟩
        exact List.cons_ne_nil c more
      rw [hoffset] at hrest
      exact ⟨gap, _, rfl, hgap, .cons hoffset hspells hnonempty hbehind hrest⟩

theorem LaidOut.offset_le (hlaid : LaidOut offset lexemes text) :
    ∀ lexeme ∈ lexemes, offset ≤ lexeme.offset := by
  induction hlaid with
  | nil => exact List.forall_mem_nil _
  | cons hoffset _ _ _ _ ih =>
      rw [List.forall_mem_cons]
      refine ⟨hoffset.ge, ?_⟩
      intro later hlater
      have hle := ih later hlater
      omega

theorem LaidOut.increasing (hlaid : LaidOut offset lexemes text) :
    (lexemes.map Lexeme.offset).Pairwise (· < ·) := by
  induction hlaid with
  | nil => exact .nil
  | @cons offset lexeme lexemes chars gap rest hoffset _ hnonempty _ hrest ih =>
      rw [List.map_cons, List.pairwise_cons]
      refine ⟨?_, ih⟩
      intro place hplace
      rcases List.mem_map.mp hplace with ⟨later, hlater, rfl⟩
      have hle := hrest.offset_le later hlater
      have hpos := byteLength_pos hnonempty
      omega

theorem LaidOut.exists_spelledIn (hlaid : LaidOut offset lexemes text) :
    ∀ lexeme ∈ lexemes, ∃ chars, chars ≠ [] ∧ lexeme.SpelledIn offset text chars := by
  induction hlaid with
  | nil => exact List.forall_mem_nil _
  | @cons offset lexeme lexemes chars gap rest hoffset hspells hnonempty _ _ ih =>
      rw [List.forall_mem_cons]
      refine ⟨⟨chars, hnonempty, Lexeme.spelledIn_append hspells hoffset⟩, ?_⟩
      intro later hlater
      rcases ih later hlater with ⟨others, hothers, hspelled⟩
      exact ⟨others, hothers, hspelled.append_left.append_left⟩

/-- A character of two lists in a row is in the one or in the other. -/
theorem append_eq_append_cons_cases {c : Char} (htext : front ++ rest = before ++ c :: after) :
    (∃ more, front = before ++ c :: more) ∨
      ∃ passed, before = front ++ passed ∧ rest = passed ++ c :: after := by
  rcases List.append_eq_append_iff.mp htext with ⟨passed, hbefore, hrest⟩ | ⟨inside, hfront, hback⟩
  · exact .inr ⟨passed, hbefore, hrest⟩
  · cases inside with
    | nil =>
        rw [List.append_nil] at hfront
        exact .inr ⟨[], by rw [hfront, List.append_nil], hback.symm⟩
    | cons d more =>
        cases hback
        exact .inl ⟨more, hfront⟩

/-- The byte belongs to the spelling of one of the tokens. -/
def Spelled (offset : Nat) (text : List Char) (lexemes : List Lexeme) (position : Nat) : Prop :=
  ∃ lexeme ∈ lexemes, ∃ chars,
    lexeme.SpelledIn offset text chars ∧ lexeme.offset ≤ position ∧
      position < lexeme.offset + byteLength chars

theorem Spelled.append_left {position : Nat}
    (hspelled : Spelled (offset + byteLength front) text lexemes position) :
    Spelled offset (front ++ text) lexemes position := by
  rcases hspelled with ⟨lexeme, hlexeme, chars, hchars, hposition⟩
  exact ⟨lexeme, hlexeme, chars, hchars.append_left, hposition⟩

theorem LaidOut.space_or_spelled {c : Char} (hlaid : LaidOut offset lexemes text)
    (htext : text = before ++ c :: after) :
    isSpace c = true ∨ Spelled offset text lexemes (offset + byteLength before) := by
  induction hlaid generalizing before with
  | nil => exact absurd htext.symm (by simp)
  | @cons offset lexeme lexemes chars gap rest hoffset hspells _ hgap _ ih =>
      -- The character is in the first spelling, in the white space behind it, or further on.
      rcases append_eq_append_cons_cases htext with ⟨more, rfl⟩ | ⟨passed, rfl, hpassed⟩
      · have hspelled := @Lexeme.spelledIn_append _ _ (gap ++ rest) _ hspells hoffset
        refine .inr ⟨lexeme, List.mem_cons_self, _, hspelled, ?_⟩
        have hsize := Char.utf8Size_pos c
        rw [byteLength_append, byteLength_cons]
        omega
      · rcases append_eq_append_cons_cases hpassed with ⟨more, rfl⟩ | ⟨skipped, rfl, hskipped⟩
        · exact .inl (hgap c (by simp))
        · refine (ih hskipped).imp_right ?_
          intro hspelled
          rcases hspelled.append_left.append_left with ⟨later, hlater, hbyte⟩
          rw [byteLength_append, byteLength_append, ← Nat.add_assoc, ← Nat.add_assoc]
          exact ⟨later, List.mem_cons_of_mem _ hlater, hbyte⟩

end

/-! ## Bytes between characters -/

theorem utf8ByteSize_ofList_eq (chars : List Char) :
    (String.ofList chars).utf8ByteSize = byteLength chars := by
  rw [String.utf8ByteSize_ofList]
  induction chars with
  | nil => rfl
  | cons c chars ih => rw [byteLength_cons, String.utf8Len_cons, ih, Nat.add_comm]

theorem isValid_byteLength {text : String} {before after : List Char}
    (htext : text.toList = before ++ after) :
    String.Pos.Raw.IsValid text ⟨byteLength before⟩ := by
  rw [String.Pos.Raw.isValid_iff_exists_append]
  refine ⟨String.ofList before, String.ofList after, ?_, ?_⟩
  · rw [← String.ofList_append, ← htext, String.ofList_toList]
  · rw [← utf8ByteSize_ofList_eq]
    rfl

theorem Lexeme.SpelledIn.isValid {text : String} {chars : List Char} {lexeme : Lexeme}
    (hspelled : lexeme.SpelledIn 0 text.toList chars) :
    String.Pos.Raw.IsValid text ⟨lexeme.offset⟩ ∧
      String.Pos.Raw.IsValid text ⟨lexeme.offset + byteLength chars⟩ := by
  rcases hspelled with ⟨-, before, after, htext, hoffset⟩
  rw [Nat.zero_add] at hoffset
  rw [hoffset]
  refine ⟨isValid_byteLength htext, ?_⟩
  rw [← byteLength_append]
  exact isValid_byteLength (by rw [htext, List.append_assoc])

/-! ## The way through a text -/

/-- The scanner on its way through a text: the tokens that it has found so far, and the arguments
with which it goes on. -/
structure ScanState where
  found : List Lexeme
  afterOperand : Bool
  offset : Nat
  skip : Nat
  rest : List Char

namespace ScanState

def start (text : String) : ScanState := ⟨[], false, 0, 0, text.toList⟩

/-- What becomes of the text when the scanner goes on from here. -/
def outcome (state : ScanState) : Except PathError (List Lexeme) :=
  (scan state.afterOperand state.offset state.skip state.rest).map (state.found ++ ·)

/-- The byte at which the token ends that was found last. -/
def tokenEnd (state : ScanState) : Nat := state.offset + byteLength (state.rest.take state.skip)

/-- The scanner goes past one character: one that belongs to the token found last, white space, or
the first one of a token. -/
inductive Step : ScanState → ScanState → Prop
  | pass {found : List Lexeme} {afterOperand : Bool} {offset skip : Nat} {c : Char}
      {rest : List Char} :
      Step ⟨found, afterOperand, offset, skip + 1, c :: rest⟩
        ⟨found, afterOperand, offset + c.utf8Size, skip, rest⟩
  | space {found : List Lexeme} {afterOperand : Bool} {offset : Nat} {c : Char}
      {rest : List Char} (hc : isSpace c = true) :
      Step ⟨found, afterOperand, offset, 0, c :: rest⟩
        ⟨found, afterOperand, offset + c.utf8Size, 0, rest⟩
  | token {found : List Lexeme} {afterOperand : Bool} {offset : Nat} {c : Char}
      {rest : List Char} {scanned : Scanned} (hc : isSpace c = false)
      (hscanned : scanToken afterOperand offset (c :: rest) = .ok scanned) :
      Step ⟨found, afterOperand, offset, 0, c :: rest⟩
        ⟨found ++ [⟨scanned.token, offset, c⟩], scanned.token.endsOperand, offset + c.utf8Size,
          scanned.length - 1, rest⟩

/-- The scanner of the text comes to this state. -/
def Reached (text : String) : ScanState → Prop := Relation.ReflTransGen Step (start text)

/-- As many bytes of the text lie behind the scanner as it has counted, and the token that was found
last ends in the text. -/
structure Within (text : List Char) (state : ScanState) : Prop where
  behind : ∃ passed, text = passed ++ state.rest ∧ state.offset = byteLength passed
  skip_le : state.skip ≤ state.rest.length

variable {text : String} {state next : ScanState}

theorem outcome_of_step (hstep : Step state next) : next.outcome = state.outcome := by
  cases hstep with
  | pass => rfl
  | space hc =>
      unfold outcome
      rw [scan.eq_def _ _ _ (_ :: _)]
      simp only [hc, if_true]
  | @token found afterOperand offset c rest scanned hc hscanned =>
      unfold outcome
      rw [scan.eq_def _ _ _ (_ :: _)]
      simp only [hc, Bool.false_eq_true, if_false, hscanned]
      cases scan scanned.token.endsOperand (offset + c.utf8Size) (scanned.length - 1) rest with
      | error e => rfl
      | ok later =>
          change Except.ok (found ++ [_] ++ later) = Except.ok (found ++ _ :: later)
          rw [List.append_assoc, List.singleton_append]

theorem behind_of_cons {chars rest : List Char} {c : Char} {offset : Nat}
    (hbehind : ∃ passed, chars = passed ++ c :: rest ∧ offset = byteLength passed) :
    ∃ passed, chars = passed ++ rest ∧ offset + c.utf8Size = byteLength passed := by
  rcases hbehind with ⟨passed, rfl, rfl⟩
  refine ⟨passed ++ [c], ?_, ?_⟩
  · rw [List.append_assoc, List.singleton_append]
  · rw [byteLength_append]
    rfl

theorem within_of_step {chars : List Char} (hwithin : Within chars state)
    (hstep : Step state next) : Within chars next := by
  cases hstep with
  | pass =>
      have hskip := hwithin.skip_le
      rw [List.length_cons] at hskip
      exact ⟨behind_of_cons hwithin.behind, Nat.le_of_succ_le_succ hskip⟩
  | space => exact ⟨behind_of_cons hwithin.behind, Nat.zero_le _⟩
  | @token _ _ _ c rest scanned _ hscanned =>
      refine ⟨behind_of_cons hwithin.behind, ?_⟩
      rcases foundAt_of_scanToken hscanned with ⟨chars, tail, htext, hlength, -⟩
      have hlengths := congrArg List.length htext
      rw [List.length_cons, List.length_append] at hlengths
      dsimp only
      omega

/-- The scanner goes on until nothing is left of the text or there is no token. -/
theorem exists_step (state : ScanState) :
    state.rest = [] ∨ (∃ next, Step state next) ∨ ∃ e, state.outcome = .error e := by
  rcases state with ⟨found, afterOperand, offset, skip, rest⟩
  cases rest with
  | nil => exact .inl rfl
  | cons c rest =>
      refine .inr ?_
      cases skip with
      | succ skip => exact .inl ⟨_, .pass⟩
      | zero =>
          cases hc : isSpace c with
          | true => exact .inl ⟨_, .space hc⟩
          | false =>
              cases hscanned : scanToken afterOperand offset (c :: rest) with
              | ok scanned => exact .inl ⟨_, .token hc hscanned⟩
              | error e =>
                  refine .inr ⟨e, ?_⟩
                  unfold outcome
                  rw [scan.eq_def _ _ _ (_ :: _)]
                  simp only [hc, Bool.false_eq_true, if_false, hscanned]
                  rfl

theorem Reached.outcome_eq (hreached : Reached text state) : state.outcome = tokenize text := by
  induction hreached with
  | refl =>
      unfold outcome
      change (tokenize text).map ([] ++ ·) = tokenize text
      cases tokenize text <;> rfl
  | tail _ hstep ih => rw [outcome_of_step hstep, ih]

theorem Reached.within (hreached : Reached text state) : Within text.toList state := by
  induction hreached with
  | refl => exact ⟨⟨[], rfl, rfl⟩, Nat.zero_le _⟩
  | tail _ hstep ih => exact within_of_step ih hstep

theorem Within.isValid (hwithin : Within text.toList state) :
    String.Pos.Raw.IsValid text ⟨state.offset⟩ ∧
      String.Pos.Raw.IsValid text ⟨state.tokenEnd⟩ := by
  rcases hwithin.behind with ⟨passed, htext, hoffset⟩
  rw [tokenEnd, hoffset]
  refine ⟨isValid_byteLength htext, ?_⟩
  rw [← byteLength_append]
  apply isValid_byteLength
  rw [htext, List.append_assoc, List.take_append_drop]

end ScanState

/-- A text that is split into tokens is white space, and then one token after the other, each
spelled from its offset on and with white space behind it.  Offsets increase, they and the ends of
the spellings are places between characters, and a character outside of the spellings is white
space.  In any text, also where it has no token, the scanner only comes to places between
characters. -/
theorem tokens_and_spaces_make_up_text (text : String) :
    (∀ lexemes, tokenize text = .ok lexemes →
      (∃ gap rest,
        text.toList = gap ++ rest ∧ (∀ c ∈ gap, isSpace c = true) ∧
          LaidOut (byteLength gap) lexemes rest) ∧
      (lexemes.map Lexeme.offset).Pairwise (· < ·) ∧
      (∀ lexeme ∈ lexemes, ∃ chars,
        chars ≠ [] ∧ lexeme.SpelledIn 0 text.toList chars ∧
          String.Pos.Raw.IsValid text ⟨lexeme.offset⟩ ∧
          String.Pos.Raw.IsValid text ⟨lexeme.offset + byteLength chars⟩) ∧
      ∀ before c after, text.toList = before ++ c :: after →
        isSpace c = true ∨ Spelled 0 text.toList lexemes (byteLength before)) ∧
    (∀ e, tokenize text = .error e → e.FoundIn 0 text.toList) ∧
    ∀ state, ScanState.Reached text state →
      state.outcome = tokenize text ∧
      String.Pos.Raw.IsValid text ⟨state.offset⟩ ∧ String.Pos.Raw.IsValid text ⟨state.tokenEnd⟩ ∧
      (state.rest = [] ∨ (∃ next, ScanState.Step state next) ∨ ∃ e, tokenize text = .error e) := by
  refine ⟨?_, ?_, ?_⟩
  · intro lexemes htokens
    rcases exists_laidOut_of_lexed (scan_eq_ok_iff.mp htokens) with
      ⟨gap, rest, htext, hgap, hlaid⟩
    rw [Nat.zero_add] at hlaid
    refine ⟨⟨gap, rest, htext, hgap, hlaid⟩, hlaid.increasing, ?_, ?_⟩
    · intro lexeme hlexeme
      rcases hlaid.exists_spelledIn lexeme hlexeme with ⟨chars, hnonempty, hspelled⟩
      rw [← Nat.zero_add (byteLength gap)] at hspelled
      have hwhole := hspelled.append_left
      rw [← htext] at hwhole
      exact ⟨chars, hnonempty, hwhole, hwhole.isValid⟩
    · intro before c after hbefore
      rw [htext] at hbefore
      rcases append_eq_append_cons_cases hbefore with ⟨more, rfl⟩ | ⟨passed, rfl, hpassed⟩
      · exact .inl (hgap c (by simp))
      · refine (hlaid.space_or_spelled hpassed).imp_right ?_
        intro hspelled
        rw [← Nat.zero_add (byteLength gap)] at hspelled
        have hwhole := hspelled.append_left
        rwa [← htext, Nat.zero_add, ← byteLength_append] at hwhole
  · intro e herror
    have hplaced : PlacedIn 0 text.toList (tokenize text) := placedIn_scan
    rw [herror] at hplaced
    exact hplaced
  · intro state hreached
    have houtcome := hreached.outcome_eq
    refine ⟨houtcome, hreached.within.isValid.1, hreached.within.isValid.2, ?_⟩
    rw [← houtcome]
    exact state.exists_step

/-- A text with letters of two bytes in names and in a literal. -/
def wideText : String := " é['ü·']\t| ß"

def wideLexemes : List Lexeme :=
  [⟨.nameTest none (some "é"), 1, 'é'⟩, ⟨.leftBracket, 3, '['⟩, ⟨.literal "ü·", 4, '\''⟩,
    ⟨.rightBracket, 10, ']'⟩, ⟨.operator .union, 12, '|'⟩, ⟨.nameTest none (some "ß"), 14, 'ß'⟩]

/-- The state of the scanner behind the first letter of the text. -/
def stateBehindLetter : ScanState :=
  ⟨[⟨.nameTest none (some "é"), 1, 'é'⟩], true, 3, 0, "['ü·']\t| ß".toList⟩

theorem reached_stateBehindLetter : ScanState.Reached wideText stateBehindLetter := by
  have hspace : ScanState.Step (.start wideText) ⟨[], false, 1, 0, "é['ü·']\t| ß".toList⟩ :=
    .space rfl
  have hletter :
      ScanState.Step ⟨[], false, 1, 0, "é['ü·']\t| ß".toList⟩ stateBehindLetter :=
    @ScanState.Step.token [] false 1 'é' _ ⟨.nameTest none (some "é"), 1⟩ rfl rfl
  exact .tail (.single hspace) hletter

theorem tokens_and_spaces_make_up_wideText :
    tokenize wideText = .ok wideLexemes ∧
    (wideLexemes.map Lexeme.offset).Pairwise (· < ·) ∧
    (∃ chars, chars ≠ [] ∧ Lexeme.SpelledIn 0 wideText.toList chars ⟨.literal "ü·", 4, '\''⟩) ∧
    Spelled 0 wideText.toList wideLexemes 7 ∧
    ScanState.Reached wideText stateBehindLetter ∧ String.Pos.Raw.IsValid wideText ⟨3⟩ ∧
    ¬String.Pos.Raw.IsValid wideText ⟨2⟩ ∧
    tokenize "é!" = .error (.unexpectedChar '!' 2) ∧
    (PathError.unexpectedChar '!' 2).FoundIn 0 "é!".toList := by
  have htokens : tokenize wideText = .ok wideLexemes := by rfl
  have hmade := (tokens_and_spaces_make_up_text wideText).1 _ htokens
  rcases hmade.2.2.1 ⟨.literal "ü·", 4, '\''⟩ (by decide) with ⟨chars, hnonempty, hchars, -⟩
  have hdot := hmade.2.2.2 " é['ü".toList '·' "']\t| ß".toList (by rfl)
  have hplace := (tokens_and_spaces_make_up_text wideText).2.2 _ reached_stateBehindLetter
  have herror : tokenize "é!" = .error (.unexpectedChar '!' 2) := by rfl
  exact ⟨htokens, hmade.2.1, ⟨chars, hnonempty, hchars⟩, hdot.resolve_left (by decide),
    reached_stateBehindLetter, hplace.2.1, by decide, herror,
    (tokens_and_spaces_make_up_text "é!").2.1 _ herror⟩

end Locator
end RecordExtraction
