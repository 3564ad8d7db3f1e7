import Mathlib
import RecordExtraction.Locator.Evaluation
import RecordExtraction.Proofs.Outcome
import RecordExtraction.Proofs.Text.Trimming

/-!
# Where errors are reported

An unexpected character stands at the reported byte of the text that is scanned, whether the scanner
or the parser comes across it, and no quotation mark follows one that opens an unterminated literal.
White space is cut off both ends of a locator before it is scanned, and the white space at the front
is not counted.  So in the locator as it was given the characters stand that many bytes further on.
-/

namespace RecordExtraction

open Locator

/-- The error is about a text whose first character has the given offset.  An unexpected character
stands at its place, and a quotation mark that is not followed by another one at the place of an
unterminated literal. -/
def PathError.FoundIn (offset : Nat) (chars : List Char) : PathError → Prop
  | .unexpectedChar found position =>
      ∃ before after,
        chars = before ++ found :: after ∧ position = offset + byteLength before
  | .unterminatedLiteral position =>
      ∃ before mark after,
        chars = before ++ mark :: after ∧ position = offset + byteLength before ∧
          (mark = '"' ∨ mark = '\'') ∧ mark ∉ after
  | .empty | .notANodeSet => False
  | _ => True

/-- The error is about the tokens.  An unexpected character is the first one of one of them. -/
def PathError.IsAbout (lexemes : List Lexeme) : PathError → Prop
  | .unexpectedChar found position =>
      ∃ lexeme ∈ lexemes, lexeme.head = found ∧ lexeme.offset = position
  | .unterminatedLiteral _ | .empty | .notANodeSet => False
  | _ => True

/-- A scan of the text ends in an error about it, or gives tokens whose first characters stand in
it. -/
def Locator.PlacedIn (offset : Nat) (chars : List Char) : Except PathError (List Lexeme) → Prop
  | .error e => e.FoundIn offset chars
  | .ok lexemes =>
      ∀ lexeme ∈ lexemes,
        (PathError.unexpectedChar lexeme.head lexeme.offset).FoundIn offset chars

theorem Locator.byteLength_append (front chars : List Char) :
    byteLength (front ++ chars) = byteLength front + byteLength chars := by
  induction front with
  | nil => simp [byteLength]
  | cons c front ih =>
      change c.utf8Size + byteLength (front ++ chars) = c.utf8Size + byteLength front + _
      rw [ih, Nat.add_assoc]

namespace PathError

variable {e : PathError} {offset : Nat} {front chars tail : List Char} {lexemes : List Lexeme}

theorem FoundIn.append_left (hfound : e.FoundIn (offset + byteLength front) chars) :
    e.FoundIn offset (front ++ chars) := by
  cases e with
  | unexpectedChar found position =>
      rcases hfound with ⟨before, after, rfl, rfl⟩
      refine ⟨front ++ before, after, (List.append_assoc _ _ _).symm, ?_⟩
      rw [byteLength_append, Nat.add_assoc]
  | unterminatedLiteral position =>
      rcases hfound with ⟨before, mark, after, rfl, rfl, hmark, hlast⟩
      refine ⟨front ++ before, mark, after, (List.append_assoc _ _ _).symm, ?_, hmark, hlast⟩
      rw [byteLength_append, Nat.add_assoc]
  | _ => exact hfound

theorem FoundIn.cons {c : Char} (hfound : e.FoundIn (offset + c.utf8Size) chars) :
    e.FoundIn offset (c :: chars) :=
  @append_left e offset [c] chars hfound

theorem FoundIn.append_right (hfound : e.FoundIn offset chars)
    (hblank : ∀ c ∈ tail, isBlank c = true) :
    e.FoundIn offset (chars ++ tail) := by
  cases e with
  | unexpectedChar found position =>
      rcases hfound with ⟨before, after, rfl, hposition⟩
      exact ⟨before, after ++ tail, by simp, hposition⟩
  | unterminatedLiteral position =>
      rcases hfound with ⟨before, mark, after, rfl, hposition, hmark, hlast⟩
      refine ⟨before, mark, after ++ tail, by simp, hposition, hmark, ?_⟩
      rw [List.mem_append, not_or]
      refine ⟨hlast, ?_⟩
      intro hmem
      have hmarkBlank := hblank mark hmem
      rcases hmark with rfl | rfl
      · exact absurd hmarkBlank (by decide)
      · exact absurd hmarkBlank (by decide)
  | _ => exact hfound

theorem IsAbout.mono {others : List Lexeme} (habout : e.IsAbout lexemes)
    (hsubset : lexemes ⊆ others) : e.IsAbout others := by
  cases e with
  | unexpectedChar found position =>
      rcases habout with ⟨lexeme, hlexeme, hplace⟩
      exact ⟨lexeme, hsubset hlexeme, hplace⟩
  | _ => exact habout

theorem IsAbout.foundIn (habout : e.IsAbout lexemes)
    (hlexemes : ∀ lexeme ∈ lexemes,
      (unexpectedChar lexeme.head lexeme.offset).FoundIn offset chars) :
    e.FoundIn offset chars := by
  cases e with
  | unexpectedChar found position =>
      rcases habout with ⟨lexeme, hlexeme, rfl, rfl⟩
      exact hlexemes lexeme hlexeme
  | unterminatedLiteral position => cases habout
  | _ => exact habout

end PathError

namespace Locator

/-! ## Errors of the scanner -/

section

variable {afterOperand : Bool} {offset skip : Nat} {chars rest : List Char} {e : PathError}

theorem foundIn_unexpectedAt : (unexpectedAt offset chars).FoundIn offset chars := by
  cases chars with
  | nil => trivial
  | cons c rest => exact ⟨[], rest, rfl, rfl⟩

theorem leadingName_prefix : leadingName chars <+: chars := by
  unfold leadingName
  split
  · split
    · exact List.takeWhile_prefix _
    · exact List.nil_prefix
  · exact List.nil_prefix

theorem leadingName_append_drop :
    leadingName chars ++ chars.drop (leadingName chars).length = chars :=
  List.prefix_iff_eq_append.mp leadingName_prefix

theorem foundIn_of_scanLiteral {mark : Char} (hmark : mark = '"' ∨ mark = '\'')
    (herror : scanLiteral offset mark rest = .error e) : e.FoundIn offset (mark :: rest) := by
  unfold scanLiteral at herror
  dsimp only at herror
  split at herror
  · cases herror
  · next hlength =>
      cases herror
      refine ⟨[], mark, rest, rfl, rfl, hmark, ?_⟩
      have hprefix : rest.takeWhile (· != mark) <+: rest := List.takeWhile_prefix _
      have hall := hprefix.eq_of_length_le (by omega)
      intro hmem
      have hne := List.takeWhile_eq_self_iff.mp hall mark hmem
      simp at hne

theorem foundIn_of_scanOperatorName (herror : scanOperatorName offset chars = .error e) :
    e.FoundIn offset chars := by
  unfold scanOperatorName at herror
  dsimp only at herror
  split at herror
  · cases herror
  · cases herror
    exact foundIn_unexpectedAt

theorem foundIn_of_scanOperandName (herror : scanOperandName offset chars = .error e) :
    e.FoundIn offset chars := by
  unfold scanOperandName at herror
  dsimp only at herror
  split at herror
  · cases herror
  · cases herror
  · next rest _ _ hrest =>
      split at herror
      · cases herror
        have hfound : (unexpectedAt (offset + byteLength (leadingName chars ++ [':'])) rest).FoundIn
            offset ((leadingName chars ++ [':']) ++ rest) := foundIn_unexpectedAt.append_left
        rw [List.append_assoc, List.singleton_append, ← hrest, leadingName_append_drop,
          byteLength_append, ← Nat.add_assoc] at hfound
        exact hfound
      · cases herror
  · cases herror

theorem foundIn_of_scanToken (herror : scanToken afterOperand offset chars = .error e) :
    e.FoundIn offset chars := by
  unfold scanToken at herror
  split at herror
  case h_1 => cases herror; trivial
  case h_22 =>
    -- A variable has to have a name.
    dsimp only at herror
    split at herror
    · cases herror
      exact PathError.FoundIn.cons foundIn_unexpectedAt
    · cases herror
  case h_23 =>
    split at herror
    · next hquote => exact foundIn_of_scanLiteral (by simpa using hquote) herror
    · split at herror
      · cases herror
      · split at herror
        · cases herror
        · split at herror
          · split at herror
            · exact foundIn_of_scanOperatorName herror
            · exact foundIn_of_scanOperandName herror
          · cases herror
            exact ⟨[], _, rfl, rfl⟩
  all_goals first | cases herror | (split at herror <;> cases herror)

theorem PlacedIn.cons {c : Char} {outcome : Except PathError (List Lexeme)}
    (hplaced : PlacedIn (offset + c.utf8Size) chars outcome) :
    PlacedIn offset (c :: chars) outcome := by
  cases outcome with
  | error e => exact PathError.FoundIn.cons hplaced
  | ok lexemes => exact fun lexeme hlexeme => (hplaced lexeme hlexeme).cons

theorem placedIn_scan : PlacedIn offset chars (scan afterOperand offset skip chars) := by
  induction chars generalizing afterOperand offset skip with
  | nil => exact List.forall_mem_nil _
  | cons c rest ih =>
      unfold scan
      split
      · exact ih.cons
      · split
        · exact ih.cons
        · split
          · next e htoken => exact foundIn_of_scanToken htoken
          · next scanned htoken =>
              have hlater : PlacedIn offset (c :: rest) (scan scanned.token.endsOperand
                (offset + c.utf8Size) (scanned.length - 1) rest) := ih.cons
              cases hscan : scan scanned.token.endsOperand (offset + c.utf8Size)
                (scanned.length - 1) rest with
              | error e =>
                  rw [hscan] at hlater
                  exact hlater
              | ok later =>
                  rw [hscan] at hlater
                  change ∀ lexeme ∈ _ :: later, _
                  rw [List.forall_mem_cons]
                  exact ⟨⟨[], rest, rfl, rfl⟩, hlater⟩

end

/-! ## Errors of the parser -/

namespace Parser

/-- The parser leaves some of the tokens over, or ends in an error about them. -/
def KeepsTo {α : Type} (lexemes : List Lexeme) : Except PathError (α × List Lexeme) → Prop
  | .ok (_, rest) => rest ⊆ lexemes
  | .error e => e.IsAbout lexemes

section

variable {α β : Type} {lexemes others : List Lexeme}

theorem KeepsTo.mono {outcome : Except PathError (α × List Lexeme)}
    (hkeeps : KeepsTo lexemes outcome) (hsubset : lexemes ⊆ others) : KeepsTo others outcome := by
  cases outcome with
  | error e => exact PathError.IsAbout.mono hkeeps hsubset
  | ok taken => exact List.Subset.trans hkeeps hsubset

theorem KeepsTo.cons {lexeme : Lexeme} {outcome : Except PathError (α × List Lexeme)}
    (hkeeps : KeepsTo lexemes outcome) : KeepsTo (lexeme :: lexemes) outcome :=
  hkeeps.mono (List.subset_cons_self lexeme lexemes)

theorem KeepsTo.bind {outcome : Except PathError (α × List Lexeme)}
    {next : α × List Lexeme → Except PathError (β × List Lexeme)}
    (hkeeps : KeepsTo lexemes outcome)
    (hnext : ∀ result rest, KeepsTo rest (next (result, rest))) :
    KeepsTo lexemes (outcome >>= next) := by
  cases outcome with
  | error e => exact hkeeps
  | ok taken => exact (hnext taken.1 taken.2).mono hkeeps

theorem keepsTo_self {result : α} : KeepsTo lexemes (.ok (result, lexemes)) :=
  List.Subset.refl lexemes

theorem isAbout_unexpected : (unexpected lexemes).IsAbout lexemes := by
  cases lexemes with
  | nil => trivial
  | cons lexeme rest => exact ⟨lexeme, List.mem_cons_self, rfl, rfl⟩

theorem keepsTo_expect {token : Token}
    {next : List Lexeme → Except PathError (β × List Lexeme)}
    (hnext : ∀ rest, KeepsTo rest (next rest)) :
    KeepsTo lexemes (expect token lexemes >>= next) := by
  cases lexemes with
  | nil => trivial
  | cons lexeme rest =>
      unfold expect
      dsimp only
      split
      · exact (hnext rest).cons
      · exact @isAbout_unexpected (lexeme :: rest)

theorem keepsTo_call {name : String} {arguments : List Expr}
    {next : Expr → Except PathError (β × List Lexeme)}
    (hnext : ∀ expr, KeepsTo lexemes (next expr)) :
    KeepsTo lexemes (call name arguments >>= next) := by
  cases hcall : call name arguments with
  | ok expr => exact hnext expr
  | error e =>
      unfold call at hcall
      split at hcall
      · cases hcall
        trivial
      · split at hcall
        · cases hcall
        · cases hcall
          trivial

theorem subset_of_separator? {rest : List Lexeme} {implied : List Step}
    (hseparator : separator? lexemes = some (implied, rest)) : rest ⊆ lexemes := by
  unfold separator? at hseparator
  split at hseparator
  · cases hseparator
    exact List.subset_cons_self _ _
  · cases hseparator
    exact List.subset_cons_self _ _
  · cases hseparator

theorem keepsTo_nodeTest : KeepsTo lexemes (nodeTest lexemes) := by
  unfold nodeTest
  split
  · exact keepsTo_self.cons
  · apply KeepsTo.cons
    unfold typeTest
    apply keepsTo_expect
    intro rest
    split
    · apply KeepsTo.cons
      apply keepsTo_expect
      intro rest
      exact keepsTo_self
    · apply keepsTo_expect
      intro rest
      split <;> exact keepsTo_self
  · trivial
  · exact isAbout_unexpected

end

/-- With this much fuel, all parsers keep to the tokens they are given. -/
structure KeepsToAt (fuel : Nat) : Prop where
  expression : ∀ level lexemes, KeepsTo lexemes (expression fuel level lexemes)
  operators : ∀ level left lexemes, KeepsTo lexemes (operators fuel level left lexemes)
  path : ∀ lexemes, KeepsTo lexemes (path fuel lexemes)
  filtered : ∀ primary lexemes, KeepsTo lexemes (filtered fuel primary lexemes)
  steps : ∀ lexemes, KeepsTo lexemes (steps fuel lexemes)
  step : ∀ lexemes, KeepsTo lexemes (step fuel lexemes)
  tested : ∀ axis lexemes, KeepsTo lexemes (tested fuel axis lexemes)
  predicates : ∀ lexemes, KeepsTo lexemes (predicates fuel lexemes)
  arguments : ∀ lexemes, KeepsTo lexemes (arguments fuel lexemes)
  argumentList : ∀ lexemes, KeepsTo lexemes (argumentList fuel lexemes)

theorem keepsToAt_zero : KeepsToAt 0 := by
  constructor <;> intros <;> trivial

variable {fuel : Nat} {lexemes : List Lexeme}

theorem keepsTo_expression (hkeeps : KeepsToAt fuel) (level : Nat) :
    KeepsTo lexemes (expression (fuel + 1) level lexemes) := by
  unfold expression
  dsimp only
  split
  · exact hkeeps.path lexemes
  · split
    · split
      · apply KeepsTo.cons
        apply (hkeeps.expression _ _).bind
        intro operand rest
        exact keepsTo_self
      · exact hkeeps.expression _ lexemes
    · apply (hkeeps.expression _ lexemes).bind
      intro left rest
      exact hkeeps.operators level left rest

theorem keepsTo_operators (hkeeps : KeepsToAt fuel) (level : Nat) (left : Expr) :
    KeepsTo lexemes (operators (fuel + 1) level left lexemes) := by
  unfold operators
  dsimp only
  split
  · split
    · apply KeepsTo.cons
      apply (hkeeps.expression _ _).bind
      intro right rest
      exact hkeeps.operators level _ rest
    · exact keepsTo_self
  · exact keepsTo_self

theorem keepsTo_path (hkeeps : KeepsToAt fuel) :
    KeepsTo lexemes (path (fuel + 1) lexemes) := by
  unfold path
  dsimp only
  split
  · trivial
  · apply KeepsTo.cons
    apply (hkeeps.expression 0 _).bind
    intro inner rest
    apply keepsTo_expect
    intro rest
    exact hkeeps.filtered inner rest
  · exact (hkeeps.filtered _ _).cons
  · exact (hkeeps.filtered _ _).cons
  · apply KeepsTo.cons
    apply keepsTo_expect
    intro rest
    apply (hkeeps.arguments rest).bind
    intro arguments rest
    apply keepsTo_call
    intro primary
    exact hkeeps.filtered primary rest
  · apply KeepsTo.cons
    split
    · apply (hkeeps.steps _).bind
      intro steps rest
      exact keepsTo_self
    · exact keepsTo_self
  · apply KeepsTo.cons
    apply (hkeeps.steps _).bind
    intro steps rest
    exact keepsTo_self
  · apply (hkeeps.steps lexemes).bind
    intro steps rest
    exact keepsTo_self

theorem keepsTo_filtered (hkeeps : KeepsToAt fuel) (primary : Expr) :
    KeepsTo lexemes (filtered (fuel + 1) primary lexemes) := by
  unfold filtered
  apply (hkeeps.predicates lexemes).bind
  intro predicates rest
  dsimp only
  split
  · next implied later hseparator =>
      apply KeepsTo.mono _ (subset_of_separator? hseparator)
      apply (hkeeps.steps later).bind
      intro steps rest
      exact keepsTo_self
  · exact keepsTo_self

theorem keepsTo_steps (hkeeps : KeepsToAt fuel) :
    KeepsTo lexemes (steps (fuel + 1) lexemes) := by
  unfold steps
  apply (hkeeps.step lexemes).bind
  intro step rest
  dsimp only
  split
  · next implied later hseparator =>
      apply KeepsTo.mono _ (subset_of_separator? hseparator)
      apply (hkeeps.steps later).bind
      intro steps rest
      exact keepsTo_self
  · exact keepsTo_self

theorem keepsTo_step (hkeeps : KeepsToAt fuel) :
    KeepsTo lexemes (step (fuel + 1) lexemes) := by
  unfold step
  split
  · exact keepsTo_self.cons
  · exact keepsTo_self.cons
  · exact (hkeeps.tested .attributes _).cons
  · split
    · trivial
    · next axis _ =>
        apply KeepsTo.cons
        apply keepsTo_expect
        intro rest
        exact hkeeps.tested axis rest
  · exact hkeeps.tested .child lexemes

theorem keepsTo_tested (hkeeps : KeepsToAt fuel) (axis : Axis) :
    KeepsTo lexemes (tested (fuel + 1) axis lexemes) := by
  unfold tested
  apply keepsTo_nodeTest.bind
  intro test rest
  apply (hkeeps.predicates rest).bind
  intro predicates rest
  exact keepsTo_self

theorem keepsTo_predicates (hkeeps : KeepsToAt fuel) :
    KeepsTo lexemes (predicates (fuel + 1) lexemes) := by
  unfold predicates
  dsimp only
  split
  · apply KeepsTo.cons
    apply (hkeeps.expression 0 _).bind
    intro predicate rest
    apply keepsTo_expect
    intro rest
    apply (hkeeps.predicates rest).bind
    intro predicates rest
    exact keepsTo_self
  · exact keepsTo_self

theorem keepsTo_arguments (hkeeps : KeepsToAt fuel) :
    KeepsTo lexemes (arguments (fuel + 1) lexemes) := by
  unfold arguments
  split
  · exact keepsTo_self.cons
  · exact hkeeps.argumentList lexemes

theorem keepsTo_argumentList (hkeeps : KeepsToAt fuel) :
    KeepsTo lexemes (argumentList (fuel + 1) lexemes) := by
  unfold argumentList
  apply (hkeeps.expression 0 lexemes).bind
  intro argument rest
  dsimp only
  split
  · apply KeepsTo.cons
    apply (hkeeps.argumentList _).bind
    intro arguments rest
    exact keepsTo_self
  · apply keepsTo_expect
    intro rest
    exact keepsTo_self

theorem keepsToAt (fuel : Nat) : KeepsToAt fuel := by
  induction fuel with
  | zero => exact keepsToAt_zero
  | succ fuel hkeeps =>
      exact {
        expression := fun level _ => keepsTo_expression hkeeps level
        operators := fun level left _ => keepsTo_operators hkeeps level left
        path := fun _ => keepsTo_path hkeeps
        filtered := fun primary _ => keepsTo_filtered hkeeps primary
        steps := fun _ => keepsTo_steps hkeeps
        step := fun _ => keepsTo_step hkeeps
        tested := fun axis _ => keepsTo_tested hkeeps axis
        predicates := fun _ => keepsTo_predicates hkeeps
        arguments := fun _ => keepsTo_arguments hkeeps
        argumentList := fun _ => keepsTo_argumentList hkeeps }

theorem isAbout_of_parseTokens {e : PathError} (herror : parseTokens lexemes = .error e) :
    e.IsAbout lexemes := by
  have hkeeps := (keepsToAt (fuelFor lexemes.length)).expression 0 lexemes
  unfold parseTokens at herror
  cases hexpr : expression (fuelFor lexemes.length) 0 lexemes with
  | error e' =>
      rw [hexpr] at herror hkeeps
      cases herror
      exact hkeeps
  | ok taken =>
      rw [hexpr] at herror hkeeps
      rw [ok_bind] at herror
      dsimp only at herror
      split at herror
      · cases herror
      · cases herror
        exact isAbout_unexpected.mono hkeeps

theorem foundIn_of_parse {text : String} {e : PathError} (herror : parse text = .error e) :
    e.FoundIn 0 text.toList := by
  have hplaced : PlacedIn 0 text.toList (tokenize text) := placedIn_scan
  unfold parse at herror
  cases htokens : tokenize text with
  | error e' =>
      rw [htokens] at herror hplaced
      cases herror
      exact hplaced
  | ok lexemes =>
      rw [htokens] at herror hplaced
      exact (isAbout_of_parseTokens herror).foundIn hplaced

end Parser

/-! ## Errors of the locator -/

theorem all_isBlank_of_trimBlank_isEmpty {text : String}
    (hempty : (trimBlank text).isEmpty = true) : ∀ c ∈ text.toList, isBlank c = true := by
  rcases exists_trimWhile isBlank text.toList with ⟨tail, htail, htext⟩
  have htrimmed : trimWhile isBlank text.toList = [] := by
    rw [String.isEmpty_iff] at hempty
    simpa [trimBlank] using congrArg String.toList hempty
  rw [htrimmed, List.nil_append] at htext
  intro c hc
  rw [htext, List.mem_append] at hc
  rcases hc with hc | hc
  · exact List.mem_takeWhile_imp hc
  · exact htail c hc

/-- Compiling fails for a blank text, or with an error about the text between the white space at
its ends. -/
theorem foundIn_of_compile {text : String} {e : PathError} (herror : compile text = .error e) :
    (e = .empty ∧ ∀ c ∈ text.toList, isBlank c = true) ∨
      e.FoundIn 0 (trimWhile isBlank text.toList) := by
  unfold compile at herror
  dsimp only at herror
  split at herror
  · next hempty =>
      cases herror
      exact .inl ⟨rfl, all_isBlank_of_trimBlank_isEmpty hempty⟩
  · cases hparsed : Parser.parse (trimBlank text) with
    | ok expr =>
        rw [hparsed] at herror
        cases herror
    | error e' =>
        rw [hparsed] at herror
        cases herror
        have hfound := Parser.foundIn_of_parse hparsed
        rw [trimBlank, String.toList_ofList] at hfound
        exact .inr hfound

/-- The character stands in the text at the byte, with these characters after it. -/
def StandsAt (text : String) (position : Nat) (c : Char) (after : List Char) : Prop :=
  ∃ before, text.toList = before ++ c :: after ∧ byteLength before = position

/-- The bytes of the white space before the first other character. -/
def leadingBytes (text : String) : Nat := byteLength (text.toList.takeWhile isBlank)

theorem standsAt_behind_blanks {text : String} {chars before after : List Char} {c : Char}
    {offset : Nat} (htext : text.toList = text.toList.takeWhile isBlank ++ chars)
    (hchars : chars = before ++ c :: after) (hoffset : offset = 0 + byteLength before) :
    StandsAt text (leadingBytes text + offset) c after := by
  refine ⟨text.toList.takeWhile isBlank ++ before, ?_, ?_⟩
  · rw [List.append_assoc, ← hchars]
    exact htext
  · rw [byteLength_append, hoffset, Nat.zero_add, leadingBytes]

/-- Where compiling reports an unexpected character at an offset, the character stands in the text
that many bytes after the white space at the front.  Where it reports an unterminated literal, a
quotation mark stands there and does not come again. -/
theorem compile_counts_from_first_nonBlank (text : String) :
    (∀ found offset, compile text = .error (.unexpectedChar found offset) →
      ∃ after, StandsAt text (leadingBytes text + offset) found after) ∧
    ∀ offset, compile text = .error (.unterminatedLiteral offset) →
      ∃ mark after,
        StandsAt text (leadingBytes text + offset) mark after ∧
          (mark = '"' ∨ mark = '\'') ∧ mark ∉ after := by
  rcases exists_trimWhile isBlank text.toList with ⟨tail, htail, htext⟩
  have hfound : ∀ e, compile text = .error e → e ≠ .empty →
      e.FoundIn 0 (trimWhile isBlank text.toList ++ tail) := by
    intro e herror hnonempty
    rcases foundIn_of_compile herror with ⟨hempty, _⟩ | hfound
    · exact absurd hempty hnonempty
    · exact hfound.append_right htail
  constructor
  · intro found offset herror
    rcases hfound _ herror nofun with ⟨before, after, hchars, hoffset⟩
    exact ⟨after, standsAt_behind_blanks htext hchars hoffset⟩
  · intro offset herror
    rcases hfound _ herror nofun with ⟨before, mark, after, hchars, hoffset, hmark, hlast⟩
    exact ⟨mark, after, standsAt_behind_blanks htext hchars hoffset, hmark, hlast⟩

theorem compile_of_tokenize_eq_error {text : String} (trimmed : String) {e : PathError}
    (htrim : trimBlank text = trimmed) (htokens : tokenize trimmed = .error e)
    (hnonempty : trimmed.isEmpty = false) : compile text = .error e := by
  simp only [compile, htrim, hnonempty, Parser.parse, htokens]
  rfl

/-- Behind a wide space, which takes three bytes. -/
theorem compile_indented_counts_from_first_nonBlank :
    compile "\u2003a !" = .error (.unexpectedChar '!' 2) ∧
    (∃ after, StandsAt "\u2003a !" 5 '!' after) ∧
    compile "\u2003\"a" = .error (.unterminatedLiteral 0) ∧
    ∃ mark after,
      StandsAt "\u2003\"a" 3 mark after ∧ (mark = '"' ∨ mark = '\'') ∧ mark ∉ after := by
  have hchar : compile "\u2003a !" = .error (.unexpectedChar '!' 2) :=
    compile_of_tokenize_eq_error "a !" (by cbv) (by rfl) (by decide)
  have hliteral : compile "\u2003\"a" = .error (.unterminatedLiteral 0) :=
    compile_of_tokenize_eq_error "\"a" (by cbv) (by rfl) (by decide)
  have hcharBytes : leadingBytes "\u2003a !" = 3 := by cbv
  have hliteralBytes : leadingBytes "\u2003\"a" = 3 := by cbv
  have hcharStands := (compile_counts_from_first_nonBlank _).1 _ _ hchar
  have hliteralStands := (compile_counts_from_first_nonBlank _).2 _ hliteral
  rw [hcharBytes] at hcharStands
  rw [hliteralBytes] at hliteralStands
  exact ⟨hchar, hcharStands, hliteral, hliteralStands⟩

theorem head?_of_standsAt_zero {text : String} {c : Char} {after : List Char}
    (hstands : StandsAt text 0 c after) : text.toList.head? = some c := by
  rcases hstands with ⟨before, htext, hlength⟩
  cases before with
  | nil => rw [htext, List.nil_append, List.head?_cons]
  | cons d before =>
      have hsize := Char.utf8Size_pos d
      change d.utf8Size + byteLength before = 0 at hlength
      omega

/-- Behind white space, the offset is not the place of the character in the text as it was given. -/
theorem compile_misplaces_errors_behind_blanks :
    (compile " !" = .error (.unexpectedChar '!' 0) ∧ ∀ after, ¬StandsAt " !" 0 '!' after) ∧
    compile " 'a" = .error (.unterminatedLiteral 0) ∧
      ∀ mark after, mark = '"' ∨ mark = '\'' → ¬StandsAt " 'a" 0 mark after := by
  have hchar : compile " !" = .error (.unexpectedChar '!' 0) :=
    compile_of_tokenize_eq_error "!" (by cbv) (by rfl) (by decide)
  have hliteral : compile " 'a" = .error (.unterminatedLiteral 0) :=
    compile_of_tokenize_eq_error "'a" (by cbv) (by rfl) (by decide)
  refine ⟨⟨hchar, ?_⟩, hliteral, ?_⟩
  · intro after hstands
    exact absurd (head?_of_standsAt_zero hstands) (by decide)
  · intro mark after hmark hstands
    have hhead := head?_of_standsAt_zero hstands
    rcases hmark with rfl | rfl
    · exact absurd hhead (by decide)
    · exact absurd hhead (by decide)

end Locator

end RecordExtraction
