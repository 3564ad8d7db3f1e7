import Mathlib
import RecordExtraction.Proofs.Locator.GrammarCompleteness
import RecordExtraction.Proofs.Locator.ParserCalls

/-!
# Parsing goes forward

Every parser that succeeds leaves the tokens from some later place on.  A call is made either with
tokens that begin later than those of the call that makes it, or with the same tokens and then for a
parser of lower rank.  So no parser is called again at the same place, and the number of tokens that
are left, with the rank for calls with the same tokens, bounds how deep calls go.
-/

namespace RecordExtraction
namespace Locator
namespace Parser

/-! ## Places in the tokens -/

/-- The rest of the tokens begins at least so many places further on, and not beyond the end. -/
def Passed (least : Nat) (lexemes rest : List Lexeme) : Prop :=
  ∃ count, least ≤ count ∧ count ≤ lexemes.length ∧ rest = lexemes.drop count

/-- If it succeeds, it takes at least so many of the tokens. -/
def Takes {α : Type} (least : Nat) (lexemes : List Lexeme)
    (outcome : Except PathError (α × List Lexeme)) : Prop :=
  ∀ result rest, outcome = .ok (result, rest) → Passed least lexemes rest

/-- From any place on, the parser stops, if it succeeds, at least so many places further on.  It
does not go beyond the end. -/
def Advances {α : Type} (least : Nat)
    (parser : List Lexeme → Except PathError (α × List Lexeme)) : Prop :=
  ∀ (lexemes : List Lexeme) start result rest, parser (lexemes.drop start) = .ok (result, rest) →
    ∃ stop, start + least ≤ stop ∧ stop ≤ max start lexemes.length ∧ rest = lexemes.drop stop

section

variable {α β : Type} {least more : Nat} {lexeme : Lexeme} {lexemes middle rest : List Lexeme}
  {outcome : Except PathError (α × List Lexeme)}

theorem Passed.refl (lexemes : List Lexeme) : Passed 0 lexemes lexemes :=
  ⟨0, Nat.le_refl 0, Nat.zero_le _, rfl⟩

theorem Passed.cons (hpassed : Passed least lexemes rest) :
    Passed (least + 1) (lexeme :: lexemes) rest := by
  rcases hpassed with ⟨count, hleast, hcount, rfl⟩
  exact ⟨count + 1, Nat.succ_le_succ hleast, Nat.succ_le_succ hcount, rfl⟩

theorem Passed.trans (hfirst : Passed least lexemes middle) (hsecond : Passed more middle rest) :
    Passed (least + more) lexemes rest := by
  rcases hfirst with ⟨first, hleast, hfirst, rfl⟩
  rcases hsecond with ⟨second, hmore, hsecond, rfl⟩
  rw [List.length_drop] at hsecond
  exact ⟨first + second, Nat.add_le_add hleast hmore, by omega, List.drop_drop⟩

theorem Passed.mono (hpassed : Passed more lexemes rest) (hle : least ≤ more) :
    Passed least lexemes rest := by
  rcases hpassed with ⟨count, hmore, hcount⟩
  exact ⟨count, hle.trans hmore, hcount⟩

theorem Passed.weaken (hpassed : Passed least lexemes rest) : Passed 0 lexemes rest :=
  hpassed.mono (Nat.zero_le least)

theorem Passed.length_add_le (hpassed : Passed least lexemes rest) :
    rest.length + least ≤ lexemes.length := by
  rcases hpassed with ⟨count, hleast, hcount, rfl⟩
  rw [List.length_drop]
  omega

theorem passed_of_expect {token : Token} (hexpect : expect token lexemes = .ok rest) :
    Passed 1 lexemes rest := by
  rcases expect_eq_ok_iff.mp hexpect with ⟨lexeme, -, rfl⟩
  exact (Passed.refl rest).cons

theorem passed_of_separator? {implied : List Step}
    (hseparator : separator? lexemes = some (implied, rest)) : Passed 1 lexemes rest := by
  rcases separates_of_separator? hseparator with ⟨lexeme, -, rfl⟩
  exact (Passed.refl rest).cons

theorem takes_self {result : α} : Takes 0 lexemes (.ok (result, lexemes)) := by
  rintro _ _ ⟨⟩
  exact .refl lexemes

theorem takes_error {e : PathError} : Takes (α := α) least lexemes (.error e) := by
  rintro _ _ ⟨⟩

theorem Takes.weaken (htakes : Takes least lexemes outcome) : Takes 0 lexemes outcome :=
  fun result rest houtcome => (htakes result rest houtcome).weaken

theorem Takes.cons (htakes : Takes least lexemes outcome) :
    Takes (least + 1) (lexeme :: lexemes) outcome :=
  fun result rest houtcome => (htakes result rest houtcome).cons

theorem Takes.of_passed (hpassed : Passed least lexemes rest) (htakes : Takes 0 rest outcome) :
    Takes least lexemes outcome :=
  fun result later houtcome => hpassed.trans (htakes result later houtcome)

theorem Takes.bind {next : α × List Lexeme → Except PathError (β × List Lexeme)}
    (htakes : Takes least lexemes outcome)
    (hnext : ∀ result rest, Takes 0 rest (next (result, rest))) :
    Takes least lexemes (outcome >>= next) := by
  cases outcome with
  | error e => exact takes_error
  | ok taken => exact .of_passed (htakes taken.1 taken.2 rfl) (hnext taken.1 taken.2)

theorem takes_expect {token : Token}
    {next : List Lexeme → Except PathError (β × List Lexeme)}
    (hnext : ∀ rest, Takes 0 rest (next rest)) :
    Takes 0 lexemes (expect token lexemes >>= next) := by
  cases hexpect : expect token lexemes with
  | error e => exact takes_error
  | ok rest => exact .of_passed (passed_of_expect hexpect).weaken (hnext rest)

theorem takes_call {name : String} {arguments : List Expr}
    {next : Expr → Except PathError (β × List Lexeme)}
    (hnext : ∀ expr, Takes 0 lexemes (next expr)) :
    Takes 0 lexemes (call name arguments >>= next) := by
  cases call name arguments with
  | error e => exact takes_error
  | ok expr => exact hnext expr

theorem takes_nodeTest : Takes 1 lexemes (nodeTest lexemes) := by
  intro test rest htest
  rcases nodeTest_sound htest with ⟨front, rfl, hfront⟩
  have hpos : 0 < front.length := length_pos_of_opens hfront.opens
  refine ⟨front.length, hpos, ?_, List.drop_left.symm⟩
  rw [List.length_append]
  exact Nat.le_add_right _ _

theorem Advances.takes {parser : List Lexeme → Except PathError (α × List Lexeme)}
    (hadvances : Advances least parser) : Takes least lexemes (parser lexemes) := by
  intro result rest houtcome
  rcases hadvances lexemes 0 result rest houtcome with ⟨stop, hleast, hstop, hrest⟩
  rw [Nat.zero_add] at hleast
  rw [Nat.zero_max] at hstop
  exact ⟨stop, hleast, hstop, hrest⟩

theorem advances_of_takes {parser : List Lexeme → Except PathError (α × List Lexeme)}
    (htakes : ∀ lexemes, Takes least lexemes (parser lexemes)) : Advances least parser := by
  intro lexemes start result rest houtcome
  rcases htakes _ result rest houtcome with ⟨count, hleast, hcount, hrest⟩
  rw [List.length_drop] at hcount
  rw [List.drop_drop] at hrest
  exact ⟨start + count, by omega, by omega, hrest⟩

end

/-! ## Progress -/

namespace Parsers

/-- Parsers that succeed take something off the tokens, those of operators and predicates perhaps
nothing. -/
structure MakesProgress (parsers : Parsers) : Prop where
  expression : ∀ level, Advances 1 (parsers.expression level)
  operators : ∀ level left, Advances 0 (parsers.operators level left)
  path : Advances 1 parsers.path
  filtered : ∀ primary, Advances 0 (parsers.filtered primary)
  steps : Advances 1 parsers.steps
  step : Advances 1 parsers.step
  tested : ∀ axis, Advances 1 (parsers.tested axis)
  predicates : Advances 0 parsers.predicates
  arguments : Advances 1 parsers.arguments
  argumentList : Advances 1 parsers.argumentList

section

variable {parsers : Parsers} {lexemes : List Lexeme}
  {fallback : List Lexeme → Except PathError (Expr × List Lexeme)}

theorem takes_expression (hprogress : parsers.MakesProgress) (level : Nat) :
    Takes 1 lexemes ((parsers.next fallback).expression level lexemes) := by
  unfold next
  dsimp only
  split
  · exact hprogress.path.takes
  · split
    · split
      · next rest =>
          apply Takes.cons
          apply (hprogress.expression level).takes.weaken.bind
          intro operand rest
          exact takes_self
      · exact (hprogress.expression _).takes
    · apply (hprogress.expression _).takes.bind
      intro left rest
      exact (hprogress.operators level left).takes

theorem takes_operators (hprogress : parsers.MakesProgress) (level : Nat) (left : Expr) :
    Takes 0 lexemes ((parsers.next fallback).operators level left lexemes) := by
  unfold next
  dsimp only
  split
  · split
    · next rest _ =>
        apply Takes.weaken
        apply Takes.cons
        apply (hprogress.expression _).takes.weaken.bind
        intro right rest
        exact (hprogress.operators level _).takes
    · exact takes_self
  · exact takes_self

theorem takes_primary (hprogress : parsers.MakesProgress)
    (hstarts : startsPrimary lexemes = true) :
    Takes 1 lexemes (parsers.primary fallback lexemes) := by
  rcases lexemes with _ | ⟨⟨token, offset, head⟩, rest⟩
  · cases hstarts
  · cases token with
    | variableName name => exact takes_error
    | leftParen =>
        apply Takes.cons
        apply (hprogress.expression 0).takes.weaken.bind
        intro inner rest
        apply takes_expect
        intro rest
        exact takes_self
    | literal value => exact takes_self.cons
    | number digits => exact takes_self.cons
    | functionName name =>
        apply Takes.cons
        apply takes_expect
        intro rest
        apply hprogress.arguments.takes.weaken.bind
        intro arguments rest
        apply takes_call
        intro primary
        exact takes_self
    | _ => cases hstarts

theorem takes_locationPath (hprogress : parsers.MakesProgress) :
    Takes 1 lexemes (parsers.locationPath lexemes) := by
  unfold locationPath
  split
  · apply Takes.cons
    split
    · next rest _ =>
        apply hprogress.steps.takes.weaken.bind
        intro steps rest
        exact takes_self
    · exact takes_self
  · next rest =>
      apply Takes.cons
      apply hprogress.steps.takes.weaken.bind
      intro steps rest
      exact takes_self
  · apply hprogress.steps.takes.bind
    intro steps rest
    exact takes_self

theorem takes_path (hprogress : parsers.MakesProgress) :
    Takes 1 lexemes ((parsers.next fallback).path lexemes) := by
  unfold next
  dsimp only
  split
  · next hstarts =>
      apply (takes_primary hprogress hstarts).bind
      intro primary rest
      exact (hprogress.filtered primary).takes
  · exact takes_locationPath hprogress

/-- The steps behind a separator, if there is one. -/
theorem takes_after_separator {α : Type} (hprogress : parsers.MakesProgress) (alone : α)
    (further : List Step → List Step → α) :
    Takes 0 lexemes
      (match separator? lexemes with
        | some (implied, rest) => do
            let (steps, rest) ← parsers.steps rest
            .ok (further implied steps, rest)
        | none => .ok (alone, lexemes)) := by
  split
  · next implied rest hseparator =>
      apply Takes.of_passed (passed_of_separator? hseparator).weaken
      apply hprogress.steps.takes.weaken.bind
      intro steps rest
      exact takes_self
  · exact takes_self

theorem takes_filtered (hprogress : parsers.MakesProgress) (primary : Expr) :
    Takes 0 lexemes ((parsers.next fallback).filtered primary lexemes) := by
  unfold next
  apply hprogress.predicates.takes.bind
  intro predicates rest
  exact takes_after_separator hprogress (primary.filteredBy predicates) fun implied steps =>
    .path (.filter (primary.filteredBy predicates)) (implied ++ steps)

theorem takes_steps (hprogress : parsers.MakesProgress) :
    Takes 1 lexemes ((parsers.next fallback).steps lexemes) := by
  unfold next
  apply hprogress.step.takes.bind
  intro step rest
  exact takes_after_separator hprogress [step] fun implied steps => step :: implied ++ steps

theorem takes_step (hprogress : parsers.MakesProgress) :
    Takes 1 lexemes ((parsers.next fallback).step lexemes) := by
  unfold next
  dsimp only
  split
  · exact takes_self.cons
  · exact takes_self.cons
  · exact (hprogress.tested _).takes.weaken.cons
  · split
    · exact takes_error
    · apply Takes.cons
      apply takes_expect
      intro rest
      exact (hprogress.tested _).takes.weaken
  · exact (hprogress.tested _).takes

theorem takes_tested (hprogress : parsers.MakesProgress) (axis : Axis) :
    Takes 1 lexemes ((parsers.next fallback).tested axis lexemes) := by
  unfold next
  apply takes_nodeTest.bind
  intro test rest
  apply hprogress.predicates.takes.bind
  intro predicates rest
  exact takes_self

theorem takes_predicates (hprogress : parsers.MakesProgress) :
    Takes 0 lexemes ((parsers.next fallback).predicates lexemes) := by
  unfold next
  dsimp only
  split
  · next rest =>
      apply Takes.weaken
      apply Takes.cons
      apply (hprogress.expression 0).takes.weaken.bind
      intro predicate rest
      apply takes_expect
      intro rest
      apply hprogress.predicates.takes.bind
      intro predicates rest
      exact takes_self
  · exact takes_self

theorem takes_arguments (hprogress : parsers.MakesProgress) :
    Takes 1 lexemes ((parsers.next fallback).arguments lexemes) := by
  unfold next
  dsimp only
  split
  · exact takes_self.cons
  · exact hprogress.argumentList.takes

theorem takes_argumentList (hprogress : parsers.MakesProgress) :
    Takes 1 lexemes ((parsers.next fallback).argumentList lexemes) := by
  unfold next
  apply (hprogress.expression 0).takes.bind
  intro argument rest
  dsimp only
  split
  · next rest =>
      apply Takes.weaken
      apply Takes.cons
      apply hprogress.argumentList.takes.weaken.bind
      intro arguments rest
      exact takes_self
  · apply takes_expect
    intro rest
    exact takes_self

theorem makesProgress_next (hprogress : parsers.MakesProgress) :
    (parsers.next fallback).MakesProgress where
  expression level := advances_of_takes fun _ => takes_expression hprogress level
  operators level left := advances_of_takes fun _ => takes_operators hprogress level left
  path := advances_of_takes fun _ => takes_path hprogress
  filtered primary := advances_of_takes fun _ => takes_filtered hprogress primary
  steps := advances_of_takes fun _ => takes_steps hprogress
  step := advances_of_takes fun _ => takes_step hprogress
  tested axis := advances_of_takes fun _ => takes_tested hprogress axis
  predicates := advances_of_takes fun _ => takes_predicates hprogress
  arguments := advances_of_takes fun _ => takes_arguments hprogress
  argumentList := advances_of_takes fun _ => takes_argumentList hprogress

end

end Parsers

theorem makesProgress_withFuel (fuel : Nat) : (withFuel fuel).MakesProgress := by
  induction fuel with
  | zero => constructor <;> intros <;> exact advances_of_takes fun _ => takes_error
  | succ fuel hprogress =>
      rw [withFuel_succ fuel fun _ => .error .unexpectedEnd]
      exact Parsers.makesProgress_next hprogress

/-! ## How deep calls go -/

/-- Where calls are made with the same tokens, the rank goes down. -/
def Routine.rank : Routine → Nat
  | .operators _ | .tested | .predicates => 0
  | .filtered | .step => 1
  | .steps => 2
  | .path => 3
  | .expression level => 4 + (pathLevel - level)
  | .argumentList => 5 + pathLevel
  | .arguments => 6 + pathLevel

theorem Routine.rank_le (routine : Routine) : routine.rank ≤ 14 := by
  cases routine <;> simp only [rank, pathLevel] <;> omega

/-- How deep the calls go at most that the call leads to. -/
def Call.weight (call : Call) : Nat := 15 * call.lexemes.length + call.routine.rank

namespace Parsers

variable {parsers : Parsers} {first later last : Call}

/-- The second call begins later in the tokens, or at the same place with a lower rank. -/
def Descends (first later : Call) : Prop :=
  Passed 1 first.lexemes later.lexemes ∨
    later.lexemes = first.lexemes ∧ later.routine.rank < first.routine.rank

theorem Descends.trans (hfirst : Descends first later) (hlater : Descends later last) :
    Descends first last := by
  rcases hfirst with hpassed | ⟨hsame, hrank⟩
  · rcases hlater with hmore | ⟨hsame, -⟩
    · exact .inl ((hpassed.trans hmore).mono (Nat.le_add_right 1 1))
    · exact .inl (hsame ▸ hpassed)
  · rcases hlater with hpassed | ⟨hsame', hrank'⟩
    · exact .inl (hsame ▸ hpassed)
    · exact .inr ⟨hsame'.trans hsame, hrank'.trans hrank⟩

theorem Descends.weight_lt (hdescends : Descends first later) : later.weight < first.weight := by
  have hrank := later.routine.rank_le
  unfold Call.weight
  rcases hdescends with hpassed | ⟨hsame, hlower⟩
  · have hlength := hpassed.length_add_le
    omega
  · rw [hsame]
    omega

theorem descends_of_calls (hprogress : parsers.MakesProgress) (hcalls : parsers.Calls first later) :
    Descends first later := by
  cases hcalls with
  | path => exact .inr ⟨rfl, by simp only [Routine.rank]; omega⟩
  | negated => exact .inl (Passed.refl _).cons
  | tighter hlevel => exact .inr ⟨rfl, by simp only [Routine.rank]; omega⟩
  | operators hleft => exact .inl ((hprogress.expression _).takes _ _ hleft)
  | rightOperand => exact .inl (Passed.refl _).cons
  | moreOperators hright =>
      have hpassed := (hprogress.expression _).takes.weaken _ _ hright
      exact .inl hpassed.cons
  | parenthesized => exact .inl (Passed.refl _).cons
  | arguments hopening => exact .inl (passed_of_expect hopening).weaken.cons
  | filtered hstarts hprimary => exact .inl (takes_primary hprogress hstarts _ _ hprimary)
  | absolute => exact .inl (Passed.refl _).cons
  | absoluteAnyDepth => exact .inl (Passed.refl _).cons
  | relative => exact .inr ⟨rfl, Nat.lt_succ_self _⟩
  | filters => exact .inr ⟨rfl, Nat.lt_succ_self _⟩
  | continued hpassing hseparator =>
      have hpassed := hprogress.predicates.takes _ _ hpassing
      exact .inl (hpassed.trans (passed_of_separator? hseparator))
  | firstStep => exact .inr ⟨rfl, Nat.lt_succ_self _⟩
  | laterSteps hfirst hseparator =>
      have hpassed := hprogress.step.takes.weaken _ _ hfirst
      exact .inl (hpassed.trans (passed_of_separator? hseparator))
  | attributes => exact .inl (Passed.refl _).cons
  | axis hmark => exact .inl (passed_of_expect hmark).weaken.cons
  | child => exact .inr ⟨rfl, Nat.lt_succ_self _⟩
  | stepPredicates htest => exact .inl (takes_nodeTest _ _ htest)
  | predicate => exact .inl (Passed.refl _).cons
  | morePredicates hfirst hclosing =>
      have hpassed := ((hprogress.expression _).takes _ _ hfirst).trans (passed_of_expect hclosing)
      exact .inl hpassed.weaken.cons
  | argumentList => exact .inr ⟨rfl, Nat.lt_succ_self _⟩
  | argument => exact .inr ⟨rfl, Nat.lt_succ_self _⟩
  | moreArguments hfirst =>
      have hpassed := (hprogress.expression _).takes _ _ hfirst
      exact .inl ((hpassed.trans (Passed.refl _).cons).mono (Nat.le_add_right 1 1))

theorem descends_of_transGen (hprogress : parsers.MakesProgress)
    (hcalls : Relation.TransGen parsers.Calls first later) : Descends first later := by
  induction hcalls with
  | single hcall => exact descends_of_calls hprogress hcall
  | tail _ hcall ih => exact ih.trans (descends_of_calls hprogress hcall)

/-- A parser that is called again, by whatever calls, begins later in the tokens. -/
theorem passed_of_cycle (hprogress : parsers.MakesProgress)
    (hcalls : Relation.TransGen parsers.Calls first later)
    (hsame : later.routine = first.routine) : Passed 1 first.lexemes later.lexemes := by
  rcases descends_of_transGen hprogress hcalls with hpassed | ⟨-, hrank⟩
  · exact hpassed
  · rw [hsame] at hrank
    exact absurd hrank (Nat.lt_irrefl _)

/-- From expressions down to paths, the parsers call each other without taking anything. -/
theorem transGen_path (parsers : Parsers) {level : Nat} (hlevel : level ≤ pathLevel)
    (lexemes : List Lexeme) :
    Relation.TransGen parsers.Calls ⟨.expression level, lexemes⟩ ⟨.path, lexemes⟩ := by
  induction hlevel using Nat.decreasingInduction with
  | self => exact .single (.path (Nat.le_refl pathLevel))
  | of_succ level hlevel ih => exact .head (.tighter hlevel) ih

end Parsers

end Parser
end Locator
end RecordExtraction
