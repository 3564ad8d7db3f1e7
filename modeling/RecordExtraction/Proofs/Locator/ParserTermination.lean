import RecordExtraction.Proofs.Locator.ParserProgress

/-!
# Parsing ends

The weight of a call bounds how deep the calls go that it leads to.  With more fuel than that, what
happens when the fuel is used up makes no difference.  So there is one way only to give each parser
an outcome for all tokens such that the parsers fit together, and the parsers with enough fuel have
these outcomes.
-/

namespace RecordExtraction
namespace Locator
namespace Parser

/-! ## Enough fuel -/

open Parsers

variable {call : Call} {fuel : Nat}
  (fallback : List Lexeme → Except PathError (Expr × List Lexeme))

/-- With enough fuel, it does not matter what stands in for the parsers when the fuel is used up. -/
theorem agreeAt_iterate (parsers : Parsers) (hfuel : call.weight < fuel) :
    (withFuel fuel).AgreeAt ((next · fallback)^[fuel] parsers) call := by
  -- What is called weighs less than what calls it, so one unit less is enough for it.
  induction fuel generalizing call with
  | zero => exact absurd hfuel (Nat.not_lt_zero _)
  | succ fuel ih =>
      rw [withFuel_succ fuel fallback, Function.iterate_succ_apply']
      apply agreeAt_next
      intro made hmade
      have hweight := (descends_of_calls (makesProgress_withFuel fuel) hmade).weight_lt
      exact ih (by omega)

theorem withFuel_add (fuel more : Nat) :
    withFuel (fuel + more) = (next · fallback)^[fuel] (withFuel more) := by
  induction fuel with
  | zero => rw [Nat.zero_add, Function.iterate_zero_apply]
  | succ fuel ih =>
      rw [Nat.succ_add, withFuel_succ _ fallback, ih, Function.iterate_succ_apply']

theorem agreeAt_withFuel_add (hfuel : call.weight < fuel) (more : Nat) :
    (withFuel fuel).AgreeAt (withFuel (fuel + more)) call := by
  rw [withFuel_add fun _ => .error .unexpectedEnd]
  exact agreeAt_iterate _ _ hfuel

/-- The parsers, each with the fuel that its tokens need. -/
def unlimited : Parsers where
  expression level lexemes := expression (fuelFor lexemes.length) level lexemes
  operators level left lexemes := operators (fuelFor lexemes.length) level left lexemes
  path lexemes := path (fuelFor lexemes.length) lexemes
  filtered primary lexemes := filtered (fuelFor lexemes.length) primary lexemes
  steps lexemes := steps (fuelFor lexemes.length) lexemes
  step lexemes := step (fuelFor lexemes.length) lexemes
  tested axis lexemes := tested (fuelFor lexemes.length) axis lexemes
  predicates lexemes := predicates (fuelFor lexemes.length) lexemes
  arguments lexemes := arguments (fuelFor lexemes.length) lexemes
  argumentList lexemes := argumentList (fuelFor lexemes.length) lexemes

theorem makesProgress_unlimited : unlimited.MakesProgress where
  expression level :=
    advances_of_takes fun _ => ((makesProgress_withFuel _).expression level).takes
  operators level left :=
    advances_of_takes fun _ => ((makesProgress_withFuel _).operators level left).takes
  path := advances_of_takes fun _ => (makesProgress_withFuel _).path.takes
  filtered primary :=
    advances_of_takes fun _ => ((makesProgress_withFuel _).filtered primary).takes
  steps := advances_of_takes fun _ => (makesProgress_withFuel _).steps.takes
  step := advances_of_takes fun _ => (makesProgress_withFuel _).step.takes
  tested axis := advances_of_takes fun _ => ((makesProgress_withFuel _).tested axis).takes
  predicates := advances_of_takes fun _ => (makesProgress_withFuel _).predicates.takes
  arguments := advances_of_takes fun _ => (makesProgress_withFuel _).arguments.takes
  argumentList := advances_of_takes fun _ => (makesProgress_withFuel _).argumentList.takes

theorem Call.weight_lt_fuelFor (call : Call) : call.weight < fuelFor call.lexemes.length := by
  have hrank := call.routine.rank_le
  unfold Call.weight fuelFor
  omega

theorem agreeAt_fuelFor (call : Call) :
    (withFuel (fuelFor call.lexemes.length)).AgreeAt unlimited call := by
  rcases call with ⟨routine, lexemes⟩
  cases routine with
  | operators level => exact fun _ => rfl
  | filtered | tested => exact fun _ => rfl
  | _ => rfl

/-- Any fuel above the weight of a call is enough for it. -/
theorem agreeAt_unlimited (hfuel : call.weight < fuel) :
    (withFuel fuel).AgreeAt unlimited call := by
  refine AgreeAt.trans ?_ (agreeAt_fuelFor call)
  have hneeded := call.weight_lt_fuelFor
  rcases Nat.le_total fuel (fuelFor call.lexemes.length) with hle | hle
  · rcases Nat.exists_eq_add_of_le hle with ⟨more, hmore⟩
    rw [hmore]
    exact agreeAt_withFuel_add hfuel more
  · rcases Nat.exists_eq_add_of_le hle with ⟨more, rfl⟩
    exact (agreeAt_withFuel_add hneeded more).symm

/-- Without any fuel, the parsers make of their tokens what their calls of each other come to. -/
theorem next_unlimited : unlimited.next fallback = unlimited := by
  apply eq_of_agreeAt
  intro call
  have hnext :
      ((withFuel (call.weight + 1)).next fallback).AgreeAt (unlimited.next fallback) call := by
    apply agreeAt_next
    intro made hmade
    have hweight := (descends_of_calls (makesProgress_withFuel _) hmade).weight_lt
    exact agreeAt_unlimited (by omega)
  rw [← withFuel_succ] at hnext
  exact hnext.symm.trans (agreeAt_unlimited (by omega))

/-- Parsers that fit together are the ones with enough fuel. -/
theorem eq_unlimited_of_next_eq {parsers : Parsers} (hfixed : parsers.next fallback = parsers) :
    parsers = unlimited := by
  apply eq_of_agreeAt
  intro call
  -- Such parsers may stand in for themselves when the fuel is used up.
  have hiterate := agreeAt_iterate fallback parsers (Nat.lt_succ_self call.weight)
  rw [Function.iterate_fixed hfixed] at hiterate
  exact hiterate.symm.trans (agreeAt_unlimited (Nat.lt_succ_self _))

/-- Whatever the fuel, a parser that succeeds stops further on in the tokens, and those that may
take nothing do not go back.  Each call either begins at a later token or, with the same tokens, is
for a parser of lower rank; so a parser is called again only behind a token that has been taken.
The parser of primary expressions is called where it has a case for the token.  What the parsers
make of their tokens is the only thing that they can make of them by these calls, and fuel above the
weight of a call is enough for it, whatever stands in for the parsers behind the last unit. -/
theorem parsers_advance_and_end :
    (∀ fuel, (withFuel fuel).MakesProgress ∧ Advances 1 (withFuel fuel).locationPath ∧
      ∀ fallback, withFuel (fuel + 1) = (withFuel fuel).next fallback ∧
        ∀ lexemes, startsPrimary lexemes = true →
          Takes 1 lexemes ((withFuel fuel).primary fallback lexemes)) ∧
    Advances 1 nodeTest ∧
    (∀ lexemes implied rest, separator? lexemes = some (implied, rest) →
      Passed 1 lexemes rest) ∧
    (∀ first later, unlimited.Calls first later →
      Descends first later ∧ later.weight < first.weight) ∧
    (∀ first later, Relation.TransGen unlimited.Calls first later →
      later.routine = first.routine → Passed 1 first.lexemes later.lexemes) ∧
    (∀ (parsers : Parsers) fallback,
      (∀ lexemes, startsPrimary lexemes = false → lexemes ≠ [] →
        parsers.primary fallback lexemes = fallback lexemes) ∧
      (∀ other, parsers.next fallback = parsers.next other) ∧
      (∀ others call, parsers.AgreeBelow others call →
        (parsers.next fallback).AgreeAt (others.next fallback) call) ∧
      (parsers.next fallback = parsers ↔ parsers = unlimited) ∧
      ∀ call fuel, call.weight < fuel →
        ((next · fallback)^[fuel] parsers).AgreeAt unlimited call) ∧
    (∀ call fuel, call.weight < fuel → (withFuel fuel).AgreeAt unlimited call) ∧
    ∀ lexemes fuel, (Call.mk (.expression 0) lexemes).weight < fuel →
      parseTokens lexemes = (do
        let (expr, rest) ← expression fuel 0 lexemes
        if rest.isEmpty then .ok expr else .error (unexpected rest)) := by
  refine ⟨?_, advances_of_takes fun _ => takes_nodeTest, ?_, ?_, ?_, ?_, ?_, ?_⟩
  · intro fuel
    have hprogress := makesProgress_withFuel fuel
    refine ⟨hprogress, advances_of_takes fun _ => takes_locationPath hprogress, ?_⟩
    intro fallback
    refine ⟨withFuel_succ fuel fallback, ?_⟩
    intro lexemes hstarts
    exact takes_primary hprogress hstarts
  · intro lexemes implied rest hseparator
    exact passed_of_separator? hseparator
  · intro first later hcalls
    have hdescends := descends_of_calls makesProgress_unlimited hcalls
    exact ⟨hdescends, hdescends.weight_lt⟩
  · intro first later hcalls hsame
    exact passed_of_cycle makesProgress_unlimited hcalls hsame
  · intro parsers fallback
    refine ⟨?_, parsers.next_eq_next fallback, ?_, ?_, ?_⟩
    · intro lexemes hstarts hnonempty
      exact primary_of_not_startsPrimary hstarts hnonempty
    · intro others call hagree
      exact agreeAt_next fallback fallback hagree
    · constructor
      · exact eq_unlimited_of_next_eq fallback
      · rintro rfl
        exact next_unlimited fallback
    · intro call fuel hfuel
      exact (agreeAt_iterate fallback parsers hfuel).symm.trans (agreeAt_unlimited hfuel)
  · intro call fuel hfuel
    exact agreeAt_unlimited hfuel
  · intro lexemes fuel hfuel
    have hexpression : expression fuel 0 lexemes = unlimited.expression 0 lexemes :=
      agreeAt_unlimited hfuel
    rw [hexpression]
    rfl

/-- The tokens of a name with a predicate that is a name. -/
def nestedLexemes : List Lexeme :=
  [⟨.nameTest none (some "a"), 0, 'a'⟩, ⟨.leftBracket, 1, '['⟩, ⟨.nameTest none (some "b"), 2, 'b'⟩,
    ⟨.rightBracket, 3, ']'⟩]

def nestedExpr : Expr :=
  .path .context
    [.mk .child (.name none (some "a"))
      [.path .context [.mk .child (.name none (some "b")) []]]]

/-- The parser of expressions calls itself for the predicate. -/
theorem transGen_predicate :
    Relation.TransGen unlimited.Calls ⟨.expression 0, nestedLexemes⟩
      ⟨.expression 0, nestedLexemes.drop 2⟩ := by
  apply Relation.TransGen.trans (transGen_path unlimited (Nat.zero_le _) nestedLexemes)
  apply Relation.TransGen.head (.relative rfl)
  apply Relation.TransGen.head .firstStep
  apply Relation.TransGen.head .child
  apply Relation.TransGen.head (.stepPredicates rfl)
  exact .single .predicate

/-- The calls that the parser of expressions makes can do with one unit less. -/
theorem agreeBelow_nestedLexemes :
    (withFuel 72).AgreeBelow unlimited ⟨.expression 0, nestedLexemes⟩ := by
  intro made hmade
  have hweight := (descends_of_calls (makesProgress_withFuel 72) hmade).weight_lt
  exact agreeAt_unlimited hweight

theorem parsers_advance_and_end_on_nestedLexemes :
    expression 73 0 nestedLexemes = .ok (nestedExpr, []) ∧
    (∃ stop, 0 + 1 ≤ stop ∧ stop ≤ max 0 4 ∧ [] = nestedLexemes.drop stop) ∧
    Passed 1 [⟨.literal "c", 0, '\''⟩] [] ∧ Passed 1 [⟨.slash, 0, '/'⟩] [] ∧
    Descends ⟨.expression 0, nestedLexemes⟩ ⟨.expression 1, nestedLexemes⟩ ∧
    Passed 1 nestedLexemes (nestedLexemes.drop 2) ∧
    (∀ fallback, unlimited.primary fallback nestedLexemes = fallback nestedLexemes) ∧
    (∀ fallback, ((withFuel 72).next fallback).AgreeAt (unlimited.next fallback)
      ⟨.expression 0, nestedLexemes⟩) ∧
    (∀ fallback, unlimited.next fallback = unlimited) ∧
    (∀ fallback, ((next · fallback)^[73] (withFuel 0)).expression 0 nestedLexemes =
      unlimited.expression 0 nestedLexemes) ∧
    expression 73 0 nestedLexemes = unlimited.expression 0 nestedLexemes ∧
    parseTokens nestedLexemes = .ok nestedExpr := by
  have hexpression : expression 73 0 nestedLexemes = .ok (nestedExpr, []) := by rfl
  rcases parsers_advance_and_end with
    ⟨hprogress, -, hseparator, hcalls, hcycle, hlookAhead, hfuel, hparse⟩
  have hstop := (hprogress 73).1.expression 0 nestedLexemes 0 _ _ hexpression
  have hprimary := ((hprogress 0).2.2 fun _ => .error .unexpectedEnd).2
    [⟨.literal "c", 0, '\''⟩] rfl (.literal "c") [] rfl
  have hslash := hseparator [⟨.slash, 0, '/'⟩] [] [] rfl
  have htighter := (hcalls ⟨.expression 0, nestedLexemes⟩ _ (.tighter (by decide))).1
  have hpredicate := hcycle _ _ transGen_predicate rfl
  refine ⟨hexpression, hstop, hprimary, hslash, htighter, hpredicate, ?_, ?_, ?_, ?_, ?_, ?_⟩
  · intro fallback
    exact (hlookAhead unlimited fallback).1 nestedLexemes rfl (by decide)
  · intro fallback
    exact (hlookAhead (withFuel 72) fallback).2.2.1 _ _ agreeBelow_nestedLexemes
  · intro fallback
    exact (hlookAhead unlimited fallback).2.2.2.1.mpr rfl
  · intro fallback
    exact (hlookAhead (withFuel 0) fallback).2.2.2.2 ⟨.expression 0, nestedLexemes⟩ 73 (by decide)
  · exact hfuel ⟨.expression 0, nestedLexemes⟩ 73 (by decide)
  · rw [hparse nestedLexemes 73 (by decide), hexpression]
    rfl

end Parser
end Locator
end RecordExtraction
