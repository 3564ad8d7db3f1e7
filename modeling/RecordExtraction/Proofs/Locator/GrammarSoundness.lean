import RecordExtraction.Proofs.Locator.Grammar
import RecordExtraction.Proofs.Outcome

/-!
# What the parser takes is a phrase

Whatever a parser takes off the front of a list of tokens is a phrase of the grammar, and its result
is what the phrase stands for.  The parsers call each other, so the statements about all of them
form one invariant `SoundAt` of the fuel, which every unit of fuel preserves.
-/

namespace RecordExtraction
namespace Locator
namespace Parser

/-- The tokens form the phrase up to the rest. -/
def Reads (phrase : Phrase) (lexemes rest : List Lexeme) : Prop :=
  ∃ front : List Lexeme, lexemes = front ++ rest ∧ Derives phrase (front.map Lexeme.token)

theorem expect_eq_ok_iff {token : Token} {lexemes rest : List Lexeme} :
    expect token lexemes = .ok rest ↔
      ∃ lexeme : Lexeme, lexeme.token = token ∧ lexemes = lexeme :: rest := by
  cases lexemes with
  | nil => simp [expect]
  | cons lexeme others =>
      simp only [expect, List.cons.injEq]
      constructor
      · intro h
        split at h
        · next htoken =>
            cases h
            exact ⟨lexeme, htoken, rfl, rfl⟩
        · cases h
      · rintro ⟨_, htoken, rfl, rfl⟩
        rw [if_pos htoken]

theorem separates_of_separator? {lexemes rest : List Lexeme} {implied : List Step}
    (h : separator? lexemes = some (implied, rest)) :
    ∃ lexeme : Lexeme, Separates lexeme.token implied ∧ lexemes = lexeme :: rest := by
  unfold separator? at h
  split at h <;> cases h
  · exact ⟨_, .slash, rfl⟩
  · exact ⟨_, .doubleSlash, rfl⟩

theorem call_eq_ok_iff {name : String} {arguments : List Expr} {expr : Expr} :
    call name arguments = .ok expr ↔
      ∃ function : CoreFunction,
        CoreFunction.ofName? name = some function ∧
        function.accepts arguments.length = true ∧
        .call function arguments = expr := by
  unfold call
  cases hname : CoreFunction.ofName? name with
  | none => simp
  | some function =>
      by_cases haccepts : function.accepts arguments.length = true
      · simp [haccepts]
      · simp [haccepts]

theorem filtered_succ (fuel : Nat) (primary : Expr) (lexemes : List Lexeme) :
    filtered (fuel + 1) primary lexemes = (do
      let (passing, rest) ← predicates fuel lexemes
      match separator? rest with
      | some (implied, rest) =>
          let (taken, rest) ← steps fuel rest
          .ok (.path (.filter (primary.filteredBy passing)) (implied ++ taken), rest)
      | none => .ok (primary.filteredBy passing, rest)) := by
  rw [filtered]
  rfl

theorem typeTest_sound
    {lexeme : Lexeme} {type : NodeType} {lexemes rest : List Lexeme} {test : NodeTest}
    (hlexeme : lexeme.token = .nodeType type)
    (htest : typeTest type lexemes = .ok (test, rest)) :
    Reads (.test test) (lexeme :: lexemes) rest := by
  simp only [typeTest, bind_eq_ok_iff, expect_eq_ok_iff] at htest
  obtain ⟨inner, ⟨opening, hopening, rfl⟩, htest⟩ := htest
  split at htest
  · simp only [bind_eq_ok_iff, expect_eq_ok_iff, Except.ok.injEq, Prod.mk.injEq] at htest
    obtain ⟨_, ⟨closing, hclosing, rfl⟩, rfl, rfl⟩ := htest
    refine ⟨[lexeme, opening, _, closing], rfl, ?_⟩
    simpa [hlexeme, hopening, hclosing] using Derives.targetTest
  · simp only [bind_eq_ok_iff, expect_eq_ok_iff] at htest
    obtain ⟨_, ⟨closing, hclosing, rfl⟩, htest⟩ := htest
    refine ⟨[lexeme, opening, closing], ?_, ?_⟩
    · cases type <;> cases htest <;> rfl
    · simp only [List.map_cons, List.map_nil, hlexeme, hopening, hclosing]
      cases type <;> cases htest
      · exact .textTest
      · exact .commentTest
      · exact .instructionTest
      · exact .anyTest

theorem nodeTest_sound
    {lexemes rest : List Lexeme} {test : NodeTest}
    (htest : nodeTest lexemes = .ok (test, rest)) :
    Reads (.test test) lexemes rest := by
  unfold nodeTest at htest
  split at htest
  · cases htest
    exact ⟨[_], rfl, .nameTest⟩
  · exact typeTest_sound rfl htest
  · cases htest
  · cases htest

/-- What the parsers take with this much fuel are phrases.  `operators` and `filtered` go on with a
phrase that was begun at `start`. -/
structure SoundAt (fuel : Nat) : Prop where
  expression :
    ∀ {level : Level} {lexemes rest : List Lexeme} {expr : Expr},
      expression fuel level.rank lexemes = .ok (expr, rest) →
      Reads (.expression level expr) lexemes rest
  operators :
    ∀ {level next : Level} {start lexemes rest : List Lexeme} {left expr : Expr},
      level.tighter? = some next →
      Reads (.expression level left) start lexemes →
      operators fuel level.rank left lexemes = .ok (expr, rest) →
      Reads (.expression level expr) start rest
  path :
    ∀ {lexemes rest : List Lexeme} {expr : Expr},
      path fuel lexemes = .ok (expr, rest) →
      Reads (.expression .path expr) lexemes rest
  filtered :
    ∀ {start lexemes rest : List Lexeme} {primary expr : Expr},
      Reads (.primary primary) start lexemes →
      filtered fuel primary lexemes = .ok (expr, rest) →
      Reads (.expression .path expr) start rest
  steps :
    ∀ {lexemes rest : List Lexeme} {result : List Step},
      steps fuel lexemes = .ok (result, rest) →
      Reads (.steps result) lexemes rest
  step :
    ∀ {lexemes rest : List Lexeme} {result : Step},
      step fuel lexemes = .ok (result, rest) →
      Reads (.step result) lexemes rest
  tested :
    ∀ {axis : Axis} {lexemes rest : List Lexeme} {result : Step},
      tested fuel axis lexemes = .ok (result, rest) →
      ∃ test passing middle,
        result = .mk axis test passing ∧
        Reads (.test test) lexemes middle ∧
        Reads (.predicates passing) middle rest
  predicates :
    ∀ {lexemes rest : List Lexeme} {result : List Expr},
      predicates fuel lexemes = .ok (result, rest) →
      Reads (.predicates result) lexemes rest
  arguments :
    ∀ {lexemes rest : List Lexeme} {result : List Expr},
      arguments fuel lexemes = .ok (result, rest) →
      ∃ closing : Lexeme,
        closing.token = .rightParen ∧ Reads (.arguments result) lexemes (closing :: rest)
  argumentList :
    ∀ {lexemes rest : List Lexeme} {result : List Expr},
      argumentList fuel lexemes = .ok (result, rest) →
      ∃ closing : Lexeme,
        closing.token = .rightParen ∧ Reads (.argumentList result) lexemes (closing :: rest)

theorem SoundAt.disjunction {fuel : Nat} (hsound : SoundAt fuel)
    {lexemes rest : List Lexeme} {expr : Expr}
    (hexpr : Parser.expression fuel 0 lexemes = .ok (expr, rest)) :
    Reads (.expression .disjunction expr) lexemes rest :=
  @SoundAt.expression fuel hsound .disjunction _ _ _ hexpr

theorem soundAt_zero : SoundAt 0 where
  expression h := by simp [Parser.expression] at h
  operators _ _ h := by simp [Parser.operators] at h
  path h := by simp [Parser.path] at h
  filtered _ h := by simp [Parser.filtered] at h
  steps h := by simp [Parser.steps] at h
  step h := by simp [Parser.step] at h
  tested h := by simp [Parser.tested] at h
  predicates h := by simp [Parser.predicates] at h
  arguments h := by simp [Parser.arguments] at h
  argumentList h := by simp [Parser.argumentList] at h

variable {fuel : Nat}

theorem expression_sound (hsound : SoundAt fuel)
    {level : Level} {lexemes rest : List Lexeme} {expr : Expr}
    (hexpr : expression (fuel + 1) level.rank lexemes = .ok (expr, rest)) :
    Reads (.expression level expr) lexemes rest := by
  unfold expression at hexpr
  dsimp only at hexpr
  by_cases hpath : pathLevel ≤ level.rank
  · rw [if_pos hpath] at hexpr
    rw [Level.eq_path_of_pathLevel_le hpath]
    exact hsound.path hexpr
  · rw [if_neg hpath] at hexpr
    obtain ⟨next, hnext⟩ := Level.exists_tighter hpath
    have hrank := Level.rank_of_tighter hnext
    by_cases hnegation : level.rank = negationLevel
    · rw [if_pos hnegation] at hexpr
      split at hexpr
      · simp only [bind_eq_ok_iff, Except.ok.injEq, Prod.mk.injEq, Prod.exists] at hexpr
        obtain ⟨operand, _, hoperand, rfl, rfl⟩ := hexpr
        obtain ⟨front, rfl, hfront⟩ := hsound.expression hoperand
        have hlevel := Level.eq_negation_of_rank hnegation
        subst hlevel
        exact ⟨_ :: front, rfl, .negate hfront⟩
      · rw [← hrank] at hexpr
        obtain ⟨front, rfl, hfront⟩ := hsound.expression hexpr
        exact ⟨front, rfl, .tighter hnext hfront⟩
    · rw [if_neg hnegation] at hexpr
      simp only [bind_eq_ok_iff, Prod.exists] at hexpr
      obtain ⟨left, middle, hleft, hexpr⟩ := hexpr
      rw [← hrank] at hleft
      obtain ⟨front, rfl, hfront⟩ := hsound.expression hleft
      exact hsound.operators hnext ⟨front, rfl, .tighter hnext hfront⟩ hexpr

theorem operators_sound (hsound : SoundAt fuel)
    {level next : Level} {start lexemes rest : List Lexeme} {left expr : Expr}
    (hnext : level.tighter? = some next)
    (hleft : Reads (.expression level left) start lexemes)
    (hexpr : operators (fuel + 1) level.rank left lexemes = .ok (expr, rest)) :
    Reads (.expression level expr) start rest := by
  unfold operators at hexpr
  dsimp only at hexpr
  split at hexpr
  · split at hexpr
    · next operator offset head others hlevel =>
        simp only [bind_eq_ok_iff, Prod.exists] at hexpr
        obtain ⟨right, middle, hright, hexpr⟩ := hexpr
        rw [← Level.rank_of_tighter hnext] at hright
        obtain ⟨front, rfl, hfront⟩ := hleft
        obtain ⟨back, rfl, hback⟩ := hsound.expression hright
        refine hsound.operators hnext ⟨front ++ ⟨.operator operator, offset, head⟩ :: back, ?_, ?_⟩
          hexpr
        · simp
        · rw [List.map_append, List.map_cons]
          exact .binary (Level.mem_operators_iff.mpr hlevel) hnext hfront hback
    · cases hexpr
      exact hleft
  · cases hexpr
    exact hleft

theorem path_sound (hsound : SoundAt fuel)
    {lexemes rest : List Lexeme} {expr : Expr}
    (hexpr : path (fuel + 1) lexemes = .ok (expr, rest)) :
    Reads (.expression .path expr) lexemes rest := by
  unfold path at hexpr
  dsimp only at hexpr
  split at hexpr
  · cases hexpr
  · next offset head others =>
      simp only [bind_eq_ok_iff, expect_eq_ok_iff, Prod.exists] at hexpr
      obtain ⟨inner, _, hinner, _, ⟨closing, hclosing, rfl⟩, hexpr⟩ := hexpr
      obtain ⟨front, rfl, hfront⟩ := hsound.disjunction hinner
      refine hsound.filtered ⟨⟨.leftParen, offset, head⟩ :: (front ++ [closing]), ?_, ?_⟩ hexpr
      · simp
      · simp only [List.map_cons, List.map_append, List.map_nil, hclosing]
        exact .parenthesized hfront
  · exact hsound.filtered ⟨[_], rfl, .literal⟩ hexpr
  · exact hsound.filtered ⟨[_], rfl, .number⟩ hexpr
  · next name offset head others =>
      simp only [bind_eq_ok_iff, expect_eq_ok_iff, call_eq_ok_iff, Prod.exists] at hexpr
      obtain ⟨_, ⟨opening, hopening, rfl⟩, values, _, hvalues, primary,
        ⟨function, hname, haccepts, rfl⟩, hexpr⟩ := hexpr
      obtain ⟨closing, hclosing, front, rfl, hfront⟩ := hsound.arguments hvalues
      refine hsound.filtered
        ⟨⟨.functionName name, offset, head⟩ :: opening :: (front ++ [closing]), ?_, ?_⟩ hexpr
      · simp
      · simp only [List.map_cons, List.map_append, List.map_nil, hopening, hclosing]
        exact .call hname haccepts hfront
  · split at hexpr
    · simp only [bind_eq_ok_iff, Except.ok.injEq, Prod.mk.injEq, Prod.exists] at hexpr
      obtain ⟨taken, _, htaken, rfl, rfl⟩ := hexpr
      obtain ⟨front, rfl, hfront⟩ := hsound.steps htaken
      exact ⟨_ :: front, rfl, .absolute hfront⟩
    · cases hexpr
      exact ⟨[_], rfl, .root⟩
  · simp only [bind_eq_ok_iff, Except.ok.injEq, Prod.mk.injEq, Prod.exists] at hexpr
    obtain ⟨taken, _, htaken, rfl, rfl⟩ := hexpr
    obtain ⟨front, rfl, hfront⟩ := hsound.steps htaken
    exact ⟨_ :: front, rfl, .absoluteAnyDepth hfront⟩
  · simp only [bind_eq_ok_iff, Except.ok.injEq, Prod.mk.injEq, Prod.exists] at hexpr
    obtain ⟨taken, _, htaken, rfl, rfl⟩ := hexpr
    obtain ⟨front, rfl, hfront⟩ := hsound.steps htaken
    exact ⟨front, rfl, .relative hfront⟩

theorem filtered_sound (hsound : SoundAt fuel)
    {start lexemes rest : List Lexeme} {primary expr : Expr}
    (hprimary : Reads (.primary primary) start lexemes)
    (hexpr : filtered (fuel + 1) primary lexemes = .ok (expr, rest)) :
    Reads (.expression .path expr) start rest := by
  simp only [filtered_succ, bind_eq_ok_iff, Prod.exists] at hexpr
  obtain ⟨passing, middle, hpassing, hexpr⟩ := hexpr
  obtain ⟨front, rfl, hfront⟩ := hprimary
  obtain ⟨filters, rfl, hfilters⟩ := hsound.predicates hpassing
  split at hexpr
  · next implied others hseparator =>
      obtain ⟨separator, hseparates, rfl⟩ := separates_of_separator? hseparator
      simp only [bind_eq_ok_iff, Except.ok.injEq, Prod.mk.injEq, Prod.exists] at hexpr
      obtain ⟨taken, _, htaken, rfl, rfl⟩ := hexpr
      obtain ⟨back, rfl, hback⟩ := hsound.steps htaken
      refine ⟨front ++ filters ++ separator :: back, ?_, ?_⟩
      · simp
      · simp only [List.map_append, List.map_cons]
        exact .continued hfront hfilters hseparates hback
  · cases hexpr
    refine ⟨front ++ filters, ?_, ?_⟩
    · simp
    · rw [List.map_append]
      exact .filtered hfront hfilters

theorem steps_sound (hsound : SoundAt fuel)
    {lexemes rest : List Lexeme} {result : List Step}
    (hresult : steps (fuel + 1) lexemes = .ok (result, rest)) :
    Reads (.steps result) lexemes rest := by
  unfold steps at hresult
  simp only [bind_eq_ok_iff, Prod.exists] at hresult
  obtain ⟨first, middle, hfirst, hresult⟩ := hresult
  obtain ⟨front, rfl, hfront⟩ := hsound.step hfirst
  split at hresult
  · next implied others hseparator =>
      obtain ⟨separator, hseparates, rfl⟩ := separates_of_separator? hseparator
      simp only [bind_eq_ok_iff, Except.ok.injEq, Prod.mk.injEq, Prod.exists] at hresult
      obtain ⟨taken, _, htaken, rfl, rfl⟩ := hresult
      obtain ⟨back, rfl, hback⟩ := hsound.steps htaken
      refine ⟨front ++ separator :: back, ?_, ?_⟩
      · simp
      · rw [List.map_append, List.map_cons]
        exact .nextStep hfront hseparates hback
  · cases hresult
    exact ⟨front, rfl, .lastStep hfront⟩

theorem step_sound (hsound : SoundAt fuel)
    {lexemes rest : List Lexeme} {result : Step}
    (hresult : step (fuel + 1) lexemes = .ok (result, rest)) :
    Reads (.step result) lexemes rest := by
  unfold step at hresult
  split at hresult
  · cases hresult
    exact ⟨[_], rfl, .selfStep⟩
  · cases hresult
    exact ⟨[_], rfl, .parentStep⟩
  · next offset head others =>
      obtain ⟨test, passing, _, rfl, ⟨front, rfl, hfront⟩, back, rfl, hback⟩ :=
        hsound.tested hresult
      refine ⟨⟨.atSign, offset, head⟩ :: (front ++ back), ?_, ?_⟩
      · simp
      · rw [List.map_cons, List.map_append]
        exact .attributeStep hfront hback
  · next name offset head others =>
      split at hresult
      · cases hresult
      · next axis haxis =>
          simp only [bind_eq_ok_iff, expect_eq_ok_iff] at hresult
          obtain ⟨_, ⟨mark, hmark, rfl⟩, hresult⟩ := hresult
          obtain ⟨test, passing, _, rfl, ⟨front, rfl, hfront⟩, back, rfl, hback⟩ :=
            hsound.tested hresult
          refine ⟨⟨.axisName name, offset, head⟩ :: mark :: (front ++ back), ?_, ?_⟩
          · simp
          · rw [List.map_cons, List.map_cons, List.map_append, hmark]
            exact .axisStep haxis hfront hback
  · obtain ⟨test, passing, _, rfl, ⟨front, rfl, hfront⟩, back, rfl, hback⟩ :=
      hsound.tested hresult
    refine ⟨front ++ back, ?_, ?_⟩
    · simp
    · rw [List.map_append]
      exact .childStep hfront hback

theorem tested_sound (hsound : SoundAt fuel)
    {axis : Axis} {lexemes rest : List Lexeme} {result : Step}
    (hresult : tested (fuel + 1) axis lexemes = .ok (result, rest)) :
    ∃ test passing middle,
      result = .mk axis test passing ∧
      Reads (.test test) lexemes middle ∧
      Reads (.predicates passing) middle rest := by
  unfold tested at hresult
  simp only [bind_eq_ok_iff, Except.ok.injEq, Prod.mk.injEq, Prod.exists] at hresult
  obtain ⟨test, middle, htest, passing, _, hpassing, rfl, rfl⟩ := hresult
  exact ⟨test, passing, middle, rfl, nodeTest_sound htest, hsound.predicates hpassing⟩

theorem predicates_sound (hsound : SoundAt fuel)
    {lexemes rest : List Lexeme} {result : List Expr}
    (hresult : predicates (fuel + 1) lexemes = .ok (result, rest)) :
    Reads (.predicates result) lexemes rest := by
  unfold predicates at hresult
  dsimp only at hresult
  split at hresult
  · next offset head others =>
      simp only [bind_eq_ok_iff, expect_eq_ok_iff, Except.ok.injEq, Prod.mk.injEq,
        Prod.exists] at hresult
      obtain ⟨first, _, hfirst, _, ⟨closing, hclosing, rfl⟩, later, _, hlater, rfl, rfl⟩ := hresult
      obtain ⟨front, rfl, hfront⟩ := hsound.disjunction hfirst
      obtain ⟨back, rfl, hback⟩ := hsound.predicates hlater
      refine ⟨⟨.leftBracket, offset, head⟩ :: (front ++ closing :: back), ?_, ?_⟩
      · simp
      · simp only [List.map_cons, List.map_append, hclosing]
        exact .predicate hfront hback
  · cases hresult
    exact ⟨[], rfl, .noPredicates⟩

theorem arguments_sound (hsound : SoundAt fuel)
    {lexemes rest : List Lexeme} {result : List Expr}
    (hresult : arguments (fuel + 1) lexemes = .ok (result, rest)) :
    ∃ closing : Lexeme,
      closing.token = .rightParen ∧ Reads (.arguments result) lexemes (closing :: rest) := by
  unfold arguments at hresult
  split at hresult
  · cases hresult
    exact ⟨_, rfl, [], rfl, .noArguments⟩
  · obtain ⟨closing, hclosing, front, rfl, hfront⟩ := hsound.argumentList hresult
    exact ⟨closing, hclosing, front, rfl, .someArguments hfront⟩

theorem argumentList_sound (hsound : SoundAt fuel)
    {lexemes rest : List Lexeme} {result : List Expr}
    (hresult : argumentList (fuel + 1) lexemes = .ok (result, rest)) :
    ∃ closing : Lexeme,
      closing.token = .rightParen ∧ Reads (.argumentList result) lexemes (closing :: rest) := by
  unfold argumentList at hresult
  simp only [bind_eq_ok_iff, Prod.exists] at hresult
  obtain ⟨first, middle, hfirst, hresult⟩ := hresult
  obtain ⟨front, rfl, hfront⟩ := hsound.disjunction hfirst
  split at hresult
  · next offset head others =>
      simp only [bind_eq_ok_iff, Except.ok.injEq, Prod.mk.injEq, Prod.exists] at hresult
      obtain ⟨later, _, hlater, rfl, rfl⟩ := hresult
      obtain ⟨closing, hclosing, back, rfl, hback⟩ := hsound.argumentList hlater
      refine ⟨closing, hclosing, front ++ ⟨.comma, offset, head⟩ :: back, ?_, ?_⟩
      · simp
      · rw [List.map_append, List.map_cons]
        exact .nextArgument hfront hback
  · simp only [bind_eq_ok_iff, expect_eq_ok_iff, Except.ok.injEq, Prod.mk.injEq] at hresult
    obtain ⟨_, ⟨closing, hclosing, rfl⟩, rfl, rfl⟩ := hresult
    exact ⟨closing, hclosing, front, rfl, .lastArgument hfront⟩

theorem soundAt (fuel : Nat) : SoundAt fuel := by
  induction fuel with
  | zero => exact soundAt_zero
  | succ fuel hsound =>
      exact {
        expression := expression_sound hsound
        operators := operators_sound hsound
        path := path_sound hsound
        filtered := filtered_sound hsound
        steps := steps_sound hsound
        step := step_sound hsound
        tested := tested_sound hsound
        predicates := predicates_sound hsound
        arguments := arguments_sound hsound
        argumentList := argumentList_sound hsound }

/-- The parser makes an expression of a list of tokens only if the grammar does. -/
theorem derives_of_parseTokens {lexemes : List Lexeme} {expr : Expr}
    (hexpr : parseTokens lexemes = .ok expr) :
    Derives (.expression .disjunction expr) (lexemes.map Lexeme.token) := by
  simp only [parseTokens, bind_eq_ok_iff, Prod.exists] at hexpr
  obtain ⟨parsed, rest, hparsed, hexpr⟩ := hexpr
  split at hexpr
  · next hrest =>
      cases hexpr
      obtain ⟨front, rfl, hfront⟩ := (soundAt _).disjunction hparsed
      rwa [List.isEmpty_iff.mp hrest, List.append_nil]
  · cases hexpr

end Parser
end Locator
end RecordExtraction
