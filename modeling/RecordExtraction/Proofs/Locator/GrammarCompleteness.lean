import RecordExtraction.Proofs.Locator.GrammarSoundness

/-!
# The parser takes every phrase

A parser that begins at a phrase takes the whole phrase, provided that what follows can not be taken
for a part of it and that there is enough fuel.  One token of lookahead is all that the parsers use,
so the first tokens of phrases have to be told apart, and what follows a phrase has to be a closing
sign or an operator of a looser level.

Between two tokens the parsers call each other less than 24 times in a row, which is why `fuelFor`
is enough.
-/

namespace RecordExtraction
namespace Locator

/-! ## First tokens -/

namespace Token

def beginsTest : Token → Bool
  | nameTest .. | nodeType _ => true
  | _ => false

def beginsStep : Token → Bool
  | dot | dotDot | atSign | axisName _ => true
  | token => token.beginsTest

def beginsPath : Token → Bool
  | slash | doubleSlash | leftParen | literal _ | number _ | functionName _ => true
  | token => token.beginsStep

/-- The token can begin an expression of the level. -/
def beginsExpression (level : Level) (token : Token) : Bool :=
  token.beginsPath ||
    (level.rank ≤ negationLevel && token = .operator (.arithmetic .subtract))

theorem beginsPath_of_beginsStep {token : Token} (h : token.beginsStep = true) :
    token.beginsPath = true := by
  cases token <;> first | rfl | exact absurd h Bool.false_ne_true

theorem beginsStep_of_beginsTest {token : Token} (h : token.beginsTest = true) :
    token.beginsStep = true := by
  cases token <;> first | rfl | exact absurd h Bool.false_ne_true

theorem beginsExpression_of_beginsPath {level : Level} {token : Token}
    (h : token.beginsPath = true) : token.beginsExpression level = true := by
  simp [beginsExpression, h]

theorem beginsExpression_of_tighter {level next : Level} {token : Token}
    (hnext : level.tighter? = some next) (h : token.beginsExpression next = true) :
    token.beginsExpression level = true := by
  simp only [beginsExpression, Level.rank_of_tighter hnext, Bool.or_eq_true, Bool.and_eq_true,
    decide_eq_true_eq] at h ⊢
  exact h.imp id fun ⟨hrank, htoken⟩ => ⟨Nat.le_of_succ_le hrank, htoken⟩

end Token

/-- The first token passes the test. -/
def StartsWith (test : Token → Bool) (ts : List Token) : Prop :=
  ∃ token us, ts = token :: us ∧ test token = true

theorem StartsWith.append {test : Token → Bool} {ts : List Token}
    (h : StartsWith test ts) (us : List Token) : StartsWith test (ts ++ us) := by
  obtain ⟨token, rest, rfl, htoken⟩ := h
  exact ⟨token, rest ++ us, rfl, htoken⟩

theorem StartsWith.imp {test other : Token → Bool} {ts : List Token}
    (h : StartsWith test ts) (hother : ∀ token, test token = true → other token = true) :
    StartsWith other ts := by
  obtain ⟨token, rest, rfl, htoken⟩ := h
  exact ⟨token, rest, rfl, hother token htoken⟩

theorem StartsWith.length_pos {test : Token → Bool} {ts : List Token}
    (h : StartsWith test ts) : 0 < ts.length := by
  obtain ⟨token, rest, rfl, -⟩ := h
  exact Nat.succ_pos _

/-- What is known of the first token of a phrase.  Predicates and arguments may be missing. -/
def Phrase.Opens : Phrase → List Token → Prop
  | .expression level _, ts => StartsWith (Token.beginsExpression level) ts
  | .primary _, ts => StartsWith Token.beginsPath ts
  | .steps _, ts | .step _, ts => StartsWith Token.beginsStep ts
  | .test _, ts => StartsWith Token.beginsTest ts
  | .argumentList _, ts => StartsWith (Token.beginsExpression .disjunction) ts
  | .predicates _, _ | .arguments _, _ => True

theorem Derives.opens {phrase : Phrase} {ts : List Token} (h : Derives phrase ts) :
    phrase.Opens ts := by
  induction h with
  | tighter hnext _ ih => exact ih.imp fun _ => Token.beginsExpression_of_tighter hnext
  | binary _ _ _ _ ih _ => exact ih.append _
  | negate => exact ⟨_, _, rfl, rfl⟩
  | root => exact ⟨_, _, rfl, rfl⟩
  | absolute => exact ⟨_, _, rfl, rfl⟩
  | absoluteAnyDepth => exact ⟨_, _, rfl, rfl⟩
  | relative _ ih =>
      exact ih.imp fun _ h =>
        Token.beginsExpression_of_beginsPath (Token.beginsPath_of_beginsStep h)
  | filtered _ _ ih _ =>
      exact (ih.append _).imp fun _ => Token.beginsExpression_of_beginsPath
  | continued _ _ _ _ ih _ _ =>
      exact ((ih.append _).append _).imp fun _ => Token.beginsExpression_of_beginsPath
  | parenthesized => exact ⟨_, _, rfl, rfl⟩
  | literal => exact ⟨_, _, rfl, rfl⟩
  | number => exact ⟨_, _, rfl, rfl⟩
  | call => exact ⟨_, _, rfl, rfl⟩
  | noArguments => trivial
  | someArguments => trivial
  | lastArgument _ ih => exact ih
  | nextArgument _ _ ih _ => exact ih.append _
  | lastStep _ ih => exact ih
  | nextStep _ _ _ ih _ => exact ih.append _
  | selfStep => exact ⟨_, _, rfl, rfl⟩
  | parentStep => exact ⟨_, _, rfl, rfl⟩
  | childStep _ _ ih _ => exact (ih.append _).imp fun _ => Token.beginsStep_of_beginsTest
  | attributeStep => exact ⟨_, _, rfl, rfl⟩
  | axisStep => exact ⟨_, _, rfl, rfl⟩
  | nameTest => exact ⟨_, _, rfl, rfl⟩
  | textTest => exact ⟨_, _, rfl, rfl⟩
  | commentTest => exact ⟨_, _, rfl, rfl⟩
  | anyTest => exact ⟨_, _, rfl, rfl⟩
  | instructionTest => exact ⟨_, _, rfl, rfl⟩
  | targetTest => exact ⟨_, _, rfl, rfl⟩
  | noPredicates => trivial
  | predicate => trivial

/-! ## What follows a phrase -/

/-- The token can follow an expression of the level, counted from the loosest one, which it does not
continue. -/
def Token.Follows (rank : Nat) : Token → Prop
  | .rightParen | .rightBracket | .comma => True
  | .operator sign => sign.level < rank
  | _ => False

namespace Parser

/-- An expression of the level ends before the tokens. -/
def Ends (rank : Nat) (rest : List Lexeme) : Prop :=
  ∀ lexeme ∈ rest.head?, lexeme.token.Follows rank

theorem Ends.mono {rank other : Nat} {rest : List Lexeme}
    (h : Ends rank rest) (hle : rank ≤ other) : Ends other rest := by
  intro lexeme hlexeme
  have hfollows := h lexeme hlexeme
  cases htoken : lexeme.token <;> simp only [htoken, Token.Follows] at hfollows ⊢
  omega

/-- No predicate begins here. -/
def NoPredicate (rest : List Lexeme) : Prop :=
  ∀ lexeme ∈ rest.head?, lexeme.token ≠ .leftBracket

theorem Ends.noPredicate {rank : Nat} {rest : List Lexeme} (h : Ends rank rest) :
    NoPredicate rest := by
  intro lexeme hlexeme htoken
  have hfollows := h lexeme hlexeme
  simp only [htoken, Token.Follows] at hfollows

theorem Ends.separator?_eq_none {rank : Nat} {rest : List Lexeme} (h : Ends rank rest) :
    separator? rest = none := by
  unfold separator?
  split
  · exact (h _ rfl).elim
  · exact (h _ rfl).elim
  · rfl

theorem Ends.startsStep_eq_false {rank : Nat} {rest : List Lexeme} (h : Ends rank rest) :
    startsStep rest = false := by
  unfold startsStep
  split <;> first | exact (h _ rfl).elim | rfl

theorem separator?_of_separates {separator : Lexeme} {implied : List Step}
    (h : Separates separator.token implied) (rest : List Lexeme) :
    separator? (separator :: rest) = some (implied, rest) := by
  obtain ⟨token, offset, head⟩ := separator
  cases h <;> rfl

theorem noPredicate_of_separates {separator : Lexeme} {implied : List Step}
    (h : Separates separator.token implied) (rest : List Lexeme) :
    NoPredicate (separator :: rest) := by
  rintro _ ⟨⟩ htoken
  rw [htoken] at h
  cases h

theorem operators_of_level_ne {rank fuel : Nat} {left : Expr} {rest : List Lexeme}
    (hfuel : 0 < fuel)
    (hne : ∀ lexeme ∈ rest.head?, ∀ operator : BinaryOperator,
      lexeme.token = .operator operator → operator.level ≠ rank) :
    operators fuel rank left rest = .ok (left, rest) := by
  cases fuel with
  | zero => exact absurd hfuel (Nat.lt_irrefl 0)
  | succ fuel =>
      unfold operators
      dsimp only
      split
      · next operator offset head others =>
          rw [if_neg (hne _ rfl operator rfl)]
      · rfl

theorem operators_of_ends {rank fuel : Nat} {left : Expr} {rest : List Lexeme}
    (hfuel : 0 < fuel) (hends : Ends rank rest) :
    operators fuel rank left rest = .ok (left, rest) := by
  refine operators_of_level_ne hfuel ?_
  intro lexeme hlexeme operator htoken
  have hfollows := hends lexeme hlexeme
  rw [htoken] at hfollows
  exact Nat.ne_of_lt hfollows

theorem level_ne_negationLevel (operator : BinaryOperator) : operator.level ≠ negationLevel := by
  rcases operator with _ | _ | comparison | arithmetic | _
  · decide
  · decide
  · cases comparison <;> decide
  · cases arithmetic <;> decide
  · decide

theorem level_lt_pathLevel (operator : BinaryOperator) : operator.level < pathLevel := by
  rcases operator with _ | _ | comparison | arithmetic | _
  · decide
  · decide
  · cases comparison <;> decide
  · cases arithmetic <;> decide
  · decide

/-! ## The parser at a phrase -/

/-- With enough fuel, the parser of a phrase takes the tokens.  After an expression it looks for
operators of the same level, as if the expression were the first operand. -/
def Accepts : Phrase → List Lexeme → Prop
  | .expression level expr, front =>
      ∀ fuel rest, 24 * front.length + 9 ≤ fuel + level.rank → Ends (level.rank + 1) rest →
        ∃ left, fuel ≤ left + front.length ∧
          expression fuel level.rank (front ++ rest) = operators left level.rank expr rest
  | .primary expr, front =>
      ∀ fuel rest, 24 * front.length ≤ fuel + 1 →
        path (fuel + 1) (front ++ rest) = filtered fuel expr rest
  | .steps result, front =>
      ∀ fuel rest, 24 * front.length ≤ fuel + 1 → Ends pathLevel rest →
        steps fuel (front ++ rest) = .ok (result, rest)
  | .step result, front =>
      ∀ fuel rest, 24 * front.length ≤ fuel + 2 → NoPredicate rest →
        step fuel (front ++ rest) = .ok (result, rest)
  | .test result, front =>
      ∀ rest, nodeTest (front ++ rest) = .ok (result, rest)
  | .predicates result, front =>
      ∀ fuel rest, 24 * front.length + 1 ≤ fuel → NoPredicate rest →
        predicates fuel (front ++ rest) = .ok (result, rest)
  | .arguments result, front =>
      ∀ fuel closing rest, 24 * front.length + 11 ≤ fuel → closing.token = .rightParen →
        arguments fuel (front ++ closing :: rest) = .ok (result, rest)
  | .argumentList result, front =>
      ∀ fuel closing rest, 24 * front.length + 10 ≤ fuel → closing.token = .rightParen →
        argumentList fuel (front ++ closing :: rest) = .ok (result, rest)

/-- An expression that can not go on is taken as it is. -/
theorem Accepts.expression_eq_ok
    {level : Level} {expr : Expr} {front : List Lexeme}
    (h : Accepts (.expression level expr) front) (fuel : Nat) (rest : List Lexeme)
    (hfuel : 24 * front.length + 9 ≤ fuel + level.rank) (hends : Ends level.rank rest) :
    expression fuel level.rank (front ++ rest) = .ok (expr, rest) := by
  have hrank : level.rank ≤ 8 := level.rank_le_pathLevel
  obtain ⟨left, hleft, hexpr⟩ := h fuel rest hfuel (hends.mono (Nat.le_succ _))
  rw [hexpr]
  exact operators_of_ends (by omega) hends

theorem Accepts.disjunction_eq_ok {expr : Expr} {front : List Lexeme}
    (h : Accepts (.expression .disjunction expr) front) (fuel : Nat) (rest : List Lexeme)
    (hfuel : 24 * front.length + 9 ≤ fuel) (hends : Ends 0 rest) :
    expression fuel 0 (front ++ rest) = .ok (expr, rest) :=
  h.expression_eq_ok fuel rest hfuel hends

theorem ends_of_closing {closing : Lexeme} {rank : Nat} (rest : List Lexeme)
    (h : closing.token = .rightParen ∨ closing.token = .rightBracket ∨ closing.token = .comma) :
    Ends rank (closing :: rest) := by
  rintro _ ⟨⟩
  rcases h with h | h | h <;> rw [h] <;> trivial

/-- At the level of negations the parser goes on to the next level unless it finds a minus. -/
theorem expression_negationLevel {fuel : Nat} {front rest : List Lexeme}
    (hopens : StartsWith Token.beginsPath (front.map Lexeme.token)) :
    expression (fuel + 1) negationLevel (front ++ rest) =
      expression fuel (negationLevel + 1) (front ++ rest) := by
  obtain ⟨token, _, hfront, htoken⟩ := hopens
  obtain ⟨⟨_, offset, head⟩, others, rfl, rfl, -⟩ := List.map_eq_cons_iff.mp hfront
  rw [expression, if_neg (by decide), if_pos rfl]
  rintro _ _ _ h
  cases h
  exact absurd htoken Bool.false_ne_true

theorem expression_of_tighter
    {level next : Level} {expr : Expr} {front rest : List Lexeme} {fuel : Nat}
    (hnext : level.tighter? = some next)
    (hopens : StartsWith (Token.beginsExpression next) (front.map Lexeme.token))
    (hfuel : 0 < fuel)
    (hexpr : expression fuel next.rank (front ++ rest) = .ok (expr, rest)) :
    expression (fuel + 1) level.rank (front ++ rest) = operators fuel level.rank expr rest := by
  have hrank := Level.rank_of_tighter hnext
  by_cases hnegation : level.rank = negationLevel
  · have hlevel := Level.eq_negation_of_rank hnegation
    subst hlevel
    cases hnext
    rw [hrank, hnegation] at hexpr
    rw [hnegation,
      operators_of_level_ne hfuel fun _ _ operator _ => level_ne_negationLevel operator, ← hexpr]
    refine expression_negationLevel (hopens.imp fun token htoken => ?_)
    simpa [Token.beginsExpression, Level.rank, negationLevel] using htoken
  · have hpath : ¬pathLevel ≤ level.rank := by
      have hle := next.rank_le_pathLevel
      omega
    rw [hrank] at hexpr
    unfold expression
    dsimp only
    rw [if_neg hpath, if_neg hnegation, hexpr, ok_bind]

theorem accepts_tighter
    {level next : Level} {expr : Expr} {front : List Lexeme}
    (hnext : level.tighter? = some next)
    (hopens : StartsWith (Token.beginsExpression next) (front.map Lexeme.token))
    (h : Accepts (.expression next expr) front) :
    Accepts (.expression level expr) front := by
  intro fuel rest hfuel hends
  have hrank := Level.rank_of_tighter hnext
  have hle : next.rank ≤ 8 := next.rank_le_pathLevel
  have hlength : 0 < front.length := by simpa using hopens.length_pos
  obtain ⟨fuel, rfl⟩ : ∃ n, fuel = n + 1 := ⟨fuel - 1, by omega⟩
  rw [← hrank] at hends
  have hexpr := h.expression_eq_ok fuel rest (by omega) hends
  exact ⟨fuel, by omega, expression_of_tighter hnext hopens (by omega) hexpr⟩

theorem accepts_binary
    {level next : Level} {operator : BinaryOperator} {left right : Expr}
    {front back : List Lexeme} {sign : Lexeme}
    (hsign : sign.token = .operator operator)
    (hoperator : operator ∈ level.operators)
    (hnext : level.tighter? = some next)
    (hleft : Accepts (.expression level left) front)
    (hright : Accepts (.expression next right) back) :
    Accepts (.expression level (.binary operator left right)) (front ++ sign :: back) := by
  intro fuel rest hfuel hends
  have hrank := Level.rank_of_tighter hnext
  have hlevel := Level.mem_operators_iff.mp hoperator
  have hle : next.rank ≤ 8 := next.rank_le_pathLevel
  rw [List.length_append, List.length_cons] at hfuel
  have hendsSign : Ends (level.rank + 1) (sign :: (back ++ rest)) := by
    rintro _ ⟨⟩
    rw [hsign]
    exact Nat.lt_succ_of_le (Nat.le_of_eq hlevel)
  obtain ⟨remaining, hremaining, hfirst⟩ :=
    hleft fuel (sign :: (back ++ rest)) (by omega) hendsSign
  obtain ⟨remaining, rfl⟩ : ∃ n, remaining = n + 1 := ⟨remaining - 1, by omega⟩
  rw [← hrank] at hends
  have hsecond := hright.expression_eq_ok remaining rest (by omega) hends
  refine ⟨remaining, ?_, ?_⟩
  · rw [List.length_append, List.length_cons]
    omega
  · rw [List.append_assoc, List.cons_append, hfirst]
    obtain ⟨_, offset, head⟩ := sign
    subst hsign
    rw [operators, if_pos hlevel, ← hrank, hsecond, ok_bind]

theorem accepts_negate {operand : Expr} {front : List Lexeme} {sign : Lexeme}
    (hsign : sign.token = .operator (.arithmetic .subtract))
    (h : Accepts (.expression .negation operand) front) :
    Accepts (.expression .negation (.negate operand)) (sign :: front) := by
  intro fuel rest hfuel hends
  simp only [List.length_cons, Level.rank] at hfuel hends ⊢
  obtain ⟨fuel, rfl⟩ : ∃ n, fuel = n + 1 := ⟨fuel - 1, by omega⟩
  obtain ⟨remaining, hremaining, hoperand⟩ := h fuel rest (by simp only [Level.rank]; omega) hends
  have hstop : ∀ {fuel : Nat} (expr : Expr), 0 < fuel →
      operators fuel negationLevel expr rest = .ok (expr, rest) := fun expr hfuel =>
    operators_of_level_ne hfuel fun _ _ operator _ => level_ne_negationLevel operator
  change expression fuel negationLevel _ = operators remaining negationLevel _ _ at hoperand
  refine ⟨fuel, by omega, ?_⟩
  obtain ⟨_, offset, head⟩ := sign
  subst hsign
  change expression (fuel + 1) negationLevel _ = operators fuel negationLevel _ _
  rw [hstop _ (by omega), List.cons_append, expression, if_neg (by decide), if_pos rfl, hoperand,
    hstop _ (by omega)]
  rfl

/-! ### Paths -/

theorem Ends.atPathLevel {rank : Nat} {rest : List Lexeme} (h : Ends rank rest) :
    Ends pathLevel rest := by
  intro lexeme hlexeme
  have hfollows := h lexeme hlexeme
  cases htoken : lexeme.token <;> simp only [htoken, Token.Follows] at hfollows ⊢
  exact level_lt_pathLevel _

theorem accepts_of_path {expr : Expr} {front : List Lexeme}
    (hlength : 0 < front.length)
    (h : ∀ fuel rest, 24 * front.length ≤ fuel + 1 → Ends pathLevel rest →
      path (fuel + 1) (front ++ rest) = .ok (expr, rest)) :
    Accepts (.expression .path expr) front := by
  intro fuel rest hfuel hends
  simp only [Level.rank] at hfuel hends ⊢
  obtain ⟨fuel, rfl⟩ : ∃ n, fuel = n + 2 := ⟨fuel - 2, by omega⟩
  have hstop : operators (fuel + 1) 8 expr rest = .ok (expr, rest) :=
    operators_of_ends (Nat.succ_pos _) hends.atPathLevel
  refine ⟨fuel + 1, by omega, ?_⟩
  rw [hstop]
  unfold expression
  dsimp only
  rw [if_pos (by decide), h fuel rest (by omega) hends.atPathLevel]

theorem accepts_root {slash : Lexeme} (hslash : slash.token = .slash) :
    Accepts (.expression .path (.path .root [])) [slash] := by
  refine accepts_of_path (Nat.succ_pos _) fun fuel rest _ hends => ?_
  obtain ⟨_, offset, head⟩ := slash
  subst hslash
  rw [List.singleton_append, path, hends.startsStep_eq_false]
  rfl

theorem startsStep_of_beginsStep {front : List Lexeme} (rest : List Lexeme)
    (hopens : StartsWith Token.beginsStep (front.map Lexeme.token)) :
    startsStep (front ++ rest) = true := by
  obtain ⟨token, _, hfront, htoken⟩ := hopens
  obtain ⟨⟨_, offset, head⟩, others, rfl, rfl, -⟩ := List.map_eq_cons_iff.mp hfront
  dsimp only at htoken
  revert htoken
  unfold Token.beginsStep Token.beginsTest
  split <;> first | exact fun _ => rfl | skip
  split <;> first | exact fun _ => rfl | exact fun h => absurd h Bool.false_ne_true

theorem accepts_absolute {steps : List Step} {front : List Lexeme} {slash : Lexeme}
    (hslash : slash.token = .slash)
    (hopens : StartsWith Token.beginsStep (front.map Lexeme.token))
    (h : Accepts (.steps steps) front) :
    Accepts (.expression .path (.path .root steps)) (slash :: front) := by
  refine accepts_of_path (Nat.succ_pos _) fun fuel rest hfuel hends => ?_
  rw [List.length_cons] at hfuel
  obtain ⟨_, offset, head⟩ := slash
  subst hslash
  rw [List.cons_append, path, startsStep_of_beginsStep rest hopens, if_pos rfl,
    h fuel rest (by omega) hends, ok_bind]

theorem accepts_absoluteAnyDepth {steps : List Step} {front : List Lexeme} {slashes : Lexeme}
    (hslashes : slashes.token = .doubleSlash) (h : Accepts (.steps steps) front) :
    Accepts (.expression .path (.path .root (.anyDepth :: steps))) (slashes :: front) := by
  refine accepts_of_path (Nat.succ_pos _) fun fuel rest hfuel hends => ?_
  rw [List.length_cons] at hfuel
  obtain ⟨_, offset, head⟩ := slashes
  subst hslashes
  rw [List.cons_append, path, h fuel rest (by omega) hends, ok_bind]

theorem path_of_beginsStep {fuel : Nat} {front rest : List Lexeme}
    (hopens : StartsWith Token.beginsStep (front.map Lexeme.token)) :
    path (fuel + 1) (front ++ rest) = (do
      let (taken, rest) ← steps fuel (front ++ rest)
      .ok (.path .context taken, rest)) := by
  obtain ⟨token, _, hfront, htoken⟩ := hopens
  obtain ⟨⟨_, offset, head⟩, others, rfl, rfl, -⟩ := List.map_eq_cons_iff.mp hfront
  rw [path]
  all_goals
    intros
    rename_i h
    cases h
    exact absurd htoken Bool.false_ne_true

theorem accepts_relative {steps : List Step} {front : List Lexeme}
    (hopens : StartsWith Token.beginsStep (front.map Lexeme.token))
    (h : Accepts (.steps steps) front) :
    Accepts (.expression .path (.path .context steps)) front := by
  have hlength : 0 < front.length := by simpa using hopens.length_pos
  refine accepts_of_path hlength fun fuel rest hfuel hends => ?_
  rw [path_of_beginsStep hopens, h fuel rest hfuel hends, ok_bind]

theorem accepts_filtered {primary : Expr} {passing : List Expr} {front back : List Lexeme}
    (hlength : 0 < front.length)
    (hprimary : Accepts (.primary primary) front)
    (hpassing : Accepts (.predicates passing) back) :
    Accepts (.expression .path (primary.filteredBy passing)) (front ++ back) := by
  refine accepts_of_path ?_ fun fuel rest hfuel hends => ?_
  · rw [List.length_append]
    omega
  · rw [List.length_append] at hfuel
    obtain ⟨fuel, rfl⟩ : ∃ n, fuel = n + 1 := ⟨fuel - 1, by omega⟩
    rw [List.append_assoc, hprimary _ _ (by omega), filtered_succ,
      hpassing fuel rest (by omega) hends.noPredicate, ok_bind]
    dsimp only
    rw [hends.separator?_eq_none]

theorem accepts_continued {primary : Expr} {passing : List Expr} {implied steps : List Step}
    {front filters back : List Lexeme} {separator : Lexeme}
    (hlength : 0 < front.length)
    (hprimary : Accepts (.primary primary) front)
    (hpassing : Accepts (.predicates passing) filters)
    (hseparator : Separates separator.token implied)
    (hsteps : Accepts (.steps steps) back) :
    Accepts
      (.expression .path (.path (.filter (primary.filteredBy passing)) (implied ++ steps)))
      (front ++ filters ++ separator :: back) := by
  refine accepts_of_path ?_ fun fuel rest hfuel hends => ?_
  · simp only [List.length_append]
    omega
  · simp only [List.length_append, List.length_cons] at hfuel
    obtain ⟨fuel, rfl⟩ : ∃ n, fuel = n + 1 := ⟨fuel - 1, by omega⟩
    rw [List.append_assoc, List.append_assoc, List.cons_append, hprimary _ _ (by omega),
      filtered_succ,
      hpassing fuel _ (by omega) (noPredicate_of_separates hseparator _), ok_bind]
    dsimp only
    rw [separator?_of_separates hseparator]
    dsimp only
    rw [hsteps fuel rest (by omega) hends, ok_bind]

/-! ### Primary expressions -/

theorem expect_of_token {token : Token} {lexeme : Lexeme} (h : lexeme.token = token)
    (rest : List Lexeme) : expect token (lexeme :: rest) = .ok rest :=
  expect_eq_ok_iff.mpr ⟨lexeme, h, rfl⟩

theorem accepts_parenthesized {expr : Expr} {front : List Lexeme} {opening closing : Lexeme}
    (hopening : opening.token = .leftParen) (hclosing : closing.token = .rightParen)
    (h : Accepts (.expression .disjunction expr) front) :
    Accepts (.primary expr) (opening :: (front ++ [closing])) := by
  intro fuel rest hfuel
  simp only [List.length_cons, List.length_append, List.length_nil] at hfuel
  have hexpr := h.disjunction_eq_ok fuel (closing :: rest) (by omega)
    (ends_of_closing rest (.inl hclosing))
  obtain ⟨_, offset, head⟩ := opening
  subst hopening
  rw [List.cons_append, List.append_assoc, List.singleton_append, path]
  rw [hexpr, ok_bind]
  dsimp only
  rw [expect_of_token hclosing, ok_bind]

theorem accepts_literal {value : String} {lexeme : Lexeme}
    (hlexeme : lexeme.token = .literal value) :
    Accepts (.primary (.literal value)) [lexeme] := by
  intro fuel rest _
  obtain ⟨_, offset, head⟩ := lexeme
  subst hlexeme
  rw [List.singleton_append, path]

theorem accepts_number {digits : String} {lexeme : Lexeme}
    (hlexeme : lexeme.token = .number digits) :
    Accepts (.primary (.number (numeralValue false digits.toList))) [lexeme] := by
  intro fuel rest _
  obtain ⟨_, offset, head⟩ := lexeme
  subst hlexeme
  rw [List.singleton_append, path]

theorem accepts_call {name : String} {function : CoreFunction} {values : List Expr}
    {front : List Lexeme} {lexeme opening closing : Lexeme}
    (hlexeme : lexeme.token = .functionName name) (hopening : opening.token = .leftParen)
    (hclosing : closing.token = .rightParen)
    (hname : CoreFunction.ofName? name = some function)
    (haccepts : function.accepts values.length = true)
    (h : Accepts (.arguments values) front) :
    Accepts (.primary (.call function values)) (lexeme :: opening :: (front ++ [closing])) := by
  intro fuel rest hfuel
  simp only [List.length_cons, List.length_append, List.length_nil] at hfuel
  obtain ⟨_, offset, head⟩ := lexeme
  subst hlexeme
  rw [List.cons_append, List.cons_append, List.append_assoc, List.singleton_append, path,
    expect_of_token hopening, ok_bind, h fuel closing rest (by omega) hclosing, ok_bind]
  dsimp only
  rw [call_eq_ok_iff.mpr ⟨function, hname, haccepts, rfl⟩, ok_bind]

theorem accepts_noArguments : Accepts (.arguments []) [] := by
  intro fuel closing rest hfuel hclosing
  obtain ⟨fuel, rfl⟩ : ∃ n, fuel = n + 1 := ⟨fuel - 1, by omega⟩
  obtain ⟨_, offset, head⟩ := closing
  subst hclosing
  rw [List.nil_append, arguments]

theorem arguments_of_beginsExpression {fuel : Nat} {front rest : List Lexeme}
    (hopens : StartsWith (Token.beginsExpression .disjunction) (front.map Lexeme.token)) :
    arguments (fuel + 1) (front ++ rest) = argumentList fuel (front ++ rest) := by
  obtain ⟨token, _, hfront, htoken⟩ := hopens
  obtain ⟨⟨_, offset, head⟩, others, rfl, rfl, -⟩ := List.map_eq_cons_iff.mp hfront
  rw [arguments]
  rintro _ _ _ h
  cases h
  exact absurd htoken Bool.false_ne_true

theorem accepts_someArguments {values : List Expr} {front : List Lexeme}
    (hopens : StartsWith (Token.beginsExpression .disjunction) (front.map Lexeme.token))
    (h : Accepts (.argumentList values) front) :
    Accepts (.arguments values) front := by
  intro fuel closing rest hfuel hclosing
  obtain ⟨fuel, rfl⟩ : ∃ n, fuel = n + 1 := ⟨fuel - 1, by omega⟩
  rw [arguments_of_beginsExpression hopens, h fuel closing rest (by omega) hclosing]

theorem accepts_lastArgument {value : Expr} {front : List Lexeme}
    (h : Accepts (.expression .disjunction value) front) :
    Accepts (.argumentList [value]) front := by
  intro fuel closing rest hfuel hclosing
  obtain ⟨fuel, rfl⟩ : ∃ n, fuel = n + 1 := ⟨fuel - 1, by omega⟩
  have hvalue := h.disjunction_eq_ok fuel (closing :: rest) (by omega)
    (ends_of_closing rest (.inl hclosing))
  obtain ⟨_, offset, head⟩ := closing
  subst hclosing
  rw [argumentList, hvalue, ok_bind]
  rfl

theorem accepts_nextArgument {value : Expr} {values : List Expr} {front back : List Lexeme}
    {comma : Lexeme} (hcomma : comma.token = .comma)
    (hfirst : Accepts (.expression .disjunction value) front)
    (hlater : Accepts (.argumentList values) back) :
    Accepts (.argumentList (value :: values)) (front ++ comma :: back) := by
  intro fuel closing rest hfuel hclosing
  simp only [List.length_append, List.length_cons] at hfuel
  obtain ⟨fuel, rfl⟩ : ∃ n, fuel = n + 1 := ⟨fuel - 1, by omega⟩
  have hvalue := hfirst.disjunction_eq_ok fuel (comma :: (back ++ closing :: rest)) (by omega)
    (ends_of_closing _ (.inr (.inr hcomma)))
  obtain ⟨_, offset, head⟩ := comma
  subst hcomma
  rw [List.append_assoc, List.cons_append, argumentList, hvalue, ok_bind]
  dsimp only
  rw [hlater fuel closing rest (by omega) hclosing, ok_bind]

/-! ### Steps -/

theorem accepts_lastStep {result : Step} {front : List Lexeme} (h : Accepts (.step result) front)
    (hlength : 0 < front.length) :
    Accepts (.steps [result]) front := by
  intro fuel rest hfuel hends
  obtain ⟨fuel, rfl⟩ : ∃ n, fuel = n + 1 := ⟨fuel - 1, by omega⟩
  rw [steps, h fuel rest (by omega) hends.noPredicate, ok_bind]
  dsimp only
  rw [hends.separator?_eq_none]

theorem accepts_nextStep {result : Step} {implied later : List Step} {front back : List Lexeme}
    {separator : Lexeme} (hseparator : Separates separator.token implied)
    (hfirst : Accepts (.step result) front) (hlater : Accepts (.steps later) back) :
    Accepts (.steps (result :: implied ++ later)) (front ++ separator :: back) := by
  intro fuel rest hfuel hends
  simp only [List.length_append, List.length_cons] at hfuel
  obtain ⟨fuel, rfl⟩ : ∃ n, fuel = n + 1 := ⟨fuel - 1, by omega⟩
  rw [List.append_assoc, List.cons_append, steps,
    hfirst fuel _ (by omega) (noPredicate_of_separates hseparator _), ok_bind]
  dsimp only
  rw [separator?_of_separates hseparator]
  dsimp only
  rw [hlater fuel rest (by omega) hends, ok_bind]

theorem accepts_selfStep {dot : Lexeme} (hdot : dot.token = .dot) :
    Accepts (.step (.all .self)) [dot] := by
  intro fuel rest hfuel _
  obtain ⟨fuel, rfl⟩ : ∃ n, fuel = n + 1 :=
    ⟨fuel - 1, by simp only [List.length_singleton] at hfuel; omega⟩
  obtain ⟨_, offset, head⟩ := dot
  subst hdot
  rw [List.singleton_append, step]

theorem accepts_parentStep {dots : Lexeme} (hdots : dots.token = .dotDot) :
    Accepts (.step (.all .parent)) [dots] := by
  intro fuel rest hfuel _
  obtain ⟨fuel, rfl⟩ : ∃ n, fuel = n + 1 :=
    ⟨fuel - 1, by simp only [List.length_singleton] at hfuel; omega⟩
  obtain ⟨_, offset, head⟩ := dots
  subst hdots
  rw [List.singleton_append, step]

/-- The test and the predicates of a step on any axis. -/
theorem tested_eq_ok {axis : Axis} {test : NodeTest} {passing : List Expr}
    {front back rest : List Lexeme} {fuel : Nat}
    (htest : Accepts (.test test) front) (hpassing : Accepts (.predicates passing) back)
    (hfuel : 24 * back.length + 2 ≤ fuel) (hrest : NoPredicate rest) :
    tested fuel axis (front ++ (back ++ rest)) = .ok (.mk axis test passing, rest) := by
  obtain ⟨fuel, rfl⟩ : ∃ n, fuel = n + 1 := ⟨fuel - 1, by omega⟩
  rw [tested, htest, ok_bind]
  dsimp only
  rw [hpassing fuel rest (by omega) hrest, ok_bind]

theorem step_of_beginsTest {fuel : Nat} {front rest : List Lexeme}
    (hopens : StartsWith Token.beginsTest (front.map Lexeme.token)) :
    step (fuel + 1) (front ++ rest) = tested fuel .child (front ++ rest) := by
  obtain ⟨token, _, hfront, htoken⟩ := hopens
  obtain ⟨⟨_, offset, head⟩, others, rfl, rfl, -⟩ := List.map_eq_cons_iff.mp hfront
  rw [step]
  all_goals
    intros
    rename_i h
    cases h
    exact absurd htoken Bool.false_ne_true

theorem accepts_childStep {test : NodeTest} {passing : List Expr} {front back : List Lexeme}
    (hopens : StartsWith Token.beginsTest (front.map Lexeme.token))
    (htest : Accepts (.test test) front) (hpassing : Accepts (.predicates passing) back) :
    Accepts (.step (.mk .child test passing)) (front ++ back) := by
  intro fuel rest hfuel hrest
  have hlength : 0 < front.length := by simpa using hopens.length_pos
  rw [List.length_append] at hfuel
  obtain ⟨fuel, rfl⟩ : ∃ n, fuel = n + 1 := ⟨fuel - 1, by omega⟩
  rw [List.append_assoc, step_of_beginsTest hopens,
    tested_eq_ok htest hpassing (by omega) hrest]

theorem accepts_attributeStep {test : NodeTest} {passing : List Expr} {front back : List Lexeme}
    {sign : Lexeme} (hsign : sign.token = .atSign)
    (htest : Accepts (.test test) front) (hpassing : Accepts (.predicates passing) back) :
    Accepts (.step (.mk .attributes test passing)) (sign :: (front ++ back)) := by
  intro fuel rest hfuel hrest
  rw [List.length_cons, List.length_append] at hfuel
  obtain ⟨fuel, rfl⟩ : ∃ n, fuel = n + 1 := ⟨fuel - 1, by omega⟩
  obtain ⟨_, offset, head⟩ := sign
  subst hsign
  rw [List.cons_append, List.append_assoc, step, tested_eq_ok htest hpassing (by omega) hrest]

theorem accepts_axisStep {name : String} {axis : Axis} {test : NodeTest} {passing : List Expr}
    {front back : List Lexeme} {lexeme mark : Lexeme}
    (hlexeme : lexeme.token = .axisName name) (hmark : mark.token = .axisMark)
    (haxis : Axis.ofName? name = some axis)
    (htest : Accepts (.test test) front) (hpassing : Accepts (.predicates passing) back) :
    Accepts (.step (.mk axis test passing)) (lexeme :: mark :: (front ++ back)) := by
  intro fuel rest hfuel hrest
  simp only [List.length_cons, List.length_append] at hfuel
  obtain ⟨fuel, rfl⟩ : ∃ n, fuel = n + 1 := ⟨fuel - 1, by omega⟩
  obtain ⟨_, offset, head⟩ := lexeme
  subst hlexeme
  rw [List.cons_append, List.cons_append, List.append_assoc, step, haxis]
  dsimp only
  rw [expect_of_token hmark, ok_bind, tested_eq_ok htest hpassing (by omega) hrest]

/-! ### Tests and predicates -/

theorem accepts_nameTest {qualifier localName : Option String} {lexeme : Lexeme}
    (hlexeme : lexeme.token = .nameTest qualifier localName) :
    Accepts (.test (.name qualifier localName)) [lexeme] := by
  intro rest
  obtain ⟨_, offset, head⟩ := lexeme
  subst hlexeme
  rfl

/-- The test for a kind of nodes without a target. -/
def testOfType : NodeType → NodeTest
  | .text => .text
  | .comment => .comment
  | .instruction => .instruction none
  | .any => .any

theorem accepts_typeTest {type : NodeType} {lexeme opening closing : Lexeme}
    (hlexeme : lexeme.token = .nodeType type) (hopening : opening.token = .leftParen)
    (hclosing : closing.token = .rightParen) :
    Accepts (.test (testOfType type)) [lexeme, opening, closing] := by
  intro rest
  obtain ⟨_, offset, head⟩ := lexeme
  obtain ⟨_, _, _⟩ := closing
  subst hlexeme hclosing
  change typeTest type (opening :: _ :: rest) = _
  rw [typeTest, expect_of_token hopening, ok_bind]
  cases type <;> rfl

theorem accepts_typeTest_of_tokens (type : NodeType) (lexemes : List Lexeme)
    (hlexemes : lexemes.map Lexeme.token = [.nodeType type, .leftParen, .rightParen]) :
    Accepts (.test (testOfType type)) lexemes := by
  obtain ⟨lexeme, _, rfl, hlexeme, hrest⟩ := List.map_eq_cons_iff.mp hlexemes
  obtain ⟨opening, _, rfl, hopening, hrest⟩ := List.map_eq_cons_iff.mp hrest
  obtain ⟨closing, rfl, hclosing⟩ := List.map_eq_singleton_iff.mp hrest
  exact accepts_typeTest hlexeme hopening hclosing

theorem accepts_targetTest {target : String} {lexeme opening name closing : Lexeme}
    (hlexeme : lexeme.token = .nodeType .instruction) (hopening : opening.token = .leftParen)
    (hname : name.token = .literal target) (hclosing : closing.token = .rightParen) :
    Accepts (.test (.instruction (some target))) [lexeme, opening, name, closing] := by
  intro rest
  obtain ⟨_, offset, head⟩ := lexeme
  obtain ⟨_, _, _⟩ := name
  subst hlexeme hname
  change typeTest .instruction (opening :: _ :: closing :: rest) = _
  rw [typeTest, expect_of_token hopening, ok_bind]
  dsimp only
  rw [expect_of_token hclosing, ok_bind]

theorem accepts_noPredicates : Accepts (.predicates []) [] := by
  intro fuel rest hfuel hrest
  obtain ⟨fuel, rfl⟩ : ∃ n, fuel = n + 1 := ⟨fuel - 1, by omega⟩
  rw [List.nil_append]
  unfold predicates
  dsimp only
  split
  · exact absurd rfl (hrest _ rfl)
  · rfl

theorem accepts_predicate {first : Expr} {later : List Expr} {front back : List Lexeme}
    {opening closing : Lexeme}
    (hopening : opening.token = .leftBracket) (hclosing : closing.token = .rightBracket)
    (hfirst : Accepts (.expression .disjunction first) front)
    (hlater : Accepts (.predicates later) back) :
    Accepts (.predicates (first :: later)) (opening :: (front ++ closing :: back)) := by
  intro fuel rest hfuel hrest
  simp only [List.length_cons, List.length_append] at hfuel
  obtain ⟨fuel, rfl⟩ : ∃ n, fuel = n + 1 := ⟨fuel - 1, by omega⟩
  have hexpr := hfirst.disjunction_eq_ok fuel (closing :: (back ++ rest)) (by omega)
    (ends_of_closing _ (.inr (.inl hclosing)))
  obtain ⟨_, offset, head⟩ := opening
  subst hopening
  rw [List.cons_append, List.append_assoc, List.cons_append, predicates, hexpr, ok_bind]
  dsimp only
  rw [expect_of_token hclosing, ok_bind, hlater fuel rest (by omega) hrest, ok_bind]

/-! ## All phrases -/

theorem length_pos_of_opens {test : Token → Bool} {front : List Lexeme}
    (h : StartsWith test (front.map Lexeme.token)) : 0 < front.length := by
  simpa using h.length_pos

/-- The parser takes every phrase. -/
theorem accepts_of_derives {phrase : Phrase} {ts : List Token} (h : Derives phrase ts) :
    ∀ front : List Lexeme, front.map Lexeme.token = ts → Accepts phrase front := by
  induction h with
  | tighter hnext hexpr ih =>
      rintro front rfl
      exact accepts_tighter hnext hexpr.opens (ih front rfl)
  | binary hoperator hnext _ _ ihleft ihright =>
      intro lexemes hlexemes
      obtain ⟨front, _, rfl, hfront, hrest⟩ := List.map_eq_append_iff.mp hlexemes
      obtain ⟨sign, back, rfl, hsign, hback⟩ := List.map_eq_cons_iff.mp hrest
      exact accepts_binary hsign hoperator hnext (ihleft front hfront) (ihright back hback)
  | negate _ ih =>
      intro lexemes hlexemes
      obtain ⟨sign, front, rfl, hsign, hfront⟩ := List.map_eq_cons_iff.mp hlexemes
      exact accepts_negate hsign (ih front hfront)
  | root =>
      intro lexemes hlexemes
      obtain ⟨slash, _, rfl, hslash, hnil⟩ := List.map_eq_cons_iff.mp hlexemes
      rw [List.map_eq_nil_iff.mp hnil]
      exact accepts_root hslash
  | absolute hsteps ih =>
      intro lexemes hlexemes
      obtain ⟨slash, front, rfl, hslash, rfl⟩ := List.map_eq_cons_iff.mp hlexemes
      exact accepts_absolute hslash hsteps.opens (ih front rfl)
  | absoluteAnyDepth _ ih =>
      intro lexemes hlexemes
      obtain ⟨slashes, front, rfl, hslashes, hfront⟩ := List.map_eq_cons_iff.mp hlexemes
      exact accepts_absoluteAnyDepth hslashes (ih front hfront)
  | relative hsteps ih =>
      rintro front rfl
      exact accepts_relative hsteps.opens (ih front rfl)
  | filtered hprimary _ ihprimary ihpredicates =>
      intro lexemes hlexemes
      obtain ⟨front, back, rfl, rfl, hback⟩ := List.map_eq_append_iff.mp hlexemes
      exact accepts_filtered (length_pos_of_opens hprimary.opens) (ihprimary front rfl)
        (ihpredicates back hback)
  | continued hprimary _ hseparates _ ihprimary ihpredicates ihsteps =>
      intro lexemes hlexemes
      obtain ⟨_, _, rfl, hfirst, hrest⟩ := List.map_eq_append_iff.mp hlexemes
      obtain ⟨front, filters, rfl, rfl, hfilters⟩ := List.map_eq_append_iff.mp hfirst
      obtain ⟨separator, back, rfl, rfl, hback⟩ := List.map_eq_cons_iff.mp hrest
      exact accepts_continued (length_pos_of_opens hprimary.opens) (ihprimary front rfl)
        (ihpredicates filters hfilters) hseparates (ihsteps back hback)
  | parenthesized _ ih =>
      intro lexemes hlexemes
      obtain ⟨opening, _, rfl, hopening, hrest⟩ := List.map_eq_cons_iff.mp hlexemes
      obtain ⟨front, _, rfl, hfront, hlast⟩ := List.map_eq_append_iff.mp hrest
      obtain ⟨closing, rfl, hclosing⟩ := List.map_eq_singleton_iff.mp hlast
      exact accepts_parenthesized hopening hclosing (ih front hfront)
  | literal =>
      intro lexemes hlexemes
      obtain ⟨lexeme, rfl, hlexeme⟩ := List.map_eq_singleton_iff.mp hlexemes
      exact accepts_literal hlexeme
  | number =>
      intro lexemes hlexemes
      obtain ⟨lexeme, rfl, hlexeme⟩ := List.map_eq_singleton_iff.mp hlexemes
      exact accepts_number hlexeme
  | call hname haccepts _ ih =>
      intro lexemes hlexemes
      obtain ⟨lexeme, _, rfl, hlexeme, hrest⟩ := List.map_eq_cons_iff.mp hlexemes
      obtain ⟨opening, _, rfl, hopening, hrest⟩ := List.map_eq_cons_iff.mp hrest
      obtain ⟨front, _, rfl, hfront, hlast⟩ := List.map_eq_append_iff.mp hrest
      obtain ⟨closing, rfl, hclosing⟩ := List.map_eq_singleton_iff.mp hlast
      exact accepts_call hlexeme hopening hclosing hname haccepts (ih front hfront)
  | noArguments =>
      intro lexemes hlexemes
      rw [List.map_eq_nil_iff.mp hlexemes]
      exact accepts_noArguments
  | someArguments hvalues ih =>
      rintro front rfl
      exact accepts_someArguments hvalues.opens (ih front rfl)
  | lastArgument _ ih =>
      intro front hfront
      exact accepts_lastArgument (ih front hfront)
  | nextArgument _ _ ihfirst ihlater =>
      intro lexemes hlexemes
      obtain ⟨front, _, rfl, hfront, hrest⟩ := List.map_eq_append_iff.mp hlexemes
      obtain ⟨comma, back, rfl, hcomma, hback⟩ := List.map_eq_cons_iff.mp hrest
      exact accepts_nextArgument hcomma (ihfirst front hfront) (ihlater back hback)
  | lastStep hstep ih =>
      rintro front rfl
      exact accepts_lastStep (ih front rfl) (length_pos_of_opens hstep.opens)
  | nextStep _ hseparates _ ihfirst ihlater =>
      intro lexemes hlexemes
      obtain ⟨front, _, rfl, hfront, hrest⟩ := List.map_eq_append_iff.mp hlexemes
      obtain ⟨separator, back, rfl, rfl, hback⟩ := List.map_eq_cons_iff.mp hrest
      exact accepts_nextStep hseparates (ihfirst front hfront) (ihlater back hback)
  | selfStep =>
      intro lexemes hlexemes
      obtain ⟨dot, rfl, hdot⟩ := List.map_eq_singleton_iff.mp hlexemes
      exact accepts_selfStep hdot
  | parentStep =>
      intro lexemes hlexemes
      obtain ⟨dots, rfl, hdots⟩ := List.map_eq_singleton_iff.mp hlexemes
      exact accepts_parentStep hdots
  | childStep htest _ ihtest ihpredicates =>
      intro lexemes hlexemes
      obtain ⟨front, back, rfl, rfl, hback⟩ := List.map_eq_append_iff.mp hlexemes
      exact accepts_childStep htest.opens (ihtest front rfl) (ihpredicates back hback)
  | attributeStep _ _ ihtest ihpredicates =>
      intro lexemes hlexemes
      obtain ⟨sign, _, rfl, hsign, hrest⟩ := List.map_eq_cons_iff.mp hlexemes
      obtain ⟨front, back, rfl, hfront, hback⟩ := List.map_eq_append_iff.mp hrest
      exact accepts_attributeStep hsign (ihtest front hfront) (ihpredicates back hback)
  | axisStep haxis _ _ ihtest ihpredicates =>
      intro lexemes hlexemes
      obtain ⟨lexeme, _, rfl, hlexeme, hrest⟩ := List.map_eq_cons_iff.mp hlexemes
      obtain ⟨mark, _, rfl, hmark, hrest⟩ := List.map_eq_cons_iff.mp hrest
      obtain ⟨front, back, rfl, hfront, hback⟩ := List.map_eq_append_iff.mp hrest
      exact accepts_axisStep hlexeme hmark haxis (ihtest front hfront) (ihpredicates back hback)
  | nameTest =>
      intro lexemes hlexemes
      obtain ⟨lexeme, rfl, hlexeme⟩ := List.map_eq_singleton_iff.mp hlexemes
      exact accepts_nameTest hlexeme
  | textTest => exact accepts_typeTest_of_tokens .text
  | commentTest => exact accepts_typeTest_of_tokens .comment
  | anyTest => exact accepts_typeTest_of_tokens .any
  | instructionTest => exact accepts_typeTest_of_tokens .instruction
  | targetTest =>
      intro lexemes hlexemes
      obtain ⟨lexeme, _, rfl, hlexeme, hrest⟩ := List.map_eq_cons_iff.mp hlexemes
      obtain ⟨opening, _, rfl, hopening, hrest⟩ := List.map_eq_cons_iff.mp hrest
      obtain ⟨name, _, rfl, hname, hrest⟩ := List.map_eq_cons_iff.mp hrest
      obtain ⟨closing, rfl, hclosing⟩ := List.map_eq_singleton_iff.mp hrest
      exact accepts_targetTest hlexeme hopening hname hclosing
  | noPredicates =>
      intro lexemes hlexemes
      rw [List.map_eq_nil_iff.mp hlexemes]
      exact accepts_noPredicates
  | predicate _ _ ihfirst ihlater =>
      intro lexemes hlexemes
      obtain ⟨opening, _, rfl, hopening, hrest⟩ := List.map_eq_cons_iff.mp hlexemes
      obtain ⟨front, _, rfl, hfront, hrest⟩ := List.map_eq_append_iff.mp hrest
      obtain ⟨closing, back, rfl, hclosing, hback⟩ := List.map_eq_cons_iff.mp hrest
      exact accepts_predicate hopening hclosing (ihfirst front hfront) (ihlater back hback)

theorem parseTokens_of_derives {lexemes : List Lexeme} {expr : Expr}
    (hderives : Derives (.expression .disjunction expr) (lexemes.map Lexeme.token)) :
    parseTokens lexemes = .ok expr := by
  have haccepts := accepts_of_derives hderives lexemes rfl
  have hends : Ends 0 [] := by
    rintro _ ⟨⟩
  have hexpr := haccepts.disjunction_eq_ok (fuelFor lexemes.length) []
    (by simp only [fuelFor]; omega) hends
  rw [List.append_nil] at hexpr
  rw [parseTokens, hexpr, ok_bind]
  rfl

/-- A path is an expression of every level, the loosest one included. -/
theorem parseTokens_of_derives_path {lexemes : List Lexeme} {expr : Expr}
    (hpath : Derives (.expression .path expr) (lexemes.map Lexeme.token)) :
    parseTokens lexemes = .ok expr := by
  apply parseTokens_of_derives
  exact .tighter rfl (.tighter rfl (.tighter rfl (.tighter rfl (.tighter rfl (.tighter rfl
    (.tighter rfl (.tighter rfl hpath)))))))

/-- The parser makes an expression of a list of tokens, and leaves none over, exactly when the
grammar derives the expression from the tokens. -/
theorem parseTokens_eq_ok_iff_derives (lexemes : List Lexeme) (expr : Expr) :
    parseTokens lexemes = .ok expr ↔
      Derives (.expression .disjunction expr) (lexemes.map Lexeme.token) :=
  ⟨derives_of_parseTokens, parseTokens_of_derives⟩

end Parser
end Locator
end RecordExtraction
