import Mathlib
import RecordExtraction.Proofs.Locator.DocumentOrder
import RecordExtraction.Proofs.Locator.GrammarSoundness
import RecordExtraction.Proofs.Locator.Kind

/-!
# Evaluation keeps to the kinds of expressions

The value of an expression is of the kind of the expression.  What the parser makes calls functions
with as many arguments as they take, so that evaluating it can go wrong in one way: something that
has to be a set of items is not.  This never happens to an expression whose operands denote sets of
items wherever these are needed, which can be read off the expression.
-/

namespace RecordExtraction
namespace Locator

open Markup

mutual

/-- The expression passes the test and so does every expression inside it. -/
def Expr.throughout (test : Expr → Bool) : Expr → Bool
  | .binary operator left right =>
      test (.binary operator left right) && left.throughout test && right.throughout test
  | .negate operand => test (.negate operand) && operand.throughout test
  | .literal value => test (.literal value)
  | .number value => test (.number value)
  | .call function arguments =>
      test (.call function arguments) && throughoutAll test arguments
  | .filter primary predicates =>
      test (.filter primary predicates) && primary.throughout test &&
        throughoutAll test predicates
  | .path start steps =>
      test (.path start steps) && start.throughout test && throughoutSteps test steps

def throughoutAll (test : Expr → Bool) : List Expr → Bool
  | [] => true
  | expr :: rest => expr.throughout test && throughoutAll test rest

def Start.throughout (test : Expr → Bool) : Start → Bool
  | .root | .context => true
  | .filter primary => primary.throughout test

def Step.throughout (test : Expr → Bool) : Step → Bool
  | .mk _ _ predicates => throughoutAll test predicates

def throughoutSteps (test : Expr → Bool) : List Step → Bool
  | [] => true
  | step :: rest => step.throughout test && throughoutSteps test rest

end

/-- The arguments of the function, if there are any, have to be sets of items. -/
def CoreFunction.takesNodes : CoreFunction → Bool
  | count | sum | localName | namespaceUri | name => Bool.true
  | _ => Bool.false

/-- Where a path begins there are items. -/
def Start.fits : Start → Bool
  | filter primary => primary.kind = .nodes
  | root | context => true

namespace Expr

/-- A call has as many arguments as its function takes. -/
def callAccepted : Expr → Bool
  | call function arguments => function.accepts arguments.length
  | _ => true

/-- The operands of the outermost form denote sets of items where these are needed. -/
def operandsFit : Expr → Bool
  | binary .union left right => left.kind = .nodes && right.kind = .nodes
  | call function arguments => !function.takesNodes || arguments.all (·.kind = .nodes)
  | filter primary _ => primary.kind = .nodes
  | path start _ => start.fits
  | _ => true

/-- Every operand of the expression denotes a set of items where one is needed, also inside
predicates. -/
def wellKinded (expr : Expr) : Bool :=
  expr.throughout operandsFit

end Expr

/-! ## The kinds of values -/

theorem Expr.kind_eval
    {document : Document} {expr : Expr} {context : Context} {value : Value}
    (hvalue : expr.eval document context = .ok value) :
    value.kind = expr.kind := by
  -- The outermost form makes the kind, whatever the values inside are.
  cases expr with
  | binary operator left right =>
      simp only [Expr.eval, bind_eq_ok_iff] at hvalue
      obtain ⟨l, -, hvalue⟩ := hvalue
      cases hdecided : decidedByLeft operator l with
      | some decided =>
          simp only [hdecided, Except.ok.injEq] at hvalue
          subst value
          exact kind_of_decidedByLeft hdecided
      | none =>
          simp only [hdecided, bind_eq_ok_iff] at hvalue
          obtain ⟨r, -, hcombine⟩ := hvalue
          exact kind_of_combine hcombine
  | call function arguments =>
      simp only [Expr.eval, bind_eq_ok_iff] at hvalue
      obtain ⟨values, -, happly⟩ := hvalue
      exact CoreFunction.kind_of_apply happly
  | literal _ | number _ =>
      simp only [Expr.eval, Except.ok.injEq] at hvalue
      subst value
      rfl
  | negate operand =>
      simp only [Expr.eval, bind_eq_ok_iff, Except.ok.injEq] at hvalue
      obtain ⟨_, _, rfl⟩ := hvalue
      rfl
  | filter primary predicates =>
      simp only [Expr.eval, bind_eq_ok_iff, Except.ok.injEq] at hvalue
      obtain ⟨_, _, _, _, _, _, rfl⟩ := hvalue
      rfl
  | path start steps =>
      simp only [Expr.eval, bind_eq_ok_iff, Except.ok.injEq] at hvalue
      obtain ⟨_, _, _, _, rfl⟩ := hvalue
      rfl

theorem kinds_of_evalAll
    {document : Document} {exprs : List Expr} {context : Context} {values : List Value}
    (hvalues : evalAll document exprs context = .ok values) :
    values.map Value.kind = exprs.map Expr.kind := by
  induction exprs generalizing values with
  | nil =>
      cases hvalues
      rfl
  | cons expr rest ih =>
      simp only [evalAll, bind_eq_ok_iff, Except.ok.injEq] at hvalues
      obtain ⟨value, hvalue, values, hrest, rfl⟩ := hvalues
      rw [List.map_cons, List.map_cons, Expr.kind_eval hvalue, ih hrest]

/-! ## The ways to fail -/

theorem Value.items_eq_error_iff {value : Value} {e : PathError} :
    value.items = .error e ↔ e = .notANodeSet ∧ value.kind ≠ .nodes := by
  cases value <;> simp [Value.items, Value.kind, eq_comm]

theorem error_of_combine
    {document : Document} {operator : BinaryOperator} {left right : Value} {e : PathError}
    (herror : combine document operator left right = .error e) :
    e = .notANodeSet ∧ operator = .union ∧ (left.kind ≠ .nodes ∨ right.kind ≠ .nodes) := by
  cases operator with
  | union =>
      simp only [combine, bind_eq_error_iff, Value.items_eq_error_iff, reduceCtorEq, and_false,
        exists_false, or_false] at herror
      rcases herror with ⟨rfl, hleft⟩ | ⟨_, -, rfl, hright⟩
      · exact ⟨rfl, rfl, .inl hleft⟩
      · exact ⟨rfl, rfl, .inr hright⟩
  | _ => cases herror

theorem error_of_items
    {value : Value} {result : List Item → Value} {e : PathError}
    (herror : (do .ok (result (← value.items))) = .error e) :
    e = .notANodeSet ∧ ∃ argument ∈ [value], argument.kind ≠ .nodes := by
  simp only [bind_eq_error_iff, Value.items_eq_error_iff, reduceCtorEq, and_false, exists_false,
    or_false] at herror
  exact ⟨herror.1, value, List.mem_singleton_self value, herror.2⟩

theorem error_of_describe
    {context : Context} {values : List Value} {property : Item → String} {e : PathError}
    (herror : describe context values property = .error e) :
    e = .notANodeSet ∧ ∃ value ∈ values, value.kind ≠ .nodes := by
  simp only [describe, bind_eq_error_iff, reduceCtorEq, and_false,
    exists_false, or_false] at herror
  cases values with
  | nil => cases herror
  | cons value rest =>
      obtain ⟨he, hkind⟩ := Value.items_eq_error_iff.mp (map_eq_error_iff.mp herror)
      exact ⟨he, value, List.mem_cons_self, hkind⟩

theorem CoreFunction.bounds_of_accepts
    {function : CoreFunction} {least greatest found : Nat}
    (harity : function.arity = (least, some greatest))
    (haccepts : function.accepts found = Bool.true) :
    least ≤ found ∧ found ≤ greatest := by
  simpa only [accepts, harity, Option.all_some, Bool.and_eq_true, decide_eq_true_eq] using haccepts

theorem CoreFunction.length_eq_of_accepts
    {function : CoreFunction} {count found : Nat}
    (harity : function.arity = (count, some count))
    (haccepts : function.accepts found = Bool.true) :
    found = count := by
  obtain ⟨hleast, hgreatest⟩ := bounds_of_accepts harity haccepts
  exact Nat.le_antisymm hgreatest hleast

/-- A function that is called with as many arguments as it takes fails only for an argument that is
not the set of items that it has to be. -/
theorem CoreFunction.error_of_apply
    {document : Document} {context : Context} {function : CoreFunction}
    {values : List Value} {e : PathError}
    (haccepts : function.accepts values.length = Bool.true)
    (herror : function.apply document context values = .error e) :
    e = .notANodeSet ∧ function.takesNodes = Bool.true ∧
      ∃ value ∈ values, value.kind ≠ .nodes := by
  cases function with
  | last | position | true | false =>
      have hlength := length_eq_of_accepts rfl haccepts
      rw [List.length_eq_zero_iff.mp hlength] at herror
      cases herror
  | count | sum =>
      have hlength := length_eq_of_accepts rfl haccepts
      obtain ⟨value, rfl⟩ := List.length_eq_one_iff.mp hlength
      obtain ⟨he, hvalue⟩ := error_of_items herror
      exact ⟨he, rfl, hvalue⟩
  | localName | namespaceUri | name =>
      obtain ⟨he, hvalue⟩ := error_of_describe herror
      exact ⟨he, rfl, hvalue⟩
  | id | boolean | not | lang | floor | ceiling | round =>
      have hlength := length_eq_of_accepts rfl haccepts
      obtain ⟨value, rfl⟩ := List.length_eq_one_iff.mp hlength
      cases herror
  | startsWith | contains | substringBefore | substringAfter =>
      have hlength := length_eq_of_accepts rfl haccepts
      obtain ⟨a, b, rfl⟩ := List.length_eq_two.mp hlength
      cases herror
  | translate =>
      have hlength := length_eq_of_accepts rfl haccepts
      obtain ⟨a, b, c, rfl⟩ := List.length_eq_three.mp hlength
      cases herror
  | substring =>
      obtain ⟨hleast, hgreatest⟩ := bounds_of_accepts rfl haccepts
      have hlength : values.length = 2 ∨ values.length = 3 := by omega
      rcases hlength with hlength | hlength
      · obtain ⟨a, b, rfl⟩ := List.length_eq_two.mp hlength
        cases herror
      · obtain ⟨a, b, c, rfl⟩ := List.length_eq_three.mp hlength
        cases herror
  | number => cases values <;> cases herror
  | string | concat | stringLength | normalizeSpace => cases herror

/-! ## Failures come from operands that do not fit -/

theorem error_of_keepItems
    {test : Item → Nat → Except PathError Bool} {position : Nat} {items : List Item}
    {e : PathError} (herror : keepItems test position items = .error e) :
    ∃ item place, test item place = .error e := by
  induction items generalizing position with
  | nil => cases herror
  | cons item rest ih =>
      simp only [keepItems, bind_eq_error_iff, reduceCtorEq, and_false,
        exists_false, or_false] at herror
      rcases herror with htest | ⟨_, -, hrest⟩
      · exact ⟨item, position, htest⟩
      · exact ih hrest

theorem error_of_selectAll
    {step : Item → Except PathError (List Item)} {items : List Item} {e : PathError}
    (herror : selectAll step items = .error e) :
    ∃ item, step item = .error e := by
  simp only [selectAll, bind_eq_error_iff, reduceCtorEq, and_false,
    exists_false, or_false] at herror
  induction items with
  | nil => cases herror
  | cons item rest ih =>
      rw [List.mapM_cons, bind_eq_error_iff] at herror
      rcases herror with hitem | ⟨_, -, hrest⟩
      · exact ⟨item, hitem⟩
      · rw [bind_eq_error_iff] at hrest
        rcases hrest with hrest | ⟨_, -, hrest⟩
        · exact ih hrest
        · cases hrest

/-- Values that are not all sets of items come from expressions that do not all denote sets of
items. -/
theorem not_all_nodes_of_evalAll
    {document : Document} {exprs : List Expr} {context : Context} {values : List Value}
    (hvalues : evalAll document exprs context = .ok values)
    (hnot : ∃ value ∈ values, value.kind ≠ .nodes) :
    exprs.all (·.kind = .nodes) = false := by
  obtain ⟨value, hmem, hkind⟩ := hnot
  have hmem' : value.kind ∈ exprs.map Expr.kind := by
    rw [← kinds_of_evalAll hvalues]
    exact List.mem_map_of_mem hmem
  obtain ⟨expr, hexpr, hsame⟩ := List.mem_map.mp hmem'
  refine List.all_eq_false.mpr ⟨expr, hexpr, ?_⟩
  simpa [hsame] using hkind

mutual

/-- Evaluating an expression whose calls have as many arguments as their functions take fails only
where an operand, at some depth, does not denote the set of items that it has to be. -/
theorem Expr.error_eval
    (document : Document) (expr : Expr) (context : Context) {e : PathError}
    (haccepted : expr.throughout Expr.callAccepted = true)
    (herror : expr.eval document context = .error e) :
    e = .notANodeSet ∧ expr.throughout Expr.operandsFit = false := by
  cases expr with
  | binary operator left right =>
      simp only [Expr.throughout, Bool.and_eq_true] at haccepted
      obtain ⟨⟨-, hacceptedLeft⟩, hacceptedRight⟩ := haccepted
      simp only [Expr.eval, bind_eq_error_iff] at herror
      rcases herror with hleft | ⟨l, hleft, herror⟩
      · obtain ⟨rfl, hfits⟩ := Expr.error_eval document left context hacceptedLeft hleft
        exact ⟨rfl, by simp [Expr.throughout, hfits]⟩
      cases hdecided : decidedByLeft operator l with
      | some value => simp [hdecided] at herror
      | none =>
          simp only [hdecided, bind_eq_error_iff] at herror
          rcases herror with hright | ⟨r, hright, hcombine⟩
          · obtain ⟨rfl, hfits⟩ := Expr.error_eval document right context hacceptedRight hright
            exact ⟨rfl, by simp [Expr.throughout, hfits]⟩
          · -- The operands have values, but those of a union are not both sets of items.
            obtain ⟨rfl, rfl, hkinds⟩ := error_of_combine hcombine
            rw [Expr.kind_eval hleft, Expr.kind_eval hright] at hkinds
            have hfits : Expr.operandsFit (.binary .union left right) = false := by
              rcases hkinds with hkind | hkind <;> simp [Expr.operandsFit, hkind]
            exact ⟨rfl, by simp [Expr.throughout, hfits]⟩
  | negate operand =>
      simp only [Expr.throughout, Bool.and_eq_true] at haccepted
      simp only [Expr.eval, bind_eq_error_iff, reduceCtorEq, and_false,
        exists_false, or_false] at herror
      obtain ⟨rfl, hfits⟩ := Expr.error_eval document operand context haccepted.2 herror
      exact ⟨rfl, by simp [Expr.throughout, hfits]⟩
  | literal value => cases herror
  | number value => cases herror
  | call function arguments =>
      simp only [Expr.throughout, Bool.and_eq_true] at haccepted
      simp only [Expr.eval, bind_eq_error_iff] at herror
      rcases herror with harguments | ⟨values, harguments, happly⟩
      · obtain ⟨rfl, hfits⟩ := error_evalAll document arguments context haccepted.2 harguments
        exact ⟨rfl, by simp [Expr.throughout, hfits]⟩
      · have hlength : values.length = arguments.length := by
          simpa using congrArg List.length (kinds_of_evalAll harguments)
        obtain ⟨rfl, htakes, hvalues⟩ :=
          CoreFunction.error_of_apply (hlength ▸ haccepted.1) happly
        have hfits : Expr.operandsFit (.call function arguments) = false := by
          simp [Expr.operandsFit, htakes, not_all_nodes_of_evalAll harguments hvalues]
        exact ⟨rfl, by simp [Expr.throughout, hfits]⟩
  | filter primary predicates =>
      simp only [Expr.throughout, Bool.and_eq_true] at haccepted
      obtain ⟨⟨-, hacceptedPrimary⟩, hacceptedPredicates⟩ := haccepted
      simp only [Expr.eval, bind_eq_error_iff, reduceCtorEq, and_false,
        exists_false, or_false] at herror
      rcases herror with hprimary | ⟨value, hprimary, hitems | ⟨items, -, hpredicates⟩⟩
      · obtain ⟨rfl, hfits⟩ := Expr.error_eval document primary context hacceptedPrimary hprimary
        exact ⟨rfl, by simp [Expr.throughout, hfits]⟩
      · obtain ⟨rfl, hkind⟩ := Value.items_eq_error_iff.mp hitems
        rw [Expr.kind_eval hprimary] at hkind
        exact ⟨rfl, by simp [Expr.throughout, Expr.operandsFit, hkind]⟩
      · obtain ⟨rfl, hfits⟩ :=
          error_applyPredicates document predicates items hacceptedPredicates hpredicates
        exact ⟨rfl, by simp [Expr.throughout, hfits]⟩
  | path start steps =>
      simp only [Expr.throughout, Bool.and_eq_true] at haccepted
      obtain ⟨⟨-, hacceptedStart⟩, hacceptedSteps⟩ := haccepted
      simp only [Expr.eval, bind_eq_error_iff, reduceCtorEq, and_false,
        exists_false, or_false] at herror
      rcases herror with hstart | ⟨items, -, hwalk⟩
      · obtain ⟨rfl, hfits⟩ := Start.error_items document start context hacceptedStart hstart
        rcases hfits with hfits | hfits
        · exact ⟨rfl, by simp [Expr.throughout, Expr.operandsFit, hfits]⟩
        · exact ⟨rfl, by simp [Expr.throughout, hfits]⟩
      · obtain ⟨rfl, hfits⟩ := error_walk document steps items hacceptedSteps hwalk
        exact ⟨rfl, by simp [Expr.throughout, hfits]⟩
termination_by structural expr

theorem error_evalAll
    (document : Document) (exprs : List Expr) (context : Context) {e : PathError}
    (haccepted : throughoutAll Expr.callAccepted exprs = true)
    (herror : evalAll document exprs context = .error e) :
    e = .notANodeSet ∧ throughoutAll Expr.operandsFit exprs = false := by
  cases exprs with
  | nil => cases herror
  | cons expr rest =>
      simp only [throughoutAll, Bool.and_eq_true] at haccepted
      simp only [evalAll, bind_eq_error_iff, reduceCtorEq, and_false,
        exists_false, or_false] at herror
      rcases herror with hexpr | ⟨_, -, hrest⟩
      · obtain ⟨rfl, hfits⟩ := Expr.error_eval document expr context haccepted.1 hexpr
        exact ⟨rfl, by simp [throughoutAll, hfits]⟩
      · obtain ⟨rfl, hfits⟩ := error_evalAll document rest context haccepted.2 hrest
        exact ⟨rfl, by simp [throughoutAll, hfits]⟩
termination_by structural exprs

theorem error_applyPredicates
    (document : Document) (predicates : List Expr) (items : List Item) {e : PathError}
    (haccepted : throughoutAll Expr.callAccepted predicates = true)
    (herror : applyPredicates document predicates items = .error e) :
    e = .notANodeSet ∧ throughoutAll Expr.operandsFit predicates = false := by
  cases predicates with
  | nil => cases herror
  | cons predicate rest =>
      simp only [throughoutAll, Bool.and_eq_true] at haccepted
      simp only [applyPredicates, bind_eq_error_iff] at herror
      rcases herror with hkeep | ⟨kept, -, hrest⟩
      · obtain ⟨item, position, htest⟩ := error_of_keepItems hkeep
        obtain ⟨rfl, hfits⟩ :=
          Expr.error_eval document predicate ⟨item, position, items.length⟩ haccepted.1
            (map_eq_error_iff.mp htest)
        exact ⟨rfl, by simp [throughoutAll, hfits]⟩
      · obtain ⟨rfl, hfits⟩ := error_applyPredicates document rest kept haccepted.2 hrest
        exact ⟨rfl, by simp [throughoutAll, hfits]⟩
termination_by structural predicates

theorem Start.error_items
    (document : Document) (start : Start) (context : Context) {e : PathError}
    (haccepted : start.throughout Expr.callAccepted = true)
    (herror : start.items document context = .error e) :
    e = .notANodeSet ∧
      (start.fits = false ∨ start.throughout Expr.operandsFit = false) := by
  cases start with
  | root => cases herror
  | context => cases herror
  | filter primary =>
      simp only [Start.items, bind_eq_error_iff] at herror
      rcases herror with hprimary | ⟨value, hprimary, hitems⟩
      · obtain ⟨rfl, hfits⟩ := Expr.error_eval document primary context haccepted hprimary
        exact ⟨rfl, .inr hfits⟩
      · obtain ⟨rfl, hkind⟩ := Value.items_eq_error_iff.mp hitems
        rw [Expr.kind_eval hprimary] at hkind
        exact ⟨rfl, .inl (by simp [Start.fits, hkind])⟩
termination_by structural start

theorem Step.error_select
    (document : Document) (step : Step) (item : Item) {e : PathError}
    (haccepted : step.throughout Expr.callAccepted = true)
    (herror : step.select document item = .error e) :
    e = .notANodeSet ∧ step.throughout Expr.operandsFit = false := by
  cases step with
  | mk axis test predicates =>
      exact error_applyPredicates document predicates _ haccepted herror
termination_by structural step

theorem error_walk
    (document : Document) (steps : List Step) (items : List Item) {e : PathError}
    (haccepted : throughoutSteps Expr.callAccepted steps = true)
    (herror : walk document steps items = .error e) :
    e = .notANodeSet ∧ throughoutSteps Expr.operandsFit steps = false := by
  cases steps with
  | nil => cases herror
  | cons step rest =>
      simp only [throughoutSteps, Bool.and_eq_true] at haccepted
      simp only [walk, bind_eq_error_iff] at herror
      rcases herror with hselect | ⟨selected, -, hrest⟩
      · obtain ⟨item, hstep⟩ := error_of_selectAll hselect
        obtain ⟨rfl, hfits⟩ := Step.error_select document step item haccepted.1 hstep
        exact ⟨rfl, by simp [throughoutSteps, hfits]⟩
      · obtain ⟨rfl, hfits⟩ := error_walk document rest selected haccepted.2 hrest
        exact ⟨rfl, by simp [throughoutSteps, hfits]⟩
termination_by structural steps

end

/-- Expressions with the same values fail alike, for there is one way to fail only. -/
theorem Expr.eval_eq_of_same_values
    {document : Document} {context : Context} {first second : Expr}
    (hfirst : first.throughout Expr.callAccepted = true)
    (hsecond : second.throughout Expr.callAccepted = true)
    (hvalues : ∀ value,
      first.eval document context = .ok value ↔ second.eval document context = .ok value) :
    first.eval document context = second.eval document context := by
  apply eq_of_same_results hvalues (e := .notANodeSet)
  · intro e herror
    exact (Expr.error_eval document first context hfirst herror).1
  · intro e herror
    exact (Expr.error_eval document second context hsecond herror).1

/-! ## Parsed expressions -/

theorem throughoutSteps_append (test : Expr → Bool) (first later : List Step) :
    throughoutSteps test (first ++ later) =
      (throughoutSteps test first && throughoutSteps test later) := by
  induction first with
  | nil => rfl
  | cons step rest ih => rw [List.cons_append, throughoutSteps, throughoutSteps, ih, Bool.and_assoc]

theorem Separates.callsAccepted {separator : Token} {implied : List Step}
    (h : Separates separator implied) :
    throughoutSteps Expr.callAccepted implied = true := by
  cases h <;> rfl

/-- All calls in what a phrase stands for have as many arguments as their functions take. -/
def Phrase.callsAccepted : Phrase → Prop
  | expression _ expr | primary expr => expr.throughout Expr.callAccepted = true
  | steps result => throughoutSteps Expr.callAccepted result = true
  | step result => result.throughout Expr.callAccepted = true
  | test _ => True
  | predicates exprs | arguments exprs | argumentList exprs =>
      throughoutAll Expr.callAccepted exprs = true

theorem Expr.callsAccepted_filteredBy {primary : Expr} {predicates : List Expr}
    (hprimary : primary.throughout Expr.callAccepted = true)
    (hpredicates : throughoutAll Expr.callAccepted predicates = true) :
    (primary.filteredBy predicates).throughout Expr.callAccepted = true := by
  unfold filteredBy
  split
  · exact hprimary
  · simp [throughout, callAccepted, hprimary, hpredicates]

theorem callsAccepted_of_derives {phrase : Phrase} {tokens : List Token}
    (h : Derives phrase tokens) : phrase.callsAccepted := by
  induction h with
  | tighter _ _ ih | parenthesized _ ih | someArguments _ ih => exact ih
  | root | literal | number | noArguments | selfStep | parentStep | noPredicates => rfl
  | nameTest | textTest | commentTest | anyTest | instructionTest | targetTest => trivial
  | binary _ _ _ _ ihleft ihright =>
      simp only [Phrase.callsAccepted] at ihleft ihright
      simp [Phrase.callsAccepted, Expr.throughout, Expr.callAccepted, ihleft, ihright]
  | negate _ ih | absolute _ ih | absoluteAnyDepth _ ih | relative _ ih => exact ih
  | filtered _ _ ihprimary ihpredicates =>
      exact Expr.callsAccepted_filteredBy ihprimary ihpredicates
  | continued _ _ hseparates _ ihprimary ihpredicates ihsteps =>
      have hprimary := Expr.callsAccepted_filteredBy ihprimary ihpredicates
      simp only [Phrase.callsAccepted] at ihsteps
      simp [Phrase.callsAccepted, Expr.throughout, Expr.callAccepted, Start.throughout, hprimary,
        throughoutSteps_append, hseparates.callsAccepted, ihsteps]
  | call _ haccepts _ ih =>
      simp only [Phrase.callsAccepted] at ih
      simp [Phrase.callsAccepted, Expr.throughout, Expr.callAccepted, haccepts, ih]
  | lastArgument _ ih =>
      simpa [Phrase.callsAccepted, throughoutAll] using ih
  | nextArgument _ _ ihfirst ihlater | predicate _ _ ihfirst ihlater =>
      simp only [Phrase.callsAccepted] at ihfirst ihlater
      simp [Phrase.callsAccepted, throughoutAll, ihfirst, ihlater]
  | lastStep _ ih =>
      simpa [Phrase.callsAccepted, throughoutSteps] using ih
  | nextStep _ hseparates _ ihstep ihsteps =>
      simp only [Phrase.callsAccepted] at ihstep ihsteps
      simp [Phrase.callsAccepted, throughoutSteps, throughoutSteps_append,
        hseparates.callsAccepted, ihstep, ihsteps]
  | childStep _ _ _ ih | attributeStep _ _ _ ih | axisStep _ _ _ _ ih => exact ih

theorem callsAccepted_of_parseTokens {lexemes : List Lexeme} {expr : Expr}
    (hexpr : Parser.parseTokens lexemes = .ok expr) :
    expr.throughout Expr.callAccepted = true :=
  callsAccepted_of_derives (Parser.derives_of_parseTokens hexpr)

theorem lexemes_of_compile {text : String} {locator : Locator}
    (hlocator : compile text = .ok locator) :
    ∃ lexemes, Parser.parseTokens lexemes = .ok locator.expr := by
  unfold compile at hlocator
  dsimp only at hlocator
  split at hlocator
  · cases hlocator
  · simp only [Parser.parse, bind_eq_ok_iff, Except.ok.injEq] at hlocator
    obtain ⟨expr, ⟨lexemes, -, hexpr⟩, rfl⟩ := hlocator
    exact ⟨lexemes, hexpr⟩

theorem select_eq_error_of_kind_ne_nodes
    {document : Document} {locator : Locator}
    (haccepted : locator.expr.throughout Expr.callAccepted = true)
    (hkind : locator.expr.kind ≠ .nodes) :
    locator.select document = .error .notANodeSet := by
  unfold select
  cases heval : locator.expr.eval document rootContext with
  | error e =>
      obtain ⟨rfl, -⟩ := Expr.error_eval document locator.expr rootContext haccepted heval
      rfl
  | ok value =>
      rw [← Expr.kind_eval heval] at hkind
      exact Value.items_eq_error_iff.mpr ⟨rfl, hkind⟩

theorem Expr.exists_value_of_wellKinded
    {document : Document} {expr : Expr} {context : Context}
    (haccepted : expr.throughout Expr.callAccepted = true) (hkinds : expr.wellKinded = true) :
    ∃ value, expr.eval document context = .ok value := by
  cases heval : expr.eval document context with
  | error e =>
      obtain ⟨-, hfits⟩ := Expr.error_eval document expr context haccepted heval
      rw [wellKinded, hfits] at hkinds
      cases hkinds
  | ok value => exact ⟨value, rfl⟩

theorem exists_items_of_wellKinded
    {document : Document} {locator : Locator}
    (haccepted : locator.expr.throughout Expr.callAccepted = true)
    (hkinds : locator.expr.wellKinded = true) (hkind : locator.expr.kind = .nodes) :
    ∃ items, locator.select document = .ok items := by
  obtain ⟨value, heval⟩ := Expr.exists_value_of_wellKinded haccepted hkinds
  rw [← Expr.kind_eval heval] at hkind
  obtain ⟨items, rfl⟩ := Value.kind_eq_nodes_iff.mp hkind
  refine ⟨items, ?_⟩
  rw [select, heval]
  rfl

/-- Evaluating what the parser makes goes wrong in no other way than that something is not a set of
items, never does so when all operands denote sets of items where these are needed, and gives a
value of the kind of the expression.  So a locator of kind `nodes` with such operands selects
something on every document, and a locator of any other kind selects nothing on any. -/
theorem eval_keepsKinds (document : Document) :
    (∀ (lexemes : List Lexeme) (expr : Expr), Parser.parseTokens lexemes = .ok expr →
      expr.throughout Expr.callAccepted = true ∧
      ∀ context : Context,
        (∀ value, expr.eval document context = .ok value → value.kind = expr.kind) ∧
        (∀ e, expr.eval document context = .error e → e = .notANodeSet) ∧
        (expr.wellKinded = true → ∃ value, expr.eval document context = .ok value)) ∧
    (∀ (text : String) (locator : Locator), compile text = .ok locator →
      (locator.expr.wellKinded = true → locator.expr.kind = .nodes →
        ∃ items, locator.select document = .ok items) ∧
      (locator.expr.kind ≠ .nodes → locator.select document = .error .notANodeSet)) := by
  constructor
  · intro lexemes expr hexpr
    have haccepted := callsAccepted_of_parseTokens hexpr
    refine ⟨haccepted, fun context => ⟨?_, ?_, ?_⟩⟩
    · intro value heval
      exact Expr.kind_eval heval
    · intro e heval
      exact (Expr.error_eval document expr context haccepted heval).1
    · intro hkinds
      exact Expr.exists_value_of_wellKinded haccepted hkinds
  · intro text locator hlocator
    obtain ⟨lexemes, hexpr⟩ := lexemes_of_compile hlocator
    have haccepted := callsAccepted_of_parseTokens hexpr
    exact ⟨exists_items_of_wellKinded haccepted, select_eq_error_of_kind_ne_nodes haccepted⟩

/-- The elements `b` that have a child `c` or an attribute. -/
def namedParts : Locator where
  expression := "//b[name(c|@*)]"
  expr :=
    .path .root
      [.anyDepth,
        .mk .child (.name none (some "b"))
          [.call .name
            [.binary .union
              (.path .context [.mk .child (.name none (some "c")) []])
              (.path .context [.mk .attributes (.name none none) []])]]]

def namedPartsLexemes : List Lexeme :=
  [⟨.doubleSlash, 0, '/'⟩, ⟨.nameTest none (some "b"), 2, 'b'⟩, ⟨.leftBracket, 3, '['⟩,
    ⟨.functionName "name", 4, 'n'⟩, ⟨.leftParen, 8, '('⟩, ⟨.nameTest none (some "c"), 9, 'c'⟩,
    ⟨.operator .union, 10, '|'⟩, ⟨.atSign, 11, '@'⟩, ⟨.nameTest none none, 12, '*'⟩,
    ⟨.rightParen, 13, ')'⟩, ⟨.rightBracket, 14, ']'⟩]

/-- Counts the items of a text, which is not a set of items. -/
def countOfText : Locator where
  expression := "count('b')"
  expr := .call .count [.literal "b"]

def countOfTextLexemes : List Lexeme :=
  [⟨.functionName "count", 0, 'c'⟩, ⟨.leftParen, 5, '('⟩, ⟨.literal "b", 6, '\''⟩,
    ⟨.rightParen, 9, ')'⟩]

theorem compile_namedParts : compile "//b[name(c|@*)]" = .ok namedParts := by
  have htrim : trimBlank "//b[name(c|@*)]" = "//b[name(c|@*)]" := by cbv
  have hlexemes : tokenize "//b[name(c|@*)]" = .ok namedPartsLexemes := by cbv
  have hexpr : Parser.parseTokens namedPartsLexemes = .ok namedParts.expr := by rfl
  simp only [compile, htrim, Parser.parse, hlexemes, ok_bind, hexpr]
  rfl

theorem compile_countOfText : compile "count('b')" = .ok countOfText := by
  have htrim : trimBlank "count('b')" = "count('b')" := by cbv
  have hlexemes : tokenize "count('b')" = .ok countOfTextLexemes := by cbv
  have hexpr : Parser.parseTokens countOfTextLexemes = .ok countOfText.expr := by rfl
  simp only [compile, htrim, Parser.parse, hlexemes, ok_bind, hexpr]
  rfl

theorem eval_namedParts_and_countOfText_keepsKinds :
    (Parser.parseTokens namedPartsLexemes = .ok namedParts.expr ∧
      namedParts.expr.wellKinded = true ∧ namedParts.expr.kind = .nodes ∧
      namedParts.expr.eval nestedDocument rootContext = .ok (.nodes [.node 3]) ∧
      (Value.nodes [.node 3]).kind = namedParts.expr.kind ∧
      (∃ value, namedParts.expr.eval nestedDocument rootContext = .ok value) ∧
      compile "//b[name(c|@*)]" = .ok namedParts ∧
      ∃ items, namedParts.select nestedDocument = .ok items) ∧
    (Parser.parseTokens countOfTextLexemes = .ok countOfText.expr ∧
      countOfText.expr.wellKinded = false ∧ countOfText.expr.kind ≠ .nodes ∧
      countOfText.expr.eval nestedDocument rootContext = .error .notANodeSet ∧
      compile "count('b')" = .ok countOfText ∧
      countOfText.select nestedDocument = .error .notANodeSet) := by
  obtain ⟨hparsed, hcompiled⟩ := eval_keepsKinds nestedDocument
  constructor
  · have hexpr : Parser.parseTokens namedPartsLexemes = .ok namedParts.expr := by rfl
    have heval :
        namedParts.expr.eval nestedDocument rootContext = .ok (.nodes [.node 3]) := by cbv
    have hkinds : namedParts.expr.wellKinded = true := by cbv
    obtain ⟨-, hresults⟩ := hparsed _ _ hexpr
    obtain ⟨hkind, -, hvalue⟩ := hresults rootContext
    obtain ⟨hselect, -⟩ := hcompiled _ _ compile_namedParts
    exact ⟨hexpr, hkinds, rfl, heval, hkind _ heval, hvalue hkinds, compile_namedParts,
      hselect hkinds rfl⟩
  · have hexpr : Parser.parseTokens countOfTextLexemes = .ok countOfText.expr := by rfl
    have heval :
        countOfText.expr.eval nestedDocument rootContext = .error .notANodeSet := by rfl
    have hkind : countOfText.expr.kind ≠ .nodes := by decide
    obtain ⟨-, hselect⟩ := hcompiled _ _ compile_countOfText
    exact ⟨hexpr, by cbv, hkind, heval, compile_countOfText, hselect hkind⟩

end Locator
end RecordExtraction
