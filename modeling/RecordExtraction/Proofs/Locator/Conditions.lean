import Mathlib
import RecordExtraction.Proofs.Locator.KindSoundness

/-!
# Conditions on items

Filtering a list of items by one predicate changes the positions and the number of the items that
the next predicate sees.  An expression that asks for neither, except in predicates of its own, has
the same value wherever its item stands: what is inside a predicate is evaluated at places of its
own, and every function but `position` and `last` looks at the item alone.  Predicates of this kind
whose values are not numbers decide about the items one by one, so their order does not matter, and
two of them are one conjunction.
-/

namespace RecordExtraction
namespace Locator

open Item Markup

mutual

/-- The expression calls `position` and `last` inside predicates only. -/
def Expr.ignoresPlace : Expr → Bool
  | .binary _ left right => left.ignoresPlace && right.ignoresPlace
  | .negate operand => operand.ignoresPlace
  | .literal _ | .number _ => true
  | .call function arguments =>
      function ≠ .position && function ≠ .last && allIgnorePlace arguments
  | .filter primary _ => primary.ignoresPlace
  | .path start _ => start.ignoresPlace

def allIgnorePlace : List Expr → Bool
  | [] => true
  | expr :: rest => expr.ignoresPlace && allIgnorePlace rest

def Start.ignoresPlace : Start → Bool
  | .root | .context => true
  | .filter primary => primary.ignoresPlace

end

variable {document : Document}

/-! ## Values that depend on the item alone -/

theorem textOrContext_of_item {context other : Context} (hitem : context.item = other.item)
    (values : List Value) :
    textOrContext document context values = textOrContext document other values := by
  cases values with
  | nil => simp only [textOrContext, hitem]
  | cons value rest => rfl

theorem describe_of_item {context other : Context} (hitem : context.item = other.item)
    (values : List Value) (property : Item → String) :
    describe context values property = describe other values property := by
  cases values with
  | nil => simp only [describe, itemOrContext, hitem]
  | cons value rest => rfl

theorem CoreFunction.apply_of_item {function : CoreFunction} {context other : Context}
    (hitem : context.item = other.item) (hposition : function ≠ .position)
    (hlast : function ≠ .last) (values : List Value) :
    function.apply document context values = function.apply document other values := by
  have htext : textOrContext document context = textOrContext document other :=
    funext (textOrContext_of_item hitem)
  have hdescribe := describe_of_item hitem
  unfold CoreFunction.apply
  simp only [htext, hdescribe, hitem]
  split
  · exact absurd rfl hlast
  · exact absurd rfl hposition
  all_goals rfl

mutual

theorem Expr.eval_of_item (document : Document) (expr : Expr) {context other : Context}
    (hitem : context.item = other.item) (hignores : expr.ignoresPlace = true) :
    expr.eval document context = expr.eval document other := by
  cases expr with
  | binary operator left right =>
      simp only [Expr.ignoresPlace, Bool.and_eq_true] at hignores
      have hleft := Expr.eval_of_item document left hitem hignores.1
      have hright := Expr.eval_of_item document right hitem hignores.2
      simp only [Expr.eval, hleft, hright]
  | negate operand =>
      have hoperand := Expr.eval_of_item document operand hitem hignores
      simp only [Expr.eval, hoperand]
  | literal value => rfl
  | number value => rfl
  | call function arguments =>
      simp only [Expr.ignoresPlace, Bool.and_eq_true, decide_eq_true_eq] at hignores
      obtain ⟨⟨hposition, hlast⟩, harguments⟩ := hignores
      have hvalues := evalAll_of_item document arguments hitem harguments
      simp only [Expr.eval, hvalues, CoreFunction.apply_of_item hitem hposition hlast]
  | filter primary predicates =>
      have hprimary := Expr.eval_of_item document primary hitem hignores
      simp only [Expr.eval, hprimary]
  | path start steps =>
      have hstart := Start.items_of_item document start hitem hignores
      simp only [Expr.eval, hstart]
termination_by structural expr

theorem evalAll_of_item (document : Document) (exprs : List Expr) {context other : Context}
    (hitem : context.item = other.item) (hignore : allIgnorePlace exprs = true) :
    evalAll document exprs context = evalAll document exprs other := by
  cases exprs with
  | nil => rfl
  | cons expr rest =>
      simp only [allIgnorePlace, Bool.and_eq_true] at hignore
      have hexpr := Expr.eval_of_item document expr hitem hignore.1
      have hrest := evalAll_of_item document rest hitem hignore.2
      simp only [evalAll, hexpr, hrest]
termination_by structural exprs

theorem Start.items_of_item (document : Document) (start : Start) {context other : Context}
    (hitem : context.item = other.item) (hignores : start.ignoresPlace = true) :
    start.items document context = start.items document other := by
  cases start with
  | root => rfl
  | context => simp only [Start.items, hitem]
  | filter primary =>
      have hprimary := Expr.eval_of_item document primary hitem hignores
      simp only [Start.items, hprimary]
termination_by structural start

end

/-! ## Filtering by conditions -/

/-- The value of the expression at an item that stands alone is true. -/
def Expr.holds (document : Document) (expr : Expr) (item : Item) : Bool :=
  match expr.eval document ⟨item, 1, 1⟩ with
  | .ok value => value.toBool
  | .error _ => false

/-- The expression decides about each of the items by itself: it does not ask for places, does not
choose by a number, and has a value at all of the items, wherever these stand. -/
structure Expr.ConditionOn (document : Document) (items : List Item) (expr : Expr) : Prop where
  ignoresPlace : expr.ignoresPlace = true
  kind : expr.kind ≠ .number
  evaluates : ∀ item ∈ items, ∀ position size,
    ∃ value, expr.eval document ⟨item, position, size⟩ = .ok value

variable {p q : Expr} {items kept : List Item}

theorem Value.keeps_of_kind {value : Value} (hkind : value.kind ≠ .number) (position : Nat) :
    value.keeps position = value.toBool := by
  cases value with
  | number value => exact absurd rfl hkind
  | _ => rfl

theorem Expr.conditionOn_of_wellKinded (hignores : p.ignoresPlace = true)
    (hkind : p.kind ≠ .number) (haccepted : p.throughout Expr.callAccepted = true)
    (hkinds : p.wellKinded = true) :
    p.ConditionOn document items where
  ignoresPlace := hignores
  kind := hkind
  evaluates _ _ _ _ := Expr.exists_value_of_wellKinded haccepted hkinds

theorem Expr.ConditionOn.mono (hp : p.ConditionOn document items) (hkept : kept ⊆ items) :
    p.ConditionOn document kept where
  ignoresPlace := hp.ignoresPlace
  kind := hp.kind
  evaluates item hitem := hp.evaluates item (hkept hitem)

/-- At an item of the list a condition has one value, which is true when the condition holds. -/
theorem Expr.ConditionOn.exists_value (hp : p.ConditionOn document items) {item : Item}
    (hitem : item ∈ items) :
    ∃ value, value.kind ≠ .number ∧ value.toBool = p.holds document item ∧
      ∀ position size, p.eval document ⟨item, position, size⟩ = .ok value := by
  obtain ⟨value, halone⟩ := hp.evaluates item hitem 1 1
  refine ⟨value, ?_, ?_, ?_⟩
  · rw [Expr.kind_eval halone]
    exact hp.kind
  · rw [Expr.holds, halone]
  · intro position size
    rw [← halone]
    exact Expr.eval_of_item document p rfl hp.ignoresPlace

theorem keepItems_eq_filter
    {test : Item → Nat → Except PathError Bool} {keep : Item → Bool}
    (htest : ∀ item ∈ items, ∀ position, test item position = .ok (keep item)) (start : Nat) :
    keepItems test start items = .ok (items.filter keep) := by
  induction items generalizing start with
  | nil => rfl
  | cons item rest ih =>
      have hfirst : test item start = .ok (keep item) := htest item List.mem_cons_self start
      have hrest : keepItems test (start + 1) rest = .ok (rest.filter keep) := by
        apply ih
        intro other hother
        exact htest other (List.mem_cons_of_mem item hother)
      rw [keepItems, hfirst, ok_bind, hrest, ok_bind, List.filter_cons]

/-- Conditions keep the items for which all of them hold. -/
theorem applyPredicates_conditions {predicates : List Expr}
    (hpredicates : ∀ p ∈ predicates, p.ConditionOn document items) :
    applyPredicates document predicates items =
      .ok (items.filter fun item => predicates.all (·.holds document item)) := by
  induction predicates generalizing items with
  | nil => simp [applyPredicates]
  | cons p rest ih =>
      have hp : p.ConditionOn document items := hpredicates p List.mem_cons_self
      have hkept :
          keepItems
              (fun item position =>
                (p.eval document ⟨item, position, items.length⟩).map (Value.keeps position))
              1 items =
            .ok (items.filter (p.holds document)) := by
        apply keepItems_eq_filter
        intro item hitem position
        obtain ⟨value, hkind, hholds, hvalue⟩ := hp.exists_value hitem
        rw [hvalue, ← hholds, ← Value.keeps_of_kind hkind position]
        rfl
      -- The later predicates see other positions and fewer items, which do not matter to them.
      have hrest : ∀ q ∈ rest, q.ConditionOn document (items.filter (p.holds document)) := by
        intro q hq
        exact (hpredicates q (List.mem_cons_of_mem p hq)).mono (List.filter_subset_self _)
      rw [applyPredicates, hkept, ok_bind, ih hrest, List.filter_filter]
      simp only [List.all_cons, Bool.and_comm]

theorem Expr.ConditionOn.eval_and (hp : p.ConditionOn document items)
    (hq : q.ConditionOn document items) {item : Item} (hitem : item ∈ items)
    (position size : Nat) :
    (Expr.binary .and p q).eval document ⟨item, position, size⟩ =
      .ok (.boolean (p.holds document item && q.holds document item)) := by
  obtain ⟨left, -, hleft, hpeval⟩ := hp.exists_value hitem
  obtain ⟨right, -, hright, hqeval⟩ := hq.exists_value hitem
  rw [← hleft, ← hright]
  by_cases htrue : left.toBool = true
  · simp [Expr.eval, hpeval, hqeval, decidedByLeft, combine, htrue]
  · simp [Expr.eval, hpeval, decidedByLeft, htrue]

theorem Expr.ConditionOn.and (hp : p.ConditionOn document items)
    (hq : q.ConditionOn document items) :
    (Expr.binary .and p q).ConditionOn document items where
  ignoresPlace := by simp [Expr.ignoresPlace, hp.ignoresPlace, hq.ignoresPlace]
  kind := by simp [Expr.kind, BinaryOperator.resultKind]
  evaluates _ hitem position size := ⟨_, hp.eval_and hq hitem position size⟩

theorem Expr.ConditionOn.holds_and (hp : p.ConditionOn document items)
    (hq : q.ConditionOn document items) {item : Item} (hitem : item ∈ items) :
    (Expr.binary .and p q).holds document item =
      (p.holds document item && q.holds document item) := by
  rw [Expr.holds, hp.eval_and hq hitem]
  rfl

/-- An expression that asks for its position and size in predicates of its own only has one value
wherever an item stands.  Filtering any list of items by two conditions in either order and by their
conjunction keeps the same items in the same order: those for which both hold. -/
theorem conditions_commute_and_merge (document : Document) :
    (∀ (expr : Expr) (context other : Context),
      expr.ignoresPlace = true → context.item = other.item →
        expr.eval document context = expr.eval document other) ∧
    ∀ (items : List Item) (p q : Expr),
      p.ConditionOn document items → q.ConditionOn document items →
        ∃ kept,
          kept = items.filter (fun item => p.holds document item && q.holds document item) ∧
          applyPredicates document [p, q] items = .ok kept ∧
          applyPredicates document [q, p] items = .ok kept ∧
          applyPredicates document [.binary .and p q] items = .ok kept := by
  constructor
  · intro expr context other hignores hitem
    exact Expr.eval_of_item document expr hitem hignores
  · intro items p q hp hq
    have hboth :
        items.filter (fun item => (Expr.binary .and p q).holds document item) =
          items.filter fun item => p.holds document item && q.holds document item := by
      apply List.filter_congr
      intro item hitem
      exact hp.holds_and hq hitem
    refine ⟨_, rfl, ?_, ?_, ?_⟩
    · rw [applyPredicates_conditions (by simp [hp, hq])]
      simp
    · rw [applyPredicates_conditions (by simp [hp, hq])]
      simp [Bool.and_comm]
    · rw [applyPredicates_conditions (by simp [hp.and hq]), ← hboth]
      simp

/-- The item has a sibling `b` after it. -/
def followedByB : Expr :=
  .path .context [.mk .followingSibling (.name none (some "b")) []]

/-- No child `c` of the item is the last one, so that there is none. -/
def withoutLastC : Expr :=
  .call .not
    [.path .context
      [.mk .child (.name none (some "c"))
        [.binary (.compare .equal) (.call .position []) (.call .last [])]]]

theorem first_b_chosen_in_either_order :
    followedByB.ConditionOn nestedDocument [.node 2, .node 3] ∧
    withoutLastC.ConditionOn nestedDocument [.node 2, .node 3] ∧
    withoutLastC.eval nestedDocument ⟨.node 3, 2, 2⟩ =
      withoutLastC.eval nestedDocument ⟨.node 3, 1, 1⟩ ∧
    ∃ kept, kept = [.node 2] ∧
      applyPredicates nestedDocument [followedByB, withoutLastC] [.node 2, .node 3] = .ok kept ∧
      applyPredicates nestedDocument [withoutLastC, followedByB] [.node 2, .node 3] = .ok kept ∧
      applyPredicates nestedDocument [.binary .and followedByB withoutLastC]
        [.node 2, .node 3] = .ok kept := by
  obtain ⟨heval, hfilter⟩ := conditions_commute_and_merge nestedDocument
  have hfollowed : followedByB.ConditionOn nestedDocument [.node 2, .node 3] :=
    Expr.conditionOn_of_wellKinded rfl (by decide) (by cbv) (by cbv)
  have hwithout : withoutLastC.ConditionOn nestedDocument [.node 2, .node 3] :=
    Expr.conditionOn_of_wellKinded (by cbv) (by decide) (by cbv) (by cbv)
  have hfirst : followedByB.holds nestedDocument (.node 2) = true := by cbv
  have hempty : withoutLastC.holds nestedDocument (.node 2) = true := by cbv
  have hlast : followedByB.holds nestedDocument (.node 3) = false := by cbv
  obtain ⟨kept, hkept, hresults⟩ := hfilter _ _ _ hfollowed hwithout
  refine ⟨hfollowed, hwithout, heval withoutLastC _ _ (by cbv) rfl, kept, ?_, hresults⟩
  simp [hkept, hfirst, hempty, hlast]

end Locator
end RecordExtraction
