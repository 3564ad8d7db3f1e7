import Mathlib
import RecordExtraction.Proofs.Locator.PathAlgebra

/-!
# Unions are unions of sets

The union of two sets of items is their concatenation, put in document order and freed of
repetition.  A list in document order is determined by its members, so the laws of unions of sets
hold of the lists themselves: neither the order of the operands nor their grouping matters, and
uniting a set with itself changes nothing.
-/

namespace RecordExtraction

open Locator Markup

namespace Item

theorem normalize_append_comm (first second : List Item) :
    normalize (first ++ second) = normalize (second ++ first) := by
  apply normalize_congr
  intro item
  rw [List.mem_append, List.mem_append, or_comm]

theorem normalize_append_assoc (first second third : List Item) :
    normalize (normalize (first ++ second) ++ third) =
      normalize (first ++ normalize (second ++ third)) := by
  apply normalize_congr
  intro item
  simp only [List.mem_append, mem_normalize, or_assoc]

/-- Nothing new comes from a set that is already there, and the set was in order before. -/
theorem InOrder.normalize_append_self {items : List Item} (h : InOrder items) :
    normalize (items ++ items) = items := by
  apply (inOrder_normalize _).ext h
  intro item
  rw [mem_normalize, List.mem_append, or_self]

end Item

namespace Locator

open Item

namespace Expr

variable {document : Document} {context : Context} {a b c : Expr} {value : Value}

theorem eval_union_eq_ok_iff_mem :
    (Expr.binary .union a b).eval document context = .ok value ↔
      ∃ first second items,
        a.eval document context = .ok (.nodes first) ∧
        b.eval document context = .ok (.nodes second) ∧
        value = .nodes items ∧ InOrder items ∧
        ∀ item, item ∈ items ↔ item ∈ first ∨ item ∈ second := by
  rw [eval_union_eq_ok_iff]
  constructor
  · intro h
    rcases h with ⟨first, second, hfirst, hsecond, hvalue⟩
    refine ⟨first, second, _, hfirst, hsecond, hvalue, inOrder_normalize _, ?_⟩
    intro item
    rw [mem_normalize, List.mem_append]
  · intro h
    rcases h with ⟨first, second, items, hfirst, hsecond, hvalue, horder, hmem⟩
    have hitems : items = normalize (first ++ second) := by
      apply horder.ext (inOrder_normalize _)
      intro item
      rw [hmem, mem_normalize, List.mem_append]
    exact ⟨first, second, hfirst, hsecond, hitems ▸ hvalue⟩

theorem eval_union_comm_eq_ok_iff :
    (Expr.binary .union a b).eval document context = .ok value ↔
      (Expr.binary .union b a).eval document context = .ok value := by
  simp only [eval_union_eq_ok_iff]
  constructor
  · intro h
    rcases h with ⟨first, second, ha, hb, hvalue⟩
    exact ⟨second, first, hb, ha, normalize_append_comm first second ▸ hvalue⟩
  · intro h
    rcases h with ⟨second, first, hb, ha, hvalue⟩
    exact ⟨first, second, ha, hb, normalize_append_comm second first ▸ hvalue⟩

theorem eval_union_assoc_eq_ok_iff :
    (Expr.binary .union (.binary .union a b) c).eval document context = .ok value ↔
      (Expr.binary .union a (.binary .union b c)).eval document context = .ok value := by
  simp only [eval_union_eq_ok_iff, Value.nodes.injEq]
  constructor
  · intro h
    rcases h with ⟨_, third, ⟨first, second, ha, hb, rfl⟩, hc, hvalue⟩
    rw [normalize_append_assoc] at hvalue
    exact ⟨first, _, ha, ⟨second, third, hb, hc, rfl⟩, hvalue⟩
  · intro h
    rcases h with ⟨first, _, ha, ⟨second, third, hb, hc, rfl⟩, hvalue⟩
    rw [← normalize_append_assoc] at hvalue
    exact ⟨_, third, ⟨first, second, ha, hb, rfl⟩, hc, hvalue⟩

theorem eval_union_self {items : List Item}
    (hitems : a.eval document context = .ok (.nodes items)) :
    (Expr.binary .union a a).eval document context = a.eval document context := by
  have horder : InOrder items := a.inOrder_eval document context hitems
  rw [hitems, eval_union_eq_ok_iff]
  refine ⟨items, items, hitems, hitems, ?_⟩
  rw [horder.normalize_append_self]

theorem eval_union_comm
    (ha : a.throughout callAccepted = true) (hb : b.throughout callAccepted = true) :
    (Expr.binary .union a b).eval document context =
      (Expr.binary .union b a).eval document context := by
  apply eval_eq_of_same_values
  · simp [throughout, callAccepted, ha, hb]
  · simp [throughout, callAccepted, ha, hb]
  · intro value
    exact eval_union_comm_eq_ok_iff

theorem eval_union_assoc
    (ha : a.throughout callAccepted = true) (hb : b.throughout callAccepted = true)
    (hc : c.throughout callAccepted = true) :
    (Expr.binary .union (.binary .union a b) c).eval document context =
      (Expr.binary .union a (.binary .union b c)).eval document context := by
  apply eval_eq_of_same_values
  · simp [throughout, callAccepted, ha, hb, hc]
  · simp [throughout, callAccepted, ha, hb, hc]
  · intro value
    exact eval_union_assoc_eq_ok_iff

end Expr

/-- A union has a value exactly when both operands denote sets of items, and then the items of
either, in document order.  So exchanging or regrouping the operands keeps the value, and the
union of a set with itself is that set.  If every call has as many arguments as its function takes,
which is so in what the parser makes, failures are kept as well. -/
theorem unions_form_sets (document : Document) (context : Context) :
    (∀ (a b : Expr) (value : Value),
      (Expr.binary .union a b).eval document context = .ok value ↔
        ∃ first second items,
          a.eval document context = .ok (.nodes first) ∧
          b.eval document context = .ok (.nodes second) ∧
          value = .nodes items ∧ InOrder items ∧
          ∀ item, item ∈ items ↔ item ∈ first ∨ item ∈ second) ∧
    (∀ (a b : Expr) (value : Value),
      (Expr.binary .union a b).eval document context = .ok value ↔
        (Expr.binary .union b a).eval document context = .ok value) ∧
    (∀ (a b c : Expr) (value : Value),
      (Expr.binary .union (.binary .union a b) c).eval document context = .ok value ↔
        (Expr.binary .union a (.binary .union b c)).eval document context = .ok value) ∧
    (∀ (a : Expr) (items : List Item),
      a.eval document context = .ok (.nodes items) →
        (Expr.binary .union a a).eval document context = a.eval document context) ∧
    (∀ a b : Expr,
      a.throughout Expr.callAccepted = true → b.throughout Expr.callAccepted = true →
        (Expr.binary .union a b).eval document context =
          (Expr.binary .union b a).eval document context) ∧
    (∀ a b c : Expr,
      a.throughout Expr.callAccepted = true → b.throughout Expr.callAccepted = true →
      c.throughout Expr.callAccepted = true →
        (Expr.binary .union (.binary .union a b) c).eval document context =
          (Expr.binary .union a (.binary .union b c)).eval document context) ∧
    ∀ (lexemes : List Lexeme) (expr : Expr),
      Parser.parseTokens lexemes = .ok expr → expr.throughout Expr.callAccepted = true := by
  refine ⟨?_, ?_, ?_, ?_, ?_, ?_, ?_⟩
  · intro a b value
    exact Expr.eval_union_eq_ok_iff_mem
  · intro a b value
    exact Expr.eval_union_comm_eq_ok_iff
  · intro a b c value
    exact Expr.eval_union_assoc_eq_ok_iff
  · intro a items hitems
    exact Expr.eval_union_self hitems
  · intro a b ha hb
    exact Expr.eval_union_comm ha hb
  · intro a b c ha hb hc
    exact Expr.eval_union_assoc ha hb hc
  · intro lexemes expr hexpr
    exact callsAccepted_of_parseTokens hexpr

/-- What is around the element `c`, one of the elements `b` among it. -/
def aroundInnermost : Expr :=
  .path .root [.anyDepth, .mk .child (.name none (some "c")) [], .mk .ancestor .any []]

/-- The lexemes of `//b`. -/
def partsLexemes : List Lexeme := [⟨.doubleSlash, 0, '/'⟩, ⟨.nameTest none (some "b"), 2, 'b'⟩]

theorem unions_with_parts_form_sets :
    (Expr.binary .union aroundInnermost (.path .root toParts)).eval nestedDocument rootContext =
      .ok (.nodes [.node 0, .node 1, .node 2, .node 3]) ∧
    (Expr.binary .union (.path .root toParts) aroundInnermost).eval nestedDocument rootContext =
      .ok (.nodes [.node 0, .node 1, .node 2, .node 3]) ∧
    aroundInnermost.eval nestedDocument rootContext = .ok (.nodes [.node 0, .node 1, .node 3]) ∧
    (Expr.binary .union aroundInnermost aroundInnermost).eval nestedDocument rootContext =
      .ok (.nodes [.node 0, .node 1, .node 3]) ∧
    Parser.parseTokens partsLexemes = .ok (.path .root toParts) ∧
    (Expr.path .root toParts).throughout Expr.callAccepted = true ∧
    aroundInnermost.throughout Expr.callAccepted = true ∧
    (Expr.literal "b").throughout Expr.callAccepted = true ∧
    (Expr.binary .union (.path .root toParts) (.literal "b")).eval nestedDocument rootContext =
      .error .notANodeSet ∧
    (Expr.binary .union (.path .root toParts) (.binary .union (.literal "b") aroundInnermost)).eval
      nestedDocument rootContext = .error .notANodeSet := by
  obtain ⟨-, hcomm, -, hself, hcommFails, hassocFails, hparsed⟩ :=
    unions_form_sets nestedDocument rootContext
  have hunion :
      (Expr.binary .union aroundInnermost (.path .root toParts)).eval nestedDocument rootContext =
        .ok (.nodes [.node 0, .node 1, .node 2, .node 3]) := by
    unfold toParts
    cbv
  have haround :
      aroundInnermost.eval nestedDocument rootContext =
        .ok (.nodes [.node 0, .node 1, .node 3]) := by cbv
  have hparse : Parser.parseTokens partsLexemes = .ok (.path .root toParts) := by cbv
  have haccepted : aroundInnermost.throughout Expr.callAccepted = true := rfl
  have hliteral : (Expr.literal "b").throughout Expr.callAccepted = true := rfl
  have hfails :
      (Expr.binary .union (.literal "b") (.path .root toParts)).eval nestedDocument rootContext =
        .error .notANodeSet := by
    unfold toParts
    cbv
  have hgrouped :
      (Expr.binary .union (.binary .union (.path .root toParts) (.literal "b"))
        aroundInnermost).eval nestedDocument rootContext = .error .notANodeSet := by
    unfold toParts
    cbv
  have hparts := hparsed _ _ hparse
  refine ⟨hunion, (hcomm _ _ _).mp hunion, haround, (hself _ _ haround).trans haround, hparse,
    hparts, haccepted, hliteral, ?_, ?_⟩
  · rw [hcommFails _ _ hparts hliteral]
    exact hfails
  · rw [← hassocFails _ _ _ hparts hliteral haccepted]
    exact hgrouped

end Locator
end RecordExtraction
