import Mathlib
import RecordExtraction.Proofs.Locator.PathAlgebra

/-!
# Comparisons with unions

A set of items is compared by the texts of its items: the comparison holds when it holds for one of
them.  It makes no difference then whether the items of two sets are compared as one set or each set
on its own.  Only a truth value is compared with a set as a whole.
-/

namespace RecordExtraction
namespace Locator

open Item Markup

variable {document : Document} {comparison : Comparison} {context : Context}

/-! ## Comparing the items one by one -/

theorem comparands_nodes {items : List Item} {other : Value} (hother : other.kind ≠ .boolean) :
    comparands document (.nodes items) other = itemTexts document items := by
  cases other with
  | boolean value => exact absurd rfl hother
  | nodes _ | number _ | text _ => rfl

/-- What a value stands for beside a set of items does not depend on the set. -/
theorem comparands_beside_nodes (value : Value) (items : List Item) :
    comparands document value (.nodes items) = comparands document value (.nodes []) := by
  cases value <;> rfl

theorem compareValues_nodes_left {items : List Item} {other : Value}
    (hother : other.kind ≠ .boolean) :
    compareValues document comparison (.nodes items) other =
      items.any fun item =>
        (comparands document other (.nodes [])).any fun r =>
          compareScalars document comparison (.text (item.text document)) r := by
  unfold compareValues
  rw [comparands_nodes hother, comparands_beside_nodes other items, itemTexts, List.any_map]
  rfl

theorem compareValues_nodes_right {items : List Item} {other : Value}
    (hother : other.kind ≠ .boolean) :
    compareValues document comparison other (.nodes items) =
      items.any fun item =>
        (comparands document other (.nodes [])).any fun l =>
          compareScalars document comparison l (.text (item.text document)) := by
  unfold compareValues
  rw [comparands_nodes hother, comparands_beside_nodes other items, Bool.eq_iff_iff]
  simp only [itemTexts, List.any_map, List.any_eq_true, Function.comp_apply]
  constructor
  · intro h
    obtain ⟨l, hl, item, hitem, hcompares⟩ := h
    exact ⟨item, hitem, l, hl, hcompares⟩
  · intro h
    obtain ⟨item, hitem, l, hl, hcompares⟩ := h
    exact ⟨l, hl, item, hitem, hcompares⟩

/-! ## Unions -/

theorem any_normalize_append {first second : List Item} (test : Item → Bool) :
    (normalize (first ++ second)).any test = (first.any test || second.any test) := by
  have hmem : ∀ item, item ∈ normalize (first ++ second) ↔ item ∈ first ∨ item ∈ second := by
    intro item
    rw [mem_normalize, List.mem_append]
  rw [Bool.eq_iff_iff]
  simp only [Bool.or_eq_true, List.any_eq_true, hmem, or_and_right, exists_or]

theorem compareValues_union_left {first second : List Item} {other : Value}
    (hother : other.kind ≠ .boolean) :
    compareValues document comparison (.nodes (normalize (first ++ second))) other =
      (compareValues document comparison (.nodes first) other ||
        compareValues document comparison (.nodes second) other) := by
  simp only [compareValues_nodes_left hother, any_normalize_append]

theorem compareValues_union_right {first second : List Item} {other : Value}
    (hother : other.kind ≠ .boolean) :
    compareValues document comparison other (.nodes (normalize (first ++ second))) =
      (compareValues document comparison other (.nodes first) ||
        compareValues document comparison other (.nodes second)) := by
  simp only [compareValues_nodes_right hother, any_normalize_append]

namespace Expr

variable {left right : Expr}

theorem eval_compare {l r : Value} (hleft : left.eval document context = .ok l)
    (hright : right.eval document context = .ok r) :
    (Expr.binary (.compare comparison) left right).eval document context =
      .ok (.boolean (compareValues document comparison l r)) := by
  simp only [Expr.eval, hleft, hright, ok_bind, decidedByLeft, combine]

theorem eval_or {l r : Bool} (hleft : left.eval document context = .ok (.boolean l))
    (hright : right.eval document context = .ok (.boolean r)) :
    (Expr.binary .or left right).eval document context = .ok (.boolean (l || r)) := by
  simp only [Expr.eval, hleft, hright, ok_bind, decidedByLeft, combine, Value.toBool]
  cases l <;> rfl

end Expr

/-- The operands are sets of items, and what they are compared with is no truth value: then a
comparison of the union, on either side, evaluates to the same truth value as the disjunction of the
comparisons of its operands. -/
theorem comparisons_distribute_over_union
    (document : Document) (context : Context) (comparison : Comparison) (a b c : Expr)
    {first second : List Item} {other : Value}
    (ha : a.eval document context = .ok (.nodes first))
    (hb : b.eval document context = .ok (.nodes second))
    (hc : c.eval document context = .ok other) (hother : other.kind ≠ .boolean) :
    (∃ truth,
      (Expr.binary (.compare comparison) (.binary .union a b) c).eval document context =
        .ok (.boolean truth) ∧
      (Expr.binary .or (.binary (.compare comparison) a c)
          (.binary (.compare comparison) b c)).eval document context = .ok (.boolean truth)) ∧
    ∃ truth,
      (Expr.binary (.compare comparison) c (.binary .union a b)).eval document context =
        .ok (.boolean truth) ∧
      (Expr.binary .or (.binary (.compare comparison) c a)
          (.binary (.compare comparison) c b)).eval document context = .ok (.boolean truth) := by
  have hunion :
      (Expr.binary .union a b).eval document context =
        .ok (.nodes (normalize (first ++ second))) :=
    Expr.eval_union_eq_ok_iff.mpr ⟨first, second, ha, hb, rfl⟩
  constructor
  · refine ⟨_, Expr.eval_compare hunion hc, ?_⟩
    rw [compareValues_union_left hother]
    exact Expr.eval_or (Expr.eval_compare ha hc) (Expr.eval_compare hb hc)
  · refine ⟨_, Expr.eval_compare hc hunion, ?_⟩
    rw [compareValues_union_right hother]
    exact Expr.eval_or (Expr.eval_compare hc ha) (Expr.eval_compare hc hb)

/-- An element `price` with the text `7` and an element `fee` with the text `12`. -/
def pricedDocument : Document :=
  .ofContent
    (.element ⟨none, "order", [], {}⟩
      (.element ⟨none, "price", [], {}⟩ (.leaf (.text "7") .nil)
        (.element ⟨none, "fee", [], {}⟩ (.leaf (.text "12") .nil) .nil))
      .nil)

/-- The elements of a name, anywhere in the document. -/
def named (name : String) : Expr :=
  .path .root [.anyDepth, .mk .child (.name none (some name)) []]

theorem price_or_fee_differs_from_fee :
    (named "price").eval pricedDocument rootContext = .ok (.nodes [.node 2]) ∧
    (named "fee").eval pricedDocument rootContext = .ok (.nodes [.node 4]) ∧
    (Value.nodes [.node 4]).kind ≠ .boolean ∧
    (Expr.binary (.compare .notEqual) (.binary .union (named "price") (named "fee"))
        (named "fee")).eval pricedDocument rootContext = .ok (.boolean true) ∧
    (Expr.binary .or (.binary (.compare .notEqual) (named "price") (named "fee"))
        (.binary (.compare .notEqual) (named "fee") (named "fee"))).eval
          pricedDocument rootContext = .ok (.boolean true) ∧
    (Expr.binary .or (.binary (.compare .notEqual) (named "fee") (named "price"))
        (.binary (.compare .notEqual) (named "fee") (named "fee"))).eval
          pricedDocument rootContext = .ok (.boolean true) := by
  have hprice : (named "price").eval pricedDocument rootContext = .ok (.nodes [.node 2]) := by cbv
  have hfee : (named "fee").eval pricedDocument rootContext = .ok (.nodes [.node 4]) := by cbv
  have hkind : (Value.nodes [.node 4]).kind ≠ .boolean := by decide
  obtain ⟨⟨left, hleft, hleftEach⟩, right, hright, hrightEach⟩ :=
    comparisons_distribute_over_union pricedDocument rootContext .notEqual _ _ _ hprice hfee hfee
      hkind
  have hdiffers :
      (Expr.binary (.compare .notEqual) (.binary .union (named "price") (named "fee"))
        (named "fee")).eval pricedDocument rootContext = .ok (.boolean true) := by cbv
  have hback :
      (Expr.binary (.compare .notEqual) (named "fee")
        (.binary .union (named "price") (named "fee"))).eval pricedDocument rootContext =
      .ok (.boolean true) := by cbv
  rw [hdiffers] at hleft
  rw [hback] at hright
  exact ⟨hprice, hfee, hkind, hdiffers, hleftEach.trans hleft.symm,
    hrightEach.trans hright.symm⟩

end Locator
end RecordExtraction
