import Mathlib
import RecordExtraction.Proofs.Locator.Comparisons
import RecordExtraction.Proofs.Number.WholeNumbers

/-!
# Comparisons the other way round

A comparison takes its operands in one order: it asks for the kinds of the left one and of the right
one in turn, and a set of items on the one side is handled apart from a set on the other.  Yet
nothing depends on the order.  With the operands exchanged, the converse comparison has the same
value, because numbers compare conversely, equality of scalars is symmetric, and "some pair of
comparands" is the same for both orders.
-/

namespace RecordExtraction

namespace Locator

open Markup

/-- The comparison that holds of two values exactly when the given one holds of them in the other
order. -/
def Comparison.converse : Comparison → Comparison
  | .equal => .equal
  | .notEqual => .notEqual
  | .less => .greater
  | .lessOrEqual => .greaterOrEqual
  | .greater => .less
  | .greaterOrEqual => .lessOrEqual

variable {document : Document} {context : Context} {comparison : Comparison}

/-! ## Values -/

theorem equalScalars_comm (left right : Value) :
    equalScalars document left right = equalScalars document right left := by
  -- A truth value decides how the two are compared, then a number, on whichever side it stands.
  cases left with
  | boolean a => cases right <;> exact Bool.beq_comm
  | number a =>
      cases right with
      | boolean b => exact Bool.beq_comm
      | number _ | nodes _ | text _ => exact Number.equal_comm _ _
  | nodes _ | text _ =>
      cases right with
      | boolean b => exact Bool.beq_comm
      | number b => exact Number.equal_comm _ _
      | nodes _ | text _ => exact BEq.comm

theorem compareScalars_converse (left right : Value) :
    compareScalars document comparison.converse right left =
      compareScalars document comparison left right := by
  cases comparison with
  | equal => exact equalScalars_comm right left
  | notEqual => exact congrArg not (equalScalars_comm right left)
  | less | lessOrEqual | greater | greaterOrEqual => rfl

theorem compareValues_converse (left right : Value) :
    compareValues document comparison.converse right left =
      compareValues document comparison left right := by
  unfold compareValues
  rw [Bool.eq_iff_iff]
  simp only [List.any_eq_true, compareScalars_converse]
  constructor
  · intro h
    rcases h with ⟨r, hr, l, hl, hholds⟩
    exact ⟨l, hl, r, hr, hholds⟩
  · intro h
    rcases h with ⟨l, hl, r, hr, hholds⟩
    exact ⟨r, hr, l, hl, hholds⟩

namespace Expr

variable {a b : Expr} {value : Value}

theorem eval_compare_eq_ok_iff :
    (Expr.binary (.compare comparison) a b).eval document context = .ok value ↔
      ∃ l r, a.eval document context = .ok l ∧ b.eval document context = .ok r ∧
        value = .boolean (compareValues document comparison l r) := by
  simp only [Expr.eval, decidedByLeft, combine, bind_eq_ok_iff, Except.ok.injEq]
  constructor
  · intro h
    rcases h with ⟨l, hl, r, hr, hvalue⟩
    exact ⟨l, r, hl, hr, hvalue.symm⟩
  · intro h
    rcases h with ⟨l, r, hl, hr, hvalue⟩
    exact ⟨l, hl, r, hr, hvalue.symm⟩

theorem eval_converse_eq_ok_iff :
    (Expr.binary (.compare comparison) a b).eval document context = .ok value ↔
      (Expr.binary (.compare comparison.converse) b a).eval document context = .ok value := by
  simp only [eval_compare_eq_ok_iff, compareValues_converse]
  constructor
  · intro h
    rcases h with ⟨l, r, hl, hr, hvalue⟩
    exact ⟨r, l, hr, hl, hvalue⟩
  · intro h
    rcases h with ⟨r, l, hr, hl, hvalue⟩
    exact ⟨l, r, hl, hr, hvalue⟩

theorem eval_converse
    (ha : a.throughout callAccepted = true) (hb : b.throughout callAccepted = true) :
    (Expr.binary (.compare comparison) a b).eval document context =
      (Expr.binary (.compare comparison.converse) b a).eval document context := by
  apply eval_eq_of_same_values
  · simp [throughout, callAccepted, ha, hb]
  · simp [throughout, callAccepted, ha, hb]
  · intro value
    exact eval_converse_eq_ok_iff

end Expr

/-- Exchanging the operands turns a comparison into the converse one, whatever kinds the operands
are of: the one has a value exactly when the other has it.  If every call has as many arguments as
its function takes, which is so in what the parser makes, the two fail alike as well. -/
theorem comparisons_hold_conversely (document : Document) (context : Context)
    (comparison : Comparison) :
    (∀ (a b : Expr) (value : Value),
      (Expr.binary (.compare comparison) a b).eval document context = .ok value ↔
        (Expr.binary (.compare comparison.converse) b a).eval document context = .ok value) ∧
    (∀ a b : Expr,
      a.throughout Expr.callAccepted = true → b.throughout Expr.callAccepted = true →
        (Expr.binary (.compare comparison) a b).eval document context =
          (Expr.binary (.compare comparison.converse) b a).eval document context) ∧
    ∀ (first second : List Lexeme) (a b : Expr),
      Parser.parseTokens first = .ok a → Parser.parseTokens second = .ok b →
        (Expr.binary (.compare comparison) a b).eval document context =
          (Expr.binary (.compare comparison.converse) b a).eval document context := by
  refine ⟨fun a b value => Expr.eval_converse_eq_ok_iff, fun a b => Expr.eval_converse, ?_⟩
  intro first second a b ha hb
  exact Expr.eval_converse (callsAccepted_of_parseTokens ha) (callsAccepted_of_parseTokens hb)

/-- One operand of the union is no set of items. -/
def priceOrText : Expr := .binary .union (named "price") (.literal "7")

def pricesLexemes : List Lexeme := [⟨.doubleSlash, 0, '/'⟩, ⟨.nameTest none (some "price"), 2, 'p'⟩]

theorem prices_compare_conversely :
    (Expr.binary (.compare .less) (named "price") (.number 8)).eval pricedDocument rootContext =
      .ok (.boolean true) ∧
    (Expr.binary (.compare .greater) (.number 8) (named "price")).eval pricedDocument rootContext =
      .ok (.boolean true) ∧
    (named "fee").throughout Expr.callAccepted = true ∧
    priceOrText.throughout Expr.callAccepted = true ∧
    (Expr.binary (.compare .lessOrEqual) (named "fee") priceOrText).eval
      pricedDocument rootContext = .error .notANodeSet ∧
    (Expr.binary (.compare .greaterOrEqual) priceOrText (named "fee")).eval
      pricedDocument rootContext = .error .notANodeSet ∧
    Parser.parseTokens pricesLexemes = .ok (named "price") ∧
    Parser.parseTokens [⟨.literal "12", 0, '"'⟩] = .ok (.literal "12") ∧
    (Expr.binary (.compare .notEqual) (.literal "12") (named "price")).eval
      pricedDocument rootContext = .ok (.boolean true) := by
  have hprice : (named "price").eval pricedDocument rootContext = .ok (.nodes [.node 2]) := by cbv
  have hbelow : compareValues pricedDocument .less (.nodes [.node 2]) (.number 8) = true := by
    have htext : (Item.node 2).text pricedDocument = "7" := by cbv
    have hnumbers : (parseNumber "7").less 8 = true := by decide +kernel
    simpa [compareValues, comparands, itemTexts, htext, compareScalars, Comparison.ofNumbers,
      Value.toNumber] using hnumbers
  have hless :
      (Expr.binary (.compare .less) (named "price") (.number 8)).eval
        pricedDocument rootContext = .ok (.boolean true) := by
    rw [Expr.eval_compare hprice rfl, hbelow]
  have hfee : (named "fee").throughout Expr.callAccepted = true := rfl
  have hunion : priceOrText.throughout Expr.callAccepted = true := rfl
  have hfails :
      (Expr.binary (.compare .lessOrEqual) (named "fee") priceOrText).eval
        pricedDocument rootContext = .error .notANodeSet := by cbv
  have hprices : Parser.parseTokens pricesLexemes = .ok (named "price") := by cbv
  have htext : Parser.parseTokens [⟨.literal "12", 0, '"'⟩] = .ok (.literal "12") := by cbv
  have hdiffers :
      (Expr.binary (.compare .notEqual) (named "price") (.literal "12")).eval
        pricedDocument rootContext = .ok (.boolean true) := by cbv
  have hvalues := (comparisons_hold_conversely pricedDocument rootContext .less).1
  have hfailures := (comparisons_hold_conversely pricedDocument rootContext .lessOrEqual).2.1
  have hparsed := (comparisons_hold_conversely pricedDocument rootContext .notEqual).2.2
  refine ⟨hless, (hvalues _ _ _).mp hless, hfee, hunion, hfails, ?_, hprices, htext, ?_⟩
  · rw [← hfails]
    exact (hfailures _ _ hfee hunion).symm
  · rw [← hdiffers]
    exact (hparsed _ _ _ _ hprices htext).symm

end Locator
end RecordExtraction
