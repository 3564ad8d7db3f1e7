import Mathlib
import RecordExtraction.Proofs.Locator.GrammarCompleteness
import RecordExtraction.Proofs.Locator.SiblingPaths

/-!
# Two slashes lead to what is inside

Two slashes between steps stand for a step of their own, to the items at hand and everything inside
them.  The children of all these are what is inside the items at hand, because every node inside
another one has a parent, which is the other one or inside it as well.  An attribute has nothing
inside it on either way.
-/

namespace RecordExtraction

open Locator Markup

namespace Markup.Document

variable {document : Document} {outer inner : Nat}

theorem encloses_iff_exists_child :
    document.Encloses outer inner ↔
      ∃ middle, document.Covers outer middle ∧ inner ∈ document.children middle := by
  simp only [mem_children]
  constructor
  · intro h
    have hpos : 0 < inner := Nat.zero_lt_of_lt h.lt
    obtain ⟨parent, hparent⟩ := exists_parent hpos h.lt_size
    obtain ⟨hencloses, hnearest⟩ := parent?_eq_some_iff.mp hparent
    have hwithin : parent ≤ document.last outer :=
      hencloses.lt.le.trans (encloses_iff.mp h).2
    exact ⟨parent, covers_iff.mpr ⟨hnearest outer h, hwithin⟩, hparent⟩
  · intro h
    rcases h with ⟨middle, hcovers, hparent⟩
    have hencloses := (parent?_eq_some_iff.mp hparent).1
    rcases hcovers with rfl | houter
    · exact hencloses
    · exact houter.trans hencloses

end Markup.Document

namespace Locator

open Item

/-! ## The step that two slashes stand for -/

section

variable {document : Document} {context : Context} {test : NodeTest} {item start : Item}

theorem mem_descendant_iff_exists_child :
    item ∈ Axis.descendant.items document start ↔
      ∃ middle ∈ Axis.descendantOrSelf.items document start,
        item ∈ Axis.child.items document middle := by
  cases start with
  | «attribute» owner position => simp [Axis.items]
  | node id =>
      simp only [mem_descendantOrSelf]
      constructor
      · intro h
        obtain ⟨inner, hinner, rfl⟩ := List.mem_map.mp h
        obtain ⟨middle, hcovers, hchild⟩ :=
          Document.encloses_iff_exists_child.mp (Document.mem_descendants.mp hinner)
        exact ⟨.node middle, ⟨middle, hcovers, rfl⟩, List.mem_map_of_mem hchild⟩
      · intro h
        rcases h with ⟨_, ⟨middle, hcovers, rfl⟩, hitem⟩
        obtain ⟨inner, hchild, rfl⟩ := List.mem_map.mp hitem
        apply List.mem_map_of_mem
        exact Document.mem_descendants.mpr
          (Document.encloses_iff_exists_child.mpr ⟨middle, hcovers, hchild⟩)

theorem reach_children_at_anyDepth (items : List Item) :
    reach document [(.descendantOrSelf, .any), (.child, test)] items =
      reach document [(.descendant, test)] items := by
  apply normalize_congr
  intro item
  have hsame : test.accepts document .child item = test.accepts document .descendant item :=
    accepts_of_ne_attributes _ _ (by decide) (by decide)
  simp only [List.mem_flatMap, mem_normalize, mem_candidates, accepts_any, and_true, hsame,
    mem_descendant_iff_exists_child]
  constructor
  · intro h
    rcases h with ⟨middle, ⟨start, hstart, hmiddle⟩, hitem, haccepts⟩
    exact ⟨start, hstart, ⟨middle, hmiddle, hitem⟩, haccepts⟩
  · intro h
    rcases h with ⟨start, hstart, ⟨middle, hmiddle, hitem⟩, haccepts⟩
    exact ⟨middle, ⟨start, hstart, hmiddle⟩, hitem, haccepts⟩

theorem walk_children_at_anyDepth (items : List Item) :
    walk document [.anyDepth, .mk .child test []] items =
      walk document [.mk .descendant test []] items := by
  have hdown : walk document [.anyDepth, .mk .child test []] items = .ok _ :=
    walk_plain [(.descendantOrSelf, .any), (.child, test)] items
  have hstraight : walk document [.mk .descendant test []] items = .ok _ :=
    walk_plain [(.descendant, test)] items
  rw [hdown, hstraight, reach_children_at_anyDepth]

theorem Expr.eval_children_at_anyDepth (start : Start) (steps : List Step) :
    (Expr.path start (steps ++ [Step.anyDepth, Step.mk .child test []])).eval document context =
      (Expr.path start (steps ++ [Step.mk .descendant test []])).eval document context := by
  have hwalk :
      walk document [.anyDepth, .mk .child test []] = walk document [.mk .descendant test []] :=
    funext walk_children_at_anyDepth
  simp only [Expr.eval, walk_append, hwalk]

end

/-! ## How the parser reads two slashes -/

/-- The tokens are where a path begins and its steps so far, before a separator and more steps. -/
inductive OpensPath : List Token → Start → List Step → Prop where
  | root :
      OpensPath [] .root []
  | absolute {steps : List Step} {ts : List Token} :
      Derives (.steps steps) ts →
      OpensPath (.slash :: ts) .root steps
  | absoluteAnyDepth {steps : List Step} {ts : List Token} :
      Derives (.steps steps) ts →
      OpensPath (.doubleSlash :: ts) .root (.anyDepth :: steps)
  | relative {steps : List Step} {ts : List Token} :
      Derives (.steps steps) ts →
      OpensPath ts .context steps
  | filtered {primary : Expr} {predicates : List Expr} {ts us : List Token} :
      Derives (.primary primary) ts →
      Derives (.predicates predicates) us →
      OpensPath (ts ++ us) (.filter (primary.filteredBy predicates)) []
  | continued {primary : Expr} {predicates : List Expr} {separator : Token}
      {implied steps : List Step} {ts us vs : List Token} :
      Derives (.primary primary) ts →
      Derives (.predicates predicates) us →
      Separates separator implied →
      Derives (.steps steps) vs →
      OpensPath (ts ++ us ++ separator :: vs) (.filter (primary.filteredBy predicates))
        (implied ++ steps)

section

variable {separator : Token} {implied later : List Step} {us : List Token}

theorem Derives.append_steps (hseparates : Separates separator implied)
    (hlater : Derives (.steps later) us) {first : List Step} {ts : List Token}
    (hfirst : Derives (.steps first) ts) :
    Derives (.steps (first ++ implied ++ later)) (ts ++ separator :: us) := by
  generalize hphrase : Phrase.steps first = phrase at hfirst
  induction hfirst generalizing first with
  | lastStep hstep _ =>
      cases hphrase
      exact .nextStep hstep hseparates hlater
  | nextStep hstep hbetween hrest _ ih =>
      cases hphrase
      simpa using Derives.nextStep hstep hbetween (ih rfl)
  | _ => cases hphrase

theorem OpensPath.derives {start : Start} {steps : List Step} {ts : List Token}
    (hopens : OpensPath ts start steps) (hseparates : Separates separator implied)
    (hlater : Derives (.steps later) us) :
    Derives (.expression .path (.path start (steps ++ implied ++ later)))
      (ts ++ separator :: us) := by
  cases hopens with
  | root =>
      cases hseparates with
      | slash => exact .absolute hlater
      | doubleSlash => exact .absoluteAnyDepth hlater
  | absolute hsteps => exact .absolute (.append_steps hseparates hlater hsteps)
  | absoluteAnyDepth hsteps => exact .absoluteAnyDepth (.append_steps hseparates hlater hsteps)
  | relative hsteps => exact .relative (.append_steps hseparates hlater hsteps)
  | filtered hprimary hpredicates => exact .continued hprimary hpredicates hseparates hlater
  | continued hprimary hpredicates hbetween hsteps =>
      have happend := Derives.append_steps hseparates hlater hsteps
      simpa using Derives.continued hprimary hpredicates hbetween happend

theorem OpensPath.parseTokens {start : Start} {steps : List Step} {ts : List Token}
    (hopens : OpensPath ts start steps) (hseparates : Separates separator implied) {step : Step}
    (hstep : Derives (.step step) us) {lexemes : List Lexeme}
    (htokens : lexemes.map Lexeme.token = ts ++ separator :: us) :
    Parser.parseTokens lexemes = .ok (.path start (steps ++ implied ++ [step])) := by
  apply Parser.parseTokens_of_derives_path
  rw [htokens]
  exact hopens.derives hseparates (.lastStep hstep)

end

/-- The step that two slashes stand for and a step to the children select what a step to the
descendants does, wherever the path begins and whatever its steps before are; if these fail, both
paths fail in the same way.  The two paths are the ones that the parser makes of a test after two
slashes, and after one slash and the name of the axis. -/
theorem anyDepth_agrees_with_descendants (document : Document) (context : Context) :
    (∀ (start : Start) (steps : List Step) (test : NodeTest),
      (Expr.path start (steps ++ [Step.anyDepth, Step.mk .child test []])).eval document context =
        (Expr.path start (steps ++ [Step.mk .descendant test []])).eval document context) ∧
    ∀ (opening tested : List Token) (start : Start) (steps : List Step) (test : NodeTest)
      (short long : List Lexeme),
      OpensPath opening start steps → Derives (.test test) tested →
      short.map Lexeme.token = opening ++ Token.doubleSlash :: tested →
      long.map Lexeme.token =
        opening ++ Token.slash :: .axisName "descendant" :: .axisMark :: tested →
        Parser.parseTokens short =
          .ok (.path start (steps ++ [Step.anyDepth, Step.mk .child test []])) ∧
        Parser.parseTokens long = .ok (.path start (steps ++ [Step.mk .descendant test []])) := by
  constructor
  · intro start steps test
    exact Expr.eval_children_at_anyDepth start steps
  · intro opening tested start steps test short long hopens htest hshort hlong
    have hchild : Derives (.step (.mk .child test [])) (tested ++ []) :=
      .childStep htest .noPredicates
    have hdescendant : Derives (.step (.mk .descendant test []))
        (.axisName "descendant" :: .axisMark :: (tested ++ [])) :=
      .axisStep rfl htest .noPredicates
    rw [List.append_nil] at hchild hdescendant
    have hbelow := hopens.parseTokens .doubleSlash hchild hshort
    have hstraight := hopens.parseTokens .slash hdescendant hlong
    rw [List.append_assoc] at hbelow
    rw [List.append_nil] at hstraight
    exact ⟨hbelow, hstraight⟩

/-- The elements `b`, of which one holds another element, and all attributes. -/
def partsAndAttributes : Expr :=
  .binary .union (.path .root [.anyDepth, .mk .child (.name none (some "b")) []])
    (.path .root [.anyDepth, .mk .attributes (.name none none) []])

/-- The lexemes of `//b|//@*`. -/
def partsAndAttributesLexemes : List Lexeme :=
  [⟨.doubleSlash, 1, '/'⟩, ⟨.nameTest none (some "b"), 3, 'b'⟩, ⟨.operator .union, 4, '|'⟩,
    ⟨.doubleSlash, 5, '/'⟩, ⟨.atSign, 7, '@'⟩, ⟨.nameTest none none, 8, '*'⟩]

/-- The lexemes of `node()`. -/
def anyNodeLexemes (offset : Nat) : List Lexeme :=
  [⟨.nodeType .any, offset, 'n'⟩, ⟨.leftParen, offset + 4, '('⟩, ⟨.rightParen, offset + 5, ')'⟩]

def parenthesizedParts : List Lexeme :=
  ⟨.leftParen, 0, '('⟩ :: (partsAndAttributesLexemes ++ [⟨.rightParen, 9, ')'⟩])

theorem anyDepth_agrees_with_descendants_of_parts :
    Parser.parseTokens (parenthesizedParts ++ ⟨.doubleSlash, 10, '/'⟩ :: anyNodeLexemes 12) =
      .ok (.path (.filter partsAndAttributes) [.anyDepth, .mk .child .any []]) ∧
    Parser.parseTokens
        (parenthesizedParts ++ ⟨.slash, 10, '/'⟩ :: ⟨.axisName "descendant", 11, 'd'⟩ ::
          ⟨.axisMark, 21, ':'⟩ :: anyNodeLexemes 23) =
      .ok (.path (.filter partsAndAttributes) [.mk .descendant .any []]) ∧
    partsAndAttributes.eval nestedDocument rootContext =
      .ok (.nodes [.attribute 1 0, .node 2, .node 3]) ∧
    (Expr.path (.filter partsAndAttributes) [.anyDepth, .mk .child .any []]).eval
      nestedDocument rootContext = .ok (.nodes [.node 4]) := by
  obtain ⟨hagrees, hparsed⟩ := anyDepth_agrees_with_descendants nestedDocument rootContext
  have hinside : Parser.parseTokens partsAndAttributesLexemes = .ok partsAndAttributes := by cbv
  have hprimary : Derives (.primary partsAndAttributes)
      (.leftParen :: (partsAndAttributesLexemes.map Lexeme.token ++ [.rightParen])) :=
    .parenthesized (Parser.derives_of_parseTokens hinside)
  have hopens : OpensPath _ (.filter partsAndAttributes) [] := .filtered hprimary .noPredicates
  obtain ⟨hshort, hlong⟩ :=
    hparsed _ _ _ _ _ (parenthesizedParts ++ ⟨.doubleSlash, 10, '/'⟩ :: anyNodeLexemes 12)
      (parenthesizedParts ++ ⟨.slash, 10, '/'⟩ :: ⟨.axisName "descendant", 11, 'd'⟩ ::
        ⟨.axisMark, 21, ':'⟩ :: anyNodeLexemes 23)
      hopens .anyTest rfl rfl
  have hitems :
      partsAndAttributes.eval nestedDocument rootContext =
        .ok (.nodes [.attribute 1 0, .node 2, .node 3]) := by cbv
  have hdescendants :
      (Expr.path (.filter partsAndAttributes) [.mk .descendant .any []]).eval
        nestedDocument rootContext = .ok (.nodes [.node 4]) := by cbv
  exact ⟨hshort, hlong, hitems, (hagrees _ [] _).trans hdescendants⟩

end Locator
end RecordExtraction
