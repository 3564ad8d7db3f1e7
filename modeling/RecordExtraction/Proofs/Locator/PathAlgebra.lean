import Mathlib
import RecordExtraction.Proofs.Locator.KindSoundness

/-!
# Paths compose and distribute over unions

A step selects from a list of items what it selects from any of them, in document order; so all
that counts is which items there are, not in how many lists they come or in which order.  Hence a
path that begins where another one ends is one path, and a path that begins at a union is the union
of two paths.  What fails on one side fails on the other, and in the same way.
-/

namespace RecordExtraction
namespace Locator

open Item Markup

/-! ## Steps on merged lists -/

theorem exists_selectAll
    {step : Item → Except PathError (List Item)} {items : List Item}
    (heach : ∀ item ∈ items, ∃ found, step item = .ok found) :
    ∃ selected, selectAll step items = .ok selected := by
  have hall : ∃ results, items.mapM step = .ok results := by
    simp only [mapM_eq_ok_iff]
    induction items with
    | nil => exact ⟨[], .nil⟩
    | cons item rest ih =>
        obtain ⟨found, hfound⟩ := heach item List.mem_cons_self
        obtain ⟨later, hlater⟩ := ih fun other hother => heach other (List.mem_cons_of_mem _ hother)
        exact ⟨found :: later, .cons hfound hlater⟩
  obtain ⟨results, hresults⟩ := hall
  exact ⟨Item.normalize results.flatten, by rw [selectAll, hresults, ok_bind]⟩

theorem mem_selectAll
    {step : Item → Except PathError (List Item)} {items selected : List Item}
    (hselected : selectAll step items = .ok selected) :
    (∀ item ∈ items, ∃ found, step item = .ok found) ∧
      ∀ other, other ∈ selected ↔
        ∃ item ∈ items, ∃ found, step item = .ok found ∧ other ∈ found := by
  simp only [selectAll, bind_eq_ok_iff, Except.ok.injEq, mapM_eq_ok_iff] at hselected
  obtain ⟨results, hresults, rfl⟩ := hselected
  constructor
  · intro item hitem
    obtain ⟨found, -, hfound⟩ := exists_mem_of_forall₂ hresults hitem
    exact ⟨found, hfound⟩
  · intro other
    rw [mem_normalize, List.mem_flatten]
    constructor
    · rintro ⟨found, hmem, hother⟩
      obtain ⟨item, hitem, hfound⟩ := exists_mem_of_forall₂ hresults.flip hmem
      exact ⟨item, hitem, found, hfound, hother⟩
    · rintro ⟨item, hitem, found, hfound, hother⟩
      obtain ⟨found', hmem, hfound'⟩ := exists_mem_of_forall₂ hresults hitem
      obtain rfl : found = found' := by rwa [hfound, Except.ok.injEq] at hfound'
      exact ⟨found, hmem, hother⟩

/-- A step selects something from a list of items exactly when it does from each of them, and then
the items that it selects from any of them, in document order. -/
theorem selectAll_eq_ok_iff
    {step : Item → Except PathError (List Item)} {items selected : List Item} :
    selectAll step items = .ok selected ↔
      InOrder selected ∧ (∀ item ∈ items, ∃ found, step item = .ok found) ∧
        ∀ other, other ∈ selected ↔
          ∃ item ∈ items, ∃ found, step item = .ok found ∧ other ∈ found := by
  constructor
  · intro hselected
    exact ⟨inOrder_selectAll hselected, mem_selectAll hselected⟩
  · rintro ⟨horder, heach, hmem⟩
    obtain ⟨selected', hselected'⟩ := exists_selectAll heach
    have hsame : selected = selected' := by
      refine horder.ext (inOrder_selectAll hselected') ?_
      intro other
      rw [hmem, (mem_selectAll hselected').2]
    rw [hsame, hselected']

/-- What a step selects from the items of two lists is what it selects from the two lists. -/
theorem selectAll_merged
    {step : Item → Except PathError (List Item)} {first second merged selected : List Item}
    (hmerged : ∀ item, item ∈ merged ↔ item ∈ first ∨ item ∈ second) :
    selectAll step merged = .ok selected ↔
      ∃ a b, selectAll step first = .ok a ∧ selectAll step second = .ok b ∧
        selected = normalize (a ++ b) := by
  constructor
  · intro hselected
    obtain ⟨heach, hmem⟩ := mem_selectAll hselected
    obtain ⟨a, ha⟩ :=
      exists_selectAll fun item hitem => heach item ((hmerged item).mpr (.inl hitem))
    obtain ⟨b, hb⟩ :=
      exists_selectAll fun item hitem => heach item ((hmerged item).mpr (.inr hitem))
    refine ⟨a, b, ha, hb, (inOrder_selectAll hselected).ext (inOrder_normalize _) ?_⟩
    intro other
    rw [hmem, mem_normalize, List.mem_append, (mem_selectAll ha).2, (mem_selectAll hb).2]
    simp only [hmerged, or_and_right, exists_or]
  · rintro ⟨a, b, ha, hb, rfl⟩
    obtain ⟨hfirst, hmemFirst⟩ := mem_selectAll ha
    obtain ⟨hsecond, hmemSecond⟩ := mem_selectAll hb
    refine selectAll_eq_ok_iff.mpr ⟨inOrder_normalize _, ?_, ?_⟩
    · intro item hitem
      exact ((hmerged item).mp hitem).elim (hfirst item) (hsecond item)
    · intro other
      rw [mem_normalize, List.mem_append, hmemFirst, hmemSecond]
      simp only [hmerged, or_and_right, exists_or]

/-- What steps reach from the union of two lists is the union of what they reach from the two. -/
theorem walk_union {document : Document} {steps : List Step} {first second reached : List Item} :
    walk document steps (normalize (first ++ second)) = .ok reached ↔
      ∃ a b, walk document steps first = .ok a ∧ walk document steps second = .ok b ∧
        reached = normalize (a ++ b) := by
  induction steps generalizing first second with
  | nil => simp [walk, eq_comm]
  | cons step rest ih =>
      have hunion : ∀ item,
          item ∈ normalize (first ++ second) ↔ item ∈ first ∨ item ∈ second := by
        intro item
        rw [mem_normalize, List.mem_append]
      simp only [walk, bind_eq_ok_iff, selectAll_merged hunion]
      constructor
      · rintro ⟨_, ⟨a, b, ha, hb, rfl⟩, hrest⟩
        obtain ⟨a', b', ha', hb', hreached⟩ := ih.mp hrest
        exact ⟨a', b', ⟨a, ha, ha'⟩, ⟨b, hb, hb'⟩, hreached⟩
      · rintro ⟨a', b', ⟨a, ha, ha'⟩, ⟨b, hb, hb'⟩, hreached⟩
        exact ⟨_, ⟨a, b, ha, hb, rfl⟩, ih.mpr ⟨a', b', ha', hb', hreached⟩⟩

theorem walk_append (document : Document) (first later : List Step) (items : List Item) :
    walk document (first ++ later) items = walk document first items >>= walk document later := by
  induction first generalizing items with
  | nil => rfl
  | cons step rest ih =>
      simp only [List.cons_append, walk, bind_assoc, ih]

namespace Expr

variable {document : Document} {context : Context} {value : Value}

theorem eval_path_filter_eq_ok_iff {primary : Expr} {steps : List Step} :
    (Expr.path (.filter primary) steps).eval document context = .ok value ↔
      ∃ items reached, primary.eval document context = .ok (.nodes items) ∧
        walk document steps items = .ok reached ∧ value = .nodes reached := by
  simp only [Expr.eval, Start.items, bind_eq_ok_iff, Value.items_eq_ok_iff, Except.ok.injEq]
  constructor
  · rintro ⟨items, ⟨_, hprimary, rfl⟩, reached, hreached, rfl⟩
    exact ⟨items, reached, hprimary, hreached, rfl⟩
  · rintro ⟨items, reached, hprimary, hreached, rfl⟩
    exact ⟨items, ⟨_, hprimary, rfl⟩, reached, hreached, rfl⟩

theorem eval_union_eq_ok_iff {left right : Expr} :
    (Expr.binary .union left right).eval document context = .ok value ↔
      ∃ first second, left.eval document context = .ok (.nodes first) ∧
        right.eval document context = .ok (.nodes second) ∧
        value = .nodes (normalize (first ++ second)) := by
  simp only [Expr.eval, decidedByLeft, combine, bind_eq_ok_iff, Value.items_eq_ok_iff,
    Except.ok.injEq]
  constructor
  · rintro ⟨_, hleft, _, hright, first, rfl, second, rfl, rfl⟩
    exact ⟨first, second, hleft, hright, rfl⟩
  · rintro ⟨first, second, hleft, hright, rfl⟩
    exact ⟨_, hleft, _, hright, first, rfl, second, rfl, rfl⟩

theorem eval_path_of_path (start : Start) (first later : List Step) :
    (Expr.path (.filter (.path start first)) later).eval document context =
      (Expr.path start (first ++ later)).eval document context := by
  simp only [Expr.eval, Start.items, walk_append, bind_assoc, ok_bind, Value.items]

theorem eval_path_of_union_eq_ok_iff {left right : Expr} {steps : List Step} :
    (Expr.path (.filter (.binary .union left right)) steps).eval document context = .ok value ↔
      (Expr.binary .union (.path (.filter left) steps) (.path (.filter right) steps)).eval
        document context = .ok value := by
  simp only [eval_union_eq_ok_iff, eval_path_filter_eq_ok_iff, Value.nodes.injEq]
  constructor
  · rintro ⟨_, reached, ⟨a, b, hleft, hright, rfl⟩, hreached, rfl⟩
    obtain ⟨a', b', ha, hb, rfl⟩ := walk_union.mp hreached
    exact ⟨a', b', ⟨a, a', hleft, ha, rfl⟩, ⟨b, b', hright, hb, rfl⟩, rfl⟩
  · rintro ⟨a', b', ⟨a, _, hleft, ha, rfl⟩, ⟨b, _, hright, hb, rfl⟩, rfl⟩
    have hreached := walk_union.mpr ⟨a', b', ha, hb, rfl⟩
    exact ⟨_, _, ⟨a, b, hleft, hright, rfl⟩, hreached, rfl⟩

theorem eval_path_of_union {left right : Expr} {steps : List Step}
    (hleft : left.throughout callAccepted = true)
    (hright : right.throughout callAccepted = true)
    (hsteps : throughoutSteps callAccepted steps = true) :
    (Expr.path (.filter (.binary .union left right)) steps).eval document context =
      (Expr.binary .union (.path (.filter left) steps) (.path (.filter right) steps)).eval
        document context := by
  -- The two sides meet their failures in different orders, but there is only one kind of failure.
  apply eval_eq_of_same_values
  · simp [throughout, Start.throughout, callAccepted, hleft, hright, hsteps]
  · simp [throughout, Start.throughout, callAccepted, hleft, hright, hsteps]
  · intro value
    exact eval_path_of_union_eq_ok_iff

end Expr

/-- A path that begins where another path ends is the path with the steps of both, and a path that
begins at a union is the union of the paths that begin at its operands: on every document, at every
place, with the same items or the same failure.  In a union every call must have as many arguments
as its function takes; in what the parser makes it has. -/
theorem paths_compose_and_distribute (document : Document) (context : Context) :
    (∀ (start : Start) (first later : List Step),
      (Expr.path (.filter (.path start first)) later).eval document context =
        (Expr.path start (first ++ later)).eval document context) ∧
    (∀ (left right : Expr) (steps : List Step),
      left.throughout Expr.callAccepted = true →
      right.throughout Expr.callAccepted = true →
      throughoutSteps Expr.callAccepted steps = true →
        (Expr.path (.filter (.binary .union left right)) steps).eval document context =
          (Expr.binary .union (.path (.filter left) steps) (.path (.filter right) steps)).eval
            document context) ∧
    ∀ (lexemes : List Lexeme) (left right : Expr) (steps : List Step),
      Parser.parseTokens lexemes = .ok (.path (.filter (.binary .union left right)) steps) →
        (Expr.path (.filter (.binary .union left right)) steps).eval document context =
          (Expr.binary .union (.path (.filter left) steps) (.path (.filter right) steps)).eval
            document context := by
  refine ⟨Expr.eval_path_of_path, ?_, ?_⟩
  · intro left right steps hleft hright hsteps
    exact Expr.eval_path_of_union hleft hright hsteps
  · intro lexemes left right steps hexpr
    have haccepted := callsAccepted_of_parseTokens hexpr
    obtain ⟨⟨hleft, hright⟩, hsteps⟩ :
        (left.throughout Expr.callAccepted = true ∧ right.throughout Expr.callAccepted = true) ∧
          throughoutSteps Expr.callAccepted steps = true := by
      simpa [Expr.throughout, Start.throughout, Expr.callAccepted] using haccepted
    exact Expr.eval_path_of_union hleft hright hsteps

/-- The steps to the elements `b`. -/
def toParts : List Step := [.anyDepth, .mk .child (.name none (some "b")) []]

/-- The elements `b` that have children, and what is inside them. -/
def wholeParts : Expr :=
  .path .root
    [.anyDepth,
      .mk .child (.name none (some "b")) [.path .context [.mk .child .any []]],
      .anyDepth]

/-- The children of what has a name and is around an item. -/
def besideNamed : List Step := [.mk .ancestor .any [.call .name []], .mk .child .any []]

/-- Fails at every item, because a text has no items to count. -/
def countsText : List Step := [.mk .self .any [.call .count [.literal "b"]]]

/-- The lexemes of `(//b|*)/*`. -/
def insidePartsLexemes : List Lexeme :=
  [⟨.leftParen, 0, '('⟩, ⟨.doubleSlash, 1, '/'⟩, ⟨.nameTest none (some "b"), 3, 'b'⟩,
    ⟨.operator .union, 4, '|'⟩, ⟨.nameTest none none, 5, '*'⟩, ⟨.rightParen, 6, ')'⟩,
    ⟨.slash, 7, '/'⟩, ⟨.nameTest none none, 8, '*'⟩]

/-- The elements that are children. -/
def childElements : List Step := [.mk .child (.name none none) []]

theorem paths_from_parts_compose_and_distribute :
    (Expr.path .root (toParts ++ besideNamed)).eval nestedDocument rootContext =
      .ok (.nodes [.node 2, .node 3]) ∧
    (Expr.path .root toParts).throughout Expr.callAccepted = true ∧
    wholeParts.throughout Expr.callAccepted = true ∧
    throughoutSteps Expr.callAccepted besideNamed = true ∧
    (Expr.binary .union (.path (.filter (.path .root toParts)) besideNamed)
        (.path (.filter wholeParts) besideNamed)).eval nestedDocument rootContext =
      .ok (.nodes [.node 2, .node 3, .node 4]) ∧
    throughoutSteps Expr.callAccepted countsText = true ∧
    (Expr.binary .union (.path (.filter (.path .root toParts)) countsText)
        (.path (.filter wholeParts) countsText)).eval nestedDocument rootContext =
      .error .notANodeSet ∧
    Parser.parseTokens insidePartsLexemes =
      .ok (.path (.filter (.binary .union (.path .root toParts) (.path .context childElements)))
        childElements) ∧
    (Expr.binary .union (.path (.filter (.path .root toParts)) childElements)
        (.path (.filter (.path .context childElements)) childElements)).eval
          nestedDocument rootContext =
      .ok (.nodes [.node 2, .node 3, .node 4]) := by
  obtain ⟨hcompose, hdistribute, hparsed⟩ := paths_compose_and_distribute nestedDocument rootContext
  have hparts : (Expr.path .root toParts).throughout Expr.callAccepted = true := rfl
  have hwhole : wholeParts.throughout Expr.callAccepted = true := rfl
  have hbeside : throughoutSteps Expr.callAccepted besideNamed = true := rfl
  have hcounts : throughoutSteps Expr.callAccepted countsText = true := rfl
  have hpath :
      (Expr.path (.filter (.path .root toParts)) besideNamed).eval nestedDocument rootContext =
        .ok (.nodes [.node 2, .node 3]) := by
    unfold toParts besideNamed
    cbv
  have hunion :
      (Expr.path (.filter (.binary .union (.path .root toParts) wholeParts)) besideNamed).eval
          nestedDocument rootContext =
        .ok (.nodes [.node 2, .node 3, .node 4]) := by
    unfold toParts besideNamed
    cbv
  have hfailure :
      (Expr.path (.filter (.binary .union (.path .root toParts) wholeParts)) countsText).eval
          nestedDocument rootContext =
        .error .notANodeSet := by
    unfold toParts countsText
    cbv
  have hparse :
      Parser.parseTokens insidePartsLexemes =
        .ok (.path (.filter (.binary .union (.path .root toParts) (.path .context childElements)))
          childElements) := by cbv
  have hinside :
      (Expr.path (.filter (.binary .union (.path .root toParts) (.path .context childElements)))
          childElements).eval nestedDocument rootContext =
        .ok (.nodes [.node 2, .node 3, .node 4]) := by
    unfold toParts childElements
    cbv
  rw [hcompose] at hpath
  rw [hdistribute _ _ _ hparts hwhole hbeside] at hunion
  rw [hdistribute _ _ _ hparts hwhole hcounts] at hfailure
  rw [hparsed _ _ _ _ hparse] at hinside
  exact ⟨hpath, hparts, hwhole, hbeside, hunion, hcounts, hfailure, hparse, hinside⟩

end Locator
end RecordExtraction
