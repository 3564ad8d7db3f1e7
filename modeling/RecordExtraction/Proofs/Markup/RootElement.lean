import Mathlib
import RecordExtraction.Proofs.Markup.Scoping
import RecordExtraction.Proofs.Markup.Siblings

/-!
# The root element

A document without a type declaration declares no entities.  Then reading goes by the grammar:
content is read while an element is open, up to the end of this element, and outside there are
only comments and instructions.  So the document has one element at the top, and every other element
is inside it.
-/

namespace RecordExtraction
namespace Markup

/-- The same elements are open, and the same entities are declared. -/
structure Builder.Keeps (builder next : Builder) : Prop where
  outer : next.outer = builder.outer
  entities : next.entities = builder.entities

/-- Besides, the same members are at the current place. -/
structure Builder.KeepsMembers (builder next : Builder) : Prop extends builder.Keeps next where
  members : next.members = builder.members

/-- Besides, leaves have come to the members at the current place. -/
structure Builder.AddsLeaves (builder next : Builder) : Prop extends builder.Keeps next where
  members : ∃ leaves : List Leaf, next.members = leaves.map .leaf ++ builder.members

/-- What a start tag does, by the way it ends. -/
inductive Builder.Tagged (builder : Builder) : Reader.TagEnd → Builder → Prop
  | empty {next : Builder} {tag : Tag} (hkeeps : builder.Keeps next)
      (hmembers : next.members = .element tag .nil :: builder.members) : builder.Tagged .empty next
  | content {next : Builder} {element : OpenElement}
      (hentities : next.entities = builder.entities)
      (hbefore : element.before = builder.members)
      (houter : next.outer = element :: builder.outer) : builder.Tagged .content next
  | unfinished {next : Builder} (hkeeps : builder.KeepsMembers next) :
      builder.Tagged .unfinished next

/-- Without entities, this many elements are open, the outermost of them at the bottom. -/
structure Builder.Within (bottom : OpenElement) (level : Nat) (builder : Builder) : Prop where
  entities : builder.entities = []
  depth : builder.outer.length = level
  outermost : builder.outer.getLast? = some bottom

/-- An element is open, or the last member is an element that comes after the given members. -/
def Builder.ElementAfter (before : List Member) (builder : Builder) : Prop :=
  builder.outer ≠ [] ∨ ∃ tag children, builder.members = .element tag children :: before

namespace Builder

variable {builder next : Builder} {name : QualifiedName} {tag : Tag}

theorem Keeps.refl (builder : Builder) : builder.Keeps builder := ⟨rfl, rfl⟩

theorem Keeps.trans {last : Builder} (hfirst : builder.Keeps next) (hsecond : next.Keeps last) :
    builder.Keeps last :=
  ⟨hsecond.outer.trans hfirst.outer, hsecond.entities.trans hfirst.entities⟩

theorem AddsLeaves.refl (builder : Builder) : builder.AddsLeaves builder :=
  ⟨.refl _, [], rfl⟩

theorem AddsLeaves.trans {last : Builder} (hfirst : builder.AddsLeaves next)
    (hsecond : next.AddsLeaves last) : builder.AddsLeaves last := by
  rcases hfirst.members with ⟨first, hmembers⟩
  rcases hsecond.members with ⟨second, hlast⟩
  refine ⟨hfirst.toKeeps.trans hsecond.toKeeps, second ++ first, ?_⟩
  rw [hlast, hmembers, List.map_append, List.append_assoc]

theorem addsLeaves_addLeaf {leaf : Leaf} (hadd : builder.addLeaf leaf = .ok next) :
    builder.AddsLeaves next := by
  rw [addLeaf, bind_eq_ok_iff] at hadd
  rcases hadd with ⟨counted, hcount, hadd⟩
  cases hadd
  rw [countNode_eq_ok hcount]
  exact ⟨⟨rfl, rfl⟩, [leaf], rfl⟩

theorem keeps_addText {text : List Char} (hadd : builder.addText text = .ok next) :
    builder.Keeps next := by
  rw [addText] at hadd
  split at hadd
  · cases hadd
    exact ⟨rfl, rfl⟩
  · rw [bind_eq_ok_iff] at hadd
    rcases hadd with ⟨extended, hextended, hadd⟩
    cases hadd
    have hkeeps := (addsLeaves_addLeaf hextended).toKeeps
    exact ⟨hkeeps.outer, hkeeps.entities⟩

theorem keepsMembers_addAttribute {written : WrittenAttribute}
    (hadd : builder.addAttribute written = .ok next) : builder.KeepsMembers next := by
  unfold addAttribute at hadd
  split at hadd
  · unfold declare at hadd
    split at hadd
    · cases hadd
    · split at hadd
      · cases hadd
      · split at hadd
        · cases hadd
        · split at hadd <;> cases hadd <;> exact ⟨⟨rfl, rfl⟩, rfl⟩
  · split at hadd
    · unfold declareDefault at hadd
      split at hadd <;> cases hadd
      exact ⟨⟨rfl, rfl⟩, rfl⟩
    · cases hadd
      exact ⟨⟨rfl, rfl⟩, rfl⟩

theorem keepsMembers_finishTag (hfinish : builder.finishTag name = .ok (next, tag)) :
    builder.KeepsMembers next := by
  simp only [finishTag, takeAttributes, bind_eq_ok_iff, Prod.exists, Except.ok.injEq,
    Prod.mk.injEq] at hfinish
  rcases hfinish with ⟨taken, scope, attributes, ⟨_, _, rfl, _, _⟩, uri, _, counted, hcount, rfl, _⟩
  rw [countNode_eq_ok hcount]
  exact ⟨⟨rfl, rfl⟩, rfl⟩

theorem tagged_addEmpty (hadd : builder.addEmpty name = .ok next) :
    builder.Tagged .empty next := by
  simp only [addEmpty, bind_eq_ok_iff, Prod.exists] at hadd
  rcases hadd with ⟨finished, tag, hfinish, hadd⟩
  cases hadd
  have hkeeps := keepsMembers_finishTag hfinish
  exact .empty ⟨hkeeps.outer, hkeeps.entities⟩ (by rw [hkeeps.members])

theorem tagged_openElement (hadd : builder.openElement name = .ok next) :
    builder.Tagged .content next := by
  simp only [openElement, bind_eq_ok_iff, Prod.exists] at hadd
  rcases hadd with ⟨finished, tag, hfinish, hadd⟩
  cases hadd
  have hkeeps := keepsMembers_finishTag hfinish
  exact .content hkeeps.entities hkeeps.members (by rw [hkeeps.outer])

theorem Tagged.of_keepsMembers {ending : Reader.TagEnd} {last : Builder}
    (htagged : next.Tagged ending last) (hkeeps : builder.KeepsMembers next) :
    builder.Tagged ending last := by
  cases htagged with
  | empty hlast hmembers => exact .empty (hkeeps.trans hlast) (by rw [hmembers, hkeeps.members])
  | content hentities hbefore houter =>
      exact .content (hentities.trans hkeeps.entities) (hbefore.trans hkeeps.members)
        (by rw [houter, hkeeps.outer])
  | unfinished hlast =>
      exact .unfinished ⟨hkeeps.trans hlast.toKeeps, hlast.members.trans hkeeps.members⟩

theorem outer_closeElement (hclose : builder.closeElement name = .ok next) :
    next.entities = builder.entities ∧
      ∃ element tag children, builder.outer = element :: next.outer ∧
        next.members = .element tag children :: element.before := by
  rw [closeElement] at hclose
  split at hclose
  · cases hclose
  · simp only [takeAttributes, bind_eq_ok_iff, Prod.exists, Except.ok.injEq, Prod.mk.injEq]
      at hclose
    rcases hclose with ⟨taken, scope, attributes, ⟨_, _, rfl, _, _⟩, hclose⟩
    split at hclose
    · next element outer houter =>
        split at hclose
        · cases hclose
          exact ⟨rfl, element, element.tag, _, houter, rfl⟩
        · cases hclose
    · cases hclose

theorem hasElement_of_finish {document : Document} (hfinish : builder.finish = .ok document) :
    document.content.hasElement = true := by
  unfold finish at hfinish
  dsimp only at hfinish
  split at hfinish
  · next hcomplete =>
      cases hfinish
      exact (Bool.and_eq_true_iff.mp hcomplete).2
  · cases hfinish

end Builder

namespace Reader

variable {builder next : Builder} {nesting : Nat} {input : List Char}

theorem addsLeaves_comment {reading : Reading Unit input}
    (hread : comment builder input = .ok (next, reading)) : builder.AddsLeaves next := by
  simp only [comment, bind_eq_ok_iff, exists_reading] at hread
  rcases hread with ⟨value, rest, le, _, _, _, _, _, hread⟩
  split at hread
  · cases hread
  · simp only [bind_eq_ok_iff] at hread
    rcases hread with ⟨added, hadd, hread⟩
    cases hread
    exact Builder.addsLeaves_addLeaf hadd

theorem addsLeaves_instruction {reading : Reading Unit input}
    (hread : instruction builder input = .ok (next, reading)) : builder.AddsLeaves next := by
  rw [instruction] at hread
  split at hread
  · cases hread
  · simp only [bind_eq_ok_iff, exists_reading] at hread
    rcases hread with ⟨target, rest, le, _, data, rest', le', _, _, _, _, _, added, hadd, hread⟩
    cases hread
    exact Builder.addsLeaves_addLeaf hadd

theorem keeps_marked {reading : Reading Unit input}
    (hread : marked builder input = .ok (next, reading)) : builder.Keeps next := by
  rw [marked] at hread
  split at hread
  · simp only [map_eq_ok_iff, Prod.exists, Prod.mk.injEq] at hread
    rcases hread with ⟨_, _, hcomment, rfl, _⟩
    exact (addsLeaves_comment hcomment).toKeeps
  · split at hread
    · simp only [map_eq_ok_iff, Prod.exists, Prod.mk.injEq] at hread
      rcases hread with ⟨_, _, hsection, rfl, _⟩
      simp only [markedSection, bind_eq_ok_iff, exists_reading] at hsection
      rcases hsection with ⟨value, rest, le, _, _, _, _, _, added, hadd, hsection⟩
      cases hsection
      exact Builder.keeps_addText hadd
    · cases hread

theorem keeps_flush {done : List Char} (hflush : flush builder done = .ok next) :
    builder.Keeps next := by
  rw [flush] at hflush
  split at hflush
  · cases hflush
    exact .refl _
  · exact Builder.keeps_addText hflush

theorem keepsMembers_addWritten {name : QualifiedName} {value : List Char}
    (hadd : addWritten builder nesting name value = .ok next) : builder.KeepsMembers next := by
  simp only [addWritten, bind_eq_ok_iff, Prod.exists] at hadd
  rcases hadd with ⟨expanded, references, _, hadd⟩
  have hkeeps := Builder.keepsMembers_addAttribute hadd
  exact ⟨⟨hkeeps.outer, hkeeps.entities⟩, hkeeps.members⟩

theorem keepsMembers_tagRest {ending : Reading TagEnd input}
    (hread : tagRest builder nesting input = .ok (next, ending)) : builder.KeepsMembers next := by
  fun_induction tagRest builder nesting input with
  | case1 | case3 =>
      cases hread
      exact ⟨.refl _, rfl⟩
  | case2 builder rest =>
      simp only [map_eq_ok_iff, Prod.mk.injEq] at hread
      rcases hread with ⟨_, _, rfl, _⟩
      exact ⟨.refl _, rfl⟩
  | case4 | case6 | case7 | case9 => cases hread
  | case5 builder c tail hslash hend hspace start rest le hspaces d hstart hd ih =>
      simp only [map_eq_ok_iff, Prod.exists, Prod.mk.injEq] at hread
      rcases hread with ⟨_, ending, htag, rfl, _⟩
      exact ih htag
  | case8 builder c tail hslash hend hspace start rest le hspaces d hstart hd name value left le'
      hwritten extended hadd ih =>
      simp only [map_eq_ok_iff, Prod.exists, Prod.mk.injEq] at hread
      rcases hread with ⟨_, ending, htag, rfl, _⟩
      have hattribute := keepsMembers_addWritten hadd
      have hlater := ih htag
      exact ⟨hattribute.trans hlater.toKeeps, hlater.members.trans hattribute.members⟩

theorem tagged_startTag {ending : TagEnd} {rest : List Char} {le : rest.length ≤ input.length}
    (hread : startTag builder nesting input = .ok (next, ⟨ending, rest, le⟩)) :
    builder.Tagged ending next := by
  simp only [startTag, bind_eq_ok_iff, exists_reading] at hread
  rcases hread with ⟨name, rest, le, _, hread⟩
  split at hread
  · cases hread
  · simp only [bind_eq_ok_iff, exists_reading, Prod.exists] at hread
    rcases hread with ⟨tagged, ending, rest', le', htag, hread⟩
    have hrest := keepsMembers_tagRest htag
    have hkeeps : builder.KeepsMembers tagged := ⟨⟨hrest.outer, hrest.entities⟩, hrest.members⟩
    cases ending with
    | empty =>
        simp only [bind_eq_ok_iff] at hread
        rcases hread with ⟨added, hadd, hread⟩
        cases hread
        exact (Builder.tagged_addEmpty hadd).of_keepsMembers hkeeps
    | content =>
        simp only [bind_eq_ok_iff] at hread
        rcases hread with ⟨added, hadd, hread⟩
        cases hread
        exact (Builder.tagged_openElement hadd).of_keepsMembers hkeeps
    | unfinished =>
        cases hread
        exact .unfinished hkeeps

theorem keeps_of_tagged {ending : TagEnd} (htagged : builder.Tagged ending next)
    (hending : ending = .content → False) : builder.Keeps next := by
  cases htagged with
  | empty hkeeps _ => exact hkeeps
  | content => exact (hending rfl).elim
  | unfinished hkeeps => exact hkeeps.toKeeps

theorem outer_endTag {reading : Reading Unit input}
    (hread : endTag builder input = .ok (next, reading)) :
    next.entities = builder.entities ∧
      ∃ element tag children, builder.outer = element :: next.outer ∧
        next.members = .element tag children :: element.before := by
  simp only [endTag, bind_eq_ok_iff, exists_reading] at hread
  rcases hread with ⟨name, rest, le, _, _, _, _, _, closed, hclosed, hread⟩
  cases hread
  have hclosing := Builder.outer_closeElement hclosed
  exact hclosing

/-! ## Content -/

section

variable {bottom : OpenElement} {level : Nat}

theorem within_of_keeps (hwithin : builder.Within bottom level) (hkeeps : builder.Keeps next) :
    next.Within bottom level := by
  constructor
  · rw [hkeeps.entities, hwithin.entities]
  · rw [hkeeps.outer, hwithin.depth]
  · rw [hkeeps.outer, hwithin.outermost]

theorem within_of_tagged (hwithin : builder.Within bottom level)
    (htagged : builder.Tagged .content next) : next.Within bottom (level + 1) := by
  cases htagged with
  | content hentities hbefore houter =>
      constructor
      · rw [hentities, hwithin.entities]
      · rw [houter, List.length_cons, hwithin.depth]
      · rw [houter, List.getLast?_cons, hwithin.outermost, Option.getD_some]

theorem within_of_endTag (hwithin : builder.Within bottom level) (hlevel : ¬level ≤ 1)
    {reading : Reading Unit input} (hread : endTag builder input = .ok (next, reading)) :
    next.Within bottom (level - 1) := by
  rcases outer_endTag hread with ⟨hentities, element, tag, children, houter, _⟩
  have hdepth := hwithin.depth
  have houtermost := hwithin.outermost
  rw [houter, List.length_cons] at hdepth
  rw [houter, List.getLast?_cons] at houtermost
  constructor
  · rw [hentities, hwithin.entities]
  · omega
  · cases hlast : next.outer.getLast? with
    | some last => rwa [hlast, Option.getD_some] at houtermost
    | none =>
        rw [List.getLast?_eq_none_iff] at hlast
        rw [hlast] at hdepth
        exact absurd hdepth (by simp; omega)

theorem elementAfter_of_endTag (hwithin : builder.Within bottom level) (hlevel : level ≤ 1)
    {reading : Reading Unit input} (hread : endTag builder input = .ok (next, reading)) :
    next.ElementAfter bottom.before := by
  rcases outer_endTag hread with ⟨_, element, tag, children, houter, hmembers⟩
  have hdepth := hwithin.depth
  have houtermost := hwithin.outermost
  rw [houter, List.length_cons] at hdepth
  have hclosed : next.outer = [] := List.length_eq_zero_iff.mp (by omega)
  rw [houter, hclosed, List.getLast?_singleton, Option.some.injEq] at houtermost
  rw [houtermost] at hmembers
  exact .inr ⟨tag, children, hmembers⟩

end

/-- Without entities, text opens and closes nothing, and content ends with the element that is open
at its level. -/
theorem content_without_entities :
    (∀ builder nesting done verbatim input, builder.entities = [] → ∀ next,
      textRun builder nesting done verbatim input = .ok next → builder.Keeps next) ∧
    (∀ builder nesting level input, ∀ bottom, builder.Within bottom level → ∀ next rest,
      content builder nesting level input = .ok (next, rest) →
        next.ElementAfter bottom.before) := by
  apply textRun.mutual_induct
    (fun builder nesting done verbatim input => builder.entities = [] → ∀ next,
      textRun builder nesting done verbatim input = .ok next → builder.Keeps next)
    (fun builder nesting level input => ∀ bottom, builder.Within bottom level → ∀ next rest,
      content builder nesting level input = .ok (next, rest) →
        next.ElementAfter bottom.before)
  -- The cases that fail are closed at once.
  all_goals
    intros
    rename_i hread
    first
    | simp only [textRun, *, reduceIte, reduceCtorEq, Bool.false_eq_true] at hread
    | simp only [content, *, reduceIte, reduceCtorEq, Bool.false_eq_true] at hread
  case case1 => exact keeps_flush hread
  case case3 ih hentities _ => exact ih hentities _ hread
  case case4 ih hentities _ => exact ih hentities _ hread
  case case8 hentity _ _ _ _ _ _ _ _ _ _ hentities _ =>
    -- There is no entity to refer to.
    rw [Builder.entity?, hentities] at hentity
    cases hentity
  case case10 ih hentities _ => exact ih hentities _ hread
  case case11 ih hentities _ => exact ih hentities _ hread
  case case12 hwithin _ _ =>
    cases hread
    left
    intro hnone
    have houtermost := hwithin.outermost
    rw [hnone] at houtermost
    cases houtermost
  case case14 htag hlevel _ hwithin _ _ =>
    cases hread
    exact elementAfter_of_endTag hwithin hlevel htag
  case case15 htag hlevel ih _ hwithin _ _ =>
    exact ih _ (within_of_endTag hwithin hlevel htag) _ _ hread
  case case17 hinstruction ih _ hwithin _ _ =>
    exact ih _ (within_of_keeps hwithin (addsLeaves_instruction hinstruction).toKeeps) _ _ hread
  case case19 hmarked ih _ hwithin _ _ =>
    exact ih _ (within_of_keeps hwithin (keeps_marked hmarked)) _ _ hread
  case case21 htag ih _ hwithin _ _ =>
    exact ih _ (within_of_tagged hwithin (tagged_startTag htag)) _ _ hread
  case case22 hending htag ih _ hwithin _ _ =>
    have hkeeps := keeps_of_tagged (tagged_startTag htag) hending
    exact ih _ (within_of_keeps hwithin hkeeps) _ _ hread
  case case26 htext ihtext ih _ hwithin _ _ =>
    exact ih _ (within_of_keeps hwithin (ihtext hwithin.entities _ htext)) _ _ hread

/-! ## The document -/

theorem addsLeaves_miscellany {rest : List Char}
    (hread : miscellany builder input = .ok (next, rest)) : builder.AddsLeaves next := by
  fun_induction miscellany builder input with
  | case1 | case3 => cases hread
  | case2 builder rest extended _ left le hcomment ih =>
      exact (addsLeaves_comment hcomment).trans (ih hread)
  | case4 builder rest extended _ left le hinstruction ih =>
      exact (addsLeaves_instruction hinstruction).trans (ih hread)
  | case5 builder c rest hcomment hinstruction hspace ih => exact ih hread
  | case6 | case7 =>
      cases hread
      exact .refl _

theorem eq_of_prologEnd {limits : Limits} {rest : List Char}
    (hlimits : limits.allowTypeDeclaration = false)
    (hread : prologEnd limits builder input = .ok (next, rest)) : next = builder := by
  unfold prologEnd at hread
  rw [hlimits] at hread
  split at hread
  · cases hread
  · cases hread
    rfl

/-- Outside all elements, at most one element is read. -/
theorem elementAfter_of_rootElement {rest : List Char} (houter : builder.outer = [])
    (hentities : builder.entities = [])
    (hread : rootElement builder input = .ok (next, rest)) :
    next.members = builder.members ∨ next.ElementAfter builder.members := by
  unfold rootElement at hread
  split at hread
  · simp only [bind_eq_ok_iff, Prod.exists, exists_reading] at hread
    rcases hread with ⟨tagged, ending, left, le, htag, hread⟩
    have htagged := tagged_startTag htag
    cases htagged with
    | empty hkeeps hmembers =>
        cases hread
        exact .inr (.inr ⟨_, _, hmembers⟩)
    | unfinished hkeeps =>
        cases hread
        exact .inl hkeeps.members
    | @content _ element htaggedEntities hbefore htaggedOuter =>
        have hwithin : tagged.Within element 1 := by
          constructor
          · rw [htaggedEntities, hentities]
          · rw [htaggedOuter, houter, List.length_singleton]
          · rw [htaggedOuter, houter, List.getLast?_singleton]
        rw [← hbefore]
        exact .inr (content_without_entities.2 _ _ _ _ _ hwithin _ _ hread)
  · cases hread
    exact .inl rfl

end Reader

/-- The sequence has one element itself, with this tag. -/
inductive Content.OneElement (tag : Tag) : Content → Prop
  | element {children rest : Content} (hrest : rest.hasElement = false) :
      OneElement tag (.element tag children rest)
  | afterLeaf {item : Leaf} {rest : Content} (hrest : rest.OneElement tag) :
      OneElement tag (.leaf item rest)

namespace Content

variable {content rest : Content} {tag : Tag}

/-- The sequence with leaves before it, the last of them first. -/
def afterLeaves (leaves : List Leaf) (rest : Content) : Content :=
  leaves.foldl (fun rest item => .leaf item rest) rest

theorem hasElement_afterLeaves (leaves : List Leaf) (rest : Content) :
    (afterLeaves leaves rest).hasElement = rest.hasElement := by
  unfold afterLeaves
  induction leaves generalizing rest with
  | nil => rfl
  | cons item leaves ih => exact ih (.leaf item rest)

theorem OneElement.afterLeaves (hrest : rest.OneElement tag) (leaves : List Leaf) :
    (afterLeaves leaves rest).OneElement tag := by
  unfold Content.afterLeaves
  induction leaves generalizing rest with
  | nil => exact hrest
  | cons item leaves ih => exact ih hrest.afterLeaf

theorem ofReversed_leaves (leaves : List Leaf) :
    ofReversed (leaves.map .leaf) = afterLeaves leaves .nil := by
  rw [ofReversed, List.foldl_map]
  rfl

theorem ofReversed_around (tag : Tag) (children : Content) (before after : List Leaf) :
    ofReversed (after.map .leaf ++ .element tag children :: before.map .leaf) =
      afterLeaves before (.element tag children (afterLeaves after .nil)) := by
  rw [ofReversed, List.foldl_append, List.foldl_cons, List.foldl_map, List.foldl_map]
  rfl

end Content

/-- A document without a type declaration has one element at the top. -/
theorem Document.oneElement_of_parse {limits : Limits} {text : String} {document : Document}
    (hlimits : limits.allowTypeDeclaration = false)
    (hparse : Document.parse limits text = .ok document) :
    ∃ tag, document.content.OneElement tag := by
  rcases Reader.exists_parts_of_document hparse with
    ⟨_, opened, declared, filled, closed, _, _, _, _, hopened, hdeclared, hfilled, hclosed, hfinish⟩
  have hprolog := Reader.addsLeaves_miscellany hopened
  rw [Reader.eq_of_prologEnd hlimits hdeclared] at hfilled
  have hepilog := Reader.addsLeaves_miscellany hclosed
  rcases hprolog.members with ⟨before, hbefore⟩
  rcases hepilog.members with ⟨after, hafter⟩
  rw [List.append_nil] at hbefore
  unfold Builder.finish at hfinish
  dsimp only at hfinish
  split at hfinish
  · next hcomplete =>
      rw [Bool.and_eq_true, List.isEmpty_iff] at hcomplete
      cases hfinish
      rcases Reader.elementAfter_of_rootElement hprolog.outer hprolog.entities hfilled with
        hnone | hopen | ⟨tag, children, helement⟩
      · -- Only leaves were read.
        rw [hafter, hnone, hbefore, ← List.map_append, Content.ofReversed_leaves,
          Content.hasElement_afterLeaves] at hcomplete
        exact absurd hcomplete.2 Bool.false_ne_true
      · rw [← hepilog.outer] at hopen
        exact absurd hcomplete.1 hopen
      · refine ⟨tag, ?_⟩
        change (Content.ofReversed closed.members).OneElement tag
        rw [hafter, helement, hbefore, Content.ofReversed_around]
        exact (Content.OneElement.element (Content.hasElement_afterLeaves after .nil)).afterLeaves
          before
  · cases hfinish

/-! ## The tree -/

namespace Content

variable {content rest : Content} {tag : Tag}

theorem not_element_of_mem_rows (hnone : content.hasElement = false) {row : Row}
    (hrow : row ∈ content.rows) (other : Tag) : row.kind ≠ .element other := by
  induction content with
  | nil => cases hrow
  | leaf item rest ih =>
      rcases List.mem_cons.mp hrow with rfl | hrow
      · exact nofun
      · exact ih hnone hrow
  | element tag children rest _ _ => cases hnone

theorem not_encloses_first (content : Content) (first outer : Nat) :
    ¬content.Encloses first outer first := by
  intro hencloses
  have hbounds := hencloses.bounds
  omega

/-- With a leaf in front, a node is still inside nothing else. -/
theorem not_encloses_afterLeaf {item : Leaf} {first place : Nat}
    (houtermost : ∀ outer, ¬rest.Encloses (first + 1) outer (first + 1 + place)) (outer : Nat) :
    ¬(leaf item rest).Encloses first outer (first + (place + 1)) := by
  intro hencloses
  rw [encloses_leaf_iff, ← Nat.add_assoc, Nat.add_right_comm] at hencloses
  exact houtermost outer hencloses

/-- The first element is inside no other one. -/
theorem exists_first_of_hasElement (helement : content.hasElement = true) (first : Nat) :
    ∃ tag place, (∃ extent, content.rows[place]? = some ⟨.element tag, extent⟩) ∧
      (∀ outer, ¬content.Encloses first outer (first + place)) ∧
      ∀ other extent inner, content.rows[inner]? = some ⟨.element other, extent⟩ →
        place ≤ inner := by
  induction content generalizing first with
  | nil => cases helement
  | leaf item rest ih =>
      rcases ih helement (first + 1) with ⟨tag, place, hplace, houtermost, hothers⟩
      refine ⟨tag, place + 1, hplace, not_encloses_afterLeaf houtermost, ?_⟩
      intro other extent inner hinner
      rcases inner with _ | inner
      · cases hinner
      · exact Nat.succ_le_succ (hothers other extent inner hinner)
  | element tag children rest _ _ =>
      exact ⟨tag, 0, ⟨children.size, rfl⟩, not_encloses_first _ first,
        fun _ _ inner _ => Nat.zero_le inner⟩

/-- Every element is the one of the sequence itself or lies inside it. -/
theorem OneElement.exists_place (hone : content.OneElement tag) (first : Nat) :
    ∃ place, (∃ extent, content.rows[place]? = some ⟨.element tag, extent⟩) ∧
      (∀ outer, ¬content.Encloses first outer (first + place)) ∧
      ∀ other extent inner, content.rows[inner]? = some ⟨.element other, extent⟩ →
        inner = place ∨ content.Encloses first (first + place) (first + inner) := by
  induction hone generalizing first with
  | @element children rest hnone =>
      refine ⟨0, ⟨children.size, rfl⟩, not_encloses_first _ first, ?_⟩
      intro other extent inner hinner
      rcases inner with _ | inner
      · exact .inl rfl
      · right
        rw [rows, List.getElem?_cons_succ] at hinner
        rcases Nat.lt_or_ge inner children.size with hwithin | hafter
        · exact .own (by omega) (by omega)
        · rw [List.getElem?_append_right (by simpa using hafter)] at hinner
          exact absurd rfl (not_element_of_mem_rows hnone (List.mem_of_getElem? hinner) other)
  | @afterLeaf item rest _ ih =>
      rcases ih (first + 1) with ⟨place, helement, houtermost, hothers⟩
      refine ⟨place + 1, helement, not_encloses_afterLeaf houtermost, ?_⟩
      intro other extent inner hinner
      rcases inner with _ | inner
      · cases hinner
      · rcases hothers other extent inner hinner with rfl | hencloses
        · exact .inl rfl
        · right
          rw [encloses_leaf_iff, ← Nat.add_assoc, ← Nat.add_assoc, Nat.add_right_comm,
            Nat.add_right_comm first inner]
          exact hencloses

end Content

namespace Document

variable {document : Document} {tag : Tag} {id place : Nat}

theorem tag?_succ_eq_some_iff :
    document.tag? (place + 1) = some tag ↔
      ∃ extent, document.content.rows[place]? = some ⟨.element tag, extent⟩ := by
  have hrow : document.row? (place + 1) = document.content.rows[place]? := by
    rw [row?, document.rows_eq, List.getElem?_toArray, List.getElem?_cons_succ]
  rw [tag?, hrow]
  constructor
  · intro htag
    split at htag
    · next found extent hfound =>
        cases htag
        exact ⟨extent, hfound⟩
    · cases htag
  · intro htag
    rcases htag with ⟨extent, hfound⟩
    rw [hfound]

theorem tag?_zero : document.tag? 0 = none := by
  have hrow : document.row? 0 = some ⟨.root, document.content.size⟩ := by
    rw [row?, document.rows_eq]
    rfl
  rw [tag?, hrow]

theorem exists_place_of_tag? (htag : document.tag? id = some tag) :
    ∃ place extent, id = place + 1 ∧
      document.content.rows[place]? = some ⟨.element tag, extent⟩ := by
  cases id with
  | zero =>
      rw [tag?_zero] at htag
      cases htag
  | succ place =>
      rcases tag?_succ_eq_some_iff.mp htag with ⟨extent, hplace⟩
      exact ⟨place, extent, rfl, hplace⟩

/-- What is inside nothing else is a member of the root. -/
theorem parent?_of_outermost {row : Row} (hrow : document.content.rows[place]? = some row)
    (houtermost : ∀ outer, ¬document.content.Encloses 1 outer (1 + place)) :
    document.parent? (place + 1) = some 0 := by
  have hsize : place < document.content.rows.length := (List.getElem?_eq_some_iff.mp hrow).1
  rw [Content.length_rows] at hsize
  rw [parent?_eq_some_iff]
  refine ⟨.root (by omega) (by rw [document.size_eq]; omega), ?_⟩
  intro outer hencloses
  rw [Nat.add_comm] at hencloses
  cases hencloses with
  | root => exact Nat.le_refl 0
  | content hencloses => exact absurd hencloses (houtermost outer)

/-- The element at the top is a member of the root, and no other element is. -/
theorem exists_root_of_oneElement (hone : document.content.OneElement tag) :
    ∃ root, document.tag? root = some tag ∧ document.parent? root = some 0 ∧
      ∀ id other, document.tag? id = some other → document.parent? id = some 0 → id = root := by
  rcases hone.exists_place 1 with ⟨place, ⟨extent, helement⟩, houtermost, hothers⟩
  refine ⟨place + 1, tag?_succ_eq_some_iff.mpr ⟨extent, helement⟩, ?_, ?_⟩
  · exact parent?_of_outermost helement houtermost
  · intro id other htag hparent
    rcases exists_place_of_tag? htag with ⟨inner, otherExtent, rfl, hinner⟩
    rcases hothers other otherExtent inner hinner with rfl | hencloses
    · rfl
    · have hinside : document.Encloses (1 + place) (inner + 1) := by
        rw [Nat.add_comm inner]
        exact .content hencloses
      have htop := (parent?_eq_some_iff.mp hparent).2 _ hinside
      omega

/-- In a document without a type declaration, one element and no other is a member of the root. -/
theorem exists_root_of_parse {limits : Limits} {text : String}
    (hlimits : limits.allowTypeDeclaration = false)
    (hparse : Document.parse limits text = .ok document) :
    ∃ root tag, document.tag? root = some tag ∧ document.parent? root = some 0 ∧
      ∀ id other, document.tag? id = some other → document.parent? id = some 0 → id = root := by
  rcases oneElement_of_parse hlimits hparse with ⟨tag, hone⟩
  rcases exists_root_of_oneElement hone with ⟨root, hroot⟩
  exact ⟨root, tag, hroot⟩

/-- The element with the tag is a member of the root, and no other element among the members comes
before it. -/
structure FirstElement (document : Document) (root : Nat) (tag : Tag) : Prop where
  isElement : document.tag? root = some tag
  atTop : document.parent? root = some 0
  first : ∀ id other, document.tag? id = some other → document.parent? id = some 0 → root ≤ id

/-- Every document has an element at the top, with a type declaration perhaps more than one. -/
theorem exists_firstElement_of_parse {limits : Limits} {text : String}
    (hparse : Document.parse limits text = .ok document) :
    ∃ root tag, document.FirstElement root tag := by
  rcases Reader.exists_steps_of_document hparse with ⟨builder, _, hfinish⟩
  have helement := Builder.hasElement_of_finish hfinish
  rcases Content.exists_first_of_hasElement helement 1 with
    ⟨tag, place, ⟨extent, hplace⟩, houtermost, hothers⟩
  refine ⟨place + 1, tag, tag?_succ_eq_some_iff.mpr ⟨extent, hplace⟩,
    parent?_of_outermost hplace houtermost, ?_⟩
  intro id other htag _
  rcases exists_place_of_tag? htag with ⟨inner, otherExtent, rfl, hinner⟩
  exact Nat.succ_le_succ (hothers other otherExtent inner hinner)

end Document

end Markup
end RecordExtraction
