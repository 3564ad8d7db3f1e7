import Mathlib.Data.List.TakeWhile
import Mathlib.Logic.Relation
import RecordExtraction.Markup.Reader
import RecordExtraction.Proofs.Outcome

/-!
# How a document comes about

Whatever reading makes of a text, it changes the builder by the operations of the builder and by
nothing else.  What these operations preserve holds of every document that is read.
-/

namespace RecordExtraction
namespace Markup

/-- A name that was written with at most one colon: the parts have none. -/
structure QualifiedName.IsPlain (name : QualifiedName) : Prop where
  qualifier : ':' ∉ name.qualifier.toList
  localName : ':' ∉ name.localName.toList
  localName_ne : name.localName ≠ ""

/-- One operation on the builder. -/
inductive Builder.Step (builder : Builder) : Builder → Prop
  | note (references : Nat) (tagSeen afterText : Bool) (entities : List (String × List Char)) :
      builder.Step
        { builder with
          references := references
          tagSeen := tagSeen
          afterText := afterText
          entities := entities }
  | leaf {leaf : Leaf} {next : Builder} (hadd : builder.addLeaf leaf = .ok next) :
      builder.Step next
  | text {text : List Char} {next : Builder} (hadd : builder.addText text = .ok next) :
      builder.Step next
  | written {written : WrittenAttribute} {next : Builder} (hname : written.name.IsPlain)
      (hadd : builder.addAttribute written = .ok next) : builder.Step next
  | empty {name : QualifiedName} {next : Builder} (hname : name.IsPlain)
      (hadd : builder.addEmpty name = .ok next) : builder.Step next
  | opening {name : QualifiedName} {next : Builder} (hname : name.IsPlain)
      (hadd : builder.openElement name = .ok next) : builder.Step next
  | closing {name : QualifiedName} {next : Builder}
      (hclose : builder.closeElement name = .ok next) : builder.Step next

/-- Any number of operations on the builder. -/
def Builder.Steps : Builder → Builder → Prop := Relation.ReflTransGen Builder.Step

theorem Builder.Step.steps {builder next : Builder} (hstep : builder.Step next) :
    builder.Steps next :=
  .single hstep

theorem Builder.Steps.trans {first second third : Builder} (h : first.Steps second)
    (h' : second.Steps third) :
    first.Steps third :=
  Relation.ReflTransGen.trans h h'

namespace Reader

variable {builder next : Builder} {nesting : Nat} {input : List Char}

theorem exists_reading {α : Type} {p : Reading α input → Prop} :
    (∃ reading, p reading) ↔ ∃ value rest le, p ⟨value, rest, le⟩ :=
  ⟨fun ⟨⟨value, rest, le⟩, h⟩ => ⟨value, rest, le, h⟩, fun ⟨_, _, _, h⟩ => ⟨_, h⟩⟩

/-! ## Tags -/

theorem isPlain_of_qualifiedName {reading : Reading QualifiedName input}
    (hread : Reading.qualifiedName input = .ok reading) :
    reading.value.IsPlain := by
  have hfirst : ∀ chars : List Char, ':' ∉ chars.takeWhile (· != ':') := by
    intro chars hmem
    simpa using List.mem_takeWhile_imp hmem
  rw [Reading.qualifiedName] at hread
  rcases Reading.takeUntil (fun left => !left.head?.all isNameChar) input with ⟨whole, rest, le⟩
  dsimp only at hread
  split at hread
  · next qualifier localName hsplit =>
      have hparts : ':' ∉ qualifier ∧ ':' ∉ localName := by
        split at hsplit
        · cases hsplit
          exact ⟨by simp, hfirst _⟩
        · split at hsplit
          · cases hsplit
          · next hsecond =>
              cases hsplit
              exact ⟨hfirst _, by simpa using hsecond⟩
      split at hread
      · next hbegins =>
          cases hread
          simp only [Bool.and_eq_true, Bool.not_eq_true', List.isEmpty_eq_false_iff] at hbegins
          exact ⟨by simpa using hparts.1, by simpa using hparts.2, by simpa using hbegins.1.2⟩
      · cases hread
  · cases hread

theorem isPlain_of_writtenAttribute {reading : Reading (QualifiedName × List Char) input}
    (hread : writtenAttribute input = .ok reading) :
    reading.value.1.IsPlain := by
  simp only [writtenAttribute, bind_eq_ok_iff, exists_reading] at hread
  obtain ⟨name, rest, le, hname, _, _, _, -, _, _, _, -, hread⟩ := hread
  cases hread
  exact isPlain_of_qualifiedName hname

theorem steps_of_addWritten {name : QualifiedName} {value : List Char} (hname : name.IsPlain)
    (hadd : addWritten builder nesting name value = .ok next) :
    builder.Steps next := by
  simp only [addWritten, bind_eq_ok_iff, Prod.exists] at hadd
  obtain ⟨expanded, references, -, hadd⟩ := hadd
  have hnote : builder.Step { builder with references := references } := .note ..
  exact hnote.steps.trans (Builder.Step.written hname hadd).steps

theorem steps_of_tagRest {ending : Reading TagEnd input}
    (hread : tagRest builder nesting input = .ok (next, ending)) :
    builder.Steps next := by
  fun_induction tagRest builder nesting input with
  | case1 =>
      cases hread
      exact .refl
  | case2 builder rest =>
      simp only [map_eq_ok_iff, Prod.mk.injEq] at hread
      obtain ⟨_, -, rfl, -⟩ := hread
      exact .refl
  | case3 =>
      cases hread
      exact .refl
  | case4 => cases hread
  | case5 builder c tail hslash hend hspace start rest le hspaces d hstart hd ih =>
      simp only [map_eq_ok_iff, Prod.exists, Prod.mk.injEq] at hread
      obtain ⟨_, ending, htag, rfl, -⟩ := hread
      exact ih htag
  | case6 => cases hread
  | case7 => cases hread
  | case8 builder c tail hslash hend hspace start rest le hspaces d hstart hd name value left le'
      hwritten extended hadd ih =>
      simp only [map_eq_ok_iff, Prod.exists, Prod.mk.injEq] at hread
      obtain ⟨_, ending, htag, rfl, -⟩ := hread
      have hname := isPlain_of_writtenAttribute hwritten
      exact (steps_of_addWritten hname hadd).trans (ih htag)
  | case9 => cases hread

theorem steps_of_startTag {ending : Reading TagEnd input}
    (hread : startTag builder nesting input = .ok (next, ending)) :
    builder.Steps next := by
  simp only [startTag, bind_eq_ok_iff, exists_reading] at hread
  obtain ⟨name, rest, le, hname, hread⟩ := hread
  split at hread
  · cases hread
  · simp only [bind_eq_ok_iff, exists_reading, Prod.exists] at hread
    obtain ⟨tagged, ending, rest', le', htag, hread⟩ := hread
    have hplain := isPlain_of_qualifiedName hname
    have hnote : builder.Step { builder with tagSeen := true, afterText := false } := .note ..
    have hattributes := hnote.steps.trans (steps_of_tagRest htag)
    cases ending with
    | empty =>
        simp only [bind_eq_ok_iff] at hread
        obtain ⟨added, hadd, hread⟩ := hread
        cases hread
        exact hattributes.trans (Builder.Step.empty hplain hadd).steps
    | content =>
        simp only [bind_eq_ok_iff] at hread
        obtain ⟨added, hadd, hread⟩ := hread
        cases hread
        exact hattributes.trans (Builder.Step.opening hplain hadd).steps
    | unfinished =>
        cases hread
        exact hattributes

theorem steps_of_endTag {reading : Reading Unit input}
    (hread : endTag builder input = .ok (next, reading)) :
    builder.Steps next := by
  simp only [endTag, bind_eq_ok_iff, exists_reading] at hread
  obtain ⟨name, rest, le, -, _, _, _, -, closed, hclosed, hread⟩ := hread
  cases hread
  have hnote : builder.Step { builder with afterText := false } := .note ..
  exact hnote.steps.trans (Builder.Step.closing hclosed).steps

/-! ## Leaves -/

theorem steps_of_comment {reading : Reading Unit input}
    (hread : comment builder input = .ok (next, reading)) :
    builder.Steps next := by
  simp only [comment, bind_eq_ok_iff, exists_reading] at hread
  obtain ⟨value, rest, le, -, _, _, _, -, hread⟩ := hread
  split at hread
  · cases hread
  · simp only [bind_eq_ok_iff] at hread
    obtain ⟨added, hadd, hread⟩ := hread
    cases hread
    exact (Builder.Step.leaf hadd).steps

theorem steps_of_instruction {reading : Reading Unit input}
    (hread : instruction builder input = .ok (next, reading)) :
    builder.Steps next := by
  rw [instruction] at hread
  split at hread
  · cases hread
  · simp only [bind_eq_ok_iff, exists_reading] at hread
    obtain ⟨target, rest, le, -, data, rest', le', -, _, _, _, -, added, hadd, hread⟩ := hread
    cases hread
    exact (Builder.Step.leaf hadd).steps

theorem steps_of_markedSection {reading : Reading Unit input}
    (hread : markedSection builder input = .ok (next, reading)) :
    builder.Steps next := by
  simp only [markedSection, bind_eq_ok_iff, exists_reading] at hread
  obtain ⟨value, rest, le, -, _, _, _, -, added, hadd, hread⟩ := hread
  cases hread
  exact (Builder.Step.text hadd).steps

theorem steps_of_marked {reading : Reading Unit input}
    (hread : marked builder input = .ok (next, reading)) :
    builder.Steps next := by
  rw [marked] at hread
  split at hread
  · simp only [map_eq_ok_iff, Prod.exists, Prod.mk.injEq] at hread
    obtain ⟨_, _, hcomment, rfl, -⟩ := hread
    exact steps_of_comment hcomment
  · split at hread
    · simp only [map_eq_ok_iff, Prod.exists, Prod.mk.injEq] at hread
      obtain ⟨_, _, hsection, rfl, -⟩ := hread
      exact steps_of_markedSection hsection
    · cases hread

/-! ## Content -/

theorem steps_of_flush {done : List Char} (hflush : flush builder done = .ok next) :
    builder.Steps next := by
  rw [flush] at hflush
  split at hflush
  · cases hflush
    exact .refl
  · exact (Builder.Step.text hflush).steps

theorem steps_of_textRun_and_content :
    (∀ builder nesting done verbatim input, ∀ next,
      textRun builder nesting done verbatim input = .ok next → builder.Steps next) ∧
    (∀ builder nesting level input, ∀ next rest,
      content builder nesting level input = .ok (next, rest) → builder.Steps next) := by
  apply textRun.mutual_induct
    (fun builder nesting done verbatim input => ∀ next,
      textRun builder nesting done verbatim input = .ok next → builder.Steps next)
    (fun builder nesting level input => ∀ next rest,
      content builder nesting level input = .ok (next, rest) → builder.Steps next)
  -- The cases that fail are closed at once.
  all_goals
    intros
    rename_i hread
    first
    | simp only [textRun, *, reduceIte, reduceCtorEq, Bool.false_eq_true] at hread
    | simp only [content, *, reduceIte, reduceCtorEq, Bool.false_eq_true] at hread
  case case1 => exact steps_of_flush hread
  case case3 ih _ => exact ih _ hread
  case case4 ih _ => exact ih _ hread
  case case8 before hflush inner references after rest hcontent hcount ihcontent ih _ =>
    -- The value of an entity is read in between, with counters of its own.
    have henter : before.Step { before with references := references, tagSeen := false } := .note ..
    have hleave : after.Step
        { after with
          references := leaveEntity (inner + 1) after.references
          tagSeen := before.tagSeen } := .note ..
    have hentity := henter.steps.trans (ihcontent _ _ hcontent)
    exact (steps_of_flush hflush).trans (hentity.trans (hleave.steps.trans (ih _ hread)))
  case case10 ih _ => exact ih _ hread
  case case11 ih _ => exact ih _ hread
  case case12 =>
    cases hread
    exact .refl
  case case14 htag _ _ _ =>
    cases hread
    exact steps_of_endTag htag
  case case15 htag _ ih _ _ => exact (steps_of_endTag htag).trans (ih _ _ hread)
  case case17 hinstruction ih _ _ =>
    exact (steps_of_instruction hinstruction).trans (ih _ _ hread)
  case case19 hmarked ih _ _ => exact (steps_of_marked hmarked).trans (ih _ _ hread)
  case case21 htag ih _ _ => exact (steps_of_startTag htag).trans (ih _ _ hread)
  case case22 htag ih _ _ => exact (steps_of_startTag htag).trans (ih _ _ hread)
  case case26 htext ihtext ih _ _ => exact (ihtext _ htext).trans (ih _ _ hread)

theorem steps_of_content {level : Nat} {rest : List Char}
    (hread : content builder nesting level input = .ok (next, rest)) :
    builder.Steps next :=
  steps_of_textRun_and_content.2 _ _ _ _ _ _ hread

/-! ## The document type declaration -/

theorem steps_of_entityDeclaration {reading : Reading Unit input}
    (hread : entityDeclaration builder input = .ok (next, reading)) :
    builder.Steps next := by
  simp only [entityDeclaration, bind_eq_ok_iff, exists_reading] at hread
  obtain ⟨_, _, _, -, general, _, _, -, entity, _, _, -, _, _, _, -, value?, _, _, -, _, _, _, -,
    hread⟩ := hread
  cases hread
  split
  · next value =>
      have hnote : builder.Step
          { builder with entities := builder.entities ++ [(String.ofList entity, value)] } :=
        .note ..
      exact hnote.steps
  · exact .refl

theorem steps_of_subsetItem {reading : Reading Unit input}
    (hread : subsetItem builder input = .ok (next, reading)) :
    builder.Steps next := by
  rw [subsetItem] at hread
  split at hread
  · simp only [map_eq_ok_iff, Prod.exists, Prod.mk.injEq] at hread
    obtain ⟨_, _, hentity, rfl, -⟩ := hread
    exact steps_of_entityDeclaration hentity
  · simp only [map_eq_ok_iff, Prod.exists, Prod.mk.injEq] at hread
    obtain ⟨_, _, hcomment, rfl, -⟩ := hread
    exact steps_of_comment hcomment
  · simp only [map_eq_ok_iff, Prod.exists, Prod.mk.injEq] at hread
    obtain ⟨_, _, hinstruction, rfl, -⟩ := hread
    exact steps_of_instruction hinstruction
  · split at hread
    · simp only [map_eq_ok_iff, Prod.mk.injEq] at hread
      obtain ⟨_, -, rfl, -⟩ := hread
      exact .refl
    · cases hread

theorem steps_of_subset {rest : List Char} (hread : subset builder input = .ok (next, rest)) :
    builder.Steps next := by
  fun_induction subset builder input with
  | case1 => cases hread
  | case2 builder rest start left le hspaces =>
      simp only [bind_eq_ok_iff, exists_reading] at hread
      obtain ⟨_, _, _, -, hread⟩ := hread
      cases hread
      exact .refl
  | case3 => cases hread
  | case4 builder rest extended _ left le hitem ih =>
      exact (steps_of_subsetItem hitem).trans (ih hread)
  | case5 builder c rest hclose hopen hspace ih => exact ih hread
  | case6 => cases hread

theorem steps_of_typeDeclaration {rest : List Char}
    (hread : typeDeclaration builder input = .ok (next, rest)) :
    builder.Steps next := by
  simp only [typeDeclaration, bind_eq_ok_iff, exists_reading] at hread
  obtain ⟨_, _, _, -, _, _, _, -, _, _, _, -, hread⟩ := hread
  split at hread
  · cases hread
    exact .refl
  · exact steps_of_subset hread
  · cases hread

/-! ## The document -/

theorem steps_of_miscellany {rest : List Char}
    (hread : miscellany builder input = .ok (next, rest)) :
    builder.Steps next := by
  fun_induction miscellany builder input with
  | case1 => cases hread
  | case2 builder rest extended _ left le hcomment ih =>
      exact (steps_of_comment hcomment).trans (ih hread)
  | case3 => cases hread
  | case4 builder rest extended _ left le hinstruction ih =>
      exact (steps_of_instruction hinstruction).trans (ih hread)
  | case5 builder c rest hcomment hinstruction hspace ih => exact ih hread
  | case6 =>
      cases hread
      exact .refl
  | case7 =>
      cases hread
      exact .refl

theorem steps_of_prologEnd {limits : Limits} {rest : List Char}
    (hread : prologEnd limits builder input = .ok (next, rest)) :
    builder.Steps next := by
  unfold prologEnd at hread
  split at hread
  · split at hread
    · cases hread
    · simp only [bind_eq_ok_iff, Prod.exists] at hread
      obtain ⟨declared, left, hdeclared, hread⟩ := hread
      exact (steps_of_typeDeclaration hdeclared).trans (steps_of_miscellany hread)
  · cases hread
    exact .refl

theorem steps_of_rootElement {rest : List Char}
    (hread : rootElement builder input = .ok (next, rest)) :
    builder.Steps next := by
  unfold rootElement at hread
  split at hread
  · simp only [bind_eq_ok_iff, Prod.exists, exists_reading] at hread
    obtain ⟨tagged, ending, left, le, htag, hread⟩ := hread
    split at hread
    · exact (steps_of_startTag htag).trans (steps_of_content hread)
    · cases hread
      exact steps_of_startTag htag
  · cases hread
    exact .refl

/-- The parts of a document that are read one after the other. -/
theorem exists_parts_of_document {limits : Limits} {document : Document}
    (hread : Reader.document limits input = .ok document) :
    ∃ start opened declared filled closed first second third last,
      miscellany { nodesLimit := limits.nodesLimit } start = .ok (opened, first) ∧
      prologEnd limits opened first = .ok (declared, second) ∧
      rootElement declared second = .ok (filled, third) ∧
      miscellany filled third = .ok (closed, last) ∧
      closed.finish = .ok document := by
  have hparts : ∃ start opened declared filled closed first second third last,
      miscellany { nodesLimit := limits.nodesLimit } start = .ok (opened, first) ∧
      prologEnd limits opened first = .ok (declared, second) ∧
      rootElement declared second = .ok (filled, third) ∧
      miscellany filled third = .ok (closed, last) ∧
      (if last.isEmpty then closed.finish else .error .malformed) = .ok document := by
    unfold Reader.document at hread
    dsimp only at hread
    split at hread
    all_goals
      simp only [bind_eq_ok_iff, ok_bind, Prod.exists] at hread
      grind
  obtain ⟨start, opened, declared, filled, closed, first, second, third, last, hopened, hdeclared,
    hfilled, hclosed, hfinish⟩ := hparts
  split at hfinish
  · exact ⟨start, opened, declared, filled, closed, first, second, third, last, hopened, hdeclared,
      hfilled, hclosed, hfinish⟩
  · cases hfinish

theorem exists_steps_of_document {limits : Limits} {document : Document}
    (hread : Reader.document limits input = .ok document) :
    ∃ builder : Builder, Builder.Steps { nodesLimit := limits.nodesLimit } builder ∧
      builder.finish = .ok document := by
  obtain ⟨start, opened, declared, filled, closed, _, _, _, _, hopened, hdeclared, hfilled, hclosed,
    hfinish⟩ := exists_parts_of_document hread
  have hprolog := (steps_of_miscellany hopened).trans (steps_of_prologEnd hdeclared)
  have hbody := (steps_of_rootElement hfilled).trans (steps_of_miscellany hclosed)
  exact ⟨closed, hprolog.trans hbody, hfinish⟩

end Reader

/-- What every operation preserves holds of the builder that a document comes from. -/
theorem Document.exists_builder_of_parse {limits : Limits} {text : String} {document : Document}
    {p : Builder → Prop} (hparse : Document.parse limits text = .ok document)
    (hstart : p { nodesLimit := limits.nodesLimit })
    (hstep : ∀ {builder next : Builder}, p builder → builder.Step next → p next) :
    ∃ builder : Builder, p builder ∧ builder.finish = .ok document := by
  obtain ⟨builder, hsteps, hfinish⟩ := Reader.exists_steps_of_document hparse
  refine ⟨builder, ?_, hfinish⟩
  clear hfinish
  induction hsteps with
  | refl => exact hstart
  | tail _ hlast ih => exact hstep ih hlast

end Markup
end RecordExtraction
