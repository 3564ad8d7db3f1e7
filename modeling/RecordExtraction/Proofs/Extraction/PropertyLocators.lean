import Mathlib
import RecordExtraction.Proofs.Extraction.Independence
import RecordExtraction.Proofs.Locator.ElementNames
import RecordExtraction.Proofs.Locator.ErrorPositions
import RecordExtraction.Proofs.Markup.RootElement

/-!
# Locators of properties

No locator of an admitted property is blank, so none fails for being empty.  A property without a
locator of its own is located by its name.  An identifier is a name of locators, also where it is
the name of an operator or of a type of nodes, and as a locator it is one step from the root to the
children that have this name.  It finds the root element if this is the element's local name.
Otherwise it finds nothing, unless an entity has closed the root element and others with the name
come after it.
-/

namespace RecordExtraction

open Locator Markup

/-! ## Blank locators -/

namespace Locator

variable {text : String} {document : Document} {e : PathError}

theorem select_error {locator : Locator} (hcompile : compile text = .ok locator)
    (herror : locator.select document = .error e) : e = .notANodeSet := by
  rcases lexemes_of_compile hcompile with ⟨lexemes, hexpr⟩
  have haccepted := callsAccepted_of_parseTokens hexpr
  rcases bind_eq_error_iff.mp herror with heval | ⟨value, _, hitems⟩
  · exact (Expr.error_eval document locator.expr rootContext haccepted heval).1
  · exact (Value.items_eq_error_iff.mp hitems).1

theorem isBlankText_of_locatorEvaluator (herror : locatorEvaluator text document = .error .empty) :
    isBlankText text = true := by
  rcases bind_eq_error_iff.mp herror with hcompile | ⟨locator, hcompile, hselect⟩
  · rcases foundIn_of_compile hcompile with ⟨_, hblank⟩ | hfound
    · exact List.all_eq_true.mpr hblank
    · cases hfound
  · rcases bind_eq_error_iff.mp hselect with hitems | ⟨_, _, hfirst⟩
    · cases select_error hcompile hitems
    · cases hfirst

end Locator

/-! ## Names as locators -/

section

variable {c : Char} {name : String}

theorem toNat_lt_of_isAlpha (halpha : c.isAlpha = true) : c.toNat < 128 := by
  simp only [Char.isAlpha, Char.isUpper, Char.isLower, Bool.or_eq_true, Bool.and_eq_true,
    decide_eq_true_eq, ge_iff_le, UInt32.le_iff_toNat_le] at halpha
  change c.val.toNat < 128
  have hz : 'z'.val.toNat = 122 := rfl
  have hZ : 'Z'.val.toNat = 90 := rfl
  omega

theorem isAlphabetic_of_isAlpha (halpha : c.isAlpha = true) : isAlphabetic c = true := by
  rw [isAlphabetic, if_pos (toNat_lt_of_isAlpha halpha), halpha]

theorem isNumeric_of_isDigit (hdigit : c.isDigit = true) : isNumeric c = true := by
  have hascii : c.toNat < 128 := by
    have hbounds := isDigit_iff.mp hdigit
    omega
  rw [isNumeric, if_pos hascii, hdigit]

theorem isNameStart_of_isIdentifierStart (hstart : isIdentifierStart c = true) :
    Locator.isNameStart c = true := by
  rcases Bool.or_eq_true_iff.mp hstart with halpha | hlow
  · simp [Locator.isNameStart, isAlphabetic_of_isAlpha halpha]
  · simp [Locator.isNameStart, hlow]

theorem isNameChar_of_isIdentifierPart (hpart : isIdentifierPart c = true) :
    Locator.isNameChar c = true := by
  rcases Bool.or_eq_true_iff.mp hpart with halphanum | hlow
  · rcases Bool.or_eq_true_iff.mp halphanum with halpha | hdigit
    · simp [Locator.isNameChar, isAlphanumeric, isAlphabetic_of_isAlpha halpha]
    · simp [Locator.isNameChar, isAlphanumeric, isNumeric_of_isDigit hdigit]
  · simp [Locator.isNameChar, hlow]

theorem isBlank_eq_false_of_isNameStart (hstart : Locator.isNameStart c = true) :
    isBlank c = false := by
  by_contra hblank
  rw [Bool.not_eq_false] at hblank
  have hchar := Locator.isNameChar_of_isNameStart hstart
  rw [Locator.isNameChar_eq_false_of_isBlank hblank] at hchar
  cases hchar

theorem isName_of_isIdentifier (hidentifier : isIdentifier name = true) :
    isName name.toList = true := by
  unfold isIdentifier at hidentifier
  split at hidentifier
  · cases hidentifier
  · next c rest hchars =>
      rw [Bool.and_eq_true, List.all_eq_true] at hidentifier
      rw [hchars]
      apply isName_cons.mpr
      exact ⟨isNameStart_of_isIdentifierStart hidentifier.1,
        fun d hd => isNameChar_of_isIdentifierPart (hidentifier.2 d hd)⟩

end

namespace Locator

/-- The path to the children of a node that have the name. -/
def childNamed (name : String) : Expr := .path .context [.mk .child (.name none (some name)) []]

theorem trimBlank_of_isName {name : String} (hname : isName name.toList = true) :
    trimBlank name = name := by
  rcases exists_of_isName hname with ⟨first, more, hchars, hfirst⟩
  have hblank : ¬isBlank first = true := by
    rw [isBlank_eq_false_of_isNameStart hfirst]
    exact Bool.false_ne_true
  have hbegin : name.toList.dropWhile isBlank = name.toList := by
    rw [hchars, List.dropWhile_cons_of_neg hblank]
  rw [trimBlank, trimWhile, hbegin, dropEndWhile_isBlank_of_isNameOrEmpty (.inr hname),
    String.ofList_toList]

theorem compile_of_isName {name : String} (hname : isName name.toList = true) :
    compile name = .ok ⟨name, childNamed name⟩ := by
  have hnext : ∀ c ∈ ([] : List Char).head?, BreaksAt name.toList c := by simp
  rcases exists_scan_brokenName 0 hname hnext with ⟨lexeme, htoken, hscan⟩
  rw [List.append_nil, String.ofList_toList] at *
  have htokens : tokenize name = .ok [lexeme] := by
    rw [tokenize, hscan]
    rfl
  have hparse : Parser.parseTokens [lexeme] = .ok (childNamed name) := by
    apply Parser.parseTokens_of_derives_path
    rw [List.map_singleton, htoken]
    exact .relative (.lastStep (.childStep .nameTest .noPredicates))
  have hnonempty : name.isEmpty = false := by
    rcases exists_of_isName hname with ⟨first, more, hchars, _⟩
    rw [String.isEmpty_eq_false_iff, ne_eq, ← String.toList_inj, hchars]
    exact List.cons_ne_nil first more
  simp only [compile, trimBlank_of_isName hname, hnonempty, Parser.parse, htokens, ok_bind, hparse]
  rfl

end Locator

/-! ## The elements at the top -/

namespace Markup

/-- The members of the root that are elements with the name, in any namespace. -/
def Document.topElements (document : Document) (name : String) : List Nat :=
  (document.children 0).filter fun id => (document.tag? id).any fun tag => tag.name == name

variable {document : Document} {root : Nat} {tag : Tag} {name : String}

theorem Document.mem_topElements {id : Nat} :
    id ∈ document.topElements name ↔
      document.parent? id = some 0 ∧ ∃ tag, document.tag? id = some tag ∧ tag.name = name := by
  rw [topElements, List.mem_filter, mem_children, Option.any_eq_true]
  simp only [beq_iff_eq]

theorem Document.topElements_increasing (document : Document) (name : String) :
    (document.topElements name).Pairwise (· < ·) :=
  (document.membersFrom_increasing _ _).filter _

theorem Document.RootElement.firstElement (hroot : document.RootElement root tag) :
    document.FirstElement root tag :=
  ⟨hroot.isElement, hroot.atTop, fun id other hother hparent =>
    (hroot.alone id other hother hparent).ge⟩

theorem Document.RootElement.topElements_eq (hroot : document.RootElement root tag) :
    document.topElements name = if tag.name = name then [root] else [] := by
  by_cases hname : tag.name = name
  · rw [if_pos hname]
    have hnodup : (document.topElements name).Nodup :=
      (document.topElements_increasing name).imp Nat.ne_of_lt
    apply List.perm_singleton.mp
    apply (List.perm_ext_iff_of_nodup hnodup (List.nodup_singleton root)).mpr
    intro id
    rw [mem_topElements, List.mem_singleton]
    constructor
    · intro hid
      rcases hid with ⟨hparent, other, hother, _⟩
      exact hroot.alone id other hother hparent
    · intro hid
      rw [hid]
      exact ⟨hroot.atTop, tag, hroot.isElement, hname⟩
  · rw [if_neg hname]
    apply List.eq_nil_iff_forall_not_mem.mpr
    intro id hid
    rcases mem_topElements.mp hid with ⟨hparent, other, hother, hotherName⟩
    have hsame := hroot.alone id other hother hparent
    rw [hsame, hroot.isElement, Option.some.injEq] at hother
    rw [hother] at hname
    exact hname hotherName

/-- The first element at the top is the first one there with its name. -/
theorem Document.FirstElement.head?_topElements (hfirst : document.FirstElement root tag)
    (hname : tag.name = name) : (document.topElements name).head? = some root := by
  have hroot : root ∈ document.topElements name :=
    mem_topElements.mpr ⟨hfirst.atTop, tag, hfirst.isElement, hname⟩
  have hincreasing := document.topElements_increasing name
  cases htop : document.topElements name with
  | nil =>
      rw [htop] at hroot
      cases hroot
  | cons id rest =>
      have hid : id ∈ document.topElements name := by
        rw [htop]
        exact List.mem_cons_self
      rcases mem_topElements.mp hid with ⟨hparent, other, hother, _⟩
      have hle := hfirst.first id other hother hparent
      rw [htop] at hroot hincreasing
      rw [List.head?_cons]
      rcases List.mem_cons.mp hroot with hsame | hlater
      · rw [hsame]
      · have hlt := (List.pairwise_cons.mp hincreasing).1 root hlater
        omega

end Markup

namespace Locator

open Item

theorem accepts_child_named {document : Document} {name : String} {id : Nat} :
    (NodeTest.name none (some name)).accepts document .child (.node id) = true ↔
      ∃ tag, document.tag? id = some tag ∧ tag.name = name := by
  cases htag : document.tag? id with
  | none => simp [NodeTest.accepts, htag]
  | some tag => simp [NodeTest.accepts, testElement, agrees, htag, @eq_comm _ tag.name name]

/-- A name finds the elements at the top that have it. -/
theorem select_childNamed (document : Document) (text name : String) :
    (⟨text, childNamed name⟩ : Locator).select document =
      .ok ((document.topElements name).map .node) := by
  have hitems : reach document [(.child, .name none (some name))] [.node 0] =
      (document.topElements name).map .node := by
    apply (inOrder_reach (List.pairwise_singleton _ _)).ext
      (inOrder_map_node (document.topElements_increasing name))
    intro item
    simp only [reach, mem_normalize, List.mem_flatMap, List.mem_singleton, exists_eq_left,
      mem_candidates, Axis.items, List.mem_map, Document.mem_children, Document.mem_topElements]
    constructor
    · intro hitem
      rcases hitem with ⟨⟨id, hparent, rfl⟩, hname⟩
      exact ⟨id, ⟨hparent, accepts_child_named.mp hname⟩, rfl⟩
    · intro hitem
      rcases hitem with ⟨id, ⟨hparent, hname⟩, rfl⟩
      exact ⟨⟨id, hparent, rfl⟩, accepts_child_named.mpr hname⟩
  have heval : (childNamed name).eval document rootContext =
      .ok (.nodes (reach document [(.child, .name none (some name))] [.node 0])) :=
    eval_path_plain [(.child, .name none (some name))] rootContext
  rw [select, heval, hitems]
  rfl

/-- A name finds the first element at the top that has it. -/
theorem locatorEvaluator_of_isName {name : String} (hname : isName name.toList = true)
    (document : Document) :
    locatorEvaluator name document = .ok ((document.topElements name).head?.map .node) := by
  rw [locatorEvaluator, compile_of_isName hname, ok_bind, selectFirst, select_childNamed, ok_bind,
    List.head?_map]

end Locator

/-! ## Properties -/

theorem Property.locator_of_none {property : Property} (hnone : property.explicitLocator = none) :
    property.locator = property.name := by
  rw [locator, hnone, Option.getD_none]

theorem Schema.isBlankText_locator {schema : Schema} {property : Property}
    (hproperty : property ∈ schema.properties) : isBlankText property.locator = false := by
  rcases (firstProblem?_eq_none_iff.mp schema.accepted).2 property hproperty with
    ⟨hidentifier, _, hexplicit⟩
  cases hlocator : property.explicitLocator with
  | some text =>
      rw [hlocator, Option.any_some] at hexplicit
      rw [Property.locator, hlocator, Option.getD_some, hexplicit]
  | none =>
      rcases exists_of_isName (isName_of_isIdentifier hidentifier) with ⟨c, rest, hchars, hc⟩
      rw [Property.locator_of_none hlocator, isBlankText, List.all_eq_false]
      refine ⟨c, by rw [hchars]; exact List.mem_cons_self, ?_⟩
      rw [isBlank_eq_false_of_isNameStart hc]
      exact Bool.false_ne_true

/-- What fails at a property with the language of locators is not an empty locator. -/
theorem Schema.extract_ne_empty {schema : Schema} {property : Property} {kind : ScalarKind}
    (hproperty : property ∈ schema.properties) (hdeclared : property.type.kind = .scalar kind)
    (document : Document) (name path : String) :
    property.extract locatorEvaluator document ≠ .error (.pathEvaluation name path .empty) := by
  intro herror
  rw [property.extract_of_declared hdeclared] at herror
  split at herror
  · next cause hcause =>
      cases herror
      have hblank := isBlankText_of_locatorEvaluator hcause
      rw [Schema.isBlankText_locator hproperty] at hblank
      cases hblank
  · split at herror <;> cases herror
  · split at herror <;> cases herror

section

variable {schema : Schema} {plan : Plan}

/-- Running a plan with the language of locators never fails for an empty locator. -/
theorem Schema.constructFrom_ne_empty (hplan : schema.assemble = .ok plan) (options : InputOptions)
    (source : Source) (name path : String) :
    ((Factory.mk plan locatorEvaluator options).constructFrom source).outcome ≠
      .error (.pathEvaluation name path .empty) := by
  intro herror
  cases hdocument : ((Factory.mk plan locatorEvaluator options).readDocument source).1 with
  | error fault =>
      change Factory.outcome _ (Factory.readDocument _ source).1 = _ at herror
      rw [hdocument] at herror
      cases herror
  | ok document =>
      rcases (Schema.constructFrom_eq_error_iff hplan hdocument).mp herror with
        ⟨before, property, after, hsplit, _, hextract, _⟩
      have hproperty : property ∈ schema.properties := by simp [hsplit]
      rcases Schema.exists_plan_iff.mp ⟨plan, hplan⟩ property hproperty with ⟨kind, hdeclared⟩
      exact Schema.extract_ne_empty hproperty hdeclared document name path hextract

theorem Schema.constructInto_ne_empty (hplan : schema.assemble = .ok plan) (options : InputOptions)
    (text : String) (parameters : List ParameterType) (name path : String) :
    (Factory.mk plan locatorEvaluator options).constructInto text parameters ≠
      .error (.pathEvaluation name path .empty) := by
  intro herror
  rcases bind_eq_error_iff.mp herror with hconstruct | ⟨record, _, htake⟩
  · exact Schema.constructFrom_ne_empty hplan options _ name path hconstruct
  · split at htake <;> cases htake

end

/-- Under the language of locators, no construction by a schema fails for an empty locator.  The
locator of a property that has none of its own is the one step from the root to the children with
the name of the property.  In every document it finds the first element at the top that has this
local name, in any namespace: the root element, which is the first of all elements there, if this is
its local name.  Otherwise it finds nothing in a document with one element at the top, such as every
document without a type declaration. -/
theorem property_locators_find_roots (schema : Schema) :
    (∀ plan options name path, schema.assemble = .ok plan →
      (∀ source,
        ((Factory.mk plan locatorEvaluator options).constructFrom source).outcome ≠
          .error (.pathEvaluation name path .empty)) ∧
      ∀ text parameters,
        (Factory.mk plan locatorEvaluator options).constructInto text parameters ≠
          .error (.pathEvaluation name path .empty)) ∧
    ∀ property ∈ schema.properties, property.explicitLocator = none →
      compile property.locator = .ok ⟨property.name, childNamed property.name⟩ ∧
      ∀ document,
        locatorEvaluator property.locator document =
          .ok ((document.topElements property.name).head?.map .node) ∧
        (∀ root tag, document.FirstElement root tag → tag.name = property.name →
          locatorEvaluator property.locator document = .ok (some (.node root))) ∧
        (∀ root tag, document.RootElement root tag →
          locatorEvaluator property.locator document =
            .ok (if tag.name = property.name then some (.node root) else none)) ∧
        ∀ limits text, Document.parse limits text = .ok document →
          (∃ root tag, document.FirstElement root tag) ∧
          (limits.allowTypeDeclaration = false → ∃ root tag, document.RootElement root tag) := by
  constructor
  · intro plan options name path hplan
    constructor
    · intro source
      exact Schema.constructFrom_ne_empty hplan options source name path
    · intro text parameters
      exact Schema.constructInto_ne_empty hplan options text parameters name path
  · intro property hproperty hnone
    have hname : isName property.name.toList = true :=
      isName_of_isIdentifier (Schema.isIdentifier_name hproperty)
    rw [Property.locator_of_none hnone]
    refine ⟨compile_of_isName hname, ?_⟩
    intro document
    refine ⟨locatorEvaluator_of_isName hname document, ?_, ?_, ?_⟩
    · intro root tag hfirst htag
      rw [locatorEvaluator_of_isName hname, hfirst.head?_topElements htag, Option.map_some]
    · intro root tag hroot
      rw [locatorEvaluator_of_isName hname, hroot.topElements_eq]
      split <;> rfl
    · intro limits text hparse
      refine ⟨Document.exists_firstElement_of_parse hparse, ?_⟩
      intro hlimits
      rcases Document.exists_root_of_parse hlimits hparse with ⟨root, tag, helement, htop, halone⟩
      exact ⟨root, tag, helement, htop, halone⟩

/-- Properties that are named like an operator and like a type of nodes. -/
def reservedSchema : Schema where
  typeName := "T"
  properties := [⟨"and", ⟨.scalar .text, true⟩, none⟩, ⟨"text", ⟨.scalar .text, true⟩, none⟩]
  accepted := by decide

def reservedPlan : Plan where
  typeName := "T"
  steps :=
    [⟨0, "and", "and", ⟨.scalar .text, true⟩, .extract .text .nullable⟩,
      ⟨1, "text", "text", ⟨.scalar .text, true⟩, .extract .text .nullable⟩]

/-- The start tag of an element in a namespace. -/
def conjunctionTag : Tag := ⟨some "u", "and", [], ⟨[⟨some "p", "u"⟩]⟩⟩

/-- The root element is in a namespace. -/
def conjunctionDocument : Document := .ofContent (.element conjunctionTag .nil .nil)

theorem rootElement_conjunctionDocument : conjunctionDocument.RootElement 1 conjunctionTag := by
  have hchildren : conjunctionDocument.children 0 = [1] := by cbv
  constructor
  · rfl
  · rw [← Document.mem_children, hchildren]
    exact List.mem_singleton_self 1
  · intro id other _ hparent
    rwa [← Document.mem_children, hchildren, List.mem_singleton] at hparent

theorem reserved_names_find_roots :
    reservedSchema.assemble = .ok reservedPlan ∧
    (Factory.ofPlan reservedPlan).construct "<p:and xmlns:p='u'/>" ≠
      .error (.pathEvaluation "and" "and" .empty) ∧
    compile "and" = .ok ⟨"and", childNamed "and"⟩ ∧
    compile "text" = .ok ⟨"text", childNamed "text"⟩ ∧
    Document.parse InputOptions.standard.limits "<p:and xmlns:p='u'/>" =
      .ok conjunctionDocument ∧
    (∃ root tag, conjunctionDocument.FirstElement root tag) ∧
    (∃ root tag, conjunctionDocument.RootElement root tag) ∧
    conjunctionDocument.FirstElement 1 conjunctionTag ∧
    conjunctionDocument.RootElement 1 conjunctionTag ∧
    locatorEvaluator "and" conjunctionDocument = .ok (some (.node 1)) ∧
    locatorEvaluator "text" conjunctionDocument = .ok none := by
  have hplan : reservedSchema.assemble = .ok reservedPlan := by rfl
  have hparse : Document.parse InputOptions.standard.limits "<p:and xmlns:p='u'/>" =
      .ok conjunctionDocument := by cbv
  rcases property_locators_find_roots reservedSchema with ⟨hconstruct, hlocators⟩
  rcases hlocators ⟨"and", ⟨.scalar .text, true⟩, none⟩ List.mem_cons_self rfl with
    ⟨hand, hfindsAnd⟩
  rcases hlocators ⟨"text", ⟨.scalar .text, true⟩, none⟩
    (List.mem_cons_of_mem _ List.mem_cons_self) rfl with ⟨htext, hfindsText⟩
  have hroot := rootElement_conjunctionDocument
  have hfirst := hroot.firstElement
  rcases hfindsAnd conjunctionDocument with ⟨_, hfindsFirst, _, helements⟩
  rcases helements _ _ hparse with ⟨hexists, hexistsRoot⟩
  exact ⟨hplan, (hconstruct _ _ _ _ hplan).1 _, hand, htext, hparse, hexists, hexistsRoot rfl,
    hfirst, hroot, hfindsFirst _ _ hfirst rfl, (hfindsText conjunctionDocument).2.2.1 _ _ hroot⟩

/-- In the text the root element is closed by an entity, and another element comes after it. -/
def reopenedText : String := "<!DOCTYPE a [<!ENTITY e '<x/></a>'>]><a>&e;<b/>"

def reopenedDocument : Document :=
  .ofContent
    (.element ⟨none, "a", [], {}⟩ (.element ⟨none, "x", [], {}⟩ .nil .nil)
      (.element ⟨none, "b", [], {}⟩ .nil .nil))

/-- What the reader has built when the declaration has been read. -/
def declaredBuilder : Builder := { nodesLimit := 10, entities := [("e", "<x/></a>".toList)] }

theorem prologEnd_reopenedText :
    Reader.prologEnd ⟨true, 10⟩ { nodesLimit := 10 } reopenedText.toList =
      .ok (declaredBuilder, "<a>&e;<b/>".toList) := by
  have hentity : Reader.subsetItem { nodesLimit := 10 }
      "!ENTITY e '<x/></a>'>]><a>&e;<b/>".toList =
        .ok (declaredBuilder, ⟨(), "]><a>&e;<b/>".toList, by decide⟩) := by rfl
  have hsubset : Reader.subset { nodesLimit := 10 }
      ('<' :: "!ENTITY e '<x/></a>'>]><a>&e;<b/>".toList) =
        .ok (declaredBuilder, "<a>&e;<b/>".toList) := by
    rw [Reader.subset, hentity]
    cbv
  have hdeclaration : Reader.typeDeclaration { nodesLimit := 10 }
      " a [<!ENTITY e '<x/></a>'>]><a>&e;<b/>".toList =
        .ok (declaredBuilder, "<a>&e;<b/>".toList) := hsubset
  change (Reader.typeDeclaration _ " a [<!ENTITY e '<x/></a>'>]><a>&e;<b/>".toList >>= _) = _
  rw [hdeclaration]
  cbv

theorem parse_reopenedText :
    Document.parse ⟨true, 10⟩ reopenedText = .ok reopenedDocument := by
  have hopened : Reader.miscellany { nodesLimit := 10 } reopenedText.toList =
      .ok ({ nodesLimit := 10 }, reopenedText.toList) := by cbv
  change (Reader.miscellany { nodesLimit := 10 } reopenedText.toList >>= _) = _
  rw [hopened]
  change (Reader.prologEnd ⟨true, 10⟩ { nodesLimit := 10 } reopenedText.toList >>= _) = _
  rw [prologEnd_reopenedText]
  cbv

/-- A property with the name of the other element. -/
def otherSchema : Schema where
  typeName := "T"
  properties := [⟨"b", ⟨.scalar .text, true⟩, none⟩]
  accepted := by decide

theorem firstElement_reopenedDocument : reopenedDocument.FirstElement 1 ⟨none, "a", [], {}⟩ := by
  have hchildren : reopenedDocument.children 0 = [1, 3] := by cbv
  constructor
  · rfl
  · rw [← Document.mem_children, hchildren]
    exact List.mem_cons_self
  · intro id other _ hparent
    rw [← Document.mem_children, hchildren] at hparent
    rcases List.mem_pair.mp hparent with rfl | rfl <;> decide

/-- The root element does not have the name of the property, and yet an element is found. -/
theorem other_element_found_by_name :
    (∀ property ∈ otherSchema.properties, property.explicitLocator = none) ∧
    Document.parse ⟨true, 10⟩ reopenedText = .ok reopenedDocument ∧
    reopenedDocument.FirstElement 1 ⟨none, "a", [], {}⟩ ∧
    locatorEvaluator "b" reopenedDocument = .ok (some (.node 3)) ∧
    ¬∀ property ∈ otherSchema.properties, ∀ document,
      (∃ limits text, Document.parse limits text = .ok document) →
        ∀ root tag, document.FirstElement root tag →
          locatorEvaluator property.locator document =
            .ok (if tag.name = property.name then some (.node root) else none) := by
  have hfirst := firstElement_reopenedDocument
  have hfound : locatorEvaluator "b" reopenedDocument = .ok (some (.node 3)) := by cbv
  refine ⟨by decide, parse_reopenedText, hfirst, hfound, ?_⟩
  intro hclaim
  have hnothing :=
    hclaim _ List.mem_cons_self reopenedDocument ⟨_, _, parse_reopenedText⟩ 1 _ hfirst
  change locatorEvaluator "b" reopenedDocument = .ok none at hnothing
  rw [hfound] at hnothing
  cases hnothing

end RecordExtraction
