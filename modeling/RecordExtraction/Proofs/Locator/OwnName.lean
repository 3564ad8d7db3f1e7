import RecordExtraction.Proofs.Locator.GrammarCompleteness
import RecordExtraction.Proofs.Locator.SiblingPaths
import RecordExtraction.Proofs.Locator.Tokenization
import RecordExtraction.Proofs.Markup.Scoping

/-!
# Nodes found by their own names

The name of a node shows the qualifier that its namespace has where the node stands, and a name test
asks for the namespace of a qualifier at the same place.  An element is always found by the name
that it shows.  An attribute is not where its name does not tell its namespace: a test without a
qualifier asks for an attribute without a namespace, and the reserved qualifier stands for nothing
in a test.
-/

namespace RecordExtraction
namespace Locator

open Item Markup

/-! ## Names as tests -/

/-- The test that is spelled like the name. -/
def NodeTest.ofName (name : String) : NodeTest :=
  match splitFirst? [':'] name.toList with
  | some (qualifier, localName) =>
      .name (some (String.ofList qualifier)) (some (String.ofList localName))
  | none => .name none (some name)

/-- A step along an axis with a name as its test. -/
def namedStep (axis : Axis) (name : String) : Expr := .path .context [.mk axis (.ofName name) []]

theorem splitFirst?_append {c : Char} {chars rest : List Char} (hc : c ∉ chars) :
    splitFirst? [c] (chars ++ c :: rest) = some (chars, rest) := by
  induction chars with
  | nil => simp [splitFirst?, afterStart?]
  | cons d chars ih =>
      rw [List.mem_cons, not_or] at hc
      simp [splitFirst?, afterStart?, hc.1, ih hc.2]

theorem splitFirst?_eq_none {c : Char} {chars : List Char} (hc : c ∉ chars) :
    splitFirst? [c] chars = none := by
  induction chars with
  | nil => rfl
  | cons d chars ih =>
      rw [List.mem_cons, not_or] at hc
      simp [splitFirst?, afterStart?, hc.1, ih hc.2]

theorem ofName_plain {name : String} (hname : ':' ∉ name.toList) :
    NodeTest.ofName name = .name none (some name) := by
  rw [NodeTest.ofName, splitFirst?_eq_none hname]

theorem ofName_qualified {qualifier : String} (localName : String)
    (hqualifier : ':' ∉ qualifier.toList) :
    NodeTest.ofName (qualifier ++ ":" ++ localName) = .name (some qualifier) (some localName) := by
  have hsplit : splitFirst? [':'] (qualifier.toList ++ ':' :: localName.toList) =
      some (qualifier.toList, localName.toList) := splitFirst?_append hqualifier
  simp [NodeTest.ofName, hsplit]

/-! ## Spelling a step -/

theorem isNameChar_of_mem {chars : List Char} (hname : isName chars = true) {c : Char}
    (hc : c ∈ chars) :
    isNameChar c = true := by
  rw [isName, Bool.and_eq_true, List.all_eq_true] at hname
  exact hname.2 c hc

theorem exists_spells_ofName {name : String} (hname : IsQualifiedName name.toList) :
    ∃ qualifier localName, NodeTest.ofName name = .name qualifier localName ∧
      Token.Spells (.nameTest qualifier localName) name.toList := by
  have hplain : ∀ {chars : List Char}, isName chars = true → ':' ∉ chars := by
    intro chars hchars hmem
    exact absurd (isNameChar_of_mem hchars hmem) (by simp [isNameChar_colon])
  rcases hname with hname | ⟨qualifier, localName, hqualifier, hlocal, hchars⟩
  · exact ⟨_, _, ofName_plain (hplain hname), .localName hname⟩
  · have hparts : name = String.ofList qualifier ++ ":" ++ String.ofList localName := by
      rw [← String.toList_inj]
      simp [hchars]
    refine ⟨some (String.ofList qualifier), some (String.ofList localName), ?_, ?_⟩
    · rw [hparts]
      exact ofName_qualified _ (by simpa using hplain hqualifier)
    · have hspells : Token.Spells
          (.nameTest (some (String.ofList qualifier)) (some (String.ofList localName))) _ :=
        .qualifiedName (by simpa using hqualifier) (by simpa using hlocal)
      simpa [hchars] using hspells

theorem Axis.ofName?_name (axis : Axis) : Axis.ofName? axis.name = some axis := by
  cases axis <;> decide

theorem Axis.isName_name (axis : Axis) : isName axis.name.toList = true := by
  cases axis <;> decide

/-- The text of a step, without white space in it, has the tokens of the step. -/
theorem tokenize_step (axis : Axis) {name : String} {qualifier localName : Option String}
    (hspells : Token.Spells (.nameTest qualifier localName) name.toList) :
    ∃ lexemes, tokenize (axis.name ++ "::" ++ name) = .ok lexemes ∧
      lexemes.map Lexeme.token =
        [.axisName axis.name, .axisMark, .nameTest qualifier localName] := by
  have hend : Announces none [] := ⟨by simp, by simp, by simp⟩
  have hlast : (Token.nameTest qualifier localName).FitsBefore none := by
    cases qualifier <;> cases localName <;> simp [Token.FitsBefore]
  have htest := scanToken_of_spells (byteLength axis.name.toList + 2) hspells rfl hlast hend
  obtain ⟨third, hthird, hscan⟩ := exists_scan_of_spells hspells htest rfl
  rw [List.append_nil] at hscan
  have hmark : scanToken false (byteLength axis.name.toList) ([':', ':'] ++ name.toList) =
      .ok ⟨.axisMark, 2⟩ := rfl
  obtain ⟨second, hsecond, hscan⟩ := exists_scan_of_spells .axisMark hmark hscan
  have hopens : (Token.axisName axis.name).EndsBefore ([':', ':'] ++ name.toList) :=
    opensAxis_colon_iff.mpr ⟨name.toList, rfl⟩
  have haxis := scanToken_of_endsBefore 0 (.axisName axis.isName_name) rfl hopens
  rw [← Nat.zero_add (byteLength axis.name.toList)] at hscan
  obtain ⟨first, hfirst, hscan⟩ :=
    exists_scan_of_spells (.axisName axis.isName_name) haxis hscan
  refine ⟨[first, second, third], ?_, by simp [hfirst, hsecond, hthird]⟩
  rw [tokenize, ← hscan]
  simp

theorem parse_step (axis : Axis) {name : String} (hname : IsQualifiedName name.toList) :
    Parser.parse (axis.name ++ "::" ++ name) = .ok (namedStep axis name) := by
  obtain ⟨qualifier, localName, htest, hspells⟩ := exists_spells_ofName hname
  obtain ⟨lexemes, hlexemes, htokens⟩ := tokenize_step axis hspells
  have hstep : Derives (.step (.mk axis (.name qualifier localName) [])) _ :=
    .axisStep axis.ofName?_name .nameTest .noPredicates
  rw [Parser.parse, hlexemes, ok_bind, namedStep, htest]
  apply Parser.parseTokens_of_derives_path
  rw [htokens]
  exact .relative (.lastStep hstep)

/-! ## Names of items -/

section

variable {document : Document} {item : Item} {axis : Axis} {qualifier name uri : String}

theorem qualifiedName_of_uri_none (huri : item.namespaceUri document = none) :
    item.qualifiedName document = item.localName document := by
  simp [qualifiedName, huri]

theorem qualifiedName_of_qualifier_none (huri : item.namespaceUri document = some uri)
    (hqualifier : (document.scope item.anchor).qualifier? uri = none) :
    item.qualifiedName document = item.localName document := by
  simp [qualifiedName, huri, hqualifier]

theorem qualifiedName_of_qualifier (huri : item.namespaceUri document = some uri)
    (hqualifier : (document.scope item.anchor).qualifier? uri = some qualifier)
    (hne : qualifier ≠ "") :
    item.qualifiedName document = qualifier ++ ":" ++ item.localName document := by
  simp [qualifiedName, huri, hqualifier, hne]

theorem scope_of_tag {id : Nat} {tag : Tag} (htag : document.tag? id = some tag) :
    document.scope id = tag.scope := by
  simp [Document.scope, htag]

theorem namespaceUri_node {id : Nat} {tag : Tag} (htag : document.tag? id = some tag) :
    (Item.node id).namespaceUri document = tag.uri := by
  simp [Item.namespaceUri, htag]

theorem localName_node {id : Nat} {tag : Tag} (htag : document.tag? id = some tag) :
    (Item.node id).localName document = tag.name := by
  rw [Document.tag?] at htag
  rw [Item.localName]
  split at htag
  · next hrow =>
      cases htag
      rw [hrow]
  · cases htag

@[simp] theorem agrees_none (found : String) : agrees none found = true := rfl

@[simp] theorem agrees_some {wanted found : String} :
    agrees (some wanted) found = true ↔ wanted = found := by
  simp [agrees]

/-- A qualifier in a test is looked up where the item stands that is tested, whatever the axis. -/
theorem accepts_qualified_iff {localName : Option String} :
    (NodeTest.name (some qualifier) localName).accepts document axis item = true ↔
      (NodeTest.name none none).accepts document axis item = true ∧
      (∃ uri, (document.scope item.anchor).uri? (some qualifier) = some uri ∧
        item.namespaceUri document = some uri) ∧
      agrees localName (item.localName document) = true := by
  have hnamespace : ∀ (scope : Scope) (uri : Option String),
      inNamespace scope qualifier uri = true ↔
        ∃ wanted, scope.uri? (some qualifier) = some wanted ∧ uri = some wanted := by
    intro scope uri
    rw [inNamespace]
    cases scope.uri? (some qualifier) <;> simp
  rcases item with id | ⟨owner, position⟩
  · cases htag : document.tag? id with
    | none => simp [NodeTest.accepts, htag]
    | some tag =>
        simp [NodeTest.accepts, testElement, htag, hnamespace, anchor, scope_of_tag htag,
          namespaceUri_node htag, localName_node htag]
  · cases hfound : (Item.attribute owner position).attribute? document with
    | none => simp [NodeTest.accepts, hfound]
    | some found =>
        simp [NodeTest.accepts, testAttribute, hfound, hnamespace, anchor, Item.namespaceUri,
          Item.localName]

/-- Without a qualifier the namespace counts for attributes only. -/
theorem accepts_unqualified_iff :
    (NodeTest.name none (some name)).accepts document axis item = true ↔
      (NodeTest.name none none).accepts document axis item = true ∧
      (item.namespaceUri document = none ∨ ∃ id, item = .node id) ∧
      name = item.localName document := by
  rcases item with id | ⟨owner, position⟩
  · cases htag : document.tag? id with
    | none => simp [NodeTest.accepts, htag]
    | some tag =>
        simp [NodeTest.accepts, testElement, htag, localName_node htag]
  · cases hfound : (Item.attribute owner position).attribute? document with
    | none => simp [NodeTest.accepts, hfound]
    | some found =>
        simp [NodeTest.accepts, testAttribute, hfound, Item.namespaceUri, Item.localName]

/-- An item whose namespace is declared and not reserved passes its own name as a test, unless it
is an attribute and the first declaration of its namespace is a default. -/
theorem accepts_ownName_iff {declared : Option String}
    (hscope : (document.scope item.anchor).Consistent)
    (hplain : ':' ∉ (item.localName document).toList)
    (hitem : (NodeTest.name none none).accepts document axis item = true)
    (huri : item.namespaceUri document = some uri)
    (hdeclared : ⟨declared, uri⟩ ∈ (document.scope item.anchor).bindings) :
    (NodeTest.ofName (item.qualifiedName document)).accepts document axis item = true ↔
      (∃ id, item = .node id) ∨ ¬(document.scope item.anchor).ShowsAsDefault uri := by
  rcases hscope.qualifier?_cases hdeclared with
    ⟨qualifier, hqualifier, hne, hcolon, hfound, hshown⟩ | ⟨hqualifier, hshown⟩
  · rw [qualifiedName_of_qualifier huri hqualifier hne, ofName_qualified _ hcolon,
      accepts_qualified_iff]
    simp [hitem, hfound, huri, hshown]
  · rw [qualifiedName_of_qualifier_none huri hqualifier, ofName_plain hplain,
      accepts_unqualified_iff]
    simp [hitem, huri, hshown]

theorem accepts_ownName_of_uri_none (hplain : ':' ∉ (item.localName document).toList)
    (hitem : (NodeTest.name none none).accepts document axis item = true)
    (huri : item.namespaceUri document = none) :
    (NodeTest.ofName (item.qualifiedName document)).accepts document axis item = true := by
  rw [qualifiedName_of_uri_none huri, ofName_plain hplain, accepts_unqualified_iff]
  exact ⟨hitem, .inl huri, rfl⟩

theorem not_accepts_ownName_of_uri_xml (hscope : (document.scope item.anchor).Consistent)
    (huri : item.namespaceUri document = some xmlNamespace) :
    (NodeTest.ofName (item.qualifiedName document)).accepts document axis item = false := by
  have hqualifier : (document.scope item.anchor).qualifier? xmlNamespace = some "xml" := by
    simp [Scope.qualifier?]
  rw [qualifiedName_of_qualifier huri hqualifier (by decide), ofName_qualified _ (by decide)]
  rw [Bool.eq_false_iff, ne_eq, accepts_qualified_iff, hscope.uri?_xml]
  simp

theorem accepts_ownName_node {id : Nat} {tag : Tag} (hscoped : tag.WellScoped)
    (htag : document.tag? id = some tag) (haxis : axis ≠ .attributes) :
    (NodeTest.ofName ((Item.node id).qualifiedName document)).accepts document axis (.node id) =
      true := by
  have hscope : (document.scope (Item.node id).anchor).Consistent := by
    rw [anchor, scope_of_tag htag]
    exact hscoped.scope
  have hplain : ':' ∉ ((Item.node id).localName document).toList := by
    rw [localName_node htag]
    exact hscoped.name
  have hitem : (NodeTest.name none none).accepts document axis (.node id) = true := by
    simp [NodeTest.accepts, haxis, htag, testElement]
  cases huri : tag.uri with
  | none => exact accepts_ownName_of_uri_none hplain hitem (by rw [namespaceUri_node htag, huri])
  | some uri =>
      obtain ⟨declared, hdeclared⟩ := hscoped.uri uri huri
      rw [← scope_of_tag htag] at hdeclared
      apply (accepts_ownName_iff hscope hplain hitem _ (Scope.mem_of_uri? hdeclared)).mpr
      · exact .inl ⟨id, rfl⟩
      · rw [namespaceUri_node htag, huri]

theorem accepts_ownName_attribute_iff {owner position : Nat} {found : Attribute}
    (hscope : (document.scope owner).Consistent) (hscoped : found.ScopedIn (document.scope owner))
    (hfound : (Item.attribute owner position).attribute? document = some found) :
    (NodeTest.ofName ((Item.attribute owner position).qualifiedName document)).accepts document
        .attributes (.attribute owner position) = true ↔
      found.uri ≠ some xmlNamespace ∧
        ∀ uri, found.uri = some uri → ¬(document.scope owner).ShowsAsDefault uri := by
  have hnamespace : (Item.attribute owner position).namespaceUri document = found.uri := by
    simp [Item.namespaceUri, hfound]
  have hplain : ':' ∉ ((Item.attribute owner position).localName document).toList := by
    simpa [Item.localName, hfound] using hscoped.name
  have hitem : (NodeTest.name none none).accepts document .attributes
      (.attribute owner position) = true := by
    simp [NodeTest.accepts, hfound, testAttribute]
  cases huri : found.uri with
  | none =>
      rw [huri] at hnamespace
      simp [accepts_ownName_of_uri_none hplain hitem hnamespace]
  | some uri =>
      rw [huri] at hnamespace
      rcases hscoped.uri uri huri with rfl | ⟨declared, hdeclared⟩
      · simp [not_accepts_ownName_of_uri_xml hscope hnamespace]
      · have hmem := Scope.mem_of_uri? hdeclared
        have hne := hscope.uri_ne _ hmem
        rw [accepts_ownName_iff hscope hplain hitem hnamespace hmem]
        simp [anchor, hne]

end

/-! ## Documents that are read -/

section

variable {limits : Limits} {text : String} {document : Document}

theorem eval_namedStep (axis : Axis) (name : String) (context : Context) :
    (namedStep axis name).eval document context =
      .ok (.nodes (normalize (candidates document axis (.ofName name) context.item))) := by
  have heval : (namedStep axis name).eval document context =
      .ok (.nodes (reach document [(axis, .ofName name)] [context.item])) :=
    eval_path_plain [(axis, .ofName name)] context
  simpa [reach] using heval

/-- In every document that is read, the step `self::` with the name of an element selects the
element.  The step `attribute::` with the name of an attribute selects the attribute unless its
namespace is the reserved one or is first declared as the default.  The steps are what their texts
denote, if the name can be written in a locator; and a qualifier in a test stands for what it stands
for at the item that is tested. -/
theorem own_names_select (hparse : Document.parse limits text = .ok document) :
    (∀ id tag, document.tag? id = some tag →
      ∀ context : Context, context.item = .node id →
        (namedStep .self ((Item.node id).qualifiedName document)).eval document context =
          .ok (.nodes [.node id])) ∧
    (∀ owner position found, (Item.attribute owner position).attribute? document = some found →
      ∀ context : Context, context.item = .node owner →
        ∃ items,
          (namedStep .attributes
              ((Item.attribute owner position).qualifiedName document)).eval document context =
            .ok (.nodes items) ∧
          (.attribute owner position ∈ items ↔
            found.uri ≠ some xmlNamespace ∧
              ∀ uri, found.uri = some uri → ¬(document.scope owner).ShowsAsDefault uri)) ∧
    (∀ axis : Axis, ∀ name : String, IsQualifiedName name.toList →
      Parser.parse (axis.name ++ "::" ++ name) = .ok (namedStep axis name)) ∧
    ∀ axis qualifier localName item,
      (NodeTest.name (some qualifier) localName).accepts document axis item = true →
        ∃ uri, (document.scope item.anchor).uri? (some qualifier) = some uri ∧
          item.namespaceUri document = some uri := by
  refine ⟨?_, ?_, fun axis name hname => parse_step axis hname, ?_⟩
  · intro id tag htag context hitem
    have hscoped := Document.wellScoped_of_parse hparse htag
    have haccepts : (NodeTest.ofName ((Item.node id).qualifiedName document)).accepts document
        .self (.node id) = true :=
      accepts_ownName_node hscoped htag (by decide)
    rw [eval_namedStep, hitem]
    simp [candidates, Axis.items, haccepts, Item.normalize, dedupAdjacent]
  · intro owner position found hfound context hitem
    obtain ⟨tag, htag, hposition⟩ := Option.bind_eq_some_iff.mp hfound
    have hscoped := Document.wellScoped_of_parse hparse htag
    have hscope : (document.scope owner).Consistent := by
      rw [scope_of_tag htag]
      exact hscoped.scope
    have hfoundScoped : found.ScopedIn (document.scope owner) := by
      rw [scope_of_tag htag]
      exact hscoped.attributes found (List.mem_of_getElem? hposition)
    have hmem : .attribute owner position ∈ Axis.attributes.items document (.node owner) := by
      obtain ⟨hlength, -⟩ := List.getElem?_eq_some_iff.mp hposition
      simpa [Axis.items, attributesOf, htag] using hlength
    rw [← accepts_ownName_attribute_iff hscope hfoundScoped hfound]
    refine ⟨_, eval_namedStep _ _ _, ?_⟩
    rw [mem_normalize, mem_candidates, hitem]
    exact ⟨fun h => h.2, fun h => ⟨hmem, h⟩⟩
  · intro axis qualifier localName item haccepts
    exact (accepts_qualified_iff.mp haccepts).2.1

end

/-- An element whose namespace is declared as the default and for a qualifier. -/
def twiceDeclaredTag : Tag where
  uri := some "u"
  name := "a"
  attributes := [⟨some "u", "k", "1"⟩, ⟨some "v", "m", "2"⟩]
  scope := ⟨[⟨none, "u"⟩, ⟨some "p", "u"⟩, ⟨some "q", "v"⟩]⟩

def twiceDeclaredDocument : Document := .ofContent (.element twiceDeclaredTag .nil .nil)

theorem parse_twiceDeclared :
    Document.parse ⟨false, 10⟩ "<a xmlns='u' xmlns:p='u' xmlns:q='v' p:k='1' q:m='2'/>" =
      .ok twiceDeclaredDocument := by
  cbv

theorem own_names_select_of_twiceDeclared :
    Document.parse ⟨false, 10⟩ "<a xmlns='u' xmlns:p='u' xmlns:q='v' p:k='1' q:m='2'/>" =
      .ok twiceDeclaredDocument ∧
    (namedStep .self "a").eval twiceDeclaredDocument ⟨.node 1, 1, 1⟩ = .ok (.nodes [.node 1]) ∧
    (∃ items,
      (namedStep .attributes "q:m").eval twiceDeclaredDocument ⟨.node 1, 1, 1⟩ =
        .ok (.nodes items) ∧ .attribute 1 1 ∈ items) ∧
    ∃ items,
      (namedStep .attributes "k").eval twiceDeclaredDocument ⟨.node 1, 1, 1⟩ =
        .ok (.nodes items) ∧ .attribute 1 0 ∉ items := by
  obtain ⟨helements, hattributes, -, -⟩ := own_names_select parse_twiceDeclared
  have htag : twiceDeclaredDocument.tag? 1 = some twiceDeclaredTag := rfl
  have hscope : twiceDeclaredDocument.scope 1 = twiceDeclaredTag.scope := rfl
  have hself : (Item.node 1).qualifiedName twiceDeclaredDocument = "a" := by cbv
  have hfirst : (Item.attribute 1 0).qualifiedName twiceDeclaredDocument = "k" := by cbv
  have hsecond : (Item.attribute 1 1).qualifiedName twiceDeclaredDocument = "q:m" := by cbv
  have hdefault : twiceDeclaredTag.scope.ShowsAsDefault "u" := ⟨⟨none, "u"⟩, by decide, rfl⟩
  have hqualified : ¬twiceDeclaredTag.scope.ShowsAsDefault "v" := by
    rintro ⟨binding, hfind, hnone⟩
    have hbinding : some (Binding.mk (some "q") "v") = some binding := hfind
    cases hbinding
    cases hnone
  refine ⟨parse_twiceDeclared, ?_, ?_, ?_⟩
  · have hselects := helements 1 _ htag ⟨.node 1, 1, 1⟩ rfl
    rwa [hself] at hselects
  · obtain ⟨items, heval, hmem⟩ := hattributes 1 1 _ rfl ⟨.node 1, 1, 1⟩ rfl
    rw [hsecond] at heval
    refine ⟨items, heval, hmem.mpr ⟨by decide, ?_⟩⟩
    rintro uri huri
    obtain rfl : "v" = uri := by simpa using huri
    rwa [hscope]
  · obtain ⟨items, heval, hmem⟩ := hattributes 1 0 _ rfl ⟨.node 1, 1, 1⟩ rfl
    rw [hfirst] at heval
    refine ⟨items, heval, fun hitem => (hmem.mp hitem).2 "u" rfl ?_⟩
    rwa [hscope]

/-- An element with an attribute of the reserved namespace. -/
def languageDocument : Document :=
  .ofContent (.element ⟨none, "a", [⟨some xmlNamespace, "lang", "en"⟩], {}⟩ .nil .nil)

/-- The attribute that says the language of an element is not selected by its own name. -/
theorem language_not_selected_by_own_name :
    Document.parse ⟨false, 10⟩ "<a xml:lang='en'/>" = .ok languageDocument ∧
    (Item.attribute 1 0).qualifiedName languageDocument = "xml:lang" ∧
    ∃ expr, Parser.parse "attribute::xml:lang" = .ok expr ∧
      expr.eval languageDocument ⟨.node 1, 1, 1⟩ = .ok (.nodes []) := by
  refine ⟨?_, ?_, namedStep .attributes "xml:lang", ?_, ?_⟩ <;> cbv

end Locator
end RecordExtraction
