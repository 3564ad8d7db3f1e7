import RecordExtraction.Proofs.Markup.Construction

/-!
# The namespaces of a document that is read

In a scope the question for the namespace of a qualifier and the one for the qualifier of a
namespace are both answered by the first fitting declaration.  That the answers fit together is not
in the form of a scope; it comes from how the scopes of a document are built.
-/

namespace RecordExtraction
namespace Markup

/-! ## Scopes -/

/-- No declaration takes one of the reserved names, and a qualifier stands for one namespace. -/
structure Scope.Consistent (scope : Scope) : Prop where
  uri_ne : ∀ binding ∈ scope.bindings, binding.uri ≠ xmlNamespace
  qualifier_ne : ∀ {qualifier uri}, ⟨some qualifier, uri⟩ ∈ scope.bindings →
    qualifier ≠ "xml" ∧ qualifier ≠ ""
  qualifier_plain : ∀ {qualifier uri}, ⟨some qualifier, uri⟩ ∈ scope.bindings →
    ':' ∉ qualifier.toList
  unique : ∀ {qualifier uri uri'}, ⟨some qualifier, uri⟩ ∈ scope.bindings →
    ⟨some qualifier, uri'⟩ ∈ scope.bindings → uri = uri'

namespace Scope

variable {scope parent : Scope} {binding : Binding} {own : List Binding}
  {qualifier : Option String} {uri : String}

theorem consistent_empty : Consistent {} where
  uri_ne := by simp
  qualifier_ne := by simp
  qualifier_plain := by simp
  unique := by simp

theorem declares_iff :
    scope.declares qualifier = true ↔ ∃ uri, ⟨qualifier, uri⟩ ∈ scope.bindings := by
  simp only [declares, List.any_eq_true, beq_iff_eq]
  constructor
  · rintro ⟨⟨_, uri⟩, hmem, rfl⟩
    exact ⟨uri, hmem⟩
  · rintro ⟨uri, hmem⟩
    exact ⟨_, hmem, rfl⟩

/-- A further declaration, of the default or of a qualifier that has none yet. -/
theorem Consistent.append (hscope : scope.Consistent) (huri : uri ≠ xmlNamespace)
    (hqualifier : ∀ name, qualifier = some name →
      name ≠ "xml" ∧ name ≠ "" ∧ ':' ∉ name.toList ∧ scope.declares (some name) = false) :
    Consistent ⟨scope.bindings ++ [⟨qualifier, uri⟩]⟩ := by
  have hnew : ∀ {name other}, ⟨some name, other⟩ ∈ scope.bindings ++ [⟨qualifier, uri⟩] →
      ⟨some name, other⟩ ∈ scope.bindings ∨ qualifier = some name ∧ other = uri := by
    intro name other hmem
    simpa [eq_comm] using hmem
  have hundeclared : ∀ {name other}, ⟨some name, other⟩ ∈ scope.bindings →
      qualifier ≠ some name := by
    intro name other hmem hname
    have hdeclares := declares_iff.mpr ⟨other, hmem⟩
    rw [(hqualifier name hname).2.2.2] at hdeclares
    cases hdeclares
  constructor
  · intro binding hmem
    rcases List.mem_append.mp hmem with hmem | hmem
    · exact hscope.uri_ne binding hmem
    · rw [List.mem_singleton.mp hmem]
      exact huri
  · intro name other hmem
    rcases hnew hmem with hmem | ⟨hname, -⟩
    · exact hscope.qualifier_ne hmem
    · exact ⟨(hqualifier name hname).1, (hqualifier name hname).2.1⟩
  · intro name other hmem
    rcases hnew hmem with hmem | ⟨hname, -⟩
    · exact hscope.qualifier_plain hmem
    · exact (hqualifier name hname).2.2.1
  · intro name first second hfirst hsecond
    rcases hnew hfirst with hold | ⟨hname, hfirst⟩
    · rcases hnew hsecond with hold' | ⟨hname, -⟩
      · exact hscope.unique hold hold'
      · exact absurd hname (hundeclared hold)
    · rcases hnew hsecond with hold | ⟨-, hsecond⟩
      · exact absurd hname (hundeclared hold)
      · rw [hfirst, hsecond]

theorem Consistent.inherit (hscope : scope.Consistent) (hparent : parent.Consistent)
    (hbinding : binding ∈ parent.bindings) :
    (scope.inherit binding).Consistent := by
  obtain ⟨qualifier, uri⟩ := binding
  rw [Scope.inherit]
  split
  · exact hscope
  · next hdeclared =>
      refine hscope.append (hparent.uri_ne _ hbinding) ?_
      rintro name rfl
      obtain ⟨hxml, hempty⟩ := hparent.qualifier_ne hbinding
      exact ⟨hxml, hempty, hparent.qualifier_plain hbinding, by simpa using hdeclared⟩

theorem Consistent.extend (hparent : parent.Consistent) (hown : Consistent ⟨own⟩) :
    (parent.extend own).Consistent := by
  have hfold : ∀ (bindings : List Binding) (scope : Scope), scope.Consistent →
      (∀ binding ∈ bindings, binding ∈ parent.bindings) →
      (bindings.foldl Scope.inherit scope).Consistent := by
    intro bindings
    induction bindings with
    | nil => exact fun scope hscope _ => hscope
    | cons binding rest ih =>
        intro scope hscope hmem
        apply ih
        · exact hscope.inherit hparent (hmem binding List.mem_cons_self)
        · exact fun other hother => hmem other (List.mem_cons_of_mem _ hother)
  rw [Scope.extend]
  split
  · exact hparent
  · exact hfold _ _ hown fun _ hmem => hmem

theorem mem_of_uri? (huri : scope.uri? qualifier = some uri) :
    ⟨qualifier, uri⟩ ∈ scope.bindings := by
  rw [uri?, Option.map_eq_some_iff] at huri
  obtain ⟨⟨found, _⟩, hfind, rfl⟩ := huri
  have hqualifier : found = qualifier := by simpa using List.find?_some hfind
  subst hqualifier
  exact List.mem_of_find?_eq_some hfind

theorem Consistent.uri?_eq_some_iff (hscope : scope.Consistent) {name : String} :
    scope.uri? (some name) = some uri ↔ ⟨some name, uri⟩ ∈ scope.bindings := by
  constructor
  · exact mem_of_uri?
  · intro hmem
    cases hfound : scope.uri? (some name) with
    | none =>
        rw [uri?, Option.map_eq_none_iff, List.find?_eq_none] at hfound
        exact absurd (by simp) (hfound _ hmem)
    | some other => rw [hscope.unique (mem_of_uri? hfound) hmem]

theorem Consistent.uri?_xml (hscope : scope.Consistent) : scope.uri? (some "xml") = none := by
  by_contra hfound
  obtain ⟨uri, huri⟩ := Option.ne_none_iff_exists'.mp hfound
  exact (hscope.qualifier_ne (mem_of_uri? huri)).1 rfl

/-- The namespace is declared, and its first declaration is a default. -/
def ShowsAsDefault (scope : Scope) (uri : String) : Prop :=
  ∃ binding, scope.bindings.find? (·.uri == uri) = some binding ∧ binding.qualifier = none

/-- Of a namespace that is declared either the qualifier written before a name leads back to the
namespace, or none is written because the first declaration is a default. -/
theorem Consistent.qualifier?_cases (hscope : scope.Consistent)
    (hmem : ⟨qualifier, uri⟩ ∈ scope.bindings) :
    (∃ name, scope.qualifier? uri = some name ∧ name ≠ "" ∧ ':' ∉ name.toList ∧
      scope.uri? (some name) = some uri ∧ ¬scope.ShowsAsDefault uri) ∨
    (scope.qualifier? uri = none ∧ scope.ShowsAsDefault uri) := by
  have hne : uri ≠ xmlNamespace := hscope.uri_ne _ hmem
  cases hfind : scope.bindings.find? (·.uri == uri) with
  | none =>
      rw [List.find?_eq_none] at hfind
      exact absurd (by simp) (hfind _ hmem)
  | some binding =>
      obtain ⟨found, other⟩ := binding
      have hfirst := List.mem_of_find?_eq_some hfind
      obtain rfl : other = uri := by simpa using List.find?_some hfind
      cases found with
      | none =>
          refine .inr ⟨?_, _, hfind, rfl⟩
          simp [qualifier?, hne, hfind]
      | some name =>
          refine .inl ⟨name, ?_, (hscope.qualifier_ne hfirst).2, hscope.qualifier_plain hfirst,
            hscope.uri?_eq_some_iff.mpr hfirst, ?_⟩
          · simp [qualifier?, hne, hfind]
          · simp [ShowsAsDefault, hfind]

end Scope

/-! ## Tags -/

/-- An attribute whose namespace, if it has one, is the reserved one or has a qualifier in scope. -/
structure Attribute.ScopedIn (scope : Scope) (found : Attribute) : Prop where
  name : ':' ∉ found.name.toList
  uri : ∀ uri, found.uri = some uri →
    uri = xmlNamespace ∨ ∃ qualifier, scope.uri? (some qualifier) = some uri

/-- A tag whose names are resolved in its own scope. -/
structure Tag.WellScoped (tag : Tag) : Prop where
  scope : tag.scope.Consistent
  name : ':' ∉ tag.name.toList
  uri : ∀ uri, tag.uri = some uri → ∃ qualifier, tag.scope.uri? qualifier = some uri
  attributes : ∀ found ∈ tag.attributes, found.ScopedIn tag.scope

/-- All tags have the property, at every depth. -/
def Content.AllTags (p : Tag → Prop) : Content → Prop
  | nil => True
  | leaf _ rest => rest.AllTags p
  | element tag children rest => p tag ∧ children.AllTags p ∧ rest.AllTags p

/-- All tags of a member have the property. -/
def Member.AllTags (p : Tag → Prop) : Member → Prop
  | leaf _ => True
  | element tag children => p tag ∧ children.AllTags p

theorem Content.allTags_ofReversed {p : Tag → Prop} {members : List Member}
    (hmembers : ∀ member ∈ members, member.AllTags p) :
    (Content.ofReversed members).AllTags p := by
  have hfold : ∀ (members : List Member) (rest : Content), rest.AllTags p →
      (∀ member ∈ members, member.AllTags p) →
      (members.foldl (fun rest member =>
        match member with
        | .leaf item => .leaf item rest
        | .element tag children => .element tag children rest) rest).AllTags p := by
    intro members
    induction members with
    | nil => exact fun rest hrest _ => hrest
    | cons member later ih =>
        intro rest hrest hmembers
        have hmember := hmembers member List.mem_cons_self
        apply ih
        · cases member with
          | leaf item => exact hrest
          | element tag children => exact ⟨hmember.1, hmember.2, hrest⟩
        · exact fun other hother => hmembers other (List.mem_cons_of_mem _ hother)
  exact hfold members .nil trivial hmembers

theorem Content.AllTags.of_mem_rows {p : Tag → Prop} {content : Content} {tag : Tag}
    {extent : Nat} (hcontent : content.AllTags p) (hrow : ⟨.element tag, extent⟩ ∈ content.rows) :
    p tag := by
  induction content with
  | nil => cases hrow
  | leaf item rest ih =>
      apply ih hcontent
      simpa [rows] using hrow
  | element other children rest ihc ihr =>
      obtain ⟨hother, hchildren, hrest⟩ := hcontent
      simp only [rows, List.mem_cons, List.mem_append, Row.mk.injEq, NodeKind.element.injEq] at hrow
      rcases hrow with ⟨rfl, -⟩ | hrow | hrow
      · exact hother
      · exact ihc hchildren hrow
      · exact ihr hrest hrow

theorem Document.allTags_of_content {p : Tag → Prop} {document : Document} {id : Nat} {tag : Tag}
    (hcontent : document.content.AllTags p) (htag : document.tag? id = some tag) :
    p tag := by
  rw [tag?] at htag
  split at htag
  · next found extent hrow =>
      cases htag
      rw [row?, document.rows_eq, List.getElem?_toArray] at hrow
      have hmem := List.mem_of_getElem? hrow
      simp only [List.mem_cons, Row.mk.injEq, reduceCtorEq, false_and, false_or] at hmem
      exact hcontent.of_mem_rows hmem
  · cases htag

namespace Builder

variable {builder next : Builder} {name : QualifiedName} {tag : Tag}

/-! ## Building -/

/-- What has been read so far is resolved as it should be, and can be resolved when the tag ends. -/
structure WellScoped (builder : Builder) : Prop where
  members : ∀ member ∈ builder.members, member.AllTags Tag.WellScoped
  outer : ∀ element ∈ builder.outer,
    element.tag.WellScoped ∧ ∀ member ∈ element.before, member.AllTags Tag.WellScoped
  attributes : ∀ written ∈ builder.attributes, written.name.IsPlain
  bindings : Scope.Consistent ⟨builder.bindings⟩

theorem exists_uri_of_resolve {scope : Scope} {qualifier uri : String}
    (hresolve : resolve scope qualifier = .ok (some uri)) :
    ∃ qualifier?, scope.uri? qualifier? = some uri ∧
      (qualifier ≠ "" → qualifier? = some qualifier) := by
  rw [resolve] at hresolve
  split at hresolve
  · next hempty =>
      refine ⟨none, Except.ok.inj hresolve, ?_⟩
      intro hne
      exact absurd (by simpa using hempty) hne
  · split at hresolve
    · next found hfound =>
        cases hresolve
        exact ⟨some qualifier, hfound, fun _ => rfl⟩
    · cases hresolve

/-- The namespace of an attribute with the given qualifier; an empty one stands for none. -/
def resolveAttribute (scope : Scope) (qualifier : String) : Except Fault (Option String) :=
  if qualifier = "xml" then .ok (some xmlNamespace)
  else if qualifier.isEmpty then .ok none
  else resolve scope qualifier

theorem resolveAttributes_cons (scope : Scope) (resolved : List Attribute)
    (written : WrittenAttribute) (rest : List WrittenAttribute) :
    resolveAttributes scope resolved (written :: rest) =
      resolveAttribute scope written.name.qualifier >>= fun uri =>
        if resolved.any fun other => other.uri == uri && other.name == written.name.localName then
          .error .malformed
        else
          resolveAttributes scope (resolved ++ [⟨uri, written.name.localName, written.value⟩])
            rest := by
  rw [resolveAttributes, resolveAttribute]
  split
  · rfl
  · split <;> rfl

theorem exists_uri_of_resolveAttribute {scope : Scope} {qualifier uri : String}
    (hresolve : resolveAttribute scope qualifier = .ok (some uri)) :
    uri = xmlNamespace ∨ ∃ qualifier, scope.uri? (some qualifier) = some uri := by
  rw [resolveAttribute] at hresolve
  split at hresolve
  · cases hresolve
    exact .inl rfl
  · split at hresolve
    · cases hresolve
    · next hne =>
        obtain ⟨qualifier?, huri, hqualifier⟩ := exists_uri_of_resolve hresolve
        rw [hqualifier (by simpa using hne)] at huri
        exact .inr ⟨qualifier, huri⟩

theorem scopedIn_of_resolveAttributes {scope : Scope} {writtens : List WrittenAttribute}
    {resolved attributes : List Attribute}
    (hresolve : resolveAttributes scope resolved writtens = .ok attributes)
    (hresolved : ∀ found ∈ resolved, found.ScopedIn scope)
    (hwrittens : ∀ written ∈ writtens, written.name.IsPlain) :
    ∀ found ∈ attributes, found.ScopedIn scope := by
  induction writtens generalizing resolved with
  | nil =>
      cases hresolve
      exact hresolved
  | cons written rest ih =>
      rw [resolveAttributes_cons, bind_eq_ok_iff] at hresolve
      obtain ⟨uri, huri, hresolve⟩ := hresolve
      have hname := (hwrittens written List.mem_cons_self).localName
      split at hresolve
      · cases hresolve
      · apply ih hresolve
        · intro found hfound
          rcases List.mem_append.mp hfound with hfound | hfound
          · exact hresolved found hfound
          · rw [List.mem_singleton.mp hfound]
            refine ⟨hname, ?_⟩
            rintro uri' rfl
            exact exists_uri_of_resolveAttribute huri
        · exact fun other hother => hwrittens other (List.mem_cons_of_mem _ hother)

theorem WellScoped.scope (hbuilder : builder.WellScoped) : builder.scope.Consistent := by
  rw [Builder.scope]
  cases houter : builder.outer with
  | nil => exact Scope.consistent_empty
  | cons element outer =>
      have hmem : element ∈ builder.outer := by simp [houter]
      exact (hbuilder.outer element hmem).1.scope

theorem countNode_eq_ok (hcount : builder.countNode = .ok next) :
    next = { builder with count := builder.count + 1 } := by
  rw [countNode] at hcount
  split at hcount
  · exact (Except.ok.inj hcount).symm
  · cases hcount

theorem WellScoped.finishTag (hbuilder : builder.WellScoped) (hname : name.IsPlain)
    (hfinish : builder.finishTag name = .ok (next, tag)) :
    tag.WellScoped ∧
      next = { builder with
        attributes := [], bindings := [], afterText := false, count := builder.count + 1 } := by
  simp only [Builder.finishTag, takeAttributes, bind_eq_ok_iff, Prod.exists, Except.ok.injEq,
    Prod.mk.injEq] at hfinish
  obtain ⟨taken, scope, attributes, ⟨resolved, hresolved, rfl, rfl, rfl⟩, uri, huri, counted,
    hcount, rfl, rfl⟩ := hfinish
  have hscope := hbuilder.scope.extend hbuilder.bindings
  constructor
  · constructor
    · exact hscope
    · exact hname.localName
    · rintro found rfl
      obtain ⟨qualifier, hqualifier, -⟩ := exists_uri_of_resolve huri
      exact ⟨qualifier, hqualifier⟩
    · exact scopedIn_of_resolveAttributes hresolved (by simp) hbuilder.attributes
  · rw [countNode_eq_ok hcount]

theorem WellScoped.declare {qualifier uri : String} (hbuilder : builder.WellScoped)
    (hplain : ':' ∉ qualifier.toList) (hne : qualifier ≠ "")
    (hdeclare : builder.declare qualifier uri = .ok next) :
    next.WellScoped := by
  rw [Builder.declare] at hdeclare
  split at hdeclare
  · cases hdeclare
  · split at hdeclare
    · cases hdeclare
    · next hreserved =>
        split at hdeclare
        · cases hdeclare
        · next hundeclared =>
            split at hdeclare
            · cases hdeclare
              exact hbuilder
            · next huri =>
                cases hdeclare
                refine { hbuilder with bindings := hbuilder.bindings.append huri ?_ }
                rintro name hname
                obtain rfl : qualifier = name := by simpa using hname
                have hxml : qualifier ≠ "xml" := fun hxml => by simp [hxml, huri] at hreserved
                exact ⟨hxml, hne, hplain, by simpa [Scope.declares] using hundeclared⟩

theorem WellScoped.declareDefault {uri : String} (hbuilder : builder.WellScoped)
    (hdeclare : builder.declareDefault uri = .ok next) :
    next.WellScoped := by
  rw [Builder.declareDefault] at hdeclare
  split at hdeclare
  · cases hdeclare
  · next huri =>
      cases hdeclare
      refine { hbuilder with bindings := hbuilder.bindings.append ?_ (by simp) }
      exact fun hxml => huri (.inl hxml)

theorem WellScoped.addAttribute {written : WrittenAttribute} (hbuilder : builder.WellScoped)
    (hname : written.name.IsPlain) (hadd : builder.addAttribute written = .ok next) :
    next.WellScoped := by
  rw [Builder.addAttribute] at hadd
  split at hadd
  · exact hbuilder.declare hname.localName hname.localName_ne hadd
  · split at hadd
    · exact hbuilder.declareDefault hadd
    · cases hadd
      refine { hbuilder with attributes := ?_ }
      intro other hother
      rcases List.mem_append.mp hother with hother | hother
      · exact hbuilder.attributes other hother
      · rw [List.mem_singleton.mp hother]
        exact hname

theorem WellScoped.addLeaf {leaf : Leaf} (hbuilder : builder.WellScoped)
    (hadd : builder.addLeaf leaf = .ok next) :
    next.WellScoped := by
  rw [Builder.addLeaf, bind_eq_ok_iff] at hadd
  obtain ⟨counted, hcount, hadd⟩ := hadd
  cases hadd
  rw [countNode_eq_ok hcount]
  refine { hbuilder with members := ?_ }
  simpa [Member.AllTags] using hbuilder.members

theorem WellScoped.addText {text : List Char} (hbuilder : builder.WellScoped)
    (hadd : builder.addText text = .ok next) :
    next.WellScoped := by
  rw [Builder.addText] at hadd
  split at hadd
  · next before members hafter hmembers =>
      cases hadd
      refine { hbuilder with members := ?_ }
      have hbefore := hbuilder.members
      rw [hmembers] at hbefore
      simpa [Member.AllTags] using hbefore
  · rw [bind_eq_ok_iff] at hadd
    obtain ⟨extended, hextended, hadd⟩ := hadd
    cases hadd
    have hafter := hbuilder.addLeaf hextended
    exact { hafter with }

theorem WellScoped.addEmpty (hbuilder : builder.WellScoped) (hname : name.IsPlain)
    (hadd : builder.addEmpty name = .ok next) :
    next.WellScoped := by
  simp only [Builder.addEmpty, bind_eq_ok_iff, Prod.exists] at hadd
  obtain ⟨finished, tag, hfinish, hadd⟩ := hadd
  cases hadd
  obtain ⟨htag, rfl⟩ := hbuilder.finishTag hname hfinish
  constructor
  · simpa [Member.AllTags, Content.AllTags] using ⟨htag, hbuilder.members⟩
  · exact hbuilder.outer
  · simp
  · exact Scope.consistent_empty

theorem WellScoped.openElement (hbuilder : builder.WellScoped) (hname : name.IsPlain)
    (hadd : builder.openElement name = .ok next) :
    next.WellScoped := by
  simp only [Builder.openElement, bind_eq_ok_iff, Prod.exists] at hadd
  obtain ⟨finished, tag, hfinish, hadd⟩ := hadd
  cases hadd
  obtain ⟨htag, rfl⟩ := hbuilder.finishTag hname hfinish
  constructor
  · simp
  · intro element helement
    rcases List.mem_cons.mp helement with rfl | helement
    · exact ⟨htag, hbuilder.members⟩
    · exact hbuilder.outer element helement
  · simp
  · exact Scope.consistent_empty

theorem WellScoped.closeElement (hbuilder : builder.WellScoped)
    (hclose : builder.closeElement name = .ok next) :
    next.WellScoped := by
  rw [Builder.closeElement] at hclose
  split at hclose
  · cases hclose
  · simp only [takeAttributes, bind_eq_ok_iff, Prod.exists, Except.ok.injEq, Prod.mk.injEq]
      at hclose
    obtain ⟨taken, scope, attributes, ⟨resolved, -, rfl, -, -⟩, hclose⟩ := hclose
    split at hclose
    · next element outer houter =>
        have hopen := hbuilder.outer
        rw [show builder.outer = element :: outer from houter, List.forall_mem_cons] at hopen
        obtain ⟨⟨htag, hbefore⟩, houter⟩ := hopen
        split at hclose
        · cases hclose
          constructor
          · intro member hmember
            rcases List.mem_cons.mp hmember with rfl | hmember
            · exact ⟨htag, Content.allTags_ofReversed hbuilder.members⟩
            · exact hbefore member hmember
          · exact houter
          · simp
          · exact Scope.consistent_empty
        · cases hclose
    · cases hclose

/-- Every operation on the builder keeps what it holds well scoped. -/
theorem WellScoped.step (hbuilder : builder.WellScoped) (hstep : builder.Step next) :
    next.WellScoped := by
  cases hstep with
  | note references tagSeen afterText entities => exact { hbuilder with }
  | leaf hadd => exact hbuilder.addLeaf hadd
  | text hadd => exact hbuilder.addText hadd
  | written hname hadd => exact hbuilder.addAttribute hname hadd
  | empty hname hadd => exact hbuilder.addEmpty hname hadd
  | opening hname hadd => exact hbuilder.openElement hname hadd
  | closing hclose => exact hbuilder.closeElement hclose

end Builder

/-- The tags of a document that is read are well scoped. -/
theorem Document.wellScoped_of_parse {limits : Limits} {text : String} {document : Document}
    {id : Nat} {tag : Tag} (hparse : Document.parse limits text = .ok document)
    (htag : document.tag? id = some tag) :
    tag.WellScoped := by
  have hstart : Builder.WellScoped { nodesLimit := limits.nodesLimit } :=
    ⟨by simp, by simp, by simp, Scope.consistent_empty⟩
  obtain ⟨builder, hbuilder, hfinish⟩ :=
    Document.exists_builder_of_parse hparse hstart Builder.WellScoped.step
  have hcontent := Content.allTags_ofReversed hbuilder.members
  rw [Builder.finish] at hfinish
  split at hfinish
  · cases hfinish
    exact Document.allTags_of_content hcontent htag
  · cases hfinish

end Markup
end RecordExtraction
