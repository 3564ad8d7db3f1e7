import Mathlib
import RecordExtraction.Schema.Basic

/-!
# Which lists of properties are admitted

A list of properties makes a schema when every name is an identifier, no two names are the same and
no locator is blank.  None of this depends on the order of the properties.  What is reported of any
other list is the first property that spoils it: those before it would still make a schema.
-/

namespace RecordExtraction

/-! ## Lists without a problem -/

theorem Property.problem?_eq_none_iff {property : Property} {earlier : List String} :
    property.problem? earlier = none ↔
      isIdentifier property.name = true ∧ property.name ∉ earlier ∧
        property.explicitLocator.any isBlankText = false := by
  unfold problem?
  split
  · next hname =>
      simp only [Bool.not_eq_eq_eq_not, Bool.not_true] at hname
      simp [hname]
  · next hname =>
      rw [Bool.not_eq_true', Bool.not_eq_false] at hname
      split
      · next hearlier =>
          simp [List.contains_iff_mem.mp hearlier]
      · next hearlier =>
          rw [List.contains_iff_mem] at hearlier
          simp [hname, hearlier]

section

variable {earlier : List String} {first : Property} {rest : List Property}

theorem firstProblem?_cons_of_none (hfirst : first.problem? earlier = none) :
    firstProblem? earlier (first :: rest) = firstProblem? (first.name :: earlier) rest := by
  rw [firstProblem?, hfirst]

theorem firstProblem?_cons_of_some {problem : SchemaError}
    (hfirst : first.problem? earlier = some problem) :
    firstProblem? earlier (first :: rest) = some problem := by
  rw [firstProblem?, hfirst]

theorem firstProblem?_cons_eq_none_iff :
    firstProblem? earlier (first :: rest) = none ↔
      first.problem? earlier = none ∧ firstProblem? (first.name :: earlier) rest = none := by
  cases hfirst : first.problem? earlier with
  | none => simp [firstProblem?_cons_of_none hfirst]
  | some problem => simp [firstProblem?_cons_of_some hfirst]

end

/-- A list of properties is admitted when its names are identifiers, distinct from each other and
from all earlier ones, and no locator is blank. -/
theorem firstProblem?_eq_none_iff {earlier : List String} {properties : List Property} :
    firstProblem? earlier properties = none ↔
      (properties.map Property.name).Nodup ∧
        ∀ property ∈ properties, isIdentifier property.name = true ∧ property.name ∉ earlier ∧
          property.explicitLocator.any isBlankText = false := by
  induction properties generalizing earlier with
  | nil => simp [firstProblem?]
  | cons property rest ih =>
      rw [firstProblem?_cons_eq_none_iff, ih, Property.problem?_eq_none_iff, List.map_cons,
        List.nodup_cons, List.forall_mem_cons]
      constructor
      · intro hadmitted
        rcases hadmitted with ⟨hproperty, hnodup, hrest⟩
        have hfresh : property.name ∉ rest.map Property.name := by
          intro hmem
          rcases List.mem_map.mp hmem with ⟨other, hother, hname⟩
          exact (hrest other hother).2.1 (hname ▸ List.mem_cons_self)
        refine ⟨⟨hfresh, hnodup⟩, hproperty, ?_⟩
        intro other hother
        rcases hrest other hother with ⟨hname, hearlier, hlocator⟩
        exact ⟨hname, fun hmem => hearlier (List.mem_cons_of_mem _ hmem), hlocator⟩
      · intro hadmitted
        rcases hadmitted with ⟨⟨hfresh, hnodup⟩, hproperty, hrest⟩
        refine ⟨hproperty, hnodup, ?_⟩
        intro other hother
        rcases hrest other hother with ⟨hname, hearlier, hlocator⟩
        refine ⟨hname, ?_, hlocator⟩
        intro hmem
        rcases List.mem_cons.mp hmem with hsame | hmem
        · exact hfresh (hsame ▸ List.mem_map_of_mem hother)
        · exact hearlier hmem

theorem Schema.nodup_names (schema : Schema) :
    (schema.properties.map Property.name).Nodup :=
  (firstProblem?_eq_none_iff.mp schema.accepted).1

theorem Schema.isIdentifier_name {schema : Schema} {property : Property}
    (hproperty : property ∈ schema.properties) : isIdentifier property.name = true :=
  ((firstProblem?_eq_none_iff.mp schema.accepted).2 property hproperty).1

/-! ## Identifiers -/

/-- A letter of the Latin alphabet or the low line. -/
def IsLetterOrLine (c : Char) : Prop :=
  c ∈ Set.Icc 'A' 'Z' ∨ c ∈ Set.Icc 'a' 'z' ∨ c = '_'

/-- A letter or low line, and then any number of letters, low lines and digits. -/
def SpellsIdentifier (text : String) : Prop :=
  ∃ first rest,
    text.toList = first :: rest ∧
    IsLetterOrLine first ∧
    ∀ c ∈ rest, IsLetterOrLine c ∨ c ∈ Set.Icc '0' '9'

section

variable {c : Char}

theorem isIdentifierStart_iff : isIdentifierStart c = true ↔ IsLetterOrLine c := by
  have hupper : c.isUpper = true ↔ c ∈ Set.Icc 'A' 'Z' := by
    simp only [Char.isUpper, decide_eq_true_eq]
    exact Iff.rfl
  have hlower : c.isLower = true ↔ c ∈ Set.Icc 'a' 'z' := by
    simp only [Char.isLower, Bool.and_eq_true, decide_eq_true_eq]
    exact Iff.rfl
  simp only [isIdentifierStart, Char.isAlpha, Bool.or_eq_true, beq_iff_eq, hupper, hlower,
    or_assoc, IsLetterOrLine]

theorem isIdentifierPart_iff :
    isIdentifierPart c = true ↔ IsLetterOrLine c ∨ c ∈ Set.Icc '0' '9' := by
  have hdigit : c.isDigit = true ↔ c ∈ Set.Icc '0' '9' := by
    simp only [Char.isDigit, Bool.and_eq_true, decide_eq_true_eq]
    exact Iff.rfl
  rw [← isIdentifierStart_iff, ← hdigit]
  simp only [isIdentifierPart, isIdentifierStart, Char.isAlphanum, Bool.or_eq_true]
  tauto

theorem isIdentifier_iff {text : String} : isIdentifier text = true ↔ SpellsIdentifier text := by
  unfold isIdentifier SpellsIdentifier
  cases hchars : text.toList with
  | nil => simp
  | cons first rest =>
      simp only [Bool.and_eq_true, List.all_eq_true, isIdentifierStart_iff, isIdentifierPart_iff,
        List.cons.injEq]
      constructor
      · intro hname
        exact ⟨first, rest, ⟨rfl, rfl⟩, hname⟩
      · intro hname
        rcases hname with ⟨_, _, ⟨rfl, rfl⟩, hname⟩
        exact hname

end

/-! ## Valid lists -/

/-- A locator is given, and all its characters are white space. -/
def Property.HasBlankLocator (property : Property) : Prop :=
  ∃ text, property.explicitLocator = some text ∧ ∀ c ∈ text.toList, isBlank c = true

theorem Property.hasBlankLocator_iff {property : Property} :
    property.explicitLocator.any isBlankText = true ↔ property.HasBlankLocator := by
  simp only [Option.any_eq_true, isBlankText, List.all_eq_true, HasBlankLocator]

/-- The list makes a schema. -/
structure ValidProperties (properties : List Property) : Prop where
  identifiers : ∀ property ∈ properties, SpellsIdentifier property.name
  distinct : (properties.map Property.name).Nodup
  located : ∀ property ∈ properties, ¬property.HasBlankLocator

section

variable {properties others : List Property}

theorem firstProblem?_eq_none_iff_valid :
    firstProblem? [] properties = none ↔ ValidProperties properties := by
  rw [firstProblem?_eq_none_iff]
  constructor
  · intro hadmitted
    constructor
    · intro property hproperty
      exact isIdentifier_iff.mp (hadmitted.2 property hproperty).1
    · exact hadmitted.1
    · intro property hproperty hblank
      rw [← Property.hasBlankLocator_iff, (hadmitted.2 property hproperty).2.2] at hblank
      cases hblank
  · intro hvalid
    refine ⟨hvalid.distinct, ?_⟩
    intro property hproperty
    refine ⟨isIdentifier_iff.mpr (hvalid.identifiers property hproperty), List.not_mem_nil, ?_⟩
    rw [← Bool.not_eq_true, Property.hasBlankLocator_iff]
    exact hvalid.located property hproperty

theorem ValidProperties.perm (hvalid : ValidProperties properties)
    (hperm : others.Perm properties) : ValidProperties others := by
  constructor
  · intro property hproperty
    exact hvalid.identifiers property (hperm.mem_iff.mp hproperty)
  · exact (hperm.map Property.name).nodup_iff.mpr hvalid.distinct
  · intro property hproperty
    exact hvalid.located property (hperm.mem_iff.mp hproperty)

end

/-! ## The property that spoils a list -/

/-- What is reported of a property that is declared after properties with the given names.  A bad
name comes before a repeated one, and both come before a blank locator. -/
inductive Property.Offends (property : Property) (earlier : List String) : SchemaError → Prop
  | badName (hname : ¬SpellsIdentifier property.name) :
      Offends property earlier (.invalidPropertyName property.name)
  | repeatedName (hname : SpellsIdentifier property.name) (hrepeated : property.name ∈ earlier) :
      Offends property earlier (.duplicateProperty property.name)
  | blankLocator (hname : SpellsIdentifier property.name) (hfresh : property.name ∉ earlier)
      (hblank : property.HasBlankLocator) :
      Offends property earlier (.emptyLocator property.name)

section

variable {property : Property} {earlier : List String} {properties : List Property}
  {problem : SchemaError}

theorem Property.not_isIdentifier_iff :
    (!isIdentifier property.name) = true ↔ ¬SpellsIdentifier property.name := by
  rw [Bool.not_eq_true', ← Bool.not_eq_true, isIdentifier_iff]

theorem Property.problem?_eq_some_iff :
    property.problem? earlier = some problem ↔ property.Offends earlier problem := by
  unfold problem?
  constructor
  · intro hproblem
    split at hproblem
    · next hname =>
        cases hproblem
        exact .badName (not_isIdentifier_iff.mp hname)
    · next hname =>
        rw [not_isIdentifier_iff, not_not] at hname
        split at hproblem
        · next hearlier =>
            cases hproblem
            exact .repeatedName hname (List.contains_iff_mem.mp hearlier)
        · next hearlier =>
            rw [List.contains_iff_mem] at hearlier
            split at hproblem
            · next hblank =>
                cases hproblem
                exact .blankLocator hname hearlier (hasBlankLocator_iff.mp hblank)
            · cases hproblem
  · intro hoffends
    cases hoffends with
    | badName hname => rw [if_pos (not_isIdentifier_iff.mpr hname)]
    | repeatedName hname hrepeated =>
        rw [if_neg (not_isIdentifier_iff.not.mpr (not_not.mpr hname)),
          if_pos (List.contains_iff_mem.mpr hrepeated)]
    | blankLocator hname hfresh hblank =>
        rw [if_neg (not_isIdentifier_iff.not.mpr (not_not.mpr hname)),
          if_neg (List.contains_iff_mem.not.mpr hfresh), if_pos (hasBlankLocator_iff.mpr hblank)]

/-- Only which names come earlier matters, not in what order. -/
theorem Property.Offends.of_same_names {names : List String}
    (hoffends : property.Offends earlier problem)
    (hsame : property.name ∈ earlier ↔ property.name ∈ names) :
    property.Offends names problem := by
  cases hoffends with
  | badName hname => exact .badName hname
  | repeatedName hname hrepeated => exact .repeatedName hname (hsame.mp hrepeated)
  | blankLocator hname hfresh hblank => exact .blankLocator hname (hsame.not.mp hfresh) hblank

/-- Past properties without a problem, their names have been collected, the last one in front. -/
theorem firstProblem?_append {before rest : List Property}
    (hbefore : firstProblem? earlier before = none) :
    firstProblem? earlier (before ++ rest) =
      firstProblem? ((before.map Property.name).reverse ++ earlier) rest := by
  induction before generalizing earlier with
  | nil => rfl
  | cons first before ih =>
      rcases firstProblem?_cons_eq_none_iff.mp hbefore with ⟨hfirst, hbefore⟩
      rw [List.cons_append, firstProblem?_cons_of_none hfirst, ih hbefore, List.map_cons,
        List.reverse_cons, List.append_assoc, List.singleton_append]

theorem exists_split_of_firstProblem? (hproblem : firstProblem? earlier properties = some problem) :
    ∃ before property after,
      properties = before ++ property :: after ∧
      firstProblem? earlier before = none ∧
      property.problem? ((before.map Property.name).reverse ++ earlier) = some problem := by
  induction properties generalizing earlier with
  | nil => cases hproblem
  | cons first rest ih =>
      cases hfirst : first.problem? earlier with
      | some other =>
          rw [firstProblem?_cons_of_some hfirst] at hproblem
          exact ⟨[], first, rest, rfl, rfl, hfirst.trans hproblem⟩
      | none =>
          rw [firstProblem?_cons_of_none hfirst] at hproblem
          rcases ih hproblem with ⟨before, property, after, hlist, hbefore, hoffends⟩
          refine ⟨first :: before, property, after, by rw [hlist, List.cons_append], ?_, ?_⟩
          · rw [firstProblem?_cons_of_none hfirst]
            exact hbefore
          · rw [List.map_cons, List.reverse_cons, List.append_assoc, List.singleton_append]
            exact hoffends

/-- The first property that spoils a list is what is reported. -/
theorem firstProblem?_eq_some_iff :
    firstProblem? [] properties = some problem ↔
      ∃ before property after,
        properties = before ++ property :: after ∧
        ValidProperties before ∧
        property.Offends (before.map Property.name) problem := by
  constructor
  · intro hproblem
    rcases exists_split_of_firstProblem? hproblem with
      ⟨before, property, after, hlist, hbefore, hoffends⟩
    rw [List.append_nil, Property.problem?_eq_some_iff] at hoffends
    exact ⟨before, property, after, hlist, firstProblem?_eq_none_iff_valid.mp hbefore,
      hoffends.of_same_names List.mem_reverse⟩
  · intro hsplit
    rcases hsplit with ⟨before, property, after, hlist, hbefore, hoffends⟩
    have hproblem :
        property.problem? ((before.map Property.name).reverse ++ []) = some problem := by
      rw [List.append_nil, Property.problem?_eq_some_iff]
      exact hoffends.of_same_names List.mem_reverse.symm
    rw [hlist, firstProblem?_append (firstProblem?_eq_none_iff_valid.mpr hbefore),
      firstProblem?_cons_of_some hproblem]

end

/-! ## Schemas -/

namespace Schema

variable {schema : Schema} {typeName name : String} {property : Property}
  {properties : List Property} {problem : SchemaError}

theorem ofProperties_eq_ok_iff :
    ofProperties typeName properties = .ok schema ↔
      schema.typeName = typeName ∧ schema.properties = properties := by
  constructor
  · intro hschema
    unfold ofProperties at hschema
    split at hschema
    · cases hschema
      exact ⟨rfl, rfl⟩
    · cases hschema
  · intro hparts
    rcases schema with ⟨_, _, haccepted⟩
    rcases hparts with ⟨rfl, rfl⟩
    unfold ofProperties
    split
    · rfl
    · next other hproblem => rw [haccepted] at hproblem; cases hproblem

theorem ofProperties_eq_error_iff :
    ofProperties typeName properties = .error problem ↔
      firstProblem? [] properties = some problem := by
  unfold ofProperties
  split
  · next hnone => simp [hnone]
  · next other hsome => simp [hsome]

theorem exists_ofProperties_iff :
    (∃ schema, ofProperties typeName properties = .ok schema) ↔ ValidProperties properties := by
  rw [← firstProblem?_eq_none_iff_valid]
  constructor
  · intro hschema
    rcases hschema with ⟨schema, hschema⟩
    rw [← (ofProperties_eq_ok_iff.mp hschema).2]
    exact schema.accepted
  · intro haccepted
    exact ⟨⟨typeName, properties, haccepted⟩, ofProperties_eq_ok_iff.mpr ⟨rfl, rfl⟩⟩

theorem property?_eq_some_iff :
    schema.property? name = some property ↔
      property ∈ schema.properties ∧ property.name = name := by
  have hnodup := schema.nodup_names
  unfold property?
  constructor
  · intro hfound
    exact ⟨List.mem_of_find?_eq_some hfound, by simpa using List.find?_some hfound⟩
  · intro hproperty
    cases hfound : schema.properties.find? (·.name == name) with
    | none =>
        have hmissing := List.find?_eq_none.mp hfound property hproperty.1
        exact absurd (beq_iff_eq.mpr hproperty.2) hmissing
    | some other =>
        have hmem := List.mem_of_find?_eq_some hfound
        have hname : other.name = name := by simpa using List.find?_some hfound
        rw [List.inj_on_of_nodup_map hnodup hmem hproperty.1 (hname.trans hproperty.2.symm)]

end Schema

/-- A list of properties makes a schema exactly when it is valid.  The schema keeps the properties
as they are, and finds each of them by its name.  Of any other list, the first property is reported
that has no identifier for its name, the name of an earlier property, or a blank locator, in this
order.  The order of the properties does not decide whether there is a schema. -/
theorem properties_admitted_or_first_blamed (typeName : String) (properties : List Property) :
    ((∃ schema, Schema.ofProperties typeName properties = .ok schema) ↔
      ValidProperties properties) ∧
    (∀ schema, Schema.ofProperties typeName properties = .ok schema →
      schema.typeName = typeName ∧
      schema.properties = properties ∧
      ∀ name property,
        schema.property? name = some property ↔ property ∈ properties ∧ property.name = name) ∧
    (∀ problem, Schema.ofProperties typeName properties = .error problem ↔
      ∃ before property after,
        properties = before ++ property :: after ∧
        ValidProperties before ∧
        property.Offends (before.map Property.name) problem) ∧
    ∀ others, others.Perm properties →
      ((∃ schema, Schema.ofProperties typeName others = .ok schema) ↔
        ∃ schema, Schema.ofProperties typeName properties = .ok schema) := by
  refine ⟨Schema.exists_ofProperties_iff, ?_, ?_, ?_⟩
  · intro schema hschema
    rcases Schema.ofProperties_eq_ok_iff.mp hschema with ⟨htypeName, hproperties⟩
    refine ⟨htypeName, hproperties, ?_⟩
    intro name property
    rw [Schema.property?_eq_some_iff, hproperties]
  · intro problem
    rw [Schema.ofProperties_eq_error_iff, firstProblem?_eq_some_iff]
  · intro others hperm
    rw [Schema.exists_ofProperties_iff, Schema.exists_ofProperties_iff]
    constructor
    · intro hvalid
      exact hvalid.perm hperm.symm
    · intro hvalid
      exact hvalid.perm hperm

/-- A required number and a nullable text. -/
def ageProperties : List Property :=
  [⟨"years", ⟨.scalar (.integer .bits32), false⟩, some "/p/@y"⟩,
    ⟨"days", ⟨.scalar .text, true⟩, none⟩]

/-- The second property has the name of the first one and a blank locator, and the third one has no
identifier for its name. -/
def spoiltProperties : List Property :=
  [⟨"id", ⟨.scalar .text, false⟩, none⟩, ⟨"id", ⟨.scalar .text, false⟩, some " \t"⟩,
    ⟨"1st", ⟨.scalar .text, false⟩, none⟩]

theorem ages_admitted_and_second_id_blamed :
    ValidProperties ageProperties ∧
    (∃ schema, Schema.ofProperties "Age" ageProperties = .ok schema ∧
      schema.properties = ageProperties ∧
      schema.property? "days" = some ⟨"days", ⟨.scalar .text, true⟩, none⟩) ∧
    ageProperties.reverse.Perm ageProperties ∧
    (∃ schema, Schema.ofProperties "Age" ageProperties.reverse = .ok schema) ∧
    Schema.ofProperties "Id" spoiltProperties = .error (.duplicateProperty "id") ∧
    (∃ before property after,
      spoiltProperties = before ++ property :: after ∧
      ValidProperties before ∧
      property.Offends (before.map Property.name) (.duplicateProperty "id")) ∧
    ¬ValidProperties spoiltProperties := by
  rcases properties_admitted_or_first_blamed "Age" ageProperties with
    ⟨hadmitted, hkept, _, hpermuted⟩
  rcases properties_admitted_or_first_blamed "Id" spoiltProperties with ⟨hspoilt, _, hblamed, _⟩
  have hschema : Schema.ofProperties "Age" ageProperties =
      .ok ⟨"Age", ageProperties, by decide⟩ := by rfl
  have hreverse : ageProperties.reverse.Perm ageProperties := ageProperties.reverse_perm
  have hproblem : Schema.ofProperties "Id" spoiltProperties = .error (.duplicateProperty "id") := by
    rfl
  rcases hkept _ hschema with ⟨_, hproperties, hfinds⟩
  refine ⟨hadmitted.mp ⟨_, hschema⟩, ⟨_, hschema, hproperties, ?_⟩, hreverse,
    (hpermuted _ hreverse).mpr ⟨_, hschema⟩, hproblem, (hblamed _).mp hproblem, ?_⟩
  · apply (hfinds _ _).mpr
    exact ⟨List.mem_cons_of_mem _ List.mem_cons_self, rfl⟩
  · intro hvalid
    rcases hspoilt.mpr hvalid with ⟨schema, hschema⟩
    cases hschema.symm.trans hproblem

end RecordExtraction
