import Mathlib
import RecordExtraction.Proofs.Extraction.Independence

/-!
# Nullable properties

Where a required property is declared nullable instead, its absence becomes null and nothing else
changes.  A construction that did not fail for the absence gives what it gave before.  One that did
goes on with the properties after the absent one.  A path that cannot be evaluated and a text that
cannot be coerced remain failures.
-/

namespace RecordExtraction

open Locator Markup

/-- The same property, nullable. -/
def Property.intoNullable (property : Property) : Property :=
  { property with type := property.type.intoNullable }

/-- The same property, except that it is nullable if it has the given name. -/
def Property.nullableIfNamed (name : String) (property : Property) : Property :=
  if property.name = name then property.intoNullable else property

/-- The field of a property in a document, or why there is none. -/
def Property.field (evaluator : PathEvaluator) (document : Document) (property : Property) :
    Except ConstructError (String × FieldValue) :=
  (property.extract evaluator document).map fun value => (property.name, value)

/-- The property has a faulty path or a faulty text in the document. -/
inductive Property.Faulty (property : Property) (evaluator : PathEvaluator) (document : Document) :
    ConstructError → Prop
  | path {cause : PathError} (hpath : evaluator property.locator document = .error cause) :
      Faulty property evaluator document (.pathEvaluation property.name property.locator cause)
  | text {kind : ScalarKind} {item : Item} {cause : CoercionError}
      (hdeclared : property.type.kind = .scalar kind)
      (hfound : evaluator property.locator document = .ok (some item))
      (hcoerce : coerce kind (item.text document) = .error cause) :
      Faulty property evaluator document
        (.coercion property.name property.locator (item.text document) cause)

/-! ## One property -/

namespace Property

variable {property : Property} {kind : ScalarKind} {evaluator : PathEvaluator}
  {document : Document} {cause : ConstructError} {name : String}

@[simp] theorem intoNullable_name : property.intoNullable.name = property.name := rfl

@[simp] theorem intoNullable_locator : property.intoNullable.locator = property.locator := rfl

@[simp] theorem intoNullable_nullable : property.intoNullable.type.nullable = true := rfl

@[simp] theorem nullableIfNamed_name :
    (property.nullableIfNamed name).name = property.name := by
  unfold nullableIfNamed
  split <;> rfl

@[simp] theorem nullableIfNamed_explicitLocator :
    (property.nullableIfNamed name).explicitLocator = property.explicitLocator := by
  unfold nullableIfNamed
  split <;> rfl

@[simp] theorem nullableIfNamed_kind :
    (property.nullableIfNamed name).type.kind = property.type.kind := by
  unfold nullableIfNamed
  split <;> rfl

/-- Only for an absent node does it matter whether the property is nullable. -/
theorem extract_intoNullable (hdeclared : property.type.kind = .scalar kind) :
    (property.extract evaluator document = .error (.missingNode property.name property.locator) ∧
      property.intoNullable.extract evaluator document = .ok .null) ∨
    (property.intoNullable.extract evaluator document = property.extract evaluator document ∧
      ∀ path, property.extract evaluator document ≠
        .error (.missingNode property.name path)) := by
  have hnullable : property.intoNullable.type.kind = .scalar kind := hdeclared
  rw [extract_of_declared hdeclared, extract_of_declared hnullable]
  simp only [intoNullable_name, intoNullable_locator, intoNullable_nullable]
  cases evaluator property.locator document with
  | error cause => exact .inr ⟨rfl, fun _ => nofun⟩
  | ok found =>
      cases found with
      | some item =>
          refine .inr ⟨rfl, ?_⟩
          intro path
          dsimp only
          cases coerce kind (item.text document) <;> exact nofun
      | none =>
          cases property.type.nullable with
          | true => exact .inr ⟨rfl, fun _ => nofun⟩
          | false => exact .inl ⟨rfl, rfl⟩

theorem Faulty.extract_eq (hfaulty : property.Faulty evaluator document cause)
    (hdeclared : property.type.kind = .scalar kind) :
    property.extract evaluator document = .error cause := by
  rw [extract_of_declared hdeclared]
  cases hfaulty with
  | path hpath => rw [hpath]
  | text hother hfound hcoerce =>
      rw [hdeclared, TypeKind.scalar.injEq] at hother
      subst hother
      simp only [hfound, hcoerce]

end Property

theorem ConstructError.Blames.property?_eq {property : Property} {cause : ConstructError}
    (hblames : cause.Blames property) : cause.property? = some property.name := by
  cases hblames <;> rfl

/-! ## All properties -/

section

variable {evaluator : PathEvaluator} {document : Document} {properties before after : List Property}
  {property : Property} {steps : List Step} {cause : ConstructError}

theorem extractAll_eq_mapM
    (hsteps :
      List.Forall₂ (fun property step => ∃ kind, step.Extracts property kind) properties steps) :
    extractAll evaluator document steps = properties.mapM (Property.field evaluator document) := by
  induction hsteps with
  | nil => rfl
  | @cons property step properties steps hstep _ ih =>
      rcases hstep with ⟨kind, hstep⟩
      rw [extractAll, List.mapM_cons, hstep.extract_eq, hstep.name, ih, Property.field]
      cases property.extract evaluator document <;> rfl

theorem mapM_field_eq_error_iff
    (hdeclared : ∀ property ∈ properties, ∃ kind, property.type.kind = .scalar kind) :
    properties.mapM (Property.field evaluator document) = .error cause ↔
      FirstFailure evaluator document properties cause := by
  rcases @exists_steps_of_declared 0 properties hdeclared with ⟨steps, hsteps⟩
  have hextracts := extracts_of_resolveAll hsteps
  rw [← extractAll_eq_mapM hextracts]
  exact extractAll_eq_error_iff hextracts

theorem FirstFailure.exists_blamed (hfailure : FirstFailure evaluator document properties cause) :
    ∃ property ∈ properties, cause.property? = some property.name := by
  rcases hfailure with ⟨earlier, property, later, hsplit, _, _, hblames⟩
  rw [hsplit]
  exact ⟨property, by simp, hblames.property?_eq⟩

/-- The fields of all properties are those of the ones before, the own one, and those of the ones
after. -/
theorem mapM_field_split :
    (before ++ property :: after).mapM (Property.field evaluator document) =
      (before.mapM (Property.field evaluator document) >>= fun front =>
        property.extract evaluator document >>= fun value =>
          (after.mapM (Property.field evaluator document)).map fun rest =>
            front ++ (property.name, value) :: rest) := by
  rw [List.mapM_append, List.mapM_cons, Property.field]
  cases before.mapM (Property.field evaluator document) with
  | error cause => rfl
  | ok front =>
      cases property.extract evaluator document with
      | error cause => rfl
      | ok value =>
          cases after.mapM (Property.field evaluator document) <;> rfl

end

/-! ## Schemas -/

/-- What running a plan on a source gives. -/
def Plan.run (plan : Plan) (evaluator : PathEvaluator) (options : InputOptions) (source : Source) :
    Except ConstructError Record :=
  ((Factory.mk plan evaluator options).constructFrom source).outcome

namespace Schema

/-- The same schema, except that the property with the given name is nullable. -/
def withNullable (schema : Schema) (name : String) : Schema where
  typeName := schema.typeName
  properties := schema.properties.map (Property.nullableIfNamed name)
  accepted := by
    have haccepted := firstProblem?_eq_none_iff.mp schema.accepted
    apply firstProblem?_eq_none_iff.mpr
    simpa [Function.comp_def] using haccepted

variable {schema : Schema} {plan nullablePlan laterPlan : Plan} {evaluator : PathEvaluator}
  {options : InputOptions} {source : Source} {document : Document}
  {properties before after : List Property} {property : Property}

theorem fresh_of_split (hsplit : schema.properties = before ++ property :: after) :
    property.name ∉ before.map Property.name ∧ property.name ∉ after.map Property.name := by
  have hnames := schema.nodup_names
  rw [hsplit, List.map_append, List.map_cons, List.nodup_middle, List.nodup_cons,
    List.mem_append, not_or] at hnames
  exact hnames.1

theorem properties_withNullable (hsplit : schema.properties = before ++ property :: after) :
    (schema.withNullable property.name).properties =
      before ++ property.intoNullable :: after := by
  rcases fresh_of_split hsplit with ⟨hbefore, hafter⟩
  have hsame : ∀ others : List Property, property.name ∉ others.map Property.name →
      others.map (Property.nullableIfNamed property.name) = others := by
    intro others hfresh
    have hkept : others.map (Property.nullableIfNamed property.name) = others.map id := by
      apply List.map_congr_left
      intro other hother
      apply if_neg
      intro hname
      exact hfresh (hname ▸ List.mem_map_of_mem hother)
    rw [hkept, List.map_id]
  change schema.properties.map _ = _
  rw [hsplit, List.map_append, List.map_cons, hsame before hbefore, hsame after hafter,
    Property.nullableIfNamed, if_pos rfl]

theorem declared_of_assemble (hplan : schema.assemble = .ok plan) :
    ∀ property ∈ schema.properties, ∃ kind, property.type.kind = .scalar kind :=
  exists_plan_iff.mp ⟨plan, hplan⟩

theorem exists_plan_withNullable (hplan : schema.assemble = .ok plan) (name : String) :
    ∃ nullablePlan, (schema.withNullable name).assemble = .ok nullablePlan := by
  apply exists_plan_iff.mpr
  intro nullable hnullable
  rcases List.mem_map.mp hnullable with ⟨property, hproperty, rfl⟩
  rw [Property.nullableIfNamed_kind]
  exact declared_of_assemble hplan property hproperty

/-- Some of the properties of a schema, in their order, make a schema and a plan. -/
theorem exists_part (hplan : schema.assemble = .ok plan)
    (hpart : properties.Sublist schema.properties) :
    ∃ (part : Schema) (partPlan : Plan),
      part.properties = properties ∧ part.assemble = .ok partPlan := by
  have haccepted := firstProblem?_eq_none_iff.mp schema.accepted
  let part : Schema := {
    typeName := schema.typeName
    properties := properties
    accepted := firstProblem?_eq_none_iff.mpr
      ⟨haccepted.1.sublist (hpart.map Property.name),
        fun property hproperty => haccepted.2 property (hpart.subset hproperty)⟩ }
  have hdeclared : ∀ property ∈ part.properties, ∃ kind, property.type.kind = .scalar kind :=
    fun property hproperty => declared_of_assemble hplan property (hpart.subset hproperty)
  rcases exists_plan_iff.mpr hdeclared with ⟨partPlan, hpartPlan⟩
  exact ⟨part, partPlan, rfl, hpartPlan⟩

theorem run_of_document (hplan : schema.assemble = .ok plan)
    (hdocument : ((Factory.mk plan evaluator options).readDocument source).1 = .ok document) :
    plan.run evaluator options source =
      (schema.properties.mapM (Property.field evaluator document)).map
        (Record.mk schema.typeName) := by
  rcases steps_of_assemble hplan with ⟨htypeName, hsteps⟩
  change Factory.outcome _ (Factory.readDocument _ source).1 = _
  rw [hdocument, Factory.outcome, Factory.realize, extractAll_eq_mapM hsteps, htypeName]
  cases schema.properties.mapM (Property.field evaluator document) <;> rfl

theorem run_of_unreadable {fault : InputError}
    (hfault : ((Factory.mk plan evaluator options).readDocument source).1 = .error fault) :
    plan.run evaluator options source = .error (.input fault) := by
  change Factory.outcome _ (Factory.readDocument _ source).1 = _
  rw [hfault, Factory.outcome]

/-- A construction that does not fail for the absence of the property is the same with the property
nullable. -/
theorem run_withNullable_of_ne_missing (hplan : schema.assemble = .ok plan)
    (hnullablePlan : (schema.withNullable property.name).assemble = .ok nullablePlan)
    (hsplit : schema.properties = before ++ property :: after)
    (hne : ∀ path, plan.run evaluator options source ≠ .error (.missingNode property.name path)) :
    nullablePlan.run evaluator options source = plan.run evaluator options source := by
  cases hdocument : ((Factory.mk plan evaluator options).readDocument source).1 with
  | error fault =>
      have hsame : ((Factory.mk nullablePlan evaluator options).readDocument source).1 =
        .error fault := hdocument
      rw [run_of_unreadable hdocument, run_of_unreadable hsame]
  | ok document =>
      have hproperty : property ∈ schema.properties := by simp [hsplit]
      rcases declared_of_assemble hplan property hproperty with ⟨kind, hdeclared⟩
      specialize hne property.locator
      rw [run_of_document hplan hdocument, hsplit, mapM_field_split] at hne ⊢
      rw [run_of_document hnullablePlan hdocument, properties_withNullable hsplit,
        mapM_field_split]
      cases hfront : before.mapM (Property.field evaluator document) with
      | error cause => rfl
      | ok front =>
          rcases property.extract_intoNullable hdeclared with ⟨habsent, _⟩ | ⟨hextract, _⟩
          · rw [hfront, habsent] at hne
            exact absurd rfl hne
          · rw [hextract]
            rfl

/-- Properties with other names are not blamed for the absence of the property. -/
theorem mapM_field_ne_missing (hplan : schema.assemble = .ok plan) {name path : String}
    (hfresh : name ∉ schema.properties.map Property.name) :
    schema.properties.mapM (Property.field evaluator document) ≠
      .error (.missingNode name path) := by
  intro herror
  rw [mapM_field_eq_error_iff (declared_of_assemble hplan)] at herror
  rcases herror.exists_blamed with ⟨other, hother, hblamed⟩
  change some name = some other.name at hblamed
  rw [Option.some.inj hblamed] at hfresh
  exact hfresh (List.mem_map_of_mem hother)

/-- A construction that fails for the absence of the property goes on with the properties after it
when the property is nullable. -/
theorem run_withNullable_of_missing (hplan : schema.assemble = .ok plan)
    (hnullablePlan : (schema.withNullable property.name).assemble = .ok nullablePlan)
    {earlier later : Schema} {earlierPlan : Plan}
    (hearlier : earlier.assemble = .ok earlierPlan) (hlater : later.assemble = .ok laterPlan)
    (hsplit : schema.properties = earlier.properties ++ property :: later.properties)
    {path : String}
    (hmissing : plan.run evaluator options source = .error (.missingNode property.name path)) :
    ∃ front,
      earlierPlan.run evaluator options source = .ok front ∧
      nullablePlan.run evaluator options source =
        (laterPlan.run evaluator options source).map fun rest =>
          ⟨schema.typeName, front.fields ++ (property.name, .null) :: rest.fields⟩ := by
  rcases fresh_of_split hsplit with ⟨hfreshBefore, hfreshAfter⟩
  cases hdocument : ((Factory.mk plan evaluator options).readDocument source).1 with
  | error fault =>
      rw [run_of_unreadable hdocument] at hmissing
      cases hmissing
  | ok document =>
      have hproperty : property ∈ schema.properties := by simp [hsplit]
      rcases declared_of_assemble hplan property hproperty with ⟨kind, hdeclared⟩
      rw [run_of_document hplan hdocument, hsplit, mapM_field_split, map_eq_error_iff] at hmissing
      rw [run_of_document hnullablePlan hdocument, properties_withNullable hsplit,
        mapM_field_split, run_of_document hearlier hdocument, run_of_document hlater hdocument]
      cases hfront : earlier.properties.mapM (Property.field evaluator document) with
      | error cause =>
          rw [hfront, error_bind, Except.error.injEq] at hmissing
          rw [hmissing] at hfront
          exact absurd hfront (mapM_field_ne_missing hearlier hfreshBefore)
      | ok front =>
          refine ⟨⟨earlier.typeName, front⟩, rfl, ?_⟩
          rw [hfront, ok_bind] at hmissing
          rcases property.extract_intoNullable hdeclared with ⟨_, hnull⟩ | ⟨_, hnotMissing⟩
          · rw [hnull, ok_bind, ok_bind]
            cases later.properties.mapM (Property.field evaluator document) <;> rfl
          · -- The property is there, and no later one is blamed under its name.
            rcases bind_eq_error_iff.mp hmissing with hown | ⟨_, _, hafter⟩
            · exact absurd hown (hnotMissing path)
            · rw [map_eq_error_iff] at hafter
              exact absurd hafter (mapM_field_ne_missing hlater hfreshAfter)

/-- A faulty property fails the construction, unless an earlier one does. -/
theorem run_of_faulty (hplan : schema.assemble = .ok plan)
    (hdocument : ((Factory.mk plan evaluator options).readDocument source).1 = .ok document)
    (hsplit : schema.properties = before ++ property :: after) {cause : ConstructError}
    (hfaulty : property.Faulty evaluator document cause) :
    plan.run evaluator options source = .error cause ∨
      ∃ reported, FirstFailure evaluator document before reported ∧
        plan.run evaluator options source = .error reported := by
  have hdeclared := declared_of_assemble hplan
  rw [hsplit, List.forall_mem_append, List.forall_mem_cons] at hdeclared
  rcases hdeclared with ⟨hbefore, ⟨kind, hkind⟩, _⟩
  rw [run_of_document hplan hdocument, hsplit, mapM_field_split, hfaulty.extract_eq hkind]
  cases hfront : before.mapM (Property.field evaluator document) with
  | error reported => exact .inr ⟨reported, (mapM_field_eq_error_iff hbefore).mp hfront, rfl⟩
  | ok front => exact .inl rfl

end Schema

/-- Whatever evaluates the locators: let one property of a schema that has a plan be nullable
instead.  The schema then has a plan, too.  A construction that did not fail for the absence of the
property gives exactly what it gave before.  One that did fail for it goes on with null for the
property, and the properties after it decide.  A property whose path cannot be evaluated, or whose
text cannot be coerced, fails the construction with that cause, nullable or not, unless an earlier
property fails. -/
theorem nullable_property_only_forgives_absence {schema : Schema} {plan : Plan}
    (hplan : schema.assemble = .ok plan) {property : Property}
    (hproperty : property ∈ schema.properties) :
    ∃ (earlier later : Schema) (nullablePlan earlierPlan laterPlan : Plan),
      schema.properties = earlier.properties ++ property :: later.properties ∧
      (schema.withNullable property.name).properties =
        earlier.properties ++ property.intoNullable :: later.properties ∧
      (schema.withNullable property.name).assemble = .ok nullablePlan ∧
      earlier.assemble = .ok earlierPlan ∧
      later.assemble = .ok laterPlan ∧
      ∀ evaluator options source,
        ((∀ path,
            plan.run evaluator options source ≠ .error (.missingNode property.name path)) →
          nullablePlan.run evaluator options source = plan.run evaluator options source) ∧
        (∀ path,
          plan.run evaluator options source = .error (.missingNode property.name path) →
            ∃ front,
              earlierPlan.run evaluator options source = .ok front ∧
              nullablePlan.run evaluator options source =
                (laterPlan.run evaluator options source).map fun rest =>
                  ⟨schema.typeName, front.fields ++ (property.name, .null) :: rest.fields⟩) ∧
        ∀ document before other after cause,
          ((Factory.mk plan evaluator options).readDocument source).1 = .ok document →
          (schema.withNullable property.name).properties = before ++ other :: after →
          other.Faulty evaluator document cause →
            nullablePlan.run evaluator options source = .error cause ∨
              ∃ reported, FirstFailure evaluator document before reported ∧
                nullablePlan.run evaluator options source = .error reported := by
  rcases List.append_of_mem hproperty with ⟨before, after, hsplit⟩
  have hbefore : before.Sublist schema.properties := by
    rw [hsplit]
    exact List.sublist_append_left before _
  have hafter : after.Sublist schema.properties := by
    rw [hsplit]
    exact (List.sublist_cons_self property after).trans (List.sublist_append_right before _)
  rcases Schema.exists_part hplan hbefore with ⟨earlier, earlierPlan, rfl, hearlierPlan⟩
  rcases Schema.exists_part hplan hafter with ⟨later, laterPlan, rfl, hlaterPlan⟩
  rcases Schema.exists_plan_withNullable hplan property.name with ⟨nullablePlan, hnullablePlan⟩
  refine ⟨earlier, later, nullablePlan, earlierPlan, laterPlan, hsplit,
    Schema.properties_withNullable hsplit, hnullablePlan, hearlierPlan, hlaterPlan, ?_⟩
  intro evaluator options source
  refine ⟨Schema.run_withNullable_of_ne_missing hplan hnullablePlan hsplit, ?_, ?_⟩
  · intro path
    exact Schema.run_withNullable_of_missing hplan hnullablePlan hearlierPlan hlaterPlan hsplit
  · -- The document is read in the same way, whatever the plan is.
    intro document front other rest cause hdocument hother
    exact Schema.run_of_faulty hnullablePlan hdocument hother

/-- Finds no node. -/
def noNode : PathEvaluator := fun _ _ => .ok none

theorem nullable_years_only_forgive_absence :
    petSchema.assemble = .ok petPlan ∧
    ⟨"years", ⟨.scalar (.integer .bits32), false⟩, some "/p/@y"⟩ ∈ petSchema.properties ∧
    petPlan.run firstAttribute .standard (.ofBytes (Utf8.encode "<p y='3'/>")) = .ok petRecord ∧
    petPlan.run noNode .standard (.ofBytes (Utf8.encode "<p/>")) =
      .error (.missingNode "years" "/p/@y") ∧
    ∃ (nullablePlan laterPlan : Plan) (front : Record),
      (petSchema.withNullable "years").assemble = .ok nullablePlan ∧
      nullablePlan.run firstAttribute .standard (.ofBytes (Utf8.encode "<p y='3'/>")) =
        .ok petRecord ∧
      nullablePlan.run noNode .standard (.ofBytes (Utf8.encode "<p/>")) =
        (laterPlan.run noNode .standard (.ofBytes (Utf8.encode "<p/>"))).map (fun rest =>
          ⟨"Pet", front.fields ++ ("years", .null) :: rest.fields⟩) ∧
      nullablePlan.run firstAttribute .standard (.ofBytes (Utf8.encode "<p y='x'/>")) =
        .error (.coercion "years" "/p/@y" "x" (.integer .invalidDigit)) := by
  have hplan : petSchema.assemble = .ok petPlan := by rfl
  have hyears : ⟨"years", ⟨.scalar (.integer .bits32), false⟩, some "/p/@y"⟩ ∈
      petSchema.properties := List.mem_cons_self
  have hrecord :
      petPlan.run firstAttribute .standard (.ofBytes (Utf8.encode "<p y='3'/>")) =
        .ok petRecord := by cbv
  have hmissing :
      petPlan.run noNode .standard (.ofBytes (Utf8.encode "<p/>")) =
        .error (.missingNode "years" "/p/@y") := by cbv
  have hdocument :
      (petFactory.readDocument (.ofBytes (Utf8.encode "<p y='x'/>"))).1 = .ok unreadablePet := by
    cbv
  rcases nullable_property_only_forgives_absence hplan hyears with
    ⟨_, _, nullablePlan, _, laterPlan, _, _, hnullablePlan, _, _, hruns⟩
  have hkept := (hruns firstAttribute .standard (.ofBytes (Utf8.encode "<p y='3'/>"))).1
  have hforgiven := (hruns noNode .standard (.ofBytes (Utf8.encode "<p/>"))).2.1
  have hfaulty := (hruns firstAttribute .standard (.ofBytes (Utf8.encode "<p y='x'/>"))).2.2
  have hfound : ∀ path,
      petPlan.run firstAttribute .standard (.ofBytes (Utf8.encode "<p y='3'/>")) ≠
        .error (.missingNode "years" path) := by
    intro path hmissingYears
    rw [hrecord] at hmissingYears
    cases hmissingYears
  have hsame := hkept hfound
  rcases hforgiven _ hmissing with ⟨front, _, hlater⟩
  rcases hfaulty unreadablePet [] _ _ _ hdocument rfl
    (@Property.Faulty.text _ _ _ _ (.attribute 1 0) _ rfl rfl (by rfl)) with
    hcause | ⟨_, hearlier, _⟩
  · exact ⟨hplan, hyears, hrecord, hmissing, nullablePlan, laterPlan, front, hnullablePlan,
      hsame.trans hrecord, hlater, hcause⟩
  · rcases hearlier.exists_blamed with ⟨_, hnone, _⟩
    cases hnone

end RecordExtraction
