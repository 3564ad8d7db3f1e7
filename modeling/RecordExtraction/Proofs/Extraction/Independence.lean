import Mathlib
import RecordExtraction.Proofs.Extraction.TypedRecords

/-!
# Properties are extracted independently

A property is the same in a document whichever other properties its schema has, and in whatever
order they are declared.  So a schema with some of the properties of another one, in any order,
yields the values that the other one yields.  A construction that fails on a document fails at the
first property that cannot be extracted on its own, and later properties have no influence.
-/

namespace RecordExtraction

open Locator Markup

/-! ## Extraction on its own -/

/-- What a property is in a document when nothing else is extracted, or why it is nothing. -/
def Property.extract (property : Property) (evaluator : PathEvaluator) (document : Document) :
    Except ConstructError FieldValue :=
  (property.resolve 0).extract evaluator document

/-- The failure is about the property and says how it was located. -/
inductive ConstructError.Blames (property : Property) : ConstructError → Prop
  | pathEvaluation (cause : PathError) :
      Blames property (.pathEvaluation property.name property.locator cause)
  | missingNode : Blames property (.missingNode property.name property.locator)
  | coercion (text : String) (cause : CoercionError) :
      Blames property (.coercion property.name property.locator text cause)

/-- The cause is why the first of the properties that cannot be extracted on its own cannot be. -/
def FirstFailure (evaluator : PathEvaluator) (document : Document) (properties : List Property)
    (cause : ConstructError) : Prop :=
  ∃ before property after,
    properties = before ++ property :: after ∧
    (∀ earlier ∈ before, ∃ value, earlier.extract evaluator document = .ok value) ∧
    property.extract evaluator document = .error cause ∧
    cause.Blames property

section

variable {property : Property} {step : Step} {kind : ScalarKind} {evaluator : PathEvaluator}
  {document : Document} {value : FieldValue} {cause : ConstructError}

theorem Property.extract_of_declared (hdeclared : property.type.kind = .scalar kind) :
    property.extract evaluator document =
      match evaluator property.locator document with
      | .error cause => .error (.pathEvaluation property.name property.locator cause)
      | .ok none =>
          if property.type.nullable then .ok .null
          else .error (.missingNode property.name property.locator)
      | .ok (some item) =>
          match coerce kind (item.text document) with
          | .ok value => .ok value
          | .error cause =>
              .error (.coercion property.name property.locator (item.text document) cause) := by
  simp only [Property.extract, Step.extract, Property.resolve, DeclaredType.strategy, hdeclared]
  split
  · next found hfound =>
      rw [hfound]
      cases found with
      | none =>
          simp only [Step.read, DeclaredType.guard]
          cases property.type.nullable <;> rfl
      | some item => rfl
  · next cause hfound => rw [hfound]

/-- The place of a step in its plan does not matter. -/
theorem Step.Extracts.extract_eq (hstep : step.Extracts property kind) :
    step.extract evaluator document = property.extract evaluator document := by
  have hstrategy : (property.resolve 0).strategy = .extract kind property.type.guard := by
    simp only [Property.resolve, DeclaredType.strategy, hstep.declared]
  have hread : ∀ found,
      step.read kind property.type.guard document found =
        (property.resolve 0).read kind property.type.guard document found := by
    intro found
    cases found <;> simp [Step.read, hstep.name, hstep.locator, Property.resolve]
  simp only [Property.extract, Step.extract, hstep.strategy, hstrategy, hstep.name, hstep.locator,
    hread]
  rfl

theorem Step.Extracts.blames_of_extract_eq_error (hstep : step.Extracts property kind)
    (herror : step.extract evaluator document = .error cause) :
    cause.Blames property := by
  simp only [Step.extract, hstep.strategy, hstep.name, hstep.locator] at herror
  cases hfound : evaluator property.locator document with
  | error e =>
      simp only [hfound, Except.error.injEq] at herror
      subst cause
      exact .pathEvaluation e
  | ok found =>
      simp only [hfound, Step.read, hstep.name, hstep.locator] at herror
      cases found with
      | none =>
          cases hguard : property.type.guard with
          | nullable => simp [hguard] at herror
          | required =>
              simp only [hguard, Except.error.injEq] at herror
              subst cause
              exact .missingNode
      | some item =>
          cases hcoerce : coerce kind (item.text document) with
          | ok value => simp [hcoerce] at herror
          | error e =>
              simp only [hcoerce, Except.error.injEq] at herror
              subst cause
              exact .coercion _ e

end

/-- Steps are taken up to the first one whose property cannot be extracted. -/
theorem extractAll_eq_error_iff
    {evaluator : PathEvaluator} {document : Document} {properties : List Property}
    {steps : List Step} {cause : ConstructError}
    (hsteps :
      List.Forall₂ (fun property step => ∃ kind, step.Extracts property kind) properties steps) :
    extractAll evaluator document steps = .error cause ↔
      FirstFailure evaluator document properties cause := by
  induction hsteps with
  | nil => simp [extractAll, FirstFailure]
  | @cons property step properties steps hstep _ ih =>
      obtain ⟨kind, hstep⟩ := hstep
      simp only [extractAll, bind_eq_error_iff, reduceCtorEq, and_false, exists_false, or_false, ih]
      constructor
      · rintro (hfirst | ⟨value, hvalue, before, failing, after, rfl, hbefore, hfailing, hblames⟩)
        · exact ⟨[], property, properties, rfl, List.forall_mem_nil _, hstep.extract_eq ▸ hfirst,
            hstep.blames_of_extract_eq_error hfirst⟩
        · refine ⟨property :: before, failing, after, rfl, ?_, hfailing, hblames⟩
          intro earlier hearlier
          rcases List.mem_cons.mp hearlier with rfl | hearlier
          · exact ⟨value, hstep.extract_eq ▸ hvalue⟩
          · exact hbefore earlier hearlier
      · rintro ⟨before, failing, after, hsplit, hbefore, hfailing, hblames⟩
        rw [hstep.extract_eq]
        cases before with
        | nil =>
            obtain ⟨rfl, rfl⟩ := List.cons.inj hsplit
            exact .inl hfailing
        | cons first before =>
            obtain ⟨rfl, rfl⟩ := List.cons.inj hsplit
            obtain ⟨value, hvalue⟩ := hbefore _ List.mem_cons_self
            refine .inr ⟨value, hvalue, before, failing, after, rfl, ?_, hfailing, hblames⟩
            intro earlier hearlier
            exact hbefore earlier (List.mem_cons_of_mem _ hearlier)

/-! ## Schemas with some of the properties -/

theorem exists_steps_of_declared {index : Nat} {properties : List Property}
    (hdeclared : ∀ property ∈ properties, ∃ kind, property.type.kind = .scalar kind) :
    ∃ steps, resolveAll index properties = .ok steps := by
  refine ⟨_, resolveAll_eq_ok_iff.mpr ⟨?_, rfl⟩⟩
  intro property hproperty
  exact DeclaredType.isSupported_iff.mpr (hdeclared property hproperty)

namespace Schema

variable {schema other : Schema} {plan otherPlan : Plan} {evaluator : PathEvaluator}
  {options : InputOptions} {source : Source} {document : Document} {record : Record}

/-- A schema has a plan exactly when the types of all its properties are supported. -/
theorem exists_plan_iff :
    (∃ plan, schema.assemble = .ok plan) ↔
      ∀ property ∈ schema.properties, ∃ kind, property.type.kind = .scalar kind := by
  constructor
  · rintro ⟨plan, hplan⟩ property hproperty
    obtain ⟨-, hsteps⟩ := steps_of_assemble hplan
    obtain ⟨step, -, kind, hstep⟩ := exists_mem_of_forall₂ hsteps hproperty
    exact ⟨kind, hstep.declared⟩
  · intro hdeclared
    obtain ⟨steps, hsteps⟩ := exists_steps_of_declared hdeclared
    exact ⟨⟨schema.typeName, steps⟩, map_eq_ok_iff.mpr ⟨steps, hsteps, rfl⟩⟩

/-- A record has what a schema with some of the properties needs. -/
theorem Yields.exists_of_subset (hyields : schema.Yields evaluator document record)
    (hsubset : other.properties ⊆ schema.properties) :
    ∃ otherRecord,
      other.Yields evaluator document otherRecord ∧
      ∀ property ∈ other.properties, ∃ value,
        record.get? property.name = some value ∧
        otherRecord.get? property.name = some value := by
  let fields := other.properties.map fun property =>
    (property.name, (record.get? property.name).getD .null)
  have hfields :
      List.Forall₂
        (fun property field => field.1 = property.name ∧ property.Holds evaluator document field.2)
        other.properties fields := by
    refine List.forall₂_map_right_iff.mpr (List.forall₂_same.mpr ?_)
    intro property hproperty
    obtain ⟨value, hvalue, hholds⟩ := hyields.get? (hsubset hproperty)
    simpa [hvalue] using hholds
  have hother : other.Yields evaluator document ⟨other.typeName, fields⟩ := ⟨rfl, hfields⟩
  refine ⟨_, hother, ?_⟩
  intro property hproperty
  obtain ⟨value, hvalue, -⟩ := hyields.get? (hsubset hproperty)
  refine ⟨value, hvalue, Record.get?_eq_some_of_mem hother.nodup_names ?_⟩
  exact List.mem_map.mpr ⟨property, hproperty, by rw [hvalue, Option.getD_some]⟩

/-- What goes wrong with a document that could be read is what goes wrong with a property. -/
theorem constructFrom_eq_error_iff (hplan : schema.assemble = .ok plan) {cause : ConstructError}
    (hdocument : ((Factory.mk plan evaluator options).readDocument source).1 = .ok document) :
    ((Factory.mk plan evaluator options).constructFrom source).outcome = .error cause ↔
      FirstFailure evaluator document schema.properties cause := by
  obtain ⟨-, hsteps⟩ := steps_of_assemble hplan
  change Factory.outcome _ (Factory.readDocument _ source).1 = _ ↔ _
  simp only [hdocument, Factory.outcome, Factory.realize, bind_eq_error_iff, reduceCtorEq,
    and_false, exists_false, or_false, extractAll_eq_error_iff hsteps]

/-- A schema with some of the properties constructs a record wherever the other schema does. -/
theorem exists_record_of_subset (hplan : schema.assemble = .ok plan)
    (hotherPlan : other.assemble = .ok otherPlan)
    (hsubset : other.properties ⊆ schema.properties)
    (hrecord :
      ((Factory.mk plan evaluator options).constructFrom source).outcome = .ok record) :
    ∃ otherRecord,
      ((Factory.mk otherPlan evaluator options).constructFrom source).outcome = .ok otherRecord ∧
      otherRecord.typeName = other.typeName ∧
      otherRecord.names = other.properties.map Property.name ∧
      ∀ property ∈ other.properties, ∃ value,
        record.get? property.name = some value ∧
        otherRecord.get? property.name = some value := by
  obtain ⟨document, hdocument, hyields⟩ := (constructFrom_eq_ok_iff hplan).mp hrecord
  obtain ⟨otherRecord, hother, hvalues⟩ := hyields.exists_of_subset hsubset
  -- The document is read in the same way, whatever the plan is.
  have houtcome := (constructFrom_eq_ok_iff hotherPlan).mpr ⟨document, hdocument, hother⟩
  exact ⟨otherRecord, houtcome, hother.typeName, hother.names, hvalues⟩

end Schema

/-- Whatever evaluates the locators: let a schema have a plan, and another schema some of its
properties, in any order.  Then the other schema has a plan, too.  Where the first schema constructs
a record, the other one constructs a record that has the same values for its properties, in their
order.  Where the first one fails on a document that could be read, it fails at the first of its
properties that cannot be extracted on its own, and another order of all properties fails, too. -/
theorem properties_extractIndependently {schema other : Schema} {plan : Plan}
    (hplan : schema.assemble = .ok plan)
    (hproperties : other.properties.Subperm schema.properties)
    (evaluator : PathEvaluator) (options : InputOptions) (source : Source) :
    ∃ otherPlan, other.assemble = .ok otherPlan ∧
      (∀ record,
        ((Factory.mk plan evaluator options).constructFrom source).outcome = .ok record →
          ∃ otherRecord,
            ((Factory.mk otherPlan evaluator options).constructFrom source).outcome =
              .ok otherRecord ∧
            otherRecord.typeName = other.typeName ∧
            otherRecord.names = other.properties.map Property.name ∧
            ∀ property ∈ other.properties, ∃ value,
              record.get? property.name = some value ∧
              otherRecord.get? property.name = some value) ∧
      ∀ document,
        ((Factory.mk plan evaluator options).readDocument source).1 = .ok document →
          (∀ cause,
            ((Factory.mk plan evaluator options).constructFrom source).outcome = .error cause ↔
              FirstFailure evaluator document schema.properties cause) ∧
          (other.properties.Perm schema.properties →
            ∀ cause,
              ((Factory.mk plan evaluator options).constructFrom source).outcome =
                  .error cause →
                ∃ otherCause,
                  ((Factory.mk otherPlan evaluator options).constructFrom source).outcome =
                    .error otherCause) := by
  have hsubset := hproperties.subset
  have hdeclared := Schema.exists_plan_iff.mp ⟨plan, hplan⟩
  obtain ⟨otherPlan, hotherPlan⟩ :=
    Schema.exists_plan_iff.mpr fun property hproperty => hdeclared property (hsubset hproperty)
  refine ⟨otherPlan, hotherPlan, ?_, ?_⟩
  · intro record hrecord
    exact Schema.exists_record_of_subset hplan hotherPlan hsubset hrecord
  · intro document hdocument
    refine ⟨fun cause => Schema.constructFrom_eq_error_iff hplan hdocument, ?_⟩
    intro hperm cause hcause
    cases hother : ((Factory.mk otherPlan evaluator options).constructFrom source).outcome with
    | error otherCause => exact ⟨otherCause, rfl⟩
    | ok otherRecord =>
        obtain ⟨record, hrecord, -⟩ :=
          Schema.exists_record_of_subset hotherPlan hplan hperm.symm.subset hother
        rw [hrecord] at hcause
        cases hcause

/-- The properties of a pet in the other order. -/
def daysFirstSchema : Schema where
  typeName := "Pet"
  properties :=
    [⟨"days", ⟨.scalar .text, true⟩, none⟩,
      ⟨"years", ⟨.scalar (.integer .bits32), false⟩, some "/p/@y"⟩]
  accepted := by decide

/-- An element whose attribute is not a number. -/
def unreadablePet : Document :=
  .ofContent (.element ⟨none, "p", [⟨none, "y", "x"⟩], {}⟩ .nil .nil)

theorem daysFirst_extractsIndependently :
    petSchema.assemble = .ok petPlan ∧
    daysFirstSchema.properties.Subperm petSchema.properties ∧
    daysFirstSchema.properties.Perm petSchema.properties ∧
    (petFactory.constructFrom (.ofBytes (Utf8.encode "<p y='3'/>"))).outcome = .ok petRecord ∧
    (petFactory.readDocument (.ofBytes (Utf8.encode "<p y='x'/>"))).1 = .ok unreadablePet ∧
    FirstFailure firstAttribute unreadablePet petSchema.properties
      (.coercion "years" "/p/@y" "x" (.integer .invalidDigit)) ∧
    ∃ otherPlan otherRecord otherCause,
      daysFirstSchema.assemble = .ok otherPlan ∧
      ((Factory.mk otherPlan firstAttribute .standard).constructFrom
        (.ofBytes (Utf8.encode "<p y='3'/>"))).outcome = .ok otherRecord ∧
      otherRecord.names = ["days", "years"] ∧
      otherRecord.get? "years" = some petYears ∧
      ((Factory.mk otherPlan firstAttribute .standard).constructFrom
        (.ofBytes (Utf8.encode "<p y='x'/>"))).outcome = .error otherCause := by
  have hplan : petSchema.assemble = .ok petPlan := by rfl
  have hperm : daysFirstSchema.properties.Perm petSchema.properties := .swap _ _ _
  have hrecord :
      (petFactory.constructFrom (.ofBytes (Utf8.encode "<p y='3'/>"))).outcome =
        .ok petRecord := by cbv
  have hdocument :
      (petFactory.readDocument (.ofBytes (Utf8.encode "<p y='x'/>"))).1 = .ok unreadablePet := by
    cbv
  have hcause :
      (petFactory.constructFrom (.ofBytes (Utf8.encode "<p y='x'/>"))).outcome =
        .error (.coercion "years" "/p/@y" "x" (.integer .invalidDigit)) := by cbv
  have hindependent := properties_extractIndependently hplan hperm.subperm firstAttribute .standard
  obtain ⟨otherPlan, hotherPlan, hrecords, -⟩ := hindependent (.ofBytes (Utf8.encode "<p y='3'/>"))
  obtain ⟨samePlan, hsamePlan, -, hfailures⟩ := hindependent (.ofBytes (Utf8.encode "<p y='x'/>"))
  obtain rfl : otherPlan = samePlan := by rwa [hotherPlan, Except.ok.injEq] at hsamePlan
  obtain ⟨otherRecord, hotherRecord, -, hnames, hvalues⟩ := hrecords _ hrecord
  obtain ⟨value, hvalue, hotherValue⟩ := hvalues _ (List.mem_cons_of_mem _ List.mem_cons_self)
  obtain rfl : petYears = value := Option.some.inj hvalue
  obtain ⟨hfirst, hreordered⟩ := hfailures _ hdocument
  obtain ⟨otherCause, hotherCause⟩ := hreordered hperm _ hcause
  exact ⟨hplan, hperm.subperm, hperm, hrecord, hdocument, (hfirst _).mp hcause, otherPlan,
    otherRecord, otherCause, hotherPlan, hotherRecord, hnames, hotherValue, hotherCause⟩

end RecordExtraction
