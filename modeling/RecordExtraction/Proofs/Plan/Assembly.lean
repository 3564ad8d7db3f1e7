import Mathlib
import RecordExtraction.Proofs.Extraction.TypedRecords
import RecordExtraction.Proofs.Plan.Listing

/-!
# Plans mirror their schemas

A schema has a plan when the types of all its properties are supported, and otherwise the first
property of another type is reported.  Each step of a plan stands where its property is declared and
says of it what is declared.  No step is of an unsupported type.  So a factory, which has a plan of
some schema, never comes to a step that it can not take.
-/

namespace RecordExtraction

open Markup

/-! ## Steps of a plan -/

/-- The step extracts the property that is declared at the index. -/
structure Step.Mirrors (step : Step) (index : Nat) (property : Property) : Prop where
  index : step.index = index
  name : step.property = property.name
  locator : step.locator = property.locator
  type : step.type = property.type
  strategy : ∃ kind, property.type.kind = .scalar kind ∧
    step.strategy = .extract kind (if property.type.nullable then .nullable else .required)

section

variable {schema : Schema} {plan : Plan} {property : Property} {step : Step}

theorem Property.mirrors_resolve (hsupported : property.type.isSupported = true) (index : Nat) :
    (property.resolve index).Mirrors index property := by
  rcases DeclaredType.isSupported_iff.mp hsupported with ⟨kind, hdeclared⟩
  refine ⟨rfl, rfl, rfl, rfl, kind, hdeclared, ?_⟩
  exact (Property.extracts_resolve hdeclared).strategy

theorem Step.Mirrors.isUnsupported_eq_false {index : Nat} (hmirrors : step.Mirrors index property) :
    step.isUnsupported = false := by
  rcases hmirrors.strategy with ⟨kind, _, hstrategy⟩
  rw [Step.isUnsupported, hstrategy, Strategy.isUnsupported]

namespace Schema

theorem length_steps_of_assemble (hplan : schema.assemble = .ok plan) :
    plan.steps.length = schema.properties.length := by
  rw [(assemble_eq_ok_iff.mp hplan).2, List.length_mapIdx]

theorem exists_mirror_of_assemble (hplan : schema.assemble = .ok plan) {index : Nat}
    (hproperty : schema.properties[index]? = some property) :
    ∃ step, plan.steps[index]? = some step ∧ step.Mirrors index property := by
  rcases assemble_eq_ok_iff.mp hplan with ⟨hsupported, hsteps⟩
  refine ⟨property.resolve index, ?_, ?_⟩
  · rw [hsteps, List.getElem?_mapIdx, hproperty]
    rfl
  · exact Property.mirrors_resolve (hsupported property (List.mem_of_getElem? hproperty)) index

theorem isUnsupported_of_assemble (hplan : schema.assemble = .ok plan) (hstep : step ∈ plan.steps) :
    step.isUnsupported = false := by
  rcases List.mem_iff_getElem?.mp hstep with ⟨index, hindex⟩
  have hlength : index < schema.properties.length := by
    rw [← length_steps_of_assemble hplan]
    exact (List.getElem?_eq_some_iff.mp hindex).1
  rcases exists_mirror_of_assemble hplan (List.getElem?_eq_getElem hlength) with
    ⟨other, hother, hmirrors⟩
  rw [hindex, Option.some.injEq] at hother
  rw [hother]
  exact hmirrors.isUnsupported_eq_false

end Schema

end

/-! ## Steps that a factory can not take -/

/-- The failure is that there is no way to take a step. -/
def ConstructError.IsUnsupported (cause : ConstructError) : Prop :=
  ∃ property typeName, cause = .unsupported property typeName

section

variable {evaluator : PathEvaluator} {document : Document} {cause : ConstructError} {step : Step}
  {steps : List Step} {factory : Factory}

theorem Step.not_isUnsupported_of_extract (hsupported : step.isUnsupported = false)
    (herror : step.extract evaluator document = .error cause) : ¬cause.IsUnsupported := by
  intro hunsupported
  rcases hunsupported with ⟨property, typeName, rfl⟩
  unfold extract at herror
  split at herror
  · next hstrategy =>
      rw [isUnsupported, hstrategy] at hsupported
      cases hsupported
  · split at herror
    · unfold read at herror
      dsimp only at herror
      split at herror <;> split at herror <;> cases herror
    · cases herror

/-- The run stops with what the last of its steps fails with. -/
theorem not_isUnsupported_of_extractAll (hsupported : ∀ step ∈ steps, step.isUnsupported = false)
    (herror : extractAll evaluator document steps = .error cause) : ¬cause.IsUnsupported := by
  induction steps with
  | nil => cases herror
  | cons step rest ih =>
      rw [List.forall_mem_cons] at hsupported
      rcases bind_eq_error_iff.mp herror with hfirst | ⟨value, _, hlater⟩
      · exact Step.not_isUnsupported_of_extract hsupported.1 hfirst
      · rcases bind_eq_error_iff.mp hlater with hrest | ⟨fields, _, hfields⟩
        · exact ih hsupported.2 hrest
        · cases hfields

theorem Factory.not_isUnsupported_of_outcome
    (hsupported : ∀ step ∈ factory.plan.steps, step.isUnsupported = false)
    {document : Except InputError Document} (herror : factory.outcome document = .error cause) :
    ¬cause.IsUnsupported := by
  cases document with
  | error fault =>
      cases herror
      intro hunsupported
      rcases hunsupported with ⟨_, _, hcause⟩
      cases hcause
  | ok document =>
      rcases bind_eq_error_iff.mp herror with hfields | ⟨fields, _, hrecord⟩
      · exact not_isUnsupported_of_extractAll hsupported hfields
      · cases hrecord

theorem Factory.not_isUnsupported_of_constructInto
    (hsupported : ∀ step ∈ factory.plan.steps, step.isUnsupported = false) {text : String}
    {parameters : List ParameterType}
    (herror : factory.constructInto text parameters = .error cause) : ¬cause.IsUnsupported := by
  rcases bind_eq_error_iff.mp herror with hconstruct | ⟨record, _, htake⟩
  · exact Factory.not_isUnsupported_of_outcome hsupported hconstruct
  · split at htake
    · cases htake
    · cases htake
      intro hunsupported
      rcases hunsupported with ⟨_, _, hcause⟩
      cases hcause

end

/-- A schema has a plan exactly when all its types are supported, and otherwise the first property
of another type is reported, with its type as it is shown.  The step at an index of the plan has
this index and the name, the locator and the type of the property there, reads a value of its kind
and guards it as its nullability says.  No step is of an unsupported type, the names of the nodes
are distinct, and the constructor gets the properties in their order.  So no factory with the plan,
whatever evaluates the locators and whatever the options are, comes to a step of an unsupported
type: no step fails for this reason in any document, and no construction does. -/
theorem assembled_plans_mirror_schemas (schema : Schema) :
    ((∃ plan, schema.assemble = .ok plan) ↔
      ∀ property ∈ schema.properties, property.type.isSupported = true) ∧
    (∀ problem, schema.assemble = .error problem ↔
      ∃ before property after,
        schema.properties = before ++ property :: after ∧
        (∀ earlier ∈ before, earlier.type.isSupported = true) ∧
        property.type.isSupported = false ∧
        problem = .unsupportedType property.name property.type.display) ∧
    ∀ plan, schema.assemble = .ok plan →
      plan.typeName = schema.typeName ∧
      plan.steps.length = schema.properties.length ∧
      (∀ (index : Nat) (property : Property), schema.properties[index]? = some property →
        ∃ step, plan.steps[index]? = some step ∧ step.Mirrors index property) ∧
      (∀ step ∈ plan.steps, step.isUnsupported = false) ∧
      (plan.steps.map Step.nodeBinding).Nodup ∧
      plan.arguments = schema.properties.map Property.name ∧
      ∀ factory : Factory, factory.plan = plan →
        (∀ step ∈ factory.plan.steps, ∀ document cause,
          step.extract factory.evaluator document = .error cause → ¬cause.IsUnsupported) ∧
        (∀ source cause,
          (factory.constructFrom source).outcome = .error cause → ¬cause.IsUnsupported) ∧
        ∀ text parameters cause,
          factory.constructInto text parameters = .error cause → ¬cause.IsUnsupported := by
  refine ⟨?_, fun problem => Schema.assemble_eq_error_iff, ?_⟩
  · constructor
    · intro hplan
      rcases hplan with ⟨plan, hplan⟩
      exact (Schema.assemble_eq_ok_iff.mp hplan).1
    · intro hsupported
      exact ⟨_, Schema.assemble_eq_ok_iff.mpr ⟨hsupported, rfl⟩⟩
  · intro plan hplan
    have hsupported : ∀ step ∈ plan.steps, step.isUnsupported = false := by
      intro step hstep
      exact Schema.isUnsupported_of_assemble hplan hstep
    refine ⟨(Schema.steps_of_assemble hplan).1, Schema.length_steps_of_assemble hplan, ?_,
      hsupported, Schema.nodup_nodeBindings hplan, Schema.arguments_of_assemble hplan, ?_⟩
    · intro index property hproperty
      exact Schema.exists_mirror_of_assemble hplan hproperty
    · intro factory hfactory
      rw [← hfactory] at hsupported
      refine ⟨?_, ?_, ?_⟩
      · intro step hstep document cause herror
        exact Step.not_isUnsupported_of_extract (hsupported step hstep) herror
      · intro source cause herror
        exact Factory.not_isUnsupported_of_outcome hsupported herror
      · intro text parameters cause herror
        exact Factory.not_isUnsupported_of_constructInto hsupported herror

/-- Two properties of unsupported types after one of a supported type. -/
def taggedSchema : Schema where
  typeName := "Tagged"
  properties :=
    [⟨"code", ⟨.scalar (.integer .bits32), false⟩, none⟩,
      ⟨"tags", ⟨.unsupported "Vec<u8>", true⟩, none⟩,
      ⟨"rest", ⟨.unsupported "Map", false⟩, none⟩]
  accepted := by decide

/-- What is wrong with years that are no number. -/
def unreadableYears : ConstructError := .coercion "years" "/p/@y" "x" (.integer .invalidDigit)

theorem petPlan_mirrors_petSchema_and_tags_reported :
    petSchema.assemble = .ok petPlan ∧
    (∃ step, petPlan.steps[1]? = some step ∧ step.Mirrors 1 ⟨"days", ⟨.scalar .text, true⟩, none⟩) ∧
    petFactory.plan = petPlan ∧
    (petFactory.constructFrom (.ofBytes (Utf8.encode "<p y='x'/>"))).outcome =
      .error unreadableYears ∧
    petFactory.constructInto "<p y='x'/>" [] = .error unreadableYears ∧
    ¬unreadableYears.IsUnsupported ∧
    taggedSchema.assemble = .error (.unsupportedType "tags" "Option<Vec<u8>>") ∧
    ¬∀ property ∈ taggedSchema.properties, property.type.isSupported = true := by
  rcases assembled_plans_mirror_schemas petSchema with ⟨_, _, hmirrors⟩
  rcases assembled_plans_mirror_schemas taggedSchema with ⟨hassembles, hreported, _⟩
  have hplan : petSchema.assemble = .ok petPlan := by rfl
  have hconstruct : (petFactory.constructFrom (.ofBytes (Utf8.encode "<p y='x'/>"))).outcome =
      .error unreadableYears := by cbv
  have hconstructInto : petFactory.constructInto "<p y='x'/>" [] = .error unreadableYears := by
    cbv
  have htags : taggedSchema.assemble = .error (.unsupportedType "tags" "Option<Vec<u8>>") := by
    rw [hreported]
    exact ⟨[_], _, [_], rfl, by decide, rfl, by decide⟩
  rcases hmirrors petPlan hplan with ⟨_, _, hsteps, _, _, _, hfactories⟩
  rcases hfactories petFactory rfl with ⟨_, hconstructions, _⟩
  refine ⟨hplan, hsteps 1 _ rfl, rfl, hconstruct, hconstructInto, hconstructions _ _ hconstruct,
    htags, ?_⟩
  intro hsupported
  rcases hassembles.mpr hsupported with ⟨plan, hassembled⟩
  rw [htags] at hassembled
  cases hassembled

end RecordExtraction
