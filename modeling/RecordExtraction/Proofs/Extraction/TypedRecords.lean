import Mathlib
import RecordExtraction.Extraction.Construct
import RecordExtraction.Proofs.Plan.Resolution

/-!
# Constructed records fit their schemas

The fields of a record are the properties of its schema, in the order of their declaration.  A
property is null if it is nullable and there is no node for it; otherwise its value is read from the
text of its node and is of the declared kind.  So a constructor whose parameters are of the declared
types takes all values of the record.
-/

namespace RecordExtraction

open Locator Markup

/-! ## Values of properties -/

theorem kind_of_coerce {kind : ScalarKind} {text : String} {value : FieldValue}
    (hvalue : coerce kind text = .ok value) :
    value.kind? = some kind := by
  cases kind with
  | text =>
      cases hvalue
      rfl
  | boolean =>
      simp only [coerce, readBoolean] at hvalue
      split at hvalue
      · cases hvalue
        rfl
      · split at hvalue
        · cases hvalue
          rfl
        · cases hvalue
  | integer width =>
      simp only [coerce, readInteger] at hvalue
      split at hvalue
      · cases hvalue
        rfl
      · cases hvalue
  | float precision =>
      simp only [coerce, readFloat] at hvalue
      split at hvalue
      · cases hvalue
      · split at hvalue
        · cases hvalue
          rfl
        · cases hvalue

/-- The value is what the property is in the document. -/
structure Property.Holds (property : Property) (evaluator : PathEvaluator) (document : Document)
    (value : FieldValue) : Prop where
  null_iff :
    value = .null ↔
      property.type.nullable = true ∧ evaluator property.locator document = .ok none
  coerced :
    value ≠ .null →
      ∃ kind item,
        property.type.kind = .scalar kind ∧
        evaluator property.locator document = .ok (some item) ∧
        coerce kind (item.text document) = .ok value ∧
        value.kind? = some kind

namespace Property

variable {property : Property} {evaluator : PathEvaluator} {document : Document}
  {value : FieldValue}

theorem not_holds_of_error {cause : PathError}
    (hfound : evaluator property.locator document = .error cause) :
    ¬property.Holds evaluator document value := by
  intro hholds
  by_cases hnull : value = .null
  · have habsent := (hholds.null_iff.mp hnull).2
    simp [hfound] at habsent
  · obtain ⟨_, item, _, hitem, _⟩ := hholds.coerced hnull
    simp [hfound] at hitem

theorem holds_iff_of_absent (hfound : evaluator property.locator document = .ok none) :
    property.Holds evaluator document value ↔ property.type.nullable = true ∧ value = .null := by
  constructor
  · intro hholds
    by_cases hnull : value = .null
    · exact ⟨(hholds.null_iff.mp hnull).1, hnull⟩
    · obtain ⟨_, item, _, hitem, _⟩ := hholds.coerced hnull
      simp [hfound] at hitem
  · rintro ⟨hnullable, rfl⟩
    exact ⟨by simp [hnullable, hfound], fun hne => absurd rfl hne⟩

theorem holds_iff_of_found {kind : ScalarKind} {item : Item}
    (hdeclared : property.type.kind = .scalar kind)
    (hfound : evaluator property.locator document = .ok (some item)) :
    property.Holds evaluator document value ↔ coerce kind (item.text document) = .ok value := by
  constructor
  · intro hholds
    have hnull : value ≠ .null := by
      intro hnull
      have habsent := (hholds.null_iff.mp hnull).2
      simp [hfound] at habsent
    obtain ⟨other, found, hother, hitem, hcoerce, -⟩ := hholds.coerced hnull
    rw [hdeclared, TypeKind.scalar.injEq] at hother
    rw [hfound, Except.ok.injEq, Option.some.injEq] at hitem
    rwa [hother, hitem]
  · intro hcoerce
    have hkind := kind_of_coerce hcoerce
    have hnull : value ≠ .null := by
      rintro rfl
      cases hkind
    refine ⟨?_, fun _ => ⟨kind, item, hdeclared, hfound, hcoerce, hkind⟩⟩
    simp [hnull, hfound]

end Property

theorem Step.Extracts.extract_eq_ok_iff
    {step : Step} {property : Property} {kind : ScalarKind}
    {evaluator : PathEvaluator} {document : Document} {value : FieldValue}
    (hstep : step.Extracts property kind) :
    step.extract evaluator document = .ok value ↔ property.Holds evaluator document value := by
  simp only [Step.extract, hstep.strategy, hstep.locator]
  cases hfound : evaluator property.locator document with
  | error cause => simp [Property.not_holds_of_error hfound]
  | ok found =>
      cases found with
      | none =>
          rw [Property.holds_iff_of_absent hfound]
          cases hnullable : property.type.nullable <;>
            simp [Step.read, DeclaredType.guard, hnullable, eq_comm]
      | some item =>
          rw [Property.holds_iff_of_found hstep.declared hfound]
          simp only [Step.read]
          cases coerce kind (item.text document) <;> simp

/-- The fields that the steps of a plan extract are those that the properties are in the document,
in the order of the properties. -/
theorem extractAll_eq_ok_iff
    {evaluator : PathEvaluator} {document : Document} {properties : List Property}
    {steps : List Step} {fields : List (String × FieldValue)}
    (hsteps :
      List.Forall₂ (fun property step => ∃ kind, step.Extracts property kind) properties steps) :
    extractAll evaluator document steps = .ok fields ↔
      List.Forall₂
        (fun property field => field.1 = property.name ∧ property.Holds evaluator document field.2)
        properties fields := by
  induction hsteps generalizing fields with
  | nil => simp [extractAll, eq_comm]
  | cons hstep _ ih =>
      obtain ⟨kind, hstep⟩ := hstep
      simp only [extractAll, bind_eq_ok_iff, Except.ok.injEq, hstep.extract_eq_ok_iff, hstep.name,
        ih, List.forall₂_cons_left_iff]
      constructor
      · rintro ⟨value, hvalue, later, hlater, rfl⟩
        exact ⟨_, later, ⟨rfl, hvalue⟩, hlater, rfl⟩
      · rintro ⟨⟨name, value⟩, later, ⟨rfl, hvalue⟩, hlater, rfl⟩
        exact ⟨value, hvalue, later, hlater, rfl⟩

/-! ## Records -/

theorem Record.get?_eq_some_of_mem {record : Record} {name : String} {value : FieldValue}
    (hnodup : record.names.Nodup) (hmem : (name, value) ∈ record.fields) :
    record.get? name = some value := by
  obtain ⟨typeName, fields⟩ := record
  simp only [names, get?] at hnodup hmem ⊢
  induction fields with
  | nil => cases hmem
  | cons field rest ih =>
      rw [List.map_cons, List.nodup_cons] at hnodup
      rcases List.mem_cons.mp hmem with rfl | hmem
      · simp
      · have hne : field.1 ≠ name := by
          rintro rfl
          exact hnodup.1 (List.mem_map.mpr ⟨_, hmem, rfl⟩)
        rw [List.find?_cons_of_neg (by simpa using hne)]
        exact ih hnodup.2 hmem

/-- The record holds what the properties of the schema are in the document, in the order of their
declaration. -/
structure Schema.Yields (schema : Schema) (evaluator : PathEvaluator) (document : Document)
    (record : Record) : Prop where
  typeName : record.typeName = schema.typeName
  fields :
    List.Forall₂
      (fun property field => field.1 = property.name ∧ property.Holds evaluator document field.2)
      schema.properties record.fields

namespace Schema.Yields

variable {schema : Schema} {evaluator : PathEvaluator} {document : Document} {record : Record}

theorem names (h : schema.Yields evaluator document record) :
    record.names = schema.properties.map Property.name := by
  refine (map_eq_of_forall₂ h.fields ?_).symm
  intro property field hfield
  exact hfield.1.symm

theorem nodup_names (h : schema.Yields evaluator document record) : record.names.Nodup := by
  rw [h.names]
  exact schema.nodup_names

theorem get? (h : schema.Yields evaluator document record) {property : Property}
    (hproperty : property ∈ schema.properties) :
    ∃ value,
      record.get? property.name = some value ∧ property.Holds evaluator document value := by
  obtain ⟨⟨name, value⟩, hfield, rfl, hholds⟩ := exists_mem_of_forall₂ h.fields hproperty
  exact ⟨value, Record.get?_eq_some_of_mem h.nodup_names hfield, hholds⟩

end Schema.Yields

/-- Running the plan of a schema gives a record exactly when the source holds a document that the
schema yields the record from. -/
theorem Schema.constructFrom_eq_ok_iff {schema : Schema} {plan : Plan}
    (hplan : schema.assemble = .ok plan) {evaluator : PathEvaluator} {options : InputOptions}
    {source : Source} {record : Record} :
    ((Factory.mk plan evaluator options).constructFrom source).outcome = .ok record ↔
      ∃ document,
        ((Factory.mk plan evaluator options).readDocument source).1 = .ok document ∧
        schema.Yields evaluator document record := by
  obtain ⟨htypeName, hsteps⟩ := steps_of_assemble hplan
  change Factory.outcome _ (Factory.readDocument _ source).1 = _ ↔ _
  cases (Factory.readDocument ⟨plan, evaluator, options⟩ source).1 with
  | error cause => simp [Factory.outcome]
  | ok document =>
      simp only [Factory.outcome, Factory.realize, bind_eq_ok_iff, extractAll_eq_ok_iff hsteps,
        Except.ok.injEq, exists_eq_left', htypeName]
      constructor
      · rintro ⟨fields, hfields, rfl⟩
        exact ⟨rfl, hfields⟩
      · rintro ⟨hname, hfields⟩
        exact ⟨record.fields, hfields, by rw [← hname]⟩

/-! ## Constructors -/

/-- The type of the parameter that takes values of a declared type. -/
def DeclaredType.parameter? (type : DeclaredType) : Option ParameterType :=
  match type.kind with
  | .scalar kind => some (if type.nullable then .option (.scalar kind) else .scalar kind)
  | .unsupported _ => none

theorem DeclaredType.exists_parameter {type : DeclaredType} {kind : ScalarKind}
    (hkind : type.kind = .scalar kind) :
    ∃ parameter, type.parameter? = some parameter := by
  simp only [parameter?, hkind]
  exact ⟨_, rfl⟩

/-- The types of the parameters of a constructor that takes one value for each property. -/
def Schema.parameters? (schema : Schema) : Option (List ParameterType) :=
  schema.properties.mapM fun property => property.type.parameter?

/-- The value that an argument was made of. -/
def Argument.content : Argument → FieldValue
  | value content => content
  | absent => .null
  | present inner => inner.content

theorem ParameterType.accept?_of_holds
    {parameter : ParameterType} {property : Property} {evaluator : PathEvaluator}
    {document : Document} {value : FieldValue}
    (hparameter : property.type.parameter? = some parameter)
    (hholds : property.Holds evaluator document value) :
    ∃ argument, parameter.accept? value = some argument ∧ argument.content = value := by
  unfold DeclaredType.parameter? at hparameter
  split at hparameter
  · next kind hdeclared =>
      rw [Option.some.injEq] at hparameter
      subst parameter
      by_cases hnull : value = .null
      · obtain ⟨hnullable, -⟩ := hholds.null_iff.mp hnull
        rw [if_pos hnullable, hnull]
        exact ⟨.absent, rfl, rfl⟩
      · obtain ⟨other, _, hother, -, -, hkind⟩ := hholds.coerced hnull
        rw [hdeclared, TypeKind.scalar.injEq] at hother
        subst other
        cases property.type.nullable with
        | false => exact ⟨.value value, if_pos hkind, rfl⟩
        | true =>
            refine ⟨.present (.value value), ?_, rfl⟩
            simp [accept?, FieldValue.isNull, hkind]
  · cases hparameter

theorem Arguments.takeAll_eq_ok
    {parameters : List ParameterType} {typeName : String} {consumed : Nat}
    {fields : List (String × FieldValue)}
    (haccepted :
      List.Forall₂
        (fun parameter field =>
          ∃ argument, parameter.accept? field.2 = some argument ∧ argument.content = field.2)
        parameters fields) :
    ∃ arguments,
      (Arguments.mk typeName consumed fields).takeAll parameters = .ok arguments ∧
      arguments.map Argument.content = fields.map Prod.snd := by
  induction haccepted generalizing consumed with
  | nil => exact ⟨[], rfl, rfl⟩
  | cons hfirst _ ih =>
      obtain ⟨argument, haccept, hcontent⟩ := hfirst
      obtain ⟨later, hlater, hcontents⟩ := @ih (consumed + 1)
      refine ⟨argument :: later, ?_, by simp [hcontent, hcontents]⟩
      simp only [takeAll, next, haccept, hlater]
      rfl

theorem Schema.exists_parameters {schema : Schema} {plan : Plan}
    (hplan : schema.assemble = .ok plan) :
    ∃ parameters, schema.parameters? = some parameters := by
  obtain ⟨-, hsteps⟩ := steps_of_assemble hplan
  unfold parameters?
  generalize schema.properties = properties, plan.steps = steps at hsteps
  induction hsteps with
  | nil => exact ⟨[], rfl⟩
  | cons hstep _ ih =>
      obtain ⟨kind, hstep⟩ := hstep
      obtain ⟨later, hlater⟩ := ih
      obtain ⟨parameter, hparameter⟩ := DeclaredType.exists_parameter hstep.declared
      exact ⟨parameter :: later, by simp [hparameter, hlater]⟩

theorem Schema.Yields.accepted {schema : Schema} {evaluator : PathEvaluator}
    {document : Document} {record : Record} {parameters : List ParameterType}
    (h : schema.Yields evaluator document record)
    (hparameters : schema.parameters? = some parameters) :
    List.Forall₂
      (fun parameter field =>
        ∃ argument, parameter.accept? field.2 = some argument ∧ argument.content = field.2)
      parameters record.fields := by
  have hfields := h.fields
  unfold Schema.parameters? at hparameters
  generalize schema.properties = properties, record.fields = fields at hfields hparameters
  induction hfields generalizing parameters with
  | nil =>
      cases hparameters
      exact .nil
  | cons hfield _ ih =>
      simp only [List.mapM_cons, Option.bind_eq_bind, Option.pure_def, Option.bind_eq_some_iff,
        Option.some.injEq] at hparameters
      obtain ⟨parameter, hparameter, later, hlater, rfl⟩ := hparameters
      exact .cons (ParameterType.accept?_of_holds hparameter hfield.2) (ih hlater)

/-- What goes wrong with extracting a value is about the property. -/
theorem Step.property?_of_extract_eq_error {step : Step} {evaluator : PathEvaluator}
    {document : Document} {cause : ConstructError}
    (herror : step.extract evaluator document = .error cause) :
    cause.property? = some step.property := by
  unfold extract at herror
  split at herror
  · cases herror
    rfl
  · split at herror
    · unfold read at herror
      dsimp only at herror
      split at herror <;> split at herror <;> cases herror <;> rfl
    · cases herror
      rfl

theorem exists_property_of_extractAll_eq_error {evaluator : PathEvaluator} {document : Document}
    {steps : List Step} {cause : ConstructError}
    (herror : extractAll evaluator document steps = .error cause) :
    ∃ property, cause.property? = some property := by
  induction steps with
  | nil => cases herror
  | cons step rest ih =>
      simp only [extractAll, bind_eq_error_iff, reduceCtorEq, and_false, exists_false,
        or_false] at herror
      rcases herror with hfirst | ⟨_, -, hrest⟩
      · exact ⟨step.property, Step.property?_of_extract_eq_error hfirst⟩
      · exact ih hrest

/-- A plan fails on a document at one of its properties. -/
theorem Factory.exists_property_of_realize_eq_error {factory : Factory} {document : Document}
    {cause : ConstructError} (herror : factory.realize document = .error cause) :
    ∃ property, cause.property? = some property := by
  simp only [realize, bind_eq_error_iff, reduceCtorEq, and_false, exists_false,
    or_false] at herror
  exact exists_property_of_extractAll_eq_error herror

theorem Factory.outcome_ne_record {factory : Factory} {input : Except InputError Document}
    {cause : RecordError} :
    factory.outcome input ≠ .error (.record cause) := by
  cases input with
  | error fault => exact nofun
  | ok document =>
      intro herror
      obtain ⟨property, hproperty⟩ := exists_property_of_realize_eq_error herror
      cases hproperty

/-- A constructor with parameters of the declared types takes all values of a record, and fails
only where the construction of the record fails. -/
theorem Schema.constructInto_of_construct {schema : Schema} {plan : Plan}
    (hplan : schema.assemble = .ok plan) {evaluator : PathEvaluator} {options : InputOptions}
    {parameters : List ParameterType} (hparameters : schema.parameters? = some parameters)
    (text : String) :
    (∀ record, (Factory.mk plan evaluator options).construct text = .ok record →
      ∃ arguments,
        (Factory.mk plan evaluator options).constructInto text parameters = .ok arguments ∧
        arguments.map Argument.content = record.values) ∧
    ∀ cause,
      (Factory.mk plan evaluator options).constructInto text parameters ≠
        .error (.record cause) := by
  have htakes : ∀ record, (Factory.mk plan evaluator options).construct text = .ok record →
      ∃ arguments,
        (Factory.mk plan evaluator options).constructInto text parameters = .ok arguments ∧
        arguments.map Argument.content = record.values := by
    intro record hrecord
    obtain ⟨document, -, hyields⟩ := (constructFrom_eq_ok_iff hplan).mp hrecord
    obtain ⟨arguments, htakeAll, hcontents⟩ :=
      Arguments.takeAll_eq_ok (hyields.accepted hparameters)
    refine ⟨arguments, ?_, hcontents⟩
    rw [Factory.constructInto, hrecord, ok_bind, Record.toArguments, htakeAll]
  refine ⟨htakes, ?_⟩
  intro cause herror
  cases hrecord : (Factory.mk plan evaluator options).construct text with
  | error e =>
      rw [Factory.constructInto, hrecord, error_bind, Except.error.injEq] at herror
      rw [herror] at hrecord
      exact Factory.outcome_ne_record hrecord
  | ok record =>
      obtain ⟨arguments, harguments, -⟩ := htakes record hrecord
      rw [harguments] at herror
      cases herror

/-- Whatever evaluates the locators, a record that is constructed by the plan of a schema has the
properties of the schema as its fields, each once and in the order of the constructor's arguments.
Every property is null if it is nullable and has no node, and otherwise the value of the declared
kind that the text of its node denotes.  A constructor with parameters of the declared types takes
every such record. -/
theorem construct_isTyped {schema : Schema} {plan : Plan} (hplan : schema.assemble = .ok plan)
    (evaluator : PathEvaluator) (options : InputOptions) :
    (∀ source record,
      ((Factory.mk plan evaluator options).constructFrom source).outcome = .ok record →
        record.names = schema.properties.map Property.name ∧
        record.names = plan.arguments ∧
        record.names.Nodup ∧
        ∃ document,
          ((Factory.mk plan evaluator options).readDocument source).1 = .ok document ∧
          ∀ property ∈ schema.properties, ∃ value,
            record.get? property.name = some value ∧
            (value = .null ↔
              property.type.nullable = true ∧
                evaluator property.locator document = .ok none) ∧
            (value ≠ .null →
              ∃ kind item,
                property.type.kind = .scalar kind ∧
                evaluator property.locator document = .ok (some item) ∧
                coerce kind (item.text document) = .ok value ∧
                value.kind? = some kind)) ∧
    ∃ parameters, schema.parameters? = some parameters ∧
      ∀ text,
        (∀ record, (Factory.mk plan evaluator options).construct text = .ok record →
          ∃ arguments,
            (Factory.mk plan evaluator options).constructInto text parameters = .ok arguments ∧
            arguments.map Argument.content = record.values) ∧
        ∀ cause,
          (Factory.mk plan evaluator options).constructInto text parameters ≠
            .error (.record cause) := by
  constructor
  · intro source record hrecord
    obtain ⟨document, hdocument, hyields⟩ := (Schema.constructFrom_eq_ok_iff hplan).mp hrecord
    refine ⟨hyields.names, ?_, hyields.nodup_names, document, hdocument, ?_⟩
    · rw [hyields.names, Schema.arguments_of_assemble hplan]
    · intro property hproperty
      obtain ⟨value, hvalue, hholds⟩ := hyields.get? hproperty
      exact ⟨value, hvalue, hholds.null_iff, hholds.coerced⟩
  · obtain ⟨parameters, hparameters⟩ := Schema.exists_parameters hplan
    exact ⟨parameters, hparameters, Schema.constructInto_of_construct hplan hparameters⟩

/-- A required number and a nullable text. -/
def petSchema : Schema where
  typeName := "Pet"
  properties :=
    [⟨"years", ⟨.scalar (.integer .bits32), false⟩, some "/p/@y"⟩,
      ⟨"days", ⟨.scalar .text, true⟩, none⟩]
  accepted := by decide

def petPlan : Plan where
  typeName := "Pet"
  steps :=
    [⟨0, "years", "/p/@y", ⟨.scalar (.integer .bits32), false⟩,
        .extract (.integer .bits32) .required⟩,
      ⟨1, "days", "days", ⟨.scalar .text, true⟩, .extract .text .nullable⟩]

/-- Finds the first attribute of the first element, and no other node. -/
def firstAttribute : PathEvaluator := fun text _ =>
  .ok (if text = "/p/@y" then some (.attribute 1 0) else none)

def petYears : FieldValue := .integer .bits32 3 (by decide)

def petRecord : Record := ⟨"Pet", [("years", petYears), ("days", .null)]⟩

def petFactory : Factory := ⟨petPlan, firstAttribute, .standard⟩

theorem construct_petRecord_isTyped :
    petSchema.assemble = .ok petPlan ∧
    (petFactory.constructFrom (.ofBytes (Utf8.encode "<p y='3'/>"))).outcome = .ok petRecord ∧
    petRecord.names = ["years", "days"] ∧
    (∃ document kind item,
      firstAttribute "/p/@y" document = .ok (some item) ∧
      coerce kind (item.text document) = .ok petYears ∧
      petYears.kind? = some kind) ∧
    petFactory.construct "<p y='3'/>" = .ok petRecord ∧
    ∃ parameters arguments,
      petSchema.parameters? = some parameters ∧
      petFactory.constructInto "<p y='3'/>" parameters = .ok arguments ∧
      arguments.map Argument.content = petRecord.values := by
  have hplan : petSchema.assemble = .ok petPlan := by rfl
  have hrecord : petFactory.construct "<p y='3'/>" = .ok petRecord := by cbv
  obtain ⟨hrecords, parameters, hparameters, hconstructors⟩ :=
    construct_isTyped hplan firstAttribute .standard
  obtain ⟨hnames, -, -, document, -, hproperties⟩ := hrecords _ _ hrecord
  obtain ⟨value, hvalue, -, hcoerced⟩ := hproperties _ List.mem_cons_self
  obtain rfl : petYears = value := Option.some.inj hvalue
  obtain ⟨kind, item, -, hitem, hcoerce, hkind⟩ := hcoerced (by decide)
  obtain ⟨arguments, harguments, hcontents⟩ := (hconstructors _).1 _ hrecord
  exact ⟨hplan, hrecord, hnames, ⟨document, kind, item, hitem, hcoerce, hkind⟩, hrecord,
    parameters, arguments, hparameters, harguments, hcontents⟩

end RecordExtraction
