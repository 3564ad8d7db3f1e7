import RecordExtraction.Plan.Basic
import RecordExtraction.Proofs.Outcome
import RecordExtraction.Proofs.Schema.Admission

/-!
# Plans follow their schemas

Properties are resolved one after the other, up to the first one whose type is not supported.  A
plan has a step for every property, in the order of the properties, which extracts the property as a
value of its kind.
-/

namespace RecordExtraction

/-! ## Supported types -/

theorem DeclaredType.isSupported_iff {type : DeclaredType} :
    type.isSupported = true ↔ ∃ kind, type.kind = .scalar kind := by
  rcases type with ⟨kind | name, nullable⟩ <;> simp [isSupported, TypeKind.isSupported]

theorem DeclaredType.strategy_of_declared {type : DeclaredType} {kind : ScalarKind}
    (hdeclared : type.kind = .scalar kind) : type.strategy = .extract kind type.guard := by
  rw [strategy, hdeclared]

theorem DeclaredType.strategy_of_unsupported {type : DeclaredType}
    (hunsupported : type.isSupported = false) : type.strategy = .unsupported type.display := by
  cases hkind : type.kind with
  | scalar kind =>
      rw [isSupported_iff.mpr ⟨kind, hkind⟩] at hunsupported
      cases hunsupported
  | unsupported name => rw [strategy, hkind]

/-! ## Steps of properties -/

/-- The step extracts the property as a value of its kind. -/
structure Step.Extracts (step : Step) (property : Property) (kind : ScalarKind) : Prop where
  name : step.property = property.name
  locator : step.locator = property.locator
  declared : property.type.kind = .scalar kind
  strategy : step.strategy = .extract kind property.type.guard

section

variable {index : Nat} {property : Property} {rest properties : List Property} {steps : List Step}

theorem Property.extracts_resolve {kind : ScalarKind}
    (hdeclared : property.type.kind = .scalar kind) :
    (property.resolve index).Extracts property kind where
  name := rfl
  locator := rfl
  declared := hdeclared
  strategy := DeclaredType.strategy_of_declared hdeclared

theorem resolveAll_cons_of_supported (hsupported : property.type.isSupported = true) :
    resolveAll index (property :: rest) =
      (resolveAll (index + 1) rest).map (property.resolve index :: ·) := by
  rcases DeclaredType.isSupported_iff.mp hsupported with ⟨kind, hdeclared⟩
  have hstrategy : (property.resolve index).strategy = .extract kind property.type.guard :=
    DeclaredType.strategy_of_declared hdeclared
  simp only [resolveAll, hstrategy]

theorem resolveAll_cons_of_unsupported (hunsupported : property.type.isSupported = false) :
    resolveAll index (property :: rest) =
      .error (.unsupportedType property.name property.type.display) := by
  have hstrategy : (property.resolve index).strategy = .unsupported property.type.display :=
    DeclaredType.strategy_of_unsupported hunsupported
  simp only [resolveAll, hstrategy]
  rfl

/-- All properties are resolved at their places, if all their types are supported. -/
theorem resolveAll_eq_ok_iff :
    resolveAll index properties = .ok steps ↔
      (∀ property ∈ properties, property.type.isSupported = true) ∧
        steps = properties.mapIdx fun i property => property.resolve (index + i) := by
  induction properties generalizing index steps with
  | nil =>
      rw [resolveAll, Except.ok.injEq, List.mapIdx_nil]
      constructor
      · intro hsteps
        exact ⟨List.forall_mem_nil _, hsteps.symm⟩
      · intro hall
        exact hall.2.symm
  | cons property rest ih =>
      rw [List.forall_mem_cons]
      cases hsupported : property.type.isSupported with
      | false => simp [resolveAll_cons_of_unsupported hsupported]
      | true =>
          have hplaces : (rest.mapIdx fun i property => property.resolve (index + (i + 1))) =
              rest.mapIdx fun i property => property.resolve (index + 1 + i) := by
            congr 1
            funext i property
            rw [Nat.add_assoc, Nat.add_comm 1]
          rw [resolveAll_cons_of_supported hsupported, map_eq_ok_iff, List.mapIdx_cons, hplaces]
          constructor
          · intro hsteps
            rcases hsteps with ⟨later, hlater, rfl⟩
            rcases ih.mp hlater with ⟨hrest, rfl⟩
            exact ⟨⟨rfl, hrest⟩, rfl⟩
          · intro hall
            rcases hall with ⟨⟨_, hrest⟩, rfl⟩
            exact ⟨_, ih.mpr ⟨hrest, rfl⟩, rfl⟩

theorem resolveAll_of_split {before after : List Property}
    (hbefore : ∀ earlier ∈ before, earlier.type.isSupported = true)
    (hunsupported : property.type.isSupported = false) :
    resolveAll index (before ++ property :: after) =
      .error (.unsupportedType property.name property.type.display) := by
  induction before generalizing index with
  | nil => exact resolveAll_cons_of_unsupported hunsupported
  | cons first before ih =>
      rw [List.forall_mem_cons] at hbefore
      rw [List.cons_append, resolveAll_cons_of_supported hbefore.1, ih hbefore.2]
      rfl

/-- The first property of an unsupported type is reported. -/
theorem exists_split_of_resolveAll {problem : SchemaError}
    (herror : resolveAll index properties = .error problem) :
    ∃ before property after,
      properties = before ++ property :: after ∧
      (∀ earlier ∈ before, earlier.type.isSupported = true) ∧
      property.type.isSupported = false ∧
      problem = .unsupportedType property.name property.type.display := by
  induction properties generalizing index with
  | nil => cases herror
  | cons first rest ih =>
      cases hsupported : first.type.isSupported with
      | false =>
          rw [resolveAll_cons_of_unsupported hsupported, Except.error.injEq] at herror
          exact ⟨[], first, rest, rfl, List.forall_mem_nil _, hsupported, herror.symm⟩
      | true =>
          rw [resolveAll_cons_of_supported hsupported, map_eq_error_iff] at herror
          rcases ih herror with ⟨before, property, after, hlist, hbefore, hproperty⟩
          refine ⟨first :: before, property, after, by rw [hlist, List.cons_append], ?_, hproperty⟩
          exact List.forall_mem_cons.mpr ⟨hsupported, hbefore⟩

theorem extracts_of_resolveAll (hsteps : resolveAll index properties = .ok steps) :
    List.Forall₂ (fun property step => ∃ kind, step.Extracts property kind) properties steps := by
  induction properties generalizing index steps with
  | nil =>
      cases hsteps
      exact .nil
  | cons property rest ih =>
      cases hsupported : property.type.isSupported with
      | false =>
          rw [resolveAll_cons_of_unsupported hsupported] at hsteps
          cases hsteps
      | true =>
          rw [resolveAll_cons_of_supported hsupported] at hsteps
          obtain ⟨later, hlater, rfl⟩ := map_eq_ok_iff.mp hsteps
          obtain ⟨kind, hdeclared⟩ := DeclaredType.isSupported_iff.mp hsupported
          exact .cons ⟨kind, Property.extracts_resolve hdeclared⟩ (ih hlater)

end

/-! ## Plans of schemas -/

/-- A plan has the steps of all properties at their places. -/
theorem Schema.assemble_eq_ok_iff {schema : Schema} {plan : Plan} :
    schema.assemble = .ok plan ↔
      (∀ property ∈ schema.properties, property.type.isSupported = true) ∧
        plan =
          ⟨schema.typeName, schema.properties.mapIdx fun i property => property.resolve i⟩ := by
  simp only [assemble, map_eq_ok_iff, resolveAll_eq_ok_iff, Nat.zero_add]
  constructor
  · intro hplan
    rcases hplan with ⟨_, ⟨hsupported, rfl⟩, rfl⟩
    exact ⟨hsupported, rfl⟩
  · intro hplan
    rcases hplan with ⟨hsupported, rfl⟩
    exact ⟨_, ⟨hsupported, rfl⟩, rfl⟩

theorem Schema.assemble_eq_error_iff {schema : Schema} {problem : SchemaError} :
    schema.assemble = .error problem ↔
      ∃ before property after,
        schema.properties = before ++ property :: after ∧
        (∀ earlier ∈ before, earlier.type.isSupported = true) ∧
        property.type.isSupported = false ∧
        problem = .unsupportedType property.name property.type.display := by
  rw [assemble, map_eq_error_iff]
  constructor
  · exact exists_split_of_resolveAll
  · intro hsplit
    rcases hsplit with ⟨before, property, after, hlist, hbefore, hunsupported, hproblem⟩
    rw [hlist, hproblem]
    exact resolveAll_of_split hbefore hunsupported

theorem Schema.steps_of_assemble {schema : Schema} {plan : Plan}
    (hplan : schema.assemble = .ok plan) :
    plan.typeName = schema.typeName ∧
      List.Forall₂ (fun property step => ∃ kind, step.Extracts property kind)
        schema.properties plan.steps := by
  obtain ⟨steps, hsteps, rfl⟩ := map_eq_ok_iff.mp hplan
  exact ⟨rfl, extracts_of_resolveAll hsteps⟩

/-- The constructor is called with the values of all properties in the order of their
declaration. -/
theorem Schema.arguments_of_assemble {schema : Schema} {plan : Plan}
    (hplan : schema.assemble = .ok plan) :
    plan.arguments = schema.properties.map Property.name := by
  obtain ⟨-, hsteps⟩ := steps_of_assemble hplan
  refine (map_eq_of_forall₂ hsteps ?_).symm
  rintro property step ⟨kind, hstep⟩
  exact hstep.name.symm

end RecordExtraction
