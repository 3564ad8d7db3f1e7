import Mathlib
import RecordExtraction.Proofs.Plan.Listing

/-!
# Listings identify plans

The listing of a plan of a schema can be read back as a program.  A line of the program shows the
name, the locator and the place of a step, and how its value is read and guarded; and for a type
that is supported this shows the type.  So plans with the same listing are the same plan.
-/

namespace RecordExtraction

open Listing

/-! ## Types -/

namespace DeclaredType

variable {type other : DeclaredType} {kind : ScalarKind}

theorem nullable_of_guard (hsame : type.guard = other.guard) : type.nullable = other.nullable := by
  have hguard : ∀ type : DeclaredType, type.nullable = true ↔ type.guard = .nullable := by
    intro type
    rw [guard]
    cases type.nullable <;> simp
  rw [Bool.eq_iff_iff, hguard, hguard, hsame]

/-- The way to extract values of a supported type shows the type. -/
theorem eq_of_strategy (hdeclared : type.kind = .scalar kind)
    (hsame : type.strategy = other.strategy) : type = other := by
  rw [strategy_of_declared hdeclared] at hsame
  unfold strategy at hsame
  split at hsame
  · next otherKind hother =>
      rw [Strategy.extract.injEq] at hsame
      have hkind : type.kind = other.kind := by rw [hdeclared, hother, hsame.1]
      have hnullable := nullable_of_guard hsame.2
      cases type
      cases other
      exact congrArg₂ mk hkind hnullable
  · cases hsame

end DeclaredType

/-! ## Steps -/

/-- The strategy that a reading spells. -/
def Listing.Reading.strategy : Reading → Strategy
  | unsupported typeName => .unsupported typeName
  | required kind _ => .extract kind .required
  | nullable _ kind _ => .extract kind .nullable

namespace Step

variable {step other : Step} {steps others : List Step}

theorem strategy_readingOf (step : Step) : step.readingOf.strategy = step.strategy := by
  unfold readingOf
  split
  · next typeName hstrategy => rw [hstrategy, Reading.strategy]
  · next kind hstrategy => rw [hstrategy, Reading.strategy]
  · next kind hstrategy => rw [hstrategy, Reading.strategy]

/-- The step extracts a value of its type, which is supported. -/
structure Resolved (step : Step) : Prop where
  supported : ∃ kind, step.type.kind = .scalar kind
  strategy : step.strategy = step.type.strategy

theorem eq_of_assignments (hstep : step.Resolved) (hother : other.Resolved)
    (hsame : step.assignments = other.assignments) : step = other := by
  rw [assignments, assignments, Assignments.mk.injEq] at hsame
  rcases hsame with ⟨hnode, hlocator, hvalue, hreading⟩
  have hindex := index_of_nodeBinding hnode
  have hstrategy : step.strategy = other.strategy := by
    rw [← step.strategy_readingOf, hreading, other.strategy_readingOf]
  have htype : step.type = other.type := by
    rcases hstep.supported with ⟨kind, hdeclared⟩
    apply DeclaredType.eq_of_strategy hdeclared
    rw [← hstep.strategy, ← hother.strategy]
    exact hstrategy
  rcases step with ⟨_, _, _, _, _⟩
  rcases other with ⟨_, _, _, _, _⟩
  rw [mk.injEq]
  exact ⟨hindex, hvalue, hlocator, htype, hstrategy⟩

theorem eq_of_map_assignments (hsteps : ∀ step ∈ steps, step.Resolved)
    (hothers : ∀ other ∈ others, other.Resolved)
    (hsame : steps.map assignments = others.map assignments) : steps = others := by
  induction steps generalizing others with
  | nil => exact (List.map_eq_nil_iff.mp hsame.symm).symm
  | cons step later ih =>
      cases others with
      | nil => cases hsame
      | cons other otherLater =>
          rw [List.map_cons, List.map_cons, List.cons.injEq] at hsame
          rw [List.forall_mem_cons] at hsteps hothers
          rw [eq_of_assignments hsteps.1 hothers.1 hsame.1, ih hsteps.2 hothers.2 hsame.2]

end Step

/-! ## Plans -/

theorem Schema.resolved_of_assemble {schema : Schema} {plan : Plan}
    (hplan : schema.assemble = .ok plan) : ∀ step ∈ plan.steps, step.Resolved := by
  rcases assemble_eq_ok_iff.mp hplan with ⟨hsupported, hsteps⟩
  intro step hstep
  rw [hsteps] at hstep
  rcases List.mem_mapIdx.mp hstep with ⟨index, hindex, rfl⟩
  have hdeclared := DeclaredType.isSupported_iff.mp (hsupported _ (List.getElem_mem hindex))
  exact ⟨hdeclared, rfl⟩

/-- Plans of schemas with the same listing have the same name of the type, the same steps, with
their names, locators, types, kinds and guards, and the same call of the constructor. -/
theorem listing_identifies_plan {schema other : Schema} {plan otherPlan : Plan}
    (hplan : schema.assemble = .ok plan) (hother : other.assemble = .ok otherPlan)
    (hlisting : plan.listing = otherPlan.listing) :
    plan.typeName = otherPlan.typeName ∧
    plan.steps = otherPlan.steps ∧
    plan.arguments = otherPlan.arguments := by
  rw [Plan.listing_eq, Plan.listing_eq] at hlisting
  have hprogram := Program.text_inj (Schema.wellFormed_program hplan)
    (Schema.wellFormed_program hother) hlisting
  rw [Plan.program, Plan.program, Program.mk.injEq] at hprogram
  rcases hprogram with ⟨hassignments, htypeName, harguments⟩
  have hsteps := Step.eq_of_map_assignments (Schema.resolved_of_assemble hplan)
    (Schema.resolved_of_assemble hother) hassignments
  exact ⟨htypeName, hsteps, harguments⟩

/-- The name of the type looks like a call, and the properties are named like a keyword of listings
and like a node. -/
def callLikeSchema : Schema where
  typeName := "T(a)\nreturn U"
  properties :=
    [⟨"return", ⟨.scalar .boolean, true⟩, none⟩, ⟨"node0", ⟨.scalar .text, false⟩, some "'\"'\n"⟩]
  accepted := by decide

/-- The same, except that the first property is given the locator that it has anyway. -/
def locatedSchema : Schema where
  typeName := "T(a)\nreturn U"
  properties :=
    [⟨"return", ⟨.scalar .boolean, true⟩, some "return"⟩,
      ⟨"node0", ⟨.scalar .text, false⟩, some "'\"'\n"⟩]
  accepted := by decide

theorem listing_of_callLikeSchema_identifies_plan :
    ∃ plan otherPlan,
      callLikeSchema.assemble = .ok plan ∧
      locatedSchema.assemble = .ok otherPlan ∧
      callLikeSchema ≠ locatedSchema ∧
      plan.listing = otherPlan.listing ∧
      plan.typeName = otherPlan.typeName ∧
      plan.steps = otherPlan.steps ∧
      plan.arguments = otherPlan.arguments := by
  refine ⟨_, _, rfl, rfl, by decide, rfl, ?_⟩
  exact @listing_identifies_plan callLikeSchema locatedSchema _ _ rfl rfl rfl

end RecordExtraction
