import RecordExtraction.Plan.Step

/-!
# Plans

The plan of a schema has one step for every property and ends in a call of the constructor with all
values in the order of the steps.  A schema with an unsupported type has no plan; the first such
property is reported.
-/

namespace RecordExtraction

/-- The steps that extract the values of one type. -/
structure Plan where
  typeName : String
  steps : List Step
deriving DecidableEq, Repr

namespace Plan

/-- The names of the values that the constructor is called with. -/
def arguments (plan : Plan) : List String := plan.steps.map Step.valueBinding

/-- The call of the constructor. -/
def constructorListing (plan : Plan) : String :=
  "return " ++ plan.typeName ++ "(" ++ String.intercalate ", " plan.arguments ++ ")"

/-- The plan as a program: the assignments of all steps, then the call of the constructor. -/
def listing (plan : Plan) : String :=
  String.join (plan.steps.map fun step => step.listing ++ "\n") ++ plan.constructorListing

end Plan

/-- The steps of properties of which the first has the given index.  Stops at the first property of
an unsupported type. -/
def resolveAll (index : Nat) : List Property → Except SchemaError (List Step)
  | [] => .ok []
  | property :: rest =>
      let step := property.resolve index
      match step.strategy with
      | .unsupported typeName => .error (.unsupportedType step.property typeName)
      | .extract .. => (resolveAll (index + 1) rest).map (step :: ·)

/-- The plan of a schema. -/
def Schema.assemble (schema : Schema) : Except SchemaError Plan :=
  (resolveAll 0 schema.properties).map fun steps => ⟨schema.typeName, steps⟩

end RecordExtraction
