import Mathlib
import RecordExtraction.Proofs.Extraction.TypedRecords
import RecordExtraction.Proofs.Plan.Listing

/-!
# Running the listing of a plan

A listing keeps nodes and values under names, and a later assignment to a name replaces what was
kept there.  The names of properties are distinct, and so are those of nodes; but a property may
have the name of the node of another step.  If that step comes later, the constructor is called with
its node in place of the value of the property.
-/

namespace RecordExtraction
namespace Listing

open Locator Markup

/-! ## Running a program -/

/-- What is kept under a name: a node, which may be absent, or a value. -/
inductive Bound where
  | node (found : Option Item)
  | value (value : FieldValue)
deriving DecidableEq

/-- What is kept under each name that has been assigned to. -/
abbrev Environment := String → Option Bound

section

variable (evaluator : PathEvaluator) (document : Document)

/-- The text of the node that is kept under a name, read as a value. -/
def readBound (kind : ScalarKind) : Option Bound → Option FieldValue
  | some (.node (some item)) => (coerce kind (item.text document)).toOption
  | _ => none

def Reading.run (environment : Environment) : Reading → Option FieldValue
  | unsupported _ => none
  | required kind node => readBound document kind (environment node)
  | nullable tested kind node =>
      match environment tested with
      | some (.node none) => some .null
      | some (.node (some _)) => readBound document kind (environment node)
      | _ => none

/-- The two assignments, one after the other. -/
def Assignments.run (environment : Environment) (lines : Assignments) : Option Environment := do
  let found ← (evaluator lines.locator document).toOption
  let environment := Function.update environment lines.node (some (.node found))
  let value ← lines.reading.run document environment
  some (Function.update environment lines.value (some (.value value)))

def runAll (environment : Environment) : List Assignments → Option Environment
  | [] => some environment
  | lines :: later => do runAll (← lines.run evaluator document environment) later

/-- The name of the type, and what the constructor is called with. -/
def Program.run (program : Program) : Option (String × List Bound) := do
  let environment ← runAll evaluator document (fun _ => none) program.assignments
  let passed ← program.arguments.mapM environment
  some (program.typeName, passed)

end

/-! ## Running the steps of a plan -/

section

variable {evaluator : PathEvaluator} {document : Document} {environment : Environment}
  {step : Step} {steps : List Step} {fields : List (String × FieldValue)}

/-- The node that a step looks up. -/
def foundBy (evaluator : PathEvaluator) (document : Document) (step : Step) : Option Item :=
  (evaluator step.locator document).toOption.join

/-- What the constructor gets for each step: the value, unless the node of a later step has taken
its name. -/
def received (evaluator : PathEvaluator) (document : Document) :
    List Step → List (String × FieldValue) → List Bound
  | step :: later, field :: fields =>
      (match later.find? fun other => other.nodeBinding == step.valueBinding with
        | some other => .node (foundBy evaluator document other)
        | none => .value field.2) ::
      received evaluator document later fields
  | _, _ => []

theorem run_readingOf {kind : ScalarKind} {guard : NullGuard} {found : Option Item}
    {value : FieldValue} (hstrategy : step.strategy = .extract kind guard)
    (hread : step.read kind guard document found = .ok value)
    (hnode : environment step.nodeBinding = some (.node found)) :
    step.readingOf.run document environment = some value := by
  cases found with
  | none =>
      cases guard with
      | required => cases hread
      | nullable =>
          cases hread
          simp [Step.readingOf, hstrategy, Reading.run, hnode]
  | some item =>
      have hcoerce : coerce kind (item.text document) = .ok value := by
        cases hcoerce : coerce kind (item.text document) with
        | ok other => simpa [Step.read, hcoerce] using hread
        | error cause => simp [Step.read, hcoerce] at hread
      cases guard <;>
        simp [Step.readingOf, hstrategy, Reading.run, hnode, readBound, hcoerce, Except.toOption]

/-- The environment after the assignments of a step with the given value. -/
def afterStep (evaluator : PathEvaluator) (document : Document) (environment : Environment)
    (step : Step) (value : FieldValue) : Environment :=
  Function.update
    (Function.update environment step.nodeBinding (some (.node (foundBy evaluator document step))))
    step.valueBinding (some (.value value))

theorem run_assignments {value : FieldValue}
    (hextract : step.extract evaluator document = .ok value) :
    step.assignments.run evaluator document environment =
      some (afterStep evaluator document environment step value) := by
  rw [Step.extract] at hextract
  split at hextract
  · cases hextract
  · next kind guard hstrategy =>
      split at hextract
      · next found hfound =>
          have hlocator : (evaluator step.locator document).toOption = some found := by
            rw [hfound]
            rfl
          have hnode : foundBy evaluator document step = found := by
            rw [foundBy, hlocator]
            rfl
          have hreading : step.readingOf.run document
              (Function.update environment step.nodeBinding (some (.node found))) = some value :=
            run_readingOf hstrategy hextract (Function.update_self ..)
          rw [afterStep, hnode]
          simp [Assignments.run, Step.assignments, hlocator, hreading]
      · cases hextract

/-- What the assignments of the steps leave behind: nothing else is changed, a node stays unless a
value takes its name, and the values are there as far as the nodes of later steps let them. -/
structure Leaves (evaluator : PathEvaluator) (document : Document) (steps : List Step)
    (fields : List (String × FieldValue)) (before after : Environment) : Prop where
  run : runAll evaluator document before (steps.map Step.assignments) = some after
  unchanged : ∀ name, name ∉ steps.map Step.nodeBinding → name ∉ steps.map Step.valueBinding →
    after name = before name
  node : ∀ step ∈ steps, step.nodeBinding ∉ steps.map Step.valueBinding →
    after step.nodeBinding = some (.node (foundBy evaluator document step))
  passed :
    (steps.map Step.valueBinding).mapM after = some (received evaluator document steps fields)

theorem Leaves.valueOf_first {value : FieldValue} {after : Environment}
    (hleaves : Leaves evaluator document steps fields
      (afterStep evaluator document environment step value) after)
    (hfresh : step.valueBinding ∉ steps.map Step.valueBinding) :
    after step.valueBinding =
      some (match steps.find? fun other => other.nodeBinding == step.valueBinding with
        | some other => .node (foundBy evaluator document other)
        | none => .value value) := by
  split
  · next other hfind =>
      have hname : other.nodeBinding = step.valueBinding := by
        simpa using List.find?_some hfind
      rw [← hname]
      apply hleaves.node other (List.mem_of_find?_eq_some hfind)
      rwa [hname]
  · next hfind =>
      have hnode : step.valueBinding ∉ steps.map Step.nodeBinding := by
        simpa [List.find?_eq_none] using hfind
      rw [hleaves.unchanged _ hnode hfresh, afterStep, Function.update_self]

theorem Leaves.cons {value : FieldValue} {after : Environment}
    (hextract : step.extract evaluator document = .ok value)
    (hleaves : Leaves evaluator document steps fields
      (afterStep evaluator document environment step value) after)
    (hfreshValue : step.valueBinding ∉ steps.map Step.valueBinding)
    (hfreshNode : step.nodeBinding ∉ steps.map Step.nodeBinding) :
    Leaves evaluator document (step :: steps) ((step.property, value) :: fields) environment
      after where
  run := by simp [runAll, run_assignments hextract, hleaves.run]
  unchanged := by
    intro name hnode hname
    rw [List.map_cons, List.mem_cons, not_or] at hnode hname
    rw [hleaves.unchanged name hnode.2 hname.2, afterStep, Function.update_of_ne hname.1,
      Function.update_of_ne hnode.1]
  node := by
    intro other hother hname
    rw [List.map_cons, List.mem_cons, not_or] at hname
    rcases List.mem_cons.mp hother with rfl | hother
    · rw [hleaves.unchanged _ hfreshNode hname.2, afterStep, Function.update_of_ne hname.1,
        Function.update_self]
    · exact hleaves.node other hother hname.2
  passed := by
    rw [List.map_cons, List.mapM_cons, hleaves.valueOf_first hfreshValue, hleaves.passed]
    rfl

theorem exists_leaves (hextract : extractAll evaluator document steps = .ok fields)
    (hvalues : (steps.map Step.valueBinding).Nodup) (hnodes : (steps.map Step.nodeBinding).Nodup)
    (environment : Environment) :
    ∃ after, Leaves evaluator document steps fields environment after := by
  induction steps generalizing fields environment with
  | nil =>
      cases hextract
      exact ⟨environment, rfl, fun _ _ _ => rfl, nofun, rfl⟩
  | cons step later ih =>
      simp only [extractAll, bind_eq_ok_iff, Except.ok.injEq] at hextract
      obtain ⟨value, hvalue, fields, hfields, rfl⟩ := hextract
      rw [List.map_cons, List.nodup_cons] at hvalues hnodes
      obtain ⟨after, hleaves⟩ := ih hfields hvalues.2 hnodes.2
        (afterStep evaluator document environment step value)
      exact ⟨after, hleaves.cons hvalue hvalues.1 hnodes.1⟩

/-- The constructor gets the values of all steps exactly when no step has the name of the node of a
later one. -/
theorem received_eq_values_iff (hlength : steps.length = fields.length) :
    received evaluator document steps fields = fields.map (fun field => .value field.2) ↔
      steps.Pairwise fun step later => step.valueBinding ≠ later.nodeBinding := by
  induction steps generalizing fields with
  | nil =>
      obtain rfl : fields = [] := List.eq_nil_of_length_eq_zero hlength.symm
      simp [received]
  | cons step later ih =>
      cases fields with
      | nil => cases hlength
      | cons field fields =>
          rw [received, List.map_cons, List.cons.injEq, List.pairwise_cons,
            ih (Nat.succ.inj hlength)]
          apply and_congr_left'
          cases hfind : later.find? fun other => other.nodeBinding == step.valueBinding with
          | none =>
              rw [List.find?_eq_none] at hfind
              refine ⟨fun _ other hother hname => ?_, fun _ => rfl⟩
              exact hfind other hother (by simp [hname])
          | some other =>
              have hname : other.nodeBinding = step.valueBinding := by
                simpa using List.find?_some hfind
              have hmem := List.mem_of_find?_eq_some hfind
              simp only [reduceCtorEq, false_iff, not_forall, not_not]
              exact ⟨other, hmem, hname.symm⟩

end

end Listing

open Listing Locator Markup

/-! ## The listing and the record -/

theorem length_of_extractAll {evaluator : PathEvaluator} {document : Document} {steps : List Step}
    {fields : List (String × FieldValue)}
    (hextract : extractAll evaluator document steps = .ok fields) :
    steps.length = fields.length := by
  induction steps generalizing fields with
  | nil =>
      cases hextract
      rfl
  | cons step later ih =>
      simp only [extractAll, bind_eq_ok_iff] at hextract
      obtain ⟨value, -, rest, hrest, hfields⟩ := hextract
      cases hfields
      rw [List.length_cons, List.length_cons, ih hrest]

theorem Factory.extractAll_of_outcome {factory : Factory} {source : Source} {record : Record}
    (hrecord : (factory.constructFrom source).outcome = .ok record) :
    ∃ document, (factory.readDocument source).1 = .ok document ∧
      record.typeName = factory.plan.typeName ∧
      extractAll factory.evaluator document factory.plan.steps = .ok record.fields := by
  change factory.outcome (factory.readDocument source).1 = _ at hrecord
  cases hdocument : (factory.readDocument source).1 with
  | error cause =>
      rw [hdocument] at hrecord
      cases hrecord
  | ok document =>
      rw [hdocument, Factory.outcome, Factory.realize, bind_eq_ok_iff] at hrecord
      obtain ⟨fields, hfields, hrecord⟩ := hrecord
      cases hrecord
      exact ⟨document, rfl, rfl, hfields⟩

theorem Plan.run_program {schema : Schema} {plan : Plan} (hplan : schema.assemble = .ok plan)
    {evaluator : PathEvaluator} {document : Document} {fields : List (String × FieldValue)}
    (hextract : extractAll evaluator document plan.steps = .ok fields) :
    plan.program.run evaluator document =
      some (plan.typeName, received evaluator document plan.steps fields) := by
  obtain ⟨after, hleaves⟩ := exists_leaves hextract (Schema.nodup_valueBindings hplan)
    (Schema.nodup_nodeBindings hplan) fun _ => none
  simp only [Program.run, Plan.program, Plan.arguments, hleaves.run, hleaves.passed,
    Option.bind_eq_bind, Option.bind_some]

/-- The listing of the plan of a schema is the text of one program.  Where a record is constructed,
the program calls the constructor of the type, with the values of the record in their order exactly
when no property has the name of the node of a later step.  A property that does gives that node to
the constructor. -/
theorem listing_calls_constructor {schema : Schema} {plan : Plan}
    (hplan : schema.assemble = .ok plan) (evaluator : PathEvaluator) (options : InputOptions) :
    (plan.program.WellFormed ∧ plan.program.text = plan.listing ∧
      ∀ program : Program, program.WellFormed → program.text = plan.listing →
        program = plan.program) ∧
    ∀ source record,
      ((Factory.mk plan evaluator options).constructFrom source).outcome = .ok record →
        ∃ document,
          ((Factory.mk plan evaluator options).readDocument source).1 = .ok document ∧
          plan.program.run evaluator document =
            some (record.typeName, received evaluator document plan.steps record.fields) ∧
          (plan.program.run evaluator document =
              some (record.typeName, record.values.map Bound.value) ↔
            plan.steps.Pairwise fun step later => step.valueBinding ≠ later.nodeBinding) := by
  have hformed := Schema.wellFormed_program hplan
  refine ⟨⟨hformed, plan.listing_eq.symm, ?_⟩, ?_⟩
  · intro program hprogram htext
    rw [plan.listing_eq] at htext
    exact Program.text_inj hprogram hformed htext
  · intro source record hrecord
    obtain ⟨document, hdocument, hname, hfields⟩ := Factory.extractAll_of_outcome hrecord
    have hrun := Plan.run_program hplan hfields
    rw [← hname] at hrun
    refine ⟨document, hdocument, hrun, ?_⟩
    have hvalues : record.values.map Bound.value =
        record.fields.map fun field => .value field.2 := by
      simp [Record.values]
    have hpassed : received evaluator document plan.steps record.fields =
          record.fields.map (fun field => Bound.value field.2) ↔
        plan.steps.Pairwise fun step later => step.valueBinding ≠ later.nodeBinding :=
      received_eq_values_iff (length_of_extractAll hfields)
    rw [hrun, hvalues, ← hpassed]
    simp

theorem petPlan_program_calls_constructor :
    petSchema.assemble = .ok petPlan ∧
    petPlan.program.text = petPlan.listing ∧
    (petFactory.constructFrom (.ofBytes (Utf8.encode "<p y='3'/>"))).outcome = .ok petRecord ∧
    ∃ document,
      (petFactory.readDocument (.ofBytes (Utf8.encode "<p y='3'/>"))).1 = .ok document ∧
      petPlan.program.run firstAttribute document =
        some ("Pet", [.value petYears, .value .null]) := by
  have hplan : petSchema.assemble = .ok petPlan := by rfl
  have hrecord : petFactory.construct "<p y='3'/>" = .ok petRecord := by cbv
  obtain ⟨⟨-, htext, -⟩, hrecords⟩ := listing_calls_constructor hplan firstAttribute .standard
  obtain ⟨document, hdocument, -, hvalues⟩ := hrecords _ _ hrecord
  exact ⟨hplan, htext, hrecord, document, hdocument, hvalues.mpr (by decide)⟩

/-- A property that has the name of the node of the step after it. -/
def nodeNamedSchema : Schema where
  typeName := "T"
  properties :=
    [⟨"node1", ⟨.scalar .text, false⟩, some "/a/@x"⟩, ⟨"b", ⟨.scalar .text, false⟩, some "/a/@y"⟩]
  accepted := by decide

def nodeNamedPlan : Plan where
  typeName := "T"
  steps :=
    [⟨0, "node1", "/a/@x", ⟨.scalar .text, false⟩, .extract .text .required⟩,
      ⟨1, "b", "/a/@y", ⟨.scalar .text, false⟩, .extract .text .required⟩]

def nodeNamedRecord : Record := ⟨"T", [("node1", .text "1"), ("b", .text "2")]⟩

def nodeNamedDocument : Document :=
  .ofContent (.element ⟨none, "a", [⟨none, "x", "1"⟩, ⟨none, "y", "2"⟩], {}⟩ .nil .nil)

theorem locatorEvaluator_of_eval {text : String} {expr : Expr} {document : Document}
    {items : List Item} (htrim : trimBlank text = text) (hne : text.isEmpty = false)
    (hparse : Parser.parse text = .ok expr)
    (heval : expr.eval document Locator.rootContext = .ok (.nodes items)) :
    locatorEvaluator text document = .ok items.head? := by
  have hcompile : Locator.compile text = .ok ⟨text, expr⟩ := by
    simp [Locator.compile, htrim, hne, hparse, ok_bind]
  simp only [locatorEvaluator, hcompile, Locator.selectFirst, Locator.select, heval, ok_bind]
  rfl

/-- The step to the element `a` at the root, and that to its attributes of a name. -/
def attributeExpr (name : String) : Expr :=
  .path .root [.mk .child (.name none (some "a")) [], .mk .attributes (.name none (some name)) []]

theorem locatorEvaluator_nodeNamedDocument :
    locatorEvaluator "/a/@x" nodeNamedDocument = .ok (some (.attribute 1 0)) ∧
    locatorEvaluator "/a/@y" nodeNamedDocument = .ok (some (.attribute 1 1)) := by
  have hparseFirst : Parser.parse "/a/@x" = .ok (attributeExpr "x") := by cbv
  have hparseSecond : Parser.parse "/a/@y" = .ok (attributeExpr "y") := by cbv
  have hfirst : (attributeExpr "x").eval nodeNamedDocument Locator.rootContext =
      .ok (.nodes [.attribute 1 0]) := by cbv
  have hsecond : (attributeExpr "y").eval nodeNamedDocument Locator.rootContext =
      .ok (.nodes [.attribute 1 1]) := by cbv
  exact ⟨locatorEvaluator_of_eval (by cbv) (by cbv) hparseFirst hfirst,
    locatorEvaluator_of_eval (by cbv) (by cbv) hparseSecond hsecond⟩

/-- The listing passes the node of the second step where the record has the value of the first. -/
theorem node_reaches_constructor :
    nodeNamedSchema.assemble = .ok nodeNamedPlan ∧
    nodeNamedPlan.program.text = nodeNamedPlan.listing ∧
    nodeNamedPlan.program =
      ⟨[⟨"node0", "/a/@x", "node1", .required .text "node0"⟩,
        ⟨"node1", "/a/@y", "b", .required .text "node1"⟩], "T", ["node1", "b"]⟩ ∧
    ((Factory.ofPlan nodeNamedPlan).readDocument
      (.ofBytes (Utf8.encode "<a x='1' y='2'/>"))).1 = .ok nodeNamedDocument ∧
    (Factory.ofPlan nodeNamedPlan).construct "<a x='1' y='2'/>" = .ok nodeNamedRecord ∧
    nodeNamedPlan.program.run locatorEvaluator nodeNamedDocument =
      some ("T", [.node (some (.attribute 1 1)), .value (.text "2")]) ∧
    nodeNamedPlan.program.run locatorEvaluator nodeNamedDocument ≠
      some ("T", nodeNamedRecord.values.map Bound.value) := by
  obtain ⟨hfirst, hsecond⟩ := locatorEvaluator_nodeNamedDocument
  have hplan : nodeNamedSchema.assemble = .ok nodeNamedPlan := by rfl
  have hdocument : ((Factory.ofPlan nodeNamedPlan).readDocument
      (.ofBytes (Utf8.encode "<a x='1' y='2'/>"))).1 = .ok nodeNamedDocument := by cbv
  have hfields : extractAll locatorEvaluator nodeNamedDocument nodeNamedPlan.steps =
      .ok nodeNamedRecord.fields := by
    simp only [nodeNamedPlan, extractAll, Step.extract, hfirst, hsecond]
    cbv
  have hrecord : (Factory.ofPlan nodeNamedPlan).outcome (.ok nodeNamedDocument) =
      .ok nodeNamedRecord := by
    simp only [Factory.outcome, Factory.realize, Factory.ofPlan, hfields, ok_bind]
    rfl
  have hreceived : received locatorEvaluator nodeNamedDocument nodeNamedPlan.steps
      nodeNamedRecord.fields = [.node (some (.attribute 1 1)), .value (.text "2")] := by
    have hname : "node" ++ Nat.repr 1 = "node1" := by decide
    simp [nodeNamedPlan, nodeNamedRecord, received, foundBy, Step.nodeBinding, Step.valueBinding,
      hname, hsecond, Except.toOption]
  have hrun := Plan.run_program hplan hfields
  rw [hreceived] at hrun
  refine ⟨hplan, nodeNamedPlan.listing_eq.symm, by decide, hdocument, ?_, hrun, ?_⟩
  · rw [← hdocument] at hrecord
    exact hrecord
  · rw [hrun]
    decide

end RecordExtraction
