import Mathlib.Data.List.TakeWhile
import RecordExtraction.Proofs.Plan.Resolution
import RecordExtraction.Proofs.Text.Quoted

/-!
# Listings as programs

The listing of a plan is the text of a program without branches back: for every step it looks up a
node and makes a value of it, and at its end it calls a constructor.  The text determines the
program, although the name of the type in the call may be any text.
-/

namespace RecordExtraction
namespace Listing

/-! ## Programs and their texts -/

/-- What is assigned to the name of a value. -/
inductive Reading where
  | unsupported (typeName : String)
  | required (kind : ScalarKind) (node : String)
  | nullable (tested : String) (kind : ScalarKind) (node : String)
deriving DecidableEq

/-- The text of a node, read as a value of a kind. -/
def readingText (node : String) : ScalarKind → String
  | .text => node ++ ".text()"
  | kind => kind.name ++ "::parse(" ++ node ++ ".text())"

def Reading.text : Reading → String
  | unsupported typeName => "unsupported(" ++ typeName ++ ")"
  | required kind node => readingText node kind
  | nullable tested kind node =>
      "if " ++ tested ++ " is absent \x7b null \x7d else \x7b " ++ readingText node kind ++ " \x7d"

/-- Two lines: the assignment of a node and that of a value. -/
structure Assignments where
  node : String
  locator : String
  value : String
  reading : Reading
deriving DecidableEq

def Assignments.text (lines : Assignments) : String :=
  lines.node ++ " = evaluate(path, " ++ quoted lines.locator ++ ", document)\n" ++
    lines.value ++ " = " ++ lines.reading.text

/-- Assignments, and the call of a constructor with the values of some names. -/
structure Program where
  assignments : List Assignments
  typeName : String
  arguments : List String
deriving DecidableEq

def Program.callText (program : Program) : String :=
  "return " ++ program.typeName ++ "(" ++ String.intercalate ", " program.arguments ++ ")"

def Program.text (program : Program) : String :=
  String.join (program.assignments.map fun lines => lines.text ++ "\n") ++ program.callText

/-! ## The program of a plan -/

end Listing

open Listing

def Step.readingOf (step : Step) : Reading :=
  match step.strategy with
  | .unsupported typeName => .unsupported typeName
  | .extract kind .required => .required kind step.nodeBinding
  | .extract kind .nullable => .nullable step.nodeBinding kind step.nodeBinding

def Step.assignments (step : Step) : Assignments where
  node := step.nodeBinding
  locator := step.locator
  value := step.valueBinding
  reading := step.readingOf

def Plan.program (plan : Plan) : Program where
  assignments := plan.steps.map Step.assignments
  typeName := plan.typeName
  arguments := plan.arguments

theorem Step.reading_eq (step : Step) (kind : ScalarKind) :
    step.reading kind = readingText step.nodeBinding kind := by
  cases kind <;> rfl

theorem Step.listing_eq (step : Step) : step.listing = step.assignments.text := by
  have hvalue : step.valueListing = step.readingOf.text := by
    rcases hstrategy : step.strategy with typeName | ⟨kind, _ | _⟩ <;>
      simp [Step.valueListing, Step.readingOf, Reading.text, Step.reading_eq, hstrategy]
  rw [Step.listing, hvalue]
  rfl

theorem Plan.listing_eq (plan : Plan) : plan.listing = plan.program.text := by
  simp [Plan.listing, Program.text, Plan.program, Step.listing_eq, Function.comp_def]
  rfl

namespace Listing

/-! ## Programs that can be read back -/

/-- The names are identifiers, and there is no type that is not supported. -/
def Reading.WellFormed : Reading → Prop
  | unsupported _ => False
  | required _ node => isIdentifier node = true
  | nullable tested _ node => isIdentifier tested = true ∧ isIdentifier node = true

/-- The names are identifiers, and the first line is not taken for the call of a constructor. -/
structure Assignments.WellFormed (lines : Assignments) : Prop where
  node : isIdentifier lines.node = true
  node_ne : lines.node ≠ "return"
  value : isIdentifier lines.value = true
  reading : lines.reading.WellFormed

structure Program.WellFormed (program : Program) : Prop where
  assignments : ∀ lines ∈ program.assignments, lines.WellFormed
  arguments : ∀ argument ∈ program.arguments, isIdentifier argument = true

variable {rest rest' : List Char}

theorem isIdentifierPart_of_mem {name : String} (hname : isIdentifier name = true) :
    ∀ c ∈ name.toList, isIdentifierPart c = true := by
  rw [isIdentifier] at hname
  split at hname
  · cases hname
  · next c rest hchars =>
      rw [Bool.and_eq_true, List.all_eq_true] at hname
      rw [hchars]
      intro d hd
      rcases List.mem_cons.mp hd with rfl | hd
      · rw [isIdentifierStart, Bool.or_eq_true] at hname
        rw [isIdentifierPart, Char.isAlphanum]
        rcases hname.1 with hletter | hline
        · simp [hletter]
        · simp [hline]
      · exact hname.2 d hd

/-- Names that are identifiers end where another character comes. -/
theorem identifier_append_inj {name other : String} (hname : isIdentifier name = true)
    (hother : isIdentifier other = true) (hrest : ∀ c ∈ rest.head?, isIdentifierPart c = false)
    (hrest' : ∀ c ∈ rest'.head?, isIdentifierPart c = false)
    (hsame : name.toList ++ rest = other.toList ++ rest') :
    name = other ∧ rest = rest' := by
  obtain ⟨hchars, hrests⟩ := append_inj_of_stop (isIdentifierPart_of_mem hname)
    (isIdentifierPart_of_mem hother) hrest hrest' hsame
  exact ⟨String.toList_inj.mp hchars, hrests⟩

theorem kind_of_name {kind other : ScalarKind} (hname : kind.name = other.name) : kind = other := by
  have hall : ∀ kind ∈ ScalarKind.all, ∀ other ∈ ScalarKind.all,
      kind.name = other.name → kind = other := by decide
  exact hall kind kind.mem_all other other.mem_all hname

theorem isIdentifier_kindName (kind : ScalarKind) : isIdentifier kind.name = true := by
  have hall : ∀ kind ∈ ScalarKind.all, isIdentifier kind.name = true := by decide
  exact hall kind kind.mem_all

/-! ## Reading values back -/

theorem readingText_of_ne (node : String) {kind : ScalarKind} (hkind : kind ≠ .text) :
    readingText node kind = kind.name ++ "::parse(" ++ node ++ ".text())" := by
  cases kind with
  | text => exact absurd rfl hkind
  | _ => rfl

/-- A reading begins with an identifier and a point or a colon. -/
theorem exists_readingText {node : String} (hnode : isIdentifier node = true)
    (kind : ScalarKind) :
    ∃ name c more, isIdentifier name = true ∧ (c = '.' ∨ c = ':') ∧
      (readingText node kind).toList = name.toList ++ c :: more := by
  by_cases hkind : kind = .text
  · subst hkind
    exact ⟨node, '.', "text()".toList, hnode, .inl rfl, by simp [readingText]⟩
  · refine ⟨kind.name, ':', (":parse(" ++ node ++ ".text())").toList, isIdentifier_kindName kind,
      .inr rfl, ?_⟩
    simp [readingText_of_ne node hkind]

theorem readingText_append_inj {node other : String} {kind kind' : ScalarKind}
    (hnode : isIdentifier node = true) (hother : isIdentifier other = true)
    (hsame : (readingText node kind).toList ++ rest = (readingText other kind').toList ++ rest') :
    kind = kind' ∧ node = other ∧ rest = rest' := by
  have hpoint : isIdentifierPart '.' = false := by decide
  have hcolon : isIdentifierPart ':' = false := by decide
  by_cases hkind : kind = .text
  · by_cases hkind' : kind' = .text
    · subst hkind hkind'
      simp only [readingText, String.toList_append, List.append_assoc] at hsame
      obtain ⟨hnames, hrests⟩ := identifier_append_inj hnode hother (by simp [hpoint])
        (by simp [hpoint]) hsame
      exact ⟨rfl, hnames, List.append_cancel_left hrests⟩
    · subst hkind
      rw [readingText_of_ne other hkind'] at hsame
      simp only [readingText, String.toList_append, List.append_assoc] at hsame
      obtain ⟨-, hrests⟩ := identifier_append_inj hnode (isIdentifier_kindName kind')
        (by simp [hpoint]) (by simp [hcolon]) hsame
      simp at hrests
  · by_cases hkind' : kind' = .text
    · subst hkind'
      rw [readingText_of_ne node hkind] at hsame
      simp only [readingText, String.toList_append, List.append_assoc] at hsame
      obtain ⟨-, hrests⟩ := identifier_append_inj (isIdentifier_kindName kind) hother
        (by simp [hcolon]) (by simp [hpoint]) hsame
      simp at hrests
    · rw [readingText_of_ne node hkind, readingText_of_ne other hkind'] at hsame
      simp only [String.toList_append, List.append_assoc] at hsame
      obtain ⟨hkinds, hrests⟩ := identifier_append_inj (isIdentifier_kindName kind)
        (isIdentifier_kindName kind') (by simp [hcolon]) (by simp [hcolon]) hsame
      obtain ⟨hnames, hrests⟩ := identifier_append_inj hnode hother (by simp [hpoint])
        (by simp [hpoint]) (List.append_cancel_left hrests)
      exact ⟨kind_of_name hkinds, hnames, List.append_cancel_left hrests⟩

/-- Where a node is tested first, the text does not begin like one of a reading. -/
theorem readingText_append_ne_if {node tested : String} {kind : ScalarKind}
    (hnode : isIdentifier node = true) :
    (readingText node kind).toList ++ rest ≠ "if ".toList ++ (tested.toList ++ rest') := by
  intro hsame
  obtain ⟨name, c, more, hname, hc, htext⟩ := exists_readingText hnode kind
  have hkeyword : isIdentifier "if" = true := by decide
  have hif : "if ".toList ++ (tested.toList ++ rest') =
      "if".toList ++ (' ' :: (tested.toList ++ rest')) := by simp
  rw [htext, hif, List.append_assoc] at hsame
  obtain ⟨-, hrests⟩ := identifier_append_inj hname hkeyword
    (by rcases hc with rfl | rfl <;> simp [isIdentifierPart])
    (by simp; decide) hsame
  rcases hc with rfl | rfl <;> simp at hrests

theorem Reading.text_append_inj {reading other : Reading} (hreading : reading.WellFormed)
    (hother : other.WellFormed) (hsame : reading.text.toList ++ rest = other.text.toList ++ rest') :
    reading = other ∧ rest = rest' := by
  cases reading with
  | unsupported typeName => exact absurd hreading (by simp [WellFormed])
  | required kind node =>
      cases other with
      | unsupported typeName => exact absurd hother (by simp [WellFormed])
      | required kind' node' =>
          obtain ⟨rfl, rfl, hrests⟩ := readingText_append_inj hreading hother hsame
          exact ⟨rfl, hrests⟩
      | nullable tested kind' node' =>
          simp only [Reading.text, String.toList_append, List.append_assoc] at hsame
          exact absurd hsame (readingText_append_ne_if hreading)
  | nullable tested kind node =>
      cases other with
      | unsupported typeName => exact absurd hother (by simp [WellFormed])
      | required kind' node' =>
          simp only [Reading.text, String.toList_append, List.append_assoc] at hsame
          exact absurd hsame.symm (readingText_append_ne_if hother)
      | nullable tested' kind' node' =>
          simp only [Reading.text, String.toList_append, List.append_assoc] at hsame
          have hspace : isIdentifierPart ' ' = false := by decide
          obtain ⟨rfl, htested⟩ := identifier_append_inj hreading.1 hother.1 (by simp [hspace])
            (by simp [hspace]) (List.append_cancel_left hsame)
          obtain ⟨rfl, rfl, hread⟩ := readingText_append_inj hreading.2 hother.2
            (List.append_cancel_left htested)
          exact ⟨rfl, List.append_cancel_left hread⟩

theorem Assignments.text_append_inj {lines other : Assignments} (hlines : lines.WellFormed)
    (hother : other.WellFormed) (hsame : lines.text.toList ++ rest = other.text.toList ++ rest') :
    lines = other ∧ rest = rest' := by
  have hspace : isIdentifierPart ' ' = false := by decide
  obtain ⟨node, locator, value, reading⟩ := lines
  obtain ⟨node', locator', value', reading'⟩ := other
  simp only [Assignments.text, String.toList_append, List.append_assoc] at hsame
  obtain ⟨rfl, hlocators⟩ := identifier_append_inj hlines.node hother.node (by simp [hspace])
    (by simp [hspace]) hsame
  have hquoted := List.append_cancel_left hlocators
  obtain ⟨rfl, hvalues⟩ := quoted_append_inj hquoted
  have hnames := List.append_cancel_left hvalues
  obtain ⟨rfl, hreadings⟩ := identifier_append_inj hlines.value hother.value (by simp [hspace])
    (by simp [hspace]) hnames
  obtain ⟨rfl, hrests⟩ := Reading.text_append_inj hlines.reading hother.reading
    (List.append_cancel_left hreadings)
  exact ⟨rfl, hrests⟩

/-! ## Reading programs back -/

/-- The arguments after the first one, each with the separator before it. -/
def laterArguments (arguments : List String) : List Char :=
  arguments.flatMap fun argument => ", ".toList ++ argument.toList

theorem toList_arguments (argument : String) (arguments : List String) :
    (String.intercalate ", " (argument :: arguments)).toList =
      argument.toList ++ laterArguments arguments := by
  induction arguments generalizing argument with
  | nil => simp [laterArguments]
  | cons next arguments ih =>
      rw [String.intercalate_cons_cons, String.toList_append, ih]
      simp [laterArguments]

theorem isIdentifierPart_laterArguments (arguments : List String) :
    ∀ c ∈ (laterArguments arguments).head?, isIdentifierPart c = false := by
  have hcomma : isIdentifierPart ',' = false := by decide
  cases arguments <;> simp [laterArguments, hcomma]

theorem laterArguments_inj {arguments others : List String}
    (harguments : ∀ argument ∈ arguments, isIdentifier argument = true)
    (hothers : ∀ argument ∈ others, isIdentifier argument = true)
    (hsame : laterArguments arguments = laterArguments others) :
    arguments = others := by
  induction arguments generalizing others with
  | nil =>
      cases others with
      | nil => rfl
      | cons other others => simp [laterArguments] at hsame
  | cons argument arguments ih =>
      cases others with
      | nil => simp [laterArguments] at hsame
      | cons other others =>
          rw [List.forall_mem_cons] at harguments hothers
          simp only [laterArguments, List.flatMap_cons, List.append_assoc] at hsame
          obtain ⟨rfl, hlater⟩ := identifier_append_inj harguments.1 hothers.1
            (isIdentifierPart_laterArguments arguments) (isIdentifierPart_laterArguments others)
            (List.append_cancel_left hsame)
          rw [ih harguments.2 hothers.2 hlater]

theorem arguments_inj {arguments others : List String}
    (harguments : ∀ argument ∈ arguments, isIdentifier argument = true)
    (hothers : ∀ argument ∈ others, isIdentifier argument = true)
    (hsame : (String.intercalate ", " arguments).toList =
      (String.intercalate ", " others).toList) :
    arguments = others := by
  have hne : ∀ {name : String} {more : List Char}, isIdentifier name = true →
      name.toList ++ more ≠ [] := by
    intro name more hname hempty
    rw [List.append_eq_nil_iff] at hempty
    simp [isIdentifier, hempty.1] at hname
  cases arguments with
  | nil =>
      cases others with
      | nil => rfl
      | cons other others =>
          rw [toList_arguments] at hsame
          exact absurd hsame.symm (hne (hothers other List.mem_cons_self))
  | cons argument arguments =>
      cases others with
      | nil =>
          rw [toList_arguments] at hsame
          exact absurd hsame (hne (harguments argument List.mem_cons_self))
      | cons other others =>
          rw [List.forall_mem_cons] at harguments hothers
          rw [toList_arguments, toList_arguments] at hsame
          obtain ⟨rfl, hlater⟩ := identifier_append_inj harguments.1 hothers.1
            (isIdentifierPart_laterArguments arguments) (isIdentifierPart_laterArguments others)
            hsame
          rw [laterArguments_inj harguments.2 hothers.2 hlater]

theorem not_mem_arguments {arguments : List String}
    (harguments : ∀ argument ∈ arguments, isIdentifier argument = true) :
    '(' ∉ (String.intercalate ", " arguments).toList := by
  have hname : ∀ {name : String}, isIdentifier name = true → '(' ∉ name.toList := by
    intro name hname hmem
    exact absurd (isIdentifierPart_of_mem hname '(' hmem) (by decide)
  cases arguments with
  | nil => simp
  | cons argument arguments =>
      rw [List.forall_mem_cons] at harguments
      rw [toList_arguments, List.mem_append, not_or]
      refine ⟨hname harguments.1, ?_⟩
      simp only [laterArguments, List.mem_flatMap, List.mem_append, not_exists, not_and, not_or]
      intro later hlater
      exact ⟨by decide, hname (harguments.2 later hlater)⟩

theorem Program.callText_inj {program other : Program} (hprogram : program.WellFormed)
    (hother : other.WellFormed) (hsame : program.callText = other.callText) :
    program.typeName = other.typeName ∧ program.arguments = other.arguments := by
  have hsplit : ∀ program : Program, program.callText.toList =
      "return ".toList ++ (program.typeName.toList ++
        '(' :: ((String.intercalate ", " program.arguments).toList ++ [')'])) := by
    intro program
    simp [Program.callText]
  -- No argument has a parenthesis, so the last one that opens ends the name of the type.
  have hbehind : ∀ program : Program, program.WellFormed →
      '(' ∉ (String.intercalate ", " program.arguments).toList ++ [')'] := by
    intro program hprogram
    simpa using not_mem_arguments hprogram.arguments
  have hchars := congrArg String.toList hsame
  rw [hsplit, hsplit] at hchars
  obtain ⟨hnames, harguments⟩ := append_cons_inj_of_not_mem (hbehind program hprogram)
    (hbehind other hother) (List.append_cancel_left hchars)
  exact ⟨String.toList_inj.mp hnames,
    arguments_inj hprogram.arguments hother.arguments (List.append_cancel_right harguments)⟩

theorem Assignments.WellFormed.text_ne_callText {lines : Assignments} (hlines : lines.WellFormed)
    (program : Program) :
    lines.text.toList ++ rest ≠ program.callText.toList := by
  intro hsame
  have hspace : isIdentifierPart ' ' = false := by decide
  have hcall : program.callText.toList = "return".toList ++ ' ' ::
      (program.typeName ++ "(" ++ String.intercalate ", " program.arguments ++ ")").toList := by
    simp [Program.callText]
  rw [hcall] at hsame
  simp only [Assignments.text, String.toList_append, List.append_assoc] at hsame
  obtain ⟨hname, -⟩ := identifier_append_inj hlines.node (by decide) (by simp [hspace])
    (by simp [hspace]) hsame
  exact hlines.node_ne hname

theorem Program.text_cons (lines : Assignments) (later : List Assignments) (typeName : String)
    (arguments : List String) :
    (Program.mk (lines :: later) typeName arguments).text.toList =
      lines.text.toList ++ '\n' :: (Program.mk later typeName arguments).text.toList := by
  simp [text, callText]

theorem Program.text_nil (typeName : String) (arguments : List String) :
    (Program.mk [] typeName arguments).text = (Program.mk [] typeName arguments).callText := by
  simp [text]

/-- The text of a program determines the program. -/
theorem Program.text_inj {program other : Program} (hprogram : program.WellFormed)
    (hother : other.WellFormed) (hsame : program.text = other.text) :
    program = other := by
  obtain ⟨assignments, typeName, arguments⟩ := program
  obtain ⟨assignments', typeName', arguments'⟩ := other
  induction assignments generalizing assignments' with
  | nil =>
      cases assignments' with
      | nil =>
          rw [text_nil, text_nil] at hsame
          obtain ⟨rfl, rfl⟩ := Program.callText_inj hprogram hother hsame
          rfl
      | cons lines' later' =>
          have hchars := congrArg String.toList hsame
          rw [text_nil, text_cons] at hchars
          have hlines := hother.assignments lines' List.mem_cons_self
          exact absurd hchars.symm (hlines.text_ne_callText _)
  | cons lines later ih =>
      have hlines := hprogram.assignments lines List.mem_cons_self
      have hchars := congrArg String.toList hsame
      cases assignments' with
      | nil =>
          rw [text_nil, text_cons] at hchars
          exact absurd hchars (hlines.text_ne_callText _)
      | cons lines' later' =>
          rw [text_cons, text_cons] at hchars
          obtain ⟨rfl, hrests⟩ := Assignments.text_append_inj hlines
            (hother.assignments lines' List.mem_cons_self) hchars
          rw [List.cons.injEq, String.toList_inj] at hrests
          have hlater := ih
            ⟨fun other hmem => hprogram.assignments other (List.mem_cons_of_mem _ hmem),
              hprogram.arguments⟩ later'
            ⟨fun other hmem => hother.assignments other (List.mem_cons_of_mem _ hmem),
              hother.arguments⟩ hrests.2
          cases hlater
          rfl

end Listing

/-! ## Plans of schemas -/

theorem Step.toList_nodeBinding (step : Step) :
    step.nodeBinding.toList = "node".toList ++ Nat.toDigits 10 step.index := by
  simp [Step.nodeBinding]

theorem Step.index_of_nodeBinding {step other : Step}
    (hname : step.nodeBinding = other.nodeBinding) :
    step.index = other.index := by
  have hchars := congrArg String.toList hname
  rw [step.toList_nodeBinding, other.toList_nodeBinding] at hchars
  have hnumber := congrArg (fun digits => Nat.ofDigitChars 10 digits 0)
    (List.append_cancel_left hchars)
  simpa using hnumber

theorem Step.isIdentifier_nodeBinding (step : Step) : isIdentifier step.nodeBinding = true := by
  have hdigits : ∀ c ∈ Nat.toDigits 10 step.index, isIdentifierPart c = true := by
    intro c hc
    have hdigit := Nat.isDigit_of_mem_toDigits (by decide) (by decide) hc
    simp [isIdentifierPart, Char.isAlphanum, hdigit]
  have hword : isIdentifierStart 'n' = true ∧ isIdentifierPart 'o' = true ∧
      isIdentifierPart 'd' = true ∧ isIdentifierPart 'e' = true := by decide
  simpa [isIdentifier, step.toList_nodeBinding, hword] using hdigits

theorem Step.wellFormed_assignments {step : Step} {kind : ScalarKind} {guard : NullGuard}
    (hproperty : isIdentifier step.property = true)
    (hstrategy : step.strategy = .extract kind guard) :
    step.assignments.WellFormed where
  node := step.isIdentifier_nodeBinding
  node_ne := by
    intro hname
    have hchars := congrArg String.toList hname
    rw [Step.assignments, step.toList_nodeBinding] at hchars
    simp at hchars
  value := hproperty
  reading := by
    have hnode := step.isIdentifier_nodeBinding
    cases guard <;>
      simp [Step.assignments, Step.readingOf, hstrategy, Reading.WellFormed, hnode]

/-- The program of the plan of a schema can be read back from the listing of the plan. -/
theorem Schema.wellFormed_program {schema : Schema} {plan : Plan}
    (hplan : schema.assemble = .ok plan) :
    plan.program.WellFormed := by
  obtain ⟨-, hsteps⟩ := Schema.steps_of_assemble hplan
  constructor
  · intro lines hlines
    obtain ⟨step, hstep, rfl⟩ := List.mem_map.mp hlines
    obtain ⟨property, hproperty, kind, hextracts⟩ := exists_mem_of_forall₂ hsteps.flip hstep
    apply Step.wellFormed_assignments _ hextracts.strategy
    rw [hextracts.name]
    exact Schema.isIdentifier_name hproperty
  · intro argument hargument
    change argument ∈ plan.arguments at hargument
    rw [Schema.arguments_of_assemble hplan] at hargument
    obtain ⟨property, hproperty, rfl⟩ := List.mem_map.mp hargument
    exact Schema.isIdentifier_name hproperty

theorem Schema.indices_of_assemble {schema : Schema} {plan : Plan}
    (hplan : schema.assemble = .ok plan) :
    plan.steps.map Step.index = List.range schema.properties.length := by
  rw [(assemble_eq_ok_iff.mp hplan).2]
  apply List.ext_getElem
  · simp
  · intro i _ _
    simp [Property.resolve]

theorem Schema.nodup_nodeBindings {schema : Schema} {plan : Plan}
    (hplan : schema.assemble = .ok plan) :
    (plan.steps.map Step.nodeBinding).Nodup := by
  have hindices : (plan.steps.map Step.index).Nodup := by
    rw [Schema.indices_of_assemble hplan]
    exact List.nodup_range
  have hpairs := List.pairwise_map.mp hindices
  exact List.pairwise_map.mpr
    (hpairs.imp fun hne hname => hne (Step.index_of_nodeBinding hname))

theorem Schema.nodup_valueBindings {schema : Schema} {plan : Plan}
    (hplan : schema.assemble = .ok plan) :
    (plan.steps.map Step.valueBinding).Nodup := by
  have harguments := Schema.arguments_of_assemble hplan
  rw [Plan.arguments] at harguments
  rw [harguments]
  exact schema.nodup_names

end RecordExtraction
