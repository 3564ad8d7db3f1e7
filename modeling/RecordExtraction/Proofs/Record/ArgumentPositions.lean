import Mathlib
import RecordExtraction.Proofs.Extraction.TypedRecords

/-!
# Arguments are handed out by position

Every call for an argument moves on to the next field of the record, whether it succeeds or not.  So
what a call gets depends on its position among the calls and on the field at this position alone,
and behind the last field there is nothing to get.  A constructor makes one call for each parameter
and stops at the first that fails; if none does, no field may be left.
-/

namespace RecordExtraction

/-! ## What a parameter accepts -/

namespace ParameterType

/-- The kind of values inside all options. -/
def kind : ParameterType → ScalarKind
  | scalar kind => kind
  | option inner => inner.kind

def isOption : ParameterType → Bool
  | scalar _ => false
  | option _ => true

/-- Null fits every option.  Any other value has to be of the kind inside all options. -/
def Accepts (parameter : ParameterType) (value : FieldValue) : Prop :=
  if value = .null then parameter.isOption = true else value.kind? = some parameter.kind

instance (parameter : ParameterType) (value : FieldValue) : Decidable (parameter.Accepts value) :=
  inferInstanceAs (Decidable (if value = .null then _ else _))

/-- The argument that a parameter makes of a value that it accepts. -/
def argument : ParameterType → FieldValue → Argument
  | scalar _, value => .value value
  | option inner, value => if value = .null then .absent else .present (inner.argument value)

variable {parameter : ParameterType} {value : FieldValue}

theorem isNull_iff : value.isNull = true ↔ value = .null := by
  cases value <;> simp [FieldValue.isNull, FieldValue.kind?]

theorem accept?_eq (parameter : ParameterType) (value : FieldValue) :
    parameter.accept? value =
      if parameter.Accepts value then some (parameter.argument value) else none := by
  unfold Accepts
  by_cases hnull : value = .null
  · subst value
    cases parameter <;>
      simp [accept?, argument, isOption, FieldValue.isNull, FieldValue.kind?]
  · simp only [if_neg hnull]
    induction parameter with
    | scalar kind => rfl
    | option inner ih =>
        have hvalue : ¬value.isNull = true := by rwa [isNull_iff]
        rw [accept?, if_neg hvalue, ih, argument, if_neg hnull, ParameterType.kind]
        split <;> rfl

end ParameterType

/-! ## Calls one after the other -/

/-- What a call gets from a record at its position. -/
def Record.handed (record : Record) (position : Nat) (parameter : ParameterType) :
    Except RecordError Argument :=
  match record.fields[position]? with
  | none => .error (.missingArgument record.typeName record.fields.length)
  | some (name, value) =>
      if parameter.Accepts value then .ok (parameter.argument value)
      else .error (.typeMismatch record.typeName name parameter.expected value.kindName)

theorem Record.handed_eq_ok_iff {record : Record} {position : Nat} {parameter : ParameterType}
    {argument : Argument} :
    record.handed position parameter = .ok argument ↔
      ∃ value, record.values[position]? = some value ∧ parameter.Accepts value ∧
        parameter.argument value = argument := by
  simp only [handed, values, List.getElem?_map]
  cases record.fields[position]? with
  | none => simp
  | some field =>
      by_cases haccepts : parameter.Accepts field.2
      · simp [haccepts]
      · simp [haccepts]

namespace Arguments

/-- The outcomes of calls one after the other, each with what is left after it. -/
def calls (arguments : Arguments) :
    List ParameterType → List (Except RecordError Argument × Arguments)
  | [] => []
  | parameter :: rest =>
      arguments.next parameter :: (arguments.next parameter).2.calls rest

/-- What is left of the arguments of a record after the given number of calls. -/
structure After (record : Record) (count : Nat) (arguments : Arguments) : Prop where
  typeName : arguments.typeName = record.typeName
  consumed : arguments.consumed = min count record.fields.length
  fields : arguments.fields = record.fields.drop count

variable {record : Record} {count : Nat} {arguments : Arguments}

theorem after_toArguments (record : Record) : After record 0 record.toArguments := by
  constructor <;> simp [Record.toArguments]

theorem After.consumed_add_remaining (hafter : After record count arguments) :
    arguments.consumed + arguments.remaining = record.fields.length := by
  rw [remaining, hafter.consumed, hafter.fields, List.length_drop]
  omega

theorem After.cons (hafter : After record count arguments) {field : String × FieldValue}
    {rest : List (String × FieldValue)} (hfields : arguments.fields = field :: rest) :
    record.fields[count]? = some field ∧
      After record (count + 1) ⟨arguments.typeName, arguments.consumed + 1, rest⟩ := by
  have hdrop : record.fields.drop count = field :: rest := by
    rw [← hafter.fields, hfields]
  have hfield : record.fields[count]? = some field := by
    rw [← List.head?_drop, hdrop]
    rfl
  refine ⟨hfield, hafter.typeName, ?_, ?_⟩
  · have hlt : count < record.fields.length := (List.getElem?_eq_some_iff.mp hfield).1
    have hconsumed := hafter.consumed
    dsimp only
    omega
  · rw [← List.tail_drop, hdrop]
    rfl

theorem After.nil (hafter : After record count arguments) (hfields : arguments.fields = []) :
    record.fields.length ≤ count ∧ arguments.consumed = record.fields.length ∧
      After record (count + 1) arguments := by
  have hend : record.fields.length ≤ count := by
    rw [← List.drop_eq_nil_iff, ← hafter.fields, hfields]
  have hconsumed := hafter.consumed
  refine ⟨hend, by omega, hafter.typeName, by omega, ?_⟩
  rw [hfields, List.drop_eq_nil_of_le (by omega)]

/-- A call gets what stands at its position and moves on, whatever it gets. -/
theorem After.next (hafter : After record count arguments) (parameter : ParameterType) :
    (arguments.next parameter).1 = record.handed count parameter ∧
      After record (count + 1) (arguments.next parameter).2 := by
  unfold Arguments.next Record.handed
  split
  · next hfields =>
      rcases hafter.nil hfields with ⟨hend, hconsumed, hlater⟩
      rw [List.getElem?_eq_none hend, hafter.typeName, hconsumed]
      exact ⟨rfl, hlater⟩
  · next name value rest hfields =>
      rcases hafter.cons hfields with ⟨hfield, hlater⟩
      rw [hafter.typeName] at hlater ⊢
      rw [hfield, ParameterType.accept?_eq]
      by_cases haccepts : parameter.Accepts value
      · simp only [if_pos haccepts, true_and]
        exact hlater
      · simp only [if_neg haccepts, true_and]
        exact hlater

theorem After.outcomes_calls (hafter : After record count arguments)
    (parameters : List ParameterType) :
    (arguments.calls parameters).map Prod.fst =
      parameters.mapIdx fun position => record.handed (count + position) := by
  induction parameters generalizing arguments count with
  | nil => rfl
  | cons parameter rest ih =>
      rcases hafter.next parameter with ⟨houtcome, hlater⟩
      rw [calls, List.map_cons, List.mapIdx_cons, houtcome, ih hlater]
      simp only [Nat.add_zero, Nat.add_assoc, Nat.add_comm 1]

theorem After.of_mem_calls (hafter : After record count arguments)
    {parameters : List ParameterType} {call : Except RecordError Argument × Arguments}
    (hcall : call ∈ arguments.calls parameters) :
    ∃ later, After record later call.2 := by
  induction parameters generalizing arguments count with
  | nil => cases hcall
  | cons parameter rest ih =>
      have hlater := (hafter.next parameter).2
      rw [calls, List.mem_cons] at hcall
      rcases hcall with rfl | hcall
      · exact ⟨count + 1, hlater⟩
      · exact ih hlater hcall

end Arguments

/-! ## Constructors -/

/-- Each parameter accepts the value at its position, counted from the given one. -/
def Record.FitsFrom (record : Record) (first : Nat) (parameters : List ParameterType) : Prop :=
  ∀ position parameter, parameters[position]? = some parameter →
    ∃ value, record.values[first + position]? = some value ∧ parameter.Accepts value

namespace Arguments

variable {record : Record} {count : Nat} {arguments : Arguments}

theorem fitsFrom_nil : record.FitsFrom count [] := by
  intro position parameter hparameter
  rw [List.getElem?_nil] at hparameter
  cases hparameter

theorem fitsFrom_cons {parameter : ParameterType} {rest : List ParameterType} :
    record.FitsFrom count (parameter :: rest) ↔
      (∃ argument, record.handed count parameter = .ok argument) ∧
        record.FitsFrom (count + 1) rest := by
  simp only [Record.handed_eq_ok_iff]
  constructor
  · intro hfits
    constructor
    · rcases hfits 0 parameter rfl with ⟨value, hvalue, haccepts⟩
      exact ⟨_, value, hvalue, haccepts, rfl⟩
    · intro position other hother
      have hlater := hfits (position + 1) other hother
      rwa [Nat.add_right_comm]
  · rintro ⟨⟨_, value, hvalue, haccepts, -⟩, hlater⟩ position other hother
    cases position with
    | zero =>
        cases hother
        exact ⟨value, hvalue, haccepts⟩
    | succ position =>
        have hfits := hlater position other hother
        rwa [Nat.add_right_comm] at hfits

theorem After.takeAll_cons (hafter : After record count arguments) (parameter : ParameterType)
    (rest : List ParameterType) :
    arguments.takeAll (parameter :: rest) =
      record.handed count parameter >>= fun argument =>
        ((arguments.next parameter).2.takeAll rest).map (argument :: ·) := by
  rw [takeAll, ← (hafter.next parameter).1]
  rcases arguments.next parameter with ⟨outcome, left⟩
  cases outcome <;> rfl

theorem After.finish (hafter : After record count arguments) :
    arguments.finish =
      if record.fields.length ≤ count then .ok ()
      else .error (.unusedArguments record.typeName (record.fields.length - count)) := by
  have hremaining : arguments.remaining = record.fields.length - count := by
    rw [remaining, hafter.fields, List.length_drop]
  rw [Arguments.finish, hremaining, hafter.typeName]
  simp only [Nat.sub_eq_zero_iff_le]

theorem values_drop {value : FieldValue} (hvalue : record.values[count]? = some value) :
    record.values.drop count = value :: record.values.drop (count + 1) := by
  rcases List.getElem?_eq_some_iff.mp hvalue with ⟨hlt, hget⟩
  rw [List.drop_eq_getElem_cons hlt, hget]

/-- A constructor takes the values from a position on exactly when each of its parameters accepts
its value and no value is left. -/
theorem After.takeAll_eq_ok_iff (hafter : After record count arguments)
    {parameters : List ParameterType} {taken : List Argument} :
    arguments.takeAll parameters = .ok taken ↔
      record.fields.length ≤ count + parameters.length ∧ record.FitsFrom count parameters ∧
        List.zipWith ParameterType.argument parameters (record.values.drop count) = taken := by
  induction parameters generalizing arguments count taken with
  | nil =>
      rw [takeAll, hafter.finish]
      split
      · next hend => simp [fitsFrom_nil, hend]
      · next hleft => simp [hleft]
  | cons parameter rest ih =>
      have hlater := (hafter.next parameter).2
      simp only [hafter.takeAll_cons, bind_eq_ok_iff, map_eq_ok_iff, ih hlater, fitsFrom_cons,
        List.length_cons]
      constructor
      · rintro ⟨argument, hargument, later, ⟨hlength, hfits, rfl⟩, rfl⟩
        refine ⟨by omega, ⟨⟨argument, hargument⟩, hfits⟩, ?_⟩
        rcases Record.handed_eq_ok_iff.mp hargument with ⟨value, hvalue, -, rfl⟩
        rw [values_drop hvalue, List.zipWith_cons_cons]
      · rintro ⟨hlength, ⟨⟨argument, hargument⟩, hfits⟩, rfl⟩
        refine ⟨argument, hargument, _, ⟨by omega, hfits, rfl⟩, ?_⟩
        rcases Record.handed_eq_ok_iff.mp hargument with ⟨value, hvalue, -, rfl⟩
        rw [values_drop hvalue, List.zipWith_cons_cons]

/-- A constructor fails at its first parameter that does not accept its value, or with the values
that are left. -/
theorem After.takeAll_eq_error_iff (hafter : After record count arguments)
    {parameters : List ParameterType} {cause : RecordError} :
    arguments.takeAll parameters = .error cause ↔
      (∃ position parameter, parameters[position]? = some parameter ∧
        record.FitsFrom count (parameters.take position) ∧
        record.handed (count + position) parameter = .error cause) ∨
      (count + parameters.length < record.fields.length ∧ record.FitsFrom count parameters ∧
        .unusedArguments record.typeName (record.fields.length - (count + parameters.length)) =
          cause) := by
  induction parameters generalizing arguments count with
  | nil =>
      rw [takeAll, hafter.finish]
      split
      · next hend => simp [hend]
      · next hleft => simp [fitsFrom_nil, Nat.lt_of_not_le hleft]
  | cons parameter rest ih =>
      have hlater := (hafter.next parameter).2
      have hcount : count + 1 + rest.length = count + (rest.length + 1) := by omega
      simp only [hafter.takeAll_cons, bind_eq_error_iff, map_eq_error_iff, ih hlater, fitsFrom_cons,
        List.length_cons, hcount]
      constructor
      · rintro (hfirst | ⟨argument, hargument, ⟨position, other, hother, hfits, herror⟩ | hleft⟩)
        · exact .inl ⟨0, parameter, rfl, fitsFrom_nil, hfirst⟩
        · have hall := fitsFrom_cons.mpr ⟨⟨argument, hargument⟩, hfits⟩
          rw [Nat.add_right_comm] at herror
          exact .inl ⟨position + 1, other, hother, hall, herror⟩
        · rcases hleft with ⟨hlength, hfits, hcause⟩
          exact .inr ⟨hlength, ⟨⟨argument, hargument⟩, hfits⟩, hcause⟩
      · rintro (⟨position, other, hother, hfits, herror⟩ | hleft)
        · cases position with
          | zero =>
              cases hother
              exact .inl herror
          | succ position =>
              rcases fitsFrom_cons.mp hfits with ⟨⟨argument, hargument⟩, hall⟩
              refine .inr ⟨argument, hargument, .inl ⟨position, other, hother, hall, ?_⟩⟩
              rwa [Nat.add_right_comm]
        · rcases hleft with ⟨hlength, ⟨⟨argument, hargument⟩, hfits⟩, hcause⟩
          exact .inr ⟨argument, hargument, .inr ⟨hlength, hfits, hcause⟩⟩

theorem length_le_of_fitsFrom {parameters : List ParameterType}
    (hfits : record.FitsFrom 0 parameters) :
    parameters.length ≤ record.fields.length := by
  by_contra hlength
  have hlt : record.fields.length < parameters.length := by omega
  rcases hfits _ _ (List.getElem?_eq_getElem hlt) with ⟨value, hvalue, -⟩
  rw [Nat.zero_add, List.getElem?_eq_none (by simp [Record.values])] at hvalue
  cases hvalue

end Arguments

open Arguments

section

variable {factory : Factory} {text : String} {record : Record} {parameters : List ParameterType}

theorem Factory.constructInto_eq_ok_iff (hrecord : factory.construct text = .ok record)
    {taken : List Argument} :
    factory.constructInto text parameters = .ok taken ↔
      record.toArguments.takeAll parameters = .ok taken := by
  rw [constructInto, hrecord, ok_bind]
  cases record.toArguments.takeAll parameters <;> simp

theorem Factory.constructInto_eq_error_iff (hrecord : factory.construct text = .ok record)
    {cause : ConstructError} :
    factory.constructInto text parameters = .error cause ↔
      ∃ refusal, cause = .record refusal ∧
        record.toArguments.takeAll parameters = .error refusal := by
  rw [constructInto, hrecord, ok_bind]
  cases record.toArguments.takeAll parameters <;> simp [eq_comm]

end

/-- The call at a position gets what stands at this position in the record, whatever the calls
before it got, and the values that were taken and those that remain are always all values of the
record.  A constructor takes the record exactly when it has one parameter for each field and each
accepts its value.  Otherwise it reports the lowest position that fails, or how many values are left
when none does. -/
theorem arguments_handed_by_position (record : Record) (parameters : List ParameterType) :
    (record.toArguments.calls parameters).map Prod.fst = parameters.mapIdx record.handed ∧
    record.toArguments.consumed + record.toArguments.remaining = record.fields.length ∧
    (∀ call ∈ record.toArguments.calls parameters,
      call.2.consumed + call.2.remaining = record.fields.length) ∧
    ∀ (factory : Factory) (text : String), factory.construct text = .ok record →
      (∀ taken, factory.constructInto text parameters = .ok taken ↔
        parameters.length = record.fields.length ∧ record.FitsFrom 0 parameters ∧
          List.zipWith ParameterType.argument parameters record.values = taken) ∧
      ∀ cause, factory.constructInto text parameters = .error cause ↔
        ∃ refusal, cause = .record refusal ∧
          ((∃ position parameter, parameters[position]? = some parameter ∧
              record.FitsFrom 0 (parameters.take position) ∧
              record.handed position parameter = .error refusal) ∨
            (parameters.length < record.fields.length ∧ record.FitsFrom 0 parameters ∧
              .unusedArguments record.typeName (record.fields.length - parameters.length) =
                refusal)) := by
  have hstart := after_toArguments record
  refine ⟨?_, hstart.consumed_add_remaining, ?_, ?_⟩
  · simpa using hstart.outcomes_calls parameters
  · intro call hcall
    rcases hstart.of_mem_calls hcall with ⟨count, hcount⟩
    exact hcount.consumed_add_remaining
  · intro factory text hrecord
    constructor
    · intro taken
      rw [Factory.constructInto_eq_ok_iff hrecord, hstart.takeAll_eq_ok_iff, Nat.zero_add,
        List.drop_zero]
      constructor
      · intro h
        rcases h with ⟨hlength, hfits, hmade⟩
        exact ⟨Nat.le_antisymm (length_le_of_fitsFrom hfits) hlength, hfits, hmade⟩
      · intro h
        rcases h with ⟨hlength, hfits, hmade⟩
        exact ⟨hlength.ge, hfits, hmade⟩
    · intro cause
      rw [Factory.constructInto_eq_error_iff hrecord]
      simp only [hstart.takeAll_eq_error_iff, Nat.zero_add]

/-- A call for the first value as a truth value, then one for null and one behind the end. -/
def crossedParameters : List ParameterType :=
  [.scalar .boolean, .option (.option (.scalar .text)), .scalar .text]

theorem pet_arguments_handed_by_position :
    petFactory.construct "<p y='3'/>" = .ok petRecord ∧
    (petRecord.toArguments.calls crossedParameters).map Prod.fst =
      [.error (.typeMismatch "Pet" "years" "bool" "i32"), .ok .absent,
        .error (.missingArgument "Pet" 2)] ∧
    petFactory.constructInto "<p y='3'/>" crossedParameters =
      .error (.record (.typeMismatch "Pet" "years" "bool" "i32")) ∧
    petFactory.constructInto "<p y='3'/>" [.option (.scalar (.integer .bits32))] =
      .error (.record (.unusedArguments "Pet" 1)) := by
  have hrecord : petFactory.construct "<p y='3'/>" = .ok petRecord := by cbv
  obtain ⟨hcalls, -, -, hconstructors⟩ := arguments_handed_by_position petRecord crossedParameters
  obtain ⟨-, -, -, hleft⟩ :=
    arguments_handed_by_position petRecord [.option (.scalar (.integer .bits32))]
  refine ⟨hrecord, hcalls.trans rfl, ?_, ?_⟩
  · apply ((hconstructors _ _ hrecord).2 _).mpr
    exact ⟨_, rfl, .inl ⟨0, _, rfl, fitsFrom_nil, rfl⟩⟩
  · apply ((hleft _ _ hrecord).2 _).mpr
    refine ⟨_, rfl, .inr ⟨by decide, ?_, rfl⟩⟩
    intro position parameter hparameter
    cases position with
    | zero =>
        cases hparameter
        exact ⟨_, rfl, by decide⟩
    | succ position => cases hparameter

end RecordExtraction
