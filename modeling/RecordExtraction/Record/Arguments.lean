import RecordExtraction.Record.Basic

/-!
# Constructor arguments

The constructor of a typed value takes the values of a record one after the other, each as a
parameter of a type that it names, and has to take all of them.  A value that a parameter does not
accept is consumed all the same.
-/

namespace RecordExtraction

/-- The type of a parameter: a kind, or an option of another parameter type. -/
inductive ParameterType where
  | scalar (kind : ScalarKind)
  | option (inner : ParameterType)
deriving DecidableEq, Repr

/-- What a parameter receives. -/
inductive Argument where
  | value (value : FieldValue)
  | absent
  | present (inner : Argument)
deriving DecidableEq

/-- The argument in a technical listing. -/
def Argument.inspect : Argument → String
  | .value content => content.inspect
  | .absent => "None"
  | .present inner => "Some(" ++ inner.inspect ++ ")"

namespace ParameterType

/-- The name that a mismatch reports. -/
def expected : ParameterType → String
  | scalar kind => kind.name
  | option _ => "Option"

/-- The argument that a parameter makes of a value, if it accepts the value.  Null is the absent
argument of any option. -/
def accept? : ParameterType → FieldValue → Option Argument
  | scalar kind, value => if value.kind? = some kind then some (.value value) else none
  | option inner, value =>
      if value.isNull then some .absent else (inner.accept? value).map .present

end ParameterType

/-- Why a constructor does not fit a record. -/
inductive RecordError where
  | missingArgument (typeName : String) (supplied : Nat)
  | typeMismatch (typeName name expected found : String)
  | unusedArguments (typeName : String) (count : Nat)
deriving DecidableEq, Repr

def RecordError.message : RecordError → String
  | missingArgument typeName supplied =>
      s!"{typeName} expects more than {supplied} constructor arguments"
  | typeMismatch typeName name expected found =>
      s!"Argument '{name}' of {typeName} expected {expected}, found {found}"
  | unusedArguments typeName count => s!"{typeName} left {count} constructor arguments unused"

/-- The values of a record that are still to be taken, and the number of those taken. -/
structure Arguments where
  typeName : String
  consumed : Nat
  fields : List (String × FieldValue)

def Record.toArguments (record : Record) : Arguments := ⟨record.typeName, 0, record.fields⟩

namespace Arguments

def remaining (arguments : Arguments) : Nat := arguments.fields.length

/-- Takes the next value as a parameter of the given type. -/
def next (arguments : Arguments) (parameter : ParameterType) :
    Except RecordError Argument × Arguments :=
  match arguments.fields with
  | [] => (.error (.missingArgument arguments.typeName arguments.consumed), arguments)
  | (name, value) :: rest =>
      let after : Arguments := ⟨arguments.typeName, arguments.consumed + 1, rest⟩
      match parameter.accept? value with
      | some argument => (.ok argument, after)
      | none =>
          (.error
            (.typeMismatch arguments.typeName name parameter.expected value.kindName), after)

/-- Fails when values are left. -/
def finish (arguments : Arguments) : Except RecordError Unit :=
  if arguments.remaining = 0 then .ok ()
  else .error (.unusedArguments arguments.typeName arguments.remaining)

/-- Takes one value for each parameter in turn, up to the first failure, and checks that no value is
left. -/
def takeAll (arguments : Arguments) : List ParameterType → Except RecordError (List Argument)
  | [] => do
      arguments.finish
      .ok []
  | parameter :: rest =>
      match arguments.next parameter with
      | (.ok argument, after) => (takeAll after rest).map (argument :: ·)
      | (.error e, _) => .error e

end Arguments
end RecordExtraction
