import RecordExtraction.Extraction.Input
import RecordExtraction.Logging.Level
import RecordExtraction.Settings.Natural

/-!
# Settings

The settings of a factory are read from environment variables; a variable that is missing or can not
be read leaves its default.  Validation bounds the limits and knows the names of the levels.
-/

namespace RecordExtraction

/-- Runtime settings of factories. -/
structure Settings where
  logLevel : String
  allowTypeDeclaration : Bool
  nodesLimit : Nat
  inputLimit : Nat
deriving DecidableEq, Repr

/-- The value of an environment variable, if it is set. -/
abbrev Environment := String → Option String

/-- What is wrong with settings. -/
inductive SettingsError where
  | logLevel (name : String)
  | noNodes
  | inputTooSmall
  | inputTooLarge
deriving DecidableEq, Repr

def SettingsError.message (e : SettingsError) : String :=
  "Configuration validation failed: " ++
    match e with
    | logLevel name =>
        s!"Invalid log level: {name}. Valid options: trace, debug, info, warn, error"
    | noNodes => "Nodes limit must be at least 1"
    | inputTooSmall => "Max input size must be at least 64 bytes"
    | inputTooLarge => "Max input size cannot exceed 256MB"

namespace Settings

/-- The least number of bytes that an input may be limited to. -/
def leastInputLimit : Nat := 64

/-- The greatest number of bytes that an input may be limited to. -/
def greatestInputLimit : Nat := 268435456

/-- The settings of an environment. -/
def ofEnvironment (environment : Environment) : Settings where
  logLevel := lowerCase ((environment "XMLFACTORY_LOG_LEVEL").getD "info")
  allowTypeDeclaration :=
    ((environment "XMLFACTORY_ALLOW_DTD").bind truthValue?).getD
      InputOptions.standard.allowTypeDeclaration
  nodesLimit :=
    ((environment "XMLFACTORY_NODES_LIMIT").bind (naturalBelow? 0x100000000)).getD
      InputOptions.standard.nodesLimit
  inputLimit :=
    ((environment "XMLFACTORY_MAX_INPUT_SIZE").bind (naturalBelow? byteCountBound)).getD
      InputOptions.standard.inputLimit

/-- The first thing that is wrong with the settings. -/
def problem? (settings : Settings) : Option SettingsError :=
  if (Level.ofName? settings.logLevel).isNone then some (.logLevel settings.logLevel)
  else if settings.nodesLimit = 0 then some .noNodes
  else if settings.inputLimit < leastInputLimit then some .inputTooSmall
  else if greatestInputLimit < settings.inputLimit then some .inputTooLarge
  else none

/-- The settings of an environment, if nothing is wrong with them. -/
def load (environment : Environment) : Except SettingsError Settings :=
  let settings := ofEnvironment environment
  match settings.problem? with
  | some problem => .error problem
  | none => .ok settings

/-- The limits on inputs. -/
def inputOptions (settings : Settings) : InputOptions :=
  ⟨settings.allowTypeDeclaration, settings.nodesLimit, settings.inputLimit⟩

/-- All settings, one on a line. -/
def display (settings : Settings) : String :=
  "XML Factory Configuration:\n" ++
    "  Log Level: " ++ settings.logLevel ++ "\n" ++
    "  Allow DTD: " ++ (if settings.allowTypeDeclaration then "true" else "false") ++ "\n" ++
    "  Nodes Limit: " ++ toString settings.nodesLimit ++ "\n" ++
    "  Max Input Size: " ++ toString settings.inputLimit ++ " bytes\n"

end Settings
end RecordExtraction
