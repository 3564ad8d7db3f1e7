import RecordExtraction.Logging.Event
import RecordExtraction.Settings.Basic

/-!
# Loggers

A logger prints the events from a level on, as text or as JSON, with more or less detail.  Only the
first logger that is installed has any effect.
-/

namespace RecordExtraction

/-- What a logger prints and how. -/
structure Logger where
  level : Level
  useJson : Bool
  includeTarget : Bool
  includeLocation : Bool
  includeThread : Bool
deriving DecidableEq, Repr

/-- A printed event: its level, and in JSON also what else stands in the line. -/
inductive LogLine where
  | text (level : Level)
  | json (level : Level) (target message : String) (hasLocation hasThread : Bool)
deriving DecidableEq, Repr

namespace Logger

/-- Text from level `info` on, with targets. -/
def standard : Logger := ⟨.info, false, true, false, false⟩

/-- Text from a level on, with targets. -/
def ofLevel (level : Level) : Logger := { standard with level := level }

/-- JSON from level `info` on, with all details. -/
def production : Logger := ⟨.info, true, true, true, true⟩

/-- Text from level `debug` on, with targets. -/
def development : Logger := ofLevel .debug

/-- Text from the level that settings name. -/
def ofSettings (settings : Settings) : Logger := ofLevel (Level.parse settings.logLevel)

/-- The level and the format that an environment names. -/
def ofEnvironment (environment : Environment) : Logger :=
  { standard with
    level := Level.parse ((environment "XMLFACTORY_LOG_LEVEL").getD "info")
    useJson := ((environment "XMLFACTORY_LOG_JSON").bind truthValue?).getD false }

/-- The logger shows events of a level. -/
def shows (logger : Logger) (level : Level) : Bool := logger.level.rank ≤ level.rank

/-- The line of an event. -/
def line (logger : Logger) (event : Event) : LogLine :=
  if logger.useJson then
    .json event.level event.target event.message logger.includeLocation logger.includeThread
  else .text event.level

/-- The lines of the events that the logger shows. -/
def lines (logger : Logger) (events : List Event) : List LogLine :=
  (events.filter fun event => logger.shows event.level).map logger.line

/-- The lines of events after loggers were installed one after the other. -/
def installedLines (installed : List Logger) (events : List Event) : List LogLine :=
  match installed with
  | [] => []
  | logger :: _ => logger.lines events

end Logger
end RecordExtraction
