import RecordExtraction.Text.LowerCase

/-!
# Levels of events

Events are more or less important; a log shows those from a level on.
-/

namespace RecordExtraction

inductive Level where
  | trace
  | debug
  | info
  | warn
  | error
deriving DecidableEq, Repr

namespace Level

/-- The rank of a level: more important events rank higher. -/
def rank : Level → Nat
  | trace => 0
  | debug => 1
  | info => 2
  | warn => 3
  | error => 4

/-- The name of a level in a log. -/
def label : Level → String
  | trace => "TRACE"
  | debug => "DEBUG"
  | info => "INFO"
  | warn => "WARN"
  | error => "ERROR"

/-- The level with the given name in lower case. -/
def ofName? (name : String) : Option Level :=
  if name = "trace" then some trace
  else if name = "debug" then some debug
  else if name = "info" then some info
  else if name = "warn" then some warn
  else if name = "error" then some error
  else none

/-- The level that a text names in any case; `info` for all other texts. -/
def parse (text : String) : Level := (ofName? (lowerCase text)).getD info

end Level
end RecordExtraction
