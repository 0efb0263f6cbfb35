/-!
# The log

What the program says about its progress: events, each as important as its level says.
-/

namespace Memoryless.Command

/-- How important an event is, or how much is shown. -/
inductive LogLevel
  | off | error | warn | info | debug | trace
  deriving DecidableEq, Repr

namespace LogLevel

/-- Every level, from silence to everything. -/
def all : List LogLevel :=
  [off, error, warn, info, debug, trace]

/-- The name of a level. -/
def name : LogLevel → String
  | off => "OFF"
  | error => "ERROR"
  | warn => "WARN"
  | info => "INFO"
  | debug => "DEBUG"
  | trace => "TRACE"

/-- How much is shown at a level. -/
def rank : LogLevel → Nat
  | off => 0
  | error => 1
  | warn => 2
  | info => 3
  | debug => 4
  | trace => 5

end LogLevel

/-- Something that the program says about its progress. -/
structure LogEvent where
  level : LogLevel
  message : String
  fields : List (String × String) := []
  deriving DecidableEq, Repr

namespace LogEvent

/-- Where the events of this program come from. -/
def target : List Char :=
  "memstrip".toList

/-- Does the event have a field of that name? The message is a field too. -/
def hasField (e : LogEvent) (name : List Char) : Bool :=
  name = "message".toList || e.fields.any fun field => field.1.toList = name

/-- An event as a line of the log. -/
def line (e : LogEvent) : String :=
  String.intercalate " "
    (e.level.name :: e.message :: e.fields.map fun field => field.1 ++ "=" ++ field.2)

end LogEvent

end Memoryless.Command
