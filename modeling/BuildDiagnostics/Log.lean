/-!
# Log records

What the tool says about its own work. A record has a level, the part of
the tool it comes from, a message, and named values, which are kept as text
and in order.
-/


namespace BuildDiagnostics

namespace Log

/-- How important a record is. -/
inductive Level where
  /-- The tool failed. -/
  | error
  /-- Something was skipped. -/
  | warn
  /-- A step of the work. -/
  | info
  /-- A detail of a step. -/
  | debug
  /-- The whole of an intermediate result. -/
  | trace
deriving DecidableEq

namespace Level

/-- How far a level is from the most important one. -/
def rank : Level → Nat
  | error => 0
  | warn => 1
  | info => 2
  | debug => 3
  | trace => 4

/-- The name in records. -/
def name : Level → String
  | error => "ERROR"
  | warn => "WARN"
  | info => "INFO"
  | debug => "DEBUG"
  | trace => "TRACE"

/-- The name for inspection. -/
def inspect : Level → String
  | error => "Error"
  | warn => "Warn"
  | info => "Info"
  | debug => "Debug"
  | trace => "Trace"

/-- All levels, the most important first. -/
def all : List Level := [error, warn, info, debug, trace]

end Level

/-- One record. -/
structure Record where
  /-- How important it is. -/
  level : Level
  /-- The part of the tool it comes from. -/
  target : String
  /-- What happened. -/
  message : String
  /-- The values it names. -/
  fields : List (String × String) := []
deriving DecidableEq

end Log

end BuildDiagnostics
