import BuildDiagnostics.Location
import BuildDiagnostics.Severity
/-!
# Diagnostics

A diagnostic marks one place of one file for an editor. It takes its place
from a location and its label from the settings: all diagnostics of a run
have the same severity and the same source.
-/


namespace BuildDiagnostics

/-- How diagnostics are labelled. -/
structure Labels where
  /-- Their severity. -/
  severity : Severity := .error
  /-- The tool that is named as their source. -/
  source : String := "envd"
deriving DecidableEq

/-- A message at a place in a file. -/
structure Diagnostic where
  /-- The file. -/
  path : String
  /-- The place in it. -/
  range : Range
  /-- What is wrong. -/
  message : String
  /-- How serious it is. -/
  severity : Severity
  /-- The tool that says so. -/
  source : String
deriving DecidableEq

namespace Diagnostic

/-- The diagnostic of a message at a location: nothing is covered, only
the place is marked. -/
def ofLocation (labels : Labels) (message : String) (location : Location) : Diagnostic :=
  ⟨location.path, .point location.position, message, labels.severity, labels.source⟩

/-- Where the diagnostic is, in the numbers of the error text. -/
def place (d : Diagnostic) : String :=
  d.path ++ ":" ++ toString (d.range.start.line + 1) ++ ":" ++
    toString (d.range.start.character + 1)

/-- The diagnostic with the names of its parts, for inspection. -/
def inspect (d : Diagnostic) : String :=
  "Diagnostic \x7b path: " ++ Text.quoted d.path ++ ", range: " ++ d.range.inspect ++
    ", message: " ++ Text.quoted d.message ++ ", severity: " ++ d.severity.inspect ++
    ", source: " ++ Text.quoted d.source ++ " \x7d"

end Diagnostic

end BuildDiagnostics
