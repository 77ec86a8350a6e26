import BuildDiagnostics.Diagnostic
import BuildDiagnostics.Format
/-!
# Settings

What a configuration file can set: how diagnostics are labelled, and the
form of reports. Each setting has a default of its own.
-/


namespace BuildDiagnostics

/-- The settings of the tool. -/
structure Settings where
  /-- How diagnostics are labelled. -/
  labels : Labels := {}
  /-- The form of reports. -/
  format : Format := .human
deriving DecidableEq

end BuildDiagnostics
