import BuildDiagnostics.Json.Expect
import BuildDiagnostics.Severity
/-!
# Severities in JSON

A severity is its name, either as a string or as the only key of an object
whose value is null.
-/


namespace BuildDiagnostics

namespace Severity

/-- The names, in the order in which a message lists them. -/
def names : List String := [error.name, warning.name]

/-- The severity that a JSON text names, or what is wrong with the text. -/
def decode (text : String) : Except Json.Problem Severity :=
  Json.readDocument (Json.readName names ofName?) text

end Severity

end BuildDiagnostics
