import BuildDiagnostics.DiagnosticSet
import BuildDiagnostics.Fault.ErrorText
import BuildDiagnostics.Log
/-!
# From an error text to diagnostics

The diagnostics of a text are those of its fault, and a text without a
fault has none. Reading a text is logged: its form, how many places it
names, and the whole fault.
-/


namespace BuildDiagnostics

/-- The diagnostics of an error text. -/
def DiagnosticSet.ofText (labels : Labels) (text : String) : DiagnosticSet :=
  ((Fault.ofText? text).map (ofFault labels)).getD empty

namespace Log

/-- The part of the tool that reads error texts. -/
def diagnosis : String := "envd_diag"

/-- What is logged when a text is read. -/
def ofText (text : String) : List Record :=
  match Fault.ofText? text with
  | none => [⟨.debug, diagnosis, "Empty error text, nothing to report", []⟩]
  | some fault =>
    [⟨.info, diagnosis, "Parsing envd error", [("shape", (Fault.Shape.ofText text).name)]⟩,
      ⟨.debug, diagnosis, "Error parsed",
        [("locations_count", toString fault.locations.length)]⟩,
      ⟨.trace, diagnosis, "Parse result", [("result", fault.inspect)]⟩]

end Log

end BuildDiagnostics
