import BuildDiagnostics.Fault
import BuildDiagnostics.Location.Token
import BuildDiagnostics.Text.Blank
/-!
# One-line errors

The simple form of an error is a single line `path:line:column: message`.
The message runs to the end of that line and is not empty; whatever stands
on further lines is not read.
-/


namespace BuildDiagnostics

namespace Fault

/-- The fault of a text that starts with an error on one line. -/
def ofLine? (s : List Char) : Option Fault := do
  let (location, s) ← Location.read? s
  let s ← Text.after? [':', ' '] s
  let message := s.takeWhile (!Text.isLineEnd ·)
  if message = [] then none
  some ⟨String.ofList message, [location]⟩

end Fault

end BuildDiagnostics
