import BuildDiagnostics.Fault.OneLine
import BuildDiagnostics.Fault.Traceback
/-!
# Error texts

The two forms of error text are told apart by their start: a traceback has
its header there, anything else is read as a one-line error. Reading never
fails. A text of neither form gives the empty fault, and only a text that
is absent or empty gives none.
-/


namespace BuildDiagnostics

namespace Fault

/-- The form of an error text. -/
inductive Shape where
  /-- It starts with the header of a traceback. -/
  | traceback
  /-- It does not. -/
  | simple
deriving DecidableEq

namespace Shape

/-- The form of a text. -/
def ofText (text : String) : Shape :=
  if Traceback.header.isPrefixOf text.toList then traceback else simple

/-- The name in log records. -/
def name : Shape → String
  | traceback => "traceback"
  | simple => "simple"

end Shape

/-- The fault of a text that is not empty. A traceback that consists of
frames is read as a one-line error, which its header is not. -/
def read (s : List Char) : Fault :=
  let oneLine := (ofLine? s).getD empty
  if Traceback.header.isPrefixOf s then (Traceback.read? s).getD oneLine else oneLine

/-- The fault of a text; there is none when the text is empty. -/
def ofText? (text : String) : Option Fault :=
  if text = "" then none else some (read text.toList)

end Fault

end BuildDiagnostics
