import BuildDiagnostics.Diagnostic
import BuildDiagnostics.Fault
import BuildDiagnostics.OrderedMap
/-!
# Diagnostic sets

The diagnostics of one fault, at most one to a file. They are kept in a map
by the files, in the order in which the fault first names these; a file that
is named again keeps its turn and takes the later place. The set keeps the
message of the fault even when it has no diagnostics.
-/


namespace BuildDiagnostics

/-- The message of a fault and its diagnostics by file. -/
structure DiagnosticSet where
  /-- The message. -/
  message : String := ""
  /-- The diagnostics by the files that they are for. A file is the key of its
  diagnostic, apart from the path that the diagnostic has of its own. -/
  byPath : OrderedMap String Diagnostic := .empty
deriving DecidableEq

namespace DiagnosticSet

/-- The set of no fault. -/
def empty : DiagnosticSet := {}

/-- The diagnostics of a fault with the files that its places name, place by
place. -/
def located (labels : Labels) (f : Fault) : List (String × Diagnostic) :=
  f.locations.map fun l => (l.path, .ofLocation labels f.message l)

/-- The diagnostics of a fault, put in one after the other. -/
def ofFault (labels : Labels) (f : Fault) : DiagnosticSet where
  message := f.message
  byPath := .ofList (located labels f)

/-- The diagnostic of a file. -/
def get? (s : DiagnosticSet) (path : String) : Option Diagnostic := s.byPath.get? path

/-- The diagnostics, in the order of their files. -/
def diagnostics (s : DiagnosticSet) : List Diagnostic := s.byPath.values

/-- The paths of the diagnostics, in order. -/
def paths (s : DiagnosticSet) : List String := s.diagnostics.map (·.path)

/-- How many files have a diagnostic. -/
def size (s : DiagnosticSet) : Nat := s.byPath.size

/-- Whether no file has a diagnostic. -/
def isEmpty (s : DiagnosticSet) : Bool := s.byPath.isEmpty

end DiagnosticSet

end BuildDiagnostics
