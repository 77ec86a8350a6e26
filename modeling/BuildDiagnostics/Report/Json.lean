import BuildDiagnostics.DiagnosticSet
import BuildDiagnostics.Json.Value
/-!
# Reports for programs

The JSON form of locations, ranges, diagnostics and sets. Positions count
from zero as editors do; a location keeps the numbers of the error text.
-/


namespace BuildDiagnostics

/-- A location as JSON. -/
def Location.json (l : Location) : Json.Value :=
  .object [("path", .string l.path), ("line", .number l.line.toNat),
    ("col", .number l.column.toNat)]

/-- A position as JSON. -/
def Position.json (p : Position) : Json.Value :=
  .object [("line", .number p.line.toNat), ("character", .number p.character.toNat)]

/-- A range as JSON. -/
def Range.json (r : Range) : Json.Value :=
  .object [("start", r.start.json), ("end", r.stop.json)]

/-- A diagnostic as JSON. -/
def Diagnostic.json (d : Diagnostic) : Json.Value :=
  .object [("path", .string d.path), ("range", d.range.json), ("message", .string d.message),
    ("severity", .string d.severity.name), ("source", .string d.source)]

/-- A set as JSON: its message and its diagnostics in order. -/
def DiagnosticSet.json (s : DiagnosticSet) : Json.Value :=
  .object [("message", .string s.message),
    ("diagnostics", .array (s.diagnostics.map Diagnostic.json))]

end BuildDiagnostics
