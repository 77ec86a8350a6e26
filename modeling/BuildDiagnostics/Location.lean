import BuildDiagnostics.Ordinal
import BuildDiagnostics.Position
import BuildDiagnostics.Text.Quoted
/-!
# Locations

A build tool names a place in a file as `path:line:column`, both numbers
counted from one. `Location.text` writes that token; `Location.position`
is the zero-based pair that editors use.
-/


namespace BuildDiagnostics

/-- A place in a file. -/
structure Location where
  /-- The path, as the tool wrote it. -/
  path : String
  /-- The line. -/
  line : Ordinal
  /-- The column. -/
  column : Ordinal
deriving DecidableEq

namespace Location

/-- The token that names the place. -/
def text (l : Location) : String :=
  l.path ++ ":" ++ toString l.line.toNat ++ ":" ++ toString l.column.toNat

/-- The place as editors count. -/
def position (l : Location) : Position :=
  ⟨l.line.index, l.column.index⟩

/-- The place with the names of its parts, for inspection. -/
def inspect (l : Location) : String :=
  "SourceLocation \x7b path: " ++ Text.quoted l.path ++ ", line: " ++ toString l.line.toNat ++
    ", column: " ++ toString l.column.toNat ++ " \x7d"

end Location

end BuildDiagnostics
