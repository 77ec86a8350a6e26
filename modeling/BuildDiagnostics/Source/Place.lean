import BuildDiagnostics.Position
import BuildDiagnostics.Text.Lines
import BuildDiagnostics.Text.Utf8
/-!
# Places in the content of a file

A zero-based position is found in a content by counting line feeds and then
characters. The search keeps the number of bytes before the line it has
reached, and looks at what follows them. The place after the last character
of a line is on the line; a position further on is nowhere.
-/


namespace BuildDiagnostics

namespace Source

/-- The bytes before the first line feed of a text. -/
def feedOffset? (s : List Char) : Option Nat :=
  if '\n' ∈ s then some (Text.byteSize (s.takeWhile (· ≠ '\n'))) else none

/-- The bytes before the line that is so many line feeds further on than the
line after the first `start` bytes. -/
def lineStart? (content : List Char) (start : Nat) : Nat → Option Nat
  | 0 => some start
  | n + 1 => do
    let rest ← Text.afterBytes? start content
    let feed ← feedOffset? rest
    lineStart? content (start + (feed + 1)) n

/-- The first line of a text. -/
def firstLine (s : List Char) : List Char := (Text.splitOn '\n' s).headD []

/-- Where the characters of a line start when the line starts at `offset`,
and after them where it ends. -/
def characterOffsets (offset : Nat) : List Char → List Nat
  | [] => [offset]
  | c :: s => offset :: characterOffsets (offset + c.utf8Size) s

/-- The byte offset of a position in a content. -/
def offset? (content : String) (p : Position) : Option Nat := do
  let start ← lineStart? content.toList 0 p.line.toNat
  let rest ← Text.afterBytes? start content.toList
  let inLine ← (characterOffsets 0 (firstLine rest))[p.character.toNat]?
  some (start + inLine)

end Source

end BuildDiagnostics
