import BuildDiagnostics.Location.Token
import BuildDiagnostics.Text.Blank
/-!
# Failed loads

When a build file cannot load another, the last line of the traceback says
so and names a place in the file that was loaded:
`Error: cannot load lib: lib.star:3:1: reason`. The marker may stand
anywhere in the line. The place is that of the first marker that a target,
a location and a reason follow.
-/


namespace BuildDiagnostics

namespace LoadError

/-- What introduces the target of a failed load. -/
def marker : List Char := "Error: cannot load ".toList

/-- What follows the target of a load: the target is a run of two or more
characters other than spaces, ends in a colon, and has one blank after
it. -/
def afterTarget? (s : List Char) : Option (List Char) :=
  let target := s.takeWhile (!Text.isSpace ·)
  if 2 ≤ target.length ∧ target.getLast? = some ':' then
    Text.after? [' '] (s.dropWhile (!Text.isSpace ·))
  else none

/-- The place that a report of a failed load names, from what follows its
marker. -/
def afterMarker? (s : List Char) : Option Location := do
  let s ← afterTarget? s
  let (location, s) ← Location.read? s
  let s ← Text.after? [':', ' '] s
  let reason ← s.head?
  if Text.isLineEnd reason then none
  some location

/-- The place named by the first report of a failed load within a line: the
markers are tried one after the other. -/
def find? (line : List Char) : Option Location :=
  (Text.afterEach marker 0 line).findSome? afterMarker?

end LoadError

end BuildDiagnostics
