import BuildDiagnostics.Fault
import BuildDiagnostics.Fault.LoadError
import BuildDiagnostics.Text.Lines
import BuildDiagnostics.Text.Utf8
/-!
# Tracebacks

A traceback is a header line, then one frame to a line, then the message.
A frame is an indented location with anything after it. The first line
that is no frame starts the message, which runs to the end of the text; if
it reports a failed load, the place in the loaded file comes last among the
places. Frames with no line after them make no fault. The scan keeps the
number of bytes it has passed, and the message is cut off there.
-/


namespace BuildDiagnostics

/-- The place that a frame line names. -/
def Frame.ofLine? (line : List Char) : Option Location :=
  (Location.read? (line.dropWhile Text.isSpace)).map Prod.fst

namespace Traceback

/-- What a traceback starts with. -/
def header : List Char := "Traceback (most recent call last):".toList

/-- Where the message of a traceback starts. -/
structure Stop where
  /-- The bytes before the message. -/
  offset : Nat
  /-- The first line of the message. -/
  line : List Char
deriving DecidableEq

/-- The places of the leading frames among some lines, and where the first
line that is no frame starts. `offset` is the number of bytes before the
lines; every line takes its own bytes and that of the line feed after it. -/
def scan (offset : Nat) : List (List Char) → List Location × Option Stop
  | [] => ([], none)
  | line :: rest =>
    match Frame.ofLine? line with
    | some location =>
      let (locations, stop) := scan (offset + (Text.byteSize line + 1)) rest
      (location :: locations, stop)
    -- later lines are the message's own, frames or not
    | none => ([], some ⟨offset, line⟩)

/-- The scan of a traceback. Its first line is the header and is not read
any further. -/
def scanText (s : List Char) : List Location × Option Stop :=
  match Text.splitOn '\n' s with
  | [] => scan 0 []
  | first :: lines => scan (Text.byteSize first + 1) lines

/-- The fault of a traceback. -/
def read? (s : List Char) : Option Fault := do
  let (locations, stop) := scanText s
  let ⟨offset, line⟩ ← stop
  let message ← Text.afterBytes? offset s
  some ⟨String.ofList message, locations ++ (LoadError.find? line).toList⟩

end Traceback

end BuildDiagnostics
