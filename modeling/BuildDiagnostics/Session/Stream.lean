import BuildDiagnostics.Session
import BuildDiagnostics.Text.Lines
import BuildDiagnostics.Text.Utf8
/-!
# Following a stream

`watch` takes the lines of a byte stream one after the other and hands each
new set to `onUpdate`, which has a state of its own. Lines that are no
documents are logged and skipped. The run ends early when `onUpdate` fails
or a line is not text; such a line is not counted. Only a run that reaches
the end of the stream says so in the log.
-/


namespace BuildDiagnostics

namespace Session

variable {σ : Type}

/-- What is logged about a line that is no document. -/
def rejection (failure : ToolError) : Log.Record :=
  ⟨.warn, target, "Error processing session document", [("err", failure.text)]⟩

/-- Takes one line, and hands the set to `onUpdate` if it was replaced. A
line that is no document is passed over. -/
def watchLine (onUpdate : DiagnosticSet → σ → Run σ) (line : String) (st : Session × σ) :
    Run (Session × σ) :=
  let (outcome, s) := st.1.step line
  match s.answer outcome with
  | .ok none => .pure (s, st.2)
  | .ok (some set) => ((onUpdate set st.2).map (s, ·)).logged (s.records outcome)
  -- only a line that is no document is passed over
  | .error (.session n problem) => ⟨(s, st.2), [rejection (.session n problem)], none⟩
  | .error failure => ⟨(s, st.2), [], some failure⟩

/-- Takes the lines of a stream up to the first that is not text. -/
def watchLines (onUpdate : DiagnosticSet → σ → Run σ) :
    List (List UInt8) → Session × σ → Run (Session × σ)
  | [], st => .pure st
  | line :: rest, st =>
    match Text.decode? line with
    | none => ⟨st, [], some (.io .notText)⟩
    | some text => (watchLine onUpdate text st).andThen (watchLines onUpdate rest)

/-- What is logged at the end of a stream. -/
def closing (s : Session) : Log.Record :=
  ⟨.info, target, "Session stream ended", [("lines", toString s.lineCount)]⟩

/-- Follows a stream to its end. -/
def watch (onUpdate : DiagnosticSet → σ → Run σ) (bytes : List UInt8) (st : Session × σ) :
    Run (Session × σ) :=
  (watchLines onUpdate (Text.lines bytes) st).andThen fun st => ⟨st, [closing st.1], none⟩

end Session

end BuildDiagnostics
