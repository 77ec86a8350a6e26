import BuildDiagnostics.Diagnosis
import BuildDiagnostics.Run
import BuildDiagnostics.Session.Document
import BuildDiagnostics.Text.Blank
/-!
# Sessions

A session follows a build that runs again and again. Each line of its
stream is a document that replaces the current diagnostics: by those of the
error text it carries, or by none. A blank line changes nothing, and
neither does a line that is no document. All lines are counted.
-/


namespace BuildDiagnostics

/-- A session between two lines. -/
structure Session where
  /-- How its diagnostics are labelled. -/
  labels : Labels
  /-- The diagnostics of the latest document. -/
  current : DiagnosticSet := .empty
  /-- How many lines there were. -/
  lineCount : Nat := 0
deriving DecidableEq

namespace Session

/-- What a line did. -/
inductive Outcome where
  /-- It was blank. -/
  | blank
  /-- It replaced the diagnostics. -/
  | replaced
  /-- It was no document. -/
  | rejected (problem : Json.Problem)

/-- A session without diagnostics. -/
def cleared (s : Session) : Session := { s with current := .empty }

/-- A session after a document, by its error text: the old diagnostics go,
and those of the fault take their place if there is one. -/
def replace (s : Session) (error : Option String) : Session :=
  match error.bind Fault.ofText? with
  | none => s.cleared
  | some fault => { s.cleared with current := .ofFault s.labels fault }

/-- What a line does to a session. -/
def step (s : Session) (line : String) : Outcome × Session :=
  -- the line is counted before it is looked at
  let counted := { s with lineCount := s.lineCount + 1 }
  let line := Text.trim line
  if line = "" then (.blank, counted)
  else
    match decode line with
    | .error problem => (.rejected problem, counted)
    | .ok error => (.replaced, counted.replace error)

/-- What the one who gave a line gets back, by the outcome and the session
after it: the new diagnostics, nothing for a blank line, or the failure
with the number of the line. -/
def answer (s : Session) : Outcome → Except ToolError (Option DiagnosticSet)
  | .blank => .ok none
  | .replaced => .ok (some s.current)
  | .rejected problem => .error (.session s.lineCount problem)

/-- The part of the tool that follows sessions. -/
def target : String := "envd_diag::session"

/-- What is logged when a line is taken, by its outcome and the session
after it. -/
def records (s : Session) : Outcome → List Log.Record
  | .replaced =>
    [⟨.debug, target, "Session diagnostics replaced",
      [("line", toString s.lineCount), ("diagnostics_count", toString s.current.size)]⟩]
  | _ => []

end Session

end BuildDiagnostics
