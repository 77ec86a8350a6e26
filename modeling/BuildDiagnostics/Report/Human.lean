import BuildDiagnostics.Source.Snippet
import BuildDiagnostics.Text.Lines
import BuildDiagnostics.ToolError
/-!
# Reports for people

A report is a few lines of plain text: the code, the message behind a sign
for its severity, and then either a snippet of the file or advice. The
lines of a message that fit are kept as they are except for blanks at their
ends. How others are cut is not decided here: a report takes a `Cut` for
them. Snippets are never cut.
-/


namespace BuildDiagnostics

namespace Report

/-- Cuts a line that does not fit into so many columns. -/
abbrev Cut := Nat → List Char → List (List Char)

/-- The columns of a report, with its indents. -/
def columns : Nat := 198

variable (cut : Cut)

/-- A line without the blanks at its end. -/
def trimmed (line : List Char) : List Char := (line.reverse.dropWhile (· = ' ')).reverse

/-- The lines that a line takes in so many columns: itself without the blanks
at its end when it fits, and else those that it is cut into. A line with an
escape character, which may take less room than it seems, is left to `cut`
as well. -/
def fitted (room : Nat) (line : List Char) : List (List Char) :=
  if '\x1b' ∉ line ∧ Text.plainWidth (trimmed line) ≤ room then [trimmed line]
  else cut room line

/-- Lines of a text with one indent before the first and another, of the same
width, before those that follow. -/
def hanging (first others text : String) : List String :=
  match (Text.splitOn '\n' text.toList).flatMap (fitted cut (columns - first.length)) with
  | [] => []
  | l :: ls => (first ++ String.ofList l) :: ls.map fun l => others ++ String.ofList l

/-- The sign of a severity. -/
def sign : Severity → String
  | .error => "x"
  | .warning => "!"

/-- The lines that every report starts with. -/
def heading (code : String) (severity : Severity) (message : String) : List String :=
  [code, ""] ++ hanging cut ("  " ++ sign severity ++ " ") "  | " message

/-- The lines of an advice. -/
def adviceLines (help : Option String) : List String :=
  match help with
  | none => []
  | some help => hanging cut "  help: " "        " help

/-- A text of so many blanks. -/
def blanks (n : Nat) : String := String.ofList (List.replicate n ' ')

/-- A text with blanks before it up to a width. -/
def rightAligned (width : Nat) (s : String) : String := blanks (width - s.length) ++ s

/-- A line of a snippet, and below it the mark with the name of the place. -/
def snippetLine (width : Nat) (place : String) (l : Source.Line) : List String :=
  let text := " " ++ rightAligned width (toString l.number) ++ " | " ++ String.ofList l.text
  match l.mark with
  | none => [text]
  | some columns =>
    let margin := " " ++ blanks width ++ " : " ++ blanks columns
    [text, margin ++ "^", margin ++ "`-- " ++ place]

/-- The lines of a snippet: a frame that names the place, and within it the
lines of the excerpt. -/
def snippetLines (path place : String) (e : Source.Excerpt) : List String :=
  let width := match e.lines.getLast? with
    | none => 1
    | some l => (toString l.number).length
  (blanks (width + 2) ++ ",-[" ++ path ++ ":" ++ toString e.line ++ ":" ++ toString e.column ++ "]")
    :: e.lines.flatMap (snippetLine width place) ++ [blanks (width + 2) ++ "`----"]

/-- The report of a diagnostic, line by line. -/
def diagnosticLines (a : Annotated) : List String :=
  let d := a.diagnostic
  let snippet := match a.excerpt with
    | none => []
    | some e => snippetLines d.path d.place e
  heading cut d.source d.severity d.message ++ snippet ++ adviceLines cut a.help

/-- The report of a failure of the tool, line by line. -/
def errorLines (e : ToolError) : List String :=
  let cause := match e.cause with
    | none => []
    | some cause => hanging cut "  `-> " "      " cause
  heading cut e.code .error e.text ++ cause ++ adviceLines cut e.help

/-- Lines as text, each with its end. -/
def unlines (lines : List String) : String :=
  String.join (lines.map (· ++ "\n"))

end Report

end BuildDiagnostics
