import BuildDiagnostics.Files
import BuildDiagnostics.Format
import BuildDiagnostics.Report.Human
import BuildDiagnostics.Report.Json
import BuildDiagnostics.Session.Stream
import BuildDiagnostics.Sink
/-!
# Reporting

A set is reported as a line of JSON or as text for people, as the settings
say. `process` reports on a whole input: in a session one report to each
document, and otherwise one report on the input as a single error text.
-/


namespace BuildDiagnostics

namespace Report

/-- The part of the tool that reports. -/
def target : String := "envd_diag_cli"

/-- A diagnostic with the content of its file. -/
def annotate (files : Files) (d : Diagnostic) : Annotated :=
  ⟨d, (files.readText d.path).toOption⟩

/-- What is logged about the file of a diagnostic. -/
def readingRecords (files : Files) (d : Diagnostic) : List Log.Record :=
  match files.readText d.path with
  | .ok _ => []
  | .error cause =>
    [⟨.debug, target, "Source not readable", [("path", d.path), ("err", cause.text)]⟩]

variable (cut : Cut)

/-- The reports of all diagnostics of a set, as text for people. -/
def humanText (files : Files) (set : DiagnosticSet) : String :=
  String.join (set.diagnostics.map fun d => unlines (diagnosticLines cut (annotate files d)))

/-- Reports a set. Without diagnostics there is nothing for people to
read. -/
def write (files : Files) (format : Format) (set : DiagnosticSet) (sink : Sink) : Run Sink :=
  match format with
  | .json =>
    (sink.write (fun cause => .json (.io cause)) (Text.encode set.json.render)).andThen
      (Sink.write .io (Text.encode "\n"))
  | .human =>
    if set.isEmpty then ⟨sink, [⟨.info, target, "No diagnostics found", []⟩], none⟩
    else
      (sink.write .io (Text.encode (humanText cut files set))).logged
        (set.diagnostics.flatMap (readingRecords files))

/-- How an input is reported on. -/
structure Plan where
  /-- How diagnostics are labelled. -/
  labels : Labels
  /-- The form of the reports. -/
  format : Format
  /-- Whether the input is a session stream. -/
  watch : Bool
  /-- How lines are cut that are too wide. -/
  cut : Cut

/-- Reports on an input that could be read. -/
def process (files : Files) (plan : Plan) (input : List UInt8) (sink : Sink) : Run Sink :=
  if plan.watch then
    (Session.watch (write plan.cut files plan.format) input (⟨plan.labels, .empty, 0⟩, sink)).map
      Prod.snd
  else
    match Text.decode? input with
    | none => ⟨sink, [], some (.io .notText)⟩
    | some text =>
      (write plan.cut files plan.format (DiagnosticSet.ofText plan.labels text) sink).logged
        (Log.ofText text)

end Report

end BuildDiagnostics
