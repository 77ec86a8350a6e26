import BuildDiagnostics.CommandLine
import BuildDiagnostics.Log.Filter
import BuildDiagnostics.Report.Stream
import BuildDiagnostics.Settings.Discovery
/-!
# The tool

A run of the tool as a function of its surroundings: the arguments, the
files, the standard input and what the user's environment says, and what it
leaves to others. It gives the exit status and the two output streams. The
run fails only when its settings cannot be loaded or its input cannot be
read.
-/


namespace BuildDiagnostics

namespace Tool

open CommandLine

/-- What surrounds a run. -/
structure Surroundings where
  /-- The files. -/
  files : Files
  /-- The user's directories. -/
  environment : Environment
  /-- The standard input. -/
  standardInput : List UInt8
  /-- Which records the user wants to see, in words. -/
  logSpec : Option String
  /-- What the reader of TOML says of a text that is no TOML. -/
  tomlFault : String → String
  /-- How a line of a report is cut that is too wide. -/
  cut : Report.Cut

/-- What a run leaves behind. -/
structure Outcome where
  /-- The exit status. -/
  status : Nat
  /-- What it wrote to the standard output. -/
  output : List UInt8
  /-- What it wrote to the standard error; none when that is a message about
  the use of the command line. -/
  errors : Option String
deriving DecidableEq

/-- The part of the tool that starts and ends a run. -/
def target : String := "envd_diag"

/-- What a path leads to as an input: its bytes, or the reason why it cannot
be read to its end. A path that leads nowhere cannot even be opened. -/
def openInput (s : Surroundings) (a : Arguments) : Except IoCause (Except IoCause (List UInt8)) :=
  match a.input.filter (· ≠ "-") with
  | none => .ok (.ok s.standardInput)
  | some path =>
    match s.files.lookup path with
    | .error cause => .error cause
    | .ok (.file bytes) => .ok (.ok bytes)
    | .ok .directory => .ok (.error .directory)

/-- How the input is reported on: as the command line says, and where it
says nothing, as the settings do. -/
def plan (s : Surroundings) (a : Arguments) (settings : Settings) : Report.Plan :=
  ⟨settings.labels, a.format.getD settings.format, a.watch, s.cut⟩

/-- Reports on an input that has been opened. -/
def report (s : Surroundings) (p : Report.Plan) (input : Except IoCause (List UInt8)) :
    Run Sink :=
  match input with
  | .error cause => ⟨{}, [], some (.io cause)⟩
  | .ok bytes => Report.process s.files p bytes {}

/-- A run with arguments that were understood. -/
def run (s : Surroundings) (a : Arguments) : Run Sink :=
  let start : List Log.Record :=
    [⟨.info, Report.target, "Processing envd output",
      [("input", a.input.getD "-"), ("watch", if a.watch then "true" else "false")]⟩]
  let (loading, loaded) := Settings.load s.tomlFault s.files s.environment a.config
  match loaded with
  | .error e => ⟨{}, start ++ loading, some e⟩
  | .ok settings =>
    let p := plan s a settings
    let chosen : List Log.Record :=
      [⟨.debug, Report.target, "Selected output format", [("format", p.format.inspect)]⟩]
    match openInput s a with
    | .error cause => ⟨{}, start ++ loading ++ chosen, some (.io cause)⟩
    | .ok input =>
      ((report s p input).logged (start ++ loading ++ chosen)).andThen fun sink =>
        ⟨sink, [⟨.info, Report.target, "Processing finished", []⟩], none⟩

/-- The configuration files that a run may look for, and its input file. -/
def ownPaths (env : Environment) (a : Arguments) : List String :=
  (match a.config with
    | some path => [path]
    | none => Settings.localPath :: (Settings.systemPath env).toList) ++
  (a.input.filter (· ≠ "-")).toList

/-- The files that a run may show snippets of: those of all diagnostics that
it reports. -/
def shownPaths (a : Arguments) (input : List UInt8) : List String :=
  if a.watch then
    let step (acc : Session × List String) (line : List UInt8) : Session × List String :=
      match Text.decode? line with
      | none => acc
      | some text =>
        let s := (acc.1.step text).2
        (s, acc.2 ++ s.current.paths)
    ((Text.lines input).foldl step (⟨{}, .empty, 0⟩, [])).2
  else
    match Text.decode? input with
    | none => []
    | some text => (DiagnosticSet.ofText {} text).paths

/-- What is logged before a run. -/
def opening (a : Arguments) (threshold : Log.Threshold) : List Log.Record :=
  [⟨.debug, target, "Logger initialized", [("log_level", threshold.inspect)]⟩,
    ⟨.info, target, "Starting envd-diag", []⟩,
    ⟨.debug, target, "Parsed arguments", [("args", a.inspect)]⟩]

/-- What is logged after a run. -/
def closing (cut : Report.Cut) (error : Option ToolError) : List Log.Record :=
  match error with
  | none => [⟨.info, target, "Completed successfully", []⟩]
  | some e => [⟨.error, target, "Failed\n" ++ Report.unlines (Report.errorLines cut e), []⟩]

/-- The threshold that a name on the command line sets, and what is said
about a name that is none. -/
def threshold (name : String) : Log.Threshold × String :=
  match Log.Threshold.ofName? name with
  | some t => (t, "")
  | none => (some .warn, "Invalid log level: " ++ name ++ ". Using 'warn' instead.\n")

/-- A run with its log as text. -/
def perform (s : Surroundings) (a : Arguments) : Outcome :=
  let (t, complaint) := threshold a.logLevel
  let (filter, faults) := Log.Filter.ofText (s.logSpec.getD "")
  let warnings := String.join (faults.map fun f => "warning: " ++ f ++ ", ignoring it\n")
  let done := run s a
  let records := opening a t ++ done.log ++ closing s.cut done.error
  { status := if done.error.isNone then 0 else 1
    output := done.state.written
    errors := some (complaint ++ warnings ++ (filter.atMost t).text records) }

/-- A run from its arguments as they were given. -/
def execute (s : Surroundings) (args : List String) : Outcome :=
  match CommandLine.read args with
  | .ok a => perform s a
  | .error .help => ⟨0, Text.encode helpText, some ""⟩
  | .error .version => ⟨0, Text.encode versionText, some ""⟩
  | .error _ => ⟨2, [], none⟩

end Tool

end BuildDiagnostics
