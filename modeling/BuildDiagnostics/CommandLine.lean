import BuildDiagnostics.Format
import BuildDiagnostics.Text.Quoted
import BuildDiagnostics.Text.Token
/-!
# The command line

Arguments are read from left to right. A long option has its value after an
equals sign or as the next argument; short options can stand together, and
the first that takes a value takes the rest. After a lone `--` everything
is an input. A value that is an argument of its own is checked only when
the next argument is known, so an unknown option after it is the first
thing that is wrong.
-/


namespace BuildDiagnostics

namespace CommandLine

/-- What the arguments ask for. -/
structure Arguments where
  /-- The input file. -/
  input : Option String := none
  /-- Whether the input is a session stream. -/
  watch : Bool := false
  /-- The form of reports, if given. -/
  format : Option Format := none
  /-- The configuration file, if given. -/
  config : Option String := none
  /-- How much is logged. -/
  logLevel : String := "info"
deriving DecidableEq

namespace Arguments

/-- Whether the input is the standard input. -/
def readsStandardInput (a : Arguments) : Bool := a.input.all (· = "-")

/-- An optional value, for inspection. -/
def inspectOption {α : Type} (inspect : α → String) : Option α → String
  | none => "None"
  | some a => "Some(" ++ inspect a ++ ")"

/-- The arguments with the names of their parts, for inspection. -/
def inspect (a : Arguments) : String :=
  "Args \x7b input: " ++ inspectOption Text.quoted a.input ++
    ", watch: " ++ (if a.watch then "true" else "false") ++
    ", format: " ++ inspectOption Format.inspect a.format ++
    ", config: " ++ inspectOption Text.quoted a.config ++
    ", log_level: " ++ Text.quoted a.logLevel ++ " \x7d"

end Arguments

/-- Why reading the arguments stops before their end. -/
inductive Stop where
  /-- A value is missing, or is none of those that are possible. -/
  | invalidValue
  /-- There is no such option, or no room for another input. -/
  | unknownArgument
  /-- An option stands twice. -/
  | argumentConflict
  /-- An option that takes no value has one. -/
  | tooManyValues
  /-- Help is asked for. -/
  | help
  /-- The version is asked for. -/
  | version
deriving DecidableEq

/-- An option. -/
inductive Opt where
  /-- Treat the input as a session stream. -/
  | watch
  /-- The form of reports. -/
  | format
  /-- The configuration file. -/
  | config
  /-- How much is logged. -/
  | logLevel
  /-- Ask for help. -/
  | help
  /-- Ask for the version. -/
  | version
deriving DecidableEq

namespace Opt

/-- The option of a long name. -/
def ofLong? : String → Option Opt
  | "watch" => some watch
  | "format" => some format
  | "config" => some config
  | "log-level" => some logLevel
  | "help" => some help
  | "version" => some version
  | _ => none

/-- The option of a letter. -/
def ofShort? : Char → Option Opt
  | 'w' => some watch
  | 'f' => some format
  | 'c' => some config
  | 'h' => some help
  | 'V' => some version
  | _ => none

/-- Whether the option takes a value. -/
def takesValue : Opt → Bool
  | format | config | logLevel => true
  | _ => false

end Opt

/-- The arguments read so far. -/
structure State where
  /-- What they ask for. -/
  arguments : Arguments := {}
  /-- The options that have stood, other than the last while it waits. -/
  seen : List Opt := []
  /-- An option whose value is not checked yet, and the value if it has
  stood. -/
  waiting : Option (Opt × Option String) := none
  /-- Whether all that follows is input. -/
  onlyInput : Bool := false

namespace State

/-- Takes an option with its value into the arguments. -/
def set (st : State) (o : Opt) (value : String) : Except Stop State :=
  if o ∈ st.seen then .error .argumentConflict
  else
    let st := { st with seen := o :: st.seen }
    let a := st.arguments
    match o with
    | .watch => .ok { st with arguments := { a with watch := true } }
    | .format =>
      match Format.ofName? value with
      | some f => .ok { st with arguments := { a with format := some f } }
      | none => .error .invalidValue
    | .config => .ok { st with arguments := { a with config := some value } }
    | .logLevel => .ok { st with arguments := { a with logLevel := value } }
    | .help => .error .help
    | .version => .error .version

/-- Checks the value of the option that waits. -/
def settle (st : State) : Except Stop State :=
  match st.waiting with
  | none => .ok st
  | some (_, none) => .error .invalidValue
  | some (o, some value) => { st with waiting := none }.set o value

/-- Takes an option that has its value with it, or needs none. -/
def complete (st : State) (o : Opt) (value : String) : Except Stop State := do
  let st ← st.settle
  st.set o value

/-- Takes an option whose value is the next argument. -/
def await (st : State) (o : Opt) : Except Stop State := do
  let st ← st.settle
  return { st with waiting := some (o, none) }

/-- Takes an input. -/
def addInput (st : State) (input : String) : Except Stop State :=
  if st.arguments.input.isSome then .error .unknownArgument
  else do
    let st ← st.settle
    return { st with arguments := { st.arguments with input := some input } }

/-- Takes a long option, after its two dashes. -/
def takeLong (st : State) (s : List Char) : Except Stop State :=
  let value := match s.dropWhile (· ≠ '=') with
    | [] => none
    | _ :: v => some (String.ofList v)
  match Opt.ofLong? (String.ofList (s.takeWhile (· ≠ '='))) with
  | none => .error .unknownArgument
  | some o =>
    match value with
    | some v => if o.takesValue then st.complete o v else .error .tooManyValues
    | none => if o.takesValue then st.await o else st.complete o ""

/-- Takes short options, after their dash. -/
def takeShort (st : State) : List Char → Except Stop State
  | [] => .ok st
  | c :: s =>
    match Opt.ofShort? c with
    | none => .error .unknownArgument
    | some o =>
      if o.takesValue then
        match s with
        | [] => st.await o
        | '=' :: v => st.complete o (String.ofList v)
        | v => st.complete o (String.ofList v)
      else do
        let st ← st.complete o ""
        st.takeShort s

/-- Takes an argument that is no option: the value that is waited for, or
an input. -/
def takePlain (st : State) (arg : String) : Except Stop State :=
  match st.waiting with
  | some (o, none) => .ok { st with waiting := some (o, some arg) }
  | _ => st.addInput arg

/-- Takes one argument. -/
def take (st : State) (arg : String) : Except Stop State :=
  if st.onlyInput then st.addInput arg
  else
    match arg.toList with
    | ['-', '-'] => .ok { st with onlyInput := true }
    | '-' :: '-' :: s => st.takeLong s
    | ['-'] => st.takePlain arg
    | '-' :: s => st.takeShort s
    | _ => st.takePlain arg

end State

/-- Reads the arguments of the command line. -/
def read (args : List String) : Except Stop Arguments := do
  let st ← args.foldlM State.take ({} : State)
  let st ← st.settle
  return st.arguments

/-- The text that describes the command line. -/
def helpText : String :=
  "Command-line interface for envd error diagnostics\n\n" ++
  "Usage: envd-diag [OPTIONS] [INPUT]\n\n" ++
  "Arguments:\n" ++
  "  [INPUT]  Path to the input file; reads stdin when omitted or `-`\n\n" ++
  "Options:\n" ++
  "  -w, --watch                  Treat the input as a session stream of JSON documents, " ++
    "one per line\n" ++
  "  -f, --format <FORMAT>        Report format, overriding the configuration file " ++
    "[possible values: human, json]\n" ++
  "  -c, --config <CONFIG>        Path to configuration file (TOML)\n" ++
  "      --log-level <LOG_LEVEL>  Log level (off, error, warn, info, debug, trace) " ++
    "[default: info]\n" ++
  "  -h, --help                   Print help\n" ++
  "  -V, --version                Print version\n"

/-- The text that names the version. -/
def versionText : String := "envd-diag-cli 0.1.0\n"

end CommandLine

end BuildDiagnostics
