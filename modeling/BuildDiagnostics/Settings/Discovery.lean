import BuildDiagnostics.Files
import BuildDiagnostics.Log
import BuildDiagnostics.Settings.Decode
/-!
# Finding the settings

Settings come from the first configuration file that exists: the one that
was asked for and no other, or else the one of the project, or else the one
of the user. If there is none, they are the defaults. A file that exists is
the one to be read, even if it turns out that it cannot be.
-/


namespace BuildDiagnostics

/-- The directories that the user's surroundings name. -/
structure Environment where
  /-- The directory for configuration files, when one is set. -/
  configHome : Option String
  /-- The user's own directory, when one is set. -/
  home : Option String
  /-- The directory of the user's account, for when no other is set. -/
  accountHome : Option String
deriving DecidableEq

/-- The user's own directory, or else that of the account. An empty name
counts as none. -/
def Environment.homePath (env : Environment) : Option String :=
  (env.home.filter (· ≠ "")).or env.accountHome

namespace Settings

/-- The part of the tool that finds the settings. -/
def target : String := "envd_diag_cli::config"

/-- The configuration file of the project, from the working directory. -/
def localPath : String := "envd-diag/config.toml"

/-- The configuration file of the user. The directory for configuration files
counts only if its path is absolute, and a user without a directory has no
file, whatever that one is. -/
def systemPath (env : Environment) : Option String :=
  let absolute := env.configHome.filter fun d => d.toList.head? = some '/'
  env.homePath.map fun home =>
    Files.join (absolute.getD (Files.join home ".config")) localPath

/-- What finding the settings logs, and what it comes to. -/
abbrev Load := List Log.Record × Except ToolError Settings

/-- A record about a path. -/
def pathRecord (level : Log.Level) (message path : String) : Log.Record :=
  ⟨level, target, message, [("path", path)]⟩

variable (tomlFault : String → String)

/-- Loads the settings from a file. -/
def loadFile (files : Files) (path : String) : Load :=
  if files.exists? path then
    match files.readText path with
    | .error cause => ([], .error (.io cause))
    | .ok content =>
      ([⟨.debug, target, "Read configuration file",
          [("path", path), ("bytes", toString content.utf8ByteSize)]⟩],
        (decode tomlFault content).mapError fun r => .config (.malformed r.text))
  else ([], .error (.config (.missing path)))

/-- Loads the settings from a file, and says where the file was found. -/
def loadFrom (files : Files) (place path : String) : Load :=
  let (log, result) := loadFile tomlFault files path
  (pathRecord .info ("Loading configuration from " ++ place ++ " path") path :: log, result)

/-- What is logged when there are no files to load. -/
def noneFound (system : Option String) : List Log.Record :=
  (match system with
    | some path => pathRecord .debug "System configuration file not found" path
    | none => ⟨.debug, target, "Could not determine platform-specific config directory", []⟩) ::
  [⟨.debug, target, "No configuration file found, using default configuration", []⟩]

/-- Finds and loads the settings. -/
def load (files : Files) (env : Environment) (explicit : Option String) : Load :=
  match explicit with
  | some path => loadFrom tomlFault files "explicit" path
  | none =>
    if files.exists? localPath then loadFrom tomlFault files "local" localPath
    else
      match (systemPath env).filter files.exists? with
      | some path => loadFrom tomlFault files "system" path
      | none => (noneFound (systemPath env), .ok {})

end Settings

end BuildDiagnostics
