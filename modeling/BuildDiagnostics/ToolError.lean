import BuildDiagnostics.Json.Problem
/-!
# Failures of the tool

Error texts never make the tool fail; its surroundings do. Each failure
keeps its cause, and the words for it are made in one place.
-/


namespace BuildDiagnostics

/-- What is wrong with reading or writing a file or stream. -/
inductive IoCause where
  /-- There is nothing of that name. -/
  | missing
  /-- A directory stands where a file should. -/
  | directory
  /-- A file stands where a directory should. -/
  | notDirectory
  /-- A name is longer than names can be. -/
  | nameTooLong
  /-- The bytes are not text. -/
  | notText
  /-- Any other cause, in words. -/
  | other (text : String)
deriving DecidableEq

/-- The words for what is wrong. -/
def IoCause.text : IoCause → String
  | missing => "No such file or directory (os error 2)"
  | directory => "Is a directory (os error 21)"
  | notDirectory => "Not a directory (os error 20)"
  | nameTooLong => "File name too long (os error 36)"
  | notText => "stream did not contain valid UTF-8"
  | other text => text

/-- What is wrong with the settings. -/
inductive ConfigCause where
  /-- The file that was asked for does not exist. -/
  | missing (path : String)
  /-- The file does not hold settings, for the reason in words. -/
  | malformed (reason : String)
  /-- Any other cause, in words. -/
  | other (text : String)
deriving DecidableEq

/-- The words for what is wrong. -/
def ConfigCause.text : ConfigCause → String
  | missing path => "Missing configuration file: " ++ path
  | malformed reason => "Failed to parse TOML configuration: " ++ reason
  | other text => text

/-- What is wrong with a JSON text that is read or written. -/
inductive JsonCause where
  /-- The text is not what was expected. -/
  | problem (p : Json.Problem)
  /-- The text could not be written. -/
  | io (cause : IoCause)

/-- The words for what is wrong. -/
def JsonCause.text : JsonCause → String
  | problem p => p.text
  | io cause => cause.text

/-- A failure of the tool. -/
inductive ToolError where
  /-- A file or stream. -/
  | io (cause : IoCause)
  /-- The settings. -/
  | config (cause : ConfigCause)
  /-- A line of a session stream, counted from one. -/
  | session (line : Nat) (problem : Json.Problem)
  /-- A JSON text. -/
  | json (cause : JsonCause)

namespace ToolError

/-- The words for the failure. -/
def text : ToolError → String
  | io cause => "I/O error: " ++ cause.text
  | config cause => "Configuration error: " ++ cause.text
  | session line problem =>
    "Malformed session document on line " ++ toString line ++ ": " ++ problem.text
  | json cause => "JSON error: " ++ cause.text

/-- The code that a report of the failure starts with. -/
def code : ToolError → String
  | io _ => "envd_diag::io"
  | config _ => "envd_diag::config"
  | session _ _ => "envd_diag::session"
  | json _ => "envd_diag::json"

/-- The words for the failure underneath, when there is one of its own. -/
def cause : ToolError → Option String
  | io cause => some cause.text
  | config _ => none
  | session _ problem => some problem.text
  | json cause => some cause.text

/-- Advice to the user. -/
def help : ToolError → Option String
  | session _ _ => some "session streams carry one JSON document per line"
  | _ => none

end ToolError

end BuildDiagnostics
