import BuildDiagnostics.Text.Utf8
import BuildDiagnostics.ToolError
/-!
# Files

The tool reads files by their paths and changes none. `Files` is what the
paths lead to: a file with its bytes, a directory, or nothing.
-/


namespace BuildDiagnostics

/-- What a path leads to. -/
inductive Entry where
  /-- A file with its bytes. -/
  | file (bytes : List UInt8)
  /-- A directory. -/
  | directory
deriving DecidableEq

/-- The files as the tool finds them. -/
structure Files where
  /-- What a path leads to, or why it leads nowhere. -/
  lookup : String → Except IoCause Entry

namespace Files

/-- The path of a name in a directory: a slash stands between them, unless
the directory ends with one or is not named. -/
def join (directory name : String) : String :=
  if directory.toList.getLast?.all (· = '/') then directory ++ name else directory ++ "/" ++ name

/-- No files at all. -/
def none : Files := ⟨fun _ => .error .missing⟩

/-- Whether a path leads anywhere. -/
def exists? (files : Files) (path : String) : Bool :=
  match files.lookup path with
  | .ok _ => true
  | .error _ => false

/-- The bytes of a file. -/
def read (files : Files) (path : String) : Except IoCause (List UInt8) :=
  match files.lookup path with
  | .ok (.file bytes) => .ok bytes
  | .ok .directory => .error .directory
  | .error cause => .error cause

/-- The content of a file that holds text. -/
def readText (files : Files) (path : String) : Except IoCause String :=
  match files.read path with
  | .error cause => .error cause
  | .ok bytes =>
    match Text.decode? bytes with
    | some text => .ok text
    | .none => .error .notText

end Files

end BuildDiagnostics
