import BuildDiagnostics.Tool
/-!
# The program

Reads what a run may look at, lets `Tool.execute` say what the run does,
and writes that to the two output streams. What the tool leaves to others is
settled here: which directory belongs to the account, how a line is cut that
is too wide for a report, and the words for a text that is no TOML.
-/


namespace BuildDiagnostics

namespace Program

/-- What a path leads to on disk. -/
def lookup (path : String) : IO (Except IoCause Entry) := do
  try
    let bytes ← IO.FS.readBinFile path
    return .ok (.file bytes.data.toList)
  catch e =>
    match e with
    | .noFileOrDirectory .. => return .error .missing
    | .inappropriateType .. => return .ok .directory
    | .resourceExhausted .. => return .error .nameTooLong
    | e => return .error (.other (toString e))

/-- The files at some paths. -/
def filesAt (paths : List String) : IO Files := do
  let found ← paths.eraseDups.mapM fun path => do
    return (path, ← lookup path)
  return ⟨fun path => (found.lookup path).getD (.error .missing)⟩

/-- All bytes of a stream. -/
partial def readAll (stream : IO.FS.Stream) (acc : ByteArray) : IO ByteArray := do
  let chunk ← stream.read 65536
  if chunk.isEmpty then return acc else readAll stream (acc ++ chunk)

/-- The directory of an account, by the status of a process that runs for it
and the list of all accounts. -/
def accountHome? (status accounts : String) : Option String := do
  let user ← (status.splitOn "\n").findSome? fun line =>
    match line.splitOn "\t" with
    | "Uid:" :: user :: _ => some user
    | _ => none
  let home ← (accounts.splitOn "\n").findSome? fun line =>
    match line.splitOn ":" with
    | [_, _, number, _, _, home, _] => if number = user then some home else none
    | _ => none
  if home = "" then none else some home

/-- The directory of the account that the program runs for. -/
def accountHome : IO (Option String) := do
  try
    return accountHome? (← IO.FS.readFile "/proc/self/status") (← IO.FS.readFile "/etc/passwd")
  catch _ => return none

/-- Goes on with lines, the last of which comes first, character by character. -/
def fillBy (room : Nat) (lines : List (List Char)) (word : List Char) : List (List Char) :=
  word.foldl (fun lines c =>
    match lines with
    | [] => [[c]]
    | last :: before =>
      if Text.plainWidth (last ++ [c]) ≤ room then (last ++ [c]) :: before else [c] :: lines) lines

/-- Cuts a line between words, where the next does not fit any more, and a word
that is wider than a line wherever the line is full. -/
def fill : Report.Cut := fun room line =>
  let put (lines : List (List Char)) (word : List Char) : List (List Char) :=
    match lines with
    | [] => fillBy room [[]] word
    | last :: before =>
      if Text.plainWidth (last ++ ' ' :: word) ≤ room then (last ++ ' ' :: word) :: before
      else fillBy room ([] :: lines) word
  ((Text.splitOn ' ' line).foldl put []).reverse.map Report.trimmed

/-- The surroundings of a run, as far as its arguments make it look at
them. -/
def surroundings (args : List String) : IO Tool.Surroundings := do
  let env : Environment :=
    { configHome := ← IO.getEnv "XDG_CONFIG_HOME"
      home := ← IO.getEnv "HOME"
      accountHome := ← accountHome }
  let bare : Tool.Surroundings :=
    { files := .none
      environment := env
      standardInput := []
      logSpec := ← IO.getEnv "RUST_LOG"
      tomlFault := fun _ => "not a TOML document\n"
      cut := fill }
  match CommandLine.read args with
  | .error _ => return bare
  | .ok a =>
    let own := Tool.ownPaths env a
    let files ← filesAt own
    let standardInput ←
      if a.readsStandardInput then do
        let bytes ← readAll (← IO.getStdin) ByteArray.empty
        pure bytes.data.toList
      else pure []
    let found := { bare with files, standardInput }
    let input := match Tool.openInput found a with
      | .ok (.ok bytes) => bytes
      | _ => []
    return { found with files := ← filesAt (own ++ Tool.shownPaths a input) }

end Program

end BuildDiagnostics

/-- Runs the tool with the arguments of the command line. -/
def main (args : List String) : IO UInt32 := do
  let outcome := BuildDiagnostics.Tool.execute (← BuildDiagnostics.Program.surroundings args) args
  let output ← IO.getStdout
  output.write ⟨outcome.output.toArray⟩
  output.flush
  (← IO.getStderr).putStr (outcome.errors.getD "See --help for how to use this program.\n")
  return UInt32.ofNat outcome.status
