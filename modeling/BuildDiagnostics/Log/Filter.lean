import BuildDiagnostics.Log
import BuildDiagnostics.Pattern.Read
/-!
# Which records are shown

Records are shown up to a threshold, which the command line sets for all
parts of the tool. The user's surroundings may set others for the parts
whose names start in a certain way; of those that apply, the one with the
longest name counts. They may also ask for messages in which a pattern
occurs. Shown records become lines of text.
-/


namespace BuildDiagnostics

namespace Log

/-- The least important level that is shown; none shows nothing. -/
abbrev Threshold := Option Level

namespace Threshold

/-- Whether a level is shown. -/
def shows (t : Threshold) (l : Level) : Bool := t.any fun most => l.rank ≤ most.rank

/-- The name for inspection. -/
def inspect (t : Threshold) : String :=
  match t with
  | none => "Off"
  | some l => l.inspect

/-- The threshold of a name, in letters of either case. -/
def ofName? (name : String) : Option Threshold :=
  let name := name.map Char.toUpper
  if name = "OFF" then some none
  else (Level.all.find? fun l => l.name = name).map some

end Threshold

/-- A threshold for some parts of the tool. -/
structure Directive where
  /-- How the names of the parts start; none stands for all parts. -/
  stem : Option String
  /-- The threshold for them. -/
  threshold : Threshold
deriving DecidableEq

namespace Directive

/-- Whether the directive is for a part of the tool. -/
def applies (d : Directive) (target : String) : Bool :=
  d.stem.all fun stem => stem.toList.isPrefixOf target.toList

/-- How closely the directive names its parts. -/
def weight (d : Directive) : Nat := (d.stem.map String.utf8ByteSize).getD 0

/-- Some directives with one more, which takes the place of the one for the
same parts. -/
def put (d : Directive) : List Directive → List Directive
  | [] => [d]
  | e :: es => if e.stem = d.stem then d :: es else e :: put d es

end Directive

/-- Which records are shown. -/
structure Filter where
  /-- The directives. -/
  directives : List Directive := []
  /-- What has to occur in the messages of the records. -/
  within : Option Pattern := none

namespace Filter

/-- The directive for a part of the tool: of those that apply, the last of
the closest. -/
def directive? (f : Filter) (target : String) : Option Directive :=
  (f.directives.filter (·.applies target)).foldl
    (fun best d => if best.any fun b => d.weight < b.weight then best else some d) none

/-- Whether a record is shown. -/
def shows (f : Filter) (r : Record) : Bool :=
  (f.directive? r.target).any (·.threshold.shows r.level) &&
    f.within.all fun p => p.occursIn r.message

end Filter

/-- A directive in words: a stem, the name of a level, or both with an
equals sign between. A stem alone shows everything. -/
def Directive.ofText? (s : String) : Except String Directive :=
  let faulty (part : String) : Except String Directive :=
    .error ("invalid logging spec '" ++ part ++ "'")
  match (Text.splitOn '=' s.toList).map String.ofList with
  | [word] =>
    match Threshold.ofName? word with
    | some t => .ok ⟨none, t⟩
    | none => .ok ⟨some word, some .trace⟩
  | [stem, level] =>
    let level := Text.trim level
    if level = "" then .ok ⟨some stem, some .trace⟩
    else
      match Threshold.ofName? level with
      | some t => .ok ⟨some stem, t⟩
      | none => faulty level
  | _ => faulty s

/-- Takes one directive in words into a filter, or complains about it. -/
def Filter.take (acc : Filter × List String) (part : String) : Filter × List String :=
  if part = "" then acc
  else
    match Directive.ofText? part with
    | .ok d => ({ acc.1 with directives := d.put acc.1.directives }, acc.2)
    | .error complaint => (acc.1, acc.2 ++ [complaint])

/-- Takes what has to occur in messages into a filter, or complains that it
is no pattern. -/
def Filter.takePattern (acc : Filter × List String) (text : String) : Filter × List String :=
  match Pattern.ofText text with
  | .ok p => ({ acc.1 with within := some p }, acc.2)
  | .error e => (acc.1, acc.2 ++ ["invalid regex filter - " ++ e.text text])

/-- The filter of a list of directives with commas between, and the
complaints about those that are faulty. After a slash may stand the pattern
that has to occur in messages. -/
def Filter.ofText (spec : String) : Filter × List String :=
  let directives (list : List Char) : Filter × List String :=
    ((Text.splitOn ',' list).map fun p => Text.trim (String.ofList p)).foldl take ({}, [])
  match Text.splitOn '/' spec.toList with
  | [] => ({}, [])
  | [list] => directives list
  | [list, pattern] => takePattern (directives list) (String.ofList pattern)
  | _ => ({}, ["invalid logging spec '" ++ spec ++ "' (too many '/'s)"])

/-- The filter with a threshold for all parts of the tool. -/
def Filter.atMost (f : Filter) (t : Threshold) : Filter :=
  { f with directives := Directive.put ⟨none, t⟩ f.directives }

/-- A level in the width of the longest. -/
def Level.padded (l : Level) : String :=
  l.name ++ String.ofList (List.replicate (5 - l.name.length) ' ')

/-- A record as text: level and part in brackets, the message with its
further lines indented, and the values. -/
def Record.text (r : Record) : String :=
  let message := "\n    ".intercalate ((Text.splitOn '\n' r.message.toList).map String.ofList)
  "[" ++ r.level.padded ++ " " ++ r.target ++ "] " ++ message ++
    String.join (r.fields.map fun f => " " ++ f.1 ++ "=" ++ f.2) ++ "\n"

/-- The text of the records that are shown. -/
def Filter.text (f : Filter) (records : List Record) : String :=
  String.join ((records.filter f.shows).map Record.text)

end Log

end BuildDiagnostics
