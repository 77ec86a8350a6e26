import BuildDiagnostics.Decimal.Shortest
import BuildDiagnostics.Settings
import BuildDiagnostics.Text.Names
import BuildDiagnostics.Text.Quoted
import BuildDiagnostics.Toml.Document
/-!
# Settings in a configuration file

The tables `diagnostics` and `output` hold the settings. Other keys may
stand beside them, and what they hold does not matter, as long as its
numbers have a value. A table may also be an array of its fields in order.
A setting that is missing keeps its default, and one of the wrong type or
with an unknown name is a complaint about the stretch of the file where it
stands. Keys are looked at in their order, and the first complaint counts.
-/


namespace BuildDiagnostics

namespace Settings

open Toml

/-- What is wrong with a setting, and where it stands. -/
structure Complaint where
  /-- What is wrong. -/
  reason : String
  /-- Where it stands. -/
  span : Span

/-- Doubles in complaints are written positionally, whatever their size. -/
def floatStyle : Decimal.Style := ⟨-400, 400⟩

/-- A double in a complaint. -/
def floatText (x : Float) : String :=
  if x.isNaN then "NaN"
  else if x.isInf then Decimal.sign x ++ "inf"
  else floatStyle.write x

/-- An integer in a complaint; one beyond 64 bits says so. -/
def integerText (n : Int) : String :=
  "integer " ++ Text.backquoted (toString n) ++
    if -(Nat.pow 2 63 : Int) ≤ n ∧ n < Nat.pow 2 64 then ""
    else if n < Nat.pow 2 127 then " as i128" else " as u128"

/-- The words for a value in a complaint about its type. -/
def valueText : Value → String
  | .string s => "string " ++ Text.quoted s
  | .integer n => integerText (n.getD 0)
  | .float x => "floating point " ++ Text.backquoted (floatText (x.getD 0))
  | .boolean b => "boolean " ++ Text.backquoted (if b then "true" else "false")
  | .datetime => "map"
  | .array _ _ => "sequence"
  | .table _ _ => "map"

/-- The name of the type of a value. -/
def typeName : Value → String
  | .string _ => "string"
  | .integer _ => "integer"
  | .float _ => "float"
  | .boolean _ => "boolean"
  | .datetime => "datetime"
  | .array _ _ => "array"
  | .table _ _ => "table"

/-- What is wrong with a number that no type can hold. -/
def tooLarge? : Value → Option String
  | .float none => some "floating-point number overflowed"
  | .integer n =>
    if n.any fun n => -(Nat.pow 2 127 : Int) ≤ n && n < Nat.pow 2 128 then none
    else some "integer number overflowed"
  | _ => none

mutual

/-- Checks that every number in a value that does not matter has a value. -/
def checkNumbers (span : Span) : Value → Except Complaint Unit
  | .array _ items => checkItems items
  | .table _ entries => checkEntries entries
  | v =>
    match tooLarge? v with
    | some reason => .error ⟨reason, span⟩
    | none => .ok ()

/-- Checks the numbers in some items. -/
def checkItems : List (Span × Value) → Except Complaint Unit
  | [] => .ok ()
  | (span, v) :: items => do
    checkNumbers span v
    checkItems items

/-- Checks the numbers in some entries. -/
def checkEntries : List (Key × Span × Value) → Except Complaint Unit
  | [] => .ok ()
  | (_, span, v) :: entries => do
    checkNumbers span v
    checkEntries entries

end

/-- What is wrong with a value that should be something else. -/
def wrongType (expected : String) (node : Node) : Complaint :=
  let mistyped := "invalid type: " ++ valueText node.2 ++ ", expected " ++ expected
  ⟨(tooLarge? node.2).getD mistyped, node.1⟩

/-- A string. -/
def textOf (node : Node) : Except Complaint String :=
  match node.2 with
  | .string s => .ok s
  | _ => .error (wrongType "a string" node)

/-- A value that should be empty. -/
def checkEmpty (node : Node) : Except Complaint Unit :=
  match node.2 with
  | .table _ [] => .ok ()
  | .array _ [] => .ok ()
  | .table _ _ => .error ⟨"expected empty table", node.1⟩
  | .array _ _ => .error ⟨"expected empty array", node.1⟩
  | v => .error ⟨"expected table, found " ++ typeName v, node.1⟩

/-- One of some names: as a string, or as the only key of a table whose
value is empty. -/
def nameOf {α : Type} (names : List String) (ofName? : String → Option α) (node : Node) :
    Except Complaint α :=
  let known (name : String) (span : Span) : Except Complaint α :=
    match ofName? name with
    | some a => .ok a
    | none => .error ⟨Text.unknownName name names, span⟩
  match node.2 with
  | .string s => known s node.1
  | .table _ [] => .error ⟨"wanted exactly 1 element, found 0 elements", node.1⟩
  | .table _ [(k, v)] => do
    let a ← known k.name k.span
    checkEmpty v
    return a
  | .table _ _ => .error ⟨"wanted exactly 1 element, more than 1 element", node.1⟩
  | _ => .error ⟨"wanted string or table", node.1⟩

/-- A field: the setter of its name takes it, and one without a setter is
only checked. -/
def takeField {α : Type} (setters : List (String × (Node → α → Except Complaint α))) (a : α)
    (f : String × Node) : Except Complaint α :=
  match setters.lookup f.1 with
  | some set => set f.2 a
  | none => do
    checkNumbers f.2.1 f.2.2
    return a

/-- Some fields, read one after the other. -/
def readFields {α : Type} (setters : List (String × (Node → α → Except Complaint α)))
    (start : α) (fields : List (String × Node)) : Except Complaint α :=
  fields.foldlM (takeField setters) start

/-- The fields of a table: its values with their names. -/
def fieldsOf (es : Entries) : List (String × Node) := es.map fun e => (e.1.name, e.2)

/-- A section: its fields by name, or in order. -/
def readSection {α : Type} (expected : String)
    (setters : List (String × (Node → α → Except Complaint α))) (start : α) (node : Node) :
    Except Complaint α :=
  match node.2 with
  | .table _ entries => readFields setters start (fieldsOf entries)
  | .array _ items => readFields setters start ((setters.map Prod.fst).zip items)
  | .datetime => .ok start
  | _ => .error (wrongType ("struct " ++ expected) node)

/-- The fields of the section for labels. -/
def labelSetters : List (String × (Node → Labels → Except Complaint Labels)) := [
  ("severity", fun node labels => do
    let severity ← nameOf [Severity.error.name, Severity.warning.name] Severity.ofName? node
    return { labels with severity := severity }),
  ("source", fun node labels => do
    let source ← textOf node
    return { labels with source := source })]

/-- The labels that a section sets. -/
def labelsOf (node : Node) : Except Complaint Labels :=
  readSection "DiagnosticsConfig" labelSetters {} node

/-- The field of the section for reports. -/
def formatSetters : List (String × (Node → Format → Except Complaint Format)) :=
  [("format", fun node _ => nameOf Format.names Format.ofName? node)]

/-- The form of reports that a section sets. -/
def formatOf (node : Node) : Except Complaint Format :=
  readSection "OutputConfig" formatSetters .human node

/-- The sections of a configuration file. -/
def sectionSetters : List (String × (Node → Settings → Except Complaint Settings)) := [
  ("diagnostics", fun node settings => do
    let labels ← labelsOf node
    return { settings with labels := labels }),
  ("output", fun node settings => do
    let format ← formatOf node
    return { settings with format := format })]

/-- The settings of a configuration file. -/
def ofEntries (es : Entries) : Except Complaint Settings :=
  readFields sectionSetters {} (fieldsOf es)

/-- A complaint in words: the line with the place, marks below it, and what
is wrong. Columns count characters; there is a mark for each byte of the
stretch, as long as the line has more bytes than the column counts. -/
def Complaint.text (content : String) (c : Complaint) : String :=
  let before := (Text.encode content).take (content.utf8ByteSize - c.span.start)
  let line := before.count 10
  let lead := (before.reverse.takeWhile (· ≠ 10)).reverse
  let column := ((Text.decode? lead).map String.length).getD lead.length
  let shown := String.ofList ((Text.splitOn '\n' content.toList)[line]?.getD [])
  let marks := max 1 (min (c.span.start - c.span.stop) (shown.utf8ByteSize - column))
  let number := toString (line + 1)
  let margin := String.ofList (List.replicate (number.length + 1) ' ') ++ "|"
  "TOML parse error at line " ++ number ++ ", column " ++ toString (column + 1) ++ "\n" ++
    margin ++ "\n" ++
    number ++ " | " ++ shown ++ "\n" ++
    margin ++ String.ofList (List.replicate (column + 1) ' ') ++
      String.ofList (List.replicate marks '^') ++ "\n" ++
    c.reason ++ "\n"

/-- Why a file holds no settings. -/
inductive Refusal where
  /-- It is no TOML, as the reader of TOML puts it. -/
  | notToml (reason : String)
  /-- A setting in it is wrong, in words. -/
  | complaint (text : String)

/-- The words for a refusal. -/
def Refusal.text : Refusal → String
  | notToml reason => reason
  | complaint text => text

/-- The settings in the content of a file. What is wrong with one that is no
TOML, `tomlFault` says. -/
def decode (tomlFault : String → String) (content : String) : Except Refusal Settings :=
  match document? content with
  | none => .error (.notToml (tomlFault content))
  | some es => (ofEntries es).mapError fun c => .complaint (c.text content)

end Settings

end BuildDiagnostics
