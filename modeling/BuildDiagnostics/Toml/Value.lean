/-!
# TOML values

A configuration file is a tree of tables. Each value keeps the stretch of
the file that it was written in, as the numbers of bytes that were left
before and after it was read, and each table remembers how it came about,
since that decides what may still be added to it.
-/


namespace BuildDiagnostics

namespace Toml

/-- A stretch of a file, by the bytes left to read at its two ends. -/
structure Span where
  /-- The bytes left at its start. -/
  start : Nat
  /-- The bytes left at its end. -/
  stop : Nat
deriving DecidableEq

/-- A key and where it stands. -/
structure Key where
  /-- The key. -/
  name : String
  /-- Where it stands. -/
  span : Span
deriving DecidableEq

/-- How a table came about. -/
inductive Standing where
  /-- It is written between braces; nothing can be added. -/
  | closed
  /-- It has a header of its own. -/
  | headed
  /-- A header below it names it. -/
  | implied
  /-- A dotted key names it. -/
  | dotted
deriving DecidableEq

/-- A value. Arrays tell whether headers made them of tables. -/
inductive Value where
  /-- A string. -/
  | string (s : String)
  /-- An integer; none when its digits have no value. -/
  | integer (n : Option Int)
  /-- A number with a fraction or an exponent; none when it is too large. -/
  | float (x : Option Float)
  /-- A boolean. -/
  | boolean (b : Bool)
  /-- A date, a time, or both. -/
  | datetime
  /-- An array. -/
  | array (ofTables : Bool) (items : List (Span × Value))
  /-- A table. -/
  | table (standing : Standing) (entries : List (Key × Span × Value))

/-- A value and where it stands. -/
abbrev Node := Span × Value

/-- The entries of a table, in the order of their keys. -/
abbrev Entries := List (Key × Node)

/-- The entry of a name. -/
def Entries.find? (es : Entries) (name : String) : Option Node :=
  (List.find? (fun e => e.1.name = name) es).map Prod.snd

/-- The entries with one more, at its place in their order. -/
def Entries.insert (key : Key) (node : Node) : Entries → Entries
  | [] => [(key, node)]
  | e :: es => if key.name < e.1.name then (key, node) :: e :: es else e :: insert key node es

/-- The entries with a new value for a key that is there. -/
def Entries.replace (es : Entries) (name : String) (node : Node) : Entries :=
  es.map fun e => if e.1.name = name then (e.1, node) else e

end Toml

end BuildDiagnostics
