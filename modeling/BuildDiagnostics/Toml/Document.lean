import BuildDiagnostics.Toml.Scalar
/-!
# TOML documents

A document is a list of statements: keys with values, and headers that say
which table the following keys belong to. Reading it takes two steps. The
text is read as statements, and the statements are carried out on a table
that is empty at first. Both can fail: on what is no statement, and on a
key that is defined twice or a table that cannot be added to.
-/


namespace BuildDiagnostics

namespace Toml

/-- A value to be set at the end of a path. -/
structure Assignment where
  /-- The keys that lead to it. -/
  path : List Key
  /-- The value. -/
  node : Node

/-- The entries with a value at the end of a dotted path. Tables on the way
are made, or were made by a dotted key. A table that headers made may be on
the way, but the value itself cannot go into one. -/
def Entries.assign (node : Node) : List Key → Entries → Option Entries
  | [], _ => none
  | [k], es =>
    match es.find? k.name with
    | none => some (es.insert k node)
    | some _ => none
  | k :: l :: ks, es =>
    match es.find? k.name with
    | none => (assign node (l :: ks) []).map fun sub => es.insert k (k.span, .table .dotted sub)
    | some (span, .table .dotted sub) =>
      (assign node (l :: ks) sub).map fun sub => es.replace k.name (span, .table .dotted sub)
    | some (span, .table .implied sub) =>
      if ks = [] then none
      else (assign node (l :: ks) sub).map fun sub => es.replace k.name (span, .table .implied sub)
    | some (span, .array true tables) =>
      match tables.getLast? with
      | some (last, .table standing sub) =>
        if ks = [] then none
        else (assign node (l :: ks) sub).map fun sub =>
          es.replace k.name (span, .array true (tables.dropLast ++ [(last, .table standing sub)]))
      | _ => none
    | some _ => none

/-- The entries with some values set one after the other. -/
def Entries.assignAll (es : Entries) (body : List Assignment) : Option Entries :=
  body.foldlM (fun es a => es.assign a.node a.path) es

/-- How many arrays and inline tables may stand within each other, and how
many keys a dotted key may have. -/
def maxDepth : Nat := 80

/-- A dotted key that is not too deep, and the rest after it. -/
def dottedKey? (s : List Char) : Option (List Key × List Char) :=
  (path? s).filter fun p => p.1.length ≤ maxDepth

/-- The items of an array, after its bracket: values with commas between,
and perhaps one at the end. -/
def items? (value? : List Char → Option (Node × List Char)) (s : List Char) :
    Option (List Node × List Char) :=
  match trivia? s with
  | none => none
  | some (']' :: r) => some ([], r)
  | some r =>
    match value? r with
    | none => none
    | some (v, r) =>
      match trivia? r with
      | some (',' :: t) =>
        if t.length < s.length then (items? value? t).map fun p => (v :: p.1, p.2) else none
      | some (']' :: t) => some ([v], t)
      | _ => none
termination_by s.length

/-- A key with its value in an inline table, and the rest. Line breaks and
comments may stand around the sign between them. -/
def member? (value? : List Char → Option (Node × List Char)) (s : List Char) :
    Option (Assignment × List Char) := do
  let (path, r) ← dottedKey? s
  let r ← Text.after? ['='] (← trivia? r)
  let (v, r) ← value? (← trivia? r)
  some (⟨path, v⟩, r)

/-- The members of an inline table, after its brace: assignments with
commas between, and perhaps one at the end. -/
def members? (value? : List Char → Option (Node × List Char)) (s : List Char) :
    Option (List Assignment × List Char) :=
  match trivia? s with
  | none => none
  | some ('\x7d' :: r) => some ([], r)
  | some r =>
    match member? value? r with
    | none => none
    | some (a, r) =>
      match trivia? r with
      | some (',' :: t) =>
        if t.length < s.length then (members? value? t).map fun p => (a :: p.1, p.2)
        else none
      | some ('\x7d' :: t) => some ([a], t)
      | _ => none
termination_by s.length

/-- A value with room for so many more levels, and the rest. -/
def value? (depth : Nat) (s : List Char) : Option (Node × List Char) :=
  let placed (found : Option (Value × List Char)) : Option (Node × List Char) :=
    found.map fun p => ((⟨Text.byteSize s, Text.byteSize p.2⟩, p.1), p.2)
  match depth, s with
  | depth + 1, '[' :: r => placed ((items? (value? depth) r).map fun p => (.array false p.1, p.2))
  | depth + 1, '\x7b' :: r => placed do
    let (body, t) ← members? (value? depth) r
    let entries ← Entries.assignAll [] body
    return (.table .closed entries, t)
  | _, s =>
    if s.head? = some '"' ∨ s.head? = some '\x27' then
      placed ((string? s).map fun p => (.string p.1, p.2))
    else
      let (w, r) := word s
      placed ((scalar? w).map fun v => (v, r))

/-- A statement of a document. -/
inductive Statement where
  /-- A key with its value. -/
  | assignment (a : Assignment)
  /-- The header of a table, or of one more table of an array. -/
  | header (ofArray : Bool) (span : Span) (path : List Key)

/-- The brackets of a header: two of them for an array of tables. -/
def header? (s : List Char) : Option (Statement × List Char) :=
  match s with
  | '[' :: '[' :: r =>
    match dottedKey? r with
    | some (path, ']' :: ']' :: t) =>
      some (.header true ⟨Text.byteSize s, Text.byteSize t⟩ path, t)
    | _ => none
  | '[' :: r =>
    match dottedKey? r with
    | some (path, ']' :: t) => some (.header false ⟨Text.byteSize s, Text.byteSize t⟩ path, t)
    | _ => none
  | _ => none

/-- One statement, and the rest. -/
def statement? (s : List Char) : Option (Statement × List Char) :=
  match s with
  | '[' :: r => header? ('[' :: r)
  | s =>
    match dottedKey? s with
    | some (path, '=' :: r) =>
      (value? maxDepth (dropBlanks r)).map fun p => (.assignment ⟨path, p.1⟩, p.2)
    | _ => none

/-- The statements of a text, each on a line of its own. -/
def statements? (s : List Char) : Option (List Statement) :=
  match trivia? s with
  | none => none
  | some [] => some []
  | some r =>
    match statement? r with
    | none => none
    | some (x, r) =>
      match endOfLine? r with
      | none => none
      | some [] => some [x]
      | some t =>
        match newline? t with
        | none => none
        | some u => if u.length < s.length then (statements? u).map (x :: ·) else none
termination_by s.length

/-- The entries after an edit at the end of the path of a header. Tables on
the way are made, and of an array of tables the last one is taken. -/
def Entries.below (edit : Key → Entries → Option Entries) :
    List Key → Entries → Option Entries
  | [], _ => none
  | [k], es => edit k es
  | k :: ks, es =>
    match es.find? k.name with
    | none => (below edit ks []).map fun sub => es.insert k (k.span, .table .implied sub)
    | some (_, .table .closed _) => none
    | some (span, .table standing sub) =>
      (below edit ks sub).map fun sub => es.replace k.name (span, .table standing sub)
    | some (span, .array true tables) =>
      match tables.getLast? with
      | some (last, .table standing sub) =>
        (below edit ks sub).map fun sub =>
          es.replace k.name (span, .array true (tables.dropLast ++ [(last, .table standing sub)]))
      | _ => none
    | some _ => none

/-- The entries with a table under its header. One that headers further
down have made is taken up; any other that is there may not be defined
again. -/
def Entries.addTable (span : Span) (body : List Assignment) (k : Key) (es : Entries) :
    Option Entries :=
  match es.find? k.name with
  | none => (assignAll [] body).map fun sub => es.insert k (span, .table .headed sub)
  | some (_, .table .implied sub) =>
    (assignAll sub body).map fun sub => es.replace k.name (span, .table .headed sub)
  | some _ => none

/-- The entries with one more table in an array of tables. -/
def Entries.addItem (span : Span) (body : List Assignment) (k : Key) (es : Entries) :
    Option Entries :=
  match es.find? k.name with
  | none =>
    (assignAll [] body).map fun sub =>
      es.insert k (span, .array true [(span, .table .headed sub)])
  | some (first, .array true tables) =>
    (assignAll [] body).map fun sub =>
      es.replace k.name (first, .array true (tables ++ [(span, .table .headed sub)]))
  | some _ => none

/-- The assignments before the first header, and from there on each header
with the assignments below it. -/
def sections : List Statement →
    List Assignment × List ((Bool × Span × List Key) × List Assignment)
  | [] => ([], [])
  | .assignment a :: rest => (a :: (sections rest).1, (sections rest).2)
  | .header ofArray span path :: rest =>
    ([], ((ofArray, span, path), (sections rest).1) :: (sections rest).2)

/-- The entries of the table that some statements make. -/
def ofStatements? (statements : List Statement) : Option Entries := do
  let (body, below) := sections statements
  let es ← Entries.assignAll [] body
  below.foldlM (fun es s =>
    let ((ofArray, span, path), body) := s
    es.below (if ofArray then Entries.addItem span body else Entries.addTable span body) path) es

/-- The table of a document, which is the first stage of reading it: what has
the shape of a number stands for one, also when it has no value or one that
is too large, and what reads the table has to refuse it. A byte order mark at
the start is passed over. -/
def document? (text : String) : Option Entries :=
  let s := text.toList
  (statements? (if s.head? = some '\ufeff' then s.tail else s)).bind ofStatements?

end Toml

end BuildDiagnostics
