import BuildDiagnostics.Text.CodePoint
import BuildDiagnostics.Text.Utf8
import BuildDiagnostics.Toml.Value
/-!
# TOML blanks, strings and keys

The readers of tokens in a configuration file. A reader takes its token
from the start of a text and leaves the rest, or there is no such token and
the file is no TOML.
-/


namespace BuildDiagnostics

namespace Toml

/-- A blank within a line. -/
def isBlank (c : Char) : Bool := c = ' ' || c = '\t'

/-- A control character that no token may hold. -/
def isForbidden (c : Char) : Bool := (c < ' ' && c ≠ '\t') || c = '\x7f'

/-- The rest after a line break. -/
def newline? : List Char → Option (List Char)
  | '\n' :: s => some s
  | '\r' :: '\n' :: s => some s
  | _ => none

/-- A text without the blanks at its start. -/
def dropBlanks (s : List Char) : List Char := s.dropWhile isBlank

/-- The rest after a comment, from its sign up to the end of the line. -/
def comment? : List Char → Option (List Char)
  | [] => some []
  | '\n' :: s => some ('\n' :: s)
  | '\r' :: '\n' :: s => some ('\r' :: '\n' :: s)
  | c :: s => if isForbidden c then none else comment? s

/-- The rest after blanks and perhaps a comment. -/
def endOfLine? (s : List Char) : Option (List Char) :=
  match dropBlanks s with
  | '#' :: r => comment? r
  | r => some r

/-- The rest after blanks, comments and line breaks. -/
def trivia? (s : List Char) : Option (List Char) :=
  match endOfLine? s with
  | none => none
  | some r =>
    match newline? r with
    | none => some r
    | some t => if t.length < s.length then trivia? t else none
termination_by s.length

/-- The character of some hexadecimal digits at the start of a text. -/
def hexChar? (count : Nat) (s : List Char) : Option (Char × List Char) := do
  let digits ← (s.take count).mapM Text.hexDigit?
  if digits.length < count then none
  let c ← Text.codePoint? (digits.foldl (fun n d => 16 * n + d) 0)
  some (c, s.drop count)

/-- An escape, after its backslash. -/
def escape? : List Char → Option (Char × List Char)
  | '"' :: s => some ('"', s)
  | '\\' :: s => some ('\\', s)
  | 'b' :: s => some ('\x08', s)
  | 'e' :: s => some ('\x1b', s)
  | 'f' :: s => some ('\x0c', s)
  | 'n' :: s => some ('\n', s)
  | 'r' :: s => some ('\r', s)
  | 't' :: s => some ('\t', s)
  | 'x' :: s => hexChar? 2 s
  | 'u' :: s => hexChar? 4 s
  | 'U' :: s => hexChar? 8 s
  | _ => none

/-- A string on one line, after its quote. -/
def basic? (s : List Char) : Option (List Char × List Char) :=
  match s with
  | [] => none
  | '"' :: r => some ([], r)
  | '\\' :: r =>
    match escape? r with
    | none => none
    | some (c, t) =>
      if t.length ≤ r.length then (basic? t).map fun p => (c :: p.1, p.2) else none
  | c :: r => if isForbidden c then none else (basic? r).map fun p => (c :: p.1, p.2)
termination_by s.length

/-- A string without escapes on one line, after its quote. -/
def literal? : List Char → Option (List Char × List Char)
  | [] => none
  | '\x27' :: r => some ([], r)
  | c :: r => if isForbidden c then none else (literal? r).map fun p => (c :: p.1, p.2)

/-- The end of a string of several lines. Up to two quotes stand before the
three that end it. -/
def closing? (quote : Char) (s : List Char) : Option (List Char × List Char) :=
  let run := min (s.takeWhile (· = quote)).length 5
  if 3 ≤ run then some (List.replicate (run - 3) quote, s.drop run) else none

/-- A text without the blanks and line breaks at its start. -/
def dropBreaks : List Char → List Char
  | '\n' :: s => dropBreaks s
  | '\r' :: '\n' :: s => dropBreaks s
  | c :: s => if isBlank c then dropBreaks s else c :: s
  | [] => []

/-- The rest after a backslash at the end of a line: the line break and all
blanks up to the next character. -/
def continuation? (s : List Char) : Option (List Char) :=
  (newline? (dropBlanks s)).map dropBreaks

/-- A string of several lines, after its quotes and the line break that may
follow them. -/
def multiline? (quote : Char) (escapes : Bool) (s : List Char) :
    Option (List Char × List Char) :=
  match closing? quote s with
  | some p => some p
  | none =>
    match s with
    | [] => none
    | '\r' :: '\n' :: r => (multiline? quote escapes r).map fun p => ('\r' :: '\n' :: p.1, p.2)
    | '\n' :: r => (multiline? quote escapes r).map fun p => ('\n' :: p.1, p.2)
    | c :: r =>
      if escapes ∧ c = '\\' then
        match continuation? r with
        | some t => if t.length ≤ r.length then multiline? quote escapes t else none
        | none =>
          match escape? r with
          | none => none
          | some (c, t) =>
            if t.length ≤ r.length then (multiline? quote escapes t).map fun p => (c :: p.1, p.2)
            else none
      else if isForbidden c then none
      else (multiline? quote escapes r).map fun p => (c :: p.1, p.2)
termination_by s.length

/-- A text without the line break at its start. -/
def dropNewline (s : List Char) : List Char := (newline? s).getD s

/-- A string of any kind, from its quote. -/
def string? (s : List Char) : Option (String × List Char) :=
  let found := match s with
    | '"' :: '"' :: '"' :: r => multiline? '"' true (dropNewline r)
    | '\x27' :: '\x27' :: '\x27' :: r => multiline? '\x27' false (dropNewline r)
    | '"' :: r => basic? r
    | '\x27' :: r => literal? r
    | _ => none
  found.map fun p => (String.ofList p.1, p.2)

/-- A character of a key without quotes. -/
def isBare (c : Char) : Bool := c.isAlphanum || c = '_' || c = '-'

/-- One key, and the rest after it. -/
def key? (s : List Char) : Option (Key × List Char) := do
  let (name, rest) ← match s with
    | '"' :: r => (basic? r).map fun p => (p.1, p.2)
    | '\x27' :: r => literal? r
    | s =>
      let name := s.takeWhile isBare
      if name = [] then none else some (name, s.dropWhile isBare)
  some (⟨String.ofList name, ⟨Text.byteSize s, Text.byteSize rest⟩⟩, rest)

/-- Keys with dots between them, and the rest after the blanks that follow
them. -/
def path? (s : List Char) : Option (List Key × List Char) :=
  match key? (dropBlanks s) with
  | none => none
  | some (k, r) =>
    match dropBlanks r with
    | '.' :: t =>
      if t.length < s.length then (path? t).map fun p => (k :: p.1, p.2) else none
    | t => some ([k], t)
termination_by s.length

end Toml

end BuildDiagnostics
