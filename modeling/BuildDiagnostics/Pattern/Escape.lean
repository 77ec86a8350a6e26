import BuildDiagnostics.Pattern.Flags
import BuildDiagnostics.Text.CodePoint
/-!
# Escapes in patterns

A backslash makes a sign an ordinary character, or makes a letter or digit
something else: a character by its number, a kind of characters, a property
of characters, or a place. The readers start after the backslash and leave
the rest.
-/


namespace BuildDiagnostics

namespace Pattern

/-- What an escape stands for. -/
inductive Escape where
  /-- A character, and whether it is written as a byte. -/
  | character (c : Char) (asByte : Bool)
  /-- The characters of a kind, or all others. -/
  | kind (c : CharClass) (negated : Bool)
  /-- The characters of a property that is unknown in some way. -/
  | property (unknown : Mistake)
  /-- A place. -/
  | place (l : Look)
deriving DecidableEq

namespace Escape

/-- The stretch of the next character of a text. -/
def nextSpan (s : List Char) : Span := ⟨s.length, s.length - 1⟩

/-- The end of the pattern, where more was expected. -/
def unexpectedEnd : Problem := ⟨.escapeUnexpectedEnd, ⟨0, 0⟩, none⟩

/-- The value of so many hexadecimal digits, with `value` for those before
them. -/
def digits (f : Flags) : Nat → Nat → List Char → Except Problem (Nat × List Char)
  | 0, value, s => .ok (value, s)
  | _ + 1, _, [] => .error unexpectedEnd
  | count + 1, value, c :: s =>
    match Text.hexDigit? c with
    | none => .error ⟨.hexInvalidDigit, nextSpan (c :: s), none⟩
    | some d => digits f count (16 * value + d) (f.skip s)

/-- The character of a code point that stands in a stretch. -/
def ofCodePoint (n : Nat) (span : Span) : Except Problem Char :=
  match Text.codePoint? n with
  | none => .error ⟨.hexInvalid, span, none⟩
  | some c => .ok c

/-- A character by its number: so many hexadecimal digits, or any number of
them in braces. Two digits without braces are a byte. -/
def numbered (f : Flags) (count : Nat) (s : List Char) : Except Problem (Escape × List Char) :=
  match f.skip s with
  | [] => .error unexpectedEnd
  | '{' :: r => do
    let (ds, t) := f.run (fun c => (Text.hexDigit? c).isSome) (f.skip r)
    match t with
    | [] => .error ⟨.escapeUnexpectedEnd, ⟨r.length + 1, 0⟩, none⟩
    | '}' :: u =>
      let v := f.skip u
      if ds = [] then .error ⟨.hexEmpty, ⟨r.length + 1, v.length⟩, none⟩
      else
        let n := ds.foldl (fun n d => 16 * n + (Text.hexDigit? d).getD 0) 0
        let c ← ofCodePoint n ⟨r.length, t.length⟩
        .ok (.character c false, v)
    | _ => .error ⟨.hexInvalidDigit, nextSpan t, none⟩
  | r => do
    let (n, t) ← digits f count 0 r
    let c ← ofCodePoint n ⟨r.length, t.length⟩
    .ok (.character c (count = 2), t)

/-- What is unknown of a property with a name in braces: its value, where
the name is short for categories as well, or else the property. The case of
letters, separators and an `is` at the start do not count. -/
def unknownOf (name : List Char) : Mistake :=
  let name := name.map Char.toLower
  let name := if ['i', 's'].isPrefixOf name then name.drop 2 else name
  let name := name.filter fun c => c < '\x80' && c ≠ ' ' && c ≠ '_' && c ≠ '-'
  if ["cf", "sc", "lc"].contains (String.ofList name) then .propertyValueNotFound
  else .propertyNotFound

/-- A property: one letter, or a name in braces. -/
def named (f : Flags) (s : List Char) : Except Problem (Escape × List Char) :=
  match f.skip s with
  | [] => .error unexpectedEnd
  | '{' :: r =>
    let (name, t) := f.run (· ≠ '}') (f.skip r)
    match t with
    | [] => .error unexpectedEnd
    | _ :: u => .ok (.property (unknownOf name), u)
  | '\\' :: r => .error ⟨.propertyInvalid, nextSpan ('\\' :: r), none⟩
  | _ :: r => .ok (.property .propertyNotFound, f.skip r)

/-- Whether a character may stand in the name of a place in a word. -/
def isEdgeChar (c : Char) : Bool := c.isAlpha || c = '-'

/-- The place in a word with a name. -/
def edge? (name : List Char) : Option WordEdge :=
  [("start", .start), ("end", .stop), ("start-half", .startHalf), ("end-half", .stopHalf)].lookup
    (String.ofList name)

/-- The place in a word after the letter for it: a name in braces may
follow. Braces with something else are a count and are left. -/
def wordEdge (f : Flags) (s : List Char) : Except Problem (WordEdge × List Char) :=
  match s with
  | '{' :: r =>
    match f.skip r with
    | [] => .error ⟨.wordEdgeUnexpectedEnd, ⟨s.length + 2, 0⟩, none⟩
    | c :: t =>
      if isEdgeChar c then
        let (name, u) := f.run isEdgeChar (c :: t)
        match u with
        | '}' :: v =>
          match edge? name with
          | some edge => .ok (edge, v)
          | none => .error ⟨.wordEdgeUnrecognized, ⟨t.length + 1, u.length⟩, none⟩
        | _ => .error ⟨.wordEdgeUnclosed, ⟨s.length, u.length⟩, none⟩
      else .ok (.either, s)
  | s => .ok (.either, s)

/-- The character of a letter that stands for a control. -/
def control? : Char → Option Char
  | 'a' => some '\x07'
  | 'f' => some '\x0c'
  | 'n' => some '\n'
  | 'r' => some '\r'
  | 't' => some '\t'
  | 'v' => some '\x0b'
  | _ => none

/-- Whether a character stands for itself after a backslash: those of ASCII
do, but for letters, digits and angles. -/
def isItself (c : Char) : Bool := c < '\x80' && !c.isAlphanum && c ≠ '<' && c ≠ '>'

/-- Reads an escape, after its backslash. -/
def read (f : Flags) (s : List Char) : Except Problem (Escape × List Char) :=
  match s with
  | [] => .error ⟨.escapeUnexpectedEnd, ⟨1, 0⟩, none⟩
  | c :: r =>
    let place (l : Look) : Except Problem (Escape × List Char) := .ok (.place l, r)
    let kind (c : CharClass) (negated : Bool) : Except Problem (Escape × List Char) :=
      .ok (.kind c negated, r)
    match c with
    | 'x' => numbered f 2 r
    | 'u' => numbered f 4 r
    | 'U' => numbered f 8 r
    | 'p' => named f r
    | 'P' => named f r
    | 'd' => kind .digit false
    | 's' => kind .space false
    | 'w' => kind .word false
    | 'D' => kind .digit true
    | 'S' => kind .space true
    | 'W' => kind .word true
    | 'A' => place .textStart
    | 'z' => place .textEnd
    | 'b' => do
      let (edge, t) ← wordEdge f r
      .ok (.place (.word edge f.allScripts), t)
    | 'B' => place (.word .neither f.allScripts)
    | '<' => place (.word .start f.allScripts)
    | '>' => place (.word .stop f.allScripts)
    | c =>
      let span : Span := ⟨s.length + 1, r.length⟩
      if c.isDigit then .error ⟨.backreference, span, none⟩
      else if isItself c then .ok (.character c false, r)
      else
        match control? c with
        | some c => .ok (.character c false, r)
        | none => .error ⟨.escapeUnrecognized, span, none⟩

end Escape

end Pattern

end BuildDiagnostics
