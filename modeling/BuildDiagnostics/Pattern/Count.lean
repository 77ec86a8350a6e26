import BuildDiagnostics.Pattern.Flags
/-!
# Counts of repetitions

How often a piece of a pattern repeats is written as one number in braces,
as a least number with a comma, or as two numbers. White space may stand
around a number, whatever the flags are. The reader starts after the brace.
-/


namespace BuildDiagnostics

namespace Pattern

/-- How often a piece repeats. -/
structure Count where
  /-- At least so often. -/
  least : Nat
  /-- Perhaps at most so often. -/
  most : Option Nat
deriving DecidableEq

namespace Count

/-- The rest after the sign that may follow a repetition: which of its
lengths are tried first changes nothing that is asked here. -/
def dropMark : List Char → List Char
  | '?' :: s => s
  | s => s

/-- A number with white space around it: its value, which has to fit into
32 bits, and the rest. -/
def number (f : Flags) (s : List Char) : Except Problem Nat × List Char :=
  let s := s.dropWhile Text.isWhite
  let (digits, r) := f.run Char.isDigit s
  let span : Span := ⟨s.length, r.length⟩
  let value := digits.foldl (fun n d => 10 * n + (d.toNat - '0'.toNat)) 0
  let number : Except Problem Nat :=
    if digits = [] then .error ⟨.countEmpty, span, none⟩
    else if UInt32.size ≤ value then .error ⟨.decimalInvalid, span, none⟩
    else .ok value
  (number, (f.run Text.isWhite r).2)

/-- The count up to the brace that closes it, in braces that were opened at
`start`. A count that the pattern ends in is not closed, whatever is wrong
with its first number. -/
def numbers (f : Flags) (start : Nat) (s : List Char) : Except Problem (Count × List Char) :=
  let unclosed : Problem := ⟨.countUnclosed, ⟨start, 0⟩, none⟩
  let (least, r) := number f s
  match r with
  | [] => .error unclosed
  | ',' :: t =>
    match f.skip t with
    | [] => .error unclosed
    | '}' :: u => do
      let least ← least
      .ok (⟨least, none⟩, '}' :: u)
    | u => do
      let least ← least
      let (most, v) := number f u
      let most ← most
      .ok (⟨least, some most⟩, v)
  | r => do
    let least ← least
    .ok (⟨least, some least⟩, r)

/-- Reads a count, after its first brace. -/
def read (f : Flags) (s : List Char) : Except Problem (Count × List Char) := do
  let start := s.length + 1
  if f.skip s = [] then .error ⟨.countUnclosed, ⟨start, 0⟩, none⟩
  else
    let (count, r) ← numbers f start (f.skip s)
    match r with
    | '}' :: t =>
      let u := dropMark (f.skip t)
      if count.most.any (· < count.least) then .error ⟨.countInvalid, ⟨start, u.length⟩, none⟩
      else .ok (count, u)
    | r => .error ⟨.countUnclosed, ⟨start, r.length⟩, none⟩

end Count

end Pattern

end BuildDiagnostics
