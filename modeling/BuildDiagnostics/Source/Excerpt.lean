import BuildDiagnostics.Text.Utf8
import BuildDiagnostics.Text.Width
/-!
# Excerpts

An excerpt shows the line of a place with one line around it. Here a line
break is a line feed, a carriage return, or the two together, and a place
between the two stands where the carriage return does. The excerpt starts
with the line before the place, and ends with the second break after it; at
the very start of a content the first character is passed before breaks are
counted.

The lines that are shown are cut at line feeds alone, so a lone carriage
return counts as a break and yet stays within a line.
-/


namespace BuildDiagnostics

namespace Source

/-- The lines of a content, each with the break that ends it. The last has
none and may be empty. -/
def brokenLines : List Char → List (List Char)
  | [] => [[]]
  | '\r' :: '\n' :: s => ['\r', '\n'] :: brokenLines s
  | c :: s =>
    if c = '\n' ∨ c = '\r' then [c] :: brokenLines s
    else (brokenLines s).modifyHead (c :: ·)

/-- The first character of a content, or its first break, and the rest. -/
def firstUnit : List Char → List Char × List Char
  | [] => ([], [])
  | '\r' :: '\n' :: s => (['\r', '\n'], s)
  | c :: s => ([c], s)

/-- The part of a content up to its second break, with the break. -/
def throughSecondBreak (s : List Char) : List Char :=
  ((brokenLines s).take 2).flatten

/-- What stands before a place, whether the place is within a break, and
what is shown after it. -/
def around (before after : List Char) : List Char × Bool × List Char :=
  if before.getLast? = some '\r' ∧ after.head? = some '\n' then
    (before.dropLast, true, '\n' :: throughSecondBreak after.tail)
  else if before = [] then
    (before, false, (firstUnit after).1 ++ throughSecondBreak (firstUnit after).2)
  else (before, false, throughSecondBreak after)

/-- The lines of a text that is shown: without their ends, and with the
number of characters that they and their ends take. What follows the last
line feed is a line unless it is empty. -/
def shownLines : List Char → List (List Char × Nat)
  | [] => []
  | '\n' :: s => ([], 1) :: shownLines s
  | '\r' :: '\n' :: s => ([], 2) :: shownLines s
  | [c] => [([c], 1)]
  | c :: d :: s => (shownLines (d :: s)).modifyHead fun l => (c :: l.1, l.2 + 1)

/-- A line of an excerpt. -/
structure Line where
  /-- Its number. -/
  number : Nat
  /-- Its text, with tabs as blanks. -/
  text : List Char
  /-- The columns before the place, when it is on this line. -/
  mark : Option Nat
deriving DecidableEq

/-- The columns before the place that is `n` characters into a line. In the
end of the line it is one past the text. -/
def markColumns (text : List Char) (n : Nat) : Nat :=
  if text.length < n then Text.width text + 1 else Text.width (text.take n)

/-- Numbers lines from `number` and marks the place, which is `place`
characters after the start of the first, or before it. -/
def markLines (number : Nat) (place : Option Nat) : List (List Char × Nat) → List Line
  | [] => []
  | (text, size) :: rest =>
    let mark := place.bind fun n => if n < size then some (markColumns text n) else none
    let next := place.bind fun n => if n < size then none else some (n - size)
    ⟨number, Text.expandTabs text, mark⟩ :: markLines (number + 1) next rest

/-- A last line that ends in a lone carriage return is not counted: it has
the number of the line before. -/
def uncountLast (lines : List Line) : List Line :=
  match lines.getLast? with
  | some last => lines.dropLast ++ [{ last with number := last.number - 1 }]
  | none => lines

/-- A place in a content with the lines around it. -/
structure Excerpt where
  /-- The line of the place, counting every break. -/
  line : Nat
  /-- The bytes before it on its line, and one. -/
  column : Nat
  /-- The lines shown. -/
  lines : List Line
deriving DecidableEq

/-- The excerpt of a content around the place between two parts of it. -/
def Excerpt.around (before after : List Char) : Excerpt :=
  let (before, within, shown) := Source.around before after
  let lines := brokenLines before
  let lead := lines.drop (lines.length - 2)
  let text := lead.flatten ++ (if within then ['\r'] else []) ++ shown
  let place := lead.flatten.length + if within then 1 else 0
  let marked := markLines (lines.length - lead.length + 1) (some place) (shownLines text)
  { line := lines.length
    column := Text.byteSize (lines.getLast?.getD []) + 1
    lines := if text.getLast? = some '\r' then uncountLast marked else marked }

end Source

end BuildDiagnostics
