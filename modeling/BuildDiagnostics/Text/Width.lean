import BuildDiagnostics.Text.Properties
/-!
# Columns on a terminal

How far a text moves the cursor. Wide characters take two columns, marks
and controls none, and a tab goes on to the next stop. An escape sequence,
from its escape character to the letter `m`, takes no room at all.
-/


namespace BuildDiagnostics

namespace Text

/-- The distance between tab stops. -/
def tabWidth : Nat := 4

/-- The characters with a width that their properties do not tell: a joiner
of consonants, the filler for a first consonant, a vowel and a sign that
stand for two and three characters. -/
def ownWidths : List (Char × Nat) :=
  [('\u2d7f', 1), ('\u115f', 2), ('\u17a4', 2), ('\u17d8', 3)]

/-- The columns of a character that is no tab. -/
def charWidth (c : Char) : Nat :=
  (ownWidths.lookup c).getD (if isWidthless c then 0 else if isWide c then 2 else 1)

/-- The columns of characters when tabs are controls like others. -/
def plainWidth (s : List Char) : Nat := s.foldr (fun c columns => charWidth c + columns) 0

/-- The characters of a text with the columns that each takes, the first
standing in the given column and perhaps within an escape sequence. -/
def widthsFrom (column : Nat) (escaped : Bool) : List Char → List (Char × Nat)
  | [] => []
  | c :: cs =>
    if escaped then (c, 0) :: widthsFrom column (c ≠ 'm') cs
    else if c = '\x1b' then (c, 0) :: widthsFrom column true cs
    else
      let w := if c = '\t' then tabWidth - column % tabWidth else charWidth c
      (c, w) :: widthsFrom (column + w) false cs

/-- The characters of a line with the columns that each takes. -/
def widths (s : List Char) : List (Char × Nat) := widthsFrom 0 false s

/-- The columns of a line. -/
def width (s : List Char) : Nat := (widths s).foldr (fun p columns => p.2 + columns) 0

/-- A line with each tab as the blanks it stands for. -/
def expandTabs (s : List Char) : List Char :=
  (widths s).flatMap fun p => if p.1 = '\t' then List.replicate p.2 ' ' else [p.1]

end Text

end BuildDiagnostics
