import BuildDiagnostics.Pattern
import BuildDiagnostics.Pattern.Problem
import BuildDiagnostics.Text.Blank
/-!
# Flags in patterns

Flags say what the signs of a pattern mean: whether the case of letters
counts, where lines end, whether there are characters of all scripts or of
ASCII only. `Flags.skip` is the one flag that changes what is read: it lets
blanks and remarks stand between the signs. What a sign means under some
flags can be a problem of its own, and is told only when the whole pattern
has been read; hence meanings are kept apart from what is read.
-/


namespace BuildDiagnostics

namespace Pattern

/-- What a piece of a pattern means, or why it has no meaning. -/
abbrev Meaning (α : Type) := Except Problem α

/-- The flags in force at some place of a pattern. -/
structure Flags where
  /-- Whether letters of either case are the same. -/
  anyCase : Bool := false
  /-- Whether the signs for start and end mean those of lines. -/
  eachLine : Bool := false
  /-- Whether the dot means line breaks as well. -/
  dotBreaks : Bool := false
  /-- Whether carriage returns end lines as well. -/
  returns : Bool := false
  /-- Whether characters of all scripts are meant. -/
  allScripts : Bool := true
  /-- Whether blanks and remarks are skipped. -/
  spaced : Bool := false
deriving DecidableEq

/-- A text without the blanks and remarks at its start. A remark goes from
its sign to the end of the line. -/
def dropRemarks (inside : Bool) : List Char → List Char
  | [] => []
  | c :: s =>
    if inside then dropRemarks (c ≠ '\n') s
    else if Text.isWhite c then dropRemarks false s
    else if c = '#' then dropRemarks true s
    else c :: s

/-- Dropping remarks leaves no more than there was. -/
theorem length_dropRemarks_le (inside : Bool) (s : List Char) :
    (dropRemarks inside s).length ≤ s.length := by
  induction s generalizing inside with
  | nil => simp [dropRemarks]
  | cons c s ih =>
    simp only [dropRemarks, List.length_cons]
    split
    · exact Nat.le_succ_of_le (ih _)
    · split
      · exact Nat.le_succ_of_le (ih _)
      · split
        · exact Nat.le_succ_of_le (ih _)
        · exact Nat.le_refl _

namespace Flags

/-- The flags with the one of a letter set or cleared. The letter for the
order in which repetitions are tried changes nothing that is asked here. -/
def set? (f : Flags) (on : Bool) : Char → Option Flags
  | 'i' => some { f with anyCase := on }
  | 'm' => some { f with eachLine := on }
  | 's' => some { f with dotBreaks := on }
  | 'R' => some { f with returns := on }
  | 'u' => some { f with allScripts := on }
  | 'x' => some { f with spaced := on }
  | 'U' => some f
  | _ => none

/-- A text without what is skipped at its start. -/
def skip (f : Flags) (s : List Char) : List Char := if f.spaced then dropRemarks false s else s

/-- Skipping leaves no more than there was. -/
theorem length_skip_le (f : Flags) (s : List Char) : (f.skip s).length ≤ s.length := by
  unfold skip
  split
  · exact length_dropRemarks_le _ _
  · exact Nat.le_refl _

/-- The characters of a kind at the start of a text, and the rest; what is
skipped may follow each of them. -/
def run (f : Flags) (p : Char → Bool) (s : List Char) : List Char × List Char :=
  match s with
  | [] => ([], [])
  | c :: r =>
    if p c then
      let (cs, t) := f.run p (f.skip r)
      (c :: cs, t)
    else ([], c :: r)
termination_by s.length
decreasing_by exact Nat.lt_succ_of_le (f.length_skip_le r)

/-- The character after another, with what is skipped between them. Of a
remark only the sign and the blanks are passed over. -/
def next? (f : Flags) (s : List Char) : Option Char :=
  if f.spaced then
    match s.dropWhile Text.isWhite with
    | '#' :: r => (r.dropWhile Text.isWhite).head?
    | r => r.head?
  else s.head?

/-! ## What signs mean -/

/-- A class in the cases that are the same. -/
def fold (f : Flags) (c : CharClass) : CharClass := if f.anyCase then .anyCase c else c

/-- What a single character means. A character written as a byte is one only
in ASCII, unless all scripts are meant. -/
def character (f : Flags) (span : Span) (c : Char) (asByte : Bool) : Meaning CharClass :=
  if f.allScripts then
    if f.anyCase then .error ⟨.caseUnavailable, span, none⟩ else .ok (.single c.toNat)
  else if asByte && 0x7f < c.toNat then .error ⟨.invalidUtf8, span, none⟩
  else .ok (f.fold (.single c.toNat))

/-- What the dot means. -/
def dot (f : Flags) (span : Span) : Meaning CharClass :=
  if !f.allScripts then .error ⟨.invalidUtf8, span, none⟩
  else if f.dotBreaks then .ok (.complement .empty)
  else if f.returns then .ok (.complement (.union (.single 0x0a) (.single 0x0d)))
  else .ok (.complement (.single 0x0a))

/-- What the sign for the start means. -/
def start (f : Flags) : Look :=
  if !f.eachLine then .textStart else if f.returns then .paragraphStart else .lineStart

/-- What the sign for the end means. -/
def stop (f : Flags) : Look :=
  if !f.eachLine then .textEnd else if f.returns then .paragraphEnd else .lineEnd

/-- What a kind of character means: digits, blanks or those of words. Only
the kinds of ASCII are known, and what is not of them would be bytes. -/
def kind (f : Flags) (span : Span) (c : CharClass) (negated : Bool) : Meaning CharClass :=
  if f.allScripts then .error ⟨.scriptsNotFound, span, none⟩
  else if negated then .error ⟨.invalidUtf8, span, none⟩
  else .ok c

/-- What a property of characters means: none is known. -/
def property (f : Flags) (span : Span) (unknown : Mistake) : Meaning CharClass :=
  .error ⟨if f.allScripts then unknown else .unicodeNotAllowed, span, none⟩

end Flags

end Pattern

end BuildDiagnostics
