import BuildDiagnostics.Text.Lines
/-!
# What can be wrong with a pattern

A pattern that cannot be read has a mistake at a stretch of it. The report
shows the pattern with marks below the stretch and says what the mistake
is. Positions are kept as the number of characters that are left to read.
-/


namespace BuildDiagnostics

namespace Pattern

/-- A stretch of a pattern, by the characters left to read at its two
ends. -/
structure Span where
  /-- The characters left at its start. -/
  start : Nat
  /-- The characters left at its end. -/
  stop : Nat
deriving DecidableEq

/-- A mistake in a pattern. -/
inductive Mistake where
  /-- An escape in a bracket stands for no characters. -/
  | classEscapeInvalid
  /-- A range ends before it starts. -/
  | classRangeInvalid
  /-- An end of a range is no character. -/
  | classRangeLiteral
  /-- A bracket is not closed. -/
  | classUnclosed
  /-- A number is too large. -/
  | decimalInvalid
  /-- Braces for a code point are empty. -/
  | hexEmpty
  /-- No character has the code point. -/
  | hexInvalid
  /-- A code point has a digit that is none. -/
  | hexInvalidDigit
  /-- The pattern ends in an escape. -/
  | escapeUnexpectedEnd
  /-- There is no such escape. -/
  | escapeUnrecognized
  /-- No flag follows the negation. -/
  | flagDanglingNegation
  /-- A flag is given twice. -/
  | flagDuplicate
  /-- Flags are negated twice. -/
  | flagRepeatedNegation
  /-- The pattern ends in flags. -/
  | flagUnexpectedEnd
  /-- There is no such flag. -/
  | flagUnrecognized
  /-- A name is given twice. -/
  | groupNameDuplicate
  /-- A name is empty. -/
  | groupNameEmpty
  /-- A name has a character that names cannot have. -/
  | groupNameInvalid
  /-- The pattern ends in a name. -/
  | groupNameUnexpectedEnd
  /-- A group is not closed. -/
  | groupUnclosed
  /-- A group is closed that was not opened. -/
  | groupUnopened
  /-- The least count is more than the most. -/
  | countInvalid
  /-- A count is missing. -/
  | countEmpty
  /-- A count is not closed. -/
  | countUnclosed
  /-- There is nothing to repeat. -/
  | repetitionMissing
  /-- A name of a place in a word is not closed. -/
  | wordEdgeUnclosed
  /-- There is no such place in a word. -/
  | wordEdgeUnrecognized
  /-- The pattern ends after a brace that follows a place in a word. -/
  | wordEdgeUnexpectedEnd
  /-- A property is written where a backslash cannot stand. -/
  | propertyInvalid
  /-- A piece refers back to a group. -/
  | backreference
  /-- A group looks ahead or behind. -/
  | lookAround
  /-- A byte could be matched that is no character. -/
  | invalidUtf8
  /-- Characters are asked for among bytes. -/
  | unicodeNotAllowed
  /-- Properties of characters are not known. -/
  | propertyNotFound
  /-- Values of properties of characters are not known. -/
  | propertyValueNotFound
  /-- Digits, blanks and words of all scripts are not known. -/
  | scriptsNotFound
  /-- The cases of letters of all scripts are not known. -/
  | caseUnavailable
deriving DecidableEq

/-- The words for a mistake. -/
def Mistake.text : Mistake → String
  | classEscapeInvalid => "invalid escape sequence found in character class"
  | classRangeInvalid => "invalid character class range, the start must be <= the end"
  | classRangeLiteral => "invalid range boundary, must be a literal"
  | classUnclosed => "unclosed character class"
  | decimalInvalid => "decimal literal invalid"
  | hexEmpty => "hexadecimal literal empty"
  | hexInvalid => "hexadecimal literal is not a Unicode scalar value"
  | hexInvalidDigit => "invalid hexadecimal digit"
  | escapeUnexpectedEnd => "incomplete escape sequence, reached end of pattern prematurely"
  | escapeUnrecognized => "unrecognized escape sequence"
  | flagDanglingNegation => "dangling flag negation operator"
  | flagDuplicate => "duplicate flag"
  | flagRepeatedNegation => "flag negation operator repeated"
  | flagUnexpectedEnd => "expected flag but got end of regex"
  | flagUnrecognized => "unrecognized flag"
  | groupNameDuplicate => "duplicate capture group name"
  | groupNameEmpty => "empty capture group name"
  | groupNameInvalid => "invalid capture group character"
  | groupNameUnexpectedEnd => "unclosed capture group name"
  | groupUnclosed => "unclosed group"
  | groupUnopened => "unopened group"
  | countInvalid => "invalid repetition count range, the start must be <= the end"
  | countEmpty => "repetition quantifier expects a valid decimal"
  | countUnclosed => "unclosed counted repetition"
  | repetitionMissing => "repetition operator missing expression"
  | wordEdgeUnclosed =>
    "special word boundary assertion is either unclosed or contains an invalid character"
  | wordEdgeUnrecognized =>
    "unrecognized special word boundary assertion, " ++
      "valid choices are: start, end, start-half or end-half"
  | wordEdgeUnexpectedEnd =>
    "found either the beginning of a special word boundary or a bounded repetition " ++
      "on a \\b with an opening brace, but no closing brace"
  | propertyInvalid => "invalid Unicode character class"
  | backreference => "backreferences are not supported"
  | lookAround => "look-around, including look-ahead and look-behind, is not supported"
  | invalidUtf8 => "pattern can match invalid UTF-8"
  | unicodeNotAllowed => "Unicode not allowed here"
  | propertyNotFound => "Unicode property not found"
  | propertyValueNotFound => "Unicode property value not found"
  | scriptsNotFound =>
    "Unicode-aware Perl class not found (make sure the unicode-perl feature is enabled)"
  | caseUnavailable =>
    "Unicode-aware case insensitivity matching is not available " ++
      "(make sure the unicode-case feature is enabled)"

/-- A mistake and where it stands. -/
structure Problem where
  /-- The mistake. -/
  mistake : Mistake
  /-- Where it stands. -/
  span : Span
  /-- Where the first of two stands. -/
  earlier : Option Span := none
deriving DecidableEq

/-- Lines and columns, from one. -/
structure Position where
  /-- The line. -/
  line : Nat
  /-- The column, in characters. -/
  column : Nat
deriving DecidableEq

/-- The position in a pattern with so many characters left to read. -/
def positionAt (pattern : List Char) (left : Nat) : Position :=
  let before := pattern.take (pattern.length - left)
  ⟨1 + before.count '\n', 1 + (before.reverse.takeWhile (· ≠ '\n')).length⟩

/-- Marks below a line for some stretches of columns, from left to right;
there is at least one for each. -/
def marks (column : Nat) : List (Nat × Nat) → List Char
  | [] => []
  | (first, last) :: rest =>
    let gap := first - column
    let count := max 1 (last - first)
    List.replicate gap ' ' ++ List.replicate count '^' ++ marks (column + gap + count) rest

/-- A text at the right of so many columns. -/
def padded (width : Nat) (s : String) : String :=
  String.ofList (List.replicate (width - s.length) ' ') ++ s

/-- The lines of a pattern, with marks below those that have stretches. The
lines are numbered when there are several. -/
def annotated (pattern : List Char) (spans : List (Position × Position)) : String :=
  let pieces := Text.splitOn '\n' pattern
  let width := if pieces.length ≤ 1 then 0 else (toString pieces.length).length
  let shown := if pieces.getLast? = some [] then pieces.dropLast else pieces
  String.join (shown.zipIdx.map fun (line, i) =>
    let line := if i + 1 < pieces.length ∧ line.getLast? = some '\r' then line.dropLast else line
    let margin := if width = 0 then "    " else padded width (toString (i + 1)) ++ ": "
    let here := spans.filterMap fun s =>
      if s.1.line = i + 1 ∧ s.2.line = i + 1 then some (s.1.column, s.2.column) else none
    margin ++ String.ofList line ++ "\n" ++
      if here = [] then "" else
        String.ofList (List.replicate margin.length ' ' ++ marks 1 here) ++ "\n")

/-- A problem in words: the pattern with marks, and the mistake. A pattern
of several lines stands between rules, and a stretch over several of them
is named below. -/
def Problem.text (pattern : String) (p : Problem) : String :=
  let position := positionAt pattern.toList
  let spans := (p.earlier.toList ++ [p.span]).map fun s => (position s.start, position s.stop)
  let shown := annotated pattern.toList spans
  let body :=
    if pattern.toList.contains '\n' then
      let rule := String.ofList (List.replicate 79 '~') ++ "\n"
      let long := spans.filter fun s => s.1.line ≠ s.2.line
      rule ++ shown ++ rule ++ String.join (long.map fun s =>
        "on line " ++ toString s.1.line ++ " (column " ++ toString s.1.column ++
          ") through line " ++ toString s.2.line ++ " (column " ++
          toString (s.2.column - 1) ++ ")\n")
    else shown
  "regex parse error:\n" ++ body ++ "error: " ++ p.mistake.text

end Pattern

end BuildDiagnostics
