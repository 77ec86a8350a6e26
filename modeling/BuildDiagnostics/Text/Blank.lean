/-!
# Blanks and line ends

Three classes of character matter to the reader of error texts, and they
differ. `isSpace` is the white space that indents a frame and ends a load
target; `isWhite` is the Unicode property `White_Space`, trimmed from the
ends of a session line; `isLineEnd` ends the message of a one-line error.
The byte order mark is a space and not white; the next-line control is
white and not a space.
-/


namespace BuildDiagnostics

namespace Text

/-- A space as pattern languages for scripts know it: the blanks and line
ends of their grammar and the byte order mark. -/
def isSpace (c : Char) : Bool :=
  c == ' ' || ('\t' ≤ c && c ≤ '\r') || c == '\u00a0' || c == '\u1680' ||
    ('\u2000' ≤ c && c ≤ '\u200a') || c == '\u2028' || c == '\u2029' || c == '\u202f' ||
    c == '\u205f' || c == '\u3000' || c == '\ufeff'

/-- A character with the Unicode property `White_Space`. -/
def isWhite (c : Char) : Bool :=
  c == ' ' || ('\t' ≤ c && c ≤ '\r') || c == '\u0085' || c == '\u00a0' || c == '\u1680' ||
    ('\u2000' ≤ c && c ≤ '\u200a') || c == '\u2028' || c == '\u2029' || c == '\u202f' ||
    c == '\u205f' || c == '\u3000'

/-- A character that ends a line of script: line feed, carriage return, or
one of the two Unicode separators. -/
def isLineEnd (c : Char) : Bool :=
  c == '\n' || c == '\r' || c == '\u2028' || c == '\u2029'

/-- A list without the elements of a class at either end. -/
def strip {α : Type} (p : α → Bool) (s : List α) : List α :=
  ((s.dropWhile p).reverse.dropWhile p).reverse

/-- A text without the white space at its ends. -/
def trim (s : String) : String :=
  String.ofList (strip isWhite s.toList)

end Text

end BuildDiagnostics
