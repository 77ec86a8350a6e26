import BuildDiagnostics.Location
import BuildDiagnostics.Text.Token
/-!
# Reading location tokens

The token `path:line:column` is read from the start of a text and what
follows it is left. A path is the longest run of letters, digits, blanks
and `/ . _ -`; since a colon is no such character, the run ends where the
numbers begin. A number is the whole run of digits at its place, without a
leading zero; one that does not fit an `Ordinal` makes the token fail, and
no shorter run is tried.
-/


namespace BuildDiagnostics

/-- A count at the start of a text, and what follows its digits. -/
def Ordinal.read? (s : List Char) : Option (Ordinal × List Char) :=
  let digits := s.takeWhile Char.isDigit
  if digits = [] ∨ digits.head? = some '0' then none
  else (ofNat? (Nat.ofDigitChars 10 digits 0)).map fun n => (n, s.dropWhile Char.isDigit)

namespace Location

/-- A character of a path in an error text. -/
def isPathChar (c : Char) : Bool :=
  c.isAlphanum || c == '/' || c == ' ' || c == '.' || c == '_' || c == '-'

/-- A location token at the start of a text, and what follows it. -/
def read? (s : List Char) : Option (Location × List Char) := do
  let path := s.takeWhile isPathChar
  if path = [] then none
  let s ← Text.after? [':'] (s.dropWhile isPathChar)
  let (line, s) ← Ordinal.read? s
  let s ← Text.after? [':'] s
  let (column, s) ← Ordinal.read? s
  some (⟨String.ofList path, line, column⟩, s)

end Location

end BuildDiagnostics
