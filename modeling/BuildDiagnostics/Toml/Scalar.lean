import BuildDiagnostics.Text.CodePoint
import BuildDiagnostics.Text.Lines
import BuildDiagnostics.Text.Token
import BuildDiagnostics.Toml.Text
/-!
# TOML numbers, booleans and dates

The values that are written without quotes or brackets. Their text is taken
as one word and then recognised: digits may be spaced with underscores, a
decimal number has no leading zero, and a date or time has to exist on the
calendar and the clock. A word that is spaced like a number but has other
characters among its digits is still a number, one without a value.
-/


namespace BuildDiagnostics

namespace Toml

/-- A word without its underscores, if each stands next to digits. After a
sign it may stand as well. -/
def unspaced? (isDigit : Char → Bool) (w : List Char) : Option (List Char) :=
  let pieces := Text.splitOn '_' w
  let starts := pieces.tail.all fun p => p.head?.any isDigit
  let ends := pieces.dropLast.all fun p => p.length = 1 || p.getLast?.any isDigit
  if pieces.length = 1 || (pieces.all (· ≠ []) && starts && ends) then some pieces.flatten
  else none

/-- The sign at the start of a word, and the rest: whether it is a minus. -/
def sign (s : List Char) : Bool × List Char :=
  match s with
  | '+' :: r => (false, r)
  | '-' :: r => (true, r)
  | r => (false, r)

/-- The value of digits to a base. -/
def digitsValue (base : Nat) (ds : List Char) : Nat :=
  ds.foldl (fun n d => base * n + (Text.hexDigit? d).getD 0) 0

/-- The integer of digits to a base; none when there is no digit or one that
is not to the base. -/
def digitsInteger (base : Nat) (isDigit : Char → Bool) (ds : List Char) : Option Int :=
  if ds ≠ [] ∧ ds.all isDigit then some (digitsValue base ds) else none

/-- An integer to a base, after its sign. All its digits have to be to the
base; without any it has no value. -/
def based? (base : Nat) (isDigit : Char → Bool) (s : List Char) : Option (Option Int) :=
  if s.all fun c => isDigit c || c = '_' then
    (unspaced? isDigit s).map (digitsInteger base isDigit)
  else none

/-- A hexadecimal digit. -/
def isHexDigit (c : Char) : Bool := (Text.hexDigit? c).isSome

/-- A decimal integer, with its sign. Where it is spaced, hexadecimal digits
may stand next to the underscores, and other characters elsewhere, but then
it has no value. -/
def decimal? (w : List Char) : Option (Option Int) :=
  let (negative, r) := sign w
  if r = [] ∨ (r.head? = some '0' ∧ 1 < r.length) then none
  else (unspaced? isHexDigit w).map fun u =>
    (digitsInteger 10 Char.isDigit (sign u).2).map fun n => if negative then -n else n

/-- The double nearest to `digits · 10 ^ power`; none when it is too
large. -/
def double? (digits : List Char) (power : Int) : Option Float :=
  let n := digitsValue 10 digits
  let size := power + (Nat.toDigits 10 n).length
  if n = 0 ∨ size < -400 then some 0
  else if 400 < size then none
  else
    let x := if power < 0 then Float.ofScientific n true power.natAbs
      else Float.ofScientific n false power.natAbs
    if x.isInf then none else some x

/-- A digit or an underscore. -/
def isSpacedDigit (c : Char) : Bool := c.isDigit || c = '_'

/-- The digits at the start of a text, without their underscores, and the
rest. There has to be a digit. -/
def digits? (s : List Char) : Option (List Char × List Char) :=
  let ds := (s.takeWhile isSpacedDigit).filter Char.isDigit
  if ds = [] then none else some (ds, s.dropWhile isSpacedDigit)

/-- The digits before the point: more than one start with no zero. -/
def whole? (s : List Char) : Option (List Char × List Char) := do
  let (ds, r) ← digits? s
  if s.head? = some '0' ∧ 1 < ds.length then none else some (ds, r)

/-- The digits after a point, when there is one, and the rest. -/
def fraction? (s : List Char) : Option (List Char × List Char) :=
  match s with
  | '.' :: r => digits? r
  | r => some ([], r)

/-- The exponent, when there is one, and the rest. -/
def exponent? (s : List Char) : Option (Int × List Char) :=
  match s with
  | [] => some (0, [])
  | c :: r =>
    if c = 'e' ∨ c = 'E' then
      let (negative, r) := sign r
      (digits? r).map fun p =>
        let n : Int := digitsValue 10 p.1
        (if negative then -n else n, p.2)
    else some (0, c :: r)

/-- A number with a fraction, an exponent or both, with its sign. A number
that is too large has no value. -/
def float? (w : List Char) : Option (Option Float) := do
  let (negative, r) := sign w
  let (whole, r) ← whole? r
  let (fraction, r) ← fraction? r
  let (exponent, r) ← exponent? r
  if r ≠ [] ∨ (unspaced? Char.isDigit w).isNone then none
  let x := double? (whole ++ fraction) (exponent - fraction.length)
  some (x.map fun x => if negative then -x else x)

/-- A number of exactly so many digits, and the rest. -/
def fixed? (count : Nat) (s : List Char) : Option (Nat × List Char) :=
  let ds := s.take count
  if ds.length = count ∧ ds.all Char.isDigit then some (digitsValue 10 ds, s.drop count) else none

/-- The days of a month. -/
def daysOf (year month : Nat) : Nat :=
  if month = 2 then
    if year % 4 = 0 ∧ (year % 100 ≠ 0 ∨ year % 400 = 0) then 29 else 28
  else if month = 4 ∨ month = 6 ∨ month = 9 ∨ month = 11 then 30 else 31

/-- The rest after a date. -/
def date? (s : List Char) : Option (List Char) := do
  let (year, s) ← fixed? 4 s
  let s ← Text.after? ['-'] s
  let (month, s) ← fixed? 2 s
  let s ← Text.after? ['-'] s
  let (day, s) ← fixed? 2 s
  if 1 ≤ month ∧ month ≤ 12 ∧ 1 ≤ day ∧ day ≤ daysOf year month then some s else none

/-- The rest after hours and minutes. -/
def clock? (s : List Char) : Option (List Char) := do
  let (hour, s) ← fixed? 2 s
  let s ← Text.after? [':'] s
  let (minute, s) ← fixed? 2 s
  if hour ≤ 23 ∧ minute ≤ 59 then some s else none

/-- The rest after a time, whose seconds may be left out. -/
def time? (s : List Char) : Option (List Char) := do
  let s ← clock? s
  match s with
  | ':' :: r =>
    let (second, r) ← fixed? 2 r
    if 60 < second then none
    match r with
    | '.' :: t => if t.takeWhile Char.isDigit = [] then none else some (t.dropWhile Char.isDigit)
    | r => some r
  | s => some s

/-- Whether a text is the offset of a time, or empty. -/
def isOffset (s : List Char) : Bool :=
  match s with
  | [] => true
  | [c] => c = 'Z' || c = 'z'
  | '+' :: r => clock? r = some []
  | '-' :: r => clock? r = some []
  | _ => false

/-- Whether a text is a date, a time, or a date with a time. -/
def isDatetime (s : List Char) : Bool :=
  match date? s with
  | none => time? s = some []
  | some [] => true
  | some (c :: r) =>
    if c = 'T' ∨ c = 't' ∨ c = ' ' then (time? r).any isOffset else false

/-- A character of a word: any but blanks, line breaks and the signs that
TOML has a use for. A dot counts as one, since a fraction has it. -/
def isWordChar (c : Char) : Bool :=
  !([' ', '\t', '\n', '\r', '=', ',', '[', ']', '\x7b', '\x7d', '#'].contains c)

/-- A character that a word may go on with after blanks. -/
def isWordStart (c : Char) : Bool := isWordChar c && !(['.', '"', '\x27'].contains c)

/-- The word at the start of a text, and the rest. A word goes on after
blanks where another could start, as a date does with its time. -/
def word (s : List Char) : List Char × List Char :=
  let r := s.dropWhile isWordChar
  let t := dropBlanks r
  if t.length < r.length ∧ r.length ≤ s.length ∧ t.head?.any isWordStart then
    let (w, u) := word t
    (s.takeWhile isWordChar ++ r.takeWhile isBlank ++ w, u)
  else (s.takeWhile isWordChar, r)
termination_by s.length
decreasing_by rename_i h; exact Nat.lt_of_lt_of_le h.1 h.2.1

/-- A word that starts with a digit, perhaps after a sign: what follows the
first digits decides what it is. -/
def numeric? (w : List Char) : Option Value :=
  let tail := (sign w).2.dropWhile Char.isDigit
  match tail with
  | [] => (decimal? w).map .integer
  | c :: _ =>
    if c = '-' ∨ c = ':' then if isDatetime w then some .datetime else none
    else if tail.contains ' ' then none
    else if tail.any fun c => c = '.' || c = 'e' || c = 'E' then (float? w).map .float
    else if c = '_' then (decimal? w).map .integer
    else none

/-- The words for numbers that are not finite, after their sign. -/
def special? (s : List Char) : Option Float :=
  if s = ['i', 'n', 'f'] then some (1.0 / 0.0)
  else if s = ['n', 'a', 'n'] then some (0.0 / 0.0)
  else none

/-- The value of a word. -/
def scalar? (w : List Char) : Option Value :=
  match w with
  | [] => none
  | ['t', 'r', 'u', 'e'] => some (.boolean true)
  | ['f', 'a', 'l', 's', 'e'] => some (.boolean false)
  | '0' :: 'x' :: r => (based? 16 isHexDigit r).map .integer
  | '0' :: 'o' :: r => (based? 8 (fun c => '0' ≤ c && c ≤ '7') r).map .integer
  | '0' :: 'b' :: r => (based? 2 (fun c => c = '0' || c = '1') r).map .integer
  | w =>
    match special? (sign w).2 with
    | some x => some (.float (some (if (sign w).1 then -x else x)))
    | none => numeric? w

end Toml

end BuildDiagnostics
