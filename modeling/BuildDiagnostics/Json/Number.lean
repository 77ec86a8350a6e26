import BuildDiagnostics.Json.Problem
/-!
# JSON numbers

`Numeral.scan` reads the whole of a number and keeps its digits;
`Numeral.found` is the value it has: an integer when it is written as one
and fits 64 bits, else a double. The double is the digits that fit 64 bits,
times a power of ten.
-/


namespace BuildDiagnostics

namespace Json

/-- The parts of a number as it is written. -/
structure Numeral where
  /-- Whether there is a minus sign. -/
  negative : Bool
  /-- The digits before the point. -/
  whole : List Char
  /-- The digits after the point, when there is one. -/
  fraction : Option (List Char)
  /-- The exponent when there is one: whether it is negative, and its
  digits. -/
  exponent : Option (Bool × List Char)

namespace Numeral

/-- The run of digits at the start of a text, and the rest. -/
def digits (s : List Char) : List Char × List Char :=
  (s.takeWhile Char.isDigit, s.dropWhile Char.isDigit)

/-- The digits before the point: one zero, or a run without a leading
zero. `ended` is the reason when the text ends first. -/
def scanWhole (ended : Reason) (s : List Char) : Except Failure (List Char × List Char) :=
  match s with
  | [] => .error (.atEnd ended)
  | '0' :: r =>
    match r with
    | c :: _ => if c.isDigit then .error (.past r .invalidNumber) else .ok (['0'], r)
    | [] => .ok (['0'], r)
  | c :: _ => if c.isDigit then .ok (digits s) else .error (.past s .invalidNumber)

/-- The point and the digits after it, when there is a point. -/
def scanFraction (ended : Reason) (s : List Char) :
    Except Failure (Option (List Char) × List Char) :=
  match s with
  | '.' :: r =>
    match digits r with
    | ([], []) => .error (.atEnd ended)
    | ([], r) => .error (.past r .invalidNumber)
    | (ds, r) => .ok (some ds, r)
  | s => .ok (none, s)

/-- The sign of an exponent, and the rest. -/
def scanSign (s : List Char) : Bool × List Char :=
  match s with
  | '+' :: r => (false, r)
  | '-' :: r => (true, r)
  | r => (false, r)

/-- The exponent, when there is one. -/
def scanExponent (ended : Reason) (s : List Char) :
    Except Failure (Option (Bool × List Char) × List Char) :=
  match s with
  | [] => .ok (none, s)
  | c :: r =>
    if c = 'e' ∨ c = 'E' then
      let (negative, r) := scanSign r
      match digits r with
      | ([], []) => .error (.atEnd ended)
      | ([], r) => .error (.past r .invalidNumber)
      | (ds, r) => .ok (some (negative, ds), r)
    else .ok (none, s)

/-- The whole of a number, from its sign or first digit. -/
def scan (ended : Reason) (s : List Char) : Except Failure (Numeral × List Char) := do
  let negative := s.head? = some '-'
  let (whole, s) ← scanWhole ended (if negative then s.tail else s)
  let (fraction, s) ← scanFraction ended s
  let (exponent, s) ← scanExponent ended s
  return (⟨negative, whole, fraction, exponent⟩, s)

/-- One more than the largest number of 64 bits. -/
def wordSize : Nat := UInt64.size

/-- A significand with more digits, as many as fit 64 bits, and the number
of those that do not. -/
def significand (n : Nat) : List Char → Nat × Nat
  | [] => (n, 0)
  | d :: ds =>
    let n' := 10 * n + (d.toNat - '0'.toNat)
    if n' < wordSize then significand n' ds else (n, ds.length + 1)

/-- A significand times a power of ten. Below the smallest power that a
double holds the division takes two steps. -/
def scaled (n : Nat) (power : Int) : Float :=
  let x := Float.ofNat n
  let ten (k : Nat) : Float := Float.ofScientific 1 false k
  if 0 ≤ power then x * ten power.toNat
  else if -308 ≤ power then x / ten power.natAbs
  else if -616 ≤ power then x / ten 308 / ten (power.natAbs - 308)
  else 0

/-- The largest exponent that is read to its end. -/
def maxExponent : Nat := Nat.pow 2 31 - 1

/-- How many digits of an exponent are beyond the one that makes it larger
than `maxExponent`. -/
def excess (n : Nat) : List Char → Option Nat
  | [] => none
  | d :: ds =>
    let n' := 10 * n + (d.toNat - '0'.toNat)
    if n' ≤ maxExponent then excess n' ds else some ds.length

/-- The double that a number with a fraction, an exponent or too many
digits stands for; none when there is no such double. -/
def float? (n : Numeral) : Option Float :=
  let (m, dropped) := significand 0 n.whole
  let (m, places) := match n.fraction with
    | none => (m, 0)
    | some ds =>
      let (m', lost) := significand m ds
      (m', ds.length - lost)
  let power : Int := dropped - places
  let power : Int := match n.exponent with
    | none => power
    | some (negative, ds) =>
      let e : Int := Nat.ofDigitChars 10 ds 0
      if negative then power - e else power + e
  if m = 0 then some (if n.negative then -0.0 else 0.0)
  else if 308 < power then none
  else
    let x := scaled m power
    if x.isInf then none else some (if n.negative then -x else x)

/-- The value of a number. -/
def found? (n : Numeral) : Option Found :=
  let m := Nat.ofDigitChars 10 n.whole 0
  if n.fraction.isNone ∧ n.exponent.isNone ∧ ¬ n.negative ∧ m < wordSize then some (.integer m)
  else if n.fraction.isNone ∧ n.exponent.isNone ∧ n.negative ∧ 0 < m ∧ m ≤ Nat.pow 2 63 then
    some (.integer (-m))
  else n.float?.map .float

/-- The value of a number read from the start of a text. -/
def read (s : List Char) : Except Failure (Found × List Char) := do
  let (n, s) ← scan .endInValue s
  match n.found? with
  | some found => return (found, s)
  | none =>
    let beyond := (n.exponent.bind fun e => excess 0 e.2).getD 0
    throw ⟨.numberTooLarge, Text.byteSize s + beyond⟩

end Numeral

end Json

end BuildDiagnostics
