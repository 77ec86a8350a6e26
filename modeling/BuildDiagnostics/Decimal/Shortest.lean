/-!
# The shortest decimal of a binary fraction

A double stands for all the reals that round to it. `shortest` gives the
decimal with the fewest digits among them: it looks for the coarsest grid
`10 ^ g` that has a point in that interval, testing on each grid the two
neighbours of the value, and takes the nearer of two hits. The work is in
exact natural numbers.
-/


namespace BuildDiagnostics

namespace Decimal

/-- A positive real `m · 2 ^ q` and the reals that round to it: `4 · m`
quarters, and the quarters at the two ends of the interval. -/
structure Binary where
  /-- The significand. -/
  m : Nat
  /-- The exponent. -/
  q : Int
  /-- The lower end, in quarters of `2 ^ q`. -/
  low : Nat
  /-- The upper end, in quarters of `2 ^ q`. -/
  high : Nat

namespace Binary

/-- Whether the ends round to the value too. -/
def closed (b : Binary) : Bool := b.m % 2 = 0

/-- The binary fraction of a positive finite double. -/
def ofFloat (x : Float) : Binary :=
  let bits : Nat := x.toBits.toNat % Nat.pow 2 63
  let fraction : Nat := bits % Nat.pow 2 52
  let exponent : Nat := bits / Nat.pow 2 52
  let m := if exponent = 0 then fraction else fraction + Nat.pow 2 52
  let low := if fraction = 0 ∧ 1 < exponent then 4 * m - 1 else 4 * m - 2
  ⟨m, if exponent = 0 then -1074 else (exponent : Int) - 1075, low, 4 * m + 2⟩

/-- The factors that carry quarters of `2 ^ q` and multiples of `10 ^ g`
to one scale. -/
def scales (b : Binary) (g : Int) : Nat × Nat :=
  (Nat.pow 2 (b.q - 2).toNat * Nat.pow 10 (-g).toNat,
    Nat.pow 2 (2 - b.q).toNat * Nat.pow 10 g.toNat)

/-- Whether `n · 10 ^ g` rounds to the value. -/
def covers (b : Binary) (g : Int) (n : Nat) : Bool :=
  let (binary, decimal) := b.scales g
  if b.closed then b.low * binary ≤ n * decimal && n * decimal ≤ b.high * binary
  else b.low * binary < n * decimal && n * decimal < b.high * binary

/-- The point of the grid `10 ^ g` that stands for the value, if one does. -/
def onGrid? (b : Binary) (g : Int) : Option Nat :=
  let (binary, decimal) := b.scales g
  let value := 4 * b.m * binary
  let n := value / decimal
  let rest := value % decimal
  match b.covers g n, b.covers g (n + 1) with
  | true, true => some (if 2 * rest < decimal ∨ (2 * rest = decimal ∧ n % 2 = 0) then n else n + 1)
  | true, false => some n
  | false, true => some (n + 1)
  | false, false => none

/-- The decimal `n · 10 ^ g` on the first grid with a hit, trying `steps`
grids from `g` down. -/
def search (b : Binary) : Nat → Int → Nat × Int
  | 0, g => (b.m, g)
  | steps + 1, g =>
    match b.onGrid? g with
    | some n => (n, g)
    | none => search b steps (g - 1)

/-- The shortest decimal `n · 10 ^ g`. -/
def shortest (b : Binary) : Nat × Int := b.search 700 310

end Binary

/-- A decimal written out with its point: `n · 10 ^ g`, at least one digit
on either side. -/
def positional (n : Nat) (g : Int) : String :=
  let digits := Nat.toDigits 10 n
  if 0 ≤ g then String.ofList (digits ++ List.replicate g.toNat '0') ++ ".0"
  else
    let places := (-g).toNat
    let padded := List.replicate (places + 1 - digits.length) '0' ++ digits
    String.ofList (padded.take (padded.length - places)) ++ "." ++
      String.ofList (padded.drop (padded.length - places))

/-- A decimal with one digit before the point and a signed exponent. -/
def scientific (n : Nat) (g : Int) : String :=
  let digits := Nat.toDigits 10 n
  let exponent := g + digits.length - 1
  let mantissa := match digits with
    | d :: e :: ds => String.ofList (d :: '.' :: e :: ds)
    | ds => String.ofList ds
  mantissa ++ "e" ++ (if 0 ≤ exponent then "+" else "-") ++ toString exponent.natAbs

/-- A way to write doubles. -/
structure Style where
  /-- The least power of ten of a first digit that is written positionally. -/
  least : Int
  /-- The greatest. -/
  greatest : Int

/-- The sign of a double, as text. -/
def sign (x : Float) : String := if x.toBits.toNat < Nat.pow 2 63 then "" else "-"

/-- A finite double as its shortest decimal. -/
def Style.write (style : Style) (x : Float) : String :=
  if x == 0 then sign x ++ "0.0"
  else
    let (n, g) := (Binary.ofFloat x).shortest
    let power := g + (Nat.toDigits 10 n).length - 1
    sign x ++ if style.least ≤ power ∧ power ≤ style.greatest then positional n g
      else scientific n g

end Decimal

end BuildDiagnostics
