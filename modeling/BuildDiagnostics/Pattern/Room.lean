import BuildDiagnostics.Pattern
/-!
# The room of patterns

A pattern is made ready as a machine of states, and a machine must not take
more than a certain room. Counts are what makes it large: a piece that
repeats so many times is there so many times. The states for ASCII are
counted one by one; a class with other characters is taken to need as many
as the dot does.
-/


namespace BuildDiagnostics

namespace Pattern

/-- The bytes that a state takes, its ways to others apart. -/
def stateRoom : Nat := 32

/-- How many stretches of neighbours a class has in ASCII. -/
def CharClass.runs (c : CharClass) : Nat :=
  ((List.range 128).filter fun n => c.has n && (n = 0 || !c.has (n - 1))).length

/-- The room of a class: a single character has a state for each of its
bytes, any other class one to start at, with a way for each stretch, and one
to end at. -/
def CharClass.room (c : CharClass) : Nat :=
  match c with
  | .range first last =>
    if first = last then stateRoom * (Char.ofNat first).utf8Size
    else if last < 128 then 2 * stateRoom + 8
    else 9 * stateRoom + 136
  | c => if c.isAscii then 2 * stateRoom + 8 * c.runs else 9 * stateRoom + 136

/-- Whether a pattern has the empty piece only. -/
def isEmptyOnly : Pattern → Bool
  | empty => true
  | oneOf _ => false
  | look _ => true
  | seq p q => p.isEmptyOnly && q.isEmptyOnly
  | either p q => p.isEmptyOnly && q.isEmptyOnly
  | repeated p _ most => most = some 0 || p.isEmptyOnly

/-- The room of a pattern in bytes. Where there is a choice, a state has a
way for either side. The empty piece needs no repetition. -/
def room : Pattern → Nat
  | empty => 0
  | oneOf c => c.room
  | look _ => stateRoom
  | seq p q => p.room + q.room
  | either p q => p.room + q.room + 2 * stateRoom + 8
  | repeated p least most =>
    let choice := stateRoom + 8
    let fewer (n : Nat) := if p.isEmptyOnly then min n 1 else n
    let least := fewer least
    match most.map fewer with
    | none => max 1 least * p.room + choice
    | some most =>
      if most ≤ least then least * p.room
      else least * p.room + (most - least) * (p.room + choice) + stateRoom

/-- The room that a machine may take. -/
def maxRoom : Nat := 10 * Nat.pow 2 20

/-- Whether a pattern takes too much room. Every machine has six states
more: to start anywhere, to note where a piece starts and ends, and to
succeed. -/
def isTooLarge (p : Pattern) : Bool := maxRoom < p.room + 6 * stateRoom + 16

end Pattern

end BuildDiagnostics
