import BuildDiagnostics.Pattern.CharClass
/-!
# Patterns of text

A pattern describes pieces of text: a character of a class, pieces one
after the other, one piece or another, a piece so many times, or the empty
piece at a place with certain neighbours. A text matches where it holds
such a piece. Matching goes through the pattern once and keeps the set of
all places that can be reached, so no choice has to be taken back.
-/


namespace BuildDiagnostics

namespace Pattern

/-- Where a place lies in a word. -/
inductive WordEdge where
  /-- At its start or its end. -/
  | either
  /-- At neither of them. -/
  | neither
  /-- At its start. -/
  | start
  /-- At its end. -/
  | stop
  /-- After no character of a word. -/
  | startHalf
  /-- Before no character of a word. -/
  | stopHalf
deriving DecidableEq

/-- What a place has to be. -/
inductive Look where
  /-- The start of the text. -/
  | textStart
  /-- The end of the text. -/
  | textEnd
  /-- The start of a line. -/
  | lineStart
  /-- The end of a line. -/
  | lineEnd
  /-- The start of a line, where carriage returns end lines as well. -/
  | paragraphStart
  /-- The end of a line, where carriage returns end lines as well. -/
  | paragraphEnd
  /-- A place in a word, of ASCII characters or of those of all scripts. -/
  | word (edge : WordEdge) (allScripts : Bool)
deriving DecidableEq

/-- The characters before and after a place; there is none before the start
of the text and none after its end. -/
structure Place where
  /-- The character before it. -/
  before : Option Char
  /-- The character after it. -/
  after : Option Char
deriving DecidableEq

/-- The places of a text, from its start to its end. -/
def Place.all (before : Option Char) : List Char → List Place
  | [] => [⟨before, none⟩]
  | c :: s => ⟨before, some c⟩ :: all (some c) s

/-- Whether there is a character of a word. -/
def isWordAt (c : Option Char) : Bool := c.any fun c => CharClass.word.has c.toNat

/-- Whether a place lies so in a word. -/
def WordEdge.holds (p : Place) : WordEdge → Bool
  | either => isWordAt p.before != isWordAt p.after
  | neither => isWordAt p.before == isWordAt p.after
  | start => !isWordAt p.before && isWordAt p.after
  | stop => isWordAt p.before && !isWordAt p.after
  | startHalf => !isWordAt p.before
  | stopHalf => !isWordAt p.after

/-- Whether a place is what it has to be. -/
def Look.holds (p : Place) : Look → Bool
  | textStart => p.before.isNone
  | textEnd => p.after.isNone
  | lineStart => p.before.all (· = '\n')
  | lineEnd => p.after.all (· = '\n')
  | paragraphStart =>
    p.before.all (· = '\n') || (p.before = some '\r' && p.after ≠ some '\n')
  | paragraphEnd =>
    p.after.all (· = '\r') || (p.after = some '\n' && p.before ≠ some '\r')
  | word edge _ => edge.holds p

end Pattern

/-- A pattern. -/
inductive Pattern where
  /-- The empty piece. -/
  | empty
  /-- A character of a class. -/
  | oneOf (c : Pattern.CharClass)
  /-- The empty piece at a certain place. -/
  | look (l : Pattern.Look)
  /-- A piece and then another. -/
  | seq (p q : Pattern)
  /-- One piece or another. -/
  | either (p q : Pattern)
  /-- Pieces of one pattern, at least so many and perhaps at most so many. -/
  | repeated (p : Pattern) (least : Nat) (most : Option Nat)
deriving DecidableEq

namespace Pattern

/-- Whether a pattern asks for the words of all scripts. -/
def usesAllScripts : Pattern → Bool
  | empty => false
  | oneOf _ => false
  | look (.word _ allScripts) => allScripts
  | look _ => false
  | seq p q => p.usesAllScripts || q.usesAllScripts
  | either p q => p.usesAllScripts || q.usesAllScripts
  | repeated p _ most => most ≠ some 0 && p.usesAllScripts

/-! ## Matching

A set of places is kept as the bits of a number, the start of the text
being the lowest. -/

/-- The set of the places at which a list has true. -/
def bits : List Bool → Nat
  | [] => 0
  | b :: bs => 2 * bits bs + b.toNat

/-- The ways from place to place that the pieces of a pattern take in one
text. -/
inductive Ways where
  /-- To the place itself. -/
  | stay
  /-- From some places to the next. -/
  | advance (places : Nat)
  /-- From some places to themselves. -/
  | keep (places : Nat)
  /-- One way and then another. -/
  | seq (v w : Ways)
  /-- One way or another. -/
  | either (v w : Ways)
  /-- A way so many times. -/
  | repeated (w : Ways) (least : Nat) (most : Option Nat)

/-- The ways of a pattern in a text with certain places. -/
def ways (places : List Place) : Pattern → Ways
  | empty => .stay
  | oneOf c => .advance (bits (places.map fun p => p.after.any fun a => c.has a.toNat))
  | look l => .keep (bits (places.map l.holds))
  | seq p q => .seq (ways places p) (ways places q)
  | either p q => .either (ways places p) (ways places q)
  | repeated p least most => .repeated (ways places p) least most

/-- A set of places after some rounds; when a round changes nothing, no
later one does. -/
def rounds (step : Nat → Nat) : Nat → Nat → Nat
  | 0, s => s
  | n + 1, s =>
    let t := step s
    if t = s then s else rounds step n t

/-- The places that are reached within some rounds, `seen` being reached
and `new` not yet gone on from. -/
def within (step : Nat → Nat) : Nat → Nat → Nat → Nat
  | 0, _, seen => seen
  | n + 1, new, seen =>
    let next := (step new ||| seen) ^^^ seen
    if next = 0 then seen else within step n next (seen ||| next)

/-- The places that are reached from some places, in a text with so many
places. More rounds than there are places reach no further. -/
def Ways.ends (count : Nat) : Ways → Nat → Nat
  | stay, s => s
  | advance places, s => 2 * (s &&& places)
  | keep places, s => s &&& places
  | seq v w, s => w.ends count (v.ends count s)
  | either v w, s => v.ends count s ||| w.ends count s
  | repeated w least most, s =>
    let start := rounds (w.ends count) least s
    let further := match most with
      | none => count
      | some most => min (most - least) count
    within (w.ends count) further start start

/-- Whether a text holds a piece of a pattern. -/
def occursIn (p : Pattern) (text : String) : Bool :=
  let places := Place.all none text.toList
  (p.ways places).ends places.length (bits (places.map fun _ => true)) ≠ 0

end Pattern

end BuildDiagnostics
