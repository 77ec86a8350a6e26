/-!
# Classes of characters in patterns

A class holds characters by their code points. It is made of ranges by the
operations that a bracket in a pattern can express, and `has` says what
each of them means.
-/


namespace BuildDiagnostics

namespace Pattern

/-- A class of characters. -/
inductive CharClass where
  /-- The characters from one to another. -/
  | range (first last : Nat)
  /-- The characters of either class. -/
  | union (a b : CharClass)
  /-- The characters of both classes. -/
  | intersection (a b : CharClass)
  /-- The characters of the first class that are not of the second. -/
  | difference (a b : CharClass)
  /-- The characters that are not of a class. -/
  | complement (a : CharClass)
  /-- The characters of a class, as small and as capital letters. -/
  | anyCase (a : CharClass)
deriving DecidableEq

namespace CharClass

/-- The other case of a Latin letter; any other character is its own. -/
def otherCase (n : Nat) : Nat :=
  if 'a'.toNat ≤ n ∧ n ≤ 'z'.toNat then n - 32
  else if 'A'.toNat ≤ n ∧ n ≤ 'Z'.toNat then n + 32
  else n

/-- Whether a character is of a class. -/
def has : CharClass → Nat → Bool
  | range first last, n => first ≤ n && n ≤ last
  | union a b, n => a.has n || b.has n
  | intersection a b, n => a.has n && b.has n
  | difference a b, n => a.has n && !b.has n
  | complement a, n => !a.has n
  | anyCase a, n => a.has n || a.has (otherCase n)

/-- The class without characters. -/
def empty : CharClass := range 1 0

/-- The class of some ranges. -/
def ofRanges (ranges : List (Nat × Nat)) : CharClass :=
  ranges.foldr (fun r c => union (range r.1 r.2) c) empty

/-- The class of one character. -/
def single (n : Nat) : CharClass := range n n

/-- The characters that are of exactly one of two classes. -/
def symmetricDifference (a b : CharClass) : CharClass := union (difference a b) (difference b a)

/-- Whether a class of bytes has those of ASCII characters only. -/
def isAscii (c : CharClass) : Bool := (List.range 128).all fun n => !c.has (128 + n)

/-- Decimal digits. -/
def digit : CharClass := range 0x30 0x39

/-- Blanks and line breaks. -/
def space : CharClass := ofRanges [(0x09, 0x0d), (0x20, 0x20)]

/-- The characters of words: letters, digits and the underscore. -/
def word : CharClass := ofRanges [(0x30, 0x39), (0x41, 0x5a), (0x5f, 0x5f), (0x61, 0x7a)]

/-- The class of a name that stands between colons. -/
def named? (name : String) : Option CharClass :=
  (List.lookup name [
    ("alnum", [(0x30, 0x39), (0x41, 0x5a), (0x61, 0x7a)]),
    ("alpha", [(0x41, 0x5a), (0x61, 0x7a)]),
    ("ascii", [(0x00, 0x7f)]),
    ("blank", [(0x09, 0x09), (0x20, 0x20)]),
    ("cntrl", [(0x00, 0x1f), (0x7f, 0x7f)]),
    ("digit", [(0x30, 0x39)]),
    ("graph", [(0x21, 0x7e)]),
    ("lower", [(0x61, 0x7a)]),
    ("print", [(0x20, 0x7e)]),
    ("punct", [(0x21, 0x2f), (0x3a, 0x40), (0x5b, 0x60), (0x7b, 0x7e)]),
    ("space", [(0x09, 0x0d), (0x20, 0x20)]),
    ("upper", [(0x41, 0x5a)]),
    ("word", [(0x30, 0x39), (0x41, 0x5a), (0x5f, 0x5f), (0x61, 0x7a)]),
    ("xdigit", [(0x30, 0x39), (0x41, 0x46), (0x61, 0x66)])]).map ofRanges

end CharClass

end Pattern

end BuildDiagnostics
