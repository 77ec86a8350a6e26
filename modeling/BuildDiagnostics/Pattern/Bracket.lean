import BuildDiagnostics.Pattern.Escape
/-!
# Brackets in patterns

A bracket is a class of characters made of items: single characters,
ranges, kinds and further brackets. Operators between items take what both
sides have in common, what only the first has, or what exactly one has;
they bind from left to right and more loosely than items next to each
other. The reader keeps the brackets that are open, the innermost first.
-/


namespace BuildDiagnostics

namespace Pattern

/-- Operators in brackets. -/
inductive Operator where
  /-- What both sides have. -/
  | intersection
  /-- What only the first side has. -/
  | difference
  /-- What exactly one side has. -/
  | symmetricDifference
deriving DecidableEq

/-- The class that an operator makes of two. -/
def Operator.apply : Operator → CharClass → CharClass → CharClass
  | intersection => .intersection
  | difference => .difference
  | symmetricDifference => CharClass.symmetricDifference

/-- Some items of a bracket. -/
structure Items where
  /-- Their characters. -/
  members : CharClass := .empty
  /-- The stretch they take, if there are any. -/
  span : Option Span := none
  /-- Whether a character, a range or a kind is among them. -/
  anyLetters : Bool := false
deriving DecidableEq

namespace Items

/-- One item. -/
def single (span : Span) (members : CharClass) : Items := ⟨members, some span, true⟩

/-- Items with more after them. -/
def append (a b : Items) : Items where
  members := .union a.members b.members
  span := match a.span, b.span with
    | some s, some t => some ⟨s.start, t.stop⟩
    | none, t => t
    | s, none => s
  anyLetters := a.anyLetters || b.anyLetters

/-- Items in the cases that are the same. The cases of letters of all
scripts are not known. -/
def folded (f : Flags) (span : Option Span) (a : Items) : Meaning CharClass :=
  if f.allScripts && f.anyCase && a.anyLetters then
    .error ⟨.caseUnavailable, span.getD ⟨0, 0⟩, none⟩
  else .ok (f.fold a.members)

/-- What a bracket means. In ASCII it must not have bytes that are none. -/
def closed (f : Flags) (span : Span) (negated : Bool) (a : Items) : Meaning Items := do
  let c ← a.folded f (some span)
  let c := if negated then .complement c else c
  if f.allScripts || c.isAscii then .ok ⟨c, some span, a.anyLetters⟩
  else .error ⟨.invalidUtf8, span, none⟩

/-- Items with an operator between them. -/
def combine (f : Flags) (o : Operator) (a b : Items) : Meaning Items := do
  let right ← b.folded f b.span
  let left ← a.folded f a.span
  .ok { a.append b with members := o.apply left right }

end Items

/-- A bracket that is open. -/
structure Bracket where
  /-- Where it starts. -/
  start : Nat
  /-- The stretch of what opens it. -/
  opening : Span
  /-- Whether it has the characters that are not among its items. -/
  negated : Bool
  /-- What stands before the last operator. -/
  left : Option (Meaning Items × Operator)
  /-- The items after it. -/
  items : Meaning Items

namespace Bracket

/-- The problem of a bracket that is not closed. -/
def unclosed (start stop : Nat) : Problem := ⟨.classUnclosed, ⟨start, stop⟩, none⟩

/-- The bracket with one more item. -/
def add (b : Bracket) (item : Meaning Items) : Bracket :=
  { b with items := do
      let items ← b.items
      let item ← item
      .ok (items.append item) }

/-- All of the bracket so far. -/
def whole (f : Flags) (b : Bracket) : Meaning Items :=
  match b.left with
  | none => b.items
  | some (left, o) => do
    let left ← left
    let right ← b.items
    Items.combine f o left right

/-- The bracket after an operator. -/
def operate (f : Flags) (o : Operator) (b : Bracket) : Bracket :=
  { b with left := some (b.whole f, o), items := .ok {} }

/-- The bracket as an item, when so many characters are left after it. -/
def close (f : Flags) (stop : Nat) (b : Bracket) : Meaning Items := do
  let items ← b.whole f
  items.closed f ⟨b.start, stop⟩ b.negated

/-- Signs of subtraction at the start of a bracket are characters. -/
def leading (f : Flags) (start : Nat) (items : Items) (s : List Char) :
    Except Problem (Items × List Char) :=
  match s with
  | '-' :: r =>
    let item := Items.single ⟨r.length + 1, r.length⟩ (.single 0x2d)
    if f.skip r = [] then .error (unclosed start start)
    else leading f start (items.append item) (f.skip r)
  | s => .ok (items, s)
termination_by s.length
decreasing_by exact Nat.lt_succ_of_le (f.length_skip_le r)

/-- Opens a bracket, after its sign. A closing sign that comes first is a
character. -/
def enter (f : Flags) (s : List Char) : Except Problem (Bracket × List Char) := do
  let start := s.length + 1
  let (negated, t) ←
    match f.skip s with
    | [] => Except.error (unclosed start 0)
    | '^' :: r => if f.skip r = [] then .error (unclosed start 0) else .ok (true, f.skip r)
    | t => .ok (false, t)
  let (items, u) ← leading f start {} t
  match u with
  | ']' :: r =>
    if items.span.isSome then .ok (⟨start, ⟨start, u.length⟩, negated, none, .ok items⟩, u)
    else if f.skip r = [] then .error (unclosed start 0)
    else
      let v := f.skip r
      let item := Items.single ⟨u.length, r.length⟩ (.single 0x5d)
      .ok (⟨start, ⟨start, v.length⟩, negated, none, .ok item⟩, v)
  | _ => .ok (⟨start, ⟨start, u.length⟩, negated, none, .ok items⟩, u)

/-- A kind of characters with its name between colons, after the first
sign of its brackets: its class, and whether it is negated. -/
def named? (s : List Char) : Option (CharClass × Bool × List Char) :=
  match s with
  | ':' :: r =>
    let (negated, r) := match r with
      | '^' :: t => (true, t)
      | _ => (false, r)
    match r.dropWhile (· ≠ ':') with
    | ':' :: ']' :: t =>
      (CharClass.named? (String.ofList (r.takeWhile (· ≠ ':')))).map fun c => (c, negated, t)
    | _ => none
  | _ => none

/-- A character or an escape in a bracket. -/
def item (f : Flags) : List Char → Except Problem (Escape × List Char)
  | [] => .error Escape.unexpectedEnd
  | '\\' :: r => Escape.read f r
  | c :: r => .ok (.character c false, r)

/-- The number of a character in a bracket. Without all scripts it has to be
one of ASCII. -/
def number (f : Flags) (span : Span) (c : Char) (asByte : Bool) : Meaning Nat :=
  if f.allScripts || c.toNat ≤ 0x7f then .ok c.toNat
  else .error ⟨if asByte then .invalidUtf8 else .unicodeNotAllowed, span, none⟩

/-- What an item that is no range means; a place is no item. -/
def meaning (f : Flags) (span : Span) : Escape → Except Problem (Meaning Items)
  | .character c asByte =>
    .ok ((number f span c asByte).map fun n => .single span (.single n))
  | .kind c negated => .ok ((f.kind span c negated).map (.single span))
  | .property unknown => .ok ((f.property span unknown).map (.single span))
  | .place _ => .error ⟨.classEscapeInvalid, span, none⟩

/-- An end of a range, which has to be a character. -/
def boundary (span : Span) : Escape → Except Problem (Char × Bool)
  | .character c asByte => .ok (c, asByte)
  | _ => .error ⟨.classRangeLiteral, span, none⟩

/-- A range or a single item. A sign of subtraction at the end of the
bracket, or before another such sign, makes no range. -/
def range (f : Flags) (opening : Span) (s : List Char) :
    Except Problem (Meaning Items × List Char) := do
  let (first, t) ← item f s
  let firstSpan : Span := ⟨s.length, t.length⟩
  let alone (u : List Char) : Except Problem (Meaning Items × List Char) := do
    let m ← meaning f firstSpan first
    .ok (m, u)
  match f.skip t with
  | [] => .error ⟨.classUnclosed, opening, none⟩
  | '-' :: r =>
    if f.next? r = some ']' ∨ f.next? r = some '-' then alone ('-' :: r)
    else
      let u := f.skip r
      if u = [] then .error ⟨.classUnclosed, opening, none⟩
      else
        let (last, v) ← item f u
        let lastSpan : Span := ⟨u.length, v.length⟩
        let (a, aByte) ← boundary firstSpan first
        let (b, bByte) ← boundary lastSpan last
        let span : Span := ⟨firstSpan.start, lastSpan.stop⟩
        if b < a then .error ⟨.classRangeInvalid, span, none⟩
        else
          let m : Meaning Items := do
            let a ← number f firstSpan a aByte
            let b ← number f lastSpan b bByte
            .ok (.single span (.range a b))
          .ok (m, v)
  | u => alone u

/-- Reads what comes next in a bracket, the sign that closes it apart: the
open brackets after it. -/
def step (f : Flags) (b : Bracket) (outer : List Bracket) (s : List Char) :
    Except Problem (Bracket × List Bracket × List Char) :=
  match s with
  | '&' :: '&' :: r => .ok (b.operate f .intersection, outer, r)
  | '-' :: '-' :: r => .ok (b.operate f .difference, outer, r)
  | '~' :: '~' :: r => .ok (b.operate f .symmetricDifference, outer, r)
  | '[' :: r =>
    match named? r with
    | some (c, negated, t) =>
      let span : Span := ⟨s.length, t.length⟩
      .ok (b.add ((Items.single span c).closed f span negated), outer, t)
    | none => do
      let (inner, t) ← enter f r
      .ok (inner, b :: outer, t)
  | s => do
    let (item, t) ← range f b.opening s
    .ok (b.add item, outer, t)

/-- Reads on in open brackets, up to the sign that closes the last: its
class. -/
def finish (f : Flags) (b : Bracket) (outer : List Bracket) (s : List Char) :
    Except Problem (Meaning CharClass × List Char) :=
  match h : f.skip s with
  | [] => .error ⟨.classUnclosed, b.opening, none⟩
  | ']' :: r =>
    have : r.length < s.length := by
      have := f.length_skip_le s
      rw [h, List.length_cons] at this
      omega
    let c := b.close f r.length
    match outer with
    | [] => .ok (c.map (·.members), r)
    | o :: os => finish f (o.add c) os r
  | t => do
    let (b, outer, u) ← step f b outer t
    if u.length < s.length then finish f b outer u
    else .error ⟨.classUnclosed, b.opening, none⟩
termination_by s.length

/-- Reads a bracket, after its first sign. -/
def read (f : Flags) (s : List Char) : Except Problem (Meaning CharClass × List Char) := do
  let (b, t) ← enter f s
  finish f b [] t

end Bracket

end Pattern

end BuildDiagnostics
