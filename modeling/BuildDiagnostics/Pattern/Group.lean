import BuildDiagnostics.Pattern.Flags
/-!
# Groups in patterns

A group puts pieces of a pattern together. It may start with a name or with
flags that are in force in it; flags alone are in force up to the end of
the group around them. The readers here take what stands between the first
sign of a group and its pieces.
-/


namespace BuildDiagnostics

namespace Pattern

/-- The names of groups so far, and where each stands. -/
abbrev GroupNames := List (String × Span)

/-- How a group starts. -/
inductive Opening where
  /-- Pieces follow, under these flags. -/
  | pieces (f : Flags) (names : GroupNames)
  /-- There are only flags. -/
  | flags (f : Flags)

namespace Opening

/-- Whether a character may stand in the name of a group. Letters of all
scripts may; a name starts with one or with an underscore. -/
def isNameChar (isFirst : Bool) (c : Char) : Bool :=
  let isLetter := c.isAlpha || ('\x80' ≤ c && !Text.isWhite c)
  isLetter || c = '_' || (!isFirst && (c.isDigit || c = '.' || c = '[' || c = ']'))

/-- The characters of a name up to the angle that closes it, and what is
left from the angle on. -/
def nameChars (isFirst : Bool) : List Char → Except Problem (List Char × List Char)
  | [] => .error ⟨.groupNameUnexpectedEnd, ⟨0, 0⟩, none⟩
  | '>' :: r => .ok ([], '>' :: r)
  | c :: r =>
    if isNameChar isFirst c then do
      let (cs, t) ← nameChars false r
      .ok (c :: cs, t)
    else .error ⟨.groupNameInvalid, ⟨r.length + 1, r.length⟩, none⟩

/-- The names with the one that starts a text, and the rest after it. -/
def name (names : GroupNames) (s : List Char) : Except Problem (GroupNames × List Char) := do
  let (cs, t) ← nameChars true s
  let name := String.ofList cs
  let span : Span := ⟨s.length, t.length⟩
  if cs = [] then .error ⟨.groupNameEmpty, span, none⟩
  else
    match names.lookup name with
    | some earlier => .error ⟨.groupNameDuplicate, span, some earlier⟩
    | none => .ok ((name, span) :: names, t.drop 1)

/-- The flags after those at the start of a text, and what is left from the
sign on that ends them. `seen` has the letters before, the last one first;
a sign of subtraction clears the flags after it. -/
def flagLetters (seen : List (Char × Span)) (on : Bool) (f : Flags) :
    List Char → Except Problem (Flags × List Char)
  | [] => .error ⟨.flagUnexpectedEnd, ⟨0, 0⟩, none⟩
  | c :: r =>
    let span : Span := ⟨r.length + 1, r.length⟩
    if c = ':' ∨ c = ')' then
      match seen with
      | ('-', last) :: _ => .error ⟨.flagDanglingNegation, last, none⟩
      | _ => .ok (f, c :: r)
    else if c = '-' then
      match seen.lookup c with
      | some earlier => .error ⟨.flagRepeatedNegation, span, some earlier⟩
      | none => flagLetters ((c, span) :: seen) false f r
    else
      match f.set? on c, seen.lookup c with
      | none, _ => .error ⟨.flagUnrecognized, span, none⟩
      | some _, some earlier => .error ⟨.flagDuplicate, span, some earlier⟩
      | some f, none => flagLetters ((c, span) :: seen) on f r

/-- What follows a question mark at the start of a group, if it looks ahead
or behind. -/
def lookAround? : List Char → Option (List Char)
  | '=' :: r => some r
  | '!' :: r => some r
  | '<' :: '=' :: r => some r
  | '<' :: '!' :: r => some r
  | _ => none

/-- Reads how a group starts, after its first sign. -/
def read (f : Flags) (names : GroupNames) (s : List Char) :
    Except Problem (Opening × List Char) :=
  match f.skip s with
  | '?' :: r =>
    match lookAround? r with
    | some t => .error ⟨.lookAround, ⟨s.length + 1, t.length⟩, none⟩
    | none =>
      let named (t : List Char) : Except Problem (Opening × List Char) := do
        let (names, u) ← name names t
        .ok (.pieces f names, u)
      match r with
      | [] => .error ⟨.groupUnclosed, ⟨s.length + 1, s.length⟩, none⟩
      | 'P' :: '<' :: t => named t
      | '<' :: t => named t
      | ')' :: _ => .error ⟨.repetitionMissing, ⟨r.length + 1, r.length + 1⟩, none⟩
      | r => do
        let (g, t) ← flagLetters [] true f r
        match t with
        | ')' :: u => .ok (.flags g, u)
        | t => .ok (.pieces g names, t.drop 1)
  | t => .ok (.pieces f names, t)

end Opening

end Pattern

end BuildDiagnostics
