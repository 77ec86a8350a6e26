import BuildDiagnostics.Pattern.Bracket
import BuildDiagnostics.Pattern.Count
import BuildDiagnostics.Pattern.Group
import BuildDiagnostics.Pattern.Room
/-!
# Reading patterns

A pattern is read from its start to its end with the groups that are open,
the innermost first. `Pattern.ofText` gives the pattern of a text or why it
has none: a mistake in it, a piece that has no meaning, a size that is too
large, or words of all scripts, which are not known.
-/


namespace BuildDiagnostics

namespace Pattern

/-- A group that is open. -/
structure Group where
  /-- Where its first sign is; none for the whole pattern. -/
  opened : Option Span
  /-- The flags before it. -/
  before : Flags
  /-- What may stand in place of the pieces, read before them. -/
  others : Option (Meaning Pattern) := none
  /-- The pieces, the last one first; flags alone are none. -/
  pieces : List (Option (Meaning Pattern)) := []

namespace Group

/-- The pieces one after the other. -/
def sequence (g : Group) : Meaning Pattern :=
  (g.pieces.reverse.filterMap id).foldl (fun p q => do
    let p ← p
    let q ← q
    .ok (.seq p q)) (.ok .empty)

/-- All of the group. -/
def whole (g : Group) : Meaning Pattern :=
  match g.others with
  | none => g.sequence
  | some others => do
    let p ← others
    let q ← g.sequence
    .ok (.either p q)

/-- The group with one more piece. -/
def add (piece : Option (Meaning Pattern)) (g : Group) : Group :=
  { g with pieces := piece :: g.pieces }

/-- The group after the sign between pieces of which one may stand in place
of the other. -/
def alternate (g : Group) : Group := { g with others := some g.whole, pieces := [] }

/-- The group with its last piece repeated. -/
def repeatLast? (count : Count) (g : Group) : Option Group :=
  match g.pieces with
  | some p :: ps =>
    some { g with pieces := some (p.map fun p => .repeated p count.least count.most) :: ps }
  | _ => none

end Group

/-- How far a pattern has been read. -/
structure Progress where
  /-- The flags in force. -/
  flags : Flags
  /-- The names of groups. -/
  names : GroupNames
  /-- The innermost group. -/
  group : Group
  /-- The groups around it. -/
  outer : List Group

namespace Progress

/-- The progress with one more piece. -/
def add (st : Progress) (piece : Meaning Pattern) : Progress :=
  { st with group := st.group.add (some piece) }

/-- The progress with one more character of a class. -/
def addClass (st : Progress) (c : Meaning CharClass) : Progress := st.add (c.map .oneOf)

/-- The progress at the start of a group. -/
def enter (st : Progress) (s : List Char) : Except Problem (Progress × List Char) := do
  match ← Opening.read st.flags st.names s with
  | (.flags f, t) => .ok ({ st with flags := f, group := st.group.add none }, t)
  | (.pieces f names, t) =>
    let inner : Group := { opened := some ⟨s.length + 1, s.length⟩, before := st.flags }
    .ok (⟨f, names, inner, st.group :: st.outer⟩, t)

/-- The progress at the end of a group. -/
def leave (st : Progress) (s : List Char) : Except Problem (Progress × List Char) :=
  match st.outer with
  | [] => .error ⟨.groupUnopened, ⟨s.length + 1, s.length⟩, none⟩
  | g :: gs =>
    .ok (⟨st.group.before, st.names, g.add (some st.group.whole), gs⟩, s)

/-- The progress after a repetition that starts at `s` and ends at `t`. -/
def repeatLast (st : Progress) (count : Count) (s t : List Char) :
    Except Problem (Progress × List Char) :=
  match st.group.repeatLast? count with
  | none => .error ⟨.repetitionMissing, ⟨s.length, s.length⟩, none⟩
  | some g => .ok ({ st with group := g }, Count.dropMark t)

/-- The progress after an escape, from its backslash `s` on. -/
def escape (st : Progress) (s : List Char) : Except Problem (Progress × List Char) := do
  let (e, t) ← Escape.read st.flags (s.drop 1)
  let span : Span := ⟨s.length, t.length⟩
  match e with
  | .character c asByte => .ok (st.addClass (st.flags.character span c asByte), t)
  | .kind c negated => .ok (st.addClass (st.flags.kind span c negated), t)
  | .property unknown => .ok (st.addClass (st.flags.property span unknown), t)
  | .place l => .ok (st.add (.ok (.look l)), t)

/-- The progress after a count in braces that start at `s`. -/
def counted (st : Progress) (s : List Char) : Except Problem (Progress × List Char) :=
  match st.group.repeatLast? ⟨0, none⟩ with
  | none => .error ⟨.repetitionMissing, ⟨s.length, s.length⟩, none⟩
  | some _ => do
    let (count, t) ← Count.read st.flags (s.drop 1)
    match st.group.repeatLast? count with
    | none => .error ⟨.repetitionMissing, ⟨s.length, s.length⟩, none⟩
    | some g => .ok ({ st with group := g }, t)

/-- Reads what the next sign starts. -/
def step (st : Progress) (s : List Char) : Except Problem (Progress × List Char) :=
  match s with
  | [] => .ok (st, [])
  | c :: r =>
    let span : Span := ⟨s.length, r.length⟩
    match c with
    | '(' => st.enter r
    | ')' => st.leave r
    | '|' => .ok ({ st with group := st.group.alternate }, r)
    | '[' => do
      let (m, t) ← Bracket.read st.flags r
      .ok (st.addClass m, t)
    | '?' => st.repeatLast ⟨0, some 1⟩ s r
    | '*' => st.repeatLast ⟨0, none⟩ s r
    | '+' => st.repeatLast ⟨1, none⟩ s r
    | '{' => st.counted s
    | '\\' => st.escape s
    | '.' => .ok (st.addClass (st.flags.dot span), r)
    | '^' => .ok (st.add (.ok (.look st.flags.start)), r)
    | '$' => .ok (st.add (.ok (.look st.flags.stop)), r)
    | c => .ok (st.addClass (st.flags.character span c false), r)

/-- The end of the pattern, with every group closed. -/
def finish (st : Progress) : Except Problem (Meaning Pattern) :=
  match st.outer, st.group.opened with
  | [], _ => .ok st.group.whole
  | _ :: _, span => .error ⟨.groupUnclosed, span.getD ⟨0, 0⟩, none⟩

/-- Reads on to the end of the pattern. -/
def run (st : Progress) (s : List Char) : Except Problem (Meaning Pattern) :=
  match st.flags.skip s with
  | [] => st.finish
  | t => do
    let (st, u) ← st.step t
    if u.length < s.length then run st u else st.finish
termination_by s.length

end Progress

/-- Why a text is no pattern. -/
inductive Refusal where
  /-- There is a problem at a stretch of it. -/
  | problem (p : Problem)
  /-- It takes too much room. -/
  | tooLarge
  /-- It asks for the words of all scripts. -/
  | allScripts
deriving DecidableEq

/-- The reason in words, for a text that is no pattern. -/
def Refusal.text (pattern : String) : Refusal → String
  | problem p => p.text pattern
  | tooLarge =>
    "Compiled regex exceeds size limit of " ++ toString maxRoom ++ " bytes."
  | allScripts => "error building NFA"

/-- The pattern of a text. -/
def ofText (text : String) : Except Refusal Pattern :=
  let outermost : Group := { opened := none, before := {} }
  match Progress.run ⟨{}, [], outermost, []⟩ text.toList with
  | .error p => .error (.problem p)
  | .ok (.error p) => .error (.problem p)
  | .ok (.ok p) =>
    if p.isTooLarge then .error .tooLarge
    else if p.usesAllScripts then .error .allScripts
    else .ok p

end Pattern

end BuildDiagnostics
