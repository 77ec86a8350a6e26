import BuildDiagnostics.Json.Skip
/-!
# Reading values of an expected type

Readers that know what should come: a string that may be null, one of a few
names. A value of another type is named in the failure, and for that it is
read first; so what is wrong within it comes before its being of the wrong
type.
-/


namespace BuildDiagnostics

namespace Json

/-- What is wrong when a value should be `expected` and something else
starts here. -/
def mismatch (expected : String) (s : List Char) : Failure :=
  let after (found : Found) (word r : List Char) : Failure :=
    match readWord word r with
    | .error e => e
    | .ok r => .before r (.wrongType found expected)
  match s with
  | 'n' :: r => after .null ['u', 'l', 'l'] r
  | 't' :: r => after (.boolean true) ['r', 'u', 'e'] r
  | 'f' :: r => after (.boolean false) ['a', 'l', 's', 'e'] r
  | '"' :: r =>
    match readString .kept r with
    | .error e => e
    | .ok (cs, r) => .before r (.wrongType (.string (String.ofList cs)) expected)
  | '[' :: _ => .before s (.wrongType .sequence expected)
  | '\x7b' :: _ => .before s (.wrongType .map expected)
  | s =>
    if s.head?.any fun c => c == '-' || c.isDigit then
      match Numeral.read s with
      | .error e => e
      | .ok (found, r) => .before r (.wrongType found expected)
    else .past s .expectedValue

/-- A string, or null for none. -/
def readOptional (s : List Char) : Except Failure (Option String × List Char) :=
  match dropBlanks s with
  | [] => .error (.atEnd .endInValue)
  | 'n' :: r => (readWord ['u', 'l', 'l'] r).map (none, ·)
  | '"' :: r => (readString .kept r).map fun p => (some (String.ofList p.1), p.2)
  | r => .error (mismatch "a string" r)

/-- The null value. -/
def readNull (s : List Char) : Except Failure (List Char) :=
  match dropBlanks s with
  | [] => .error (.atEnd .endInValue)
  | 'n' :: r => readWord ['u', 'l', 'l'] r
  | r => .error (mismatch "unit" r)

/-- A name that `ofName?` knows, after its opening quote. -/
def readKnown {α : Type} (names : List String) (ofName? : String → Option α) (s : List Char) :
    Except Failure (α × List Char) := do
  let (cs, r) ← readString .kept s
  let name := String.ofList cs
  match ofName? name with
  | some a => return (a, r)
  | none => throw (.before r (.unknownName name names))

/-- One of some names: as a string, or as the only key of an object whose
value is null. -/
def readName {α : Type} (names : List String) (ofName? : String → Option α) (s : List Char) :
    Except Failure (α × List Char) :=
  match dropBlanks s with
  | [] => .error (.atEnd .endInValue)
  | '"' :: r => readKnown names ofName? r
  | '\x7b' :: r =>
    match dropBlanks r with
    | [] => .error (.atEnd (.endWithin .object))
    | '"' :: r => do
      let (a, r) ← readKnown names ofName? r
      let r ← readColon r
      let r ← readNull r
      match dropBlanks r with
      | [] => throw (.atEnd (.endWithin .object))
      | '\x7d' :: r => return (a, r)
      | r => throw (.before r .expectedValue)
    | '\x7d' :: r => .error (.past ('\x7d' :: r) .expectedValue)
    | r => .error (.past r .expectedKey)
  | r => .error (.past r .expectedValue)

/-- Reads a whole text: blanks may follow the value, and nothing else. -/
def readDocument {α : Type} (read : List Char → Except Failure (α × List Char)) (text : String) :
    Except Problem α :=
  let whole : Except Failure α := do
    let (a, rest) ← read text.toList
    let rest := dropBlanks rest
    if rest = [] then return a else throw (.past rest .trailingCharacters)
  whole.mapError (Problem.ofFailure text.toList)

/-- What follows an optional string is shorter than the text. -/
theorem length_lt_of_readOptional {s : List Char} {p : Option String × List Char}
    (h : readOptional s = .ok p) : p.2.length < s.length := by
  unfold readOptional at h
  split at h
  · cases h
  · next t hs =>
    have h1 := length_lt_of_dropBlanks hs
    cases hw : readWord ['u', 'l', 'l'] t with
    | error e => simp [hw, Except.map] at h
    | ok r =>
      have h2 := length_le_of_readWord hw
      simp only [hw, Except.map, Except.ok.injEq] at h
      rw [← h]
      exact Nat.lt_of_le_of_lt h2 h1
  · next t hs =>
    have h1 := length_lt_of_dropBlanks hs
    cases hw : readString .kept t with
    | error e => simp [hw, Except.map] at h
    | ok r =>
      have h2 := length_lt_of_readString hw
      simp only [hw, Except.map, Except.ok.injEq] at h
      rw [← h]
      exact Nat.lt_trans h2 h1
  · cases h

end Json

end BuildDiagnostics
