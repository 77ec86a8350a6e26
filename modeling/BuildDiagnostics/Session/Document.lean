import BuildDiagnostics.Json.Expect
/-!
# Session documents

A line of a session stream describes the state in which the build ended:
a JSON object whose member `error` is the text of an error, or null, or
absent. Other members may hold anything and are skipped, but `error` may
stand only once. An array of at most one item is read as the object with
that item as its `error`.
-/


namespace BuildDiagnostics

namespace Session

open Json

/-- The key of the error text. -/
def errorKey : String := "error"

/-- A key that stands twice. An object that ends right after it is read to
its end. -/
def duplicate (r : List Char) : Failure :=
  match dropBlanks r with
  | '\x7d' :: r => .before r (.duplicateKey errorKey)
  | r => .before r (.duplicateKey errorKey)

/-- The value of a member: the error text if the key is `error`, and else
what was found before. -/
def readMemberValue (isError : Bool) (found : Option (Option String)) (s : List Char) :
    Except Failure (Option (Option String) × List Char) :=
  if isError then (readOptional s).map fun p => (some p.1, p.2)
  else (skipValue [] s).map fun r => (found, r)

/-- What follows the value of a member is shorter than the text. -/
theorem length_lt_of_readMemberValue {isError : Bool} {found : Option (Option String)}
    {s : List Char} {p : Option (Option String) × List Char}
    (h : readMemberValue isError found s = .ok p) : p.2.length < s.length := by
  unfold readMemberValue at h
  split at h
  · cases hr : readOptional s with
    | error e => simp [hr, Except.map] at h
    | ok q =>
      simp only [hr, Except.map, Except.ok.injEq] at h
      rw [← h]
      exact length_lt_of_readOptional hr
  · cases hr : skipValue [] s with
    | error e => simp [hr, Except.map] at h
    | ok q =>
      simp only [hr, Except.map, Except.ok.injEq] at h
      rw [← h]
      exact length_lt_of_skipValue hr

/-- The members of an object from within a first key, after its quote, to
the end of the object. `found` is the value of the error member if it stood
before. -/
def readMembers (found : Option (Option String)) (s : List Char) :
    Except Failure (Option (Option String) × List Char) :=
  match hk : readString .kept s with
  | .error e => .error e
  | .ok (key, r) =>
    let isError := String.ofList key = errorKey
    if isError ∧ found.isSome then .error (duplicate r)
    else
      match hc : readColon r with
      | .error e => .error e
      | .ok r' =>
        match hv : readMemberValue isError found r' with
        | .error e => .error e
        | .ok (found, r'') =>
          match hb : dropBlanks r'' with
          | [] => .error (.atEnd (.endWithin .object))
          | '\x7d' :: t => .ok (found, t)
          | ',' :: t =>
            match hq : dropBlanks t with
            | [] => .error (.atEnd .endInValue)
            | '"' :: u =>
              have := length_lt_of_readString hk
              have := length_lt_of_readColon hc
              have := length_lt_of_readMemberValue hv
              have := length_lt_of_dropBlanks hb
              have := length_lt_of_dropBlanks hq
              readMembers found u
            | '\x7d' :: u => .error (.past ('\x7d' :: u) .trailingComma)
            | u => .error (.past u .expectedKey)
          | t => .error (.past t (.expectedComma .object))
termination_by s.length
decreasing_by simp_all only; omega

/-- An object, after its opening brace. -/
def readObject (s : List Char) : Except Failure (Option (Option String) × List Char) :=
  match dropBlanks s with
  | [] => .error (.atEnd (.endWithin .object))
  | '\x7d' :: r => .ok (none, r)
  | '"' :: r => readMembers none r
  | r => .error (.past r .expectedKey)

/-- An array of at most one item, after its opening bracket. -/
def readArray (s : List Char) : Except Failure (Option (Option String) × List Char) :=
  match dropBlanks s with
  | [] => .error (.atEnd (.endWithin .list))
  | ']' :: r => .ok (none, r)
  | r => do
    let (value, r) ← readOptional r
    match dropBlanks r with
    | [] => throw (.atEnd (.endWithin .list))
    | ']' :: r => return (some value, r)
    | ',' :: r =>
      match dropBlanks r with
      | ']' :: r => throw (.past (']' :: r) .trailingComma)
      | r => throw (.past r .trailingCharacters)
    | r => throw (.past r .trailingCharacters)

/-- The error text of a document, at the start of a text. -/
def readTerminated (s : List Char) : Except Failure (Option String × List Char) :=
  match dropBlanks s with
  | [] => .error (.atEnd .endInValue)
  | '\x7b' :: r => (readObject r).map fun p => (p.1.join, p.2)
  | '[' :: r => (readArray r).map fun p => (p.1.join, p.2)
  | r => .error (mismatch "struct Terminated" r)

/-- The error text of a document, or what is wrong with it. -/
def decode (line : String) : Except Problem (Option String) :=
  readDocument readTerminated line

end Session

end BuildDiagnostics
