import BuildDiagnostics.Json.Number
import BuildDiagnostics.Text.CodePoint
/-!
# JSON blanks, words and strings

The readers of single tokens. Each takes its token from the start of a text
and leaves the rest, which is shorter (`length_lt_of_readString` and its
kin), so that the readers built on them come to an end. A string is read
with care, which gives its characters, or skipped, when halves of surrogate
pairs are let pass and a control character is left unread.
-/


namespace BuildDiagnostics

namespace Json

/-- A blank between tokens. -/
def isBlank (c : Char) : Bool := c == ' ' || c == '\t' || c == '\n' || c == '\r'

/-- A text without its leading blanks. -/
def dropBlanks (s : List Char) : List Char := s.dropWhile isBlank

/-- Dropping a run from the start leaves no more than there was. -/
theorem length_dropWhile_le {α : Type} (p : α → Bool) (s : List α) :
    (s.dropWhile p).length ≤ s.length :=
  (List.dropWhile_suffix p).length_le

/-- What follows the first token is shorter than the text. -/
theorem length_lt_of_dropBlanks {s r : List Char} {c : Char} (h : dropBlanks s = c :: r) :
    r.length < s.length := by
  have := length_dropWhile_le isBlank s
  rw [dropBlanks] at h
  rw [h, List.length_cons] at this
  omega

/-- Takes the rest of a word, whose first letter is read. -/
def readWord : List Char → List Char → Except Failure (List Char)
  | [], s => .ok s
  | _ :: _, [] => .error (.atEnd .endInValue)
  | w :: ws, c :: s => if c = w then readWord ws s else .error (.past (c :: s) .expectedWord)

/-- The rest after a word is no longer than the text. -/
theorem length_le_of_readWord {w s r : List Char} (h : readWord w s = .ok r) :
    r.length ≤ s.length := by
  fun_induction readWord w s with
  | case1 => cases h; exact Nat.le_refl _
  | case2 => cases h
  | case3 _ _ _ ih => exact Nat.le_succ_of_le (ih h)
  | case4 => cases h

/-- How a string is read. -/
inductive Care where
  /-- For its characters. -/
  | kept
  /-- To find its end. -/
  | skipped
deriving DecidableEq

/-- The value of four hexadecimal digits. -/
def hexValue? (a b c d : Char) : Option Nat := do
  let a ← Text.hexDigit? a
  let b ← Text.hexDigit? b
  let c ← Text.hexDigit? c
  let d ← Text.hexDigit? d
  some (((a * 16 + b) * 16 + c) * 16 + d)

/-- What is wrong where four hexadecimal digits should stand: four bytes are
read, whatever they are, or the text ends. -/
def unitFailure (s : List Char) : Failure :=
  if Text.byteSize s < 4 then .atEnd .endInString else ⟨.invalidEscape, Text.byteSize s - 4⟩

/-- A unit of 16 bits, as four hexadecimal digits. -/
def readUnit (s : List Char) : Except Failure (Nat × List Char) :=
  match s with
  | a :: b :: c :: d :: r =>
    match hexValue? a b c d with
    | some n => .ok (n, r)
    | none => .error (unitFailure s)
  | _ => .error (unitFailure s)

/-- Whether a unit is the first half of a surrogate pair. -/
def isHighSurrogate (n : Nat) : Bool := 0xd800 ≤ n && n ≤ 0xdbff

/-- Whether a unit is the second half of a surrogate pair. -/
def isLowSurrogate (n : Nat) : Bool := 0xdc00 ≤ n && n ≤ 0xdfff

/-- The character of a surrogate pair. -/
def pairChar (high low : Nat) : Char :=
  Char.ofNat ((high - 0xd800) * 0x400 + (low - 0xdc00) + 0x10000)

/-- The second half of a surrogate pair, after the first. -/
def readLowSurrogate (high : Nat) (s : List Char) : Except Failure (Char × List Char) :=
  match s with
  | [] => .error (.atEnd .endInString)
  | '\\' :: [] => .error (.atEnd .endInString)
  | '\\' :: 'u' :: r => do
    let (low, r) ← readUnit r
    if isLowSurrogate low then .ok (pairChar high low, r) else .error (.before r .loneSurrogate)
  | '\\' :: r => .error (.past r .endOfSurrogate)
  | r => .error (.past r .endOfSurrogate)

/-- The character of an escape that is a letter. -/
def shortEscape? : Char → Option Char
  | '"' => some '"'
  | '\\' => some '\\'
  | '/' => some '/'
  | 'b' => some '\x08'
  | 'f' => some '\x0c'
  | 'n' => some '\n'
  | 'r' => some '\r'
  | 't' => some '\t'
  | _ => none

/-- An escape, after its backslash. -/
def readEscape (care : Care) (s : List Char) : Except Failure (Char × List Char) :=
  match s with
  | [] => .error (.atEnd .endInString)
  | 'u' :: r => do
    let (n, r) ← readUnit r
    if care = .skipped then .ok (Char.ofNat n, r)
    else if isLowSurrogate n then .error (.before r .loneSurrogate)
    else if isHighSurrogate n then readLowSurrogate n r
    else .ok (Char.ofNat n, r)
  | c :: r =>
    match shortEscape? c with
    | some e => .ok (e, r)
    | none => .error (.past (c :: r) .invalidEscape)

/-- The rest after a unit is no longer than the text. -/
theorem length_le_of_readUnit {s r : List Char} {n : Nat} (h : readUnit s = .ok (n, r)) :
    r.length ≤ s.length := by
  unfold readUnit at h
  split at h
  · split at h
    · cases h; simp only [List.length_cons]; omega
    · cases h
  · cases h

/-- The rest after the second half of a pair is no longer than the text. -/
theorem length_le_of_readLowSurrogate {high : Nat} {s r : List Char} {c : Char}
    (h : readLowSurrogate high s = .ok (c, r)) : r.length ≤ s.length := by
  unfold readLowSurrogate at h
  split at h
  · cases h
  · cases h
  · next t =>
    cases hu : readUnit t with
    | error e => simp [hu, bind, Except.bind] at h
    | ok p =>
      have := length_le_of_readUnit hu
      simp only [hu, bind, Except.bind] at h
      split at h
      · simp only [Except.ok.injEq, Prod.mk.injEq] at h
        simp only [List.length_cons, ← h.2]
        omega
      · cases h
  · cases h
  · cases h

/-- The rest after an escape is no longer than the text. -/
theorem length_le_of_readEscape {care : Care} {s r : List Char} {c : Char}
    (h : readEscape care s = .ok (c, r)) : r.length ≤ s.length := by
  unfold readEscape at h
  split at h
  · cases h
  · next t =>
    cases hu : readUnit t with
    | error e => simp [hu, bind, Except.bind] at h
    | ok p =>
      have := length_le_of_readUnit hu
      simp only [hu, bind, Except.bind] at h
      rw [List.length_cons]
      split at h
      · cases h; omega
      · split at h
        · cases h
        · split at h
          · have := length_le_of_readLowSurrogate h; omega
          · cases h; omega
  · split at h
    · cases h; simp
    · cases h

/-- A string, after its opening quote: its characters, and what follows its
closing quote. -/
def readString (care : Care) (s : List Char) : Except Failure (List Char × List Char) :=
  match s with
  | [] => .error (.atEnd .endInString)
  | '"' :: r => .ok ([], r)
  | '\\' :: r =>
    match h : readEscape care r with
    | .error e => .error e
    | .ok (c, r') =>
      have := length_le_of_readEscape h
      (readString care r').map fun p => (c :: p.1, p.2)
  | c :: r =>
    if c < ' ' then
      .error (if care = .kept then .before r .controlCharacter else .before (c :: r) .controlCharacter)
    else (readString care r).map fun p => (c :: p.1, p.2)
termination_by s.length

/-- What follows a string is shorter than the text. -/
theorem length_lt_of_readString {care : Care} {s : List Char} {p : List Char × List Char}
    (h : readString care s = .ok p) : p.2.length < s.length := by
  fun_induction readString care s generalizing p with
  | case1 => cases h
  | case2 r => cases h; simp
  | case3 r e he => simp at h
  | case4 r c r' he hlen ih =>
    cases hr : readString care r' with
    | error e => simp [hr, Except.map] at h
    | ok q =>
      simp only [hr, Except.map, Except.ok.injEq] at h
      have := ih hr
      subst h
      simp only [List.length_cons]
      omega
  | case5 c r _ _ hc => simp at h
  | case6 c r _ _ hc ih =>
    cases hr : readString care r with
    | error e => simp [hr, Except.map] at h
    | ok q =>
      simp only [hr, Except.map, Except.ok.injEq] at h
      have := ih hr
      subst h
      simp only [List.length_cons]
      omega

end Json

end BuildDiagnostics
