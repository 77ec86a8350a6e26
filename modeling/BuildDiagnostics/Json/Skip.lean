import BuildDiagnostics.Json.Literal
/-!
# Skipping a JSON value

A member that nobody asks for is read to its end and forgotten. The
brackets that are open are kept in a list, innermost first, and each step
reads one token: `skipValue` where a value should start, `skipAfter` where
one has ended. Every step shortens the text, so there is no limit to the
nesting. A number is checked for its form and not for its size.
-/


namespace BuildDiagnostics

namespace Json

/-- The rest after the digits before the point is shorter than the text. -/
theorem Numeral.length_lt_of_scanWhole {ended : Reason} {s r ds : List Char}
    (h : scanWhole ended s = .ok (ds, r)) : r.length < s.length := by
  unfold scanWhole at h
  split at h
  · cases h
  · split at h
    · split at h
      · cases h
      · cases h; simp
    · cases h; simp
  · next c t _ =>
    split at h
    · next hd =>
      simp only [digits, Except.ok.injEq, Prod.mk.injEq] at h
      rw [← h.2, List.dropWhile_cons_of_pos hd]
      exact Nat.lt_succ_of_le (length_dropWhile_le _ t)
    · cases h

/-- The rest after a fraction is no longer than the text. -/
theorem Numeral.length_le_of_scanFraction {ended : Reason} {s r : List Char}
    {f : Option (List Char)} (h : scanFraction ended s = .ok (f, r)) :
    r.length ≤ s.length := by
  unfold scanFraction at h
  split at h
  · next t =>
    have := length_dropWhile_le Char.isDigit t
    simp only [digits] at h
    split at h
    · cases h
    · cases h
    · next hd =>
      simp only [Prod.mk.injEq] at hd
      cases h
      rw [List.length_cons, ← hd.2]
      omega
  · cases h; exact Nat.le_refl _

/-- The rest after the sign of an exponent is no longer than the text. -/
theorem Numeral.length_le_of_scanSign (s : List Char) : (scanSign s).2.length ≤ s.length := by
  unfold scanSign
  split <;> simp

/-- The rest after an exponent is no longer than the text. -/
theorem Numeral.length_le_of_scanExponent {ended : Reason} {s r : List Char}
    {e : Option (Bool × List Char)} (h : scanExponent ended s = .ok (e, r)) :
    r.length ≤ s.length := by
  unfold scanExponent at h
  split at h
  · cases h; exact Nat.le_refl _
  · next c t =>
    split at h
    · have h1 := length_le_of_scanSign t
      have h2 := length_dropWhile_le Char.isDigit (scanSign t).2
      simp only [digits] at h
      split at h
      · cases h
      · cases h
      · next hd =>
        simp only [Prod.mk.injEq] at hd
        cases h
        rw [List.length_cons, ← hd.2]
        omega
    · cases h; exact Nat.le_refl _

/-- The rest after a number is shorter than the text. -/
theorem Numeral.length_lt_of_scan {ended : Reason} {s r : List Char} {n : Numeral}
    (h : scan ended s = .ok (n, r)) : r.length < s.length := by
  simp only [scan, bind, Except.bind] at h
  split at h
  · cases h
  · next p hw =>
    split at h
    · cases h
    · next q hf =>
      split at h
      · cases h
      · next x he =>
        have h1 := length_lt_of_scanWhole hw
        have h2 := length_le_of_scanFraction hf
        have h3 := length_le_of_scanExponent he
        simp only [pure, Except.pure, Except.ok.injEq, Prod.mk.injEq] at h
        rw [← h.2]
        have h4 : (if s.head? = some '-' then s.tail else s).length ≤ s.length := by
          split <;> simp
        omega

/-- Skips a value without parts. -/
def skipScalar (s : List Char) : Except Failure (List Char) :=
  match s with
  | 'n' :: r => readWord ['u', 'l', 'l'] r
  | 't' :: r => readWord ['r', 'u', 'e'] r
  | 'f' :: r => readWord ['a', 'l', 's', 'e'] r
  | '"' :: r => (readString .skipped r).map Prod.snd
  | s =>
    if s.head?.any fun c => c == '-' || c.isDigit then
      (Numeral.scan .invalidNumber s).map Prod.snd
    else .error (.past s .expectedValue)

/-- What follows a value without parts is shorter than the text. -/
theorem length_lt_of_skipScalar {s r : List Char} (h : skipScalar s = .ok r) :
    r.length < s.length := by
  unfold skipScalar at h
  split at h
  · exact Nat.lt_succ_of_le (length_le_of_readWord h)
  · exact Nat.lt_succ_of_le (length_le_of_readWord h)
  · exact Nat.lt_succ_of_le (length_le_of_readWord h)
  · next t =>
    cases hr : readString .skipped t with
    | error e => simp [hr, Except.map] at h
    | ok p =>
      simp only [hr, Except.map, Except.ok.injEq] at h
      have := length_lt_of_readString hr
      rw [← h, List.length_cons]
      omega
  · split at h
    · cases hr : Numeral.scan .invalidNumber s with
      | error e => simp [hr, Except.map] at h
      | ok p =>
        simp only [hr, Except.map, Except.ok.injEq] at h
        rw [← h]
        exact Numeral.length_lt_of_scan hr
    · cases h

/-- The colon after a key. -/
def readColon (s : List Char) : Except Failure (List Char) :=
  match dropBlanks s with
  | [] => .error (.atEnd (.endWithin .object))
  | ':' :: r => .ok r
  | r => .error (.past r .expectedColon)

/-- What follows a colon is shorter than the text. -/
theorem length_lt_of_readColon {s r : List Char} (h : readColon s = .ok r) :
    r.length < s.length := by
  unfold readColon at h
  split at h
  · cases h
  · next hs => cases h; exact length_lt_of_dropBlanks hs
  · cases h

/-- Skips a key and its colon. -/
def skipKey (s : List Char) : Except Failure (List Char) :=
  match dropBlanks s with
  | [] => .error (.atEnd (.endWithin .object))
  | '"' :: r => (readString .skipped r).bind fun p => readColon p.2
  | r => .error (.past r .expectedKey)

/-- What follows a key and its colon is shorter than the text. -/
theorem length_lt_of_skipKey {s r : List Char} (h : skipKey s = .ok r) :
    r.length < s.length := by
  unfold skipKey at h
  split at h
  · cases h
  · next t hs =>
    cases hr : readString .skipped t with
    | error e => simp [hr, Except.bind] at h
    | ok p =>
      simp only [hr, Except.bind] at h
      have h1 := length_lt_of_dropBlanks hs
      have h2 := length_lt_of_readString hr
      have h3 := length_lt_of_readColon h
      omega
  · cases h

mutual

/-- Skips a value and then what its open brackets need. -/
def skipValue (opened : List Bracket) (s : List Char) : Except Failure (List Char) :=
  match h : dropBlanks s with
  | [] => .error (.atEnd .endInValue)
  | '[' :: r =>
    have := length_lt_of_dropBlanks h
    match h' : dropBlanks r with
    | [] => .error (.atEnd (.endWithin .list))
    | ']' :: r' =>
      have := length_lt_of_dropBlanks h'
      skipAfter opened r'
    | _ :: _ => skipValue (.list :: opened) r
  | '\x7b' :: r =>
    have := length_lt_of_dropBlanks h
    match h' : dropBlanks r with
    | [] => .error (.atEnd (.endWithin .object))
    | '\x7d' :: r' =>
      have := length_lt_of_dropBlanks h'
      skipAfter opened r'
    | _ :: _ =>
      match hk : skipKey r with
      | .error e => .error e
      | .ok r' =>
        have := length_lt_of_skipKey hk
        skipValue (.object :: opened) r'
  | c :: r =>
    match hs : skipScalar (c :: r) with
    | .error e => .error e
    | .ok r' =>
      have := length_lt_of_dropBlanks h
      have : r'.length < r.length + 1 := length_lt_of_skipScalar hs
      skipAfter opened r'
termination_by s.length
decreasing_by all_goals omega

/-- Skips what the open brackets need after a value. -/
def skipAfter (opened : List Bracket) (s : List Char) : Except Failure (List Char) :=
  match opened with
  | [] => .ok s
  | .list :: outer =>
    match h : dropBlanks s with
    | [] => .error (.atEnd (.endWithin .list))
    | ',' :: r =>
      have := length_lt_of_dropBlanks h
      skipValue (.list :: outer) r
    | ']' :: r =>
      have := length_lt_of_dropBlanks h
      skipAfter outer r
    | r => .error (.past r (.expectedComma .list))
  | .object :: outer =>
    match h : dropBlanks s with
    | [] => .error (.atEnd (.endWithin .object))
    | ',' :: r =>
      match hk : skipKey r with
      | .error e => .error e
      | .ok r' =>
        have := length_lt_of_dropBlanks h
        have := length_lt_of_skipKey hk
        skipValue (.object :: outer) r'
    | '\x7d' :: r =>
      have := length_lt_of_dropBlanks h
      skipAfter outer r
    | r => .error (.past r (.expectedComma .object))
termination_by s.length
decreasing_by all_goals omega

end

mutual

/-- What follows a skipped value is shorter than the text. -/
theorem length_lt_of_skipValue {opened : List Bracket} {s r : List Char}
    (h : skipValue opened s = .ok r) : r.length < s.length := by
  rw [skipValue] at h
  split at h
  · cases h
  · next hs =>
    have h1 := length_lt_of_dropBlanks hs
    simp only at h
    split at h
    · cases h
    · next hs' =>
      have h2 := length_lt_of_dropBlanks hs'
      have h3 := length_le_of_skipAfter h
      omega
    · have h2 := length_lt_of_skipValue h
      omega
  · next hs =>
    have h1 := length_lt_of_dropBlanks hs
    simp only at h
    split at h
    · cases h
    · next hs' =>
      have h2 := length_lt_of_dropBlanks hs'
      have h3 := length_le_of_skipAfter h
      omega
    · split at h
      · cases h
      · next hk =>
        have h2 := length_lt_of_skipKey hk
        have h3 := length_lt_of_skipValue h
        omega
  · next c t _ _ hs =>
    have h1 := length_lt_of_dropBlanks hs
    split at h
    · cases h
    · next r' hr =>
      have h2 : r'.length < t.length + 1 := length_lt_of_skipScalar hr
      have h3 := length_le_of_skipAfter h
      omega
termination_by s.length

/-- What the open brackets leave is no longer than the text. -/
theorem length_le_of_skipAfter {opened : List Bracket} {s r : List Char}
    (h : skipAfter opened s = .ok r) : r.length ≤ s.length := by
  rw [skipAfter.eq_def] at h
  split at h
  · cases h; exact Nat.le_refl _
  · split at h
    · cases h
    · next hs =>
      have h1 := length_lt_of_dropBlanks hs
      have h2 := length_lt_of_skipValue h
      omega
    · next hs =>
      have h1 := length_lt_of_dropBlanks hs
      have h2 := length_le_of_skipAfter h
      omega
    · cases h
  · split at h
    · cases h
    · next hs =>
      split at h
      · cases h
      · next hk =>
        have h1 := length_lt_of_dropBlanks hs
        have h2 := length_lt_of_skipKey hk
        have h3 := length_lt_of_skipValue h
        omega
    · next hs =>
      have h1 := length_lt_of_dropBlanks hs
      have h2 := length_le_of_skipAfter h
      omega
    · cases h
termination_by s.length

end

end Json

end BuildDiagnostics
