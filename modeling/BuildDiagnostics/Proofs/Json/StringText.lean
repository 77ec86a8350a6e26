import BuildDiagnostics.Json.Literal
/-!
# The text of a JSON string

What may stand between the quotes of a string, and what it stands for. A
character is written as itself, as an escape of one letter, as the number
of a unit, or as the numbers of a surrogate pair (`CharAt`). Half of a
pair may also stand alone (`HalfAt`); a string with such a half is well
formed and has no text. The relations say what a list starts with and what
follows. A string is read with care just when it has a text, as that text
(`StringAt.readString_kept`), and skipped in any case
(`StringAt.readString_skipped`). So it is a string in one way only
(`StringAt.unique`).
-/


namespace BuildDiagnostics

namespace Json

variable {care : Care} {c : Char} {n : Nat} {s r : List Char}

/-! ## What stands for a character -/

/-- A unit of 16 bits, by its number. -/
def UnitAt (s : List Char) (n : Nat) (r : List Char) : Prop :=
  ∃ a b c d, s = '\\' :: 'u' :: a :: b :: c :: d :: r ∧ hexValue? a b c d = some n

/-- A character within a string, in any way it can be written. -/
inductive CharAt : List Char → Char → List Char → Prop where
  /-- It stands for itself. -/
  | plain {c : Char} {r : List Char} (hquote : c ≠ '"') (hslash : c ≠ '\\') (hc : ¬ c < ' ') :
      CharAt (c :: r) c r
  /-- A letter stands for it. -/
  | short {e c : Char} {r : List Char} (h : shortEscape? e = some c) :
      CharAt ('\\' :: e :: r) c r
  /-- The number of a unit that is no half of a pair. -/
  | unit {s r : List Char} {n : Nat} (h : UnitAt s n r) (hhigh : isHighSurrogate n = false)
      (hlow : isLowSurrogate n = false) : CharAt s (Char.ofNat n) r
  /-- The numbers of both halves of a pair. -/
  | pair {s t r : List Char} {high low : Nat} (h : UnitAt s high t) (h' : UnitAt t low r)
      (hhigh : isHighSurrogate high) (hlow : isLowSurrogate low) :
      CharAt s (pairChar high low) r

/-- Half of a surrogate pair without the other. -/
inductive HalfAt : List Char → List Char → Prop where
  /-- A second half; no first one stands before it. -/
  | low {s r : List Char} {n : Nat} (h : UnitAt s n r) (hlow : isLowSurrogate n) : HalfAt s r
  /-- A first half that no second one follows. -/
  | high {s r : List Char} {n : Nat} (h : UnitAt s n r) (hhigh : isHighSurrogate n)
      (hnext : ∀ m t, UnitAt r m t → isLowSurrogate m = false) : HalfAt s r

/-- A string from within its quotes, up to the closing one; its text is
absent when there is half of a pair alone. -/
inductive StringAt : List Char → Option (List Char) → List Char → Prop where
  /-- The closing quote. -/
  | close {r : List Char} : StringAt ('"' :: r) (some []) r
  /-- A character. -/
  | char {s t r : List Char} {c : Char} {text : Option (List Char)} (h : CharAt s c t)
      (hs : StringAt t text r) : StringAt s (text.map (c :: ·)) r
  /-- Half of a pair. -/
  | half {s t r : List Char} {text : Option (List Char)} (h : HalfAt s t)
      (hs : StringAt t text r) : StringAt s none r

/-! ## Reading an escape -/

/-- An escape within a string is read as its character. -/
theorem readString_of_readEscape (h : readEscape care s = .ok (c, r)) :
    readString care ('\\' :: s) = (readString care r).map fun p => (c :: p.1, p.2) := by
  rw [readString]
  split
  · next e he =>
    rw [h] at he
    cases he
  · next d rest' he =>
    rw [h] at he
    cases he
    rfl

/-- What is wrong with an escape is wrong with its string. -/
theorem readString_of_readEscape_error {e : Failure} (h : readEscape care s = .error e) :
    readString care ('\\' :: s) = .error e := by
  rw [readString]
  split
  · next e' he =>
    rw [h] at he
    cases he
    rfl
  · next d rest' he =>
    rw [h] at he
    cases he

/-- A letter that stands for a character. -/
theorem readEscape_of_short {e : Char} (h : shortEscape? e = some c) (r : List Char) :
    readEscape care (e :: r) = .ok (c, r) := by
  have hu : e ≠ 'u' := by
    rintro rfl
    cases h
  rw [readEscape.eq_def]
  split
  · next he => cases he
  · next he => exact absurd (List.cons.inj he).1 hu
  · next he =>
    obtain ⟨rfl, rfl⟩ := List.cons.inj he
    rw [h]

/-- A character that needs no escape is read as itself. -/
theorem readString_cons (hquote : c ≠ '"') (hslash : c ≠ '\\') (hc : ¬ c < ' ') :
    readString care (c :: r) = (readString care r).map fun p => (c :: p.1, p.2) := by
  rw [readString, if_neg hc]
  · exact hquote
  · exact hslash

/-- A unit that is skipped is not looked at. -/
theorem UnitAt.readString_skipped (h : UnitAt s n r) :
    readString .skipped s = (readString .skipped r).map fun p => (Char.ofNat n :: p.1, p.2) := by
  obtain ⟨a, b, c, d, rfl, hn⟩ := h
  refine readString_of_readEscape ?_
  simp only [readEscape, readUnit, hn, bind, Except.bind, if_pos]

/-- Read with care, a unit is half of a pair or a character. -/
theorem UnitAt.readEscape_kept (h : UnitAt s n r) :
    ∃ t, s = '\\' :: t ∧ readEscape .kept t =
      if isLowSurrogate n then .error (.before r .loneSurrogate)
      else if isHighSurrogate n then readLowSurrogate n r
      else .ok (Char.ofNat n, r) := by
  obtain ⟨a, b, c, d, rfl, hn⟩ := h
  refine ⟨_, rfl, ?_⟩
  simp only [readEscape, readUnit, hn, bind, Except.bind, reduceCtorEq, if_false]

/-- A first half is no second half. -/
theorem isLowSurrogate_of_isHighSurrogate (h : isHighSurrogate n) : isLowSurrogate n = false := by
  simp only [isHighSurrogate, Bool.and_eq_true, decide_eq_true_eq] at h
  simp only [isLowSurrogate, Bool.and_eq_false_iff, decide_eq_false_iff_not]
  omega

/-- The second half of a pair is read after the first. -/
theorem readLowSurrogate_of_unitAt {high : Nat} (h : UnitAt s n r) (hlow : isLowSurrogate n) :
    readLowSurrogate high s = .ok (pairChar high n, r) := by
  obtain ⟨a, b, c, d, rfl, hn⟩ := h
  simp only [readLowSurrogate, readUnit, hn, bind, Except.bind, if_pos hlow]

/-- What is read as a unit is one. -/
theorem unitAt_of_readUnit (h : readUnit s = .ok (n, r)) : UnitAt ('\\' :: 'u' :: s) n r := by
  rw [readUnit.eq_def] at h
  split at h
  · next a b c d t =>
    cases hn : hexValue? a b c d with
    | none =>
      rw [hn] at h
      cases h
    | some m =>
      rw [hn] at h
      cases h
      exact ⟨a, b, c, d, rfl, hn⟩
  · cases h

/-- Without a second half there is no pair. -/
theorem readLowSurrogate_eq_error (high : Nat)
    (h : ∀ m t, UnitAt s m t → isLowSurrogate m = false) :
    ∃ e, readLowSurrogate high s = .error e := by
  rw [readLowSurrogate.eq_def]
  split
  · exact ⟨_, rfl⟩
  · exact ⟨_, rfl⟩
  · next t =>
    cases hu : readUnit t with
    | error e => exact ⟨e, rfl⟩
    | ok p =>
      have hlow := h _ _ (unitAt_of_readUnit hu)
      exact ⟨.before p.2 .loneSurrogate, by simp only [bind, Except.bind, hlow]; rfl⟩
  · exact ⟨_, rfl⟩
  · exact ⟨_, rfl⟩

/-! ## Reading a string -/

/-- **A character is read as itself**, however it is written. -/
theorem CharAt.readString_kept (h : CharAt s c r) :
    readString .kept s = (readString .kept r).map fun p => (c :: p.1, p.2) := by
  cases h with
  | plain hquote hslash hc => exact readString_cons hquote hslash hc
  | short h => exact readString_of_readEscape (readEscape_of_short h r)
  | unit h hhigh hlow =>
    obtain ⟨t, rfl, ht⟩ := h.readEscape_kept
    rw [hlow, hhigh] at ht
    exact readString_of_readEscape ht
  | pair h h' hhigh hlow =>
    obtain ⟨t, rfl, ht⟩ := h.readEscape_kept
    rw [isLowSurrogate_of_isHighSurrogate hhigh, hhigh,
      readLowSurrogate_of_unitAt h' hlow] at ht
    exact readString_of_readEscape ht

/-- Half of a pair is refused. -/
theorem HalfAt.readString_kept (h : HalfAt s r) : ∃ e, readString .kept s = .error e := by
  cases h with
  | low h hlow =>
    obtain ⟨t, rfl, ht⟩ := h.readEscape_kept
    rw [hlow] at ht
    exact ⟨_, readString_of_readEscape_error ht⟩
  | high h hhigh hnext =>
    obtain ⟨t, rfl, ht⟩ := h.readEscape_kept
    obtain ⟨e, he⟩ := readLowSurrogate_eq_error _ hnext
    rw [isLowSurrogate_of_isHighSurrogate hhigh, hhigh, he] at ht
    exact ⟨e, readString_of_readEscape_error ht⟩

/-- **A string with a text is read as that text.** -/
theorem StringAt.readString_kept {text : Option (List Char)} (h : StringAt s text r) :
    match text with
    | some cs => readString .kept s = .ok (cs, r)
    | none => ∃ e, readString .kept s = .error e := by
  induction h with
  | close => rw [readString]
  | @char s t r c text h hs ih =>
    cases text with
    | some cs =>
      simp only at ih
      simp only [Option.map_some, h.readString_kept, ih, Except.map]
    | none =>
      obtain ⟨e, he⟩ := ih
      exact ⟨e, by rw [h.readString_kept, he]; rfl⟩
  | half h hs ih => exact h.readString_kept

/-- A character that is skipped leaves what follows it. -/
theorem CharAt.readString_skipped (h : CharAt s c r) :
    ∃ cs, readString .skipped s = (readString .skipped r).map fun p => (cs ++ p.1, p.2) := by
  cases h with
  | plain hquote hslash hc => exact ⟨[c], readString_cons hquote hslash hc⟩
  | short h => exact ⟨[c], readString_of_readEscape (readEscape_of_short h r)⟩
  | unit h hhigh hlow => exact ⟨[_], h.readString_skipped⟩
  | @pair _ _ _ high low h h' hhigh hlow =>
    refine ⟨[Char.ofNat high, Char.ofNat low], ?_⟩
    rw [h.readString_skipped, h'.readString_skipped]
    cases readString .skipped r with
    | error e => rfl
    | ok p => rfl

/-- **A string is skipped as a whole**, with or without a text. -/
theorem StringAt.readString_skipped {text : Option (List Char)} (h : StringAt s text r) :
    ∃ cs, readString .skipped s = .ok (cs, r) := by
  induction h with
  | close => exact ⟨[], by rw [readString]⟩
  | char h hs ih =>
    obtain ⟨cs, hcs⟩ := ih
    obtain ⟨ds, hds⟩ := h.readString_skipped
    exact ⟨ds ++ cs, by rw [hds, hcs]; rfl⟩
  | half h hs ih =>
    obtain ⟨cs, hcs⟩ := ih
    cases h with
    | low h hlow => exact ⟨_ :: cs, by rw [h.readString_skipped, hcs]; rfl⟩
    | high h hhigh hnext => exact ⟨_ :: cs, by rw [h.readString_skipped, hcs]; rfl⟩

/-- **A string is one in one way only.** -/
theorem StringAt.unique {text text' : Option (List Char)} {r' : List Char}
    (h : StringAt s text r) (h' : StringAt s text' r') : text = text' ∧ r = r' := by
  constructor
  · have hkept := h.readString_kept
    have hkept' := h'.readString_kept
    cases text with
    | none =>
      cases text' with
      | none => rfl
      | some cs' =>
        obtain ⟨e, he⟩ := hkept
        rw [hkept'] at he
        cases he
    | some cs =>
      simp only at hkept
      cases text' with
      | none =>
        obtain ⟨e, he⟩ := hkept'
        rw [hkept] at he
        cases he
      | some cs' =>
        rw [hkept] at hkept'
        cases hkept'
        rfl
  · obtain ⟨cs, hcs⟩ := h.readString_skipped
    obtain ⟨cs', hcs'⟩ := h'.readString_skipped
    rw [hcs] at hcs'
    cases hcs'
    rfl

end Json

end BuildDiagnostics
