import BuildDiagnostics.Json.Number
import BuildDiagnostics.Proofs.Location.Token
/-!
# The text of a JSON number

How a number may be written: a sign, one zero or digits that do not start
with zero, and then a fraction and an exponent if need be. The relations
say what a list starts with and what follows. What follows must not go on
with the number (`goesOn`), and then the number is read as it is written
(`NumberAt.scan_eq_ok`), whatever it is read for. The digits of a natural
number are a number without sign, fraction and exponent
(`numberAt_toDigits`).
-/


namespace BuildDiagnostics

namespace Json

namespace Numeral

open Text (StartsOutside startsOutside_cons)

variable {ended : Reason} {n : Numeral} {s t r ds : List Char}

/-! ## How a number is written -/

/-- One digit or more. -/
structure DigitsAt (s ds r : List Char) : Prop where
  /-- They are what the text starts with. -/
  append : s = ds ++ r
  /-- There is one. -/
  ne_nil : ds ≠ []
  /-- There are no others. -/
  isDigit : ∀ c ∈ ds, c.isDigit

/-- The digits before the point. -/
inductive WholeAt : List Char → List Char → List Char → Prop where
  /-- One zero. -/
  | zero {r : List Char} : WholeAt ('0' :: r) ['0'] r
  /-- Digits that do not start with zero. -/
  | run {s ds r : List Char} (h : DigitsAt s ds r) (hzero : ds.head? ≠ some '0') : WholeAt s ds r

/-- The point and the digits after it, or neither. -/
inductive FractionAt : List Char → Option (List Char) → List Char → Prop where
  /-- No fraction. -/
  | none {r : List Char} : FractionAt r none r
  /-- A point and digits. -/
  | some {s ds r : List Char} (h : DigitsAt s ds r) : FractionAt ('.' :: s) (some ds) r

/-- The sign of an exponent, by whether it is a minus. -/
inductive SignAt : List Char → Bool → List Char → Prop where
  /-- No sign. -/
  | none {r : List Char} : SignAt r false r
  /-- A plus. -/
  | plus {r : List Char} : SignAt ('+' :: r) false r
  /-- A minus. -/
  | minus {r : List Char} : SignAt ('-' :: r) true r

/-- An exponent or none. -/
inductive ExponentAt : List Char → Option (Bool × List Char) → List Char → Prop where
  /-- No exponent. -/
  | none {r : List Char} : ExponentAt r none r
  /-- A letter, a sign and digits. -/
  | some {e : Char} {negative : Bool} {s t ds r : List Char} (he : e = 'e' ∨ e = 'E')
      (hsign : SignAt s negative t) (h : DigitsAt t ds r) :
      ExponentAt (e :: s) (some (negative, ds)) r

/-- A number. -/
inductive NumberAt : List Char → Numeral → List Char → Prop where
  /-- One without a minus. -/
  | positive {whole : List Char} {fraction : Option (List Char)}
      {exponent : Option (Bool × List Char)} {s t u r : List Char} (hw : WholeAt s whole t)
      (hf : FractionAt t fraction u) (he : ExponentAt u exponent r) :
      NumberAt s ⟨false, whole, fraction, exponent⟩ r
  /-- One with a minus. -/
  | negative {whole : List Char} {fraction : Option (List Char)}
      {exponent : Option (Bool × List Char)} {s t u r : List Char} (hw : WholeAt s whole t)
      (hf : FractionAt t fraction u) (he : ExponentAt u exponent r) :
      NumberAt ('-' :: s) ⟨true, whole, fraction, exponent⟩ r

/-- A character that a number may go on with. -/
def goesOn (c : Char) : Bool := c.isDigit || c == '.' || c == 'e' || c == 'E'

/-! ## What a number starts with -/

/-- A digit is none of the signs and letters of a number. -/
theorem ne_of_isDigit {c d : Char} (hc : c.isDigit) (hd : d.isDigit = false) : c ≠ d := by
  rintro rfl
  rw [hd] at hc
  cases hc

/-- So none of the other characters that start a value starts a number. -/
theorem ne_of_startsNumber {c d : Char} (hc : c = '-' ∨ c.isDigit) (hminus : d ≠ '-')
    (hd : d.isDigit = false) : c ≠ d := by
  rcases hc with rfl | hc
  · exact hminus.symm
  · exact ne_of_isDigit hc hd

theorem DigitsAt.exists_cons (h : DigitsAt s ds r) : ∃ c t, s = c :: t ∧ c.isDigit := by
  obtain ⟨c, cs, rfl⟩ := List.exists_cons_of_ne_nil h.ne_nil
  exact ⟨c, cs ++ r, h.append, h.isDigit c List.mem_cons_self⟩

theorem WholeAt.exists_cons (h : WholeAt s ds r) : ∃ c t, s = c :: t ∧ c.isDigit := by
  cases h with
  | zero => exact ⟨'0', r, rfl, by decide⟩
  | run h hzero => exact h.exists_cons

/-- A number starts with its sign or with a digit. -/
theorem NumberAt.exists_cons (h : NumberAt s n r) :
    ∃ c t, s = c :: t ∧ (c = '-' ∨ c.isDigit) := by
  cases h with
  | positive hw hf he =>
    obtain ⟨c, t, hs, hc⟩ := hw.exists_cons
    exact ⟨c, t, hs, .inr hc⟩
  | negative hw hf he => exact ⟨'-', _, rfl, .inl rfl⟩

/-- Where the exponent may stand there is no digit and no point. -/
theorem ExponentAt.startsOutside {e : Option (Bool × List Char)} (h : ExponentAt s e r)
    (hr : StartsOutside goesOn r) : StartsOutside (fun c => c.isDigit || c == '.') s := by
  cases h with
  | none =>
    refine hr.mono fun c hc => ?_
    rw [goesOn, hc, Bool.true_or, Bool.true_or]
  | some he hsign h =>
    rcases he with rfl | rfl
    · exact startsOutside_cons.2 (by decide)
    · exact startsOutside_cons.2 (by decide)

/-- Where the fraction may stand there is no digit. -/
theorem FractionAt.startsOutside {f : Option (List Char)} (h : FractionAt s f r)
    (hr : StartsOutside (fun c => c.isDigit || c == '.') r) : StartsOutside Char.isDigit s := by
  cases h with
  | none => exact hr.mono fun c hc => by rw [hc, Bool.true_or]
  | some h => exact startsOutside_cons.2 (by decide)

/-! ## Reading it -/

/-- Digits are read to the last. -/
theorem DigitsAt.digits_eq (h : DigitsAt s ds r) (hr : StartsOutside Char.isDigit r) :
    digits s = (ds, r) := by
  obtain ⟨htake, hdrop⟩ := Text.takeWhile_and_dropWhile_iff.2 ⟨h.append, h.isDigit, hr⟩
  rw [digits, htake, hdrop]

theorem WholeAt.scanWhole_eq_ok (h : WholeAt s ds r) (hr : StartsOutside Char.isDigit r) :
    scanWhole ended s = .ok (ds, r) := by
  cases h with
  | zero =>
    cases r with
    | nil => rfl
    | cons c cs =>
      have hc : ¬ c.isDigit = true := Bool.eq_false_iff.1 (startsOutside_cons.1 hr)
      simp only [scanWhole, if_neg hc]
  | run h hzero =>
    obtain ⟨c, cs, rfl⟩ := List.exists_cons_of_ne_nil h.ne_nil
    have hs : s = c :: (cs ++ r) := h.append
    have hc : c ≠ '0' := fun hc => hzero (by rw [hc, List.head?_cons])
    rw [hs, scanWhole, if_pos (h.isDigit c List.mem_cons_self), ← hs, h.digits_eq hr]
    exact hc

theorem FractionAt.scanFraction_eq_ok {f : Option (List Char)} (h : FractionAt s f r)
    (hr : StartsOutside (fun c => c.isDigit || c == '.') r) :
    scanFraction ended s = .ok (f, r) := by
  cases h with
  | none =>
    rw [scanFraction.eq_def]
    split
    · exact absurd (startsOutside_cons.1 hr) (by decide)
    · rfl
  | @some s ds r h =>
    have hdigits := h.digits_eq (hr.mono fun c hc => by rw [hc, Bool.true_or])
    obtain ⟨c, cs, rfl⟩ := List.exists_cons_of_ne_nil h.ne_nil
    simp only [scanFraction, hdigits]

theorem SignAt.scanSign_eq {negative : Bool} (h : SignAt s negative t) (ht : DigitsAt t ds r) :
    scanSign s = (negative, t) := by
  cases h with
  | none =>
    obtain ⟨c, cs, rfl, hc⟩ := ht.exists_cons
    have hplus : c ≠ '+' := ne_of_isDigit hc (by decide)
    have hminus : c ≠ '-' := ne_of_isDigit hc (by decide)
    rw [scanSign]
    · exact fun t ht => hplus (List.cons.inj ht).1
    · exact fun t ht => hminus (List.cons.inj ht).1
  | plus => rfl
  | minus => rfl

theorem ExponentAt.scanExponent_eq_ok {e : Option (Bool × List Char)} (h : ExponentAt s e r)
    (hr : StartsOutside goesOn r) : scanExponent ended s = .ok (e, r) := by
  cases h with
  | none =>
    rw [scanExponent.eq_def]
    split
    · rfl
    · next c t =>
      have hc : ¬ (c = 'e' ∨ c = 'E') := by
        rintro (rfl | rfl)
        · exact absurd (startsOutside_cons.1 hr) (by decide)
        · exact absurd (startsOutside_cons.1 hr) (by decide)
      rw [if_neg hc]
  | some he hsign h =>
    have hdigits := h.digits_eq
      (hr.mono fun c hc => by rw [goesOn, hc, Bool.true_or, Bool.true_or, Bool.true_or])
    have hs := hsign.scanSign_eq h
    obtain ⟨c, cs, rfl⟩ := List.exists_cons_of_ne_nil h.ne_nil
    simp only [scanExponent, if_pos he, hs, hdigits]

/-- The parts after the sign are read one after the other. -/
theorem scan_parts_eq_ok (ended : Reason) {whole : List Char} {fraction : Option (List Char)}
    {exponent : Option (Bool × List Char)} {u : List Char} (hw : WholeAt s whole t)
    (hf : FractionAt t fraction u) (he : ExponentAt u exponent r) (hr : StartsOutside goesOn r) :
    scanWhole ended s = .ok (whole, t) ∧ scanFraction ended t = .ok (fraction, u) ∧
      scanExponent ended u = .ok (exponent, r) := by
  -- each part ends where the next may start
  have hu := he.startsOutside hr
  exact ⟨hw.scanWhole_eq_ok (hf.startsOutside hu), hf.scanFraction_eq_ok hu,
    he.scanExponent_eq_ok hr⟩

/-- **A number is read as it is written** when nothing goes on with it. -/
theorem NumberAt.scan_eq_ok (h : NumberAt s n r) (hr : StartsOutside goesOn r) :
    scan ended s = .ok (n, r) := by
  cases h with
  | positive hw hf he =>
    obtain ⟨hwhole, hfraction, hexponent⟩ := scan_parts_eq_ok ended hw hf he hr
    obtain ⟨c, t, rfl, hc⟩ := hw.exists_cons
    have hminus : ¬ (c :: t).head? = some '-' := fun h =>
      ne_of_isDigit hc (by decide) (Option.some.inj h)
    simp only [scan, hminus, if_false, decide_false, hwhole, hfraction, hexponent, bind,
      Except.bind, pure, Except.pure]
  | negative hw hf he =>
    obtain ⟨hwhole, hfraction, hexponent⟩ := scan_parts_eq_ok ended hw hf he hr
    simp only [scan, List.head?_cons, List.tail_cons, if_true, decide_true, hwhole, hfraction,
      hexponent, bind, Except.bind, pure, Except.pure]

/-- **A number is one in one way only.** -/
theorem NumberAt.unique {n' : Numeral} {r' : List Char} (h : NumberAt s n r)
    (h' : NumberAt s n' r') (hr : StartsOutside goesOn r) (hr' : StartsOutside goesOn r') :
    n = n' ∧ r = r' := by
  have hscan : scan .invalidNumber s = .ok (n, r) := h.scan_eq_ok hr
  rw [h'.scan_eq_ok hr'] at hscan
  cases hscan
  exact ⟨rfl, rfl⟩

/-! ## The digits of a natural number -/

/-- The digits of a natural number are the whole of a number. -/
theorem wholeAt_toDigits (n : Nat) (r : List Char) :
    WholeAt (Nat.toDigits 10 n ++ r) (Nat.toDigits 10 n) r := by
  rcases Nat.eq_zero_or_pos n with rfl | hn
  · exact .zero
  · have hdigits : ∀ c ∈ Nat.toDigits 10 n, c.isDigit := fun c hc =>
      Nat.isDigit_of_mem_toDigits (by decide) (by decide) hc
    exact .run ⟨rfl, Nat.toDigits_ne_nil, hdigits⟩ (Ordinal.head?_toDigits_ne n hn)

/-- **The digits of a natural number are a number.** -/
theorem numberAt_toDigits (n : Nat) (r : List Char) :
    NumberAt (Nat.toDigits 10 n ++ r) ⟨false, Nat.toDigits 10 n, none, none⟩ r :=
  .positive (wholeAt_toDigits n r) .none .none

end Numeral

end Json

end BuildDiagnostics
