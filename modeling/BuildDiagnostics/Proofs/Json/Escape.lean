import BuildDiagnostics.Json.Value
import BuildDiagnostics.Proofs.Json.StringText
/-!
# Strings read back

What `quote` writes is the text of a string: an escape stands for the
character it was made from, and any other character for itself
(`charAt_escapeChar`). So it is read as the string it was written for. A
quoted string holds no character below the blank (`not_lt_of_mem_quote`),
and so no line break.
-/


namespace BuildDiagnostics

namespace Json

variable {c : Char}

/-! ## One character -/

/-- A hexadecimal digit is read as what it was written for. -/
theorem hexDigit?_digitChar : ∀ d < 16, Text.hexDigit? (Nat.digitChar d) = some d := by
  decide

/-- The number of a control character. -/
theorem unitAt_of_control (h : c.toNat < 32) (r : List Char) :
    UnitAt ('\\' :: 'u' :: '0' :: '0' :: Nat.digitChar (c.toNat / 16) ::
      Nat.digitChar (c.toNat % 16) :: r) c.toNat r := by
  have hzero : Text.hexDigit? '0' = some 0 := by decide
  have hsum : ((0 * 16 + 0) * 16 + c.toNat / 16) * 16 + c.toNat % 16 = c.toNat := by omega
  refine ⟨_, _, _, _, rfl, ?_⟩
  simp only [hexValue?, hzero, hexDigit?_digitChar _ (by omega : c.toNat / 16 < 16),
    hexDigit?_digitChar _ (by omega : c.toNat % 16 < 16), Option.bind_eq_bind,
    Option.bind_some, hsum]

/-- **What a character is written as stands for it.** -/
theorem charAt_escapeChar (c : Char) (r : List Char) : CharAt (escapeChar c ++ r) c r := by
  rw [escapeChar.eq_def]
  -- the escapes of one letter, then the numbered ones, then what stands for itself
  split
  · exact .short rfl
  · exact .short rfl
  · exact .short rfl
  · exact .short rfl
  · exact .short rfl
  · exact .short rfl
  · exact .short rfl
  · next hquote hslash _ _ _ _ _ =>
    split
    · next hc =>
      have hlt : c.toNat < 32 := Char.lt_def.1 hc
      -- the number is too small to be either half of a pair
      have hhigh : isHighSurrogate c.toNat = false := by
        simp only [isHighSurrogate, Bool.and_eq_false_iff, decide_eq_false_iff_not]
        omega
      have hlow : isLowSurrogate c.toNat = false := by
        simp only [isLowSurrogate, Bool.and_eq_false_iff, decide_eq_false_iff_not]
        omega
      have hunit := CharAt.unit (unitAt_of_control hlt r) hhigh hlow
      rw [Char.ofNat_toNat] at hunit
      exact hunit
    · next hc => exact .plain hquote hslash hc

/-! ## The whole string -/

/-- **A string is the text it was written for.** -/
theorem stringAt_flatMap_escapeChar (cs rest : List Char) :
    StringAt (cs.flatMap escapeChar ++ '"' :: rest) (some cs) rest := by
  induction cs with
  | nil => exact .close
  | cons c cs ih =>
    rw [List.flatMap_cons, List.append_assoc]
    exact .char (charAt_escapeChar c _) ih

/-- **A string is read back**, and what follows its closing quote is left. -/
theorem readString_flatMap_escapeChar (cs rest : List Char) :
    readString .kept (cs.flatMap escapeChar ++ '"' :: rest) = .ok (cs, rest) :=
  (stringAt_flatMap_escapeChar cs rest).readString_kept

/-- The text of a string, from its opening quote. -/
theorem quote_append (s : String) (rest : List Char) :
    quote s ++ rest = '"' :: (s.toList.flatMap escapeChar ++ '"' :: rest) := by
  simp only [quote, List.cons_append, List.append_assoc, List.nil_append]

/-! ## What a text of a string holds -/

/-- A hexadecimal digit is no control character. -/
theorem not_digitChar_lt : ∀ d < 16, ¬ Nat.digitChar d < ' ' := by
  decide

/-- What a character is written as has no control character. -/
theorem not_lt_of_mem_escapeChar {d : Char} (h : d ∈ escapeChar c) : ¬ d < ' ' := by
  -- all escapes of one letter have the same form
  have hpair : ∀ e : Char, ¬ e < ' ' → d ∈ ['\\', e] → ¬ d < ' ' := by
    intro e he hd
    simp only [List.mem_cons, List.not_mem_nil, or_false] at hd
    rcases hd with rfl | rfl
    · decide
    · exact he
  rw [escapeChar.eq_def] at h
  split at h
  · exact hpair _ (by decide) h
  · exact hpair _ (by decide) h
  · exact hpair _ (by decide) h
  · exact hpair _ (by decide) h
  · exact hpair _ (by decide) h
  · exact hpair _ (by decide) h
  · exact hpair _ (by decide) h
  · split at h
    · next hc =>
      have hlt : c.toNat < 32 := Char.lt_def.1 hc
      simp only [List.mem_cons, List.not_mem_nil, or_false] at h
      rcases h with rfl | rfl | rfl | rfl | rfl | rfl
      · decide
      · decide
      · decide
      · decide
      · exact not_digitChar_lt _ (by omega)
      · exact not_digitChar_lt _ (by omega)
    · next hc =>
      rw [List.mem_singleton.1 h]
      exact hc

/-- **A quoted string is on one line.** It has no control character. -/
theorem not_lt_of_mem_quote {s : String} {d : Char} (h : d ∈ quote s) : ¬ d < ' ' := by
  rw [quote] at h
  rcases List.mem_append.1 h with h | h
  · rcases List.mem_cons.1 h with rfl | h
    · decide
    · obtain ⟨c, -, hd⟩ := List.mem_flatMap.1 h
      exact not_lt_of_mem_escapeChar hd
  · rw [List.mem_singleton.1 h]
    decide

end Json

end BuildDiagnostics
