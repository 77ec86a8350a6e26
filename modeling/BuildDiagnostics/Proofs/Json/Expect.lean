import BuildDiagnostics.Json.Expect
import BuildDiagnostics.Proofs.Json.Grammar
/-!
# Where a string or null is expected

A value that stands where a string or null is expected is read just when it
is one of the two (`toOption_readOptional`): null is no text, a string is
its own, and what follows the value is left. Every other value is refused,
and so is a string with half of a surrogate pair alone.
-/


namespace BuildDiagnostics

namespace Json

variable {c : Char} {s t r : List Char} {v : Datum}

/-- The text of a string, none for null; other values have neither. -/
def Datum.optional? : Datum → Option (Option String)
  | .null => some none
  | .string text => text.map some
  | _ => none

/-- What starts neither like null nor like a string is refused. -/
theorem toOption_readOptional_eq_none (hs : dropBlanks s = c :: t) (hnull : c ≠ 'n')
    (hquote : c ≠ '"') : (readOptional s).toOption = none := by
  rw [readOptional, hs]
  split
  · next h => cases h
  · next h => exact absurd (List.cons.inj h).1 hnull
  · next h => exact absurd (List.cons.inj h).1 hquote
  · rfl

/-- **A string or null is read**, and nothing else. -/
theorem toOption_readOptional (hs : Blanks s t) (h : ValueAt t v r) :
    (readOptional s).toOption = v.optional?.map (·, r) := by
  have ht := h.dropBlanks_eq hs
  cases h with
  | null =>
    rw [readOptional, ht]
    rfl
  | @string s r text h =>
    have hkept := h.readString_kept
    rw [readOptional, ht]
    cases text with
    | some cs =>
      simp only at hkept
      simp only [hkept]
      rfl
    | none =>
      obtain ⟨e, he⟩ := hkept
      simp only [he]
      rfl
  | isTrue => exact toOption_readOptional_eq_none ht (by decide) (by decide)
  | isFalse => exact toOption_readOptional_eq_none ht (by decide) (by decide)
  | number h =>
    obtain ⟨c, t, rfl, hc⟩ := h.exists_cons
    exact toOption_readOptional_eq_none ht (Numeral.ne_of_startsNumber hc (by decide) (by decide))
      (Numeral.ne_of_startsNumber hc (by decide) (by decide))
  | emptyArray h => exact toOption_readOptional_eq_none ht (by decide) (by decide)
  | array h => exact toOption_readOptional_eq_none ht (by decide) (by decide)
  | emptyObject h => exact toOption_readOptional_eq_none ht (by decide) (by decide)
  | object h => exact toOption_readOptional_eq_none ht (by decide) (by decide)

/-! ## Readers by their results -/

/-- A reader either fails or gives the value that is known of it. -/
theorem cases_of_toOption {α ε : Type} {result : Except ε (α × List Char)} {value : Option α}
    (h : result.toOption = value.map (·, r)) :
    (∃ e, result = .error e ∧ value = none) ∨ ∃ a, result = .ok (a, r) ∧ value = some a := by
  cases result with
  | error e => exact .inl ⟨e, rfl, Option.map_eq_none_iff.1 h.symm⟩
  | ok p =>
    obtain ⟨a, ha, rfl⟩ := Option.map_eq_some_iff.1 h.symm
    exact .inr ⟨a, rfl, ha⟩

/-- **A whole text is what is read at its start** when only blanks are left. -/
theorem toOption_readDocument {α : Type} {read : List Char → Except Failure (α × List Char)}
    {text : String} {value : Option α} (h : (read text.toList).toOption = value.map (·, r))
    (hr : dropBlanks r = []) : (readDocument read text).toOption = value := by
  rcases cases_of_toOption h with ⟨e, he, rfl⟩ | ⟨a, ha, rfl⟩
  · rw [readDocument, he]
    rfl
  · simp only [readDocument, ha, bind, Except.bind, hr, if_true]
    rfl

end Json

end BuildDiagnostics
