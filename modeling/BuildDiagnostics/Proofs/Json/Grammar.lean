import BuildDiagnostics.Proofs.Json.Numeral
import BuildDiagnostics.Proofs.Json.StringText
/-!
# The text of a JSON value

What is a well-formed JSON text, and which value it stands for: the rules
of the grammar, one constructor to each. As for numbers and strings the
relations say what a list starts with and what follows it. A value with
blanks around it is an element, and a text is well formed when it is one
element as a whole (`Document`). A value shows by its first character of
which kind it is (`ValueAt.of_quote` and its kin), and no blank is one of
these characters (`isBlank_of_startsValue`).
-/


namespace BuildDiagnostics

namespace Json

open Numeral (NumberAt goesOn ne_of_startsNumber)
open Text (StartsOutside startsOutside_cons)

/-- A value as a text gives it: a number as it is written, the members of an
object in their order, and a string with half of a surrogate pair alone as
no string. -/
inductive Datum where
  /-- The null value. -/
  | null
  /-- A boolean. -/
  | boolean (b : Bool)
  /-- A number. -/
  | number (n : Numeral)
  /-- A string. -/
  | string (text : Option String)
  /-- An array. -/
  | array (items : List Datum)
  /-- An object. -/
  | object (members : List (Option String × Datum))

/-! ## The grammar -/

/-- Blanks, any number of them. -/
inductive Blanks : List Char → List Char → Prop where
  /-- No blank. -/
  | none {r : List Char} : Blanks r r
  /-- One more. -/
  | cons {c : Char} {s r : List Char} (hc : isBlank c) (h : Blanks s r) : Blanks (c :: s) r

mutual

/-- A value. -/
inductive ValueAt : List Char → Datum → List Char → Prop where
  /-- The null value. -/
  | null {r : List Char} : ValueAt ('n' :: 'u' :: 'l' :: 'l' :: r) .null r
  /-- The true value. -/
  | isTrue {r : List Char} : ValueAt ('t' :: 'r' :: 'u' :: 'e' :: r) (.boolean true) r
  /-- The false value. -/
  | isFalse {r : List Char} :
      ValueAt ('f' :: 'a' :: 'l' :: 's' :: 'e' :: r) (.boolean false) r
  /-- A number. -/
  | number {s r : List Char} {n : Numeral} (h : NumberAt s n r) : ValueAt s (.number n) r
  /-- A string. -/
  | string {s r : List Char} {text : Option (List Char)} (h : StringAt s text r) :
      ValueAt ('"' :: s) (.string (text.map String.ofList)) r
  /-- An array without items. -/
  | emptyArray {s r : List Char} (h : Blanks s (']' :: r)) : ValueAt ('[' :: s) (.array []) r
  /-- An array with items. -/
  | array {s r : List Char} {items : List Datum} (h : ItemsAt s items r) :
      ValueAt ('[' :: s) (.array items) r
  /-- An object without members. -/
  | emptyObject {s r : List Char} (h : Blanks s ('\x7d' :: r)) :
      ValueAt ('\x7b' :: s) (.object []) r
  /-- An object with members. -/
  | object {s r : List Char} {members : List (Option String × Datum)}
      (h : MembersAt s members r) : ValueAt ('\x7b' :: s) (.object members) r

/-- A value with blanks around it. -/
inductive ElementAt : List Char → Datum → List Char → Prop where
  /-- The blanks before, the value and the blanks after it. -/
  | mk {s t u r : List Char} {v : Datum} (hs : Blanks s t) (h : ValueAt t v u)
      (hr : Blanks u r) : ElementAt s v r

/-- Items up to the closing bracket, with commas between. -/
inductive ItemsAt : List Char → List Datum → List Char → Prop where
  /-- The last item. -/
  | last {s r : List Char} {v : Datum} (h : ElementAt s v (']' :: r)) : ItemsAt s [v] r
  /-- An item before others. -/
  | more {s t r : List Char} {v : Datum} {vs : List Datum} (h : ElementAt s v (',' :: t))
      (hs : ItemsAt t vs r) : ItemsAt s (v :: vs) r

/-- A key, a colon and a value. -/
inductive MemberAt : List Char → Option String × Datum → List Char → Prop where
  /-- The key with blanks around it, the colon and the value. -/
  | mk {s t u w r : List Char} {key : Option (List Char)} {v : Datum} (hs : Blanks s ('"' :: t))
      (hk : StringAt t key u) (hu : Blanks u (':' :: w)) (hv : ElementAt w v r) :
      MemberAt s (key.map String.ofList, v) r

/-- Members up to the closing brace, with commas between. -/
inductive MembersAt : List Char → List (Option String × Datum) → List Char → Prop where
  /-- The last member. -/
  | last {s r : List Char} {m : Option String × Datum} (h : MemberAt s m ('\x7d' :: r)) :
      MembersAt s [m] r
  /-- A member before others. -/
  | more {s t r : List Char} {m : Option String × Datum} {ms : List (Option String × Datum)}
      (h : MemberAt s m (',' :: t)) (hs : MembersAt t ms r) : MembersAt s (m :: ms) r

end

/-- A text that is one value as a whole. -/
def Document (text : List Char) (v : Datum) : Prop := ElementAt text v []

variable {c : Char} {s t r : List Char} {v : Datum}

/-! ## Blanks -/

/-- A text that does not start with a blank has none to drop. -/
theorem dropBlanks_cons (h : isBlank c = false) (s : List Char) :
    dropBlanks (c :: s) = c :: s := by
  have hc : ¬ isBlank c = true := Bool.eq_false_iff.1 h
  rw [dropBlanks, List.dropWhile_cons_of_neg hc]

/-- Blanks before a text are dropped with those it starts with. -/
theorem Blanks.dropBlanks_eq (h : Blanks s r) : dropBlanks s = dropBlanks r := by
  induction h with
  | none => rfl
  | cons hc h ih => rw [← ih, dropBlanks, List.dropWhile_cons_of_pos hc, ← dropBlanks]

/-- **Blanks are dropped** down to what is none. -/
theorem Blanks.dropBlanks_eq_cons (h : Blanks s (c :: r)) (hc : isBlank c = false) :
    dropBlanks s = c :: r := by
  rw [h.dropBlanks_eq, dropBlanks_cons hc]

/-- A number does not go on with a blank. -/
theorem goesOn_of_isBlank (h : isBlank c) : goesOn c = false := by
  simp only [isBlank, Bool.or_eq_true, beq_iff_eq] at h
  rcases h with ((rfl | rfl) | rfl) | rfl
  · decide
  · decide
  · decide
  · decide

/-- So a number ends where blanks start. -/
theorem Blanks.startsOutside (h : Blanks s r) (hr : StartsOutside goesOn r) :
    StartsOutside goesOn s := by
  cases h with
  | none => exact hr
  | cons hc h => exact startsOutside_cons.2 (goesOn_of_isBlank hc)

/-! ## What a value starts with -/

/-- The characters that can start a value. -/
def startsValue (c : Char) : Bool :=
  "ntf\"[\x7b".toList.contains c || c == '-' || c.isDigit

/-- **A value shows where it starts.** -/
theorem ValueAt.exists_cons (h : ValueAt s v r) : ∃ c t, s = c :: t ∧ startsValue c := by
  cases h with
  | null => exact ⟨'n', _, rfl, by decide⟩
  | isTrue => exact ⟨'t', _, rfl, by decide⟩
  | isFalse => exact ⟨'f', _, rfl, by decide⟩
  | number h =>
    obtain ⟨c, t, hs, hc⟩ := h.exists_cons
    refine ⟨c, t, hs, ?_⟩
    rcases hc with rfl | hc
    · decide
    · rw [startsValue, hc, Bool.or_true]
  | string h => exact ⟨'"', _, rfl, by decide⟩
  | emptyArray h => exact ⟨'[', _, rfl, by decide⟩
  | array h => exact ⟨'[', _, rfl, by decide⟩
  | emptyObject h => exact ⟨'\x7b', _, rfl, by decide⟩
  | object h => exact ⟨'\x7b', _, rfl, by decide⟩

/-- It does not start with a blank. -/
theorem isBlank_of_startsValue (h : startsValue c) : isBlank c = false := by
  refine Bool.eq_false_iff.2 fun hc => ?_
  simp only [isBlank, Bool.or_eq_true, beq_iff_eq] at hc
  rcases hc with ((rfl | rfl) | rfl) | rfl
  · exact absurd h (by decide)
  · exact absurd h (by decide)
  · exact absurd h (by decide)
  · exact absurd h (by decide)

/-- So blanks are dropped down to it. -/
theorem ValueAt.dropBlanks_eq (h : ValueAt t v r) (hs : Blanks s t) : dropBlanks s = t := by
  obtain ⟨c, t, rfl, hc⟩ := h.exists_cons
  exact hs.dropBlanks_eq_cons (isBlank_of_startsValue hc)

/-- With the blanks dropped an element starts like a value. -/
theorem ElementAt.exists_dropBlanks (h : ElementAt s v r) :
    ∃ c t, dropBlanks s = c :: t ∧ startsValue c := by
  cases h with
  | mk hs h hr =>
    obtain ⟨c, t, ht, hc⟩ := h.exists_cons
    exact ⟨c, t, by rw [h.dropBlanks_eq hs, ht], hc⟩

theorem ItemsAt.exists_dropBlanks {items : List Datum} (h : ItemsAt s items r) :
    ∃ c t, dropBlanks s = c :: t ∧ startsValue c := by
  cases h with
  | last h => exact h.exists_dropBlanks
  | more h hs => exact h.exists_dropBlanks

/-- A member starts with the quote of its key. -/
theorem MemberAt.exists_dropBlanks {m : Option String × Datum} (h : MemberAt s m r) :
    ∃ t, dropBlanks s = '"' :: t := by
  cases h with
  | mk hs hk hu hv => exact ⟨_, hs.dropBlanks_eq_cons (by decide)⟩

theorem MembersAt.exists_dropBlanks {members : List (Option String × Datum)}
    (h : MembersAt s members r) : ∃ t, dropBlanks s = '"' :: t := by
  cases h with
  | last h => exact h.exists_dropBlanks
  | more h hs => exact h.exists_dropBlanks

/-! ## Which value it is -/

/-- What starts like a number is one. -/
theorem ValueAt.of_number (h : ValueAt (c :: s) v r) (hc : c = '-' ∨ c.isDigit) :
    ∃ n, NumberAt (c :: s) n r ∧ v = .number n := by
  cases h with
  | number h => exact ⟨_, h, rfl⟩
  | null => exact absurd rfl (ne_of_startsNumber hc (by decide) (by decide))
  | isTrue => exact absurd rfl (ne_of_startsNumber hc (by decide) (by decide))
  | isFalse => exact absurd rfl (ne_of_startsNumber hc (by decide) (by decide))
  | string h => exact absurd rfl (ne_of_startsNumber hc (by decide) (by decide))
  | emptyArray h => exact absurd rfl (ne_of_startsNumber hc (by decide) (by decide))
  | array h => exact absurd rfl (ne_of_startsNumber hc (by decide) (by decide))
  | emptyObject h => exact absurd rfl (ne_of_startsNumber hc (by decide) (by decide))
  | object h => exact absurd rfl (ne_of_startsNumber hc (by decide) (by decide))

/-- What starts otherwise is none. -/
theorem not_numberAt {n : Numeral} (hc : c ≠ '-') (hc' : c.isDigit = false) :
    ¬ NumberAt (c :: s) n r := by
  intro h
  obtain ⟨d, t, hs, hd⟩ := h.exists_cons
  exact ne_of_startsNumber hd hc hc' (List.cons.inj hs).1.symm

/-- What starts with a quote is a string. -/
theorem ValueAt.of_quote (h : ValueAt ('"' :: s) v r) :
    ∃ text, StringAt s text r ∧ v = .string (text.map String.ofList) := by
  cases h with
  | number h => exact absurd h (not_numberAt (by decide) (by decide))
  | string h => exact ⟨_, h, rfl⟩

/-- What starts with a bracket is an array. -/
theorem ValueAt.of_bracket (h : ValueAt ('[' :: s) v r) :
    Blanks s (']' :: r) ∧ v = .array [] ∨ ∃ items, ItemsAt s items r ∧ v = .array items := by
  cases h with
  | number h => exact absurd h (not_numberAt (by decide) (by decide))
  | emptyArray h => exact .inl ⟨h, rfl⟩
  | array h => exact .inr ⟨_, h, rfl⟩

/-- What starts with a brace is an object. -/
theorem ValueAt.of_brace (h : ValueAt ('\x7b' :: s) v r) :
    Blanks s ('\x7d' :: r) ∧ v = .object [] ∨
      ∃ members, MembersAt s members r ∧ v = .object members := by
  cases h with
  | number h => exact absurd h (not_numberAt (by decide) (by decide))
  | emptyObject h => exact .inl ⟨h, rfl⟩
  | object h => exact .inr ⟨_, h, rfl⟩

end Json

end BuildDiagnostics
