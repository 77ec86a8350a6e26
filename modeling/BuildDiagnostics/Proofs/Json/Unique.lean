import BuildDiagnostics.Proofs.Json.Grammar
/-!
# One reading of a JSON text

A well-formed text stands for one value and no other (`Document.unique`).
Each rule of the grammar is shown to leave no choice, all of them together:
the first character tells which kind a value is, the closing bracket or
the comma tells where it ends, and neither of these goes on with a number
or with blanks (`Closes`).
-/


namespace BuildDiagnostics

namespace Json

open Numeral (goesOn)
open Text (StartsOutside startsOutside_cons startsOutside_nil)

variable {c : Char} {s r : List Char}

/-! ## Where an array, an object or an element ends -/

/-- An array with items is not one without. -/
theorem ItemsAt.not_blanks {items : List Datum} {r' : List Char} (h : ItemsAt s items r) :
    ¬ Blanks s (']' :: r') := by
  intro hblanks
  obtain ⟨c, t, hs, hc⟩ := h.exists_dropBlanks
  rw [hblanks.dropBlanks_eq_cons (by decide)] at hs
  rw [← (List.cons.inj hs).1] at hc
  exact absurd hc (by decide)

/-- An object with members is not one without. -/
theorem MembersAt.not_blanks {members : List (Option String × Datum)} {r' : List Char}
    (h : MembersAt s members r) : ¬ Blanks s ('\x7d' :: r') := by
  intro hblanks
  obtain ⟨t, ht⟩ := h.exists_dropBlanks
  rw [hblanks.dropBlanks_eq_cons (by decide)] at ht
  cases ht

/-- A text that neither a number nor blanks go on with. -/
def Closes (r : List Char) : Prop := StartsOutside (fun c => isBlank c || goesOn c) r

/-- It has no blanks to drop. -/
theorem Closes.dropBlanks_eq (h : Closes r) : dropBlanks r = r := by
  cases r with
  | nil => rfl
  | cons c r =>
    rw [Closes, startsOutside_cons] at h
    exact dropBlanks_cons (Bool.or_eq_false_iff.1 h).1 r

theorem Closes.startsOutside (h : Closes r) : StartsOutside goesOn r :=
  h.mono fun c hc => by rw [hc, Bool.or_true]

/-- A comma or a closing bracket starts such a text. -/
theorem closes_cons (h : (isBlank c || goesOn c) = false) : Closes (c :: r) :=
  startsOutside_cons.2 h

/-! ## One reading -/

mutual

/-- **A value is one in one way only.** The induction is on the first of the
two readings; what it starts with leaves the second no choice. -/
theorem ValueAt.unique {s r r' : List Char} {v v' : Datum} (h : ValueAt s v r)
    (h' : ValueAt s v' r') (hr : StartsOutside goesOn r) (hr' : StartsOutside goesOn r') :
    v = v' ∧ r = r' := by
  cases h with
  | null =>
    cases h' with
    | null => exact ⟨rfl, rfl⟩
    | number h => exact absurd h (not_numberAt (by decide) (by decide))
  | isTrue =>
    cases h' with
    | isTrue => exact ⟨rfl, rfl⟩
    | number h => exact absurd h (not_numberAt (by decide) (by decide))
  | isFalse =>
    cases h' with
    | isFalse => exact ⟨rfl, rfl⟩
    | number h => exact absurd h (not_numberAt (by decide) (by decide))
  | number h =>
    obtain ⟨c, t, rfl, hc⟩ := h.exists_cons
    obtain ⟨n', hn', rfl⟩ := h'.of_number hc
    obtain ⟨rfl, rfl⟩ := h.unique hn' hr hr'
    exact ⟨rfl, rfl⟩
  | string h =>
    obtain ⟨text', htext', rfl⟩ := h'.of_quote
    obtain ⟨rfl, rfl⟩ := h.unique htext'
    exact ⟨rfl, rfl⟩
  | emptyArray h =>
    rcases h'.of_bracket with ⟨hclose, rfl⟩ | ⟨items', hitems', rfl⟩
    · have hs := h.dropBlanks_eq_cons (by decide)
      rw [hclose.dropBlanks_eq_cons (by decide)] at hs
      cases hs
      exact ⟨rfl, rfl⟩
    · exact absurd h hitems'.not_blanks
  | array h =>
    rcases h'.of_bracket with ⟨hclose, rfl⟩ | ⟨items', hitems', rfl⟩
    · exact absurd hclose h.not_blanks
    · obtain ⟨rfl, rfl⟩ := ItemsAt.unique h hitems'
      exact ⟨rfl, rfl⟩
  | emptyObject h =>
    rcases h'.of_brace with ⟨hclose, rfl⟩ | ⟨members', hmembers', rfl⟩
    · have hs := h.dropBlanks_eq_cons (by decide)
      rw [hclose.dropBlanks_eq_cons (by decide)] at hs
      cases hs
      exact ⟨rfl, rfl⟩
    · exact absurd h hmembers'.not_blanks
  | object h =>
    rcases h'.of_brace with ⟨hclose, rfl⟩ | ⟨members', hmembers', rfl⟩
    · exact absurd hclose h.not_blanks
    · obtain ⟨rfl, rfl⟩ := MembersAt.unique h hmembers'
      exact ⟨rfl, rfl⟩
termination_by (sizeOf v, 0)

/-- So is an element, since its value tells where the blanks before it end. -/
theorem ElementAt.unique {s r r' : List Char} {v v' : Datum} (h : ElementAt s v r)
    (h' : ElementAt s v' r') (hr : Closes r) (hr' : Closes r') : v = v' ∧ r = r' := by
  cases h with
  | mk hs h hu =>
    cases h' with
    | mk hs' h' hu' =>
      have ht := h.dropBlanks_eq hs
      rw [h'.dropBlanks_eq hs'] at ht
      subst ht
      obtain ⟨rfl, rfl⟩ := h.unique h' (hu.startsOutside hr.startsOutside)
        (hu'.startsOutside hr'.startsOutside)
      have hrest := hu.dropBlanks_eq
      rw [hu'.dropBlanks_eq, hr.dropBlanks_eq, hr'.dropBlanks_eq] at hrest
      exact ⟨rfl, hrest.symm⟩
termination_by (sizeOf v, 1)

/-- So are items, since a bracket is no comma. -/
theorem ItemsAt.unique {s r r' : List Char} {items items' : List Datum}
    (h : ItemsAt s items r) (h' : ItemsAt s items' r') : items = items' ∧ r = r' := by
  cases h with
  | last h =>
    cases h' with
    | last h' =>
      obtain ⟨rfl, hclose⟩ := h.unique h' (closes_cons (by decide)) (closes_cons (by decide))
      cases hclose
      exact ⟨rfl, rfl⟩
    | more h' hs' =>
      cases (h.unique h' (closes_cons (by decide)) (closes_cons (by decide))).2
  | more h hs =>
    cases h' with
    | last h' =>
      cases (h.unique h' (closes_cons (by decide)) (closes_cons (by decide))).2
    | more h' hs' =>
      obtain ⟨rfl, hcomma⟩ := h.unique h' (closes_cons (by decide)) (closes_cons (by decide))
      cases hcomma
      obtain ⟨rfl, rfl⟩ := hs.unique hs'
      exact ⟨rfl, rfl⟩
termination_by (sizeOf items, 0)

/-- So is a member, part by part. -/
theorem MemberAt.unique {s r r' : List Char} {m m' : Option String × Datum}
    (h : MemberAt s m r) (h' : MemberAt s m' r') (hr : Closes r) (hr' : Closes r') :
    m = m' ∧ r = r' := by
  cases h with
  | mk hs hk hu hv =>
    cases h' with
    | mk hs' hk' hu' hv' =>
      have hquote := hs.dropBlanks_eq_cons (by decide)
      rw [hs'.dropBlanks_eq_cons (by decide)] at hquote
      cases hquote
      obtain ⟨rfl, rfl⟩ := hk.unique hk'
      have hcolon := hu.dropBlanks_eq_cons (by decide)
      rw [hu'.dropBlanks_eq_cons (by decide)] at hcolon
      cases hcolon
      obtain ⟨rfl, rfl⟩ := hv.unique hv' hr hr'
      exact ⟨rfl, rfl⟩
termination_by (sizeOf m, 0)

/-- So are members, since a brace is no comma. -/
theorem MembersAt.unique {s r r' : List Char} {members members' : List (Option String × Datum)}
    (h : MembersAt s members r) (h' : MembersAt s members' r') :
    members = members' ∧ r = r' := by
  cases h with
  | last h =>
    cases h' with
    | last h' =>
      obtain ⟨rfl, hclose⟩ := h.unique h' (closes_cons (by decide)) (closes_cons (by decide))
      cases hclose
      exact ⟨rfl, rfl⟩
    | more h' hs' =>
      cases (h.unique h' (closes_cons (by decide)) (closes_cons (by decide))).2
  | more h hs =>
    cases h' with
    | last h' =>
      cases (h.unique h' (closes_cons (by decide)) (closes_cons (by decide))).2
    | more h' hs' =>
      obtain ⟨rfl, hcomma⟩ := h.unique h' (closes_cons (by decide)) (closes_cons (by decide))
      cases hcomma
      obtain ⟨rfl, rfl⟩ := hs.unique hs'
      exact ⟨rfl, rfl⟩
termination_by (sizeOf members, 0)

end

/-- **A text stands for one value.** -/
theorem Document.unique {text : List Char} {v v' : Datum} (h : Document text v)
    (h' : Document text v') : v = v' :=
  (ElementAt.unique h h' startsOutside_nil startsOutside_nil).1

end Json

end BuildDiagnostics
