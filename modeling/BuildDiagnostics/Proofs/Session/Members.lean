import BuildDiagnostics.Proofs.Json.Expect
import BuildDiagnostics.Proofs.Json.Skip
import BuildDiagnostics.Session.Document
/-!
# The members of a session document

An object is read member by member, and what was found of an error text is
kept between two of them. One member either cannot stand where it does or
adds to what was found (`MemberAt.cases_readMembers`), so reading the
members is folding them (`toOption_readMembers`). What the fold comes to
depends on the members with the key `error` alone (`foldlM_takeMember`):
there may be one of them at most, and its value is null or a string.
-/


namespace BuildDiagnostics

namespace Session

open Json
open Numeral (goesOn)
open Text (StartsOutside startsOutside_cons)

variable {found found' : Option (Option String)} {key s t u w r : List Char} {v : Datum}
  {m : Option String × Datum} {members : List (Option String × Datum)}

/-! ## One round of the reader -/

theorem readMembers_of_key_error {e : Failure} (hk : readString .kept s = .error e) :
    readMembers found s = .error e := by
  grind [readMembers]

/-- A second error member is refused before its value is looked at. -/
theorem readMembers_of_duplicate (hk : readString .kept s = .ok (key, r))
    (hfirst : String.ofList key = errorKey ∧ found.isSome) :
    readMembers found s = .error (duplicate r) := by
  grind [readMembers]

theorem readMembers_of_value_error {e : Failure} (hk : readString .kept s = .ok (key, t))
    (hfirst : ¬ (String.ofList key = errorKey ∧ found.isSome)) (hc : readColon t = .ok w)
    (hv : readMemberValue (String.ofList key = errorKey) found w = .error e) :
    readMembers found s = .error e := by
  grind [readMembers]

theorem readMembers_of_last (hk : readString .kept s = .ok (key, t))
    (hfirst : ¬ (String.ofList key = errorKey ∧ found.isSome)) (hc : readColon t = .ok w)
    (hv : readMemberValue (String.ofList key = errorKey) found w = .ok (found', u))
    (hclose : dropBlanks u = '\x7d' :: r) : readMembers found s = .ok (found', r) := by
  grind [readMembers]

theorem readMembers_of_more {t' : List Char} (hk : readString .kept s = .ok (key, t))
    (hfirst : ¬ (String.ofList key = errorKey ∧ found.isSome)) (hc : readColon t = .ok w)
    (hv : readMemberValue (String.ofList key = errorKey) found w = .ok (found', u))
    (hcomma : dropBlanks u = ',' :: r) (hquote : dropBlanks r = '"' :: t') :
    readMembers found s = readMembers found' t' := by
  grind [readMembers]

/-- **The value of a member** is read if it is the error text, and else
passed over. -/
theorem toOption_readMemberValue (h : ElementAt w v r) (hr : StartsOutside goesOn r)
    (isError : Bool) (found : Option (Option String)) :
    ∃ u, Blanks u r ∧ (readMemberValue isError found w).toOption =
      (if isError then v.optional?.map some else some found).map (·, u) := by
  cases isError with
  | true =>
    cases h with
    | mk hs h hu =>
      refine ⟨_, hu, ?_⟩
      rcases cases_of_toOption (toOption_readOptional hs h) with ⟨e, he, hnone⟩ | ⟨x, hx, hsome⟩
      · simp only [readMemberValue, if_true, he, hnone]
        rfl
      · simp only [readMemberValue, if_true, hx, hsome]
        rfl
  | false =>
    obtain ⟨u, hu, hskip⟩ := h.skipValue_eq hr
    refine ⟨u, hu, ?_⟩
    rw [readMemberValue, if_neg Bool.false_ne_true, hskip, skipAfter]
    rfl

/-! ## One member -/

/-- What is known of the error text after one more member; none when the
member cannot stand there. -/
def takeMember (found : Option (Option String)) (m : Option String × Datum) :
    Option (Option (Option String)) :=
  match m.1 with
  | none => none
  | some key =>
    if key = errorKey then if found.isSome then none else m.2.optional?.map some
    else some found

/-- **What one member does.** It is refused, or the reader goes on after it
with what is known then. -/
theorem MemberAt.cases_readMembers (h : MemberAt s m r) (hr : StartsOutside goesOn r)
    (hs : dropBlanks s = '"' :: t) (found : Option (Option String)) :
    takeMember found m = none ∧ (readMembers found t).toOption = none ∨
    ∃ found' u, takeMember found m = some found' ∧ Blanks u r ∧
      (∀ r', dropBlanks u = '\x7d' :: r' → readMembers found t = .ok (found', r')) ∧
      ∀ r' t', dropBlanks u = ',' :: r' → dropBlanks r' = '"' :: t' →
        readMembers found t = readMembers found' t' := by
  cases h with
  | @mk _ t' k w _ key v hb hk hu hv =>
    obtain rfl : t' = t := by
      rw [hb.dropBlanks_eq_cons (by decide)] at hs
      exact (List.cons.inj hs).2
    have hcolon : readColon k = .ok w := by
      rw [readColon, hu.dropBlanks_eq_cons (by decide)]
      rfl
    have hkept := hk.readString_kept
    cases key with
    | none =>
      obtain ⟨e, he⟩ := hkept
      exact .inl ⟨rfl, by rw [readMembers_of_key_error he]; rfl⟩
    | some key =>
      simp only at hkept
      by_cases hfirst : String.ofList key = errorKey ∧ found.isSome
      · refine .inl ⟨?_, by rw [readMembers_of_duplicate hkept hfirst]; rfl⟩
        simp only [takeMember, Option.map_some, if_pos hfirst.1, if_pos hfirst.2]
      · obtain ⟨u, hblanks, hvalue⟩ := toOption_readMemberValue hv hr
          (decide (String.ofList key = errorKey)) found
        have htake : takeMember found (some (String.ofList key), v) =
            if decide (String.ofList key = errorKey) then v.optional?.map some else some found := by
          by_cases hkey : String.ofList key = errorKey
          · have hnone : ¬ found.isSome := fun hsome => hfirst ⟨hkey, hsome⟩
            simp only [takeMember, if_pos hkey, if_neg hnone, decide_eq_true hkey, if_true]
          · simp only [takeMember, if_neg hkey, decide_eq_false hkey, if_neg Bool.false_ne_true]
        rw [← htake] at hvalue
        rcases cases_of_toOption hvalue with ⟨e, he, hnone⟩ | ⟨found', hok, hsome⟩
        · exact .inl ⟨hnone, by rw [readMembers_of_value_error hkept hfirst hcolon he]; rfl⟩
        · exact .inr ⟨found', u, hsome, hblanks,
            fun _ hclose => readMembers_of_last hkept hfirst hcolon hok hclose,
            fun _ _ hcomma hquote => readMembers_of_more hkept hfirst hcolon hok hcomma hquote⟩

/-! ## All members -/

/-- **Members are taken one after the other.** -/
theorem toOption_readMembers (h : MembersAt s members r) (hs : dropBlanks s = '"' :: t)
    (found : Option (Option String)) :
    (readMembers found t).toOption = (members.foldlM takeMember found).map (·, r) := by
  -- from anywhere in the object and whatever was found before
  induction members generalizing s t found with
  | nil => cases h
  | cons m members ih =>
    cases h with
    | last h =>
      rcases MemberAt.cases_readMembers h (startsOutside_cons.2 (by decide)) hs found with
        ⟨hnone, hread⟩ | ⟨found', u, hsome, hu, hlast, -⟩
      · rw [hread, List.foldlM_cons, hnone]
        rfl
      · rw [hlast _ (hu.dropBlanks_eq_cons (by decide)), List.foldlM_cons, hsome]
        rfl
    | more h hrest =>
      obtain ⟨t', ht'⟩ := hrest.exists_dropBlanks
      rcases MemberAt.cases_readMembers h (startsOutside_cons.2 (by decide)) hs found with
        ⟨hnone, hread⟩ | ⟨found', u, hsome, hu, -, hmore⟩
      · rw [hread, List.foldlM_cons, hnone]
        rfl
      · rw [hmore _ _ (hu.dropBlanks_eq_cons (by decide)) ht', ih hrest ht', List.foldlM_cons,
          hsome]
        rfl

/-! ## What the members say -/

/-- The values of the members with the key of the error text, in order. -/
def errorValues (members : List (Option String × Datum)) : List Datum :=
  (members.filter (·.1 = some errorKey)).map Prod.snd

/-- The error text of an object by its members, if it can be taken: that of
the one error member, and no text when there is no such member. It cannot be
taken when there are two of them, when the value is of another kind or when
the key of some member denotes no text. -/
def objectError? (members : List (Option String × Datum)) : Option (Option String) :=
  if members.all (·.1.isSome) then
    match errorValues members with
    | [] => some none
    | [v] => v.optional?
    | _ => none
  else none

theorem errorValues_cons_error (v : Datum) (members : List (Option String × Datum)) :
    errorValues ((some errorKey, v) :: members) = v :: errorValues members := by
  simp [errorValues]

theorem errorValues_cons_of_ne {key : String} (h : key ≠ errorKey) (v : Datum)
    (members : List (Option String × Datum)) :
    errorValues ((some key, v) :: members) = errorValues members := by
  simp [errorValues, h]

/-- After an error member the others have to be of other keys. -/
theorem foldlM_takeMember_some (error : Option String) (members : List (Option String × Datum)) :
    members.foldlM takeMember (some error) =
      if members.all (·.1.isSome) ∧ errorValues members = [] then some (some error) else none := by
  induction members with
  | nil => rfl
  | cons m members ih =>
    obtain ⟨key, v⟩ := m
    rw [List.foldlM_cons, List.all_cons]
    cases key with
    | none => simp [takeMember]
    | some key =>
      rw [Option.isSome_some, Bool.true_and]
      by_cases hkey : key = errorKey
      · subst hkey
        simp [takeMember, errorValues_cons_error]
      · rw [errorValues_cons_of_ne hkey, ← ih]
        simp [takeMember, hkey]

/-- **What reading the members comes to.** -/
theorem foldlM_takeMember (members : List (Option String × Datum)) :
    (members.foldlM takeMember none).map Option.join = objectError? members := by
  induction members with
  | nil => rfl
  | cons m members ih =>
    obtain ⟨key, v⟩ := m
    rw [List.foldlM_cons, objectError?, List.all_cons]
    cases key with
    | none => simp [takeMember]
    | some key =>
      rw [Option.isSome_some, Bool.true_and]
      by_cases hkey : key = errorKey
      · -- the first error member, so what follows it is known
        subst hkey
        rw [errorValues_cons_error]
        cases hv : v.optional? with
        | none =>
          cases errorValues members with
          | nil => simp [takeMember, hv]
          | cons => simp [takeMember, hv]
        | some error =>
          cases hrest : errorValues members with
          | nil =>
            have hfold := foldlM_takeMember_some error members
            simp only [hrest, and_true] at hfold
            simp [takeMember, hv, hfold, apply_ite (Option.map Option.join)]
          | cons => simp [takeMember, hv, foldlM_takeMember_some, hrest]
      · rw [errorValues_cons_of_ne hkey, ← objectError?, ← ih]
        simp [takeMember, hkey]

end Session

end BuildDiagnostics
