import BuildDiagnostics.Json.Skip
import BuildDiagnostics.Proofs.Json.Grammar
/-!
# A value is skipped as a whole

A member that nobody asks for may hold any value, and skipping passes over
that value and no more (`ElementAt.skipValue_eq`). The skipper keeps a list
of the brackets that are open. A value leaves this list as it was, however
deep the value is, so what comes next is what the brackets around it need.
The induction is on the value, for any brackets around it.
-/


namespace BuildDiagnostics

namespace Json

open Numeral (goesOn NumberAt ne_of_startsNumber)
open Text (StartsOutside startsOutside_cons)

variable {opened : List Bracket} {c : Char} {s t u r : List Char} {v : Datum}

/-! ## One token -/

/-- A value without parts is passed over. -/
theorem skipValue_of_skipScalar (hs : dropBlanks s = c :: t) (hlist : c ≠ '[')
    (hobject : c ≠ '\x7b') (h : skipScalar (c :: t) = .ok r) :
    skipValue opened s = skipAfter opened r := by
  grind [skipValue]

theorem skipValue_array (hs : dropBlanks s = '[' :: t) (ht : dropBlanks t = c :: u)
    (hc : c ≠ ']') : skipValue opened s = skipValue (.list :: opened) t := by
  grind [skipValue]

theorem skipValue_emptyArray (hs : dropBlanks s = '[' :: t) (ht : dropBlanks t = ']' :: r) :
    skipValue opened s = skipAfter opened r := by
  grind [skipValue]

theorem skipValue_object (hs : dropBlanks s = '\x7b' :: t) (ht : dropBlanks t = c :: u)
    (hc : c ≠ '\x7d') (hk : skipKey t = .ok r) :
    skipValue opened s = skipValue (.object :: opened) r := by
  grind [skipValue]

theorem skipValue_emptyObject (hs : dropBlanks s = '\x7b' :: t)
    (ht : dropBlanks t = '\x7d' :: r) : skipValue opened s = skipAfter opened r := by
  grind [skipValue]

theorem skipAfter_list_comma (hs : dropBlanks s = ',' :: t) :
    skipAfter (.list :: opened) s = skipValue (.list :: opened) t := by
  grind [skipAfter]

theorem skipAfter_list_close (hs : dropBlanks s = ']' :: t) :
    skipAfter (.list :: opened) s = skipAfter opened t := by
  grind [skipAfter]

theorem skipAfter_object_comma (hs : dropBlanks s = ',' :: t) (hk : skipKey t = .ok r) :
    skipAfter (.object :: opened) s = skipValue (.object :: opened) r := by
  grind [skipAfter]

theorem skipAfter_object_close (hs : dropBlanks s = '\x7d' :: t) :
    skipAfter (.object :: opened) s = skipAfter opened t := by
  grind [skipAfter]

theorem skipScalar_number {n : Numeral} (h : NumberAt s n r) (hr : StartsOutside goesOn r) :
    skipScalar s = .ok r := by
  obtain ⟨c, t, rfl, hc⟩ := h.exists_cons
  have hstart : ((c :: t).head?.any fun c => c == '-' || c.isDigit) = true := by
    rcases hc with rfl | hc
    · rfl
    · simp [hc]
  have hscan : Numeral.scan .invalidNumber (c :: t) = .ok (n, r) := h.scan_eq_ok hr
  rw [skipScalar.eq_def]
  split
  · next he => exact absurd (List.cons.inj he).1 (ne_of_startsNumber hc (by decide) (by decide))
  · next he => exact absurd (List.cons.inj he).1 (ne_of_startsNumber hc (by decide) (by decide))
  · next he => exact absurd (List.cons.inj he).1 (ne_of_startsNumber hc (by decide) (by decide))
  · next he => exact absurd (List.cons.inj he).1 (ne_of_startsNumber hc (by decide) (by decide))
  · rw [if_pos hstart, hscan]
    rfl

theorem skipKey_eq_ok {key : Option (List Char)} {w : List Char} (hs : Blanks s ('"' :: t))
    (hk : StringAt t key u) (hu : Blanks u (':' :: w)) : skipKey s = .ok w := by
  obtain ⟨cs, hcs⟩ := hk.readString_skipped
  have hcolon : readColon u = .ok w := by
    rw [readColon, hu.dropBlanks_eq_cons (by decide)]
    rfl
  rw [skipKey, hs.dropBlanks_eq_cons (by decide)]
  simp only [hcs, Except.bind, hcolon]

/-! ## Whole values -/

mutual

/-- **A value is passed over to its end**, for any brackets around it. -/
theorem ValueAt.skipValue_eq {s t r : List Char} {v : Datum} (h : ValueAt t v r)
    (hr : StartsOutside goesOn r) (hs : Blanks s t) (opened : List Bracket) :
    skipValue opened s = skipAfter opened r := by
  have hstart := h.dropBlanks_eq hs
  cases h with
  | null => exact skipValue_of_skipScalar hstart (by decide) (by decide) rfl
  | isTrue => exact skipValue_of_skipScalar hstart (by decide) (by decide) rfl
  | isFalse => exact skipValue_of_skipScalar hstart (by decide) (by decide) rfl
  | number h =>
    have hscalar := skipScalar_number h hr
    obtain ⟨c, t, rfl, hc⟩ := h.exists_cons
    exact skipValue_of_skipScalar hstart (ne_of_startsNumber hc (by decide) (by decide))
      (ne_of_startsNumber hc (by decide) (by decide)) hscalar
  | string h =>
    obtain ⟨cs, hcs⟩ := h.readString_skipped
    refine skipValue_of_skipScalar hstart (by decide) (by decide) ?_
    simp only [skipScalar, hcs]
    rfl
  | emptyArray h => exact skipValue_emptyArray hstart (h.dropBlanks_eq_cons (by decide))
  | array h =>
    obtain ⟨c, u, hu, hc⟩ := h.exists_dropBlanks
    have hclose : c ≠ ']' := by
      rintro rfl
      exact absurd hc (by decide)
    rw [skipValue_array hstart hu hclose, ItemsAt.skipValue_eq h opened]
  | emptyObject h => exact skipValue_emptyObject hstart (h.dropBlanks_eq_cons (by decide))
  | object h =>
    obtain ⟨u, hu⟩ := h.exists_dropBlanks
    obtain ⟨w, hkey, hskip⟩ := MembersAt.skipValue_eq h opened
    rw [skipValue_object hstart hu (by decide) hkey, hskip]
termination_by (sizeOf v, 0)

/-- So is an element, down to the blanks after it. -/
theorem ElementAt.skipValue_eq {s r : List Char} {v : Datum} (h : ElementAt s v r)
    (hr : StartsOutside goesOn r) :
    ∃ u, Blanks u r ∧ ∀ opened, skipValue opened s = skipAfter opened u := by
  cases h with
  | mk hs h hu =>
    exact ⟨_, hu, fun opened => ValueAt.skipValue_eq h (hu.startsOutside hr) hs opened⟩
termination_by (sizeOf v, 1)

/-- Items are passed over to the bracket that closes them. -/
theorem ItemsAt.skipValue_eq {s r : List Char} {items : List Datum} (h : ItemsAt s items r)
    (opened : List Bracket) : skipValue (.list :: opened) s = skipAfter opened r := by
  cases h with
  | last h =>
    obtain ⟨u, hu, hskip⟩ := ElementAt.skipValue_eq h (startsOutside_cons.2 (by decide))
    rw [hskip, skipAfter_list_close (hu.dropBlanks_eq_cons (by decide))]
  | more h hs =>
    obtain ⟨u, hu, hskip⟩ := ElementAt.skipValue_eq h (startsOutside_cons.2 (by decide))
    rw [hskip, skipAfter_list_comma (hu.dropBlanks_eq_cons (by decide)),
      ItemsAt.skipValue_eq hs opened]
termination_by (sizeOf items, 0)

/-- A member is passed over in two steps. -/
theorem MemberAt.skipValue_eq {s r : List Char} {m : Option String × Datum} (h : MemberAt s m r)
    (hr : StartsOutside goesOn r) :
    ∃ w u, skipKey s = .ok w ∧ Blanks u r ∧ ∀ opened, skipValue opened w = skipAfter opened u := by
  cases h with
  | mk hs hk hc hv =>
    obtain ⟨u, hu, hskip⟩ := ElementAt.skipValue_eq hv hr
    exact ⟨_, u, skipKey_eq_ok hs hk hc, hu, hskip⟩
termination_by (sizeOf m, 0)

/-- Members are passed over to the brace that closes them. -/
theorem MembersAt.skipValue_eq {s r : List Char} {members : List (Option String × Datum)}
    (h : MembersAt s members r) (opened : List Bracket) :
    ∃ w, skipKey s = .ok w ∧ skipValue (.object :: opened) w = skipAfter opened r := by
  cases h with
  | last h =>
    obtain ⟨w, u, hkey, hu, hskip⟩ := MemberAt.skipValue_eq h (startsOutside_cons.2 (by decide))
    refine ⟨w, hkey, ?_⟩
    rw [hskip, skipAfter_object_close (hu.dropBlanks_eq_cons (by decide))]
  | more h hs =>
    obtain ⟨w, u, hkey, hu, hskip⟩ := MemberAt.skipValue_eq h (startsOutside_cons.2 (by decide))
    obtain ⟨w', hkey', hskip'⟩ := MembersAt.skipValue_eq hs opened
    refine ⟨w, hkey, ?_⟩
    rw [hskip, skipAfter_object_comma (hu.dropBlanks_eq_cons (by decide)) hkey', hskip']
termination_by (sizeOf members, 0)

end

end Json

end BuildDiagnostics
