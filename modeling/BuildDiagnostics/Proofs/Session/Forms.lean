import BuildDiagnostics.Proofs.Json.Expect
import BuildDiagnostics.Proofs.Session.History
/-!
# Documents that are no objects

A line with a JSON value that is no object should be no document. It is
none when the value has no parts, and none when it is an array of two items
or more. But an array without items is taken for the object without
members, and an array with one item for the object with that item as its
`error` (`Datum.positional?`). So the empty array, the array of null and the
array of a string change the diagnostics, with any blanks in them, and no
other value but an object does (`step_nonobject`).
-/


namespace BuildDiagnostics

namespace Json

namespace Datum

/-- Whether a value is an object. -/
def isObject : Datum → Bool
  | object _ => true
  | _ => false

/-- The error text of an array that is taken for an object, its items for
the members in their order; none when it cannot be. -/
def positional? : Datum → Option (Option String)
  | array [] => some none
  | array [v] => v.optional?
  | _ => none

end Datum

end Json

namespace Session

open Json

variable {c : Char} {s t r : List Char} {v : Datum}

/-! ## Arrays -/

/-- An array without items names no error. -/
theorem readArray_of_blanks (h : Blanks s (']' :: r)) : readArray s = .ok (none, r) := by
  rw [readArray, h.dropBlanks_eq_cons (by decide)]
  rfl

/-- What comes first in an array is read as a string or null, and then the
array has to end. -/
theorem readArray_of_element (h : ElementAt s v (c :: r)) (hc : isBlank c = false) :
    (readArray s).toOption =
      if c = ']' then (v.optional?.map some).map (·, r) else none := by
  cases h with
  | mk hs hv hu =>
    have hrest := hu.dropBlanks_eq_cons hc
    have hread := toOption_readOptional .none hv
    have hstart := hv.dropBlanks_eq hs
    obtain ⟨d, t, rfl, hd⟩ := hv.exists_cons
    have hopen : d ≠ ']' := by
      rintro rfl
      exact absurd hd (by decide)
    rw [readArray, hstart]
    split
    · next h => cases h
    · next h => exact absurd (List.cons.inj h).1 hopen
    · rcases cases_of_toOption hread with ⟨e, he, hnone⟩ | ⟨text, htext, hsome⟩
      · rw [he, hnone, Option.map_none, Option.map_none, ite_self]
        rfl
      · simp only [htext, bind, Except.bind, hrest, hsome, Option.map_some]
        split
        · next h => cases h
        · next h =>
          cases h
          rw [if_pos rfl]
          rfl
        · next h =>
          cases h
          rw [if_neg (by decide)]
          split
          · rfl
          · rfl
        · next hclose hcomma =>
          have hne : c ≠ ']' := fun h => hclose r (by rw [h])
          rw [if_neg hne]
          rfl

/-- **An array is read by its items**: it has none, or one that is a string
or null. -/
theorem toOption_readArray {items : List Datum} (h : ItemsAt s items r) :
    (readArray s).toOption = ((Datum.array items).positional?.map some).map (·, r) := by
  cases h with
  | last h => rw [readArray_of_element h (by decide), if_pos rfl]; rfl
  | more h hs =>
    rw [readArray_of_element h (by decide), if_neg (by decide)]
    cases hs with
    | last h' => rfl
    | more h' hs' => rfl

/-! ## Other values -/

/-- What starts neither like an object nor like an array is refused. -/
theorem toOption_readTerminated_eq_none (hs : dropBlanks s = c :: t) (hbrace : c ≠ '\x7b')
    (hbracket : c ≠ '[') : (readTerminated s).toOption = none := by
  rw [readTerminated, hs]
  split
  · next h => cases h
  · next h => exact absurd (List.cons.inj h).1 hbrace
  · next h => exact absurd (List.cons.inj h).1 hbracket
  · rfl

/-- **A value that is no object is refused**, unless it is one of the arrays
that are taken for one. -/
theorem toOption_readTerminated (hs : Blanks s t) (h : ValueAt t v r)
    (hv : v.isObject = false) :
    (readTerminated s).toOption = v.positional?.map (·, r) := by
  have ht := h.dropBlanks_eq hs
  cases h with
  | null => exact toOption_readTerminated_eq_none ht (by decide) (by decide)
  | isTrue => exact toOption_readTerminated_eq_none ht (by decide) (by decide)
  | isFalse => exact toOption_readTerminated_eq_none ht (by decide) (by decide)
  | number h =>
    obtain ⟨c, t, rfl, hc⟩ := h.exists_cons
    exact toOption_readTerminated_eq_none ht
      (Numeral.ne_of_startsNumber hc (by decide) (by decide))
      (Numeral.ne_of_startsNumber hc (by decide) (by decide))
  | string h => exact toOption_readTerminated_eq_none ht (by decide) (by decide)
  | emptyArray h =>
    rw [readTerminated, ht]
    simp only [readArray_of_blanks h]
    rfl
  | array h =>
    rw [readTerminated, ht]
    rcases cases_of_toOption (toOption_readArray h) with ⟨e, he, hnone⟩ | ⟨found, hfound, hsome⟩
    · simp only [he, Option.map_eq_none_iff.1 hnone]
      rfl
    · obtain ⟨text, htext, rfl⟩ := Option.map_eq_some_iff.1 hsome
      simp only [hfound, htext]
      rfl
  | emptyObject h => cases hv
  | object h => cases hv

/-! ## Lines -/

/-- A text with a value is not empty. -/
theorem ne_empty_of_document {line : String} (h : Document line.toList v) : line ≠ "" := by
  rintro rfl
  obtain ⟨c, t, hs, -⟩ := ElementAt.exists_dropBlanks h
  cases hs

/-- A line with a value that is no object. -/
theorem document?_nonobject {line : String} (h : Document (Text.trim line).toList v)
    (hv : v.isObject = false) : document? line = v.positional? := by
  cases h with
  | mk hs h hu => exact toOption_readDocument (toOption_readTerminated hs h hv) hu.dropBlanks_eq

/-- **What a line with a value that is no object does.** Unless the value
is one of the arrays that are taken for an object, it is rejected with the
number of the line and the diagnostics stay. An array that is taken for an
object replaces them. -/
theorem step_nonobject (s : Session) {line : String} (h : Document (Text.trim line).toList v)
    (hv : v.isObject = false) :
    match v.positional? with
    | some error =>
      s.step line = (.replaced, { s with lineCount := s.lineCount + 1 }.replace error)
    | none => ∃ problem,
      s.step line = (.rejected problem, { s with lineCount := s.lineCount + 1 }) ∧
        (s.step line).2.answer (s.step line).1 = .error (.session (s.lineCount + 1) problem) := by
  have hne := ne_empty_of_document h
  have hdocument := document?_nonobject h hv
  rw [document?] at hdocument
  cases hd : decode (Text.trim line) with
  | error problem =>
    rw [hd] at hdocument
    rw [← hdocument]
    have hstep := step_of_error (s := s) hne hd
    refine ⟨problem, hstep, ?_⟩
    rw [hstep]
    rfl
  | ok error =>
    rw [hd] at hdocument
    rw [← hdocument]
    exact step_of_ok hne hd

/-- The null value with a blank before it, in a session with diagnostics. -/
theorem step_nonobject_null :
    let s : Session := ⟨{}, .ofText {} "a:1:1: x", 1⟩
    ∃ problem, s.step " null" = (.rejected problem, ⟨{}, .ofText {} "a:1:1: x", 2⟩) ∧
      (s.step " null").2.answer (s.step " null").1 = .error (.session 2 problem) := by
  intro s
  have htrim : (Text.trim " null").toList = ['n', 'u', 'l', 'l'] := by decide
  have hnull : Document (Text.trim " null").toList .null := by
    rw [htrim]
    exact .mk .none .null .none
  exact step_nonobject s hnull rfl

/-- **The empty array clears the diagnostics**, though it is no object. -/
theorem step_emptyArray :
    let s : Session := ⟨{}, .ofText {} "a:1:1: x", 1⟩
    Document (Text.trim "[]").toList (.array []) ∧ (Datum.array []).isObject = false ∧
      s.step "[]" = (.replaced, ⟨{}, ⟨"", .empty⟩, 2⟩) ∧ s.current ≠ ⟨"", .empty⟩ := by
  intro s
  have htrim : (Text.trim "[]").toList = ['[', ']'] := by decide
  refine ⟨?_, rfl, rfl, by decide⟩
  rw [htrim]
  exact .mk .none (.emptyArray .none) .none

end Session

end BuildDiagnostics
