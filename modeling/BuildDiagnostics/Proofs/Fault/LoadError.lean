import BuildDiagnostics.Fault.LoadError
import BuildDiagnostics.Proofs.Location.Token
import Mathlib.Data.List.Infix
/-!
# Failed loads, exactly

A report of a failed load is a marker, a target, a location and a reason
(`IsReport`), and a text starts with one such report at most. A line is
searched marker by marker, and a marker is sought after the end of the last
one only. Since no marker starts within another, that misses none of them
(`afterEach_eq_filterMap`), and so the place that is found is that of the
first report in the line, whatever stands before it that only looks like
one (`find?_leftmost`).
-/


namespace BuildDiagnostics

namespace Text

variable {α β : Type} [DecidableEq α]

/-! ## Every place of a token -/

/-- A token starts only where its first element stands. -/
theorem filterMap_tails_append {a : α} {run : List α} (h : a ∉ run) (t s : List α) :
    (run ++ s).tails.filterMap (after? (a :: t)) = s.tails.filterMap (after? (a :: t)) := by
  induction run with
  | nil => rfl
  | cons c run ih =>
    obtain ⟨hc, hrun⟩ := not_or.1 (mt List.mem_cons.2 h)
    have hnone : after? (a :: t) (c :: (run ++ s)) = none := by
      refine Option.eq_none_iff_forall_ne_some.2 fun rest hrest => hc ?_
      exact (List.cons.inj (after?_eq_some_iff.1 hrest)).1.symm
    rw [List.cons_append, List.tails, List.filterMap_cons_none hnone, ih hrun]

/-- **Going on after a token misses none**, when its first element is not in
it again. -/
theorem afterEach_eq_filterMap {a : α} {t : List α} (h : a ∉ t) (skip : ℕ) (s : List α) :
    afterEach (a :: t) skip s = (s.drop skip).tails.filterMap (after? (a :: t)) := by
  -- with any number of elements to skip, since a token that is found sets it
  induction s generalizing skip with
  | nil =>
    rw [List.drop_nil]
    rfl
  | cons c s ih =>
    cases skip with
    | succ skip => exact ih skip
    | zero =>
      rw [afterEach, List.drop_zero, List.tails]
      cases hafter : after? (a :: t) (c :: s) with
      | none => rw [List.filterMap_cons_none hafter, ih 0, List.drop_zero]
      | some rest =>
        -- what is skipped is the rest of the token, where no other starts
        obtain ⟨rfl, hs⟩ := List.cons.inj (after?_eq_some_iff.1 hafter)
        have hrest : s.drop ((c :: t).length - 1) = rest := hs ▸ List.drop_left
        have htails : s.tails.filterMap (after? (c :: t)) =
            rest.tails.filterMap (after? (c :: t)) :=
          hs ▸ filterMap_tails_append h t rest
        rw [List.filterMap_cons_some hafter, htails, ← hrest, ← ih]

omit [DecidableEq α] in
/-- What is found first among the ends of a list is at the least place. -/
theorem findSome?_tails_eq_some_iff {f : List α → Option β} {s : List α} {b : β} :
    s.tails.findSome? f = some b ↔
      ∃ i, f (s.drop i) = some b ∧ ∀ j < i, f (s.drop j) = none := by
  induction s with
  | nil =>
    have hall : ∀ i, f (([] : List α).drop i) = f [] := fun i => by rw [List.drop_nil]
    simp only [hall, List.tails, List.findSome?_singleton]
    constructor
    · exact fun h => ⟨0, h, fun j hj => absurd hj (Nat.not_lt_zero j)⟩
    · exact fun ⟨_, h, _⟩ => h
  | cons c s ih =>
    rw [List.tails, List.findSome?_cons]
    cases hfirst : f (c :: s) with
    | some b' =>
      constructor
      · exact fun h => ⟨0, hfirst.trans h, fun j hj => absurd hj (Nat.not_lt_zero j)⟩
      · rintro ⟨i, hi, hleast⟩
        cases i with
        | zero => exact hfirst.symm.trans hi
        | succ i =>
          have hnone : f (c :: s) = none := hleast 0 (Nat.succ_pos i)
          rw [hfirst] at hnone
          cases hnone
    | none =>
      rw [ih]
      constructor
      · rintro ⟨i, hi, hleast⟩
        refine ⟨i + 1, hi, fun j hj => ?_⟩
        cases j with
        | zero => exact hfirst
        | succ j => exact hleast j (Nat.lt_of_succ_lt_succ hj)
      · rintro ⟨i, hi, hleast⟩
        cases i with
        | zero =>
          rw [List.drop_zero, hfirst] at hi
          cases hi
        | succ i => exact ⟨i, hi, fun j hj => hleast (j + 1) (Nat.succ_lt_succ hj)⟩

end Text

namespace LoadError

open Text

/-! ## Reports -/

/-- A target as reports name it. -/
structure IsTarget (target : List Char) : Prop where
  /-- It has two characters or more. -/
  two_le_length : 2 ≤ target.length
  /-- None of them is a space. -/
  not_isSpace : ∀ c ∈ target, isSpace c = false
  /-- The last of them is a colon. -/
  getLast?_eq : target.getLast? = some ':'

/-- A text that starts with a report of a failed load, and the place that
the report names: a marker, a target, a blank, the token of the place, a
colon with a blank, and the first character of a reason. -/
def IsReport (s : List Char) (l : Location) : Prop :=
  ∃ (target : List Char) (reason : Char) (rest : List Char),
    s = marker ++ (target ++ ' ' :: (l.text.toList ++ ':' :: ' ' :: reason :: rest)) ∧
    IsTarget target ∧ Location.IsPath l.path.toList ∧ isLineEnd reason = false

/-- **A target is read where it stands.** It ends at the blank after it,
which is a space. -/
theorem afterTarget?_eq_some_iff {s t : List Char} :
    afterTarget? s = some t ↔ ∃ target, s = target ++ ' ' :: t ∧ IsTarget target := by
  constructor
  · intro h
    simp only [afterTarget?] at h
    split at h
    · next htarget =>
      obtain ⟨hs, hrun, -⟩ := takeWhile_and_dropWhile_iff.1
        (⟨rfl, after?_eq_some_iff.1 h⟩ : s.takeWhile (!isSpace ·) = _ ∧
          s.dropWhile (!isSpace ·) = _)
      exact ⟨_, hs, htarget.1, fun c hc => by simpa using hrun c hc, htarget.2⟩
    · cases h
  · rintro ⟨target, rfl, htarget⟩
    have hrun : ∀ c ∈ target, (!isSpace c) = true := fun c hc => by
      rw [htarget.not_isSpace c hc]
      rfl
    have hrest : StartsOutside (!isSpace ·) (' ' :: t) := startsOutside_cons.2 (by decide)
    simp only [afterTarget?]
    rw [takeWhile_append hrun hrest, dropWhile_append hrun hrest,
      if_pos ⟨htarget.two_le_length, htarget.getLast?_eq⟩]
    exact after?_eq_some_iff.2 rfl

/-- **A report is read where it stands.** -/
theorem after?_bind_afterMarker?_eq_some_iff {s : List Char} {l : Location} :
    (after? marker s).bind afterMarker? = some l ↔ IsReport s l := by
  simp only [afterMarker?, Option.bind_eq_bind, Option.bind_eq_some_iff, after?_eq_some_iff,
    afterTarget?_eq_some_iff]
  constructor
  · rintro ⟨s₁, rfl, s₂, ⟨target, rfl, htarget⟩, ⟨l', s₃⟩, hread, s₄, rfl, reason, hhead, h⟩
    obtain ⟨rfl, hpath, -⟩ := Location.read?_eq_some_iff_text.1 hread
    obtain ⟨rest, rfl⟩ := List.head?_eq_some_iff.1 hhead
    split at h
    · cases h
    · next hreason =>
      obtain rfl := Option.some.inj h
      exact ⟨target, reason, rest, rfl, htarget, hpath, Bool.eq_false_iff.2 hreason⟩
  · rintro ⟨target, reason, rest, rfl, htarget, hpath, hreason⟩
    -- the colon after the place is no digit, so its column ends there
    have hread : Location.read? (l.text.toList ++ ':' :: ' ' :: reason :: rest) =
        some (l, ':' :: ' ' :: reason :: rest) :=
      Location.read?_eq_some_iff_text.2 ⟨rfl, hpath, startsOutside_cons.2 (by decide)⟩
    exact ⟨_, rfl, _, ⟨target, rfl, htarget⟩, _, hread, _, rfl, reason, rfl, by rw [hreason]; rfl⟩

/-! ## Searching a line -/

/-- The markers are all the places of a line where one stands. -/
theorem afterEach_marker (line : List Char) :
    afterEach marker 0 line = line.tails.filterMap (after? marker) := by
  obtain ⟨a, t, hmarker, hnot⟩ : ∃ a t, marker = a :: t ∧ a ∉ t := ⟨_, _, rfl, by decide⟩
  rw [hmarker, afterEach_eq_filterMap hnot, List.drop_zero]

/-- So the search tries every place of the line. -/
theorem find?_eq_findSome?_tails (line : List Char) :
    find? line = line.tails.findSome? fun s => (after? marker s).bind afterMarker? := by
  rw [find?, afterEach_marker, ← List.head?_filterMap, List.filterMap_filterMap,
    List.head?_filterMap]

/-- **The first report of a line is found**, and nothing else. A place is
found just when a report at some index of the line names it and no report
starts at a smaller index. The search goes from the end of one marker to
the next, yet the markers that it comes by are all that the line holds; and
it finds a place as soon as any index has a report, whatever markers
without one come before. -/
theorem find?_leftmost (line : List Char) :
    (∀ l, find? line = some l ↔
      ∃ i, IsReport (line.drop i) l ∧ ∀ j < i, ∀ l', ¬ IsReport (line.drop j) l') ∧
    afterEach marker 0 line = line.tails.filterMap (after? marker) ∧
    ((find? line).isSome ↔ ∃ i l, IsReport (line.drop i) l) := by
  have hnone : ∀ s, (after? marker s).bind afterMarker? = none ↔ ∀ l, ¬ IsReport s l := fun s => by
    simp only [Option.eq_none_iff_forall_ne_some, ne_eq, after?_bind_afterMarker?_eq_some_iff]
  refine ⟨fun l => ?_, afterEach_marker line, ?_⟩
  · rw [find?_eq_findSome?_tails, findSome?_tails_eq_some_iff]
    simp only [after?_bind_afterMarker?_eq_some_iff, hnone]
  · rw [find?_eq_findSome?_tails, List.findSome?_isSome_iff]
    simp only [Option.isSome_iff_exists, after?_bind_afterMarker?_eq_some_iff]
    constructor
    · rintro ⟨s, hs, l, hl⟩
      obtain ⟨a, rfl⟩ := (List.mem_tails s line).1 hs
      exact ⟨a.length, l, by rwa [List.drop_left]⟩
    · rintro ⟨i, l, hl⟩
      exact ⟨line.drop i, (List.mem_tails _ _).2 (List.drop_suffix i line), l, hl⟩

/-- The text after the first marker is no report, so the next marker is tried. -/
example :
    (find? "Error: cannot load x Error: cannot load a: b:1:2: c".toList).map
      (fun l => (l.path, l.line.toNat, l.column.toNat)) = some ("b", 1, 2) := by
  cbv

end LoadError

end BuildDiagnostics
