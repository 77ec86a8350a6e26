import BuildDiagnostics.Proofs.Session.Delivery
/-!
# A callback that refuses a set

A callback keeps the sets that it is given and fails once it has kept `n`
of them. With no more than `n` documents in a stream it is as good as one
that never fails. With more, the run ends at the document after the first
`n`: that one is not kept, but the session has taken its line, so the
diagnostics are its own and the count is that of its line
(`watch_keepUpTo`). The rest of the stream has no part in the run.
-/


namespace BuildDiagnostics

namespace Session

open Text

/-- A callback that keeps what it is given, and fails when it has kept `n`
sets already. -/
def keepUpTo (n : Nat) (failure : ToolError) (set : DiagnosticSet) (sets : List DiagnosticSet) :
    Run (List DiagnosticSet) :=
  if sets.length = n then ⟨sets, [], some failure⟩ else keep set sets

variable {n : Nat} {failure : ToolError} {s : Session}

/-! ## Without a stream -/

theorem deliver_keep (sets kept : List DiagnosticSet) :
    deliver keep sets kept = .pure (kept ++ sets) := by
  induction sets generalizing kept with
  | nil => rw [deliver, List.append_nil]
  | cons set sets ih =>
    rw [deliver, keep, Run.pure_andThen, ih, List.append_assoc, List.singleton_append]

/-- Sets that there is room for are kept. -/
theorem deliver_keepUpTo_of_le {sets kept : List DiagnosticSet}
    (h : kept.length + sets.length ≤ n) :
    deliver (keepUpTo n failure) sets kept = .pure (kept ++ sets) := by
  induction sets generalizing kept with
  | nil => rw [deliver, List.append_nil]
  | cons set sets ih =>
    rw [List.length_cons] at h
    have hroom : kept.length ≠ n := by omega
    have hrest : (kept ++ [set]).length + sets.length ≤ n := by
      rw [List.length_append, List.length_singleton]
      omega
    rw [deliver, keepUpTo, if_neg hroom, keep, Run.pure_andThen, ih hrest, List.append_assoc,
      List.singleton_append]

/-- **The first `n` sets are kept**, and the next one is refused. -/
theorem deliver_keepUpTo_of_lt {sets : List DiagnosticSet} (h : n < sets.length) :
    deliver (keepUpTo n failure) sets [] = ⟨sets.take n, [], some failure⟩ := by
  have hcut : sets.take n ++ sets[n] :: sets.drop (n + 1) = sets := by
    rw [List.getElem_cons_drop, List.take_append_drop]
  have hkept : (sets.take n).length = n := List.length_take_of_le (Nat.le_of_lt h)
  have hfirst : deliver (keepUpTo n failure) (sets.take n) [] = .pure (sets.take n) :=
    deliver_keepUpTo_of_le (by rw [hkept, List.length_nil]; omega)
  have hnext : keepUpTo n failure sets[n] (sets.take n) = ⟨sets.take n, [], some failure⟩ :=
    if_pos hkept
  conv => lhs; rw [← hcut]
  rw [deliver_append, hfirst, Run.pure_andThen, deliver, hnext, Run.andThen_of_error rfl]

/-- So it fails just when there are more than `n`. -/
theorem error_deliver_keepUpTo (n : Nat) (failure : ToolError) (sets : List DiagnosticSet) :
    (deliver (keepUpTo n failure) sets []).error =
      if n < sets.length then some failure else none := by
  split
  · next h => rw [deliver_keepUpTo_of_lt h]
  · next h =>
    rw [deliver_keepUpTo_of_le (by rw [List.length_nil]; omega)]
    rfl

/-! ## A stream with room for its sets -/

/-- One line, when there is room for the set that it may give. -/
theorem watchLine_keepUpTo_of_le {kept : List DiagnosticSet} {line : String}
    (h : kept.length + (s.updates [line]).length ≤ n) :
    watchLine (keepUpTo n failure) line (s, kept) = watchLine keep line (s, kept) := by
  rw [updates] at h
  rw [watchLine, watchLine]
  generalize s.step line = stepped at h ⊢
  obtain ⟨outcome, next⟩ := stepped
  cases outcome with
  | blank => rfl
  | rejected problem => rfl
  | replaced =>
    have hroom : kept.length ≠ n := by
      simp only [answer, updates, List.length_singleton] at h
      omega
    simp only [answer, keepUpTo, if_neg hroom]

/-- **Lines whose sets there is room for** are followed as with a callback
that never fails. -/
theorem watchLines_keepUpTo_of_le {ls : List (List UInt8)} {kept : List DiagnosticSet}
    (h : kept.length + (s.updates (leadingTexts ls)).length ≤ n) :
    watchLines (keepUpTo n failure) ls (s, kept) = watchLines keep ls (s, kept) := by
  -- with any sets kept before, since each document of the stream takes some of the room
  induction ls generalizing s kept with
  | nil => rfl
  | cons l ls ih =>
    rw [watchLines, watchLines]
    cases hl : decode? l with
    | none => rfl
    | some text =>
      rw [leadingTexts_cons_of_some hl, updates_cons, List.length_append] at h
      obtain ⟨hstate, herror⟩ := watchLine_deliver keep text s kept
      rw [deliver_keep] at hstate herror
      have hrest : (kept ++ s.updates [text]).length +
          ((s.step text).2.updates (leadingTexts ls)).length ≤ n := by
        rw [List.length_append]
        omega
      simp only [watchLine_keepUpTo_of_le (by omega : kept.length + (s.updates [text]).length ≤ n)]
      rw [Run.andThen, Run.andThen, herror, hstate]
      simp only [Run.pure, ih hrest]

/-! ## The line that is refused -/

/-- A line that makes the documents more than `n` is a document, and there
are `n` before it. -/
theorem exists_document_of_lt {texts : List String} {j : Nat} (hj : j < texts.length)
    (hle : ((texts.take j).filterMap document?).length ≤ n)
    (hlt : n < ((texts.take (j + 1)).filterMap document?).length) :
    ((texts.take j).filterMap document?).length = n ∧
      ∃ error, document? texts[j] = some error := by
  rw [List.take_succ_eq_append_getElem hj, List.filterMap_append, List.length_append] at hlt
  cases hdoc : document? texts[j] with
  | none =>
    rw [List.filterMap_cons_none hdoc, List.filterMap_nil, List.length_nil] at hlt
    omega
  | some error =>
    rw [List.filterMap_cons_some hdoc, List.filterMap_nil, List.length_singleton] at hlt
    exact ⟨by omega, error, rfl⟩

/-- After a document the diagnostics are its own, -/
theorem current_after_document {texts : List String} {j : Nat} (hj : j < texts.length)
    {error : Option String} (h : document? texts[j] = some error) :
    (s.after (texts.take (j + 1))).current = diagnosed s.labels error := by
  have hlabels := labels_after s (texts.take j)
  rw [after_take_succ s hj]
  obtain ⟨hnone, -⟩ | ⟨error', hsome, hstep⟩ := step_cases (s.after (texts.take j)) texts[j]
  · rw [hnone] at h
    cases h
  · obtain rfl : error' = error := Option.some.inj (hsome.symm.trans h)
    rw [hstep, current_replace]
    simp only [hlabels]

/-- and they are the set that comes after those of the documents before. -/
theorem updates_getElem?_document {texts : List String} {j : Nat} (hj : j < texts.length)
    {error : Option String} (h : document? texts[j] = some error) :
    (s.updates texts)[((texts.take j).filterMap document?).length]? =
      some (diagnosed s.labels error) := by
  have hcut : texts.take j ++ texts[j] :: texts.drop (j + 1) = texts := by
    rw [List.getElem_cons_drop, List.take_append_drop]
  have hdocuments : texts.filterMap document? =
      (texts.take j).filterMap document? ++ error :: (texts.drop (j + 1)).filterMap document? := by
    rw [← List.filterMap_cons_some h, ← List.filterMap_append, hcut]
  rw [updates_eq, List.getElem?_map, hdocuments, List.getElem?_append_right (Nat.le_refl _),
    Nat.sub_self]
  rfl

/-! ## Any stream -/

/-- **The law of a callback that refuses.** It keeps sets and fails when it
has kept `n` of them. When there are more documents than that before the
first line that is not text, the run ends with the failure of the callback
and the first `n` sets are kept. There is a line that is a document with `n`
others before it, and it is the last that the session has taken: the
diagnostics are those of that document, and the count is that of its line.
When there are no more than `n` documents, the run is that of a callback
that never fails. And once the callback has failed, a stream can go on as it
likes after a line that has ended. -/
theorem watch_keepUpTo (n : Nat) (failure : ToolError) (s : Session) (bytes : List UInt8) :
    let texts := leadingTexts (lines bytes)
    let documents := texts.filterMap document?
    let run := watch (keepUpTo n failure) bytes (s, [])
    (n < documents.length →
      run.error = some failure ∧
      run.state.2 = (s.updates texts).take n ∧
      ∃ (j : Nat) (hj : j < texts.length) (error : Option String),
        document? texts[j] = some error ∧
        ((texts.take j).filterMap document?).length = n ∧
        run.state.1 = s.after (texts.take (j + 1)) ∧
        run.state.1.current = diagnosed s.labels error ∧
        (s.updates texts)[n]? = some run.state.1.current ∧
        run.state.1.lineCount = s.lineCount + (j + 1)) ∧
    (documents.length ≤ n → run = watch keep bytes (s, [])) ∧
    (n < documents.length → (bytes = [] ∨ bytes.getLast? = some 10) →
      ∀ more, watch (keepUpTo n failure) (bytes ++ more) (s, []) = run) := by
  intro texts documents run
  have hcount : ∀ ts, (s.updates ts).length = (ts.filterMap document?).length := fun ts => by
    rw [updates_eq, List.length_map]
  obtain ⟨hkept, herror, -, hstop⟩ :=
    watchLines_deliver (keepUpTo n failure) (lines bytes) s []
  have hfailed : n < documents.length →
      (watchLines (keepUpTo n failure) (lines bytes) (s, [])).error = some failure := fun h => by
    rw [herror, error_deliver_keepUpTo, hcount, if_pos h, Option.some_or]
  refine ⟨fun h => ?_, fun h => ?_, fun h hend more => ?_⟩
  · have hgiven : deliver (keepUpTo n failure) (s.updates texts) [] = _ :=
      deliver_keepUpTo_of_lt (by rw [hcount]; exact h)
    rw [hgiven] at hkept hstop
    obtain ⟨j, hj, htaken, hrefused, hreached⟩ := hstop failure rfl
    simp only [error_deliver_keepUpTo, hcount] at htaken hrefused
    have hle : ¬ n < ((texts.take j).filterMap document?).length := fun hlt => by
      rw [if_pos hlt] at htaken
      cases htaken
    have hlt : ¬ ((texts.take (j + 1)).filterMap document?).length ≤ n := fun hle => by
      rw [if_neg (Nat.not_lt.2 hle)] at hrefused
      cases hrefused
    obtain ⟨hbefore, error, hdoc⟩ :=
      exists_document_of_lt hj (Nat.le_of_not_lt hle) (Nat.lt_of_not_le hlt)
    have hstate : run.state.1 = s.after (texts.take (j + 1)) := by rw [← hreached, state_watch]
    have hcurrent := current_after_document (s := s) hj hdoc
    refine ⟨by rw [error_watch, hfailed h], by rw [state_watch, hkept], j, hj, error, hdoc, hbefore,
      hstate, by rw [hstate, hcurrent], ?_, ?_⟩
    · rw [hstate, hcurrent, ← hbefore]
      exact updates_getElem?_document hj hdoc
    · rw [hstate, lineCount_after, List.length_take_of_le hj]
  · have hroom : ([] : List DiagnosticSet).length + (s.updates texts).length ≤ n := by
      rw [hcount, List.length_nil, Nat.zero_add]
      exact h
    simp only [run, watch, watchLines_keepUpTo_of_le hroom]
  · have hnone : ∀ next, (watchLines (keepUpTo n failure) (lines bytes) (s, [])).andThen next =
        watchLines (keepUpTo n failure) (lines bytes) (s, []) :=
      Run.andThen_of_error (hfailed h)
    simp only [run, watch]
    rw [lines_append hend, watchLines_append, hnone, hnone]

end Session

end BuildDiagnostics
