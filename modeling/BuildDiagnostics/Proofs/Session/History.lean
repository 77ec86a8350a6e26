import BuildDiagnostics.Session
/-!
# What a session remembers

A session that has taken some lines remembers two things: how many they
were, and the diagnostics of the last of them that was a document
(`current_after`). One step is either of three (`step_cases`): the line is
blank, it is rejected, or it replaces the diagnostics. The first two leave
the diagnostics alone, and the third forgets the old ones, so nothing of
an earlier document or of a line that was none is left in a later set.
-/


namespace BuildDiagnostics

namespace DiagnosticSet

/-- A text that is empty has no diagnostics and no message. -/
theorem ofText_empty (labels : Labels) : ofText labels "" = ⟨"", .empty⟩ := rfl

end DiagnosticSet

namespace Session

/-- The session after some lines, one after the other. -/
def after (s : Session) (lines : List String) : Session :=
  lines.foldl (fun s line => (s.step line).2) s

/-- The error text of a line that is a document, or none if it has no such
text. A line that is blank or not a document has nothing here. -/
def document? (line : String) : Option (Option String) :=
  (decode (Text.trim line)).toOption

/-- The diagnostics of a document, by its error text. -/
def diagnosed (labels : Labels) : Option String → DiagnosticSet
  | none => ⟨"", .empty⟩
  | some text => .ofText labels text

/-! ## One line -/

/-- A blank line is no document. -/
theorem decode_empty : (decode "").toOption = none := rfl

/-- **Replacing forgets.** What a document leaves is what its error text
alone gives. -/
theorem current_replace (s : Session) (error : Option String) :
    (s.replace error).current = diagnosed s.labels error := by
  cases error with
  | none => rfl
  | some text =>
    rw [replace, Option.bind_some, diagnosed, DiagnosticSet.ofText]
    cases Fault.ofText? text with
    | none => rfl
    | some fault => rfl

/-- It keeps the labels and the count. -/
theorem labels_replace (s : Session) (error : Option String) :
    (s.replace error).labels = s.labels := by
  unfold replace
  split
  · rfl
  · rfl

theorem lineCount_replace (s : Session) (error : Option String) :
    (s.replace error).lineCount = s.lineCount := by
  unfold replace
  split
  · rfl
  · rfl

/-- What a line of each kind does. -/
theorem step_of_blank {s : Session} {line : String} (h : Text.trim line = "") :
    s.step line = (.blank, { s with lineCount := s.lineCount + 1 }) := by
  rw [step, if_pos h]

theorem step_of_error {s : Session} {line : String} {problem : Json.Problem}
    (h : Text.trim line ≠ "") (hd : decode (Text.trim line) = .error problem) :
    s.step line = (.rejected problem, { s with lineCount := s.lineCount + 1 }) := by
  rw [step, if_neg h, hd]

theorem step_of_ok {s : Session} {line : String} {error : Option String}
    (h : Text.trim line ≠ "") (hd : decode (Text.trim line) = .ok error) :
    s.step line = (.replaced, { s with lineCount := s.lineCount + 1 }.replace error) := by
  rw [step, if_neg h, hd]

/-- **What a step can do.** The line is no document, and only the count
moves; or it is one, and the diagnostics are its own. -/
theorem step_cases (s : Session) (line : String) :
    (document? line = none ∧ (s.step line).2 = { s with lineCount := s.lineCount + 1 }) ∨
    ∃ error, document? line = some error ∧
      (s.step line).2 = { s with lineCount := s.lineCount + 1 }.replace error := by
  by_cases hblank : Text.trim line = ""
  · refine .inl ⟨?_, by rw [step_of_blank hblank]⟩
    rw [document?, hblank, decode_empty]
  · cases hd : decode (Text.trim line) with
    | error problem =>
      refine .inl ⟨?_, by rw [step_of_error hblank hd]⟩
      rw [document?, hd]
      rfl
    | ok error =>
      refine .inr ⟨error, ?_, by rw [step_of_ok hblank hd]⟩
      rw [document?, hd]
      rfl

/-! ## Many lines -/

/-- A step keeps the labels and counts the line. -/
theorem labels_step (s : Session) (line : String) : (s.step line).2.labels = s.labels := by
  obtain ⟨-, h⟩ | ⟨error, -, h⟩ := step_cases s line
  · rw [h]
  · rw [h, labels_replace]

theorem lineCount_step (s : Session) (line : String) :
    (s.step line).2.lineCount = s.lineCount + 1 := by
  obtain ⟨-, h⟩ | ⟨error, -, h⟩ := step_cases s line
  · rw [h]
  · rw [h, lineCount_replace]

theorem after_cons (s : Session) (line : String) (lines : List String) :
    s.after (line :: lines) = (s.step line).2.after lines := by
  rw [after, List.foldl_cons, ← after]

theorem labels_after (s : Session) (lines : List String) : (s.after lines).labels = s.labels := by
  induction lines generalizing s with
  | nil => rfl
  | cons line lines ih => rw [after_cons, ih, labels_step]

/-- Every line is counted, whatever it is. -/
theorem lineCount_after (s : Session) (lines : List String) :
    (s.after lines).lineCount = s.lineCount + lines.length := by
  induction lines generalizing s with
  | nil => rfl
  | cons line lines ih =>
    rw [after_cons, ih, lineCount_step, List.length_cons]
    omega

/-- One more line is one more step. -/
theorem after_take_succ (s : Session) {lines : List String} {k : Nat} (hk : k < lines.length) :
    s.after (lines.take (k + 1)) = ((s.after (lines.take k)).step lines[k]).2 := by
  rw [List.take_succ_eq_append_getElem hk, after, List.foldl_append]
  rfl

/-- **The last document decides.** After some lines the diagnostics are
those of the last document among them, and what they were when there is
none. -/
theorem current_after (s : Session) (lines : List String) :
    (s.after lines).current =
      ((lines.filterMap document?).getLast?.map (diagnosed s.labels)).getD s.current := by
  induction lines generalizing s with
  | nil => rfl
  | cons line lines ih =>
    rw [after_cons, ih, labels_step]
    obtain ⟨hnone, h⟩ | ⟨error, hsome, h⟩ := step_cases s line
    · -- no document: what the session had is there for the lines that follow
      rw [List.filterMap_cons_none hnone, h]
    · -- the new diagnostics are there for the lines that follow to replace
      rw [List.filterMap_cons_some hsome, List.getLast?_cons, h, current_replace]
      cases (lines.filterMap document?).getLast? with
      | none => rfl
      | some later => rfl

/-- **The law of a session's run.** A new session has taken some lines.
Its diagnostics are those of the error text of the last line that was a
document, as that text alone gives them, and there are none when no line
was a document or the last had no error text; an empty text gives none
either. Of the single lines, the one with `k` others before it is answered
with nothing when it is blank and with a failure on line `k + 1` when it is
malformed, and either leaves the diagnostics as they were; a document is
answered with its own diagnostics, which are then the session's. -/
theorem after_fresh (labels : Labels) (lines : List String) :
    let fresh : Session := { labels }
    (fresh.after lines).current =
        (match (lines.filterMap document?).getLast? with
          | some (some text) => DiagnosticSet.ofText labels text
          | some none => ⟨"", .empty⟩
          | none => ⟨"", .empty⟩) ∧
      DiagnosticSet.ofText labels "" = ⟨"", .empty⟩ ∧
      ∀ (k : Nat) (hk : k < lines.length),
        let before := fresh.after (lines.take k)
        let line := Text.trim lines[k]
        let outcome := (before.step lines[k]).1
        let next := (before.step lines[k]).2
        next = fresh.after (lines.take (k + 1)) ∧
        (line = "" → next.answer outcome = .ok none ∧ next.current = before.current) ∧
        (∀ problem, line ≠ "" → decode line = .error problem →
          next.answer outcome = .error (.session (k + 1) problem) ∧
          next.current = before.current) ∧
        (∀ error, line ≠ "" → decode line = .ok error →
          next.answer outcome = .ok (some next.current) ∧
          next.current = diagnosed labels error) := by
  intro fresh
  refine ⟨?_, DiagnosticSet.ofText_empty labels, ?_⟩
  · rw [current_after]
    cases (lines.filterMap document?).getLast? with
    | none => rfl
    | some error =>
      cases error with
      | none => rfl
      | some text => rfl
  · intro k hk before line outcome next
    -- the count before the line is all that a failure takes from the history
    have hcount : before.lineCount = k := by
      have hlen := List.length_take_of_le (Nat.le_of_lt hk)
      rw [lineCount_after, hlen]
      exact Nat.zero_add k
    have hlabels : before.labels = labels := labels_after fresh _
    refine ⟨(after_take_succ fresh hk).symm, ?_, ?_, ?_⟩
    · intro hblank
      have hstep := step_of_blank (s := before) hblank
      exact ⟨by simp only [outcome, hstep, answer], by simp only [next, hstep]⟩
    · intro problem hne hd
      have hstep := step_of_error (s := before) hne hd
      exact ⟨by simp only [next, outcome, hstep, answer, hcount], by simp only [next, hstep]⟩
    · intro error hne hd
      have hstep := step_of_ok (s := before) hne hd
      refine ⟨by simp only [outcome, hstep, answer], ?_⟩
      have hcurrent : next.current = diagnosed before.labels error := by
        simp only [next, hstep, current_replace]
      rw [hcurrent, hlabels]

end Session

end BuildDiagnostics
