import BuildDiagnostics.Proofs.Session.Refusal
/-!
# What following a stream logs

The log of a run tells what became of each line. A document has a record
with its number and how many diagnostics it has, a line that is none has a
record with the failure that names its number, and a blank line has no
record (`entry`). Lines are numbered from where the session stands, so the
numbers go on from one stream to the next. The end of the stream has a
record of its own, but only when it was reached: a line that is not text
leaves nothing in the log, neither of itself nor of the end
(`log_watch`).
-/


namespace BuildDiagnostics

namespace Session

open Text

variable {σ : Type} {onUpdate : DiagnosticSet → σ → Run σ}

/-- What the log says about a line, by its number. -/
def entry (labels : Labels) (number : Nat) (line : String) : List Log.Record :=
  if Text.trim line = "" then []
  else
    match decode (Text.trim line) with
    | .ok error =>
      [⟨.debug, "envd_diag::session", "Session diagnostics replaced",
        [("line", toString number),
          ("diagnostics_count", toString (diagnosed labels error).size)]⟩]
    | .error problem =>
      [⟨.warn, "envd_diag::session", "Error processing session document",
        [("err", "Malformed session document on line " ++ toString number ++ ": " ++
          problem.text)]⟩]

/-- What the log says about some lines that are numbered one after the
other. -/
def journal (labels : Labels) (number : Nat) (lines : List String) : List Log.Record :=
  (lines.zipIdx number).flatMap fun line => entry labels line.2 line.1

theorem journal_cons (labels : Labels) (number : Nat) (line : String) (lines : List String) :
    journal labels number (line :: lines) =
      entry labels number line ++ journal labels (number + 1) lines := by
  rw [journal, List.zipIdx_cons, List.flatMap_cons, journal]

/-! ## One line -/

/-- **A line is logged as what it is**, with the number that it has been
given. -/
theorem log_watchLine (hquiet : ∀ set x, (onUpdate set x).log = []) (line : String) (s : Session)
    (x : σ) :
    (watchLine onUpdate line (s, x)).log = entry s.labels (s.lineCount + 1) line := by
  by_cases hblank : Text.trim line = ""
  · rw [watchLine, step_of_blank hblank, entry, if_pos hblank]
    rfl
  · rw [entry, if_neg hblank]
    cases hd : decode (Text.trim line) with
    | error problem =>
      rw [watchLine, step_of_error hblank hd]
      rfl
    | ok error =>
      have hcurrent := current_replace { s with lineCount := s.lineCount + 1 } error
      have hcount := lineCount_replace { s with lineCount := s.lineCount + 1 } error
      rw [watchLine, step_of_ok hblank hd]
      simp only [answer, Run.logged, Run.map, hquiet, records, hcurrent, hcount, List.append_nil]
      rfl

/-! ## Many lines -/

/-- **Lines are logged one after the other**, up to the first that is not
text. -/
theorem log_watchLines (hnever : ∀ set x, (onUpdate set x).error = none)
    (hquiet : ∀ set x, (onUpdate set x).log = []) (ls : List (List UInt8)) (s : Session) (x : σ) :
    (watchLines onUpdate ls (s, x)).log =
      journal s.labels (s.lineCount + 1) (leadingTexts ls) := by
  -- from any session and any state of the callback, since the first line changes both
  induction ls generalizing s x with
  | nil => rfl
  | cons l ls ih =>
    rw [watchLines]
    cases hl : decode? l with
    | none =>
      rw [leadingTexts_cons_of_none hl]
      rfl
    | some text =>
      obtain ⟨hok, hstate⟩ := watchLine_eq hnever text s x
      simp only
      rw [Run.log_andThen hok, hstate, log_watchLine hquiet, ih, leadingTexts_cons_of_some hl,
        journal_cons, labels_step, lineCount_step]

/-- All lines are decoded when all are text. -/
theorem length_leadingTexts_eq_iff {ls : List (List UInt8)} :
    (leadingTexts ls).length = ls.length ↔ ∀ l ∈ ls, (decode? l).isSome := by
  induction ls with
  | nil => exact ⟨fun _ l hl => (by cases hl), fun _ => rfl⟩
  | cons l ls ih =>
    rw [List.forall_mem_cons]
    cases hl : decode? l with
    | none =>
      rw [leadingTexts_cons_of_none hl]
      exact ⟨fun h => (by cases h), fun h => (by cases h.1)⟩
    | some text =>
      rw [leadingTexts_cons_of_some hl, List.length_cons, List.length_cons,
        Nat.add_right_cancel_iff, ih]
      exact ⟨fun h => ⟨rfl, h⟩, fun h => h.2⟩

/-! ## A whole stream -/

/-- **The log mirrors the stream.** The callback neither fails nor logs. Then
the log of a run has the entries of the lines before the first that is not
text, in the order of the lines and numbered on from those that the session
had taken before; the diagnostics that the entry of a document counts are
those that the session has after it. A record of the end follows, with the
number of the last line, just when every line of the stream is text. -/
theorem log_watch (hnever : ∀ set x, (onUpdate set x).error = none)
    (hquiet : ∀ set x, (onUpdate set x).log = []) (bytes : List UInt8) (s : Session) (x : σ) :
    let texts := leadingTexts (lines bytes)
    (watch onUpdate bytes (s, x)).log =
      journal s.labels (s.lineCount + 1) texts ++
        (if texts.length = (lines bytes).length then
          [⟨.info, "envd_diag::session", "Session stream ended",
            [("lines", toString (s.lineCount + (lines bytes).length))]⟩]
        else []) ∧
    ∀ (i : Nat) (hi : i < texts.length) (error : Option String), document? texts[i] = some error →
      (s.after (texts.take (i + 1))).current = diagnosed s.labels error := by
  intro texts
  refine ⟨?_, fun i hi error hdoc => current_after_document hi hdoc⟩
  obtain ⟨hstate, herror⟩ := watchLines_eq hnever (lines bytes) s x
  by_cases htexts : ∀ l ∈ lines bytes, (decode? l).isSome
  · have hlength := length_leadingTexts_eq_iff.2 htexts
    rw [if_pos htexts] at herror
    rw [watch, Run.log_andThen herror, log_watchLines hnever hquiet, hstate, if_pos hlength,
      closing, lineCount_after, hlength]
    rfl
  · rw [if_neg htexts] at herror
    rw [watch, Run.andThen_of_error herror, log_watchLines hnever hquiet,
      if_neg (mt length_leadingTexts_eq_iff.1 htexts), List.append_nil]

/-- The second stream of a session: a document with an error text, a blank
line and a line that is rejected; and the same with a line that is not text
before a document. -/
theorem log_watch_second :
    let s : Session := { labels := {}, lineCount := 7 }
    let head := encode "\x7b\"error\":\"a:1:1: x\"\x7d\n \r\nx"
    let entries : List Log.Record :=
      [⟨.debug, "envd_diag::session", "Session diagnostics replaced",
        [("line", "8"), ("diagnostics_count", "1")]⟩,
      ⟨.warn, "envd_diag::session", "Error processing session document",
        [("err", "Malformed session document on line 10: expected value at line 1 column 1")]⟩]
    (∀ set sets, (keep set sets).error = none) ∧ (∀ set sets, (keep set sets).log = []) ∧
      (watch keep head (s, [])).log =
        entries ++ [⟨.info, "envd_diag::session", "Session stream ended", [("lines", "10")]⟩] ∧
      (watch keep (head ++ 10 :: 255 :: encode "\n\x7b\x7d") (s, [])).log = entries := by
  intro s head entries
  have hnever : ∀ set sets, (keep set sets).error = none := fun _ _ => rfl
  have hquiet : ∀ set sets, (keep set sets).log = [] := fun _ _ => rfl
  have hhead := (log_watch hnever hquiet head s []).1
  have hwhole := (log_watch hnever hquiet (head ++ 10 :: 255 :: encode "\n\x7b\x7d") s []).1
  have hentries : journal {} 8 [document "a:1:1: x", " ", "x"] = entries := by
    have hne : document "a:1:1: x" ≠ "" := document_ne_empty _
    rw [journal_cons, entry, trim_document, if_neg hne, decode_document]
    decide
  have htexts : leadingTexts (lines head) = [document "a:1:1: x", " ", "x"] := by decide
  have htexts' : leadingTexts (lines (head ++ 10 :: 255 :: encode "\n\x7b\x7d")) =
      [document "a:1:1: x", " ", "x"] := by decide
  have hall : (leadingTexts (lines head)).length = (lines head).length := by decide
  have hlast : toString (s.lineCount + (lines head).length) = "10" := by decide
  have hsome : (leadingTexts (lines (head ++ 10 :: 255 :: encode "\n\x7b\x7d"))).length ≠
      (lines (head ++ 10 :: 255 :: encode "\n\x7b\x7d")).length := by decide
  rw [if_pos hall, htexts, hentries, hlast] at hhead
  rw [if_neg hsome, htexts', hentries, List.append_nil] at hwhole
  exact ⟨hnever, hquiet, hhead, hwhole⟩

end Session

end BuildDiagnostics
