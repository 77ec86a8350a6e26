import BuildDiagnostics.Proofs.Session.Document
import BuildDiagnostics.Proofs.Text.Lines
import BuildDiagnostics.Session.Stream
/-!
# What following a stream comes to

With a callback that never fails, following a stream is taking its lines
one after the other, up to the first that is not text: the session is then
the one after those lines, and the callback was given the sets that the
session answered with, in order and once each (`watchLines_eq`). So a
stream can be followed in parts, cut after any of its lines
(`watch_law`).
-/


namespace BuildDiagnostics

namespace Session

open Text

variable {σ : Type} {onUpdate : DiagnosticSet → σ → Run σ}

/-- The sets that a session answers some lines with, in order. A line that
is blank or rejected is answered with none. -/
def updates (s : Session) : List String → List DiagnosticSet
  | [] => []
  | line :: lines =>
    let (outcome, next) := s.step line
    match next.answer outcome with
    | .ok (some set) => set :: next.updates lines
    | _ => next.updates lines

/-- The state of a callback after it was given some sets. -/
def delivered (onUpdate : DiagnosticSet → σ → Run σ) (sets : List DiagnosticSet) (x : σ) : σ :=
  sets.foldl (fun x set => (onUpdate set x).state) x

/-! ## One line -/

/-- **A line with a callback that does not fail.** The session takes the
line, and the callback is given the set that the line is answered with, if
any. -/
theorem watchLine_eq (hnever : ∀ set x, (onUpdate set x).error = none) (line : String)
    (s : Session) (x : σ) :
    (watchLine onUpdate line (s, x)).error = none ∧
      (watchLine onUpdate line (s, x)).state =
        ((s.step line).2, delivered onUpdate (s.updates [line]) x) := by
  rw [watchLine, updates]
  rcases s.step line with ⟨outcome, next⟩
  cases outcome with
  | blank => exact ⟨rfl, rfl⟩
  | replaced => exact ⟨hnever _ _, rfl⟩
  | rejected problem => exact ⟨rfl, rfl⟩

/-! ## Many lines -/

/-- The answers to some lines are those to the first and those to the
others. -/
theorem updates_cons (s : Session) (line : String) (lines : List String) :
    s.updates (line :: lines) = s.updates [line] ++ (s.step line).2.updates lines := by
  rw [updates, updates]
  rcases s.step line with ⟨outcome, next⟩
  cases outcome with
  | blank => rfl
  | replaced => rfl
  | rejected problem => rfl

theorem delivered_append (onUpdate : DiagnosticSet → σ → Run σ) (as bs : List DiagnosticSet)
    (x : σ) : delivered onUpdate (as ++ bs) x = delivered onUpdate bs (delivered onUpdate as x) :=
  List.foldl_append

/-- **Lines with a callback that does not fail.** They are taken up to the
first that is not text, and that one is what can make the run fail. -/
theorem watchLines_eq (hnever : ∀ set x, (onUpdate set x).error = none)
    (ls : List (List UInt8)) (s : Session) (x : σ) :
    (watchLines onUpdate ls (s, x)).state =
        (s.after (leadingTexts ls), delivered onUpdate (s.updates (leadingTexts ls)) x) ∧
      (watchLines onUpdate ls (s, x)).error =
        if ∀ l ∈ ls, (decode? l).isSome then none else some (.io .notText) := by
  -- from any session and any state of the callback, since the first line changes both
  induction ls generalizing s x with
  | nil => exact ⟨rfl, rfl⟩
  | cons l ls ih =>
    rw [watchLines]
    cases hl : decode? l with
    | none =>
      rw [leadingTexts_cons_of_none hl, if_neg fun h => by simpa [hl] using h l List.mem_cons_self]
      exact ⟨rfl, rfl⟩
    | some text =>
      obtain ⟨hok, hstate⟩ := watchLine_eq hnever text s x
      obtain ⟨hafter, herror⟩ := ih (s.step text).2 (delivered onUpdate (s.updates [text]) x)
      rw [Run.state_andThen hok, Run.error_andThen hok, hstate, hafter, herror,
        leadingTexts_cons_of_some hl, after_cons, updates_cons s text (leadingTexts ls),
        delivered_append]
      simp only [List.forall_mem_cons, hl, Option.isSome_some, true_and, and_self]

/-- **Lines can be taken in two parts.** -/
theorem watchLines_append (onUpdate : DiagnosticSet → σ → Run σ) (as bs : List (List UInt8))
    (st : Session × σ) :
    watchLines onUpdate (as ++ bs) st =
      (watchLines onUpdate as st).andThen (watchLines onUpdate bs) := by
  induction as generalizing st with
  | nil => rw [List.nil_append, watchLines, Run.pure_andThen]
  | cons l as ih =>
    rw [List.cons_append, watchLines, watchLines]
    cases decode? l with
    | none => rfl
    | some text =>
      show (watchLine onUpdate text st).andThen _ =
        ((watchLine onUpdate text st).andThen _).andThen _
      rw [Run.andThen_assoc]
      exact congrArg _ (funext ih)

/-! ## A whole stream -/

/-- The end of a stream changes no more than the log. -/
theorem state_watch (onUpdate : DiagnosticSet → σ → Run σ) (bytes : List UInt8)
    (st : Session × σ) :
    (watch onUpdate bytes st).state = (watchLines onUpdate (lines bytes) st).state := by
  rw [watch, Run.andThen]
  split <;> rfl

theorem error_watch (onUpdate : DiagnosticSet → σ → Run σ) (bytes : List UInt8)
    (st : Session × σ) :
    (watch onUpdate bytes st).error = (watchLines onUpdate (lines bytes) st).error := by
  rw [watch, Run.andThen]
  split
  · rfl
  · next h => exact h.symm

/-- **The law of following a stream**, with a callback that never fails.
First, of the lines of any bytes those before the first that is not text
are taken: the session is the one after them, and the callback was given
the sets they were answered with, once each and in order. The run fails
just when there is a line that is not text. Second, bytes that are text
and end with a line can be followed by others: following both in one run,
or the others in a run of their own from where the first ended, has the
same updates, the same state at the end and the same result. -/
theorem watch_law (hnever : ∀ set x, (onUpdate set x).error = none) :
    (∀ (bytes : List UInt8) (s : Session) (x : σ),
      let texts := leadingTexts (lines bytes)
      let run := watch onUpdate bytes (s, x)
      run.state = (s.after texts, delivered onUpdate (s.updates texts) x) ∧
      run.error = if ∀ l ∈ lines bytes, (decode? l).isSome then none else some (.io .notText)) ∧
    ∀ (a b : List UInt8) (s : Session) (x : σ), (decode? a).isSome →
      (a = [] ∨ a.getLast? = some 10) →
      let first := watch onUpdate a (s, x)
      let second := watch onUpdate b first.state
      let whole := watch onUpdate (a ++ b) (s, x)
      first.error = none ∧ whole.state = second.state ∧ whole.error = second.error := by
  have hrun : ∀ (bytes : List UInt8) (s : Session) (x : σ),
      (watch onUpdate bytes (s, x)).state = (s.after (leadingTexts (lines bytes)),
          delivered onUpdate (s.updates (leadingTexts (lines bytes))) x) ∧
        (watch onUpdate bytes (s, x)).error =
          if ∀ l ∈ lines bytes, (decode? l).isSome then none else some (.io .notText) := by
    intro bytes s x
    rw [state_watch, error_watch]
    exact watchLines_eq hnever (lines bytes) s x
  refine ⟨hrun, ?_⟩
  intro a b s x htext hend first second whole
  have hfirst : first.error = none := by
    rw [(hrun a s x).2, if_pos fun l hl => isSome_decode?_of_mem_lines htext hl]
  have hlines : (watchLines onUpdate (lines a) (s, x)).error = none := by
    rw [← error_watch]
    exact hfirst
  refine ⟨hfirst, ?_, ?_⟩
  · rw [state_watch, state_watch, state_watch, lines_append hend, watchLines_append,
      Run.state_andThen hlines]
  · rw [error_watch, error_watch, state_watch, lines_append hend, watchLines_append,
      Run.error_andThen hlines]

/-- A callback that keeps what it is given. -/
def keep (set : DiagnosticSet) (sets : List DiagnosticSet) : Run (List DiagnosticSet) :=
  .pure (sets ++ [set])

/-- A document with an error text, a blank line, a line that is rejected, and
one that is not text with a document after it; and the first document in a
run of its own. -/
theorem watch_law_keep :
    let fresh : Session := { labels := {} }
    let set : DiagnosticSet := .ofText {} "a:1:1: x"
    let head := encode "\x7b\"error\":\"a:1:1: x\"\x7d\r\n"
    let tail := encode " \nx\n" ++ 255 :: encode "\n\x7b\x7d"
    let whole := watch keep (head ++ tail) (fresh, [])
    let first := watch keep head (fresh, [])
    (∀ set sets, (keep set sets).error = none) ∧
      whole.state = ({ labels := {}, current := set, lineCount := 3 }, [set]) ∧
      set.diagnostics = [⟨"a", .point ⟨0, 0⟩, "x", .error, "envd"⟩] ∧
      whole.error = some (.io .notText) ∧
      first.error = none ∧ whole.state = (watch keep tail first.state).state := by
  intro fresh set head tail whole first
  have hnever : ∀ set sets, (keep set sets).error = none := fun _ _ => rfl
  have hlaw := watch_law hnever
  obtain ⟨hstate, herror⟩ := hlaw.1 (head ++ tail) fresh []
  obtain ⟨hfirst, hparts, -⟩ := hlaw.2 head tail fresh [] (by decide) (by decide)
  let lines' := [document "a:1:1: x", " ", "x"]
  have htexts : leadingTexts (lines (head ++ tail)) = lines' := by decide
  have hafter : fresh.after lines' = { labels := {}, current := set, lineCount := 3 } := by
    rw [after_cons, step_document]
    decide
  have hupdates : fresh.updates lines' = [set] := by
    simp only [lines', updates, step_document]
    decide
  rw [htexts, hafter, hupdates] at hstate
  exact ⟨hnever, hstate, by decide, herror, hfirst, hparts⟩

end Session

end BuildDiagnostics
