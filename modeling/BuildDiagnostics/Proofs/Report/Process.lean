import BuildDiagnostics.Proofs.Report.Json
import BuildDiagnostics.Proofs.Session.Delivery
/-!
# What is reported on an input

An input gives some sets, one for a text as a whole and one for each
document of a stream (`reported`). Reporting on the input is reporting on
these sets, one after the other, to any sink; besides, the run fails when
the input is not text (`process_eq_writeAll`). It makes no difference for
that whether the input is read as a whole or line by line.
-/


namespace BuildDiagnostics

namespace Report

open Session Text

/-- The session that a stream is followed with. -/
def Plan.session (plan : Plan) : Session := ⟨plan.labels, .empty, 0⟩

/-- The sets that an input gives. A stream is read up to its first line that
is not text. -/
def reported (plan : Plan) (input : List UInt8) : List DiagnosticSet :=
  if plan.watch then plan.session.updates (leadingTexts (lines input))
  else (decode? input).toList.map (DiagnosticSet.ofText plan.labels)

theorem writeAll_eq_deliver (cut : Cut) (files : Files) (format : Format)
    (sets : List DiagnosticSet) (sink : Sink) :
    writeAll cut files format sets sink = deliver (write cut files format) sets sink := by
  induction sets generalizing sink with
  | nil => rfl
  | cons set sets ih =>
    rw [writeAll, deliver]
    exact congrArg _ (funext ih)

/-- **Reporting on an input is reporting on its sets**, and it fails besides
when the input is not text. -/
theorem process_eq_writeAll (files : Files) (plan : Plan) (input : List UInt8) (sink : Sink) :
    let all := writeAll plan.cut files plan.format (reported plan input) sink
    (process files plan input sink).state = all.state ∧
      (process files plan input sink).error =
        all.error.or (if (decode? input).isSome then none else some (.io .notText)) := by
  intro all
  rw [process]
  split
  · next hwatch =>
    obtain ⟨hstate, herror, -, -⟩ :=
      watchLines_deliver (write plan.cut files plan.format) (lines input) plan.session sink
    have hall : all = deliver (write plan.cut files plan.format)
        (plan.session.updates (leadingTexts (lines input))) sink := by
      simp only [all, reported, if_pos hwatch, writeAll_eq_deliver]
    simp only [← isSome_decode?_iff_lines] at herror
    rw [hall, ← hstate]
    simp only [Run.map, state_watch, error_watch]
    exact ⟨rfl, herror⟩
  · next hwatch =>
    cases hinput : decode? input with
    | none =>
      have hall : all = .pure sink := by
        simp only [all, reported, if_neg hwatch, hinput]
        rfl
      rw [hall]
      exact ⟨rfl, rfl⟩
    | some text =>
      have hall : all = write plan.cut files plan.format (.ofText plan.labels text) sink := by
        simp only [all, reported, if_neg hwatch, hinput]
        exact Run.andThen_pure _
      rw [hall]
      exact ⟨rfl, (Option.or_none).symm⟩

/-- With a sink without limit it fails just then, and what is written are the
reports of the sets. -/
theorem process_unlimited (files : Files) (plan : Plan) (input : List UInt8) :
    (process files plan input {}).state.written =
        (reported plan input).flatMap (reportBytes plan.cut files plan.format) ∧
      (process files plan input {}).error =
        if (decode? input).isSome then none else some (.io .notText) := by
  obtain ⟨hstate, herror⟩ := process_eq_writeAll files plan input {}
  obtain ⟨hwritten, hnone⟩ := writeAll_unlimited plan.cut files plan.format (reported plan input) []
  rw [hstate, herror]
  constructor
  · show (writeAll plan.cut files plan.format (reported plan input) ⟨[], none⟩).state.written = _
    rw [hwritten, List.nil_append]
  · show (writeAll plan.cut files plan.format (reported plan input) ⟨[], none⟩).error.or _ = _
    rw [hnone, Option.none_or]

end Report

end BuildDiagnostics
