import BuildDiagnostics.Proofs.Session.Document
import BuildDiagnostics.Proofs.Session.Stream
import BuildDiagnostics.Report.Stream
/-!
# The two ways of reporting agree

Error texts can be reported on one by one, or as the documents of one
session stream. What is written is the same (`process_stream`). On the way
of the stream, every document is cut out as it was put in, read as its
text, and reported on before the next one is looked at; on either way the
report is `reportBytes` of the diagnostics of the text, and a sink without
limit takes all of it.
-/


namespace BuildDiagnostics

/-! ## The stream of some error texts -/

namespace Session

open Text

/-- The stream with a document for each error text, one to a line. -/
def stream (errors : List String) : List UInt8 :=
  encode (String.join (errors.map fun error => document error ++ "\n"))

/-- The stream, line by line. -/
theorem stream_eq_ended (errors : List String) :
    stream errors = ended 10 (errors.map fun error => encode (document error)) := by
  have h := encode_join_lines (errors.map document)
  rw [List.map_map, List.map_map] at h
  exact h

/-- **Every document is a line of its own.** -/
theorem lines_stream (errors : List String) :
    lines (stream errors) = errors.map fun error => encode (document error) := by
  rw [stream_eq_ended]
  refine lines_ended ?_ ?_
  · intro l hl
    obtain ⟨error, -, rfl⟩ := List.mem_map.1 hl
    exact lineFeed_not_mem_encode (lineFeed_not_mem_document error)
  · -- the last byte is that of the closing brace
    intro l hl
    obtain ⟨error, -, rfl⟩ := List.mem_map.1 hl
    have hclose : encode "\x7d" = [125] := rfl
    rw [document, encode_append, hclose, List.getLast?_concat]
    decide

variable {σ : Type} {onUpdate : DiagnosticSet → σ → Run σ}

/-- A document is handed on as the diagnostics of its error text. -/
theorem watchLine_document (onUpdate : DiagnosticSet → σ → Run σ) (error : String)
    (st : Session × σ) :
    watchLine onUpdate (document error) st =
      ((onUpdate (.ofText st.1.labels error) st.2).map
          ({ st.1 with lineCount := st.1.lineCount + 1 }.replace (some error), ·)).logged
        ({ st.1 with lineCount := st.1.lineCount + 1 }.replace (some error)
          |>.records .replaced) := by
  have hcurrent := current_replace { st.1 with lineCount := st.1.lineCount + 1 } (some error)
  rw [diagnosed] at hcurrent
  rw [watchLine, step_document]
  simp only [answer, hcurrent]

/-- A stream whose lines are taken without failure comes to its end, and no
more than the log changes there. -/
theorem watch_of_error_eq_none {bytes : List UInt8} {st : Session × σ}
    (h : (watchLines onUpdate (lines bytes) st).error = none) :
    (watch onUpdate bytes st).error = none ∧
      (watch onUpdate bytes st).state = (watchLines onUpdate (lines bytes) st).state := by
  rw [error_watch, state_watch]
  exact ⟨h, rfl⟩

end Session

namespace Report

open Text

/-- The report of a set, in bytes. -/
def reportBytes (cut : Cut) (files : Files) (format : Format) (set : DiagnosticSet) : List UInt8 :=
  match format with
  | .json => encode set.json.render ++ encode "\n"
  | .human => if set.isEmpty then [] else encode (humanText cut files set)

variable (cut : Cut) (files : Files) (format : Format)

/-- **A sink without limit takes the whole report.** -/
theorem write_unlimited (set : DiagnosticSet) (written : List UInt8) :
    (write cut files format set ⟨written, none⟩).state =
        ⟨written ++ reportBytes cut files format set, none⟩ ∧
      (write cut files format set ⟨written, none⟩).error = none := by
  cases format with
  | json =>
    have herror : ((⟨written, none⟩ : Sink).write (fun cause => .json (.io cause))
        (encode set.json.render)).error = none := rfl
    simp only [write]
    rw [Run.state_andThen herror, Run.error_andThen herror, reportBytes, ← List.append_assoc]
    exact ⟨rfl, rfl⟩
  | human =>
    simp only [write, reportBytes]
    split
    · rw [List.append_nil]
      exact ⟨rfl, rfl⟩
    · exact ⟨rfl, rfl⟩

/-- What is written for a single error text. -/
theorem process_text (labels : Labels) (error : String) :
    (process files ⟨labels, format, false, cut⟩ (encode error) {}).state.written =
        reportBytes cut files format (.ofText labels error) ∧
      (process files ⟨labels, format, false, cut⟩ (encode error) {}).error = none := by
  obtain ⟨hstate, herror⟩ := write_unlimited cut files format (.ofText labels error) []
  have hprocess : process files ⟨labels, format, false, cut⟩ (encode error) {} =
      (write cut files format (.ofText labels error) {}).logged (Log.ofText error) := by
    rw [process, if_neg Bool.false_ne_true, decode?_encode]
  rw [hprocess, Run.logged]
  exact ⟨by rw [hstate, List.nil_append], herror⟩

/-- One document of a stream: its report is written after what is there
already, and the session has its diagnostics. -/
theorem watchLine_unlimited (error : String) (s : Session) (written : List UInt8) :
    let run := Session.watchLine (write cut files format) (Session.document error)
      (s, ⟨written, none⟩)
    run.error = none ∧
      run.state = ({ s with lineCount := s.lineCount + 1 }.replace (some error),
        ⟨written ++ reportBytes cut files format (.ofText s.labels error), none⟩) := by
  intro run
  obtain ⟨hstate, herror⟩ := write_unlimited cut files format (.ofText s.labels error) written
  have hrun : run = _ :=
    Session.watchLine_document (write cut files format) error (s, ⟨written, none⟩)
  rw [hrun, ← hstate]
  exact ⟨herror, rfl⟩

/-- **A stream of documents writes their reports, one after the other.**
The induction is on the documents, from any session and after anything that
is written already: a document leaves the labels alone, and the
diagnostics it leaves are not looked at again. -/
theorem watchLines_documents (errors : List String) (s : Session) (written : List UInt8) :
    let run := Session.watchLines (write cut files format)
      (errors.map fun error => encode (Session.document error)) (s, ⟨written, none⟩)
    run.error = none ∧
      run.state.2 = ⟨written ++ errors.flatMap fun error =>
        reportBytes cut files format (.ofText s.labels error), none⟩ := by
  -- from any session and any bytes, since the first document changes both
  induction errors generalizing s written with
  | nil =>
    refine ⟨rfl, ?_⟩
    rw [List.flatMap_nil, List.append_nil]
    rfl
  | cons error errors ih =>
    intro run
    let next := { s with lineCount := s.lineCount + 1 }.replace (some error)
    have hlabels : next.labels = s.labels := Session.labels_replace _ _
    have hrun : run = (Session.watchLine (write cut files format) (Session.document error)
        (s, ⟨written, none⟩)).andThen (Session.watchLines (write cut files format)
          (errors.map fun error => encode (Session.document error))) := by
      simp only [run, List.map_cons, Session.watchLines, decode?_encode]
    obtain ⟨hok, hreached⟩ := watchLine_unlimited cut files format error s written
    obtain ⟨hrest, hwritten⟩ := ih next
      (written ++ reportBytes cut files format (.ofText s.labels error))
    rw [hrun, Run.error_andThen hok, Run.state_andThen hok, hreached]
    refine ⟨hrest, ?_⟩
    rw [hwritten, hlabels, List.flatMap_cons, List.append_assoc]

/-- **The two ways of reporting agree.** For any labels, either form and any
error texts: a session stream with a document for each text, one to a
line, is reported on without failure, as each text alone is, and what is
written is what the texts alone give, one after the other. For a text alone
that is the report of its diagnostics. The document of a text is the object
with the text as its `error`. -/
theorem process_stream (labels : Labels) (errors : List String) :
    let watched := process files ⟨labels, format, true, cut⟩
      (encode (String.join (errors.map fun error =>
        "\x7b\"error\":" ++ String.ofList (Json.quote error) ++ "\x7d" ++ "\n"))) {}
    let single := fun error => process files ⟨labels, format, false, cut⟩ (encode error) {}
    watched.error = none ∧
      (∀ error, (single error).error = none ∧
        (single error).state.written = reportBytes cut files format (.ofText labels error)) ∧
      watched.state.written = errors.flatMap fun error => (single error).state.written := by
  intro watched single
  obtain ⟨herror, hstate⟩ := watchLines_documents cut files format errors ⟨labels, .empty, 0⟩ []
  rw [← Session.lines_stream] at herror hstate
  obtain ⟨herror', hstate'⟩ := Session.watch_of_error_eq_none herror
  have hwatched : watched = (Session.watch (write cut files format) (Session.stream errors)
      (⟨labels, .empty, 0⟩, {})).map Prod.snd := rfl
  have hsingle : (fun error => (single error).state.written) =
      fun error => reportBytes cut files format (.ofText labels error) :=
    funext fun error => (process_text cut files format labels error).1
  rw [hwatched, hsingle]
  refine ⟨herror', fun error => (process_text cut files format labels error).symm, ?_⟩
  show (Session.watch (write cut files format) _ _).state.2.written = _
  rw [hstate', hstate, List.nil_append]

/-- Two texts, one with a diagnostic and one with none. -/
theorem process_stream_boom :
    let cut : Cut := fun _ line => [line]
    let texts := ["a:1:1: boom", "boom"]
    let stream := encode (String.join (texts.map fun error =>
      "\x7b\"error\":" ++ String.ofList (Json.quote error) ++ "\x7d" ++ "\n"))
    (process .none ⟨{}, .human, true, cut⟩ stream {}).state.written =
        encode "envd\n\n  x boom\n  help: reported at a:1:1\n" ∧
      (process .none ⟨{}, .json, true, cut⟩ stream {}).state.written =
        encode ("\x7b\"message\":\"boom\",\"diagnostics\":[\x7b\"path\":\"a\",\"range\":" ++
          "\x7b\"start\":\x7b\"line\":0,\"character\":0\x7d,\"end\":" ++
          "\x7b\"line\":0,\"character\":0\x7d\x7d,\"message\":\"boom\"," ++
          "\"severity\":\"error\",\"source\":\"envd\"\x7d]\x7d\n" ++
          "\x7b\"message\":\"\",\"diagnostics\":[]\x7d\n") := by
  intro cut texts stream
  obtain ⟨-, hsingle, hhuman⟩ := process_stream cut .none .human {} texts
  obtain ⟨-, hsingle', hjson⟩ := process_stream cut .none .json {} texts
  refine ⟨hhuman.trans ?_, hjson.trans ?_⟩
  · simp only [texts, List.flatMap_cons, List.flatMap_nil, hsingle]
    decide
  · simp only [texts, List.flatMap_cons, List.flatMap_nil, hsingle']
    decide +kernel

end Report

end BuildDiagnostics
