import BuildDiagnostics.Proofs.Report.Process
import BuildDiagnostics.Proofs.Settings.Discovery
import BuildDiagnostics.Tool
/-!
# The exit status

A run of the tool fails when its settings cannot be loaded, when its input
cannot be read to its end, and when the input is not text. Nothing else
makes it fail (`execute_status`): not what an error text says, nor a line of
a stream that is no document, in either form of the reports. What it writes
to the standard output are the reports on the input, and nothing when there
are no settings to report with.
-/


namespace BuildDiagnostics

namespace Tool

open CommandLine Text

variable {s : Surroundings} {a : Arguments}

/-- The bytes of the input that the arguments select, if they can be read to
their end: those of the standard input when no file is named or its name is
a dash, and else those of the file. -/
def selected? (s : Surroundings) (a : Arguments) : Option (List UInt8) :=
  match a.input with
  | none => some s.standardInput
  | some path => if path = "-" then some s.standardInput else (s.files.read path).toOption

/-- What is selected is what is opened and read. -/
theorem selected?_eq (s : Surroundings) (a : Arguments) :
    selected? s a = (openInput s a).toOption.bind Except.toOption := by
  rw [selected?, openInput]
  cases a.input with
  | none => rfl
  | some path =>
    by_cases hdash : path = "-"
    · simp only [Option.filter_some, hdash, ne_eq, not_true, decide_false]
      rfl
    · simp only [Option.filter_some, ne_eq, hdash, not_false_eq_true, decide_true,
        if_true, Files.read]
      cases s.files.lookup path with
      | error cause => rfl
      | ok entry =>
        cases entry with
        | file bytes => rfl
        | directory => rfl

/-! ## A run -/

/-- Without settings a run fails before it opens its input. -/
theorem run_of_error {e : ToolError}
    (h : (Settings.load s.tomlFault s.files s.environment a.config).2 = .error e) :
    (run s a).state = {} ∧ (run s a).error = some e := by
  rcases hload : Settings.load s.tomlFault s.files s.environment a.config with ⟨loading, loaded⟩
  rw [hload] at h
  obtain rfl : loaded = .error e := h
  simp only [run, hload]
  exact ⟨trivial, trivial⟩

/-- The end of a run changes no more than the log. -/
theorem andThen_records (r : Run Sink) (records : List Log.Record) :
    (r.andThen fun sink => ⟨sink, records, none⟩).state = r.state ∧
      (r.andThen fun sink => ⟨sink, records, none⟩).error = r.error := by
  rcases r with ⟨sink, log, _ | e⟩
  · exact ⟨rfl, rfl⟩
  · exact ⟨rfl, rfl⟩

/-- With settings it is what the input comes to, when that can be opened. -/
theorem run_of_ok {settings : Settings}
    (h : (Settings.load s.tomlFault s.files s.environment a.config).2 = .ok settings) :
    let opened : Run Sink :=
      match openInput s a with
      | .error cause => ⟨{}, [], some (.io cause)⟩
      | .ok input => report s (plan s a settings) input
    (run s a).state = opened.state ∧ (run s a).error = opened.error := by
  intro opened
  rcases hload : Settings.load s.tomlFault s.files s.environment a.config with ⟨loading, loaded⟩
  rw [hload] at h
  obtain rfl : loaded = .ok settings := h
  cases hinput : openInput s a with
  | error cause =>
    simp only [run, hload, opened, hinput]
    exact ⟨trivial, trivial⟩
  | ok input =>
    simp only [run, hload, opened, hinput]
    exact andThen_records _ _

/-- **With settings a run is the reports on its input.** It fails just when
the input cannot be read or is not text. -/
theorem run_of_settings {settings : Settings}
    (h : (Settings.load s.tomlFault s.files s.environment a.config).2 = .ok settings) :
    (run s a).state.written =
        (match selected? s a with
          | some bytes => (Report.process s.files (plan s a settings) bytes {}).state.written
          | none => []) ∧
      ((run s a).error = none ↔ ∃ bytes, selected? s a = some bytes ∧ (decode? bytes).isSome) := by
  obtain ⟨hstate, herror⟩ := run_of_ok h
  rw [hstate, herror, selected?_eq]
  cases openInput s a with
  | error cause => exact ⟨rfl, by simp [Except.toOption]⟩
  | ok input =>
    cases input with
    | error cause => exact ⟨rfl, by simp [report, Except.toOption]⟩
    | ok bytes =>
      refine ⟨rfl, ?_⟩
      -- with a sink without limit the reports themselves never fail
      show (report s (plan s a settings) (.ok bytes)).error = none ↔ _
      rw [report, (Report.process_unlimited s.files (plan s a settings) bytes).2]
      simp [Except.toOption, Option.isSome_iff_ne_none]

/-- **The exit status of the tool.** For arguments that are understood it is
zero just when the settings can be loaded, the selected input can be read to
its end, and its bytes are text; and else it is one. Without settings
nothing is written to the standard output. With settings the reports on the
input are written, in the form that the arguments ask for or else the
settings, and nothing when the input cannot be read. -/
theorem execute_status (s : Surroundings) {args : List String} (h : CommandLine.read args = .ok a) :
    let outcome := execute s args
    let loaded := (Settings.load s.tomlFault s.files s.environment a.config).2
    (outcome.status = 0 ↔ (∃ settings, loaded = .ok settings) ∧
      ∃ bytes, selected? s a = some bytes ∧ (decode? bytes).isSome) ∧
    (outcome.status ≠ 0 → outcome.status = 1) ∧
    (∀ e, loaded = .error e → outcome.output = []) ∧
    ∀ settings, loaded = .ok settings → outcome.output =
      match selected? s a with
      | some bytes => (Report.process s.files
          ⟨settings.labels, a.format.getD settings.format, a.watch, s.cut⟩ bytes {}).state.written
      | none => [] := by
  intro outcome loaded
  have houtput : outcome.output = (run s a).state.written := by
    simp only [outcome, execute, h, perform]
  have hstatus : outcome.status = if (run s a).error.isNone then 0 else 1 := by
    simp only [outcome, execute, h, perform]
  have hzero : outcome.status = 0 ↔ (run s a).error = none := by
    rw [hstatus]
    cases (run s a).error with
    | none => exact iff_of_true rfl rfl
    | some e => exact iff_of_false Nat.one_ne_zero (by simp)
  have hone : outcome.status ≠ 0 → outcome.status = 1 := by
    rw [hstatus]
    split
    · exact fun hne => absurd rfl hne
    · exact fun _ => rfl
  cases hloaded : loaded with
  | error e =>
    obtain ⟨hstate, herror⟩ := run_of_error hloaded
    have hempty : outcome.output = [] := by
      rw [houtput, hstate]
    refine ⟨?_, hone, fun _ _ => hempty, by simp⟩
    rw [hzero, herror]
    simp
  | ok settings =>
    obtain ⟨hwritten, herror⟩ := run_of_settings (s := s) hloaded
    refine ⟨?_, hone, by simp, fun settings' heq => ?_⟩
    · rw [hzero, herror]
      simp
    · obtain rfl := Except.ok.inj heq
      rw [houtput, hwritten, plan]

/-- A stream with the document of an error text and a line that is no document,
in a file, and settings that ask for JSON: as the settings say, as the
arguments say otherwise, and with settings that do not exist. -/
theorem execute_status_malformed :
    let stream := encode (Session.document "a:1:1: boom" ++ "\nx\n")
    let files : Files := ⟨fun path =>
      if path = "in" then .ok (.file stream)
      else if path = "c.toml" then .ok (.file (encode "output.format = \"json\""))
      else .error .missing⟩
    let s : Surroundings := ⟨files, ⟨none, some "/h", none⟩, [], none, id, fun _ line => [line]⟩
    let asSet := execute s ["-w", "-c", "c.toml", "in"]
    let asAsked := execute s ["-w", "-c", "c.toml", "-f", "human", "in"]
    let unset := execute s ["-w", "-c", "d.toml", "in"]
    CommandLine.read ["-w", "-c", "c.toml", "in"] =
        .ok { input := some "in", watch := true, config := some "c.toml" } ∧
      asSet.status = 0 ∧
      asSet.output =
        encode ("\x7b\"message\":\"boom\",\"diagnostics\":[\x7b\"path\":\"a\",\"range\":" ++
          "\x7b\"start\":\x7b\"line\":0,\"character\":0\x7d,\"end\":" ++
          "\x7b\"line\":0,\"character\":0\x7d\x7d,\"message\":\"boom\"," ++
          "\"severity\":\"error\",\"source\":\"envd\"\x7d]\x7d\n") ∧
      asAsked.status = 0 ∧
      asAsked.output = encode "envd\n\n  x boom\n  help: reported at a:1:1\n" ∧
      unset.status = 1 ∧ unset.output = [] := by
  intro stream files s asSet asAsked unset
  have hread : CommandLine.read ["-w", "-c", "c.toml", "in"] =
      .ok { input := some "in", watch := true, config := some "c.toml" } := by decide
  have hread' : CommandLine.read ["-w", "-c", "c.toml", "-f", "human", "in"] = .ok
      { input := some "in", watch := true, config := some "c.toml", format := some .human } := by
    decide
  have hread'' : CommandLine.read ["-w", "-c", "d.toml", "in"] =
      .ok { input := some "in", watch := true, config := some "d.toml" } := by decide
  obtain ⟨hstatus, -, -, houtput⟩ := execute_status s hread
  obtain ⟨hstatus', -, -, houtput'⟩ := execute_status s hread'
  obtain ⟨hstatus'', hone, hnone, -⟩ := execute_status s hread''
  have hcandidate : Settings.candidates s.environment (some "c.toml") = [] ++ "c.toml" :: [] := rfl
  have hload : (Settings.load s.tomlFault files s.environment (some "c.toml")).2 =
      .ok { format := .json } :=
    (Settings.load_of_first hcandidate nofun rfl).trans
      (Settings.ofEntry_of_settings (decode?_encode _) (Settings.decode_json id))
  have hmissing : (Settings.load s.tomlFault files s.environment (some "d.toml")).2 =
      .error (.config (.missing "d.toml")) := rfl
  have htext : (decode? stream).isSome := by
    rw [decode?_encode]
    rfl
  have hlines : leadingTexts (lines stream) = [Session.document "a:1:1: boom", "x"] := by decide
  let plan (format : Format) : Report.Plan := ⟨{}, format, true, s.cut⟩
  have hwritten : ∀ format, (Report.process files (plan format) stream {}).state.written =
      Report.reportBytes s.cut files format (.ofText {} "a:1:1: boom") := by
    intro format
    -- the second line is no document, so it gives no set
    have hreported : Report.reported (plan format) stream =
        [DiagnosticSet.ofText {} "a:1:1: boom"] := by
      rw [Report.reported, if_pos rfl, hlines]
      simp only [Session.updates, Session.step_document]
      rfl
    rw [(Report.process_unlimited files _ stream).1, hreported, List.flatMap_singleton]
  refine ⟨hread, hstatus.2 ⟨⟨_, hload⟩, stream, rfl, htext⟩, ?_,
    hstatus'.2 ⟨⟨_, hload⟩, stream, rfl, htext⟩, ?_, hone fun hzero => ?_, hnone _ hmissing⟩
  · refine (houtput _ hload).trans ((hwritten .json).trans ?_)
    decide +kernel
  · refine (houtput' _ hload).trans ((hwritten .human).trans ?_)
    decide +kernel
  · obtain ⟨⟨settings, hsettings⟩, -⟩ := hstatus''.1 hzero
    cases hmissing.symm.trans hsettings

end Tool

end BuildDiagnostics
