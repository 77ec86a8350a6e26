import Mathlib
import BuildDiagnostics.Settings.Discovery
/-!
# Which settings are found

Settings are sought at a path that was asked for, or else at that of the
project and at that of the user. The first of these candidates that leads
anywhere counts, and it alone (`load_of_first`): when it is a directory,
when its bytes are no text or its text holds no settings, that is the
failure, and no later candidate stands in for it. So what the later ones
lead to does not matter (`load_firstFound`).
-/


namespace BuildDiagnostics

namespace Files

/-- What a path leads to, if it leads anywhere. -/
def entryAt? (files : Files) (path : String) : Option Entry := (files.lookup path).toOption

variable {files : Files} {path : String} {entry : Entry}

theorem exists?_eq_isSome (files : Files) (path : String) :
    files.exists? path = (files.entryAt? path).isSome := by
  rw [exists?, entryAt?]
  cases files.lookup path with
  | error cause => rfl
  | ok entry => rfl

theorem entryAt?_eq_some_iff :
    files.entryAt? path = some entry ↔ files.lookup path = .ok entry := by
  rw [entryAt?]
  cases files.lookup path with
  | error cause => exact ⟨nofun, nofun⟩
  | ok found => simp only [Except.toOption, Option.some_inj, Except.ok.injEq]

end Files

namespace Settings

/-- Where settings are sought, in this order: at the path that was asked
for, or else at that of the project and at that of the user, if there is
one. -/
def candidates (env : Environment) (explicit : Option String) : List String :=
  match explicit with
  | some path => [path]
  | none => localPath :: (systemPath env).toList

/-- What loading settings from an entry comes to. -/
def ofEntry (tomlFault : String → String) : Entry → Except ToolError Settings
  | .directory => .error (.io .directory)
  | .file bytes =>
    match Text.decode? bytes with
    | none => .error (.io .notText)
    | some content =>
      (decode tomlFault content).mapError fun refusal => .config (.malformed refusal.text)

/-- What it comes to when no candidate leads anywhere: a path that was asked
for is missed, and else the defaults hold. -/
def ofNothing (explicit : Option String) : Except ToolError Settings :=
  explicit.elim (.ok {}) fun path => .error (.config (.missing path))

variable {tomlFault : String → String} {files : Files} {env : Environment}
  {explicit : Option String} {path content : String} {entry : Entry} {bytes : List UInt8}

/-! ## One file -/

theorem ofEntry_of_notText (h : Text.decode? bytes = none) :
    ofEntry tomlFault (.file bytes) = .error (.io .notText) := by
  rw [ofEntry, h]

theorem ofEntry_of_refusal {refusal : Refusal} (htext : Text.decode? bytes = some content)
    (h : decode tomlFault content = .error refusal) :
    ofEntry tomlFault (.file bytes) = .error (.config (.malformed refusal.text)) := by
  simp only [ofEntry, htext, h]
  rfl

theorem ofEntry_of_settings {settings : Settings} (htext : Text.decode? bytes = some content)
    (h : decode tomlFault content = .ok settings) :
    ofEntry tomlFault (.file bytes) = .ok settings := by
  simp only [ofEntry, htext, h]
  rfl

/-- A path that leads anywhere is loaded as what it leads to, and one that
leads nowhere is missed. -/
theorem loadFile_eq (tomlFault : String → String) (files : Files) (path : String) :
    (loadFile tomlFault files path).2 =
      (files.entryAt? path).elim (ofNothing (some path)) (ofEntry tomlFault) := by
  rw [loadFile, Files.exists?_eq_isSome]
  cases hentry : files.entryAt? path with
  | none => rfl
  | some entry =>
    have hlookup := Files.entryAt?_eq_some_iff.1 hentry
    rw [Option.isSome_some, if_pos rfl, Option.elim_some]
    cases entry with
    | directory =>
      simp only [Files.readText, Files.read, hlookup, ofEntry]
    | file bytes =>
      cases hdecode : Text.decode? bytes with
      | none => simp only [Files.readText, Files.read, hlookup, hdecode, ofEntry]
      | some content => simp only [Files.readText, Files.read, hlookup, hdecode, ofEntry]

/-! ## The candidates -/

/-- **The first candidate that leads anywhere is what is loaded.** -/
theorem load_eq (tomlFault : String → String) (files : Files) (env : Environment)
    (explicit : Option String) :
    (load tomlFault files env explicit).2 =
      ((candidates env explicit).findSome? files.entryAt?).elim (ofNothing explicit)
        (ofEntry tomlFault) := by
  have hfrom : ∀ place path, (loadFrom tomlFault files place path).2 =
      (files.entryAt? path).elim (ofNothing (some path)) (ofEntry tomlFault) :=
    fun _ => loadFile_eq tomlFault files
  cases explicit with
  | some path => rw [load, hfrom, candidates, List.findSome?_singleton]
  | none =>
    rw [load, candidates, List.findSome?_cons, Files.exists?_eq_isSome]
    cases hlocal : files.entryAt? localPath with
    | some entry =>
      rw [Option.isSome_some, if_pos rfl, hfrom, hlocal, Option.elim_some]
      rfl
    | none =>
      rw [Option.isSome_none, if_neg Bool.false_ne_true]
      cases systemPath env with
      | none => rfl
      | some path =>
        simp only [Option.filter_some, Option.toList_some, List.findSome?_singleton,
          Files.exists?_eq_isSome]
        cases hsystem : files.entryAt? path with
        | none => rfl
        | some entry => simp only [Option.isSome_some, if_true, hfrom, hsystem, Option.elim_some]

/-- So what it leads to is what counts, and none of the later ones does. -/
theorem load_of_first {before after : List String}
    (hpaths : candidates env explicit = before ++ path :: after)
    (hbefore : ∀ p ∈ before, files.entryAt? p = none) (hentry : files.entryAt? path = some entry) :
    (load tomlFault files env explicit).2 = ofEntry tomlFault entry := by
  have hfirst : (candidates env explicit).findSome? files.entryAt? = some entry :=
    List.findSome?_eq_some_iff.2 ⟨before, path, after, hpaths, hentry, hbefore⟩
  rw [load_eq, hfirst, Option.elim_some]

/-- Without any candidate that leads anywhere there is nothing to load. -/
theorem load_of_none (h : ∀ p ∈ candidates env explicit, files.entryAt? p = none) :
    (load tomlFault files env explicit).2 = ofNothing explicit := by
  rw [load_eq, List.findSome?_eq_none_iff.2 h, Option.elim_none]

/-- **One candidate decides, for better or worse.** The first candidate that
leads anywhere is the one that is loaded. It is a failure when it is a
directory, when its bytes are no text, and when its text holds no settings,
whatever the later candidates are; and else its settings are the result.
Files that lead to the same at this candidate and at those before it come to
the same, whatever they lead to elsewhere. A path that was asked for and
leads nowhere is missed, whatever other files there are. If none was asked
for and no candidate leads anywhere, the settings are the defaults. -/
theorem load_firstFound (tomlFault : String → String) (files : Files) (env : Environment)
    (explicit : Option String) :
    (∀ before path after, candidates env explicit = before ++ path :: after →
      (∀ p ∈ before, files.entryAt? p = none) → files.entryAt? path ≠ none →
      let result := (load tomlFault files env explicit).2
      result = (loadFile tomlFault files path).2 ∧
      (files.entryAt? path = some .directory → result = .error (.io .directory)) ∧
      (∀ bytes, files.entryAt? path = some (.file bytes) →
        (Text.decode? bytes = none → result = .error (.io .notText)) ∧
        ∀ content, Text.decode? bytes = some content →
          (∀ refusal, decode tomlFault content = .error refusal →
            result = .error (.config (.malformed refusal.text))) ∧
          ∀ settings, decode tomlFault content = .ok settings → result = .ok settings) ∧
      ∀ others : Files, (∀ p ∈ before ++ [path], others.entryAt? p = files.entryAt? p) →
        (load tomlFault others env explicit).2 = result) ∧
    (∀ path, explicit = some path → files.entryAt? path = none →
      (load tomlFault files env explicit).2 = .error (.config (.missing path))) ∧
    (explicit = none → (∀ p ∈ candidates env explicit, files.entryAt? p = none) →
      (load tomlFault files env explicit).2 = .ok {}) := by
  refine ⟨fun before path after hpaths hbefore hne => ?_, ?_, ?_⟩
  · obtain ⟨entry, hentry⟩ := Option.ne_none_iff_exists'.1 hne
    -- the candidate leads to an entry, and all that is said is said of that entry
    intro result
    obtain hresult : result = ofEntry tomlFault entry := load_of_first hpaths hbefore hentry
    rw [hresult, hentry]
    refine ⟨?_, ?_, ?_, fun others hothers => ?_⟩
    · rw [loadFile_eq, hentry, Option.elim_some]
    · rintro ⟨⟩
      rfl
    · rintro bytes ⟨⟩
      exact ⟨ofEntry_of_notText, fun content htext =>
        ⟨fun _ => ofEntry_of_refusal htext, fun _ => ofEntry_of_settings htext⟩⟩
    · have hsame : ∀ p ∈ before, others.entryAt? p = none := fun p hp =>
        (hothers p (List.mem_append_left _ hp)).trans (hbefore p hp)
      exact load_of_first hpaths hsame
        ((hothers path (List.mem_append_right _ (List.mem_singleton_self path))).trans hentry)
  · rintro path rfl hnone
    exact load_of_none (List.forall_mem_singleton.2 hnone)
  · rintro rfl hnone
    exact load_of_none hnone

/-- A file that sets the form of reports, as a table, -/
theorem document?_json : Toml.document? "output.format = \"json\"" = some
    [(⟨"output", ⟨22, 16⟩⟩, ⟨22, 16⟩,
      .table .dotted [(⟨"format", ⟨15, 9⟩⟩, ⟨6, 0⟩, .string "json")])] := by
  have htext : "output.format = \"json\"".toList = ['o', 'u', 't', 'p', 'u', 't', '.', 'f',
      'o', 'r', 'm', 'a', 't', ' ', '=', ' ', '"', 'j', 's', 'o', 'n', '"'] := by cbv
  simp only [Toml.document?, htext]
  cbv

/-- and as settings, -/
theorem decode_json (tomlFault : String → String) :
    decode tomlFault "output.format = \"json\"" = .ok { format := .json } := by
  rw [decode, document?_json]
  rfl

/-- and one that is refused, since there is no such form. -/
theorem decode_xml (tomlFault : String → String) :
    decode tomlFault "output.format = \"xml\"" = .error (.complaint
      ("TOML parse error at line 1, column 17\n  |\n1 | output.format = \"xml\"\n" ++
        "  |                 ^^^^^\nunknown variant `xml`, expected `human` or `json`\n")) := by
  have htext : "output.format = \"xml\"".toList = ['o', 'u', 't', 'p', 'u', 't', '.', 'f',
      'o', 'r', 'm', 'a', 't', ' ', '=', ' ', '"', 'x', 'm', 'l', '"'] := by cbv
  let entries : Toml.Entries := [(⟨"output", ⟨21, 15⟩⟩, ⟨21, 15⟩,
    .table .dotted [(⟨"format", ⟨14, 8⟩⟩, ⟨5, 0⟩, .string "xml")])]
  let complaint : Complaint := ⟨"unknown variant `xml`, expected `human` or `json`", ⟨5, 0⟩⟩
  have hdocument : Toml.document? "output.format = \"xml\"" = some entries := by
    simp only [Toml.document?, htext]
    cbv
  have hentries : ofEntries entries = .error complaint := rfl
  have hwords : complaint.text "output.format = \"xml\"" =
      "TOML parse error at line 1, column 17\n  |\n1 | output.format = \"xml\"\n" ++
        "  |                 ^^^^^\nunknown variant `xml`, expected `human` or `json`\n" := by
    decide +kernel
  rw [decode, hdocument, ← hwords]
  show (ofEntries entries).mapError _ = _
  rw [hentries]
  rfl

/-- A user with settings in a file of their own. Where the project has a
directory or a file that is refused, that is the failure, the latter also
when the user has no file; where it has nothing, the user's settings are
loaded. -/
theorem load_firstFound_later :
    let tomlFault : String → String := id
    let user : String := "/h/.config/envd-diag/config.toml"
    let env : Environment := ⟨some "c", some "/h", none⟩
    let files (project later : Except IoCause Entry) : Files := ⟨fun path =>
      if path = localPath then project else if path = user then later else .error .missing⟩
    let file (content : String) : Except IoCause Entry := .ok (.file (Text.encode content))
    let result (project later : Except IoCause Entry) : Except ToolError Settings :=
      (load tomlFault (files project later) env none).2
    let json := file "output.format = \"json\""
    let xml := file "output.format = \"xml\""
    candidates env none = [localPath, user] ∧
      result (.error .missing) json = .ok { format := .json } ∧
      result (.ok .directory) json = .error (.io .directory) ∧
      result xml json = .error (.config (.malformed
        ("TOML parse error at line 1, column 17\n  |\n1 | output.format = \"xml\"\n" ++
          "  |                 ^^^^^\nunknown variant `xml`, expected `human` or `json`\n"))) ∧
      result xml (.error .missing) = result xml json := by
  intro tomlFault user env files file result json xml
  have hpaths : candidates env none = [localPath, user] := by decide
  have hproject : ∀ project later, (files project later).entryAt? localPath = project.toOption :=
    fun _ _ => rfl
  have huser : ∀ project later, (files project later).entryAt? user = later.toOption :=
    fun _ _ => rfl
  have hfirst := fun project later =>
    (load_firstFound tomlFault (files project later) env none).1 [] localPath [user] hpaths nofun
  refine ⟨hpaths, ?_, ?_, ?_, ?_⟩
  · obtain ⟨-, -, hfile, -⟩ :=
      (load_firstFound tomlFault (files (.error .missing) json) env none).1 [localPath] user []
        hpaths (List.forall_mem_singleton.2 rfl) (by rw [huser]; exact nofun)
    exact ((hfile _ (huser _ _)).2 _ (Text.decode?_encode _)).2 _ (decode_json tomlFault)
  · obtain ⟨-, hdirectory, -⟩ := hfirst (.ok .directory) json (by rw [hproject]; exact nofun)
    exact hdirectory (hproject _ _)
  · obtain ⟨-, -, hfile, -⟩ := hfirst xml json (by rw [hproject]; exact nofun)
    exact ((hfile _ (hproject _ _)).2 _ (Text.decode?_encode _)).1 _ (decode_xml tomlFault)
  · obtain ⟨-, -, -, hsame⟩ := hfirst xml json (by rw [hproject]; exact nofun)
    exact hsame (files xml (.error .missing)) (List.forall_mem_singleton.2 rfl)

end Settings

end BuildDiagnostics
