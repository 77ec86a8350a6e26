import Mathlib
import BuildDiagnostics.Proofs.Settings.Sections
import BuildDiagnostics.Proofs.Settings.Discovery
/-!
# Three settings, each on its own

A configuration file gives a severity, a source and a form of reports, or
leaves some of them out, and may hold anything else beside them. Whether it
loads depends on the two names it gives alone, and each setting is what the
file gives for it, or else its default, whatever the other two are
(`ConfigFile.load_independent`). The file has to be read as TOML for that, in
both stages: it is a table, and the numbers in it have values.
-/


namespace BuildDiagnostics

open Toml

namespace Settings

/-- A file whose content can be read is there. -/
theorem exists?_of_readText {files : Files} {path content : String}
    (h : files.readText path = .ok content) : files.exists? path = true := by
  rw [Files.exists?]
  rw [Files.readText, Files.read] at h
  cases hlookup : files.lookup path with
  | error cause => simp [hlookup] at h
  | ok entry => rfl

/-- A file that is well-formed TOML, in which the two sections are tables
and the three settings are strings, as far as they are there. -/
structure ConfigFile where
  /-- The files. -/
  files : Files
  /-- Where it is among them. -/
  path : String
  /-- Its content. -/
  content : String
  /-- The entries of its table. -/
  entries : Entries
  /-- The content can be read. -/
  readText_path : files.readText path = .ok content
  /-- The table is that of the content, -/
  document?_content : document? content = some entries
  /-- and every number in it has a value that can be held. -/
  numbersHeld : entries.NumbersHeld
  /-- The section for labels. -/
  diagnostics : ∀ node, entries.find? "diagnostics" = some node →
    node.2.IsSection ["severity", "source"]
  /-- The section for reports. -/
  output : ∀ node, entries.find? "output" = some node → node.2.IsSection ["format"]

namespace ConfigFile

/-- The severity that the file gives. -/
def severity? (f : ConfigFile) : Option String :=
  (f.entries.sectionOf "diagnostics").string? "severity"

/-- The source that the file gives. -/
def source? (f : ConfigFile) : Option String :=
  (f.entries.sectionOf "diagnostics").string? "source"

/-- The form of reports that the file gives. -/
def format? (f : ConfigFile) : Option String := (f.entries.sectionOf "output").string? "format"

/-- What loading the file comes to. -/
def load (tomlFault : String → String) (f : ConfigFile) : Except ToolError Settings :=
  (loadFile tomlFault f.files f.path).2

variable {tomlFault : String → String} {f g : ConfigFile} {settings : Settings}

theorem isKeyed (f : ConfigFile) : f.entries.IsKeyed :=
  Entries.isKeyed_of_document? f.document?_content

/-- Loading a file is reading its entries. -/
theorem load_eq_ok_iff : f.load tomlFault = .ok settings ↔ ofEntries f.entries = .ok settings := by
  rw [load, loadFile, if_pos (exists?_of_readText f.readText_path), f.readText_path]
  simp only [decode, f.document?_content, mapError_eq_ok_iff]

/-- The strings of a section of the file. -/
theorem isString_sectionOf {names : List String} {sec name : String}
    (h : ∀ node, f.entries.find? sec = some node → node.2.IsSection names) (hname : name ∈ names) :
    ∀ node, (f.entries.sectionOf sec).find? name = some node → ∃ s, node.2 = .string s := by
  rw [Entries.sectionOf]
  cases hfind : f.entries.find? sec with
  | none =>
    intro _ hnone
    cases hnone
  | some node => exact (h node hfind).isString name hname

/-- **What a file sets** is what it gives, or else the default. -/
theorem settings_of_load (h : f.load tomlFault = .ok settings) :
    settings.labels.severity.name = f.severity?.getD "error" ∧
      settings.labels.source = f.source?.getD "envd" ∧
      settings.format.name = f.format?.getD "human" := by
  have hread := load_eq_ok_iff.mp h
  have hnames := f.isKeyed.nodup_names
  have hlabels := isPart_labels.readFields_sectionOf hnames
    (fun node hn => (f.diagnostics node hn).isTable) hread
  have hformat := isPart_output.readFields_sectionOf hnames
    (fun node hn => (f.output node hn).isTable) hread
  have hdiagnostics := (f.isKeyed.sectionOf "diagnostics").nodup_names
  have houtput := (f.isKeyed.sectionOf "output").nodup_names
  exact ⟨isPart_severity.name_eq Severity.name_of_ofName? hdiagnostics
      (isString_sectionOf f.diagnostics (by simp)) hlabels,
    isPart_source.text_eq hdiagnostics (isString_sectionOf f.diagnostics (by simp)) hlabels,
    isPart_format.name_eq Format.name_of_ofName? houtput
      (isString_sectionOf f.output (by simp)) hformat⟩

/-- **When a file loads.** -/
theorem exists_load_iff (tomlFault : String → String) (f : ConfigFile) :
    (∃ settings, f.load tomlFault = .ok settings) ↔
      (∀ s, f.severity? = some s → s = "error" ∨ s = "warning") ∧
      (∀ s, f.format? = some s → s = "human" ∨ s = "json") := by
  simp only [load_eq_ok_iff, ← Severity.isSome_ofName?_iff, ← Format.isSome_ofName?_iff]
  rw [exists_ofEntries_iff f.isKeyed f.diagnostics f.output, ← and_assoc]
  exact and_iff_left f.numbersHeld

/-- Settings are told apart by the names and the source in them. -/
theorem settings_ext {x y : Settings} (hseverity : x.labels.severity.name = y.labels.severity.name)
    (hsource : x.labels.source = y.labels.source) (hformat : x.format.name = y.format.name) :
    x = y := by
  obtain ⟨⟨severity, source⟩, format⟩ := x
  obtain ⟨⟨severity', source'⟩, format'⟩ := y
  obtain rfl : severity = severity' := by
    rw [← Option.some_inj, ← Severity.ofName?_name, hseverity, Severity.ofName?_name]
  obtain rfl : format = format' := by
    rw [← Option.some_inj, ← Format.ofName?_name, hformat, Format.ofName?_name]
  obtain rfl : source = source' := hsource
  rfl

/-- **Each setting on its own, and nothing else.** A file loads if and only
if the names it gives for the severity and for the form of reports are known
ones. Each setting is then what the file gives for it, or its own default if
the file, or its section, leaves it out. So two files that give the same
three settings load to the same or not at all, whatever else is in them. -/
theorem load_independent (tomlFault : String → String) (f : ConfigFile) :
    ((∃ settings, f.load tomlFault = .ok settings) ↔
      (∀ s, f.severity? = some s → s = "error" ∨ s = "warning") ∧
      (∀ s, f.format? = some s → s = "human" ∨ s = "json")) ∧
    (∀ settings, f.load tomlFault = .ok settings →
      settings.labels.severity.name = f.severity?.getD "error" ∧
      settings.labels.source = f.source?.getD "envd" ∧
      settings.format.name = f.format?.getD "human") ∧
    ∀ g : ConfigFile, g.severity? = f.severity? → g.source? = f.source? →
      g.format? = f.format? → (g.load tomlFault).toOption = (f.load tomlFault).toOption := by
  refine ⟨f.exists_load_iff tomlFault, fun _ => settings_of_load,
    fun g hseverity hsource hformat => ?_⟩
  have hloads : (∃ settings, g.load tomlFault = .ok settings) ↔
      ∃ settings, f.load tomlFault = .ok settings := by
    rw [exists_load_iff, exists_load_iff, hseverity, hformat]
  cases hf : f.load tomlFault with
  | error e =>
    cases hg : g.load tomlFault with
    | error e' => rfl
    | ok settings =>
      obtain ⟨_, hok⟩ := hloads.mp ⟨settings, hg⟩
      cases hf.symm.trans hok
  | ok settings =>
    obtain ⟨settings', hg⟩ := hloads.mpr ⟨settings, hf⟩
    obtain ⟨h₁, h₂, h₃⟩ := settings_of_load hf
    obtain ⟨h₁', h₂', h₃'⟩ := settings_of_load hg
    have : settings' = settings := settings_ext (by rw [h₁, h₁', hseverity])
      (by rw [h₂, h₂', hsource]) (by rw [h₃, h₃', hformat])
    rw [hg, this]

/-! ## Two files -/

/-- A file alone, by its content. -/
def ofContent (content : String) (entries : Entries) (h : document? content = some entries)
    (hnumbers : entries.NumbersHeld)
    (hdiagnostics : ∀ node, entries.find? "diagnostics" = some node →
      node.2.IsSection ["severity", "source"])
    (houtput : ∀ node, entries.find? "output" = some node → node.2.IsSection ["format"]) :
    ConfigFile where
  files := ⟨fun _ => .ok (.file (Text.encode content))⟩
  path := "config.toml"
  content := content
  entries := entries
  readText_path := by simp [Files.readText, Files.read, Text.decode?_encode]
  document?_content := h
  numbersHeld := hnumbers
  diagnostics := hdiagnostics
  output := houtput

/-- The form of reports as a dotted key. -/
def dotted : ConfigFile :=
  ofContent "output.format = \"json\""
    [(⟨"output", ⟨22, 16⟩⟩, ⟨22, 16⟩,
      .table .dotted [(⟨"format", ⟨15, 9⟩⟩, ⟨6, 0⟩, .string "json")])]
    document?_json
    (by simp [Entries.NumbersHeld, Value.numbersHeld_table, numbersHeld_string])
    (by simp [Entries.find?])
    (by
      rintro node ⟨⟩
      refine ⟨⟨_, _, rfl⟩, ?_⟩
      simp [Value.entries, Entries.find?])

/-- The same under a header, with another key beside it. -/
def headed : ConfigFile :=
  ofContent "[output]\nwidth = 80\nformat = \"json\""
    [(⟨"output", ⟨34, 28⟩⟩, ⟨35, 27⟩,
      .table .headed [(⟨"format", ⟨15, 9⟩⟩, ⟨6, 0⟩, .string "json"),
        (⟨"width", ⟨26, 21⟩⟩, ⟨18, 16⟩, .integer (some 80))])]
    (by
      have htext : "[output]\nwidth = 80\nformat = \"json\"".toList = ['[', 'o', 'u', 't', 'p',
          'u', 't', ']', '\n', 'w', 'i', 'd', 't', 'h', ' ', '=', ' ', '8', '0', '\n', 'f', 'o',
          'r', 'm', 'a', 't', ' ', '=', ' ', '"', 'j', 's', 'o', 'n', '"'] := by cbv
      simp only [document?, htext]
      cbv)
    (by
      have h : (Value.integer (some 80)).NumbersHeld :=
        (Value.IsScalar.numbersHeld_iff (v := .integer (some 80)) trivial).mpr
          ⟨80, rfl, by decide, by decide⟩
      simp [Entries.NumbersHeld, Value.numbersHeld_table, numbersHeld_string, h])
    (by simp [Entries.find?])
    (by
      rintro node ⟨⟩
      refine ⟨⟨_, _, rfl⟩, ?_⟩
      simp [Value.entries, Entries.find?])

/-- Both come to the same settings. -/
theorem load_independent_dotted_headed :
    (∃ settings, dotted.load id = .ok settings ∧ settings.labels.severity.name = "error" ∧
      settings.labels.source = "envd" ∧ settings.format.name = "json") ∧
    (headed.load id).toOption = (dotted.load id).toOption := by
  obtain ⟨hloads, hsettings, hsame⟩ := load_independent id dotted
  constructor
  · have hformat : ∀ s, dotted.format? = some s → s = "human" ∨ s = "json" := by
      rintro s ⟨⟩
      exact .inr rfl
    obtain ⟨settings, hload⟩ := hloads.mpr ⟨nofun, hformat⟩
    exact ⟨settings, hload, hsettings settings hload⟩
  · exact hsame headed rfl rfl rfl

end ConfigFile

end Settings

end BuildDiagnostics
