import BuildDiagnostics.Proofs.Settings.Fields
/-!
# The sections of the settings

The section for labels has two settings and the section for reports has one,
and a file has the two sections. Each of them is a part of its own
(`isPart_severity` and the others). If the sections are tables and the
settings strings, a section can be read if its name is a known one
(`exists_labelsOf_iff`, `exists_formatOf_iff`) and a file if both are
(`exists_ofEntries_iff`); a setting is then the string that is given, or the
default (`IsPart.name_eq`, `IsPart.text_eq`).
-/


namespace BuildDiagnostics

open Toml

/-! ## What a table gives -/

/-- The entries of a table. -/
def Toml.Value.entries : Value → Entries
  | .table _ es => es
  | _ => []

/-- The text of a string. -/
def Toml.Value.string? : Value → Option String
  | .string s => some s
  | _ => none

/-- A section with settings of some names: a table in which they are strings,
as far as they are there. Nothing is asked of any other key. -/
structure Toml.Value.IsSection (names : List String) (v : Value) : Prop where
  /-- It is a table. -/
  isTable : ∃ standing es, v = .table standing es
  /-- What is under one of the names is a string. -/
  isString : ∀ name ∈ names, ∀ node, v.entries.find? name = some node → ∃ s, node.2 = .string s

/-- The entries of the section of a name; none when there is no such
section. -/
def Toml.Entries.sectionOf (es : Entries) (name : String) : Entries :=
  ((es.find? name).map fun node => node.2.entries).getD []

/-- The string under a name. -/
def Toml.Entries.string? (es : Entries) (name : String) : Option String :=
  (es.find? name).bind fun node => node.2.string?

/-- What is asked of the string under a name is asked of every entry of that
name. -/
theorem Toml.Entries.forall_string?_iff {es : Entries} (h : es.names.Nodup) {name : String}
    {P : String → Prop} : (∀ s, es.string? name = some s → P s) ↔
      ∀ e ∈ es, e.1.name = name → ∀ s, e.2.2.string? = some s → P s := by
  refine Iff.trans ?_ (Entries.forall_find?_iff (P := fun n => ∀ s, n.2.string? = some s → P s) h)
  simp only [Entries.string?, Option.bind_eq_some_iff]
  exact ⟨fun hall n hn s hs => hall s ⟨n, hn, hs⟩, fun hall s ⟨n, hn, hs⟩ => hall n hn s hs⟩

/-- What is asked of the section of a name is asked of every entry of that
name, as long as nothing at all will do. -/
theorem Toml.Entries.sectionOf_iff {es : Entries} (h : es.names.Nodup) {name : String}
    {P : Entries → Prop} (hnil : P []) :
    P (es.sectionOf name) ↔ ∀ e ∈ es, e.1.name = name → P e.2.2.entries := by
  rw [← Entries.forall_find?_iff (P := fun n => P n.2.entries) h, Entries.sectionOf]
  cases es.find? name with
  | none => simp [hnil]
  | some n => simp

theorem Toml.Value.IsKeyed.entries {v : Value} (h : v.IsKeyed) : v.entries.IsKeyed := by
  cases v with
  | table => exact Value.isKeyed_table.mp h
  | _ => exact Entries.isKeyed_nil

theorem Toml.Entries.IsKeyed.sectionOf {es : Entries} (h : es.IsKeyed) (name : String) :
    (es.sectionOf name).IsKeyed :=
  (Entries.sectionOf_iff h.nodup_names Entries.isKeyed_nil).mpr fun e he _ =>
    (h.value e he).entries

/-- The strings of a section, entry by entry. -/
theorem Toml.Value.IsSection.isString_of_mem {names : List String} {v : Value}
    (h : v.IsSection names) (hkeyed : v.IsKeyed) :
    ∀ name ∈ names, ∀ e ∈ v.entries, e.1.name = name → ∃ s, e.2.2 = .string s :=
  fun name hname =>
    (Entries.forall_find?_iff (P := fun n => ∃ s, n.2 = .string s) hkeyed.entries.nodup_names).mp
      (h.isString name hname)

namespace Settings

/-! ## The parts of the sections -/

variable {α β : Type} {setters : List (String × (Node → α → Except Complaint α))} {a b : α}
  {name : String} {node : Node} {part : α → β} {read : Node → Except Complaint β}

/-- A setter that puts what it reads where the part is. -/
theorem map_part_eq {x : Except Complaint β} {put : β → α} (h : ∀ y, part (put y) = y) :
    (x >>= fun y => pure (put y)).map part = x := by
  cases x with
  | error e => rfl
  | ok y => exact congrArg Except.ok (h y)

/-- A setter that puts what it reads elsewhere. -/
theorem part_eq_of_bind {γ : Type} (x : Except Complaint γ) (put : γ → α)
    (h : ∀ y, part (put y) = part a) (hx : (x >>= fun y => pure (put y)) = .ok b) :
    part b = part a := by
  obtain ⟨y, -, ⟨⟩⟩ := bind_eq_ok_iff.mp hx
  exact h y

/-- A part beside one other: it is enough that the field of the other leaves
it alone. -/
theorem isPart_of_two {other : String}
    (hlookup : ∀ n, n ≠ name → n ≠ other → setters.lookup n = none)
    (hown : ∀ node a, (takeField setters a (name, node)).map part = read node)
    (hother : ∀ node a b, takeField setters a (other, node) = .ok b → part b = part a) :
    IsPart setters name part read := by
  refine ⟨hown, ?_⟩
  rintro ⟨n, node⟩ a b hn h
  by_cases heq : n = other
  · subst heq
    exact hother node a b h
  · rw [eq_of_takeField (hlookup n hn heq) h]

theorem lookup_labelSetters (h₁ : name ≠ "severity") (h₂ : name ≠ "source") :
    labelSetters.lookup name = none := by
  simp [labelSetters, List.lookup_eq_none_iff, h₁, h₂]

theorem lookup_formatSetters (h : name ≠ "format") : formatSetters.lookup name = none := by
  simp [formatSetters, List.lookup_eq_none_iff, h]

theorem lookup_sectionSetters (h₁ : name ≠ "diagnostics") (h₂ : name ≠ "output") :
    sectionSetters.lookup name = none := by
  simp [sectionSetters, List.lookup_eq_none_iff, h₁, h₂]

/-- The severity of a name. -/
abbrev severityOf (node : Node) : Except Complaint Severity :=
  nameOf [Severity.error.name, Severity.warning.name] Severity.ofName? node

theorem isPart_severity : IsPart labelSetters "severity" Labels.severity severityOf :=
  isPart_of_two (fun _ h₁ h₂ => lookup_labelSetters h₁ h₂) (fun _ _ => map_part_eq fun _ => rfl)
    fun node a _ h =>
      part_eq_of_bind (textOf node) (fun source => { a with source := source }) (fun _ => rfl) h

theorem isPart_source : IsPart labelSetters "source" Labels.source textOf :=
  isPart_of_two (fun _ h₁ h₂ => lookup_labelSetters h₂ h₁) (fun _ _ => map_part_eq fun _ => rfl)
    fun node a _ h =>
      part_eq_of_bind (severityOf node) (fun severity => { a with severity := severity })
        (fun _ => rfl) h

theorem isPart_format :
    IsPart formatSetters "format" id (nameOf Format.names Format.ofName?) where
  own _ _ := congrFun Except.map_id _
  other := by
    rintro ⟨name, node⟩ a b hname h
    rw [eq_of_takeField (lookup_formatSetters hname) h]

theorem isPart_labels : IsPart sectionSetters "diagnostics" Settings.labels labelsOf :=
  isPart_of_two (fun _ h₁ h₂ => lookup_sectionSetters h₁ h₂) (fun _ _ => map_part_eq fun _ => rfl)
    fun node a _ h =>
      part_eq_of_bind (formatOf node) (fun format => { a with format := format }) (fun _ => rfl) h

theorem isPart_output : IsPart sectionSetters "output" Settings.format formatOf :=
  isPart_of_two (fun _ h₁ h₂ => lookup_sectionSetters h₂ h₁) (fun _ _ => map_part_eq fun _ => rfl)
    fun node a _ h =>
      part_eq_of_bind (labelsOf node) (fun labels => { a with labels := labels }) (fun _ => rfl) h

/-! ## What can be read -/

variable {es : Entries}

theorem numbersHeld_string (s : String) : (Value.string s).NumbersHeld :=
  (Value.IsScalar.numbersHeld_iff (v := .string s) trivial).mpr trivial

theorem nameOf_eq_ok_iff {names : List String} {ofName? : String → Option α} {x : α}
    {span : Span} {s : String} :
    nameOf names ofName? (span, .string s) = .ok x ↔ ofName? s = some x := by
  simp only [nameOf]
  cases ofName? s <;> simp

/-- A section of which one setting is a name and the others are only asked
for their numbers. -/
theorem exists_readSection_iff {expected n : String} {P : String → Prop} {start : α}
    (htable : ∃ standing es, node.2 = .table standing es) (hkeyed : node.2.IsKeyed)
    (h : ∀ e ∈ node.2.entries, ∀ a, (∃ b, takeField setters a (e.1.name, e.2) = .ok b) ↔
      (e.1.name = n → ∀ s, e.2.2.string? = some s → P s) ∧ e.2.2.NumbersHeld) :
    (∃ b, readSection expected setters start node = .ok b) ↔
      (∀ s, node.2.entries.string? n = some s → P s) ∧ node.2.NumbersHeld := by
  obtain ⟨span, v⟩ := node
  obtain ⟨standing, es, rfl⟩ := htable
  rw [Entries.forall_string?_iff hkeyed.entries.nodup_names, Value.numbersHeld_table,
    Entries.NumbersHeld, Value.entries, ← forall₂_and]
  exact exists_readFields_iff h start

/-- The field of a setting that is a name is taken if the name is known. -/
theorem IsPart.exists_takeField_name_iff {names : List String} {ofName? : String → Option β}
    (h : IsPart setters name part (nameOf names ofName?)) (hstring : ∃ s, node.2 = .string s)
    (a : α) :
    (∃ b, takeField setters a (name, node) = .ok b) ↔
      (∀ s, node.2.string? = some s → (ofName? s).isSome) ∧ node.2.NumbersHeld := by
  obtain ⟨span, v⟩ := node
  obtain ⟨s, rfl⟩ := hstring
  rw [h.exists_takeField_iff]
  simp [nameOf_eq_ok_iff, numbersHeld_string, Value.string?, Option.isSome_iff_exists]

/-- The field for the severity has a known name, and any other its numbers. -/
theorem exists_takeField_labels_iff (hseverity : name = "severity" → ∃ s, node.2 = .string s)
    (hsource : name = "source" → ∃ s, node.2 = .string s) (a : Labels) :
    (∃ b, takeField labelSetters a (name, node) = .ok b) ↔
      (name = "severity" → ∀ s, node.2.string? = some s → (Severity.ofName? s).isSome) ∧
        node.2.NumbersHeld := by
  by_cases h₁ : name = "severity"
  · subst h₁
    rw [isPart_severity.exists_takeField_name_iff (hseverity rfl)]
    simp
  by_cases h₂ : name = "source"
  · subst h₂
    obtain ⟨span, v⟩ := node
    obtain ⟨s, rfl⟩ := hsource rfl
    rw [isPart_source.exists_takeField_iff]
    simp [textOf, numbersHeld_string]
  · rw [exists_takeField_iff_of_lookup (lookup_labelSetters h₁ h₂)]
    simp [h₁]

/-- **The section for labels** can be read if its severity is a known name. -/
theorem exists_labelsOf_iff (h : node.2.IsSection ["severity", "source"])
    (hkeyed : node.2.IsKeyed) :
    (∃ labels, labelsOf node = .ok labels) ↔
      (∀ s, node.2.entries.string? "severity" = some s → (Severity.ofName? s).isSome) ∧
        node.2.NumbersHeld := by
  have hstring := h.isString_of_mem hkeyed
  exact exists_readSection_iff h.isTable hkeyed fun e he a =>
    exists_takeField_labels_iff (hstring "severity" (by simp) e he)
      (hstring "source" (by simp) e he) a

/-- The field for the form of reports has a known name, and any other its
numbers. -/
theorem exists_takeField_format_iff (hformat : name = "format" → ∃ s, node.2 = .string s)
    (a : Format) :
    (∃ b, takeField formatSetters a (name, node) = .ok b) ↔
      (name = "format" → ∀ s, node.2.string? = some s → (Format.ofName? s).isSome) ∧
        node.2.NumbersHeld := by
  by_cases h : name = "format"
  · subst h
    rw [isPart_format.exists_takeField_name_iff (hformat rfl)]
    simp
  · rw [exists_takeField_iff_of_lookup (lookup_formatSetters h)]
    simp [h]

/-- **The section for reports** can be read if its form is a known name. -/
theorem exists_formatOf_iff (h : node.2.IsSection ["format"]) (hkeyed : node.2.IsKeyed) :
    (∃ format, formatOf node = .ok format) ↔
      (∀ s, node.2.entries.string? "format" = some s → (Format.ofName? s).isSome) ∧
        node.2.NumbersHeld := by
  have hstring := h.isString_of_mem hkeyed
  exact exists_readSection_iff h.isTable hkeyed fun e he a =>
    exists_takeField_format_iff (hstring "format" (by simp) e he) a

/-- A section can be read by itself, and any other field has its numbers. -/
theorem exists_takeField_sections_iff (hkeyed : node.2.IsKeyed)
    (hdiagnostics : name = "diagnostics" → node.2.IsSection ["severity", "source"])
    (houtput : name = "output" → node.2.IsSection ["format"]) (a : Settings) :
    (∃ b, takeField sectionSetters a (name, node) = .ok b) ↔
      (name = "diagnostics" →
        ∀ s, node.2.entries.string? "severity" = some s → (Severity.ofName? s).isSome) ∧
      (name = "output" →
        ∀ s, node.2.entries.string? "format" = some s → (Format.ofName? s).isSome) ∧
      node.2.NumbersHeld := by
  by_cases h₁ : name = "diagnostics"
  · subst h₁
    rw [isPart_labels.exists_takeField_iff, exists_labelsOf_iff (hdiagnostics rfl) hkeyed]
    simp
  by_cases h₂ : name = "output"
  · subst h₂
    rw [isPart_output.exists_takeField_iff, exists_formatOf_iff (houtput rfl) hkeyed]
    simp
  · rw [exists_takeField_iff_of_lookup (lookup_sectionSetters h₁ h₂)]
    simp [h₁, h₂]

/-- **A file** can be read if the two names in it are known. -/
theorem exists_ofEntries_iff (hkeyed : es.IsKeyed)
    (hdiagnostics : ∀ node, es.find? "diagnostics" = some node →
      node.2.IsSection ["severity", "source"])
    (houtput : ∀ node, es.find? "output" = some node → node.2.IsSection ["format"]) :
    (∃ settings, ofEntries es = .ok settings) ↔
      (∀ s, (es.sectionOf "diagnostics").string? "severity" = some s →
        (Severity.ofName? s).isSome) ∧
      (∀ s, (es.sectionOf "output").string? "format" = some s → (Format.ofName? s).isSome) ∧
      es.NumbersHeld := by
  have hnames := hkeyed.nodup_names
  have hfields : ∀ e ∈ es, ∀ a, _ := fun e he a =>
    exists_takeField_sections_iff (a := a) (hkeyed.value e he)
      ((Entries.forall_find?_iff hnames).mp hdiagnostics e he)
      ((Entries.forall_find?_iff hnames).mp houtput e he)
  rw [Entries.sectionOf_iff hnames (P := fun sub => ∀ s, sub.string? "severity" = some s →
      (Severity.ofName? s).isSome) nofun,
    Entries.sectionOf_iff hnames (P := fun sub => ∀ s, sub.string? "format" = some s →
      (Format.ofName? s).isSome) nofun,
    Entries.NumbersHeld, ← forall₂_and, ← forall₂_and]
  exact exists_readFields_iff hfields {}

/-! ## What is read -/

variable {start : α}

/-- What is read of a section is read of its entries, and without a section
there are none. -/
theorem IsPart.readFields_sectionOf {expected : String}
    {inner : List (String × (Node → β → Except Complaint β))}
    (h : IsPart setters name part (readSection expected inner (part start)))
    (hnames : es.names.Nodup)
    (htable : ∀ node, es.find? name = some node → ∃ standing sub, node.2 = .table standing sub)
    (hread : readFields setters start (fieldsOf es) = .ok b) :
    readFields inner (part start) (fieldsOf (es.sectionOf name)) = .ok (part b) := by
  have hpart := h.find? hnames hread
  rw [Entries.sectionOf]
  cases hfind : es.find? name with
  | none => rwa [hfind] at hpart
  | some node =>
    obtain ⟨standing, sub, hsub⟩ := htable node hfind
    rw [hfind] at hpart
    simpa [readSection, hsub, Value.entries] using hpart

/-- A setting that is a name: the one that is given, or that of the
default. -/
theorem IsPart.name_eq {names : List String} {ofName? : String → Option β} {toName : β → String}
    (h : IsPart setters name part (nameOf names ofName?))
    (hname : ∀ {text x}, ofName? text = some x → toName x = text) (hnames : es.names.Nodup)
    (hstring : ∀ node, es.find? name = some node → ∃ s, node.2 = .string s)
    (hread : readFields setters start (fieldsOf es) = .ok b) :
    toName (part b) = (es.string? name).getD (toName (part start)) := by
  have hpart := h.find? hnames hread
  rw [Entries.string?]
  cases hfind : es.find? name with
  | none =>
    rw [hfind] at hpart
    exact congrArg toName (Except.ok.inj hpart).symm
  | some node =>
    obtain ⟨span, v⟩ := node
    obtain ⟨s, rfl⟩ := hstring _ hfind
    rw [hfind] at hpart
    exact hname (nameOf_eq_ok_iff.mp hpart)

/-- A setting that is any text: the one that is given, or the default. -/
theorem IsPart.text_eq {part : α → String} (h : IsPart setters name part textOf)
    (hnames : es.names.Nodup)
    (hstring : ∀ node, es.find? name = some node → ∃ s, node.2 = .string s)
    (hread : readFields setters start (fieldsOf es) = .ok b) :
    part b = (es.string? name).getD (part start) := by
  have hpart := h.find? hnames hread
  rw [Entries.string?]
  cases hfind : es.find? name with
  | none =>
    rw [hfind] at hpart
    exact (Except.ok.inj hpart).symm
  | some node =>
    obtain ⟨span, v⟩ := node
    obtain ⟨s, rfl⟩ := hstring _ hfind
    rw [hfind] at hpart
    exact (Except.ok.inj hpart).symm

end Settings

end BuildDiagnostics
