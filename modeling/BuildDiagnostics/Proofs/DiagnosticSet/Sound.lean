import BuildDiagnostics.Diagnosis
import BuildDiagnostics.Proofs.DiagnosticSet.Order
import BuildDiagnostics.Proofs.Fault.Slices
import Mathlib.Data.List.Nodup
/-!
# What holds of every set

A set of diagnostics is sound (`IsSound`) when every file in its map is the
path of its own diagnostic, so that looking a path up is going through the
diagnostics, and each diagnostic is an empty mark with the message of the set
and the labels, at numbers that can be counted from one again. The set of any
text is sound (`isSound_ofText`): the map has the diagnostics put in by their
paths, that a path has a character and only those of paths comes from the
reader, and the numbers from the counts it reads. The labels are all that the
labels decide about it (`relabel_ofText`).
-/


namespace BuildDiagnostics

namespace OrderedMap

variable {κ α β : Type}

/-- The map with its values seen in another way. -/
def map (g : α → β) (m : OrderedMap κ α) : OrderedMap κ β where
  entries := m.entries.map (Prod.map id g)
  nodup_keys := by
    rw [List.map_map]
    exact m.nodup_keys

variable [DecidableEq κ] {m : OrderedMap κ α} {k : κ} {v : α}

/-- **Looking up** finds the one entry that has the key. -/
theorem get?_eq_some_iff : m.get? k = some v ↔ (k, v) ∈ m.entries := by
  rw [get?, Option.map_eq_some_iff]
  constructor
  · rintro ⟨e, he, rfl⟩
    have hkey := List.find?_some he
    obtain rfl := of_decide_eq_true hkey
    exact List.mem_of_find?_eq_some he
  · intro hmem
    have hsome : (m.entries.find? (·.1 = k)).isSome :=
      List.find?_isSome.2 ⟨(k, v), hmem, decide_eq_true rfl⟩
    obtain ⟨e, he⟩ := Option.isSome_iff_exists.1 hsome
    have hkey := List.find?_some he
    have hsame : e = (k, v) := List.inj_on_of_nodup_map m.nodup_keys
      (List.mem_of_find?_eq_some he) hmem (of_decide_eq_true hkey)
    exact ⟨e, he, congrArg Prod.snd hsame⟩

theorem isSome_get?_iff : (m.get? k).isSome ↔ k ∈ m.keys := by
  rw [Option.isSome_iff_exists, keys, List.mem_map]
  constructor
  · rintro ⟨v, hv⟩
    exact ⟨(k, v), get?_eq_some_iff.1 hv, rfl⟩
  · rintro ⟨⟨_, v⟩, he, rfl⟩
    exact ⟨v, get?_eq_some_iff.2 he⟩

/-- Putting in does not look at the values. -/
theorem put_map (g : α → β) (key : κ) (value : α) (es : List (κ × α)) :
    put key (g value) (es.map (Prod.map id g)) = (put key value es).map (Prod.map id g) := by
  induction es with
  | nil => rfl
  | cons e es ih =>
    rw [List.map_cons, put, put]
    by_cases h : e.1 = key
    · rw [if_pos h, if_pos (show (Prod.map id g e).1 = key from h)]
      rfl
    · rw [if_neg h, if_neg (show ¬ (Prod.map id g e).1 = key from h), ih, List.map_cons]

/-- So values can be seen in another way before or after they are put in. -/
theorem map_ofList (g : α → β) (ps : List (κ × α)) :
    (ofList ps).map g = ofList (ps.map (Prod.map id g)) := by
  induction ps using List.reverseRecOn with
  | nil => rfl
  | append_singleton ps p ih =>
    rw [List.map_append, List.map_singleton, ofList_concat, ofList_concat, ← ih]
    exact OrderedMap.ext (put_map g p.1 p.2 _).symm

end OrderedMap

/-- **The paths of a fault are paths**, whatever the form of its text. -/
theorem Fault.isPath_of_ofText? {text : String} {f : Fault} (h : ofText? text = some f) :
    ∀ l ∈ f.locations, Location.IsPath l.path.toList := by
  have hne : text ≠ "" := by
    rintro rfl
    cases h
  by_cases hheader : Traceback.header <+: text.toList
  · obtain ⟨s, hs⟩ := hheader
    rw [ofText?, if_neg hne] at h
    obtain ⟨frames, load, message, htrace⟩ := exists_isTraced_read_header hs
    rw [Option.some.inj h] at htrace
    exact fun l hl => (htrace.isPath l hl).1
  · rw [ofText?_of_not_header hne hheader] at h
    cases hline : ofLine? text.toList with
    | none =>
      rw [hline] at h
      rw [← Option.some.inj h]
      intro l hl
      cases hl
    | some g =>
      rw [hline] at h
      obtain ⟨frames, load, message, htrace⟩ := (ofLine?_eq_some_iff.1 hline).exists_isTraced
      rw [show g = f from Option.some.inj h] at htrace
      exact fun l hl => (htrace.isPath l hl).1

namespace Diagnostic

/-- What holds of a diagnostic in a set with a message. -/
structure IsSound (labels : Labels) (message : String) (d : Diagnostic) : Prop where
  /-- Its path has a character, and only characters of paths. -/
  isPath : Location.IsPath d.path.toList
  /-- It has the message of the set. -/
  message_eq : d.message = message
  /-- It has the severity of the labels. -/
  severity_eq : d.severity = labels.severity
  /-- It has the source of the labels. -/
  source_eq : d.source = labels.source
  /-- It covers nothing. -/
  start_eq_stop : d.range.start = d.range.stop
  /-- Its line is below the largest number, -/
  line_le : d.range.start.line.toNat ≤ Ordinal.max - 1
  /-- and so is its character, -/
  character_le : d.range.start.character.toNat ≤ Ordinal.max - 1
  /-- so the line can be counted from one again, -/
  line_add_one : (d.range.start.line + 1).toNat = d.range.start.line.toNat + 1
  /-- and the character as well. -/
  character_add_one : (d.range.start.character + 1).toNat = d.range.start.character.toNat + 1

/-- A diagnostic under other labels. -/
def relabel (labels : Labels) (d : Diagnostic) : Diagnostic :=
  { d with severity := labels.severity, source := labels.source }

theorem isSound_ofLocation {l : Location} (h : Location.IsPath l.path.toList) (labels : Labels)
    (message : String) : (ofLocation labels message l).IsSound labels message := by
  have hstart : (ofLocation labels message l).range.start = l.position :=
    Range.start_point l.position
  have hback : ∀ o : Ordinal, (o.index + 1).toNat = o.index.toNat + 1 := fun o => by
    rw [o.index_succ, o.index_add_one]
    rfl
  exact {
    isPath := h
    message_eq := rfl
    severity_eq := rfl
    source_eq := rfl
    start_eq_stop := hstart.trans (Range.stop_point l.position).symm
    line_le := by rw [hstart]; exact l.line.toNat_index_le
    character_le := by rw [hstart]; exact l.column.toNat_index_le
    line_add_one := by rw [hstart]; exact hback l.line
    character_add_one := by rw [hstart]; exact hback l.column }

end Diagnostic

namespace DiagnosticSet

/-- What holds of a set of diagnostics under some labels. -/
structure IsSound (labels : Labels) (s : DiagnosticSet) : Prop where
  /-- Every file is the path of its own diagnostic. -/
  isKeyed : s.IsKeyed
  /-- Going through the diagnostics comes to no path twice. -/
  nodup_paths : s.paths.Nodup
  /-- Looking up finds something exactly for these paths, -/
  isSome_get? : ∀ path, (s.get? path).isSome ↔ path ∈ s.paths
  /-- and what it finds is the diagnostic with the path. -/
  get?_eq_some_iff : ∀ path d, s.get? path = some d ↔ d ∈ s.diagnostics ∧ d.path = path
  /-- There are as many diagnostics as the size says. -/
  size_eq : s.size = s.diagnostics.length
  /-- Every diagnostic has what the set says of all. -/
  isSound : ∀ d ∈ s.diagnostics, d.IsSound labels s.message

/-- A set under other labels. -/
def relabel (labels : Labels) (s : DiagnosticSet) : DiagnosticSet :=
  { s with byPath := s.byPath.map (·.relabel labels) }

variable {labels : Labels} {f : Fault} {s : DiagnosticSet}

/-- **Looking up a path**, when the files are the paths. -/
theorem IsKeyed.get?_eq_some_iff (h : s.IsKeyed) {path : String} {d : Diagnostic} :
    s.get? path = some d ↔ d ∈ s.diagnostics ∧ d.path = path := by
  rw [get?, OrderedMap.get?_eq_some_iff]
  constructor
  · exact fun hmem => ⟨List.mem_map.2 ⟨_, hmem, rfl⟩, h _ hmem⟩
  · rintro ⟨hd, rfl⟩
    obtain ⟨e, he, rfl⟩ := List.mem_map.1 hd
    rw [h e he]
    exact he

/-- **What the files being the paths comes to**: no path is there twice, and
looking up is going through the diagnostics. -/
theorem IsKeyed.isSound (h : s.IsKeyed)
    (hsound : ∀ d ∈ s.diagnostics, d.IsSound labels s.message) : s.IsSound labels where
  isKeyed := h
  nodup_paths := by
    rw [← h.keys_eq]
    exact s.byPath.nodup_keys
  isSome_get? path := by
    rw [get?, OrderedMap.isSome_get?_iff, h.keys_eq]
  get?_eq_some_iff _ _ := h.get?_eq_some_iff
  size_eq := (List.length_map _).symm
  isSound := hsound

theorem isKeyed_empty : empty.IsKeyed := fun _ he => absurd he List.not_mem_nil

theorem isSound_empty (labels : Labels) : empty.IsSound labels :=
  isKeyed_empty.isSound fun _ hd => absurd hd List.not_mem_nil

/-- **The set of a fault is sound**, if its paths are paths. -/
theorem isSound_ofFault (h : ∀ l ∈ f.locations, Location.IsPath l.path.toList) :
    (ofFault labels f).IsSound labels := by
  refine isKeyed_ofFault.isSound fun d hd => ?_
  obtain ⟨e, he, rfl⟩ := List.mem_map.1 hd
  obtain ⟨l, hl, rfl⟩ := exists_location_of_mem_byPath he
  exact Diagnostic.isSound_ofLocation (h l hl) labels f.message

/-- **The set of a text is sound.** -/
theorem isSound_ofText (labels : Labels) (text : String) : (ofText labels text).IsSound labels := by
  rw [ofText]
  cases h : Fault.ofText? text with
  | none => exact isSound_empty labels
  | some f => exact isSound_ofFault (Fault.isPath_of_ofText? h)

/-! ## Other labels -/

theorem relabel_ofFault (other : Labels) :
    (ofFault labels f).relabel other = ofFault other f := by
  have hlocated : (located labels f).map (Prod.map id (·.relabel other)) = located other f := by
    rw [located, List.map_map]
    rfl
  rw [relabel, ofFault, OrderedMap.map_ofList, hlocated, ofFault]

/-- **Other labels change the labels only.** -/
theorem relabel_ofText (other : Labels) (text : String) :
    (ofText labels text).relabel other = ofText other text := by
  rw [ofText, ofText]
  cases Fault.ofText? text with
  | none => rfl
  | some f => exact relabel_ofFault other

end DiagnosticSet

end BuildDiagnostics
