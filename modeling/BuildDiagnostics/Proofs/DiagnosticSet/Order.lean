import BuildDiagnostics.DiagnosticSet
import Mathlib.Data.List.Find
import Mathlib.Data.List.Induction
/-!
# First turn, last place

A fault may name a file many times and in between others. In the set of its
diagnostics the file has the turn of its first place and the position of its
last (`ofFault_exact`). Both come from the map that the places are put into:
after any number of pairs its keys are those of the pairs without
repetitions (`keys_ofList`), and a key has the value of its last pair
(`get?_ofList`). The keys are kept apart from the paths that the diagnostics
have of their own, and yet they are these paths (`isKeyed_ofFault`).
-/


namespace BuildDiagnostics

namespace OrderedMap

variable {κ α : Type} [DecidableEq κ]

/-- One more pair is put in after the others. -/
theorem ofList_concat (ps : List (κ × α)) (p : κ × α) :
    ofList (ps ++ [p]) = (ofList ps).insert p.1 p.2 := by
  rw [ofList, List.foldl_append]
  rfl

/-- **The keys come in the order of their first pairs.** -/
theorem keys_ofList (ps : List (κ × α)) : (ofList ps).keys = (ps.map Prod.fst).eraseDups := by
  -- on the pairs put in so far: the keys are theirs without repetitions
  induction ps using List.reverseRecOn with
  | nil => rfl
  | append_singleton ps p ih =>
    rw [ofList_concat, keys_insert, ih, List.map_append, List.eraseDups_append]
    by_cases hp : p.1 ∈ ps.map Prod.fst
    · have hnew : (List.map Prod.fst [p]).removeAll (ps.map Prod.fst) = [] := by
        simpa [List.removeAll] using hp
      rw [if_pos (List.mem_eraseDups.2 hp), hnew, List.eraseDups_nil, List.append_nil]
    · have hnew : (List.map Prod.fst [p]).removeAll (ps.map Prod.fst) = [p.1] := by
        simpa [List.removeAll] using hp
      rw [if_neg fun h => hp (List.mem_eraseDups.1 h), hnew]
      rfl

/-- **A key has the value of its last pair.** -/
theorem get?_ofList (ps : List (κ × α)) (k : κ) :
    (ofList ps).get? k = (ps.filter (·.1 = k)).getLast?.map Prod.snd := by
  -- on the pairs put in so far, since the next one overrides them
  induction ps using List.reverseRecOn with
  | nil => rfl
  | append_singleton ps p ih =>
    rw [ofList_concat, get?_insert, ih, List.filter_append, List.getLast?_append]
    by_cases hp : p.1 = k
    · simp [hp]
    · simp [hp]

/-- Putting in changes no other entry. -/
theorem mem_put {key : κ} {value : α} {es : List (κ × α)} {e : κ × α}
    (h : e ∈ put key value es) : e = (key, value) ∨ e ∈ es := by
  induction es with
  | nil => exact .inl (List.mem_singleton.1 h)
  | cons d es ih =>
    rw [put] at h
    split at h
    · rcases List.mem_cons.1 h with rfl | h
      · exact .inl rfl
      · exact .inr (List.mem_cons_of_mem d h)
    · rcases List.mem_cons.1 h with rfl | h
      · exact .inr List.mem_cons_self
      · exact (ih h).imp_right (List.mem_cons_of_mem d)

/-- So nothing is in the map that was not put in. -/
theorem mem_of_mem_ofList {ps : List (κ × α)} {e : κ × α} (h : e ∈ (ofList ps).entries) :
    e ∈ ps := by
  induction ps using List.reverseRecOn with
  | nil => cases h
  | append_singleton ps p ih =>
    rw [ofList_concat] at h
    rcases mem_put h with rfl | h
    · exact List.mem_append_right ps List.mem_cons_self
    · exact List.mem_append_left [p] (ih h)

end OrderedMap

namespace DiagnosticSet

variable {labels : Labels} {f : Fault}

/-- Whether every file is the path of its own diagnostic, though it is kept
apart from it. -/
def IsKeyed (s : DiagnosticSet) : Prop := ∀ e ∈ s.byPath.entries, e.2.path = e.1

/-- Then the files are the paths, in the same order. -/
theorem IsKeyed.keys_eq {s : DiagnosticSet} (h : s.IsKeyed) : s.byPath.keys = s.paths := by
  rw [paths, diagnostics, OrderedMap.values, OrderedMap.keys, List.map_map]
  exact List.map_congr_left fun e he => (h e he).symm

/-- What is in the map of a fault comes from one of its places. -/
theorem exists_location_of_mem_byPath {e : String × Diagnostic}
    (h : e ∈ (ofFault labels f).byPath.entries) :
    ∃ l ∈ f.locations, e = (l.path, .ofLocation labels f.message l) := by
  obtain ⟨l, hl, he⟩ := List.mem_map.1 (OrderedMap.mem_of_mem_ofList h)
  exact ⟨l, hl, he.symm⟩

/-- **A fault's diagnostics are found at their own paths.** -/
theorem isKeyed_ofFault : (ofFault labels f).IsKeyed := by
  intro e he
  obtain ⟨l, -, rfl⟩ := exists_location_of_mem_byPath he
  rfl

/-- So going through them comes by the files as these are first named. -/
theorem paths_ofFault : (ofFault labels f).paths = (f.locations.map (·.path)).eraseDups := by
  rw [← isKeyed_ofFault.keys_eq, ofFault, OrderedMap.keys_ofList, located, List.map_map]
  rfl

/-- The diagnostic of a file is that of the last place in it. -/
theorem get?_ofFault (path : String) :
    (ofFault labels f).get? path =
      (f.locations.filter (·.path = path)).getLast?.map (.ofLocation labels f.message) := by
  rw [get?, ofFault, OrderedMap.get?_ofList, located, List.filter_map, List.getLast?_map,
    Option.map_map]
  rfl

/-- A file that is named has a last place. -/
theorem exists_last {locations : List Location} {path : String}
    (h : path ∈ locations.map (·.path)) :
    ∃ last, (locations.filter (·.path = path)).getLast? = some last ∧ last.path = path := by
  obtain ⟨l, hl, hpath⟩ := List.mem_map.1 h
  have hmem : l ∈ locations.filter (·.path = path) :=
    List.mem_filter.2 ⟨hl, decide_eq_true hpath⟩
  have hne : locations.filter (·.path = path) ≠ [] := List.ne_nil_of_mem hmem
  refine ⟨_, List.getLast?_eq_some_getLast hne, ?_⟩
  exact of_decide_eq_true (List.mem_filter.1 (List.getLast_mem hne)).2

/-- **First turn, last place.** For any fault and any labels: the set has the
message of the fault, also when there are no places. Its files are those of
the places, each once, in the order in which they are first named. A file
that no place names has no diagnostic; any other has the one of the last
place that names it, which covers nothing, stands one line and one column
before the numbers of the place as those count from one, and has the message
of the fault and the labels. -/
theorem ofFault_exact (labels : Labels) (f : Fault) :
    let set := ofFault labels f
    set.message = f.message ∧
    set.paths = (f.locations.map (·.path)).eraseDups ∧
    (∀ path, path ∉ f.locations.map (·.path) → set.get? path = none) ∧
    ∀ path, path ∈ f.locations.map (·.path) →
      ∃ last d, (f.locations.filter (·.path = path)).getLast? = some last ∧
        set.get? path = some d ∧ d.path = path ∧
        d.range.start = d.range.stop ∧
        d.range.start.line.toNat = last.line.toNat - 1 ∧
        d.range.start.character.toNat = last.column.toNat - 1 ∧
        d.message = f.message ∧ d.severity = labels.severity ∧ d.source = labels.source := by
  intro set
  refine ⟨rfl, paths_ofFault, fun path hnot => ?_, fun path hnamed => ?_⟩
  · have hnone : f.locations.filter (·.path = path) = [] := by
      refine List.filter_eq_nil_iff.2 fun l hl hpath => hnot ?_
      exact List.mem_map.2 ⟨l, hl, of_decide_eq_true hpath⟩
    rw [get?_ofFault, hnone]
    rfl
  · obtain ⟨last, hlast, hpath⟩ := exists_last hnamed
    have hget : set.get? path = some (.ofLocation labels f.message last) := by
      rw [get?_ofFault, hlast]
      rfl
    have hstart : (Diagnostic.ofLocation labels f.message last).range.start = last.position :=
      Range.start_point last.position
    have hstop : (Diagnostic.ofLocation labels f.message last).range.stop = last.position :=
      Range.stop_point last.position
    refine ⟨last, _, hlast, hget, hpath, ?_, ?_, ?_, rfl, rfl, rfl⟩
    · rw [hstart, hstop]
    · rw [hstart]
      exact last.line.toNat_index
    · rw [hstart]
      exact last.column.toNat_index

/-- Two files in turns: the first has its first turn and its last place. -/
theorem ofFault_turns :
    let line (n : UInt32) (h : n ≠ 0) (path : String) : Location := ⟨path, ⟨n, h⟩, ⟨9, by decide⟩⟩
    let f : Fault := ⟨"boom", [line 1 (by decide) "a", line 2 (by decide) "b",
      line 7 (by decide) "a"]⟩
    let set := ofFault {} f
    set.paths = ["a", "b"] ∧ "c" ∉ f.locations.map (·.path) ∧ set.get? "c" = none ∧
      "a" ∈ f.locations.map (·.path) ∧
      ∃ d, set.get? "a" = some d ∧ d.range.start.line.toNat = 6 := by
  intro line f set
  obtain ⟨-, hpaths, hnone, hlast⟩ := ofFault_exact {} f
  obtain ⟨last, d, h, hget, -, -, hline, -⟩ := hlast "a" (by decide)
  have hseven : last = line 7 (by decide) "a" := by
    have hfilter : (f.locations.filter (·.path = "a")).getLast? =
        some (line 7 (by decide) "a") := by decide
    exact Option.some.inj (h.symm.trans hfilter)
  rw [hseven] at hline
  exact ⟨hpaths.trans (by decide), by decide, hnone "c" (by decide), by decide, d, hget, hline⟩

end DiagnosticSet

end BuildDiagnostics
