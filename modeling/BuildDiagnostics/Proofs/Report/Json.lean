import BuildDiagnostics.Proofs.DiagnosticSet.Order
import BuildDiagnostics.Proofs.Json.Written
import BuildDiagnostics.Proofs.Report.Modes
/-!
# Reports for programs, read back

A program that reads the report of a set looks up the members by their keys
and takes their values for what they should be (`DiagnosticSet.contents?`).
It finds what was reported on: the message, and in their order the
diagnostics with all their parts (`DiagnosticSet.contents?_datum`). So sets
with the same report have the same message and the same diagnostics
(`DiagnosticSet.render_inj`), and as the files of a fault's diagnostics are
their paths, sets of faults with the same report are the same. Reports that
follow one another are told apart by the line feeds after them, since there
are none in them (`splitOn_reportBytes_json`).
-/


namespace BuildDiagnostics

/-! ## Looking up -/

namespace Json

namespace Datum

/-- The value of a key in an object. -/
def member? (key : String) : Datum → Option Datum
  | object members => (members.find? (·.1 = some key)).map Prod.snd
  | _ => none

/-- The text of a string. -/
def text? : Datum → Option String
  | string text => text
  | _ => none

/-- The items of an array. -/
def items? : Datum → Option (List Datum)
  | array items => some items
  | _ => none

/-- A natural number below a bound of 32 bits, written in digits alone. -/
def word? : Datum → Option UInt32
  | number ⟨false, whole, none, none⟩ =>
    let n := Nat.ofDigitChars 10 whole 0
    if n < UInt32.size then some (UInt32.ofNat n) else none
  | _ => none

/-- The digits of a word are read as that word. -/
theorem word?_toDigits (n : UInt32) :
    (Value.number n.toNat).datum.word? = some n := by
  rw [Value.datum, word?, Nat.ofDigitChars_ten_toDigits]
  simp only [if_pos n.toNat_lt_size, UInt32.ofNat_toNat]

end Datum

end Json

open Json

/-! ## The parts of a set -/

/-- A position by its members. -/
def Position.ofDatum? (t : Datum) : Option Position := do
  let line ← (← t.member? "line").word?
  let character ← (← t.member? "character").word?
  return ⟨line, character⟩

/-- A range by its members, when its ends are in order. -/
def Range.ofDatum? (t : Datum) : Option Range := do
  let start ← Position.ofDatum? (← t.member? "start")
  let stop ← Position.ofDatum? (← t.member? "end")
  if h : start ≤ stop then return ⟨start, stop, h⟩ else none

/-- A diagnostic by its members. -/
def Diagnostic.ofDatum? (t : Datum) : Option Diagnostic := do
  let path ← (← t.member? "path").text?
  let range ← Range.ofDatum? (← t.member? "range")
  let message ← (← t.member? "message").text?
  let severity ← Severity.ofName? (← (← t.member? "severity").text?)
  let source ← (← t.member? "source").text?
  return ⟨path, range, message, severity, source⟩

/-- The message and the diagnostics of a set by its members. -/
def DiagnosticSet.contents? (t : Datum) : Option (String × List Diagnostic) := do
  let message ← (← t.member? "message").text?
  let diagnostics ← (← (← t.member? "diagnostics").items?).mapM Diagnostic.ofDatum?
  return (message, diagnostics)

theorem Position.ofDatum?_datum (p : Position) : Position.ofDatum? p.json.datum = some p := by
  have hline : p.json.datum.member? "line" = some (Value.number p.line.toNat).datum := rfl
  have hcharacter : p.json.datum.member? "character" =
      some (Value.number p.character.toNat).datum := rfl
  simp only [Position.ofDatum?, hline, hcharacter, Datum.word?_toDigits, Option.bind_eq_bind,
    Option.bind_some]
  rfl

theorem Range.ofDatum?_datum (r : Range) : Range.ofDatum? r.json.datum = some r := by
  have hstart : r.json.datum.member? "start" = some r.start.json.datum := rfl
  have hstop : r.json.datum.member? "end" = some r.stop.json.datum := rfl
  simp only [Range.ofDatum?, hstart, hstop, Position.ofDatum?_datum, Option.bind_eq_bind,
    Option.bind_some, dif_pos r.start_le_stop]
  rfl

theorem Diagnostic.ofDatum?_datum (d : Diagnostic) : Diagnostic.ofDatum? d.json.datum = some d := by
  have hpath : d.json.datum.member? "path" = some (Value.string d.path).datum := rfl
  have hrange : d.json.datum.member? "range" = some d.range.json.datum := rfl
  have hmessage : d.json.datum.member? "message" = some (Value.string d.message).datum := rfl
  have hseverity : d.json.datum.member? "severity" =
      some (Value.string d.severity.name).datum := rfl
  have hsource : d.json.datum.member? "source" = some (Value.string d.source).datum := rfl
  simp only [Diagnostic.ofDatum?, hpath, hrange, hmessage, hseverity, hsource,
    Range.ofDatum?_datum, Value.datum, Datum.text?, Severity.ofName?_name, Option.bind_eq_bind,
    Option.bind_some]
  rfl

/-- The diagnostics of a set, one by one. -/
theorem mapM_ofDatum?_itemData (ds : List Diagnostic) :
    (Value.itemData (ds.map Diagnostic.json)).mapM Diagnostic.ofDatum? = some ds := by
  induction ds with
  | nil => rfl
  | cons d ds ih =>
    rw [List.map_cons, Value.itemData, List.mapM_cons, Diagnostic.ofDatum?_datum, ih]
    rfl

namespace DiagnosticSet

/-- **What a set holds is found in its report.** -/
theorem contents?_datum (set : DiagnosticSet) :
    contents? set.json.datum = some (set.message, set.diagnostics) := by
  have hmessage : set.json.datum.member? "message" = some (Value.string set.message).datum := rfl
  have hdiagnostics : set.json.datum.member? "diagnostics" =
      some (Datum.array (Value.itemData (set.diagnostics.map Diagnostic.json))) := rfl
  simp only [contents?, hmessage, hdiagnostics, Value.datum, Datum.text?, Datum.items?,
    mapM_ofDatum?_itemData, Option.bind_eq_bind, Option.bind_some]
  rfl

variable {a b : DiagnosticSet}

/-- **Sets are told apart by their reports**, as far as they hold different
messages or diagnostics. -/
theorem render_inj :
    a.json.render = b.json.render ↔ a.message = b.message ∧ a.diagnostics = b.diagnostics := by
  constructor
  · intro h
    have hdatum : a.json.datum = b.json.datum := by
      rw [← Value.document_iff, ← h]
      exact Value.document_iff.2 rfl
    have hsame : (a.message, a.diagnostics) = (b.message, b.diagnostics) := by
      rw [← Option.some_inj, ← contents?_datum a, hdatum, contents?_datum b]
    exact ⟨congrArg Prod.fst hsame, congrArg Prod.snd hsame⟩
  · rintro ⟨hmessage, hdiagnostics⟩
    rw [json, json, hmessage, hdiagnostics]

/-- The map of a set is its diagnostics, when their paths are the files. -/
theorem IsKeyed.entries_eq (h : a.IsKeyed) :
    a.byPath.entries = a.diagnostics.map fun d => (d.path, d) := by
  rw [diagnostics, OrderedMap.values, List.map_map]
  refine (List.map_id _).symm.trans (List.map_congr_left fun e he => ?_)
  exact Prod.ext (h e he).symm rfl

/-- So there is no more to such a set than what its report tells. -/
theorem IsKeyed.render_inj (ha : a.IsKeyed) (hb : b.IsKeyed) :
    a.json.render = b.json.render ↔ a = b := by
  constructor
  · intro h
    obtain ⟨hmessage, hdiagnostics⟩ := DiagnosticSet.render_inj.1 h
    obtain ⟨message, byPath⟩ := a
    obtain ⟨message', byPath'⟩ := b
    obtain rfl : message = message' := hmessage
    obtain rfl : byPath = byPath' := OrderedMap.ext (by
      rw [ha.entries_eq, hb.entries_eq, hdiagnostics])
    rfl
  · rintro rfl
    rfl

end DiagnosticSet

namespace Report

/-! ## Reports one after the other -/

/-- Reports on some sets, one after the other. -/
def writeAll (cut : Cut) (files : Files) (format : Format) :
    List DiagnosticSet → Sink → Run Sink
  | [], sink => .pure sink
  | set :: sets, sink => (write cut files format set sink).andThen (writeAll cut files format sets)

/-- **A sink without limit takes all the reports.** -/
theorem writeAll_unlimited (cut : Cut) (files : Files) (format : Format)
    (sets : List DiagnosticSet) (written : List UInt8) :
    (writeAll cut files format sets ⟨written, none⟩).state =
        ⟨written ++ sets.flatMap (reportBytes cut files format), none⟩ ∧
      (writeAll cut files format sets ⟨written, none⟩).error = none := by
  -- after anything that is written already, since the first report is written before the others
  induction sets generalizing written with
  | nil =>
    rw [List.flatMap_nil, List.append_nil]
    exact ⟨rfl, rfl⟩
  | cons set sets ih =>
    obtain ⟨hstate, herror⟩ := write_unlimited cut files format set written
    obtain ⟨hstates, herrors⟩ := ih (written ++ reportBytes cut files format set)
    rw [writeAll, Run.state_andThen herror, Run.error_andThen herror, hstate, hstates, herrors,
      List.flatMap_cons, List.append_assoc]
    exact ⟨rfl, rfl⟩

/-- The report of a set for programs is its text on a line of its own. -/
theorem flatMap_reportBytes_json (cut : Cut) (files : Files) (sets : List DiagnosticSet) :
    sets.flatMap (reportBytes cut files .json) =
      Text.ended 10 (sets.map fun set => Text.encode set.json.render) := by
  rw [Text.ended, List.flatMap_map]
  rfl

/-- A text is on one line. -/
theorem lineFeed_not_mem_render (set : DiagnosticSet) : 10 ∉ Text.encode set.json.render := by
  refine Text.lineFeed_not_mem_encode fun hfeed => ?_
  rw [Value.render, String.toList_ofList] at hfeed
  exact Value.not_lt_of_mem_chars hfeed (by decide)

/-- **The lines of the reports are the reports.** -/
theorem splitOn_reportBytes_json (cut : Cut) (files : Files) (sets : List DiagnosticSet) :
    Text.splitOn 10 (sets.flatMap (reportBytes cut files .json)) =
      (sets.map fun set => Text.encode set.json.render) ++ [[]] := by
  have hline : ∀ line ∈ sets.map fun set => Text.encode set.json.render, 10 ∉ line := by
    intro line hline
    obtain ⟨set, -, rfl⟩ := List.mem_map.1 hline
    exact lineFeed_not_mem_render set
  have hsplit := Text.splitOn_ended_append hline []
  rw [List.append_nil] at hsplit
  rw [flatMap_reportBytes_json, hsplit]
  rfl

/-- **The law of reports for programs.** The report of any set is one
well-formed JSON text without control characters, which stands for one
value, and the message and the diagnostics of the set are found in it, in
their order. So sets with the same report hold the same, and those of faults
are the same. The reports of any sets, written one after the other to a sink
without limit, are their texts with a line feed after each, and cutting
what is written at the line feeds gives the texts back. -/
theorem json_law (cut : Cut) (files : Files) :
    (∀ set : DiagnosticSet,
      (∀ c ∈ set.json.render.toList, ' ' ≤ c) ∧
      ∃ value, (∀ t, Document set.json.render.toList t ↔ t = value) ∧
        DiagnosticSet.contents? value = some (set.message, set.diagnostics)) ∧
    (∀ a b : DiagnosticSet, a.json.render = b.json.render ↔
      a.message = b.message ∧ a.diagnostics = b.diagnostics) ∧
    (∀ (x y : Labels) (f g : Fault),
      (DiagnosticSet.ofFault x f).json.render = (DiagnosticSet.ofFault y g).json.render ↔
        DiagnosticSet.ofFault x f = DiagnosticSet.ofFault y g) ∧
    ∀ sets : List DiagnosticSet,
      let run := writeAll cut files .json sets {}
      run.error = none ∧
      run.state.written =
        Text.encode (String.join (sets.map fun set => set.json.render ++ "\n")) ∧
      Text.splitOn 10 run.state.written =
        (sets.map fun set => Text.encode set.json.render) ++ [[]] := by
  refine ⟨fun set => ⟨?_, set.json.datum, fun t => Value.document_iff, ?_⟩,
    fun a b => DiagnosticSet.render_inj,
    fun x y f g => DiagnosticSet.isKeyed_ofFault.render_inj DiagnosticSet.isKeyed_ofFault,
    fun sets => ?_⟩
  · intro c hc
    rw [Value.render, String.toList_ofList] at hc
    exact Char.not_lt.1 (Value.not_lt_of_mem_chars hc)
  · exact DiagnosticSet.contents?_datum set
  · intro run
    obtain ⟨hstate, herror⟩ := writeAll_unlimited cut files .json sets []
    have hwritten : run.state.written = sets.flatMap (reportBytes cut files .json) := by
      show (writeAll cut files .json sets ⟨[], none⟩).state.written = _
      rw [hstate, List.nil_append]
    have hlines := Text.encode_join_lines (sets.map fun set => set.json.render)
    rw [List.map_map, List.map_map] at hlines
    refine ⟨herror, ?_, ?_⟩
    · rw [hwritten, flatMap_reportBytes_json]
      exact hlines.symm
    · rw [hwritten, splitOn_reportBytes_json]

end Report

end BuildDiagnostics
