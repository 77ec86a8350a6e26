import BuildDiagnostics.Proofs.Fault.LoadError
import BuildDiagnostics.Proofs.Fault.OneLine
import BuildDiagnostics.Proofs.Fault.RoundTrip
/-!
# Where the parts of a fault stand

Nothing in a fault is made up. Every place is a slice of the text, as it is
written there, and so is the message (`IsTraced`). The slices of the places
come in the order of the list, each on a later line than the one before,
and the message starts after all of them; only the place of a failed load
is within the message, on its first line. Since something stands before the
message, it is shorter than the text, and reading messages again and again
comes to an end (`ofText?_isTraced`).
-/


namespace BuildDiagnostics

namespace Text

/-- A slice of a text, with what stands before and after it. -/
structure Slice (text : List Char) where
  /-- What stands before it. -/
  before : List Char
  /-- What it is. -/
  content : List Char
  /-- What stands after it. -/
  after : List Char
  /-- Together they are the text. -/
  eq_text : before ++ (content ++ after) = text

namespace Slice

variable {text : List Char}

/-- How many bytes stand before a slice. -/
def start (a : Slice text) : Nat := byteSize a.before

/-- How many bytes there are up to its end. -/
def stop (a : Slice text) : Nat := byteSize a.before + byteSize a.content

/-- How many line feeds stand before a slice. -/
def line (a : Slice text) : Nat := a.before.count '\n'

/-- A slice ends before another one starts, and starts on an earlier line. -/
def Precedes (a b : Slice text) : Prop := a.stop ≤ b.start ∧ a.line < b.line

end Slice

end Text

open Text

namespace Location

variable {l : Location}

theorem text_ne_nil (h : IsPath l.path.toList) : l.text.toList ≠ [] := by
  rw [toList_text]
  exact fun hnil => h.ne_nil (List.append_eq_nil_iff.1 hnil).1

theorem byteSize_text_pos (h : IsPath l.path.toList) : 0 < byteSize l.text.toList := by
  cases htext : l.text.toList with
  | nil => exact absurd htext (text_ne_nil h)
  | cons c cs =>
    have hc := c.utf8Size_pos
    rw [byteSize_cons]
    omega

end Location

/-! ## Where a place stands in its line -/

/-- A frame line has the token of its place in it. -/
theorem Frame.exists_eq_of_ofLine? {line : List Char} {l : Location}
    (h : Frame.ofLine? line = some l) :
    Location.IsPath l.path.toList ∧ ∃ a b, line = a ++ (l.text.toList ++ b) := by
  rw [← String.toList_ofList (l := line)] at h
  obtain ⟨f, hf, rfl⟩ := Frame.exists_text_eq h
  refine ⟨f.isPath, f.indent.toList, f.remark.toList, ?_⟩
  rw [← Frame.toList_text, hf, String.toList_ofList]

namespace LoadError

/-- So has a line that reports a failed load. -/
theorem exists_eq_of_find? {s : List Char} {l : Location} (h : find? s = some l) :
    Location.IsPath l.path.toList ∧ ∃ a b, s = a ++ (l.text.toList ++ b) := by
  rw [find?_eq_findSome?_tails] at h
  obtain ⟨t, ht, hread⟩ := List.exists_of_findSome?_eq_some h
  obtain ⟨before, rfl⟩ := (List.mem_tails t s).1 ht
  obtain ⟨target, reason, rest, rfl, -, hpath, -⟩ := after?_bind_afterMarker?_eq_some_iff.1 hread
  refine ⟨hpath, before ++ (marker ++ (target ++ [' '])), ':' :: ' ' :: reason :: rest, ?_⟩
  simp only [List.append_assoc, List.cons_append, List.nil_append]

end LoadError

/-! ## The slices of a traceback -/

namespace Traceback

/-- **The places of frames are slices**, in the order of the frames and each
on its own line. -/
theorem exists_slices {text : List Char} (fs : List (List Char))
    (hframes : ∀ f ∈ fs, (Frame.ofLine? f).isSome) (before after : List Char)
    (htext : before ++ (ended '\n' fs ++ after) = text) :
    ∃ slices : List (Slice text),
      slices.map (·.content) = (fs.filterMap Frame.ofLine?).map (·.text.toList) ∧
      slices.Pairwise Slice.Precedes ∧
      ∀ a ∈ slices, byteSize before ≤ a.start ∧ before.count '\n' ≤ a.line ∧
        a.stop ≤ byteSize (before ++ ended '\n' fs) ∧
        a.line < (before ++ ended '\n' fs).count '\n' := by
  -- after anything that stands before the frames, since every frame stands before the others
  induction fs generalizing before with
  | nil => exact ⟨[], rfl, .nil, by simp⟩
  | cons f fs ih =>
    obtain ⟨hframe, hfs⟩ := List.forall_mem_cons.1 hframes
    obtain ⟨l, hl⟩ := Option.isSome_iff_exists.1 hframe
    obtain ⟨-, a, b, hf⟩ := Frame.exists_eq_of_ofLine? hl
    -- the frame and all before it stand before the other frames
    let passed := before ++ (f ++ ['\n'])
    have hpassed : before ++ ended '\n' (f :: fs) = passed ++ ended '\n' fs := by
      simp only [passed, ended_cons, List.append_assoc, List.cons_append, List.nil_append]
    have hbytes : byteSize passed =
        byteSize before + byteSize a + byteSize l.text.toList + byteSize b + 1 := by
      have hfeed : ('\n' : Char).utf8Size = 1 := by decide
      simp only [passed, hf, byteSize_append, byteSize_cons, byteSize_nil, hfeed]
      omega
    have hlines : passed.count '\n' = before.count '\n' + a.count '\n' +
        l.text.toList.count '\n' + b.count '\n' + 1 := by
      simp only [passed, hf, List.count_append, List.count_singleton_self]
      omega
    obtain ⟨slices, hcontents, hprecedes, hwithin⟩ := ih hfs passed (by
      rw [← htext, ← List.append_assoc, ← hpassed, List.append_assoc])
    let slice : Slice text := ⟨before ++ a, l.text.toList, b ++ '\n' :: (ended '\n' fs ++ after), by
      rw [← htext, ended_cons, hf]
      simp only [List.append_assoc, List.cons_append]⟩
    have hstart : slice.start = byteSize before + byteSize a := byteSize_append _ _
    have hstop : slice.stop = slice.start + byteSize l.text.toList := rfl
    have hline : slice.line = before.count '\n' + a.count '\n' := List.count_append
    have hended : byteSize (passed ++ ended '\n' fs) = byteSize passed + byteSize (ended '\n' fs) :=
      byteSize_append _ _
    have hcount : (passed ++ ended '\n' fs).count '\n' =
        passed.count '\n' + (ended '\n' fs).count '\n' := List.count_append
    refine ⟨slice :: slices, ?_, List.pairwise_cons.2 ⟨?_, hprecedes⟩, ?_⟩
    · rw [List.filterMap_cons_some hl, List.map_cons, List.map_cons, hcontents]
    · intro other hother
      obtain ⟨hle, hlater, -, -⟩ := hwithin other hother
      exact ⟨by omega, by omega⟩
    · rw [hpassed]
      intro other hother
      rcases List.mem_cons.1 hother with rfl | hother
      · exact ⟨by omega, by omega, by omega, by omega⟩
      · obtain ⟨hle, hlater, hwithin⟩ := hwithin other hother
        exact ⟨by omega, by omega, hwithin⟩

/-- The place of a failed load is a slice of the line that reports it. -/
theorem exists_slice_of_find? {text before line after : List Char} {l : Location}
    (h : LoadError.find? line = some l) (htext : before ++ (line ++ after) = text) :
    ∃ a : Slice text, a.content = l.text.toList ∧ byteSize before ≤ a.start ∧
      before.count '\n' ≤ a.line ∧ a.stop ≤ byteSize before + byteSize line := by
  obtain ⟨-, p, q, rfl⟩ := LoadError.exists_eq_of_find? h
  let slice : Slice text := ⟨before ++ p, l.text.toList, q ++ after, by
    rw [← htext]
    simp only [List.append_assoc]⟩
  have hstart : slice.start = byteSize before + byteSize p := byteSize_append _ _
  have hstop : slice.stop = slice.start + byteSize l.text.toList := rfl
  have hline : slice.line = before.count '\n' + p.count '\n' := List.count_append
  refine ⟨slice, rfl, by omega, by omega, ?_⟩
  rw [byteSize_append, byteSize_append]
  omega

/-- The same for a line that may report a failed load or not. -/
theorem exists_load_slices {text before line after : List Char}
    (htext : before ++ (line ++ after) = text) :
    ∃ load : List (Slice text),
      load.map (·.content) = (LoadError.find? line).toList.map (·.text.toList) ∧
      load.length ≤ 1 ∧ load.Pairwise Slice.Precedes ∧
      ∀ a ∈ load, byteSize before ≤ a.start ∧ before.count '\n' ≤ a.line ∧
        a.stop ≤ byteSize before + byteSize line ∧
        ∃ l, LoadError.find? line = some l ∧ a.content = l.text.toList := by
  cases hfind : LoadError.find? line with
  | none => exact ⟨[], rfl, Nat.zero_le 1, .nil, fun a ha => by cases ha⟩
  | some l =>
    obtain ⟨a, hcontent, hle, hlater, hstop⟩ := exists_slice_of_find? hfind htext
    refine ⟨[a], by simp [hcontent], Nat.le_refl 1, List.pairwise_singleton _ _, fun b hb => ?_⟩
    rw [List.mem_singleton.1 hb]
    exact ⟨hle, hlater, hstop, l, rfl, hcontent⟩

/-- Lines start with the first of them, and a line feed is all that can
follow it. -/
theorem exists_join_cons (line : List Char) (rest : List (List Char)) :
    ∃ after, join '\n' (line :: rest) = line ++ after ∧ StartsOutside (· ≠ '\n') after := by
  cases rest with
  | nil => exact ⟨[], (List.append_nil line).symm, startsOutside_nil⟩
  | cons next rest =>
    exact ⟨'\n' :: join '\n' (next :: rest), rfl, startsOutside_cons.2 (by decide)⟩

theorem firstLine_join {line : List Char} (h : '\n' ∉ line) (rest : List (List Char)) :
    firstLine (String.ofList (join '\n' (line :: rest))) = line := by
  obtain ⟨after, hjoin, hafter⟩ := exists_join_cons line rest
  rw [firstLine, String.toList_ofList, hjoin, takeWhile_append (forall_ne_of_not_mem h) hafter]

end Traceback

/-! ## The slices of a fault -/

namespace Fault

/-- How a fault lies in the text it was read from. -/
structure IsTraced (text : List Char) (f : Fault) (frames load : List (Slice text))
    (message : Slice text) : Prop where
  /-- Every place has a path, and its numbers are counts from one. -/
  isPath : ∀ l ∈ f.locations, Location.IsPath l.path.toList ∧
    (1 ≤ l.line.toNat ∧ l.line.toNat ≤ Ordinal.max) ∧
    (1 ≤ l.column.toNat ∧ l.column.toNat ≤ Ordinal.max)
  /-- The places are slices, in the order of the list. -/
  contents_eq : (frames ++ load).map (·.content) = f.locations.map (·.text.toList)
  /-- They are not empty, and none leaves its line. -/
  onLine : ∀ a ∈ frames ++ load, a.start < a.stop ∧ '\n' ∉ a.content
  /-- Each comes after those before it, on a later line. -/
  precedes : (frames ++ load).Pairwise Slice.Precedes
  /-- The message is a slice. -/
  message_eq : message.content = f.message.toList
  /-- It is not all of the text. -/
  shorter : byteSize message.content < byteSize text
  /-- It starts after all places but that of a failed load. -/
  frames_stop : ∀ a ∈ frames, a.stop ≤ message.start
  /-- There is one such place at most. -/
  length_load : load.length ≤ 1
  /-- It is in the first line of the message of a traceback, as a report of a
  failed load names it. -/
  load_within : ∀ a ∈ load, message.start ≤ a.start ∧
    a.stop ≤ message.start + byteSize (Traceback.firstLine f.message) ∧
    Traceback.header <+: text ∧
    ∃ l, LoadError.find? (Traceback.firstLine f.message) = some l ∧ a.content = l.text.toList

variable {text : List Char} {f : Fault} {frames load : List (Slice text)}

/-- Slices that are the tokens of places are not empty and on one line. -/
theorem onLine_of_contents {slices : List (Slice text)} {locations : List Location}
    (h : slices.map (·.content) = locations.map (·.text.toList))
    (hpath : ∀ l ∈ locations, Location.IsPath l.path.toList) :
    ∀ a ∈ slices, a.start < a.stop ∧ '\n' ∉ a.content := by
  intro a ha
  have hcontent : a.content ∈ locations.map (·.text.toList) := by
    rw [← h]
    exact List.mem_map_of_mem ha
  obtain ⟨l, hl, hl'⟩ := List.mem_map.1 hcontent
  rw [← hl']
  refine ⟨?_, Location.lineFeed_not_mem_text (hpath l hl)⟩
  have hpos := Location.byteSize_text_pos (hpath l hl)
  have hstop : a.stop = a.start + byteSize a.content := rfl
  rw [hl'] at hpos
  omega

/-- Counts are in range by their type. -/
theorem isPath_of_forall {locations : List Location}
    (h : ∀ l ∈ locations, Location.IsPath l.path.toList) :
    ∀ l ∈ locations, Location.IsPath l.path.toList ∧
      (1 ≤ l.line.toNat ∧ l.line.toNat ≤ Ordinal.max) ∧
      (1 ≤ l.column.toNat ∧ l.column.toNat ≤ Ordinal.max) := fun l hl =>
  ⟨h l hl, ⟨l.line.one_le_toNat, l.line.toNat_le_max⟩,
    ⟨l.column.one_le_toNat, l.column.toNat_le_max⟩⟩

/-- A message that something stands before is shorter than the text. -/
theorem byteSize_lt_of_slice {a : Slice text} (h : a.before ≠ []) :
    byteSize a.content < byteSize text := by
  obtain ⟨c, cs, hbefore⟩ := List.exists_cons_of_ne_nil h
  have hc := c.utf8Size_pos
  have hsize := congrArg byteSize a.eq_text
  rw [hbefore, byteSize_append, byteSize_append, byteSize_cons] at hsize
  omega

theorem exists_isTraced_empty (h : text ≠ []) :
    ∃ frames load message, IsTraced text .empty frames load message := by
  obtain ⟨c, cs, rfl⟩ := List.exists_cons_of_ne_nil h
  have hc := c.utf8Size_pos
  refine ⟨[], [], ⟨[], [], c :: cs, rfl⟩, ?_⟩
  exact {
    isPath := fun l hl => by cases hl
    contents_eq := rfl
    onLine := fun a ha => by cases ha
    precedes := .nil
    message_eq := rfl
    shorter := by
      rw [byteSize_nil, byteSize_cons]
      omega
    frames_stop := fun a ha => by cases ha
    length_load := Nat.zero_le 1
    load_within := fun a ha => by cases ha }

/-- An error on one line: the place, and after it the message. -/
theorem IsOneLine.exists_isTraced (h : IsOneLine text f) :
    ∃ frames load message, IsTraced text f frames load message := by
  obtain ⟨path, line, column, message, rest, l, c, htext, hpath, hline, hcolumn, -, -, rfl⟩ := h
  let location : Location := ⟨String.ofList path, l, c⟩
  have hpath' : ∀ l ∈ [location], Location.IsPath l.path.toList := by
    intro l hl
    rw [List.mem_singleton.1 hl, String.toList_ofList]
    exact hpath
  have htoken : location.text.toList = path ++ ':' :: (line ++ ':' :: column) := by
    rw [Location.toList_text, String.toList_ofList, hline.eq_toDigits, hcolumn.eq_toDigits]
  let place : Slice text := ⟨[], location.text.toList, ':' :: ' ' :: (message ++ rest), by
    rw [htext, htoken]
    simp only [List.nil_append, List.append_assoc, List.cons_append]⟩
  let slice : Slice text := ⟨location.text.toList ++ [':', ' '], message, rest, by
    rw [htext, htoken]
    simp only [List.nil_append, List.append_assoc, List.cons_append]⟩
  have hplace : ([place] ++ []).map Slice.content = [location].map (·.text.toList) := rfl
  refine ⟨[place], [], slice, ?_⟩
  exact {
    isPath := isPath_of_forall hpath'
    contents_eq := hplace
    onLine := onLine_of_contents hplace hpath'
    precedes := List.pairwise_singleton _ _
    message_eq := String.toList_ofList.symm
    shorter := byteSize_lt_of_slice (List.append_ne_nil_of_right_ne_nil _ (by simp))
    frames_stop := by
      intro a ha
      rw [List.mem_singleton.1 ha]
      have hstop : place.stop = byteSize location.text.toList := Nat.zero_add _
      have hstart : slice.start = byteSize location.text.toList + byteSize [':', ' '] :=
        byteSize_append _ _
      omega
    length_load := Nat.zero_le 1
    load_within := fun a ha => by cases ha }

/-- **A traceback**: the places of the frames, and after them the message,
with the place of a failed load in its first line. -/
theorem exists_isTraced_traceback {first line : List Char} {fs rest : List (List Char)}
    (hsplit : splitOn '\n' text = first :: (fs ++ line :: rest))
    (hframes : ∀ f ∈ fs, (Frame.ofLine? f).isSome) (hheader : Traceback.header <+: text) :
    ∃ frames load message, IsTraced text ⟨String.ofList (join '\n' (line :: rest)),
      fs.filterMap Frame.ofLine? ++ (LoadError.find? line).toList⟩ frames load message := by
  let passed := ended '\n' (first :: fs)
  have htext : passed ++ join '\n' (line :: rest) = text :=
    (Traceback.eq_ended_append_join hsplit (List.cons_ne_nil _ _)).symm
  obtain ⟨after, hjoin, -⟩ := Traceback.exists_join_cons line rest
  have hline : line ∈ splitOn '\n' text := by
    rw [hsplit]
    simp
  have hfirst := Traceback.firstLine_join (not_mem_of_mem_splitOn hline) rest
  have hpassed : (first ++ ['\n']) ++ ended '\n' fs = passed := by
    simp only [passed, ended_cons, List.append_assoc, List.singleton_append]
  obtain ⟨frames, hcontents, hprecedes, hwithin⟩ := Traceback.exists_slices fs hframes
    (first ++ ['\n']) (join '\n' (line :: rest)) (by rw [← List.append_assoc, hpassed, htext])
  rw [hpassed] at hwithin
  let message : Slice text := ⟨passed, join '\n' (line :: rest), [], by rw [List.append_nil, htext]⟩
  have hstart : message.start = byteSize passed := rfl
  have hshorter : byteSize message.content < byteSize text :=
    byteSize_lt_of_slice (by simp [message, passed])
  have hpath : ∀ l ∈ fs.filterMap Frame.ofLine? ++ (LoadError.find? line).toList,
      Location.IsPath l.path.toList := by
    intro l hl
    rcases List.mem_append.1 hl with hl | hl
    · obtain ⟨f, -, hf⟩ := List.mem_filterMap.1 hl
      exact (Frame.exists_eq_of_ofLine? hf).1
    · exact (LoadError.exists_eq_of_find? (Option.mem_toList.1 hl)).1
  -- the place of a failed load is one more slice, after those of the frames
  obtain ⟨load, hload, hlength, hone, hplace⟩ :=
    Traceback.exists_load_slices (by rw [← hjoin, htext] : passed ++ (line ++ after) = text)
  have hslices : (frames ++ load).map Slice.content =
      (fs.filterMap Frame.ofLine? ++ (LoadError.find? line).toList).map (·.text.toList) := by
    rw [List.map_append, List.map_append, hcontents, hload]
  refine ⟨frames, load, message, ?_⟩
  exact {
    isPath := isPath_of_forall hpath
    contents_eq := hslices
    onLine := onLine_of_contents hslices hpath
    precedes := by
      refine List.pairwise_append.2 ⟨hprecedes, hone, fun a ha b hb => ?_⟩
      obtain ⟨-, -, hstop, hline⟩ := hwithin a ha
      obtain ⟨hle, hlater, -⟩ := hplace b hb
      exact ⟨by omega, by omega⟩
    message_eq := String.toList_ofList.symm
    shorter := hshorter
    frames_stop := fun a ha => (hwithin a ha).2.2.1
    length_load := hlength
    load_within := by
      intro a ha
      obtain ⟨hle, -, hstop, hfind⟩ := hplace a ha
      rw [hfirst]
      exact ⟨hle, hstop, hheader, hfind⟩ }

/-- A text with the header of a traceback: its lines tell where the message
starts, if it has one. -/
theorem exists_isTraced_read_header {s : List Char} (htext : Traceback.header ++ s = text) :
    ∃ frames load message, IsTraced text (read text) frames load message := by
  have hheader : Traceback.header <+: text := ⟨s, htext⟩
  have hread : read text = (Traceback.read? text).getD .empty := by
    rw [← htext, Traceback.read_header_append]
  have hne : text ≠ [] := by
    rintro rfl
    cases htext
  obtain ⟨first, lines, hsplit⟩ := List.exists_cons_of_ne_nil (splitOn_ne_nil '\n' text)
  obtain ⟨hlines, hframes, hstop⟩ := takeWhile_and_dropWhile_iff.1
    (⟨rfl, rfl⟩ : lines.takeWhile (fun line => (Frame.ofLine? line).isSome) = _ ∧
      lines.dropWhile (fun line => (Frame.ofLine? line).isSome) = _)
  generalize lines.takeWhile (fun line => (Frame.ofLine? line).isSome) = fs at hlines hframes
  generalize lines.dropWhile (fun line => (Frame.ofLine? line).isSome) = rest at hlines hstop
  rw [hlines] at hsplit
  cases rest with
  | nil =>
    rw [List.append_nil] at hsplit
    rw [hread, Traceback.read?_eq_none hsplit hframes, Option.getD_none]
    exact exists_isTraced_empty hne
  | cons line rest =>
    have hline : Frame.ofLine? line = none := by
      simpa using startsOutside_cons.1 hstop
    rw [hread, Traceback.read?_eq_some hsplit hframes hline, Option.getD_some]
    exact exists_isTraced_traceback hsplit hframes hheader

/-- **Nothing in a fault is made up.** What is read from a text are slices of
it in their order: the places, each on a later line than the one before,
and the message, which starts after them, except that the place of a failed
load is within its first line. The message is shorter than the text, so
reading messages again comes to an end. -/
theorem ofText?_isTraced :
    (∀ (text : String) (f : Fault), ofText? text = some f →
      ∃ frames load message, IsTraced text.toList f frames load message) ∧
    WellFounded fun inner outer : String => ∃ f, ofText? outer = some f ∧ f.message = inner := by
  have htraced : ∀ (text : String) (f : Fault), ofText? text = some f →
      ∃ frames load message, IsTraced text.toList f frames load message := by
    intro text f h
    have hne : text ≠ "" := by
      rintro rfl
      cases h
    have hchars : text.toList ≠ [] := fun hnil => hne (String.toList_eq_nil_iff.1 hnil)
    by_cases hheader : Traceback.header <+: text.toList
    · obtain ⟨s, hs⟩ := hheader
      rw [ofText?, if_neg hne] at h
      rw [← Option.some.inj h]
      exact exists_isTraced_read_header hs
    · rw [ofText?_of_not_header hne hheader] at h
      rw [← Option.some.inj h]
      cases hline : ofLine? text.toList with
      | none => exact exists_isTraced_empty hchars
      | some f => exact (ofLine?_eq_some_iff.1 hline).exists_isTraced
  refine ⟨htraced, Subrelation.wf ?_ (measure fun text : String => byteSize text.toList).wf⟩
  rintro inner outer ⟨f, h, rfl⟩
  obtain ⟨frames, load, message, htrace⟩ := htraced outer f h
  have hshorter := htrace.shorter
  rw [htrace.message_eq] at hshorter
  exact hshorter

end Fault

end BuildDiagnostics
