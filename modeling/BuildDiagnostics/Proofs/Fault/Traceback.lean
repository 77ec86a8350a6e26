import BuildDiagnostics.Fault.ErrorText
import BuildDiagnostics.Proofs.Text.Pieces
import BuildDiagnostics.Proofs.Text.Runs
/-!
# What a traceback comes down to

The scan of a traceback keeps a count of bytes beside the lines it walks.
The invariant is `scan_append`: after some frames the count has grown by
exactly their bytes, so at the first line that is no frame it is the place
where that line starts, and what is cut off there is that line with all
that follows (`read?_eq_some`). A traceback of frames alone has no such
line. It is then tried as a one-line error, which fails at the bracket of
the header (`ofLine?_header_append`).
-/


namespace BuildDiagnostics

namespace Traceback

open Text

/-- **A scan passes over frames.** It keeps their places and counts their
bytes. -/
theorem scan_append {fs : List (List Char)} (h : ∀ f ∈ fs, (Frame.ofLine? f).isSome)
    (offset : Nat) (rest : List (List Char)) :
    scan offset (fs ++ rest) =
      (fs.filterMap Frame.ofLine? ++ (scan (offset + byteSize (ended '\n' fs)) rest).1,
        (scan (offset + byteSize (ended '\n' fs)) rest).2) := by
  -- on the frames, from any count: the invariant is that the count has grown by their bytes
  induction fs generalizing offset with
  | nil => simp
  | cons f fs ih =>
    obtain ⟨location, hl⟩ := Option.isSome_iff_exists.1 (h f List.mem_cons_self)
    have hstep := ih (fun g hg => h g (List.mem_cons_of_mem f hg)) (offset + (byteSize f + 1))
    have hbytes : offset + (byteSize f + 1) + byteSize (ended '\n' fs) =
        offset + byteSize (ended '\n' (f :: fs)) := by
      rw [byteSize_ended_cons, Nat.add_assoc]
    rw [List.cons_append, scan, hl]
    simp only [hstep, hbytes, List.filterMap_cons_some hl, List.cons_append]

/-- The first line that is no frame stops a scan. -/
theorem scan_cons_of_none {line : List Char} (h : Frame.ofLine? line = none) (offset : Nat)
    (rest : List (List Char)) : scan offset (line :: rest) = ([], some ⟨offset, line⟩) := by
  rw [scan, h]

variable {s first : List Char} {fs rest : List (List Char)}

/-- The scan of a whole traceback passes over its header and its leading
frames. -/
theorem scanText_eq (hs : splitOn '\n' s = first :: (fs ++ rest))
    (h : ∀ f ∈ fs, (Frame.ofLine? f).isSome) :
    scanText s =
      (fs.filterMap Frame.ofLine? ++ (scan (byteSize (ended '\n' (first :: fs))) rest).1,
        (scan (byteSize (ended '\n' (first :: fs))) rest).2) := by
  rw [scanText, hs]
  simp only [scan_append h, byteSize_ended_cons]

/-- A text is its header and frames with their line feeds, and then the
lines from the first that is no frame. -/
theorem eq_ended_append_join (hs : splitOn '\n' s = first :: (fs ++ rest)) (hr : rest ≠ []) :
    s = ended '\n' (first :: fs) ++ join '\n' rest := by
  rw [← join_append '\n' (first :: fs) hr, List.cons_append, ← hs, join_splitOn]

/-- Frames alone make no fault. -/
theorem read?_eq_none (hs : splitOn '\n' s = first :: fs)
    (h : ∀ f ∈ fs, (Frame.ofLine? f).isSome) : read? s = none := by
  have hscan : scanText s = (fs.filterMap Frame.ofLine?, none) := by
    have hs' : splitOn '\n' s = first :: (fs ++ []) := by rw [List.append_nil, hs]
    rw [scanText_eq hs' h, scan, List.append_nil]
  rw [read?, hscan]
  rfl

/-- **The message is cut off where it starts.** -/
theorem read?_eq_some {line : List Char}
    (hs : splitOn '\n' s = first :: (fs ++ line :: rest))
    (h : ∀ f ∈ fs, (Frame.ofLine? f).isSome) (hline : Frame.ofLine? line = none) :
    read? s = some ⟨String.ofList (join '\n' (line :: rest)),
      fs.filterMap Frame.ofLine? ++ (LoadError.find? line).toList⟩ := by
  have hscan := scanText_eq hs h
  rw [scan_cons_of_none hline, List.append_nil] at hscan
  have hcut : afterBytes? (byteSize (ended '\n' (first :: fs))) s =
      some (join '\n' (line :: rest)) := by
    -- only the text is taken apart, not the lines that stand for it on the right
    conv => lhs; rw [eq_ended_append_join hs (List.cons_ne_nil _ _)]
    exact afterBytes?_byteSize_append _ _
  rw [read?, hscan]
  simp only [Option.bind_eq_bind, Option.bind_some, hcut]

/-- **The header is no location.** The path would end at the bracket, and
there is no colon there. -/
theorem ofLine?_header_append (s : List Char) : Fault.ofLine? (header ++ s) = none := rfl

/-- How a text that starts with the header is read: as a traceback, and as
the empty fault when it is none. -/
theorem read_header_append (s : List Char) :
    Fault.read (header ++ s) = (read? (header ++ s)).getD .empty := by
  have hp : header.isPrefixOf (header ++ s) = true :=
    List.isPrefixOf_iff_prefix.2 (List.prefix_append _ _)
  rw [Fault.read, if_pos hp, ofLine?_header_append, Option.getD_none]

/-- **A traceback is read exactly.** Of its lines, `first` is the one with
the header, and `k` is the largest number such that the first `k` of the
`lines` after it are frames. If these are all of them, the fault is empty.
If not, the scan stops at the next line; the bytes it has counted end
between two characters of the text, and what follows them is the message.
The lines passed and the message are the whole text. The places are those
of the frames in order, then the one of a failed load that the first line
of the message reports, and no others. -/
theorem ofText?_header_append (tail : String) :
    let text := String.ofList header ++ tail
    ∃ (first : List Char) (lines : List (List Char)) (k : Nat),
      splitOn '\n' text.toList = first :: lines ∧
      IsGreatest {k | k ≤ lines.length ∧ ∀ line ∈ lines.take k, (Frame.ofLine? line).isSome} k ∧
      (k = lines.length → Fault.ofText? text = some .empty) ∧
      ∀ hk : k < lines.length, ∃ (offset : Nat) (message : List Char),
        (scanText text.toList).2 = some ⟨offset, lines[k]⟩ ∧
        String.Pos.Raw.IsValid text ⟨offset⟩ ∧
        afterBytes? offset text.toList = some message ∧
        message = join '\n' (lines.drop k) ∧
        join '\n' (first :: lines.take k ++ [message]) = text.toList ∧
        Fault.ofText? text = some ⟨String.ofList message,
          (lines.take k).filterMap Frame.ofLine? ++ (LoadError.find? lines[k]).toList⟩ := by
  intro text
  have htext : text.toList = header ++ tail.toList := by
    rw [String.toList_append, String.toList_ofList]
  have hread : Fault.ofText? text = some ((read? text.toList).getD .empty) := by
    have hne : text ≠ "" := by
      intro he
      have hnil : header ++ tail.toList = [] := by rw [← htext, he, String.toList_empty]
      exact absurd (List.append_eq_nil_iff.1 hnil).1 (by decide)
    rw [Fault.ofText?, if_neg hne, htext, read_header_append]
  obtain ⟨first, lines, hs⟩ := List.exists_cons_of_ne_nil (splitOn_ne_nil '\n' text.toList)
  obtain ⟨k, hgreatest⟩ : ∃ k, IsGreatest
      {k | k ≤ lines.length ∧ ∀ line ∈ lines.take k, (Frame.ofLine? line).isSome} k :=
    ⟨_, isGreatest_length_takeWhile _ lines⟩
  have hframes := hgreatest.1.2
  refine ⟨first, lines, k, hs, hgreatest, ?_, ?_⟩
  · -- frames alone: no fault is read, and the header is no location either
    rintro rfl
    rw [List.take_length] at hframes
    rw [hread, read?_eq_none hs hframes, Option.getD_none]
  · -- a line that is no frame: the count is at its start, whatever the lines before it hold
    intro hk
    have hline : Frame.ofLine? lines[k] = none := by
      simpa using not_getElem_of_isGreatest hgreatest hk
    have hdrop : lines.drop k = lines[k] :: lines.drop (k + 1) := List.drop_eq_getElem_cons hk
    have hs' : splitOn '\n' text.toList =
        first :: (lines.take k ++ lines[k] :: lines.drop (k + 1)) := by
      rw [← hdrop, List.take_append_drop, hs]
    have hwhole := eq_ended_append_join hs' (List.cons_ne_nil _ _)
    refine ⟨byteSize (ended '\n' (first :: lines.take k)), join '\n' (lines.drop k),
      ?_, isValid_byteSize hwhole, ?_, rfl, ?_, ?_⟩
    · rw [scanText_eq hs' hframes, scan_cons_of_none hline]
    · rw [hdrop]
      conv => lhs; rw [hwhole]
      exact afterBytes?_byteSize_append _ _
    · rw [join_append '\n' (first :: lines.take k) (List.cons_ne_nil _ []), join, hdrop, ← hwhole]
    · rw [hread, read?_eq_some hs' hframes hline, hdrop, Option.getD_some]

end Traceback

end BuildDiagnostics
