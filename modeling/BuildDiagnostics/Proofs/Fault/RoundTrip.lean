import BuildDiagnostics.Proofs.Fault.Frame
import BuildDiagnostics.Proofs.Fault.Traceback
/-!
# Tracebacks, written and read back

A traceback is written as its header with a title, frames one to a line,
and a message. What is read from it is the message and the locations of
the frames (`ofText?_write`). The title, the indentations and the remarks
leave no trace, and of the message only the first line is looked at.
-/


namespace BuildDiagnostics

namespace Text

variable {α : Type} [DecidableEq α]

/-- The first piece of a list ends before the first separator. -/
theorem exists_splitOn_eq_cons (sep : α) (s : List α) :
    ∃ ps, splitOn sep s = s.takeWhile (· ≠ sep) :: ps := by
  induction s with
  | nil => exact ⟨[], rfl⟩
  | cons c cs ih =>
    obtain ⟨ps, hps⟩ := ih
    by_cases hc : c = sep
    · exact ⟨splitOn sep cs, by simp [splitOn, hc]⟩
    · exact ⟨ps, by simp [splitOn, hc, hps]⟩

end Text

namespace Traceback

open Text

/-- The first line of a message. -/
def firstLine (message : String) : List Char := message.toList.takeWhile (· ≠ '\n')

/-- A traceback, from what stands after its header, its frames and its
message. -/
def write (title : String) (frames : List Frame) (message : String) : String :=
  String.ofList header ++ title ++ "\n" ++ String.join (frames.map fun f => f.text ++ "\n") ++
    message

/-- Lines, each with its line feed, character by character. -/
theorem toList_join_lines (frames : List Frame) :
    (String.join (frames.map fun f => f.text ++ "\n")).toList =
      ended '\n' (frames.map fun f => f.text.toList) := by
  have hfeed : ("\n" : String).toList = ['\n'] := rfl
  induction frames with
  | nil => rfl
  | cons f fs ih =>
    rw [List.map_cons, String.join_cons, String.toList_append, String.toList_append, hfeed, ih,
      List.map_cons, ended_cons, List.append_assoc, List.singleton_append]

/-- A traceback is its lines, each with its line feed, and the message. -/
theorem toList_write (title : String) (frames : List Frame) (message : String) :
    (write title frames message).toList =
      ended '\n' ((header ++ title.toList) :: frames.map fun f => f.text.toList) ++
        message.toList := by
  have hfeed : ("\n" : String).toList = ['\n'] := rfl
  simp only [write, String.toList_append, String.toList_ofList, toList_join_lines, hfeed,
    ended_cons, List.append_assoc, List.cons_append, List.nil_append]

/-- It is read as a traceback. -/
theorem ofText?_write_eq_read? (title : String) (frames : List Frame) (message : String) :
    Fault.ofText? (write title frames message) =
      some ((read? (write title frames message).toList).getD .empty) := by
  have hheader := toList_write title frames message
  rw [ended_cons, List.append_assoc, List.append_assoc] at hheader
  have hne : write title frames message ≠ "" := by
    intro he
    rw [he] at hheader
    cases hheader
  rw [Fault.ofText?, if_neg hne, hheader, read_header_append]

/-- **A traceback is read back as it was written.** The title is on one
line, and so is every frame; the first line of the message is no frame.
Then the message is read as it is, and the places are those of the frames
in order and, when the first line of the message reports a failed load,
the place that it names. -/
theorem ofText?_write (title : String) (frames : List Frame) (message : String)
    (htitle : '\n' ∉ title.toList)
    (hframes : ∀ f ∈ frames, '\n' ∉ f.indent.toList ∧ '\n' ∉ f.remark.toList)
    (hmessage : Frame.ofLine? (firstLine message) = none) :
    Fault.ofText? (write title frames message) =
      some ⟨message, frames.map (·.location) ++ (LoadError.find? (firstLine message)).toList⟩ := by
  obtain ⟨rest, hrest⟩ := exists_splitOn_eq_cons '\n' message.toList
  let lines := frames.map fun f => f.text.toList
  -- no line holds a line feed, so the text is cut where it was put together
  have hsplit : splitOn '\n' (write title frames message).toList =
      (header ++ title.toList) :: (lines ++ firstLine message :: rest) := by
    rw [toList_write, splitOn_ended_append, hrest, List.cons_append]
    · rfl
    · intro line hline
      rcases List.mem_cons.1 hline with rfl | hline
      · rw [List.mem_append, not_or]
        exact ⟨by decide, htitle⟩
      · obtain ⟨f, hf, rfl⟩ := List.mem_map.1 hline
        exact Frame.lineFeed_not_mem_text (hframes f hf).1 (hframes f hf).2
  have hframe : ∀ line ∈ lines, (Frame.ofLine? line).isSome := by
    intro line hline
    obtain ⟨f, -, rfl⟩ := List.mem_map.1 hline
    rw [Frame.ofLine?_text]
    rfl
  have hlocations : lines.filterMap Frame.ofLine? = frames.map (·.location) := by
    have hread : Frame.ofLine? ∘ (fun f : Frame => f.text.toList) = some ∘ (·.location) :=
      funext Frame.ofLine?_text
    rw [List.filterMap_map, hread, List.filterMap_eq_map]
  have hjoin : join '\n' (firstLine message :: rest) = message.toList := by
    rw [firstLine, ← hrest, join_splitOn]
  rw [ofText?_write_eq_read?, read?_eq_some hsplit hframe hmessage, hjoin, hlocations,
    String.ofList_toList, Option.getD_some]

/-- A frame with a tab and a blank before its path, a blank within it and
more digits in its remark. -/
def indentedFrame : Frame where
  indent := "\t "
  location := ⟨"a b", ⟨3, by decide⟩, ⟨14, by decide⟩⟩
  remark := ": in f 7"
  isSpace_indent := List.all_eq_true.1 (by decide)
  isPath := by decide
  head?_path_ne := by decide
  startsOutside_remark := by decide

/-- A title, a frame that has blanks inside and out, and a failed load
with a line after it that is not looked at. -/
theorem ofText?_write_failed_load :
    Frame.ofLine? (firstLine "Error: cannot load x: y:4:7: é\nz:1:1") = none ∧
      Fault.ofText? ("Traceback (most recent call last): again\n\t a b:3:14: in f 7\n" ++
          "Error: cannot load x: y:4:7: é\nz:1:1") =
        some ⟨"Error: cannot load x: y:4:7: é\nz:1:1",
          [⟨"a b", ⟨3, by decide⟩, ⟨14, by decide⟩⟩, ⟨"y", ⟨4, by decide⟩, ⟨7, by decide⟩⟩]⟩ := by
  have hmessage : Frame.ofLine? (firstLine "Error: cannot load x: y:4:7: é\nz:1:1") = none := by
    decide
  have h := ofText?_write " again" [indentedFrame] _ (by decide) (by decide) hmessage
  have htext : write " again" [indentedFrame] "Error: cannot load x: y:4:7: é\nz:1:1" =
      "Traceback (most recent call last): again\n\t a b:3:14: in f 7\n" ++
        "Error: cannot load x: y:4:7: é\nz:1:1" := by decide
  have hload : LoadError.find? (firstLine "Error: cannot load x: y:4:7: é\nz:1:1") =
      some ⟨"y", ⟨4, by decide⟩, ⟨7, by decide⟩⟩ := by decide
  rw [htext, hload] at h
  exact ⟨hmessage, h⟩

end Traceback

end BuildDiagnostics
