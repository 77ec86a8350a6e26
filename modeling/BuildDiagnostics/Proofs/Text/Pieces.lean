import BuildDiagnostics.Text.Lines
import BuildDiagnostics.Text.Utf8
/-!
# Where the pieces of a text start

A text that was cut at a separator is walked piece by piece, and the bytes
passed on the way are counted. The count is always a place between two
characters (`isValid_byteSize`), and what follows it is the rest of the
text (`afterBytes?_byteSize_append`). `ended` is the part of the text that
a run of pieces takes, each with its separator. A stream of such pieces is
read line by line as it was put together (`lines_ended`), since no
character but the line feed has its byte.
-/


namespace BuildDiagnostics

namespace Text

variable {α : Type}

/-- Pieces, each with the separator after it. -/
def ended (sep : α) (ps : List (List α)) : List α := ps.flatMap (· ++ [sep])

@[simp] theorem ended_nil (sep : α) : ended sep [] = [] := rfl

@[simp] theorem ended_cons (sep : α) (p : List α) (ps : List (List α)) :
    ended sep (p :: ps) = p ++ sep :: ended sep ps := by
  simp [ended]

/-- **A join falls apart before any of its pieces.** Those before it have
their separators with them. -/
theorem join_append (sep : α) (ps : List (List α)) {qs : List (List α)} (h : qs ≠ []) :
    join sep (ps ++ qs) = ended sep ps ++ join sep qs := by
  induction ps with
  | nil => rfl
  | cons p ps ih =>
    have hne : ps ++ qs ≠ [] := fun he => h (List.append_eq_nil_iff.1 he).2
    obtain ⟨r, rs, hr⟩ := List.exists_cons_of_ne_nil hne
    rw [List.cons_append, hr, join, ← hr, ih, ended_cons, List.append_assoc, List.cons_append]

/-! ## Counting bytes -/

/-- The bytes of a text, counted by its characters. -/
theorem utf8ByteSize_ofList (s : List Char) : (String.ofList s).utf8ByteSize = byteSize s := by
  rw [← String.size_toByteArray, String.toByteArray_ofList, List.utf8Encode,
    List.size_toByteArray]
  induction s with
  | nil => rfl
  | cons c s ih =>
    rw [List.flatMap_cons, List.length_append, String.length_utf8EncodeChar, ih, byteSize_cons]

/-- A piece and the line feed after it, in bytes. -/
theorem byteSize_ended_cons (p : List Char) (ps : List (List Char)) :
    byteSize (ended '\n' (p :: ps)) = byteSize p + 1 + byteSize (ended '\n' ps) := by
  have hfeed : ('\n' : Char).utf8Size = 1 := by decide
  rw [ended_cons, byteSize_append, byteSize_cons, hfeed]
  omega

/-- **Nothing but the counted bytes is passed over.** -/
theorem afterBytes?_byteSize_append (p s : List Char) :
    afterBytes? (byteSize p) (p ++ s) = some s := by
  induction p with
  | nil => simp [afterBytes?]
  | cons c p ih =>
    have hpos := c.utf8Size_pos
    obtain ⟨n, hn⟩ : ∃ n, byteSize (c :: p) = n + 1 := ⟨byteSize (c :: p) - 1, by
      rw [byteSize_cons]; omega⟩
    have hle : c.utf8Size ≤ n + 1 := by rw [← hn, byteSize_cons]; omega
    have hrest : n + 1 - c.utf8Size = byteSize p := by rw [← hn, byteSize_cons]; omega
    rw [hn, List.cons_append, afterBytes?, if_pos hle, hrest, ih]

/-- The bytes of what a text starts with end between two characters. -/
theorem isValid_byteSize {text : String} {p s : List Char} (h : text.toList = p ++ s) :
    String.Pos.Raw.IsValid text ⟨byteSize p⟩ := by
  refine String.Pos.Raw.isValid_iff_exists_append.2 ⟨String.ofList p, String.ofList s, ?_, ?_⟩
  · rw [← String.ofList_append, ← h, String.ofList_toList]
  · rw [String.Pos.Raw.ext_iff, String.byteIdx_rawEndPos, utf8ByteSize_ofList]

/-! ## Lines of bytes -/

/-- The bytes of a text are those of its characters. -/
theorem encode_ofList (s : List Char) :
    encode (String.ofList s) = s.flatMap String.utf8EncodeChar := by
  rw [encode, String.toByteArray_ofList, List.utf8Encode, List.data_toByteArray]

/-- A byte of the first half is none of the second. -/
theorem ne_ofNat_of_toNat_lt {b : UInt8} (hb : b.toNat < 128) {n : Nat} (hlow : 128 ≤ n)
    (hhigh : n < 256) : b ≠ UInt8.ofNat n := by
  intro h
  have hn : b.toNat = n % 256 := congrArg UInt8.toNat h
  omega

/-- **Only an ASCII character has its byte.** All bytes of a character that
takes several are beyond the first half. -/
theorem toNat_of_mem_utf8EncodeChar {c : Char} {b : UInt8} (hb : b.toNat < 128)
    (h : b ∈ String.utf8EncodeChar c) : c.toNat = b.toNat := by
  revert h
  -- by the number of bytes: a single byte is the character, and of several all are above 127
  fun_cases String.utf8EncodeChar c with
  | case1 v hv =>
    intro h
    have hn : b.toNat = v % 256 := congrArg UInt8.toNat (List.mem_singleton.1 h)
    show v = b.toNat
    omega
  | case2 v =>
    intro h
    simp only [List.mem_cons, List.not_mem_nil, or_false] at h
    rcases h with h | h <;> exact absurd h (ne_ofNat_of_toNat_lt hb (by omega) (by omega))
  | case3 v =>
    intro h
    simp only [List.mem_cons, List.not_mem_nil, or_false] at h
    rcases h with h | h | h <;> exact absurd h (ne_ofNat_of_toNat_lt hb (by omega) (by omega))
  | case4 v =>
    intro h
    simp only [List.mem_cons, List.not_mem_nil, or_false] at h
    rcases h with h | h | h | h <;>
      exact absurd h (ne_ofNat_of_toNat_lt hb (by omega) (by omega))

/-- The bytes of lines are lines of bytes. -/
theorem encode_join_lines (texts : List String) :
    encode (String.join (texts.map (· ++ "\n"))) = ended 10 (texts.map encode) := by
  have hfeed : encode "\n" = [10] := rfl
  induction texts with
  | nil => rfl
  | cons text texts ih =>
    rw [List.map_cons, String.join_cons, encode_append, encode_append, hfeed, ih, List.map_cons,
      ended_cons, List.append_assoc, List.singleton_append]

/-- So a text on one line has no such byte. -/
theorem lineFeed_not_mem_encode {s : String} (h : '\n' ∉ s.toList) : 10 ∉ encode s := by
  rw [← String.ofList_toList (s := s), encode_ofList]
  intro hmem
  obtain ⟨c, hc, hbyte⟩ := List.mem_flatMap.1 hmem
  have hfeed : c = '\n' := Char.toNat_inj.1 (toNat_of_mem_utf8EncodeChar (by decide) hbyte)
  exact h (hfeed ▸ hc)

section Splitting

variable [DecidableEq α]

/-- What stands before the first separator goes with the first piece. -/
theorem splitOn_append_of_not_mem {sep : α} {p : List α} (h : sep ∉ p) (s : List α) :
    splitOn sep (p ++ s) = (splitOn sep s).modifyHead (p ++ ·) := by
  induction p with
  | nil => exact (congrFun List.modifyHead_id (splitOn sep s)).symm
  | cons c p ih =>
    have hc : c ≠ sep := fun he => h (he ▸ List.mem_cons_self)
    rw [List.cons_append, splitOn, if_neg hc, ih fun hp => h (List.mem_cons_of_mem c hp),
      List.modifyHead_modifyHead]
    rfl

/-- A list without the separator is one piece. -/
theorem splitOn_of_not_mem {sep : α} {p : List α} (h : sep ∉ p) : splitOn sep p = [p] := by
  have hsplit := splitOn_append_of_not_mem h []
  rwa [splitOn, List.modifyHead_cons, List.append_nil] at hsplit

/-- **A separator parts the pieces before it from those after it.** -/
theorem splitOn_append_cons (sep : α) (p s : List α) :
    splitOn sep (p ++ sep :: s) = splitOn sep p ++ splitOn sep s := by
  induction p with
  | nil =>
    show splitOn sep (sep :: s) = [] :: splitOn sep s
    rw [splitOn, if_pos rfl]
  | cons c p ih =>
    rw [List.cons_append, splitOn, splitOn, ih]
    by_cases hc : c = sep
    · rw [if_pos hc, if_pos hc, List.cons_append]
    · obtain ⟨q, qs, hq⟩ := List.exists_cons_of_ne_nil (splitOn_ne_nil sep p)
      rw [if_neg hc, if_neg hc, hq]
      rfl

/-- **Ended pieces are cut again where they end.** -/
theorem splitOn_ended_append {sep : α} {ps : List (List α)} (h : ∀ p ∈ ps, sep ∉ p)
    (s : List α) : splitOn sep (ended sep ps ++ s) = ps ++ splitOn sep s := by
  induction ps with
  | nil => rfl
  | cons p ps ih =>
    rw [ended_cons, List.append_assoc, List.cons_append, splitOn_append_cons,
      splitOn_of_not_mem (h p List.mem_cons_self), ih fun q hq => h q (List.mem_cons_of_mem p hq),
      List.cons_append, List.nil_append, List.cons_append]

end Splitting

/-- Pieces before another are lines that a line feed ends. -/
theorem endedLines_append (ls : List (List UInt8)) {ps : List (List UInt8)} (h : ps ≠ []) :
    endedLines (ls ++ ps) = ls.map dropReturn ++ endedLines ps := by
  induction ls with
  | nil => rfl
  | cons l ls ih =>
    have hne : ls ++ ps ≠ [] := fun he => h (List.append_eq_nil_iff.1 he).2
    obtain ⟨q, qs, hq⟩ := List.exists_cons_of_ne_nil hne
    rw [List.cons_append, hq, endedLines, ← hq, ih, List.map_cons, List.cons_append]

/-- **Lines that a line feed ends are read as they are**, when none of them
holds one or ends in a carriage return. -/
theorem lines_ended {ls : List (List UInt8)} (hfeed : ∀ l ∈ ls, 10 ∉ l)
    (hreturn : ∀ l ∈ ls, l.getLast? ≠ some 13) : lines (ended 10 ls) = ls := by
  have hsplit : splitOn 10 (ended 10 ls) = ls ++ [[]] := by
    have h := splitOn_ended_append hfeed []
    rwa [List.append_nil] at h
  have hmap : ls.map dropReturn = ls.map id :=
    List.map_congr_left fun l hl => by rw [dropReturn, if_neg (hreturn l hl), id]
  rw [lines, hsplit, endedLines_append ls (List.cons_ne_nil _ _), hmap, List.map_id]
  exact List.append_nil ls

end Text

end BuildDiagnostics
