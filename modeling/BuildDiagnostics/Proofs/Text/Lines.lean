import BuildDiagnostics.Proofs.Text.Pieces
/-!
# Lines of a byte stream

A stream that ends in a line feed can be followed by another one without
changing its lines (`lines_append`). The lines of a text are texts
(`isSome_decode?_of_mem_lines`): no character but the line feed holds the
byte that the text is cut at, and none but the carriage return the byte
that is dropped. Bytes whose lines are texts are a text as well, so reading
them line by line finds them invalid just when reading them as a whole does
(`isSome_decode?_iff_lines`).
-/


namespace BuildDiagnostics

namespace Text

/-- The lines before the first that is not text, decoded. -/
def leadingTexts (ls : List (List UInt8)) : List String :=
  (ls.takeWhile fun l => (decode? l).isSome).filterMap decode?

theorem leadingTexts_cons_of_some {l : List UInt8} {text : String} (h : decode? l = some text)
    (ls : List (List UInt8)) : leadingTexts (l :: ls) = text :: leadingTexts ls := by
  simp [leadingTexts, h]

theorem leadingTexts_cons_of_none {l : List UInt8} (h : decode? l = none)
    (ls : List (List UInt8)) : leadingTexts (l :: ls) = [] := by
  simp [leadingTexts, h]

/-! ## One stream after another -/

/-- **A stream that ends with a line keeps its lines** whatever follows. -/
theorem lines_append {a : List UInt8} (h : a = [] ∨ a.getLast? = some 10) (b : List UInt8) :
    lines (a ++ b) = lines a ++ lines b := by
  rcases h with rfl | h
  · rfl
  · obtain ⟨a, rfl⟩ := List.getLast?_eq_some_iff.1 h
    have hcut : ∀ s : List UInt8, lines (a ++ 10 :: s) = (splitOn 10 a).map dropReturn ++ lines s :=
      fun s => by
        rw [lines, splitOn_append_cons, endedLines_append _ (splitOn_ne_nil 10 s), lines]
    have hnil : lines [] = [] := rfl
    rw [List.append_assoc, List.singleton_append, hcut, hcut, hnil, List.append_nil]

/-! ## Lines of a text -/

/-- Pieces without the separator are cut again where they were joined. -/
theorem splitOn_join {α : Type} [DecidableEq α] {sep : α} {ps : List (List α)} (hne : ps ≠ [])
    (h : ∀ p ∈ ps, sep ∉ p) : splitOn sep (join sep ps) = ps := by
  obtain ⟨init, last, rfl⟩ : ∃ init last, ps = init ++ [last] :=
    ⟨_, _, (List.dropLast_concat_getLast hne).symm⟩
  rw [join_append sep init (List.cons_ne_nil last []), join,
    splitOn_ended_append fun p hp => h p (List.mem_append_left _ hp),
    splitOn_of_not_mem (h last (List.mem_append_right _ List.mem_cons_self))]

/-- The bytes of some characters. -/
def encodeChars (s : List Char) : List UInt8 := s.flatMap String.utf8EncodeChar

theorem decode?_encodeChars (s : List Char) : decode? (encodeChars s) = some (String.ofList s) := by
  rw [encodeChars, ← encode_ofList, decode?_encode]

/-- The bytes of lines of characters are lines of bytes. -/
theorem encodeChars_join (ps : List (List Char)) :
    encodeChars (join '\n' ps) = join 10 (ps.map encodeChars) := by
  have hfeed : String.utf8EncodeChar '\n' = [10] := rfl
  induction ps with
  | nil => rfl
  | cons p ps ih =>
    cases ps with
    | nil => rfl
    | cons q qs =>
      rw [join, encodeChars, List.flatMap_append, List.flatMap_cons, hfeed, ← encodeChars,
        ← encodeChars, ih]
      rfl

/-- Cutting a text at its line feeds and cutting its bytes at theirs is the
same. -/
theorem splitOn_encodeChars (s : List Char) :
    splitOn 10 (encodeChars s) = (splitOn '\n' s).map encodeChars := by
  conv => lhs; rw [← join_splitOn '\n' s, encodeChars_join]
  refine splitOn_join (by simpa using splitOn_ne_nil '\n' s) ?_
  intro p hp
  obtain ⟨q, hq, rfl⟩ := List.mem_map.1 hp
  intro hmem
  obtain ⟨c, hc, hbyte⟩ := List.mem_flatMap.1 hmem
  have hfeed : c = '\n' := Char.toNat_inj.1 (toNat_of_mem_utf8EncodeChar (by decide) hbyte)
  exact not_mem_of_mem_splitOn hq (hfeed ▸ hc)

/-- Characters whose last byte is a carriage return end in one. -/
theorem exists_eq_concat_of_getLast? {s : List Char} (h : (encodeChars s).getLast? = some 13) :
    ∃ init, s = init ++ ['\r'] := by
  rcases List.eq_nil_or_concat s with rfl | ⟨init, c, rfl⟩
  · cases h
  · have hne : String.utf8EncodeChar c ≠ [] := by
      rw [← List.length_pos_iff, String.length_utf8EncodeChar]
      exact c.utf8Size_pos
    rw [List.concat_eq_append, encodeChars, List.flatMap_append, List.flatMap_singleton,
      List.getLast?_append, List.getLast?_eq_some_getLast hne, Option.some_or] at h
    have hmem : 13 ∈ String.utf8EncodeChar c := Option.some.inj h ▸ List.getLast_mem hne
    have hreturn : c = '\r' := Char.toNat_inj.1 (toNat_of_mem_utf8EncodeChar (by decide) hmem)
    exact ⟨init, by rw [List.concat_eq_append, hreturn]⟩

/-- Without its carriage return a text is still one. -/
theorem isSome_decode?_dropReturn (s : List Char) :
    (decode? (dropReturn (encodeChars s))).isSome := by
  have hreturn : String.utf8EncodeChar '\r' = [13] := rfl
  rw [dropReturn]
  split
  · next h =>
    obtain ⟨init, rfl⟩ := exists_eq_concat_of_getLast? h
    rw [encodeChars, List.flatMap_append, List.flatMap_singleton, hreturn, List.dropLast_concat,
      ← encodeChars, decode?_encodeChars]
    rfl
  · rw [decode?_encodeChars]
    rfl

/-- A line is one of the pieces, or one without its carriage return. -/
theorem exists_mem_of_mem_endedLines {ps : List (List UInt8)} {l : List UInt8}
    (h : l ∈ endedLines ps) : ∃ p ∈ ps, l = p ∨ l = dropReturn p := by
  fun_induction endedLines ps with
  | case1 => cases h
  | case2 => cases h
  | case3 rest hrest => exact ⟨rest, List.mem_cons_self, .inl (List.mem_singleton.1 h)⟩
  | case4 p q ps ih =>
    rcases List.mem_cons.1 h with rfl | h
    · exact ⟨p, List.mem_cons_self, .inr rfl⟩
    · obtain ⟨r, hr, hl⟩ := ih h
      exact ⟨r, List.mem_cons_of_mem p hr, hl⟩

/-- **The lines of a text are texts.** -/
theorem isSome_decode?_of_mem_lines {bytes l : List UInt8} (h : (decode? bytes).isSome)
    (hl : l ∈ lines bytes) : (decode? l).isSome := by
  obtain ⟨text, htext⟩ := Option.isSome_iff_exists.1 h
  have hbytes : bytes = encodeChars text.toList := by
    rw [← encode_of_decode? htext, encodeChars, ← encode_ofList, String.ofList_toList]
  rw [hbytes, lines, splitOn_encodeChars] at hl
  obtain ⟨p, hp, hl⟩ := exists_mem_of_mem_endedLines hl
  obtain ⟨s, -, rfl⟩ := List.mem_map.1 hp
  rcases hl with rfl | rfl
  · rw [decode?_encodeChars]
    rfl
  · exact isSome_decode?_dropReturn s

/-! ## A text by its lines -/

/-- A piece is a line, or it is one without its carriage return, or it is the
empty piece after the last line feed. -/
theorem mem_endedLines_or_eq_nil {ps : List (List UInt8)} {p : List UInt8} (h : p ∈ ps) :
    p ∈ endedLines ps ∨ dropReturn p ∈ endedLines ps ∨ p = [] := by
  fun_induction endedLines ps with
  | case1 => cases h
  | case2 => exact .inr (.inr (List.mem_singleton.1 h))
  | case3 rest hrest => exact .inl h
  | case4 q r ps ih =>
    rcases List.mem_cons.1 h with rfl | h
    · exact .inr (.inl List.mem_cons_self)
    · rcases ih h with h | h | h
      · exact .inl (List.mem_cons_of_mem _ h)
      · exact .inr (.inl (List.mem_cons_of_mem _ h))
      · exact .inr (.inr h)

theorem isSome_decode?_of_dropReturn {p : List UInt8} (h : (decode? (dropReturn p)).isSome) :
    (decode? p).isSome := by
  rw [dropReturn] at h
  split at h
  · next hlast =>
    obtain ⟨init, rfl⟩ := List.getLast?_eq_some_iff.1 hlast
    rw [List.dropLast_concat] at h
    obtain ⟨text, htext⟩ := Option.isSome_iff_exists.1 h
    have hreturn : encode "\r" = [13] := rfl
    rw [← encode_of_decode? htext, ← hreturn, ← encode_append, decode?_encode]
    rfl
  · exact h

/-- Texts with line feeds between them are a text. -/
theorem isSome_decode?_join {ps : List (List UInt8)} (h : ∀ p ∈ ps, (decode? p).isSome) :
    (decode? (join 10 ps)).isSome := by
  obtain ⟨qs, rfl⟩ : ∃ qs : List (List Char), ps = qs.map encodeChars := by
    induction ps with
    | nil => exact ⟨[], rfl⟩
    | cons p ps ih =>
      obtain ⟨hp, hps⟩ := List.forall_mem_cons.1 h
      obtain ⟨text, htext⟩ := Option.isSome_iff_exists.1 hp
      obtain ⟨qs, rfl⟩ := ih hps
      refine ⟨text.toList :: qs, ?_⟩
      rw [List.map_cons, ← encode_of_decode? htext, encodeChars, ← encode_ofList,
        String.ofList_toList]
  rw [← encodeChars_join, decode?_encodeChars]
  rfl

/-- **Bytes are text just when all their lines are.** -/
theorem isSome_decode?_iff_lines {bytes : List UInt8} :
    (decode? bytes).isSome ↔ ∀ l ∈ lines bytes, (decode? l).isSome := by
  constructor
  · exact fun h l hl => isSome_decode?_of_mem_lines h hl
  · intro h
    rw [← join_splitOn 10 bytes]
    refine isSome_decode?_join fun p hp => ?_
    rcases mem_endedLines_or_eq_nil hp with hline | hline | rfl
    · exact h p hline
    · exact isSome_decode?_of_dropReturn (h _ hline)
    · rfl

end Text

end BuildDiagnostics
