import BuildDiagnostics.Proofs.Text.Lines
import BuildDiagnostics.Proofs.Text.Runs
import BuildDiagnostics.Source.Place
import Mathlib.Data.List.DropRight
/-!
# Offsets and counting

The characters before a place tell its line, by the line feeds among them,
and its column, by those after the last line feed (`lastLine`). `offset?`
goes the other way: it finds the place from the two numbers, and finds it
exactly when there is one (`offset?_eq_some_iff`).

The rows of a content, which are its pieces between line feeds, stand
between the two. What is before a place is some rows with their line feeds
and a part of the next row (`exists_row`), and the search passes rows and
then characters (`offset?_eq`).
-/


namespace BuildDiagnostics

open Text

namespace Source

/-- The rows of a content: what its line feeds stand between. -/
def rows (content : String) : List (List Char) := splitOn '\n' content.toList

/-- The characters after the last line feed, or all when there is none. -/
def lastLine (s : List Char) : List Char := s.rtakeWhile (· ≠ '\n')

/-- Counting finds a position: so many bytes of a content are characters,
with as many line feeds among them as the position has lines before it, and
as many characters after the last line feed as it has in its line. -/
structure IsPlace (content : String) (p : Position) (o : Nat) : Prop where
  /-- The bytes are bytes of the content. -/
  le_size : o ≤ content.utf8ByteSize
  /-- They do not end within a character. -/
  isValid : String.Pos.Raw.IsValid content ⟨o⟩
  /-- The characters that they are. -/
  exists_before : ∃ before, before <+: content.toList ∧ byteSize before = o ∧
    before.count '\n' = p.line.toNat ∧ (lastLine before).length = p.character.toNat

variable {content : String} {n : Nat}

/-! ## What is before a place -/

/-- Characters go on the last line until a line feed comes. -/
theorem lastLine_append {t : List Char} (h : '\n' ∉ t) (s : List Char) :
    lastLine (s ++ t) = lastLine s ++ t := by
  have ht : ∀ c ∈ t.reverse, decide (c ≠ '\n') = true :=
    forall_ne_of_not_mem fun hfeed => h (List.mem_reverse.1 hfeed)
  rw [lastLine, lastLine, List.rtakeWhile, List.rtakeWhile, List.reverse_append,
    List.takeWhile_append_of_pos ht, List.reverse_append, List.reverse_reverse]

/-- After rows and their line feeds the last line is new. -/
theorem lastLine_ended_append {t : List Char} (h : '\n' ∉ t) (ps : List (List Char)) :
    lastLine (ended '\n' ps ++ t) = t := by
  have hended : lastLine (ended '\n' ps) = [] := by
    rcases List.eq_nil_or_concat ps with rfl | ⟨init, last, rfl⟩
    · rfl
    · rw [List.concat_eq_append, ended, List.flatMap_append, List.flatMap_singleton,
        ← List.append_assoc, lastLine]
      exact List.rtakeWhile_concat_neg _ _ _ (by decide)
  rw [lastLine_append h, hended, List.nil_append]

/-- Each row brings one line feed. -/
theorem count_ended_append {t : List Char} (ht : '\n' ∉ t) {ps : List (List Char)}
    (h : ∀ p ∈ ps, '\n' ∉ p) : (ended '\n' ps ++ t).count '\n' = ps.length := by
  rw [List.count_append, List.count_eq_zero.2 ht]
  induction ps with
  | nil => rfl
  | cons p ps ih =>
    obtain ⟨hp, hps⟩ := List.forall_mem_cons.1 h
    have hrest := ih hps
    rw [ended_cons, List.count_append, List.count_eq_zero.2 hp, List.count_cons_self,
      List.length_cons]
    omega

/-- **What is before a place**: the rows before its own, each with its line
feed, and the start of its own. -/
theorem exists_row {before : List Char} (h : before <+: content.toList) :
    ∃ row, (rows content)[before.count '\n']? = some row ∧
      (lastLine before).length ≤ row.length ∧
      before = ended '\n' ((rows content).take (before.count '\n')) ++
        row.take (lastLine before).length := by
  obtain ⟨after, hafter⟩ := h
  obtain ⟨init, last, hsplit⟩ : ∃ init last, splitOn '\n' before = init ++ [last] :=
    ⟨_, _, (List.dropLast_concat_getLast (splitOn_ne_nil '\n' before)).symm⟩
  have hbefore : before = ended '\n' init ++ last := by
    rw [← join_splitOn '\n' before, hsplit, join_append '\n' init (List.cons_ne_nil last [])]
    rfl
  have hfeed : ∀ p ∈ init ++ [last], '\n' ∉ p := fun p hp =>
    not_mem_of_mem_splitOn (hsplit ▸ hp : p ∈ splitOn '\n' before)
  have hinit : ∀ p ∈ init, '\n' ∉ p := fun p hp => hfeed p (List.mem_append_left _ hp)
  have hlast : '\n' ∉ last := hfeed last (List.mem_append_right _ List.mem_cons_self)
  have hcount : before.count '\n' = init.length := by
    rw [hbefore, count_ended_append hlast hinit]
  have hline : lastLine before = last := by
    rw [hbefore, lastLine_ended_append hlast]
  -- the row goes on until the next line feed
  obtain ⟨q, qs, hq⟩ := List.exists_cons_of_ne_nil (splitOn_ne_nil '\n' after)
  have hrows : rows content = init ++ (last ++ q) :: qs := by
    rw [rows, ← hafter, hbefore, List.append_assoc, splitOn_ended_append hinit,
      splitOn_append_of_not_mem hlast, hq, List.modifyHead_cons]
  refine ⟨last ++ q, ?_, ?_, ?_⟩
  · rw [hrows, hcount, List.getElem?_append_right (Nat.le_refl _), Nat.sub_self]
    rfl
  · rw [hline, List.length_append]
    omega
  · rw [hline, hcount, hrows, List.take_left, List.take_left]
    exact hbefore

/-- The content from a row on, after the rows before it. -/
theorem toList_eq_ended_append (h : n < (rows content).length) :
    content.toList = ended '\n' ((rows content).take n) ++ join '\n' ((rows content).drop n) := by
  have hdrop : (rows content).drop n ≠ [] := fun hnil => by
    rw [List.drop_eq_nil_iff] at hnil
    omega
  rw [← join_append '\n' _ hdrop, List.take_append_drop, rows, join_splitOn]

/-- Rows hold no line feed. -/
theorem lineFeed_not_mem_row {row : List Char} (h : row ∈ rows content) : '\n' ∉ row :=
  not_mem_of_mem_splitOn h

/-- **And the other way round**: rows with their line feeds, and the start of
the next row, are what is before a place. -/
theorem row_before {row : List Char} (h : (rows content)[n]? = some row) (c : Nat) :
    let before := ended '\n' ((rows content).take n) ++ row.take c
    before <+: content.toList ∧ before.count '\n' = n ∧ lastLine before = row.take c := by
  intro before
  obtain ⟨hn, hrow⟩ := List.getElem?_eq_some_iff.1 h
  have hmem : row ∈ rows content := hrow ▸ List.getElem_mem hn
  have htake : '\n' ∉ row.take c := fun hfeed =>
    lineFeed_not_mem_row hmem (List.mem_of_mem_take hfeed)
  have hstart : row.take c <+: join '\n' ((rows content).drop n) := by
    rw [List.drop_eq_getElem_cons hn, hrow]
    refine (List.take_prefix c row).trans ?_
    cases (rows content).drop (n + 1) with
    | nil => exact List.prefix_rfl
    | cons q qs => exact List.prefix_append row _
  refine ⟨?_, ?_, lastLine_ended_append htake _⟩
  · rw [toList_eq_ended_append hn]
    exact (List.prefix_append_right_inj _).2 hstart
  · rw [count_ended_append htake fun p hp => lineFeed_not_mem_row (List.mem_of_mem_take hp),
      List.length_take, Nat.min_eq_left (Nat.le_of_lt hn)]

/-! ## What the search passes -/

theorem feedOffset?_append {row : List Char} (h : '\n' ∉ row) (rest : List Char) :
    feedOffset? (row ++ '\n' :: rest) = some (byteSize row) := by
  rw [feedOffset?, if_pos (List.mem_append_right row List.mem_cons_self),
    takeWhile_append (forall_ne_of_not_mem h) (startsOutside_cons.2 (by decide))]

/-- The search passes as many rows as it is told to, if there are more. -/
theorem lineStart?_append (before rest : List Char) (n : Nat) :
    lineStart? (before ++ rest) (byteSize before) n =
      if n < (splitOn '\n' rest).length then
        some (byteSize (before ++ ended '\n' ((splitOn '\n' rest).take n)))
      else none := by
  -- on the line feeds to pass; what is passed goes to what is before
  induction n generalizing before rest with
  | zero =>
    have hpos : 0 < (splitOn '\n' rest).length :=
      List.length_pos_iff.2 (splitOn_ne_nil '\n' rest)
    rw [if_pos hpos, List.take_zero, ended_nil, List.append_nil]
    rfl
  | succ n ih =>
    rw [lineStart?, afterBytes?_byteSize_append]
    by_cases hfeed : '\n' ∈ rest
    · obtain ⟨row, rest, rfl, hrow⟩ := List.eq_append_cons_of_mem hfeed
      have hsplit : splitOn '\n' (row ++ '\n' :: rest) = row :: splitOn '\n' rest := by
        rw [splitOn_append_cons, splitOn_of_not_mem hrow]
        rfl
      have hpassed : before ++ (row ++ '\n' :: rest) = (before ++ (row ++ ['\n'])) ++ rest := by
        simp only [List.append_assoc, List.singleton_append]
      have hsize : byteSize before + (byteSize row + 1) = byteSize (before ++ (row ++ ['\n'])) := by
        rw [byteSize_append, byteSize_append]
        rfl
      have hended : before ++ ended '\n' (row :: (splitOn '\n' rest).take n) =
          (before ++ (row ++ ['\n'])) ++ ended '\n' ((splitOn '\n' rest).take n) := by
        simp only [ended_cons, List.append_assoc, List.singleton_append]
      have hlt : n + 1 < (splitOn '\n' rest).length + 1 ↔ n < (splitOn '\n' rest).length := by
        omega
      rw [hsplit, List.length_cons, List.take_succ_cons, hended]
      simp only [feedOffset?_append hrow, Option.bind_eq_bind, Option.bind_some, hpassed, hsize, ih,
        hlt]
    · have hlen : ¬ n + 1 < (splitOn '\n' rest).length := by
        rw [splitOn_of_not_mem hfeed, List.length_singleton]
        omega
      rw [if_neg hlen]
      simp only [feedOffset?, if_neg hfeed, Option.bind_eq_bind, Option.bind_some, Option.bind_none]

/-- From the start of a content it passes rows of the content. -/
theorem lineStart?_eq (content : String) (n : Nat) :
    lineStart? content.toList 0 n =
      if n < (rows content).length then some (byteSize (ended '\n' ((rows content).take n)))
      else none :=
  lineStart?_append [] content.toList n

/-- Within a row each character starts where those before it end, and the row
ends after all of them. -/
theorem getElem?_characterOffsets (k : Nat) (row : List Char) (n : Nat) :
    (characterOffsets k row)[n]? =
      if n ≤ row.length then some (k + byteSize (row.take n)) else none := by
  induction row generalizing k n with
  | nil => cases n <;> simp [characterOffsets]
  | cons c row ih =>
    cases n with
    | zero => simp [characterOffsets]
    | succ n => simp [characterOffsets, ih, Nat.add_assoc]

/-- **The search in terms of rows**: it passes the rows before the line, and
then characters of the row of the line. -/
theorem offset?_eq (content : String) (p : Position) :
    offset? content p = (rows content)[p.line.toNat]?.bind fun row =>
      if p.character.toNat ≤ row.length then
        some (byteSize (ended '\n' ((rows content).take p.line.toNat) ++
          row.take p.character.toNat))
      else none := by
  rw [offset?, lineStart?_eq]
  cases hrow : (rows content)[p.line.toNat]? with
  | none =>
    rw [if_neg (Nat.not_lt.2 (List.getElem?_eq_none_iff.1 hrow))]
    rfl
  | some row =>
    obtain ⟨hlt, hget⟩ := List.getElem?_eq_some_iff.1 hrow
    have hdrop : splitOn '\n' (join '\n' ((rows content).drop p.line.toNat)) =
        (rows content).drop p.line.toNat :=
      splitOn_join (fun hnil => by rw [List.drop_eq_nil_iff] at hnil; omega) fun q hq =>
        lineFeed_not_mem_row (List.mem_of_mem_drop hq)
    have hfirst : firstLine (join '\n' ((rows content).drop p.line.toNat)) = row := by
      rw [firstLine, hdrop, List.drop_eq_getElem_cons hlt, hget, List.headD_cons]
    conv => lhs; rw [if_pos hlt, toList_eq_ended_append hlt]
    simp only [Option.bind_eq_bind, Option.bind_some, afterBytes?_byteSize_append, hfirst,
      getElem?_characterOffsets, Nat.zero_add, byteSize_append]
    split <;> rfl

/-- **Searching is counting the other way round.** -/
theorem offset?_eq_some_iff {p : Position} {o : Nat} :
    offset? content p = some o ↔ ∃ before, before <+: content.toList ∧ byteSize before = o ∧
      before.count '\n' = p.line.toNat ∧ (lastLine before).length = p.character.toNat := by
  rw [offset?_eq, Option.bind_eq_some_iff]
  constructor
  · rintro ⟨row, hrow, h⟩
    split at h
    · next hle =>
      obtain ⟨hbefore, hcount, hlast⟩ := row_before hrow p.character.toNat
      refine ⟨_, hbefore, Option.some.inj h, hcount, ?_⟩
      rw [hlast, List.length_take, Nat.min_eq_left hle]
    · cases h
  · rintro ⟨before, hbefore, rfl, hcount, hlast⟩
    obtain ⟨row, hrow, hle, heq⟩ := exists_row hbefore
    rw [hcount, hlast] at heq
    rw [hcount] at hrow
    rw [hlast] at hle
    exact ⟨row, hrow, by rw [if_pos hle, ← heq]⟩

/-! ## Boundaries -/

/-- **The boundaries of a content** are the ends of what it starts with. -/
theorem isValid_iff {o : Nat} : String.Pos.Raw.IsValid content ⟨o⟩ ↔
    ∃ before, before <+: content.toList ∧ byteSize before = o := by
  constructor
  · intro h
    obtain ⟨first, rest, rfl, ho⟩ := String.Pos.Raw.isValid_iff_exists_append.1 h
    refine ⟨first.toList, ?_, ?_⟩
    · rw [String.toList_append]
      exact List.prefix_append _ _
    · rw [← utf8ByteSize_ofList, String.ofList_toList]
      exact (congrArg String.Pos.Raw.byteIdx ho).symm
  · rintro ⟨before, ⟨after, hafter⟩, rfl⟩
    exact isValid_byteSize hafter.symm

/-- What a content starts with is no longer than the content. -/
theorem byteSize_le_utf8ByteSize {before : List Char} (h : before <+: content.toList) :
    byteSize before ≤ content.utf8ByteSize := by
  obtain ⟨after, hafter⟩ := h
  have hsize := utf8ByteSize_ofList content.toList
  rw [String.ofList_toList, ← hafter, byteSize_append] at hsize
  omega

theorem isPlace_iff {p : Position} {o : Nat} : IsPlace content p o ↔
    ∃ before, before <+: content.toList ∧ byteSize before = o ∧
      before.count '\n' = p.line.toNat ∧ (lastLine before).length = p.character.toNat := by
  refine ⟨IsPlace.exists_before, ?_⟩
  rintro ⟨before, hbefore, rfl, hcounts⟩
  exact ⟨byteSize_le_utf8ByteSize hbefore, isValid_iff.2 ⟨before, hbefore, rfl⟩,
    ⟨before, hbefore, rfl, hcounts⟩⟩

/-- A line is found at a boundary, so its text can be taken from there. -/
theorem lineStart?_boundary {start : Nat} (h : lineStart? content.toList 0 n = some start) :
    start ≤ content.utf8ByteSize ∧ String.Pos.Raw.IsValid content ⟨start⟩ ∧
      (afterBytes? start content.toList).isSome := by
  rw [lineStart?_eq] at h
  split at h
  · next hn =>
    have htext := toList_eq_ended_append hn
    obtain rfl := Option.some.inj h
    have hbefore : ended '\n' ((rows content).take n) <+: content.toList := ⟨_, htext.symm⟩
    refine ⟨byteSize_le_utf8ByteSize hbefore, isValid_iff.2 ⟨_, hbefore, rfl⟩, ?_⟩
    conv => lhs; rw [htext, afterBytes?_byteSize_append]
    rfl
  · cases h

/-- The search for a line goes through those before it. -/
theorem lineStart?_add (s : List Char) (start n k : Nat) :
    lineStart? s start (n + k) = (lineStart? s start n).bind (lineStart? s · k) := by
  induction n generalizing start with
  | zero =>
    rw [Nat.zero_add]
    rfl
  | succ n ih =>
    rw [Nat.add_right_comm, lineStart?, lineStart?]
    simp only [ih, Option.bind_eq_bind, Option.bind_assoc]

/-! ## The order of places -/

/-- More characters lead to a later line, or further on in the line. -/
theorem count_lastLine_append (s t : List Char) :
    s.count '\n' < (s ++ t).count '\n' ∨
      (s ++ t).count '\n' = s.count '\n' ∧
        (lastLine (s ++ t)).length = (lastLine s).length + t.length := by
  rw [List.count_append]
  by_cases hfeed : '\n' ∈ t
  · have hpos := List.count_pos_iff.2 hfeed
    exact .inl (by omega)
  · have hzero := List.count_eq_zero.2 hfeed
    exact .inr ⟨by omega, by rw [lastLine_append hfeed, List.length_append]⟩

/-- Starts of one content with as many bytes are one. -/
theorem eq_of_byteSize_eq {before before' : List Char} (h : before <+: content.toList)
    (h' : before' <+: content.toList) (hsize : byteSize before = byteSize before') :
    before = before' := by
  obtain ⟨after, hafter⟩ := h
  obtain ⟨after', hafter'⟩ := h'
  have hrest : afterBytes? (byteSize before) content.toList = some after := by
    rw [← hafter, afterBytes?_byteSize_append]
  rw [hsize, ← hafter', afterBytes?_byteSize_append] at hrest
  rw [Option.some.inj hrest] at hafter'
  exact List.append_cancel_right (hafter.trans hafter'.symm)

namespace IsPlace

variable {p q : Position} {o o' : Nat}

/-- **A later place is at a later position.** -/
theorem lt_position (hp : IsPlace content p o) (hq : IsPlace content q o') (h : o < o') :
    p ≤ q ∧ p ≠ q := by
  obtain ⟨before, hbefore, rfl, hline, hchar⟩ := hp.exists_before
  obtain ⟨before', hbefore', rfl, hline', hchar'⟩ := hq.exists_before
  -- of two starts of the content the one with fewer bytes starts the other
  obtain ⟨t, rfl⟩ : before <+: before' := by
    refine (List.prefix_or_prefix_of_prefix hbefore hbefore').resolve_right ?_
    rintro ⟨t, rfl⟩
    rw [byteSize_append] at h
    omega
  have hpos : 0 < t.length := by
    refine List.length_pos_iff.2 fun hnil => ?_
    rw [hnil, List.append_nil] at h
    omega
  have hmore := count_lastLine_append before t
  rw [Position.le_iff]
  refine ⟨by omega, ?_⟩
  rintro rfl
  omega

/-- A place has one position. -/
theorem position_eq (hp : IsPlace content p o) (hq : IsPlace content q o) : p = q := by
  obtain ⟨before, hbefore, rfl, hline, hchar⟩ := hp.exists_before
  obtain ⟨before', hbefore', hsize, hline', hchar'⟩ := hq.exists_before
  obtain rfl : before' = before := eq_of_byteSize_eq hbefore' hbefore hsize
  exact Position.ext (UInt32.toNat_inj.1 (by omega)) (UInt32.toNat_inj.1 (by omega))

/-- **Places come in the order of their positions**, by line and within a
line by character. -/
theorem lt_iff (hp : IsPlace content p o) (hq : IsPlace content q o') :
    o < o' ↔ p ≤ q ∧ p ≠ q := by
  refine ⟨hp.lt_position hq, ?_⟩
  rintro ⟨hle, hne⟩
  rcases Nat.lt_trichotomy o o' with h | rfl | h
  · exact h
  · exact absurd (hp.position_eq hq) hne
  · exact absurd (Position.le_antisymm hle (hq.lt_position hp h).1) hne

end IsPlace

/-- A position is nowhere when its line is not there, or is too short. -/
theorem offset?_eq_none_iff {p : Position} :
    offset? content p = none ↔ (rows content).length ≤ p.line.toNat ∨
      ∃ row, (rows content)[p.line.toNat]? = some row ∧ row.length < p.character.toNat := by
  rw [offset?_eq]
  cases hrow : (rows content)[p.line.toNat]? with
  | none => simpa using List.getElem?_eq_none_iff.1 hrow
  | some row =>
    obtain ⟨hlt, -⟩ := List.getElem?_eq_some_iff.1 hrow
    simp [Nat.not_le.2 hlt]

/-- **Offsets and counting are inverse.** For any content: a position has the
offset `o` exactly when `o` is a boundary between characters of the content,
with as many line feeds before it as the position says, and as many
characters after the last of those. On the way a text is only taken from a
boundary. A position has no offset exactly when there are too few rows, or
when its row has too few characters. Positions with one offset are one, and
offsets stand in the order of their positions. Every boundary whose two
numbers fit in 32 bits is the offset of exactly one position. -/
theorem offset?_exact (content : String) :
    (∀ p o, offset? content p = some o ↔ IsPlace content p o) ∧
    (∀ n k, lineStart? content.toList 0 (n + k) =
      (lineStart? content.toList 0 n).bind (lineStart? content.toList · k)) ∧
    (∀ n start, lineStart? content.toList 0 n = some start →
      start ≤ content.utf8ByteSize ∧ String.Pos.Raw.IsValid content ⟨start⟩ ∧
        (afterBytes? start content.toList).isSome) ∧
    (∀ p, offset? content p = none ↔ (rows content).length ≤ p.line.toNat ∨
      ∃ row, (rows content)[p.line.toNat]? = some row ∧ row.length < p.character.toNat) ∧
    (∀ p q o o', offset? content p = some o → offset? content q = some o' →
      (o = o' → p = q) ∧ (o < o' ↔ p ≤ q ∧ p ≠ q)) ∧
    ∀ o, String.Pos.Raw.IsValid content ⟨o⟩ →
      ∃ before, before <+: content.toList ∧ byteSize before = o ∧
        (before.count '\n' < UInt32.size → (lastLine before).length < UInt32.size →
          ∃! p, offset? content p = some o) := by
  have hplace : ∀ p o, offset? content p = some o ↔ IsPlace content p o := fun p o => by
    rw [offset?_eq_some_iff, isPlace_iff]
  refine ⟨hplace, lineStart?_add content.toList 0, fun n start => lineStart?_boundary,
    fun p => offset?_eq_none_iff, fun p q o o' hp hq => ?_, fun o ho => ?_⟩
  · rw [hplace] at hp hq
    refine ⟨?_, hp.lt_iff hq⟩
    rintro rfl
    exact hp.position_eq hq
  · obtain ⟨before, hbefore, rfl⟩ := isValid_iff.1 ho
    refine ⟨before, hbefore, rfl, fun hline hchar => ?_⟩
    let p : Position := ⟨.ofNat (before.count '\n'), .ofNat (lastLine before).length⟩
    have hp : IsPlace content p (byteSize before) :=
      isPlace_iff.2 ⟨before, hbefore, rfl, (UInt32.toNat_ofNat_of_lt hline).symm,
        (UInt32.toNat_ofNat_of_lt hchar).symm⟩
    refine ⟨p, (hplace p _).2 hp, fun q hq => ?_⟩
    exact ((hplace q _).1 hq).position_eq hp

/-- A line that ends in a carriage return and a line feed, and an empty line
after the last line feed: the last place of the one is between the two, and
the only place of the other is the end of the content. -/
theorem offset?_exact_breaks :
    let content := "hé\r\nb\n"
    offset? content ⟨0, 3⟩ = some 4 ∧ offset? content ⟨0, 4⟩ = none ∧
      lineStart? content.toList 0 2 = some 7 ∧ (afterBytes? 7 content.toList).isSome ∧
      offset? content ⟨2, 0⟩ = some 7 ∧ IsPlace content ⟨2, 0⟩ 7 ∧
      (⟨0, 3⟩ : Position) ≤ ⟨2, 0⟩ ∧ ∃! p, offset? content p = some 7 := by
  intro content
  obtain ⟨hplace, -, hboundary, hnone, horder, hunique⟩ := offset?_exact content
  have hfirst : offset? content ⟨0, 3⟩ = some 4 := by decide
  have hlast : offset? content ⟨2, 0⟩ = some 7 := by decide
  have hline : lineStart? content.toList 0 2 = some 7 := by decide
  have hend := (hplace _ _).1 hlast
  refine ⟨hfirst, (hnone _).2 (.inr ⟨['h', 'é', '\r'], by decide, by decide⟩), hline,
    (hboundary 2 7 hline).2.2, hlast, hend, ((horder _ _ 4 7 hfirst hlast).2.1 (by decide)).1, ?_⟩
  obtain ⟨before, hbefore, hsize, hfits⟩ := hunique 7 hend.isValid
  obtain rfl := eq_of_byteSize_eq hbefore List.prefix_rfl (hsize.trans (by decide))
  exact hfits (by decide) (by decide)

end Source

end BuildDiagnostics
