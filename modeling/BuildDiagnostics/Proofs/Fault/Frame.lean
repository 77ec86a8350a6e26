import BuildDiagnostics.Fault.Traceback
import BuildDiagnostics.Proofs.Location.Token
/-!
# Frame lines

A frame is written as an indentation, the token of a location and a
remark. The blank may stand in the indentation and in the path, so the two
could be cut in more than one place; they are not, since a path of a frame
starts with another character. Whatever the indentation and the remark,
the line is read as the location (`ofLine?_text`). Nothing else is read as
one, and the indentation, the location and the remark of a line can only be
told apart in one way (`ofLine?_exact`).
-/


namespace BuildDiagnostics

/-- A frame line, part by part. -/
structure Frame where
  /-- What stands before the location. -/
  indent : String
  /-- The place that the frame names. -/
  location : Location
  /-- What stands after the location. -/
  remark : String
  /-- The indentation is made of spaces. -/
  isSpace_indent : ∀ c ∈ indent.toList, Text.isSpace c
  /-- The location has a path as error texts write it. -/
  isPath : Location.IsPath location.path.toList
  /-- The path does not go on with the indentation. -/
  head?_path_ne : location.path.toList.head? ≠ some ' '
  /-- The remark does not go on with the column. -/
  startsOutside_remark : Text.StartsOutside Char.isDigit remark.toList

namespace Location

/-- A path is written in ASCII. -/
theorem toNat_lt_of_isPathChar {c : Char} (h : isPathChar c) : c.toNat < 128 := by
  have hbound : ∀ hi : Char, hi.toNat < 128 → c.val ≤ hi.val → c.toNat < 128 :=
    fun _ hhi hc => Nat.lt_of_le_of_lt (UInt32.le_iff_toNat_le.mp hc) hhi
  simp only [isPathChar, Bool.or_eq_true, beq_iff_eq] at h
  obtain (((((h | rfl) | rfl) | rfl) | rfl) | rfl) := h
  · have hclass : ((c.isUpper || c.isLower) || c.isDigit) = true := h
    rw [Bool.or_eq_true, Bool.or_eq_true] at hclass
    obtain ((hupper | hlower) | hdigit) := hclass
    · exact hbound 'Z' (by decide) (of_decide_eq_true hupper).2
    · exact hbound 'z' (by decide) (of_decide_eq_true (Bool.and_eq_true_iff.mp hlower).2)
    · exact hbound '9' (by decide) (of_decide_eq_true (Bool.and_eq_true_iff.mp hdigit).2)
  all_goals decide

/-- The blank is the only space that a path may hold. -/
theorem isSpace_eq_false_of_isPathChar {c : Char} (h : isPathChar c) (hc : c ≠ ' ') :
    Text.isSpace c = false := by
  have hall : ∀ n < 128, isPathChar (Char.ofNat n) → Char.ofNat n ≠ ' ' →
      Text.isSpace (Char.ofNat n) = false := by decide
  have hn := hall c.toNat (toNat_lt_of_isPathChar h)
  rw [Char.ofNat_toNat] at hn
  exact hn h hc

/-- The token of a location is on one line. -/
theorem lineFeed_not_mem_text {l : Location} (h : IsPath l.path.toList) :
    '\n' ∉ l.text.toList := by
  have hdigits : ∀ o : Ordinal, '\n' ∉ Nat.toDigits 10 o.toNat := fun o =>
    (Ordinal.IsNumeral.toDigits o).not_mem (by decide)
  rw [toList_text]
  simp only [List.mem_append, List.mem_cons, not_or]
  exact ⟨h.not_mem (by decide), by decide, hdigits l.line, by decide, hdigits l.column⟩

end Location

namespace Frame

/-- The text of a frame line. -/
def text (f : Frame) : String := f.indent ++ f.location.text ++ f.remark

/-- The text, part by part. -/
theorem toList_text (f : Frame) :
    f.text.toList = f.indent.toList ++ (f.location.text.toList ++ f.remark.toList) := by
  rw [text, String.toList_append, String.toList_append, List.append_assoc]

/-- The path does not go on with the indentation, whatever spaces that is
made of. -/
theorem startsOutside_path (f : Frame) :
    Text.StartsOutside Text.isSpace f.location.path.toList := by
  obtain ⟨c, cs, hpath⟩ := List.exists_cons_of_ne_nil f.isPath.ne_nil
  have hblank : c ≠ ' ' := by
    rintro rfl
    exact f.head?_path_ne (by rw [hpath]; rfl)
  have hchar : Location.isPathChar c := f.isPath.isPathChar c (hpath ▸ List.mem_cons_self)
  rw [hpath, Text.startsOutside_cons]
  exact Location.isSpace_eq_false_of_isPathChar hchar hblank

/-- Nor does what follows the indentation. -/
theorem startsOutside_isSpace (f : Frame) (s : List Char) :
    Text.StartsOutside Text.isSpace (f.location.text.toList ++ s) := by
  rw [Location.toList_text, List.append_assoc]
  exact f.startsOutside_path.append f.isPath.ne_nil _

/-- **The indentation is greedy**: it is all the spaces that the line starts
with. -/
theorem takeWhile_text (f : Frame) : f.text.toList.takeWhile Text.isSpace = f.indent.toList := by
  rw [toList_text, Text.takeWhile_append f.isSpace_indent (f.startsOutside_isSpace _)]

/-- After them the location is read, and the remark is left. -/
theorem read?_dropWhile_text (f : Frame) :
    Location.read? (f.text.toList.dropWhile Text.isSpace) = some (f.location, f.remark.toList) := by
  rw [toList_text, Text.dropWhile_append f.isSpace_indent (f.startsOutside_isSpace _)]
  exact Location.read?_eq_some_iff_text.2 ⟨rfl, f.isPath, f.startsOutside_remark⟩

/-- **A frame line is read as its location**, whatever stands before and
after it. -/
theorem ofLine?_text (f : Frame) : ofLine? f.text.toList = some f.location := by
  rw [ofLine?, f.read?_dropWhile_text]
  rfl

/-- **A line that is read as a location is a frame line.** The path does not
start with the blank, since what it is read from does not. -/
theorem exists_text_eq {line : String} {l : Location} (h : ofLine? line.toList = some l) :
    ∃ f : Frame, f.text = line ∧ f.location = l := by
  obtain ⟨⟨l, rest⟩, hread, rfl⟩ := Option.map_eq_some_iff.1 h
  obtain ⟨htext, hpath, hout⟩ := Location.read?_eq_some_iff_text.1 hread
  have hhead : l.path.toList.head? ≠ some ' ' := by
    intro hblank
    obtain ⟨cs, hcs⟩ := List.head?_eq_some_iff.1 hblank
    have hstart := Text.startsOutside_dropWhile Text.isSpace line.toList
    rw [htext, Location.toList_text, hcs, List.cons_append, List.cons_append,
      Text.startsOutside_cons] at hstart
    exact absurd hstart (by decide)
  refine ⟨⟨String.ofList (line.toList.takeWhile Text.isSpace), l, String.ofList rest, ?_, hpath,
    hhead, ?_⟩, String.toList_inj.1 ?_, rfl⟩
  · rw [String.toList_ofList]
    exact fun c hc => List.all_eq_true.1 List.all_takeWhile c hc
  · rwa [String.toList_ofList]
  · simp only [toList_text, String.toList_ofList]
    rw [← htext, List.takeWhile_append_dropWhile]

/-- **A line has its parts in one way.** -/
theorem text_inj {f g : Frame} (h : f.text = g.text) : f = g := by
  have hindent : f.indent = g.indent := by
    rw [← String.toList_inj, ← f.takeWhile_text, ← g.takeWhile_text, h]
  have hread := f.read?_dropWhile_text
  rw [h, g.read?_dropWhile_text] at hread
  obtain ⟨hlocation, hremark⟩ := Prod.mk.inj (Option.some.inj hread)
  cases f with
  | mk indent location remark =>
    cases g with
    | mk indent' location' remark' =>
      obtain rfl : indent = indent' := hindent
      obtain rfl : location' = location := hlocation
      obtain rfl : remark' = remark := String.toList_inj.1 hremark
      rfl

/-- Spaces before a line do not matter, be it a frame line or not. -/
theorem ofLine?_append {indent : List Char} (h : ∀ c ∈ indent, Text.isSpace c) (s : List Char) :
    ofLine? (indent ++ s) = ofLine? s := by
  rw [ofLine?, ofLine?, List.dropWhile_append_of_pos h]

/-- **Frame lines are read exactly.** A line is read as a location just when
it is a frame line with that location: spaces, the token of the location,
whose path does not start with a blank, and a remark that does not start
with a digit. These three parts are unique. The first is all the spaces
that the line starts with, so none of them goes to the path, which else is
kept as it stands there, with the blanks within it and at its end. Lines
that differ in the spaces before them are read alike, and so are frame
lines that differ in the spaces or in the remark. -/
theorem ofLine?_exact (line : String) :
    (∀ l, ofLine? line.toList = some l ↔ ∃ f : Frame, f.text = line ∧ f.location = l) ∧
    (∀ f g : Frame, f.text = line → g.text = line → f = g) ∧
    (∀ f : Frame, f.text = line → f.indent.toList = line.toList.takeWhile Text.isSpace ∧
      Text.StartsOutside Text.isSpace f.location.path.toList) ∧
    (∀ indent indent' : List Char, (∀ c ∈ indent, Text.isSpace c) →
      (∀ c ∈ indent', Text.isSpace c) →
      ofLine? (indent ++ line.toList) = ofLine? (indent' ++ line.toList)) ∧
    ∀ f g : Frame, f.text = line → g.location = f.location →
      ofLine? g.text.toList = ofLine? line.toList := by
  refine ⟨fun l => ⟨exists_text_eq, ?_⟩, ?_, ?_, ?_, ?_⟩
  · rintro ⟨f, rfl, rfl⟩
    exact f.ofLine?_text
  · intro f g hf hg
    exact text_inj (hf.trans hg.symm)
  · rintro f rfl
    exact ⟨f.takeWhile_text.symm, f.startsOutside_path⟩
  · intro indent indent' h h'
    rw [ofLine?_append h, ofLine?_append h']
  · rintro f g rfl hlocation
    rw [g.ofLine?_text, f.ofLine?_text, hlocation]

/-- A byte order mark, a tab and a blank before a path that has a blank
within it and at its end; and the same without them, with another remark. -/
theorem ofLine?_exact_blanks :
    ofLine? "\ufeff\t a b :3:14: in f 7".toList =
        some ⟨"a b ", ⟨3, by decide⟩, ⟨14, by decide⟩⟩ ∧
      ofLine? "a b :3:14".toList = ofLine? "\ufeff\t a b :3:14: in f 7".toList := by
  let l : Location := ⟨"a b ", ⟨3, by decide⟩, ⟨14, by decide⟩⟩
  let f : Frame := ⟨"\ufeff\t ", l, ": in f 7", List.all_eq_true.1 (by decide), by decide,
    by decide, by decide⟩
  let g : Frame := ⟨"", l, "", List.all_eq_true.1 (by decide), by decide, by decide, by decide⟩
  have hf : f.text = "\ufeff\t a b :3:14: in f 7" := by decide
  have hg : g.text = "a b :3:14" := by decide
  obtain ⟨hiff, -, -, -, hsame⟩ := ofLine?_exact "\ufeff\t a b :3:14: in f 7"
  refine ⟨(hiff l).2 ⟨f, hf, rfl⟩, ?_⟩
  rw [← hg]
  exact hsame f g hf rfl

/-- A frame is on one line when its indentation and its remark are. -/
theorem lineFeed_not_mem_text {f : Frame} (hindent : '\n' ∉ f.indent.toList)
    (hremark : '\n' ∉ f.remark.toList) : '\n' ∉ f.text.toList := by
  rw [toList_text]
  simp only [List.mem_append, not_or]
  exact ⟨hindent, Location.lineFeed_not_mem_text f.isPath, hremark⟩

end Frame

end BuildDiagnostics
