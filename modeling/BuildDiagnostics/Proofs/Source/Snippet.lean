import BuildDiagnostics.Proofs.Source.Place
import BuildDiagnostics.Source.Snippet
/-!
# Where a diagnostic is shown

A reader finds the place of a diagnostic once: at the label of a snippet,
when the content of the file has the place, and in the help text otherwise
(`located_once`). Both show the numbers of the error text, though the
diagnostic keeps them counted from zero (`place_ofLocation`), and the label
stands where counting in the content leads to the same numbers.
-/


namespace BuildDiagnostics

open Text

/-- A content has the line of a location, and before its column there are
characters enough. -/
def Location.IsIn (l : Location) (content : String) : Prop :=
  ∃ row, (Source.rows content)[l.line.toNat - 1]? = some row ∧ l.column.toNat - 1 ≤ row.length

/-- **The place is shown in the numbers of the error text.** -/
theorem Diagnostic.place_ofLocation (labels : Labels) (message : String) (l : Location) :
    (ofLocation labels message l).place = l.text := by
  rw [place, ofLocation, Range.start_point, Location.position, Ordinal.index_succ,
    Ordinal.index_succ]
  rfl

namespace Location

variable {l : Location} {content : String}

/-- **A location is in a content when the search finds it.** -/
theorem isIn_iff : l.IsIn content ↔ (Source.offset? content l.position).isSome := by
  rw [Source.offset?_eq, position, Ordinal.toNat_index, Ordinal.toNat_index, IsIn]
  cases (Source.rows content)[l.line.toNat - 1]? with
  | none => simp
  | some row => simp

end Location

namespace Annotated

variable {a : Annotated} {content : String}

/-- A content that has the place is shown, and where the place is in it. -/
theorem exhibit_of_some {o : Nat} (hcontent : a.content = some content)
    (h : Source.offset? content a.diagnostic.range.start = some o) :
    a.exhibit = ⟨a.diagnostic, some content, some o⟩ := by
  rw [exhibit, hcontent, Option.bind_some, h]

/-- Any other is not kept. -/
theorem exhibit_of_none (h : ∀ content, a.content = some content →
    Source.offset? content a.diagnostic.range.start = none) :
    a.exhibit = ⟨a.diagnostic, none, none⟩ := by
  have hnone : (a.content.bind fun content =>
      Source.offset? content a.diagnostic.range.start) = none :=
    Option.bind_eq_none_iff.2 h
  rw [exhibit, hnone]

/-- **A place is shown once**, in the numbers of the error text. For any
location, message and labels, and whether or not the file could be read:
when its content has the place there is a snippet of it and no help, and the
snippet has one mark, the main one, which covers nothing and says the
location. It stands at a boundary in the content, on the line of the
location and in its column when both are counted from one in the content.
In any other case there is neither snippet nor mark, and the help says the
location. Counting from zero and from one again leaves no number out of
range on the way. -/
theorem located_once (labels : Labels) (message : String) (l : Location)
    (content : Option String) :
    let a : Annotated := ⟨.ofLocation labels message l, content⟩
    (∀ text, content = some text → l.IsIn text →
      a.hasSnippet = true ∧ a.sourceCode = some text ∧ a.help = none ∧
      ∃ offset before, a.labels = some [⟨offset, 0, l.text, true⟩] ∧
        before <+: text.toList ∧ byteSize before = offset ∧
        offset ≤ text.utf8ByteSize ∧ String.Pos.Raw.IsValid text ⟨offset⟩ ∧
        before.count '\n' + 1 = l.line.toNat ∧
        (Source.lastLine before).length + 1 = l.column.toNat) ∧
    ((∀ text, content = some text → ¬ l.IsIn text) →
      a.hasSnippet = false ∧ a.sourceCode = none ∧ a.labels = none ∧
        a.help = some ("reported at " ++ l.text)) ∧
    let start := a.diagnostic.range.start
    (start.line.toNat + 1 = l.line.toNat ∧ (start.line + 1).toNat = l.line.toNat) ∧
      start.character.toNat + 1 = l.column.toNat ∧
        (start.character + 1).toNat = l.column.toNat := by
  intro a
  have hstart : a.diagnostic.range.start = l.position := Range.start_point l.position
  have hplace : a.diagnostic.place = l.text := Diagnostic.place_ofLocation labels message l
  refine ⟨fun text htext hin => ?_, fun hout => ?_, ?_⟩
  · obtain ⟨o, ho⟩ := Option.isSome_iff_exists.1 (Location.isIn_iff.1 hin)
    have hexhibit : a.exhibit = ⟨a.diagnostic, some text, some o⟩ :=
      exhibit_of_some htext (by rw [hstart, ho])
    have hlabels : a.labels = some [⟨o, 0, l.text, true⟩] := by
      rw [Annotated.labels, hexhibit, ← hplace]
      rfl
    obtain ⟨before, hbefore, hsize, hline, hchar⟩ := Source.offset?_eq_some_iff.1 ho
    refine ⟨by rw [hasSnippet, hexhibit]; rfl, by rw [sourceCode, hexhibit],
      by rw [help, hexhibit]; rfl, o, before, hlabels, hbefore, hsize, ?_, ?_, ?_, ?_⟩
    · exact hsize ▸ Source.byteSize_le_utf8ByteSize hbefore
    · exact Source.isValid_iff.2 ⟨before, hbefore, hsize⟩
    · rw [hline]
      exact l.line.index_add_one
    · rw [hchar]
      exact l.column.index_add_one
  · have hexhibit : a.exhibit = ⟨a.diagnostic, none, none⟩ := by
      refine exhibit_of_none fun text htext => ?_
      rw [hstart, ← Option.not_isSome_iff_eq_none, ← Location.isIn_iff]
      exact hout text htext
    refine ⟨by rw [hasSnippet, hexhibit]; rfl, by rw [sourceCode, hexhibit],
      by rw [Annotated.labels, hexhibit]; rfl, ?_⟩
    rw [help, hexhibit, ← hplace]
    rfl
  · intro start
    rw [show start = l.position from hstart]
    have hback : ∀ o : Ordinal, (o.index + 1).toNat = o.toNat := fun o =>
      congrArg UInt32.toNat o.index_succ
    exact ⟨⟨l.line.index_add_one, hback l.line⟩, l.column.index_add_one, hback l.column⟩

/-- A place after a character of two bytes, and one with the largest numbers
that there are. -/
theorem located_once_largest :
    let near : Location := ⟨"a", ⟨2, by decide⟩, ⟨2, by decide⟩⟩
    let far : Location := ⟨"a", ⟨4294967295, by decide⟩, ⟨4294967295, by decide⟩⟩
    let a (l : Location) : Annotated := ⟨.ofLocation {} "boom" l, some "\né\n"⟩
    near.IsIn "\né\n" ∧ ¬ far.IsIn "\né\n" ∧
      (∃ offset, (a near).labels = some [⟨offset, 0, "a:2:2", true⟩]) ∧ (a near).help = none ∧
      (a far).labels = none ∧ (a far).help = some "reported at a:4294967295:4294967295" ∧
      ((a far).diagnostic.range.start.line + 1).toNat = 4294967295 := by
  intro near far a
  have hin : near.IsIn "\né\n" := ⟨['é'], by decide, by decide⟩
  have hout : ¬ far.IsIn "\né\n" := by
    rintro ⟨row, hrow, -⟩
    have hnone : (Source.rows "\né\n")[far.line.toNat - 1]? = none := by decide
    rw [hnone] at hrow
    cases hrow
  obtain ⟨hnear, -, -⟩ := located_once {} "boom" near (some "\né\n")
  obtain ⟨-, hfar, ⟨-, hline⟩, -⟩ := located_once {} "boom" far (some "\né\n")
  obtain ⟨-, -, hhelp, offset, -, hlabels, -⟩ := hnear _ rfl hin
  obtain ⟨-, -, hnolabels, hadvice⟩ := hfar fun text htext => Option.some.inj htext ▸ hout
  have htext : near.text = "a:2:2" := by decide
  rw [htext] at hlabels
  exact ⟨hin, hout, ⟨offset, hlabels⟩, hhelp, hnolabels, hadvice.trans (by decide), hline⟩

end Annotated

end BuildDiagnostics
