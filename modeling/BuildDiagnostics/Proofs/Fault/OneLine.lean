import BuildDiagnostics.Proofs.Fault.Traceback
import BuildDiagnostics.Proofs.Location.Token
/-!
# One-line errors, exactly

A text is read as a one-line error just when it has the form
`path:line:column: message` (`ofLine?_eq_some_iff`), and the form leaves
nothing open: the path ends at the first colon, the numerals are
canonical, and the message ends with the line. So writing a location and a
message gives a text that is read as these two, whatever stands on further
lines. A traceback never has the form, since its header is no location.
-/


namespace BuildDiagnostics

namespace Fault

open Text

/-- A message as a one-line error has it. -/
structure IsMessage (message : List Char) : Prop where
  /-- It is not empty. -/
  ne_nil : message ≠ []
  /-- It does not leave its line. -/
  not_isLineEnd : ∀ c ∈ message, isLineEnd c = false

instance (message : List Char) : Decidable (IsMessage message) :=
  decidable_of_iff (message ≠ [] ∧ message.all (!isLineEnd ·))
    ⟨fun h => ⟨h.1, by simpa using h.2⟩, fun h => ⟨h.1, by simpa using h.2⟩⟩

/-- A text in the form of a one-line error, and the fault it describes:
a path, two numerals and a message, and then nothing or the end of the
line. -/
def IsOneLine (s : List Char) (f : Fault) : Prop :=
  ∃ (path line column message rest : List Char) (l c : Ordinal),
    s = path ++ ':' :: (line ++ ':' :: (column ++ ':' :: ' ' :: (message ++ rest))) ∧
    Location.IsPath path ∧ l.IsNumeral line ∧ c.IsNumeral column ∧ IsMessage message ∧
    rest.head?.all isLineEnd ∧
    f = ⟨String.ofList message, [⟨String.ofList path, l, c⟩]⟩

/-- The longest message is the one that the end of its line ends. -/
theorem takeWhile_not_isLineEnd {message rest : List Char} (hm : IsMessage message)
    (hrest : rest.head?.all isLineEnd) :
    (message ++ rest).takeWhile (!isLineEnd ·) = message := by
  refine takeWhile_append (fun c hc => ?_) ?_
  · rw [hm.not_isLineEnd c hc]
    rfl
  · simpa [StartsOutside] using hrest

/-- **A one-line error is read where its form is.** -/
theorem ofLine?_eq_some_iff {s : List Char} {f : Fault} :
    ofLine? s = some f ↔ IsOneLine s f := by
  constructor
  · intro h
    simp only [ofLine?, Option.bind_eq_bind, Option.bind_eq_some_iff, after?_eq_some_iff] at h
    obtain ⟨⟨location, s₁⟩, hl, s₂, h₁, h⟩ := h
    obtain ⟨line, column, rfl, hpath, hline, hcolumn, -⟩ := Location.read?_eq_some_iff.1 hl
    split at h
    · cases h
    · next hne =>
      -- the message is the longest run, and what it leaves is the end of the line
      obtain ⟨hs, hrun, hout⟩ := takeWhile_and_dropWhile_iff.1
        (⟨rfl, rfl⟩ : s₂.takeWhile (!isLineEnd ·) = _ ∧ s₂.dropWhile (!isLineEnd ·) = _)
      refine ⟨location.path.toList, line, column, _, s₂.dropWhile (!isLineEnd ·), location.line,
        location.column, ?_, hpath, hline, hcolumn, ⟨hne, fun c hc => ?_⟩, ?_, ?_⟩
      · rw [← hs]
        simp only at h₁
        rw [h₁]
        rfl
      · simpa using hrun c hc
      · simpa [StartsOutside] using hout
      · rw [String.ofList_toList]
        exact (Option.some.inj h).symm
  · rintro ⟨path, line, column, message, rest, l, c, rfl, hpath, hline, hcolumn, hm, hrest, rfl⟩
    have hread : Location.read? (path ++ ':' :: (line ++ ':' :: (column ++
        ':' :: ' ' :: (message ++ rest)))) =
          some (⟨String.ofList path, l, c⟩, ':' :: ' ' :: (message ++ rest)) := by
      refine Location.read?_eq_some_iff.2 ⟨line, column, ?_, ?_, hline, hcolumn, ?_⟩
      · rw [String.toList_ofList]
      · rw [String.toList_ofList]
        exact hpath
      · rw [startsOutside_cons]
        decide
    have hafter : after? [':', ' '] (':' :: ' ' :: (message ++ rest)) = some (message ++ rest) :=
      after?_eq_some_iff.2 rfl
    simp only [ofLine?, hread, Option.bind_eq_bind, Option.bind_some, hafter,
      takeWhile_not_isLineEnd hm hrest, if_neg hm.ne_nil]

/-- A text in the form of a one-line error is not the start of a traceback. -/
theorem IsOneLine.not_header {s : List Char} {f : Fault} (h : IsOneLine s f) :
    ¬ Traceback.header <+: s := by
  rintro ⟨t, rfl⟩
  have hread := ofLine?_eq_some_iff.2 h
  rw [Traceback.ofLine?_header_append] at hread
  cases hread

/-- What a text is read as that is not empty and no traceback. -/
theorem ofText?_of_not_header {text : String} (hne : text ≠ "")
    (h : ¬ Traceback.header <+: text.toList) :
    ofText? text = some ((ofLine? text.toList).getD .empty) := by
  have hp : ¬ Traceback.header.isPrefixOf text.toList = true :=
    fun hp => h (List.isPrefixOf_iff_prefix.1 hp)
  rw [ofText?, if_neg hne, read, if_neg hp]

/-- The form that a location and a message are written in. -/
theorem isOneLine_text (l : Location) (message rest : String)
    (hpath : Location.IsPath l.path.toList) (hm : IsMessage message.toList)
    (hrest : rest.toList.head?.all isLineEnd) :
    IsOneLine (l.text ++ ": " ++ message ++ rest).toList ⟨message, [l]⟩ := by
  refine ⟨l.path.toList, _, _, message.toList, rest.toList, l.line, l.column, ?_, hpath,
    .toDigits l.line, .toDigits l.column, hm, hrest, ?_⟩
  · have hsep : (": " : String).toList = [':', ' '] := rfl
    simp only [String.toList_append, Location.toList_text, hsep, List.append_assoc,
      List.cons_append, List.nil_append]
  · rw [String.ofList_toList, String.ofList_toList]

/-- A text in the form is not empty. -/
theorem IsOneLine.ne_nil {s : List Char} {f : Fault} (h : IsOneLine s f) : s ≠ [] := by
  obtain ⟨path, line, column, message, rest, l, c, rfl, -⟩ := h
  simp

/-- A text in the form is read as the fault it describes. -/
theorem IsOneLine.ofText? {text : String} {f : Fault} (h : IsOneLine text.toList f) :
    ofText? text = some f := by
  have hne : text ≠ "" := by
    rintro rfl
    exact h.ne_nil rfl
  rw [ofText?_of_not_header hne h.not_header, ofLine?_eq_some_iff.2 h, Option.getD_some]

/-- **One-line errors are read exactly, and written back.** First, a text
that is neither empty nor a traceback is read as the fault it describes
when it has the form of a one-line error, and as the empty fault when it
has not. Second, any location with a path, any message of one line and
anything that the end of the line starts, written one after the other, are
no traceback and are read as that message at that location. Third, what is
read from a text that is no traceback, when it is not the empty fault, is
one location with a message, and these two written again are read as the
same. -/
theorem ofText?_oneLine_exact :
    (∀ text : String, text ≠ "" → ¬ Traceback.header <+: text.toList →
      (∀ f, IsOneLine text.toList f → ofText? text = some f) ∧
      ((∀ f, ¬ IsOneLine text.toList f) → ofText? text = some .empty)) ∧
    (∀ (l : Location) (message rest : String), Location.IsPath l.path.toList →
      IsMessage message.toList → rest.toList.head?.all isLineEnd →
      ¬ Traceback.header <+: (l.text ++ ": " ++ message ++ rest).toList ∧
      ofText? (l.text ++ ": " ++ message ++ rest) = some ⟨message, [l]⟩) ∧
    (∀ (text : String) (f : Fault), ¬ Traceback.header <+: text.toList →
      ofText? text = some f → f ≠ .empty →
      ∃ l, f.locations = [l] ∧ ofText? (l.text ++ ": " ++ f.message) = some f) := by
  refine ⟨fun text hne hh => ⟨fun f hf => hf.ofText?, fun hno => ?_⟩, ?_, ?_⟩
  · cases h : ofLine? text.toList with
    | none => rw [ofText?_of_not_header hne hh, h, Option.getD_none]
    | some f => exact absurd (ofLine?_eq_some_iff.1 h) (hno f)
  · intro l message rest hpath hm hrest
    have hform := isOneLine_text l message rest hpath hm hrest
    exact ⟨hform.not_header, hform.ofText?⟩
  · intro text f hh hf hne
    have htext : text ≠ "" := by
      rintro rfl
      cases hf
    rw [ofText?_of_not_header htext hh] at hf
    cases h : ofLine? text.toList with
    | none =>
      rw [h] at hf
      exact absurd (Option.some.inj hf).symm hne
    | some g =>
      rw [h] at hf
      obtain rfl : g = f := Option.some.inj hf
      -- what was read has a path and a message of the right form, so it can be written again
      obtain ⟨path, line, column, message, rest, l, c, -, hpath, -, -, hm, -, rfl⟩ :=
        ofLine?_eq_some_iff.1 h
      refine ⟨⟨String.ofList path, l, c⟩, rfl, ?_⟩
      have hform := isOneLine_text ⟨String.ofList path, l, c⟩ (String.ofList message) ""
        (by rw [String.toList_ofList]; exact hpath)
        (by rw [String.toList_ofList]; exact hm) rfl
      rw [String.append_empty] at hform
      exact hform.ofText?

/-- A blank within the path, the largest column, and a second line. -/
theorem ofText?_largest_column :
    ¬ Traceback.header <+: ("a b:1:4294967295: é: x\ny" : String).toList ∧
      ofText? "a b:1:4294967295: é: x\ny" =
        some ⟨"é: x", [⟨"a b", ⟨1, by decide⟩, ⟨4294967295, by decide⟩⟩]⟩ := by
  have h := ofText?_oneLine_exact.2.1 ⟨"a b", ⟨1, by decide⟩, ⟨4294967295, by decide⟩⟩ "é: x" "\ny"
    (by decide) (by decide) (by decide)
  have htext : Location.text ⟨"a b", ⟨1, by decide⟩, ⟨4294967295, by decide⟩⟩ ++ ": " ++ "é: x" ++
      "\ny" = "a b:1:4294967295: é: x\ny" := by decide
  rwa [htext] at h

end Fault

end BuildDiagnostics
