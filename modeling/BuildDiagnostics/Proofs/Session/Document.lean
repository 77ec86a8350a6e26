import BuildDiagnostics.Proofs.Json.Escape
import BuildDiagnostics.Proofs.Json.Grammar
import BuildDiagnostics.Proofs.Session.History
import BuildDiagnostics.Proofs.Session.Members
/-!
# The document of an error text

The plainest document with an error text is the object that has it as its
only member, in one line and without blanks. It is read back as that text
(`decode_document`), whatever characters the text has, and a session that
takes it as a line has the diagnostics of the text and no others
(`step_document`).
-/


namespace BuildDiagnostics

namespace Session

open Json

/-- The document with an error text and nothing else. -/
def document (error : String) : String :=
  "\x7b\"error\":" ++ String.ofList (quote error) ++ "\x7d"

/-- A document, character by character. -/
theorem toList_document (error : String) :
    (document error).toList = '\x7b' :: (quote errorKey ++ ':' :: (quote error ++ ['\x7d'])) := by
  simp only [document, String.toList_append, String.toList_ofList, List.append_assoc]
  rfl

/-! ## Reading it -/

/-- A quoted string is read where an optional one is expected. -/
theorem readOptional_quote_append (error : String) (rest : List Char) :
    readOptional (quote error ++ rest) = .ok (some error, rest) := by
  rw [quote_append, readOptional, dropBlanks_cons (by decide)]
  simp only [readString_flatMap_escapeChar, Except.map, String.ofList_toList]

/-- The members of a document, from within the key. -/
theorem readMembers_document (error : String) (rest : List Char) :
    readMembers none (errorKey.toList.flatMap escapeChar ++
      '"' :: ':' :: (quote error ++ '\x7d' :: rest)) = .ok (some (some error), rest) := by
  have hkey : String.ofList errorKey.toList = errorKey := String.ofList_toList
  have hfirst : ¬ (String.ofList errorKey.toList = errorKey ∧
      (none : Option (Option String)).isSome) := fun h => Bool.false_ne_true h.2
  have hcolon : readColon (':' :: (quote error ++ '\x7d' :: rest)) =
      .ok (quote error ++ '\x7d' :: rest) := by
    rw [readColon, dropBlanks_cons (by decide)]
    rfl
  have hvalue : readMemberValue (String.ofList errorKey.toList = errorKey) none
      (quote error ++ '\x7d' :: rest) = .ok (some (some error), '\x7d' :: rest) := by
    rw [readMemberValue, if_pos (decide_eq_true hkey), readOptional_quote_append]
    rfl
  exact readMembers_of_last (readString_flatMap_escapeChar _ _) hfirst hcolon hvalue
    (dropBlanks_cons (by decide) rest)

/-- **A document is read as its error text.** -/
theorem decode_document (error : String) : decode (document error) = .ok (some error) := by
  have hterminated : readTerminated (document error).toList = .ok (some error, []) := by
    rw [toList_document, quote_append, readTerminated, dropBlanks_cons (by decide)]
    simp only [readObject]
    rw [dropBlanks_cons (by decide)]
    simp only [readMembers_document, Except.map, Option.join_some]
  simp only [decode, readDocument, hterminated, bind, Except.bind]
  rfl

/-! ## Taking it as a line -/

/-- A document starts and ends with a brace, so nothing is trimmed. -/
theorem trim_document (error : String) : Text.trim (document error) = document error := by
  have hchars : (document error).toList =
      '\x7b' :: (quote errorKey ++ ':' :: quote error) ++ ['\x7d'] := by
    rw [toList_document]
    simp only [List.cons_append, List.append_assoc]
  have hstart : Text.StartsOutside Text.isWhite (document error).toList := by
    rw [hchars]
    exact Text.startsOutside_cons.2 (by decide)
  have hend : Text.StartsOutside Text.isWhite (document error).toList.reverse := by
    rw [hchars, List.reverse_append]
    exact Text.startsOutside_cons.2 (by decide)
  rw [Text.trim, Text.strip_eq_self hstart hend, String.ofList_toList]

theorem document_ne_empty (error : String) : document error ≠ "" := by
  intro h
  have hnil : (document error).toList = [] := by rw [h]; rfl
  rw [toList_document] at hnil
  cases hnil

/-- **A document as a line** replaces the diagnostics by those of its error
text. -/
theorem step_document (s : Session) (error : String) :
    s.step (document error) =
      (.replaced, { s with lineCount := s.lineCount + 1 }.replace (some error)) := by
  have hne : Text.trim (document error) ≠ "" := by
    rw [trim_document]
    exact document_ne_empty error
  refine step_of_ok hne ?_
  rw [trim_document, decode_document]

/-- A document is on one line. -/
theorem lineFeed_not_mem_document (error : String) : '\n' ∉ (document error).toList := by
  rw [toList_document]
  intro h
  have hquote : ∀ s : String, '\n' ∉ quote s := fun s hs => not_lt_of_mem_quote hs (by decide)
  simp only [List.mem_cons, List.mem_append, List.not_mem_nil, or_false] at h
  rcases h with h | h | h | h | h
  · cases h
  · exact hquote _ h
  · cases h
  · exact hquote _ h
  · cases h

end Session

end BuildDiagnostics
