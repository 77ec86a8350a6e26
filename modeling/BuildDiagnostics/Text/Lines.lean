/-!
# Pieces between separators

`splitOn` cuts a list at every occurrence of a separator and drops nothing
else, so joining the pieces gives the list back (`join_splitOn`). `lines`
is the reading of a byte stream as lines: a carriage return before a line
feed belongs to the separator, and the piece after the last line feed
counts only when it holds something.
-/


namespace BuildDiagnostics

namespace Text

variable {α : Type} [DecidableEq α]

/-- The pieces of a list between the occurrences of `sep`. -/
def splitOn (sep : α) : List α → List (List α)
  | [] => [[]]
  | c :: cs =>
    if c = sep then [] :: splitOn sep cs
    else (splitOn sep cs).modifyHead (c :: ·)

/-- The pieces, one after the other, with `sep` between them. -/
def join (sep : α) : List (List α) → List α
  | [] => []
  | [p] => p
  | p :: q :: ps => p ++ sep :: join sep (q :: ps)

/-- There is always a piece. -/
theorem splitOn_ne_nil (sep : α) (s : List α) : splitOn sep s ≠ [] := by
  induction s with
  | nil => simp [splitOn]
  | cons c cs ih =>
    rw [splitOn]
    split
    · simp
    · cases h : splitOn sep cs with
      | nil => exact absurd h ih
      | cons p ps => simp

omit [DecidableEq α] in
/-- A first piece that is longer by one element joins to a list that is. -/
theorem join_modifyHead_cons (sep c : α) {ps : List (List α)} (h : ps ≠ []) :
    join sep (ps.modifyHead (c :: ·)) = c :: join sep ps := by
  match ps, h with
  | [p], _ => simp [join]
  | p :: q :: ps, _ => simp [join]

/-- **Cutting loses nothing.** The pieces, joined again, are the list. -/
theorem join_splitOn (sep : α) (s : List α) : join sep (splitOn sep s) = s := by
  induction s with
  | nil => simp [splitOn, join]
  | cons c cs ih =>
    rw [splitOn]
    split
    · next h =>
      have hne := splitOn_ne_nil sep cs
      match hs : splitOn sep cs, hne with
      | q :: ps, _ => rw [join, ← hs, ih, h, List.nil_append]
    · rw [join_modifyHead_cons sep c (splitOn_ne_nil sep cs), ih]

/-- No piece holds the separator. -/
theorem not_mem_of_mem_splitOn {sep : α} {s p : List α} (h : p ∈ splitOn sep s) : sep ∉ p := by
  induction s generalizing p with
  | nil => simp_all [splitOn]
  | cons c cs ih =>
    rw [splitOn] at h
    split at h
    · rcases List.mem_cons.1 h with rfl | h
      · simp
      · exact ih h
    · next hc =>
      match hs : splitOn sep cs, splitOn_ne_nil sep cs with
      | q :: ps, _ =>
        rw [hs, List.modifyHead_cons] at h
        rcases List.mem_cons.1 h with rfl | h
        · have hq : sep ∉ q := ih (hs ▸ List.mem_cons_self)
          simp [hq, Ne.symm hc]
        · exact ih (hs ▸ List.mem_cons_of_mem q h)

/-- A line without the carriage return that stood before its line feed. -/
def dropReturn (line : List UInt8) : List UInt8 :=
  if line.getLast? = some 13 then line.dropLast else line

/-- The pieces that a line feed ends, each without a carriage return before
it, and after them what follows the last line feed unless that is empty. -/
def endedLines : List (List UInt8) → List (List UInt8)
  | [] => []
  | [rest] => if rest = [] then [] else [rest]
  | p :: q :: ps => dropReturn p :: endedLines (q :: ps)

/-- The lines of a byte stream. -/
def lines (bytes : List UInt8) : List (List UInt8) :=
  endedLines (splitOn 10 bytes)

end Text

end BuildDiagnostics
