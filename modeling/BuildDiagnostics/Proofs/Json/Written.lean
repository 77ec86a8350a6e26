import BuildDiagnostics.Proofs.Json.Escape
import BuildDiagnostics.Proofs.Json.Unique
/-!
# What reports write is JSON

The text of a report's value is a well-formed JSON text, and it stands for
that value (`document_iff`): the digits of its numbers, the characters of
its strings, its items and its members in their order, and nothing else.
It holds no character below the blank (`not_lt_of_mem_chars`), so it is on
one line.
-/


namespace BuildDiagnostics

namespace Json

namespace Value

/-! ## The value of a text -/

mutual

/-- A value of a report as its text gives it. -/
def datum : Value → Datum
  | number n => .number ⟨false, Nat.toDigits 10 n, none, none⟩
  | string s => .string (some s)
  | array items => .array (itemData items)
  | object members => .object (memberData members)

/-- The items of an array. -/
def itemData : List Value → List Datum
  | [] => []
  | v :: vs => datum v :: itemData vs

/-- The members of an object. -/
def memberData : List (String × Value) → List (Option String × Datum)
  | [] => []
  | (k, v) :: ms => (some k, datum v) :: memberData ms

end

/-- A key with its colon and the value after it. -/
theorem memberAt_quote_append {s r : List Char} {v : Datum} (key : String)
    (h : ElementAt s v r) : MemberAt (quote key ++ ':' :: s) (some key, v) r := by
  have hkey := stringAt_flatMap_escapeChar key.toList (':' :: s)
  have hmember := MemberAt.mk .none hkey .none h
  rw [Option.map_some, String.ofList_toList] at hmember
  rw [quote_append]
  exact hmember

mutual

/-- **The text of a value stands for it**, whatever follows. -/
theorem valueAt_chars (v : Value) (r : List Char) : ValueAt (v.chars ++ r) v.datum r := by
  cases v with
  | number n =>
    rw [chars, datum]
    exact .number (Numeral.numberAt_toDigits n r)
  | string s =>
    have hstring := ValueAt.string (stringAt_flatMap_escapeChar s.toList r)
    rw [Option.map_some, String.ofList_toList] at hstring
    rw [chars, datum, quote_append]
    exact hstring
  | array items =>
    cases items with
    | nil => exact .emptyArray .none
    | cons v vs =>
      rw [chars, datum, List.cons_append, List.cons_append, List.append_assoc,
        List.singleton_append]
      exact .array (itemsAt_itemChars v vs r)
  | object members =>
    cases members with
    | nil => exact .emptyObject .none
    | cons m ms =>
      rw [chars, datum, List.cons_append, List.cons_append, List.append_assoc,
        List.singleton_append]
      exact .object (membersAt_memberChars m ms r)
termination_by sizeOf v

theorem itemsAt_itemChars (v : Value) (vs : List Value) (r : List Char) :
    ItemsAt (itemChars (v :: vs) ++ ']' :: r) (itemData (v :: vs)) r := by
  cases vs with
  | nil => exact .last (.mk .none (valueAt_chars v _) .none)
  | cons w ws =>
    rw [itemChars, itemData, List.append_assoc, List.cons_append]
    exact .more (.mk .none (valueAt_chars v _) .none) (itemsAt_itemChars w ws r)
termination_by sizeOf (v :: vs)

theorem membersAt_memberChars (m : String × Value) (ms : List (String × Value))
    (r : List Char) :
    MembersAt (memberChars (m :: ms) ++ '\x7d' :: r) (memberData (m :: ms)) r := by
  obtain ⟨k, v⟩ := m
  cases ms with
  | nil =>
    rw [memberChars, memberData, List.append_assoc, List.cons_append]
    exact .last (memberAt_quote_append k (.mk .none (valueAt_chars v _) .none))
  | cons m ms =>
    rw [memberChars, memberData, List.append_assoc, List.cons_append, List.append_assoc,
      List.cons_append]
    exact .more (memberAt_quote_append k (.mk .none (valueAt_chars v _) .none))
      (membersAt_memberChars m ms r)
termination_by sizeOf (m :: ms)

end

theorem document_chars (v : Value) : Document v.chars v.datum := by
  have h := valueAt_chars v []
  rw [List.append_nil] at h
  exact .mk .none h .none

/-- **The text of a value stands for it and for nothing else.** -/
theorem document_iff {v : Value} {t : Datum} : Document v.render.toList t ↔ t = v.datum := by
  rw [render, String.toList_ofList]
  constructor
  · exact fun h => h.unique (document_chars v)
  · rintro rfl
    exact document_chars v

/-! ## What a text holds -/

/-- A digit is no control character. -/
theorem not_lt_of_isDigit {c : Char} (h : c.isDigit) : ¬ c < ' ' := by
  obtain ⟨d, hd, rfl⟩ := Ordinal.exists_digitChar h
  exact not_digitChar_lt d (by omega)

mutual

/-- **A text is on one line.** It has no control character. -/
theorem not_lt_of_mem_chars {v : Value} {c : Char} (h : c ∈ v.chars) : ¬ c < ' ' := by
  cases v with
  | number n =>
    rw [chars] at h
    exact not_lt_of_isDigit (Nat.isDigit_of_mem_toDigits (by decide) (by decide) h)
  | string s =>
    rw [chars] at h
    exact not_lt_of_mem_quote h
  | array items =>
    rw [chars, List.cons_append, List.mem_cons, List.mem_append, List.mem_singleton] at h
    rcases h with rfl | h | rfl
    · decide
    · exact not_lt_of_mem_itemChars h
    · decide
  | object members =>
    rw [chars, List.cons_append, List.mem_cons, List.mem_append, List.mem_singleton] at h
    rcases h with rfl | h | rfl
    · decide
    · exact not_lt_of_mem_memberChars h
    · decide
termination_by sizeOf v

theorem not_lt_of_mem_itemChars {vs : List Value} {c : Char} (h : c ∈ itemChars vs) :
    ¬ c < ' ' := by
  match vs with
  | [] => cases h
  | [v] => exact not_lt_of_mem_chars h
  | v :: w :: ws =>
    rw [itemChars, List.mem_append, List.mem_cons] at h
    rcases h with h | rfl | h
    · exact not_lt_of_mem_chars h
    · decide
    · exact not_lt_of_mem_itemChars h
termination_by sizeOf vs

theorem not_lt_of_mem_memberChars {ms : List (String × Value)} {c : Char}
    (h : c ∈ memberChars ms) : ¬ c < ' ' := by
  match ms with
  | [] => cases h
  | [(k, v)] =>
    rw [memberChars, List.mem_append, List.mem_cons] at h
    rcases h with h | rfl | h
    · exact not_lt_of_mem_quote h
    · decide
    · exact not_lt_of_mem_chars h
  | (k, v) :: m :: ms =>
    rw [memberChars, List.mem_append, List.mem_cons, List.mem_append, List.mem_cons] at h
    rcases h with h | rfl | h | rfl | h
    · exact not_lt_of_mem_quote h
    · decide
    · exact not_lt_of_mem_chars h
    · decide
    · exact not_lt_of_mem_memberChars h
termination_by sizeOf ms

end

end Value

end Json

end BuildDiagnostics
