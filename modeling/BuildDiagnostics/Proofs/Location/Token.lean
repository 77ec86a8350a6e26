import BuildDiagnostics.Location.Token
import BuildDiagnostics.Proofs.Text.Runs
/-!
# Location tokens, exactly

A token `path:line:column` is read from the start of a text just when it
stands there. Each of its three runs is the longest of its class: a path
holds no colon, and a number is not followed by another digit. So a text
has at most one such token (`read?_eq_some_iff`), and it is the one that
`Location.text` writes (`read?_eq_some_iff_text`), since a count has one
numeral without a leading zero (`IsNumeral.eq_toDigits`). A number that is
too large for a count leaves no token, however its digits could be cut
(`read?_exact`).
-/


namespace BuildDiagnostics

/-! ## Numerals -/

namespace Ordinal

/-- A decimal numeral without leading zero, and the count it stands for. -/
structure IsNumeral (o : Ordinal) (digits : List Char) : Prop where
  /-- It has digits only. -/
  isDigit : ∀ c ∈ digits, c.isDigit
  /-- The first is not zero. -/
  head_ne_zero : digits.head? ≠ some '0'
  /-- Their value is the count. -/
  value : Nat.ofDigitChars 10 digits 0 = o.toNat

/-- A digit is written for a number below ten. -/
theorem exists_digitChar {c : Char} (h : c.isDigit) : ∃ d < 10, Nat.digitChar d = c := by
  simp only [Char.isDigit, Bool.and_eq_true, decide_eq_true_eq, ge_iff_le,
    UInt32.le_iff_toNat_le] at h
  have hlow : 48 ≤ c.toNat := h.1
  have hhigh : c.toNat ≤ 57 := h.2
  refine ⟨c.toNat - 48, by omega, Char.toNat_inj.1 ?_⟩
  rw [Nat.toNat_digitChar_of_lt_ten (by omega)]
  omega

/-- The digits of a number, and then some more, are the digits of what all
of them stand for. -/
theorem toDigits_append {ds : List Char} (hds : ∀ c ∈ ds, c.isDigit) {n : Nat} (hn : 0 < n) :
    Nat.toDigits 10 n ++ ds = Nat.toDigits 10 (Nat.ofDigitChars 10 ds n) := by
  -- on the digits, from any number before them: each is one more place of that number
  induction ds generalizing n with
  | nil => rw [List.append_nil, Nat.ofDigitChars_nil]
  | cons c ds ih =>
    obtain ⟨d, hd, rfl⟩ := exists_digitChar (hds c List.mem_cons_self)
    have hrest : ∀ e ∈ ds, e.isDigit := fun e he => hds e (List.mem_cons_of_mem _ he)
    calc Nat.toDigits 10 n ++ Nat.digitChar d :: ds
        = Nat.toDigits 10 n ++ Nat.toDigits 10 d ++ ds := by
          rw [Nat.toDigits_of_lt_base hd, List.append_assoc, List.singleton_append]
      _ = Nat.toDigits 10 (10 * n + d) ++ ds := by
          rw [Nat.toDigits_append_toDigits (by decide) hn hd]
      _ = Nat.toDigits 10 (Nat.ofDigitChars 10 ds (10 * n + d)) := ih hrest (by omega)
      _ = Nat.toDigits 10 (Nat.ofDigitChars 10 (Nat.digitChar d :: ds) n) := by
          rw [Nat.ofDigitChars_cons_digitChar_of_lt_ten hd]

/-- The digits of a number other than zero do not start with zero. -/
theorem head?_toDigits_ne (n : Nat) (hn : 0 < n) : (Nat.toDigits 10 n).head? ≠ some '0' := by
  induction n using Nat.strongRecOn with
  | ind n ih =>
    rcases Nat.lt_or_ge n 10 with hlt | hge
    · rw [Nat.toDigits_of_lt_base hlt, List.head?_cons]
      intro h
      have := Nat.digitChar_eq_zero.1 (Option.some.inj h)
      omega
    · have hhead := ih (n / 10) (by omega) (by omega)
      obtain ⟨c, cs, hc⟩ := List.exists_cons_of_ne_nil (Nat.toDigits_ne_nil (n := n / 10) (b := 10))
      rw [hc] at hhead
      rw [Nat.toDigits_of_base_le (by decide) hge, hc]
      exact hhead

namespace IsNumeral

variable {ds : List Char} {o p : Ordinal}

/-- Every count has a numeral. -/
theorem toDigits (o : Ordinal) : o.IsNumeral (Nat.toDigits 10 o.toNat) where
  isDigit _ hc := Nat.isDigit_of_mem_toDigits (by decide) (by decide) hc
  head_ne_zero := head?_toDigits_ne _ o.one_le_toNat
  value := Nat.ofDigitChars_ten_toDigits

/-- **And it has no other.** -/
theorem eq_toDigits (h : o.IsNumeral ds) : ds = Nat.toDigits 10 o.toNat := by
  have hpos := o.one_le_toNat
  cases ds with
  | nil =>
    have := h.value
    rw [Nat.ofDigitChars_nil] at this
    omega
  | cons c cs =>
    -- the first digit is a number other than zero, which is what the others are added to
    obtain ⟨d, hd, rfl⟩ := exists_digitChar (h.isDigit c List.mem_cons_self)
    have hd0 : 0 < d := by
      refine Nat.pos_of_ne_zero fun h0 => h.head_ne_zero ?_
      rw [h0]
      rfl
    have hrest : ∀ e ∈ cs, e.isDigit := fun e he => h.isDigit e (List.mem_cons_of_mem _ he)
    have hvalue := h.value
    rw [Nat.ofDigitChars_cons_digitChar_of_lt_ten hd, Nat.mul_zero, Nat.zero_add] at hvalue
    rw [← hvalue, ← toDigits_append hrest hd0, Nat.toDigits_of_lt_base hd, List.singleton_append]

/-- A numeral is not empty. -/
theorem ne_nil (h : o.IsNumeral ds) : ds ≠ [] := by
  rw [h.eq_toDigits]
  exact Nat.toDigits_ne_nil

/-- What is no digit is not in a numeral. -/
theorem not_mem (h : o.IsNumeral ds) {c : Char} (hc : c.isDigit = false) : c ∉ ds := fun hmem =>
  Bool.eq_false_iff.1 hc (h.isDigit c hmem)

end IsNumeral

/-- **A count is read where its numeral stands** and no digit follows. -/
theorem read?_eq_some_iff {s rest : List Char} {o : Ordinal} :
    read? s = some (o, rest) ↔ ∃ digits, s = digits ++ rest ∧ o.IsNumeral digits ∧
      Text.StartsOutside Char.isDigit rest := by
  constructor
  · intro h
    simp only [read?] at h
    split at h
    · cases h
    · next hne =>
      obtain ⟨n, hn, he⟩ := Option.map_eq_some_iff.1 h
      obtain ⟨rfl, rfl⟩ := Prod.mk.inj he
      obtain ⟨hs, hrun, hout⟩ := Text.takeWhile_and_dropWhile_iff.1
        (⟨rfl, rfl⟩ : s.takeWhile Char.isDigit = _ ∧ s.dropWhile Char.isDigit = _)
      refine ⟨s.takeWhile Char.isDigit, hs, ⟨hrun, ?_, ?_⟩, hout⟩
      · exact fun h0 => hne (.inr h0)
      · exact (ofNat?_eq_some_iff.1 hn).symm
  · rintro ⟨digits, rfl, hnum, hout⟩
    have htake := Text.takeWhile_append hnum.isDigit hout
    have hdrop := Text.dropWhile_append hnum.isDigit hout
    have hok : ¬ (digits = [] ∨ digits.head? = some '0') := by
      rintro (h0 | h0)
      · exact hnum.ne_nil h0
      · exact hnum.head_ne_zero h0
    simp only [read?]
    rw [htake, hdrop, if_neg hok, ofNat?_eq_some_iff.2 hnum.value.symm]
    rfl

/-- More digits make no smaller number. -/
theorem ofDigitChars_le_append (ds es : List Char) :
    Nat.ofDigitChars 10 ds 0 ≤ Nat.ofDigitChars 10 (ds ++ es) 0 := by
  have hone : 1 ≤ 10 ^ es.length := Nat.one_le_pow _ _ (by decide)
  rw [Nat.ofDigitChars_append, Nat.ofDigitChars_eq_ofDigitChars_zero (l := es)]
  exact Nat.le_add_right_of_le (Nat.le_mul_of_pos_left _ hone)

/-- **Digits beyond the largest count are no count**, whatever follows them,
and no part of them is taken for one. -/
theorem read?_eq_none_of_max_lt {digits : List Char} (hdigits : ∀ c ∈ digits, c.isDigit)
    (hmax : max < Nat.ofDigitChars 10 digits 0) (rest : List Char) :
    read? (digits ++ rest) = none := by
  refine Option.eq_none_iff_forall_ne_some.2 fun ⟨o, t⟩ hread => ?_
  obtain ⟨run, hs, hnum, hout⟩ := read?_eq_some_iff.1 hread
  -- a numeral would be the whole run, and so start with all of these digits
  have hrun : run = digits ++ rest.takeWhile Char.isDigit := by
    rw [← List.takeWhile_append_of_pos hdigits, hs, Text.takeWhile_append hnum.isDigit hout]
  have hle : Nat.ofDigitChars 10 digits 0 ≤ o.toNat := by
    rw [← hnum.value, hrun]
    exact ofDigitChars_le_append _ _
  exact absurd o.toNat_le_max (Nat.not_le.2 (Nat.lt_of_lt_of_le hmax hle))

end Ordinal

/-! ## Tokens -/

namespace Location

/-- A path as error texts write it. -/
structure IsPath (path : List Char) : Prop where
  /-- It is not empty. -/
  ne_nil : path ≠ []
  /-- It has characters of paths only. -/
  isPathChar : ∀ c ∈ path, isPathChar c

instance (path : List Char) : Decidable (IsPath path) :=
  decidable_of_iff (path ≠ [] ∧ path.all isPathChar)
    ⟨fun h => ⟨h.1, List.all_eq_true.1 h.2⟩, fun h => ⟨h.1, List.all_eq_true.2 h.2⟩⟩

/-- What is no character of paths is not in a path. -/
theorem IsPath.not_mem {path : List Char} (h : IsPath path) {c : Char}
    (hc : Location.isPathChar c = false) : c ∉ path := fun hmem =>
  Bool.eq_false_iff.1 hc (h.isPathChar c hmem)

/-- **A location is read where its token stands.** The path ends at the
first colon, and no digit follows the column. -/
theorem read?_eq_some_iff {s rest : List Char} {l : Location} :
    read? s = some (l, rest) ↔ ∃ line column,
      s = l.path.toList ++ ':' :: (line ++ ':' :: (column ++ rest)) ∧
      IsPath l.path.toList ∧ l.line.IsNumeral line ∧ l.column.IsNumeral column ∧
      Text.StartsOutside Char.isDigit rest := by
  constructor
  · intro h
    simp only [read?] at h
    split at h
    · cases h
    · next hne =>
      simp only [Option.bind_eq_bind, Option.bind_eq_some_iff, Text.after?_eq_some_iff] at h
      obtain ⟨s₁, h₁, ⟨m, s₂⟩, hm, s₃, h₃, ⟨n, s₄⟩, hn, he⟩ := h
      obtain ⟨line, rfl, hline, -⟩ := Ordinal.read?_eq_some_iff.1 hm
      obtain ⟨column, rfl, hcolumn, hout⟩ := Ordinal.read?_eq_some_iff.1 hn
      obtain ⟨rfl, rfl⟩ := Prod.mk.inj (Option.some.inj he)
      obtain ⟨hs, hrun, -⟩ := Text.takeWhile_and_dropWhile_iff.1
        (⟨rfl, h₁⟩ : s.takeWhile isPathChar = _ ∧ s.dropWhile isPathChar = _)
      subst h₃
      rw [String.toList_ofList]
      exact ⟨line, column, hs, ⟨hne, hrun⟩, hline, hcolumn, hout⟩
  · rintro ⟨line, column, rfl, hpath, hline, hcolumn, hout⟩
    -- a colon is neither in a path nor a digit, so each run ends at the next one
    have hcolon : ∀ t, Text.StartsOutside isPathChar (':' :: t) := fun t => by
      rw [Text.startsOutside_cons]
      decide
    have hafter : ∀ t : List Char, Text.after? [':'] (':' :: t) = some t := fun t =>
      Text.after?_eq_some_iff.2 rfl
    have hm : Ordinal.read? (line ++ ':' :: (column ++ rest)) =
        some (l.line, ':' :: (column ++ rest)) :=
      Ordinal.read?_eq_some_iff.2 ⟨line, rfl, hline, by rw [Text.startsOutside_cons]; decide⟩
    have hn : Ordinal.read? (column ++ rest) = some (l.column, rest) :=
      Ordinal.read?_eq_some_iff.2 ⟨column, rfl, hcolumn, hout⟩
    simp only [read?, Text.takeWhile_append hpath.isPathChar (hcolon _),
      Text.dropWhile_append hpath.isPathChar (hcolon _), if_neg hpath.ne_nil,
      Option.bind_eq_bind, Option.bind_some, hafter, hm, hn, String.ofList_toList]

/-- The token of a location, character by character. -/
theorem toList_text (l : Location) :
    l.text.toList = l.path.toList ++
      ':' :: (Nat.toDigits 10 l.line.toNat ++ ':' :: Nat.toDigits 10 l.column.toNat) := by
  simp only [text, String.toList_append, Nat.toString_eq_ofList_toDigits, String.toList_ofList,
    List.append_assoc]
  rfl

/-- **What is read is what is written.** A text starts with a location just
when it starts with the token of that location, which has a path and is not
followed by a digit. -/
theorem read?_eq_some_iff_text {s rest : List Char} {l : Location} :
    read? s = some (l, rest) ↔ s = l.text.toList ++ rest ∧ IsPath l.path.toList ∧
      Text.StartsOutside Char.isDigit rest := by
  have hshape : l.text.toList ++ rest = l.path.toList ++
      ':' :: (Nat.toDigits 10 l.line.toNat ++ ':' :: (Nat.toDigits 10 l.column.toNat ++ rest)) := by
    rw [toList_text]
    simp only [List.append_assoc, List.cons_append]
  rw [read?_eq_some_iff, hshape]
  constructor
  · rintro ⟨line, column, hs, hpath, hline, hcolumn, hout⟩
    rw [hline.eq_toDigits, hcolumn.eq_toDigits] at hs
    exact ⟨hs, hpath, hout⟩
  · rintro ⟨hs, hpath, hout⟩
    exact ⟨_, _, hs, hpath, .toDigits l.line, .toDigits l.column, hout⟩

/-! ## Numbers that are too large -/

section NoToken

variable {path line s : List Char}

/-- A text without a count after its first colon starts with no token. -/
theorem read?_eq_none_of_line (hpath : ':' ∉ path) (h : Ordinal.read? s = none) :
    read? (path ++ ':' :: s) = none := by
  refine Option.eq_none_iff_forall_ne_some.2 fun ⟨l, rest⟩ hread => ?_
  obtain ⟨numeral, column, hs, hl, hnum, -, -⟩ := read?_eq_some_iff.1 hread
  obtain ⟨-, rfl⟩ := (Text.append_cons_inj_of_not_mem hpath (hl.not_mem (by decide))).1 hs
  have hsome : Ordinal.read? (numeral ++ ':' :: (column ++ rest)) =
      some (l.line, ':' :: (column ++ rest)) :=
    Ordinal.read?_eq_some_iff.2 ⟨numeral, rfl, hnum, Text.startsOutside_cons.2 (by decide)⟩
  rw [h] at hsome
  cases hsome

/-- Nor does one without a count after its second. -/
theorem read?_eq_none_of_column (hpath : ':' ∉ path) (hline : ':' ∉ line)
    (h : Ordinal.read? s = none) : read? (path ++ ':' :: (line ++ ':' :: s)) = none := by
  refine Option.eq_none_iff_forall_ne_some.2 fun ⟨l, rest⟩ hread => ?_
  obtain ⟨numeral, column, hs, hl, hnum, hcolumn, hout⟩ := read?_eq_some_iff.1 hread
  obtain ⟨-, hs⟩ := (Text.append_cons_inj_of_not_mem hpath (hl.not_mem (by decide))).1 hs
  obtain ⟨-, rfl⟩ := (Text.append_cons_inj_of_not_mem hline (hnum.not_mem (by decide))).1 hs
  have hsome : Ordinal.read? (column ++ rest) = some (l.column, rest) :=
    Ordinal.read?_eq_some_iff.2 ⟨column, rfl, hcolumn, hout⟩
  rw [h] at hsome
  cases hsome

end NoToken

/-- **A token is read where it stands, and nowhere else.** First, a path, two
numbers and a rest are what is read from a text just when the text is the
path, the two numerals after a colon each, and the rest: with a path as
error texts write it, both numbers from one to the largest count, and no
digit at the start of the rest. Second, what is taken from the text is the
token that the location is written as. Third, digits after the first or the
second colon that stand for more than the largest count leave no token,
whatever follows them: the number is neither wrapped nor cut. -/
theorem read?_exact :
    (∀ (s path rest : String) (line column : Nat),
      (∃ l, read? s.toList = some (l, rest.toList) ∧ l.path = path ∧ l.line.toNat = line ∧
        l.column.toNat = column) ↔
      s = path ++ ":" ++ toString line ++ ":" ++ toString column ++ rest ∧
        IsPath path.toList ∧ (1 ≤ line ∧ line ≤ Ordinal.max) ∧
        (1 ≤ column ∧ column ≤ Ordinal.max) ∧ Text.StartsOutside Char.isDigit rest.toList) ∧
    (∀ (s rest : String) (l : Location), read? s.toList = some (l, rest.toList) →
      s = l.text ++ rest) ∧
    ∀ path line digits rest : List Char, ':' ∉ path → ':' ∉ line → (∀ c ∈ digits, c.isDigit) →
      Ordinal.max < Nat.ofDigitChars 10 digits 0 →
      read? (path ++ ':' :: (digits ++ rest)) = none ∧
      read? (path ++ ':' :: (line ++ ':' :: (digits ++ rest))) = none := by
  have hsplit : ∀ (s rest : String) (l : Location),
      s.toList = l.text.toList ++ rest.toList ↔ s = l.text ++ rest := fun s rest l => by
    rw [← String.toList_append, String.toList_inj]
  refine ⟨fun s path rest line column => ?_, fun s rest l hread => ?_,
    fun path line digits rest hpath hline hdigits hmax => ?_⟩
  · simp only [read?_eq_some_iff_text, hsplit]
    constructor
    · rintro ⟨l, ⟨rfl, hpath, hout⟩, rfl, rfl, rfl⟩
      exact ⟨rfl, hpath, ⟨l.line.one_le_toNat, l.line.toNat_le_max⟩,
        ⟨l.column.one_le_toNat, l.column.toNat_le_max⟩, hout⟩
    · rintro ⟨rfl, hpath, hline, hcolumn, hout⟩
      obtain ⟨m, rfl⟩ := Ordinal.exists_toNat_eq hline.1 hline.2
      obtain ⟨n, rfl⟩ := Ordinal.exists_toNat_eq hcolumn.1 hcolumn.2
      exact ⟨⟨path, m, n⟩, ⟨rfl, hpath, hout⟩, rfl, rfl, rfl⟩
  · exact (hsplit s rest l).1 (read?_eq_some_iff_text.1 hread).1
  · have hnone := Ordinal.read?_eq_none_of_max_lt hdigits hmax rest
    exact ⟨read?_eq_none_of_line hpath hnone, read?_eq_none_of_column hpath hline hnone⟩

/-- The largest column is read, and the next one is not; nor is a line that
would be one if it were wrapped to 32 bits. -/
theorem read?_exact_largest :
    (∃ l, read? "a b:1:4294967295: x".toList = some (l, ": x".toList) ∧ l.path = "a b" ∧
      l.line.toNat = 1 ∧ l.column.toNat = 4294967295) ∧
    read? "a b:1:4294967296: x".toList = none ∧ read? "a b:4294967297:1: x".toList = none := by
  obtain ⟨hiff, -, hlarge⟩ := read?_exact
  refine ⟨(hiff "a b:1:4294967295: x" "a b" ": x" 1 4294967295).2 (by decide), ?_, ?_⟩
  · exact (hlarge "a b".toList "1".toList "4294967296".toList ": x".toList (by decide) (by decide)
      (List.all_eq_true.1 (by decide)) (by decide)).2
  · exact (hlarge "a b".toList [] "4294967297".toList ":1: x".toList (by decide) (by decide)
      (List.all_eq_true.1 (by decide)) (by decide)).1

end Location

end BuildDiagnostics
