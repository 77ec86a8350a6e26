/-!
# One-based counts

Lines and columns in error texts count from one and fit in 32 bits. An
`Ordinal` is such a count. `ofNat?` refuses what does not fit, so nothing
is ever wrapped or cut; `index` is the zero-based number that editors use,
and one more than it is the count again (`index_add_one`).
-/


namespace BuildDiagnostics

/-- A 32-bit count from one. -/
structure Ordinal where
  /-- The count. -/
  word : UInt32
  /-- Counting starts at one. -/
  word_ne_zero : word ≠ 0
deriving DecidableEq

namespace Ordinal

/-- The largest count. -/
def max : Nat := 4294967295

/-- The count as a number. -/
def toNat (o : Ordinal) : Nat := o.word.toNat

/-- A number as a count; zero and what needs more than 32 bits are none. -/
def ofNat? (n : Nat) : Option Ordinal :=
  if h : 1 ≤ n ∧ n ≤ max then
    some ⟨UInt32.ofNat n, fun h0 => by
      have h1 : n % 4294967296 = 0 := congrArg UInt32.toNat h0
      have := h.2
      unfold max at this
      omega⟩
  else none

/-- The zero-based number. -/
def index (o : Ordinal) : UInt32 := o.word - 1

/-- A count is at least one. -/
theorem one_le_toNat (o : Ordinal) : 1 ≤ o.toNat := by
  have h : o.word.toNat ≠ 0 := fun h => o.word_ne_zero (UInt32.toNat_inj.1 h)
  unfold toNat
  omega

/-- A count is at most `max`. -/
theorem toNat_le_max (o : Ordinal) : o.toNat ≤ max := by
  have := o.word.toNat_lt
  unfold toNat max
  omega

/-- Counts are equal when their numbers are. -/
theorem toNat_inj {o p : Ordinal} : o.toNat = p.toNat ↔ o = p := by
  refine ⟨fun h => ?_, fun h => h ▸ rfl⟩
  cases o; cases p
  simpa [toNat, UInt32.toNat_inj] using h

/-- **A number is a count exactly when it is in range.** -/
theorem ofNat?_eq_some_iff {n : Nat} {o : Ordinal} : ofNat? n = some o ↔ o.toNat = n := by
  unfold ofNat?
  constructor
  · intro h
    split at h
    · next hn =>
      cases h
      have := hn.2
      unfold max at this
      exact Nat.mod_eq_of_lt (by omega : n < 4294967296)
    · cases h
  · rintro rfl
    rw [dif_pos ⟨o.one_le_toNat, o.toNat_le_max⟩]
    exact congrArg some (toNat_inj.1 (by simp [toNat]))

/-- A number in range is a count. -/
theorem exists_toNat_eq {n : Nat} (hone : 1 ≤ n) (hmax : n ≤ max) : ∃ o : Ordinal, o.toNat = n := by
  have hsome : (ofNat? n).isSome := by
    rw [ofNat?, dif_pos ⟨hone, hmax⟩]
    rfl
  obtain ⟨o, ho⟩ := Option.isSome_iff_exists.1 hsome
  exact ⟨o, ofNat?_eq_some_iff.1 ho⟩

/-- The zero-based number, as a number, is one less. -/
theorem toNat_index (o : Ordinal) : o.index.toNat = o.toNat - 1 := by
  have h : (1 : UInt32) ≤ o.word := by
    rw [UInt32.le_iff_toNat_le]
    exact o.one_le_toNat
  rw [index, UInt32.toNat_sub_of_le _ _ h]
  rfl

/-- **Back to one-based.** One more than the zero-based number is the count,
and no step of the way leaves the 32 bits. -/
theorem index_add_one (o : Ordinal) : o.index.toNat + 1 = o.toNat := by
  have := o.one_le_toNat
  rw [toNat_index]
  omega

/-- The same in 32 bits: adding does not wrap. -/
theorem index_succ (o : Ordinal) : o.index + 1 = o.word := UInt32.sub_add_cancel o.word 1

/-- So the zero-based number is below the largest count. -/
theorem toNat_index_le (o : Ordinal) : o.index.toNat ≤ max - 1 := by
  have := o.toNat_le_max
  rw [toNat_index]
  omega

end Ordinal

end BuildDiagnostics
