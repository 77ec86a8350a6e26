import BuildDiagnostics.Text.Blank
import Mathlib.Order.Bounds.Basic
/-!
# Leading runs

A reader takes the longest run of elements of a class from the start of a
list. Such a run and what is left are told by three facts: together they
are the list, the run is of the class, and what is left does not start
with an element of it (`takeWhile_and_dropWhile_iff`). No other way of
cutting the list has all three. Its length is the greatest that a run from
the start can have (`isGreatest_length_takeWhile`).
-/


namespace BuildDiagnostics

namespace Text

variable {α : Type} {p q : α → Bool} {s run rest : List α}

/-- A list that does not start with an element of a class. -/
def StartsOutside (p : α → Bool) (s : List α) : Prop := s.head?.all (!p ·) = true

instance (p : α → Bool) (s : List α) : Decidable (StartsOutside p s) :=
  inferInstanceAs (Decidable (s.head?.all (!p ·) = true))

@[simp] theorem startsOutside_nil : StartsOutside p [] := rfl

@[simp] theorem startsOutside_cons {c : α} : StartsOutside p (c :: s) ↔ p c = false := by
  simp [StartsOutside]

/-- A list without an element is of the class of all others. -/
theorem forall_ne_of_not_mem [DecidableEq α] {a : α} (h : a ∉ s) :
    ∀ c ∈ s, decide (c ≠ a) = true := fun _ hc =>
  decide_eq_true fun he => h (he ▸ hc)

/-- Outside of a class is outside of every class within it. -/
theorem StartsOutside.mono (h : StartsOutside p s) (hq : ∀ c, q c → p c) : StartsOutside q s := by
  cases s with
  | nil => exact startsOutside_nil
  | cons c cs =>
    have hc := startsOutside_cons.1 h
    refine startsOutside_cons.2 (Bool.eq_false_iff.2 fun hqc => ?_)
    rw [hq c hqc] at hc
    cases hc

/-- More at the end of a list does not change where it starts. -/
theorem StartsOutside.append (h : StartsOutside p s) (hne : s ≠ []) (t : List α) :
    StartsOutside p (s ++ t) := by
  cases s with
  | nil => exact absurd rfl hne
  | cons c cs => exact startsOutside_cons.2 (startsOutside_cons.1 h)

/-- What a run leaves does not start with an element of its class. -/
theorem startsOutside_dropWhile (p : α → Bool) (s : List α) :
    StartsOutside p (s.dropWhile p) := by
  cases h : s.dropWhile p with
  | nil => exact startsOutside_nil
  | cons c cs =>
    have hhead := List.head?_dropWhile_not p s
    rw [h] at hhead
    simpa using hhead

/-- **The longest run.** It is the one that what is left cannot go on. -/
theorem takeWhile_and_dropWhile_iff :
    s.takeWhile p = run ∧ s.dropWhile p = rest ↔
      s = run ++ rest ∧ (∀ c ∈ run, p c) ∧ StartsOutside p rest := by
  constructor
  · rintro ⟨rfl, rfl⟩
    refine ⟨List.takeWhile_append_dropWhile.symm, ?_, startsOutside_dropWhile p s⟩
    intro c hc
    exact List.all_eq_true.1 List.all_takeWhile c hc
  · rintro ⟨rfl, hrun, hrest⟩
    rw [List.takeWhile_append_of_pos hrun, List.dropWhile_append_of_pos hrun]
    cases rest with
    | nil => simp
    | cons c cs =>
      have hc : ¬ p c = true := by
        rw [startsOutside_cons.1 hrest]
        exact Bool.false_ne_true
      rw [List.takeWhile_cons_of_neg hc, List.dropWhile_cons_of_neg hc, List.append_nil]
      exact ⟨rfl, rfl⟩

theorem takeWhile_append (hrun : ∀ c ∈ run, p c) (hrest : StartsOutside p rest) :
    (run ++ rest).takeWhile p = run :=
  (takeWhile_and_dropWhile_iff.2 ⟨rfl, hrun, hrest⟩).1

theorem dropWhile_append (hrun : ∀ c ∈ run, p c) (hrest : StartsOutside p rest) :
    (run ++ rest).dropWhile p = rest :=
  (takeWhile_and_dropWhile_iff.2 ⟨rfl, hrun, hrest⟩).2

/-- **The first of its kind.** A list is cut in one way where an element
stands for the first time. -/
theorem append_cons_inj_of_not_mem [DecidableEq α] {a : α} {run' rest' : List α} (hrun : a ∉ run)
    (hrun' : a ∉ run') : run ++ a :: rest = run' ++ a :: rest' ↔ run = run' ∧ rest = rest' := by
  constructor
  · intro h
    -- what stands before the element is the run of all others
    have hstop : ∀ t : List α, StartsOutside (fun c => decide (c ≠ a)) (a :: t) := fun t =>
      startsOutside_cons.2 (decide_eq_false (not_not_intro rfl))
    have htake := takeWhile_append (forall_ne_of_not_mem hrun) (hstop rest)
    have hdrop := dropWhile_append (forall_ne_of_not_mem hrun) (hstop rest)
    rw [h, takeWhile_append (forall_ne_of_not_mem hrun') (hstop rest')] at htake
    rw [h, dropWhile_append (forall_ne_of_not_mem hrun') (hstop rest')] at hdrop
    exact ⟨htake.symm, (List.cons.inj hdrop).2.symm⟩
  · rintro ⟨rfl, rfl⟩
    rfl

/-- **Runs at both ends** are what stripping takes away. -/
theorem strip_append {b e : List α} (hb : ∀ c ∈ b, p c) (he : ∀ c ∈ e, p c) (hne : s ≠ [])
    (hstart : StartsOutside p s) (hend : StartsOutside p s.reverse) :
    strip p (b ++ (s ++ e)) = s := by
  have hrest : StartsOutside p (s ++ e) := hstart.append hne e
  have hback : ∀ c ∈ e.reverse, p c := fun c hc => he c (List.mem_reverse.1 hc)
  rw [strip, dropWhile_append hb hrest, List.reverse_append, dropWhile_append hback hend,
    List.reverse_reverse]

theorem dropWhile_eq_self (h : StartsOutside p s) : s.dropWhile p = s :=
  (takeWhile_and_dropWhile_iff.2 ⟨(List.nil_append s).symm, by simp, h⟩).2

theorem strip_eq_self (hstart : StartsOutside p s) (hend : StartsOutside p s.reverse) :
    strip p s = s := by
  rw [strip, dropWhile_eq_self hstart, dropWhile_eq_self hend, List.reverse_reverse]

/-! ## How long a run can be -/

/-- **No longer run starts the list.** -/
theorem isGreatest_length_takeWhile (p : α → Bool) (s : List α) :
    IsGreatest {k | k ≤ s.length ∧ ∀ c ∈ s.take k, p c} (s.takeWhile p).length := by
  have hstart := List.takeWhile_prefix p (l := s)
  refine ⟨⟨hstart.length_le, ?_⟩, ?_⟩
  · rw [← List.prefix_iff_eq_take.1 hstart]
    intro c hc
    exact List.all_eq_true.1 List.all_takeWhile c hc
  · rintro k ⟨hk, hall⟩
    -- a longer run would be taken whole
    have htake : s.take k <+: s.takeWhile p := by
      conv => rhs; rw [← List.take_append_drop k s]
      rw [List.takeWhile_append_of_pos hall]
      exact List.prefix_append _ _
    have hlen := htake.length_le
    rw [List.length_take, Nat.min_eq_left hk] at hlen
    exact hlen

/-- So the element after the greatest run is not of the class. -/
theorem not_getElem_of_isGreatest {k : ℕ}
    (h : IsGreatest {k | k ≤ s.length ∧ ∀ c ∈ s.take k, p c} k) (hk : k < s.length) :
    ¬ p s[k] := by
  intro hp
  refine Nat.not_succ_le_self k (h.2 ⟨hk, ?_⟩)
  rw [List.take_succ_eq_append_getElem hk]
  intro c hc
  rcases List.mem_append.1 hc with hc | hc
  · exact h.1.2 c hc
  · rw [List.mem_singleton.1 hc]
    exact hp

end Text

end BuildDiagnostics
