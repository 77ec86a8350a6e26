import BuildDiagnostics.Proofs.Session.Stream
/-!
# Following a stream with any callback

A callback that may fail is given the same sets as one that never does, up
to the one that it fails on, and the stream is followed no further. So what
the callback comes to is what it comes to when it is given the sets without
any stream (`deliver`), and the session has taken the lines up to the one
whose set was refused (`watchLines_deliver`).
-/


namespace BuildDiagnostics

namespace Session

open Text

variable {σ : Type} {onUpdate : DiagnosticSet → σ → Run σ}

/-- Hands some sets to a callback, one after the other. -/
def deliver (onUpdate : DiagnosticSet → σ → Run σ) : List DiagnosticSet → σ → Run σ
  | [], x => .pure x
  | set :: sets, x => (onUpdate set x).andThen (deliver onUpdate sets)

theorem deliver_append (as bs : List DiagnosticSet) (x : σ) :
    deliver onUpdate (as ++ bs) x = (deliver onUpdate as x).andThen (deliver onUpdate bs) := by
  induction as generalizing x with
  | nil => rw [List.nil_append, deliver, Run.pure_andThen]
  | cons set as ih =>
    rw [List.cons_append, deliver, deliver, Run.andThen_assoc]
    exact congrArg _ (funext ih)

theorem deliver_singleton (onUpdate : DiagnosticSet → σ → Run σ) (set : DiagnosticSet) (x : σ) :
    deliver onUpdate [set] x = onUpdate set x :=
  Run.andThen_pure _

/-! ## One line -/

/-- **A line with any callback.** The session takes the line before the
callback is given its set, so it has taken it also when the callback
fails. -/
theorem watchLine_deliver (onUpdate : DiagnosticSet → σ → Run σ) (line : String) (s : Session)
    (x : σ) :
    (watchLine onUpdate line (s, x)).state =
        ((s.step line).2, (deliver onUpdate (s.updates [line]) x).state) ∧
      (watchLine onUpdate line (s, x)).error = (deliver onUpdate (s.updates [line]) x).error := by
  rw [watchLine, updates]
  rcases s.step line with ⟨outcome, next⟩
  cases outcome with
  | blank => exact ⟨rfl, rfl⟩
  | replaced =>
    have hone := deliver_singleton onUpdate next.current x
    simp only [answer, updates, hone]
    exact ⟨rfl, rfl⟩
  | rejected problem => exact ⟨rfl, rfl⟩

/-! ## Many lines -/

/-- **Lines with any callback.** The callback comes to what it comes to
without a stream. If it takes all sets, the session has taken all lines up
to the first that is not text. If it fails, there is a line whose set it
failed on, and that one is the last that the session has taken. -/
theorem watchLines_deliver (onUpdate : DiagnosticSet → σ → Run σ) (ls : List (List UInt8))
    (s : Session) (x : σ) :
    let texts := leadingTexts ls
    let run := watchLines onUpdate ls (s, x)
    let given := deliver onUpdate (s.updates texts) x
    run.state.2 = given.state ∧
      run.error = given.error.or
        (if ∀ l ∈ ls, (decode? l).isSome then none else some (.io .notText)) ∧
      (given.error = none → run.state.1 = s.after texts) ∧
      ∀ e, given.error = some e → ∃ j < texts.length,
        (deliver onUpdate (s.updates (texts.take j)) x).error = none ∧
        (deliver onUpdate (s.updates (texts.take (j + 1))) x).error = some e ∧
        run.state.1 = s.after (texts.take (j + 1)) := by
  -- from any session and any state of the callback, since the first line changes both
  induction ls generalizing s x with
  | nil => exact ⟨rfl, rfl, fun _ => rfl, fun e he => by cases he⟩
  | cons l ls ih =>
    intro texts run given
    cases hl : decode? l with
    | none =>
      have htexts : texts = [] := leadingTexts_cons_of_none hl ls
      have hrun : run = ⟨(s, x), [], some (.io .notText)⟩ := by
        simp only [run, watchLines, hl]
      have hgiven : given = .pure x := by
        simp only [given, htexts]
        rfl
      rw [hrun, hgiven, htexts, if_neg fun h => by simpa [hl] using h l List.mem_cons_self]
      exact ⟨rfl, rfl, fun _ => rfl, fun e he => by cases he⟩
    | some text =>
      obtain ⟨hstate, herror⟩ := watchLine_deliver onUpdate text s x
      have htexts : texts = text :: leadingTexts ls := leadingTexts_cons_of_some hl ls
      have hrun : run = (watchLine onUpdate text (s, x)).andThen (watchLines onUpdate ls) := by
        simp only [run, watchLines, hl]
      have hgiven : given = (deliver onUpdate (s.updates [text]) x).andThen
          (deliver onUpdate ((s.step text).2.updates (leadingTexts ls))) := by
        simp only [given]
        rw [htexts, updates_cons, deliver_append]
      cases hfirst : (deliver onUpdate (s.updates [text]) x).error with
      | some e =>
        -- the callback fails on this line, and the others are not looked at
        rw [Run.andThen_of_error hfirst] at hgiven
        rw [Run.andThen_of_error (herror.trans hfirst)] at hrun
        rw [hrun, hgiven, hstate, herror, hfirst, htexts]
        refine ⟨rfl, rfl, fun hnone => (by cases hnone), fun e' he => ?_⟩
        obtain rfl := Option.some.inj he
        exact ⟨0, Nat.succ_pos _, rfl, hfirst, rfl⟩
      | none =>
        obtain ⟨hrest, herrors, hafter, hstop⟩ :=
          ih (s.step text).2 (deliver onUpdate (s.updates [text]) x).state
        have hcons : ∀ ts, (deliver onUpdate (s.updates (text :: ts)) x).error =
            (deliver onUpdate ((s.step text).2.updates ts)
              (deliver onUpdate (s.updates [text]) x).state).error := fun ts => by
          rw [updates_cons, deliver_append, Run.error_andThen hfirst]
        have hreached : run.state = (watchLines onUpdate ls
            ((s.step text).2, (deliver onUpdate (s.updates [text]) x).state)).state := by
          rw [hrun, Run.state_andThen (herror.trans hfirst), hstate]
        have hfailed : run.error = (watchLines onUpdate ls
            ((s.step text).2, (deliver onUpdate (s.updates [text]) x).state)).error := by
          rw [hrun, Run.error_andThen (herror.trans hfirst), hstate]
        rw [hreached, hfailed, hgiven, Run.state_andThen hfirst, Run.error_andThen hfirst, htexts]
        refine ⟨hrest, ?_, fun hnone => ?_, fun e he => ?_⟩
        · rw [herrors]
          simp only [List.forall_mem_cons, hl, Option.isSome_some, true_and]
        · rw [hafter hnone, after_cons]
        · obtain ⟨j, hj, htaken, hrefused, hlast⟩ := hstop e he
          refine ⟨j + 1, Nat.succ_lt_succ hj, ?_, ?_, ?_⟩
          · rw [List.take_succ_cons, hcons, htaken]
          · rw [List.take_succ_cons, hcons, hrefused]
          · rw [List.take_succ_cons, after_cons, hlast]

/-! ## Which sets some of the lines give -/

theorem updates_append (s : Session) (as bs : List String) :
    s.updates (as ++ bs) = s.updates as ++ (s.after as).updates bs := by
  induction as generalizing s with
  | nil => rfl
  | cons line as ih =>
    rw [List.cons_append, updates_cons, ih, updates_cons s line as, List.append_assoc, after_cons]

/-- The first lines give the first sets. -/
theorem isPrefix_updates_take (s : Session) (texts : List String) (j : Nat) :
    s.updates (texts.take j) <+: s.updates texts := by
  conv => rhs; rw [← List.take_append_drop j texts, updates_append]
  exact List.prefix_append _ _

/-- One more line gives one more set at most. -/
theorem exists_updates_take_succ (s : Session) (texts : List String) (j : Nat) :
    ∃ more : List DiagnosticSet, more.length ≤ 1 ∧
      s.updates (texts.take (j + 1)) = s.updates (texts.take j) ++ more := by
  have hone : ∀ (s : Session) (line : String), (s.updates [line]).length ≤ 1 := by
    intro s line
    rw [updates]
    rcases s.step line with ⟨outcome, next⟩
    cases outcome with
    | blank => exact Nat.zero_le 1
    | replaced => exact Nat.le_refl 1
    | rejected problem => exact Nat.zero_le 1
  rcases Nat.lt_or_ge j texts.length with hj | hj
  · refine ⟨_, hone (s.after (texts.take j)) texts[j], ?_⟩
    rw [List.take_succ_eq_append_getElem hj, updates_append]
  · refine ⟨[], Nat.zero_le 1, ?_⟩
    rw [List.take_of_length_le hj, List.take_of_length_le (Nat.le_succ_of_le hj), List.append_nil]

/-- **The sets of some lines** are those of the documents among them. The
history of the session has no part in them. -/
theorem updates_eq (s : Session) (lines : List String) :
    s.updates lines = (lines.filterMap document?).map (diagnosed s.labels) := by
  induction lines generalizing s with
  | nil => rfl
  | cons line lines ih =>
    have hlabels := labels_step s line
    rw [updates]
    by_cases hblank : Text.trim line = ""
    · have hnone : document? line = none := by rw [document?, hblank, decode_empty]
      rw [step_of_blank hblank, List.filterMap_cons_none hnone]
      exact ih _
    · cases hd : decode (Text.trim line) with
      | error problem =>
        have hnone : document? line = none := by
          rw [document?, hd]
          rfl
        rw [step_of_error hblank hd, List.filterMap_cons_none hnone]
        exact ih _
      | ok error =>
        have hsome : document? line = some error := by
          rw [document?, hd]
          rfl
        rw [step_of_ok hblank hd] at hlabels ⊢
        rw [List.filterMap_cons_some hsome, List.map_cons]
        simp only [answer]
        rw [current_replace, ih, hlabels]

/-- The first lines give the first sets, as many as there are documents among
them. -/
theorem updates_take (s : Session) (texts : List String) (k : Nat) :
    s.updates (texts.take k) =
      (s.updates texts).take ((texts.take k).filterMap document?).length := by
  have hlen : (s.updates (texts.take k)).length = ((texts.take k).filterMap document?).length := by
    rw [updates_eq, List.length_map]
  rw [← hlen]
  exact List.prefix_iff_eq_take.1 (isPrefix_updates_take s texts k)

end Session

end BuildDiagnostics
