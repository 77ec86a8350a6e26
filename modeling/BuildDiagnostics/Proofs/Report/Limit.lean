import BuildDiagnostics.Proofs.Report.Process
/-!
# A sink that is full

A sink with room for some bytes takes the first bytes of what a sink
without limit would take, and no others. If they are all of them, nothing
is different. If not, there is a report that does not fit: the run fails on
it, and no document after its own is looked at (`process_limited`). Which
failure it is depends on the byte that was refused first, for a report for
programs is written in two parts, its text and the line feed after it.
-/


namespace BuildDiagnostics

namespace Sink

variable (failure failure' : IoCause → ToolError) (a b written : List UInt8) (n : Nat)

theorem error_write :
    (Sink.write failure a ⟨written, some n⟩).error =
      if a.length ≤ n then none else some (failure full) := by
  simp only [write, fits, decide_eq_true_eq]

/-- **Two writes take what one would.** When the first does not fit, it has
taken all the room that there was. -/
theorem state_write_andThen_write :
    ((Sink.write failure a ⟨written, some n⟩).andThen (Sink.write failure' b)).state =
      ⟨written ++ (a ++ b).take n, some (n - (a ++ b).length)⟩ := by
  by_cases hfit : a.length ≤ n
  · have hfirst : (Sink.write failure a ⟨written, some n⟩).error = none := by
      rw [error_write, if_pos hfit]
    rw [Run.state_andThen hfirst]
    exact (take_append ⟨written, some n⟩ a b).symm
  · have hfirst : (Sink.write failure a ⟨written, some n⟩).error = some (failure full) := by
      rw [error_write, if_neg hfit]
    have htaken : (a ++ b).take n = a.take n := List.take_append_of_le_length (by omega)
    have hroom : n - (a ++ b).length = n - a.length := by
      rw [List.length_append]
      omega
    rw [Run.andThen_of_error hfirst, htaken, hroom]
    rfl

theorem error_write_andThen_write :
    ((Sink.write failure a ⟨written, some n⟩).andThen (Sink.write failure' b)).error =
      if a.length ≤ n then if b.length ≤ n - a.length then none else some (failure' full)
      else some (failure full) := by
  by_cases hfit : a.length ≤ n
  · have hfirst : (Sink.write failure a ⟨written, some n⟩).error = none := by
      rw [error_write, if_pos hfit]
    rw [Run.error_andThen hfirst, if_pos hfit]
    exact error_write failure' b _ _
  · have hfirst : (Sink.write failure a ⟨written, some n⟩).error = some (failure full) := by
      rw [error_write, if_neg hfit]
    rw [Run.andThen_of_error hfirst, hfirst, if_neg hfit]

end Sink

namespace Report

open Session Text

variable (cut : Cut) (files : Files) (format : Format)

/-- The failure of a report that does not fit, by whether its last byte is
all that does not. -/
def refusal (format : Format) (atEnd : Bool) : ToolError :=
  match format with
  | .human => .io Sink.full
  | .json => if atEnd then .io Sink.full else .json (.io Sink.full)

/-! ## One report -/

/-- **A report in a sink with some room.** -/
theorem write_limited (set : DiagnosticSet) (written : List UInt8) (n : Nat) :
    let bytes := reportBytes cut files format set
    let run := write cut files format set ⟨written, some n⟩
    run.state = ⟨written ++ bytes.take n, some (n - bytes.length)⟩ ∧
      run.error =
        if bytes.length ≤ n then none else some (refusal format (n + 1 = bytes.length)) := by
  intro bytes run
  cases format with
  | human =>
    by_cases hempty : set.isEmpty
    · have hbytes : bytes = [] := if_pos hempty
      have hrun : run = ⟨⟨written, some n⟩, [⟨.info, target, "No diagnostics found", []⟩], none⟩ :=
        if_pos hempty
      rw [hrun, hbytes, List.length_nil, if_pos (Nat.zero_le n), List.take_nil, List.append_nil]
      exact ⟨rfl, rfl⟩
    · have hbytes : bytes = encode (humanText cut files set) := if_neg hempty
      have hrun : run = (Sink.write .io bytes ⟨written, some n⟩).logged
          (set.diagnostics.flatMap (readingRecords files)) := by
        rw [hbytes]
        exact if_neg hempty
      rw [hrun]
      exact ⟨rfl, Sink.error_write _ _ _ _⟩
  | json =>
    have hlength : bytes.length = (encode set.json.render).length + 1 := List.length_append
    refine ⟨Sink.state_write_andThen_write _ _ _ _ _ _, ?_⟩
    have herror := Sink.error_write_andThen_write (fun cause => .json (.io cause)) .io
      (encode set.json.render) (encode "\n") written n
    have hfeed : (encode "\n").length = 1 := rfl
    rw [hfeed] at herror
    rw [hlength, refusal]
    refine Eq.trans herror ?_
    by_cases htext : (encode set.json.render).length ≤ n
    · rcases Nat.lt_or_eq_of_le htext with hfeed | hfeed
      · rw [if_pos htext, if_pos (by omega), if_pos (by omega)]
      · -- the line feed is all that does not fit
        rw [if_pos htext, if_neg (by omega), if_neg (by omega), hfeed, decide_eq_true rfl,
          if_pos rfl]
    · rw [if_neg htext, if_neg (by omega), decide_eq_false (by omega), if_neg Bool.false_ne_true]

/-! ## Many reports -/

/-- **Reports in a sink with some room.** They are written as if they were
one. -/
theorem writeAll_limited (sets : List DiagnosticSet) (written : List UInt8) (n : Nat) :
    let bytes := sets.flatMap (reportBytes cut files format)
    let run := writeAll cut files format sets ⟨written, some n⟩
    run.state = ⟨written ++ bytes.take n, some (n - bytes.length)⟩ ∧
      (run.error = none ↔ bytes.length ≤ n) := by
  -- after any bytes and with any room, since the first report changes both
  induction sets generalizing written n with
  | nil =>
    intro bytes run
    have hbytes : bytes = [] := rfl
    have hrun : run = .pure ⟨written, some n⟩ := rfl
    rw [hrun, hbytes, List.take_nil, List.append_nil]
    exact ⟨rfl, iff_of_true rfl (Nat.zero_le n)⟩
  | cons set sets ih =>
    intro bytes run
    let first := reportBytes cut files format set
    let others := sets.flatMap (reportBytes cut files format)
    have hbytes : bytes = first ++ others := List.flatMap_cons
    have hlength : bytes.length = first.length + others.length := by
      rw [hbytes, List.length_append]
    obtain ⟨hstate, herror⟩ := write_limited cut files format set written n
    by_cases hfit : first.length ≤ n
    · rw [if_pos hfit] at herror
      obtain ⟨hstates, herrors⟩ := ih (written ++ first.take n) (n - first.length)
      have hrun : run = (write cut files format set ⟨written, some n⟩).andThen
          (writeAll cut files format sets) := rfl
      rw [hrun, Run.state_andThen herror, Run.error_andThen herror, hstate]
      refine ⟨?_, ?_⟩
      · rw [hstates, List.append_assoc, hlength, Nat.sub_sub, hbytes, List.take_append]
      · refine herrors.trans ?_
        show others.length ≤ n - first.length ↔ bytes.length ≤ n
        omega
    · rw [if_neg hfit] at herror
      have hrun : run = write cut files format set ⟨written, some n⟩ :=
        Run.andThen_of_error herror _
      have htaken : bytes.take n = first.take n := by
        rw [hbytes, List.take_append_of_le_length (by omega)]
      rw [hrun, hstate, herror]
      refine ⟨?_, iff_of_false (by simp) (by omega)⟩
      rw [htaken, hlength, show n - first.length = n - (first.length + others.length) by omega]

/-- The first reports, in bytes. -/
def firstBytes (sets : List DiagnosticSet) (k : Nat) : List UInt8 :=
  (sets.take k).flatMap (reportBytes cut files format)

theorem firstBytes_succ {sets : List DiagnosticSet} {k : Nat} (hk : k < sets.length) :
    firstBytes cut files format sets (k + 1) =
      firstBytes cut files format sets k ++ reportBytes cut files format sets[k] := by
  rw [firstBytes, List.take_succ_eq_append_getElem hk, List.flatMap_append, List.flatMap_singleton,
    firstBytes]

/-- **The report that does not fit** is the one that has the first refused
byte. -/
theorem error_writeAll {sets : List DiagnosticSet} (written : List UInt8) {n k : Nat}
    (hk : k < sets.length) (hbefore : (firstBytes cut files format sets k).length ≤ n)
    (hafter : n < (firstBytes cut files format sets (k + 1)).length) :
    (writeAll cut files format sets ⟨written, some n⟩).error =
      some (refusal format (n + 1 = (firstBytes cut files format sets (k + 1)).length)) := by
  obtain ⟨hstate, herror⟩ := writeAll_limited cut files format (sets.take k) written n
  have hnone := herror.2 hbefore
  rw [← firstBytes] at hstate
  have hsets : sets = sets.take k ++ sets[k] :: sets.drop (k + 1) := by
    rw [← List.drop_eq_getElem_cons hk, List.take_append_drop]
  rw [firstBytes_succ cut files format hk, List.length_append] at hafter ⊢
  obtain ⟨-, hrefused⟩ := write_limited cut files format sets[k]
    (written ++ (firstBytes cut files format sets k).take n)
    (n - (firstBytes cut files format sets k).length)
  rw [if_neg (by omega)] at hrefused
  conv => lhs; rw [hsets]
  rw [writeAll_eq_deliver, deliver_append, ← writeAll_eq_deliver, Run.error_andThen hnone, hstate,
    deliver, Run.andThen_of_error hrefused, hrefused]
  congr 2
  rw [decide_eq_decide]
  omega

/-- In a report for programs the last byte is its one line feed. -/
theorem getElem?_reportBytes_json (set : DiagnosticSet) (i : Nat) :
    (reportBytes cut files .json set)[i]? = some 10 ↔
      i + 1 = (reportBytes cut files .json set).length := by
  have hfeed : encode "\n" = [10] := rfl
  have htext := lineFeed_not_mem_render set
  rw [reportBytes, hfeed, List.length_append, List.length_singleton]
  rcases Nat.lt_trichotomy i (encode set.json.render).length with hi | hi | hi
  · rw [List.getElem?_append_left hi]
    refine iff_of_false (fun h => htext (List.mem_of_getElem? h)) (by omega)
  · rw [hi, List.getElem?_append_right (Nat.le_refl _), Nat.sub_self]
    exact iff_of_true rfl rfl
  · rw [List.getElem?_eq_none (by rw [List.length_append, List.length_singleton]; omega)]
    exact iff_of_false (by simp) (by omega)

/-- So a byte of reports for programs is a line feed when it ends one of
them. -/
theorem getElem?_flatMap_reportBytes_json {sets : List DiagnosticSet} {n k : Nat}
    (hk : k < sets.length) (hbefore : (firstBytes cut files .json sets k).length ≤ n)
    (hafter : n < (firstBytes cut files .json sets (k + 1)).length) :
    (sets.flatMap (reportBytes cut files .json))[n]? = some 10 ↔
      n + 1 = (firstBytes cut files .json sets (k + 1)).length := by
  have hsplit : sets.flatMap (reportBytes cut files .json) =
      firstBytes cut files .json sets (k + 1) ++
        (sets.drop (k + 1)).flatMap (reportBytes cut files .json) := by
    rw [firstBytes, ← List.flatMap_append, List.take_append_drop]
  rw [hsplit, List.getElem?_append_left hafter, firstBytes_succ cut files .json hk,
    List.getElem?_append_right hbefore, List.length_append, getElem?_reportBytes_json]
  omega

/-- Some report has the first refused byte. -/
theorem exists_refused {sets : List DiagnosticSet} {n : Nat}
    (h : n < (sets.flatMap (reportBytes cut files format)).length) :
    ∃ k < sets.length, (firstBytes cut files format sets k).length ≤ n ∧
      n < (firstBytes cut files format sets (k + 1)).length := by
  -- among the first `m` reports, for any `m` with which the byte is written
  have hfirst : ∀ m, n < (firstBytes cut files format sets m).length →
      ∃ k < m, (firstBytes cut files format sets k).length ≤ n ∧
        n < (firstBytes cut files format sets (k + 1)).length := by
    intro m hm
    induction m with
    | zero => exact absurd hm (Nat.not_lt_zero n)
    | succ m ih =>
      rcases Nat.lt_or_ge n (firstBytes cut files format sets m).length with hlt | hge
      · obtain ⟨k, hk, hrefused⟩ := ih hlt
        exact ⟨k, Nat.lt_succ_of_lt hk, hrefused⟩
      · exact ⟨m, Nat.lt_succ_self m, hge, hm⟩
  refine hfirst sets.length ?_
  rw [firstBytes, List.take_length]
  exact h

/-! ## An input -/

/-- **Where following a stream stops** when the sink is full: right after
the document whose report does not fit. -/
theorem exists_refused_document {plan : Plan} (hwatch : plan.watch) (input : List UInt8) {n : Nat}
    (h : n < ((reported plan input).flatMap (reportBytes plan.cut files plan.format)).length) :
    let sets := reported plan input
    let texts := leadingTexts (lines input)
    let run := watch (write plan.cut files plan.format) input (plan.session, { room := some n })
    ∃ k < sets.length, (firstBytes plan.cut files plan.format sets k).length ≤ n ∧
      n < (firstBytes plan.cut files plan.format sets (k + 1)).length ∧
      ∃ j < texts.length, plan.session.updates (texts.take j) = sets.take k ∧
        plan.session.updates (texts.take (j + 1)) = sets.take (k + 1) ∧
        run.state.1 = plan.session.after (texts.take (j + 1)) := by
  intro sets texts run
  have hsets : sets = plan.session.updates texts := if_pos hwatch
  -- taking some of the sets fails just when their reports do not fit
  have htake : ∀ first : List DiagnosticSet,
      (deliver (write plan.cut files plan.format) first { room := some n }).error = none ↔
        (first.flatMap (reportBytes plan.cut files plan.format)).length ≤ n := by
    intro first
    rw [← writeAll_eq_deliver]
    exact (writeAll_limited plan.cut files plan.format first [] n).2
  obtain ⟨-, -, -, hstop⟩ := watchLines_deliver (write plan.cut files plan.format) (lines input)
    plan.session { room := some n }
  obtain ⟨e, he⟩ : ∃ e, (deliver (write plan.cut files plan.format) (plan.session.updates texts)
      { room := some n }).error = some e := by
    refine Option.ne_none_iff_exists'.1 fun hnone => ?_
    rw [htake, ← hsets] at hnone
    exact Nat.not_le_of_lt h hnone
  obtain ⟨j, hj, htaken, hrefused, hlast⟩ := hstop e he
  have hbefore := (htake _).1 htaken
  have hafter := Nat.lt_of_not_le fun hfit => by
    rw [(htake (plan.session.updates (texts.take (j + 1)))).2 hfit] at hrefused
    cases hrefused
  -- the line of the failure gives a set, or the reports up to it would have failed before
  obtain ⟨more, hone, hmore⟩ := exists_updates_take_succ plan.session texts j
  have hsucc : (plan.session.updates (texts.take (j + 1))).length =
      (plan.session.updates (texts.take j)).length + 1 := by
    cases more with
    | nil =>
      rw [hmore, List.append_nil] at hafter
      exact absurd hbefore (Nat.not_le_of_lt hafter)
    | cons set others =>
      rw [List.length_cons] at hone
      rw [hmore, List.length_append, List.length_cons]
      omega
  have hfirst := List.prefix_iff_eq_take.1 (isPrefix_updates_take plan.session texts j)
  have hnext := List.prefix_iff_eq_take.1 (isPrefix_updates_take plan.session texts (j + 1))
  rw [← hsets] at hfirst hnext
  rw [hsucc] at hnext
  refine ⟨(plan.session.updates (texts.take j)).length, ?_, ?_, ?_, j, hj, hfirst, hnext, ?_⟩
  · have hlength := (isPrefix_updates_take plan.session texts (j + 1)).length_le
    rw [← hsets] at hlength
    omega
  · rw [firstBytes, ← hfirst]
    exact hbefore
  · rw [firstBytes, ← hnext]
    exact hafter
  · rw [← hlast, ← state_watch]

/-- Whether the input is a stream or not, some report does not fit. -/
theorem exists_refused_report (plan : Plan) (input : List UInt8) {n : Nat}
    (h : n < ((reported plan input).flatMap (reportBytes plan.cut files plan.format)).length) :
    let sets := reported plan input
    let texts := leadingTexts (lines input)
    ∃ k < sets.length, (firstBytes plan.cut files plan.format sets k).length ≤ n ∧
      n < (firstBytes plan.cut files plan.format sets (k + 1)).length ∧
      (plan.watch → ∃ j < texts.length,
        plan.session.updates (texts.take j) = sets.take k ∧
        plan.session.updates (texts.take (j + 1)) = sets.take (k + 1) ∧
        (watch (write plan.cut files plan.format) input
          (plan.session, { room := some n })).state.1 =
          plan.session.after (texts.take (j + 1))) := by
  intro sets texts
  by_cases hwatch : plan.watch
  · obtain ⟨k, hk, hbefore, hafter, hstop⟩ := exists_refused_document files hwatch input h
    exact ⟨k, hk, hbefore, hafter, fun _ => hstop⟩
  · obtain ⟨k, hk, hbefore, hafter⟩ := exists_refused plan.cut files plan.format h
    exact ⟨k, hk, hbefore, hafter, fun hstream => absurd hstream hwatch⟩

/-- **The law of a sink that is full.** For any input, a sink with room for
`n` bytes takes the first `n` bytes of what one without limit takes. If
these are all, the run ends as it would without a limit. If not, there is a
report that the first refused byte belongs to, and the run fails on it: in a
report for programs it is a failure of output when that byte is the line
feed at its end and one of encoding when it is any other, and in a report
for people it is always the former. Of a stream no document is taken after
the one whose report it is. -/
theorem process_limited (plan : Plan) (input : List UInt8) (n : Nat) :
    let whole := process files plan input {}
    let out := whole.state.written
    let run := process files plan input { room := some n }
    let sets := reported plan input
    let texts := leadingTexts (lines input)
    out = sets.flatMap (reportBytes plan.cut files plan.format) ∧
      run.state.written = out.take n ∧
      (out.length ≤ n → run.error = whole.error) ∧
      (n < out.length → ∃ k < sets.length,
        let before := (sets.take k).flatMap (reportBytes plan.cut files plan.format)
        let upto := (sets.take (k + 1)).flatMap (reportBytes plan.cut files plan.format)
        before.length ≤ n ∧ n < upto.length ∧
        run.error = some (match plan.format with
          | .human => .io Sink.full
          | .json => if out[n]? = some 10 then .io Sink.full else .json (.io Sink.full)) ∧
        (plan.format = .json → (out[n]? = some 10 ↔ n + 1 = upto.length)) ∧
        (plan.watch → ∃ j < texts.length,
          plan.session.updates (texts.take j) = sets.take k ∧
          plan.session.updates (texts.take (j + 1)) = sets.take (k + 1) ∧
          (watch (write plan.cut files plan.format) input
            (plan.session, { room := some n })).state.1 =
            plan.session.after (texts.take (j + 1)))) := by
  intro whole out run sets texts
  obtain ⟨hout, hwhole⟩ := process_unlimited files plan input
  have hout : out = sets.flatMap (reportBytes plan.cut files plan.format) := hout
  obtain ⟨hstate, herror⟩ := process_eq_writeAll files plan input { room := some n }
  obtain ⟨hwritten, hfits⟩ := writeAll_limited plan.cut files plan.format sets [] n
  refine ⟨hout, ?_, fun hfit => ?_, fun hfull => ?_⟩
  · simp only [run]
    rw [hstate, hwritten, hout, List.nil_append]
  · rw [hout] at hfit
    simp only [run, whole]
    rw [herror, hfits.2 hfit, Option.none_or, hwhole]
  · rw [hout] at hfull ⊢
    obtain ⟨k, hk, hbefore, hafter, hstop⟩ := exists_refused_report files plan input hfull
    -- the first refused byte ends its report just when it is a line feed
    have hbyte : plan.format = .json →
        ((sets.flatMap (reportBytes plan.cut files plan.format))[n]? = some 10 ↔
          n + 1 = (firstBytes plan.cut files plan.format sets (k + 1)).length) := by
      intro hjson
      rw [hjson] at hbefore hafter ⊢
      exact getElem?_flatMap_reportBytes_json plan.cut files hk hbefore hafter
    have hrefused : (writeAll plan.cut files plan.format sets { room := some n }).error =
        some (refusal plan.format
          (n + 1 = (firstBytes plan.cut files plan.format sets (k + 1)).length)) :=
      error_writeAll plan.cut files plan.format [] hk hbefore hafter
    refine ⟨k, hk, hbefore, hafter, ?_, hbyte, hstop⟩
    simp only [run]
    rw [herror, hrefused, Option.some_or]
    cases hformat : plan.format with
    | human => rfl
    | json =>
      have hbyte := hbyte hformat
      rw [hformat] at hbyte
      simp only [refusal, decide_eq_true_eq, hbyte]

end Report

end BuildDiagnostics
