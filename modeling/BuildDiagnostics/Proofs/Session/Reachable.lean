import BuildDiagnostics.Proofs.DiagnosticSet.Sound
import BuildDiagnostics.Proofs.Session.Delivery
import BuildDiagnostics.Proofs.Session.Document
/-!
# Every session there can be

A session is given lines and streams, in any order, and streams are followed
with callbacks that may fail (`Reachable`). Whatever it was given, it has
taken some lines one after the other (`Reachable.exists_after`), so that
its diagnostics are those of one error text or none, and are sound.

Two sessions with different labels that are given the same take the same
lines (`Twins.exists_after`) and differ in the labels only. A callback may
look at the labels of a set, so here its answers are part of what a session
is given: the callbacks of the two have to refuse alike (`RefuseAlike`).
-/


namespace BuildDiagnostics

namespace Session

open Text

variable {σ τ : Type}

/-- The callbacks of two runs refuse alike: after as many sets of the one run
as of the other, both have failed or neither has. -/
def RefuseAlike (f : DiagnosticSet → σ → Run σ) (x : σ) (g : DiagnosticSet → τ → Run τ) (y : τ)
    (sets sets' : List DiagnosticSet) : Prop :=
  ∀ k, (deliver f (sets.take k) x).error.isSome = (deliver g (sets'.take k) y).error.isSome

/-- The sessions that lines and streams lead to. -/
inductive Reachable (labels : Labels) : Session → Prop
  /-- A new session. -/
  | fresh : Reachable labels { labels }
  /-- It takes a line. -/
  | line {s : Session} (text : String) : Reachable labels s → Reachable labels (s.step text).2
  /-- It follows a stream, with any callback, to its end or to a failure. -/
  | watch {s : Session} {σ : Type} (onUpdate : DiagnosticSet → σ → Run σ) (bytes : List UInt8)
      (x : σ) : Reachable labels s → Reachable labels (watch onUpdate bytes (s, x)).state.1

/-- The pairs of sessions with labels of their own that the same lines and
streams lead to. -/
inductive Twins (a b : Labels) : Session → Session → Prop
  /-- New sessions. -/
  | fresh : Twins a b { labels := a } { labels := b }
  /-- Both take the same line. -/
  | line {s t : Session} (text : String) : Twins a b s t →
      Twins a b (s.step text).2 (t.step text).2
  /-- Both follow the same stream, with callbacks that refuse alike. -/
  | watch {s t : Session} {σ τ : Type} (f : DiagnosticSet → σ → Run σ) (x : σ)
      (g : DiagnosticSet → τ → Run τ) (y : τ) (bytes : List UInt8) : Twins a b s t →
      RefuseAlike f x g y (s.updates (leadingTexts (lines bytes)))
        (t.updates (leadingTexts (lines bytes))) →
      Twins a b (watch f bytes (s, x)).state.1 (watch g bytes (t, y)).state.1

/-! ## Which sets lines give -/

/-- The diagnostics of a document are sound, -/
theorem isSound_diagnosed (labels : Labels) (error : Option String) :
    (diagnosed labels error).IsSound labels := by
  cases error with
  | none => exact DiagnosticSet.isSound_empty labels
  | some text => exact DiagnosticSet.isSound_ofText labels text

/-- and other labels change the labels only. -/
theorem relabel_diagnosed (labels other : Labels) (error : Option String) :
    (diagnosed labels error).relabel other = diagnosed other error := by
  cases error with
  | none => rfl
  | some text => exact DiagnosticSet.relabel_ofText other text

/-- So the sets that two sessions answer the same lines with differ in the
labels only. -/
theorem updates_relabel (s t : Session) (lines : List String) :
    t.updates lines = (s.updates lines).map (·.relabel t.labels) := by
  rw [updates_eq, updates_eq, List.map_map]
  exact List.map_congr_left fun error _ => (relabel_diagnosed s.labels t.labels error).symm

/-- **A callback that does not look at the labels refuses alike.** -/
theorem RefuseAlike.of_relabel {f : DiagnosticSet → σ → Run σ} {s t : Session}
    (h : ∀ set x, f (set.relabel t.labels) x = f set x) (x : σ) (lines : List String) :
    RefuseAlike f x f x (s.updates lines) (t.updates lines) := by
  have hdeliver : ∀ (sets : List DiagnosticSet) (x : σ),
      deliver f (sets.map (·.relabel t.labels)) x = deliver f sets x := by
    intro sets
    induction sets with
    | nil => exact fun x => rfl
    | cons set sets ih =>
      intro x
      rw [List.map_cons, deliver, deliver, h]
      exact congrArg _ (funext ih)
  intro k
  rw [updates_relabel s t, ← List.map_take, hdeliver]

/-! ## How far a stream is followed -/

/-- A callback that has taken some sets has taken the first of them. -/
theorem error_deliver_take {onUpdate : DiagnosticSet → σ → Run σ} {s : Session}
    {texts : List String} {x : σ} {j i : Nat} (hle : j ≤ i)
    (h : (deliver onUpdate (s.updates (texts.take i)) x).error = none) :
    (deliver onUpdate (s.updates (texts.take j)) x).error = none := by
  have hstart := isPrefix_updates_take s (texts.take i) j
  rw [List.take_take, Nat.min_eq_left hle] at hstart
  obtain ⟨more, hmore⟩ := hstart
  rw [← hmore, deliver_append] at h
  cases herror : (deliver onUpdate (s.updates (texts.take j)) x).error with
  | none => rfl
  | some e =>
    rw [Run.andThen_of_error herror, herror] at h
    cases h

/-- **Callbacks that refuse alike stop at one line.** Both sessions take the
lines of the stream up to it, or all of them. -/
theorem RefuseAlike.exists_take {f : DiagnosticSet → σ → Run σ} {x : σ}
    {g : DiagnosticSet → τ → Run τ} {y : τ} {s t : Session} {bytes : List UInt8}
    (h : RefuseAlike f x g y (s.updates (leadingTexts (lines bytes)))
      (t.updates (leadingTexts (lines bytes)))) :
    ∃ k, (watch f bytes (s, x)).state.1 = s.after ((leadingTexts (lines bytes)).take k) ∧
      (watch g bytes (t, y)).state.1 = t.after ((leadingTexts (lines bytes)).take k) := by
  rw [state_watch, state_watch]
  obtain ⟨-, -, hall, hsome⟩ := watchLines_deliver f (lines bytes) s x
  obtain ⟨-, -, hall', hsome'⟩ := watchLines_deliver g (lines bytes) t y
  generalize leadingTexts (lines bytes) = texts at h hall hsome hall' hsome' ⊢
  have halike : ∀ k, (deliver f (s.updates (texts.take k)) x).error.isSome =
      (deliver g (t.updates (texts.take k)) y).error.isSome := fun k => by
    rw [updates_take, updates_take]
    exact h _
  have hwhole := halike texts.length
  rw [List.take_length] at hwhole
  cases hf : (deliver f (s.updates texts) x).error with
  | none =>
    rw [hf] at hwhole
    refine ⟨texts.length, ?_⟩
    rw [List.take_length]
    exact ⟨hall hf, hall' (Option.isNone_iff_eq_none.1 (Option.isSome_eq_false_iff.1 hwhole.symm))⟩
  | some e =>
    rw [hf] at hwhole
    obtain ⟨e', hg⟩ := Option.isSome_iff_exists.1 hwhole.symm
    obtain ⟨j, -, htaken, hrefused, hreached⟩ := hsome e hf
    obtain ⟨i, -, htaken', hrefused', hreached'⟩ := hsome' e' hg
    -- the first set that one callback refuses is the first that the other does
    have hj := halike (j + 1)
    have hi := halike (i + 1)
    rw [hrefused] at hj
    rw [hrefused'] at hi
    obtain rfl : j = i := by
      rcases Nat.lt_trichotomy j i with hlt | heq | hlt
      · rw [error_deliver_take hlt htaken'] at hj
        cases hj
      · exact heq
      · rw [error_deliver_take hlt htaken] at hi
        cases hi
    exact ⟨j + 1, hreached, hreached'⟩

/-! ## Every session -/

theorem after_append (s : Session) (as bs : List String) :
    s.after (as ++ bs) = (s.after as).after bs :=
  List.foldl_append

variable {a b labels : Labels} {s t : Session}

/-- **Twins have taken the same lines**, each from a new session. -/
theorem Twins.exists_after (h : Twins a b s t) :
    ∃ lines, s = ({ labels := a } : Session).after lines ∧
      t = ({ labels := b } : Session).after lines := by
  induction h with
  | fresh => exact ⟨[], rfl, rfl⟩
  | line text _ ih =>
    obtain ⟨lines, rfl, rfl⟩ := ih
    have hconcat : ∀ s : Session, ((s.after lines).step text).2 = s.after (lines ++ [text]) :=
      fun s => by
        rw [after_append, after_cons]
        rfl
    exact ⟨lines ++ [text], hconcat _, hconcat _⟩
  | watch f x g y bytes _ halike ih =>
    obtain ⟨k, hs, ht⟩ := halike.exists_take
    obtain ⟨lines, rfl, rfl⟩ := ih
    exact ⟨lines ++ (leadingTexts (Text.lines bytes)).take k, by rw [hs, after_append],
      by rw [ht, after_append]⟩

/-- A session is its own twin, since a callback refuses like itself. -/
theorem Reachable.twins (h : Reachable labels s) : Twins labels labels s s := by
  induction h with
  | fresh => exact .fresh
  | line text _ ih => exact .line text ih
  | watch onUpdate bytes x _ ih => exact .watch onUpdate x onUpdate x bytes ih fun _ => rfl

/-- **Every session has taken some lines** and nothing else. -/
theorem Reachable.exists_after (h : Reachable labels s) :
    ∃ lines, s = ({ labels } : Session).after lines := by
  obtain ⟨lines, hs, -⟩ := h.twins.exists_after
  exact ⟨lines, hs⟩

/-- **Every set is sound.** The set of any text is; so is that of a session
that was given any lines and streams, with lines that were rejected and
callbacks that failed among them, and so are the sets that it answers
further lines with. And labels decide nothing but the labels: the set of a
text under others is the same set relabelled, and two sessions with labels
of their own that are given the same have the same set but for the
labels. -/
theorem reachable_isSound (labels : Labels) :
    (∀ text, (DiagnosticSet.ofText labels text).IsSound labels) ∧
    (∀ s, Reachable labels s → s.current.IsSound labels ∧
      ∀ lines, ∀ set ∈ s.updates lines, set.IsSound labels) ∧
    (∀ other text,
      (DiagnosticSet.ofText labels text).relabel other = DiagnosticSet.ofText other text) ∧
    ∀ other s t, Twins labels other s t → s.current.relabel other = t.current := by
  refine ⟨DiagnosticSet.isSound_ofText labels, fun s h => ?_,
    DiagnosticSet.relabel_ofText, fun other s t h => ?_⟩
  · obtain ⟨taken, rfl⟩ := h.exists_after
    refine ⟨?_, fun lines set hset => ?_⟩
    · rw [current_after]
      cases (taken.filterMap document?).getLast? with
      | none => exact DiagnosticSet.isSound_empty labels
      | some error => exact isSound_diagnosed labels error
    · rw [updates_eq, labels_after] at hset
      obtain ⟨error, -, rfl⟩ := List.mem_map.1 hset
      exact isSound_diagnosed labels error
  · obtain ⟨taken, rfl, rfl⟩ := h.exists_after
    rw [current_after, current_after]
    cases (taken.filterMap document?).getLast? with
    | none => rfl
    | some error => exact relabel_diagnosed labels other error

/-- A callback that takes no set. -/
def refuse (_ : DiagnosticSet) (u : Unit) : Run Unit := ⟨u, [], some (.io .notText)⟩

/-- A stream whose only set is refused, a line that is rejected, and a
document; and the same under other labels. -/
theorem reachable_isSound_refused :
    let warned : Labels := ⟨.warning, "w"⟩
    let before (labels : Labels) : Session :=
      ((watch refuse (encode "\x7b\x7d") ({ labels }, ())).state.1.step "x").2
    let run (labels : Labels) : Session := ((before labels).step (document "a:7:1: boom")).2
    Reachable {} (run {}) ∧ (run {}).current.paths = ["a"] ∧ (run {}).current.IsSound {} ∧
      Twins {} warned (run {}) (run warned) ∧
      (run {}).current.relabel warned = (run warned).current := by
  intro warned before run
  obtain ⟨-, hsound, -, htwins⟩ := reachable_isSound {}
  have hbefore : Reachable {} (before {}) := .line _ (.watch _ _ _ .fresh)
  have hrun : Reachable {} (run {}) := .line _ hbefore
  have hpaths : (run {}).current.paths = ["a"] := by
    obtain ⟨taken, htaken⟩ := hbefore.exists_after
    have hlabels : (before {}).labels = {} := by rw [htaken, labels_after]
    have hcurrent : (run {}).current = diagnosed {} (some "a:7:1: boom") := by
      simp only [run]
      rw [step_document, current_replace, hlabels]
    rw [hcurrent]
    decide
  have hsame : Twins {} warned (run {}) (run warned) :=
    .line _ (.line _ (.watch _ _ _ _ _ .fresh (.of_relabel (fun _ _ => rfl) () _)))
  exact ⟨hrun, hpaths, (hsound _ hrun).1, hsame, htwins warned _ _ hsame⟩

end Session

end BuildDiagnostics
