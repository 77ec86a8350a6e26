import BuildDiagnostics.Proofs.Json.Detach
import BuildDiagnostics.Proofs.Json.Written
import BuildDiagnostics.Proofs.Session.Forms
import BuildDiagnostics.Proofs.Session.Members
/-!
# Documents that are objects

A line with a JSON object, with any blanks in it and around it, is a
document when its members allow that (`document?_object`), and no other
members than those with the key `error` have a say: there is one of them at
most, and its value is null or a string. Then the diagnostics are those of
the string. In any other case the line is rejected, and the session is what
it was but for the count (`step_object`).
-/


namespace BuildDiagnostics

namespace Json

variable {c : Char} {v : Datum}

theorem isWhite_of_isBlank (h : isBlank c) : Text.isWhite c := by
  simp only [isBlank, Bool.or_eq_true, beq_iff_eq] at h
  rcases h with ((rfl | rfl) | rfl) | rfl <;> decide

/-- **Trimming leaves an object.** It takes the blanks around it away and
stops at its braces. -/
theorem Document.trim {line : String} {members : List (Option String × Datum)}
    (h : Document line.toList (.object members)) :
    Document (Text.trim line).toList (.object members) := by
  obtain ⟨b, x, e, hline, hb, he, hx⟩ := h.exists_value
  obtain ⟨y, hy⟩ := hx.exists_braces
  have hstart : Text.StartsOutside Text.isWhite x := by
    rw [hy]
    exact Text.startsOutside_cons.2 (by decide)
  have hend : Text.StartsOutside Text.isWhite x.reverse := by
    rw [hy, List.reverse_cons, List.reverse_append]
    exact Text.startsOutside_cons.2 (by decide)
  have hne : x ≠ [] := by
    rw [hy]
    exact List.cons_ne_nil _ _
  have hstrip : Text.strip Text.isWhite line.toList = x := by
    rw [hline]
    exact Text.strip_append (fun c hc => isWhite_of_isBlank (hb c hc))
      (fun c hc => isWhite_of_isBlank (he c hc)) hne hstart hend
  rw [Text.trim, String.toList_ofList, hstrip]
  exact .mk .none hx .none

theorem Datum.optional?_eq_some_iff {error : Option String} :
    v.optional? = some error ↔
      v = .null ∧ error = none ∨ ∃ t, v = .string (some t) ∧ error = some t := by
  cases v with
  | null => simp [optional?, eq_comm]
  | string text => simp [optional?, eq_comm, and_comm]
  | boolean => simp [optional?]
  | number => simp [optional?]
  | array => simp [optional?]
  | object => simp [optional?]

end Json

namespace Session

open Json

variable {s t r : List Char} {members : List (Option String × Datum)}

/-! ## Reading -/

/-- **An object is read by its members.** -/
theorem toOption_readTerminated_object (hs : Blanks s t) (h : ValueAt t (.object members) r) :
    (readTerminated s).toOption = (objectError? members).map (·, r) := by
  have ht := h.dropBlanks_eq hs
  cases h with
  | emptyObject h =>
    have hclose : dropBlanks _ = _ := h.dropBlanks_eq_cons (by decide)
    rw [readTerminated, ht]
    simp only [readObject, hclose]
    rfl
  | object h =>
    obtain ⟨u, hu⟩ := h.exists_dropBlanks
    have hread := toOption_readMembers h hu none
    rw [readTerminated, ht, ← foldlM_takeMember]
    simp only [readObject, hu]
    rcases cases_of_toOption hread with ⟨e, he, hnone⟩ | ⟨found, hok, hsome⟩
    · rw [he, hnone]
      rfl
    · rw [hok, hsome]
      rfl

theorem document?_object {line : String} (h : Document (Text.trim line).toList (.object members)) :
    document? line = objectError? members := by
  cases h with
  | mk hs h hu => exact toOption_readDocument (toOption_readTerminated_object hs h) hu.dropBlanks_eq

/-- When the error text of an object can be taken, and which it is. -/
theorem objectError?_eq_some_iff {error : Option String} :
    objectError? members = some error ↔
      (∀ m ∈ members, m.1.isSome) ∧
        (errorValues members = [] ∧ error = none ∨
          ∃ v, errorValues members = [v] ∧ v.optional? = some error) := by
  rw [objectError?]
  split
  · next hall =>
    rw [and_iff_right (List.all_eq_true.1 hall)]
    cases errorValues members with
    | nil => simp [eq_comm]
    | cons v vs =>
      cases vs with
      | nil => simp
      | cons => simp
  · next hall => exact iff_of_false (by simp) fun h => hall (List.all_eq_true.2 h.1)

/-! ## Lines -/

/-- An object can be taken when it has one error member at most, and a value
there that is null or a string. -/
theorem isSome_objectError?_iff :
    (objectError? members).isSome ↔
      (∀ m ∈ members, m.1.isSome) ∧ (errorValues members).length ≤ 1 ∧
        ∀ v ∈ errorValues members, v = .null ∨ ∃ t, v = .string (some t) := by
  rw [Option.isSome_iff_exists]
  simp only [objectError?_eq_some_iff, Datum.optional?_eq_some_iff, exists_and_left]
  refine and_congr_right fun _ => ?_
  cases errorValues members with
  | nil => simp
  | cons v vs =>
    cases vs with
    | nil => simp [exists_or]
    | cons => simp

theorem step_of_document? {s : Session} {line : String} {error : Option String}
    (h : document? line = some error) :
    s.step line = (.replaced, { s with lineCount := s.lineCount + 1 }.replace error) := by
  have hne : Text.trim line ≠ "" := by
    intro hblank
    rw [document?, hblank, decode_empty] at h
    cases h
  rw [document?] at h
  cases hd : decode (Text.trim line) with
  | error problem =>
    rw [hd] at h
    cases h
  | ok error' =>
    rw [hd] at h
    obtain rfl := Option.some.inj h
    exact step_of_ok hne hd

theorem exists_step_of_document?_eq_none {s : Session} {line : String}
    (hne : Text.trim line ≠ "") (h : document? line = none) :
    ∃ problem, s.step line = (.rejected problem, { s with lineCount := s.lineCount + 1 }) := by
  rw [document?] at h
  cases hd : decode (Text.trim line) with
  | error problem => exact ⟨problem, step_of_error hne hd⟩
  | ok error =>
    rw [hd] at h
    cases h

/-- **What a line with an object does.** It is accepted just when every key
of a member denotes text, `error` is the key of one member at most, and the
value of that member is null or a string. Then the diagnostics are those of
the string, and none without a member `error` or with null for its value,
whatever the other members are. Otherwise the line is rejected with its
number, and the diagnostics stay. -/
theorem step_object (s : Session) {line : String} {members : List (Option String × Datum)}
    (h : Document line.toList (.object members)) :
    let next := (s.step line).2
    let answer := next.answer (s.step line).1
    ((∃ set, answer = .ok (some set)) ↔
      (∀ m ∈ members, m.1.isSome) ∧ (errorValues members).length ≤ 1 ∧
        ∀ v ∈ errorValues members, v = .null ∨ ∃ t, v = .string (some t)) ∧
    (∀ set, answer = .ok (some set) → next.current = set ∧
      ((∀ v ∈ errorValues members, v = .null) → set = ⟨"", .empty⟩) ∧
      ∀ t, .string (some t) ∈ errorValues members → set = .ofText s.labels t) ∧
    ((¬ ∃ set, answer = .ok (some set)) →
      ∃ problem, answer = .error (.session (s.lineCount + 1) problem) ∧
        next.current = s.current) := by
  intro next answer
  have hline := document?_object h.trim
  rw [← isSome_objectError?_iff, ← hline]
  cases hd : document? line with
  | none =>
    have hne : Text.trim line ≠ "" := ne_empty_of_document h.trim
    obtain ⟨problem, hstep⟩ := exists_step_of_document?_eq_none (s := s) hne hd
    have hanswer : answer = .error (.session (s.lineCount + 1) problem) := by
      simp only [answer, next, hstep, Session.answer]
    have hcurrent : next.current = s.current := by
      simp only [next, hstep]
    refine ⟨by simp [hanswer], by simp [hanswer], fun _ => ⟨problem, hanswer, hcurrent⟩⟩
  | some error =>
    have hstep := step_of_document? (s := s) hd
    have hcurrent : next.current = diagnosed s.labels error := by
      simp only [next, hstep, current_replace]
    have hanswer : answer = .ok (some next.current) := by
      simp only [answer, next, hstep, Session.answer]
    refine ⟨by simp [hanswer], ?_, fun hnot => absurd ⟨_, hanswer⟩ hnot⟩
    intro set hset
    obtain rfl : next.current = set := by
      rw [hanswer] at hset
      exact Option.some.inj (Except.ok.inj hset)
    refine ⟨rfl, ?_⟩
    rw [hcurrent]
    -- the error text is that of the one error member, if there is one
    rw [hline, objectError?_eq_some_iff] at hd
    obtain ⟨-, ⟨hnil, rfl⟩ | ⟨v, hv, herror⟩⟩ := hd
    · simp [hnil, diagnosed]
    · rcases Datum.optional?_eq_some_iff.1 herror with ⟨rfl, rfl⟩ | ⟨t, rfl, rfl⟩
      · simp [hv, diagnosed]
      · simp [hv, diagnosed]

/-- An object with blanks, a member that is skipped and an error text, in a
session with the diagnostic of another file. -/
theorem step_object_skipped :
    let s : Session := ⟨{}, .ofText {} "a:1:1: x", 1⟩
    let line := " \x7b\"log\":[\x7b\x7d] ,\"error\":\"b:2:3: y\"\x7d"
    let set : DiagnosticSet := .ofText {} "b:2:3: y"
    Document line.toList
        (.object [(some "log", .array [.object []]),
          (some "error", .string (some "b:2:3: y"))]) ∧
      (s.step line).2.answer (s.step line).1 = .ok (some set) ∧
      s.current.paths = ["a"] ∧ (s.step line).2.current = set ∧
      set.diagnostics = [⟨"b", .point ⟨1, 2⟩, "y", .error, "envd"⟩] := by
  intro s line set
  have hline : line.toList = ' ' :: '\x7b' :: (quote "log" ++ ':' :: '[' :: '\x7b' :: '\x7d' ::
      ']' :: ' ' :: ',' :: (quote "error" ++ ':' :: (quote "b:2:3: y" ++ ['\x7d']))) := by
    decide
  have hlog : ∀ r, ElementAt ('[' :: '\x7b' :: '\x7d' :: ']' :: ' ' :: ',' :: r)
      (.array [.object []]) (',' :: r) := fun r =>
    .mk .none (.array (.last (.mk .none (.emptyObject .none) .none))) (.cons (by decide) .none)
  have herror : MembersAt (quote "error" ++ ':' :: (quote "b:2:3: y" ++ ['\x7d']))
      [(some "error", .string (some "b:2:3: y"))] [] :=
    .last (Value.memberAt_quote_append "error"
      (.mk .none (Value.valueAt_chars (.string "b:2:3: y") _) .none))
  have hdocument : Document line.toList
      (.object [(some "log", .array [.object []]),
        (some "error", .string (some "b:2:3: y"))]) := by
    rw [hline]
    have hmembers := MembersAt.more (Value.memberAt_quote_append "log" (hlog _)) herror
    exact .mk (.cons (by decide) .none) (.object hmembers) .none
  obtain ⟨haccepted, hset, -⟩ := step_object s hdocument
  obtain ⟨set', hanswer⟩ := haccepted.2 (by simp [errorValues, errorKey])
  obtain ⟨hcurrent, -, htext⟩ := hset set' hanswer
  obtain rfl : set' = set := htext _ (by simp [errorValues, errorKey])
  exact ⟨hdocument, hanswer, by decide, hcurrent, by decide⟩

end Session

end BuildDiagnostics
