import BuildDiagnostics.Log
import BuildDiagnostics.ToolError
/-!
# Runs

A step of the tool's work reaches a state, logs some records, and may fail.
A failure keeps the state that was reached by then. Steps follow one
another with `andThen`: nothing happens after a failure, and grouping the
steps differently changes nothing (`andThen_assoc`).
-/


namespace BuildDiagnostics

/-- What a step of the work leaves behind. -/
structure Run (σ : Type) where
  /-- The state it reached. -/
  state : σ
  /-- The records it logged. -/
  log : List Log.Record := []
  /-- The failure that ended it, if it failed. -/
  error : Option ToolError := none

namespace Run

variable {σ τ υ : Type}

/-- A step that reaches a state and does nothing else. -/
def pure (s : σ) : Run σ := ⟨s, [], none⟩

/-- A step and what comes after it, unless it failed. -/
def andThen (r : Run σ) (next : σ → Run σ) : Run σ :=
  match r.error with
  | some _ => r
  | none => ⟨(next r.state).state, r.log ++ (next r.state).log, (next r.state).error⟩

/-- The same step with its state seen in another way. -/
def map (f : σ → τ) (r : Run σ) : Run τ := ⟨f r.state, r.log, r.error⟩

/-- The same step with records before its own. -/
def logged (records : List Log.Record) (r : Run σ) : Run σ :=
  { r with log := records ++ r.log }

@[simp] theorem pure_andThen (s : σ) (next : σ → Run σ) : (pure s).andThen next = next s := by
  simp [pure, andThen]

@[simp] theorem andThen_pure (r : Run σ) : r.andThen pure = r := by
  unfold andThen pure
  split
  · rfl
  · next h => cases r; simp_all

/-- **Only the order of the steps matters.** -/
theorem andThen_assoc (r : Run σ) (f g : σ → Run σ) :
    (r.andThen f).andThen g = r.andThen fun s => (f s).andThen g := by
  rcases r with ⟨s, log, error⟩
  cases error with
  | some e => rfl
  | none => cases h : (f s).error <;> simp [andThen, h]

/-- Nothing comes after a failure. -/
theorem andThen_of_error {r : Run σ} {e : ToolError} (h : r.error = some e)
    (next : σ → Run σ) : r.andThen next = r := by
  simp [andThen, h]

/-- After a step without failure the next one has its way. -/
theorem state_andThen {r : Run σ} (h : r.error = none) (next : σ → Run σ) :
    (r.andThen next).state = (next r.state).state := by
  rw [andThen, h]

theorem log_andThen {r : Run σ} (h : r.error = none) (next : σ → Run σ) :
    (r.andThen next).log = r.log ++ (next r.state).log := by
  rw [andThen, h]

theorem error_andThen {r : Run σ} (h : r.error = none) (next : σ → Run σ) :
    (r.andThen next).error = (next r.state).error := by
  rw [andThen, h]

end Run

end BuildDiagnostics
