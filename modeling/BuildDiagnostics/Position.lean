/-!
# Positions and ranges

Editors count lines and characters from zero. A `Position` is such a pair,
ordered by line first, and a `Range` holds two of them in order, whichever
way round they were given.
-/


namespace BuildDiagnostics

/-- A zero-based line and a zero-based character within it. -/
@[ext] structure Position where
  /-- The line. -/
  line : UInt32
  /-- The character within the line. -/
  character : UInt32
deriving DecidableEq

namespace Position

/-- Earlier by line, and on one line by character. -/
protected def le (a b : Position) : Prop :=
  a.line < b.line ∨ a.line = b.line ∧ a.character ≤ b.character

instance : LE Position := ⟨Position.le⟩

instance (a b : Position) : Decidable (a ≤ b) :=
  inferInstanceAs (Decidable (a.line < b.line ∨ a.line = b.line ∧ a.character ≤ b.character))

/-- What the order says, in numbers. -/
theorem le_iff {a b : Position} : a ≤ b ↔ a.line.toNat < b.line.toNat ∨
    a.line.toNat = b.line.toNat ∧ a.character.toNat ≤ b.character.toNat := by
  rw [UInt32.toNat_inj, ← UInt32.lt_iff_toNat_lt, ← UInt32.le_iff_toNat_le]
  exact Iff.rfl

/-- The order is total. -/
theorem le_total (a b : Position) : a ≤ b ∨ b ≤ a := by
  rw [le_iff, le_iff]
  omega

/-- Positions at or before each other are one. -/
theorem le_antisymm {a b : Position} (h : a ≤ b) (h' : b ≤ a) : a = b := by
  rw [le_iff] at h h'
  exact Position.ext (UInt32.toNat_inj.1 (by omega)) (UInt32.toNat_inj.1 (by omega))

/-- Which of two positions comes first. -/
def compare (a b : Position) : Ordering :=
  if a = b then .eq else if a ≤ b then .lt else .gt

/-- The position as text, line and character with a colon between. -/
def text (p : Position) : String :=
  toString p.line.toNat ++ ":" ++ toString p.character.toNat

/-- The position with the names of its parts, for inspection. -/
def inspect (p : Position) : String :=
  "Position \x7b line: " ++ toString p.line.toNat ++ ", character: " ++
    toString p.character.toNat ++ " \x7d"

end Position

/-- A half-open stretch between two positions in order. -/
@[ext] structure Range where
  /-- Where it starts. -/
  start : Position
  /-- The first position after it. -/
  stop : Position
  /-- It does not end before it starts. -/
  start_le_stop : start ≤ stop
deriving DecidableEq

namespace Range

/-- The range between two positions, in either order. -/
def between (a b : Position) : Range :=
  if h : a ≤ b then ⟨a, b, h⟩ else ⟨b, a, (Position.le_total a b).resolve_left h⟩

/-- The empty range at a position. -/
def point (p : Position) : Range := between p p

/-- Whether the range covers nothing. -/
def isEmpty (r : Range) : Bool := r.start = r.stop

@[simp] theorem start_point (p : Position) : (point p).start = p := by
  unfold point between; split <;> rfl

@[simp] theorem stop_point (p : Position) : (point p).stop = p := by
  unfold point between; split <;> rfl

/-- The range with the names of its parts, for inspection. -/
def inspect (r : Range) : String :=
  "Range \x7b start: " ++ r.start.inspect ++ ", end: " ++ r.stop.inspect ++ " \x7d"

end Range

end BuildDiagnostics
