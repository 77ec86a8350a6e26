import BuildDiagnostics.Run
/-!
# Output

Output goes to a sink that may have limited room. Writing takes as many
bytes as there is room for; if they are not all of them, the sink is full
and the write fails.
-/


namespace BuildDiagnostics

/-- What has been written, and how many more bytes there is room for. -/
structure Sink where
  /-- The bytes written. -/
  written : List UInt8 := []
  /-- The room that is left; none stands for no limit. -/
  room : Option Nat := none
deriving DecidableEq

namespace Sink

/-- Why a full sink takes nothing. -/
def full : IoCause := .other "write limit reached"

/-- The sink after it took what it could of some bytes. -/
def take (s : Sink) (bytes : List UInt8) : Sink :=
  match s.room with
  | none => { s with written := s.written ++ bytes }
  | some n => ⟨s.written ++ bytes.take n, some (n - bytes.length)⟩

/-- Whether there is room for some bytes. -/
def fits (s : Sink) (bytes : List UInt8) : Bool :=
  match s.room with
  | none => true
  | some n => bytes.length ≤ n

/-- Writes bytes; `failure` is what it means that they do not fit. -/
def write (failure : IoCause → ToolError) (bytes : List UInt8) (s : Sink) : Run Sink :=
  ⟨s.take bytes, [], if s.fits bytes then none else some (failure full)⟩

/-- Writing two lists of bytes is writing one after the other. -/
theorem take_append (s : Sink) (a b : List UInt8) : s.take (a ++ b) = (s.take a).take b := by
  rcases s with ⟨w, _ | n⟩
  · simp [take]
  · simp [take, List.take_append, Nat.sub_sub]

end Sink

end BuildDiagnostics
