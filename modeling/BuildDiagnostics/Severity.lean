/-!
# Severity

How an editor presents a diagnostic. All diagnostics of one error share
the severity that the settings choose; unless they choose, it is an error.
-/


namespace BuildDiagnostics

/-- How serious a diagnostic is. -/
inductive Severity where
  /-- A failure that stopped the evaluation of the build file. -/
  | error
  /-- The same place, shown less prominently. -/
  | warning
deriving DecidableEq

namespace Severity

/-- The name in settings and in reports. -/
def name : Severity → String
  | error => "error"
  | warning => "warning"

/-- The severity of a name. -/
def ofName? : String → Option Severity
  | "error" => some error
  | "warning" => some warning
  | _ => none

/-- The name for inspection. -/
def inspect : Severity → String
  | error => "Error"
  | warning => "Warning"

/-- A name is read back as its severity. -/
theorem ofName?_name (s : Severity) : ofName? s.name = some s := by
  cases s <;> rfl

/-- And no other name is. -/
theorem name_of_ofName? {text : String} {s : Severity} (h : ofName? text = some s) :
    s.name = text := by
  revert h
  fun_cases ofName? text with
  | case1 | case2 =>
    rintro ⟨⟩
    rfl
  | case3 => nofun

/-- The names are these two. -/
theorem isSome_ofName?_iff {text : String} :
    (ofName? text).isSome ↔ text = "error" ∨ text = "warning" := by
  constructor
  · intro h
    obtain ⟨s, hs⟩ := Option.isSome_iff_exists.mp h
    rw [← name_of_ofName? hs]
    cases s with
    | error => exact .inl rfl
    | warning => exact .inr rfl
  · rintro (rfl | rfl) <;> rfl

end Severity

end BuildDiagnostics
