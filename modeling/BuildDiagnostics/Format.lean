/-!
# Formats

The form of reports: text for people, or JSON for programs.
-/


namespace BuildDiagnostics

/-- The form of reports. -/
inductive Format where
  /-- For people. -/
  | human
  /-- For programs. -/
  | json
deriving DecidableEq

namespace Format

/-- The name in settings and on the command line. -/
def name : Format → String
  | human => "human"
  | json => "json"

/-- The names, in the order in which a message lists them. -/
def names : List String := [human.name, json.name]

/-- The form of a name. -/
def ofName? : String → Option Format
  | "human" => some human
  | "json" => some json
  | _ => none

/-- The name for inspection. -/
def inspect : Format → String
  | human => "Human"
  | json => "Json"

/-- A name is read back as its form. -/
theorem ofName?_name (f : Format) : ofName? f.name = some f := by
  cases f <;> rfl

/-- And no other name is. -/
theorem name_of_ofName? {text : String} {f : Format} (h : ofName? text = some f) :
    f.name = text := by
  revert h
  fun_cases ofName? text with
  | case1 | case2 =>
    rintro ⟨⟩
    rfl
  | case3 => nofun

/-- The names are these two. -/
theorem isSome_ofName?_iff {text : String} :
    (ofName? text).isSome ↔ text = "human" ∨ text = "json" := by
  constructor
  · intro h
    obtain ⟨f, hf⟩ := Option.isSome_iff_exists.mp h
    rw [← name_of_ofName? hf]
    cases f with
    | human => exact .inl rfl
    | json => exact .inr rfl
  · rintro (rfl | rfl) <;> rfl

end Format

end BuildDiagnostics
