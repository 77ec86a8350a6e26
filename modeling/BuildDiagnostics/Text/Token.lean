/-!
# Reading a fixed text

A reader takes a token from the start of a list and leaves the rest.
`after?` is the reader of a token that is known beforehand, and `afterEach`
goes through a list and stops wherever that token stands.
-/


namespace BuildDiagnostics

namespace Text

variable {α : Type} [DecidableEq α]

/-- What follows `token` in a list that starts with it. -/
def after? (token s : List α) : Option (List α) :=
  if token.isPrefixOf s then some (s.drop token.length) else none

/-- **Nothing but the token is taken.** -/
theorem after?_eq_some_iff {token s rest : List α} :
    after? token s = some rest ↔ s = token ++ rest := by
  unfold after?
  constructor
  · intro h
    split at h
    · next hp =>
      obtain ⟨t, rfl⟩ := List.isPrefixOf_iff_prefix.1 hp
      simpa using h
    · cases h
  · rintro rfl
    simp

/-- What follows each `token` in a list, from the left. The search goes on
where a token that was found ends: `skip` elements still belong to it. -/
def afterEach (token : List α) (skip : Nat) : List α → List (List α)
  | [] => []
  | c :: s =>
    match skip with
    | skip + 1 => afterEach token skip s
    | 0 =>
      match after? token (c :: s) with
      | some rest => rest :: afterEach token (token.length - 1) s
      | none => afterEach token 0 s

end Text

end BuildDiagnostics
