import BuildDiagnostics.Proofs.Toml.Keys
import BuildDiagnostics.Settings.Decode
/-!
# Settings field by field

The fields of a section are read one after the other, and the first that
cannot be read ends it. As no two of them have one name, the order does not
matter: the section can be read if each of its fields can be taken
(`exists_readFields_iff`), and what it says of one part is what the field
of that part says, whatever the others are (`IsPart.lookup`). A field
without a setter is taken if every number in it has a value that can be
held (`checkNumbers_eq_ok_iff`).
-/


namespace BuildDiagnostics

open Toml

/-! ## Numbers -/

/-- A value that is no number, or a number that can be held: a fraction within
the range of doubles, or an integer of 128 bits, signed or unsigned. -/
def Toml.Value.IsHeld : Value → Prop
  | .integer n => ∃ i, n = some i ∧ -(Nat.pow 2 127 : Int) ≤ i ∧ i < Nat.pow 2 128
  | .float x => x.isSome
  | _ => True

/-- Every number within a value can be held. -/
def Toml.Value.NumbersHeld (v : Value) : Prop := ∀ w, Value.Within w v → w.IsHeld

/-- Every number within the values of some entries can be held. -/
def Toml.Entries.NumbersHeld (es : Entries) : Prop := ∀ e ∈ es, e.2.2.NumbersHeld

theorem Toml.Value.IsScalar.numbersHeld_iff {v : Value} (h : v.IsScalar) :
    v.NumbersHeld ↔ v.IsHeld := by
  simp [Value.NumbersHeld, h.within_iff]

theorem Toml.Value.numbersHeld_table {standing : Standing} {es : Entries} :
    (Value.table standing es).NumbersHeld ↔ es.NumbersHeld := by
  constructor
  · exact fun h e he w hw => h w (.entry he hw)
  · intro h w hw
    cases hw with
    | self => trivial
    | entry he hw => exact h _ he w hw

theorem Toml.Value.numbersHeld_array {ofTables : Bool} {items : List Node} :
    (Value.array ofTables items).NumbersHeld ↔ ∀ n ∈ items, n.2.NumbersHeld := by
  constructor
  · exact fun h n hn w hw => h w (.item hn hw)
  · intro h w hw
    cases hw with
    | self => trivial
    | item hn hw => exact h _ hn w hw

namespace Settings

theorem tooLarge?_eq_none_iff {v : Value} : tooLarge? v = none ↔ v.IsHeld := by
  cases v with
  | integer n => cases n <;> simp [tooLarge?, Value.IsHeld]
  | float x => cases x <;> simp [tooLarge?, Value.IsHeld]
  | _ => simp [tooLarge?, Value.IsHeld]

/-- A part read after another: both can be read. -/
theorem bind_eq_ok_iff {ε α β : Type} {x : Except ε α} {f : α → Except ε β} {b : β} :
    (x >>= f) = .ok b ↔ ∃ a, x = .ok a ∧ f a = .ok b := by
  cases x with
  | error e => exact ⟨nofun, nofun⟩
  | ok a => exact ⟨fun h => ⟨a, rfl, h⟩, fun ⟨_, rfl, h⟩ => h⟩

/-- Other words for an error leave success as it is. -/
theorem mapError_eq_ok_iff {ε δ α : Type} {x : Except ε α} {f : ε → δ} {a : α} :
    x.mapError f = .ok a ↔ x = .ok a := by
  cases x <;> simp [Except.mapError]

theorem checkNumbers_eq_ok_iff_of_isScalar {v : Value} (h : v.IsScalar) (span : Span) :
    checkNumbers span v = .ok () ↔ v.NumbersHeld := by
  rw [h.numbersHeld_iff, ← tooLarge?_eq_none_iff]
  cases v with
  | array | table => exact h.elim
  | _ =>
    simp only [checkNumbers]
    split <;> simp [*]

mutual

/-- **A field that does not matter** is passed over if its numbers can be
held. -/
theorem checkNumbers_eq_ok_iff (span : Span) :
    ∀ v, checkNumbers span v = .ok () ↔ v.NumbersHeld
  | .array ofTables items => by
    rw [checkNumbers, checkItems_eq_ok_iff items, Value.numbersHeld_array]
  | .table standing entries => by
    rw [checkNumbers, checkEntries_eq_ok_iff entries, Value.numbersHeld_table]
    rfl
  | .string s => checkNumbers_eq_ok_iff_of_isScalar (v := .string s) trivial span
  | .integer n => checkNumbers_eq_ok_iff_of_isScalar (v := .integer n) trivial span
  | .float x => checkNumbers_eq_ok_iff_of_isScalar (v := .float x) trivial span
  | .boolean b => checkNumbers_eq_ok_iff_of_isScalar (v := .boolean b) trivial span
  | .datetime => checkNumbers_eq_ok_iff_of_isScalar (v := .datetime) trivial span

theorem checkItems_eq_ok_iff :
    ∀ items, checkItems items = .ok () ↔ ∀ n ∈ items, n.2.NumbersHeld
  | [] => by simp [checkItems]
  | (span, v) :: items => by
    rw [checkItems, bind_eq_ok_iff, List.forall_mem_cons, ← checkNumbers_eq_ok_iff span v,
      ← checkItems_eq_ok_iff items]
    exact ⟨fun ⟨_, h⟩ => h, fun h => ⟨(), h⟩⟩

theorem checkEntries_eq_ok_iff :
    ∀ entries, checkEntries entries = .ok () ↔ ∀ e ∈ entries, e.2.2.NumbersHeld
  | [] => by simp [checkEntries]
  | (key, span, v) :: entries => by
    rw [checkEntries, bind_eq_ok_iff, List.forall_mem_cons, ← checkNumbers_eq_ok_iff span v,
      ← checkEntries_eq_ok_iff entries]
    exact ⟨fun ⟨_, h⟩ => h, fun h => ⟨(), h⟩⟩

end

/-! ## The loop over the fields -/

variable {α β : Type} {setters : List (String × (Node → α → Except Complaint α))} {start a b : α}
  {es : Entries} {name : String} {node : Node} {part : α → β} {read : Node → Except Complaint β}

/-- A field without a setter. -/
theorem exists_takeField_iff_of_lookup (h : setters.lookup name = none) :
    (∃ b, takeField setters a (name, node) = .ok b) ↔ node.2.NumbersHeld := by
  rw [← checkNumbers_eq_ok_iff node.1]
  simp only [takeField, h, bind_eq_ok_iff]
  exact ⟨fun ⟨_, _, hcheck, _⟩ => hcheck, fun hcheck => ⟨a, (), hcheck, rfl⟩⟩

theorem readFields_cons {e : Key × Node} :
    readFields setters start (fieldsOf (e :: es)) = .ok b ↔
      ∃ mid, takeField setters start (e.1.name, e.2) = .ok mid ∧
        readFields setters mid (fieldsOf es) = .ok b :=
  bind_eq_ok_iff

/-- **A section can be read if each of its fields can be taken.** -/
theorem exists_readFields_iff {ok : Key × Node → Prop}
    (h : ∀ e ∈ es, ∀ a, (∃ b, takeField setters a (e.1.name, e.2) = .ok b) ↔ ok e) (start : α) :
    (∃ b, readFields setters start (fieldsOf es) = .ok b) ↔ ∀ e ∈ es, ok e := by
  induction es generalizing start with
  | nil => exact ⟨fun _ => nofun, fun _ => ⟨start, rfl⟩⟩
  | cons e es ih =>
    obtain ⟨he, hes⟩ := List.forall_mem_cons.mp h
    simp only [readFields_cons, List.forall_mem_cons, ← he start]
    constructor
    · rintro ⟨b, mid, hmid, hb⟩
      exact ⟨⟨mid, hmid⟩, (ih hes mid).mp ⟨b, hb⟩⟩
    · rintro ⟨⟨mid, hmid⟩, hall⟩
      obtain ⟨b, hb⟩ := (ih hes mid).mpr hall
      exact ⟨b, mid, hmid, hb⟩

/-- A part of what a section says that the field of one name sets and the
others leave alone. -/
structure IsPart (setters : List (String × (Node → α → Except Complaint α))) (name : String)
    (part : α → β) (read : Node → Except Complaint β) : Prop where
  /-- The field of that name sets the part to what it says. -/
  own : ∀ node a, (takeField setters a (name, node)).map part = read node
  /-- Any other field leaves it as it is. -/
  other : ∀ f a b, f.1 ≠ name → takeField setters a f = .ok b → part b = part a

/-- The field of a part is taken if it can be read. -/
theorem IsPart.exists_takeField_iff (h : IsPart setters name part read) (a : α) :
    (∃ b, takeField setters a (name, node) = .ok b) ↔ ∃ x, read node = .ok x := by
  rw [← h.own node a]
  cases takeField setters a (name, node) with
  | error e => exact ⟨nofun, nofun⟩
  | ok b => exact ⟨fun _ => ⟨_, rfl⟩, fun _ => ⟨_, rfl⟩⟩

/-- A field without a setter leaves all as it is. -/
theorem eq_of_takeField {f : String × Node} (hlookup : setters.lookup f.1 = none)
    (h : takeField setters a f = .ok b) : b = a := by
  simp only [takeField, hlookup, bind_eq_ok_iff] at h
  obtain ⟨_, _, ⟨⟩⟩ := h
  rfl

/-- **Fields are independent.** What a section says of a part is what the
field of that part says, and without that field it is as at the start. -/
theorem IsPart.find? (h : IsPart setters name part read) (hnames : es.names.Nodup)
    (hread : readFields setters start (fieldsOf es) = .ok b) :
    (es.find? name).elim (.ok (part start)) read = .ok (part b) := by
  induction es generalizing start with
  | nil =>
    cases hread
    rfl
  | cons e es ih =>
    obtain ⟨he, hes⟩ := List.nodup_cons.mp hnames
    obtain ⟨mid, hmid, hrest⟩ := readFields_cons.mp hread
    have hlater := ih hes hrest
    by_cases hname : e.1.name = name
    · subst hname
      rw [Entries.find?_eq_none_iff.mpr he] at hlater
      rw [Entries.find?_of_mem hnames List.mem_cons_self, Option.elim_some, ← h.own e.2 start,
        hmid, ← hlater]
      rfl
    · rwa [Entries.find?_cons_of_ne hname, ← h.other _ _ _ hname hmid]

end Settings

end BuildDiagnostics
