/-!
# Maps that keep their order

A map from keys to values that remembers the order in which its keys were
first put in. A key that is put in again keeps its turn and takes the new
value (`keys_insert`, `get?_insert`). Keys are stored apart from the values,
and no key is stored twice.
-/


namespace BuildDiagnostics

/-- Keys with a value each, in order. -/
@[ext] structure OrderedMap (κ α : Type) where
  /-- The keys and their values. -/
  entries : List (κ × α)
  /-- No key is there twice. -/
  nodup_keys : (entries.map Prod.fst).Nodup
deriving DecidableEq

namespace OrderedMap

variable {κ α : Type}

/-- The map without keys. -/
def empty : OrderedMap κ α := ⟨[], List.nodup_nil⟩

/-- The keys, in order. -/
def keys (m : OrderedMap κ α) : List κ := m.entries.map Prod.fst

/-- The values, in the order of their keys. -/
def values (m : OrderedMap κ α) : List α := m.entries.map Prod.snd

/-- How many keys there are. -/
def size (m : OrderedMap κ α) : Nat := m.entries.length

/-- Whether there are none. -/
def isEmpty (m : OrderedMap κ α) : Bool := m.entries.isEmpty

variable [DecidableEq κ]

/-- The value of a key. -/
def get? (m : OrderedMap κ α) (key : κ) : Option α :=
  (m.entries.find? (·.1 = key)).map Prod.snd

/-- Entries with a value put in: it takes the turn of the one with the same
key, or comes last. -/
def put (key : κ) (value : α) : List (κ × α) → List (κ × α)
  | [] => [(key, value)]
  | e :: es => if e.1 = key then (key, value) :: es else e :: put key value es

/-- The keys after `put` are those before it, and a new one at the end. -/
theorem map_fst_put (key : κ) (value : α) (es : List (κ × α)) :
    (put key value es).map Prod.fst = if key ∈ es.map Prod.fst then es.map Prod.fst
      else es.map Prod.fst ++ [key] := by
  induction es with
  | nil => simp [put]
  | cons e es ih =>
    rw [put]
    by_cases h : e.1 = key
    · simp [h]
    · rw [if_neg h, List.map_cons, ih]
      by_cases hm : key ∈ es.map Prod.fst
      · simp [hm]
      · simp [hm, Ne.symm h]

/-- After `put`, the key has the new value and the others their own. -/
theorem find?_put (key : κ) (value : α) (es : List (κ × α)) (k : κ) :
    ((put key value es).find? (·.1 = k)).map Prod.snd =
      if key = k then some value else (es.find? (·.1 = k)).map Prod.snd := by
  induction es with
  | nil => by_cases h : key = k <;> simp [put, h]
  | cons e es ih =>
    rw [put]
    by_cases h : e.1 = key
    · by_cases hk : key = k <;> simp [h, hk]
    · rw [if_neg h]
      by_cases hk : e.1 = k
      · have : key ≠ k := fun hd => h (hk.trans hd.symm)
        simp [hk, this]
      · simp [hk, ih]

/-- The map with a value for a key. -/
def insert (m : OrderedMap κ α) (key : κ) (value : α) : OrderedMap κ α where
  entries := put key value m.entries
  nodup_keys := by
    rw [map_fst_put]
    split
    · exact m.nodup_keys
    · next h =>
      refine List.nodup_append.2 ⟨m.nodup_keys, by simp, ?_⟩
      rintro k hk _ hkey rfl
      rw [List.mem_singleton.1 hkey] at hk
      exact h hk

/-- **A key comes in at the end, and stays where it is.** -/
theorem keys_insert (m : OrderedMap κ α) (key : κ) (value : α) :
    (m.insert key value).keys = if key ∈ m.keys then m.keys else m.keys ++ [key] :=
  map_fst_put key value m.entries

/-- **A key has the value that it was given last.** -/
theorem get?_insert (m : OrderedMap κ α) (key : κ) (value : α) (k : κ) :
    (m.insert key value).get? k = if key = k then some value else m.get? k :=
  find?_put key value m.entries k

/-- The map that some pairs are put into, one after the other. -/
def ofList (ps : List (κ × α)) : OrderedMap κ α :=
  ps.foldl (fun m p => m.insert p.1 p.2) empty

end OrderedMap

end BuildDiagnostics
