import BuildDiagnostics.Toml.Document
import Mathlib.Data.List.Perm.Basic
/-!
# One entry for each key

No table of a document has two entries of one name, however deep it stands
(`Entries.isKeyed_of_document?`). A reader of settings relies on it: what a
table says under a name is what its one entry of that name says. The
statements of a document are carried out one by one, and each either adds a
key that is not there or gives a new value to one that is.
-/


namespace BuildDiagnostics

namespace Toml

variable {v w : Value} {node : Node} {es es' : Entries} {s r : List Char} {body : List Assignment}

/-! ## What stands within a value -/

/-- A value within another: that value itself, or one within an item or an
entry of it. -/
inductive Value.Within (w : Value) : Value → Prop
  /-- A value is within itself. -/
  | self : Within w w
  /-- What is within an item is within the array. -/
  | item {ofTables : Bool} {items : List Node} {n : Node} (mem : n ∈ items)
      (within : Within w n.2) : Within w (.array ofTables items)
  /-- What is within the value of an entry is within the table. -/
  | entry {standing : Standing} {es : List (Key × Node)} {e : Key × Node} (mem : e ∈ es)
      (within : Within w e.2.2) : Within w (.table standing es)

/-- A value that has no items and no entries. -/
def Value.IsScalar : Value → Prop
  | .array _ _ => False
  | .table _ _ => False
  | _ => True

theorem Value.IsScalar.within_iff (h : v.IsScalar) : Within w v ↔ w = v := by
  constructor
  · rintro (_ | _ | _)
    · rfl
    · exact h.elim
    · exact h.elim
  · rintro rfl
    exact .self

/-- The names of the keys, in their order. -/
def Entries.names (es : Entries) : List String := es.map fun e => e.1.name

/-- No table within a value has two entries of one name. -/
def Value.IsKeyed (v : Value) : Prop :=
  ∀ standing es, Within (.table standing es) v → (Entries.names es).Nodup

/-- No two entries have one name, and no table within their values has. -/
structure Entries.IsKeyed (es : Entries) : Prop where
  /-- The names differ. -/
  nodup_names : es.names.Nodup
  /-- And so they do further down. -/
  value : ∀ e ∈ es, e.2.2.IsKeyed

theorem Value.isKeyed_table {standing : Standing} {es : Entries} :
    (Value.table standing es).IsKeyed ↔ es.IsKeyed := by
  constructor
  · exact fun h => ⟨h standing es .self, fun e he st sub hs => h st sub (.entry he hs)⟩
  · intro h st sub hs
    cases hs with
    | self => exact h.nodup_names
    | entry he hs => exact h.value _ he st sub hs

theorem Value.isKeyed_array {ofTables : Bool} {items : List Node} :
    (Value.array ofTables items).IsKeyed ↔ ∀ n ∈ items, n.2.IsKeyed := by
  constructor
  · exact fun h n hn st sub hs => h st sub (.item hn hs)
  · intro h st sub hs
    cases hs with
    | item hn hs => exact h _ hn st sub hs

theorem Entries.isKeyed_nil : Entries.IsKeyed [] := ⟨List.nodup_nil, fun _ h => nomatch h⟩

/-! ## Looking up and putting in -/

theorem Entries.find?_eq_none_iff {name : String} : es.find? name = none ↔ name ∉ es.names := by
  simp [Entries.find?, Entries.names, List.find?_eq_none]

theorem Entries.exists_mem_of_find? {name : String} (h : es.find? name = some node) :
    ∃ e ∈ es, e.1.name = name ∧ e.2 = node := by
  obtain ⟨e, he, rfl⟩ := Option.map_eq_some_iff.mp h
  exact ⟨e, List.mem_of_find?_eq_some he, by simpa using List.find?_some he, rfl⟩

theorem Entries.IsKeyed.find? {name : String} (h : es.IsKeyed) (hf : es.find? name = some node) :
    node.2.IsKeyed := by
  obtain ⟨e, he, -, rfl⟩ := Entries.exists_mem_of_find? hf
  exact h.value e he

theorem Entries.find?_cons_of_ne {e : Key × Node} {name : String} (h : e.1.name ≠ name) :
    Entries.find? (e :: es) name = es.find? name := by
  simp [Entries.find?, h]

/-- **The entry of a name** is the only one that has it. -/
theorem Entries.find?_of_mem {e : Key × Node} (h : es.names.Nodup) (he : e ∈ es) :
    es.find? e.1.name = some e.2 := by
  induction es with
  | nil => cases he
  | cons f es ih =>
    obtain ⟨hf, hes⟩ := List.nodup_cons.mp h
    rcases List.mem_cons.mp he with rfl | he
    · simp [Entries.find?]
    · have hne : f.1.name ≠ e.1.name := by
        intro heq
        exact hf (List.mem_map.mpr ⟨e, he, heq.symm⟩)
      rw [Entries.find?_cons_of_ne hne, ih hes he]

/-- What is asked of the entry of a name is asked of every entry that has
the name. -/
theorem Entries.forall_find?_iff {name : String} {P : Node → Prop} (h : es.names.Nodup) :
    (∀ node, es.find? name = some node → P node) ↔ ∀ e ∈ es, e.1.name = name → P e.2 := by
  constructor
  · rintro hall e he rfl
    exact hall e.2 (Entries.find?_of_mem h he)
  · intro hall node hfind
    obtain ⟨e, he, hname, rfl⟩ := Entries.exists_mem_of_find? hfind
    exact hall e he hname

theorem Entries.insert_perm (k : Key) (node : Node) (es : Entries) :
    (es.insert k node).Perm ((k, node) :: es) := by
  induction es with
  | nil => exact .refl _
  | cons e es ih =>
    rw [Entries.insert]
    split
    · exact .refl _
    · exact (ih.cons e).trans (.swap ..)

theorem Entries.IsKeyed.insert {k : Key} (h : es.IsKeyed) (hk : es.find? k.name = none)
    (hn : node.2.IsKeyed) : (es.insert k node).IsKeyed := by
  have hp := es.insert_perm k node
  refine ⟨(hp.map _).nodup_iff.mpr (List.nodup_cons.mpr ⟨?_, h.nodup_names⟩), fun e he => ?_⟩
  · exact Entries.find?_eq_none_iff.mp hk
  · rcases List.mem_cons.mp (hp.mem_iff.mp he) with rfl | he
    · exact hn
    · exact h.value e he

theorem Entries.names_replace (name : String) (node : Node) (es : Entries) :
    (es.replace name node).names = es.names := by
  rw [Entries.names, Entries.replace, List.map_map]
  refine List.map_congr_left fun e _ => ?_
  simp only [Function.comp_apply]
  split <;> rfl

theorem Entries.IsKeyed.replace {name : String} (h : es.IsKeyed) (hn : node.2.IsKeyed) :
    (es.replace name node).IsKeyed := by
  refine ⟨by rw [Entries.names_replace]; exact h.nodup_names, fun e he => ?_⟩
  obtain ⟨f, hf, rfl⟩ := List.mem_map.mp he
  split
  · exact hn
  · exact h.value f hf

/-- A table that was there can be gone into. -/
theorem Entries.IsKeyed.table {name : String} {span : Span} {standing : Standing} {sub : Entries}
    (h : es.IsKeyed) (hf : es.find? name = some (span, .table standing sub)) : sub.IsKeyed :=
  Value.isKeyed_table.mp (h.find? hf)

/-- And so can the last table of an array. -/
theorem Entries.IsKeyed.lastTable {name : String} {span last : Span} {ofTables : Bool}
    {tables : List Node} {standing : Standing} {sub : Entries} (h : es.IsKeyed)
    (hf : es.find? name = some (span, .array ofTables tables))
    (hl : tables.getLast? = some (last, .table standing sub)) : sub.IsKeyed :=
  Value.isKeyed_table.mp (Value.isKeyed_array.mp (h.find? hf) _ (List.mem_of_getLast? hl))

/-- The items of an array, or some of them, with one more at the end. -/
theorem Entries.IsKeyed.replaceItems {name : String} {span : Span} {ofTables : Bool}
    {tables items : List Node} (h : es.IsKeyed)
    (hf : es.find? name = some (span, .array ofTables tables)) (hi : items ⊆ tables)
    (hn : node.2.IsKeyed) :
    (es.replace name (span, .array ofTables (items ++ [node]))).IsKeyed := by
  refine h.replace (Value.isKeyed_array.mpr fun n hm => ?_)
  rcases List.mem_append.mp hm with hm | hm
  · exact Value.isKeyed_array.mp (h.find? hf) n (hi hm)
  · rw [List.mem_singleton.mp hm]
    exact hn

/-! ## Carrying out statements -/

/-- **A value set at the end of a path.** On the way down every table is
either new or was there. -/
theorem Entries.IsKeyed.assign {path : List Key} (h : es.IsKeyed) (hn : node.2.IsKeyed)
    (ha : es.assign node path = some es') : es'.IsKeyed := by
  fun_induction Entries.assign node path es generalizing es' with
  | case2 es k hk =>
    cases ha
    exact h.insert hk hn
  | case4 es k l ks hk ih =>
    obtain ⟨sub, hsub, rfl⟩ := Option.map_eq_some_iff.mp ha
    exact h.insert hk (Value.isKeyed_table.mpr (ih Entries.isKeyed_nil hsub))
  | case5 k l ks es span sub hk ih | case7 k l ks es span sub hk _ ih =>
    obtain ⟨sub', hsub, rfl⟩ := Option.map_eq_some_iff.mp ha
    exact h.replace (Value.isKeyed_table.mpr (ih (h.table hk) hsub))
  | case9 k l ks es span tables hk last standing sub hl _ ih =>
    obtain ⟨sub', hsub, rfl⟩ := Option.map_eq_some_iff.mp ha
    exact h.replaceItems hk (List.dropLast_subset _)
      (Value.isKeyed_table.mpr (ih (h.lastTable hk hl) hsub))
  | case1 | case3 | case6 | case8 | case10 | case11 => cases ha

/-- Edits carried out one after the other. -/
theorem Entries.IsKeyed.foldlM {β : Type} {step : Entries → β → Option Entries} {xs : List β}
    (hstep : ∀ b ∈ xs, ∀ es es', Entries.IsKeyed es → step es b = some es' → es'.IsKeyed)
    (h : es.IsKeyed) (hf : xs.foldlM step es = some es') : es'.IsKeyed := by
  induction xs generalizing es with
  | nil =>
    cases hf
    exact h
  | cons b xs ih =>
    obtain ⟨mid, hmid, hrest⟩ := Option.bind_eq_some_iff.mp hf
    obtain ⟨hb, hxs⟩ := List.forall_mem_cons.mp hstep
    exact ih hxs (hb es mid h hmid) hrest

theorem Entries.IsKeyed.assignAll (h : es.IsKeyed) (hb : ∀ a ∈ body, a.node.2.IsKeyed)
    (ha : es.assignAll body = some es') : es'.IsKeyed :=
  h.foldlM (fun a hm _ _ h => h.assign (hb a hm)) ha

/-- **An edit at the end of the path of a header.** -/
theorem Entries.IsKeyed.below {edit : Key → Entries → Option Entries} {path : List Key}
    (hedit : ∀ {k es es'}, Entries.IsKeyed es → edit k es = some es' → es'.IsKeyed)
    (h : es.IsKeyed) (hb : es.below edit path = some es') : es'.IsKeyed := by
  fun_induction Entries.below edit path es generalizing es' with
  | case2 k es => exact hedit h hb
  | case3 k ks es _ hk ih =>
    obtain ⟨sub, hsub, rfl⟩ := Option.map_eq_some_iff.mp hb
    exact h.insert hk (Value.isKeyed_table.mpr (ih Entries.isKeyed_nil hsub))
  | case5 k ks es _ span standing sub _ hk ih =>
    obtain ⟨sub', hsub, rfl⟩ := Option.map_eq_some_iff.mp hb
    exact h.replace (Value.isKeyed_table.mpr (ih (h.table hk) hsub))
  | case6 k ks es _ span tables hk last standing sub hl ih =>
    obtain ⟨sub', hsub, rfl⟩ := Option.map_eq_some_iff.mp hb
    exact h.replaceItems hk (List.dropLast_subset _)
      (Value.isKeyed_table.mpr (ih (h.lastTable hk hl) hsub))
  | case1 | case4 | case7 | case8 => cases hb

theorem Entries.IsKeyed.addTable {span : Span} {k : Key} (h : es.IsKeyed)
    (hb : ∀ a ∈ body, a.node.2.IsKeyed) (ha : es.addTable span body k = some es') :
    es'.IsKeyed := by
  rw [Entries.addTable] at ha
  split at ha
  · rename_i hk
    obtain ⟨sub, hsub, rfl⟩ := Option.map_eq_some_iff.mp ha
    exact h.insert hk (Value.isKeyed_table.mpr (Entries.isKeyed_nil.assignAll hb hsub))
  · rename_i hk
    obtain ⟨sub, hsub, rfl⟩ := Option.map_eq_some_iff.mp ha
    exact h.replace (Value.isKeyed_table.mpr ((h.table hk).assignAll hb hsub))
  · cases ha

theorem Entries.IsKeyed.addItem {span : Span} {k : Key} (h : es.IsKeyed)
    (hb : ∀ a ∈ body, a.node.2.IsKeyed) (ha : es.addItem span body k = some es') :
    es'.IsKeyed := by
  have hnew {sub} (hsub : Entries.assignAll [] body = some sub) :
      (Value.table .headed sub).IsKeyed :=
    Value.isKeyed_table.mpr (Entries.isKeyed_nil.assignAll hb hsub)
  rw [Entries.addItem] at ha
  split at ha
  · rename_i hk
    obtain ⟨sub, hsub, rfl⟩ := Option.map_eq_some_iff.mp ha
    refine h.insert hk (Value.isKeyed_array.mpr fun n hm => ?_)
    rw [List.mem_singleton.mp hm]
    exact hnew hsub
  · rename_i hk
    obtain ⟨sub, hsub, rfl⟩ := Option.map_eq_some_iff.mp ha
    exact h.replaceItems hk (List.Subset.refl _) (hnew hsub)
  · cases ha

/-! ## Values as they are read -/

theorem isScalar_of_map_integer {n : Option (Option Int)} (h : n.map .integer = some v) :
    v.IsScalar := by
  obtain ⟨n, -, rfl⟩ := Option.map_eq_some_iff.mp h
  trivial

theorem isScalar_of_numeric? (h : numeric? s = some v) : v.IsScalar := by
  revert h
  fun_cases numeric? s with
  | case1 | case6 => exact isScalar_of_map_integer
  | case2 =>
    rintro ⟨⟩
    trivial
  | case5 =>
    intro h
    obtain ⟨x, -, rfl⟩ := Option.map_eq_some_iff.mp h
    trivial
  | case3 | case4 | case7 => nofun

/-- A word is neither an array nor a table. -/
theorem isScalar_of_scalar? (h : scalar? s = some v) : v.IsScalar := by
  revert h
  fun_cases scalar? s with
  | case1 => nofun
  | case2 | case3 | case7 =>
    rintro ⟨⟩
    trivial
  | case4 | case5 | case6 => exact isScalar_of_map_integer
  | case8 => exact isScalar_of_numeric?

theorem Value.IsScalar.isKeyed (h : v.IsScalar) : v.IsKeyed := by
  intro standing es hw
  rw [← h.within_iff.mp hw] at h
  exact h.elim

/-- A reader of values none of which has a name twice. -/
def ReadsKeyed (value? : List Char → Option (Node × List Char)) : Prop :=
  ∀ s n r, value? s = some (n, r) → n.2.IsKeyed

variable {value? : List Char → Option (Node × List Char)}

theorem ReadsKeyed.items? {items : List Node} (hv : ReadsKeyed value?)
    (h : items? value? s = some (items, r)) : ∀ n ∈ items, n.2.IsKeyed := by
  fun_induction Toml.items? value? s generalizing items r with
  | case2 =>
    cases h
    simp
  | case4 s t _ _ v u hread t' _ _ ih =>
    obtain ⟨⟨rest, r'⟩, hrest, heq⟩ := Option.map_eq_some_iff.mp h
    cases heq
    exact List.forall_mem_cons.mpr ⟨hv _ _ _ hread, ih hrest⟩
  | case6 s t _ _ v u hread =>
    cases h
    exact List.forall_mem_singleton.mpr (hv _ _ _ hread)
  | case1 | case3 | case5 | case7 => cases h

theorem ReadsKeyed.member? {a : Assignment} (hv : ReadsKeyed value?)
    (h : member? value? s = some (a, r)) : a.node.2.IsKeyed := by
  simp only [Toml.member?, Option.bind_eq_bind, Option.bind_eq_some_iff] at h
  obtain ⟨_, -, _, -, _, -, _, -, ⟨v, _⟩, hread, heq⟩ := h
  cases heq
  exact hv _ _ _ hread

theorem ReadsKeyed.members? (hv : ReadsKeyed value?)
    (h : members? value? s = some (body, r)) : ∀ a ∈ body, a.node.2.IsKeyed := by
  fun_induction Toml.members? value? s generalizing body r with
  | case2 =>
    cases h
    simp
  | case4 s t _ _ a u hread t' _ _ ih =>
    obtain ⟨⟨rest, r'⟩, hrest, heq⟩ := Option.map_eq_some_iff.mp h
    cases heq
    exact List.forall_mem_cons.mpr ⟨hv.member? hread, ih hrest⟩
  | case6 s t _ _ a u hread =>
    cases h
    exact List.forall_mem_singleton.mpr (hv.member? hread)
  | case1 | case3 | case5 | case7 => cases h

/-- A value, when the values one level further down are known. -/
theorem readsKeyed_of_depth {depth : Nat}
    (hsub : ∀ d, depth = d + 1 → ReadsKeyed (Toml.value? d)) :
    ReadsKeyed (Toml.value? depth) := by
  intro s n r
  fun_cases Toml.value? depth s with
  | case1 d t placed =>
    intro h
    obtain ⟨p, hp, heq⟩ := Option.map_eq_some_iff.mp h
    obtain ⟨⟨items, u⟩, hread, rfl⟩ := Option.map_eq_some_iff.mp hp
    cases heq
    exact Value.isKeyed_array.mpr ((hsub d rfl).items? hread)
  | case2 d t placed =>
    intro h
    obtain ⟨p, hp, heq⟩ := Option.map_eq_some_iff.mp h
    obtain ⟨⟨body, u⟩, hread, hp⟩ := Option.bind_eq_some_iff.mp hp
    obtain ⟨es, hes, hp⟩ := Option.bind_eq_some_iff.mp hp
    cases hp
    cases heq
    exact Value.isKeyed_table.mpr (Entries.isKeyed_nil.assignAll ((hsub d rfl).members? hread) hes)
  | case3 =>
    intro h
    obtain ⟨p, hp, heq⟩ := Option.map_eq_some_iff.mp h
    obtain ⟨⟨text, u⟩, -, rfl⟩ := Option.map_eq_some_iff.mp hp
    cases heq
    exact Value.IsScalar.isKeyed trivial
  | case4 =>
    intro h
    obtain ⟨p, hp, heq⟩ := Option.map_eq_some_iff.mp h
    obtain ⟨v, hread, rfl⟩ := Option.map_eq_some_iff.mp hp
    cases heq
    exact (isScalar_of_scalar? hread).isKeyed

/-- **Every value that is read**, by induction on its levels. -/
theorem readsKeyed_value? (depth : Nat) : ReadsKeyed (Toml.value? depth) := by
  induction depth with
  | zero => exact readsKeyed_of_depth nofun
  | succ depth ih =>
    refine readsKeyed_of_depth fun d hd => ?_
    obtain rfl := Nat.succ.inj hd
    exact ih

/-! ## Documents -/

/-- A statement that sets no value in which a name stands twice. -/
def Statement.IsKeyed : Statement → Prop
  | .assignment a => a.node.2.IsKeyed
  | .header _ _ _ => True

variable {x : Statement} {statements : List Statement}

theorem isKeyed_of_header? (h : header? s = some (x, r)) : x.IsKeyed := by
  revert h
  fun_cases header? s with
  | case1 | case3 =>
    rintro ⟨⟩
    trivial
  | case2 | case4 | case5 => nofun

theorem isKeyed_of_statement? (h : statement? s = some (x, r)) : x.IsKeyed := by
  revert h
  fun_cases statement? s with
  | case1 => exact isKeyed_of_header?
  | case2 =>
    intro h
    obtain ⟨⟨n, u⟩, hread, heq⟩ := Option.map_eq_some_iff.mp h
    cases heq
    exact readsKeyed_value? maxDepth _ _ _ hread
  | case3 => nofun

theorem isKeyed_of_statements? (h : statements? s = some statements) :
    ∀ x ∈ statements, x.IsKeyed := by
  fun_induction statements? s generalizing statements with
  | case2 =>
    cases h
    simp
  | case5 s t _ _ x r hread =>
    cases h
    exact List.forall_mem_singleton.mpr (isKeyed_of_statement? hread)
  | case7 s t _ _ x r hread t' _ _ u _ _ ih =>
    obtain ⟨rest, hrest, rfl⟩ := Option.map_eq_some_iff.mp h
    exact List.forall_mem_cons.mpr ⟨isKeyed_of_statement? hread, ih hrest⟩
  | case1 | case3 | case4 | case6 | case8 => cases h

/-- The statements in their sections are the statements. -/
theorem isKeyed_sections (h : ∀ x ∈ statements, x.IsKeyed) :
    (∀ a ∈ (sections statements).1, a.node.2.IsKeyed) ∧
      ∀ p ∈ (sections statements).2, ∀ a ∈ p.2, a.node.2.IsKeyed := by
  induction statements with
  | nil => simp [sections]
  | cons x rest ih =>
    obtain ⟨hx, hrest⟩ := List.forall_mem_cons.mp h
    obtain ⟨hbody, hbelow⟩ := ih hrest
    cases x with
    | assignment a => exact ⟨List.forall_mem_cons.mpr ⟨hx, hbody⟩, hbelow⟩
    | header ofArray span path =>
      exact ⟨by simp [sections], List.forall_mem_cons.mpr ⟨hbody, hbelow⟩⟩

theorem Entries.isKeyed_of_ofStatements? (hx : ∀ x ∈ statements, x.IsKeyed)
    (h : ofStatements? statements = some es) : es.IsKeyed := by
  obtain ⟨hbody, hbelow⟩ := isKeyed_sections hx
  obtain ⟨start, hstart, hfold⟩ := Option.bind_eq_some_iff.mp h
  refine (Entries.isKeyed_nil.assignAll hbody hstart).foldlM ?_ hfold
  rintro ⟨⟨ofArray, span, path⟩, body⟩ hp es es' hes
  have hedit := hbelow _ hp
  cases ofArray with
  | true => exact hes.below fun h => h.addItem hedit
  | false => exact hes.below fun h => h.addTable hedit

/-- **No table of a document has two entries of one name.** -/
theorem Entries.isKeyed_of_document? {text : String} (h : document? text = some es) :
    es.IsKeyed := by
  obtain ⟨statements, hread, hes⟩ := Option.bind_eq_some_iff.mp h
  exact Entries.isKeyed_of_ofStatements? (isKeyed_of_statements? hread) hes

end Toml

end BuildDiagnostics
