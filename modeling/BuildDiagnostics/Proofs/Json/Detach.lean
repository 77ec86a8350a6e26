import BuildDiagnostics.Proofs.Json.Grammar
/-!
# What follows a value is not looked at

The grammar says what a text starts with and what follows it. What follows
plays no part: a value that stands before something stands before anything
else as well (`ValueAt.detached`). One rule looks ahead, that of half a
surrogate pair alone, and it looks no further than the quote that closes
its string (`StringAt.detached`). So a value can be taken out of the blanks
around it (`Document.exists_value`).
-/


namespace BuildDiagnostics

namespace Json

open Numeral (DigitsAt WholeAt FractionAt SignAt ExponentAt NumberAt)

variable {c : Char} {s t r : List Char} {v : Datum}
variable {rule first second : List Char → List Char → Prop}

/-- A rule holds of what a text starts with before `r`, and it would before
anything else. -/
def Detached (rule : List Char → List Char → Prop) (s r : List Char) : Prop :=
  ∃ x, s = x ++ r ∧ ∀ r', rule (x ++ r') r'

namespace Detached

theorem char (c : Char) (r : List Char) : Detached (fun s r => s = c :: r) (c :: r) r :=
  ⟨[c], rfl, fun _ => rfl⟩

/-- **Rules can follow one another.** -/
theorem trans (h : Detached first s t) (h' : Detached second t r)
    (hrule : ∀ {s t r}, first s t → second t r → rule s r) : Detached rule s r := by
  obtain ⟨x, rfl, hx⟩ := h
  obtain ⟨y, rfl, hy⟩ := h'
  refine ⟨x ++ y, by rw [List.append_assoc], fun r' => ?_⟩
  rw [List.append_assoc]
  exact hrule (hx _) (hy r')

theorem imp (h : Detached first s r) (hrule : ∀ {s r}, first s r → rule s r) :
    Detached rule s r := by
  obtain ⟨x, hs, hx⟩ := h
  exact ⟨x, hs, fun r' => hrule (hx r')⟩

end Detached

/-! ## Numbers -/

namespace Numeral

theorem DigitsAt.detached {ds : List Char} (h : DigitsAt s ds r) :
    Detached (DigitsAt · ds ·) s r :=
  ⟨ds, h.append, fun _ => ⟨rfl, h.ne_nil, h.isDigit⟩⟩

theorem WholeAt.detached {ds : List Char} (h : WholeAt s ds r) : Detached (WholeAt · ds ·) s r := by
  cases h with
  | zero => exact ⟨['0'], rfl, fun _ => .zero⟩
  | run h hzero => exact h.detached.imp fun h => .run h hzero

theorem FractionAt.detached {f : Option (List Char)} (h : FractionAt s f r) :
    Detached (FractionAt · f ·) s r := by
  cases h with
  | none => exact ⟨[], rfl, fun _ => .none⟩
  | some h =>
    refine (Detached.char '.' _).trans h.detached fun hpoint h => ?_
    rw [hpoint]
    exact .some h

theorem SignAt.detached {negative : Bool} (h : SignAt s negative r) :
    Detached (SignAt · negative ·) s r := by
  cases h with
  | none => exact ⟨[], rfl, fun _ => .none⟩
  | plus => exact ⟨['+'], rfl, fun _ => .plus⟩
  | minus => exact ⟨['-'], rfl, fun _ => .minus⟩

theorem ExponentAt.detached {e : Option (Bool × List Char)} (h : ExponentAt s e r) :
    Detached (ExponentAt · e ·) s r := by
  cases h with
  | none => exact ⟨[], rfl, fun _ => .none⟩
  | @some e negative s t ds r he hsign h =>
    have hpower : Detached (fun s r => ∃ t, SignAt s negative t ∧ DigitsAt t ds r) s r :=
      hsign.detached.trans h.detached fun hsign h => ⟨_, hsign, h⟩
    refine (Detached.char e _).trans hpower fun hletter h => ?_
    obtain ⟨t, hsign, h⟩ := h
    rw [hletter]
    exact .some he hsign h

/-- The parts of a number after its sign. -/
theorem detached_parts {whole : List Char} {fraction : Option (List Char)}
    {exponent : Option (Bool × List Char)} {u : List Char} (hw : WholeAt s whole t)
    (hf : FractionAt t fraction u) (he : ExponentAt u exponent r) :
    Detached (fun s r => ∃ t u, WholeAt s whole t ∧ FractionAt t fraction u ∧
      ExponentAt u exponent r) s r := by
  have hrest : Detached (fun t r => ∃ u, FractionAt t fraction u ∧ ExponentAt u exponent r) t r :=
    hf.detached.trans he.detached fun hf he => ⟨_, hf, he⟩
  refine hw.detached.trans hrest fun hw h => ?_
  obtain ⟨u, hf, he⟩ := h
  exact ⟨_, u, hw, hf, he⟩

theorem NumberAt.detached {n : Numeral} (h : NumberAt s n r) : Detached (NumberAt · n ·) s r := by
  cases h with
  | positive hw hf he =>
    refine (detached_parts hw hf he).imp fun h => ?_
    obtain ⟨t, u, hw, hf, he⟩ := h
    exact .positive hw hf he
  | negative hw hf he =>
    refine (Detached.char '-' _).trans (detached_parts hw hf he) fun hminus h => ?_
    obtain ⟨t, u, hw, hf, he⟩ := h
    rw [hminus]
    exact .negative hw hf he

end Numeral

/-! ## Strings -/

theorem UnitAt.detached {n : Nat} (h : UnitAt s n r) : Detached (UnitAt · n ·) s r := by
  obtain ⟨a, b, c, d, rfl, hn⟩ := h
  exact ⟨['\\', 'u', a, b, c, d], rfl, fun _ => ⟨a, b, c, d, rfl, hn⟩⟩

theorem CharAt.detached (h : CharAt s c r) : Detached (CharAt · c ·) s r := by
  cases h with
  | plain hquote hslash hc => exact ⟨[c], rfl, fun _ => .plain hquote hslash hc⟩
  | @short e _ _ h => exact ⟨['\\', e], rfl, fun _ => .short h⟩
  | unit h hhigh hlow => exact h.detached.imp fun h => .unit h hhigh hlow
  | pair h h' hhigh hlow =>
    exact h.detached.trans h'.detached fun h h' => .pair h h' hhigh hlow

theorem hexDigit?_quote : Text.hexDigit? '"' = none := by
  decide

/-- What ends before a character does not have it. -/
theorem exists_eq_append_of_not_mem {x y : List Char} (h : x ++ c :: r = y ++ t) (hc : c ∉ y) :
    ∃ z, x = y ++ z := by
  rcases List.append_eq_append_iff.1 h with ⟨z, hy, hz⟩ | ⟨z, hx, -⟩
  · cases z with
    | nil => exact ⟨[], by rw [hy, List.append_nil, List.append_nil]⟩
    | cons d z =>
      obtain rfl := (List.cons.inj hz).1
      exact absurd (by simp [hy]) hc
  · exact ⟨z, hx⟩

/-- **A unit ends before the quote** that closes its string, so it is one
before anything else that follows the quote. -/
theorem UnitAt.exists_unitAt {x : List Char} {n : Nat} (h : UnitAt (x ++ '"' :: r) n t)
    (r' : List Char) : ∃ t', UnitAt (x ++ '"' :: r') n t' := by
  obtain ⟨a, b, c, d, hx, hn⟩ := h
  have hn' := hn
  simp only [hexValue?, Option.bind_eq_bind, Option.bind_eq_some_iff] at hn'
  obtain ⟨a', ha, b', hb, c', hc, d', hd, -⟩ := hn'
  have hdigit : ∀ {e : Char} {k : Nat}, Text.hexDigit? e = some k → '"' ≠ e := by
    rintro e k hk rfl
    rw [hexDigit?_quote] at hk
    cases hk
  have hquote : '"' ∉ ['\\', 'u', a, b, c, d] := by
    simp [hdigit ha, hdigit hb, hdigit hc, hdigit hd]
  obtain ⟨y, rfl⟩ := exists_eq_append_of_not_mem (t := t) hx hquote
  exact ⟨y ++ '"' :: r', a, b, c, d, rfl, hn⟩

/-- Half of a pair before more of its string. -/
theorem HalfAt.exists_append {x : List Char} (h : HalfAt s (x ++ '"' :: r)) :
    ∃ y, s = y ++ (x ++ '"' :: r) ∧ ∀ r', HalfAt (y ++ (x ++ '"' :: r')) (x ++ '"' :: r') := by
  cases h with
  | low h hlow =>
    obtain ⟨y, hs, hy⟩ := h.detached
    exact ⟨y, hs, fun r' => .low (hy _) hlow⟩
  | high h hhigh hnext =>
    obtain ⟨y, hs, hy⟩ := h.detached
    refine ⟨y, hs, fun r' => .high (hy _) hhigh fun m t hm => ?_⟩
    obtain ⟨t', ht'⟩ := hm.exists_unitAt r
    exact hnext m t' ht'

/-- **A string** is one up to its closing quote, whatever follows. -/
theorem StringAt.detached {text : Option (List Char)} (h : StringAt s text r) :
    Detached (StringAt · text ·) s r := by
  -- the closing quote is the last character of a string, and no rule looks beyond it
  have hquote : ∃ x, s = x ++ '"' :: r ∧ ∀ r', StringAt (x ++ '"' :: r') text r' := by
    induction h with
    | close => exact ⟨[], rfl, fun _ => .close⟩
    | char h hs ih =>
      obtain ⟨x, rfl, hx⟩ := ih
      obtain ⟨y, rfl, hy⟩ := h.detached
      refine ⟨y ++ x, by rw [List.append_assoc], fun r' => ?_⟩
      rw [List.append_assoc]
      exact .char (hy _) (hx r')
    | half h hs ih =>
      obtain ⟨x, rfl, hx⟩ := ih
      obtain ⟨y, rfl, hy⟩ := h.exists_append
      refine ⟨y ++ x, by rw [List.append_assoc], fun r' => ?_⟩
      rw [List.append_assoc]
      exact .half (hy r') (hx r')
  obtain ⟨x, rfl, hx⟩ := hquote
  refine ⟨x ++ ['"'], by rw [List.append_assoc, List.singleton_append], fun r' => ?_⟩
  rw [List.append_assoc, List.singleton_append]
  exact hx r'

/-! ## Blanks and values -/

theorem Blanks.exists_append (h : Blanks s r) : ∃ b, s = b ++ r ∧ ∀ c ∈ b, isBlank c := by
  induction h with
  | none => exact ⟨[], rfl, by simp⟩
  | cons hc h ih =>
    obtain ⟨b, rfl, hb⟩ := ih
    exact ⟨_ :: b, rfl, List.forall_mem_cons.2 ⟨hc, hb⟩⟩

theorem Blanks.of_append {b : List Char} (h : ∀ c ∈ b, isBlank c) (r : List Char) :
    Blanks (b ++ r) r := by
  induction b with
  | nil => exact .none
  | cons c b ih =>
    have h := List.forall_mem_cons.1 h
    exact .cons h.1 (ih h.2)

theorem Blanks.detached (h : Blanks s r) : Detached Blanks s r := by
  obtain ⟨b, hs, hb⟩ := h.exists_append
  exact ⟨b, hs, Blanks.of_append hb⟩

/-- The blanks around a value, when the value is known. -/
theorem ElementAt.detached_of (h : ElementAt s v r)
    (hvalue : ∀ {t u}, ValueAt t v u → Detached (ValueAt · v ·) t u) :
    Detached (ElementAt · v ·) s r := by
  cases h with
  | @mk _ t u r _ hs h hr =>
    have hrest : Detached (fun t r => ∃ u, ValueAt t v u ∧ Blanks u r) t r :=
      (hvalue h).trans hr.detached fun h hr => ⟨_, h, hr⟩
    refine hs.detached.trans hrest fun hs h => ?_
    obtain ⟨u, h, hr⟩ := h
    exact .mk hs h hr

mutual

/-- **A value is one before anything.** -/
theorem ValueAt.detached {s r : List Char} {v : Datum} (h : ValueAt s v r) :
    Detached (ValueAt · v ·) s r := by
  cases h with
  | null => exact ⟨['n', 'u', 'l', 'l'], rfl, fun _ => .null⟩
  | isTrue => exact ⟨['t', 'r', 'u', 'e'], rfl, fun _ => .isTrue⟩
  | isFalse => exact ⟨['f', 'a', 'l', 's', 'e'], rfl, fun _ => .isFalse⟩
  | number h => exact h.detached.imp .number
  | string h => exact (Detached.char '"' _).trans h.detached fun hs h => hs ▸ .string h
  | emptyArray h =>
    exact (Detached.char '[' _).trans (h.detached.trans (.char ']' _) fun h hr => hr ▸ h)
      fun hs h => hs ▸ .emptyArray h
  | array h =>
    exact (Detached.char '[' _).trans (ItemsAt.detached h) fun hs h => hs ▸ .array h
  | emptyObject h =>
    exact (Detached.char '\x7b' _).trans (h.detached.trans (.char '\x7d' _) fun h hr => hr ▸ h)
      fun hs h => hs ▸ .emptyObject h
  | object h =>
    exact (Detached.char '\x7b' _).trans (MembersAt.detached h) fun hs h => hs ▸ .object h
termination_by (sizeOf v, 0)

theorem ElementAt.detached {s r : List Char} {v : Datum} (h : ElementAt s v r) :
    Detached (ElementAt · v ·) s r :=
  h.detached_of fun h => ValueAt.detached h
termination_by (sizeOf v, 1)

theorem ItemsAt.detached {s r : List Char} {items : List Datum} (h : ItemsAt s items r) :
    Detached (ItemsAt · items ·) s r := by
  cases h with
  | last h => exact (ElementAt.detached h).trans (.char ']' _) fun h hr => .last (hr ▸ h)
  | @more s t r v vs h hs =>
    have hrest : Detached (fun u r => ∃ t, u = ',' :: t ∧ ItemsAt t vs r) (',' :: t) r :=
      (Detached.char ',' t).trans (ItemsAt.detached hs) fun hu hs => ⟨_, hu, hs⟩
    refine (ElementAt.detached h).trans hrest fun h hrest => ?_
    obtain ⟨t, rfl, hs⟩ := hrest
    exact .more h hs
termination_by (sizeOf items, 0)

theorem MemberAt.detached {s r : List Char} {m : Option String × Datum} (h : MemberAt s m r) :
    Detached (MemberAt · m ·) s r := by
  cases h with
  | @mk s t u w r key v hs hk hu hv =>
    -- from the value back to the quote of the key
    have hvalue : Detached (fun u r => ∃ w, u = ':' :: w ∧ ElementAt w v r) (':' :: w) r :=
      (Detached.char ':' w).trans (ElementAt.detached hv) fun hw hv => ⟨_, hw, hv⟩
    have hcolon : Detached (fun u r => ∃ w, Blanks u (':' :: w) ∧ ElementAt w v r) u r := by
      refine hu.detached.trans hvalue fun hu h => ?_
      obtain ⟨w, rfl, hv⟩ := h
      exact ⟨w, hu, hv⟩
    have hkey : Detached (fun t r => ∃ u w, StringAt t key u ∧ Blanks u (':' :: w) ∧
        ElementAt w v r) t r :=
      hk.detached.trans hcolon fun hk h => ⟨_, h.choose, hk, h.choose_spec⟩
    have hquote : Detached (fun s r => ∃ t u w, s = '"' :: t ∧ StringAt t key u ∧
        Blanks u (':' :: w) ∧ ElementAt w v r) ('"' :: t) r := by
      refine (Detached.char '"' t).trans hkey fun hs h => ?_
      obtain ⟨u, w, hk, hu, hv⟩ := h
      exact ⟨_, u, w, hs, hk, hu, hv⟩
    refine hs.detached.trans hquote fun hs h => ?_
    obtain ⟨t, u, w, rfl, hk, hu, hv⟩ := h
    exact .mk hs hk hu hv
termination_by (sizeOf m, 0)

theorem MembersAt.detached {s r : List Char} {members : List (Option String × Datum)}
    (h : MembersAt s members r) : Detached (MembersAt · members ·) s r := by
  cases h with
  | last h => exact (MemberAt.detached h).trans (.char '\x7d' _) fun h hr => .last (hr ▸ h)
  | @more s t r m ms h hs =>
    have hrest : Detached (fun u r => ∃ t, u = ',' :: t ∧ MembersAt t ms r) (',' :: t) r :=
      (Detached.char ',' t).trans (MembersAt.detached hs) fun hu hs => ⟨_, hu, hs⟩
    refine (MemberAt.detached h).trans hrest fun h hrest => ?_
    obtain ⟨t, rfl, hs⟩ := hrest
    exact .more h hs
termination_by (sizeOf members, 0)

end

/-! ## Texts -/

/-- **A text is a value** and the blanks around it. -/
theorem Document.exists_value (h : Document s v) :
    ∃ b x e, s = b ++ (x ++ e) ∧ (∀ c ∈ b, isBlank c) ∧ (∀ c ∈ e, isBlank c) ∧
      ValueAt x v [] := by
  cases h with
  | mk hs h hr =>
    obtain ⟨b, rfl, hb⟩ := hs.exists_append
    obtain ⟨x, rfl, hx⟩ := ValueAt.detached h
    obtain ⟨e, rfl, he⟩ := hr.exists_append
    have hx := hx []
    rw [List.append_nil] at hx
    exact ⟨b, x, e, by rw [List.append_nil], hb, he, hx⟩

/-- Members end with the brace that closes them. -/
theorem MembersAt.exists_close {members : List (Option String × Datum)}
    (h : MembersAt s members r) : ∃ x, s = x ++ '\x7d' :: r := by
  induction members generalizing s with
  | nil => cases h
  | cons m members ih =>
    cases h with
    | last h =>
      obtain ⟨x, hs, -⟩ := h.detached
      exact ⟨x, hs⟩
    | more h hrest =>
      obtain ⟨x, hs, -⟩ := h.detached
      obtain ⟨y, hy⟩ := ih hrest
      exact ⟨x ++ ',' :: y, by rw [hs, hy, List.append_assoc, List.cons_append]⟩

theorem ValueAt.exists_braces {members : List (Option String × Datum)}
    (h : ValueAt s (.object members) r) : ∃ x, s = '\x7b' :: (x ++ '\x7d' :: r) := by
  cases h with
  | emptyObject h =>
    obtain ⟨b, rfl, -⟩ := h.exists_append
    exact ⟨b, rfl⟩
  | object h =>
    obtain ⟨x, rfl⟩ := h.exists_close
    exact ⟨x, rfl⟩

end Json

end BuildDiagnostics
