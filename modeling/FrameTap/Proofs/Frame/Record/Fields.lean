import FrameTap.Frame.Record.Reader
import FrameTap.Proofs.Except
import FrameTap.Proofs.Json.Skip

/-!
# Reading the fields of records

A field takes one kind of value: a natural number that fits a word, or a string that is a text.
What is read from a value of the grammar is what fits the field, and the reader stops where the
value ends (`readField_value`).
-/

namespace FrameTap.Record

open Json

variable {t : Text} {v : Value} {s s' u rest : Bytes}

/-! ## What fits a field -/

/-- The number is natural as it is written, and it fits a word. -/
def IsNatural (v : Value) (n : Nat) : Prop :=
  ∃ literal : Literal, v = .number literal ∧ literal.Denotes n ∧ n < UInt64.size

theorem isNatural_ofNat {n : Nat} (h : n < UInt64.size) : IsNatural (.number (.ofNat n)) n :=
  ⟨.ofNat n, rfl, Literal.denotes_ofNat n, h⟩

/-- The string stands for the text. -/
def IsString (v : Value) (t : Text) : Prop := ∃ items, v = .string items ∧ content? items = some t

/-- The value is what the field holds in the record. -/
def Fits (v : Value) (r : Record) : Field → Prop
  | .seq => IsNatural v r.seq
  | .size => IsNatural v r.size
  | .data => IsString v r.data

/-- The field as it is in the record. -/
def Draft.put (d : Draft) (r : Record) : Field → Draft
  | .seq => { d with seq := some r.seq }
  | .size => { d with size := some r.size }
  | .data => { d with data := some r.data }

/-! ## Numbers -/

theorem beginsNumber_of_starts {b : UInt8} (h : v.Starts b) :
    beginsNumber b = true ↔ ∃ n, v = .number n := by
  cases v with
  | number n =>
      refine iff_of_true ?_ ⟨n, rfl⟩
      rcases h with rfl | hdigit
      · rfl
      · rw [beginsNumber, hdigit, Bool.or_true]
  | bool value => cases value <;> cases h <;> exact iff_of_false (by decide) (by simp)
  | null | string | array | object => cases h; exact iff_of_false (by decide) (by simp)

theorem quote_of_starts {b : UInt8} (h : v.Starts b) : b = 0x22 ↔ ∃ items, v = .string items := by
  cases v with
  | number n =>
      refine iff_of_false ?_ (by simp)
      rcases h with rfl | hdigit
      · decide
      · exact ne_of_isDigit hdigit rfl
  | string items => exact iff_of_true h ⟨items, rfl⟩
  | bool value => cases value <;> cases h <;> exact iff_of_false (by decide) (by simp)
  | null | array | object => cases h; exact iff_of_false (by decide) (by simp)

theorem naturalFor_eq_ok_iff {field : Field} {x : Numeric} {n : Nat} :
    naturalFor field x = .ok n ↔ x = .natural n := by
  cases x with
  | natural m => simp [naturalFor]
  | negative m => simp [naturalFor]
  | real x => simp [naturalFor]

/-- The number behind its sign, as it is passed on with what follows. -/
theorem number_of_text {n : Literal} {b : UInt8} (h : n.WellFormed) (hends : Ends rest)
    (htext : Utf8.encode n.text ++ rest = b :: u) :
    ∃ num : Number, (if b = 0x2D then number .truncated true u
        else number .truncated false (b :: u)) = .ok (num, rest) ∧
      ∀ m, num.value = .ok (.natural m) ↔ n.Denotes m ∧ m ≤ maxNatural := by
  obtain ⟨c, s, rfl, hc⟩ := hends
  obtain ⟨num, hnum, hvalue⟩ := number_literal .truncated h hc s
  refine ⟨num, ?_, hvalue⟩
  rw [Literal.text] at htext
  by_cases hnegative : n.negative = true
  · rw [if_pos hnegative] at htext
    rw [hnegative] at hnum
    have hcons : 0x2D :: (Utf8.encode n.unsigned ++ c :: s) = b :: u := htext
    obtain ⟨rfl, rfl⟩ := List.cons.inj hcons
    rw [if_pos rfl, hnum]
  · rw [if_neg hnegative] at htext
    rw [Bool.not_eq_true] at hnegative
    obtain ⟨d, v, hv, hd⟩ := h.unsigned_head
    have hb : b = d := by
      rw [hv] at htext
      exact (List.cons.inj htext).1.symm
    rw [hnegative, htext] at hnum
    rw [hb, if_neg (ne_of_isDigit hd rfl), ← hb, hnum]

theorem readNumeric_text {n : Literal} {b : UInt8} {m : Nat} (h : n.WellFormed)
    (hends : Ends rest) (htext : Utf8.encode n.text ++ rest = b :: u) :
    readNumeric b u = .ok (.natural m, s') ↔ (n.Denotes m ∧ m ≤ maxNatural) ∧ s' = rest := by
  obtain ⟨num, hnum, hvalue⟩ := number_of_text h hends htext
  rw [readNumeric, hnum, ← hvalue]
  show (ofFlaw num.value >>= fun value => .ok (value, rest)) = _ ↔ _
  rw [bind_eq_ok_iff]
  simp only [ofFlaw_eq_ok_iff, Except.ok.injEq, Prod.mk.injEq]
  constructor
  · rintro ⟨x, hx, rfl, rfl⟩
    exact ⟨hx, rfl⟩
  · rintro ⟨hx, rfl⟩
    exact ⟨_, hx, rfl, rfl⟩

theorem readNatural_congr {field : Field} (h : skipSpace s = skipSpace u) :
    readNatural field s = readNatural field u := by
  rw [readNatural, readNatural, h]

theorem readText_congr {field : Field} (h : skipSpace s = skipSpace u) :
    readText field s = readText field u := by
  rw [readText, readText, h]

theorem readNatural_value {field : Field} {n : Nat} (h : Writes (.value v) t) (hends : Ends rest) :
    readNatural field (Utf8.encode t ++ rest) = .ok (n, s') ↔ IsNatural v n ∧ s' = rest := by
  obtain ⟨b, u, hu, hb⟩ := h.value_start
  have htext : Utf8.encode t ++ rest = b :: (u ++ rest) := by rw [hu, List.cons_append]
  rw [readNatural, htext, skipSpace_cons hb.not_space.1]
  dsimp only
  by_cases hnumber : ∃ literal, v = .number literal
  · rw [if_pos ((beginsNumber_of_starts hb).2 hnumber)]
    obtain ⟨literal, rfl⟩ := hnumber
    cases h with
    | number wellFormed =>
        have hread : ∀ m s', readNumeric b (u ++ rest) = .ok (.natural m, s') ↔
            (literal.Denotes m ∧ m ≤ maxNatural) ∧ s' = rest := fun m s' =>
          readNumeric_text wellFormed hends htext
        have hword : n ≤ maxNatural ↔ n < UInt64.size := by
          show n ≤ UInt64.size - 1 ↔ _
          have : 0 < UInt64.size := by decide
          omega
        simp only [bind_eq_ok_iff, naturalFor_eq_ok_iff, Except.ok.injEq, Prod.mk.injEq]
        constructor
        · rintro ⟨⟨x, s⟩, hx, m, rfl, rfl, rfl⟩
          obtain ⟨⟨hdenotes, hle⟩, rfl⟩ := (hread m s).1 hx
          exact ⟨⟨literal, rfl, hdenotes, hword.1 hle⟩, rfl⟩
        · rintro ⟨⟨_, heq, hdenotes, hlt⟩, rfl⟩
          cases heq
          exact ⟨_, (hread n s').2 ⟨⟨hdenotes, hword.2 hlt⟩, rfl⟩, n, rfl, rfl, rfl⟩
  · rw [if_neg (mt (beginsNumber_of_starts hb).1 hnumber)]
    refine iff_of_false mistyped_ne_ok ?_
    rintro ⟨⟨literal, heq, -⟩, -⟩
    exact hnumber ⟨literal, heq⟩

/-! ## Strings -/

theorem string_eq_ok_iff {items : List Item} {key content : Text} (h : Body items key) :
    string (Utf8.encode key ++ 0x22 :: rest) = .ok (content, s') ↔
      content? items = some content ∧ s' = rest := by
  rw [string_body h]
  cases content? items with
  | none => simp [ofContent?]
  | some read =>
      simp only [ofContent?, Except.ok.injEq, Prod.mk.injEq, Option.some.injEq]
      constructor
      · rintro ⟨rfl, rfl⟩
        exact ⟨rfl, rfl⟩
      · rintro ⟨rfl, rfl⟩
        exact ⟨rfl, rfl⟩

theorem readText_value {field : Field} {content : Text} (h : Writes (.value v) t) (rest : Bytes) :
    readText field (Utf8.encode t ++ rest) = .ok (content, s') ↔
      IsString v content ∧ s' = rest := by
  obtain ⟨b, u, hu, hb⟩ := h.value_start
  have htext : Utf8.encode t ++ rest = b :: (u ++ rest) := by rw [hu, List.cons_append]
  rw [readText, htext, skipSpace_cons hb.not_space.1]
  dsimp only
  by_cases hstring : ∃ items, v = .string items
  · rw [if_pos ((quote_of_starts hb).2 hstring), ofFlaw_eq_ok_iff]
    obtain ⟨items, rfl⟩ := hstring
    cases h with
    | @string _ key body =>
        rw [encode_between (by decide) (by decide)] at htext
        obtain ⟨-, hrest⟩ := List.cons.inj htext
        rw [← hrest]
        refine (string_eq_ok_iff body).trans (and_congr_left' ?_)
        constructor
        · exact fun hcontent => ⟨items, rfl, hcontent⟩
        · rintro ⟨_, heq, hcontent⟩
          cases heq
          exact hcontent
  · rw [if_neg (mt (quote_of_starts hb).1 hstring)]
    refine iff_of_false mistyped_ne_ok ?_
    rintro ⟨⟨items, heq, -⟩, -⟩
    exact hstring ⟨items, heq⟩

/-! ## Fields -/

theorem map_fst_eq_ok_iff {α β : Type} {x : Except Fault (α × Bytes)} {f : α → β} {b : β} :
    x.map (fun p => (f p.1, p.2)) = .ok (b, s') ↔ ∃ a, x = .ok (a, s') ∧ f a = b := by
  rw [map_eq_ok_iff]
  constructor
  · rintro ⟨⟨a, left⟩, rfl, heq⟩
    obtain ⟨rfl, rfl⟩ := Prod.mk.inj heq
    exact ⟨a, rfl, rfl⟩
  · rintro ⟨a, rfl, rfl⟩
    exact ⟨(a, s'), rfl, rfl⟩

theorem readField_value {d d' : Draft} {field : Field} (h : Writes (.value v) t)
    (hends : Ends rest) :
    d.readField field (Utf8.encode t ++ rest) = .ok (d', s') ↔
      (∃ r, Fits v r field ∧ d' = d.put r field) ∧ s' = rest := by
  cases field with
  | seq =>
      refine (map_fst_eq_ok_iff (f := fun n => { d with seq := some n })).trans ?_
      simp only [readNatural_value h hends]
      constructor
      · rintro ⟨n, ⟨hn, rfl⟩, rfl⟩
        exact ⟨⟨⟨n, 0, []⟩, hn, rfl⟩, rfl⟩
      · rintro ⟨⟨r, hr, rfl⟩, rfl⟩
        exact ⟨r.seq, ⟨hr, rfl⟩, rfl⟩
  | size =>
      refine (map_fst_eq_ok_iff (f := fun n => { d with size := some n })).trans ?_
      simp only [readNatural_value h hends]
      constructor
      · rintro ⟨n, ⟨hn, rfl⟩, rfl⟩
        exact ⟨⟨⟨0, n, []⟩, hn, rfl⟩, rfl⟩
      · rintro ⟨⟨r, hr, rfl⟩, rfl⟩
        exact ⟨r.size, ⟨hr, rfl⟩, rfl⟩
  | data =>
      refine (map_fst_eq_ok_iff (f := fun t => { d with data := some t })).trans ?_
      simp only [readText_value h]
      constructor
      · rintro ⟨t, ⟨ht, rfl⟩, rfl⟩
        exact ⟨⟨⟨0, 0, t⟩, ht, rfl⟩, rfl⟩
      · rintro ⟨⟨r, hr, rfl⟩, rfl⟩
        exact ⟨r.data, ⟨hr, rfl⟩, rfl⟩

theorem readField_congr {d : Draft} {field : Field} (h : skipSpace s = skipSpace u) :
    d.readField field s = d.readField field u := by
  cases field with
  | seq | size => rw [Draft.readField, Draft.readField, readNatural_congr h]
  | data => rw [Draft.readField, Draft.readField, readText_congr h]

end FrameTap.Record
