import FrameTap.Json.Skip
import FrameTap.Proofs.Json.Number
import FrameTap.Proofs.Json.String
import Mathlib.Data.List.DropRight

/-!
# Skipping values of the grammar

A value is skipped up to its end whatever is open around it, and then what is open goes on.  So
each part of a JSON text is one stretch of the run: `Skips` says where the run is behind it, and
`Writes.skips` follows the grammar.
-/

namespace FrameTap.Json

variable {t w : Text} {b c : UInt8} {opened : List Container} {s u rest : Bytes}

/-! ## White space -/

theorem skipSpace_cons (h : isSpace b = false) (s : Bytes) : skipSpace (b :: s) = b :: s := by
  rw [skipSpace, List.dropWhile_cons, h]
  rfl

theorem skipSpace_skipSpace (s : Bytes) : skipSpace (skipSpace s) = skipSpace s :=
  List.dropWhile_idempotent isSpace s

theorem skipSpace_encode (h : Space w) (s : Bytes) :
    skipSpace (Utf8.encode w ++ s) = skipSpace s := by
  induction w with
  | nil => rfl
  | cons c w ih =>
      obtain ⟨hc, hw⟩ := List.forall_mem_cons.1 h
      rw [← ih hw]
      rcases hc with rfl | rfl | rfl | rfl <;> rfl

/-- Nothing in front of which a number goes on. -/
def Ends (s : Bytes) : Prop := ∃ b u, s = b :: u ∧ endsNumber b = true

theorem Ends.cons (h : endsNumber b = true) (s : Bytes) : Ends (b :: s) := ⟨b, s, rfl, h⟩

theorem Ends.space (h : Space w) (hs : Ends s) : Ends (Utf8.encode w ++ s) := by
  cases w with
  | nil => exact hs
  | cons c w =>
      rcases (List.forall_mem_cons.1 h).1 with rfl | rfl | rfl | rfl <;> exact Ends.cons rfl _

/-! ## Steps -/

theorem skipValue_congr (h : skipSpace s = skipSpace u) :
    skipValue opened s = skipValue opened u := by
  rw [skipValue, skipValue, h]

theorem skipRest_congr {first : Container} (h : skipSpace s = skipSpace u) :
    skipRest (first :: opened) s = skipRest (first :: opened) u := by
  cases first <;> rw [skipRest, skipRest, h]

theorem skipMember_congr (h : skipSpace s = skipSpace u) :
    skipMember opened s = skipMember opened u := by
  rw [skipMember, skipMember, h]

theorem skipValue_scalar (hspace : isSpace b = false) (harray : b ≠ 0x5B) (hobject : b ≠ 0x7B)
    (h : scalar b s = .ok rest) : skipValue opened (b :: s) = skipRest opened rest := by
  rw [skipValue, skipSpace_cons hspace]
  dsimp only
  rw [if_neg harray, if_neg hobject, h]

theorem skipValue_noElements (h : skipSpace s = 0x5D :: rest) :
    skipValue opened (0x5B :: s) = skipRest opened rest := by
  rw [skipValue, skipSpace_cons rfl]
  dsimp only
  rw [if_pos rfl, h]
  rfl

theorem skipValue_elements (h : skipSpace s = c :: rest) (hc : c ≠ 0x5D) :
    skipValue opened (0x5B :: s) = skipValue (.array :: opened) s := by
  rw [skipValue, skipSpace_cons rfl]
  dsimp only
  rw [if_pos rfl]
  split
  · rename_i heq
    rw [h] at heq
    exact absurd (List.cons.inj heq).1 hc
  · rfl

theorem skipValue_noMembers (h : skipSpace s = 0x7D :: rest) :
    skipValue opened (0x7B :: s) = skipRest opened rest := by
  rw [skipValue, skipSpace_cons rfl]
  dsimp only
  rw [if_neg (by decide), if_pos rfl, h]
  rfl

theorem skipValue_members (h : skipSpace s = c :: rest) (hc : c ≠ 0x7D) :
    skipValue opened (0x7B :: s) = skipMember (.object :: opened) s := by
  rw [skipValue, skipSpace_cons rfl]
  dsimp only
  rw [if_neg (by decide), if_pos rfl]
  split
  · rename_i heq
    rw [h] at heq
    exact absurd (List.cons.inj heq).1 hc
  · rfl

theorem skipRest_nextElement (s : Bytes) :
    skipRest (.array :: opened) (0x2C :: s) = skipValue (.array :: opened) s := by
  rw [skipRest, skipSpace_cons rfl]
  rfl

theorem skipRest_endArray (s : Bytes) :
    skipRest (.array :: opened) (0x5D :: s) = skipRest opened s := by
  rw [skipRest, skipSpace_cons rfl]
  rfl

theorem skipRest_nextMember (s : Bytes) :
    skipRest (.object :: opened) (0x2C :: s) = skipMember (.object :: opened) s := by
  rw [skipRest, skipSpace_cons rfl]
  rfl

theorem skipRest_endObject (s : Bytes) :
    skipRest (.object :: opened) (0x7D :: s) = skipRest opened s := by
  rw [skipRest, skipSpace_cons rfl]
  rfl

theorem skipMember_key (hkey : skipString s = .ok rest) (hcolon : skipSpace rest = 0x3A :: u) :
    skipMember opened (0x22 :: s) = skipValue opened u := by
  rw [skipMember, skipSpace_cons rfl]
  dsimp only
  rw [if_pos rfl, hkey]
  dsimp only
  rw [hcolon]
  rfl

/-! ## Where values begin -/

/-- The first byte of a number that has no sign is a digit. -/
theorem Literal.WellFormed.unsigned_head {n : Literal} (h : n.WellFormed) :
    ∃ d u, Utf8.encode n.unsigned = d :: u ∧ isDigit d = true := by
  obtain ⟨c, digits, hwhole, hc⟩ := h.whole.exists_cons
  rw [Literal.unsigned, hwhole, List.cons_append, encode_digit_cons hc]
  exact ⟨_, _, rfl, isDigit_digitByte _ (Numeral.digitChar_of_isDigit hc).1⟩

/-- The first byte of a value tells what kind of value it is. -/
def Value.Starts : Value → UInt8 → Prop
  | .null, b => b = 0x6E
  | .bool true, b => b = 0x74
  | .bool false, b => b = 0x66
  | .number _, b => b = 0x2D ∨ isDigit b = true
  | .string _, b => b = 0x22
  | .array _, b => b = 0x5B
  | .object _, b => b = 0x7B

theorem ne_of_isDigit (h : isDigit b = true) (hc : isDigit c = false) : b ≠ c := by
  rintro rfl
  rw [h] at hc
  cases hc

theorem isSpace_of_isDigit (h : isDigit b = true) : isSpace b = false := by
  have hne : ∀ c, isDigit c = false → (b == c) = false := fun c hc =>
    beq_eq_false_iff_ne.2 (ne_of_isDigit h hc)
  rw [isSpace, hne 0x20 rfl, hne 0x0A rfl, hne 0x0D rfl, hne 0x09 rfl]
  rfl

theorem Value.Starts.not_space {v : Value} (h : v.Starts b) : isSpace b = false ∧ b ≠ 0x5D := by
  cases v with
  | bool value => cases value <;> cases h <;> decide
  | number n =>
      rcases h with rfl | hdigit
      · decide
      · exact ⟨isSpace_of_isDigit hdigit, ne_of_isDigit hdigit rfl⟩
  | null | string | array | object => cases h; decide

theorem Writes.value_start {v : Value} (h : Writes (.value v) t) :
    ∃ b u, Utf8.encode t = b :: u ∧ v.Starts b := by
  cases h with
  | @number n wellFormed =>
      rw [Literal.text]
      by_cases hnegative : n.negative = true
      · rw [if_pos hnegative]
        exact ⟨0x2D, _, rfl, .inl rfl⟩
      · rw [if_neg hnegative]
        obtain ⟨d, u, hu, hd⟩ := wellFormed.unsigned_head
        exact ⟨d, u, hu, .inr hd⟩
  | null | trueWord | falseWord | string | noElements | array | noMembers | object =>
      exact ⟨_, _, rfl, rfl⟩

theorem Writes.padded_start {v : Value} (h : Writes (.padded v) t) (s : Bytes) :
    ∃ b u, skipSpace (Utf8.encode t ++ s) = b :: u ∧ b ≠ 0x5D := by
  cases h with
  | padded spaceBefore value spaceBehind =>
      obtain ⟨b, u, hu, hb⟩ := value.value_start
      rw [Utf8.encode_append, Utf8.encode_append, List.append_assoc, List.append_assoc,
        skipSpace_encode spaceBefore, hu, List.cons_append, skipSpace_cons hb.not_space.1]
      exact ⟨b, _, rfl, hb.not_space.2⟩

theorem Writes.elements_start {vs : List Value} (h : Writes (.elements vs) t) (s : Bytes) :
    ∃ b u, skipSpace (Utf8.encode t ++ s) = b :: u ∧ b ≠ 0x5D := by
  cases h with
  | lastElement element => exact element.padded_start s
  | moreElements element =>
      rw [Utf8.encode_append, List.append_assoc]
      exact element.padded_start _

theorem Writes.member_start {m : Member} (h : Writes (.member m) t) (s : Bytes) :
    ∃ u, skipSpace (Utf8.encode t ++ s) = 0x22 :: u := by
  cases h with
  | member spaceBefore =>
      rw [Utf8.encode_append, List.append_assoc, skipSpace_encode spaceBefore]
      exact ⟨_, rfl⟩

theorem Writes.members_start {ms : List Member} (h : Writes (.members ms) t) (s : Bytes) :
    ∃ u, skipSpace (Utf8.encode t ++ s) = 0x22 :: u := by
  cases h with
  | lastMember member => exact member.member_start s
  | moreMembers member =>
      rw [Utf8.encode_append, List.append_assoc]
      exact member.member_start _

/-! ## Values -/

theorem scalar_digit (h : isDigit b = true) (s : Bytes) :
    scalar b s = (number .malformed false (b :: s)).map Prod.snd := by
  rw [scalar, if_neg (ne_of_isDigit h rfl), if_neg (ne_of_isDigit h rfl),
    if_neg (ne_of_isDigit h rfl), if_neg (ne_of_isDigit h rfl), if_neg (ne_of_isDigit h rfl),
    if_pos h]

theorem encode_between {first last : Char} (hfirst : first.toNat < 0x80) (hlast : last.toNat < 0x80)
    (t : Text) (s : Bytes) :
    Utf8.encode (first :: (t ++ [last])) ++ s =
      UInt8.ofNat first.toNat :: (Utf8.encode t ++ UInt8.ofNat last.toNat :: s) := by
  rw [encode_ascii_cons hfirst, Utf8.encode_append, encode_ascii_cons hlast, List.cons_append,
    List.append_assoc]
  rfl

theorem encode_comma (t u : Text) (s : Bytes) :
    Utf8.encode (t ++ ',' :: u) ++ s = Utf8.encode t ++ 0x2C :: (Utf8.encode u ++ s) := by
  rw [Utf8.encode_append, encode_ascii_cons (by decide), List.append_assoc, List.cons_append]
  rfl

/-- A member from the quote of its key on. -/
theorem encode_key (key behind value : Text) (s : Bytes) :
    Utf8.encode ('"' :: (key ++ '"' :: (behind ++ ':' :: value))) ++ s =
      0x22 :: (Utf8.encode key ++ 0x22 :: (Utf8.encode behind ++ 0x3A ::
        (Utf8.encode value ++ s))) := by
  have hquote : Utf8.encode ['"'] = [0x22] := rfl
  have hcolon : Utf8.encode [':'] = [0x3A] := rfl
  rw [← List.singleton_append, ← List.singleton_append (l := behind ++ _),
    ← List.singleton_append (l := value)]
  simp only [Utf8.encode_append, hquote, hcolon, List.append_assoc]
  rfl

/-- Where the run is behind a part of a text.  Elements and members are taken with the bracket
behind them. -/
def Skips : Part → Text → Prop
  | .value _, t => ∀ opened rest, Ends rest →
    skipValue opened (Utf8.encode t ++ rest) = skipRest opened rest
  | .padded _, t => ∀ first opened rest, Ends rest →
    skipValue (first :: opened) (Utf8.encode t ++ rest) = skipRest (first :: opened) rest
  | .elements _, t => ∀ opened rest,
    skipValue (.array :: opened) (Utf8.encode t ++ 0x5D :: rest) = skipRest opened rest
  | .member _, t => ∀ first opened rest, Ends rest →
    skipMember (first :: opened) (Utf8.encode t ++ rest) = skipRest (first :: opened) rest
  | .members _, t => ∀ opened rest,
    skipMember (.object :: opened) (Utf8.encode t ++ 0x7D :: rest) = skipRest opened rest

theorem skips_number {n : Literal} (h : n.WellFormed) : Skips (.value (.number n)) n.text := by
  intro opened rest hends
  obtain ⟨b, s, rfl, hb⟩ := hends
  obtain ⟨num, hnum, -⟩ := number_literal .malformed h hb s
  by_cases hnegative : n.negative = true
  · rw [hnegative] at hnum
    rw [Literal.text, if_pos hnegative]
    apply skipValue_scalar rfl (by decide) (by decide)
    show (number .malformed true (Utf8.encode n.unsigned ++ b :: s)).map Prod.snd = _
    rw [hnum]
    rfl
  · rw [Bool.not_eq_true] at hnegative
    obtain ⟨d, u, hu, hd⟩ := h.unsigned_head
    rw [hnegative, hu] at hnum
    rw [Literal.text, hnegative, if_neg Bool.false_ne_true, hu]
    apply skipValue_scalar (isSpace_of_isDigit hd) (ne_of_isDigit hd rfl) (ne_of_isDigit hd rfl)
    rw [scalar_digit hd]
    show (number .malformed false (d :: u ++ b :: s)).map Prod.snd = _
    rw [hnum]
    rfl

theorem Writes.skips {part : Part} (h : Writes part t) : Skips part t := by
  -- what is open is arbitrary in each part, so a container can open its own
  induction h with
  | null => exact fun _ _ _ => skipValue_scalar rfl (by decide) (by decide) rfl
  | trueWord => exact fun _ _ _ => skipValue_scalar rfl (by decide) (by decide) rfl
  | falseWord => exact fun _ _ _ => skipValue_scalar rfl (by decide) (by decide) rfl
  | number wellFormed => exact skips_number wellFormed
  | @string _ t body =>
      intro opened rest _
      rw [encode_between (by decide) (by decide)]
      exact skipValue_scalar rfl (by decide) (by decide) (skipString_body body rest)
  | @noElements w space =>
      intro opened rest _
      rw [encode_between (by decide) (by decide)]
      exact skipValue_noElements (skipSpace_encode space (0x5D :: rest))
  | @array vs t elements ih =>
      intro opened rest _
      obtain ⟨b, u, hu, hb⟩ := elements.elements_start (0x5D :: rest)
      rw [encode_between (by decide) (by decide)]
      exact (skipValue_elements hu hb).trans (ih opened rest)
  | @noMembers w space =>
      intro opened rest _
      rw [encode_between (by decide) (by decide)]
      exact skipValue_noMembers (skipSpace_encode space (0x7D :: rest))
  | @object ms t members ih =>
      intro opened rest _
      obtain ⟨u, hu⟩ := members.members_start (0x7D :: rest)
      rw [encode_between (by decide) (by decide)]
      exact (skipValue_members hu (by decide)).trans (ih opened rest)
  | padded spaceBefore value spaceBehind ih =>
      intro first opened rest hends
      rw [Utf8.encode_append, Utf8.encode_append, List.append_assoc, List.append_assoc,
        skipValue_congr (skipSpace_encode spaceBefore _), ih _ _ (hends.space spaceBehind)]
      exact skipRest_congr (skipSpace_encode spaceBehind rest)
  | lastElement element ih =>
      intro opened rest
      rw [ih _ _ _ (Ends.cons rfl rest), skipRest_endArray]
  | @moreElements v vs t u element elements ihElement ih =>
      intro opened rest
      rw [encode_comma, ihElement _ _ _ (Ends.cons rfl _), skipRest_nextElement, ih]
  | @member name v before key behind t spaceBefore body spaceBehind value ih =>
      intro first opened rest hends
      rw [Utf8.encode_append, List.append_assoc, skipMember_congr (skipSpace_encode spaceBefore _),
        encode_key]
      have hcolon := skipSpace_encode spaceBehind (0x3A :: (Utf8.encode t ++ rest))
      rw [skipMember_key (skipString_body body _) hcolon, ih _ _ _ hends]
  | lastMember member ih =>
      intro opened rest
      rw [ih _ _ _ (Ends.cons rfl rest), skipRest_endObject]
  | @moreMembers m ms t u member members ihMember ih =>
      intro opened rest
      rw [encode_comma, ihMember _ _ _ (Ends.cons rfl _), skipRest_nextMember, ih]

/-- A value without the white space around it, which no reader sees. -/
theorem Writes.padded_value {v : Value} (h : Writes (.padded v) t) (hends : Ends rest) :
    ∃ u left, Writes (.value v) u ∧
      skipSpace (Utf8.encode t ++ rest) = skipSpace (Utf8.encode u ++ left) ∧
      Ends left ∧ skipSpace left = skipSpace rest := by
  cases h with
  | @padded _ before u behind spaceBefore value spaceBehind =>
      refine ⟨u, Utf8.encode behind ++ rest, value, ?_, hends.space spaceBehind,
        skipSpace_encode spaceBehind rest⟩
      rw [Utf8.encode_append, Utf8.encode_append, List.append_assoc, List.append_assoc,
        skipSpace_encode spaceBefore]

theorem Writes.skip_value {v : Value} (h : Writes (.value v) t) (hends : Ends rest) :
    skipValue [] (Utf8.encode t ++ rest) = .ok rest := by
  have hskips : ∀ opened rest, Ends rest →
      skipValue opened (Utf8.encode t ++ rest) = skipRest opened rest := h.skips
  rw [hskips [] rest hends, skipRest]

end FrameTap.Json
