import FrameTap.Except
import FrameTap.Json.Numeric
import FrameTap.Proofs.Json.Grammar
import FrameTap.Proofs.Text.Utf8

/-!
# Reading numbers of the grammar

A number is read part by part: each part takes the digits it can get, so what stands behind it
decides where it ends.  The number that is read is natural where it has neither sign nor fraction
nor exponent and fits a word (`number_literal`).
-/

namespace FrameTap.Json

open Numeral (IsDigit valueFrom)

variable {n : Literal} {digits : Text} {b : UInt8}

/-! ## Digits -/

/-- The byte of a decimal digit. -/
def digitByte (d : Nat) : UInt8 := UInt8.ofNat (Nat.digitChar d).toNat

/-- Whether a byte cannot stand in a number behind its digits. -/
def endsNumber (b : UInt8) : Bool := !isDigit b && b != 0x2E && b != 0x65 && b != 0x45

theorem encode_digit : ∀ d < 10, Utf8.encode [Nat.digitChar d] = [digitByte d] := by
  decide

theorem isDigit_digitByte : ∀ d < 10, isDigit (digitByte d) = true := by
  decide

theorem digitValue_digitByte : ∀ d < 10, digitValue (digitByte d) = d := by
  decide

theorem digitByte_ne_zero : ∀ d < 10, d ≠ 0 → digitByte d ≠ 0x30 := by
  decide

theorem encode_digit_cons {c : Char} (h : IsDigit c) (t : Text) :
    Utf8.encode (c :: t) = digitByte (c.toNat - '0'.toNat) :: Utf8.encode t := by
  obtain ⟨hlt, hchar⟩ := Numeral.digitChar_of_isDigit h
  have hbyte := encode_digit _ hlt
  rw [hchar] at hbyte
  rw [← List.singleton_append, Utf8.encode_append, hbyte, List.singleton_append]

theorem isDigit_of_mem_encode (h : ∀ c ∈ digits, IsDigit c) (hb : b ∈ Utf8.encode digits) :
    isDigit b = true := by
  induction digits with
  | nil => simp [Utf8.encode] at hb
  | cons c digits ih =>
      rw [List.forall_mem_cons] at h
      rw [encode_digit_cons h.1, List.mem_cons] at hb
      rcases hb with rfl | hb
      · exact isDigit_digitByte _ (Numeral.digitChar_of_isDigit h.1).1
      · exact ih h.2 hb

theorem Digits.exists_cons (h : Digits digits) :
    ∃ c rest, digits = c :: rest ∧ IsDigit c := by
  cases digits with
  | nil => exact absurd rfl h.1
  | cons c rest => exact ⟨c, rest, rfl, h.2 c List.mem_cons_self⟩

theorem takeWhile_append_cons {α : Type} {p : α → Bool} {front : List α} {a : α}
    (hfront : ∀ x ∈ front, p x = true) (ha : p a = false) (s : List α) :
    (front ++ a :: s).takeWhile p = front ∧ (front ++ a :: s).dropWhile p = a :: s := by
  rw [List.takeWhile_append_of_pos hfront, List.dropWhile_append_of_pos hfront,
    List.takeWhile_cons, List.dropWhile_cons, ha]
  exact ⟨List.append_nil front, rfl⟩

theorem digits1_encode (atEnd : Flaw) (h : Digits digits) (hb : isDigit b = false) (s : Bytes) :
    digits1 atEnd (Utf8.encode digits ++ b :: s) = .ok (Utf8.encode digits, b :: s) := by
  obtain ⟨htake, hdrop⟩ := takeWhile_append_cons (fun x hx => isDigit_of_mem_encode h.2 hx) hb s
  obtain ⟨c, rest, rfl, hc⟩ := h.exists_cons
  have hfirst : isDigit (digitByte (c.toNat - '0'.toNat)) = true :=
    isDigit_digitByte _ (Numeral.digitChar_of_isDigit hc).1
  rw [encode_digit_cons hc] at htake hdrop ⊢
  rw [List.cons_append] at htake hdrop ⊢
  rw [digits1, if_pos hfirst, htake, hdrop]

/-- A zero in front is the whole part, and no digit follows it. -/
theorem wholePart_encode (atEnd : Flaw) (h : Digits digits)
    (hzero : digits.head? = some '0' → digits = ['0']) (hb : isDigit b = false) (s : Bytes) :
    wholePart atEnd (Utf8.encode digits ++ b :: s) = .ok (Utf8.encode digits, b :: s) := by
  have hdigits := digits1_encode atEnd h hb s
  obtain ⟨c, rest, rfl, hc⟩ := h.exists_cons
  by_cases hc0 : c = '0'
  · rw [hzero (by rw [hc0]; rfl)]
    show (if isDigit b then _ else _) = _
    rw [hb]
    rfl
  · obtain ⟨hlt, hchar⟩ := Numeral.digitChar_of_isDigit hc
    have hne : digitByte (c.toNat - '0'.toNat) ≠ 0x30 := by
      apply digitByte_ne_zero _ hlt
      intro hvalue
      rw [hvalue] at hchar
      exact hc0 hchar.symm
    rw [encode_digit_cons hc, List.cons_append] at hdigits ⊢
    rw [wholePart.eq_2, hdigits]
    intro d u heq
    exact absurd (List.cons.inj heq).1 hne

/-! ## Fraction and exponent -/

theorem fractionPart_absent (atEnd : Flaw) (hb : b ≠ 0x2E) (s : Bytes) :
    fractionPart atEnd (b :: s) = .ok (none, b :: s) := by
  rw [fractionPart.eq_2]
  exact fun _ h => hb (List.cons.inj h).1

theorem exponentPart_absent (atEnd : Flaw) (hsmall : b ≠ 0x65) (hlarge : b ≠ 0x45) (s : Bytes) :
    exponentPart atEnd (b :: s) = .ok (none, b :: s) := by
  rw [exponentPart.eq_3]
  · exact fun _ h => hsmall (List.cons.inj h).1
  · exact fun _ h => hlarge (List.cons.inj h).1

theorem fractionPart_encode (atEnd : Flaw) (hn : n.WellFormed) (hb : isDigit b = false)
    (hpoint : b ≠ 0x2E) (s : Bytes) :
    ∃ read, fractionPart atEnd (Utf8.encode n.fraction ++ b :: s) = .ok (read, b :: s) ∧
      (read.isSome = false ↔ n.fraction = []) := by
  rcases hn.fraction with hnone | ⟨digits, hdigits, hsome⟩
  · rw [hnone]
    exact ⟨none, fractionPart_absent atEnd hpoint s, by simp⟩
  · rw [hsome]
    refine ⟨some (Utf8.encode digits), ?_, by simp⟩
    show (digits1 atEnd (Utf8.encode digits ++ b :: s)).map _ = _
    rw [digits1_encode atEnd hdigits hb]
    rfl

theorem signedExponent_encode (atEnd : Flaw) {sign : Text}
    (hsign : sign = [] ∨ sign = ['+'] ∨ sign = ['-']) (h : Digits digits) (hb : isDigit b = false)
    (s : Bytes) :
    ∃ read, signedExponent atEnd (Utf8.encode (sign ++ digits) ++ b :: s) =
      .ok (some read, b :: s) := by
  have hread : ∀ negative, exponentDigits atEnd negative (Utf8.encode digits ++ b :: s) =
      .ok (some (negative, Utf8.encode digits), b :: s) := fun negative => by
    rw [exponentDigits, digits1_encode atEnd h hb]
    rfl
  rcases hsign with rfl | rfl | rfl
  · obtain ⟨c, rest, rfl, hc⟩ := h.exists_cons
    refine ⟨(false, Utf8.encode (c :: rest)), ?_⟩
    have hsigns : ∀ d < 10, digitByte d ≠ 0x2B ∧ digitByte d ≠ 0x2D := by decide
    have hne := hsigns _ (Numeral.digitChar_of_isDigit hc).1
    rw [List.nil_append, ← hread false, encode_digit_cons hc, List.cons_append]
    rw [signedExponent.eq_3]
    · exact fun _ heq => hne.1 (List.cons.inj heq).1
    · exact fun _ heq => hne.2 (List.cons.inj heq).1
  · exact ⟨(false, Utf8.encode digits), hread false⟩
  · exact ⟨(true, Utf8.encode digits), hread true⟩

theorem exponentPart_encode (atEnd : Flaw) (hn : n.WellFormed) (hb : isDigit b = false)
    (hsmall : b ≠ 0x65) (hlarge : b ≠ 0x45) (s : Bytes) :
    ∃ read, exponentPart atEnd (Utf8.encode n.exponent ++ b :: s) = .ok (read, b :: s) ∧
      (read.isSome = false ↔ n.exponent = []) := by
  rcases hn.exponent with hnone | ⟨letter, sign, digits, hletter, hsign, hdigits, hsome⟩
  · rw [hnone]
    exact ⟨none, exponentPart_absent atEnd hsmall hlarge s, by simp⟩
  · obtain ⟨read, hread⟩ := signedExponent_encode atEnd hsign hdigits hb s
    rw [hsome]
    refine ⟨some read, ?_, by simp⟩
    rcases hletter with rfl | rfl
    · exact hread
    · exact hread

/-- What stands behind the fraction can belong neither to the fraction nor to the whole part. -/
theorem exponent_head (hn : n.WellFormed) (hb : endsNumber b = true) (s : Bytes) :
    ∃ c u, Utf8.encode n.exponent ++ b :: s = c :: u ∧ isDigit c = false ∧ c ≠ 0x2E := by
  simp only [endsNumber, Bool.and_eq_true, Bool.not_eq_true', bne_iff_ne] at hb
  rcases hn.exponent with hnone | ⟨letter, sign, digits, hletter, -, -, hsome⟩
  · rw [hnone]
    exact ⟨b, s, rfl, hb.1.1.1, hb.1.1.2⟩
  · rw [hsome]
    rcases hletter with rfl | rfl
    · exact ⟨0x65, Utf8.encode (sign ++ digits) ++ b :: s, rfl, by decide, by decide⟩
    · exact ⟨0x45, Utf8.encode (sign ++ digits) ++ b :: s, rfl, by decide, by decide⟩

theorem fraction_head (hn : n.WellFormed) (hb : isDigit b = false) (s : Bytes) :
    ∃ c u, Utf8.encode n.fraction ++ b :: s = c :: u ∧ isDigit c = false := by
  rcases hn.fraction with hnone | ⟨digits, -, hsome⟩
  · rw [hnone]
    exact ⟨b, s, rfl, hb⟩
  · rw [hsome]
    exact ⟨0x2E, Utf8.encode digits ++ b :: s, rfl, by decide⟩

/-! ## Values -/

/-- The digits are all taken into the significand where the value is not too large. -/
theorem accumulate_encode {value m : Nat} (h : ∀ c ∈ digits, IsDigit c) (hv : value ≤ maxNatural) :
    accumulate value (Utf8.encode digits) = (m, []) ↔
      valueFrom value digits = m ∧ m ≤ maxNatural := by
  induction digits generalizing value with
  | nil =>
      show (value, ([] : Bytes)) = (m, []) ↔ value = m ∧ m ≤ maxNatural
      simp only [Prod.mk.injEq, and_true]
      constructor
      · rintro rfl
        exact ⟨rfl, hv⟩
      · exact And.left
  | cons c digits ih =>
      rw [List.forall_mem_cons] at h
      have hlt := (Numeral.digitChar_of_isDigit h.1).1
      rw [encode_digit_cons h.1, accumulate, digitValue_digitByte _ hlt, Numeral.valueFrom_cons]
      by_cases hlarge : maxNatural < value * 10 + (c.toNat - '0'.toNat)
      · -- what follows makes the value no smaller
        have hgrow := Numeral.le_valueFrom (value * 10 + (c.toNat - '0'.toNat)) digits
        rw [if_pos hlarge]
        simp only [Prod.mk.injEq, List.cons_ne_nil, and_false, false_iff, not_and]
        omega
      · rw [if_neg hlarge, ih h.2 (Nat.le_of_not_lt hlarge)]

theorem real_ne_natural {num : Number} {significand m : Nat} {exponent : Int} :
    num.real significand exponent ≠ .ok (.natural m) := by
  intro h
  obtain ⟨x, -, h⟩ := map_eq_ok_iff.1 h
  cases h

theorem value_eq_natural_iff {num : Number} {m : Nat} :
    num.value = .ok (.natural m) ↔
      num.negative = false ∧ num.broken = false ∧ accumulate 0 num.whole = (m, []) := by
  rw [Number.value]
  obtain ⟨whole, beyond⟩ := accumulate 0 num.whole
  dsimp only
  by_cases hbroken : (num.broken || !beyond.isEmpty) = true
  · rw [if_pos hbroken]
    refine iff_of_false real_ne_natural ?_
    rintro ⟨-, hnot, hwhole⟩
    rw [Prod.mk.injEq] at hwhole
    simp [hnot, hwhole.2] at hbroken
  · simp only [Bool.or_eq_true, Bool.not_eq_true', not_or, Bool.not_eq_true, Bool.not_eq_false,
      List.isEmpty_iff] at hbroken
    obtain ⟨hbroken, rfl⟩ := hbroken
    cases hnegative : num.negative with
    | false => simp [hbroken]
    | true =>
        simp only [hbroken, List.isEmpty_nil, Bool.not_true, Bool.or_false, Bool.false_eq_true,
          if_false, reduceCtorEq, false_and, iff_false]
        split
        · exact real_ne_natural
        · simp

/-- A number of the grammar is read up to its end, and it is natural where it denotes a number
that fits a word. -/
theorem number_literal (atEnd : Flaw) (hn : n.WellFormed) (hb : endsNumber b = true) (s : Bytes) :
    ∃ num, number atEnd n.negative (Utf8.encode n.unsigned ++ b :: s) = .ok (num, b :: s) ∧
      ∀ m, num.value = .ok (.natural m) ↔ n.Denotes m ∧ m ≤ maxNatural := by
  have hends := hb
  simp only [endsNumber, Bool.and_eq_true, Bool.not_eq_true', bne_iff_ne] at hends
  obtain ⟨⟨⟨hdigit, -⟩, hsmall⟩, hlarge⟩ := hends
  -- the parts from the last to the first, since each ends where the next one begins
  obtain ⟨exponent, hexponent, hnoExponent⟩ := exponentPart_encode atEnd hn hdigit hsmall hlarge s
  obtain ⟨c, u, hu, hc, hpoint⟩ := exponent_head hn hb s
  obtain ⟨fraction, hfraction, hnoFraction⟩ := fractionPart_encode atEnd hn hc hpoint u
  obtain ⟨d, v, hv, hd⟩ := fraction_head hn hc u
  have hwhole := wholePart_encode atEnd hn.whole hn.noLeadingZero hd v
  have htext : Utf8.encode n.unsigned ++ b :: s = Utf8.encode n.whole ++ d :: v := by
    rw [Literal.unsigned, Utf8.encode_append, Utf8.encode_append, List.append_assoc,
      List.append_assoc, hu, hv]
  refine ⟨⟨n.negative, Utf8.encode n.whole, fraction.getD [], exponent,
    fraction.isSome || exponent.isSome⟩, ?_, fun m => ?_⟩
  · rw [htext, number, hwhole, ← hv]
    show (fractionPart atEnd (Utf8.encode n.fraction ++ c :: u) >>= _) = _
    rw [hfraction, ← hu]
    show (exponentPart atEnd (Utf8.encode n.exponent ++ b :: s) >>= _) = _
    rw [hexponent]
    rfl
  · rw [value_eq_natural_iff]
    dsimp only
    rw [accumulate_encode hn.whole.2 (Nat.zero_le maxNatural), Bool.or_eq_false_iff, hnoFraction,
      hnoExponent]
    constructor
    · rintro ⟨hpositive, ⟨hf, he⟩, hvalue, hle⟩
      exact ⟨⟨hpositive, hf, he, hvalue⟩, hle⟩
    · rintro ⟨⟨hpositive, hf, he, hvalue⟩, hle⟩
      exact ⟨hpositive, ⟨hf, he⟩, hvalue, hle⟩

/-! ## Numerals -/

namespace Literal

/-- The number that is written as a numeral. -/
def ofNat (n : Nat) : Literal := ⟨false, Numeral.write n, [], []⟩

theorem wellFormed_ofNat (n : Nat) : (ofNat n).WellFormed := by
  refine ⟨⟨Numeral.write_ne_nil n, fun c hc => ?_⟩, fun hzero => ?_, .inl rfl, .inl rfl⟩
  · obtain ⟨d, hd, rfl⟩ := Numeral.mem_write hc
    exact Numeral.isDigit_digitChar d hd
  · by_cases hn : n = 0
    · rw [ofNat, hn]
      rfl
    · obtain ⟨d, hd, hlt, hhead⟩ := Numeral.head?_write hn
      have hne : ∀ d < 10, d ≠ 0 → Nat.digitChar d ≠ '0' := by decide
      exact absurd (Option.some.inj (hhead.symm.trans hzero)) (hne d hlt hd)

theorem denotes_ofNat (n : Nat) : (ofNat n).Denotes n :=
  ⟨rfl, rfl, rfl, Numeral.valueFrom_write n⟩

theorem writes_ofNat (n : Nat) : Writes (.value (.number (ofNat n))) (Numeral.write n) := by
  have htext : (ofNat n).text = Numeral.write n := List.append_nil _
  rw [← htext]
  exact .number (wellFormed_ofNat n)

end Literal
end FrameTap.Json
