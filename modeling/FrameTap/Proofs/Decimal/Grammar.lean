import FrameTap.Proofs.Decimal.Numeral

/-!
# Which texts denote a number

A number may have a plus sign in front and any number of leading zeros, and its digits may
go on for as long as they like.  `Denotes` says this without a limit.  A reader with a limit
stops where it is exceeded, and as values only grow it accepts the texts that denote a
number within the limit (`readNat_eq_ok_iff`).

Of the texts that denote a positive number one has neither sign nor leading zero, and it is
the one that is written (`eq_write_iff`).
-/

namespace FrameTap.Numeral

def IsDigit (c : Char) : Prop := '0' ≤ c ∧ c ≤ '9'

/-- The value of a run of digits behind a part with value `value`. -/
def valueFrom (value : Nat) (digits : Text) : Nat :=
  digits.foldl (fun value c => value * 10 + (c.toNat - '0'.toNat)) value

/-- The text is a run of digits, with or without a plus sign, and `n` is its value. -/
def Denotes (t : Text) (n : Nat) : Prop :=
  ∃ digits, (t = digits ∨ t = '+' :: digits) ∧ digits ≠ [] ∧ (∀ c ∈ digits, IsDigit c) ∧
    valueFrom 0 digits = n

theorem valueFrom_cons (value : Nat) (c : Char) (digits : Text) :
    valueFrom value (c :: digits) = valueFrom (value * 10 + (c.toNat - '0'.toNat)) digits := by
  rw [valueFrom, valueFrom, List.foldl_cons]

theorem valueFrom_append (value : Nat) (digits more : Text) :
    valueFrom value (digits ++ more) = valueFrom (valueFrom value digits) more :=
  List.foldl_append

theorem le_valueFrom (value : Nat) (digits : Text) : value ≤ valueFrom value digits := by
  induction digits generalizing value with
  | nil => exact Nat.le_refl value
  | cons c digits ih =>
    rw [valueFrom_cons]
    exact Nat.le_trans (by omega) (ih _)

theorem digit?_of_isDigit {c : Char} (h : IsDigit c) : digit? c = some (c.toNat - '0'.toNat) :=
  if_pos h

theorem digit?_of_not_isDigit {c : Char} (h : ¬ IsDigit c) : digit? c = none := if_neg h

/-- Digits and a plus sign are all that a number is written with. -/
theorem notMem_of_denotes {t : Text} {n : Nat} {c : Char} (h : Denotes t n)
    (hdigit : ¬ IsDigit c) (hplus : c ≠ '+') : c ∉ t := by
  obtain ⟨digits, ht, -, hdigits, -⟩ := h
  have hm : c ∉ digits := fun hm => hdigit (hdigits c hm)
  rcases ht with rfl | rfl
  · exact hm
  · rw [List.mem_cons, not_or]
    exact ⟨hplus, hm⟩

/-! ## Reading -/

theorem readDigits_eq_ok_iff {limit value n : Nat} {t : Text} (hv : value ≤ limit) :
    readDigits limit value t = .ok n ↔
      (∀ c ∈ t, IsDigit c) ∧ valueFrom value t = n ∧ n ≤ limit := by
  induction t generalizing value with
  | nil =>
    simp only [readDigits, valueFrom, List.foldl_nil, Except.ok.injEq, List.not_mem_nil,
      false_implies, implies_true, true_and]
    omega
  | cons c t ih =>
    rw [readDigits, valueFrom_cons, List.forall_mem_cons]
    by_cases hc : IsDigit c
    · rw [digit?_of_isDigit hc]
      dsimp only
      by_cases hlimit : limit < value * 10 + (c.toNat - '0'.toNat)
      · -- What follows makes the value no smaller, so the whole is too large as well.
        have hgrow := le_valueFrom (value * 10 + (c.toNat - '0'.toNat)) t
        rw [if_pos hlimit]
        constructor
        · intro h
          cases h
        · rintro ⟨-, hn, hle⟩
          omega
      · rw [if_neg hlimit, ih (Nat.le_of_not_lt hlimit)]
        simp [hc]
    · rw [digit?_of_not_isDigit hc]
      constructor
      · intro h
        cases h
      · rintro ⟨⟨hdigit, -⟩, -⟩
        exact absurd hdigit hc

theorem readUnsigned_eq_ok_iff {limit n : Nat} {t : Text} :
    readUnsigned limit t = .ok n ↔
      t ≠ [] ∧ (∀ c ∈ t, IsDigit c) ∧ valueFrom 0 t = n ∧ n ≤ limit := by
  cases t with
  | nil => simp [readUnsigned]
  | cons c t =>
    rw [readUnsigned, if_neg (by simp), readDigits_eq_ok_iff (Nat.zero_le limit)]
    simp

theorem not_isDigit_plus : ¬ IsDigit '+' := by
  unfold IsDigit
  decide

theorem denotes_plus_iff {t : Text} {n : Nat} :
    Denotes ('+' :: t) n ↔ t ≠ [] ∧ (∀ c ∈ t, IsDigit c) ∧ valueFrom 0 t = n := by
  constructor
  · rintro ⟨digits, rfl | heq, hne, hdigits, hvalue⟩
    · exact absurd (hdigits '+' List.mem_cons_self) not_isDigit_plus
    · obtain rfl := (List.cons.inj heq).2
      exact ⟨hne, hdigits, hvalue⟩
  · rintro ⟨hne, hdigits, hvalue⟩
    exact ⟨t, Or.inr rfl, hne, hdigits, hvalue⟩

theorem denotes_iff_of_ne_plus {t : Text} {n : Nat} (h : t.head? ≠ some '+') :
    Denotes t n ↔ t ≠ [] ∧ (∀ c ∈ t, IsDigit c) ∧ valueFrom 0 t = n := by
  constructor
  · rintro ⟨digits, rfl | rfl, hne, hdigits, hvalue⟩
    · exact ⟨hne, hdigits, hvalue⟩
    · exact absurd List.head?_cons h
  · rintro ⟨hne, hdigits, hvalue⟩
    exact ⟨t, Or.inl rfl, hne, hdigits, hvalue⟩

/-- The reader accepts what denotes a number within its limit, and returns that number. -/
theorem readNat_eq_ok_iff {limit n : Nat} {t : Text} :
    readNat limit t = .ok n ↔ Denotes t n ∧ n ≤ limit := by
  unfold readNat
  split
  · rw [denotes_iff_of_ne_plus (by simp)]
    simp
  · rw [readUnsigned_eq_ok_iff, denotes_plus_iff]
    simp only [and_assoc]
  · rename_i hne hplus
    have hhead : t.head? ≠ some '+' := by
      cases t with
      | nil => simp
      | cons c t =>
        rw [List.head?_cons]
        intro heq
        exact hplus t (by rw [Option.some.inj heq])
    rw [readUnsigned_eq_ok_iff, denotes_iff_of_ne_plus hhead]
    simp only [and_assoc]

/-! ## The written form -/

theorem isDigit_digitChar : ∀ d < 10, IsDigit (Nat.digitChar d) := by
  unfold IsDigit
  decide

theorem valueFrom_write (n : Nat) : valueFrom 0 (write n) = n := by
  have hdigit : ∀ value d, d < 10 → valueFrom value [Nat.digitChar d] = value * 10 + d := by
    intro value d hd
    rw [valueFrom_cons, Nat.toNat_digitChar_of_lt_ten hd]
    show value * 10 + (48 + d - 48) = value * 10 + d
    omega
  induction n using Nat.strongRecOn with
  | ind n ih =>
    by_cases hn : n < 10
    · rw [write_of_lt hn, hdigit 0 n hn]
      omega
    · rw [write_of_le (by omega), valueFrom_append, ih (n / 10) (by omega),
        hdigit _ _ (by omega)]
      omega

theorem write_injective {n m : Nat} (h : write n = write m) : n = m := by
  rw [← valueFrom_write n, h, valueFrom_write]

/-- A numeral denotes the number it was written for. -/
theorem denotes_write (n : Nat) : Denotes (write n) n := by
  refine ⟨write n, Or.inl rfl, write_ne_nil n, fun c hc => ?_, valueFrom_write n⟩
  obtain ⟨d, hd, rfl⟩ := mem_write hc
  exact isDigit_digitChar d hd

theorem digitChar_of_isDigit {c : Char} (h : IsDigit c) :
    c.toNat - '0'.toNat < 10 ∧ Nat.digitChar (c.toNat - '0'.toNat) = c := by
  have hlow : 48 ≤ c.toNat := h.1
  have hhigh : c.toNat ≤ 57 := h.2
  have hlt : c.toNat - '0'.toNat < 10 := by
    show c.toNat - 48 < 10
    omega
  refine ⟨hlt, Char.toNat_inj.1 ?_⟩
  rw [Nat.toNat_digitChar_of_lt_ten hlt]
  show 48 + (c.toNat - 48) = c.toNat
  omega

/-- Digits behind a positive number are written behind its numeral. -/
theorem write_valueFrom {value : Nat} {digits : Text} (hv : 0 < value)
    (h : ∀ c ∈ digits, IsDigit c) : write (valueFrom value digits) = write value ++ digits := by
  induction digits generalizing value with
  | nil => rw [List.append_nil]; rfl
  | cons c digits ih =>
    rw [List.forall_mem_cons] at h
    obtain ⟨hlt, hchar⟩ := digitChar_of_isDigit h.1
    generalize hd : c.toNat - '0'.toNat = d at hlt hchar
    have hdiv : (value * 10 + d) / 10 = value := by omega
    have hmod : (value * 10 + d) % 10 = d := by omega
    rw [valueFrom_cons, hd, ih (by omega) h.2, write_of_le (by omega), hdiv, hmod, hchar,
      List.append_assoc, List.singleton_append]

theorem write_valueFrom_zero {c : Char} {digits : Text} (hc : c ≠ '0')
    (h : ∀ d ∈ c :: digits, IsDigit d) : write (valueFrom 0 (c :: digits)) = c :: digits := by
  rw [List.forall_mem_cons] at h
  obtain ⟨hlt, hchar⟩ := digitChar_of_isDigit h.1
  have hpos : 0 < c.toNat - '0'.toNat := by
    refine Nat.pos_of_ne_zero fun hzero => hc ?_
    rw [← hchar, hzero]
    rfl
  rw [valueFrom_cons, Nat.zero_mul, Nat.zero_add, write_valueFrom hpos h.2, write_of_lt hlt,
    hchar, List.singleton_append]

/-- A positive number is written without plus sign and leading zero, and no other text that
denotes it has neither. -/
theorem eq_write_iff {t : Text} {n : Nat} (h : Denotes t n) (hn : n ≠ 0) :
    t = write n ↔ t.head? ≠ some '+' ∧ t.head? ≠ some '0' := by
  constructor
  · rintro rfl
    obtain ⟨d, hd, hlt, hhead⟩ := head?_write hn
    have hall : ∀ d < 10, d ≠ 0 → Nat.digitChar d ≠ '+' ∧ Nat.digitChar d ≠ '0' := by decide
    obtain ⟨hplus, hzero⟩ := hall d hlt hd
    rw [hhead]
    simp [hplus, hzero]
  · rintro ⟨hplus, hzero⟩
    obtain ⟨hne, hdigits, rfl⟩ := (denotes_iff_of_ne_plus hplus).1 h
    cases t with
    | nil => exact absurd rfl hne
    | cons c t =>
      have hc : c ≠ '0' := fun heq => hzero (by rw [heq, List.head?_cons])
      rw [write_valueFrom_zero hc hdigits]

theorem denotes_unique {t : Text} {n m : Nat} (hn : Denotes t n) (hm : Denotes t m) : n = m := by
  by_cases hplus : t.head? = some '+'
  · cases t with
    | nil => cases hplus
    | cons c t =>
      obtain rfl := Option.some.inj hplus
      exact (denotes_plus_iff.1 hn).2.2.symm.trans (denotes_plus_iff.1 hm).2.2
  · exact ((denotes_iff_of_ne_plus hplus).1 hn).2.2.symm.trans
      ((denotes_iff_of_ne_plus hplus).1 hm).2.2

/-! ## Reading with a sign -/

/-- A reader that knows a minus sign reads a positive number as one that does not. -/
theorem readInt_eq_ok_iff {limit n : Nat} {t : Text} (hn : n ≠ 0) :
    readInt limit t = .ok (n : Int) ↔ Denotes t n ∧ n ≤ limit := by
  rw [← readNat_eq_ok_iff]
  unfold readInt
  split
  · -- Nothing positive stands behind a minus sign, and no numeral begins with one.
    refine iff_of_false ?_ fun h => ?_
    · intro h
      split at h
      · rename_i m _
        have heq : -(m : Int) = n := Except.ok.inj h
        omega
      · cases h
      · cases h
    · have hdenotes := (readNat_eq_ok_iff.1 h).1
      refine notMem_of_denotes hdenotes ?_ (by decide) List.mem_cons_self
      unfold IsDigit
      decide
  · cases readNat limit t with
    | ok m =>
      simp only [Except.map, Except.ok.injEq]
      exact Int.ofNat_inj
    | error fault => simp [Except.map]

end FrameTap.Numeral
