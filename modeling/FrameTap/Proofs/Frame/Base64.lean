import FrameTap.Frame.Base64

/-!
# Reading Base64

The reader takes the standard alphabet with padding.  Every four characters give three
bytes, except for the last four, which may end in one or two paddings and then give two bytes or
one.  The bits that a padded group has left over have to be zero, so that no bytes have two
encodings.
-/

namespace FrameTap.Base64

/-! ## The reader -/

/-- The six bits of a character. -/
def value? (c : Char) : Option Nat := alphabet.idxOf? c

/-- The bytes of four characters. -/
def group? (a b c d : Char) : Option Bytes :=
  match value? a, value? b, value? c, value? d with
  | some a, some b, some c, some d =>
    some [UInt8.ofNat (a * 4 + b / 16), UInt8.ofNat (b % 16 * 16 + c / 4),
      UInt8.ofNat (c % 4 * 64 + d)]
  | _, _, _, _ => none

/-- The bytes of three characters with one padding behind them. -/
def lastTwo? (a b c : Char) : Option Bytes :=
  match value? a, value? b, value? c with
  | some a, some b, some c =>
    if c % 4 = 0 then some [UInt8.ofNat (a * 4 + b / 16), UInt8.ofNat (b % 16 * 16 + c / 4)]
    else none
  | _, _, _ => none

/-- The byte of two characters with two paddings behind them. -/
def lastOne? (a b : Char) : Option Bytes :=
  match value? a, value? b with
  | some a, some b => if b % 16 = 0 then some [UInt8.ofNat (a * 4 + b / 16)] else none
  | _, _ => none

def decode? : Text → Option Bytes
  | [] => some []
  | a :: b :: c :: d :: t =>
    if d = padding then
      if t ≠ [] then none else if c = padding then lastOne? a b else lastTwo? a b c
    else
      match group? a b c d, decode? t with
      | some bytes, some more => some (bytes ++ more)
      | _, _ => none
  | _ => none

example : decode? "aGVsbG8=".toList = some [0x68, 0x65, 0x6C, 0x6C, 0x6F] := by decide

/-! ## Groups -/

theorem value?_symbol : ∀ n < 64, value? (symbol n) = some n := by
  decide +kernel

theorem symbol_ne_padding : ∀ n < 64, symbol n ≠ padding := by
  decide +kernel

theorem ofNat_eq {b : UInt8} {n : Nat} (h : n = b.toNat) : UInt8.ofNat n = b := by
  rw [h, UInt8.ofNat_toNat]

theorem lastOne?_encode (a : UInt8) :
    lastOne? (symbol (a.toNat / 4)) (symbol (a.toNat % 4 * 16)) = some [a] := by
  have ha := a.toNat_lt
  rw [lastOne?, value?_symbol _ (by omega), value?_symbol _ (by omega)]
  dsimp only
  rw [if_pos (by omega), ofNat_eq (b := a) (by omega)]

theorem lastTwo?_encode (a b : UInt8) :
    lastTwo? (symbol (a.toNat / 4)) (symbol (a.toNat % 4 * 16 + b.toNat / 16))
      (symbol (b.toNat % 16 * 4)) = some [a, b] := by
  have ha := a.toNat_lt
  have hb := b.toNat_lt
  rw [lastTwo?, value?_symbol _ (by omega), value?_symbol _ (by omega),
    value?_symbol _ (by omega)]
  dsimp only
  rw [if_pos (by omega), ofNat_eq (b := a) (by omega), ofNat_eq (b := b) (by omega)]

theorem group?_encode (a b c : UInt8) :
    group? (symbol (a.toNat / 4)) (symbol (a.toNat % 4 * 16 + b.toNat / 16))
      (symbol (b.toNat % 16 * 4 + c.toNat / 64)) (symbol (c.toNat % 64)) = some [a, b, c] := by
  have ha := a.toNat_lt
  have hb := b.toNat_lt
  have hc := c.toNat_lt
  rw [group?, value?_symbol _ (by omega), value?_symbol _ (by omega),
    value?_symbol _ (by omega), value?_symbol _ (by omega)]
  dsimp only
  rw [ofNat_eq (b := a) (by omega), ofNat_eq (b := b) (by omega), ofNat_eq (b := c) (by omega)]

/-! ## Byte strings -/

/-- Every byte string is read back from its encoding. -/
theorem decode?_encode (bytes : Bytes) : decode? (encode bytes) = some bytes := by
  induction bytes using encode.induct with
  | case1 => rfl
  | case2 a =>
      have ha := a.toNat_lt
      rw [encode, decode?, if_pos rfl, if_neg (by simp), if_pos rfl, lastOne?_encode]
  | case3 a b =>
      have hb := b.toNat_lt
      rw [encode, decode?, if_pos rfl, if_neg (by simp),
        if_neg (symbol_ne_padding _ (by omega)), lastTwo?_encode]
  | case4 a b c bytes ih =>
      have hc := c.toNat_lt
      rw [encode, decode?, if_neg (symbol_ne_padding _ (by omega)), group?_encode, ih]
      rfl

theorem encode_injective {bytes bytes' : Bytes} (h : encode bytes = encode bytes') :
    bytes = bytes' := by
  have hdecode := congrArg decode? h
  rw [decode?_encode, decode?_encode] at hdecode
  exact Option.some.inj hdecode

/-! ## The characters of an encoding -/

theorem symbol_mem (n : Nat) : symbol n ∈ padding :: alphabet := by
  rw [symbol, List.getD_eq_getElem?_getD]
  cases h : alphabet[n]? with
  | none => exact List.mem_cons_self
  | some c => exact List.mem_cons_of_mem _ (List.mem_of_getElem? h)

theorem mem_encode {bytes : Bytes} {c : Char} (h : c ∈ encode bytes) : c ∈ padding :: alphabet := by
  induction bytes using encode.induct with
  | case1 => simp [encode] at h
  | case2 a =>
      simp only [encode, List.mem_cons, List.not_mem_nil, or_false] at h
      rcases h with rfl | rfl | rfl | rfl
      · exact symbol_mem _
      · exact symbol_mem _
      · exact List.mem_cons_self
      · exact List.mem_cons_self
  | case3 a b =>
      simp only [encode, List.mem_cons, List.not_mem_nil, or_false] at h
      rcases h with rfl | rfl | rfl | rfl
      · exact symbol_mem _
      · exact symbol_mem _
      · exact symbol_mem _
      · exact List.mem_cons_self
  | case4 a b c bytes ih =>
      simp only [encode, List.mem_cons] at h
      rcases h with rfl | rfl | rfl | rfl | h
      · exact symbol_mem _
      · exact symbol_mem _
      · exact symbol_mem _
      · exact symbol_mem _
      · exact ih h

end FrameTap.Base64
