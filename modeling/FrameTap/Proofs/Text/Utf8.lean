import FrameTap.Text.Utf8

/-!
# Reading what was encoded

The bytes of a character take the machine from the start back to the start, and on the way it
answers with that character and nothing else.  So the encoding of a text is read back as
the text, whatever follows it, which is `piecesFrom_encode` and `decode?_encode`.

The ranges that `lead` gives to the second byte are the ones that the code points of
characters need: the first bytes E0 and F0 leave out those with a shorter encoding, ED the
surrogates and F4 what is behind the last code point.
-/

namespace FrameTap.Utf8

/-! ## First bytes -/

theorem lead_one : ∀ n < 256, n < 0x80 → lead (UInt8.ofNat n) = .whole (Char.ofNat n) := by
  decide +kernel

theorem lead_two : ∀ n < 256, 0xC2 ≤ n → n < 0xE0 →
    lead (UInt8.ofNat n) = .opens ⟨0x80, 0xBF, 0, n - 0xC0⟩ := by
  decide +kernel

theorem lead_three : ∀ n < 256, 0xE0 ≤ n → n < 0xF0 →
    lead (UInt8.ofNat n) =
      .opens ⟨if n = 0xE0 then 0xA0 else 0x80, if n = 0xED then 0x9F else 0xBF, 1, n - 0xE0⟩ := by
  decide +kernel

theorem lead_four : ∀ n < 256, 0xF0 ≤ n → n < 0xF5 →
    lead (UInt8.ofNat n) =
      .opens ⟨if n = 0xF0 then 0x90 else 0x80, if n = 0xF4 then 0x8F else 0xBF, 2, n - 0xF0⟩ := by
  decide +kernel

theorem piecesFrom_whole {b : UInt8} {c : Char} (h : lead b = .whole c) (bytes : Bytes) :
    piecesFrom none (b :: bytes) = some c :: piecesFrom none bytes := by
  rw [piecesFrom, step, begin, h]
  rfl

theorem piecesFrom_opens {b : UInt8} {u : Unfinished} (h : lead b = .opens u) (bytes : Bytes) :
    piecesFrom none (b :: bytes) = piecesFrom (some u) bytes := by
  rw [piecesFrom, step, begin, h]
  rfl

/-! ## Continuation bytes -/

theorem le_ofNat_le {low high : UInt8} {n : Nat} (hn : n < 256) (hl : low.toNat ≤ n)
    (hh : n ≤ high.toNat) : low ≤ UInt8.ofNat n ∧ UInt8.ofNat n ≤ high := by
  rw [UInt8.le_iff_toNat_le, UInt8.le_iff_toNat_le, UInt8.toNat_ofNat_of_lt' hn]
  exact ⟨hl, hh⟩

theorem piecesFrom_more {low high : UInt8} {more bits n : Nat} (hn : n < 256)
    (hl : low.toNat ≤ n) (hh : n ≤ high.toNat) (bytes : Bytes) :
    piecesFrom (some ⟨low, high, more + 1, bits⟩) (UInt8.ofNat n :: bytes) =
      piecesFrom (some ⟨0x80, 0xBF, more, bits * 0x40 + n % 0x40⟩) bytes := by
  rw [piecesFrom, step, if_pos (le_ofNat_le hn hl hh), UInt8.toNat_ofNat_of_lt' hn]
  rfl

/-- The last continuation byte completes the character. -/
theorem piecesFrom_last {low high : UInt8} {bits n : Nat} (hn : n < 256)
    (hl : low.toNat ≤ n) (hh : n ≤ high.toNat) (bytes : Bytes) :
    piecesFrom (some ⟨low, high, 0, bits⟩) (UInt8.ofNat n :: bytes) =
      some (Char.ofNat (bits * 0x40 + n % 0x40)) :: piecesFrom none bytes := by
  rw [piecesFrom, step, if_pos (le_ofNat_le hn hl hh), UInt8.toNat_ofNat_of_lt' hn]
  rfl

/-! ## Characters -/

theorem toNat_cases (c : Char) : c.toNat < 0xD800 ∨ (0xDFFF < c.toNat ∧ c.toNat < 0x110000) :=
  c.valid

theorem piecesFrom_encodeChar (c : Char) (bytes : Bytes) :
    piecesFrom none (String.utf8EncodeChar c ++ bytes) = some c :: piecesFrom none bytes := by
  -- The cases are those of the encoder, and the bound of each puts the bytes in their ranges.
  have hc := toNat_cases c
  have hself : Char.ofNat c.toNat = c := Char.ofNat_toNat c
  have hval : c.val.toNat = c.toNat := rfl
  generalize hv : c.toNat = v at hc hself hval
  rw [String.utf8EncodeChar, hval]
  split
  · rename_i h1
    rw [List.cons_append, List.nil_append,
      piecesFrom_whole (lead_one v (by omega) (by omega)), hself]
  · rename_i h1
    split
    · rename_i h2
      have hlead := lead_two (v / 64 % 0x20 + 0xC0) (by omega) (by omega) (by omega)
      rw [List.cons_append, List.cons_append, List.nil_append, piecesFrom_opens hlead,
        piecesFrom_last (by omega) (by show 0x80 ≤ _; omega) (by show _ ≤ 0xBF; omega)]
      have hbits : (v / 64 % 0x20 + 0xC0 - 0xC0) * 0x40 + (v % 0x40 + 0x80) % 0x40 = v := by omega
      rw [hbits, hself]
    · rename_i h2
      split
      · rename_i h3
        have hlead := lead_three (v / 4096 % 0x10 + 0xE0) (by omega) (by omega) (by omega)
        rw [List.cons_append, List.cons_append, List.cons_append, List.nil_append,
          piecesFrom_opens hlead, piecesFrom_more (by omega) ?_ ?_,
          piecesFrom_last (by omega) (by show 0x80 ≤ _; omega) (by show _ ≤ 0xBF; omega)]
        · have hbits : ((v / 4096 % 0x10 + 0xE0 - 0xE0) * 0x40 + (v / 64 % 0x40 + 0x80) % 0x40)
              * 0x40 + (v % 0x40 + 0x80) % 0x40 = v := by omega
          rw [hbits, hself]
        · split
          · show 0xA0 ≤ _
            omega
          · show 0x80 ≤ _
            omega
        · split
          · show _ ≤ 0x9F
            omega
          · show _ ≤ 0xBF
            omega
      · rename_i h3
        have hlead := lead_four (v / 262144 % 0x08 + 0xF0) (by omega) (by omega) (by omega)
        rw [List.cons_append, List.cons_append, List.cons_append, List.cons_append,
          List.nil_append, piecesFrom_opens hlead, piecesFrom_more (by omega) ?_ ?_,
          piecesFrom_more (by omega) (by show 0x80 ≤ _; omega) (by show _ ≤ 0xBF; omega),
          piecesFrom_last (by omega) (by show 0x80 ≤ _; omega) (by show _ ≤ 0xBF; omega)]
        · have hbits : (((v / 262144 % 0x08 + 0xF0 - 0xF0) * 0x40 +
              (v / 4096 % 0x40 + 0x80) % 0x40) * 0x40 + (v / 64 % 0x40 + 0x80) % 0x40)
              * 0x40 + (v % 0x40 + 0x80) % 0x40 = v := by omega
          rw [hbits, hself]
        · split
          · show 0x90 ≤ _
            omega
          · show 0x80 ≤ _
            omega
        · split
          · show _ ≤ 0x8F
            omega
          · show _ ≤ 0xBF
            omega

/-! ## Texts -/

theorem encode_cons (c : Char) (t : Text) : encode (c :: t) = String.utf8EncodeChar c ++ encode t :=
  List.flatMap_cons

theorem encode_append (s t : Text) : encode (s ++ t) = encode s ++ encode t :=
  List.flatMap_append

theorem encode_flatten (pieces : List Text) :
    encode pieces.flatten = (pieces.map encode).flatten := by
  induction pieces with
  | nil => rfl
  | cons piece pieces ih =>
    rw [List.flatten_cons, encode_append, ih, List.map_cons, List.flatten_cons]

theorem encode_intercalate (separator : Text) (pieces : List Text) :
    encode (separator.intercalate pieces) = (encode separator).intercalate (pieces.map encode) := by
  induction pieces with
  | nil => rfl
  | cons piece pieces ih =>
    cases pieces with
    | nil => simp
    | cons piece' pieces =>
      rw [List.intercalate_cons_cons, encode_append, encode_append, ih, List.map_cons,
        List.map_cons, List.map_cons, List.intercalate_cons_cons]

theorem encodeChar_of_ascii {c : Char} (h : c.toNat < 0x80) :
    String.utf8EncodeChar c = [UInt8.ofNat c.toNat] := by
  have hval : c.val.toNat = c.toNat := rfl
  rw [String.utf8EncodeChar, hval, if_pos (by omega)]

/-- Apart from the ASCII characters, whose code points are their bytes, no character has a byte of
the ASCII range. -/
theorem mem_encodeChar {c : Char} {b : UInt8} (h : b ∈ String.utf8EncodeChar c) :
    (c.toNat < 0x80 ∧ b = UInt8.ofNat c.toNat) ∨ 0x80 ≤ b := by
  by_cases hc : c.toNat < 0x80
  · rw [encodeChar_of_ascii hc] at h
    exact .inl ⟨hc, List.mem_singleton.1 h⟩
  · right
    have hhigh : ∀ n, n < 256 → 0x80 ≤ n → (0x80 : UInt8) ≤ UInt8.ofNat n := fun n hn hl => by
      rw [UInt8.le_iff_toNat_le, UInt8.toNat_ofNat_of_lt' hn]
      exact hl
    have hval : c.val.toNat = c.toNat := rfl
    rw [String.utf8EncodeChar, hval, if_neg (by omega)] at h
    split at h
    · simp only [List.mem_cons, List.not_mem_nil, or_false] at h
      rcases h with rfl | rfl <;> exact hhigh _ (by omega) (by omega)
    · split at h
      · simp only [List.mem_cons, List.not_mem_nil, or_false] at h
        rcases h with rfl | rfl | rfl <;> exact hhigh _ (by omega) (by omega)
      · simp only [List.mem_cons, List.not_mem_nil, or_false] at h
        rcases h with rfl | rfl | rfl | rfl <;> exact hhigh _ (by omega) (by omega)

theorem eq_of_byte_eq {c d : Char} (hc : c.toNat < 0x80) (hd : d.toNat < 0x80)
    (h : UInt8.ofNat c.toNat = UInt8.ofNat d.toNat) : c = d := by
  refine Char.toNat_inj.1 ?_
  rw [← UInt8.toNat_ofNat_of_lt' (Nat.lt_trans hc (by decide)), h,
    UInt8.toNat_ofNat_of_lt' (Nat.lt_trans hd (by decide))]

/-- An ASCII byte stands in an encoded text only where its character does. -/
theorem mem_of_mem_encode {t : Text} {c : Char} (hc : c.toNat < 0x80)
    (h : UInt8.ofNat c.toNat ∈ encode t) : c ∈ t := by
  obtain ⟨d, hd, hb⟩ := List.mem_flatMap.1 h
  rcases mem_encodeChar hb with ⟨hd', heq⟩ | hhigh
  · rw [eq_of_byte_eq hc hd' heq]
    exact hd
  · rw [UInt8.le_iff_toNat_le, UInt8.toNat_ofNat_of_lt' (Nat.lt_trans hc (by decide))] at hhigh
    exact absurd hhigh (by show ¬ 0x80 ≤ _; omega)

theorem newline_notMem_encode {t : Text} (h : '\n' ∉ t) : 0x0A ∉ encode t := fun hm =>
  h (mem_of_mem_encode (by decide) hm)

theorem piecesFrom_encode (t : Text) (bytes : Bytes) :
    piecesFrom none (encode t ++ bytes) = t.map some ++ piecesFrom none bytes := by
  induction t with
  | nil => rfl
  | cons c t ih =>
    rw [encode, List.flatMap_cons, List.append_assoc, piecesFrom_encodeChar]
    exact congrArg _ ih

theorem pieces_encode (t : Text) : pieces (encode t) = t.map some := by
  have h := piecesFrom_encode t []
  rw [List.append_nil] at h
  rw [pieces, h]
  exact List.append_nil _

theorem decode?_encode (t : Text) : decode? (encode t) = some t := by
  rw [decode?, pieces_encode]
  induction t with
  | nil => rfl
  | cons c t ih =>
    rw [List.map_cons, List.mapM_cons, ih]
    rfl

theorem encode_injective {s t : Text} (h : encode s = encode t) : s = t := by
  have hread := decode?_encode s
  rw [h, decode?_encode] at hread
  exact (Option.some.inj hread).symm

end FrameTap.Utf8
