import FrameTap.Json.Lexeme
import FrameTap.Proofs.Except
import FrameTap.Proofs.Json.Grammar
import FrameTap.Proofs.Text.Reader
import FrameTap.Proofs.Text.Utf8

/-!
# Reading strings of the grammar

The reader of strings decides each escape by itself, except that a leading half takes what
follows with it.  So the text of a body is read along the recursion of `content?`, where such a
pair is one step (`string_body`).  A string that is skipped is not looked at this closely: its
items end where they end whatever they stand for (`skipString_body`).
-/

namespace FrameTap.Json

/-- The bytes that stand for themselves in a string. -/
def IsPlain (b : UInt8) : Prop := b ≠ 0x22 ∧ b ≠ 0x5C ∧ ¬ b < 0x20

/-! ## Bytes -/

theorem stringBytes_quote (s : Bytes) : stringBytes (0x22 :: s) = .ok ([], s) := by
  rw [stringBytes]
  rfl

theorem stringBytes_escape {s rest : Bytes} {c : Char} (h : escape s = .ok (c, rest)) :
    stringBytes (0x5C :: s) = prepend (String.utf8EncodeChar c) (stringBytes rest) := by
  rw [stringBytes, if_neg (by decide), if_pos rfl]
  split
  · rename_i heq
    rw [h] at heq
    cases heq
  · rename_i heq
    rw [h] at heq
    cases heq
    rfl

theorem stringBytes_plain {b : UInt8} (h : IsPlain b) (s : Bytes) :
    stringBytes (b :: s) = prepend [b] (stringBytes s) := by
  rw [stringBytes, if_neg h.1, if_neg h.2.1, if_neg h.2.2]
  rfl

theorem stringBytes_append {bytes : Bytes} (h : ∀ b ∈ bytes, IsPlain b) (s : Bytes) :
    stringBytes (bytes ++ s) = prepend bytes (stringBytes s) := by
  induction bytes with
  | nil => rw [List.nil_append, nil_prepend]
  | cons b bytes ih =>
      rw [List.cons_append, stringBytes_plain (h b List.mem_cons_self),
        ih fun c hc => h c (List.mem_cons_of_mem _ hc), prepend_prepend]
      rfl

/-! ## Characters -/

/-- A character that needs no escape has no byte that needs one. -/
theorem isPlain_of_mem_encodeChar {c : Char} {b : UInt8} (hquote : c ≠ '"')
    (hbackslash : c ≠ '\\') (hcontrol : ¬ c.toNat < 0x20) (h : b ∈ String.utf8EncodeChar c) :
    IsPlain b := by
  rcases Utf8.mem_encodeChar h with ⟨hc, rfl⟩ | hhigh
  · have hne : ∀ d : Char, d.toNat < 0x80 → c ≠ d → UInt8.ofNat c.toNat ≠ UInt8.ofNat d.toNat :=
      fun d hd hcd heq => hcd (Utf8.eq_of_byte_eq hc hd heq)
    refine ⟨hne '"' (by decide) hquote, hne '\\' (by decide) hbackslash, ?_⟩
    rw [UInt8.lt_iff_toNat_lt, UInt8.toNat_ofNat_of_lt' (Nat.lt_trans hc (by decide))]
    exact hcontrol
  · have hle : 0x80 ≤ b.toNat := UInt8.le_iff_toNat_le.1 hhigh
    refine ⟨?_, ?_, ?_⟩
    · rintro rfl
      exact absurd hle (by decide)
    · rintro rfl
      exact absurd hle (by decide)
    · rw [UInt8.lt_iff_toNat_lt]
      show ¬ b.toNat < 0x20
      omega

theorem stringBytes_encodeChar {c : Char} (hquote : c ≠ '"') (hbackslash : c ≠ '\\')
    (hcontrol : ¬ c.toNat < 0x20) (s : Bytes) :
    stringBytes (String.utf8EncodeChar c ++ s) =
      prepend (String.utf8EncodeChar c) (stringBytes s) :=
  stringBytes_append (fun _ hb => isPlain_of_mem_encodeChar hquote hbackslash hcontrol hb) s

variable {t u : Text} {c l : Char} {n m : Nat}

/-! ## Hexadecimal digits and letters -/

theorem hexValue?_byte : ∀ n < 0x80,
    Json.hexValue? (UInt8.ofNat n) = ByteLiteral.hexValue? (Char.ofNat n) := by
  decide

theorem ascii_of_hexValue? (h : ByteLiteral.hexValue? c = some n) : c.toNat < 0x80 := by
  have hrange : ∀ high : Char, high.toNat < 0x80 → c ≤ high → c.toNat < 0x80 := by
    intro high hhigh hle
    exact Nat.lt_of_le_of_lt (UInt32.le_iff_toNat_le.1 hle) hhigh
  rw [ByteLiteral.hexValue?] at h
  split at h
  · rename_i hdigit
    exact hrange '9' (by decide) hdigit.2
  · split at h
    · rename_i hsmall
      exact hrange 'f' (by decide) hsmall.2
    · split at h
      · rename_i hlarge
        exact hrange 'F' (by decide) hlarge.2
      · cases h

theorem encode_ascii_cons (h : c.toNat < 0x80) (t : Text) :
    Utf8.encode (c :: t) = UInt8.ofNat c.toNat :: Utf8.encode t := by
  rw [Utf8.encode_cons, Utf8.encodeChar_of_ascii h, List.singleton_append]

/-- The digit as a byte, with the same value. -/
theorem encode_hex_cons (h : ByteLiteral.hexValue? c = some n) (t : Text) :
    Utf8.encode (c :: t) = UInt8.ofNat c.toNat :: Utf8.encode t ∧
      Json.hexValue? (UInt8.ofNat c.toNat) = some n := by
  have hascii := ascii_of_hexValue? h
  refine ⟨encode_ascii_cons hascii t, ?_⟩
  rw [hexValue?_byte _ hascii, Char.ofNat_toNat, h]

theorem hex4_encode {a b c d : Char} {w x y z : Nat} (ha : ByteLiteral.hexValue? a = some w)
    (hb : ByteLiteral.hexValue? b = some x) (hc : ByteLiteral.hexValue? c = some y)
    (hd : ByteLiteral.hexValue? d = some z) (s : Bytes) :
    hex4 (Utf8.encode [a, b, c, d] ++ s) = .ok (((w * 16 + x) * 16 + y) * 16 + z, s) := by
  obtain ⟨hafter, ha⟩ := encode_hex_cons ha [b, c, d]
  obtain ⟨hbfter, hb⟩ := encode_hex_cons hb [c, d]
  obtain ⟨hcfter, hc⟩ := encode_hex_cons hc [d]
  obtain ⟨hdfter, hd⟩ := encode_hex_cons hd []
  rw [hafter, hbfter, hcfter, hdfter]
  show hex4 (_ :: _ :: _ :: _ :: s) = _
  rw [hex4, ha, hb, hc, hd]

theorem letter_byte (h : (l, c) ∈ letters) :
    Utf8.encode [l] = [UInt8.ofNat l.toNat] ∧ letterEscape? (UInt8.ofNat l.toNat) = some c ∧
      UInt8.ofNat l.toNat ≠ codePointLetter := by
  simp only [letters, List.mem_cons, Prod.mk.injEq, List.not_mem_nil, or_false] at h
  rcases h with ⟨rfl, rfl⟩ | ⟨rfl, rfl⟩ | ⟨rfl, rfl⟩ | ⟨rfl, rfl⟩ | ⟨rfl, rfl⟩ | ⟨rfl, rfl⟩ |
    ⟨rfl, rfl⟩ | ⟨rfl, rfl⟩ <;> decide

/-! ## Items -/

/-- A character is read as itself, whichever way it is written. -/
theorem stringBytes_char (h : (Item.char c).Writes t) (s : Bytes) :
    stringBytes (Utf8.encode t ++ s) = prepend (String.utf8EncodeChar c) (stringBytes s) := by
  cases h with
  | plain hquote hbackslash hcontrol =>
      rw [Utf8.encode_cons, List.append_assoc]
      exact stringBytes_encodeChar hquote hbackslash hcontrol s
  | @letter l _ hmem =>
      obtain ⟨hbyte, hletter, -⟩ := letter_byte hmem
      rw [← List.singleton_append, Utf8.encode_append, hbyte]
      apply stringBytes_escape
      show escape (UInt8.ofNat l.toNat :: s) = _
      rw [escape, hletter]

/-- An escape by code unit has its four digits behind the letter. -/
theorem Item.Writes.exists_digits (h : (Item.unit n).Writes t) :
    ∃ digits, Utf8.encode t = 0x5C :: codePointLetter :: digits ∧
      ∀ s, hex4 (digits ++ s) = .ok (n, s) := by
  cases h with
  | unit ha hb hc hd => exact ⟨_, rfl, hex4_encode ha hb hc hd⟩

theorem IsLeading.not_trailing (h : IsLeading n) : ¬ IsTrailing n := by
  rw [IsLeading] at h
  rw [IsTrailing]
  omega

theorem escape_unit (h : (Item.unit n).Writes t) :
    ∃ u, Utf8.encode t = 0x5C :: u ∧ ∀ s, escape (u ++ s) =
      if IsTrailing n then .error .malformed
      else if IsLeading n then trailing n s else .ok (Char.ofNat n, s) := by
  obtain ⟨digits, htext, hdigits⟩ := h.exists_digits
  refine ⟨codePointLetter :: digits, htext, fun s => ?_⟩
  have hletter : letterEscape? codePointLetter = none := rfl
  have hleading : IsLeading n ↔ 0xD800 ≤ n ∧ n < 0xDC00 := by
    rw [IsLeading]
    omega
  rw [List.cons_append, escape, hletter]
  dsimp only
  rw [if_pos rfl, hdigits]
  simp only [hleading]
  rfl

theorem trailing_unit (h : (Item.unit m).Writes t) (s : Bytes) :
    trailing n (Utf8.encode t ++ s) =
      if IsTrailing m then .ok (paired n m, s) else .error .malformed := by
  obtain ⟨digits, htext, hdigits⟩ := h.exists_digits
  rw [htext, List.cons_append, List.cons_append, trailing, if_pos ⟨rfl, rfl⟩, hdigits]
  rfl

/-- Only an escape by code unit can stand behind a leading half. -/
theorem trailing_malformed {b : UInt8} {s : Bytes}
    (h : b ≠ 0x5C ∨ ∃ d v, s = d :: v ∧ d ≠ codePointLetter) :
    trailing n (b :: s) = .error .malformed := by
  cases s with
  | nil =>
      rcases h with hb | ⟨d, v, heq, -⟩
      · rw [trailing, if_neg hb]
      · cases heq
  | cons d v =>
      rw [trailing, if_neg]
      rintro ⟨hb, hd⟩
      rcases h with hne | ⟨d', v', heq, hne⟩
      · exact hne hb
      · cases heq
        exact hne hd

theorem trailing_char (h : (Item.char c).Writes t) (s : Bytes) :
    trailing n (Utf8.encode t ++ s) = .error .malformed := by
  cases h with
  | plain hquote hbackslash hcontrol =>
      have hplain : ∀ b ∈ String.utf8EncodeChar c, IsPlain b := fun b hb =>
        isPlain_of_mem_encodeChar hquote hbackslash hcontrol hb
      cases hbytes : String.utf8EncodeChar c with
      | nil => exact absurd hbytes String.utf8EncodeChar_ne_nil
      | cons b bytes =>
          rw [Utf8.encode_cons, hbytes]
          apply trailing_malformed
          exact .inl (hplain b (by rw [hbytes]; exact List.mem_cons_self)).2.1
  | @letter l _ hmem =>
      obtain ⟨hbyte, -, hne⟩ := letter_byte hmem
      rw [← List.singleton_append, Utf8.encode_append, hbyte]
      apply trailing_malformed
      exact .inr ⟨_, s, rfl, hne⟩

/-- A leading half with which the string ends, or before a whole character. -/
theorem trailing_body {items : List Item} (h : Body items t)
    (hnot : ∀ m more, items = .unit m :: more → False) (rest : Bytes) :
    trailing n (Utf8.encode t ++ 0x22 :: rest) = .error .malformed := by
  cases h with
  | nil => exact trailing_malformed (.inl (by decide))
  | @cons item more _ _ head tail =>
      cases item with
      | char c =>
          rw [Utf8.encode_append, List.append_assoc]
          exact trailing_char head _
      | unit m => exact (hnot m more rfl).elim

theorem stringBytes_escape_error {s : Bytes} {flaw : Flaw} (h : escape s = .error flaw) :
    stringBytes (0x5C :: s) = .error flaw := by
  rw [stringBytes, if_neg (by decide), if_pos rfl]
  split
  · rename_i heq
    rw [h] at heq
    cases heq
    rfl
  · rename_i heq
    rw [h] at heq
    cases heq

theorem stringBytes_leading (h : (Item.unit n).Writes t) (hn : IsLeading n) (s : Bytes) :
    stringBytes (Utf8.encode t ++ s) =
      trailing n s >>= fun p => prepend (String.utf8EncodeChar p.1) (stringBytes p.2) := by
  obtain ⟨escaped, htext, hescape⟩ := escape_unit h
  have hread := hescape s
  rw [if_neg hn.not_trailing, if_pos hn] at hread
  rw [htext, List.cons_append]
  cases hpair : trailing n s with
  | error flaw => exact stringBytes_escape_error (hread.trans hpair)
  | ok p => exact stringBytes_escape (hread.trans hpair)

theorem stringBytes_trailing (h : (Item.unit n).Writes t) (hn : IsTrailing n) (s : Bytes) :
    stringBytes (Utf8.encode t ++ s) = .error .malformed := by
  obtain ⟨escaped, htext, hescape⟩ := escape_unit h
  rw [htext, List.cons_append]
  apply stringBytes_escape_error
  rw [hescape, if_pos hn]

theorem stringBytes_whole (h : (Item.unit n).Writes t) (hleading : ¬ IsLeading n)
    (htrailing : ¬ IsTrailing n) (s : Bytes) :
    stringBytes (Utf8.encode t ++ s) =
      prepend (String.utf8EncodeChar (Char.ofNat n)) (stringBytes s) := by
  obtain ⟨escaped, htext, hescape⟩ := escape_unit h
  rw [htext, List.cons_append]
  apply stringBytes_escape
  rw [hescape, if_neg htrailing, if_neg hleading]

/-! ## Bodies -/

/-- What is read from a body that stands for this content, where `rest` is left. -/
def ofContent? {α : Type} (rest : Bytes) : Option α → Except Flaw (α × Bytes)
  | some content => .ok (content, rest)
  | none => .error .malformed

theorem prepend_ofContent? (c : Char) (rest : Bytes) (content : Option Text) :
    prepend (String.utf8EncodeChar c) (ofContent? rest (content.map Utf8.encode)) =
      ofContent? rest ((content.map (c :: ·)).map Utf8.encode) := by
  cases content <;> rfl

theorem stringBytes_body {items : List Item} (h : Body items t) (rest : Bytes) :
    stringBytes (Utf8.encode t ++ 0x22 :: rest) =
      ofContent? rest ((content? items).map Utf8.encode) := by
  -- a pair of halves is one case, so the induction is that of the content and not of the body
  fun_induction content? items generalizing t with
  | case1 =>
      cases h
      exact stringBytes_quote rest
  | case2 c items ih =>
      cases h with
      | cons head tail =>
          rw [Utf8.encode_append, List.append_assoc, stringBytes_char head, ih tail,
            prepend_ofContent?]
  | case3 n hleading m items htrailing ih =>
      obtain _ | ⟨first, _ | ⟨second, tail⟩⟩ := h
      rw [Utf8.encode_append, Utf8.encode_append, List.append_assoc, List.append_assoc,
        stringBytes_leading first hleading, trailing_unit second, if_pos htrailing]
      show prepend _ (stringBytes _) = _
      rw [ih tail, prepend_ofContent?]
  | case4 n hleading m items htrailing =>
      obtain _ | ⟨first, _ | ⟨second, tail⟩⟩ := h
      rw [Utf8.encode_append, Utf8.encode_append, List.append_assoc, List.append_assoc,
        stringBytes_leading first hleading, trailing_unit second, if_neg htrailing]
      rfl
  | case5 n items hleading hnot =>
      obtain _ | ⟨first, tail⟩ := h
      rw [Utf8.encode_append, List.append_assoc, stringBytes_leading first hleading,
        trailing_body tail hnot]
      rfl
  | case6 n items _ htrailing =>
      obtain _ | ⟨first, tail⟩ := h
      rw [Utf8.encode_append, List.append_assoc, stringBytes_trailing first htrailing]
      rfl
  | case7 n items hleading htrailing ih =>
      obtain _ | ⟨first, tail⟩ := h
      rw [Utf8.encode_append, List.append_assoc, stringBytes_whole first hleading htrailing,
        ih tail, prepend_ofContent?]

theorem string_body {items : List Item} (h : Body items t) (rest : Bytes) :
    string (Utf8.encode t ++ 0x22 :: rest) = ofContent? rest (content? items) := by
  rw [string, stringBytes_body h]
  cases content? items with
  | none => rfl
  | some content => simp only [Option.map_some, ofContent?, ok_bind, Utf8.decode?_encode]

/-! ## Strings that are skipped -/

theorem skipString_append {bytes : Bytes} (h : ∀ b ∈ bytes, IsPlain b) (s : Bytes) :
    skipString (bytes ++ s) = skipString s := by
  induction bytes with
  | nil => rfl
  | cons b bytes ih =>
      rw [List.forall_mem_cons] at h
      rw [List.cons_append, skipString, if_neg h.1.1, if_neg h.1.2.1, if_neg h.1.2.2, ih h.2]

theorem skipString_escape {s rest : Bytes} (h : skipEscape s = .ok rest) :
    skipString (0x5C :: s) = skipString rest := by
  rw [skipString, if_neg (by decide), if_pos rfl]
  split
  · rename_i heq
    rw [h] at heq
    cases heq
  · rename_i heq
    rw [h] at heq
    cases heq
    rfl

/-- An item is skipped as a whole, whatever it stands for. -/
theorem skipString_item {item : Item} (h : item.Writes t) (s : Bytes) :
    skipString (Utf8.encode t ++ s) = skipString s := by
  cases item with
  | char c =>
      cases h with
      | plain hquote hbackslash hcontrol =>
          rw [Utf8.encode_cons, List.append_assoc]
          exact skipString_append
            (fun b hb => isPlain_of_mem_encodeChar hquote hbackslash hcontrol hb) s
      | @letter l _ hmem =>
          obtain ⟨hbyte, hletter, -⟩ := letter_byte hmem
          rw [← List.singleton_append, Utf8.encode_append, hbyte]
          apply skipString_escape
          show skipEscape (UInt8.ofNat l.toNat :: s) = _
          rw [skipEscape, hletter]
          rfl
  | unit n =>
      obtain ⟨digits, htext, hdigits⟩ := h.exists_digits
      rw [htext, List.cons_append, List.cons_append]
      apply skipString_escape
      have hletter : letterEscape? codePointLetter = none := rfl
      rw [skipEscape, hletter]
      show (hex4 (digits ++ s)).map Prod.snd = _
      rw [hdigits]
      rfl

theorem skipString_body {items : List Item} (h : Body items t) (rest : Bytes) :
    skipString (Utf8.encode t ++ 0x22 :: rest) = .ok rest := by
  induction h with
  | nil =>
      show skipString (0x22 :: rest) = _
      rw [skipString, if_pos rfl]
  | cons head tail ih =>
      rw [Utf8.encode_append, List.append_assoc, skipString_item head, ih]

end FrameTap.Json
