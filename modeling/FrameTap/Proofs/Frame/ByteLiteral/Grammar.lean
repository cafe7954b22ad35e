import FrameTap.Proofs.Frame.ByteLiteral

/-!
# The grammar of byte-string literals

A reader accepts many literals for one frame, and only one of them is written.  This file says
which texts are written ones, without the writer.  Every byte has one token (`Token`), but which
token a quote has depends on the quotes around the literal, and these depend on all of its bytes.
So the tokens are put in a row between quotes that are given (`Body`), and the quotes are checked
against the bytes that were read (`IsLiteral`).

The theorem this file exists for is `literal_exact`: the texts of the grammar are the literals
of frames, each of exactly one, and a literal is known from whatever text it begins.
-/

namespace FrameTap.ByteLiteral

/-- The value of a hexadecimal digit that is written with a small letter. -/
def LowerHex (c : Char) (n : Nat) : Prop :=
  ('0' ≤ c ∧ c ≤ '9' ∧ n = c.toNat - '0'.toNat) ∨ ('a' ≤ c ∧ c ≤ 'f' ∧ n = c.toNat - 'a'.toNat + 10)

/-- The token that stands for a byte between quotes `quote`. -/
inductive Token (quote : Char) : Text → UInt8 → Prop where
  | printable (c : Char) (range : 0x20 ≤ c.toNat ∧ c.toNat ≤ 0x7E) (notBackslash : c ≠ '\\')
      (notQuote : c ≠ quote) : Token quote [c] (UInt8.ofNat c.toNat)
  | backslash : Token quote ['\\', '\\'] 0x5C
  | tab : Token quote ['\\', 't'] 0x09
  | newline : Token quote ['\\', 'n'] 0x0A
  | carriageReturn : Token quote ['\\', 'r'] 0x0D
  | quote : Token quote ['\\', quote] (UInt8.ofNat quote.toNat)
  | hex {high low : Char} {m n : Nat} {b : UInt8} (hhigh : LowerHex high m) (hlow : LowerHex low n)
      (value : b.toNat = m * 16 + n) (range : b.toNat < 0x20 ∨ 0x7E < b.toNat)
      (unnamed : b ≠ 0x09 ∧ b ≠ 0x0A ∧ b ≠ 0x0D) : Token quote ['\\', 'x', high, low] b

/-- A row of tokens, and the bytes that they stand for. -/
inductive Body (quote : Char) : Text → Bytes → Prop where
  | nil : Body quote [] []
  | cons {s t : Text} {b : UInt8} {bytes : Bytes} (token : Token quote s b)
      (rest : Body quote t bytes) : Body quote (s ++ t) (b :: bytes)

/-- A row of tokens between quotes, which are double ones exactly where the bytes hold a single
quote and no double quote. -/
def IsLiteral (t : Text) (bytes : Bytes) : Prop :=
  ∃ quote body, IsQuote quote ∧ t = 'b' :: quote :: body ++ [quote] ∧ Body quote body bytes ∧
    (quote = '"' ↔ 0x27 ∈ bytes ∧ 0x22 ∉ bytes)

/-! ## Tokens -/

theorem toNat_hexDigit : ∀ n < 16, (hexDigit n).toNat = if n < 10 then 48 + n else 87 + n := by
  decide

theorem lowerHex_iff {c : Char} {n : Nat} : LowerHex c n ↔ n < 16 ∧ c = hexDigit n := by
  constructor
  · intro h
    have hcode : n < 16 ∧ c.toNat = if n < 10 then 48 + n else 87 + n := by
      rcases h with ⟨hlow, hhigh, hn⟩ | ⟨hlow, hhigh, hn⟩
      · have hlow : 48 ≤ c.toNat := hlow
        have hhigh : c.toNat ≤ 57 := hhigh
        have hn : n = c.toNat - 48 := hn
        rw [if_pos (by omega)]
        omega
      · have hlow : 97 ≤ c.toNat := hlow
        have hhigh : c.toNat ≤ 102 := hhigh
        have hn : n = c.toNat - 97 + 10 := hn
        rw [if_neg (by omega)]
        omega
    refine ⟨hcode.1, Char.toNat_inj.1 ?_⟩
    rw [hcode.2, toNat_hexDigit n hcode.1]
  · rintro ⟨hn, rfl⟩
    revert n
    unfold LowerHex
    decide

theorem range_of_isQuote {quote : Char} (hq : IsQuote quote) :
    0x20 ≤ quote.toNat ∧ quote.toNat ≤ 0x7E := by
  rcases hq with rfl | rfl <;> decide

theorem escape_printable {quote : Char} {b : UInt8} (hrange : 0x20 ≤ b.toNat ∧ b.toNat ≤ 0x7E)
    (hbackslash : b ≠ 0x5C) (hquote : b.toNat ≠ quote.toNat) :
    escape quote b = [Char.ofNat b.toNat] := by
  have hne : ∀ d : UInt8, d.toNat < 0x20 → b ≠ d := by
    intro d hd heq
    rw [heq] at hrange
    omega
  have hle : 0x20 ≤ b ∧ b ≤ 0x7E :=
    ⟨UInt8.le_iff_toNat_le.2 hrange.1, UInt8.le_iff_toNat_le.2 hrange.2⟩
  rw [escape, if_neg hbackslash, if_neg (hne 0x09 (by decide)), if_neg (hne 0x0A (by decide)),
    if_neg (hne 0x0D (by decide)), if_neg hquote, if_pos hle]

theorem escape_hex {quote : Char} (hq : IsQuote quote) {b : UInt8}
    (hrange : b.toNat < 0x20 ∨ 0x7E < b.toNat) (hunnamed : b ≠ 0x09 ∧ b ≠ 0x0A ∧ b ≠ 0x0D) :
    escape quote b = ['\\', 'x', hexDigit (b.toNat / 16), hexDigit (b.toNat % 16)] := by
  have hquote := range_of_isQuote hq
  have hbackslash : b ≠ 0x5C := by
    rintro rfl
    revert hrange
    decide
  have hnot : ¬ (0x20 ≤ b ∧ b ≤ 0x7E) := by
    rw [UInt8.le_iff_toNat_le, UInt8.le_iff_toNat_le]
    show ¬ (0x20 ≤ b.toNat ∧ b.toNat ≤ 0x7E)
    omega
  rw [escape, if_neg hbackslash, if_neg hunnamed.1, if_neg hunnamed.2.1, if_neg hunnamed.2.2,
    if_neg (by omega), if_neg hnot]

/-- Every token is the written form of its byte. -/
theorem Token.eq_escape {quote : Char} (hq : IsQuote quote) {s : Text} {b : UInt8}
    (h : Token quote s b) : s = escape quote b := by
  cases h with
  | printable c range notBackslash notQuote =>
    have hb : (UInt8.ofNat c.toNat).toNat = c.toNat :=
      UInt8.toNat_ofNat_of_lt' (by show c.toNat < 256; omega)
    -- conditions on the character become conditions on its byte, which `escape` tests
    have hne : ∀ d : Char, c ≠ d → (UInt8.ofNat c.toNat).toNat ≠ d.toNat := by
      intro d hd heq
      rw [hb] at heq
      exact hd (Char.toNat_inj.1 heq)
    have hbackslash : UInt8.ofNat c.toNat ≠ 0x5C := fun heq =>
      hne '\\' notBackslash (congrArg UInt8.toNat heq)
    rw [escape_printable (by rw [hb]; exact range) hbackslash (hne quote notQuote), hb,
      Char.ofNat_toNat]
  | backslash => rfl
  | tab => rfl
  | newline => rfl
  | carriageReturn => rfl
  | quote => rcases hq with rfl | rfl <;> rfl
  | @hex high low m n b hhigh hlow value range unnamed =>
    obtain ⟨hm, rfl⟩ := lowerHex_iff.1 hhigh
    obtain ⟨hn, rfl⟩ := lowerHex_iff.1 hlow
    have hdiv : b.toNat / 16 = m := by omega
    have hmod : b.toNat % 16 = n := by omega
    rw [escape_hex hq range unnamed, hdiv, hmod]

/-- The written form of a byte is a token. -/
theorem token_escape {quote : Char} (hq : IsQuote quote) (b : UInt8) :
    Token quote (escape quote b) b := by
  -- the tests of `escape` in their order: a byte in the printable range is tested for the quote
  -- before, and the named bytes come before both
  by_cases hbackslash : b = 0x5C
  · rw [hbackslash]
    exact .backslash
  by_cases htab : b = 0x09
  · rw [htab]
    exact .tab
  by_cases hnewline : b = 0x0A
  · rw [hnewline]
    exact .newline
  by_cases hreturn : b = 0x0D
  · rw [hreturn]
    exact .carriageReturn
  by_cases hquote : b.toNat = quote.toNat
  · have hb : b = UInt8.ofNat quote.toNat := by
      rw [← hquote, UInt8.ofNat_toNat]
    have htoken : Token quote ['\\', quote] b := hb ▸ .quote
    rwa [htoken.eq_escape hq] at htoken
  by_cases hrange : 0x20 ≤ b.toNat ∧ b.toNat ≤ 0x7E
  · have hto : (Char.ofNat b.toNat).toNat = b.toNat := toNat_ofNat (by omega)
    have hne : ∀ c : Char, b.toNat ≠ c.toNat → Char.ofNat b.toNat ≠ c := by
      intro c hc heq
      rw [← heq] at hc
      exact hc hto.symm
    have htoken : Token quote [Char.ofNat b.toNat] (UInt8.ofNat (Char.ofNat b.toNat).toNat) :=
      .printable (Char.ofNat b.toNat) (by rwa [hto])
        (hne '\\' fun h => hbackslash (UInt8.toNat_inj.1 h)) (hne quote hquote)
    rw [hto, UInt8.ofNat_toNat] at htoken
    rwa [escape_printable hrange hbackslash hquote]
  · have hrange' : b.toNat < 0x20 ∨ 0x7E < b.toNat := by omega
    have hlt := b.toNat_lt
    rw [escape_hex hq hrange' ⟨htab, hnewline, hreturn⟩]
    exact .hex (lowerHex_iff.2 ⟨by omega, rfl⟩) (lowerHex_iff.2 ⟨by omega, rfl⟩) (by omega) hrange'
      ⟨htab, hnewline, hreturn⟩

/-! ## Literals -/

theorem body_iff {quote : Char} (hq : IsQuote quote) {t : Text} {bytes : Bytes} :
    Body quote t bytes ↔ t = bytes.flatMap (escape quote) := by
  constructor
  · intro h
    induction h with
    | nil => rfl
    | cons token rest ih => rw [List.flatMap_cons, ← token.eq_escape hq, ← ih]
  · rintro rfl
    induction bytes with
    | nil => exact .nil
    | cons b bytes ih =>
      rw [List.flatMap_cons]
      exact .cons (token_escape hq b) ih

theorem quoteOf_eq_iff {bytes : Bytes} :
    quoteOf bytes = '"' ↔ 0x27 ∈ bytes ∧ 0x22 ∉ bytes := by
  rw [quoteOf, ← List.contains_iff_mem, ← List.contains_iff_mem]
  split <;> simp_all

/-- The condition on the quotes leaves one choice. -/
theorem eq_quoteOf_iff {quote : Char} (hq : IsQuote quote) {bytes : Bytes} :
    quote = quoteOf bytes ↔ (quote = '"' ↔ 0x27 ∈ bytes ∧ 0x22 ∉ bytes) := by
  rw [← quoteOf_eq_iff]
  rcases hq with rfl | rfl <;> rcases isQuote_quoteOf bytes with h | h <;> simp [h]

/-- The grammar describes what is written. -/
theorem isLiteral_iff {t : Text} {bytes : Bytes} : IsLiteral t bytes ↔ t = encode bytes := by
  constructor
  · rintro ⟨quote, body, hq, rfl, hbody, hquote⟩
    rw [(body_iff hq).1 hbody, (eq_quoteOf_iff hq).2 hquote]
    rfl
  · rintro rfl
    have hq := isQuote_quoteOf bytes
    exact ⟨quoteOf bytes, _, hq, rfl, (body_iff hq).2 rfl, (eq_quoteOf_iff hq).1 rfl⟩

theorem encode_append_inj {frame frame' : Bytes} {rest rest' : Text}
    (h : encode frame ++ rest = encode frame' ++ rest') : frame = frame' ∧ rest = rest' := by
  have hread := readPrefix?_encode frame rest
  rw [h, readPrefix?_encode] at hread
  exact (Prod.mk.inj (Option.some.inj hread)).imp Eq.symm Eq.symm

/-- A literal is read back as its frame, and behind it the rest of a text is known.  The literals
of frames are the texts of the grammar, and each of these is the literal of the bytes that are
read from it. -/
theorem literal_exact :
    (∀ frame : Bytes, read? (encode frame) = some frame) ∧
      (∀ (frame frame' : Bytes) (rest rest' : Text), encode frame ++ rest = encode frame' ++ rest' →
        frame = frame' ∧ rest = rest') ∧
      (∀ t : Text, (∃ frame, t = encode frame) ↔ ∃ bytes, IsLiteral t bytes) ∧
      ∀ (t : Text) (bytes : Bytes), IsLiteral t bytes → read? t = some bytes ∧ encode bytes = t := by
  refine ⟨read?_encode, fun _ _ _ _ => encode_append_inj, fun t => ?_, fun t bytes h => ?_⟩
  · exact exists_congr fun frame => isLiteral_iff.symm
  · obtain rfl := isLiteral_iff.1 h
    exact ⟨read?_encode bytes, rfl⟩

end FrameTap.ByteLiteral
