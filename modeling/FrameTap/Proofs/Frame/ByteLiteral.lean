import FrameTap.Frame.ByteLiteral
import FrameTap.Proofs.Text.Reader

/-!
# Reading byte-string literals

Python reads a literal `b'...'` or `b"..."` up to the closing quote.  A backslash begins
an escape, and every other ASCII character but a line break stands for its own byte.  Only
the escapes that the literals of frames need are read here.

The reading gives the text behind the literal as well, so that a literal is recovered whatever
follows it.  The literal itself is printable ASCII, and so it is one line.
-/

namespace FrameTap.ByteLiteral

/-! ## The reader -/

def hexValue? (c : Char) : Option Nat :=
  if '0' ≤ c ∧ c ≤ '9' then some (c.toNat - '0'.toNat)
  else if 'a' ≤ c ∧ c ≤ 'f' then some (c.toNat - 'a'.toNat + 10)
  else if 'A' ≤ c ∧ c ≤ 'F' then some (c.toNat - 'A'.toNat + 10)
  else none

/-- The byte that a backslash and this character stand for. -/
def letterEscape? (c : Char) : Option UInt8 :=
  if c = '\\' then some 0x5C
  else if c = '\'' then some 0x27
  else if c = '"' then some 0x22
  else if c = 't' then some 0x09
  else if c = 'n' then some 0x0A
  else if c = 'r' then some 0x0D
  else none

/-- The byte that a character outside an escape stands for. -/
def plain? (c : Char) : Option UInt8 :=
  if c.toNat < 0x80 ∧ c ≠ '\n' ∧ c ≠ '\r' then some (UInt8.ofNat c.toNat) else none

/-- The bytes up to the closing quote, and the text behind it. -/
def readBody? (quote : Char) : Text → Option (Bytes × Text)
  | [] => none
  | '\\' :: 'x' :: a :: b :: t =>
    match hexValue? a, hexValue? b with
    | some a, some b => prepend [UInt8.ofNat (a * 16 + b)] (readBody? quote t)
    | _, _ => none
  | '\\' :: c :: t =>
    match letterEscape? c with
    | some b => prepend [b] (readBody? quote t)
    | none => none
  | c :: t =>
    if c = quote then some ([], t)
    else if c = '\\' then none
    else
      match plain? c with
      | some b => prepend [b] (readBody? quote t)
      | none => none

/-- The two quotes that a literal may have. -/
def IsQuote (c : Char) : Prop := c = '\'' ∨ c = '"'

instance (c : Char) : Decidable (IsQuote c) := inferInstanceAs (Decidable (_ ∨ _))

/-- The bytes of a literal, and the text behind it. -/
def readPrefix? : Text → Option (Bytes × Text)
  | 'b' :: quote :: t => if IsQuote quote then readBody? quote t else none
  | _ => none

def read? (t : Text) : Option Bytes :=
  match readPrefix? t with
  | some (bytes, []) => some bytes
  | _ => none

example : read? "b'\\x00\\xFF\\t\"'".toList = some [0x00, 0xFF, 0x09, 0x22] := by decide

/-! ## One byte -/

theorem hexValue?_hexDigit : ∀ n < 16, hexValue? (hexDigit n) = some n := by
  decide

theorem readBody?_letter {quote c : Char} {b : UInt8} (h : letterEscape? c = some b) (t : Text) :
    readBody? quote ('\\' :: c :: t) = prepend [b] (readBody? quote t) := by
  have hx : c ≠ 'x' := by
    rintro rfl
    cases h
  rw [readBody?.eq_3, h]
  exact fun _ _ _ heq => absurd heq hx

theorem readBody?_plain {quote c : Char} {b : UInt8} (hq : c ≠ quote) (hs : c ≠ '\\')
    (h : plain? c = some b) (t : Text) :
    readBody? quote (c :: t) = prepend [b] (readBody? quote t) := by
  rw [readBody?, if_neg hq, if_neg hs, h]
  · exact fun _ _ _ heq => absurd heq hs
  · exact fun _ _ heq => absurd heq hs

theorem readBody?_hex {quote : Char} (b : UInt8) (t : Text) :
    readBody? quote
        ('\\' :: 'x' :: hexDigit (b.toNat / 16) :: hexDigit (b.toNat % 16) :: t) =
      prepend [b] (readBody? quote t) := by
  have hlt := b.toNat_lt
  have hvalue : b.toNat / 16 * 16 + b.toNat % 16 = b.toNat := by omega
  rw [readBody?, hexValue?_hexDigit _ (by omega), hexValue?_hexDigit _ (by omega)]
  dsimp only
  rw [hvalue, UInt8.ofNat_toNat]

theorem toNat_ofNat {n : Nat} (h : n < 0x80) : (Char.ofNat n).toNat = n := by
  have hvalid : n.isValidChar := .inl (by omega)
  rw [Char.ofNat, dif_pos hvalid]
  rfl

theorem letterEscape?_quote {quote : Char} (hq : IsQuote quote) {b : UInt8}
    (h : b.toNat = quote.toNat) : letterEscape? quote = some b := by
  rw [← UInt8.ofNat_toNat (x := b), h]
  rcases hq with rfl | rfl <;> rfl

theorem readBody?_printable {quote : Char} {b : UInt8} (hbackslash : b ≠ 0x5C)
    (hquote : b.toNat ≠ quote.toNat) (hrange : 0x20 ≤ b ∧ b ≤ 0x7E) (t : Text) :
    readBody? quote (Char.ofNat b.toNat :: t) = prepend [b] (readBody? quote t) := by
  have hlow : 0x20 ≤ b.toNat := UInt8.le_iff_toNat_le.1 hrange.1
  have hhigh : b.toNat ≤ 0x7E := UInt8.le_iff_toNat_le.1 hrange.2
  have hto : (Char.ofNat b.toNat).toNat = b.toNat := toNat_ofNat (by omega)
  have hne : ∀ c : Char, b.toNat ≠ c.toNat → Char.ofNat b.toNat ≠ c := by
    rintro c h rfl
    exact h hto.symm
  have hcontrol : ∀ c : Char, c.toNat < 0x20 → Char.ofNat b.toNat ≠ c := fun c hc =>
    hne c (by omega)
  have h5C : b.toNat ≠ 0x5C := fun h => hbackslash (UInt8.toNat_inj.1 h)
  refine readBody?_plain (hne quote hquote) (hne '\\' h5C) ?_ t
  rw [plain?, hto, if_pos ⟨by omega, hcontrol '\n' (by decide), hcontrol '\r' (by decide)⟩,
    UInt8.ofNat_toNat]

/-- The written form of a byte is read back as this byte, whatever follows. -/
theorem readBody?_escape {quote : Char} (hq : IsQuote quote) (b : UInt8) (t : Text) :
    readBody? quote (escape quote b ++ t) = prepend [b] (readBody? quote t) := by
  by_cases hbackslash : b = 0x5C
  · rw [escape, if_pos hbackslash]
    exact readBody?_letter (by rw [hbackslash]; rfl) t
  by_cases htab : b = 0x09
  · rw [escape, if_neg hbackslash, if_pos htab]
    exact readBody?_letter (by rw [htab]; rfl) t
  by_cases hnewline : b = 0x0A
  · rw [escape, if_neg hbackslash, if_neg htab, if_pos hnewline]
    exact readBody?_letter (by rw [hnewline]; rfl) t
  by_cases hreturn : b = 0x0D
  · rw [escape, if_neg hbackslash, if_neg htab, if_neg hnewline, if_pos hreturn]
    exact readBody?_letter (by rw [hreturn]; rfl) t
  rw [escape, if_neg hbackslash, if_neg htab, if_neg hnewline, if_neg hreturn]
  by_cases hquote : b.toNat = quote.toNat
  · rw [if_pos hquote]
    exact readBody?_letter (letterEscape?_quote hq hquote) t
  rw [if_neg hquote]
  by_cases hrange : 0x20 ≤ b ∧ b ≤ 0x7E
  · rw [if_pos hrange]
    exact readBody?_printable hbackslash hquote hrange t
  · rw [if_neg hrange]
    exact readBody?_hex b t

/-! ## Literals -/

theorem readBody?_body {quote : Char} (hq : IsQuote quote) (frame : Bytes) (t : Text) :
    readBody? quote (frame.flatMap (escape quote) ++ quote :: t) = some (frame, t) := by
  induction frame with
  | nil =>
      rw [List.flatMap_nil, List.nil_append]
      rcases hq with rfl | rfl <;> rfl
  | cons b frame ih =>
      rw [List.flatMap_cons, List.append_assoc, readBody?_escape hq, ih]
      rfl

theorem isQuote_quoteOf (frame : Bytes) : IsQuote (quoteOf frame) := by
  rw [quoteOf]
  split
  · exact .inr rfl
  · exact .inl rfl

theorem encode_append (frame : Bytes) (t : Text) :
    encode frame ++ t = 'b' :: quoteOf frame ::
      (frame.flatMap (escape (quoteOf frame)) ++ quoteOf frame :: t) := by
  rw [encode, List.cons_append, List.cons_append, List.append_assoc]
  rfl

/-- A literal is read back as the frame that it was written for, whatever follows it. -/
theorem readPrefix?_encode (frame : Bytes) (t : Text) :
    readPrefix? (encode frame ++ t) = some (frame, t) := by
  have hq := isQuote_quoteOf frame
  rw [encode_append, readPrefix?, if_pos hq]
  exact readBody?_body hq frame t

theorem read?_encode (frame : Bytes) : read? (encode frame) = some frame := by
  have h := readPrefix?_encode frame []
  rw [List.append_nil] at h
  rw [read?, h]

/-! ## Printable ASCII -/

def isPrintable (c : Char) : Bool := 0x20 ≤ c.toNat && c.toNat ≤ 0x7E

theorem all_printable_escape_single :
    ∀ n < 256, (escape '\'' (UInt8.ofNat n)).all isPrintable = true := by
  decide +kernel

theorem all_printable_escape_double :
    ∀ n < 256, (escape '"' (UInt8.ofNat n)).all isPrintable = true := by
  decide +kernel

theorem printable_escape {quote c : Char} (hq : IsQuote quote) {b : UInt8}
    (h : c ∈ escape quote b) : isPrintable c = true := by
  rw [← UInt8.ofNat_toNat (x := b)] at h
  rcases hq with rfl | rfl
  · exact List.all_eq_true.1 (all_printable_escape_single b.toNat b.toNat_lt) c h
  · exact List.all_eq_true.1 (all_printable_escape_double b.toNat b.toNat_lt) c h

theorem printable_encode {frame : Bytes} {c : Char} (h : c ∈ encode frame) :
    isPrintable c = true := by
  have hq := isQuote_quoteOf frame
  have hquote : isPrintable (quoteOf frame) = true := by
    rcases hq with h | h
    · rw [h]
      rfl
    · rw [h]
      rfl
  rw [← List.append_nil (encode frame), encode_append, List.mem_cons, List.mem_cons,
    List.mem_append, List.mem_singleton] at h
  rcases h with rfl | rfl | h | rfl
  · rfl
  · exact hquote
  · obtain ⟨b, -, hb⟩ := List.mem_flatMap.1 h
    exact printable_escape hq hb
  · exact hquote

theorem newline_notMem_encode (frame : Bytes) : '\n' ∉ encode frame := fun h =>
  absurd (printable_encode h) Bool.false_ne_true

end FrameTap.ByteLiteral
