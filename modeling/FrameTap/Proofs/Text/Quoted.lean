import FrameTap.Proofs.Decimal.Numeral
import FrameTap.Proofs.Frame.ByteLiteral
import FrameTap.Text.Blank
import FrameTap.Text.Quoted

/-!
# Reading quoted texts

A quoted text is read up to its closing quote, character by character, and the text behind it is
given as well.  Every text is read back from its quotation, whatever follows (`unquote?_quote`).

What is left unescaped between the quotes shows in a line of text: the table of characters without
a shape holds all control characters and all white space but the space.
-/

namespace FrameTap.Text

/-! ## The reader -/

/-- Where a reader is between the quotes. -/
inductive Quoting where
  | plain
  /-- Behind a backslash. -/
  | escaped
  /-- Behind the letter of an escape by code point. -/
  | lettered
  /-- Among the digits of a code point, those before having this value. -/
  | digits (value : Nat)

/-- The character of an escape that is one letter long. -/
def letterEscape? (c : Char) : Option Char :=
  if c = '0' then some '\x00'
  else if c = 't' then some '\t'
  else if c = 'r' then some '\r'
  else if c = 'n' then some '\n'
  else if c = '"' then some '"'
  else if c = '\\' then some '\\'
  else none

/-- The text up to the closing quote, and what is behind it. -/
def readQuoted : Quoting → Text → Option (Text × Text)
  | _, [] => none
  | .plain, c :: t =>
    if c = '"' then some ([], t)
    else if c = '\\' then readQuoted .escaped t
    else prepend [c] (readQuoted .plain t)
  | .escaped, c :: t =>
    if c = 'u' then readQuoted .lettered t
    else
      match letterEscape? c with
      | some d => prepend [d] (readQuoted .plain t)
      | none => none
  | .lettered, c :: t => if c = '{' then readQuoted (.digits 0) t else none
  | .digits value, c :: t =>
    if c = '}' then prepend [Char.ofNat value] (readQuoted .plain t)
    else
      match ByteLiteral.hexValue? c with
      | some d => readQuoted (.digits (value * 16 + d)) t
      | none => none

def unquote? : Text → Option (Text × Text)
  | '"' :: t => readQuoted .plain t
  | _ => none

/-! ## Reading what was quoted -/

/-- A character is written as a letter, as its code point or as itself. -/
theorem escape_cases (c : Char) :
    (∃ l, letterEscape? l = some c ∧ escape c = ['\\', l]) ∨ escape c = codePointEscape c ∨
      (escape c = [c] ∧ c ≠ '"' ∧ c ≠ '\\' ∧ ¬ isShapeless c = true) := by
  by_cases hnul : c = '\x00'
  · exact .inl ⟨'0', by rw [hnul]; rfl, by rw [hnul]; rfl⟩
  by_cases htab : c = '\t'
  · exact .inl ⟨'t', by rw [htab]; rfl, by rw [htab]; rfl⟩
  by_cases hreturn : c = '\r'
  · exact .inl ⟨'r', by rw [hreturn]; rfl, by rw [hreturn]; rfl⟩
  by_cases hnewline : c = '\n'
  · exact .inl ⟨'n', by rw [hnewline]; rfl, by rw [hnewline]; rfl⟩
  by_cases hquote : c = '"'
  · exact .inl ⟨'"', by rw [hquote]; rfl, by rw [hquote]; rfl⟩
  by_cases hbackslash : c = '\\'
  · exact .inl ⟨'\\', by rw [hbackslash]; rfl, by rw [hbackslash]; rfl⟩
  refine .inr ?_
  rw [escape, if_neg hnul, if_neg htab, if_neg hreturn, if_neg hnewline, if_neg hquote,
    if_neg hbackslash]
  by_cases hescape : (isCombining c || isShapeless c) = true
  · exact .inl (if_pos hescape)
  · rw [Bool.or_eq_true, not_or] at hescape
    refine .inr ⟨if_neg ?_, hquote, hbackslash, hescape.2⟩
    simp [hescape]

theorem digitChar_ne_brace : ∀ d < 16, Nat.digitChar d ≠ '}' := by
  decide

theorem readQuoted_digit {d : Nat} (hd : d < 16) (value : Nat) (t : Text) :
    readQuoted (.digits value) (Nat.digitChar d :: t) =
      readQuoted (.digits (value * 16 + d)) t := by
  have hvalue : ByteLiteral.hexValue? (Nat.digitChar d) = some d :=
    ByteLiteral.hexValue?_hexDigit d hd
  rw [readQuoted, if_neg (digitChar_ne_brace d hd), hvalue]

theorem readQuoted_toDigits (n : Nat) (t : Text) :
    readQuoted (.digits 0) (Nat.toDigits 16 n ++ t) = readQuoted (.digits n) t := by
  induction n using Nat.strongRecOn generalizing t with
  | ind n ih =>
      by_cases hn : n < 16
      · rw [Nat.toDigits_of_lt_base hn, List.singleton_append, readQuoted_digit hn]
        rw [Nat.zero_mul, Nat.zero_add]
      · have hvalue : n / 16 * 16 + n % 16 = n := by omega
        rw [Nat.toDigits_of_base_le (by decide) (by omega), List.append_assoc,
          ih (n / 16) (by omega), List.singleton_append, readQuoted_digit (by omega), hvalue]

theorem readQuoted_codePointEscape (c : Char) (t : Text) :
    readQuoted .plain (codePointEscape c ++ t) = prepend [c] (readQuoted .plain t) := by
  show readQuoted (.digits 0) (Nat.toDigits 16 c.toNat ++ ['}'] ++ t) = _
  rw [List.append_assoc, readQuoted_toDigits, List.singleton_append, readQuoted, if_pos rfl,
    Char.ofNat_toNat]

theorem readQuoted_letter {l c : Char} (h : letterEscape? l = some c) (t : Text) :
    readQuoted .plain ('\\' :: l :: t) = prepend [c] (readQuoted .plain t) := by
  have hl : l ≠ 'u' := by
    rintro rfl
    cases h
  show readQuoted .escaped (l :: t) = _
  rw [readQuoted, if_neg hl, h]

/-- The written form of a character is read back as this character, whatever follows. -/
theorem readQuoted_escape (c : Char) (t : Text) :
    readQuoted .plain (escape c ++ t) = prepend [c] (readQuoted .plain t) := by
  rcases escape_cases c with ⟨l, hl, heq⟩ | heq | ⟨heq, hquote, hbackslash, -⟩
  · rw [heq]
    exact readQuoted_letter hl t
  · rw [heq]
    exact readQuoted_codePointEscape c t
  · rw [heq, List.singleton_append, readQuoted, if_neg hquote, if_neg hbackslash]

theorem readQuoted_quoted (t rest : Text) :
    readQuoted .plain (t.flatMap escape ++ '"' :: rest) = some (t, rest) := by
  induction t with
  | nil => rfl
  | cons c t ih =>
      rw [List.flatMap_cons, List.append_assoc, readQuoted_escape, ih]
      rfl

/-- A text is read back from its quotation. -/
theorem unquote?_quote (t rest : Text) : unquote? (quote t ++ rest) = some (t, rest) := by
  show readQuoted .plain (t.flatMap escape ++ ['"'] ++ rest) = _
  rw [List.append_assoc]
  exact readQuoted_quoted t rest

/-! ## What shows between the quotes -/

/-- The characters of the general category Cc. -/
def IsControl (c : Char) : Prop := c.toNat < 0x20 ∨ (0x7F ≤ c.toNat ∧ c.toNat < 0xA0)

/-- A character that a line of text can hold without being broken or hiding anything. -/
def Shows (c : Char) : Prop := ¬ IsControl c ∧ (WhiteSpace c → c = ' ')

theorem shapeless_below : ∀ n < 0xA1, n < 0x20 ∨ 0x7F ≤ n → shapeless.has n = true := by
  decide +kernel

theorem shapeless_spaces : ∀ n < 0xB, shapeless.has (0x2000 + n) = true := by
  decide +kernel

theorem shapeless_single : ∀ n ∈ [0x1680, 0x2028, 0x2029, 0x202F, 0x205F, 0x3000],
    shapeless.has n = true := by
  decide +kernel

theorem isShapeless_of_isControl {c : Char} (h : IsControl c) : isShapeless c = true :=
  shapeless_below c.toNat (by unfold IsControl at h; omega) (by unfold IsControl at h; omega)

theorem isShapeless_of_whiteSpace {c : Char} (h : WhiteSpace c) (hc : c ≠ ' ') :
    isShapeless c = true := by
  have hspace : c.toNat ≠ 0x20 := fun heq => hc (Char.toNat_inj.1 heq)
  have hsingle : c.toNat ∈ [0x1680, 0x2028, 0x2029, 0x202F, 0x205F, 0x3000] →
      isShapeless c = true := shapeless_single c.toNat
  by_cases hlow : c.toNat < 0xA1
  · exact shapeless_below c.toNat hlow (by unfold WhiteSpace at h; omega)
  by_cases hrange : 0x2000 ≤ c.toNat ∧ c.toNat ≤ 0x200A
  · have hoffset := shapeless_spaces (c.toNat - 0x2000) (by omega)
    have hvalue : 0x2000 + (c.toNat - 0x2000) = c.toNat := by omega
    rw [hvalue] at hoffset
    exact hoffset
  · apply hsingle
    simp only [List.mem_cons, List.not_mem_nil, or_false]
    unfold WhiteSpace at h
    omega

theorem shows_of_not_isShapeless {c : Char} (h : ¬ isShapeless c = true) : Shows c := by
  refine ⟨fun hcontrol => h (isShapeless_of_isControl hcontrol), fun hspace => ?_⟩
  by_cases hc : c = ' '
  · exact hc
  · exact absurd (isShapeless_of_whiteSpace hspace hc) h

theorem shows_of_isPrintable {c : Char} (h : ByteLiteral.isPrintable c = true) : Shows c := by
  simp only [ByteLiteral.isPrintable, Bool.and_eq_true, decide_eq_true_eq] at h
  refine ⟨?_, fun hspace => Char.toNat_inj.1 ?_⟩
  · unfold IsControl
    omega
  · show c.toNat = 0x20
    unfold WhiteSpace at hspace
    omega

theorem isPrintable_letter {l c : Char} (h : letterEscape? l = some c) :
    ByteLiteral.isPrintable l = true := by
  have hletter : l = '0' ∨ l = 't' ∨ l = 'r' ∨ l = 'n' ∨ l = '"' ∨ l = '\\' := by
    refine Decidable.byContradiction fun hnone => ?_
    simp only [not_or] at hnone
    simp [letterEscape?, hnone] at h
  rcases hletter with rfl | rfl | rfl | rfl | rfl | rfl <;> rfl

theorem isPrintable_digitChar : ∀ d < 16, ByteLiteral.isPrintable (Nat.digitChar d) = true := by
  decide

theorem isPrintable_of_mem_codePointEscape {c d : Char} (h : d ∈ codePointEscape c) :
    ByteLiteral.isPrintable d = true := by
  simp only [codePointEscape, List.mem_append, List.mem_cons, List.not_mem_nil, or_false] at h
  rcases h with ((rfl | rfl | rfl) | h) | rfl
  · rfl
  · rfl
  · rfl
  · obtain ⟨n, hn, rfl⟩ := Numeral.mem_toDigits (by decide) h
    exact isPrintable_digitChar n hn
  · rfl

theorem shows_of_mem_escape {c d : Char} (h : d ∈ escape c) : Shows d := by
  rcases escape_cases c with ⟨l, hl, heq⟩ | heq | ⟨heq, -, -, hshape⟩
  · rw [heq, List.mem_cons, List.mem_singleton] at h
    rcases h with rfl | rfl
    · exact shows_of_isPrintable rfl
    · exact shows_of_isPrintable (isPrintable_letter hl)
  · rw [heq] at h
    exact shows_of_isPrintable (isPrintable_of_mem_codePointEscape h)
  · rw [heq, List.mem_singleton] at h
    rw [h]
    exact shows_of_not_isShapeless hshape

/-! ## Quotes between the quotes -/

/-- Whether a double quote stands outside of an escape. -/
def hasBareQuote : Text → Bool
  | [] => false
  | '\\' :: _ :: t => hasBareQuote t
  | c :: t => c == '"' || hasBareQuote t

theorem hasBareQuote_plain {plain : Text} (h : ∀ c ∈ plain, c ≠ '"' ∧ c ≠ '\\') (t : Text) :
    hasBareQuote (plain ++ t) = hasBareQuote t := by
  induction plain with
  | nil => rfl
  | cons c plain ih =>
      rw [List.forall_mem_cons] at h
      rw [List.cons_append, hasBareQuote.eq_3, ih h.2, beq_eq_false_iff_ne.2 h.1.1, Bool.false_or]
      exact fun _ _ heq => absurd heq h.1.2

theorem hasBareQuote_escape (c : Char) (t : Text) :
    hasBareQuote (escape c ++ t) = hasBareQuote t := by
  have hdigits : ∀ d < 16, Nat.digitChar d ≠ '"' ∧ Nat.digitChar d ≠ '\\' := by decide
  rcases escape_cases c with ⟨l, -, heq⟩ | heq | ⟨heq, hquote, hbackslash, -⟩
  · rw [heq]
    rfl
  · -- behind the backslash and its letter nothing needs an escape
    have hplain : ∀ d ∈ '{' :: (Nat.toDigits 16 c.toNat ++ ['}']), d ≠ '"' ∧ d ≠ '\\' := by
      intro d hd
      rw [List.mem_cons, List.mem_append, List.mem_singleton] at hd
      rcases hd with rfl | hd | rfl
      · decide
      · obtain ⟨n, hn, rfl⟩ := Numeral.mem_toDigits (by decide) hd
        exact hdigits n hn
      · decide
    rw [heq]
    exact hasBareQuote_plain hplain t
  · rw [heq]
    exact hasBareQuote_plain (by simp [hquote, hbackslash]) t

theorem hasBareQuote_flatMap_escape (t : Text) : hasBareQuote (t.flatMap escape) = false := by
  induction t with
  | nil => rfl
  | cons c t ih => rw [List.flatMap_cons, hasBareQuote_escape, ih]

end FrameTap.Text
