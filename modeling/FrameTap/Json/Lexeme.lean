import FrameTap.Text.Utf8

/-!
# JSON lexemes

The words, numbers and strings of JSON, read from the front of a byte string.  A reading
fails because the text is malformed or because it ends too early.

Numbers are only taken apart here, and what end of the text inside a number counts as
is up to the reader.  Strings are read in two ways: for their content, where an escaped
surrogate needs its partner and the whole has to be UTF-8, and only to find their end,
where neither is looked at.
-/

namespace FrameTap.Json

/-- How a JSON text is wrong. -/
inductive Flaw where
  | malformed
  | truncated
  deriving DecidableEq

def isSpace (b : UInt8) : Bool := b == 0x20 || b == 0x0A || b == 0x0D || b == 0x09

def skipSpace (s : Bytes) : Bytes := s.dropWhile isSpace

/-- The text behind `letters`, which have to come first. -/
def word : (letters s : Bytes) → Except Flaw Bytes
  | [], s => .ok s
  | _ :: _, [] => .error .truncated
  | l :: letters, b :: s => if l = b then word letters s else .error .malformed

def isDigit (b : UInt8) : Bool := 0x30 ≤ b && b ≤ 0x39

/-- A number as it is written. -/
structure Number where
  negative : Bool
  whole : Bytes
  fraction : Bytes
  /-- The digits of the exponent, with `true` for a negative one. -/
  exponent : Option (Bool × Bytes)
  /-- There is a fraction or an exponent. -/
  broken : Bool
  deriving DecidableEq

/-- The digits at the front, of which there has to be one, and the text behind them. -/
def digits1 (atEnd : Flaw) (s : Bytes) : Except Flaw (Bytes × Bytes) :=
  match s with
  | [] => .error atEnd
  | b :: _ =>
    if isDigit b then .ok (s.takeWhile isDigit, s.dropWhile isDigit) else .error .malformed

/-- The whole part, which has no leading zero. -/
def wholePart (atEnd : Flaw) (s : Bytes) : Except Flaw (Bytes × Bytes) :=
  match s with
  | 0x30 :: b :: rest => if isDigit b then .error .malformed else .ok ([0x30], b :: rest)
  | _ => digits1 atEnd s

def fractionPart (atEnd : Flaw) (s : Bytes) : Except Flaw (Option Bytes × Bytes) :=
  match s with
  | 0x2E :: rest => (digits1 atEnd rest).map fun (digits, rest) => (some digits, rest)
  | _ => .ok (none, s)

def exponentDigits (atEnd : Flaw) (negative : Bool) (s : Bytes) :
    Except Flaw (Option (Bool × Bytes) × Bytes) :=
  (digits1 atEnd s).map fun (digits, rest) => (some (negative, digits), rest)

/-- The exponent behind its letter. -/
def signedExponent (atEnd : Flaw) (s : Bytes) : Except Flaw (Option (Bool × Bytes) × Bytes) :=
  match s with
  | 0x2B :: rest => exponentDigits atEnd false rest
  | 0x2D :: rest => exponentDigits atEnd true rest
  | _ => exponentDigits atEnd false s

def exponentPart (atEnd : Flaw) (s : Bytes) : Except Flaw (Option (Bool × Bytes) × Bytes) :=
  match s with
  | 0x65 :: rest => signedExponent atEnd rest
  | 0x45 :: rest => signedExponent atEnd rest
  | _ => .ok (none, s)

/-- A number without its minus sign. -/
def number (atEnd : Flaw) (negative : Bool) (s : Bytes) : Except Flaw (Number × Bytes) := do
  let (whole, s) ← wholePart atEnd s
  let (fraction, s) ← fractionPart atEnd s
  let (exponent, s) ← exponentPart atEnd s
  .ok (⟨negative, whole, fraction.getD [], exponent, fraction.isSome || exponent.isSome⟩, s)

def hexValue? (b : UInt8) : Option Nat :=
  if 0x30 ≤ b ∧ b ≤ 0x39 then some (b.toNat - 0x30)
  else if 0x41 ≤ b ∧ b ≤ 0x46 then some (b.toNat - 0x41 + 10)
  else if 0x61 ≤ b ∧ b ≤ 0x66 then some (b.toNat - 0x61 + 10)
  else none

/-- Four hexadecimal digits.  Fewer than four bytes are an early end, whatever they are. -/
def hex4 : Bytes → Except Flaw (Nat × Bytes)
  | a :: b :: c :: d :: s =>
    match hexValue? a, hexValue? b, hexValue? c, hexValue? d with
    | some a, some b, some c, some d => .ok (((a * 16 + b) * 16 + c) * 16 + d, s)
    | _, _, _, _ => .error .malformed
  | _ => .error .truncated

/-- The character that a one-letter escape stands for. -/
def letterEscape? (b : UInt8) : Option Char :=
  if b = 0x22 then some '"'
  else if b = 0x5C then some '\\'
  else if b = 0x2F then some '/'
  else if b = 0x62 then some '\x08'
  else if b = 0x66 then some '\x0C'
  else if b = 0x6E then some '\n'
  else if b = 0x72 then some '\r'
  else if b = 0x74 then some '\t'
  else none

/-- The letter of the escapes by code point. -/
def codePointLetter : UInt8 := 0x75

/-- The second half of a character whose escape began with the leading surrogate `high`. -/
def trailing (high : Nat) : Bytes → Except Flaw (Char × Bytes)
  | [] => .error .truncated
  | [b] => if b = 0x5C then .error .truncated else .error .malformed
  | b :: u :: s =>
    if b = 0x5C ∧ u = codePointLetter then
      match hex4 s with
      | .error flaw => .error flaw
      | .ok (low, s) =>
        if 0xDC00 ≤ low ∧ low ≤ 0xDFFF then
          .ok (Char.ofNat ((high - 0xD800) * 0x400 + (low - 0xDC00) + 0x10000), s)
        else .error .malformed
    else .error .malformed

/-- An escape behind its backslash. -/
def escape : Bytes → Except Flaw (Char × Bytes)
  | [] => .error .truncated
  | b :: s =>
    match letterEscape? b with
    | some c => .ok (c, s)
    | none =>
      if b = codePointLetter then
        match hex4 s with
        | .error flaw => .error flaw
        | .ok (n, s) =>
          if 0xDC00 ≤ n ∧ n ≤ 0xDFFF then .error .malformed
          else if 0xD800 ≤ n ∧ n < 0xDC00 then trailing n s
          else .ok (Char.ofNat n, s)
      else .error .malformed

/-- An escape of which only the end is looked for. -/
def skipEscape : Bytes → Except Flaw Bytes
  | [] => .error .truncated
  | b :: s =>
    if (letterEscape? b).isSome then .ok s
    else if b = codePointLetter then (hex4 s).map Prod.snd
    else .error .malformed

theorem length_hex4 {s rest : Bytes} {n : Nat} (h : hex4 s = .ok (n, rest)) :
    rest.length < s.length := by
  unfold hex4 at h
  split at h
  · split at h <;> cases h
    simp only [List.length_cons]
    omega
  · cases h

theorem length_trailing {high : Nat} {s rest : Bytes} {c : Char}
    (h : trailing high s = .ok (c, rest)) : rest.length < s.length := by
  unfold trailing at h
  split at h
  · cases h
  · split at h <;> cases h
  · split at h
    · split at h
      · cases h
      · rename_i heq
        have := length_hex4 heq
        split at h
        · simp only [Except.ok.injEq, Prod.mk.injEq] at h
          simp only [List.length_cons, ← h.2]
          omega
        · cases h
    · cases h

theorem length_escape {s rest : Bytes} {c : Char} (h : escape s = .ok (c, rest)) :
    rest.length < s.length := by
  unfold escape at h
  split at h
  · cases h
  · split at h
    · cases h
      simp
    · split at h
      · split at h
        · cases h
        · rename_i heq
          have := length_hex4 heq
          simp only [List.length_cons]
          split at h
          · cases h
          · split at h
            · have := length_trailing h
              omega
            · simp only [Except.ok.injEq, Prod.mk.injEq] at h
              simp only [← h.2]
              omega
      · cases h

theorem length_skipEscape {s rest : Bytes} (h : skipEscape s = .ok rest) :
    rest.length < s.length := by
  unfold skipEscape at h
  split at h
  · cases h
  · simp only [List.length_cons]
    split at h
    · cases h
      omega
    · split at h
      · cases hx : hex4 _ with
        | error flaw => rw [hx] at h; cases h
        | ok p =>
          rw [hx] at h
          cases h
          have := length_hex4 hx
          omega
      · cases h

/-- The bytes of a string behind its opening quote, and the text behind the closing one. -/
def stringBytes : Bytes → Except Flaw (Bytes × Bytes)
  | [] => .error .truncated
  | b :: s =>
    if b = 0x22 then .ok ([], s)
    else if b = 0x5C then
      match _escape : escape s with
      | .error flaw => .error flaw
      | .ok (c, rest) =>
        (stringBytes rest).map fun (bytes, rest) => (String.utf8EncodeChar c ++ bytes, rest)
    else if b < 0x20 then .error .malformed
    else (stringBytes s).map fun (bytes, rest) => (b :: bytes, rest)
  termination_by s => s.length
  decreasing_by
    · have := length_escape _escape
      simp only [List.length_cons]
      omega
    · simp

/-- The content of a string behind its opening quote. -/
def string (s : Bytes) : Except Flaw (Text × Bytes) := do
  let (bytes, rest) ← stringBytes s
  match Utf8.decode? bytes with
  | some t => .ok (t, rest)
  | none => .error .malformed

/-- The text behind a string whose opening quote has been read. -/
def skipString : Bytes → Except Flaw Bytes
  | [] => .error .truncated
  | b :: s =>
    if b = 0x22 then .ok s
    else if b = 0x5C then
      match _escape : skipEscape s with
      | .error flaw => .error flaw
      | .ok rest => skipString rest
    else if b < 0x20 then .error .malformed
    else skipString s
  termination_by s => s.length
  decreasing_by
    · have := length_skipEscape _escape
      simp only [List.length_cons]
      omega
    · simp

end FrameTap.Json
