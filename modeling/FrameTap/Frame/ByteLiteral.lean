import FrameTap.Text.Basic

/-!
# Byte-string literals

A frame is written as `b'...'` in printable ASCII.  Double quotes take the place of
the single ones exactly when the frame holds a single quote and no double quote, so
that as few quotes as possible need an escape.
-/

namespace FrameTap.ByteLiteral

/-- The quote around the literal of a frame. -/
def quoteOf (frame : Bytes) : Char :=
  if frame.contains 0x27 && !frame.contains 0x22 then '"' else '\''

def hexDigit (n : Nat) : Char := Nat.digitChar n

/-- The written form of one byte between quotes `quote`. -/
def escape (quote : Char) (b : UInt8) : Text :=
  if b = 0x5C then ['\\', '\\']
  else if b = 0x09 then ['\\', 't']
  else if b = 0x0A then ['\\', 'n']
  else if b = 0x0D then ['\\', 'r']
  else if b.toNat = quote.toNat then ['\\', quote]
  else if 0x20 ≤ b ∧ b ≤ 0x7E then [Char.ofNat b.toNat]
  else ['\\', 'x', hexDigit (b.toNat / 16), hexDigit (b.toNat % 16)]

def encode (frame : Bytes) : Text :=
  let quote := quoteOf frame
  'b' :: quote :: frame.flatMap (escape quote) ++ [quote]

example : encode [0x69, 0x74, 0x27, 0x73] = "b\"it's\"".toList := by decide

example : encode [0x00, 0xFF, 0x09] = "b'\\x00\\xff\\t'".toList := by decide

end FrameTap.ByteLiteral
