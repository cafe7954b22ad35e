import FrameTap.Text.Basic
import FrameTap.Text.Combining
import FrameTap.Text.Shapeless

/-!
# Quoted texts

A text is quoted for a message by double quotes around it.  Inside, a backslash
starts an escape: the quote and the backslash themselves, the four control
characters with a letter of their own, and by its code point each other character
that would not stand on its own in a line of text.  A single quote needs no escape.
-/

namespace FrameTap.Text

/-- A character by its code point: lower-case hexadecimal digits, no leading zero. -/
def codePointEscape (c : Char) : Text :=
  ['\\', 'u', '{'] ++ Nat.toDigits 16 c.toNat ++ ['}']

/-- The written form of one character between the quotes. -/
def escape (c : Char) : Text :=
  if c = '\x00' then ['\\', '0']
  else if c = '\t' then ['\\', 't']
  else if c = '\r' then ['\\', 'r']
  else if c = '\n' then ['\\', 'n']
  else if c = '"' then ['\\', '"']
  else if c = '\\' then ['\\', '\\']
  else if isCombining c || isShapeless c then codePointEscape c
  else [c]

def quote (t : Text) : Text := '"' :: t.flatMap escape ++ ['"']

example : quote "it's \"x\"".toList = "\"it's \\\"x\\\"\"".toList := by decide

example : quote ['a', '\u0301'] = ['"', 'a', '\\', 'u', '{', '3', '0', '1', '}', '"'] := by
  decide +kernel

end FrameTap.Text
