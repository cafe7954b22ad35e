import FrameTap.Text.Basic

/-!
# Base64

Three bytes are written as four characters of the standard alphabet, six bits each.
A last group of one or two bytes is filled up with zero bits and its missing
characters are written `=`.
-/

namespace FrameTap.Base64

def alphabet : List Char :=
  "ABCDEFGHIJKLMNOPQRSTUVWXYZabcdefghijklmnopqrstuvwxyz0123456789+/".toList

def padding : Char := '='

/-- The character of six bits. -/
def symbol (n : Nat) : Char := alphabet.getD n padding

def encode : Bytes → Text
  | [] => []
  | [a] => [symbol (a.toNat / 4), symbol (a.toNat % 4 * 16), padding, padding]
  | [a, b] =>
    [symbol (a.toNat / 4), symbol (a.toNat % 4 * 16 + b.toNat / 16), symbol (b.toNat % 16 * 4),
     padding]
  | a :: b :: c :: bytes =>
    symbol (a.toNat / 4) :: symbol (a.toNat % 4 * 16 + b.toNat / 16) ::
      symbol (b.toNat % 16 * 4 + c.toNat / 64) :: symbol (c.toNat % 64) :: encode bytes

example : encode [0x68, 0x65, 0x6C, 0x6C, 0x6F] = "aGVsbG8=".toList := by decide

end FrameTap.Base64
