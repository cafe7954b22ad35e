import FrameTap.Text.Basic

/-!
# UTF-8

Bytes are read one at a time by a machine that knows what the character begun last
still lacks.  The machine answers in pieces: each well-formed character, and each
longest run of bytes that begins no further character (a maximal ill-formed part)
as one gap.  `decode?` accepts the byte strings without a gap, and `decodeLossy`
puts the replacement character into each gap.
-/

namespace FrameTap.Utf8

/-- A character of which the first bytes have been read.  Its next byte lies between
`low` and `high`, `more` continuation bytes follow that one, and `bits` is the code
point as far as it is known. -/
structure Unfinished where
  low : UInt8
  high : UInt8
  more : Nat
  bits : Nat
  deriving DecidableEq

/-- What a byte means where a character may begin. -/
inductive Lead where
  | whole (c : Char)
  | opens (u : Unfinished)
  | stray
  deriving DecidableEq

/-- The well-formed first bytes.  The narrower ranges after E0, ED, F0 and F4 exclude
overlong forms, surrogates and code points behind U+10FFFF. -/
def lead (b : UInt8) : Lead :=
  if b < 0x80 then .whole (Char.ofNat b.toNat)
  else if b < 0xC2 then .stray
  else if b < 0xE0 then .opens ⟨0x80, 0xBF, 0, b.toNat % 0x20⟩
  else if b = 0xE0 then .opens ⟨0xA0, 0xBF, 1, 0⟩
  else if b = 0xED then .opens ⟨0x80, 0x9F, 1, 0xD⟩
  else if b < 0xF0 then .opens ⟨0x80, 0xBF, 1, b.toNat % 0x10⟩
  else if b = 0xF0 then .opens ⟨0x90, 0xBF, 2, 0⟩
  else if b < 0xF4 then .opens ⟨0x80, 0xBF, 2, b.toNat % 0x10⟩
  else if b = 0xF4 then .opens ⟨0x80, 0x8F, 2, 4⟩
  else .stray

/-- A piece of a byte string: a character, or `none` for a maximal ill-formed part. -/
abbrev Piece := Option Char

/-- One byte where a character may begin. -/
def begin (b : UInt8) : List Piece × Option Unfinished :=
  match lead b with
  | .whole c => ([some c], none)
  | .opens u => ([], some u)
  | .stray => ([none], none)

/-- One byte in any state.  A byte that does not continue the unfinished character
leaves a gap there and is read again as a first byte. -/
def step : Option Unfinished → UInt8 → List Piece × Option Unfinished
  | none, b => begin b
  | some u, b =>
    if u.low ≤ b ∧ b ≤ u.high then
      let bits := u.bits * 0x40 + b.toNat % 0x40
      match u.more with
      | 0 => ([some (Char.ofNat bits)], none)
      | more + 1 => ([], some ⟨0x80, 0xBF, more, bits⟩)
    else (none :: (begin b).1, (begin b).2)

/-- The end of the bytes leaves a gap where a character is unfinished. -/
def finish : Option Unfinished → List Piece
  | none => []
  | some _ => [none]

def piecesFrom : Option Unfinished → Bytes → List Piece
  | state, [] => finish state
  | state, b :: bytes => (step state b).1 ++ piecesFrom (step state b).2 bytes

def pieces (bytes : Bytes) : List Piece := piecesFrom none bytes

/-- The characters of a text, if all of it is well formed. -/
def decode? (bytes : Bytes) : Option Text := (pieces bytes).mapM id

/-- What stands for an ill-formed part. -/
def replacement : Char := '\uFFFD'

def decodeLossy (bytes : Bytes) : Text := (pieces bytes).map (·.getD replacement)

def encode (t : Text) : Bytes := t.flatMap String.utf8EncodeChar

example : decodeLossy [0xF4, 0x90, 0x80, 0x80] = List.replicate 4 replacement := by decide

example : decodeLossy [0xE2, 0x82, 0x61] = [replacement, 'a'] := by decide

example : decode? [0xC3, 0xA9] = some ['é'] := by decide

end FrameTap.Utf8
