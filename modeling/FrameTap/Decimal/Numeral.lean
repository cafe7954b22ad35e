import FrameTap.Text.Basic

/-!
# Decimal numerals

Numerals are written without sign and leading zero.  They are read from left to
right against an upper limit, with an optional plus sign and any number of leading
zeros, and the first character that makes the reading fail gives the reason.
-/

namespace FrameTap.Numeral

/-- Why a text is no numeral within the limits. -/
inductive Fault where
  | empty
  | invalidDigit
  | tooLarge
  | tooSmall
  deriving DecidableEq

def Fault.message : Fault → Text
  | .empty => "cannot parse integer from empty string".toList
  | .invalidDigit => "invalid digit found in string".toList
  | .tooLarge => "number too large to fit in target type".toList
  | .tooSmall => "number too small to fit in target type".toList

def write (n : Nat) : Text := Nat.toDigits 10 n

def writeInt : Int → Text
  | .ofNat n => write n
  | .negSucc n => '-' :: write (n + 1)

/-- The value of an ASCII digit. -/
def digit? (c : Char) : Option Nat :=
  if '0' ≤ c ∧ c ≤ '9' then some (c.toNat - '0'.toNat) else none

/-- Reads digits behind a part with value `value`.  The limit is tested after each
digit, so a numeral is too large before a later character is looked at. -/
def readDigits (limit : Nat) : (value : Nat) → Text → Except Fault Nat
  | value, [] => .ok value
  | value, c :: t =>
    match digit? c with
    | none => .error .invalidDigit
    | some d =>
      if limit < value * 10 + d then .error .tooLarge else readDigits limit (value * 10 + d) t

/-- One or more digits. -/
def readUnsigned (limit : Nat) (t : Text) : Except Fault Nat :=
  if t.isEmpty then .error .invalidDigit else readDigits limit 0 t

/-- Reads a natural number up to `limit`. -/
def readNat (limit : Nat) : Text → Except Fault Nat
  | [] => .error .empty
  | '+' :: t => readUnsigned limit t
  | t => readUnsigned limit t

/-- Reads a whole number from `-(limit + 1)` to `limit`. -/
def readInt (limit : Nat) : Text → Except Fault Int
  | '-' :: t =>
    match readUnsigned (limit + 1) t with
    | .ok n => .ok (-n)
    | .error .tooLarge => .error .tooSmall
    | .error fault => .error fault
  | t => (readNat limit t).map Int.ofNat

example : readNat 65535 "+007".toList = .ok 7 := rfl

example : readNat 65535 "65536x".toList = .error .tooLarge := rfl

example : readInt 127 "-129".toList = .error .tooSmall := rfl

end FrameTap.Numeral
