import FrameTap.Json.Lexeme

/-!
# Values of JSON numbers

A whole number that fits a word of 64 bits, unsigned or signed, is kept exactly.  Any
other number becomes a floating-point number: as many of its digits as an unsigned word
of 64 bits holds, scaled once by a power of ten.  A number too large for that is no
number at all.
-/

namespace FrameTap.Json

/-- The value of a number. -/
inductive Numeric where
  | natural (n : Nat)
  /-- A whole number below zero. -/
  | negative (n : Int)
  | real (x : Float)

def maxNatural : Nat := UInt64.size - 1

def digitValue (b : UInt8) : Nat := b.toNat - 0x30

/-- Appends digits to a significand until one makes it too large, and gives the digits
from there on. -/
def accumulate : (significand : Nat) → (digits : Bytes) → Nat × Bytes
  | significand, [] => (significand, [])
  | significand, d :: digits =>
    let next := significand * 10 + digitValue d
    if maxNatural < next then (significand, d :: digits) else accumulate next digits

def powerOfTen (n : Nat) : Float := Float.ofScientific 1 false n

/-- The largest power of ten that is a floating-point number. -/
def maxPower : Nat := 308

/-- Divides by a power of ten, in steps where it is too large for one. -/
def scaleDown (x : Float) (n : Nat) : Float :=
  if n ≤ maxPower then x / powerOfTen n
  else if x == 0 then x
  else scaleDown (x / powerOfTen maxPower) (n - maxPower)
  termination_by n
  decreasing_by simp only [maxPower] at *; omega

/-- The absolute value `significand * 10 ^ exponent`, if it is not too large. -/
def scale (significand : Nat) (exponent : Int) : Except Flaw Float :=
  let x := (UInt64.ofNat significand).toFloat
  if exponent < 0 then .ok (scaleDown x exponent.natAbs)
  else if exponent.natAbs ≤ maxPower then
    let y := x * powerOfTen exponent.natAbs
    if y.isInf then .error .malformed else .ok y
  else if x == 0 then .ok x
  else .error .malformed

def Number.real (n : Number) (significand : Nat) (exponent : Int) : Except Flaw Numeric :=
  (scale significand exponent).map fun x => .real (if n.negative then -x else x)

/-- The exponent as it is written. -/
def Number.writtenExponent (n : Number) : Int :=
  match n.exponent with
  | none => 0
  | some (negative, digits) =>
    let value : Nat := digits.foldl (fun value d => value * 10 + digitValue d) 0
    if negative then -value else value

/-- The value of a number.  Zero with a minus sign is no whole number. -/
def Number.value (n : Number) : Except Flaw Numeric :=
  let (whole, beyond) := accumulate 0 n.whole
  if n.broken || !beyond.isEmpty then
    let (significand, unread) := accumulate whole n.fraction
    let places := n.fraction.length - unread.length
    n.real significand (beyond.length - places + n.writtenExponent)
  else if !n.negative then .ok (.natural whole)
  else if whole = 0 ∨ Nat.pow 2 63 < whole then n.real whole 0
  else .ok (.negative (-whole))

end FrameTap.Json
