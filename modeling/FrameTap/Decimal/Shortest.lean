import FrameTap.Decimal.Numeral

/-!
# Shortest decimals

A binary number of 64 bits is written with the fewest digits that read back as the same
number, and with the nearest such digits.  The search goes through the decimal grids
from coarse to fine: on the grid of `n` digits only the two neighbours of the number can
be the nearest, and the first grid with a neighbour among the reals that round to the
number wins.  All tests are exact, on natural numbers.
-/

namespace FrameTap.Decimal

/-- The finite number `significand * 2 ^ exponent`. -/
structure Dyadic where
  significand : Nat
  exponent : Int
  /-- The next smaller number is only half as far away as the next larger one. -/
  narrowBelow : Bool

/-- The absolute value that the bits of a finite number stand for. -/
def Dyadic.ofBits (bits : Nat) : Dyadic :=
  let stored : Nat := bits / Nat.pow 2 52 % Nat.pow 2 11
  let rest : Nat := bits % Nat.pow 2 52
  if stored = 0 then ⟨rest, -1074, false⟩
  else ⟨rest + Nat.pow 2 52, (stored : Int) - 1075, rest = 0 && stored ≠ 1⟩

/-- A positive rational number. -/
structure Ratio where
  num : Nat
  den : Nat

namespace Ratio

/-- `n * 2 ^ e`. -/
def ofDyadic (n : Nat) (e : Int) : Ratio :=
  if 0 ≤ e then ⟨n * Nat.pow 2 e.toNat, 1⟩ else ⟨n, Nat.pow 2 (-e).toNat⟩

/-- `n * 10 ^ e`. -/
def ofDecimal (n : Nat) (e : Int) : Ratio :=
  if 0 ≤ e then ⟨n * Nat.pow 10 e.toNat, 1⟩ else ⟨n, Nat.pow 10 (-e).toNat⟩

def lt (a b : Ratio) : Bool := a.num * b.den < b.num * a.den

def le (a b : Ratio) : Bool := a.num * b.den ≤ b.num * a.den

/-- The distance between two numbers. -/
def dist (a b : Ratio) : Ratio :=
  let x := a.num * b.den
  let y := b.num * a.den
  ⟨(x - y) + (y - x), a.den * b.den⟩

/-- The whole part of the number divided by `10 ^ e`. -/
def floorAt (a : Ratio) (e : Int) : Nat :=
  if 0 ≤ e then a.num / (a.den * Nat.pow 10 e.toNat)
  else a.num * Nat.pow 10 (-e).toNat / a.den

/-- The least `j` up to a limit with `10 ^ (-j) ≤ a`. -/
def leadingZeros (a : Ratio) (limit : Nat) : Nat :=
  ((List.range limit).find? fun j => a.den ≤ a.num * Nat.pow 10 j).getD limit

/-- The exponent of the first decimal digit. -/
def magnitude (a : Ratio) : Int :=
  if a.den ≤ a.num then (Numeral.write (a.num / a.den)).length - 1 else -(a.leadingZeros 400)

end Ratio

/-- A decimal number `digits * 10 ^ exponent`. -/
structure Decadic where
  digits : Nat
  exponent : Int

/-- The reals that round to a number: those between two ends, with the ends if the
significand is even. -/
structure Rounding where
  low : Ratio
  high : Ratio
  closed : Bool

def Dyadic.value (d : Dyadic) : Ratio := .ofDyadic (4 * d.significand) (d.exponent - 2)

def Dyadic.rounding (d : Dyadic) : Rounding where
  low := .ofDyadic (4 * d.significand - if d.narrowBelow then 1 else 2) (d.exponent - 2)
  high := .ofDyadic (4 * d.significand + 2) (d.exponent - 2)
  closed := d.significand % 2 = 0

def Rounding.has (r : Rounding) (a : Ratio) : Bool :=
  if r.closed then r.low.le a && a.le r.high else r.low.lt a && a.lt r.high

/-- The nearest decimal of `n` digits that rounds to the number, if one does; of two
equally near ones, the even. -/
def Dyadic.onGrid? (d : Dyadic) (n : Nat) : Option Decadic :=
  let value := d.value
  let exponent := value.magnitude - n + 1
  let below := value.floorAt exponent
  let rounds (digits : Nat) := d.rounding.has (.ofDecimal digits exponent)
  let far (digits : Nat) := value.dist (.ofDecimal digits exponent)
  match rounds below, rounds (below + 1) with
  | false, false => none
  | true, false => some ⟨below, exponent⟩
  | false, true => some ⟨below + 1, exponent⟩
  | true, true =>
    if (far below).lt (far (below + 1)) then some ⟨below, exponent⟩
    else if (far (below + 1)).lt (far below) then some ⟨below + 1, exponent⟩
    else some ⟨below + below % 2, exponent⟩

/-- Seventeen digits are always enough. -/
def Dyadic.shortest (d : Dyadic) : Decadic :=
  ((List.range 17).findSome? fun n => d.onGrid? (n + 1)).getD ⟨0, 0⟩

/-- The significant digits, without zeros at the end, and the exponent of the first. -/
def Decadic.figures (d : Decadic) : Text × Int :=
  let all := Numeral.write d.digits
  ((all.reverse.dropWhile (· == '0')).reverse, d.exponent + all.length - 1)

/-- How floating-point numbers are shown: as positional decimals with at least one place
behind the point while the exponent of the first digit is from -5 to 15, and otherwise
with one digit before the point and a signed exponent. -/
def layout (figures : Text) (magnitude : Int) : Text :=
  if magnitude < -5 ∨ 15 < magnitude then
    let sign := if magnitude < 0 then '-' else '+'
    figures.take 1 ++ (if figures.length = 1 then [] else '.' :: figures.drop 1) ++
      'e' :: sign :: Numeral.write magnitude.natAbs
  else if magnitude < 0 then
    '0' :: '.' :: List.replicate (magnitude.natAbs - 1) '0' ++ figures
  else
    let places := magnitude.toNat + 1
    let whole := figures.take places ++ List.replicate (places - figures.length) '0'
    let rest := figures.drop places
    whole ++ '.' :: if rest.isEmpty then ['0'] else rest

/-- The text of the finite number with these bits. -/
def showBits (bits : Nat) : Text :=
  let sign := if bits / Nat.pow 2 63 = 1 then ['-'] else []
  let d := Dyadic.ofBits bits
  if d.significand = 0 then sign ++ "0.0".toList
  else
    let (figures, magnitude) := d.shortest.figures
    sign ++ layout figures magnitude

end FrameTap.Decimal
