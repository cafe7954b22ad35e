import FrameTap.Text.CodePoints
import FrameTap.Text.Utf8

/-!
# Sets of characters as bytes

A set of characters is looked for byte by byte.  It is cut into ranges for which the first
byte, the second byte and so on can be chosen independently, so that each of the ranges is
a word of byte ranges.
-/

namespace FrameTap.Pattern

open Text

/-- Byte ranges one behind the other. -/
abbrev ByteRanges := List (UInt8 × UInt8)

namespace ByteRanges

/-- The code points at which encodings become longer. -/
def longer : List Nat := [0x80, 0x800, 0x10000]

/-- How many code points share the bytes before the last, the last two or the last three. -/
def blocks : List Nat := [0x40, 0x1000, 0x40000]

/-- The code point where the second part of a range begins, if its bytes are not independent:
where encodings become longer, behind a block that is left out in part at the beginning, or
at the block that is left out in part at the end. -/
def cut? (first last : Nat) : Option Nat :=
  match longer.find? fun n => first < n ∧ n ≤ last with
  | some n => some n
  | none =>
    if last < 0x80 then none
    else
      blocks.findSome? fun n =>
        if first / n = last / n then none
        else if first % n ≠ 0 then some ((first / n + 1) * n)
        else if last % n ≠ n - 1 then some (last / n * n)
        else none

/-- The parts of a range of code points in which bytes are independent. -/
def parts (first last : Nat) : List (Nat × Nat) :=
  match cut? first last with
  | none => [(first, last)]
  | some n =>
    if first < n ∧ n ≤ last then parts first (n - 1) ++ parts n last else [(first, last)]
termination_by last - first

def encode (n : Nat) : Bytes := String.utf8EncodeChar (Char.ofNat n)

/-- The code points that are no characters. -/
def surrogates : CodePoints := [(0xD800, 0xDFFF)]

/-- The words of byte ranges for a set, in rising order. -/
def ofSet (s : CodePoints) : List ByteRanges :=
  ((s.diff surrogates).flatMap fun (first, last) => parts first last).map
    fun (first, last) => (encode first).zip (encode last)

/-- What stands behind each first byte range in words in rising order. -/
def behindFirst (words : List ByteRanges) : List ((UInt8 × UInt8) × List ByteRanges) :=
  words.foldr
    (fun word groups =>
      match word, groups with
      | [], groups => groups
      | r :: rest, (q, rests) :: groups =>
        if r = q then (q, rest :: rests) :: groups else (r, [rest]) :: (q, rests) :: groups
      | r :: rest, [] => [(r, [rest])])
    []

/-- The words themselves and what is left of them behind each of their beginnings, as long as
anything is left.  No word is longer than `n`. -/
def stages : (n : Nat) → List ByteRanges → List (List ByteRanges)
  | 0, _ => []
  | n + 1, words =>
    if words.all List.isEmpty then []
    else words :: (behindFirst words).flatMap fun (_, rests) => stages n rests

/-- All stages of words in UTF-8. -/
def allStages (words : List ByteRanges) : List (List ByteRanges) := stages 4 words

example : ofSet [(0x7F, 0x80)] = [[(0x7F, 0x7F)], [(0xC2, 0xC2), (0x80, 0x80)]] := by
  decide +kernel

example : (ofSet [(0, 0x10FFFF)]).length = 9 := by decide +kernel

end ByteRanges
end FrameTap.Pattern
