/-!
# Sets of code points

A set of characters is a table of ranges of code points in rising order, and a character is
in the set if one of the ranges holds its code point.  The operations on sets give tables
whose ranges neither overlap nor touch, so that equal sets have equal tables.
-/

namespace FrameTap.Text

/-- Ranges of code points, each given by its first and last member, in rising order. -/
abbrev CodePoints := List (Nat × Nat)

namespace CodePoints

/-- The search stops at the first range that begins behind `n`, because the ranges rise. -/
def has : CodePoints → Nat → Bool
  | [], _ => false
  | (first, last) :: ranges, n =>
    if n < first then false else if n ≤ last then true else has ranges n

theorem has_nil (n : Nat) : has [] n = false := rfl

theorem has_cons_iff {first last n : Nat} {ranges : CodePoints} :
    has ((first, last) :: ranges) n = true ↔ first ≤ n ∧ (n ≤ last ∨ has ranges n = true) := by
  by_cases h₁ : n < first
  · simp [has, h₁, Nat.not_le.2 h₁]
  · by_cases h₂ : n ≤ last
    · simp [has, h₂, Nat.not_lt.1 h₁]
    · simp [has, h₂, Nat.not_lt.1 h₁]

/-- The last code point that there is. -/
def greatest : Nat := 0x10FFFF

/-- Adds a range, joined with those that it overlaps or touches. -/
def adjoin (range : Nat × Nat) : CodePoints → CodePoints
  | [] => [range]
  | (first, last) :: s =>
    if range.2 + 1 < first then range :: (first, last) :: s
    else if last + 1 < range.1 then (first, last) :: adjoin range s
    else adjoin (min first range.1, max last range.2) s

/-- The set that ranges in any order make up. -/
def ofRanges (ranges : List (Nat × Nat)) : CodePoints := ranges.foldr adjoin []

def union (s t : CodePoints) : CodePoints := ofRanges (s ++ t)

/-- The ranges between those of a set, and from its last one up to the greatest code point. -/
def complement (s : CodePoints) : CodePoints :=
  let (gaps, next) := s.foldl
    (fun (gaps, next) (first, last) =>
      (if next < first then (next, first - 1) :: gaps else gaps, last + 1))
    ([], 0)
  (if next ≤ greatest then (next, greatest) :: gaps else gaps).reverse

/-- What is in both sets, which is in neither of their complements. -/
def inter (s t : CodePoints) : CodePoints := complement (union (complement s) (complement t))

def diff (s t : CodePoints) : CodePoints := inter s (complement t)

/-- What is in one of two sets and not in the other. -/
def symmDiff (s t : CodePoints) : CodePoints := diff (union s t) (inter s t)

example : ofRanges [(5, 7), (1, 2), (3, 4), (6, 9)] = [(1, 9)] := by decide

example : complement [(0, 9), (20, 29)] = [(10, 19), (30, 0x10FFFF)] := by decide

example : symmDiff [(1, 5)] [(4, 9)] = [(1, 3), (6, 9)] := by decide

end CodePoints
end FrameTap.Text
