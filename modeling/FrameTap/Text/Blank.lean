import FrameTap.Text.Basic
import FrameTap.Text.CodePoints

/-!
# White space

The characters with the Unicode property White_Space, which are the blanks that a
host name may not hold and that do not count around a setting.
-/

namespace FrameTap.Text

def blanks : CodePoints :=
  [(0x9, 0xd), (0x20, 0x20), (0x85, 0x85), (0xa0, 0xa0), (0x1680, 0x1680), (0x2000, 0x200a),
   (0x2028, 0x2029), (0x202f, 0x202f), (0x205f, 0x205f), (0x3000, 0x3000)]

def isBlank (c : Char) : Bool := blanks.has c.toNat

/-- The text without the blanks at its two ends. -/
def trim (t : Text) : Text := ((t.dropWhile isBlank).reverse.dropWhile isBlank).reverse

/-- The property White_Space, as Unicode lists its characters. -/
def WhiteSpace (c : Char) : Prop :=
  (0x9 ≤ c.toNat ∧ c.toNat ≤ 0xd) ∨ c.toNat = 0x20 ∨ c.toNat = 0x85 ∨ c.toNat = 0xa0 ∨
    c.toNat = 0x1680 ∨ (0x2000 ≤ c.toNat ∧ c.toNat ≤ 0x200a) ∨ c.toNat = 0x2028 ∨
    c.toNat = 0x2029 ∨ c.toNat = 0x202f ∨ c.toNat = 0x205f ∨ c.toNat = 0x3000

/-- The search in the table finds exactly these. -/
theorem isBlank_iff {c : Char} : isBlank c = true ↔ WhiteSpace c := by
  simp only [isBlank, blanks, CodePoints.has_cons_iff, CodePoints.has_nil,
    Bool.false_eq_true, or_false, WhiteSpace]
  omega

end FrameTap.Text
