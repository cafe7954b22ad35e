import FrameTap.Text.Basic
import FrameTap.Text.CodePoints

/-!
# Sets of characters in patterns

The sets of ASCII characters that have a letter or a name in patterns, and what a set holds
when letter case does not matter.
-/

namespace FrameTap.Pattern

open Text

namespace Charset

def range (first last : Char) : CodePoints := [(first.toNat, last.toNat)]

def only (c : Char) : CodePoints := range c c

def digits : CodePoints := range '0' '9'

def capitals : CodePoints := range 'A' 'Z'

def smallLetters : CodePoints := range 'a' 'z'

def letters : CodePoints := capitals ++ smallLetters

def blanks : CodePoints := range '\t' '\r' ++ only ' '

def wordCharacters : CodePoints := digits ++ capitals ++ only '_' ++ smallLetters

def hexDigits : CodePoints := digits ++ range 'A' 'F' ++ range 'a' 'f'

/-- The sets with a name. -/
def named : List (Text × CodePoints) :=
  [("alnum".toList, digits ++ letters), ("alpha".toList, letters),
   ("ascii".toList, range '\x00' '\x7F'), ("blank".toList, only '\t' ++ only ' '),
   ("cntrl".toList, range '\x00' '\x1F' ++ only '\x7F'), ("digit".toList, digits),
   ("graph".toList, range '!' '~'), ("lower".toList, smallLetters),
   ("print".toList, range ' ' '~'),
   ("punct".toList, range '!' '/' ++ range ':' '@' ++ range '[' (Char.ofNat 96) ++
      range (Char.ofNat 123) '~'),
   ("space".toList, blanks), ("upper".toList, capitals), ("word".toList, wordCharacters),
   ("xdigit".toList, hexDigits)]

/-- The set of the letter `d`, `s` or `w`. -/
def lettered (c : Char) : CodePoints :=
  match c with
  | 'd' => digits
  | 's' => blanks
  | _ => wordCharacters

/-- The characters of a set with the letters of ASCII among them in both cases. -/
def ignoringCase (s : CodePoints) : CodePoints :=
  let small := (s.inter capitals).map fun (first, last) => (first + 32, last + 32)
  let capital := (s.inter smallLetters).map fun (first, last) => (first - 32, last - 32)
  s.union (small ++ capital)

def holds (s : CodePoints) (c : Char) : Bool := s.has c.toNat

example : ignoringCase (range 'X' 'b') = range 'A' 'B' ++ range 'X' 'b' ++ range 'x' 'z' := by
  decide

end Charset
end FrameTap.Pattern
