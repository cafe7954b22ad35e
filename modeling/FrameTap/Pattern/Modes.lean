/-!
# Modes of patterns

The modes that a pattern can switch on and off for parts of itself.
-/

namespace FrameTap.Pattern

structure Modes where
  /-- Letter case does not matter. -/
  anyCase : Bool := false
  /-- Line starts and ends count as starts and ends of the text. -/
  multiLine : Bool := false
  /-- The dot includes line breaks. -/
  dotAll : Bool := false
  /-- A carriage return breaks lines too. -/
  returns : Bool := false
  /-- Sets and words are made of ASCII characters only. -/
  narrow : Bool := false
  /-- Blanks and comments between the parts of the pattern do not count. -/
  spaced : Bool := false

/-- The modes in which a letter is switched on or off.  Whether repetitions take as much or
as little as they can makes no difference to what occurs in a text, so the letter for it
switches nothing. -/
def Modes.switch? (m : Modes) (letter : Char) (on : Bool) : Option Modes :=
  match letter with
  | 'i' => some { m with anyCase := on }
  | 'm' => some { m with multiLine := on }
  | 's' => some { m with dotAll := on }
  | 'R' => some { m with returns := on }
  | 'u' => some { m with narrow := !on }
  | 'x' => some { m with spaced := on }
  | 'U' => some m
  | _ => none

end FrameTap.Pattern
