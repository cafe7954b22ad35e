import FrameTap.Text.Terminal

/-!
# Styles

The looks of the parts of messages and of the help.  A style is switched on before its
text and off behind it, by control sequences that show nothing themselves.  They matter
even where no style is shown: the escape of such a sequence ends whatever sequence a
value of the user has left open.
-/

namespace FrameTap.CommandLine

inductive Style where
  /-- The label of an error, bold and red. -/
  | label
  /-- What is wrong, yellow. -/
  | fault
  /-- A name to be typed as it stands, bold. -/
  | name
  /-- The heading of a part of the help, bold and underlined. -/
  | heading
  deriving DecidableEq

namespace Style

/-- The control sequence that selects a rendition by its code. -/
def select (code : Text) : Text := '\x1B' :: '[' :: code ++ ['m']

/-- The control sequences that switch a style on. -/
def on : Style → Text
  | label => select ['1'] ++ select ['3', '1']
  | fault => select ['3', '3']
  | name => select ['1']
  | heading => select ['1'] ++ select ['4']

/-- The control sequence that switches any style off. -/
def off : Text := select ['0']

def apply (s : Style) (t : Text) : Text := s.on ++ t ++ off

example : Text.plain (fault.apply "one\x1b]".toList ++ " two".toList) = "one two".toList := by
  decide

end Style
end FrameTap.CommandLine
