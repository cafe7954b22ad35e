import FrameTap.CommandLine.Opt
import FrameTap.CommandLine.Style
import FrameTap.Endpoint

/-!
# Misuse of the command line

The ways in which a command line can be wrong, and the one line that reports each: as a
text (`report`), and as it goes to the standard error (`written`).  Without styles the two
differ at most where a value holds terminal control.
-/

namespace FrameTap.CommandLine

/-- Why a value is not acceptable. -/
inductive ValueFault where
  | number (fault : Numeral.Fault)
  | portOutOfRange (n : Int)
  | pollIntervalZero
  | endpoint (fault : Endpoint.ParseError)
  deriving DecidableEq

def ValueFault.message : ValueFault → Text
  | number fault => fault.message
  | portOutOfRange n => Numeral.writeInt n ++ " is not in 0..=65535".toList
  | pollIntervalZero => "0 is not in 1..18446744073709551615".toList
  | endpoint fault => fault.message

inductive Misuse where
  | invalidValue (o : Opt) (value : Text) (why : ValueFault)
  | unknownFormat (value : Text)
  | valueRequired (o : Opt)
  | unexpected (argument : Text)
  | repeated (n : Named)
  | unneededValue (s : Switch) (value : Text)
  | notUtf8
  deriving DecidableEq

namespace Misuse

/-- A text between single quotes that stay outside of its style. -/
def inQuotes (style : Style) (t : Text) : Text := '\'' :: style.apply t ++ ['\'']

/-- What is wrong, with its styles. -/
def message : Misuse → Text
  | invalidValue o value why =>
    "invalid value ".toList ++ inQuotes .fault value ++ " for ".toList ++
      inQuotes .name (Named.opt o).usage ++ ": ".toList ++ why.message
  | unknownFormat value =>
    "invalid value ".toList ++ inQuotes .fault value ++ " for ".toList ++
      inQuotes .name (Named.opt .format).usage
  | valueRequired o =>
    "a value is required for ".toList ++ inQuotes .fault (Named.opt o).usage ++
      " but none was supplied".toList
  | unexpected argument =>
    "unexpected argument ".toList ++ inQuotes .fault argument ++ " found".toList
  | repeated n =>
    "the argument ".toList ++ inQuotes .fault n.usage ++ " cannot be used multiple times".toList
  | unneededValue s value =>
    "unexpected value ".toList ++ inQuotes .fault value ++ " for ".toList ++
      inQuotes .name (Named.switch s).usage ++ " found; no more were expected".toList
  | notUtf8 => "invalid UTF-8 was detected in one or more arguments".toList

/-- The label and the message, with their styles. -/
def styled (m : Misuse) : Text := Style.label.apply "error:".toList ++ ' ' :: m.message

/-- The first line of the report as a terminal shows it.  A value with line breaks cuts it
short. -/
def report (m : Misuse) : Text := Text.firstLine (Text.plain m.styled)

/-- The first line of the report as the program writes it out, with or without styles. -/
def written (styles : Bool) (m : Misuse) : Text :=
  Text.firstLine (if styles then m.styled else Text.plainStream m.styled)

end Misuse
end FrameTap.CommandLine
