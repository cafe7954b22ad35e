import FrameTap.Text.Basic

/-!
# Text without terminal control

What a terminal shows of a text.  Control characters other than white space show
nothing, and neither do the control sequences that an escape character begins.  The
sequences have the forms of ECMA-48: an escape with intermediate characters, a control
sequence up to its final character, a command up to a bell, and the strings with an end
of their own, of which a device control string has a header.  An escape inside one of
them begins another, and a cancel character ends it.

White space shows inside a sequence that is neither a command nor a string, and there
are two ways to go on behind it.  In a text by itself (`plain`) it ends the sequence.
In a stream (`plainStream`) the sequence is only interrupted: what follows shows up to
the next control character, and the sequence is taken up again with that one, unless a
character behind ASCII has been shown in between.
-/

namespace FrameTap.Text

/-- The part of the header of a device control string. -/
inductive HeaderPart where
  | start
  | parameters
  | intermediates
  deriving DecidableEq

/-- Where in a control sequence a text is. -/
inductive Control where
  /-- Outside of any. -/
  | ground
  /-- Behind the escape character. -/
  | escape
  /-- Behind an intermediate character of an escape. -/
  | intermediate
  /-- Before the final character of a control sequence. -/
  | sequence
  /-- Inside a command, which a bell ends. -/
  | command
  /-- Inside the header of a device control string. -/
  | header (part : HeaderPart)
  /-- Inside a string, or behind the header of one. -/
  | string
  deriving DecidableEq

namespace Control

/-- The white space among the control characters. -/
def isSpacing (c : Char) : Bool := c == '\t' || c == '\n' || c == '\x0C' || c == '\r'

/-- Where an escape goes on with its first character. -/
def opened (c : Char) : Control :=
  if ' ' ≤ c ∧ c ≤ '/' then intermediate
  else if c = '[' then sequence
  else if c = ']' then command
  else if c = 'P' then header .start
  else if c = 'X' ∨ c = '^' ∨ c = '_' then string
  else if '0' ≤ c ∧ c ≤ '~' then ground
  else escape

/-- Where the header of a device control string goes on.  Behind a final character and
behind a private marker out of place, all that is left is the string. -/
def headed (part : HeaderPart) (c : Char) : Control :=
  if '@' ≤ c ∧ c ≤ '~' then string
  else if ' ' ≤ c ∧ c ≤ '/' then header .intermediates
  else if '0' ≤ c ∧ c ≤ '?' then
    match part with
    | .start => header .parameters
    | .parameters => if c < '<' then header .parameters else string
    | .intermediates => string
  else header part

/-- The terminator of a string is a byte, and it counts wherever it occurs in a character. -/
def holdsTerminator (c : Char) : Bool := (String.utf8EncodeChar c).contains 0x9C

/-- The state behind a character that is not shown. -/
def next (state : Control) (c : Char) : Control :=
  if c = '\x1B' then escape
  else if c = '\x18' ∨ c = '\x1A' then ground
  else
    match state with
    | ground => ground
    | escape => opened c
    | intermediate => if '0' ≤ c ∧ c ≤ '~' then ground else intermediate
    | sequence => if '@' ≤ c ∧ c ≤ '~' then ground else sequence
    | command => if c = '\x07' then ground else command
    | header part => headed part c
    | string => if holdsTerminator c then ground else string

/-- Outside of control sequences a character shows unless it is an ASCII control character
other than white space.  Inside, only such white space may show. -/
def shows (state : Control) (c : Char) : Bool :=
  match state with
  | ground => (' ' ≤ c && c ≠ '\x7F') || isSpacing c
  | escape | intermediate | sequence => isSpacing c
  | command | header _ | string => false

end Control

/-- The characters that show, from a state on.  While characters are `showing`, the state
is that of a sequence they interrupt, or the ground; only those of a `stream` interrupt
one. -/
def shown (stream showing : Bool) (state : Control) : Text → Text
  | [] => []
  | c :: t =>
    if (if showing then Control.ground else state).shows c then
      c :: shown stream true (if stream ∧ c ≤ '\x7F' then state else .ground) t
    else shown stream false (state.next c) t

def plain (t : Text) : Text := shown false false .ground t

def plainStream (t : Text) : Text := shown true false .ground t

example : plain "a\x1b[1;31mb\x07c\x1b]0;title\x07d".toList = "abcd".toList := by decide

example : plain "\x1bX one Ü two\x1b\\ three".toList = " two three".toList := by decide

example : plain "\x1b[1\n2\x013m".toList = "\n23m".toList := by decide

example : plainStream "\x1b[1\n2\x013m".toList = "\n2".toList := by decide

end FrameTap.Text
