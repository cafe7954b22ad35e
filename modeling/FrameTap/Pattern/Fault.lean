import FrameTap.Decimal.Numeral

/-!
# Faults in written patterns

Why a text is no pattern that can be searched for.  Most faults are mistakes in the text:
they are reported below the pattern, with marks under the part that a mistake is about, and
under an earlier part if it repeats that one.  Other patterns are well written and cannot be
searched for, because the search would take too much or because of what it would have to know.
-/

namespace FrameTap.Pattern

/-- A part of a written pattern, by the numbers of characters before its two ends. -/
structure Span where
  start : Nat
  stop : Nat
  deriving DecidableEq

/-- How far parts of a pattern may be nested. -/
def greatestDepth : Nat := 250

/-- The greatest size in bytes that a pattern may have when it is searched for. -/
def greatestSize : Nat := 10 * 0x100000

inductive Mistake.Kind where
  | classEscape
  | classRange
  | classRangeEnd
  | classUnclosed
  | number
  | hexEmpty
  | hexRange
  | hexDigit
  | escapeUnfinished
  | escapeUnknown
  | flagNegationAlone
  | flagRepeated
  | flagNegationRepeated
  | flagUnfinished
  | flagUnknown
  | nameRepeated
  | nameEmpty
  | nameCharacter
  | nameUnfinished
  | groupUnclosed
  | groupUnopened
  | countOrder
  | countEmpty
  | countUnclosed
  | nothingToRepeat
  | depth
  | edgeUnclosed
  | edgeUnknown
  | edgeUnfinished
  | propertyForm
  | property
  | propertyValue
  | backreference
  | lookAround
  | illFormed
  | wideCharacter
  | wideSet
  | wideCase
  deriving DecidableEq

namespace Mistake

def Kind.message : Kind → Text
  | classEscape => "invalid escape sequence found in character class".toList
  | classRange => "invalid character class range, the start must be <= the end".toList
  | classRangeEnd => "invalid range boundary, must be a literal".toList
  | classUnclosed => "unclosed character class".toList
  | number => "decimal literal invalid".toList
  | hexEmpty => "hexadecimal literal empty".toList
  | hexRange => "hexadecimal literal is not a Unicode scalar value".toList
  | hexDigit => "invalid hexadecimal digit".toList
  | escapeUnfinished =>
    "incomplete escape sequence, reached end of pattern prematurely".toList
  | escapeUnknown => "unrecognized escape sequence".toList
  | flagNegationAlone => "dangling flag negation operator".toList
  | flagRepeated => "duplicate flag".toList
  | flagNegationRepeated => "flag negation operator repeated".toList
  | flagUnfinished => "expected flag but got end of regex".toList
  | flagUnknown => "unrecognized flag".toList
  | nameRepeated => "duplicate capture group name".toList
  | nameEmpty => "empty capture group name".toList
  | nameCharacter => "invalid capture group character".toList
  | nameUnfinished => "unclosed capture group name".toList
  | groupUnclosed => "unclosed group".toList
  | groupUnopened => "unopened group".toList
  | countOrder => "invalid repetition count range, the start must be <= the end".toList
  | countEmpty => "repetition quantifier expects a valid decimal".toList
  | countUnclosed => "unclosed counted repetition".toList
  | nothingToRepeat => "repetition operator missing expression".toList
  | depth =>
    "exceed the maximum number of nested parentheses/brackets (".toList ++
      Numeral.write greatestDepth ++ [')']
  | edgeUnclosed =>
    "special word boundary assertion is either unclosed or contains an invalid character".toList
  | edgeUnknown =>
    ("unrecognized special word boundary assertion, valid choices are: " ++
      "start, end, start-half or end-half").toList
  | edgeUnfinished =>
    ("found either the beginning of a special word boundary or a bounded repetition on a " ++
      "\\b with an opening brace, but no closing brace").toList
  | propertyForm => "invalid Unicode character class".toList
  | property => "Unicode property not found".toList
  | propertyValue => "Unicode property value not found".toList
  | backreference => "backreferences are not supported".toList
  | lookAround => "look-around, including look-ahead and look-behind, is not supported".toList
  | illFormed => "pattern can match invalid UTF-8".toList
  | wideCharacter => "Unicode not allowed here".toList
  | wideSet =>
    ("Unicode-aware Perl class not found " ++
      "(make sure the unicode-perl feature is enabled)").toList
  | wideCase =>
    ("Unicode-aware case insensitivity matching is not available " ++
      "(make sure the unicode-case feature is enabled)").toList

end Mistake

/-- What is wrong with a part of a written pattern. -/
structure Mistake where
  kind : Mistake.Kind
  span : Span
  earlier? : Option Span := none
  deriving DecidableEq

namespace Mistake

/-- A place in a text by its line and its column, which are counted from one. -/
structure Position where
  line : Nat
  column : Nat
  deriving DecidableEq

/-- The position behind `n` characters of a text.  A line break ends its line. -/
def Position.behind (n : Nat) (written : Text) : Position :=
  let passed := written.take n
  ⟨1 + passed.count '\n', 1 + (passed.reverse.takeWhile (· ≠ '\n')).length⟩

/-- Marks below the parts of a line, of which the first `done` places have been passed.  An
empty part has one mark. -/
def marksFrom : (done : Nat) → List Span → Text
  | _, [] => []
  | done, s :: spans =>
    let width := max 1 (s.stop - s.start)
    List.replicate (s.start - done) ' ' ++ List.replicate width '^' ++
      marksFrom (max done s.start + width) spans

/-- The lines of a text: line breaks, also with a carriage return before them, end lines. -/
def linesOf (written : Text) : List Text :=
  let pieces := Text.cut '\n' written
  let ended := pieces.dropLast.map fun line =>
    if line.getLast? = some '\r' then line.dropLast else line
  ended ++ pieces.getLast?.toList.filter fun line => !line.isEmpty

def divider : Text := List.replicate 79 '~'

/-- The parts that the mistake is about, from left to right. -/
def spans (m : Mistake) : List Span := m.earlier?.toList ++ [m.span]

/-- The columns of the parts of one line. -/
def onLine (ends : List (Position × Position)) (line : Nat) : List Span :=
  ends.filterMap fun (start, stop) =>
    if start.line = line ∧ stop.line = line then some ⟨start.column - 1, stop.column - 1⟩
    else none

/-- The lines of a pattern with numbers in front of them and marks below them. -/
def numberedLines (m : Mistake) (written : Text) : List Text :=
  let pieces := Text.cut '\n' written
  let width := (Numeral.write pieces.length).length
  let ends := m.spans.map fun s => (Position.behind s.start written, .behind s.stop written)
  let numbered := (linesOf written).zipIdx 1 |>.flatMap fun (line, i) =>
    let number := Numeral.write i
    let first := List.replicate (width - number.length) ' ' ++ number ++ ": ".toList ++ line
    match onLine ends i with
    | [] => [first]
    | spans => [first, List.replicate (width + 2) ' ' ++ marksFrom 0 spans]
  let across := (ends.filter fun (start, stop) => start.line ≠ stop.line).map
    fun (start, stop) =>
      "on line ".toList ++ Numeral.write start.line ++ " (column ".toList ++
        Numeral.write start.column ++ ") through line ".toList ++ Numeral.write stop.line ++
        " (column ".toList ++ Numeral.write (stop.column - 1) ++ [')']
  divider :: numbered ++ divider :: across

def margin : Text := List.replicate 4 ' '

/-- The lines that report a mistake.  The lines of a pattern are numbered if it has a line
break, and a part that goes over several lines is told by its ends instead of marks. -/
def lines (m : Mistake) (written : Text) : List Text :=
  let shown :=
    if written.contains '\n' then m.numberedLines written
    else [margin ++ written, margin ++ marksFrom 0 m.spans]
  "regex parse error:".toList :: shown ++ ["error: ".toList ++ m.kind.message]

example : ({ kind := .groupUnclosed, span := ⟨2, 3⟩ } : Mistake).lines "a\n(b".toList =
    ["regex parse error:".toList, divider, "1: a".toList, "2: (b".toList, "   ^".toList,
      divider, "error: unclosed group".toList] := by
  decide

end Mistake

/-- Why a text is no pattern that can be searched for. -/
inductive Fault where
  | mistake (m : Mistake)
  /-- The pattern is larger than `greatestSize`. -/
  | size
  /-- The pattern asks for edges of words in any alphabet. -/
  | wordEdge
  deriving DecidableEq

def Fault.lines (written : Text) : Fault → List Text
  | mistake m => m.lines written
  | size =>
    ["Compiled regex exceeds size limit of ".toList ++ Numeral.write greatestSize ++
      " bytes.".toList]
  | wordEdge => ["error building NFA".toList]

end FrameTap.Pattern
