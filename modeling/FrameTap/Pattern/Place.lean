import FrameTap.Pattern.Charset

/-!
# Places in texts

The place `i` of a text lies before its character `i`, so a text has one place more than it
has characters.  A pattern can ask what kind of place it has come to.
-/

namespace FrameTap.Pattern

/-- The characters on both sides of a place. -/
structure Place where
  before? : Option Char
  after? : Option Char

/-- The places of a text behind a character. -/
def placesFrom (before? : Option Char) : Text → List Place
  | [] => [⟨before?, none⟩]
  | c :: t => ⟨before?, some c⟩ :: placesFrom (some c) t

def places (t : Text) : List Place := placesFrom none t

/-- How a place can lie between word characters and others. -/
inductive Edge where
  | wordStart
  | wordEnd
  /-- A start or an end of a word. -/
  | either
  | neither
  /-- There is no word character before the place. -/
  | startHalf
  /-- There is no word character behind the place. -/
  | endHalf
  deriving DecidableEq

/-- What a pattern can ask of a place. -/
inductive Look where
  | textStart
  | textEnd
  /-- Carriage returns break lines too if `returns` is set, and do so together with the line
  feed behind them. -/
  | lineStart (returns : Bool)
  | lineEnd (returns : Bool)
  /-- Words are made of ASCII characters, or of any alphabet if `wide` is set. -/
  | edge (e : Edge) (wide : Bool)
  deriving DecidableEq

def isWordCharacter (c? : Option Char) : Bool :=
  c?.any (Charset.holds Charset.wordCharacters)

def Edge.holds (edge : Edge) (p : Place) : Bool :=
  let before := isWordCharacter p.before?
  let behind := isWordCharacter p.after?
  match edge with
  | wordStart => !before && behind
  | wordEnd => before && !behind
  | either => before != behind
  | neither => before == behind
  | startHalf => !before
  | endHalf => !behind

/-- Whether a place is as asked.  Wide edges are not looked for, because there is no table of
the characters that words are made of in any alphabet. -/
def Look.holds (look : Look) (p : Place) : Bool :=
  match look with
  | textStart => p.before?.isNone
  | textEnd => p.after?.isNone
  | lineStart returns =>
    match p.before? with
    | none | some '\n' => true
    | some '\r' => returns && p.after? != some '\n'
    | some _ => false
  | lineEnd returns =>
    match p.after? with
    | none => true
    | some '\n' => !(returns && p.before? == some '\r')
    | some '\r' => returns
    | some _ => false
  | .edge e _ => e.holds p

example : (places "ab".toList).map (Look.edge .either false).holds = [true, false, true] := by
  decide +kernel

end FrameTap.Pattern
