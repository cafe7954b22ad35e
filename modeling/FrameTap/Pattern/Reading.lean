import FrameTap.Pattern.Expression
import FrameTap.Text.Blank

/-!
# The reading of a pattern

The state in which a written pattern is read, and the steps that every part of a pattern
is read with.  A reading stops at the first mistake from left to right.
-/

namespace FrameTap.Pattern

structure Reading where
  /-- Greater than the number of characters of the pattern, which bounds every loop over it. -/
  bound : Nat
  /-- The number of characters that have been read. -/
  passed : Nat := 0
  rest : Text
  modes : Modes := {}
  /-- The number of recorded groups that have been opened. -/
  groups : Nat := 0
  /-- The names of groups and where they stand. -/
  names : List (Text × Span) := []

abbrev Reader := StateT Reading (Except Mistake)

namespace Reader

def fail {α : Type} (kind : Mistake.Kind) (start stop : Nat) : Reader α :=
  throw { kind, span := ⟨start, stop⟩ }

def peek? : Reader (Option Char) := return (← get).rest.head?

def atEnd : Reader Bool := return (← get).rest.isEmpty

def position : Reader Nat := return (← get).passed

def bound : Reader Nat := return (← get).bound

def modes : Reader Modes := return (← get).modes

def pass (n : Nat) : Reader Unit :=
  modify fun r => { r with passed := r.passed + (r.rest.take n).length, rest := r.rest.drop n }

/-- How many blanks a text begins with behind `passed` others, comments up to the end of
their line included. -/
def blankLength (passed : Nat) (comment : Bool) : Text → Nat
  | [] => passed
  | c :: t =>
    if comment then blankLength (passed + 1) (c ≠ '\n') t
    else if Text.isBlank c then blankLength (passed + 1) false t
    else if c = '#' then blankLength (passed + 1) true t
    else passed

def skipBlank : Reader Unit := do
  let r ← get
  if r.modes.spaced then pass (blankLength 0 false r.rest)

/-- Passes one character and the blanks behind it. -/
def passOn : Reader Unit := do
  pass 1
  skipBlank

/-- Passes a beginning of the rest, if the rest has it. -/
def took (beginning : Text) : Reader Bool := do
  match Text.after? beginning (← get).rest with
  | some _ => pass beginning.length; return true
  | none => return false

def takeLoop (p : Char → Bool) : Nat → Text → Reader Text
  | 0, taken => return taken.reverse
  | n + 1, taken => do
    match ← peek? with
    | some c =>
      if p c then
        passOn
        takeLoop p n (c :: taken)
      else return taken.reverse
    | none => return taken.reverse

/-- The characters of a kind that come next; blanks between them do not count. -/
def takeWhile (p : Char → Bool) : Reader Text := do takeLoop p (← bound) []

/-- The number that digits stand for, of which the letters among them come behind nine. -/
def value (base : Nat) (digits : Text) : Nat :=
  digits.foldl
    (fun n c => n * base + if c ≤ '9' then c.toNat - 48 else c.toLower.toNat - 87) 0

/-- A repetition count, or why there is none. -/
def count : Reader (Except Mistake Nat) := do
  pass ((← get).rest.takeWhile Text.isBlank).length
  let start ← position
  let digits ← takeWhile (Charset.holds Charset.digits)
  let span : Span := ⟨start, ← position⟩
  let _ ← takeWhile Text.isBlank
  if digits.isEmpty then return .error { kind := .countEmpty, span }
  else if value 10 digits < UInt32.size then return .ok (value 10 digits)
  else return .error { kind := .number, span }

def scalar (digits : Text) (start stop : Nat) : Reader Char :=
  if (value 16 digits).isValidChar then return Char.ofNat (value 16 digits)
  else fail .hexRange start stop

def hexDigits : Nat → Reader Text
  | 0 => return []
  | n + 1 => do
    let i ← position
    match ← peek? with
    | none => fail .escapeUnfinished i i
    | some c =>
      if Charset.holds Charset.hexDigits c then
        passOn
        return c :: (← hexDigits n)
      else fail .hexDigit i (i + 1)

/-- A character by its code point: digits between braces, or a set number of digits, and
whether it was the latter. -/
def codePoint (digits : Nat) : Reader (Char × Bool) := do
  passOn
  let start ← position
  match ← peek? with
  | none => fail .escapeUnfinished start start
  | some '{' =>
    passOn
    let found ← takeWhile (Charset.holds Charset.hexDigits)
    let stop ← position
    match ← peek? with
    | none => fail .escapeUnfinished start stop
    | some '}' =>
      passOn
      if found.isEmpty then fail .hexEmpty start (← position)
      else return (← scalar found (start + 1) stop, false)
    | some _ => fail .hexDigit stop (stop + 1)
  | some _ =>
    let found ← hexDigits digits
    return (← scalar found start (← position), true)

end Reader
end FrameTap.Pattern
