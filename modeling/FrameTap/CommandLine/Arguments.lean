import FrameTap.CommandLine.Draft

/-!
# Reading the command line

Arguments are read from left to right.  An option without a value of its own collects
the arguments that follow, as long as it takes more and they do not begin with a dash,
and it is entered into the draft when the next known option or the end of the command
line comes.  A wrong argument before that ends the reading at once, so it is reported
instead of a wrong value collected earlier.
-/

namespace FrameTap.CommandLine

/-- Why the reading ended without settings: help was asked for, with or without
details, or the command line is wrong. -/
inductive Stop where
  | help (detailed : Bool)
  | misuse (m : Misuse)
  deriving DecidableEq

/-- The outward form of an argument. -/
inductive Argument where
  /-- Two dashes alone: no option follows. -/
  | separator
  /-- A name behind two dashes, and the value behind its equals sign. -/
  | long (name : Bytes) (value? : Option Bytes)
  /-- Letters behind one dash. -/
  | letters (bytes : Bytes)
  | plain

def dash : UInt8 := 0x2D

def equalsSign : UInt8 := 0x3D

/-- A single dash is no option. -/
def Argument.of : Bytes → Argument
  | [0x2D, 0x2D] => .separator
  | 0x2D :: 0x2D :: bytes =>
    match bytes.dropWhile (· ≠ equalsSign) with
    | [] => .long bytes none
    | _ :: value => .long (bytes.takeWhile (· ≠ equalsSign)) (some value)
  | 0x2D :: b :: bytes => .letters (b :: bytes)
  | _ => .plain

/-- What has been read: the draft, and the option that still collects values. -/
structure Reading where
  draft : Draft := {}
  collecting : Option (Opt × List Bytes) := none

namespace Reading

def misused {α : Type} : Except Misuse α → Except Stop α := Except.mapError .misuse

/-- Enters the option that collects values. -/
def settle (r : Reading) : Except Stop Draft :=
  match r.collecting with
  | none => .ok r.draft
  | some (o, values) => misused (r.draft.enter o values)

/-- An option with its value attached takes no further ones. -/
def attach (r : Reading) (o : Opt) (value : Bytes) : Except Stop Reading := do
  let draft ← r.settle
  let draft ← misused (draft.enter o [value])
  .ok { draft }

/-- An option without a value begins to collect. -/
def collect (r : Reading) (o : Opt) : Except Stop Reading := do
  let draft ← r.settle
  .ok { draft, collecting := some (o, []) }

def turnOn (r : Reading) (s : Switch) (detailed : Bool) : Except Stop Reading := do
  let draft ← r.settle
  match s with
  | .debug =>
    let draft ← misused draft.enterDebug
    .ok { draft }
  | .help => .error (.help detailed)

def long (r : Reading) (name : Bytes) (value? : Option Bytes) : Except Stop Reading :=
  match Named.ofLong? name, value? with
  | some (.opt o), some value => r.attach o value
  | some (.opt o), none => r.collect o
  | some (.switch s), none => r.turnOn s true
  | some (.switch s), some value =>
    .error (.misuse (.unneededValue s (Utf8.decodeLossy value)))
  | none, _ => .error (.misuse (.unexpected ('-' :: '-' :: Utf8.decodeLossy name)))

/-- The value behind a letter; an equals sign before it is left out. -/
def attached (bytes : Bytes) : Bytes :=
  match bytes with
  | b :: rest => if b = equalsSign then rest else bytes
  | [] => []

/-- How an unknown letter is shown.  Bytes that are no characters are shown to their
end. -/
def unknownLetter (bytes : Bytes) : Text :=
  match Utf8.pieces bytes with
  | some c :: _ => ['-', c]
  | _ => '-' :: Utf8.decodeLossy bytes

/-- Letters behind one dash: switches, and at the end an option with what follows as its
value. -/
def letters (r : Reading) : Bytes → Except Stop Reading
  | [] => .ok r
  | b :: bytes =>
    match Named.ofShort? (Char.ofNat b.toNat) with
    | some (.switch s) => do
      let r ← r.turnOn s false
      r.letters bytes
    | some (.opt o) => if bytes.isEmpty then r.collect o else r.attach o (attached bytes)
    | none => .error (.misuse (.unexpected (unknownLetter (b :: bytes))))

/-- The reading with one more value, if an option still takes one. -/
def takeValue? (r : Reading) (value : Bytes) : Option Reading :=
  match r.collecting with
  | none => none
  | some (o, values) =>
    if o.isMany || values.isEmpty then
      some { r with collecting := some (o, values ++ [value]) }
    else none

def unexpected {α : Type} (argument : Bytes) : Except Stop α :=
  .error (.misuse (.unexpected (Utf8.decodeLossy argument)))

/-- Reads arguments to the end. -/
def readAll (r : Reading) : List Bytes → Except Stop Draft
  | [] => r.settle
  | argument :: rest =>
    match Argument.of argument with
    | .separator =>
      match rest with
      | [] => r.settle
      | argument :: _ => unexpected argument
    | .long name value? => do
      let r ← r.long name value?
      r.readAll rest
    | .letters bytes => do
      let r ← r.letters bytes
      r.readAll rest
    | .plain =>
      match r.takeValue? argument with
      | some r => r.readAll rest
      | none => unexpected argument

end Reading

/-- The settings of a command line, `env?` being the value of the environment
variable for endpoints. -/
def parse (args : List Bytes) (env? : Option Bytes) : Except Stop Settings := do
  let draft ← Reading.readAll {} args
  let draft ← Reading.misused (draft.enterVariable env?)
  .ok draft.settings

end FrameTap.CommandLine
