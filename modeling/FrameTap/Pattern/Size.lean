import FrameTap.Pattern.ByteRanges
import FrameTap.Pattern.Joined

/-!
# The size of patterns

A pattern is searched for by a machine that reads the bytes of a text, and a pattern whose
machine is too large is refused.  The machine has a state for each step, and a state is
larger the more byte ranges or branches lead on from it.  Repetitions with counts have as many
copies of their part.  A second machine reads a text backward; it does not record groups and
has its own states for sets of characters that take several bytes.
-/

namespace FrameTap.Pattern

open Text

inductive Direction where
  | forward
  | backward
  deriving DecidableEq

namespace Size

/-- The size of a state with at most one way on. -/
def state : Nat := 32

/-- The size of a state from which byte ranges lead on. -/
def ranges (n : Nat) : Nat := state + 8 * n

/-- The size of a state with branches. -/
def branches (n : Nat) : Nat := state + 4 * n

def fork : Nat := branches 2

/-- A set of characters of one byte each takes a single state.  Forward, the states for
longer ones are shared by all stages that are alike; backward, by all words that begin
alike. -/
def ofSet (d : Direction) (s : CodePoints) : Nat :=
  if s.all fun range => range.2 < 0x80 then state + ranges s.length
  else
    let words := ByteRanges.ofSet s
    let stages := ByteRanges.allStages words
    match d with
    | .forward =>
      stages.eraseDups.foldl
        (fun size words => size + ranges (ByteRanges.behindFirst words).length) state
    | .backward =>
      stages.foldl
        (fun size words => size + state * (ByteRanges.behindFirst words).length)
        (state + branches words.length)

/-- What is read of a choice between words: in each part of it, what stands behind each first
byte, the last word first, and behind how many parts a word can end.  A part ends with each
word that does. -/
structure Crossing where
  parts : List (List (UInt8 × List Bytes)) := []
  ends : Nat := 0
  isOpen : Bool := false

/-- Puts what stands behind a byte to the same byte of a part, before what stood there. -/
def enter (b : UInt8) (rest : Bytes) : List (UInt8 × List Bytes) → List (UInt8 × List Bytes)
  | [] => [(b, [rest])]
  | (c, rests) :: part =>
    if b = c then (c, rest :: rests) :: part else (c, rests) :: enter b rest part

/-- The crossing with one word more. -/
def Crossing.add (crossing : Crossing) (word : Bytes) : Crossing :=
  match word, crossing.isOpen, crossing.parts with
  | [], _, parts =>
    if parts.isEmpty ∧ crossing.ends ≠ 0 then crossing
    else { crossing with ends := crossing.ends + 1, isOpen := false }
  | b :: rest, true, part :: parts => { crossing with parts := enter b rest part :: parts }
  | b :: rest, _, parts => { crossing with parts := [(b, [rest])] :: parts, isOpen := true }

/-- The states for a choice between words of at most `n` bytes, which are read together as
long as they begin alike. -/
def ofWords : (n : Nat) → List Bytes → Nat
  | 0, _ => 0
  | n + 1, words =>
    let crossing := words.foldl Crossing.add {}
    let onward := crossing.parts.map fun part =>
      (if part.length = 1 then state else ranges part.length) +
        (part.map fun (_, rests) =>
          if rests.all List.isEmpty then 0 else ofWords n rests.reverse).sum
    onward.sum + branches (crossing.parts.length + crossing.ends)

def wordOf (d : Direction) (t : Text) : Bytes :=
  match d with
  | .forward => Utf8.encode t
  | .backward => (Utf8.encode t).reverse

/-- The literals of a choice, if it is one between literals only. -/
def literals? (ps : List Pattern) : Option (List Text) :=
  ps.mapM fun p =>
    match p with
    | literal t => some t
    | _ => none

mutual
/-- The least number of characters that the pattern takes up, unless it has a set without
characters. -/
def shortest? : Pattern → Option Nat
  | empty | here _ => some 0
  | literal t => some t.length
  | one s => if s.isEmpty then none else some 1
  | repeated p least _ => (shortest? p).map (· * least)
  | group _ p => shortest? p
  | sequence ps => shortestOfAll? 0 ps
  | choice [] => none
  | choice (p :: ps) => shortestOfEach? (shortest? p) ps

def shortestOfAll? (passed : Nat) : List Pattern → Option Nat
  | [] => some passed
  | p :: ps =>
    match shortest? p with
    | none => none
    | some n => shortestOfAll? (passed + n) ps

def shortestOfEach? (found? : Option Nat) : List Pattern → Option Nat
  | [] => found?
  | p :: ps =>
    match found?, shortest? p with
    | some m, some n => shortestOfEach? (some (min m n)) ps
    | _, _ => none
end

/-- The size of a repetition of a part, which may be one that always takes something up. -/
def ofRepeated (part : Nat) (takesSome : Bool) (least : Nat) (most? : Option Nat) : Nat :=
  match least, most? with
  | 0, some 1 => fork + part + state
  | 0, none => if takesSome then fork + part else part + fork + fork + state
  | n, none => n * part + fork
  | n, some most =>
    (if n = 0 then state else n * part) +
      if n = most then 0 else state + (most - n) * (fork + part)

mutual
/-- The size of the states for a pattern. -/
def ofPattern (d : Direction) : Pattern → Nat
  | empty | here _ => state
  | literal t => state * (Utf8.encode t).length
  | one s => ofSet d s
  | repeated p least most? =>
    ofRepeated (ofPattern d p) ((shortest? p).any (0 < ·)) least most?
  | group _ p => ofPattern d p + if d = .forward then 2 * state else 0
  | sequence ps => ofAll d 0 ps
  | choice ps =>
    match literals? ps with
    | some ts =>
      let words := ts.map (wordOf d)
      state + ofWords (words.foldl (fun n word => max n word.length) 0) words
    | none => ofAll d (branches ps.length + state) ps

def ofAll (d : Direction) (passed : Nat) : List Pattern → Nat
  | [] => passed
  | p :: ps => ofAll d (passed + ofPattern d p) ps
end

mutual
/-- Every occurrence of the pattern begins where the text does. -/
def beginsText : Pattern → Bool
  | here look => look == .textStart
  | repeated p least _ => least ≠ 0 && beginsText p
  | group _ p => beginsText p
  | sequence ps => firstBeginsText ps
  | choice ps => allBeginText ps
  | _ => false

def firstBeginsText : List Pattern → Bool
  | [] => false
  | p :: ps => beginsText p || (takesNothing p && firstBeginsText ps)

def allBeginText : List Pattern → Bool
  | [] => true
  | p :: ps => beginsText p && allBeginText ps
end

mutual
/-- Every occurrence of the pattern ends where the text does. -/
def endsText : Pattern → Bool
  | here look => look == .textEnd
  | repeated p least _ => least ≠ 0 && endsText p
  | group _ p => endsText p
  | sequence ps => lastEndsText false ps
  | choice ps => allEndText ps
  | _ => false

/-- `found` tells it of the patterns before. -/
def lastEndsText (found : Bool) : List Pattern → Bool
  | [] => found
  | p :: ps => lastEndsText (endsText p || (found && takesNothing p)) ps

def allEndText : List Pattern → Bool
  | [] => true
  | p :: ps => endsText p && allEndText ps
end

/-- The size of a machine.  Before the states of its pattern it has some that pass bytes up to
an occurrence, unless every occurrence is where the text begins to be read. -/
def ofMachine (d : Direction) (p : Pattern) : Nat :=
  let isFixed :=
    match d with
    | .forward => beginsText p
    | .backward => endsText p
  (if isFixed then state else fork + (state + ranges 1)) +
    ofPattern d (match d with | .forward => group 0 p | .backward => p) + state

end Size

def size (d : Direction) (p : Pattern) : Nat := Size.ofMachine d p

end FrameTap.Pattern
