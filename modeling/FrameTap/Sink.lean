import FrameTap.Error

/-!
# Sinks

A sink takes bytes call by call.  It may answer a call as interrupted, take fewer
bytes than it is offered, fill up, and fail to flush.  How many bytes a call takes and
when a call is interrupted is the sink's own timetable: turn by turn, it is interrupted
a finite number of times and then answers with a count.

`writeAll` repeats a call until all is taken or the sink fails.  What a sink holds
afterwards does not depend on the timetable.
-/

namespace FrameTap

/-- One turn of a sink's timetable: it is interrupted `interruptions` times and then takes
at most `most` bytes, if there is such a limit, and at least one.  Where the sink is full,
the turn may end with a fault of its own. -/
structure Turn where
  interruptions : Nat := 0
  most : Option Nat := none
  whenFull : Option WriteFault := none

/-- The bytes that the turn allows of those offered. -/
def Turn.allowed (t : Turn) (bytes : Bytes) : Bytes :=
  match t.most with
  | none => bytes
  | some n => bytes.take (max 1 n)

theorem zero_eq_length_flatten_nil : 0 = ([] : List Bytes).flatten.length := rfl

/-- A sink, its failures and its timetable, and what it has taken so far.

A writer gives up at the first call that fails, so up to that point every sink is one of
these: `capacity` is what it takes before that call, and `turns` are its answers. -/
structure Sink where
  /-- How many bytes it takes at most, if there is a limit. -/
  capacity : Option Nat := none
  /-- What a write to the full sink ends with, unless the turn says otherwise. -/
  whenFull : WriteFault := .tookNothing
  turns : Nat → Turn := fun _ => {}
  /-- The fault of the `n`-th flush, counted from one, if it has one. -/
  flushFault : Nat → Option WriteFault := fun _ => none
  /-- What its calls have taken, the last one first. -/
  taken : List Bytes := []
  /-- How many bytes its calls have taken. -/
  size : Nat := 0
  size_eq : size = taken.flatten.length := by exact zero_eq_length_flatten_nil
  flushes : Nat := 0
  /-- How many bytes its calls had taken at the last flush that succeeded. -/
  flushedSize : Nat := 0
  /-- The turns that are over. -/
  turn : Nat := 0
  /-- The interruptions of the present turn so far. -/
  interrupted : Nat := 0

namespace Sink

/-- All that the sink has taken. -/
def content (s : Sink) : Bytes := s.taken.reverse.flatten

/-- The bytes that the sink has room for of those offered. -/
def fitting (s : Sink) (bytes : Bytes) : Bytes :=
  match s.capacity with
  | none => bytes
  | some n => bytes.take (n - s.size)

/-- The sink with more bytes in it. -/
def hold (s : Sink) (bytes : Bytes) : Sink :=
  { s with
    taken := bytes :: s.taken
    size := bytes.length + s.size
    size_eq := by simp [s.size_eq] }

theorem length_content (s : Sink) : s.content.length = s.size := by
  simp [content, s.size_eq, List.length_flatten]

/-- The interruptions that the present turn still holds. -/
def interruptionsLeft (s : Sink) : Nat := (s.turns s.turn).interruptions - s.interrupted

/-- The answer to one call. -/
inductive Answer where
  | interrupted
  | took (n : Nat)
  | failed (fault : WriteFault)

/-- Gives the present turn's next answer to an offer of `bytes`.  A full sink that takes
nothing fails no call, but the writer gives up on it. -/
def write (s : Sink) (bytes : Bytes) : Answer × Sink :=
  if s.interruptionsLeft ≠ 0 then
    (.interrupted, { s with interrupted := s.interrupted + 1 })
  else
    let next := { s with turn := s.turn + 1, interrupted := 0 }
    match s.fitting ((s.turns s.turn).allowed bytes) with
    | [] =>
      match (s.turns s.turn).whenFull.getD s.whenFull with
      | .tookNothing => (.took 0, next)
      | .refused why => (.failed (.refused why), next)
    | b :: taken => (.took (taken.length + 1), next.hold (b :: taken))

/-- What is left of a write: the sink, and why the write stopped early if it did. -/
structure Writing where
  sink : Sink
  fault : Option WriteFault

/-- An interrupted call uses up an interruption of the turn. -/
theorem interruptionsLeft_write {s s' : Sink} {bytes : Bytes}
    (h : s.write bytes = (.interrupted, s')) : s'.interruptionsLeft < s.interruptionsLeft := by
  by_cases hl : s.interruptionsLeft ≠ 0
  · rw [write, if_pos hl] at h
    obtain rfl := (Prod.mk.inj h).2
    simp only [interruptionsLeft] at hl ⊢
    omega
  · rw [write, if_neg hl] at h
    dsimp only at h
    split at h
    · split at h <;> cases h
    · cases h

/-- Offers the bytes until all are taken.  An interrupted call is repeated, and a call
that takes nothing ends the writing, as does one that fails. -/
def writeAll (s : Sink) : (bytes : Bytes) → Writing
  | [] => ⟨s, none⟩
  | b :: bytes =>
    match _answer : s.write (b :: bytes) with
    | (.interrupted, next) => next.writeAll (b :: bytes)
    | (.took 0, next) => ⟨next, some .tookNothing⟩
    | (.took (n + 1), next) => next.writeAll (bytes.drop n)
    | (.failed fault, next) => ⟨next, some fault⟩
  termination_by bytes => (bytes.length, s.interruptionsLeft)
  decreasing_by
    · exact Prod.Lex.right _ (interruptionsLeft_write _answer)
    · refine Prod.Lex.left _ _ ?_
      simp only [List.length_drop, List.length_cons]
      omega

/-- Writes the pieces in order and stops at the first that is not taken in full. -/
def writePieces (s : Sink) : List Bytes → Writing
  | [] => ⟨s, none⟩
  | piece :: pieces =>
    match s.writeAll piece with
    | ⟨next, none⟩ => next.writePieces pieces
    | stopped => stopped

/-- A flush that does not fail reaches all that was taken before it. -/
def flush (s : Sink) : Writing :=
  let fault := s.flushFault (s.flushes + 1)
  ⟨{ s with
      flushes := s.flushes + 1
      flushedSize := if fault.isNone then s.size else s.flushedSize }, fault⟩

/-- The first pieces that hold `n` bytes together. -/
def piecesOf (n : Nat) : List Bytes → List Bytes
  | [] => []
  | piece :: pieces => if n = 0 then [] else piece :: piecesOf (n - piece.length) pieces

/-- What a sink has taken since it was `before`. -/
def gained (before after : Sink) : Bytes :=
  (piecesOf (after.size - before.size) after.taken).reverse.flatten

end Sink
end FrameTap
