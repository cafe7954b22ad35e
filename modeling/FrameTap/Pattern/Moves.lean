import FrameTap.Text.Basic

/-!
# Moves through a text

Which places of a text lead to which others.  A move never goes back, so that it is given by
its distance, and for each place of the text, in their order, the distances of the moves from
it are the bits of a number.  A choice of places is a number as well, with a bit for each place.
-/

namespace FrameTap.Pattern

abbrev Moves := List Nat

namespace Moves

/-- No move but to stay at each of the places. -/
def stay (places : Nat) : Moves := List.replicate places 1

/-- The places reached before, and those that one move leads to from marked places; the bits
of `marked` are for the places of the moves, the first of which is at `place`. -/
def onward (reached place marked : Nat) : Moves → Nat
  | [] => reached
  | row :: rows =>
    if marked = 0 then reached
    else
      onward (if marked % 2 = 1 then reached ||| row <<< place else reached)
        (place + 1) (marked / 2) rows

/-- The places that one move leads to. -/
def lead (m : Moves) (marked : Nat) : Nat := onward 0 0 marked m

/-- As `onward`, but from all places that are reached on the way. -/
def floodFrom (reached place marked : Nat) : Moves → Nat
  | [] => reached
  | row :: rows =>
    if marked = 0 then reached
    else if marked % 2 = 1 then
      floodFrom (reached ||| 1 <<< place) (place + 1) ((marked ||| row) / 2) rows
    else floodFrom reached (place + 1) (marked / 2) rows

/-- The marked places, and those that any number of moves lead to.  A move leads to the place
itself or to one further on, so that a place is complete before its moves are looked at. -/
def flood (m : Moves) (marked : Nat) : Nat := floodFrom 0 0 marked m

/-- Applies `step` up to `n` times and stops early where it changes nothing. -/
def advance (step : Nat → Nat) : Nat → Nat → Nat
  | 0, marked => marked
  | n + 1, marked =>
    let next := step marked
    if next = marked then marked else advance step n next

/-- The places that at least `least` moves lead to, and at most `most?` if there is a limit.
Among as many moves as there are places one stays where it is and can be done any number of
times, so that a greater number of moves leads to no other places. -/
def leadRepeatedly (m : Moves) (least : Nat) (most? : Option Nat) (marked : Nat) : Nat :=
  let start := advance m.lead (min least m.length) marked
  match most? with
  | none => m.flood start
  | some most =>
    advance (fun marked => marked ||| m.lead marked) (min (most - least) m.length) start

def union (m n : Moves) : Moves := List.zipWith (· ||| ·) m n

/-- The moves of `m`, each with a move of `n` behind it. -/
def compose : Moves → Moves → Moves
  | row :: m, n :: ns => lead (n :: ns) row :: compose m ns
  | _, _ => []

/-- Any number of moves, one behind the other.  A move that stays leads nowhere else. -/
def closure : Moves → Moves
  | [] => []
  | row :: m =>
    let later := closure m
    onward 1 1 (row / 2) later :: later

/-- Exactly `n` moves: their number is doubled for each binary digit of `n`. -/
def power (m : Moves) (n : Nat) : Moves :=
  (Nat.toDigits 2 n).foldl
    (fun done digit =>
      let twice := compose done done
      if digit = '1' then compose twice m else twice)
    (stay m.length)

/-- The moves that are made of at least `least` moves, and of at most `most?`. -/
def repeated (m : Moves) (least : Nat) (most? : Option Nat) : Moves :=
  compose (power m (min least m.length))
    (match most? with
    | none => closure m
    | some most => power (union (stay m.length) m) (min (most - least) m.length))

example : flood [2, 4, 2, 1] 1 = 11 := by decide

example : closure [2, 2, 1] = [7, 3, 1] := by decide

example : repeated [2, 2, 2, 1] 1 (some 2) = [6, 6, 2, 1] := by decide

end Moves
end FrameTap.Pattern
