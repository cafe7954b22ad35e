import FrameTap.Pattern.Moves
import FrameTap.Pattern.Place

/-!
# Patterns

Regular expressions, and whether one occurs in a text.  A pattern takes the places where an
occurrence may begin to the places where it may end.  What is repeated is read as moves
through the text, which are looked up as often as they are needed.
-/

namespace FrameTap

inductive Pattern where
  /-- Takes up nothing and occurs everywhere. -/
  | empty
  | literal (t : Text)
  /-- One character of a set. -/
  | one (set : Text.CodePoints)
  /-- Takes up nothing and occurs at some places. -/
  | here (look : Pattern.Look)
  /-- Repeated at least `least` times, and at most `most?` times if there is a limit. -/
  | repeated (p : Pattern) (least : Nat) (most? : Option Nat)
  /-- A numbered part. -/
  | group (index : Nat) (p : Pattern)
  /-- One behind the other. -/
  | sequence (ps : List Pattern)
  | choice (ps : List Pattern)

namespace Pattern

/-- Moves over a literal from the places of a text. -/
def literalMoves (written : Text) : Text → Moves
  | [] => [if written.isEmpty then 1 else 0]
  | c :: t =>
    (if written.isPrefixOf (c :: t) then Nat.pow 2 written.length else 0) :: literalMoves written t

mutual
/-- The moves from places where the pattern occurs over what it takes up. -/
def moves (t : Text) : Pattern → Moves
  | empty => .stay (t.length + 1)
  | literal written => literalMoves written t
  | one set => t.map (fun c => if Charset.holds set c then 2 else 0) ++ [0]
  | here look => (places t).map fun place => if look.holds place then 1 else 0
  | repeated p least most? => (moves t p).repeated least most?
  | group _ p => moves t p
  | sequence ps => movesThrough t (.stay (t.length + 1)) ps
  | choice ps => movesAlong t (List.replicate (t.length + 1) 0) ps

/-- The moves of `m`, each with one over all the patterns behind it. -/
def movesThrough (t : Text) (m : Moves) : List Pattern → Moves
  | [] => m
  | p :: ps => movesThrough t (m.compose (moves t p)) ps

/-- The moves of `m` and those over one of the patterns. -/
def movesAlong (t : Text) (m : Moves) : List Pattern → Moves
  | [] => m
  | p :: ps => movesAlong t (m.union (moves t p)) ps
end

mutual
/-- The places where an occurrence may end that begins at one of the marked places. -/
def reach (t : Text) (marked : Nat) : Pattern → Nat
  | repeated p least most? => (moves t p).leadRepeatedly least most? marked
  | group _ p => reach t marked p
  | sequence ps => reachThrough t marked ps
  | choice ps => reachAlong t marked 0 ps
  | p => (moves t p).lead marked

/-- The places where all the patterns may end, one behind the other. -/
def reachThrough (t : Text) (marked : Nat) : List Pattern → Nat
  | [] => marked
  | p :: ps => reachThrough t (reach t marked p) ps

/-- The places reached before, and those where one of the patterns may end. -/
def reachAlong (t : Text) (marked reached : Nat) : List Pattern → Nat
  | [] => reached
  | p :: ps => reachAlong t marked (reached ||| reach t marked p) ps
end

/-- The pattern occurs somewhere in the text. -/
def occursIn (p : Pattern) (t : Text) : Bool := p.reach t (Nat.pow 2 (t.length + 1) - 1) ≠ 0

example : (repeated (literal ['a']) 2 (some 3)).occursIn "baab".toList = true := by
  decide +kernel

example : (sequence [here .textStart, literal ['a']]).occursIn "ba".toList = false := by
  decide +kernel

end Pattern
end FrameTap
