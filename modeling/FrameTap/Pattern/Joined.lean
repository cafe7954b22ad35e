import FrameTap.Pattern

/-!
# Patterns made of others

Patterns are put together in the plainest form that they have: repetitions that say nothing
and empty parts vanish, literals side by side are one literal, choices between characters
are sets, and what the branches of a choice begin with stands before the choice.
-/

namespace FrameTap.Pattern

open Text

mutual
/-- The pattern occurs only where it takes up nothing. -/
def takesNothing : Pattern → Bool
  | empty | here _ => true
  | literal _ | one _ => false
  | repeated p _ most? => most?.isSome && takesNothing p
  | group _ p => takesNothing p
  | sequence ps | choice ps => allTakeNothing ps

def allTakeNothing : List Pattern → Bool
  | [] => true
  | p :: ps => takesNothing p && allTakeNothing ps
end

mutual
/-- The two patterns are made of the same parts in the same way. -/
def same : Pattern → Pattern → Bool
  | empty, empty => true
  | literal t, literal u => t == u
  | one s, one u => s == u
  | here l, here k => l == k
  | repeated p m a?, repeated q n b? => m == n && a? == b? && same p q
  | group i p, group j q => i == j && same p q
  | sequence ps, sequence qs => allSame ps qs
  | choice ps, choice qs => allSame ps qs
  | _, _ => false

def allSame : List Pattern → List Pattern → Bool
  | [], [] => true
  | p :: ps, q :: qs => same p q && allSame ps qs
  | _, _ => false
end

/-- A set of one character is a literal. -/
def ofSet (s : CodePoints) : Pattern :=
  match s with
  | [(first, last)] => if first = last then literal [Char.ofNat first] else one s
  | _ => one s

/-- A repetition.  What takes up nothing is not repeated. -/
def repeatedly (p : Pattern) (least : Nat) (most? : Option Nat) : Pattern :=
  let (least, most?) :=
    if p.takesNothing then (min least 1, some (min (most?.getD 1) 1)) else (least, most?)
  if least = 0 ∧ most? = some 0 then empty
  else if least = 1 ∧ most? = some 1 then p
  else repeated p least most?

/-- Puts a pattern before others that stand one behind the other. -/
def before : Pattern → List Pattern → List Pattern
  | empty, ps => ps
  | literal t, literal u :: ps => literal (t ++ u) :: ps
  | p, ps => p :: ps

/-- Patterns one behind the other. -/
def inSequence (ps : List Pattern) : Pattern :=
  let parts := ps.flatMap fun p =>
    match p with
    | sequence qs => qs
    | p => [p]
  match parts.foldr before [] with
  | [] => empty
  | [p] => p
  | ps => sequence ps

/-- The set that a choice comes to if all its branches are single characters or sets. -/
def setOfBranches? (ps : List Pattern) : Option CodePoints :=
  let characters? := ps.mapM fun p =>
    match p with
    | literal [c] => some (c.toNat, c.toNat)
    | _ => none
  let sets? := ps.mapM fun p =>
    match p with
    | one s => some s
    | _ => none
  (characters?.or (sets?.map List.flatten)).map .ofRanges

/-- The parts that both sequences begin with. -/
def commonBeginning : List Pattern → List Pattern → List Pattern
  | p :: ps, q :: qs => if same p q then p :: commonBeginning ps qs else []
  | _, _ => []

/-- The parts of all branches, if they are sequences. -/
def sequences? (ps : List Pattern) : Option (List (List Pattern)) :=
  ps.mapM fun p =>
    match p with
    | sequence qs => some qs
    | _ => none

/-- A choice whose branches do not begin with the same parts. -/
def plainChoice (ps : List Pattern) : Pattern :=
  let branches := ps.flatMap fun p =>
    match p with
    | choice qs => qs
    | p => [p]
  match branches with
  | [p] => p
  | ps => ((setOfBranches? ps).map ofSet).getD (choice ps)

/-- A choice between patterns. -/
def oneOf (ps : List Pattern) : Pattern :=
  match plainChoice ps with
  | choice branches =>
    match sequences? branches with
    | some (first :: others) =>
      let beginning := others.foldl commonBeginning first
      if beginning.isEmpty then choice branches
      else
        let rests := (first :: others).map fun parts => inSequence (parts.drop beginning.length)
        inSequence (beginning ++ [plainChoice rests])
    | _ => choice branches
  | p => p

example : same (oneOf [literal ['a'], literal ['c'], literal ['b']]) (one [(97, 99)]) := by
  decide

example :
    same (oneOf [inSequence [one [(48, 57)], literal ['a']],
        inSequence [one [(48, 57)], literal ['b']]])
      (sequence [one [(48, 57)], one [(97, 98)]]) := by
  decide

end FrameTap.Pattern
