import FrameTap.Pattern.Escape

/-!
# Sets between brackets

Sets of characters in patterns that are given by their members: characters, ranges,
escapes, named sets and sets between brackets of their own.  Sets are combined by
operations that are carried out from left to right.
-/

namespace FrameTap.Pattern

/-- A set that has been opened and not closed. -/
structure OpenSet where
  /-- What opens the set. -/
  span : Span
  negated : Bool
  /-- What stands before the last operation, and the operation. -/
  left? : Option (SetExpression × SetOp) := none
  /-- Where the members begin that are being read. -/
  start : Nat
  /-- The members that have been read, the last one first. -/
  members : List SetExpression := []

namespace OpenSet

def add (o : OpenSet) (s : SetExpression) : OpenSet := { o with members := s :: o.members }

/-- The members as one set. -/
def union (o : OpenSet) : SetExpression :=
  match o.members.reverse with
  | [] => .nothing ⟨o.start, o.start⟩
  | [s] => s
  | s :: ss =>
    .union ⟨s.span.start, (o.members.head?.getD s).span.stop⟩ (s :: ss)

def contents (o : OpenSet) : SetExpression :=
  match o.left? with
  | none => o.union
  | some (left, op) => .combined op left o.union

end OpenSet

namespace Reader

/-- The opening of a set: the bracket, the sign that negates, and the dashes and the bracket
that may stand first in the set for themselves. -/
def opening : Reader OpenSet := do
  let bracket ← position
  passOn
  if ← atEnd then fail .classUnclosed bracket (← position)
  let negated := (← peek?) = some '^'
  if negated then passOn
  if ← atEnd then fail .classUnclosed bracket (← position)
  let start ← position
  let dash (i : Nat) : SetExpression := .letter { char := '-', span := ⟨i, i + 1⟩ }
  let dashes ← dashPositions
  if ← atEnd then fail .classUnclosed bracket bracket
  if dashes.isEmpty ∧ (← peek?) = some ']' then
    let i ← position
    passOn
    if ← atEnd then fail .classUnclosed bracket (← position)
    let first : SetExpression := .letter { char := ']', span := ⟨i, i + 1⟩ }
    return { span := ⟨bracket, ← position⟩, negated, start, members := [first] }
  return { span := ⟨bracket, ← position⟩, negated, start, members := dashes.map dash }
where
  /-- The places of the dashes that come next, the last one first. -/
  dashPositions : Reader (List Nat) := do dashLoop (← bound) []
  dashLoop : Nat → List Nat → Reader (List Nat)
    | 0, found => return found
    | n + 1, found => do
      if (← peek?) = some '-' then
        let i ← position
        passOn
        dashLoop n (i :: found)
      else return found

/-- A named set, if one stands here. -/
def namedSet? : Reader (Option SetExpression) := do
  match Text.after? "[:".toList (← get).rest with
  | none => return none
  | some t =>
    let (negated, t) := match t with
      | '^' :: t => (true, t)
      | t => (false, t)
    let name := t.takeWhile (· ≠ ':')
    match t.dropWhile (· ≠ ':'), Charset.named.lookup name with
    | ':' :: ']' :: _, some s =>
      let start ← position
      pass (name.length + if negated then 5 else 4)
      return some (.named ⟨start, ← position⟩ negated s)
    | _, _ => return none

/-- One member of a set. -/
def member : Reader Escape := do
  let start ← position
  match ← peek? with
  | some '\\' => escape
  | c? =>
    pass 1
    return .set (.letter { char := c?.getD '\x00', span := ⟨start, start + 1⟩ })

def rangeEnd (e : Escape) : Reader Letter :=
  match e with
  | .set (.letter l) => return l
  | .set s => fail .classRangeEnd s.span.start s.span.stop
  | .look _ span => fail .classRangeEnd span.start span.stop

/-- A member or a range of them in the set that `opened` opens. -/
def members (opened : Span) : Reader SetExpression := do
  let unclosed {α : Type} : Reader α := fail .classUnclosed opened.start opened.stop
  let first ← member
  skipBlank
  match (← get).rest with
  | [] => unclosed
  | c :: t =>
    let next? := (t.drop (if (← modes).spaced then blankLength 0 false t else 0)).head?
    if c ≠ '-' ∨ next? = some ']' ∨ next? = some '-' then
      match first with
      | .set s => return s
      | .look _ span => fail .classEscape span.start span.stop
    else
      passOn
      if ← atEnd then unclosed
      let last ← member
      let first ← rangeEnd first
      let last ← rangeEnd last
      if first.char ≤ last.char then return .range first last
      else fail .classRange first.span.start last.span.stop

/-- What is left of a set and of the sets around it, the innermost first. -/
def setLoop : Nat → OpenSet → List OpenSet → Reader SetExpression
  | 0, o, _ => fail .classUnclosed o.span.start o.span.stop
  | n + 1, o, around => do
    skipBlank
    let operation (op : SetOp) : Reader SetExpression := do
      pass 2
      setLoop n
        { o with left? := some (o.contents, op), start := ← position, members := [] } around
    match (← get).rest with
    | [] => fail .classUnclosed o.span.start o.span.stop
    | '[' :: _ =>
      match ← namedSet? with
      | some s => setLoop n (o.add s) around
      | none => setLoop n (← opening) (o :: around)
    | ']' :: _ =>
      pass 1
      let closed : SetExpression :=
        .bracketed ⟨o.span.start, ← position⟩ o.negated o.contents
      match around with
      | [] => return closed
      | outer :: around => setLoop n (outer.add closed) around
    | '&' :: '&' :: _ => operation .inter
    | '-' :: '-' :: _ => operation .diff
    | '~' :: '~' :: _ => operation .symmDiff
    | _ => setLoop n (o.add (← members o.span)) around

def bracketed : Reader SetExpression := do
  let o ← opening
  setLoop (← bound) o []

end Reader
end FrameTap.Pattern
