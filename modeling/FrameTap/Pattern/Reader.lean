import FrameTap.Pattern.Bracketed
import FrameTap.Pattern.Group
import FrameTap.Pattern.Meaning
import FrameTap.Pattern.Size

/-!
# Reading patterns

The written form of patterns: branches of parts, each of which may be repeated.  Whether
a repetition takes as much or as little as it can makes no difference to what occurs in a
text, so the sign for it is read and not kept.
-/

namespace FrameTap.Pattern

/-- The branch that is being read, and the branches before it in its group. -/
structure Branch where
  /-- Where the first branch of the group begins. -/
  first : Nat
  /-- The branches before this one, the last one first. -/
  earlier : List Expression := []
  /-- Where this branch begins. -/
  start : Nat
  /-- The parts of the branch, the last one first. -/
  parts : List Expression := []

namespace Branch

/-- The first branch of a group. -/
def opened (start : Nat) : Branch := { first := start, start }

def add (b : Branch) (e : Expression) : Branch := { b with parts := e :: b.parts }

def expression (b : Branch) (stop : Nat) : Expression :=
  match b.parts with
  | [] => .nothing
  | [e] => e
  | es => .sequence ⟨b.start, stop⟩ es.reverse

/-- The branch as one more of the branches, with a new one behind it. -/
def next (b : Branch) (stop : Nat) : Branch :=
  { b with earlier := b.expression stop :: b.earlier, start := stop + 1, parts := [] }

/-- All branches of the group. -/
def closed (b : Branch) (stop : Nat) : Expression :=
  match b.earlier with
  | [] => b.expression stop
  | es => .choice ⟨b.first, stop⟩ (b.expression stop :: es).reverse

end Branch

/-- A group that has been opened and not closed. -/
structure OpenGroup where
  start : Nat
  index? : Option Nat
  /-- The modes around the group. -/
  modes : Modes
  /-- The branch that the group stands in. -/
  around : Branch

namespace Reader

/-- The last part and those before it, for a sign at the place `i` that repeats it. -/
def lastPart (i : Nat) (b : Branch) : Reader (Expression × Nat × Branch) :=
  match b.parts with
  | e :: parts =>
    match e.start? with
    | some start => return (e, start, { b with parts })
    | none => fail .nothingToRepeat i i
  | [] => fail .nothingToRepeat i i

/-- Passes the sign that a repetition takes as little as it can. -/
def passLazy : Reader Unit := do
  if (← peek?) = some '?' then pass 1

/-- The counts between braces. -/
def counts : Reader (Nat × Option Nat) := do
  let start ← position
  let unclosed {α : Type} : Reader α := do fail .countUnclosed start (← position)
  passOn
  if ← atEnd then unclosed
  let least ← count
  let limits : Nat × Option Nat ←
    match ← peek? with
    | none => unclosed
    | some ',' => do
      passOn
      match ← peek? with
      | none => unclosed
      | some '}' => pure (← least, none)
      | some _ => do
        let least ← least
        let most ← count
        pure (least, some (← most))
    | some _ => do
      let least ← least
      pure (least, some least)
  if (← peek?) ≠ some '}' then unclosed
  passOn
  passLazy
  if limits.2.any (· < limits.1) then fail .countOrder start (← position)
  return limits

def textOrLineStart (m : Modes) : Look :=
  if m.multiLine then .lineStart m.returns else .textStart

def textOrLineEnd (m : Modes) : Look :=
  if m.multiLine then .lineEnd m.returns else .textEnd

/-- A part that is neither a group nor repeated. -/
def single (c : Char) : Reader Expression := do
  let m ← modes
  let i ← position
  let span : Span := ⟨i, i + 1⟩
  match c with
  | '[' => return .set m (← bracketed)
  | '\\' =>
    match ← escape with
    | .set (.letter l) => return .letter m l
    | .set s => return .set m s
    | .look look span => return .look look span
  | '.' =>
    pass 1
    return .dot m span
  | '^' =>
    pass 1
    return .look (textOrLineStart m) span
  | '$' =>
    pass 1
    return .look (textOrLineEnd m) span
  | c =>
    pass 1
    return .letter m { char := c, span }

/-- The rest of a branch and of the groups around it, the innermost first. -/
def branches : Nat → Branch → List OpenGroup → Reader Expression
  | 0, b, _ => return b.closed (← position)
  | n + 1, b, around => do
    skipBlank
    let i ← position
    let repeatedBy (least : Nat) (most? : Option Nat) : Reader Expression := do
      let (e, start, b) ← lastPart i b
      pass 1
      passLazy
      branches n (b.add (.repeated ⟨start, ← position⟩ e least most?)) around
    match ← peek? with
    | none =>
      match around with
      | [] => return b.closed i
      | g :: _ => fail .groupUnclosed g.start (g.start + 1)
    | some ')' =>
      match around with
      | [] => fail .groupUnopened i (i + 1)
      | g :: around =>
        pass 1
        modify fun r => { r with modes := g.modes }
        branches n (g.around.add (.group ⟨g.start, i + 1⟩ g.index? (b.closed i))) around
    | some '|' =>
      pass 1
      branches n (b.next i) around
    | some '(' =>
      let outer ← modes
      match ← groupOpening with
      | .group index? =>
        branches n (.opened (← position)) ({ start := i, index?, modes := outer, around := b } ::
          around)
      | .switch => branches n (b.add .nothing) around
    | some '?' => repeatedBy 0 (some 1)
    | some '*' => repeatedBy 0 none
    | some '+' => repeatedBy 1 none
    | some '{' =>
      let (e, start, b) ← lastPart i b
      let (least, most?) ← counts
      branches n (b.add (.repeated ⟨start, ← position⟩ e least most?)) around
    | some c => branches n (b.add (← single c)) around

/-- The whole pattern. -/
def whole : Reader Expression := do
  branches (← bound) (.opened 0) []

end Reader

mutual
/-- The pattern asks for edges of words in any alphabet. -/
def asksWide : Pattern → Bool
  | here (.edge _ wide) => wide
  | repeated p _ _ | group _ p => asksWide p
  | sequence ps | choice ps => anyAsksWide ps
  | _ => false

def anyAsksWide : List Pattern → Bool
  | [] => false
  | p :: ps => asksWide p || anyAsksWide ps
end

/-- A pattern that is small enough and asks only for what can be told. -/
def searchable (p : Pattern) : Except Fault Pattern :=
  if greatestSize < p.size .forward then .error .size
  else if p.asksWide then .error .wordEdge
  else if greatestSize < p.size .backward then .error .size
  else .ok p

/-- The expression that a text stands for, if its parts are not nested too deeply. -/
def readExpression (written : Text) : Except Mistake Expression := do
  let e ← Reader.whole.run' { bound := written.length + 1, rest := written }
  match e.tooDeep? 0 with
  | some span => throw { kind := .depth, span }
  | none => return e

/-- The pattern that a text stands for. -/
def read (written : Text) : Except Fault Pattern :=
  match readExpression written >>= Expression.pattern with
  | .error m => .error (.mistake m)
  | .ok p => searchable p

example : (read "^(?i-u:sub|open)ed? [A-Z]\x7b2,3\x7d(?-u:\\b)".toList).toOption.map
    (·.occursIn "Opened SUB socket".toList) = some true := by
  decide +kernel

end FrameTap.Pattern
