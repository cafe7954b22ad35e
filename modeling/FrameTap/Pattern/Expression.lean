import FrameTap.Pattern.Fault
import FrameTap.Pattern.Modes
import FrameTap.Pattern.Place

/-!
# Written patterns

A pattern as it is written: its parts, the modes that they stand in, and which parts of the
text they span.
-/

namespace FrameTap.Pattern

open Text

/-- A character as it is written, by itself or by an escape. -/
structure Letter where
  char : Char
  span : Span
  /-- It is written as the number of a byte. -/
  isByte : Bool := false

inductive SetOp where
  | inter
  | diff
  | symmDiff

/-- What stands for a set of characters between brackets. -/
inductive SetExpression where
  | nothing (span : Span)
  | letter (l : Letter)
  | range (first last : Letter)
  /-- A set with a name. -/
  | named (span : Span) (negated : Bool) (set : CodePoints)
  /-- A set by an escape. -/
  | escaped (span : Span) (negated : Bool) (set : CodePoints)
  | property (span : Span) (name : Text)
  /-- A set between brackets of its own. -/
  | bracketed (span : Span) (negated : Bool) (contents : SetExpression)
  | union (span : Span) (members : List SetExpression)
  | combined (op : SetOp) (left right : SetExpression)

def SetExpression.span : SetExpression → Span
  | letter l => l.span
  | range first last => ⟨first.span.start, last.span.stop⟩
  | nothing span | named span _ _ | escaped span _ _ | property span _ | bracketed span _ _
  | union span _ => span
  | combined _ left right => ⟨left.span.start, right.span.stop⟩

inductive Expression where
  /-- An empty branch or a switch of modes. -/
  | nothing
  | letter (m : Modes) (l : Letter)
  | dot (m : Modes) (span : Span)
  | look (look : Look) (span : Span)
  | set (m : Modes) (s : SetExpression)
  | repeated (span : Span) (e : Expression) (least : Nat) (most? : Option Nat)
  /-- A part between brackets, with a number if it is recorded. -/
  | group (span : Span) (index? : Option Nat) (e : Expression)
  | sequence (span : Span) (es : List Expression)
  | choice (span : Span) (es : List Expression)

namespace Expression

/-- Where the expression begins, if it takes up a part of the text. -/
def start? : Expression → Option Nat
  | nothing => none
  | letter _ l => some l.span.start
  | set _ s => some s.span.start
  | dot _ span | look _ span | repeated span _ _ _ | group span _ _ | sequence span _
  | choice span _ => some span.start

end Expression

/-! ## Depth -/

mutual
/-- The first set that is nested too deeply, if `depth` parts are open around these. -/
def SetExpression.tooDeep? (depth : Nat) : SetExpression → Option Span
  | .bracketed span _ contents =>
    if depth < greatestDepth then contents.tooDeep? (depth + 1) else some span
  | .union span members =>
    if depth < greatestDepth then tooDeepAmong? (depth + 1) members else some span
  | .combined op left right =>
    if depth < greatestDepth then
      (left.tooDeep? (depth + 1)).or (right.tooDeep? (depth + 1))
    else some (SetExpression.combined op left right).span
  | _ => none

def SetExpression.tooDeepAmong? (depth : Nat) : List SetExpression → Option Span
  | [] => none
  | s :: ss =>
    match s.tooDeep? depth with
    | some span => some span
    | none => tooDeepAmong? depth ss
end

mutual
/-- The first part that is nested too deeply, if `depth` parts are open around it. -/
def Expression.tooDeep? (depth : Nat) : Expression → Option Span
  | .set _ s => s.tooDeep? depth
  | .repeated span e _ _ | .group span _ e =>
    if depth < greatestDepth then e.tooDeep? (depth + 1) else some span
  | .sequence span es | .choice span es =>
    if depth < greatestDepth then tooDeepAmong? (depth + 1) es else some span
  | _ => none

def Expression.tooDeepAmong? (depth : Nat) : List Expression → Option Span
  | [] => none
  | e :: es =>
    match e.tooDeep? depth with
    | some span => some span
    | none => tooDeepAmong? depth es
end

end FrameTap.Pattern
