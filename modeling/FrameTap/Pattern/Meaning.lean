import FrameTap.Pattern.Expression
import FrameTap.Pattern.Joined

/-!
# The meaning of written patterns

Which pattern an expression stands for.  Sets of characters of all alphabets have no tables
here, so that what needs them is a mistake; the modes that keep to ASCII do without them, but
have no sets with anything outside of it.  The first mistake from left to right counts.
-/

namespace FrameTap.Pattern

open Text

def mistake {α : Type} (kind : Mistake.Kind) (span : Span) : Except Mistake α :=
  .error { kind, span }

def SetOp.apply : SetOp → CodePoints → CodePoints → CodePoints
  | inter => CodePoints.inter
  | diff => CodePoints.diff
  | symmDiff => CodePoints.symmDiff

namespace SetExpression

def isLetters : SetExpression → Bool
  | letter _ | range _ _ => true
  | _ => false

/-- The set has letters of its own, and not just those of the sets that it is made of. -/
def hasLetters : SetExpression → Bool
  | union _ members => members.any isLetters
  | s => s.isLetters

/-- The code point of a letter in a set.  In narrow modes a byte that is no character of its
own, and a character that is no byte of its own, are mistakes. -/
def letterCode (m : Modes) (l : Letter) : Except Mistake Nat :=
  if !m.narrow || l.char ≤ '\x7F' then .ok l.char.toNat
  else if l.isByte then mistake .illFormed l.span
  else mistake .wideCharacter l.span

/-- A set in the case that the modes ask for. -/
def inCase (m : Modes) (span : Span) (hasLetters : Bool) (s : CodePoints) :
    Except Mistake CodePoints :=
  if !m.anyCase then .ok s
  else if m.narrow then .ok (Charset.ignoringCase s)
  else if hasLetters then mistake .wideCase span
  else .ok s

/-- A set in the case that the modes ask for, or what is not in it. -/
def closed (m : Modes) (span : Span) (negated hasLetters : Bool) (s : CodePoints) :
    Except Mistake CodePoints := do
  let s ← inCase m span hasLetters s
  if !negated then return s
  else if m.narrow then mistake .illFormed span
  else return s.complement

/-- Names of general categories that are not taken for names of properties. -/
def categories : List Text := ["cf".toList, "sc".toList, "lc".toList]

/-- The name of a property in its plain form: small letters, without the word "is" before it
and without blanks, dashes and underscores. -/
def plainName (name : Text) : Text :=
  let small := name.map Char.toLower
  ((Text.after? "is".toList small).getD small).filter fun c =>
    c ≤ '\x7F' && !" _-".toList.contains c

/-- There are no sets by the name of a property. -/
def ofProperty (m : Modes) (span : Span) (name : Text) : Except Mistake CodePoints :=
  if m.narrow then mistake .wideCharacter span
  else if categories.contains (plainName name) then mistake .propertyValue span
  else mistake .property span

def ofEscape (m : Modes) (span : Span) (negated : Bool) (s : CodePoints) :
    Except Mistake CodePoints :=
  if !m.narrow then mistake .wideSet span
  else if negated then mistake .illFormed span
  else .ok s

mutual
/-- The code points that the expression stands for. -/
def codePoints (m : Modes) : SetExpression → Except Mistake CodePoints
  | nothing _ => .ok []
  | letter l => (letterCode m l).map fun n => [(n, n)]
  | range first last => return [(← letterCode m first, ← letterCode m last)]
  | named span negated s => closed m span negated true (.ofRanges s)
  | escaped span negated s => (ofEscape m span negated s).map .ofRanges
  | property span name => ofProperty m span name
  | bracketed span negated contents => do
    closed m span negated contents.hasLetters (← codePoints m contents)
  | union _ members => return .ofRanges (← codePointsOfAll m [] members)
  | combined op left right => do
    let s ← codePoints m left
    let t ← codePoints m right
    let t ← inCase m right.span right.hasLetters t
    let s ← inCase m left.span left.hasLetters s
    return op.apply s t

/-- The ranges of the members behind those of the members before, the last set first. -/
def codePointsOfAll (m : Modes) (found : List CodePoints) :
    List SetExpression → Except Mistake (List (Nat × Nat))
  | [] => .ok found.reverse.flatten
  | s :: ss => do codePointsOfAll m ((← codePoints m s) :: found) ss
end

end SetExpression

namespace Expression

/-- What a letter outside of brackets stands for. -/
def ofLetter (m : Modes) (l : Letter) : Except Mistake Pattern :=
  if m.narrow && l.isByte && '\x7F' < l.char then mistake .illFormed l.span
  else if !m.anyCase then .ok (literal [l.char])
  else if m.narrow then .ok (ofSet (Charset.ignoringCase (Charset.only l.char)))
  else mistake .wideCase l.span

def lineBreaks (m : Modes) : CodePoints :=
  .ofRanges (Charset.only '\n' ++ if m.returns then Charset.only '\r' else [])

def ofDot (m : Modes) (span : Span) : Except Mistake Pattern :=
  if m.narrow then mistake .illFormed span
  else .ok (ofSet (CodePoints.complement (if m.dotAll then [] else lineBreaks m)))

mutual
/-- The pattern that the expression stands for. -/
def pattern : Expression → Except Mistake Pattern
  | nothing => .ok empty
  | letter m l => ofLetter m l
  | dot m span => ofDot m span
  | look l _ => .ok (here l)
  | set m s => (s.codePoints m).map ofSet
  | repeated _ e least most? => (pattern e).map fun p => repeatedly p least most?
  | group _ index? e =>
    (pattern e).map fun p =>
      match index? with
      | some index => Pattern.group index p
      | none => p
  | sequence _ es => (patterns [] es).map inSequence
  | choice _ es => (patterns [] es).map oneOf

/-- The patterns of expressions behind those of the expressions before, the last first. -/
def patterns (found : List Pattern) : List Expression → Except Mistake (List Pattern)
  | [] => .ok found.reverse
  | e :: es => do patterns ((← pattern e) :: found) es
end

end Expression
end FrameTap.Pattern
