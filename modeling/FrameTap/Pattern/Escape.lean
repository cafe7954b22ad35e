import FrameTap.Pattern.Reading

/-!
# Escapes in patterns

What a backslash stands for with the characters behind it: a character, a set of
characters, or something that is asked of a place.
-/

namespace FrameTap.Pattern

/-- What an escape stands for. -/
inductive Escape where
  | set (s : SetExpression)
  | look (look : Look) (span : Span)

namespace Reader

/-- The name of an edge of words between braces, behind an escape that began at `start`.
Anything else between the braces is left to be read as a count. -/
def namedEdge (start : Nat) : Reader Edge := do
  let before ← get
  let brace ← position
  passOn
  let contents ← position
  match ← peek? with
  | none => fail .edgeUnfinished start contents
  | some c =>
    let isNamed (d : Char) : Bool := Charset.holds Charset.letters d || d == '-'
    if !isNamed c then
      set before
      return .either
    let name ← takeWhile isNamed
    let stop ← position
    if (← peek?) ≠ some '}' then fail .edgeUnclosed brace stop
    pass 1
    match String.ofList name with
    | "start" => return .wordStart
    | "end" => return .wordEnd
    | "start-half" => return .startHalf
    | "end-half" => return .endHalf
    | _ => fail .edgeUnknown contents stop

/-- The name of a property. -/
def propertyName : Reader Text := do
  passOn
  let i ← position
  match ← peek? with
  | none => fail .escapeUnfinished i i
  | some '{' =>
    passOn
    let name ← takeWhile (· ≠ '}')
    let stop ← position
    if ← atEnd then fail .escapeUnfinished stop stop
    pass 1
    return name
  | some '\\' => fail .propertyForm i (i + 1)
  | some c =>
    passOn
    return [c]

/-- The letter behind a backslash, or any other ASCII character that stands for itself. -/
def simpleEscape? (c : Char) : Option Char :=
  match c with
  | 'a' => some '\x07'
  | 'f' => some '\x0C'
  | 't' => some '\t'
  | 'n' => some '\n'
  | 'r' => some '\r'
  | 'v' => some '\x0B'
  | '<' | '>' => none
  | c => if c ≤ '\x7F' ∧ !Charset.holds Charset.letters c then some c else none

/-- The edge of words that the letter behind a backslash asks for. -/
def simpleEdge? (c : Char) : Option Edge :=
  match c with
  | 'B' => some .neither
  | '<' => some .wordStart
  | '>' => some .wordEnd
  | _ => none

def escape : Reader Escape := do
  let start ← position
  let wide := !(← modes).narrow
  pass 1
  let byNumber (digits : Nat) : Reader Escape := do
    let (char, isFixed) ← codePoint digits
    return .set (.letter { char, span := ⟨start, ← position⟩, isByte := isFixed && digits = 2 })
  match ← peek? with
  | none => fail .escapeUnfinished start (start + 1)
  | some 'x' => byNumber 2
  | some 'u' => byNumber 4
  | some 'U' => byNumber 8
  | some 'p' | some 'P' =>
    let name ← propertyName
    return .set (.property ⟨start, ← position⟩ name)
  | some c =>
    if Charset.holds Charset.digits c then fail .backreference start (start + 2)
    pass 1
    let span : Span := ⟨start, ← position⟩
    if "dsw".toList.contains c.toLower then
      return .set (.escaped span (c ≠ c.toLower) (Charset.lettered c.toLower))
    match c, simpleEdge? c, simpleEscape? c with
    | 'A', _, _ => return .look .textStart span
    | 'z', _, _ => return .look .textEnd span
    | 'b', _, _ =>
      let edge ← if (← peek?) = some '{' then namedEdge start else pure .either
      return .look (.edge edge wide) ⟨start, ← position⟩
    | _, some edge, _ => return .look (.edge edge wide) span
    | _, none, some d => return .set (.letter { char := d, span })
    | _, none, none => fail .escapeUnknown start (← position)

end Reader
end FrameTap.Pattern
