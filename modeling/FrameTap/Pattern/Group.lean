import FrameTap.Pattern.Reading
import FrameTap.Text.Alphanumeric

/-!
# The opening of groups in patterns

What may stand behind the bracket that opens a group: a name, or switches of modes for
the group or for what follows.  Groups are recorded by their numbers, so the name of a group
is read and only compared with the other names.
-/

namespace FrameTap.Pattern.Reader

/-- The letters and the dash that switch modes, up to the colon or the bracket behind them.
`seen` are those that have been read, the last one first. -/
def switches : Nat → List (Char × Span) → Modes → Reader (Modes × Bool)
  | 0, seen, m => return (m, seen.isEmpty)
  | n + 1, seen, m => do
    let i ← position
    let span : Span := ⟨i, i + 1⟩
    match ← peek? with
    | none => fail .flagUnfinished i i
    | some c =>
      if c = ':' ∨ c = ')' then
        match seen with
        | ('-', dash) :: _ => fail .flagNegationAlone dash.start dash.stop
        | _ => return (m, seen.isEmpty)
      else if c = '-' then
        match seen.lookup '-' with
        | some earlier => throw { kind := .flagNegationRepeated, span, earlier? := some earlier }
        | none =>
          pass 1
          switches n (('-', span) :: seen) m
      else
        match m.switch? c (seen.lookup '-').isNone, seen.lookup c with
        | none, _ => fail .flagUnknown i (i + 1)
        | _, some earlier => throw { kind := .flagRepeated, span, earlier? := some earlier }
        | some m, none =>
          pass 1
          switches n ((c, span) :: seen) m

def beginsName (c : Char) : Bool := c == '_' || Text.isAlphabetic c

def continuesName (c : Char) : Bool :=
  beginsName c || Text.isNumeric c || ".[]".toList.contains c

/-- The name of a group, up to the bracket behind it. -/
def groupName : Reader Unit := do
  let start ← position
  let rest := (← get).rest
  let name := rest.takeWhile continuesName
  let stop := start + name.length
  match rest.head? with
  | none => fail .nameUnfinished start start
  | some '>' => fail .nameEmpty start start
  | some c => if !beginsName c then fail .nameCharacter start (start + 1)
  match (rest.drop name.length).head? with
  | none => fail .nameUnfinished stop stop
  | some '>' =>
    match (← get).names.lookup name with
    | some earlier =>
      throw { kind := .nameRepeated, span := ⟨start, stop⟩, earlier? := some earlier }
    | none =>
      pass (name.length + 1)
      modify fun r => { r with names := (name, ⟨start, stop⟩) :: r.names }
  | some _ => fail .nameCharacter stop (stop + 1)

/-- What has been opened by a bracket. -/
inductive Opening where
  /-- A group, and its number if it is recorded. -/
  | group (index? : Option Nat)
  /-- Nothing: the modes are switched for what follows. -/
  | switch

/-- The number of the group that is being opened. -/
def groupNumber : Reader Nat := do
  let number := (← get).groups + 1
  modify fun r => { r with groups := number }
  return number

def groupOpening : Reader Opening := do
  let start ← position
  passOn
  for look in ["?=", "?!", "?<=", "?<!"] do
    if ← took look.toList then fail .lookAround start (← position)
  let i ← position
  if (← took "?P<".toList) || (← took "?<".toList) then
    groupName
    return .group (some (← groupNumber))
  else if ← took ['?'] then
    if ← atEnd then fail .groupUnclosed start (start + 1)
    let (m, noSwitch) ← switches (← bound) [] (← modes)
    let closed := (← peek?) = some ')'
    if closed ∧ noSwitch then fail .nothingToRepeat i i
    pass 1
    modify fun r => { r with modes := m }
    return if closed then .switch else .group none
  else return .group (some (← groupNumber))

end FrameTap.Pattern.Reader
