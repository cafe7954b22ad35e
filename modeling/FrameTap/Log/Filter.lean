import FrameTap.Log
import FrameTap.Pattern.Reader

/-!
# Filters on the log

Which lines of the log are shown.  A setting holds rules with commas between them, and
behind a slash a pattern that has to occur in a line.  A rule names the beginning of the
sources that it is for and, behind an equals sign, the least level that it shows; a level
alone is for all sources.  There is one rule for a name, and the rule with the longest name
decides about a line.  Rules that cannot be read are reported and left out.
-/

namespace FrameTap.Log

/-- The least level that is shown; `none` shows nothing. -/
abbrev Limit := Option Level

namespace Limit

def off : Text := "OFF".toList

/-- The limit of a name, in which capital and small letters are the same. -/
def ofName? (t : Text) : Option Limit :=
  let name := t.map Char.toUpper
  if name = off then some none else (Level.all.find? fun level => level.name == name).map some

def shows (limit : Limit) (level : Level) : Bool := limit.any fun l => level.rank ≤ l.rank

end Limit

/-- The limit for the sources whose names begin with a name, or for all sources. -/
structure Rule where
  name? : Option Text
  limit : Limit
  deriving DecidableEq

namespace Rule

/-- How much of the name of a source the rule names. -/
def length (r : Rule) : Nat := (r.name?.map List.length).getD 0

def isFor (r : Rule) (source : Source) : Bool := r.name?.all fun n => n.isPrefixOf source.name

/-- Puts a rule in the place of the one with the same name, or behind the others. -/
def enter (rules : List Rule) (rule : Rule) : List Rule :=
  match rules with
  | [] => [rule]
  | r :: rules => if r.name? = rule.name? then rule :: rules else r :: enter rules rule

end Rule

structure Filter where
  /-- The rules as they are set, one behind the other. -/
  rules : List Rule
  pattern? : Option Pattern := none

namespace Filter

/-- What is wrong with a setting, and what is left out because of it. -/
inductive Fault where
  /-- The setting has a second slash and is left out as a whole. -/
  | slashes (setting : Text)
  | rule (text : Text)
  | pattern (written : Text) (fault : Pattern.Fault)

namespace Fault

def ignored (t : Text) : Text :=
  "warning: invalid logging spec '".toList ++ t ++ "', ignoring it".toList

def lines : Fault → List Text
  | slashes setting => Text.cut '\n' (ignored setting ++ " (too many '/'s)".toList)
  | rule text => Text.cut '\n' (ignored text)
  | pattern written fault =>
    match fault.lines written with
    | [] => []
    | line :: lines => ("warning: invalid regex filter - ".toList ++ line) :: lines

end Fault

/-- The rule that a text stands for. -/
def readRule (t : Text) : Except Fault Rule :=
  match Text.cut '=' t with
  | [name] =>
    match Limit.ofName? name with
    | some limit => .ok ⟨none, limit⟩
    | none => .ok ⟨some name, some .trace⟩
  | [name, level] =>
    let level := Text.trim level
    if level.isEmpty then .ok ⟨some name, some .trace⟩
    else
      match Limit.ofName? level with
      | some limit => .ok ⟨some name, limit⟩
      | none => .error (.rule level)
  | _ => .error (.rule t)

/-- The rules of a text and the faults of those that are left out. -/
def readRules (t : Text) : List Rule × List Fault :=
  let read := (((Text.cut ',' t).map Text.trim).filter fun t => !t.isEmpty).map readRule
  (read.filterMap Except.toOption,
    read.filterMap fun r => match r with
      | .ok _ => none
      | .error fault => some fault)

/-- The pattern of a text, if it is one, and otherwise what is wrong with it. -/
def readPattern (t : Text) : Option Pattern × List Fault :=
  match Pattern.read t with
  | .ok p => (some p, [])
  | .error fault => (none, [.pattern t fault])

/-- The filter of rules, the last of which is that the base is the limit for all sources. -/
def ofRules (base : Level) (rules : List Rule) (pattern? : Option Pattern) : Filter :=
  let last : Rule := ⟨none, some base⟩
  ⟨rules ++ [last], pattern?⟩

/-- The filter of a setting over a base, and the faults of what is left out. -/
def read (base : Level) (setting : Text) : Filter × List Fault :=
  match Text.cut '/' setting with
  | [] => (ofRules base [] none, [])
  | [rules] =>
    let (rules, faults) := readRules rules
    (ofRules base rules none, faults)
  | [rules, pattern] =>
    let (rules, faults) := readRules rules
    let (pattern?, patternFaults) := readPattern pattern
    (ofRules base rules pattern?, faults ++ patternFaults)
  | _ => (ofRules base [] none, [.slashes setting])

/-- The rule for a source: the last one of those with the longest name.  A rule that is set
later takes the place of the one with its name. -/
def rule? (f : Filter) (source : Source) : Option Rule :=
  ((f.rules.filter (·.isFor source)).foldl Rule.enter []).foldl
    (fun best? r => if best?.all (·.length ≤ r.length) then some r else best?) none

/-- The limit for a source. -/
def limit (f : Filter) (source : Source) : Limit := (f.rule? source).bind Rule.limit

def shows (f : Filter) (l : Line) : Bool :=
  (f.limit l.source).shows l.level && f.pattern?.all fun p => p.occursIn l.text

/-- The lines that are shown, as they stand in the log. -/
def shown (f : Filter) (ls : List Line) : List Text := (ls.filter f.shows).map Line.full

example : (read .info "zmq_printer=debug/Sub".toList).1.shown
    [⟨.debug, .socket, "Opened SUB socket".toList⟩,
      ⟨.debug, .socket, "Subscribed to all topics".toList⟩] =
    ["[DEBUG zmq_printer::socket] Subscribed to all topics".toList] := by
  decide +kernel

end Filter
end FrameTap.Log
