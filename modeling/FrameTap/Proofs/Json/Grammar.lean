import FrameTap.Proofs.Decimal.Grammar
import FrameTap.Proofs.Frame.ByteLiteral

/-!
# The grammar of JSON

A JSON text is a text of characters, and `Writes` says what it writes.  The values keep what a
reader may look at: the spelling of numbers, the escapes by code unit in strings, the members of
objects in their order with their repetitions.  They forget what no reader sees, which is the
white space and whether a character is escaped by a letter.

A string may name halves of characters by themselves.  `content?` is the text that it stands for
if each leading half is followed by a trailing one.
-/

namespace FrameTap.Json

/-! ## White space and numbers -/

def Space (t : Text) : Prop := ∀ c ∈ t, c = ' ' ∨ c = '\t' ∨ c = '\n' ∨ c = '\r'

def Digits (t : Text) : Prop := t ≠ [] ∧ ∀ c ∈ t, Numeral.IsDigit c

/-- A number in its spelling.  The fraction has its point and the exponent its letter with it, and
each may be absent. -/
structure Literal where
  negative : Bool
  whole : Text
  fraction : Text
  exponent : Text

namespace Literal

/-- The number behind its sign. -/
def unsigned (n : Literal) : Text := n.whole ++ (n.fraction ++ n.exponent)

def text (n : Literal) : Text := if n.negative then '-' :: n.unsigned else n.unsigned

structure WellFormed (n : Literal) : Prop where
  whole : Digits n.whole
  noLeadingZero : n.whole.head? = some '0' → n.whole = ['0']
  fraction : n.fraction = [] ∨ ∃ digits, Digits digits ∧ n.fraction = '.' :: digits
  exponent : n.exponent = [] ∨ ∃ letter sign digits, (letter = 'e' ∨ letter = 'E') ∧
    (sign = [] ∨ sign = ['+'] ∨ sign = ['-']) ∧ Digits digits ∧
      n.exponent = letter :: (sign ++ digits)

/-- A number without sign, fraction and exponent, whose value is the given one. -/
structure Denotes (n : Literal) (value : Nat) : Prop where
  positive : n.negative = false
  noFraction : n.fraction = []
  noExponent : n.exponent = []
  value : Numeral.valueFrom 0 n.whole = value

end Literal

/-! ## Strings -/

/-- What one character or one escape of a string stands for: a character, or a code unit that may
be half of one. -/
inductive Item where
  | char (c : Char)
  | unit (n : Nat)

/-- The letters of the short escapes and the characters they stand for. -/
def letters : List (Char × Char) :=
  [('"', '"'), ('\\', '\\'), ('/', '/'), ('b', '\x08'), ('f', '\x0C'), ('n', '\n'), ('r', '\r'),
   ('t', '\t')]

inductive Item.Writes : Item → Text → Prop
  | plain {c : Char} (notQuote : c ≠ '"') (notBackslash : c ≠ '\\') (notControl : ¬ c.toNat < 0x20) :
    Writes (.char c) [c]
  | letter {l c : Char} (mem : (l, c) ∈ letters) : Writes (.char c) ['\\', l]
  | unit {a b c d : Char} {w x y z : Nat} (first : ByteLiteral.hexValue? a = some w)
    (second : ByteLiteral.hexValue? b = some x) (third : ByteLiteral.hexValue? c = some y)
    (fourth : ByteLiteral.hexValue? d = some z) :
    Writes (.unit (((w * 16 + x) * 16 + y) * 16 + z)) ['\\', 'u', a, b, c, d]

/-- The text between the quotes of a string. -/
inductive Body : List Item → Text → Prop
  | nil : Body [] []
  | cons {item : Item} {items : List Item} {t u : Text} (head : item.Writes t)
    (tail : Body items u) : Body (item :: items) (t ++ u)

def IsLeading (n : Nat) : Prop := 0xD800 ≤ n ∧ n ≤ 0xDBFF

def IsTrailing (n : Nat) : Prop := 0xDC00 ≤ n ∧ n ≤ 0xDFFF

instance (n : Nat) : Decidable (IsLeading n) := inferInstanceAs (Decidable (_ ∧ _))

instance (n : Nat) : Decidable (IsTrailing n) := inferInstanceAs (Decidable (_ ∧ _))

/-- The character of two halves. -/
def paired (leading trailing : Nat) : Char :=
  Char.ofNat ((leading - 0xD800) * 0x400 + (trailing - 0xDC00) + 0x10000)

/-- The text of a string in which no half of a character stands alone. -/
def content? : List Item → Option Text
  | [] => some []
  | .char c :: items => (content? items).map (c :: ·)
  | .unit n :: items =>
    if IsLeading n then
      match items with
      | .unit m :: items =>
        if IsTrailing m then (content? items).map (paired n m :: ·) else none
      | _ => none
    else if IsTrailing n then none
    else (content? items).map (Char.ofNat n :: ·)

example : content? [.unit 0xD83D, .unit 0xDE00, .char 'a'] = some ['😀', 'a'] := by decide

example : content? [.unit 0xD83D, .char 'a'] = none := by decide

/-- The character stands for itself in a string. -/
def bare (c : Char) : Bool := c != '"' && c != '\\' && !decide (c.toNat < 0x20)

theorem Body.ofBare {t : Text} (h : t.all bare = true) : Body (t.map .char) t := by
  induction t with
  | nil => exact .nil
  | cons c t ih =>
      simp only [List.all_cons, Bool.and_eq_true] at h
      obtain ⟨hc, ht⟩ := h
      simp only [bare, Bool.and_eq_true, bne_iff_ne, Bool.not_eq_true', decide_eq_false_iff_not] at hc
      exact .cons (.plain hc.1.1 hc.1.2 hc.2) (ih ht)

theorem content?_map_char (t : Text) : content? (t.map .char) = some t := by
  induction t with
  | nil => rfl
  | cons c t ih =>
      rw [List.map_cons, content?, ih]
      rfl

/-! ## Values -/

inductive Value where
  | null
  | bool (b : Bool)
  | number (n : Literal)
  | string (items : List Item)
  | array (elements : List Value)
  | object (members : List (List Item × Value))

/-- The value of a name in an object. -/
abbrev Member := List Item × Value

/-- What a part of a JSON text may be. -/
inductive Part where
  | value (v : Value)
  /-- A value with the white space around it. -/
  | padded (v : Value)
  | elements (vs : List Value)
  | member (m : Member)
  | members (ms : List Member)

inductive Writes : Part → Text → Prop
  | null : Writes (.value .null) "null".toList
  | trueWord : Writes (.value (.bool true)) "true".toList
  | falseWord : Writes (.value (.bool false)) "false".toList
  | number {n : Literal} (wellFormed : n.WellFormed) : Writes (.value (.number n)) n.text
  | string {items : List Item} {t : Text} (body : Body items t) :
    Writes (.value (.string items)) ('"' :: (t ++ ['"']))
  | noElements {w : Text} (space : Space w) : Writes (.value (.array [])) ('[' :: (w ++ [']']))
  | array {vs : List Value} {t : Text} (elements : Writes (.elements vs) t) :
    Writes (.value (.array vs)) ('[' :: (t ++ [']']))
  | noMembers {w : Text} (space : Space w) : Writes (.value (.object [])) ('{' :: (w ++ ['}']))
  | object {ms : List Member} {t : Text} (members : Writes (.members ms) t) :
    Writes (.value (.object ms)) ('{' :: (t ++ ['}']))
  | padded {v : Value} {before t behind : Text} (spaceBefore : Space before)
    (value : Writes (.value v) t) (spaceBehind : Space behind) :
    Writes (.padded v) (before ++ (t ++ behind))
  | lastElement {v : Value} {t : Text} (element : Writes (.padded v) t) :
    Writes (.elements [v]) t
  | moreElements {v : Value} {vs : List Value} {t u : Text} (element : Writes (.padded v) t)
    (elements : Writes (.elements vs) u) : Writes (.elements (v :: vs)) (t ++ ',' :: u)
  | member {name : List Item} {v : Value} {before key behind t : Text} (spaceBefore : Space before)
    (body : Body name key) (spaceBehind : Space behind) (value : Writes (.padded v) t) :
    Writes (.member (name, v)) (before ++ '"' :: (key ++ '"' :: (behind ++ ':' :: t)))
  | lastMember {m : Member} {t : Text} (member : Writes (.member m) t) : Writes (.members [m]) t
  | moreMembers {m : Member} {ms : List Member} {t u : Text} (member : Writes (.member m) t)
    (members : Writes (.members ms) u) : Writes (.members (m :: ms)) (t ++ ',' :: u)

/-! White space may be left out. -/

theorem Space.nil : Space [] := List.forall_mem_nil _

theorem Writes.tight {v : Value} {t : Text} (h : Writes (.value v) t) : Writes (.padded v) t := by
  have hpadded := Writes.padded .nil h .nil
  rw [List.nil_append, List.append_nil] at hpadded
  exact hpadded

theorem Writes.tightMember {name : List Item} {v : Value} {key t : Text} (body : Body name key)
    (h : Writes (.value v) t) : Writes (.member (name, v)) ('"' :: (key ++ '"' :: ':' :: t)) :=
  .member .nil body .nil h.tight

/-- The text is a JSON text, and `v` is its value. -/
def IsText (v : Value) (t : Text) : Prop := Writes (.padded v) t

end FrameTap.Json
