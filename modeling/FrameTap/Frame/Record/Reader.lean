import FrameTap.Decimal.Shortest
import FrameTap.Except
import FrameTap.Frame.Record
import FrameTap.Json.Numeric
import FrameTap.Json.Skip
import FrameTap.Text.Quoted

/-!
# Reading frame records

A record is read from JSON, either from an object with each of its fields once, in any
order and among other members, or from an array of the three values.  Members with other
names are skipped.  The text is read from left to right, and the first fault is
reported: a flaw of the JSON text, or a value that does not fit a record.
-/

namespace FrameTap.Record

/-- The fields of a record, in the order in which they are missed. -/
inductive Field where
  | seq
  | size
  | data
  deriving DecidableEq

namespace Field

def all : List Field := [seq, size, data]

def name : Field → Text
  | seq => "seq".toList
  | size => "size".toList
  | data => "data".toList

def ofName? (t : Text) : Option Field := all.find? fun field => field.name == t

end Field

/-- What a place in the text wants: the whole record or the value of a field. -/
inductive Wanted where
  | record
  | value (field : Field)
  deriving DecidableEq

def Wanted.message : Wanted → Text
  | record => "struct FrameRecord".toList
  | value .seq => "u64".toList
  | value .size => "usize".toList
  | value .data => "a string".toList

/-- What stands there instead. -/
inductive Found where
  | null
  | boolean (b : Bool)
  | whole (n : Int)
  | real (bits : UInt64)
  | string (t : Text)
  | sequence
  | map
  deriving DecidableEq

def inBackticks (t : Text) : Text := Char.ofNat 0x60 :: t ++ [Char.ofNat 0x60]

def Found.message : Found → Text
  | null => "null".toList
  | boolean b => "boolean ".toList ++ inBackticks (if b then "true".toList else "false".toList)
  | whole n => "integer ".toList ++ inBackticks (Numeral.writeInt n)
  | real bits => "floating point ".toList ++ inBackticks (Decimal.showBits bits.toNat)
  | string t => "string ".toList ++ Text.quote t
  | sequence => "sequence".toList
  | map => "map".toList

/-- Why well-formed JSON is no record. -/
inductive Misfit where
  | missing (field : Field)
  | duplicate (field : Field)
  | tooFew (n : Nat)
  | mistyped (found : Found) (wanted : Wanted)
  | negative (n : Int) (wanted : Wanted)
  deriving DecidableEq

def Misfit.message : Misfit → Text
  | missing field => "missing field ".toList ++ inBackticks field.name
  | duplicate field => "duplicate field ".toList ++ inBackticks field.name
  | tooFew n =>
    "invalid length ".toList ++ Numeral.write n ++
      ", expected struct FrameRecord with 3 elements".toList
  | mistyped found wanted =>
    "invalid type: ".toList ++ found.message ++ ", expected ".toList ++ wanted.message
  | negative n wanted =>
    "invalid value: ".toList ++ (Found.whole n).message ++ ", expected ".toList ++
      wanted.message

inductive Fault where
  | flaw (flaw : Json.Flaw)
  | misfit (misfit : Misfit)
  deriving DecidableEq

def ofFlaw {α : Type} : Except Json.Flaw α → Except Fault α := Except.mapError .flaw

theorem ofFlaw_eq_ok_iff {α : Type} {x : Except Json.Flaw α} {a : α} :
    ofFlaw x = .ok a ↔ x = .ok a := mapError_eq_ok_iff

def malformed {α : Type} : Except Fault α := .error (.flaw .malformed)

def truncated {α : Type} : Except Fault α := .error (.flaw .truncated)

/-- What a number is found to be. -/
def Found.ofNumeric : Json.Numeric → Found
  | .natural n => whole n
  | .negative n => whole n
  | .real x => real x.toBits

/-- Whether a value that begins with this byte is a number. -/
def beginsNumber (b : UInt8) : Bool := b == 0x2D || Json.isDigit b

/-- The value of a number whose first byte is `b`, `s` being the text behind that byte. -/
def readNumeric (b : UInt8) (s : Bytes) : Except Fault (Json.Numeric × Bytes) := do
  let (number, rest) ←
    ofFlaw (if b = 0x2D then Json.number .truncated true s
      else Json.number .truncated false (b :: s))
  let value ← ofFlaw number.value
  .ok (value, rest)

/-- What a value of the wrong kind is found to be, `b` being its first byte and `s` the text
behind it.  Arrays and objects are known by their bracket alone; other values are read,
and a flaw in one comes first. -/
def found (b : UInt8) (s : Bytes) : Except Fault Found :=
  if b = 0x6E then do
    let _ ← ofFlaw (Json.word [0x75, 0x6C, 0x6C] s)
    .ok .null
  else if b = 0x74 then do
    let _ ← ofFlaw (Json.word [0x72, 0x75, 0x65] s)
    .ok (.boolean true)
  else if b = 0x66 then do
    let _ ← ofFlaw (Json.word [0x61, 0x6C, 0x73, 0x65] s)
    .ok (.boolean false)
  else if beginsNumber b then do
    let (value, _) ← readNumeric b s
    .ok (.ofNumeric value)
  else if b = 0x22 then do
    let (t, _) ← ofFlaw (Json.string s)
    .ok (.string t)
  else if b = 0x5B then .ok .sequence
  else if b = 0x7B then .ok .map
  else malformed

def mistyped {α : Type} (wanted : Wanted) (b : UInt8) (s : Bytes) : Except Fault α := do
  let found ← found b s
  .error (.misfit (.mistyped found wanted))

/-- The number as the value of a field that wants a natural number. -/
def naturalFor (field : Field) : Json.Numeric → Except Fault Nat
  | .natural n => .ok n
  | .negative n => .error (.misfit (.negative n (.value field)))
  | .real x => .error (.misfit (.mistyped (.real x.toBits) (.value field)))

/-- The value of a field that wants a natural number. -/
def readNatural (field : Field) (s : Bytes) : Except Fault (Nat × Bytes) :=
  match Json.skipSpace s with
  | [] => truncated
  | b :: s =>
    if beginsNumber b then do
      let (value, rest) ← readNumeric b s
      let n ← naturalFor field value
      .ok (n, rest)
    else mistyped (.value field) b s

/-- The value of a field that wants a text. -/
def readText (field : Field) (s : Bytes) : Except Fault (Text × Bytes) :=
  match Json.skipSpace s with
  | [] => truncated
  | b :: s =>
    if b = 0x22 then ofFlaw (Json.string s) else mistyped (.value field) b s

/-- Moves to the next element of an array if there is one.  Only the first element has
no comma before it. -/
def nextElement? (first : Bool) (s : Bytes) : Except Fault (Option Bytes) :=
  match Json.skipSpace s with
  | [] => truncated
  | b :: rest =>
    if b = 0x5D then .ok none
    else if first then .ok (some (b :: rest))
    else if b = 0x2C then
      match Json.skipSpace rest with
      | [] => truncated
      | b :: rest => if b = 0x5D then malformed else .ok (some (b :: rest))
    else malformed

/-- The text behind an array that has to end.  After a comma it is wrong in any case. -/
def endOfArray (s : Bytes) : Except Fault Bytes :=
  match Json.skipSpace s with
  | [] => truncated
  | b :: rest => if b = 0x5D then .ok rest else malformed

/-- A record from the elements of an array whose bracket has been read. -/
def ofElements (s : Bytes) : Except Fault (Record × Bytes) := do
  let some s ← nextElement? true s | .error (.misfit (.tooFew 0))
  let (seq, s) ← readNatural .seq s
  let some s ← nextElement? false s | .error (.misfit (.tooFew 1))
  let (size, s) ← readNatural .size s
  let some s ← nextElement? false s | .error (.misfit (.tooFew 2))
  let (data, s) ← readText .data s
  let s ← endOfArray s
  .ok (⟨seq, size, data⟩, s)

/-- The fields of a record that have been read. -/
structure Draft where
  seq : Option Nat := none
  size : Option Nat := none
  data : Option Text := none
  deriving DecidableEq

namespace Draft

def has (d : Draft) : Field → Bool
  | .seq => d.seq.isSome
  | .size => d.size.isSome
  | .data => d.data.isSome

/-- Reads the value of a field into the draft. -/
def readField (d : Draft) (field : Field) (s : Bytes) : Except Fault (Draft × Bytes) :=
  match field with
  | .seq => (readNatural .seq s).map fun (n, rest) => ({ d with seq := some n }, rest)
  | .size => (readNatural .size s).map fun (n, rest) => ({ d with size := some n }, rest)
  | .data => (readText .data s).map fun (t, rest) => ({ d with data := some t }, rest)

/-- The record, if no field is missing. -/
def record (d : Draft) : Except Fault Record :=
  match d.seq, d.size, d.data with
  | some seq, some size, some data => .ok ⟨seq, size, data⟩
  | none, _, _ => .error (.misfit (.missing .seq))
  | _, none, _ => .error (.misfit (.missing .size))
  | _, _, none => .error (.misfit (.missing .data))

end Draft

/-- The text behind the colon. -/
def colon (s : Bytes) : Except Fault Bytes :=
  match Json.skipSpace s with
  | [] => truncated
  | b :: rest => if b = 0x3A then .ok rest else malformed

/-- What comes next in an object, with the text behind the opening quote of a key or
behind the closing bracket. -/
inductive Next where
  | key (s : Bytes)
  | close (s : Bytes)

/-- Moves to the next member of an object or to its end.  Only the first member has no
comma before it. -/
def next (first : Bool) (s : Bytes) : Except Fault Next :=
  match Json.skipSpace s with
  | [] => truncated
  | b :: rest =>
    if b = 0x7D then .ok (.close rest)
    else if first then if b = 0x22 then .ok (.key rest) else malformed
    else if b = 0x2C then
      match Json.skipSpace rest with
      | [] => truncated
      | b :: rest => if b = 0x22 then .ok (.key rest) else malformed
    else malformed

/-- Reads a member, from behind the opening quote of its key. -/
def readMember (d : Draft) (s : Bytes) : Except Fault (Draft × Bytes) := do
  let (key, s) ← ofFlaw (Json.string s)
  match Field.ofName? key with
  | some field =>
    if d.has field then .error (.misfit (.duplicate field))
    else do
      let s ← colon s
      d.readField field s
  | none => do
    let s ← colon s
    let s ← ofFlaw (Json.skipValue [] s)
    .ok (d, s)

theorem length_string {s rest : Bytes} {t : Text} (h : Json.string s = .ok (t, rest)) :
    rest.length < s.length := by
  obtain ⟨⟨bytes, r⟩, hs, h⟩ := bind_eq_ok_iff.1 h
  have := Json.length_stringBytes hs
  dsimp only at h
  split at h
  · cases h
    exact this
  · cases h

theorem length_readNumeric_le {b : UInt8} {s rest : Bytes} {n : Json.Numeric}
    (h : readNumeric b s = .ok (n, rest)) : rest.length ≤ s.length := by
  obtain ⟨⟨number, r⟩, hn, h⟩ := bind_eq_ok_iff.1 h
  obtain ⟨value, _, h⟩ := bind_eq_ok_iff.1 h
  cases h
  have hn := ofFlaw_eq_ok_iff.1 hn
  split at hn
  · exact Nat.le_of_lt (Json.length_number hn)
  · exact Nat.le_of_lt_succ (Json.length_number hn)

theorem mistyped_ne_ok {α : Type} {wanted : Wanted} {b : UInt8} {s : Bytes} {a : α} :
    mistyped wanted b s ≠ .ok a := by
  intro h
  obtain ⟨_, _, h⟩ := bind_eq_ok_iff.1 h
  cases h

theorem length_readNatural {field : Field} {s rest : Bytes} {n : Nat}
    (h : readNatural field s = .ok (n, rest)) : rest.length < s.length := by
  unfold readNatural at h
  split at h
  · cases h
  · rename_i b t ht
    have := Json.length_lt_of_skipSpace ht
    split at h
    · obtain ⟨⟨value, r⟩, hv, h⟩ := bind_eq_ok_iff.1 h
      obtain ⟨m, _, h⟩ := bind_eq_ok_iff.1 h
      cases h
      have := length_readNumeric_le hv
      omega
    · exact absurd h mistyped_ne_ok

theorem length_readText {field : Field} {s rest : Bytes} {t : Text}
    (h : readText field s = .ok (t, rest)) : rest.length < s.length := by
  unfold readText at h
  split at h
  · cases h
  · rename_i b u hu
    have := Json.length_lt_of_skipSpace hu
    split at h
    · have := length_string (ofFlaw_eq_ok_iff.1 h)
      omega
    · exact absurd h mistyped_ne_ok

theorem Draft.length_readField {d d' : Draft} {field : Field} {s rest : Bytes}
    (h : d.readField field s = .ok (d', rest)) : rest.length < s.length := by
  cases field with
  | seq | size =>
    obtain ⟨p, hr, h⟩ := map_eq_ok_iff.1 h
    cases h
    exact length_readNatural hr
  | data =>
    obtain ⟨p, hr, h⟩ := map_eq_ok_iff.1 h
    cases h
    exact length_readText hr

theorem length_colon {s rest : Bytes} (h : colon s = .ok rest) : rest.length < s.length := by
  unfold colon at h
  split at h
  · cases h
  · rename_i b t ht
    have := Json.length_lt_of_skipSpace ht
    split at h <;> cases h
    exact this

theorem length_next_key {first : Bool} {s rest : Bytes} (h : next first s = .ok (.key rest)) :
    rest.length < s.length := by
  unfold next at h
  split at h
  · cases h
  · rename_i b t ht
    have := Json.length_lt_of_skipSpace ht
    split at h
    · cases h
    · split at h
      · split at h <;> cases h
        exact this
      · split at h
        · split at h
          · cases h
          · rename_i c u hu
            have := Json.length_lt_of_skipSpace hu
            split at h <;> cases h
            omega
        · cases h

theorem length_readMember {d d' : Draft} {s rest : Bytes}
    (h : readMember d s = .ok (d', rest)) : rest.length < s.length := by
  obtain ⟨⟨key, r⟩, hk, h⟩ := bind_eq_ok_iff.1 h
  have hr := length_string (ofFlaw_eq_ok_iff.1 hk)
  dsimp only at h
  split at h
  · split at h
    · cases h
    · obtain ⟨u, hu, h⟩ := bind_eq_ok_iff.1 h
      have := length_colon hu
      have := Draft.length_readField h
      omega
  · obtain ⟨u, hu, h⟩ := bind_eq_ok_iff.1 h
    have := length_colon hu
    obtain ⟨v, hv, h⟩ := bind_eq_ok_iff.1 h
    have := Json.length_skipValue (ofFlaw_eq_ok_iff.1 hv)
    cases h
    omega

/-- A record from the members of an object. -/
def ofMembers (d : Draft) (first : Bool) (s : Bytes) : Except Fault (Record × Bytes) :=
  match _next : next first s with
  | .error fault => .error fault
  | .ok (.close rest) => d.record.map fun r => (r, rest)
  | .ok (.key s) =>
    match _member : readMember d s with
    | .error fault => .error fault
    | .ok (d, s) => ofMembers d false s
  termination_by s.length
  decreasing_by
    have := length_next_key _next
    have := length_readMember _member
    omega

/-- A record from a JSON text, with the text behind it. -/
def readValue (s : Bytes) : Except Fault (Record × Bytes) :=
  match Json.skipSpace s with
  | [] => truncated
  | b :: s =>
    if b = 0x5B then ofElements s
    else if b = 0x7B then ofMembers {} true s
    else mistyped .record b s

/-- The record that a JSON text describes.  Nothing but space may follow it. -/
def ofJson (s : Bytes) : Except Fault Record := do
  let (r, rest) ← readValue s
  if (Json.skipSpace rest).isEmpty then .ok r else malformed

end FrameTap.Record
