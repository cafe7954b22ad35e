import FrameTap.Decimal.Numeral
import FrameTap.Frame.Base64

/-!
# Frame records

A record describes one printed frame: its place in the output, its size in bytes and
its content in Base64.  As JSON it is an object without white space, its members in
the order of the fields.
-/

namespace FrameTap

/-- The description of one printed frame.  Both numbers stand for words of 64 bits: one that
is read is refused beyond `Json.maxNatural`, and those that are written are the count of a
printer and the length of a frame in memory. -/
structure Record where
  seq : Nat
  size : Nat
  data : Text
  deriving DecidableEq

namespace Record

def ofFrame (seq : Nat) (frame : Bytes) : Record := ⟨seq, frame.length, Base64.encode frame⟩

/-- A character inside a JSON string.  The quote, the backslash and the control
characters need an escape, five of the latter by a letter and the others by their code
point in four hexadecimal digits. -/
def escapeJson (c : Char) : Text :=
  if c = '"' then ['\\', '"']
  else if c = '\\' then ['\\', '\\']
  else if c = '\x08' then ['\\', 'b']
  else if c = '\x0C' then ['\\', 'f']
  else if c = '\n' then ['\\', 'n']
  else if c = '\r' then ['\\', 'r']
  else if c = '\t' then ['\\', 't']
  else if c.toNat < 0x20 then
    ['\\', 'u', '0', '0', Nat.digitChar (c.toNat / 16), Nat.digitChar (c.toNat % 16)]
  else [c]

/-- The JSON text of a record, in the pieces in which it is written. -/
def jsonPieces (r : Record) : List Text :=
  ["\x7b\"seq\":".toList, Numeral.write r.seq, ",\"size\":".toList, Numeral.write r.size,
   ",\"data\":\"".toList, r.data.flatMap escapeJson, "\"\x7d".toList]

def toJson (r : Record) : Text := r.jsonPieces.flatten

example : toJson ⟨0, 5, "aGVsbG8=".toList⟩ =
    "\x7b\"seq\":0,\"size\":5,\"data\":\"aGVsbG8=\"\x7d".toList := by decide

end Record
end FrameTap
