import FrameTap.Frame.ByteLiteral
import FrameTap.Frame.Record
import FrameTap.Text.Utf8

/-!
# Output formats

The four forms in which frames are printed, their names and descriptions, and the
bytes that stand for a frame in each form before the line break that ends it.
-/

namespace FrameTap

inductive Format where
  | raw
  | text
  | bytes
  | json
  deriving DecidableEq

namespace Format

def all : List Format := [raw, text, bytes, json]

def name : Format → Text
  | raw => "raw".toList
  | text => "text".toList
  | bytes => "bytes".toList
  | json => "json".toList

def help : Format → Text
  | raw => "Frame bytes unchanged, one frame per line".toList
  | text => "Frame decoded as UTF-8, invalid sequences replaced".toList
  | bytes => "Escaped byte-string literal, e.g. b'hello'".toList
  | json => "One JSON object per frame with base64 data".toList

def ofName? (t : Text) : Option Format := all.find? fun format => format.name == t

/-- As `ofName?`, with capital ASCII letters for small ones. -/
def ofNameIgnoreCase? (t : Text) : Option Format := ofName? (t.map Char.toLower)

theorem ofName?_name (format : Format) : ofName? format.name = some format := by
  cases format <;> rfl

/-- The frame in this form, in the pieces in which it is written.  `seq` is the number
of frames printed before it. -/
def pieces (seq : Nat) (frame : Bytes) : Format → List Bytes
  | raw => [frame]
  | text => [Utf8.encode (Utf8.decodeLossy frame)]
  | bytes => [Utf8.encode (ByteLiteral.encode frame)]
  | json => (Record.ofFrame seq frame).jsonPieces.map Utf8.encode

end Format
end FrameTap
