import FrameTap.Frame.Format
import FrameTap.Sink

/-!
# Printing

A printer writes announcements and frames to a sink, each as one rendering that ends
with a line break, and flushes the sink after each rendering that was taken in full.
Only a frame that was written and flushed counts as printed.
-/

namespace FrameTap

/-- A printer over a sink.  `printed` counts the frames printed so far and numbers the
records of the JSON form.  It stands for a word of 64 bits, which holds it as long as
fewer than `UInt64.size` frames have been printed. -/
structure Printer where
  sink : Sink := {}
  format : Format := .raw
  printed : Nat := 0

namespace Printer

/-- What one operation leaves: the printer, and the error that ended it if one did. -/
structure Step where
  printer : Printer
  result : Except Error Unit

def lineBreak : Bytes := [0x0A]

/-- Writes `body` and a line break and flushes.  A fault inside the body is reported
through `bodyError`, one behind it as an error of the output. -/
def emit (p : Printer) (bodyError : WriteFault → Error) (body : List Bytes) : Step :=
  match p.sink.writePieces body with
  | ⟨sink, some fault⟩ => ⟨{ p with sink }, .error (bodyError fault)⟩
  | ⟨sink, none⟩ =>
    match sink.writeAll lineBreak with
    | ⟨sink, some fault⟩ => ⟨{ p with sink }, .error (.output fault)⟩
    | ⟨sink, none⟩ =>
      match sink.flush with
      | ⟨sink, some fault⟩ => ⟨{ p with sink }, .error (.output fault)⟩
      | ⟨sink, none⟩ => ⟨{ p with sink }, .ok ()⟩

/-- The announcement of an endpoint without its line break. -/
def announcement (e : Endpoint) : List Text :=
  ["Listening on ".toList, e.display, "...".toList]

/-- Announces that frames of `e` are going to be printed. -/
def announce (p : Printer) (e : Endpoint) : Step :=
  p.emit .output ((announcement e).map Utf8.encode)

/-- How a fault inside the text of a frame is reported. -/
def bodyError : Format → WriteFault → Error
  | .json => .json
  | .raw | .text | .bytes => .output

/-- Prints a frame in the printer's form. -/
def printFrame (p : Printer) (frame : Bytes) : Step :=
  match p.emit (bodyError p.format) (p.format.pieces p.printed frame) with
  | ⟨printer, .ok ()⟩ => ⟨{ printer with printed := p.printed + 1 }, .ok ()⟩
  | failed => failed

end Printer
end FrameTap
