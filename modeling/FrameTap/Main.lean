import FrameTap.Program

/-!
# The command line

The program as it runs in a shell.  Frames arrive on the standard input, one in each
line, in place of a network, and the end of the input requests the end of the run.
-/

namespace FrameTap.Main

open Program

def bytesOf (s : String) : Bytes := s.toUTF8.toList

/-- The value of a variable of the environment. -/
def value? (name : Text) : IO (Option Bytes) :=
  return (← IO.getEnv (String.ofList name)).map bytesOf

def environment : IO Environment := do
  return {
    endpoints? := ← value? endpointsVariable
    log? := ← value? logVariable
    styles? := ← value? stylesVariable
    noStyles? := ← value? noStylesVariable }

def complain (lines : List Text) : IO Unit := do
  let err ← IO.getStderr
  for line in lines do
    err.putStrLn (String.ofList line)

def put (bytes : Bytes) : IO Unit := do
  let out ← IO.getStdout
  out.write (ByteArray.mk bytes.toArray)
  out.flush

/-- Shows what an execution left and gives its exit status. -/
def finish (o : Outcome) : IO UInt32 := do
  put o.output.content
  complain o.errors
  return UInt32.ofNat (o.exit?.getD 0)

/-- Empties the sink, the log and the events after they have been shown. -/
def emptied (l : Listening) : Listening :=
  { l with
    listener := { l.listener with printer := { l.listener.printer with sink := {} } }
    logged := []
    events := [] }

/-- Prints the frames of whole lines. -/
def printAll (l : Listening) (frames : List Bytes) : IO (Except UInt32 Listening) := do
  let waits : List Wait := frames.map fun frame => ⟨.frame frame, false⟩
  let o := l.run false waits
  put o.output.content
  complain o.errors
  match o.exit? with
  | some status => return .error (UInt32.ofNat status)
  | none => return .ok (emptied { l with listener := (l.listener.run false waits).listener })

/-- Prints a frame for each line of the input, `begun` being the line that has begun. -/
partial def serve (l : Listening) (begun : Bytes) : IO UInt32 := do
  let chunk ← (← IO.getStdin).read 4096
  if chunk.isEmpty then
    match ← printAll l (if begun.isEmpty then [] else [begun]) with
    | .error status => return status
    | .ok l => finish (l.run false [⟨.nothing, true⟩])
  else
    let lines := Text.cut 0x0A (begun ++ chunk.toList)
    match ← printAll l lines.dropLast with
    | .error status => return status
    | .ok l => serve l (lines.getLast?.getD [])

end FrameTap.Main

open FrameTap FrameTap.Main in
def main (args : List String) : IO UInt32 := do
  match Program.start (args.map bytesOf) (← environment) {} {} with
  | .ended o => finish o
  | .listening l =>
    put l.listener.printer.sink.content
    complain l.logged
    serve (emptied l) []
