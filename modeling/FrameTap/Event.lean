import FrameTap.Duration
import FrameTap.Printer

/-!
# Events

Everything that can be seen of a listener from outside, in the order in which it
happens: calls to its socket, what comes of them, and what its sink takes.  The calls
and the log are readings of the events.
-/

namespace FrameTap

inductive Event where
  /-- A subscriber socket was opened. -/
  | opened
  /-- The socket is asked for every message. -/
  | subscribing
  | subscribed
  /-- The socket is asked to connect. -/
  | connecting (e : Endpoint)
  /-- The socket is asked to wait so long for a frame. -/
  | receiving (timeout : Duration)
  /-- A frame of so many bytes arrived. -/
  | received (size : Nat)
  /-- The sink took these bytes. -/
  | wrote (bytes : Bytes)
  /-- The sink was flushed, with or without success. -/
  | flushed (ok : Bool)
  /-- The end of the run was requested. -/
  | cancelled
  deriving DecidableEq

namespace Event

/-- What a step of the printer `before` did to its sink. -/
def ofStep (before : Printer) (step : Printer.Step) : List Event :=
  let sink := step.printer.sink
  let bytes := Sink.gained before.sink sink
  (if bytes.isEmpty then [] else [wrote bytes]) ++
    (if sink.flushes = before.sink.flushes then [] else [flushed step.result.isOk])

/-- The socket call that an event is, if it is one. -/
def call? : Event → Option Text
  | subscribing => some "subscribe_all".toList
  | connecting e => some ("connect ".toList ++ e.display)
  | receiving timeout => some ("recv ".toList ++ Numeral.write timeout.toMillis)
  | _ => none

/-- The bytes that an event adds to the sink. -/
def bytes : Event → Bytes
  | wrote bytes => bytes
  | _ => []

/-- All that the events wrote. -/
def output (events : List Event) : Bytes := events.flatMap bytes

end Event
end FrameTap
