import FrameTap.Event

/-!
# The log

Which events are logged, by which part of the program and at which level.
-/

namespace FrameTap.Log

/-- How much a line matters, from the most to the least. -/
inductive Level where
  | error
  | warn
  | info
  | debug
  | trace
  deriving DecidableEq

namespace Level

def all : List Level := [error, warn, info, debug, trace]

def name : Level → Text
  | error => "ERROR".toList
  | warn => "WARN".toList
  | info => "INFO".toList
  | debug => "DEBUG".toList
  | trace => "TRACE".toList

/-- The place in the order of levels, from the most to the least that matters. -/
def rank : Level → Nat
  | error => 0
  | warn => 1
  | info => 2
  | debug => 3
  | trace => 4

end Level

/-- The parts of the program that log. -/
inductive Source where
  | program
  | socket
  | listener
  deriving DecidableEq

def Source.name : Source → Text
  | .program => "zmq_printer".toList
  | .socket => "zmq_printer::socket".toList
  | .listener => "zmq_printer::listener".toList

structure Line where
  level : Level
  source : Source
  text : Text
  deriving DecidableEq

/-- The line without its source. -/
def Line.brief (l : Line) : Text := l.level.name ++ ' ' :: l.text

/-- The line as it stands in the log, without its time: the level is filled up to five
places. -/
def Line.full (l : Line) : Text :=
  '[' :: l.level.name ++ List.replicate (5 - l.level.name.length) ' ' ++
    ' ' :: l.source.name ++ "] ".toList ++ l.text

/-- The line that an event is logged with, if it is logged. -/
def ofEvent? : Event → Option Line
  | .opened => some ⟨.debug, .socket, "Opened SUB socket".toList⟩
  | .subscribed => some ⟨.debug, .socket, "Subscribed to all topics".toList⟩
  | .connecting e => some ⟨.debug, .socket, "Connecting to ".toList ++ e.display⟩
  | .received size =>
    some ⟨.debug, .listener,
      "Received frame of ".toList ++ Numeral.write size ++ " bytes".toList⟩
  | .cancelled => some ⟨.info, .program, "Shutdown requested".toList⟩
  | .subscribing | .receiving _ | .wrote _ | .flushed _ => none

def ofEvents (events : List Event) : List Line := events.filterMap ofEvent?

/-- The line that reports a finished run. -/
def finished (printed : Nat) : Line :=
  ⟨.info, .program, "Printed ".toList ++ Numeral.write printed ++ " frames".toList⟩

end FrameTap.Log
