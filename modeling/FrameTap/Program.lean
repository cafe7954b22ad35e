import FrameTap.CommandLine.Arguments
import FrameTap.CommandLine.Help
import FrameTap.Listener
import FrameTap.Log.Filter

/-!
# The program

From a command line to an exit status.  A wrong command line, a request for help and a
wrong endpoint are answered before a socket is opened.  Otherwise a listener is set up
and runs until the end is requested.  Frames and announcements go to the standard
output, log lines and error reports to the standard error.
-/

namespace FrameTap.Program

/-- All that the program meets in a transport: what comes of opening a socket, the answers
of the socket, whether the end was requested before the first wait, and the waits. -/
structure Transport where
  opening : Except Error Unit := .ok ()
  socket : Socket := {}
  cancelled : Bool := false
  waits : List Wait := []

/-- What an execution leaves.  There is no exit status while the program still waits, and no
event before a socket was opened. -/
structure Outcome where
  exit? : Option Nat
  output : Sink
  errors : List Text
  events : List Event

/-- The filter on the log, and the lines that report what is wrong with its setting.  A
setting that is not UTF-8 is none. -/
def logFilter (debug : Bool) (setting? : Option Bytes) : Log.Filter × List Text :=
  let base : Log.Level := if debug then .debug else .info
  match setting?.bind Utf8.decode? with
  | none => (.ofRules base [] none, [])
  | some setting =>
    let (filter, faults) := Log.Filter.read base setting
    (filter, faults.flatMap Log.Filter.Fault.lines)

/-- The report of an error that ends the program. -/
def report (message : Text) (cause? : Option Text) : List Text :=
  ("Error: ".toList ++ message) ::
    match cause? with
    | none => []
    | some cause => [[], "Caused by:".toList, "    ".toList ++ cause]

/-- The exit status after an error behind the command line. -/
def failure : Nat := 1

/-- The exit status after a wrong command line. -/
def misuse : Nat := 2

/-- A program that listens: its listener, its filter on the log, what it has logged, and what
has happened. -/
structure Listening where
  listener : Listener
  filter : Log.Filter
  logged : List Text
  events : List Event

/-- How far the program comes without a wait. -/
inductive Begun where
  | ended (o : Outcome)
  | listening (l : Listening)

/-- Opens a socket and sets a listener up.  `warnings` is what has been reported before. -/
def connect (settings : Settings) (es : List Endpoint) (filter : Log.Filter)
    (warnings : List Text) (t : Transport) (output : Sink) : Begun :=
  match t.opening with
  | .error e => .ended ⟨some failure, output, warnings ++ report e.message e.cause?, []⟩
  | .ok () =>
    let listener : Listener :=
      { printer := { sink := output, format := settings.format }
        pollInterval := settings.pollInterval }
    let ready := listener.setup t.socket es
    let events := .opened :: ready.events
    let logged := warnings ++ filter.shown (Log.ofEvents events)
    match ready.result with
    | .error e =>
      .ended ⟨some failure, ready.listener.printer.sink,
        logged ++ report e.message e.cause?, events⟩
    | .ok () => .listening ⟨ready.listener, filter, logged, events⟩

/-- Reads the command line and gets ready to listen.  Help goes to the standard output, and
it does not matter whether it arrives there. -/
def start (args : List Bytes) (env : Environment) (t : Transport) (output : Sink) : Begun :=
  match CommandLine.parse args env.endpoints? with
  | .error (.help detailed) =>
    let text := CommandLine.writtenHelp env.showsStyles detailed env.endpoints?
    .ended ⟨some 0, (output.writeAll (Utf8.encode text)).sink, [], []⟩
  | .error (.misuse m) => .ended ⟨some misuse, output, [m.written env.showsStyles], []⟩
  | .ok settings =>
    let (filter, warnings) := logFilter settings.debug env.log?
    match settings.endpoints with
    | .error fault => .ended ⟨some failure, output, warnings ++ report fault.message none, []⟩
    | .ok es => connect settings es filter warnings t output

/-- Listens through the waits. -/
def Listening.run (l : Listening) (cancelled : Bool) (waits : List Wait) : Outcome :=
  let run := l.listener.run cancelled waits
  let requested := if cancelled then [Event.cancelled] else []
  let logged := l.logged ++ l.filter.shown (Log.ofEvents (requested ++ run.events))
  let output := run.listener.printer.sink
  let events := l.events ++ requested ++ run.events
  match run.status with
  | .stopped printed => ⟨some 0, output, logged ++ l.filter.shown [Log.finished printed], events⟩
  | .failed e => ⟨some failure, output, logged ++ report e.message e.cause?, events⟩
  | .waiting => ⟨none, output, logged, events⟩

/-- Executes the program. -/
def execute (args : List Bytes) (env : Environment) (t : Transport) (output : Sink) : Outcome :=
  match start args env t output with
  | .ended o => o
  | .listening l => l.run t.cancelled t.waits

/-- How many lines the output has. -/
def Outcome.lines (o : Outcome) : Nat := o.output.content.count 0x0A

end FrameTap.Program
