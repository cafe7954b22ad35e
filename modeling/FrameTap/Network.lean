import FrameTap.Listener
import FrameTap.Transport.Poll

/-!
# A network of publishers

Publishers, each at an address, and the subscriber sockets of one transport context.  A
connection may be made before its publisher can be reached, so connecting only looks at
the address.  Frames come from the publishers that are connected, each publisher's in
the order in which they were sent, and none come over a link that is down.
-/

namespace FrameTap

/-- Whether what is sent arrives. -/
inductive Link where
  | up
  | down
  deriving DecidableEq

/-- What comes of an attempt to connect.  An address is handed over as text that a NUL
character ends, so an address with a NUL inside cannot be handed over at all, and the
attempt breaks the program off. -/
inductive Handover where
  | taken
  | refused (code : Transport.Code)
  | broken
  deriving DecidableEq

/-- The attempt to connect to `e`, `answer` being what the transport says to the address once it
has been handed over. -/
def Handover.of (e : Endpoint) (answer : Except Transport.Code Unit) : Handover :=
  if e.display.contains '\x00' then .broken
  else
    match answer with
    | .ok () => .taken
    | .error code => .refused code

/-- The state of the context and of the links.  A terminated context refuses every
call. -/
structure Network where
  link : Link
  terminated : Bool := false

/-- A message of a publisher: its parts, each of which is a frame. -/
structure Message where
  sender : Endpoint
  parts : List Bytes

namespace Network

def isLetter (c : Char) : Bool := ('A' ≤ c && c ≤ 'Z') || ('a' ≤ c && c ≤ 'z')

def isNumeric (c : Char) : Bool := '0' ≤ c && c ≤ '9'

/-- A character with which the part of an address behind its scheme may begin. -/
def beginsAddress (c : Char) : Bool := isLetter c || isNumeric c || "[:".toList.contains c

def continuesAddress (c : Char) : Bool :=
  isLetter c || isNumeric c || ".-:%;[]_*".toList.contains c

/-- The addresses that the transport accepts. -/
def accepts (e : Endpoint) : Bool :=
  match Text.after? Endpoint.scheme e.display with
  | some (c :: rest) => beginsAddress c && rest.all continuesAddress
  | _ => false

/-- What the transport says to an address. -/
def answer (n : Network) (e : Endpoint) : Except Transport.Code Unit :=
  if n.terminated then .error .eterm
  else if accepts e then .ok ()
  else .error .einval

def connect (n : Network) (e : Endpoint) : Handover := .of e (n.answer e)

/-- Opening a socket, and any call that the context alone decides about. -/
def call (n : Network) : Except Error Unit :=
  if n.terminated then .error (.transport .eterm) else .ok ()

/-- The answers of a subscriber socket.  An attempt that breaks off has no answer; what
stands for one here is never seen. -/
def subscriber (n : Network) : Socket where
  subscribe := n.call
  connect _ e :=
    match n.connect e with
    | .taken => .ok ()
    | .refused code => .error (.transport code)
    | .broken => .error (.transport .einval)

/-- The program broke off at one of the attempts to connect. -/
def breaksOff (n : Network) (events : List Event) : Bool :=
  events.any fun event =>
    match event with
    | .connecting e => n.connect e = .broken
    | _ => false

/-- The waits of these polls and of a last one, during which the end is requested. -/
def waits (n : Network) (polls : List Transport.Poll) (last : Transport.Poll) : List Wait :=
  if n.terminated then [⟨(Transport.Poll.failed .eterm).reception, false⟩]
  else Transport.Poll.waits polls last

/-- The waits while messages are sent and the end is requested behind the last. -/
def deliver (n : Network) (connected : List Endpoint) (messages : List Message) : List Wait :=
  let arriving :=
    match n.link with
    | .up => messages.filter fun m : Message => connected.contains m.sender
    | .down => []
  n.waits ((arriving.flatMap Message.parts).map fun part => .readable (.ok part)) .idle

/-- The wait that a signal ends, the end being requested with it. -/
def interrupt (n : Network) : List Wait := n.waits [] (.failed .eintr)

/-- What a connected publisher receives of a subscription: one byte that says so, and the
bytes with which every message has to begin. -/
def subscription? (n : Network) (topic : Bytes) : Option Bytes :=
  match n.link with
  | .up => some (0x01 :: topic)
  | .down => none

end Network

/-- A listener at work in a network. -/
structure Session where
  network : Network
  listener : Listener
  /-- The endpoints that were announced. -/
  announced : List Endpoint := []

namespace Session

/-- The endpoints that the events announce.  Setting up stops at the first failure, so only
the last attempt can be without its announcement. -/
def announcedBy (o : Listener.Outcome) : List Endpoint :=
  let attempted := o.events.filterMap fun event =>
    match event with
    | .connecting e => some e
    | _ => none
  if o.result.isOk then attempted else attempted.dropLast

def setup (s : Session) (es : List Endpoint) : Session × Listener.Outcome :=
  let o := s.listener.setup s.network.subscriber es
  ({ s with listener := o.listener, announced := s.announced ++ announcedBy o }, o)

/-- Runs while messages are sent, until the end is requested behind the last. -/
def send (s : Session) (messages : List Message) : Session × Listener.Run :=
  let r := s.listener.run false (s.network.deliver s.announced messages)
  ({ s with listener := r.listener }, r)

/-- Runs until a signal comes. -/
def interrupt (s : Session) : Session × Listener.Run :=
  let r := s.listener.run false s.network.interrupt
  ({ s with listener := r.listener }, r)

/-- Ends the context under a run. -/
def terminate (s : Session) : Session × Listener.Run :=
  { s with network := { s.network with terminated := true } }.send []

end Session
end FrameTap
