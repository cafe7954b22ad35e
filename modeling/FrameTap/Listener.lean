import FrameTap.Event
import FrameTap.Socket

/-!
# Listening

A listener first subscribes to everything and connects to its endpoints one after the
other, announcing each.  Then it waits for frames and prints each as it arrives, until
the end of the run is requested.  The first failure ends either part.

The request is looked at only between two waits.  So a frame that was received is
printed even if the request came while it was received, and no wait begins after the
request.
-/

namespace FrameTap

/-- A printer fed by a subscriber socket that waits at most `pollInterval` at a time. -/
structure Listener where
  printer : Printer := {}
  pollInterval : Duration

namespace Listener

/-- What a part of the work leaves: the listener, the error that ended it if one did, and
the events. -/
structure Outcome where
  listener : Listener
  result : Except Error Unit
  events : List Event

/-- Connects to the endpoints in order and announces each, the attempts counted from
`n`. -/
def connectAll (socket : Socket) : (n : Nat) → Listener → List Endpoint → Outcome
  | _, l, [] => ⟨l, .ok (), []⟩
  | n, l, e :: es =>
    match socket.connect n e with
    | .error error => ⟨l, .error error, [.connecting e]⟩
    | .ok () =>
      let step := l.printer.announce e
      let next := { l with printer := step.printer }
      let events := .connecting e :: Event.ofStep l.printer step
      match step.result with
      | .error error => ⟨next, .error error, events⟩
      | .ok () =>
        let rest := connectAll socket (n + 1) next es
        { rest with events := events ++ rest.events }

/-- Subscribes and connects to all endpoints.  Without an endpoint nothing is done. -/
def setup (l : Listener) (socket : Socket) (es : List Endpoint) : Outcome :=
  if es.isEmpty then ⟨l, .error .noEndpoints, []⟩
  else
    match socket.subscribe with
    | .error error => ⟨l, .error error, [.subscribing]⟩
    | .ok () =>
      let rest := connectAll socket 0 l es
      { rest with events := .subscribing :: .subscribed :: rest.events }

/-- How far a run has come: it ended on request with the number of frames printed, it
failed, or it is still in a wait. -/
inductive Status where
  | stopped (printed : Nat)
  | failed (e : Error)
  | waiting
  deriving DecidableEq

/-- What a run leaves: the listener, its status, the waits that it did not come to, and
the events. -/
structure Run where
  listener : Listener
  status : Status
  left : List Wait
  events : List Event

/-- Waits once, and prints the frame if the wait brings one. -/
def await (l : Listener) (w : Wait) : Outcome :=
  let begun := .receiving l.pollInterval :: if w.cancels then [.cancelled] else []
  match w.reception with
  | .failed e => ⟨l, .error e, begun⟩
  | .nothing => ⟨l, .ok (), begun⟩
  | .frame frame =>
    let step := l.printer.printFrame frame
    ⟨{ l with printer := step.printer }, step.result,
      begun ++ .received frame.length :: Event.ofStep l.printer step⟩

/-- Waits and prints until the end is requested, which it was at the start if
`cancelled`.  Where the waits end, the run is in its next wait. -/
def run (l : Listener) : (cancelled : Bool) → (waits : List Wait) → Run
  | true, waits => ⟨l, .stopped l.printer.printed, waits, []⟩
  | false, [] => ⟨l, .waiting, [], [.receiving l.pollInterval]⟩
  | false, w :: waits =>
    let once := l.await w
    match once.result with
    | .error e => ⟨once.listener, .failed e, waits, once.events⟩
    | .ok () =>
      let later := once.listener.run w.cancels waits
      { later with events := once.events ++ later.events }

end Listener
end FrameTap
