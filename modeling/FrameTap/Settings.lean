import FrameTap.Duration
import FrameTap.Endpoint
import FrameTap.Frame.Format

/-!
# Settings

What the program is told to do: which publishers to listen to, in which form to print,
how long to wait at a time, and whether to log in detail.  Endpoints that are given in
full take the place of the host and its ports.
-/

namespace FrameTap

def defaultHost : Text := "127.0.0.1".toList

/-- The four local ports that are listened to when nothing else is asked for. -/
def defaultPorts : List UInt16 := [1222, 1226, 7600, 1228]

def defaultPollMillis : Nat := 100

/-- The subscription to everything: each message begins with the empty byte string. -/
def subscribeAll : Bytes := []

structure Settings where
  endpoint : List Endpoint := []
  host : Text := defaultHost
  port : List UInt16 := defaultPorts
  format : Format := .raw
  pollMillis : Nat := defaultPollMillis
  debug : Bool := false
  deriving DecidableEq

namespace Settings

/-- The endpoints to listen to: those given in full, otherwise one for each port. -/
def endpoints (s : Settings) : Except Endpoint.ParseError (List Endpoint) :=
  if s.endpoint.isEmpty then s.port.mapM (Endpoint.ofHostPort s.host) else .ok s.endpoint

def pollInterval (s : Settings) : Duration := .ofMillis s.pollMillis

end Settings
end FrameTap
