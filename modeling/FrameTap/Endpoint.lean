import FrameTap.Decimal.Numeral
import FrameTap.Text.Blank
import FrameTap.Text.Quoted

/-!
# Publisher endpoints

An endpoint is a TCP address `tcp://<host>:<port>`.  The host ends at the last colon,
so a bracketed IPv6 address may hold colons of its own.  The conditions on a text are
tested in the order of `Reason`, and the first that fails is reported.
-/

namespace FrameTap

/-- The address of a publisher. -/
structure Endpoint where
  host : Text
  port : UInt16
  deriving DecidableEq

namespace Endpoint

instance : Hashable Endpoint where
  hash e := mixHash (hash (String.ofList e.host)) (hash e.port)

/-- The conditions on the text of an endpoint, in the order of their tests. -/
inductive Reason where
  | scheme
  | missingPort
  | missingHost
  | unbalancedBrackets
  | bareIpv6
  | blankInHost
  | zeroPort
  | portNumber
  deriving DecidableEq

def Reason.message : Reason → Text
  | .scheme => "expected tcp:// scheme".toList
  | .missingPort => "missing port".toList
  | .missingHost => "missing host".toList
  | .unbalancedBrackets => "unbalanced brackets in host".toList
  | .bareIpv6 => "ipv6 hosts must be bracketed".toList
  | .blankInHost => "whitespace in host".toList
  | .zeroPort => "port must be non-zero".toList
  | .portNumber => "port is not a number in 1..=65535".toList

/-- A text that names no endpoint, and the first condition it violates. -/
structure ParseError where
  text : Text
  reason : Reason
  deriving DecidableEq

def ParseError.message (e : ParseError) : Text :=
  "invalid endpoint ".toList ++ Text.quote e.text ++ ": ".toList ++ e.reason.message

def scheme : Text := "tcp://".toList

def opensBracket (host : Text) : Bool := host.head? == some '['

def closesBracket (host : Text) : Bool := host.getLast? == some ']'

/-- The condition that a host violates, if it violates one. -/
def hostFault? (host : Text) : Option Reason :=
  if host.isEmpty then some .missingHost
  else if opensBracket host != closesBracket host then some .unbalancedBrackets
  else if !opensBracket host && host.contains ':' then some .bareIpv6
  else if host.any Text.isBlank then some .blankInHost
  else none

def maxPort : Nat := 65535

def readPort (t : Text) : Except Reason UInt16 :=
  match Numeral.readNat maxPort t with
  | .ok 0 => .error .zeroPort
  | .ok n => .ok (UInt16.ofNat n)
  | .error _ => .error .portNumber

/-- The endpoint that a text names, or the reason why it names none. -/
def read (s : Text) : Except Reason Endpoint :=
  match Text.after? scheme s with
  | none => .error .scheme
  | some address =>
    match Text.splitLast? ':' address with
    | none => .error .missingPort
    | some (host, port) =>
      match hostFault? host with
      | some reason => .error reason
      | none => (readPort port).map fun port => ⟨host, port⟩

/-- As `read`; an error keeps the text. -/
def parse (s : Text) : Except ParseError Endpoint :=
  (read s).mapError fun reason => ⟨s, reason⟩

/-- The text of an address, whether or not it names an endpoint. -/
def address (host : Text) (port : UInt16) : Text :=
  scheme ++ host ++ ':' :: Numeral.write port.toNat

def display (e : Endpoint) : Text := address e.host e.port

/-- The endpoint of a host and a port, under the conditions on their text. -/
def ofHostPort (host : Text) (port : UInt16) : Except ParseError Endpoint :=
  parse (address host port)

example : parse "tcp://[::1]:+01".toList = .ok ⟨"[::1]".toList, 1⟩ := rfl

example : read "tcp://a:b:1".toList = .error .bareIpv6 := rfl

end Endpoint
end FrameTap
