import FrameTap.CommandLine.Misuse
import FrameTap.Settings

/-!
# Drafts of the settings

A draft holds what the command line has said so far.  An option is entered together
with all values of one occurrence: an option of several values adds them to earlier
ones, any other may occur once.
-/

namespace FrameTap.CommandLine

structure Draft where
  endpoint : Option (List Endpoint) := none
  host : Option Text := none
  port : Option (List UInt16) := none
  format : Option Format := none
  pollMillis : Option Nat := none
  debug : Bool := false
  deriving DecidableEq

/-- Values are texts, except where a message shows them all the same. -/
def textOf (value : Bytes) : Except Misuse Text :=
  match Utf8.decode? value with
  | some t => .ok t
  | none => .error .notUtf8

def readEndpoint (value : Bytes) : Except Misuse Endpoint := do
  let t ← textOf value
  (Endpoint.parse t).mapError fun fault => .invalidValue .endpoint t (.endpoint fault)

/-- Ports are read as signed words of 64 bits and then checked for their range. -/
def readPort (value : Bytes) : Except Misuse UInt16 := do
  let t ← textOf value
  match Numeral.readInt (Nat.pow 2 63 - 1) t with
  | .error fault => .error (.invalidValue .port t (.number fault))
  | .ok n =>
    if 0 ≤ n ∧ n ≤ Endpoint.maxPort then .ok (UInt16.ofNat n.toNat)
    else .error (.invalidValue .port t (.portOutOfRange n))

/-- The name of a format.  An empty value counts as none. -/
def readFormat (value : Bytes) : Except Misuse Format :=
  match (Utf8.decode? value).bind Format.ofName? with
  | some format => .ok format
  | none =>
    if value.isEmpty then .error (.valueRequired .format)
    else .error (.unknownFormat (Utf8.decodeLossy value))

def readPollMillis (value : Bytes) : Except Misuse Nat := do
  let t ← textOf value
  match Numeral.readNat (UInt64.size - 1) t with
  | .error fault => .error (.invalidValue .pollInterval t (.number fault))
  | .ok 0 => .error (.invalidValue .pollInterval t .pollIntervalZero)
  | .ok n => .ok n

namespace Draft

/-- The values between the spaces of the arguments. -/
def spread (values : List Bytes) : List Bytes := values.flatMap (Text.cut 0x20)

/-- Enters one occurrence of an option.  That it has a value and is not repeated is
tested before the value is looked at. -/
def enter (d : Draft) (o : Opt) : (values : List Bytes) → Except Misuse Draft
  | [] => .error (.valueRequired o)
  | value :: values =>
    match o with
    | .endpoint => do
      let es ← (spread (value :: values)).mapM readEndpoint
      .ok { d with endpoint := some (d.endpoint.getD [] ++ es) }
    | .port => do
      let ports ← (spread (value :: values)).mapM readPort
      .ok { d with port := some (d.port.getD [] ++ ports) }
    | .host => do
      if d.host.isSome then .error (.repeated (.opt o))
      let host ← textOf value
      .ok { d with host := some host }
    | .format => do
      if d.format.isSome then .error (.repeated (.opt o))
      let format ← readFormat value
      .ok { d with format := some format }
    | .pollInterval => do
      if d.pollMillis.isSome then .error (.repeated (.opt o))
      let pollMillis ← readPollMillis value
      .ok { d with pollMillis := some pollMillis }

def enterDebug (d : Draft) : Except Misuse Draft :=
  if d.debug then .error (.repeated (.switch .debug)) else .ok { d with debug := true }

/-- Takes the endpoints from the environment if the command line named none. -/
def enterVariable (d : Draft) (env? : Option Bytes) : Except Misuse Draft :=
  match d.endpoint, env? with
  | none, some value => d.enter .endpoint [value]
  | _, _ => .ok d

/-- The settings, with defaults for what was left open. -/
def settings (d : Draft) : Settings where
  endpoint := d.endpoint.getD []
  host := d.host.getD defaultHost
  port := d.port.getD defaultPorts
  format := d.format.getD .raw
  pollMillis := d.pollMillis.getD defaultPollMillis
  debug := d.debug

end Draft
end FrameTap.CommandLine
