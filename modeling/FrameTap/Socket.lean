import FrameTap.Error

/-!
# Subscriber sockets

A socket is known by its answers: what comes of subscribing, of each attempt to
connect, and of each wait for a frame.  A wait may also be the one during which the end
of the run is requested, so the waits of a run fix its whole course.
-/

namespace FrameTap

/-- What a wait for a frame ends with. -/
inductive Reception where
  | frame (bytes : Bytes)
  | nothing
  | failed (e : Error)
  deriving DecidableEq

/-- A wait for a frame; `cancels` if the end of the run is requested meanwhile, or after it
and before the next wait would begin. -/
structure Wait where
  reception : Reception
  cancels : Bool := false
  deriving DecidableEq

/-- The answers of a socket while it is set up.  Attempts to connect are counted from
zero, so that the same endpoint may be answered differently. -/
structure Socket where
  subscribe : Except Error Unit := .ok ()
  connect : Nat → Endpoint → Except Error Unit := fun _ _ => .ok ()

/-- The frames that a list of waits brings. -/
def Wait.frames (waits : List Wait) : List Bytes :=
  waits.filterMap fun w =>
    match w.reception with
    | .frame bytes => some bytes
    | _ => none

end FrameTap
