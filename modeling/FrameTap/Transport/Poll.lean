import FrameTap.Duration
import FrameTap.Socket

/-!
# Polls

A wait for a frame polls the transport for as long as the wait may last, and receives the
frame if there is one.  A signal that interrupts the poll ends the wait without a frame and
is no failure, so a request that came with the signal is seen at once.
-/

namespace FrameTap.Transport

/-- What a poll comes to, and what comes of receiving where there is something to receive. -/
inductive Poll where
  | failed (code : Code)
  | idle
  | readable (received : Except Code Bytes)

namespace Poll

/-- What the wait ends with. -/
def reception : Poll → Reception
  | failed .eintr | idle => .nothing
  | failed code | readable (.error code) => .failed (.transport code)
  | readable (.ok bytes) => .frame bytes

/-- The waits of these polls and of a last one, during which the end is requested. -/
def waits (polls : List Poll) (last : Poll) : List Wait :=
  polls.map (fun poll => ⟨poll.reception, false⟩) ++ [⟨last.reception, true⟩]

end Poll

/-- Waits for a frame no longer than `timeout`.  The transport is polled once, `poll` being what
that comes to when it may last so many milliseconds. -/
def receive (poll : Int64 → Poll) (timeout : Duration) : Reception :=
  (poll timeout.pollMillis).reception

end FrameTap.Transport
