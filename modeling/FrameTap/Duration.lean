import FrameTap.Decimal.Numeral

/-!
# Durations

A duration is a number of whole seconds, in a word of 64 bits, and a rest of less than one second
in nanoseconds, in a word of 32.  A number of milliseconds is a word of 64 bits before it becomes
a duration, and a word of 128 bits when it is taken from one again, as the largest durations have
more milliseconds than fit in 64.

The wait of a poll is given in whole milliseconds as a signed word of 64 bits, in which a
negative number would mean a wait without end.  A duration beyond the largest such word waits for
that largest word.
-/

namespace FrameTap

def millisPerSecond : UInt64 := 1000

def nanosPerSecond : UInt32 := 1000000000

def nanosPerMilli : UInt32 := 1000000

structure Duration where
  seconds : UInt64
  /-- The nanoseconds beyond the whole seconds. -/
  rest : UInt32
  rest_lt : rest < nanosPerSecond := by decide
  deriving DecidableEq

namespace Duration

def secs (d : Duration) : Nat := d.seconds.toNat

def nanos (d : Duration) : Nat := d.rest.toNat

/-- The nanoseconds of the milliseconds beyond the whole seconds. -/
def nanosOfMillis (word : UInt64) : UInt32 := (word % millisPerSecond).toUInt32 * nanosPerMilli

theorem toNat_nanosOfMillis (word : UInt64) :
    (nanosOfMillis word).toNat = word.toNat % 1000 * 1000000 := by
  have hlt : word.toNat % 1000 < 1000 := Nat.mod_lt _ (by decide)
  have hrest : (word % millisPerSecond).toUInt32.toNat = word.toNat % 1000 := by
    rw [UInt64.toNat_toUInt32, UInt64.toNat_mod]
    exact Nat.mod_eq_of_lt (Nat.lt_trans hlt (by decide))
  rw [nanosOfMillis, UInt32.toNat_mul, hrest]
  -- 999 milliseconds are less than 2 ^ 32 nanoseconds
  exact Nat.mod_eq_of_lt (by simp only [nanosPerMilli, UInt32.reduceToNat]; omega)

theorem nanosOfMillis_lt (word : UInt64) : nanosOfMillis word < nanosPerSecond := by
  rw [UInt32.lt_iff_toNat_lt, toNat_nanosOfMillis]
  have hlt : word.toNat % 1000 < 1000 := Nat.mod_lt _ (by decide)
  simp only [nanosPerSecond, UInt32.reduceToNat]
  omega

/-- The duration of a number of milliseconds. -/
def ofMillis (ms : Nat) : Duration where
  seconds := UInt64.ofNat ms / millisPerSecond
  rest := nanosOfMillis (UInt64.ofNat ms)
  rest_lt := nanosOfMillis_lt _

/-- The whole milliseconds of a duration. -/
def millis (d : Duration) : BitVec 128 :=
  d.seconds.toBitVec.setWidth 128 * millisPerSecond.toBitVec.setWidth 128 +
    (d.rest / nanosPerMilli).toBitVec.setWidth 128

def toMillis (d : Duration) : Nat := d.millis.toNat

/-- The wait that a poll is given for a duration. -/
def pollMillis (d : Duration) : Int64 :=
  if d.millis ≤ Int64.maxValue.toBitVec.setWidth 128 then .ofBitVec (d.millis.setWidth 64)
  else Int64.maxValue

end Duration
end FrameTap
