import FrameTap.Duration

/-!
# Durations as numbers

The conversions between durations and milliseconds pass through words of 64, 32, 128 and again 64
bits, the last of them signed.  Here each of them is a number: `length` is what a duration stands
for, in nanoseconds, and no conversion loses more of it than what is asked of it.  The milliseconds
of a duration are its length without the rest of a millisecond (`toMillis_eq`), the wait of a poll
is the same number as far as it fits in its word (`toInt_pollMillis`), and the duration of a number
of milliseconds has exactly their length (`length_ofMillis`).
-/

namespace FrameTap.Duration

variable {d d' : Duration} {ms : Nat}

/-- The nanoseconds of a duration. -/
def length (d : Duration) : Nat := d.secs * 1000000000 + d.nanos

theorem secs_lt (d : Duration) : d.secs < 18446744073709551616 := d.seconds.toNat_lt

theorem nanos_lt (d : Duration) : d.nanos < 1000000000 := UInt32.lt_iff_toNat_lt.1 d.rest_lt

/-- The seconds are compared first, and what is beyond them only where they are equal. -/
instance : LE Duration where
  le d d' := d.secs < d'.secs ∨ d.secs = d'.secs ∧ d.nanos ≤ d'.nanos

theorem length_mono (h : d ≤ d') : d.length ≤ d'.length := by
  have hnanos := d.nanos_lt
  unfold length
  rcases h with hsecs | ⟨hsecs, hle⟩
  · -- a whole second more outweighs any rest
    omega
  · omega

/-! ## Milliseconds of a duration -/

/-- The largest duration has less than `2 ^ 128` milliseconds. -/
theorem toMillis_eq (d : Duration) : d.toMillis = d.length / 1000000 := by
  have hsecs := d.secs_lt
  have hnanos := d.nanos_lt
  have hseconds : (d.seconds.toBitVec.setWidth 128 *
      millisPerSecond.toBitVec.setWidth 128).toNat = d.secs * 1000 := by
    rw [BitVec.toNat_mul, BitVec.toNat_setWidth_of_le (by decide),
      BitVec.toNat_setWidth_of_le (by decide)]
    exact Nat.mod_eq_of_lt (by show d.secs * 1000 < _; omega)
  have hrest : ((d.rest / nanosPerMilli).toBitVec.setWidth 128).toNat = d.nanos / 1000000 := by
    rw [BitVec.toNat_setWidth_of_le (by decide)]
    exact UInt32.toNat_div d.rest nanosPerMilli
  rw [toMillis, millis, BitVec.toNat_add, hseconds, hrest, Nat.mod_eq_of_lt (by omega), length]
  omega

/-- The wait is the whole milliseconds where they fit in its word, and the largest of its word
where they do not. -/
theorem toInt_pollMillis (d : Duration) :
    d.pollMillis.toInt = min (d.length / 1000000) 9223372036854775807 := by
  have hmillis : d.millis.toNat = d.length / 1000000 := d.toMillis_eq
  have hfits : d.millis ≤ Int64.maxValue.toBitVec.setWidth 128 ↔
      d.length / 1000000 ≤ 9223372036854775807 := by
    rw [BitVec.le_def, hmillis]
    rfl
  by_cases hle : d.length / 1000000 ≤ 9223372036854775807
  · have hword : (d.millis.setWidth 64).toNat = d.length / 1000000 := by
      rw [BitVec.toNat_setWidth, hmillis]
      exact Nat.mod_eq_of_lt (by omega)
    rw [pollMillis, if_pos (hfits.2 hle), Int64.toInt_ofBitVec,
      BitVec.toInt_eq_toNat_of_lt (by omega), hword]
    omega
  · rw [pollMillis, if_neg (mt hfits.1 hle), Int64.toInt_maxValue]
    omega

theorem pollMillis_mono (h : d ≤ d') : d.pollMillis ≤ d'.pollMillis := by
  rw [Int64.le_iff_toInt_le, toInt_pollMillis, toInt_pollMillis]
  have hlength := length_mono h
  omega

/-! ## Durations of milliseconds -/

theorem secs_ofMillis (h : ms < UInt64.size) : (ofMillis ms).secs = ms / 1000 := by
  show (UInt64.ofNat ms / millisPerSecond).toNat = ms / 1000
  rw [UInt64.toNat_div, UInt64.toNat_ofNat_of_lt' h]
  rfl

theorem nanos_ofMillis (h : ms < UInt64.size) : (ofMillis ms).nanos = ms % 1000 * 1000000 := by
  show (nanosOfMillis (UInt64.ofNat ms)).toNat = ms % 1000 * 1000000
  rw [toNat_nanosOfMillis, UInt64.toNat_ofNat_of_lt' h]

/-- A number that fits in a word loses nothing as a duration. -/
theorem length_ofMillis (h : ms < UInt64.size) : (ofMillis ms).length = ms * 1000000 := by
  rw [length, secs_ofMillis h, nanos_ofMillis h]
  omega

theorem toMillis_ofMillis (h : ms < UInt64.size) : (ofMillis ms).toMillis = ms := by
  rw [toMillis_eq, length_ofMillis h]
  omega

/-- A wait that is asked for neither becomes longer nor comes to nothing. -/
theorem pollMillis_ofMillis (h : ms < UInt64.size) :
    (ofMillis ms).pollMillis.toInt = min ms 9223372036854775807 := by
  rw [toInt_pollMillis, length_ofMillis h, Nat.mul_div_cancel _ (by decide)]

end FrameTap.Duration
