import FrameTap.Proofs.CommandLine.Sources
import FrameTap.Proofs.Decimal.Grammar
import FrameTap.Proofs.Duration
import FrameTap.Transport.Poll

/-!
# How long a poll may last

The command line gives the interval between two looks at the request to end in milliseconds.  A
transport that polls takes a negative number for a wait without end, and with zero it does not
wait at all, so that the listener would only spin.  Neither comes of a command line that is
accepted (`poll_bounded`): the numbers that are accepted are those from one to the largest word of
64 bits, each becomes a duration without loss, and the wait of a poll is at least one millisecond
and at most what was asked for.
-/

namespace FrameTap.CommandLine

variable {args : List Bytes} {env? : Option Bytes} {s : Settings} {d d' : Draft} {o : Opt}
  {values : List Bytes} {ms : Nat}

/-- The numbers of milliseconds that an interval may have. -/
def IsInterval (ms : Nat) : Prop := 1 ≤ ms ∧ ms ≤ 18446744073709551615

theorem IsInterval.lt_size (h : IsInterval ms) : ms < UInt64.size := Nat.lt_succ_of_le h.2

/-! ## What is accepted -/

theorem readPollMillis_eq_ok_iff {value : Bytes} :
    readPollMillis value = .ok ms ↔
      ∃ t, value = Utf8.encode t ∧ Numeral.Denotes t ms ∧ IsInterval ms := by
  rw [readPollMillis, bind_eq_ok_iff]
  refine exists_congr fun t => and_congr textOf_eq_ok_iff ?_
  have hread {n : Nat} : Numeral.readNat (UInt64.size - 1) t = .ok n ↔
      Numeral.Denotes t n ∧ n ≤ 18446744073709551615 := Numeral.readNat_eq_ok_iff
  constructor
  · intro h
    split at h
    · cases h
    · cases h
    · rename_i n hzero hn
      cases h
      obtain ⟨hdenotes, hle⟩ := hread.1 hn
      exact ⟨hdenotes, Nat.one_le_iff_ne_zero.2 hzero, hle⟩
  · rintro ⟨hdenotes, hpos, hle⟩
    rw [hread.2 ⟨hdenotes, hle⟩]
    obtain ⟨n, rfl⟩ := Nat.exists_eq_add_of_le' hpos
    rfl

/-- The interval that the draft holds is one that an interval may have. -/
def Paced (d : Draft) : Prop := ∀ ms, d.pollMillis = some ms → IsInterval ms

theorem Paced.enter (hd : Paced d) (h : d.enter o values = .ok d') : Paced d' := by
  obtain ⟨-, hentered⟩ := Draft.enter_eq_ok_iff.1 h
  cases hentered with
  | pollInterval _ hms =>
    obtain ⟨t, -, -, hinterval⟩ := readPollMillis_eq_ok_iff.1 hms
    rintro _ ⟨⟩
    exact hinterval
  | endpoint | port | host | format => exact hd

theorem Paced.enterDebug (hd : Paced d) (h : d.enterDebug = .ok d') : Paced d' := by
  rw [Draft.enterDebug] at h
  split at h
  · cases h
  · cases h
    exact hd

theorem Paced.enterVariable (hd : Paced d) (h : d.enterVariable env? = .ok d') : Paced d' := by
  rcases enterVariable_cases h with rfl | ⟨value, -, -, henter⟩
  · exact hd
  · exact hd.enter henter

theorem Paced.settings (hd : Paced d) : IsInterval d.settings.pollMillis := by
  show IsInterval (d.pollMillis.getD defaultPollMillis)
  cases hms : d.pollMillis with
  | none => exact ⟨by decide, by decide⟩
  | some ms => exact hd ms hms

theorem isInterval_of_parse (h : parse args env? = .ok s) : IsInterval s.pollMillis := by
  obtain ⟨d, d', hd, hd', rfl⟩ := parse_eq_ok_iff.1 h
  have hpaced : Paced d := (Reading.readAll_grows hd).preserves
    (fun _ _ _ _ henter hd => hd.enter henter) (fun _ _ hdebug hd => hd.enterDebug hdebug) nofun
  exact (hpaced.enterVariable hd').settings

/-- The option with a number of milliseconds behind its equals sign. -/
def intervalLine (ms : Nat) : List Bytes :=
  (Occurrence.equated .pollInterval false (Utf8.encode (Numeral.write ms))).arguments

theorem parse_intervalLine (h : IsInterval ms) :
    parse (intervalLine ms) none = .ok { pollMillis := ms } := by
  have hread : readPollMillis (Utf8.encode (Numeral.write ms)) = .ok ms :=
    readPollMillis_eq_ok_iff.2 ⟨_, rfl, Numeral.denotes_write ms, h⟩
  have hwritten : Written [.equated .pollInterval false (Utf8.encode (Numeral.write ms))]
      (intervalLine ms) := .cons _ .nil
  have hwell : ∀ occ ∈ [Occurrence.equated .pollInterval false (Utf8.encode (Numeral.write ms))],
      occ.WellFormed := by
    simp [Occurrence.WellFormed]
  have hvalue : Draft.enter {} .pollInterval [Utf8.encode (Numeral.write ms)] =
      .ok { pollMillis := some ms } := (Draft.Entered.pollInterval (by decide) hread).enter_eq
  have henter : Occurrence.enter {} (.equated .pollInterval false
      (Utf8.encode (Numeral.write ms))) = .ok { pollMillis := some ms } := hvalue
  have hentered : [Occurrence.equated .pollInterval false
      (Utf8.encode (Numeral.write ms))].foldlM Occurrence.enter {} =
        .ok { pollMillis := some ms } := by
    rw [List.foldlM_cons, henter]
    rfl
  have hvariable : Draft.enterVariable { pollMillis := some ms } none =
      .ok { pollMillis := some ms } := rfl
  exact parse_written hwritten hwell hentered hvariable

/-! ## How long it lasts -/

/-- A poll is given the whole milliseconds of the duration, or the largest number of its word where
they do not fit, and never a negative number; a longer duration never gives a shorter wait.  The
intervals that a command line can set are the numbers from one to the largest word of 64 bits.
Each of them is the length of the duration that is made of it, and a poll lasts no longer than
that and one millisecond at least. -/
theorem poll_bounded :
    (∀ (timeout : Duration) (poll : Int64 → Transport.Poll), ∃ wait : Int64,
      Transport.receive poll timeout = (poll wait).reception ∧
        wait.toInt = min (timeout.length / 1000000) 9223372036854775807 ∧ 0 ≤ wait.toInt) ∧
    (∀ timeout timeout' : Duration, timeout ≤ timeout' →
      timeout.pollMillis ≤ timeout'.pollMillis) ∧
    (∀ ms, (∃ args env? s, parse args env? = .ok s ∧ s.pollMillis = ms) ↔
      1 ≤ ms ∧ ms ≤ 18446744073709551615) ∧
    ∀ args env? s, parse args env? = .ok s →
      s.pollInterval.toMillis = s.pollMillis ∧
        s.pollInterval.length = s.pollMillis * 1000000 ∧
        s.pollInterval.secs ≤ 18446744073709551615 ∧ s.pollInterval.nanos < 1000000000 ∧
        1 ≤ s.pollInterval.pollMillis.toInt ∧
        s.pollInterval.pollMillis.toInt ≤ s.pollMillis := by
  refine ⟨?_, fun _ _ => Duration.pollMillis_mono, ?_, ?_⟩
  · intro timeout poll
    have hwait := timeout.toInt_pollMillis
    exact ⟨timeout.pollMillis, rfl, hwait, by omega⟩
  · intro ms
    constructor
    · rintro ⟨args, env?, s, h, rfl⟩
      exact isInterval_of_parse h
    · intro h
      exact ⟨intervalLine ms, none, _, parse_intervalLine h, rfl⟩
  · intro args env? s h
    have hinterval := isInterval_of_parse h
    have hpos := hinterval.1
    have hsize := hinterval.lt_size
    have hwait : s.pollInterval.pollMillis.toInt = min s.pollMillis 9223372036854775807 :=
      Duration.pollMillis_ofMillis hsize
    refine ⟨Duration.toMillis_ofMillis hsize, Duration.length_ofMillis hsize,
      Nat.le_of_lt_succ s.pollInterval.secs_lt, s.pollInterval.nanos_lt, ?_, ?_⟩
    · omega
    · omega

/-- The largest number that is accepted fits in a duration, and its wait in the word of a poll. -/
theorem poll_bounded_largest :
    ∃ s, parse (["--poll-interval-ms", "18446744073709551615"].map (Utf8.encode ·.toList)) none =
        .ok s ∧
      s.pollInterval.secs = 18446744073709551 ∧ s.pollInterval.nanos = 615000000 ∧
      s.pollInterval.toMillis = 18446744073709551615 ∧
      1 ≤ s.pollInterval.pollMillis.toInt ∧
      s.pollInterval.pollMillis.toInt = 9223372036854775807 := by
  have hparse : parse (["--poll-interval-ms", "18446744073709551615"].map (Utf8.encode ·.toList))
      none = .ok { pollMillis := 18446744073709551615 } := rfl
  obtain ⟨-, -, -, hkept⟩ := poll_bounded
  obtain ⟨hmillis, -, -, -, hpos, -⟩ := hkept _ _ _ hparse
  exact ⟨_, hparse, by decide, by decide, hmillis, hpos, by decide⟩

end FrameTap.CommandLine
