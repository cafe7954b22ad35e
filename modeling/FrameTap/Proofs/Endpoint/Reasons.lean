import FrameTap.Proofs.Endpoint.Parts

/-!
# Why a text names no endpoint

A text may violate several conditions at once, and one of them is reported.  `RejectedFor` says
which, from the text alone.  A text without the scheme, or without a colon behind it, is not taken
further apart.  Any other is cut at its last colon, and the host is judged before the port.

The theorem this file exists for is `reason_by_text`: the reported reason is the one that
`RejectedFor` gives, each with a text of its own (`Reports`), and its eight reasons and the texts
of endpoints share out all texts.
-/

namespace FrameTap

/-! ## Numbers that are zero -/

namespace Numeral

/-- A run of zeros, with or without a plus sign. -/
def IsZero (t : Text) : Prop :=
  ∃ zeros, (t = zeros ∨ t = '+' :: zeros) ∧ zeros ≠ [] ∧ ∀ c ∈ zeros, c = '0'

theorem valueFrom_eq_zero_iff {value : Nat} {digits : Text} (h : ∀ c ∈ digits, IsDigit c) :
    valueFrom value digits = 0 ↔ value = 0 ∧ ∀ c ∈ digits, c = '0' := by
  induction digits generalizing value with
  | nil => simp [valueFrom]
  | cons c digits ih =>
      rw [List.forall_mem_cons] at h
      have hdigit : c.toNat - '0'.toNat = 0 ↔ c = '0' := by
        constructor
        · intro hzero
          have hchar := (digitChar_of_isDigit h.1).2
          rw [hzero] at hchar
          exact hchar.symm
        · rintro rfl
          rfl
      have hsum : value * 10 + (c.toNat - '0'.toNat) = 0 ↔
          value = 0 ∧ c.toNat - '0'.toNat = 0 := by omega
      rw [valueFrom_cons, ih h.2, List.forall_mem_cons, hsum, hdigit, and_assoc]

/-- A number is zero where all of its digits are. -/
theorem denotes_zero_iff {t : Text} : Denotes t 0 ↔ IsZero t := by
  have hzero : IsDigit '0' := isDigit_digitChar 0 (by decide)
  constructor
  · rintro ⟨digits, ht, hne, hdigits, hvalue⟩
    exact ⟨digits, ht, hne, ((valueFrom_eq_zero_iff hdigits).1 hvalue).2⟩
  · rintro ⟨zeros, ht, hne, hzeros⟩
    have hdigits : ∀ c ∈ zeros, IsDigit c := fun c hc => by
      rw [hzeros c hc]
      exact hzero
    exact ⟨zeros, ht, hne, hdigits, (valueFrom_eq_zero_iff hdigits).2 ⟨rfl, hzeros⟩⟩

end Numeral

namespace Endpoint

/-- The port is no number, or one that is too large for a port. -/
def NoPort (port : Text) : Prop :=
  (∀ n, ¬ Numeral.Denotes port n) ∨ ∃ n, Numeral.Denotes port n ∧ 65535 < n

/-- The first condition that the text violates is the one that the reason names. -/
def RejectedFor (s : Text) : Reason → Prop
  | .scheme => ¬ "tcp://".toList <+: s
  | .missingPort => ∃ rest, s = "tcp://".toList ++ rest ∧ ':' ∉ rest
  | .missingHost => ∃ host port, Cut s host port ∧ FirstViolated host .missingHost
  | .unbalancedBrackets => ∃ host port, Cut s host port ∧ FirstViolated host .unbalancedBrackets
  | .bareIpv6 => ∃ host port, Cut s host port ∧ FirstViolated host .bareIpv6
  | .blankInHost => ∃ host port, Cut s host port ∧ FirstViolated host .blankInHost
  | .zeroPort => ∃ host port, Cut s host port ∧ IsHost host ∧ Numeral.IsZero port
  | .portNumber => ∃ host port, Cut s host port ∧ IsHost host ∧ NoPort port

/-- The text is rejected, and the error keeps it and gives this reason. -/
def Reports (s why : Text) : Prop :=
  ∃ fault, parse s = .error fault ∧ fault.text = s ∧ fault.reason.message = why

/-- What a text is found to be: that of an endpoint, or rejected for a reason. -/
def Falls (s : Text) : Option Reason → Prop
  | none => ∃ host port n, Spells s host port n
  | some reason => RejectedFor s reason

variable {s host port : Text} {reason : Reason}

/-! ## The reason -/

/-- The reader of numbers accepts no number here. -/
theorem noPort_iff : NoPort port ↔ ∀ n, Numeral.readNat maxPort port ≠ .ok n := by
  simp only [Ne, Numeral.readNat_eq_ok_iff, not_and]
  constructor
  · rintro (hnone | ⟨m, hm, hlarge⟩) n hn hle
    · exact hnone n hn
    · have heq : n = m := Numeral.denotes_unique hn hm
      have hle' : n ≤ 65535 := hle
      omega
  · intro h
    by_cases hdenotes : ∃ n, Numeral.Denotes port n
    · obtain ⟨n, hn⟩ := hdenotes
      exact .inr ⟨n, hn, Nat.lt_of_not_le (h n hn)⟩
    · exact .inl fun n hn => hdenotes ⟨n, hn⟩

theorem readPort_eq_error_iff :
    readPort port = .error reason ↔
      reason = .zeroPort ∧ Numeral.IsZero port ∨ reason = .portNumber ∧ NoPort port := by
  rw [← Numeral.denotes_zero_iff, noPort_iff]
  cases hread : Numeral.readNat maxPort port with
  | error fault =>
      have hport : readPort port = .error .portNumber := by rw [readPort, hread]
      have hzero : ¬ Numeral.Denotes port 0 := fun h => by
        rw [Numeral.readNat_eq_ok_iff.2 ⟨h, Nat.zero_le maxPort⟩] at hread
        cases hread
      rw [hport]
      simp [hzero, eq_comm]
  | ok n =>
      have hdenotes := (Numeral.readNat_eq_ok_iff.1 hread).1
      by_cases hn : n = 0
      · have hport : readPort port = .error .zeroPort := by
          rw [readPort, hread, hn]
          rfl
        rw [hn] at hdenotes
        rw [hport]
        simp [hdenotes, eq_comm]
      · have hport : readPort port = .ok (UInt16.ofNat n) := by
          rw [readPort, hread]
          cases n with
          | zero => exact absurd rfl hn
          | succ n => rfl
        have hzero : ¬ Numeral.Denotes port 0 := fun h =>
          hn (Numeral.denotes_unique hdenotes h)
        rw [hport]
        simp [hzero]

/-- A host reason is reported where the host violates its condition first. -/
theorem Cut.read_of_firstViolated (h : Cut s host port) (hfirst : FirstViolated host reason) :
    read s = .error reason := by
  rw [h.read_eq, hostFault?_eq_some_iff.2 hfirst]

theorem Cut.read_of_isHost (h : Cut s host port) (hhost : IsHost host) :
    read s = .error reason ↔ readPort port = .error reason := by
  rw [h.read_eq, hostFault?_eq_none_iff.2 hhost]
  cases readPort port <;> simp [Except.map]

theorem rejectedFor_of_read (h : read s = .error reason) : RejectedFor s reason := by
  rcases cut_cases s with hscheme | ⟨rest, rfl, hcolon⟩ | ⟨host, port, hcut⟩
  · rw [read_of_no_scheme hscheme] at h
    cases h
    exact hscheme
  · rw [read_of_no_colon hcolon] at h
    cases h
    exact ⟨rest, rfl, hcolon⟩
  · cases hfault : hostFault? host with
    | some first =>
        have hfirst := hostFault?_eq_some_iff.1 hfault
        rw [hcut.read_of_firstViolated hfirst] at h
        cases h
        rcases hfirst.reason_cases with rfl | rfl | rfl | rfl <;>
          exact ⟨host, port, hcut, hfirst⟩
    | none =>
        have hhost := hostFault?_eq_none_iff.1 hfault
        rw [hcut.read_of_isHost hhost, readPort_eq_error_iff] at h
        rcases h with ⟨rfl, hzero⟩ | ⟨rfl, hnone⟩
        · exact ⟨host, port, hcut, hhost, hzero⟩
        · exact ⟨host, port, hcut, hhost, hnone⟩

theorem read_of_rejectedFor (h : RejectedFor s reason) : read s = .error reason := by
  cases reason with
  | scheme => exact read_of_no_scheme h
  | missingPort =>
      obtain ⟨rest, rfl, hcolon⟩ := h
      exact read_of_no_colon hcolon
  | missingHost | unbalancedBrackets | bareIpv6 | blankInHost =>
      obtain ⟨host, port, hcut, hfirst⟩ := h
      exact hcut.read_of_firstViolated hfirst
  | zeroPort =>
      obtain ⟨host, port, hcut, hhost, hzero⟩ := h
      rw [hcut.read_of_isHost hhost, readPort_eq_error_iff]
      exact .inl ⟨rfl, hzero⟩
  | portNumber =>
      obtain ⟨host, port, hcut, hhost, hnone⟩ := h
      rw [hcut.read_of_isHost hhost, readPort_eq_error_iff]
      exact .inr ⟨rfl, hnone⟩

theorem read_eq_error_iff : read s = .error reason ↔ RejectedFor s reason :=
  ⟨rejectedFor_of_read, read_of_rejectedFor⟩

theorem parse_eq_error_iff {fault : ParseError} :
    parse s = .error fault ↔ fault.text = s ∧ RejectedFor s fault.reason := by
  rw [parse, mapError_eq_error_iff]
  constructor
  · rintro ⟨reason, hread, rfl⟩
    exact ⟨rfl, rejectedFor_of_read hread⟩
  · rintro ⟨rfl, h⟩
    exact ⟨fault.reason, read_of_rejectedFor h, rfl⟩

/-! ## What is reported -/

/-- No two reasons are reported with the same text. -/
theorem Reason.message_injective : Function.Injective Reason.message := by
  intro reason other h
  cases reason <;> cases other <;> first | rfl | exact absurd h (by decide)

theorem reports_iff (reason : Reason) : Reports s reason.message ↔ RejectedFor s reason := by
  simp only [Reports, parse_eq_error_iff]
  constructor
  · rintro ⟨fault, ⟨-, hrejected⟩, -, hmessage⟩
    rw [← Reason.message_injective hmessage]
    exact hrejected
  · intro hrejected
    exact ⟨⟨s, reason⟩, ⟨rfl, hrejected⟩, rfl, rfl⟩

/-! ## All texts -/

theorem falls_none_iff : Falls s none ↔ ∃ e, read s = .ok e := by
  constructor
  · rintro ⟨host, port, n, h⟩
    have hport : (UInt16.ofNat n).toNat = n := UInt16.toNat_ofNat_of_lt' (Nat.lt_succ_of_le h.le)
    have hspells : Spells s host port (UInt16.ofNat n).toNat := by
      rw [hport]
      exact h
    exact ⟨⟨host, UInt16.ofNat n⟩, hspells.read_eq⟩
  · rintro ⟨e, he⟩
    obtain ⟨port, h⟩ := exists_spells_of_read he
    exact ⟨e.host, port, e.port.toNat, h⟩

theorem falls_some_iff : Falls s (some reason) ↔ read s = .error reason := read_eq_error_iff.symm

theorem existsUnique_falls (s : Text) : ∃! found, Falls s found := by
  cases hread : read s with
  | ok e =>
      refine ⟨none, falls_none_iff.2 ⟨e, hread⟩, fun found h => ?_⟩
      cases found with
      | none => rfl
      | some reason =>
          rw [falls_some_iff, hread] at h
          cases h
  | error reason =>
      refine ⟨some reason, falls_some_iff.2 hread, fun found h => ?_⟩
      cases found with
      | none =>
          obtain ⟨e, he⟩ := falls_none_iff.1 h
          rw [hread] at he
          cases he
      | some other =>
          rw [falls_some_iff, hread] at h
          rw [Except.error.inj h]

theorem exists_falls (found : Option Reason) : ∃ s, Falls s found := by
  cases found with
  | none => exact ⟨"tcp://a:1".toList, falls_none_iff.2 ⟨⟨['a'], 1⟩, rfl⟩⟩
  | some reason =>
      simp only [falls_some_iff]
      cases reason with
      | scheme => exact ⟨"udp://a:1".toList, rfl⟩
      | missingPort => exact ⟨"tcp://a".toList, rfl⟩
      | missingHost => exact ⟨"tcp://:1".toList, rfl⟩
      | unbalancedBrackets => exact ⟨"tcp://[::1:1".toList, rfl⟩
      | bareIpv6 => exact ⟨"tcp://::1:1".toList, rfl⟩
      | blankInHost => exact ⟨"tcp://a b:1".toList, rfl⟩
      | zeroPort => exact ⟨"tcp://a:+00".toList, rfl⟩
      | portNumber => exact ⟨"tcp://a:65536".toList, rfl⟩

/-- A text is rejected for the reason that the text alone decides, and the error keeps the text.
What is reported with each of the eight reasons is spelled out here; no reason is reported for any
other text than those that it is decided for.  The eight reasons and the texts of endpoints are a
partition: each text belongs to exactly one of these nine, and none of them is empty. -/
theorem reason_by_text :
    (∀ s fault, parse s = .error fault ↔ fault.text = s ∧ RejectedFor s fault.reason) ∧
      (∀ s, (Reports s "expected tcp:// scheme".toList ↔ RejectedFor s .scheme) ∧
        (Reports s "missing port".toList ↔ RejectedFor s .missingPort) ∧
        (Reports s "missing host".toList ↔ RejectedFor s .missingHost) ∧
        (Reports s "unbalanced brackets in host".toList ↔ RejectedFor s .unbalancedBrackets) ∧
        (Reports s "ipv6 hosts must be bracketed".toList ↔ RejectedFor s .bareIpv6) ∧
        (Reports s "whitespace in host".toList ↔ RejectedFor s .blankInHost) ∧
        (Reports s "port must be non-zero".toList ↔ RejectedFor s .zeroPort) ∧
        (Reports s "port is not a number in 1..=65535".toList ↔ RejectedFor s .portNumber)) ∧
      (∀ s, ∃! found, Falls s found) ∧ ∀ found, ∃ s, Falls s found := by
  refine ⟨fun _ _ => parse_eq_error_iff, fun s => ?_, existsUnique_falls, exists_falls⟩
  exact ⟨reports_iff .scheme, reports_iff .missingPort, reports_iff .missingHost,
    reports_iff .unbalancedBrackets, reports_iff .bareIpv6, reports_iff .blankInHost,
    reports_iff .zeroPort, reports_iff .portNumber⟩

end Endpoint
end FrameTap
