import FrameTap.Proofs.CommandLine.Sources
import FrameTap.Proofs.Endpoint.Parts

/-!
# A host and a port against the text of an endpoint

A publisher can be named by a host and a port or by the text of its endpoint.  The two ways read
the port differently.  An option takes it for a signed number of a machine word, checks its range,
and leaves zero to the endpoint that is made of it; the text takes it for a number from 1 to 65535
from the start.  They accept the same ports all the same (`readPort_encode_iff`), so the two ways
name the same publisher (`host_port_names_endpoint`).

The host of a text ends at its last colon.  Where the port has a colon, or the host ends too
early, the text has another host, and no option is accepted.
-/

namespace FrameTap.CommandLine

variable {host port : Text} {s : Settings} {d d' : Draft} {e : Endpoint}

/-! ## Ports -/

/-- But for zero, the option and the text of an endpoint accept the same ports. -/
theorem readPort_encode_iff {t : Text} {n : UInt16} (hn : n ≠ 0) :
    readPort (Utf8.encode t) = .ok n ↔ Endpoint.readPort t = .ok n := by
  have hpos : 1 ≤ n.toNat := Endpoint.one_le_toNat_iff.2 hn
  have hlt := n.toNat_lt
  rw [Endpoint.readPort_eq_ok_iff, and_iff_left hpos, readPort, textOf_eq_ok_iff.2 rfl, ok_bind]
  constructor
  · intro h
    split at h
    · cases h
    · rename_i z hz
      split at h
      · rename_i hrange
        obtain ⟨m, rfl⟩ := Int.eq_ofNat_of_zero_le hrange.1
        have hm : m ≤ 65535 := Int.ofNat_le.1 hrange.2
        obtain rfl := Except.ok.inj h
        -- the range was checked before, so nothing is lost when the number is cut to a port
        have hto : (UInt16.ofNat m).toNat = m := UInt16.toNat_ofNat_of_lt' (Nat.lt_succ_of_le hm)
        rw [Int.toNat_natCast, hto] at hpos
        rw [Int.toNat_natCast, hto]
        exact ((Numeral.readInt_eq_ok_iff (by omega)).1 hz).1
      · cases h
  · intro h
    have hword : n.toNat ≤ Nat.pow 2 63 - 1 := Nat.le_trans (Nat.le_of_lt hlt) (by decide)
    have hrange : (0 : Int) ≤ n.toNat ∧ (n.toNat : Int) ≤ Endpoint.maxPort :=
      ⟨by omega, Int.ofNat_le.2 (Nat.le_of_lt_succ hlt)⟩
    rw [(Numeral.readInt_eq_ok_iff (by omega)).2 ⟨h, hword⟩]
    dsimp only
    rw [if_pos hrange, Int.toNat_natCast, UInt16.ofNat_toNat]

/-! ## The line -/

/-- The options for a host and for a port, each with its value behind an equals sign. -/
def hostPortLine (host port : Text) : List Bytes :=
  [Utf8.encode ("--host=".toList ++ host), Utf8.encode ("--port=".toList ++ port)]

theorem written_hostPortLine (host port : Text) :
    Written [.equated .host false (Utf8.encode host), .equated .port false (Utf8.encode port)]
      (hostPortLine host port) := by
  rw [hostPortLine, Utf8.encode_append, Utf8.encode_append]
  exact .cons _ (.cons _ .nil)

theorem enter_host (hopen : ¬ d.host.isSome) :
    d.enter .host [Utf8.encode host] = .ok { d with host := some host } :=
  (Draft.Entered.host hopen (textOf_eq_ok_iff.2 rfl)).enter_eq

/-- A value without spaces is one port. -/
theorem enter_port_eq_ok_iff (hspace : ' ' ∉ port) :
    d.enter .port [Utf8.encode port] = .ok d' ↔
      ∃ n, readPort (Utf8.encode port) = .ok n ∧
        d' = { d with port := some (d.port.getD [] ++ [n]) } := by
  have hbyte : (0x20 : UInt8) ∉ Utf8.encode port := fun hm =>
    hspace (Utf8.mem_of_mem_encode (c := ' ') (by decide) hm)
  have hspread : Draft.spread [Utf8.encode port] = [Utf8.encode port] := by
    rw [Draft.spread, List.flatMap_singleton, Text.cut_of_notMem hbyte]
  have henter : d.enter .port [Utf8.encode port] =
      (Draft.spread [Utf8.encode port]).mapM readPort >>= fun ports =>
        .ok { d with port := some (d.port.getD [] ++ ports) } := rfl
  rw [henter, hspread, bind_eq_ok_iff]
  simp only [mapM_singleton_eq_ok_iff, Except.ok.injEq]
  constructor
  · rintro ⟨_, ⟨n, hn, rfl⟩, rfl⟩
    exact ⟨n, hn, rfl⟩
  · rintro ⟨n, hn, rfl⟩
    exact ⟨[n], ⟨n, hn, rfl⟩, rfl⟩

theorem readAll_hostPortLine :
    Reading.readAll {} (hostPortLine host port) = .ok d ↔
      Draft.enter { host := some host } .port [Utf8.encode port] = .ok d := by
  have hwell : ∀ occ ∈ [Occurrence.equated .host false (Utf8.encode host),
      .equated .port false (Utf8.encode port)], occ.WellFormed := by
    simp [Occurrence.WellFormed]
  have henter : Occurrence.enter {} (.equated .host false (Utf8.encode host)) =
      .ok { host := some host } := enter_host (d := {}) (by simp)
  have hsettle : Reading.settle {} = .ok {} := rfl
  rw [Reading.readAll_written (written_hostPortLine host port) hwell, hsettle, ok_bind,
    List.foldlM_cons, henter, ok_bind, List.foldlM_cons]
  show Reading.misused (_ >>= Except.ok) = .ok d ↔ _
  rw [bind_ok, Reading.misused_eq_ok_iff]
  rfl

/-- Where the port is accepted, the line sets the host and the port and nothing else. -/
theorem parse_hostPortLine (hspace : ' ' ∉ port) :
    parse (hostPortLine host port) none = .ok s ↔
      ∃ n, readPort (Utf8.encode port) = .ok n ∧ s = { host := host, port := [n] } := by
  simp only [parse_eq_ok_iff, readAll_hostPortLine, enter_port_eq_ok_iff hspace]
  constructor
  · rintro ⟨_, d', ⟨n, hn, rfl⟩, hd', rfl⟩
    cases hd'
    exact ⟨n, hn, rfl⟩
  · rintro ⟨n, hn, rfl⟩
    exact ⟨_, _, ⟨n, hn, rfl⟩, rfl, rfl⟩

/-! ## The two ways -/

theorem endpoints_host_port {n : UInt16} :
    Settings.endpoints { host := host, port := [n] } = .ok [e] ↔
      Endpoint.ofHostPort host n = .ok e := by
  show [n].mapM (Endpoint.ofHostPort host) = .ok [e] ↔ _
  rw [mapM_singleton_eq_ok_iff]
  constructor
  · rintro ⟨e', he', heq⟩
    cases heq
    exact he'
  · intro he
    exact ⟨e, he, rfl⟩

theorem endpoints_hostPortLine (hhost : Endpoint.IsHost host) (hspace : ' ' ∉ port) :
    (∃ s, parse (hostPortLine host port) none = .ok s ∧ s.endpoints = .ok [e]) ↔
      e.host = host ∧ Endpoint.readPort port = .ok e.port := by
  constructor
  · rintro ⟨s, hs, he⟩
    obtain ⟨n, hn, rfl⟩ := (parse_hostPortLine hspace).1 hs
    obtain ⟨-, hzero, rfl⟩ := Endpoint.ofHostPort_eq_ok_iff.1 (endpoints_host_port.1 he)
    exact ⟨rfl, (readPort_encode_iff hzero).1 hn⟩
  · rintro ⟨rfl, hport⟩
    have hzero : e.port ≠ 0 := Endpoint.one_le_toNat_iff.1 (Endpoint.readPort_eq_ok_iff.1 hport).2
    exact ⟨_, (parse_hostPortLine hspace).2 ⟨e.port, (readPort_encode_iff hzero).2 hport, rfl⟩,
      endpoints_host_port.2 (Endpoint.ofHostPort_eq_ok_iff.2 ⟨hhost, hzero, rfl⟩)⟩

/-- A host that endpoints may have and a port without spaces name the same publisher, or none,
whether they are given by their options or in the text of an endpoint. -/
theorem host_port_names_endpoint (hhost : ∃ e, Endpoint.ofHostPort host 1 = .ok e)
    (hspace : ' ' ∉ port) (e : Endpoint) :
    (∃ s, parse (hostPortLine host port) none = .ok s ∧ s.endpoints = .ok [e]) ↔
      Endpoint.parse ("tcp://".toList ++ host ++ ':' :: port) = .ok e ∧ e.host = host := by
  obtain ⟨_, hone⟩ := hhost
  have hhost : Endpoint.IsHost host := (Endpoint.ofHostPort_eq_ok_iff.1 hone).1
  rw [endpoints_hostPortLine hhost hspace, Endpoint.parse_text_iff hhost]

/-- A plus sign and leading zeros are accepted both ways. -/
theorem host_port_names_endpoint_signed :
    (∃ e, Endpoint.ofHostPort "[::1]".toList 1 = .ok e) ∧ ' ' ∉ "+0080".toList ∧
      ∃ s, parse (hostPortLine "[::1]".toList "+0080".toList) none = .ok s ∧
        s.endpoints = .ok [⟨"[::1]".toList, 80⟩] := by
  have hhost : ∃ e, Endpoint.ofHostPort "[::1]".toList 1 = .ok e := ⟨⟨"[::1]".toList, 1⟩, rfl⟩
  have hspace : ' ' ∉ "+0080".toList := by decide
  exact ⟨hhost, hspace, (host_port_names_endpoint hhost hspace ⟨"[::1]".toList, 80⟩).2 ⟨rfl, rfl⟩⟩

end FrameTap.CommandLine
