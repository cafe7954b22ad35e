import FrameTap.Proofs.Endpoint.Parts
import FrameTap.Settings

/-!
# One endpoint for each port

Settings without an endpoint of their own come to one endpoint for each port, all with the same
host.  There is no result in part: one port that makes no endpoint is enough to refuse them all,
and the first such port is the one that is reported (`endpoints_of_ports`).

The host is the same for all ports, so a bad host is found at the first port already, even if
this port is zero: the conditions on a host are tested before the one on a port.  A port of zero
is therefore only reported where the host is good, and then the first of them.
-/

namespace FrameTap.Settings

open Endpoint

variable {host : Text} {ports : List UInt16} {es : List Endpoint} {fault : ParseError}

theorem mapM_ofHostPort_eq_ok_iff :
    ports.mapM (ofHostPort host) = .ok es ↔
      (IsHost host ∨ ports = []) ∧ 0 ∉ ports ∧ es = ports.map fun port => ⟨host, port⟩ := by
  rw [mapM_eq_ok_iff]
  simp only [ofHostPort_eq_ok_iff]
  constructor
  · intro h
    induction h with
    | nil => exact ⟨.inr rfl, List.not_mem_nil, rfl⟩
    | cons hport _ ih =>
      obtain ⟨hhost, hne, rfl⟩ := hport
      obtain ⟨-, hrest, rfl⟩ := ih
      refine ⟨.inl hhost, fun hzero => ?_, rfl⟩
      exact (List.mem_cons.1 hzero).elim (fun heq => hne heq.symm) hrest
  · rintro ⟨hhost, hzero, rfl⟩
    rw [List.forall₂_map_right_iff, List.forall₂_same]
    intro port hport
    have hne : ports ≠ [] := List.ne_nil_of_mem hport
    exact ⟨hhost.resolve_right hne, fun heq => hzero (heq ▸ hport), rfl⟩

/-- Ports behind the first are only looked at where the host is good. -/
theorem mapM_ofHostPort_eq_error_iff :
    ports.mapM (ofHostPort host) = .error fault ↔
      (∃ first later, ports = first :: later ∧ FirstViolated host fault.reason ∧
        fault.text = address host first) ∨
      (IsHost host ∧ ∃ earlier later, ports = earlier ++ 0 :: later ∧ 0 ∉ earlier ∧
        fault.text = address host 0 ∧ fault.reason = .zeroPort) := by
  rw [mapM_eq_error_iff]
  simp only [ofHostPort_eq_error_iff, ofHostPort_eq_ok_iff]
  constructor
  · rintro ⟨earlier, port, later, rfl, hearlier, htext, hfirst | ⟨hhost, rfl, hreason⟩⟩
    · cases earlier with
      | nil => exact .inl ⟨port, later, rfl, hfirst, htext⟩
      | cons port' earlier =>
        obtain ⟨_, hhost, -⟩ := hearlier port' List.mem_cons_self
        exact absurd hhost hfirst.not_isHost
    · refine .inr ⟨hhost, earlier, later, rfl, fun hzero => ?_, htext, hreason⟩
      obtain ⟨_, -, hne, -⟩ := hearlier 0 hzero
      exact hne rfl
  · rintro (⟨first, later, rfl, hfirst, htext⟩ |
      ⟨hhost, earlier, later, rfl, hzero, htext, hreason⟩)
    · exact ⟨[], first, later, rfl, List.forall_mem_nil _, htext, .inl hfirst⟩
    · refine ⟨earlier, 0, later, rfl, fun port hport => ?_, htext, .inr ⟨hhost, rfl, hreason⟩⟩
      exact ⟨⟨host, port⟩, hhost, fun heq => hzero (heq ▸ hport), rfl⟩

theorem endpoints_eq_mapM {s : Settings} (h : s.endpoint = []) :
    s.endpoints = s.port.mapM (ofHostPort s.host) := by
  rw [endpoints, h]
  rfl

/-- The host and the ports come to endpoints where the host keeps its conditions, or there is no
port at all, and no port is zero; then there is one for each port, in the order of the ports.
Otherwise the fault is that of the first port which makes none: of the very first where the host
is bad, reported with the text of the first condition that the host violates, and else of the
first zero. -/
theorem endpoints_of_ports {s : Settings} (hnone : s.endpoint = []) :
    (∀ es, s.endpoints = .ok es ↔
      (IsHost s.host ∨ s.port = []) ∧ 0 ∉ s.port ∧
        es = s.port.map fun port => ⟨s.host, port⟩) ∧
    ∀ fault, s.endpoints = .error fault ↔
      (∃ first later, s.port = first :: later ∧ FirstViolated s.host fault.reason ∧
        HostReport s.host fault.reason.message ∧
        fault.text = "tcp://".toList ++ s.host ++ ':' :: Numeral.write first.toNat) ∨
      (IsHost s.host ∧ ∃ earlier later, s.port = earlier ++ 0 :: later ∧ 0 ∉ earlier ∧
        fault.text = "tcp://".toList ++ s.host ++ ":0".toList ∧ fault.reason = .zeroPort ∧
        fault.reason.message = "port must be non-zero".toList) := by
  rw [endpoints_eq_mapM hnone]
  refine ⟨fun _ => mapM_ofHostPort_eq_ok_iff, fun fault => ?_⟩
  rw [mapM_ofHostPort_eq_error_iff]
  constructor
  · rintro (⟨first, later, hports, hfirst, htext⟩ |
      ⟨hhost, earlier, later, hports, hzero, htext, hreason⟩)
    · exact .inl ⟨first, later, hports, hfirst, hfirst.report, htext⟩
    · refine .inr ⟨hhost, earlier, later, hports, hzero, htext, hreason, ?_⟩
      rw [hreason]
      rfl
  · rintro (⟨first, later, hports, hfirst, -, htext⟩ |
      ⟨hhost, earlier, later, hports, hzero, htext, hreason, -⟩)
    · exact .inl ⟨first, later, hports, hfirst, htext⟩
    · exact .inr ⟨hhost, earlier, later, hports, hzero, htext, hreason⟩

/-- A port that is given twice, a zero behind good ports, and a zero in front under a host that is
bad in two ways. -/
theorem endpoints_of_ports_each :
    endpoints { host := "[::1]".toList, port := [7, 8, 7] } =
        .ok [⟨"[::1]".toList, 7⟩, ⟨"[::1]".toList, 8⟩, ⟨"[::1]".toList, 7⟩] ∧
      endpoints { host := ['h'], port := [7, 0, 0] } = .error ⟨"tcp://h:0".toList, .zeroPort⟩ ∧
      endpoints { host := "a: b".toList, port := [0, 7] } =
        .error ⟨"tcp://a: b:0".toList, .bareIpv6⟩ := by
  have hbracketed : IsHost "[::1]".toList := hostFault?_eq_none_iff.1 rfl
  have hplain : IsHost ['h'] := hostFault?_eq_none_iff.1 rfl
  have hbare : FirstViolated "a: b".toList .bareIpv6 := hostFault?_eq_some_iff.1 rfl
  refine ⟨?_, ?_, ?_⟩
  · exact ((endpoints_of_ports rfl).1 _).2 ⟨.inl hbracketed, by decide, rfl⟩
  · exact ((endpoints_of_ports rfl).2 _).2
      (.inr ⟨hplain, [7], [0], rfl, by decide, rfl, rfl, rfl⟩)
  · exact ((endpoints_of_ports rfl).2 _).2 (.inl ⟨0, [7], rfl, hbare, hbare.report, rfl⟩)

end FrameTap.Settings
