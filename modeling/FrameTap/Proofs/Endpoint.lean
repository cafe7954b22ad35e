import FrameTap.Proofs.Endpoint.Grammar

/-!
# Endpoints and their texts

The text of an endpoint need not be the one that it was read from: leading zeros and a plus
sign of the port are gone.  It names the same endpoint all the same.  It is a single line
without any white space, as the host has none.
-/

namespace FrameTap.Endpoint

/-- What an endpoint that was read from a text fulfils. -/
def Accepted (e : Endpoint) : Prop := hostFault? e.host = none ∧ e.port ≠ 0

theorem accepted_of_parse {t : Text} {e : Endpoint} (h : parse t = .ok e) : e.Accepted := by
  obtain ⟨port, hspells⟩ := parse_eq_ok_iff.1 h
  exact ⟨hostFault?_eq_none_iff.2 hspells.host, one_le_toNat_iff.1 hspells.pos⟩

/-- The text of an accepted endpoint names it. -/
theorem parse_display {e : Endpoint} (h : e.Accepted) : parse e.display = .ok e :=
  parse_eq_ok_iff.2 ⟨Numeral.write e.port.toNat, rfl, hostFault?_eq_none_iff.1 h.1,
    Numeral.denotes_write _, one_le_toNat_iff.2 h.2, Nat.le_of_lt_succ e.port.toNat_lt⟩

/-! ## Hosts and ports that are given apart -/

variable {host : Text} {port : UInt16} {e : Endpoint}

theorem readPort_write (port : UInt16) :
    readPort (Numeral.write port.toNat) = if port = 0 then .error .zeroPort else .ok port := by
  by_cases hport : port = 0
  · rw [if_pos hport, hport]
    rfl
  · rw [if_neg hport]
    exact readPort_eq_ok_iff.2 ⟨Numeral.denotes_write _, one_le_toNat_iff.2 hport⟩

/-- The last colon is the one in front of the port, as the port has none, so the host that is
read is the host that was given. -/
theorem read_address (host : Text) (port : UInt16) :
    read (address host port) =
      match hostFault? host with
      | some reason => .error reason
      | none => if port = 0 then .error .zeroPort else .ok ⟨host, port⟩ := by
  have hcut : Cut (address host port) host (Numeral.write port.toNat) :=
    ⟨rfl, colon_notMem_of_denotes (Numeral.denotes_write port.toNat)⟩
  rw [hcut.read_eq, readPort_write]
  cases hostFault? host with
  | some reason => rfl
  | none => by_cases hport : port = 0 <;> simp only [hport, if_true, if_false] <;> rfl

theorem ofHostPort_eq_ok_iff :
    ofHostPort host port = .ok e ↔ IsHost host ∧ port ≠ 0 ∧ e = ⟨host, port⟩ := by
  rw [ofHostPort, parse_eq_ok_iff_read, read_address, ← hostFault?_eq_none_iff]
  cases hostFault? host with
  | some reason => simp
  | none => by_cases hport : port = 0 <;> simp [hport, eq_comm]

/-- A host that was given apart is the host of the endpoint. -/
theorem host_of_ofHostPort (h : ofHostPort host port = .ok e) : e.host = host := by
  obtain ⟨-, -, rfl⟩ := ofHostPort_eq_ok_iff.1 h
  rfl

/-! ## Blanks -/

/-- The text of an accepted endpoint has no white space. -/
theorem blank_notMem_display {e : Endpoint} (h : e.Accepted) {c : Char}
    (hc : Text.isBlank c = true) : c ∉ e.display := by
  have hscheme : scheme.all (fun d => !Text.isBlank d) = true := by decide
  have hdigits : ∀ d < 10, Text.isBlank (Nat.digitChar d) = false := by decide
  obtain ⟨port, hspells⟩ := parse_eq_ok_iff.1 (parse_display h)
  rw [hspells.mem_iff]
  · exact fun hm => hspells.host.unbroken c hm (Text.isBlank_iff.1 hc)
  · intro hm
    have hnone := List.all_eq_true.1 hscheme c hm
    rw [hc] at hnone
    cases hnone
  · intro hdigit
    obtain ⟨hlt, hchar⟩ := Numeral.digitChar_of_isDigit hdigit
    rw [← hchar, hdigits _ hlt] at hc
    cases hc
  · rintro rfl
    cases hc

/-- The text of an accepted endpoint is a single line. -/
theorem newline_notMem_display {e : Endpoint} (h : e.Accepted) : '\n' ∉ e.display :=
  blank_notMem_display h (by decide)

end FrameTap.Endpoint
