import FrameTap.Proofs.Endpoint

/-!
# Endpoints from their parts

An endpoint may be made of a host and a port that are given apart.  The two are put together as a
text and this text is read, so a host with colons, digits or a scheme of its own might be taken
for something else.  It is not: a port is written without a colon, and so the last colon of the
text is the one between the two parts.

What remains are the conditions on a host and the one on a port.  They are tested in an order
(`hostReasons`), and the first that is violated (`FirstViolated`) is reported with a text of its
own (`HostReport`).
-/

namespace FrameTap.Endpoint

/-! ## Conditions on a host -/

/-- The host violates the condition that the reason names. -/
def Violates (host : Text) : Reason → Prop
  | .missingHost => host = []
  | .unbalancedBrackets => ¬ (host.head? = some '[' ↔ host.getLast? = some ']')
  | .bareIpv6 => ':' ∈ host ∧ host.head? ≠ some '['
  | .blankInHost => ∃ c ∈ host, Text.WhiteSpace c
  | .scheme | .missingPort | .zeroPort | .portNumber => False

/-- The conditions on a host, in the order of their tests. -/
def hostReasons : List Reason := [.missingHost, .unbalancedBrackets, .bareIpv6, .blankInHost]

/-- The host keeps all conditions up to this one, and violates this one. -/
def FirstViolated (host : Text) (reason : Reason) : Prop :=
  ∃ earlier later, hostReasons = earlier ++ reason :: later ∧
    (∀ kept ∈ earlier, ¬ Violates host kept) ∧ Violates host reason

/-- The host is reported with this text, which belongs to the first condition it violates. -/
def HostReport (host why : Text) : Prop :=
  FirstViolated host .missingHost ∧ why = "missing host".toList ∨
  FirstViolated host .unbalancedBrackets ∧ why = "unbalanced brackets in host".toList ∨
  FirstViolated host .bareIpv6 ∧ why = "ipv6 hosts must be bracketed".toList ∨
  FirstViolated host .blankInHost ∧ why = "whitespace in host".toList

/-- The test for a condition. -/
def fails (host : Text) : Reason → Bool
  | .missingHost => host.isEmpty
  | .unbalancedBrackets => opensBracket host != closesBracket host
  | .bareIpv6 => !opensBracket host && host.contains ':'
  | .blankInHost => host.any Text.isBlank
  | .scheme | .missingPort | .zeroPort | .portNumber => false

variable {host : Text} {port : UInt16} {reason : Reason} {e : Endpoint}

theorem fails_iff : fails host reason = true ↔ Violates host reason := by
  cases reason with
  | missingHost => exact List.isEmpty_iff
  | unbalancedBrackets =>
    show (opensBracket host != closesBracket host) = true ↔ _
    rw [bne_iff_ne, Ne, Bool.eq_iff_iff, opensBracket_iff, closesBracket_iff]
    rfl
  | bareIpv6 =>
    show (!opensBracket host && host.contains ':') = true ↔ _
    rw [Bool.and_eq_true, Bool.not_eq_true', ← Bool.not_eq_true, opensBracket_iff,
      List.contains_iff_mem, and_comm]
    rfl
  | blankInHost =>
    show host.any Text.isBlank = true ↔ _
    simp only [List.any_eq_true, Text.isBlank_iff]
    rfl
  | scheme | missingPort | zeroPort | portNumber => exact iff_of_false Bool.false_ne_true id

theorem hostFault?_eq_find? (host : Text) : hostFault? host = hostReasons.find? (fails host) := by
  rw [hostFault?, hostReasons]
  simp only [List.find?_cons, List.find?_nil, fails]
  cases host.isEmpty <;> cases opensBracket host != closesBracket host <;>
    cases !opensBracket host && host.contains ':' <;> cases host.any Text.isBlank <;> rfl

/-- The fault that is found is the first condition that is violated. -/
theorem hostFault?_eq_some_iff : hostFault? host = some reason ↔ FirstViolated host reason := by
  rw [hostFault?_eq_find?, List.find?_eq_some_iff_append, fails_iff, FirstViolated]
  simp only [Bool.not_eq_true', ← Bool.not_eq_true, fails_iff]
  tauto

theorem FirstViolated.reason_cases (h : FirstViolated host reason) :
    reason = .missingHost ∨ reason = .unbalancedBrackets ∨ reason = .bareIpv6 ∨
      reason = .blankInHost := by
  obtain ⟨earlier, later, heq, -⟩ := h
  have hmem : reason ∈ hostReasons := by
    rw [heq]
    exact List.mem_append_right earlier List.mem_cons_self
  simpa only [hostReasons, List.mem_cons, List.not_mem_nil, or_false] using hmem

theorem FirstViolated.report (h : FirstViolated host reason) : HostReport host reason.message := by
  rcases h.reason_cases with rfl | rfl | rfl | rfl
  · exact .inl ⟨h, rfl⟩
  · exact .inr (.inl ⟨h, rfl⟩)
  · exact .inr (.inr (.inl ⟨h, rfl⟩))
  · exact .inr (.inr (.inr ⟨h, rfl⟩))

/-- A host with a violated condition is none that keeps them all. -/
theorem FirstViolated.not_isHost (h : FirstViolated host reason) : ¬ IsHost host := by
  intro hhost
  have hnone := hostFault?_eq_none_iff.2 hhost
  rw [hostFault?_eq_some_iff.2 h] at hnone
  cases hnone

/-! ## What becomes of a host and a port -/

/-- A text that is put together from a host and a port names an endpoint with this host where the
port is one. -/
theorem parse_text_iff {text : Text} (hhost : IsHost host) :
    parse ("tcp://".toList ++ host ++ ':' :: text) = .ok e ∧ e.host = host ↔
      e.host = host ∧ readPort text = .ok e.port := by
  rw [parse_eq_ok_iff, readPort_eq_ok_iff, and_comm]
  refine and_congr_right ?_
  rintro rfl
  constructor
  · rintro ⟨text', hspells⟩
    -- with the host known, what stands behind it can only be the port that was given
    obtain rfl : text = text' := (List.cons.inj (List.append_cancel_left hspells.text)).2
    exact ⟨hspells.port, hspells.pos⟩
  · rintro ⟨hport, hpos⟩
    exact ⟨text, rfl, hhost, hport, hpos, Nat.le_of_lt_succ e.port.toNat_lt⟩

theorem ofHostPort_eq_error {fault : ParseError} (h : ofHostPort host port = .error fault) :
    fault.text = address host port ∧ (FirstViolated host fault.reason ∨
      IsHost host ∧ port = 0 ∧ fault.reason = .zeroPort) := by
  obtain ⟨reason, hread, rfl⟩ := mapError_eq_error_iff.1 h
  refine ⟨rfl, ?_⟩
  rw [read_address] at hread
  cases hfault : hostFault? host with
  | some first =>
    rw [hfault] at hread
    cases hread
    exact .inl (hostFault?_eq_some_iff.1 hfault)
  | none =>
    rw [hfault] at hread
    by_cases hport : port = 0
    · simp only [if_pos hport, Except.error.injEq] at hread
      exact .inr ⟨hostFault?_eq_none_iff.1 hfault, hport, hread.symm⟩
    · simp only [if_neg hport, reduceCtorEq] at hread

theorem ofHostPort_eq_error_iff {fault : ParseError} :
    ofHostPort host port = .error fault ↔
      fault.text = address host port ∧ (FirstViolated host fault.reason ∨
        IsHost host ∧ port = 0 ∧ fault.reason = .zeroPort) := by
  constructor
  · exact ofHostPort_eq_error
  · rintro ⟨htext, hreason⟩
    refine mapError_eq_error_iff.2 ⟨fault.reason, ?_, by rw [← htext]⟩
    rw [read_address]
    rcases hreason with hfirst | ⟨hhost, hzero, hreason⟩
    · rw [hostFault?_eq_some_iff.2 hfirst]
    · rw [hostFault?_eq_none_iff.2 hhost, hreason]
      exact if_pos hzero

/-- A host and a port make an endpoint where the port is not zero and the host keeps its
conditions, and then they are the parts of this endpoint, whatever the host holds.  Otherwise
the error keeps the text of the two, and its reason is the first condition on a host that is
violated, reported with the text of this condition, or the port where there is none.  That the
scheme, the port or a number is missing is never the reason. -/
theorem ofHostPort_outcome (host : Text) (port : UInt16) :
    ((∃ e, ofHostPort host port = .ok e) ↔ port ≠ 0 ∧ IsHost host) ∧
      (∀ e, ofHostPort host port = .ok e → e.host = host ∧ e.port = port) ∧
      ∀ fault, ofHostPort host port = .error fault →
        fault.text = "tcp://".toList ++ host ++ ':' :: Numeral.write port.toNat ∧
          (¬ IsHost host → FirstViolated host fault.reason ∧
            HostReport host fault.reason.message) ∧
          (IsHost host → fault.reason.message = "port must be non-zero".toList) ∧
          fault.reason ≠ .scheme ∧ fault.reason ≠ .missingPort ∧ fault.reason ≠ .portNumber := by
  refine ⟨?_, ?_, ?_⟩
  · constructor
    · rintro ⟨e, he⟩
      obtain ⟨hhost, hport, -⟩ := ofHostPort_eq_ok_iff.1 he
      exact ⟨hport, hhost⟩
    · rintro ⟨hport, hhost⟩
      exact ⟨⟨host, port⟩, ofHostPort_eq_ok_iff.2 ⟨hhost, hport, rfl⟩⟩
  · intro e he
    obtain ⟨-, -, rfl⟩ := ofHostPort_eq_ok_iff.1 he
    exact ⟨rfl, rfl⟩
  · intro fault hfault
    obtain ⟨htext, hreason⟩ := ofHostPort_eq_error hfault
    refine ⟨htext, ?_⟩
    rcases hreason with hfirst | ⟨hhost, -, hzero⟩
    · refine ⟨fun _ => ⟨hfirst, hfirst.report⟩, fun hhost => absurd hhost hfirst.not_isHost, ?_⟩
      rcases hfirst.reason_cases with heq | heq | heq | heq <;> simp [heq]
    · rw [hzero]
      exact ⟨fun hnot => absurd hhost hnot, fun _ => rfl, by decide, by decide, by decide⟩

end FrameTap.Endpoint
