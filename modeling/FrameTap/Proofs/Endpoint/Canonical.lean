import FrameTap.Proofs.Endpoint

/-!
# The canonical text of an endpoint

Several texts name one endpoint, and they differ in the writing of the port only.  The text
that an endpoint is shown with is one of them, so showing what was read changes a text at
most once, and endpoints can be told apart by their texts.
-/

namespace FrameTap.Endpoint

/-- The endpoint came from the reader or from a host and a port. -/
def Produced (e : Endpoint) : Prop :=
  (∃ s, parse s = .ok e) ∨ ∃ host port, ofHostPort host port = .ok e

/-- The text that is shown for a text that was read. -/
def normalize (s : Text) : Except ParseError Text := (parse s).map display

theorem Produced.accepted {e : Endpoint} (h : Produced e) : e.Accepted := by
  rcases h with ⟨s, hs⟩ | ⟨host, port, hs⟩
  · exact accepted_of_parse hs
  · exact accepted_of_parse hs

variable {s : Text} {e e' : Endpoint}

theorem normalize_of_parse (h : parse s = .ok e) : normalize s = .ok e.display := by
  rw [normalize, h]
  rfl

theorem display_injective (h : e.Accepted) (h' : e'.Accepted) (heq : e.display = e'.display) :
    e = e' := by
  have hread := parse_display h
  rw [heq, parse_display h'] at hread
  exact (Except.ok.inj hread).symm

/-- The shown text has the scheme and the host of the text that was read, so only the port can
make a difference. -/
theorem Spells.display_eq_iff {port : Text} (h : Spells s e.host port e.port.toNat) :
    e.display = s ↔ port = Numeral.write e.port.toNat := by
  rw [h.text, display, address]
  constructor
  · intro heq
    exact (List.cons.inj (List.append_cancel_left heq)).2.symm
  · intro heq
    rw [heq]
    rfl

/-- The text of an endpoint names it.  It is the same for all texts that name this endpoint and
for no other, and among them it is the one whose port has neither a plus sign nor a leading
zero. -/
theorem display_canonical :
    (∀ e, Produced e → parse e.display = .ok e) ∧
      (∀ s e, parse s = .ok e →
        normalize s = .ok e.display ∧ normalize e.display = .ok e.display) ∧
      (∀ s s' e e', parse s = .ok e → parse s' = .ok e' →
        (e = e' ↔ normalize s = normalize s')) ∧
      (∀ s e, parse s = .ok e → ∃ port, Spells s e.host port e.port.toNat ∧
        (e.display = s ↔ port = Numeral.write e.port.toNat) ∧
        (e.display = s ↔ port.head? ≠ some '+' ∧ port.head? ≠ some '0')) ∧
      ∀ e e', Produced e → Produced e' → e.display = e'.display → e = e' := by
  refine ⟨fun e h => parse_display h.accepted, ?_, ?_, ?_, ?_⟩
  · intro s e h
    exact ⟨normalize_of_parse h, normalize_of_parse (parse_display (accepted_of_parse h))⟩
  · intro s s' e e' h h'
    rw [normalize_of_parse h, normalize_of_parse h']
    constructor
    · rintro rfl
      rfl
    · intro heq
      exact display_injective (accepted_of_parse h) (accepted_of_parse h') (Except.ok.inj heq)
  · intro s e h
    obtain ⟨port, hport⟩ := parse_eq_ok_iff.1 h
    have hpositive := Nat.one_le_iff_ne_zero.1 hport.pos
    exact ⟨port, hport, hport.display_eq_iff,
      hport.display_eq_iff.trans (Numeral.eq_write_iff hport.port hpositive)⟩
  · intro e e' h h' heq
    exact display_injective h.accepted h'.accepted heq

example : normalize "tcp://[::1]:+0080".toList = .ok "tcp://[::1]:80".toList := rfl

end FrameTap.Endpoint
