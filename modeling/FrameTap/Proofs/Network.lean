import FrameTap.Network
import FrameTap.Proofs.Endpoint.Canonical
import FrameTap.Proofs.Listener.Setup

/-!
# Handing addresses over

The tests of a host look for brackets, colons and white space, and a NUL character is none of
these.  So an endpoint may be accepted whose address cannot be handed over to a transport, and
the attempt to connect to it breaks the program off (`nul_host_breaks_off`).  Nothing else
does: without this character an attempt ends with what the transport says, and setting up
returns what the transport refuses as an error (`handover_accepted`).
-/

namespace FrameTap

open Endpoint

/-- What a caller learns of an attempt to connect, if the attempt comes to an end. -/
def Handover.result? : Handover → Option (Except Error Unit)
  | .taken => some (.ok ())
  | .refused code => some (.error (.transport code))
  | .broken => none

/-- A subscriber socket of any transport, `said` being what the transport says to the address of
each attempt.  As in `Network.subscriber`, what stands for the answer of an attempt that breaks
off is never seen. -/
def Socket.ofTransport (subscribed : Except Transport.Code Unit)
    (said : Nat → Endpoint → Except Transport.Code Unit) : Socket where
  subscribe := subscribed.mapError .transport
  connect n e := (Handover.of e (said n e)).result?.getD (.error (.transport .einval))

/-- The sockets of a network are among these. -/
theorem Network.subscriber_eq (network : Network) :
    network.subscriber =
      .ofTransport (if network.terminated then .error .eterm else .ok ())
        fun _ e => network.answer e := by
  have hcall : network.call =
      (if network.terminated then .error .eterm else .ok () : Except _ Unit).mapError
        .transport := by
    rw [Network.call]
    split <;> rfl
  rw [Network.subscriber, Socket.ofTransport, hcall]
  congr
  funext n e
  rw [Network.connect]
  cases Handover.of e (network.answer e) <;> rfl

variable {e : Endpoint} {answer : Except Transport.Code Unit}

/-! ## One address -/

theorem Handover.of_eq_broken_iff : Handover.of e answer = .broken ↔ '\x00' ∈ e.display := by
  rw [← List.contains_iff_mem]
  unfold Handover.of
  split
  · rename_i h
    exact iff_of_true rfl h
  · rename_i h
    refine iff_of_false ?_ h
    cases answer <;> nofun

theorem Handover.result?_of (h : '\x00' ∉ e.display) :
    (Handover.of e answer).result? = some (answer.mapError .transport) := by
  unfold Handover.of
  rw [if_neg (by rwa [List.contains_iff_mem])]
  cases answer <;> rfl

theorem Endpoint.nul_mem_iff {s : Text} (h : parse s = .ok e) : '\x00' ∈ s ↔ '\x00' ∈ e.host := by
  obtain ⟨port, hspells⟩ := parse_eq_ok_iff.1 h
  refine hspells.mem_iff (by decide) ?_ (by decide)
  unfold Numeral.IsDigit
  decide

theorem Endpoint.nul_mem_display_iff (h : Produced e) : '\x00' ∈ e.display ↔ '\x00' ∈ e.host :=
  nul_mem_iff (parse_display h.accepted)

theorem Handover.of_produced (h : Produced e) :
    Handover.of e answer = .broken ↔ '\x00' ∈ e.host :=
  of_eq_broken_iff.trans (nul_mem_display_iff h)

/-! ## Setting up -/

theorem Network.breaksOff_iff (network : Network) (events : List Event) :
    network.breaksOff events = true ↔ ∃ e, .connecting e ∈ events ∧ '\x00' ∈ e.display := by
  rw [Network.breaksOff, List.any_eq_true]
  constructor
  · rintro ⟨event, hmem, hbroken⟩
    split at hbroken
    · exact ⟨_, hmem, Handover.of_eq_broken_iff.1 (of_decide_eq_true hbroken)⟩
    · cases hbroken
  · rintro ⟨e, hmem, hnul⟩
    exact ⟨_, hmem, decide_eq_true (Handover.of_eq_broken_iff.2 hnul)⟩

theorem Socket.connect_ofTransport {subscribed : Except Transport.Code Unit}
    {said : Nat → Endpoint → Except Transport.Code Unit} (h : '\x00' ∉ e.display) (n : Nat) :
    (Socket.ofTransport subscribed said).connect n e = (said n e).mapError .transport := by
  show (Handover.of e (said n e)).result?.getD _ = _
  rw [Handover.result?_of h]
  rfl

theorem connecting_mem_setup {l : Listener} {socket : Socket} {es : List Endpoint}
    (h : .connecting e ∈ (l.setup socket es).events) : e ∈ es := by
  rcases Listener.call_of_mem_setup h rfl with h | ⟨e', he', h⟩
  · cases h
  · cases h
    exact he'

/-- The attempt to connect to an accepted endpoint breaks off exactly where there is a NUL
character in the text or in the host that the endpoint was made from.  Other endpoints are
answered with what the transport says.  A listener that is set up with such endpoints makes no
attempt that breaks off.  It fails where the transport refuses one of its calls, and then returns
the code of the refusal; apart from this it fails over its sink and without any endpoint. -/
theorem handover_accepted (subscribed : Except Transport.Code Unit)
    (said : Nat → Endpoint → Except Transport.Code Unit) :
    (∀ s e n, parse s = .ok e → (Handover.of e (said n e) = .broken ↔ '\x00' ∈ s)) ∧
    (∀ host port e n, ofHostPort host port = .ok e →
      (Handover.of e (said n e) = .broken ↔ '\x00' ∈ host)) ∧
    (∀ e n, Produced e → '\x00' ∉ e.host →
      (Handover.of e (said n e)).result? = some ((said n e).mapError .transport)) ∧
    (∀ (network : Network) (l : Listener) (es : List Endpoint), (∀ e ∈ es, Produced e) →
      let o := l.setup network.subscriber es
      (network.breaksOff o.events = true ↔ ∃ e, .connecting e ∈ o.events ∧ '\x00' ∈ e.host)) ∧
    ∀ (l : Listener) (es : List Endpoint), (∀ e ∈ es, Produced e ∧ '\x00' ∉ e.host) →
      let o := l.setup (.ofTransport subscribed said) es
      (∀ e n, .connecting e ∈ o.events → Handover.of e (said n e) ≠ .broken) ∧
        (o.result = .ok () ↔ es ≠ [] ∧ subscribed = .ok () ∧
          (∀ i (h : i < es.length), said i es[i] = .ok ()) ∧
          l.printer.Succeeds (es.map .announce)) ∧
        ∀ error, o.result = .error error →
          (∃ code, error = .transport code ∧
            (subscribed = .error code ∨ ∃ i, ∃ h : i < es.length, said i es[i] = .error code)) ∨
          (∃ fault, error = .output fault) ∨ es = [] ∧ error = .noEndpoints := by
  refine ⟨?_, ?_, ?_, ?_, ?_⟩
  · intro s e n h
    exact (Handover.of_produced (.inl ⟨s, h⟩)).trans (nul_mem_iff h).symm
  · intro host port e n h
    have hbroken : Handover.of e (said n e) = .broken ↔ _ :=
      Handover.of_produced (.inr ⟨host, port, h⟩)
    rwa [host_of_ofHostPort h] at hbroken
  · intro e n h hnul
    exact Handover.result?_of fun hdisplay => hnul ((nul_mem_display_iff h).1 hdisplay)
  · intro network l es hes o
    rw [network.breaksOff_iff]
    refine exists_congr fun e => and_congr_right fun hmem => ?_
    exact nul_mem_display_iff (hes e (connecting_mem_setup hmem))
  · intro l es hes o
    -- No address has the character, so the socket passes on what the transport says.
    have hdisplay : ∀ e ∈ es, '\x00' ∉ e.display := fun e he hnul =>
      (hes e he).2 ((nul_mem_display_iff (hes e he).1).1 hnul)
    have hconnect : ∀ i (h : i < es.length),
        (Socket.ofTransport subscribed said).connect i es[i] =
          (said i es[i]).mapError .transport :=
      fun i h => Socket.connect_ofTransport (hdisplay _ (List.getElem_mem h)) i
    refine ⟨?_, ?_, ?_⟩
    · intro e n hmem hbroken
      exact hdisplay e (connecting_mem_setup hmem) (Handover.of_eq_broken_iff.1 hbroken)
    · rw [show o.result = .ok () ↔ _ from Listener.setup_ok_iff, Listener.Willing]
      refine and_congr_right fun _ => and_congr mapError_eq_ok_iff (and_congr_left fun _ => ?_)
      refine forall_congr' fun i => forall_congr' fun h => ?_
      rw [hconnect i h, mapError_eq_ok_iff]
    · intro error herror
      rcases Listener.setup_eq_error herror with hnone | hsubscribe | ⟨i, hi, h⟩ | houtput
      · exact .inr (.inr hnone)
      · obtain ⟨code, hsaid, rfl⟩ := mapError_eq_error_iff.1 hsubscribe
        exact .inl ⟨code, rfl, .inl hsaid⟩
      · obtain ⟨code, hsaid, rfl⟩ := mapError_eq_error_iff.1 ((hconnect i hi).symm.trans h)
        exact .inl ⟨code, rfl, .inr ⟨i, hi, hsaid⟩⟩
      · exact .inr (.inl houtput)

/-- A host with a NUL character is let through, in a text and given apart, and setting up with
it breaks off. -/
theorem nul_host_breaks_off :
    let e : Endpoint := ⟨"a\x00".toList, 1⟩
    let network : Network := { link := .up }
    let l : Listener := { pollInterval := .ofMillis 100 }
    parse "tcp://a\x00:1".toList = .ok e ∧ ofHostPort "a\x00".toList 1 = .ok e ∧
      network.connect e = .broken ∧
      network.breaksOff (l.setup network.subscriber [e]).events = true ∧
      ¬ ∀ e answer, Produced e → (Handover.of e answer).result? ≠ none := by
  intro e network l
  refine ⟨rfl, rfl, by decide, by decide, fun h => ?_⟩
  exact h e (.ok ()) (.inl ⟨"tcp://a\x00:1".toList, rfl⟩) rfl

end FrameTap
