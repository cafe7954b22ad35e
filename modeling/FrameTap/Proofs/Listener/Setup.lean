import FrameTap.Proofs.Listener.Run

/-!
# The course of setting up

Setting up subscribes once and then takes the endpoints in their order: it connects to one,
announces it and flushes the announcement before it connects to the next.  The first call
that fails ends it, and what the failing call left in the sink is all that is behind the
announcements in full.

`connectAll_course` shows this by induction on the endpoints, with the attempts counted from
any number.
-/

namespace FrameTap

open Sink

/-! ## What an operation shows -/

/-- What an operation does to the sink, read off its rendering. -/
theorem Event.ofStep_perform (p : Printer) (op : Printer.Operation) :
    let line := Printer.rendering p.format p.printed op
    ofStep p (p.perform op) =
      (if p.sink.fitting line = [] then [] else [wrote (p.sink.fitting line)]) ++
        if p.sink.Fits line then [flushed (p.perform op).result.isOk] else [] := by
  intro line
  have hput := p.perform_put op
  rw [ofStep, hput.gained, hput.flushes]
  simp only [List.isEmpty_iff]
  refine congrArg _ ?_
  by_cases hf : p.sink.Fits line
  · rw [if_pos hf, if_pos hf, if_neg (Nat.succ_ne_self _)]
  · rw [if_neg hf, if_neg hf, if_pos (Nat.add_zero _)]

/-- An operation that succeeds writes all of its rendering and flushes once. -/
theorem Event.ofStep_of_ok {p : Printer} {op : Printer.Operation}
    (h : (p.perform op).result = .ok ()) :
    ofStep p (p.perform op) =
      [wrote (Printer.rendering p.format p.printed op), flushed true] := by
  have hfits := ((p.perform_put op).ok_iff.1 h).1
  have hline : p.sink.fitting (Printer.rendering p.format p.printed op) = _ := hfits
  rw [ofStep_perform, if_pos hfits, hline, if_neg (Printer.rendering_ne_nil _ _ _), h]
  rfl

theorem Event.output_append (events more : List Event) :
    output (events ++ more) = output events ++ output more := List.flatMap_append

theorem Event.output_wrote (bytes : Bytes) : output [wrote bytes] = bytes := List.append_nil bytes

/-- What an operation adds to the content is what its events write. -/
theorem Event.output_ofStep (p : Printer) (op : Printer.Operation) :
    (p.perform op).printer.sink.content =
      p.sink.content ++ Event.output (ofStep p (p.perform op)) := by
  have hput := p.perform_put op
  rw [hput.content, ofStep_perform]
  refine congrArg _ ?_
  rw [output_append]
  split
  · rename_i hnil
    rw [hnil]
    split <;> rfl
  · split
    · rw [output_wrote]
      exact (List.append_nil _).symm
    · rw [output_wrote]
      exact (List.append_nil _).symm

namespace Listener

open Printer

/-! ## Connecting -/

/-- The listener after the announcements of the endpoints. -/
def announced (l : Listener) (es : List Endpoint) : Listener :=
  { l with printer := l.printer.after (es.map .announce) }

/-- What an endpoint shows that is connected and announced in full. -/
def announcing (e : Endpoint) : List Event :=
  [.connecting e, .wrote (announcementLine e), .flushed true]

/-- What an announcement shows that fails: the part of its line that the sink has room for,
and a flush only behind all of it. -/
def attempted (p : Printer) (e : Endpoint) : List Event :=
  (if p.sink.fitting (announcementLine e) = [] then []
    else [.wrote (p.sink.fitting (announcementLine e))]) ++
    if p.sink.Fits (announcementLine e) then [.flushed false] else []

theorem ofStep_announce_of_error {p : Printer} {e : Endpoint} {error : Error}
    (h : (p.announce e).result = .error error) :
    Event.ofStep p (p.announce e) = attempted p e := by
  have hstep := Event.ofStep_perform p (.announce e)
  have hresult : (p.perform (.announce e)).result = .error error := h
  rw [hresult] at hstep
  exact hstep

/-- How the connecting ends behind the endpoints that are `done`, the attempt on the next
being the `n`-th: there is none left, the next refuses to connect, or its announcement fails. -/
inductive Stop (socket : Socket) (n : Nat) (l : Listener) (done : List Endpoint) :
    List Endpoint → Outcome → Prop where
  | finished : Stop socket n l done [] ⟨l.announced done, .ok (), done.flatMap announcing⟩
  | unconnected (e : Endpoint) (behind : List Endpoint) (error : Error)
      (h : socket.connect n e = .error error) :
      Stop socket n l done (e :: behind)
        ⟨l.announced done, .error error, done.flatMap announcing ++ [.connecting e]⟩
  | unannounced (e : Endpoint) (behind : List Endpoint) (error : Error)
      (hc : socket.connect n e = .ok ())
      (h : ((l.announced done).printer.announce e).result = .error error) :
      Stop socket n l done (e :: behind)
        ⟨l.announced (done ++ [e]), .error error,
          done.flatMap announcing ++
            .connecting e :: attempted (l.announced done).printer e⟩

theorem announced_cons (l : Listener) (e : Endpoint) (es : List Endpoint) :
    l.announced (e :: es) =
      Listener.announced { l with printer := (l.printer.announce e).printer } es := rfl

/-- One more endpoint in front that was connected and announced. -/
theorem Stop.cons {socket : Socket} {n : Nat} {l : Listener} {e : Endpoint}
    {done rest : List Endpoint} {o : Outcome} (hok : (l.printer.announce e).result = .ok ())
    (h : Stop socket (n + 1 + done.length)
      { l with printer := (l.printer.announce e).printer } done rest o) :
    Stop socket (n + (e :: done).length) l (e :: done) rest
      { o with events :=
          .connecting e :: Event.ofStep l.printer (l.printer.announce e) ++ o.events } := by
  have hresult : (l.printer.perform (.announce e)).result = .ok () := hok
  have hstep := Event.ofStep_of_ok hresult
  have hevents : .connecting e :: Event.ofStep l.printer (l.printer.announce e) =
      announcing e := congrArg _ hstep
  have hn : n + (e :: done).length = n + 1 + done.length := by
    rw [List.length_cons]
    omega
  rw [hevents, hn]
  cases h with
  | finished => exact .finished
  | unconnected e' behind error h =>
    have hs : Stop socket _ l (e :: done) (e' :: behind) _ := .unconnected e' behind error h
    rwa [List.flatMap_cons, List.append_assoc] at hs
  | unannounced e' behind error hc h =>
    have hs : Stop socket _ l (e :: done) (e' :: behind) _ :=
      .unannounced e' behind error hc h
    rwa [List.flatMap_cons, List.append_assoc] at hs

/-- The endpoints are connected and announced one after the other up to the first failure. -/
theorem connectAll_course (socket : Socket) (n : Nat) (l : Listener) (es : List Endpoint) :
    ∃ done rest, es = done ++ rest ∧
      (∀ i (h : i < done.length), socket.connect (n + i) done[i] = .ok ()) ∧
      l.printer.Succeeds (done.map .announce) ∧
      Stop socket (n + done.length) l done rest (connectAll socket n l es) := by
  induction es generalizing n l with
  | nil =>
    refine ⟨[], [], rfl, ?_, trivial, .finished⟩
    intro i h
    exact absurd h (Nat.not_lt_zero i)
  | cons e es ih =>
    have hnone : ∀ i (h : i < ([] : List Endpoint).length),
        socket.connect (n + i) ([] : List Endpoint)[i] = .ok () := by
      intro i h
      exact absurd h (Nat.not_lt_zero i)
    rw [connectAll]
    split
    · rename_i error hc
      exact ⟨[], e :: es, rfl, hnone, trivial, .unconnected e es error hc⟩
    · rename_i hc
      dsimp only
      split
      · rename_i error ha
        rw [ofStep_announce_of_error ha]
        exact ⟨[], e :: es, rfl, hnone, trivial, .unannounced e es error hc ha⟩
      · rename_i hok
        obtain ⟨done, rest, hes, hconnect, hs, hstop⟩ :=
          ih (n + 1) { l with printer := (l.printer.announce e).printer }
        refine ⟨e :: done, rest, congrArg _ hes, ?_, ⟨hok, hs⟩, hstop.cons hok⟩
        intro i h
        cases i with
        | zero => exact hc
        | succ i =>
          have hi := hconnect i (Nat.lt_of_succ_lt_succ h)
          rwa [Nat.add_assoc, Nat.add_comm 1 i] at hi

/-! ## Calls, content and result -/

variable {socket : Socket} {n : Nat} {l : Listener} {done rest : List Endpoint} {o : Outcome}

theorem filter_isCall_attempted (p : Printer) (e : Endpoint) :
    (attempted p e).filter Event.isCall = [] := by
  rw [attempted, List.filter_append]
  split <;> split <;> rfl

theorem filter_isCall_announcing (es : List Endpoint) :
    (es.flatMap announcing).filter Event.isCall = es.map .connecting := by
  induction es with
  | nil => rfl
  | cons e es ih =>
    rw [List.flatMap_cons, List.filter_append, ih]
    rfl

/-- The calls are the attempts to connect: all that were done and the one that failed. -/
theorem Stop.calls (h : Stop socket n l done rest o) :
    o.events.filter Event.isCall = (done ++ rest.take 1).map .connecting := by
  cases h with
  | finished =>
    rw [List.take_nil, List.append_nil]
    exact filter_isCall_announcing done
  | unconnected e behind error h =>
    rw [List.filter_append, filter_isCall_announcing, List.map_append]
    rfl
  | unannounced e behind error hc h =>
    rw [List.filter_append, filter_isCall_announcing, List.map_append]
    exact congrArg (fun calls => _ ++ .connecting e :: calls) (filter_isCall_attempted _ e)

theorem content_announced (hs : l.printer.Succeeds (done.map .announce)) :
    (l.announced done).printer.sink.content =
      l.printer.sink.content ++ Event.output (done.flatMap announcing) := by
  induction done generalizing l with
  | nil => exact (List.append_nil _).symm
  | cons e done ih =>
    have hfirst := Event.output_ofStep l.printer (.announce e)
    rw [Event.ofStep_of_ok hs.1] at hfirst
    rw [announced_cons, ih hs.2, List.flatMap_cons, Event.output_append, ← List.append_assoc]
    exact congrArg (· ++ _) hfirst

/-- The sink holds what the events write, and nothing else is written. -/
theorem Stop.content (h : Stop socket n l done rest o)
    (hs : l.printer.Succeeds (done.map .announce)) :
    o.listener.printer.sink.content = l.printer.sink.content ++ Event.output o.events := by
  have hdone := content_announced hs
  cases h with
  | finished => exact hdone
  | unconnected e behind error h =>
    rw [Event.output_append]
    exact hdone.trans (congrArg _ (List.append_nil _).symm)
  | unannounced e behind error hc h =>
    have hlast := Event.output_ofStep (l.announced done).printer (.announce e)
    have hafter : (l.announced (done ++ [e])).printer =
        ((l.announced done).printer.perform (.announce e)).printer := by
      rw [announced, List.map_append]
      exact l.printer.after_append _ _
    rw [hafter, hlast, hdone, Event.output_append, List.append_assoc]
    exact congrArg (fun events => _ ++ (_ ++ Event.output events)) (ofStep_announce_of_error h)

/-- The connecting succeeds where it leaves no endpoint. -/
theorem Stop.ok_iff (h : Stop socket n l done rest o) : o.result = .ok () ↔ rest = [] := by
  cases h with
  | finished => exact iff_of_true rfl rfl
  | unconnected e behind error h => exact iff_of_false (by simp) (List.cons_ne_nil _ _)
  | unannounced e behind error hc h => exact iff_of_false (by simp) (List.cons_ne_nil _ _)

/-! ## Setting up -/

theorem setup_nil (l : Listener) (socket : Socket) :
    l.setup socket [] = ⟨l, .error .noEndpoints, []⟩ := rfl

theorem setup_of_subscribe_error {es : List Endpoint} {error : Error} (hes : es ≠ [])
    (h : socket.subscribe = .error error) :
    l.setup socket es = ⟨l, .error error, [.subscribing]⟩ := by
  rw [setup, if_neg (by simpa using hes), h]

theorem setup_of_subscribe {es : List Endpoint} (hes : es ≠ [])
    (h : socket.subscribe = .ok ()) :
    l.setup socket es =
      { connectAll socket 0 l es with
        events := .subscribing :: .subscribed :: (connectAll socket 0 l es).events } := by
  rw [setup, if_neg (by simpa using hes), h]

/-- The course of setting up where the subscription is accepted. -/
theorem setup_course {es : List Endpoint} (hes : es ≠ []) (h : socket.subscribe = .ok ()) :
    ∃ done rest connecting, es = done ++ rest ∧
      (∀ i (h : i < done.length), socket.connect i done[i] = .ok ()) ∧
      l.printer.Succeeds (done.map .announce) ∧ Stop socket done.length l done rest connecting ∧
      l.setup socket es =
        { connecting with events := .subscribing :: .subscribed :: connecting.events } := by
  obtain ⟨done, rest, hsplit, hconnect, hs, hstop⟩ := l.connectAll_course socket 0 es
  simp only [Nat.zero_add] at hconnect hstop
  exact ⟨done, rest, _, hsplit, hconnect, hs, hstop, setup_of_subscribe hes h⟩

/-- Nothing of what setting up asks for fails. -/
def Willing (socket : Socket) (l : Listener) (es : List Endpoint) : Prop :=
  socket.subscribe = .ok () ∧ (∀ i (h : i < es.length), socket.connect i es[i] = .ok ()) ∧
    l.printer.Succeeds (es.map .announce)

/-- Where nothing fails, no endpoint is left. -/
theorem Stop.rest_eq_nil (h : Stop socket done.length l done rest o)
    (hw : Willing socket l (done ++ rest)) : rest = [] := by
  obtain ⟨-, hconnect, hs⟩ := hw
  cases h with
  | finished => rfl
  | unconnected e behind error h =>
    have he := hconnect done.length (by simp)
    rw [List.getElem_of_append rfl rfl, h] at he
    cases he
  | unannounced e behind error hc h =>
    rw [List.map_append] at hs
    have he : ((l.announced done).printer.announce e).result = .ok () :=
      (succeeds_append_iff.1 hs).2.1
    rw [h] at he
    cases he

theorem setup_of_willing {es : List Endpoint} (hes : es ≠ []) (hw : Willing socket l es) :
    l.setup socket es =
      ⟨l.announced es, .ok (), .subscribing :: .subscribed :: es.flatMap announcing⟩ := by
  obtain ⟨done, rest, connecting, rfl, -, -, hstop, hsetup⟩ := setup_course (l := l) hes hw.1
  obtain rfl := hstop.rest_eq_nil hw
  rw [hsetup, List.append_nil]
  cases hstop with
  | finished => rfl

/-- Setting up succeeds exactly where there is an endpoint and nothing fails. -/
theorem setup_ok_iff {es : List Endpoint} :
    (l.setup socket es).result = .ok () ↔ es ≠ [] ∧ Willing socket l es := by
  constructor
  · intro hok
    have hes : es ≠ [] := by
      rintro rfl
      cases hok
    have hsub : socket.subscribe = .ok () := by
      cases hsub : socket.subscribe with
      | ok u => rfl
      | error error =>
        rw [setup_of_subscribe_error hes hsub] at hok
        cases hok
    obtain ⟨done, rest, connecting, rfl, hconnect, hs, hstop, hsetup⟩ :=
      setup_course (l := l) hes hsub
    rw [hsetup] at hok
    obtain rfl := hstop.ok_iff.1 hok
    rw [List.append_nil] at hes ⊢
    exact ⟨hes, hsub, hconnect, hs⟩
  · rintro ⟨hes, hw⟩
    rw [setup_of_willing hes hw]

/-- Setting up has no endpoint, or is refused the subscription, or comes to connecting. -/
theorem setup_cases (l : Listener) (socket : Socket) (es : List Endpoint) :
    (es = [] ∧ l.setup socket es = ⟨l, .error .noEndpoints, []⟩) ∨
      (∃ error, socket.subscribe = .error error ∧
        l.setup socket es = ⟨l, .error error, [.subscribing]⟩) ∨
      ∃ done rest connecting, es = done ++ rest ∧ Stop socket done.length l done rest connecting ∧
        l.setup socket es =
          { connecting with events := .subscribing :: .subscribed :: connecting.events } := by
  by_cases hes : es = []
  · rw [hes]
    exact .inl ⟨rfl, l.setup_nil socket⟩
  · cases hsub : socket.subscribe with
    | error error => exact .inr (.inl ⟨error, rfl, setup_of_subscribe_error hes hsub⟩)
    | ok u =>
      obtain ⟨done, rest, connecting, hsplit, -, -, hstop, hsetup⟩ :=
        setup_course (l := l) hes hsub
      exact .inr (.inr ⟨done, rest, connecting, hsplit, hstop, hsetup⟩)

/-- The calls of setting up are the subscription and attempts to connect to its endpoints. -/
theorem call_of_mem_setup {es : List Endpoint} {event : Event}
    (h : event ∈ (l.setup socket es).events) (hcall : event.isCall = true) :
    event = .subscribing ∨ ∃ e ∈ es, event = .connecting e := by
  obtain ⟨-, hsetup⟩ | ⟨error, -, hsetup⟩ | ⟨done, rest, connecting, rfl, hstop, hsetup⟩ :=
    l.setup_cases socket es
  · rw [hsetup] at h
    cases h
  · rw [hsetup] at h
    exact .inl (List.mem_singleton.1 h)
  · rw [hsetup] at h
    have hevent : event = .subscribing ∨ event = .subscribed ∨ event ∈ connecting.events := by
      simpa using h
    obtain rfl | rfl | hmem := hevent
    · exact .inl rfl
    · cases hcall
    · have hattempt := List.mem_filter.2 ⟨hmem, hcall⟩
      rw [hstop.calls] at hattempt
      obtain ⟨e, he, rfl⟩ := List.mem_map.1 hattempt
      exact .inr ⟨e, ((List.take_sublist 1 rest).append_left done).subset he, rfl⟩

/-- An error of setting up is that of the call that failed. -/
theorem setup_eq_error {es : List Endpoint} {error : Error}
    (h : (l.setup socket es).result = .error error) :
    (es = [] ∧ error = .noEndpoints) ∨ socket.subscribe = .error error ∨
      (∃ i, ∃ h : i < es.length, socket.connect i es[i] = .error error) ∨
      ∃ fault, error = .output fault := by
  obtain ⟨hnil, hsetup⟩ | ⟨error', hsub, hsetup⟩ | ⟨done, rest, connecting, rfl, hstop, hsetup⟩ :=
    l.setup_cases socket es
  · rw [hsetup] at h
    cases h
    exact .inl ⟨hnil, rfl⟩
  · rw [hsetup] at h
    cases h
    exact .inr (.inl hsub)
  · rw [hsetup] at h
    refine .inr (.inr ?_)
    cases hstop with
    | finished => cases h
    | unconnected e behind error' hconnect =>
      cases h
      refine .inl ⟨done.length, by simp, ?_⟩
      rw [List.getElem_of_append rfl rfl]
      exact hconnect
    | unannounced e behind error' hconnect hannounce =>
      cases h
      exact .inr (Printer.announce_error hannounce)

/-- What a listener shows that is set up and, only where that succeeds, runs. -/
def session (l : Listener) (socket : Socket) (es : List Endpoint) (cancelled : Bool)
    (waits : List Wait) : List Event :=
  let ready := l.setup socket es
  match ready.result with
  | .error _ => ready.events
  | .ok () => ready.events ++ (ready.listener.run cancelled waits).events

theorem setup_of_ok {es : List Endpoint} (hok : (l.setup socket es).result = .ok ()) :
    l.setup socket es =
      ⟨l.announced es, .ok (), .subscribing :: .subscribed :: es.flatMap announcing⟩ := by
  obtain ⟨hes, hw⟩ := setup_ok_iff.1 hok
  exact setup_of_willing hes hw

theorem calls_of_setup_ok {es : List Endpoint} (hok : (l.setup socket es).result = .ok ()) :
    (l.setup socket es).events.filter Event.isCall = .subscribing :: es.map .connecting := by
  rw [setup_of_ok hok]
  exact congrArg _ (filter_isCall_announcing es)

/-- A run behind the setting up only adds waits, and only where the setting up succeeded. -/
theorem session_calls (l : Listener) (socket : Socket) (es : List Endpoint) (cancelled : Bool)
    (waits : List Wait) : ∃ waited,
      (l.session socket es cancelled waits).filter Event.isCall =
        (l.setup socket es).events.filter Event.isCall ++
          List.replicate waited (.receiving l.pollInterval) ∧
      ((l.setup socket es).result ≠ .ok () → waited = 0) := by
  rw [session]
  cases hr : (l.setup socket es).result with
  | error error => exact ⟨0, (List.append_nil _).symm, fun _ => rfl⟩
  | ok u =>
    obtain ⟨past, -, h⟩ := (l.setup socket es).listener.run_course cancelled waits
    obtain ⟨waited, hcalls⟩ : ∃ waited, _ = List.replicate waited _ := ⟨_, h.calls⟩
    have hinterval : (l.setup socket es).listener.pollInterval = l.pollInterval := by
      rw [setup_of_ok hr]
      rfl
    refine ⟨waited, ?_, fun hn => absurd rfl hn⟩
    rw [List.filter_append, hcalls, hinterval]

/-- Setting up makes its calls in order up to the first that fails and returns the error of
that one.  Each announcement is written in full and flushed before the next attempt to
connect, the failing one leaves what the sink has room for, and nothing else is written.  A
run that follows adds nothing to the calls but its waits. -/
theorem setup_trace (l : Listener) (socket : Socket) (es : List Endpoint) :
    let o := l.setup socket es
    (es = [] → o = ⟨l, .error .noEndpoints, []⟩) ∧
      (es ≠ [] → ∀ error, socket.subscribe = .error error →
        o = ⟨l, .error error, [.subscribing]⟩) ∧
      (es ≠ [] → socket.subscribe = .ok () → ∃ done rest connecting, es = done ++ rest ∧
        (∀ i (h : i < done.length), socket.connect i done[i] = .ok ()) ∧
        l.printer.Succeeds (done.map .announce) ∧
        Stop socket done.length l done rest connecting ∧
        o = { connecting with events := .subscribing :: .subscribed :: connecting.events } ∧
        o.events.filter Event.isCall = .subscribing :: (done ++ rest.take 1).map .connecting ∧
        o.listener.printer.sink.content =
          l.printer.sink.content ++ Event.output o.events) ∧
      (o.result = .ok () ↔ es ≠ [] ∧ Willing socket l es) ∧
      ∀ (cancelled : Bool) (waits : List Wait), ∃ waited,
        (l.session socket es cancelled waits).filter Event.isCall =
          o.events.filter Event.isCall ++ List.replicate waited (.receiving l.pollInterval) ∧
        (o.result = .ok () →
          o.events.filter Event.isCall = .subscribing :: es.map .connecting) ∧
        (o.result ≠ .ok () → waited = 0) := by
  intro o
  refine ⟨?_, fun hes _ => setup_of_subscribe_error hes, ?_, setup_ok_iff, ?_⟩
  · rintro rfl
    exact l.setup_nil socket
  · intro hes hsub
    obtain ⟨done, rest, connecting, hsplit, hconnect, hs, hstop, hsetup⟩ :=
      setup_course (l := l) hes hsub
    refine ⟨done, rest, connecting, hsplit, hconnect, hs, hstop, hsetup, ?_, ?_⟩
    · rw [show o = _ from hsetup]
      exact congrArg _ hstop.calls
    · rw [show o = _ from hsetup]
      exact hstop.content hs
  · intro cancelled waits
    obtain ⟨waited, hcalls, hnone⟩ := l.session_calls socket es cancelled waits
    exact ⟨waited, hcalls, calls_of_setup_ok, hnone⟩

end Listener
end FrameTap
