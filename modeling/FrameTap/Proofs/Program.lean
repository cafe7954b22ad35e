import FrameTap.Program
import FrameTap.Proofs.CommandLine.Sources
import FrameTap.Proofs.Listener.Continue
import FrameTap.Proofs.Listener.Output

/-!
# The program as a whole

An execution is decided by the command line and the environment, and behind them by the
answers of the transport.  `Transport.connected` and `Transport.received` say of a transport
alone which endpoints it connects and which frames it brings, up to the first failure or the
request.  Over an output that never fails the program writes the announcements of the former
and then the lines of the latter, and it exits with success where nothing failed and the end
was requested (`execute_outcome`).
-/

namespace FrameTap

open Printer Listener

/-! ## What a transport brings -/

/-- The endpoints before the first that is refused, the attempts counted from `n`. -/
def Socket.connected (socket : Socket) : (n : Nat) → List Endpoint → List Endpoint
  | _, [] => []
  | n, e :: es =>
    match socket.connect n e with
    | .ok () => e :: socket.connected (n + 1) es
    | .error _ => []

/-- The waits up to the first that fails or during which the end is requested, and none if it
was requested before. -/
def Wait.passed : (cancelled : Bool) → List Wait → List Wait
  | true, _ => []
  | false, [] => []
  | false, w :: waits =>
    match w.reception with
    | .failed _ => [w]
    | .nothing | .frame _ => w :: passed w.cancels waits

namespace Program.Transport

variable (t : Transport) (es : List Endpoint)

/-- The socket is opened and subscribed. -/
def Opens : Prop := t.opening = .ok () ∧ t.socket.subscribe = .ok ()

instance : Decidable t.Opens := inferInstanceAs (Decidable (_ ∧ _))

/-- The endpoints that are connected before the first failure. -/
def connected : List Endpoint := if t.Opens then t.socket.connected 0 es else []

/-- Nothing fails before the first wait. -/
def Connects : Prop := t.Opens ∧ t.connected es = es

instance : Decidable (t.Connects es) := inferInstanceAs (Decidable (_ ∧ _))

theorem connects_iff : t.Connects es ↔ t.Opens ∧ t.socket.connected 0 es = es :=
  and_congr_right fun h => by rw [connected, if_pos h]

/-- The waits that the program comes through. -/
def waited : List Wait := if t.Connects es then Wait.passed t.cancelled t.waits else []

/-- The frames that arrive. -/
def received : List Bytes := Wait.frames (t.waited es)

/-- No call to the transport fails. -/
def Faultless : Prop := t.Connects es ∧ ∀ w ∈ t.waited es, w.Sound

/-- The end is requested before the first wait or during one of those that are come through. -/
def endRequested : Bool := requested t.cancelled (t.waited es)

end Program.Transport

namespace Listener

variable {socket : Socket} {n : Nat} {l : Listener} {es : List Endpoint}

/-! ## Setting up over an output that never fails -/

theorem connectAll_of_unfailing (socket : Socket) (n : Nat) (es : List Endpoint)
    (h : l.printer.sink.Unfailing) :
    (connectAll socket n l es).listener = l.announced (socket.connected n es) ∧
      ((connectAll socket n l es).result = .ok () ↔ socket.connected n es = es) := by
  induction es generalizing n l with
  | nil => exact ⟨rfl, iff_of_true rfl rfl⟩
  | cons e es ih =>
    rw [connectAll, Socket.connected]
    split
    · rename_i error hconnect
      rw [hconnect]
      exact ⟨rfl, iff_of_false (by simp) (List.cons_ne_nil e es).symm⟩
    · rename_i hconnect
      obtain ⟨hok, hsink⟩ := perform_of_unfailing h (.announce e)
      have hannounce : (l.printer.announce e).result = .ok () := hok
      rw [hconnect]
      dsimp only
      rw [hannounce]
      obtain ⟨hlistener, hresult⟩ :=
        ih (n + 1) (l := { l with printer := (l.printer.announce e).printer }) hsink
      refine ⟨hlistener, hresult.trans ?_⟩
      rw [List.cons_inj_right]

theorem setup_of_unfailing (socket : Socket) (h : l.printer.sink.Unfailing) (hes : es ≠ []) :
    (l.setup socket es).listener =
        l.announced (if socket.subscribe = .ok () then socket.connected 0 es else []) ∧
      ((l.setup socket es).result = .ok () ↔
        socket.subscribe = .ok () ∧ socket.connected 0 es = es) := by
  cases hsub : socket.subscribe with
  | error error =>
    rw [setup_of_subscribe_error hes hsub, if_neg nofun]
    exact ⟨rfl, iff_of_false nofun fun h => nomatch h.1⟩
  | ok u =>
    obtain ⟨hlistener, hresult⟩ := connectAll_of_unfailing socket 0 es h
    rw [setup_of_subscribe hes hsub, if_pos rfl, and_iff_right rfl]
    exact ⟨hlistener, hresult⟩

/-! ## Running over an output that never fails -/

variable {cancelled : Bool} {waits past : List Wait} {w : Wait} {r : Run}

/-- How a run ends that came through the waits `past` on an output that never fails. -/
structure Ended (l : Listener) (cancelled : Bool) (past : List Wait) (r : Run) : Prop where
  listener : r.listener = { l with printer := l.printer.after (prints past) }
  stopped : (∃ n, r.status = .stopped n) ↔
    (∀ w ∈ past, w.Sound) ∧ requested cancelled past = true
  waiting : r.status = .waiting ↔ (∀ w ∈ past, w.Sound) ∧ requested cancelled past = false

/-- A wait that does not fail leaves the end to the rest of the run. -/
theorem Ended.cons (hw : w.Sound) (hr : Ended { l with printer := l.printer.after (prints [w]) }
    w.cancels past r) (events : List Event) :
    Ended l false (w :: past) { r with events := events } := by
  have hprints : prints (w :: past) = prints [w] ++ prints past := prints_append [w] past
  have hrequested : requested false (w :: past) = requested w.cancels past := rfl
  have hsound : (∀ w' ∈ w :: past, w'.Sound) ↔ ∀ w' ∈ past, w'.Sound := by
    rw [List.forall_mem_cons, and_iff_right hw]
  refine ⟨?_, ?_, ?_⟩
  · rw [hprints, after_append]
    exact hr.listener
  · rw [hsound, hrequested]
    exact hr.stopped
  · rw [hsound, hrequested]
    exact hr.waiting

theorem ended_of_failed {e : Error} (hw : w.reception = .failed e) (left : List Wait)
    (events : List Event) : Ended l false [w] ⟨l, .failed e, left, events⟩ := by
  have hnone : ¬ ∀ w' ∈ [w], w'.Sound := fun h => h w (List.mem_singleton_self w) e hw
  refine ⟨?_, iff_of_false nofun fun h => hnone h.1, iff_of_false nofun fun h => hnone h.1⟩
  rw [prints, frames_single_of_ne w (by simp [hw])]
  rfl

theorem run_of_unfailing (h : l.printer.sink.Unfailing) (cancelled : Bool) (waits : List Wait) :
    Ended l cancelled (Wait.passed cancelled waits) (l.run cancelled waits) := by
  induction waits generalizing l cancelled with
  | nil =>
    cases cancelled with
    | true => exact ⟨rfl, iff_of_true ⟨_, rfl⟩ ⟨nofun, rfl⟩, iff_of_false nofun nofun⟩
    | false => exact ⟨rfl, iff_of_false nofun nofun, iff_of_true rfl ⟨nofun, rfl⟩⟩
  | cons w waits ih =>
    cases cancelled with
    | true => exact ⟨rfl, iff_of_true ⟨_, rfl⟩ ⟨nofun, rfl⟩, iff_of_false nofun nofun⟩
    | false =>
      -- Whether or not it brings a frame, a wait that does not fail leads on to the rest.
      have hgoing (hw : w.Sound) : Ended l false (w :: Wait.passed w.cancels waits)
          (l.run false (w :: waits)) := by
        obtain ⟨hlistener, hresult⟩ := await_of_unfailing h hw
        have hlater := ih (l := { l with printer := l.printer.after (prints [w]) })
          (unfailing_after h (prints [w])) w.cancels
        rw [run]
        dsimp only
        rw [hresult, hlistener]
        exact Ended.cons hw hlater _
      rw [Wait.passed]
      split
      · rename_i e he
        obtain ⟨hlistener, hresult⟩ := await_of_failed he
        rw [run]
        dsimp only
        rw [hresult, hlistener]
        exact ended_of_failed he _ _
      · rename_i hw
        exact hgoing (by simp [Wait.Sound, hw])
      · rename_i bytes hw
        exact hgoing (by simp [Wait.Sound, hw])

end Listener

namespace Program

variable {args : List Bytes} {env : Environment} {t : Transport} {output : Sink}
  {settings : Settings} {es : List Endpoint} {format : Format} {o : Outcome}

/-! ## Listening -/

/-- How the execution goes on behind its beginning. -/
def Begun.outcome (t : Transport) : Begun → Outcome
  | .ended o => o
  | .listening l => l.run t.cancelled t.waits

theorem execute_eq : execute args env t output = (start args env t output).outcome t := by
  rw [execute]
  cases start args env t output <;> rfl

/-- What an execution leaves that listens to `es`. -/
structure Listened (t : Transport) (es : List Endpoint) (format : Format) (output : Sink)
    (o : Outcome) : Prop where
  opened : t.opening = .ok () → o.events.head? = some .opened
  content : o.output.content =
    output.content ++ Text.lines 0x0A (outputLines format (t.connected es) (t.received es))
  success : o.exit? = some 0 ↔ t.Faultless es ∧ t.endRequested es = true
  unfinished : o.exit? = none ↔ t.Faultless es ∧ t.endRequested es = false

/-- Without its connections the program does not come to a wait. -/
theorem Listened.of_not_connects (hn : ¬ t.Connects es) (hexit : o.exit? = some failure)
    (hopened : t.opening = .ok () → o.events.head? = some .opened)
    (hcontent : o.output.content = output.content ++
      Text.lines 0x0A (outputLines format (t.connected es) [])) :
    Listened t es format output o := by
  have hreceived : t.received es = [] := by rw [Transport.received, Transport.waited, if_neg hn]; rfl
  refine ⟨hopened, ?_, ?_, ?_⟩
  · rw [hreceived]
    exact hcontent
  · rw [hexit]
    exact iff_of_false nofun fun h => hn h.1.1
  · rw [hexit]
    exact iff_of_false nofun fun h => hn h.1.1

/-- The content of an output that the announcements and the frames were printed on. -/
theorem content_after (h : output.Unfailing) (format : Format) (es : List Endpoint)
    (waits : List Wait) :
    (Printer.after { sink := output, format } (es.map .announce ++ prints waits)).sink.content =
      output.content ++ Text.lines 0x0A (outputLines format es (Wait.frames waits)) := by
  rw [content_of_unfailing h, prints, stream_of_unfailing h rfl]
  rfl

variable {l : Listener}

theorem setup_of_opening (h : l.printer.sink.Unfailing) (hes : es ≠ [])
    (hopening : t.opening = .ok ()) :
    (l.setup t.socket es).listener = l.announced (t.connected es) ∧
      ((l.setup t.socket es).result = .ok () ↔ t.Connects es) := by
  have hopens : t.Opens ↔ t.socket.subscribe = .ok () := by
    rw [Transport.Opens, hopening, and_iff_right rfl]
  obtain ⟨hlistener, hresult⟩ := setup_of_unfailing t.socket h hes
  refine ⟨?_, ?_⟩
  · rw [hlistener, Transport.connected]
    simp only [hopens]
  · rw [hresult, t.connects_iff, hopens]

/-- What is left of a program that listens, by the status of its run. -/
theorem run_outcome (l : Listening) (cancelled : Bool) (waits : List Wait) :
    let r := l.listener.run cancelled waits
    let o := l.run cancelled waits
    o.output = r.listener.printer.sink ∧ (∃ more, o.events = l.events ++ more) ∧
      (o.exit? = some 0 ↔ ∃ n, r.status = .stopped n) ∧ (o.exit? = none ↔ r.status = .waiting) := by
  rw [Listening.run]
  dsimp only
  cases (l.listener.run cancelled waits).status with
  | stopped n =>
    exact ⟨rfl, ⟨_, List.append_assoc _ _ _⟩, iff_of_true rfl ⟨n, rfl⟩, iff_of_false nofun nofun⟩
  | failed e =>
    exact ⟨rfl, ⟨_, List.append_assoc _ _ _⟩, iff_of_false nofun nofun, iff_of_false nofun nofun⟩
  | waiting =>
    exact ⟨rfl, ⟨_, List.append_assoc _ _ _⟩, iff_of_false nofun nofun, iff_of_true rfl rfl⟩

/-- Behind its announcements the program prints the frames that arrive. -/
theorem run_listened {l : Listening} (h : output.Unfailing) (hall : t.Connects es)
    (hprinter : l.listener.printer =
      Printer.after { sink := output, format } ((t.connected es).map .announce))
    (hopened : l.events.head? = some .opened) :
    Listened t es format output (l.run t.cancelled t.waits) := by
  have hsink : l.listener.printer.sink.Unfailing := by
    rw [hprinter]
    exact unfailing_after h _
  have hwaited : t.waited es = Wait.passed t.cancelled t.waits := by
    rw [Transport.waited, if_pos hall]
  have hended := run_of_unfailing hsink t.cancelled t.waits
  rw [← hwaited] at hended
  have hfaultless : t.Faultless es ↔ ∀ w ∈ t.waited es, w.Sound := and_iff_right hall
  obtain ⟨houtput, ⟨more, hevents⟩, hsuccess, hunfinished⟩ := run_outcome l t.cancelled t.waits
  refine ⟨fun _ => ?_, ?_, ?_, ?_⟩
  · rw [hevents, List.head?_append, hopened]
    rfl
  · rw [houtput, hended.listener, hprinter, ← after_append, content_after h]
    rfl
  · rw [hsuccess, hended.stopped, hfaultless]
    rfl
  · rw [hunfinished, hended.waiting, hfaultless]
    rfl

theorem connect_listened (h : output.Unfailing) (hes : es ≠ []) (settings : Settings)
    (filter : Log.Filter) (warnings : List Text) (t : Transport) :
    Listened t es settings.format output
      ((connect settings es filter warnings t output).outcome t) := by
  rw [connect]
  cases hopening : t.opening with
  | error error =>
    have hopens : ¬ t.Opens := fun h => by
      rw [Transport.Opens, hopening] at h
      cases h.1
    refine .of_not_connects (fun h => hopens h.1) rfl (by rw [hopening]; nofun) ?_
    rw [Transport.connected, if_neg hopens]
    exact (List.append_nil _).symm
  | ok u =>
    -- The listener gets a name, so that setting up is looked at without its fields.
    obtain ⟨listener, hl⟩ : ∃ listener : Listener, listener =
      { printer := { sink := output, format := settings.format }
        pollInterval := settings.pollInterval } := ⟨_, rfl⟩
    have hsink : listener.printer.sink.Unfailing := by rwa [hl]
    obtain ⟨hlistener, hresult⟩ := setup_of_opening hsink hes hopening
    have hprinter : (listener.setup t.socket es).listener.printer = Printer.after
        { sink := output, format := settings.format } ((t.connected es).map .announce) := by
      rw [hlistener, hl]
      rfl
    dsimp only
    rw [← hl]
    cases hready : (listener.setup t.socket es).result with
    | error error =>
      have hn : ¬ t.Connects es := by
        rw [← hresult, hready]
        nofun
      refine .of_not_connects hn rfl (fun _ => rfl) ?_
      show (listener.setup t.socket es).listener.printer.sink.content = _
      have hcontent := content_after h settings.format (t.connected es) []
      rw [prints, Wait.frames] at hcontent
      rw [hprinter]
      simpa using hcontent
    | ok u =>
      exact run_listened h (hresult.1 hready) hprinter rfl

/-! ## All executions -/

theorem start_endpoints (t : Transport) (output : Sink)
    (hparse : CommandLine.parse args env.endpoints? = .ok settings)
    (hes : settings.endpoints = .ok es) : ∃ filter warnings,
      start args env t output = connect settings es filter warnings t output := by
  rw [start, hparse]
  dsimp only
  rw [hes]
  exact ⟨_, _, rfl⟩

theorem endpoints_ne_nil {env? : Option Bytes}
    (hparse : CommandLine.parse args env? = .ok settings)
    (hes : settings.endpoints = .ok es) : es ≠ [] := by
  obtain ⟨d, d', hread, hvariable, rfl⟩ := CommandLine.parse_eq_ok_iff.1 hparse
  have hfilled := (CommandLine.filled_readAll hread).enterVariable hvariable
  exact (CommandLine.endpoints_settings_filled hfilled hes).1

/-- A command line that is wrong and endpoints that are refused end the program before a socket
is opened and with nothing written, and a request for help is answered by the help text alone.
Otherwise the output is an announcement for each endpoint that is connected and then a line for
each frame that arrives, which none does unless all endpoints were connected.  The program ends
with success exactly where no call to the transport fails and the end is requested. -/
theorem execute_outcome (h : output.Unfailing) (args : List Bytes) (env : Environment)
    (t : Transport) :
    let o := execute args env t output
    (∀ m, CommandLine.parse args env.endpoints? = .error (.misuse m) →
      o.exit? = some 2 ∧ o.output = output ∧ o.events = []) ∧
    (∀ settings fault, CommandLine.parse args env.endpoints? = .ok settings →
      settings.endpoints = .error fault →
      o.exit? = some 1 ∧ o.output = output ∧ o.events = []) ∧
    (∀ detailed, CommandLine.parse args env.endpoints? = .error (.help detailed) →
      o.exit? = some 0 ∧ o.events = [] ∧ o.errors = [] ∧
        o.output.content = output.content ++
          Utf8.encode (CommandLine.writtenHelp env.showsStyles detailed env.endpoints?)) ∧
    ∀ settings es, CommandLine.parse args env.endpoints? = .ok settings →
      settings.endpoints = .ok es →
      (t.opening = .ok () → o.events.head? = some .opened) ∧
        o.output.content = output.content ++
          Text.lines 0x0A (outputLines settings.format (t.connected es) (t.received es)) ∧
        (t.received es ≠ [] → t.connected es = es) ∧
        (o.exit? = some 0 ↔ t.Faultless es ∧ t.endRequested es = true) ∧
        (o.exit? = none ↔ t.Faultless es ∧ t.endRequested es = false) := by
  intro o
  refine ⟨?_, ?_, ?_, ?_⟩
  · intro m hparse
    have ho : o = _ := execute_eq
    rw [start, hparse] at ho
    rw [ho]
    exact ⟨rfl, rfl, rfl⟩
  · intro settings fault hparse hfault
    have ho : o = _ := execute_eq
    rw [start, hparse] at ho
    dsimp only at ho
    rw [hfault] at ho
    rw [ho]
    exact ⟨rfl, rfl, rfl⟩
  · intro detailed hparse
    have ho : o = _ := execute_eq
    rw [start, hparse] at ho
    rw [ho]
    refine ⟨rfl, rfl, rfl, ?_⟩
    have htook := (output.writeAll_written (Utf8.encode
      (CommandLine.writtenHelp env.showsStyles detailed env.endpoints?))).took
    rw [Sink.fits_of_no_capacity h.capacity] at htook
    exact htook.content
  · intro settings es hparse hes
    obtain ⟨filter, warnings, hstart⟩ := start_endpoints t output hparse hes
    have hlistened := connect_listened h (endpoints_ne_nil hparse hes) settings filter warnings t
    rw [← hstart, ← execute_eq] at hlistened
    refine ⟨hlistened.opened, hlistened.content, fun hframes => ?_, hlistened.success,
      hlistened.unfinished⟩
    by_cases hall : t.Connects es
    · exact hall.2
    · rw [Transport.received, Transport.waited, if_neg hall] at hframes
      exact absurd rfl hframes

/-- Two endpoints and two frames, the second of which comes with the request, and the same with
an endpoint that is refused. -/
theorem execute_outcome_refused :
    let args := ["-f", "bytes", "-e", "tcp://a:1 tcp://b:2"].map (Utf8.encode ·.toList)
    let waits : List Wait := [⟨.frame [0x78], false⟩, ⟨.nothing, false⟩, ⟨.frame [0x0A], true⟩,
      ⟨.frame [0x79], false⟩]
    let refused : Error := .transport .econnrefused
    let socket : Socket := { connect := fun n _ => if n = 1 then .error refused else .ok () }
    let o := execute args {} { waits } {}
    let o' := execute args {} { waits, socket } {}
    ({} : Sink).Unfailing ∧ o.exit? = some 0 ∧
      o.output.content = Utf8.encode ("Listening on tcp://a:1...\n".toList ++
        "Listening on tcp://b:2...\n".toList ++ "b'x'\nb'\\n'\n".toList) ∧
      o'.exit? ≠ some 0 ∧ o'.exit? ≠ none ∧
      o'.output.content = Utf8.encode "Listening on tcp://a:1...\n".toList := by
  intro args waits refused socket o o'
  have hsink : ({} : Sink).Unfailing := ⟨rfl, fun _ => rfl⟩
  have hparse : CommandLine.parse args none =
      .ok { endpoint := [⟨['a'], 1⟩, ⟨['b'], 2⟩], format := .bytes } := rfl
  obtain ⟨-, hcontent, -, hsuccess, -⟩ :=
    (execute_outcome hsink args {} { waits }).2.2.2 _ _ hparse rfl
  obtain ⟨-, hcontent', -, hsuccess', hunfinished'⟩ :=
    (execute_outcome hsink args {} { waits, socket }).2.2.2 _ _ hparse rfl
  have hwaited : Transport.waited { waits } [⟨['a'], 1⟩, ⟨['b'], 2⟩] = waits.take 3 := by decide
  have hrefused : ¬ Transport.Connects { waits, socket } [⟨['a'], 1⟩, ⟨['b'], 2⟩] := by decide
  refine ⟨hsink, hsuccess.2 ⟨⟨by decide, ?_⟩, by decide⟩, ?_, fun h => ?_, fun h => ?_, ?_⟩
  · rw [hwaited]
    simp [waits, Wait.Sound]
  · rw [show o.output.content = _ from hcontent]
    decide +kernel
  · exact hrefused (hsuccess'.1 h).1.1
  · exact hrefused (hunfinished'.1 h).1.1
  · rw [show o'.output.content = _ from hcontent']
    decide +kernel

end Program
end FrameTap
