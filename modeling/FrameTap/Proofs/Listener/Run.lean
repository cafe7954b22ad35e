import FrameTap.Listener
import FrameTap.Proofs.Printer.Stream

/-!
# The course of a run

A run comes through some of its waits, the last of which may be the one that ends it.  The
frames that these waits bring are the ones that are printed, each once and in the order of
their arrival.  `Course` collects what is true of the waits that are past, of the printer
and of the events, for each way in which the run can end, and `run_course` shows it of every
run by induction on the waits: `await_round` is the step, and it splits on what the wait brings.
-/

namespace FrameTap

/-! ## Kinds of events -/

namespace Event

/-- The event is something that is done to the sink. -/
def onSink : Event → Bool
  | wrote _ | flushed _ => true
  | _ => false

/-- The event is a call to the socket. -/
def isCall (e : Event) : Bool := e.call?.isSome

/-- The size of the frame that the event brings, if it brings one. -/
def arrived? : Event → Option Nat
  | received size => some size
  | _ => none

theorem onSink_ofStep {before : Printer} {step : Printer.Step} {e : Event}
    (h : e ∈ ofStep before step) : e.onSink = true := by
  rw [ofStep, List.mem_append] at h
  rcases h with h | h
  · split at h
    · cases h
    · rw [List.mem_singleton.1 h]
      rfl
  · split at h
    · cases h
    · rw [List.mem_singleton.1 h]
      rfl

/-- What is done to the sink is no call, brings no frame and makes no request. -/
theorem eq_wrote_or_flushed {e : Event} (h : e.onSink = true) :
    (∃ bytes, e = .wrote bytes) ∨ ∃ ok, e = .flushed ok := by
  cases e with
  | wrote bytes => exact Or.inl ⟨bytes, rfl⟩
  | flushed ok => exact Or.inr ⟨ok, rfl⟩
  | opened | subscribing | subscribed | connecting | receiving | received | cancelled => cases h

theorem filter_onSink_ofStep (before : Printer) (step : Printer.Step) :
    (ofStep before step).filter onSink = ofStep before step :=
  List.filter_eq_self.2 fun _ h => onSink_ofStep h

theorem filterMap_arrived_ofStep (before : Printer) (step : Printer.Step) :
    (ofStep before step).filterMap arrived? = [] := by
  refine List.filterMap_eq_nil_iff.2 fun e h => ?_
  rcases eq_wrote_or_flushed (onSink_ofStep h) with ⟨bytes, rfl⟩ | ⟨ok, rfl⟩
  · rfl
  · rfl

end Event

namespace Listener

open Printer

/-! ## Waits -/

/-- The printing of the frames that the waits bring. -/
def prints (waits : List Wait) : List Operation := (Wait.frames waits).map .print

/-- Whether the end has been requested once the waits are over. -/
def requested (cancelled : Bool) (waits : List Wait) : Bool := cancelled || waits.any Wait.cancels

theorem frames_append (waits more : List Wait) :
    Wait.frames (waits ++ more) = Wait.frames waits ++ Wait.frames more :=
  List.filterMap_append

theorem prints_append (waits more : List Wait) :
    prints (waits ++ more) = prints waits ++ prints more := by
  rw [prints, frames_append, List.map_append]
  rfl

theorem countP_prints (waits : List Wait) :
    (prints waits).countP Operation.prints = (Wait.frames waits).length := by
  rw [prints, List.countP_map]
  exact List.countP_eq_length.2 fun _ _ => rfl

/-! ## One wait -/

/-- No call comes behind the request. -/
def Quiet (events : List Event) : Prop :=
  events.Pairwise fun before behind => before = .cancelled → behind.isCall = false

/-- How a wait can end: it leaves the run going, the socket fails, or the printing of its
frame fails. -/
inductive Ending (p : Printer) (w : Wait) : Except Error Unit → Prop where
  | going (h : p.Succeeds (prints [w])) : Ending p w (.ok ())
  | unreceived (e : Error) (h : w.reception = .failed e) : Ending p w (.error e)
  | unprinted (e : Error) (frame : Bytes) (h : w.reception = .frame frame)
      (hp : (p.perform (.print frame)).result = .error e) : Ending p w (.error e)

/-- What one wait leaves. -/
structure Round (l : Listener) (w : Wait) (o : Outcome) : Prop where
  listener : o.listener = { l with printer := l.printer.after (prints [w]) }
  onSink : o.events.filter Event.onSink = l.printer.trace (prints [w])
  calls : o.events.filter Event.isCall = [.receiving l.pollInterval]
  arrived : o.events.filterMap Event.arrived? = (Wait.frames [w]).map List.length
  quiet : Quiet o.events
  cancels : .cancelled ∈ o.events → w.cancels = true
  ending : Ending l.printer w o.result

theorem frames_single (w : Wait) (bytes : Bytes) (h : w.reception = .frame bytes) :
    Wait.frames [w] = [bytes] := by
  rw [Wait.frames, List.filterMap_cons, h]
  rfl

theorem frames_single_of_ne (w : Wait) (h : ∀ bytes, w.reception ≠ .frame bytes) :
    Wait.frames [w] = [] := by
  rw [Wait.frames, List.filterMap_cons]
  split
  · rfl
  · rename_i heq
    split at heq
    · rename_i bytes hw
      exact absurd hw (h bytes)
    · cases heq

/-- A wait begins with its call, which the request may follow. -/
def begun (timeout : Duration) (cancels : Bool) : List Event :=
  .receiving timeout :: if cancels then [.cancelled] else []

/-- Only what comes behind the beginning has to do with the sink and with a frame. -/
theorem begun_append (timeout : Duration) (cancels : Bool) {events : List Event}
    (hcall : ∀ e ∈ events, e.isCall = false) (hrequest : .cancelled ∉ events) :
    (begun timeout cancels ++ events).filter Event.onSink = events.filter Event.onSink ∧
      (begun timeout cancels ++ events).filter Event.isCall = [.receiving timeout] ∧
      (begun timeout cancels ++ events).filterMap Event.arrived? =
        events.filterMap Event.arrived? ∧
      Quiet (begun timeout cancels ++ events) ∧
      (.cancelled ∈ begun timeout cancels ++ events → cancels = true) := by
  have hnone : events.filter Event.isCall = [] :=
    List.filter_eq_nil_iff.2 fun e he => Bool.eq_false_iff.1 (hcall e he)
  have hquiet : Quiet events :=
    List.pairwise_of_forall_mem_list fun _ _ e he _ => hcall e he
  cases cancels with
  | false =>
    refine ⟨rfl, congrArg _ hnone, rfl, ?_, ?_⟩
    · exact List.pairwise_cons.2 ⟨fun e _ h => (by cases h), hquiet⟩
    · intro h
      rcases List.mem_cons.1 h with h | h
      · cases h
      · exact absurd h hrequest
  | true =>
    refine ⟨rfl, congrArg _ hnone, rfl, ?_, fun _ => rfl⟩
    have hrest : Quiet (.cancelled :: events) :=
      List.pairwise_cons.2 ⟨fun e he _ => hcall e he, hquiet⟩
    exact List.pairwise_cons.2 ⟨fun e _ h => (by cases h), hrest⟩

/-- A wait that brings no frame leaves the listener as it is. -/
theorem round_of_no_frame (l : Listener) {w : Wait} {result : Except Error Unit}
    (hw : ∀ bytes, w.reception ≠ .frame bytes) (hending : Ending l.printer w result) :
    Round l w ⟨l, result, begun l.pollInterval w.cancels⟩ := by
  obtain ⟨hsink, hcalls, harrived, hquiet, hcancels⟩ :=
    begun_append l.pollInterval w.cancels (List.forall_mem_nil _) List.not_mem_nil
  rw [List.append_nil] at hsink hcalls harrived hquiet hcancels
  have hframes := frames_single_of_ne w hw
  refine ⟨?_, ?_, hcalls, ?_, hquiet, hcancels, hending⟩
  · rw [prints, hframes]
    rfl
  · rw [prints, hframes]
    exact hsink
  · rw [hframes]
    exact harrived

/-- A wait that brings a frame has it printed. -/
theorem round_of_frame (l : Listener) {w : Wait} {frame : Bytes}
    (hw : w.reception = .frame frame) :
    Round l w
      ⟨{ l with printer := (l.printer.printFrame frame).printer },
        (l.printer.printFrame frame).result,
        begun l.pollInterval w.cancels ++
          .received frame.length :: Event.ofStep l.printer (l.printer.printFrame frame)⟩ := by
  have hmem : ∀ e ∈ Event.received frame.length ::
      Event.ofStep l.printer (l.printer.printFrame frame), e.isCall = false ∧ e ≠ .cancelled := by
    intro e he
    rcases List.mem_cons.1 he with rfl | he
    · exact ⟨rfl, by simp⟩
    · rcases Event.eq_wrote_or_flushed (Event.onSink_ofStep he) with ⟨bytes, rfl⟩ | ⟨ok, rfl⟩
      · exact ⟨rfl, by simp⟩
      · exact ⟨rfl, by simp⟩
  obtain ⟨hsink, hcalls, harrived, hquiet, hcancels⟩ :=
    begun_append l.pollInterval w.cancels (fun e he => (hmem e he).1)
      (fun he => (hmem _ he).2 rfl)
  have hframes := frames_single w frame hw
  have hprints : prints [w] = [.print frame] := by rw [prints, hframes]; rfl
  refine ⟨?_, ?_, hcalls, ?_, hquiet, hcancels, ?_⟩
  · rw [hprints]
    rfl
  · rw [hprints, trace, trace, List.append_nil]
    exact hsink.trans (Event.filter_onSink_ofStep _ _)
  · rw [hframes]
    exact harrived.trans (congrArg _ (Event.filterMap_arrived_ofStep _ _))
  · cases hr : (l.printer.printFrame frame).result with
    | ok u =>
      refine .going ?_
      rw [hprints]
      exact ⟨hr, trivial⟩
    | error e => exact .unprinted e frame hw hr

theorem await_round (l : Listener) (w : Wait) : Round l w (l.await w) := by
  rw [await]
  split
  · rename_i e he
    exact l.round_of_no_frame (by simp [he]) (.unreceived e he)
  · rename_i hn
    have hframes := frames_single_of_ne w (by simp [hn])
    refine l.round_of_no_frame (by simp [hn]) (.going ?_)
    rw [prints, hframes]
    trivial
  · rename_i frame hf
    exact l.round_of_frame hf

/-! ## The whole run -/

/-- What is true of a run that came through the waits `past`, the end having been requested at
the start if `cancelled`. -/
structure Course (l : Listener) (cancelled : Bool) (past : List Wait) (r : Run) : Prop where
  /-- The frames that arrived were printed, each once and in order, and nothing else was. -/
  listener : r.listener = { l with printer := l.printer.after (prints past) }
  onSink : r.events.filter Event.onSink = l.printer.trace (prints past)
  arrived : r.events.filterMap Event.arrived? = (Wait.frames past).map List.length
  /-- Each wait is one call, and so is the one that the run may still be in. -/
  calls : r.events.filter Event.isCall =
    List.replicate (past.length + if r.status = .waiting then 1 else 0)
      (.receiving l.pollInterval)
  /-- No wait begins once the end has been requested. -/
  heads : ∀ before w behind, past = before ++ w :: behind → requested cancelled before = false
  quiet : Quiet r.events
  /-- A run that ends on request has printed every frame and says how many. -/
  stopped : ∀ n, r.status = .stopped n →
    requested cancelled past = true ∧ l.printer.Succeeds (prints past) ∧
      n = l.printer.printed + (Wait.frames past).length
  /-- A run that fails passes on the error of its last wait, behind which there is no other:
  either of the socket, and every frame has been printed, or of the printing of the last
  frame, and every frame before it has been printed. -/
  failed : ∀ e, r.status = .failed e → ∃ before w, past = before ++ [w] ∧
    ((w.reception = .failed e ∧ l.printer.Succeeds (prints past)) ∨
      ∃ frame, w.reception = .frame frame ∧ l.printer.Succeeds (prints before) ∧
        ((l.printer.after (prints before)).perform (.print frame)).result = .error e)
  waiting : r.status = .waiting →
    requested cancelled past = false ∧ r.left = [] ∧ l.printer.Succeeds (prints past)

variable {l : Listener} {w : Wait} {o : Outcome} {past : List Wait} {later : Run}

theorem Round.succeeds (h : Round l w o) (hok : o.result = .ok ()) :
    l.printer.Succeeds (prints [w]) := by
  have hending := h.ending
  rw [hok] at hending
  cases hending with
  | going hs => exact hs

/-- The run begins with a wait that leaves it going. -/
theorem Round.course_cons (h : Round l w o) (hok : o.result = .ok ())
    (hc : Course o.listener w.cancels past later)
    (hstop : w.cancels = true → later.events = []) :
    Course l false (w :: past) { later with events := o.events ++ later.events } := by
  have hsucceeds := h.succeeds hok
  have hprints : prints (w :: past) = prints [w] ++ prints past := prints_append [w] past
  have hframes : Wait.frames (w :: past) = Wait.frames [w] ++ Wait.frames past :=
    frames_append [w] past
  have hcounted : (l.printer.after (prints [w])).printed =
      l.printer.printed + (Wait.frames [w]).length := by
    rw [after_printed, hsucceeds.succeeded, countP_prints]
  rw [h.listener] at hc
  refine ⟨?_, ?_, ?_, ?_, ?_, ?_, ?_, ?_, ?_⟩
  · rw [hprints, after_append]
    exact hc.listener
  · rw [List.filter_append, h.onSink, hprints, trace_append]
    exact congrArg _ hc.onSink
  · rw [List.filterMap_append, h.arrived, hframes, List.map_append]
    exact congrArg _ hc.arrived
  · rw [List.filter_append, h.calls, List.length_cons, Nat.succ_add]
    exact congrArg _ hc.calls
  · intro before v behind hpast
    cases before with
    | nil => rfl
    | cons v' before =>
      obtain ⟨rfl, hrest⟩ := List.cons.inj hpast
      exact hc.heads before v behind hrest
  · refine List.pairwise_append.2 ⟨h.quiet, hc.quiet, fun e he e' he' hcancelled => ?_⟩
    rw [hcancelled] at he
    rw [hstop (h.cancels he)] at he'
    cases he'
  · intro n hn
    obtain ⟨hrequested, hs, hcount⟩ := hc.stopped n hn
    refine ⟨hrequested, ?_, ?_⟩
    · rw [hprints]
      exact succeeds_append_iff.2 ⟨hsucceeds, hs⟩
    · rw [hcount, hframes, List.length_append, ← Nat.add_assoc]
      exact congrArg (· + _) hcounted
  · intro e he
    obtain ⟨before, v, hpast, hends⟩ := hc.failed e he
    refine ⟨w :: before, v, congrArg _ hpast, ?_⟩
    rcases hends with ⟨hv, hs⟩ | ⟨frame, hv, hs, hresult⟩
    · refine Or.inl ⟨hv, ?_⟩
      rw [hprints]
      exact succeeds_append_iff.2 ⟨hsucceeds, hs⟩
    · have hbefore : prints (w :: before) = prints [w] ++ prints before :=
        prints_append [w] before
      refine Or.inr ⟨frame, hv, ?_, ?_⟩
      · rw [hbefore]
        exact succeeds_append_iff.2 ⟨hsucceeds, hs⟩
      · rw [hbefore, after_append]
        exact hresult
  · intro hwaiting
    obtain ⟨hrequested, hleft, hs⟩ := hc.waiting hwaiting
    refine ⟨hrequested, hleft, ?_⟩
    rw [hprints]
    exact succeeds_append_iff.2 ⟨hsucceeds, hs⟩

/-- The run ends with a wait that fails. -/
theorem Round.course_failed {e : Error} {left : List Wait} (h : Round l w o)
    (he : o.result = .error e) : Course l false [w] ⟨o.listener, .failed e, left, o.events⟩ := by
  refine ⟨h.listener, h.onSink, h.arrived, h.calls, ?_, h.quiet, ?_, ?_, ?_⟩
  · intro before v behind hpast
    cases before with
    | nil => rfl
    | cons v' before =>
      have hnil := (List.cons.inj hpast).2
      exact absurd hnil.symm (List.append_ne_nil_of_right_ne_nil _ (List.cons_ne_nil _ _))
  · intro n hn
    cases hn
  · intro e' he'
    cases he'
    have hending := h.ending
    rw [he] at hending
    refine ⟨[], w, rfl, ?_⟩
    cases hending with
    | unreceived _ hw =>
      refine Or.inl ⟨hw, ?_⟩
      rw [prints, frames_single_of_ne w (by simp [hw])]
      trivial
    | unprinted _ frame hw hp => exact Or.inr ⟨frame, hw, trivial, hp⟩
  · intro hwaiting
    cases hwaiting

/-- A run whose end has been requested at the start does not wait at all. -/
theorem course_cancelled (l : Listener) (left : List Wait) :
    Course l true [] ⟨l, .stopped l.printer.printed, left, []⟩ := by
  refine ⟨rfl, rfl, rfl, rfl, ?_, List.Pairwise.nil, ?_, ?_, ?_⟩
  · intro before v behind hpast
    exact absurd hpast.symm (List.append_ne_nil_of_right_ne_nil _ (List.cons_ne_nil _ _))
  · intro n hn
    cases hn
    exact ⟨rfl, trivial, rfl⟩
  · intro e he
    cases he
  · intro hwaiting
    cases hwaiting

/-- A run that has come through its waits is in the next one. -/
theorem course_waiting (l : Listener) :
    Course l false [] ⟨l, .waiting, [], [.receiving l.pollInterval]⟩ := by
  refine ⟨rfl, rfl, rfl, rfl, ?_, List.pairwise_singleton _ _, ?_, ?_, ?_⟩
  · intro before v behind hpast
    exact absurd hpast.symm (List.append_ne_nil_of_right_ne_nil _ (List.cons_ne_nil _ _))
  · intro n hn
    cases hn
  · intro e he
    cases he
  · intro _
    exact ⟨rfl, rfl, trivial⟩

theorem run_course (l : Listener) (cancelled : Bool) (waits : List Wait) :
    ∃ past, waits = past ++ (l.run cancelled waits).left ∧
      Course l cancelled past (l.run cancelled waits) := by
  induction waits generalizing l cancelled with
  | nil =>
    cases cancelled with
    | true => exact ⟨[], rfl, l.course_cancelled []⟩
    | false => exact ⟨[], rfl, l.course_waiting⟩
  | cons w waits ih =>
    cases cancelled with
    | true => exact ⟨[], rfl, l.course_cancelled (w :: waits)⟩
    | false =>
      have hround := l.await_round w
      rw [run]
      dsimp only
      split
      · rename_i e he
        exact ⟨[w], rfl, hround.course_failed he⟩
      · rename_i hok
        obtain ⟨past, hsplit, hcourse⟩ := ih (l.await w).listener w.cancels
        refine ⟨w :: past, congrArg _ hsplit, hround.course_cons hok hcourse fun hc => ?_⟩
        rw [hc, run]

/-- Whatever the socket answers, whenever the end is requested and whatever the sink does, a
run prints the frames that it receives, each once and in order, and nothing else, and what it
returns is decided by the last of its waits. -/
theorem run_prints_received (l : Listener) (cancelled : Bool) (waits : List Wait) :
    let r := l.run cancelled waits
    ∃ past, waits = past ++ r.left ∧
      let frames := Wait.frames past
      r.listener = { l with printer := l.printer.after (frames.map .print) } ∧
      r.events.filter Event.onSink = l.printer.trace (frames.map .print) ∧
      r.events.filterMap Event.arrived? = frames.map List.length ∧
      r.events.filter Event.isCall =
        List.replicate (past.length + if r.status = .waiting then 1 else 0)
          (.receiving l.pollInterval) ∧
      (∀ n, r.status = .stopped n →
        requested cancelled past = true ∧ l.printer.Succeeds (frames.map .print) ∧
          n = l.printer.printed + frames.length) ∧
      (∀ e, r.status = .failed e → ∃ before w, past = before ++ [w] ∧
        ((w.reception = .failed e ∧ l.printer.Succeeds (frames.map .print)) ∨
          ∃ earlier last, frames = earlier ++ [last] ∧ w.reception = .frame last ∧
            l.printer.Succeeds (earlier.map .print) ∧
            ((l.printer.after (earlier.map .print)).perform (.print last)).result =
              .error e)) ∧
      (r.status = .waiting →
        requested cancelled past = false ∧ r.left = [] ∧
          l.printer.Succeeds (frames.map .print)) ∧
      (∀ before w behind, past = before ++ w :: behind → requested cancelled before = false) ∧
      Quiet r.events := by
  intro r
  obtain ⟨past, hsplit, h⟩ := l.run_course cancelled waits
  refine ⟨past, hsplit, h.listener, h.onSink, h.arrived, h.calls, h.stopped, ?_, h.waiting,
    h.heads, h.quiet⟩
  intro e he
  obtain ⟨before, w, hpast, hends⟩ := h.failed e he
  refine ⟨before, w, hpast, hends.imp_right ?_⟩
  rintro ⟨frame, hw, hs, hresult⟩
  refine ⟨Wait.frames before, frame, ?_, hw, hs, hresult⟩
  rw [hpast, frames_append, frames_single w frame hw]

end Listener
end FrameTap
