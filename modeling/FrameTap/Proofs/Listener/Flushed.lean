import FrameTap.Proofs.Listener.Setup

/-!
# Nothing is held back

A sink may keep what it took to itself until it is flushed.  An operation that succeeds ends
with a flush that reaches all of its bytes, and one that fails ends the setting up or the run.
So whenever a listener waits for a frame, and whenever its run ends on request, everything that
it has written has been flushed (`waits_flushed`).

A wait for a frame is an event of the listener, and what the listener has become by then is
found by letting it run through the waits before that one and no further (`run_receiving`).
-/

namespace FrameTap

open Sink

namespace Sink

/-- A flush that succeeded has reached all that the sink took. -/
def Flushed (s : Sink) : Prop := s.flushedSize = s.content.length

/-- How many flushes have succeeded. -/
def flushesDone (s : Sink) : Nat :=
  (List.range s.flushes).countP fun n => (s.flushFault (n + 1)).isNone

variable {s s' : Sink} {bytes : Bytes}

theorem flushed_flush (h : s.flushFault (s.flushes + 1) = none) : s.flush.sink.Flushed := by
  have hcontent : s.flush.sink.content = s.content := rfl
  rw [Flushed, hcontent, s.length_content, flush, h]
  rfl

theorem flushesDone_flush (h : s.flushFault (s.flushes + 1) = none) :
    s.flush.sink.flushesDone = s.flushesDone + 1 := by
  show (List.range (s.flushes + 1)).countP (fun n => (s.flushFault (n + 1)).isNone) = _
  rw [List.range_succ, List.countP_append, List.countP_singleton, h]
  rfl

theorem Took.flushesDone (h : Took s s' bytes) : s'.flushesDone = s.flushesDone := by
  rw [Sink.flushesDone, h.flushes, h.flushFault]
  rfl

end Sink

namespace Printer

variable {p : Printer} {ops : List Operation}

/-! ## Operations that succeed -/

/-- What was written up to `p` and since then has been flushed, with `n` flushes that
succeeded since `p`. -/
structure FlushedSince (p : Printer) (n : Nat) (q : Printer) : Prop where
  flushed : q.sink.Flushed
  flushes : q.sink.flushesDone = p.sink.flushesDone + n

theorem Emitted.flushedSince {bodyError : WriteFault → Error} {body : Bytes} {s : Step}
    (h : Emitted p bodyError body s) (hok : s.result = .ok ()) : FlushedSince p 1 s.printer := by
  cases h with
  | @whole sink fits took =>
    have hfault : sink.flushFault (sink.flushes + 1) = none := by
      rw [took.flushFault, took.flushes]
      exact flushed_eq_ok_iff.1 hok
    exact ⟨flushed_flush hfault, (flushesDone_flush hfault).trans (by rw [took.flushesDone])⟩
  | part fault full took => cases hok

theorem perform_flushedSince {op : Operation} (h : (p.perform op).result = .ok ()) :
    FlushedSince p 1 (p.perform op).printer := by
  cases op with
  | announce e => exact (p.announce_emitted e).flushedSince h
  | print frame =>
    obtain ⟨s, hemitted, hresult, hprinter⟩ := p.printFrame_emitted frame
    obtain ⟨hflushed, hflushes⟩ := hemitted.flushedSince (hresult.symm.trans h)
    show FlushedSince p 1 (p.printFrame frame).printer
    rw [hprinter]
    exact ⟨hflushed, hflushes⟩

/-- Each operation adds one flush, and the last one leaves nothing behind it. -/
theorem Succeeds.flushedSince (h : p.Succeeds ops) (hne : ops ≠ []) :
    FlushedSince p ops.length (p.after ops) := by
  induction ops generalizing p with
  | nil => exact absurd rfl hne
  | cons op ops ih =>
    have hfirst := perform_flushedSince h.1
    cases ops with
    | nil => exact hfirst
    | cons op' ops =>
      have hrest := ih h.2 (List.cons_ne_nil op' ops)
      refine ⟨hrest.flushed, ?_⟩
      rw [after, hrest.flushes, hfirst.flushes, List.length_cons (a := op)]
      omega

end Printer

namespace Listener

open Printer

variable {l : Listener} {before behind : List Event} {timeout : Duration}

/-! ## The moments of waiting -/

/-- A wait begins with its call and makes no other. -/
theorem await_events (l : Listener) (w : Wait) :
    ∃ rest, (l.await w).events = .receiving l.pollInterval :: rest ∧
      ∀ timeout, .receiving timeout ∉ rest := by
  have hcalls := (l.await_round w).calls
  have hevents : ∃ rest, (l.await w).events = .receiving l.pollInterval :: rest := by
    rw [await]
    split <;> exact ⟨_, rfl⟩
  obtain ⟨rest, hrest⟩ := hevents
  rw [hrest, List.filter_cons_of_pos rfl] at hcalls
  refine ⟨rest, hrest, fun timeout hmem => ?_⟩
  exact List.filter_eq_nil_iff.1 (List.cons.inj hcalls).2 _ hmem rfl

/-- An event that does not occur in the first of two lists comes behind it. -/
theorem exists_between {events later : List Event} {e : Event} (hnone : e ∉ events)
    (h : events ++ later = before ++ e :: behind) :
    ∃ between, before = events ++ between ∧ later = between ++ e :: behind := by
  rcases List.append_eq_append_iff.1 h with ⟨between, hbefore, hlater⟩ | ⟨inside, hevents, hrest⟩
  · exact ⟨between, hbefore, hlater⟩
  · cases inside with
    | nil => exact ⟨[], by rw [hevents, List.append_nil, List.append_nil], hrest.symm⟩
    | cons e' inside =>
      obtain ⟨rfl, -⟩ := List.cons.inj hrest
      refine absurd ?_ hnone
      rw [hevents]
      exact List.mem_append_right _ List.mem_cons_self

/-- A run begins with a wait, unless its end was requested before. -/
theorem run_begins {waits : List Wait}
    (h : (l.run false waits).events = .receiving timeout :: behind) :
    (l.run false []).status = .waiting ∧ (l.run false []).events = [.receiving timeout] := by
  have hevents : ∃ rest, (l.run false waits).events = .receiving l.pollInterval :: rest := by
    cases waits with
    | nil => exact ⟨[], rfl⟩
    | cons w waits =>
      obtain ⟨rest, hawait, -⟩ := l.await_events w
      rw [run]
      dsimp only
      split
      · exact ⟨rest, hawait⟩
      · exact ⟨_, congrArg (· ++ _) hawait⟩
  obtain ⟨rest, hrest⟩ := hevents
  obtain ⟨hsame, -⟩ := List.cons.inj (hrest.symm.trans h)
  rw [← hsame]
  exact ⟨rfl, rfl⟩

/-- A wait for a frame that a run shows is the one that it comes to behind some of its waits. -/
theorem run_receiving {cancelled : Bool} {waits : List Wait}
    (h : (l.run cancelled waits).events = before ++ .receiving timeout :: behind) :
    ∃ past left, waits = past ++ left ∧ (l.run cancelled past).status = .waiting ∧
      (l.run cancelled past).events = before ++ [.receiving timeout] := by
  induction waits generalizing l cancelled before with
  | nil =>
    cases cancelled with
    | true => cases before <;> cases h
    | false =>
      cases before with
      | nil => exact ⟨[], [], rfl, run_begins h⟩
      | cons e before => cases before <;> cases h
  | cons w waits ih =>
    cases cancelled with
    | true => cases before <;> cases h
    | false =>
      cases before with
      | nil => exact ⟨[], w :: waits, rfl, run_begins h⟩
      | cons e before =>
        obtain ⟨rest, hawait, hnone⟩ := l.await_events w
        rw [run] at h
        dsimp only at h
        split at h
        · -- The wait failed, and its events hold no second call.
          rw [hawait] at h
          obtain ⟨between, -, hlater⟩ :=
            exists_between (hnone timeout) ((List.append_nil rest).trans (List.cons.inj h).2)
          cases between <;> cases hlater
        · rename_i hok
          rw [hawait] at h
          obtain ⟨rfl, hbehind⟩ := List.cons.inj h
          obtain ⟨between, rfl, hlater⟩ := exists_between (hnone timeout) hbehind
          obtain ⟨past, left, rfl, hwaiting, hevents⟩ := ih hlater
          refine ⟨w :: past, left, rfl, ?_⟩
          rw [run]
          dsimp only
          rw [hok]
          refine ⟨hwaiting, ?_⟩
          show (l.await w).events ++ _ = _
          rw [hawait, hevents, List.cons_append, List.cons_append, List.append_assoc]

/-- While it is set up, a listener does not wait for frames. -/
theorem receiving_notMem_setup (l : Listener) (socket : Socket) (es : List Endpoint)
    (timeout : Duration) : .receiving timeout ∉ (l.setup socket es).events := by
  intro hmem
  rcases call_of_mem_setup hmem rfl with h | ⟨e, -, h⟩
  · cases h
  · cases h

/-! ## Setting up and running -/

/-- Everything that the listener `m` has written has been flushed, and since it was `l` one
flush has succeeded for each of `announced` announcements and for each frame printed. -/
structure UpToDate (l : Listener) (announced : Nat) (m : Listener) : Prop where
  flushed : m.printer.sink.Flushed
  flushes : m.printer.sink.flushesDone + l.printer.printed =
    l.printer.sink.flushesDone + announced + m.printer.printed

/-- A run that has not failed has flushed everything, and the setting up before it as well. -/
theorem upToDate_run {socket : Socket} {es : List Endpoint}
    (hready : (l.setup socket es).result = .ok ()) (cancelled : Bool) (waits : List Wait)
    (hstatus : ∀ e, ((l.setup socket es).listener.run cancelled waits).status ≠ .failed e) :
    UpToDate l es.length ((l.setup socket es).listener.run cancelled waits).listener := by
  obtain ⟨hes, -, -, hannounced⟩ := setup_ok_iff.1 hready
  have hlistener : (l.setup socket es).listener = l.announced es := by rw [setup_of_ok hready]
  rw [hlistener] at hstatus ⊢
  obtain ⟨past, -, h⟩ := (l.announced es).run_course cancelled waits
  have hprints : (l.announced es).printer.Succeeds (prints past) := by
    cases hr : ((l.announced es).run cancelled waits).status with
    | stopped n => exact (h.stopped n hr).2.1
    | failed e => exact absurd hr (hstatus e)
    | waiting => exact (h.waiting hr).2.2
  have hall : l.printer.Succeeds (es.map .announce ++ prints past) :=
    succeeds_append_iff.2 ⟨hannounced, hprints⟩
  have hafter : ((l.announced es).run cancelled waits).listener.printer =
      l.printer.after (es.map .announce ++ prints past) := by
    rw [h.listener, after_append]
    rfl
  have hflushed := hall.flushedSince (by simpa using fun h _ => hes h)
  rw [← hafter] at hflushed
  refine ⟨hflushed.flushed, ?_⟩
  rw [hflushed.flushes, hafter, after_printed, hall.succeeded, List.countP_append, countP_prints,
    countP_announce, List.length_append, List.length_map, prints, List.length_map]
  omega

/-- Whenever a listener waits for a frame, and whenever its run ends on request, everything that
its sink took has been flushed, and as many flushes have succeeded as endpoints were announced
and frames printed. -/
theorem waits_flushed (l : Listener) (socket : Socket) (es : List Endpoint) (cancelled : Bool)
    (waits : List Wait) :
    let ready := l.setup socket es
    (∀ before timeout behind,
      l.session socket es cancelled waits = before ++ .receiving timeout :: behind →
      ready.result = .ok () ∧ ∃ past left, waits = past ++ left ∧
        l.session socket es cancelled past = before ++ [.receiving timeout] ∧
        let r := ready.listener.run cancelled past
        r.status = .waiting ∧ UpToDate l es.length r.listener) ∧
    (ready.result = .ok () → ∀ n,
      let r := ready.listener.run cancelled waits
      r.status = .stopped n → UpToDate l es.length r.listener) := by
  intro ready
  constructor
  · intro before timeout behind h
    rw [session] at h
    cases hready : (l.setup socket es).result with
    | error error =>
      rw [hready] at h
      refine absurd ?_ (l.receiving_notMem_setup socket es timeout)
      rw [show (l.setup socket es).events = _ from h]
      exact List.mem_append_right _ List.mem_cons_self
    | ok u =>
      rw [hready] at h
      obtain ⟨between, rfl, hrun⟩ := exists_between (l.receiving_notMem_setup socket es timeout) h
      obtain ⟨past, left, hsplit, hwaiting, hevents⟩ := run_receiving hrun
      refine ⟨rfl, past, left, hsplit, ?_, hwaiting, ?_⟩
      · rw [session, hready]
        show ready.events ++ _ = _
        rw [hevents, List.append_assoc]
      · refine upToDate_run hready cancelled past fun e he => ?_
        rw [hwaiting] at he
        cases he
  · intro hready n r hstopped
    refine upToDate_run hready cancelled waits fun e he => ?_
    rw [show r.status = _ from he] at hstopped
    cases hstopped

end Listener
end FrameTap
