import FrameTap.Proofs.Listener.Run
import FrameTap.Proofs.Printer.Lines
import FrameTap.Transport.Poll

/-!
# Stopping and resuming

A listener may be run several times, each run under a token of its own, and each goes on where
the one before stopped.  Between the frames there may be any number of polls that bring none.
Over a sink that never fails, what has been printed in the end is a matter of the frames alone
(`runs_schedule_independent`): the counter belongs to the printer and outlives the runs, and a
poll without a frame leaves no trace.
-/

namespace FrameTap

open Printer Transport

/-! ## Printers alike -/

theorem Printer.Alike.after {p q : Printer} (h : Alike p q) (ops : List Operation) :
    Alike (p.after ops) (q.after ops) := by
  induction ops generalizing p q with
  | nil => exact h
  | cons op ops ih => exact ih (h.perform op)

theorem Printer.unfailing_after {p : Printer} (h : p.sink.Unfailing) (ops : List Operation) :
    (p.after ops).sink.Unfailing := by
  induction ops generalizing p with
  | nil => exact h
  | cons op ops ih => exact ih (perform_of_unfailing h op).2

theorem Printer.Alike.unfailing {p q : Printer} (h : Alike p q) (hp : p.sink.Unfailing) :
    q.sink.Unfailing :=
  ⟨h.capacity ▸ hp.capacity, h.flushFault ▸ hp.flushFault⟩

/-! ## Polls that do not fail -/

/-- The polls bring these frames and no failure.  Idle and interrupted polls bring nothing. -/
inductive Transport.Brings : List Poll → List Bytes → Prop where
  | nil : Brings [] []
  | frame (bytes : Bytes) {polls : List Poll} {fs : List Bytes} (h : Brings polls fs) :
      Brings (.readable (.ok bytes) :: polls) (bytes :: fs)
  | idle {polls : List Poll} {fs : List Bytes} (h : Brings polls fs) : Brings (.idle :: polls) fs
  | interrupted {polls : List Poll} {fs : List Bytes} (h : Brings polls fs) :
      Brings (.failed .eintr :: polls) fs

def Wait.Sound (w : Wait) : Prop := ∀ e, w.reception ≠ .failed e

namespace Listener

/-- The calls of `run` one after the other.  A token is given by whether it was cancelled before
its call; `Wait.cancels` says it of the token of the call that waits. -/
def runs (l : Listener) (waits : List Wait) : (tokens : List Bool) → List Run
  | [] => []
  | cancelled :: tokens =>
    let r := l.run cancelled waits
    r :: r.listener.runs r.left tokens

/-- One call of `run`, up to the request that ends it. -/
inductive Call where
  /-- The token was cancelled before the call. -/
  | immediate
  /-- The token is cancelled while the last of the polls lasts. -/
  | through (polls : List Poll) (last : Poll)

namespace Call

def cancelled : Call → Bool
  | immediate => true
  | through _ _ => false

def polls : Call → List Poll
  | immediate => []
  | through polls last => polls ++ [last]

def waits : Call → List Wait
  | immediate => []
  | through polls last => Poll.waits polls last

end Call

/-- The calls one after the other, with more to come from the socket behind them. -/
def resume (l : Listener) (calls : List Call) (behind : List Wait) : List Run :=
  l.runs (calls.flatMap Call.waits ++ behind) (calls.map Call.cancelled)

/-- The run came through the waits, printed all they brought, and stopped before the rest. -/
structure Through (l : Listener) (waits rest : List Wait) (r : Run) : Prop where
  listener : r.listener = { l with printer := l.printer.after (prints waits) }
  status : r.status = .stopped (l.printer.printed + (Wait.frames waits).length)
  left : r.left = rest

/-! ## One wait, one call, all calls -/

variable {l : Listener} {w : Wait} {past more rest waits : List Wait} {r : Run}

theorem await_of_unfailing (h : l.printer.sink.Unfailing) (hw : w.Sound) :
    (l.await w).listener = { l with printer := l.printer.after (prints [w]) } ∧
      (l.await w).result = .ok () := by
  have hround := l.await_round w
  refine ⟨hround.listener, ?_⟩
  have hending := hround.ending
  cases hr : (l.await w).result with
  | ok u => rfl
  | error e =>
    rw [hr] at hending
    cases hending with
    | unreceived _ hfailed => exact absurd hfailed (hw e)
    | unprinted _ frame _ hp =>
      rw [(perform_of_unfailing h (.print frame)).1] at hp
      cases hp

theorem printed_after_prints (h : l.printer.sink.Unfailing) (waits : List Wait) :
    (l.printer.after (prints waits)).printed = l.printer.printed + (Wait.frames waits).length := by
  rw [after_printed, (succeeds_of_unfailing h _).succeeded, countP_prints]

theorem Through.append (h : l.printer.sink.Unfailing)
    (hr : Through { l with printer := l.printer.after (prints past) } more rest r) :
    Through l (past ++ more) rest r := by
  have hcount := printed_after_prints h past
  refine ⟨?_, ?_, hr.left⟩
  · rw [hr.listener, prints_append, after_append]
  · rw [hr.status, frames_append, List.length_append, ← Nat.add_assoc]
    exact congrArg (fun n => Status.stopped (n + _)) hcount

/-- The step: a wait that does not fail leaves the rest of the run to the listener behind it. -/
theorem run_cons (h : l.printer.sink.Unfailing) (hw : w.Sound)
    (hlater : Through { l with printer := l.printer.after (prints [w]) } more rest
      (run { l with printer := l.printer.after (prints [w]) } w.cancels waits)) :
    Through l (w :: more) rest (l.run false (w :: waits)) := by
  obtain ⟨hlistener, hresult⟩ := await_of_unfailing h hw
  have hall : Through l ([w] ++ more) rest _ := Through.append h hlater
  rw [run]
  dsimp only
  rw [hresult, hlistener]
  exact ⟨hall.listener, hall.status, hall.left⟩

theorem run_cancelled (l : Listener) (waits : List Wait) : Through l [] waits (l.run true waits) := by
  rw [run]
  exact ⟨rfl, rfl, rfl⟩

/-- The run: the polls of a call are come through to the last, during which the end is
requested. -/
theorem run_waits (h : l.printer.sink.Unfailing) (polls : List Poll) (last : Poll)
    (hsound : ∀ w ∈ Poll.waits polls last, w.Sound) (rest : List Wait) :
    Through l (Poll.waits polls last) rest (l.run false (Poll.waits polls last ++ rest)) := by
  induction polls generalizing l with
  | nil =>
    have hw := hsound ⟨last.reception, true⟩ List.mem_cons_self
    exact run_cons h hw (run_cancelled _ rest)
  | cons poll polls ih =>
    have hw := hsound ⟨poll.reception, false⟩ List.mem_cons_self
    have hrest : ∀ w ∈ Poll.waits polls last, w.Sound := fun w' hw' =>
      hsound w' (List.mem_cons_of_mem _ hw')
    exact run_cons h hw (ih (unfailing_after h _) hrest)

theorem run_call (h : l.printer.sink.Unfailing) (c : Call) (hsound : ∀ w ∈ c.waits, w.Sound)
    (rest : List Wait) : Through l c.waits rest (l.run c.cancelled (c.waits ++ rest)) := by
  cases c with
  | immediate => exact run_cancelled l rest
  | through polls last => exact run_waits h polls last hsound rest

theorem resume_cons (h : l.printer.sink.Unfailing) (c : Call) (hsound : ∀ w ∈ c.waits, w.Sound)
    (calls : List Call) (behind : List Wait) :
    ∃ r, Through l c.waits (calls.flatMap Call.waits ++ behind) r ∧
      l.resume (c :: calls) behind =
        r :: resume { l with printer := l.printer.after (prints c.waits) } calls behind := by
  have hcall := run_call h c hsound (calls.flatMap Call.waits ++ behind)
  refine ⟨_, hcall, ?_⟩
  rw [resume, List.flatMap_cons, List.map_cons, List.append_assoc, runs, hcall.listener,
    hcall.left]
  rfl

/-- All calls together are as one run through all of their waits. -/
theorem resume_through (h : l.printer.sink.Unfailing) {calls : List Call} (hne : calls ≠ [])
    (hsound : ∀ w ∈ calls.flatMap Call.waits, w.Sound) (behind : List Wait) :
    (∀ r ∈ l.resume calls behind, ∃ n, r.status = .stopped n) ∧
      ∃ last, (l.resume calls behind).getLast? = some last ∧
        Through l (calls.flatMap Call.waits) behind last := by
  induction calls generalizing l with
  | nil => exact absurd rfl hne
  | cons c calls ih =>
    rw [List.flatMap_cons] at hsound ⊢
    obtain ⟨hc, hcalls⟩ := List.forall_mem_append.1 hsound
    obtain ⟨r, hr, hresume⟩ := resume_cons h c hc calls behind
    have hfirst : ∃ n, r.status = .stopped n := ⟨_, hr.status⟩
    rw [hresume]
    cases calls with
    | nil =>
      refine ⟨List.forall_mem_singleton.2 hfirst, r, rfl, ?_⟩
      simpa using hr
    | cons c' calls =>
      -- The other calls begin with the printer that the first has left.
      obtain ⟨hstopped, last, hlast, hthrough⟩ :=
        ih (l := { l with printer := l.printer.after (prints c.waits) })
          (unfailing_after h _) (List.cons_ne_nil c' calls) hcalls
      refine ⟨List.forall_mem_cons.2 ⟨hfirst, hstopped⟩, last, ?_, Through.append h hthrough⟩
      rw [List.getLast?_cons, hlast]
      rfl

/-! ## The frames alone -/

theorem frames_of_brings {polls : List Poll} {fs : List Bytes} (h : Brings polls fs)
    (hwaits : waits.map Wait.reception = polls.map Poll.reception) :
    Wait.frames waits = fs ∧ ∀ w ∈ waits, w.Sound := by
  induction h generalizing waits with
  | nil =>
    rw [List.map_eq_nil_iff.1 hwaits]
    exact ⟨rfl, List.forall_mem_nil _⟩
  | frame bytes h ih =>
    obtain ⟨w, waits, rfl, hw, hrest⟩ := List.map_eq_cons_iff.1 hwaits
    obtain ⟨hframes, hsound⟩ := ih hrest
    refine ⟨?_, List.forall_mem_cons.2 ⟨fun e he => ?_, hsound⟩⟩
    · rw [← List.singleton_append, frames_append, frames_single w bytes hw, hframes]
      rfl
    · rw [hw] at he
      cases he
  | idle h ih | interrupted h ih =>
    obtain ⟨w, waits, rfl, hw, hrest⟩ := List.map_eq_cons_iff.1 hwaits
    obtain ⟨hframes, hsound⟩ := ih hrest
    have hnothing : w.reception = .nothing := hw
    refine ⟨?_, List.forall_mem_cons.2 ⟨fun e he => ?_, hsound⟩⟩
    · rw [← List.singleton_append, frames_append, frames_single_of_ne w (by simp [hnothing]),
        hframes]
      rfl
    · rw [hnothing] at he
      cases he

theorem map_reception_waits (calls : List Call) :
    (calls.flatMap Call.waits).map Wait.reception =
      (calls.flatMap Call.polls).map Poll.reception := by
  rw [List.map_flatMap, List.map_flatMap]
  refine congrArg (fun f => calls.flatMap f) (funext fun c => ?_)
  cases c with
  | immediate => rfl
  | through polls last => simp [Call.waits, Call.polls, Poll.waits]

theorem resume_brings (h : l.printer.sink.Unfailing) {calls : List Call} {fs : List Bytes}
    (hne : calls ≠ []) (hfs : Brings (calls.flatMap Call.polls) fs) (behind : List Wait) :
    (∀ r ∈ l.resume calls behind, ∃ n, r.status = .stopped n) ∧
      ∃ last, (l.resume calls behind).getLast? = some last ∧
        last.listener.printer = l.printer.after (fs.map .print) ∧
        last.status = .stopped (l.printer.printed + fs.length) ∧ last.left = behind := by
  obtain ⟨hframes, hsound⟩ := frames_of_brings hfs (map_reception_waits calls)
  obtain ⟨hstopped, last, hlast, hthrough⟩ := resume_through h hne hsound behind
  have hprints : prints (calls.flatMap Call.waits) = fs.map .print := by rw [prints, hframes]
  refine ⟨hstopped, last, hlast, ?_, ?_, hthrough.left⟩
  · rw [hthrough.listener, hprints]
  · rw [hthrough.status, hframes]

/-- However the same frames are delivered to a listener in however many calls, with whatever
polls between them that bring none, the last call returns the same number and the same bytes
have been printed, the frames numbered one after the other.  How long a poll may last makes no
difference. -/
theorem runs_schedule_independent {l l' : Listener} {calls calls' : List Call} {fs : List Bytes}
    (halike : Alike l.printer l'.printer) (hsink : l.printer.sink.Unfailing)
    (hne : calls ≠ []) (hne' : calls' ≠ []) (hfs : Brings (calls.flatMap Call.polls) fs)
    (hfs' : Brings (calls'.flatMap Call.polls) fs) (behind behind' : List Wait) :
    (∀ r ∈ l.resume calls behind ++ l'.resume calls' behind', ∃ n, r.status = .stopped n) ∧
      ∃ last last', (l.resume calls behind).getLast? = some last ∧
        (l'.resume calls' behind').getLast? = some last' ∧
        last.status = .stopped (l.printer.printed + fs.length) ∧ last'.status = last.status ∧
        last.listener.printer.printed = l.printer.printed + fs.length ∧
        last.listener.printer.sink.content = l.printer.sink.content ++
          (fs.mapIdx fun j frame =>
            l.printer.format.render (l.printer.printed + j) frame ++ lineBreak).flatten ∧
        Alike last.listener.printer last'.listener.printer ∧
        last.left = behind ∧ last'.left = behind' := by
  obtain ⟨hstopped, last, hlast, hprinter, hstatus, hleft⟩ := resume_brings hsink hne hfs behind
  obtain ⟨hstopped', last', hlast', hprinter', hstatus', hleft'⟩ :=
    resume_brings (halike.unfailing hsink) hne' hfs' behind'
  have hsucceeds := succeeds_of_unfailing hsink (fs.map .print)
  refine ⟨List.forall_mem_append.2 ⟨hstopped, hstopped'⟩, last, last', hlast, hlast', hstatus,
    ?_, ?_, ?_, ?_, hleft, hleft'⟩
  · rw [hstatus, hstatus', halike.printed]
  · rw [hprinter, after_printed, hsucceeds.succeeded, List.countP_map]
    exact congrArg _ (List.countP_eq_length.2 fun _ _ => rfl)
  · rw [hprinter, content_of_unfailing hsink, stream, renderings_print hsucceeds]
  · rw [hprinter, hprinter']
    exact halike.after _

/-- Two frames, once in one call, and once in three with idle and interrupted polls, of which the
second does not poll at all. -/
theorem runs_schedule_independent_cut :
    let printer : Printer := { format := .json }
    let calls : List Call := [.through [.readable (.ok [0x61])] (.readable (.ok []))]
    let calls' : List Call := [.through [.idle, .failed .eintr] (.readable (.ok [0x61])),
      .immediate,
      .through [.idle, .readable (.ok [])] (.failed .eintr)]
    ∃ last last', (resume ⟨printer, .ofMillis 1⟩ calls []).getLast? = some last ∧
      (resume ⟨printer, .ofMillis 500⟩ calls' []).getLast? = some last' ∧
      last.status = .stopped 2 ∧ last'.status = .stopped 2 ∧
      last.listener.printer.sink.content = Utf8.encode
        ("\x7b\"seq\":0,\"size\":1,\"data\":\"YQ==\"\x7d\n".toList ++
          "\x7b\"seq\":1,\"size\":0,\"data\":\"\"\x7d\n".toList) ∧
      last'.listener.printer.sink.content = last.listener.printer.sink.content := by
  intro printer calls calls'
  have hfs : Brings (calls.flatMap Call.polls) [[0x61], []] := .frame _ (.frame _ .nil)
  have hfs' : Brings (calls'.flatMap Call.polls) [[0x61], []] :=
    .idle (.interrupted (.frame _ (.idle (.frame _ (.interrupted .nil)))))
  have halike : Alike printer printer := ⟨rfl, rfl, rfl, rfl, rfl, rfl⟩
  have hsink : printer.sink.Unfailing := ⟨rfl, fun _ => rfl⟩
  obtain ⟨-, last, last', hlast, hlast', hstatus, hsame, -, hcontent, hprinters, -, -⟩ :=
    @runs_schedule_independent ⟨printer, .ofMillis 1⟩ ⟨printer, .ofMillis 500⟩ calls calls' _
      halike hsink (List.cons_ne_nil _ _) (List.cons_ne_nil _ _) hfs hfs' [] []
  refine ⟨last, last', hlast, hlast', hstatus, hsame.trans hstatus, ?_, hprinters.content.symm⟩
  rw [hcontent]
  decide +kernel

end Listener
end FrameTap
