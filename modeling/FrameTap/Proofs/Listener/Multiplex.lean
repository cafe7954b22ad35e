import FrameTap.Proofs.Listener.Continue
import Mathlib.Logic.Function.Basic

/-!
# Several publishers on one socket

The subscriber socket keeps a queue for each publisher.  What a publisher sends goes to the end
of its queue, and a receive takes the first frame of any queue that has one, so across
publishers there is no order.  Sends, the polls of the loop and the request for its end may
interleave in any way, and each part of an iteration is a step of its own, so that the request
can come between the poll and the receive, and between the receive and the print.

The order of each publisher survives all of this (`reaches_keeps_order`): what was printed
of its frames, what the loop has in hand and what its queue holds are, one after the other, what
it sent.  The loop of these steps is `Listener.run`, which leaves the same listener and ends
the same way, and no run of it is left out (`exists_reaches_run`).
-/

namespace FrameTap

open Listener Printer Transport

/-! ## The system -/

namespace Multiplex

variable {P : Type}

/-- Where the loop stands. -/
inductive Stage (P : Type) where
  /-- In front of the look at the request. -/
  | head
  | polling
  /-- Behind a poll that found a frame, in front of the receive. -/
  | readable
  /-- Behind the receive, in front of the print. -/
  | received (p : P) (frame : Bytes)
  | stopped (printed : Nat)
  | failed (e : Error)
  | unprinted (p : P) (frame : Bytes) (e : Error)

namespace Stage

/-- The frame that was received and not printed. -/
def inHand : Stage P → List (P × Bytes)
  | received p frame | unprinted p frame _ => [(p, frame)]
  | head | polling | readable | stopped _ | failed _ => []

/-- The frame whose printing failed. -/
def tried : Stage P → List (P × Bytes)
  | unprinted p frame _ => [(p, frame)]
  | head | polling | readable | received _ _ | stopped _ | failed _ => []

def status : Stage P → Status
  | stopped n => .stopped n
  | failed e | unprinted _ _ e => .failed e
  | head | polling | readable | received _ _ => .waiting

end Stage

structure System (P : Type) where
  listener : Listener
  stage : Stage P := .head
  cancelled : Bool := false
  /-- The polls that are over, each with what was received behind it. -/
  past : List Poll := []
  printed : List (P × Bytes) := []
  sent : P → List Bytes := fun _ => []
  queue : P → List Bytes := fun _ => []

/-! ## The run of the loop -/

/-- A run of the loop from `l` through these waits has come where the system is. -/
structure Follows (l : Listener) (s : System P) (cancelled : Bool) (waits : List Wait) : Prop where
  polls : waits.map Wait.reception = s.past.map Poll.reception
  listener : (l.run cancelled waits).listener = s.listener
  status : (l.run cancelled waits).status = s.stage.status
  left : (l.run cancelled waits).left = []
  going : s.stage.status = .waiting → cancelled = false ∧ waits = unrequested s.past

theorem follows_start (l : Listener) : Follows l ({ listener := l } : System P) false [] :=
  ⟨rfl, rfl, rfl, rfl, fun _ => ⟨rfl, rfl⟩⟩

variable {s s' : System P} {l : Listener} {cancelled : Bool} {waits : List Wait}

theorem Follows.inside (h : Follows l s cancelled waits) (hlistener : s'.listener = s.listener)
    (hpast : s'.past = s.past) (hstatus : s'.stage.status = s.stage.status) :
    Follows l s' cancelled waits := by
  refine ⟨?_, ?_, ?_, h.left, ?_⟩
  · rw [hpast, h.polls]
  · rw [hlistener, h.listener]
  · rw [hstatus, h.status]
  · rw [hstatus, hpast]
    exact h.going

/-- The end of an iteration, whose poll is over. -/
theorem Follows.iterate (h : Follows l s cancelled waits) (hgoing : s.stage.status = .waiting)
    {poll : Poll} (hpast : s'.past = s.past ++ [poll]) {r : Run}
    (hrun : (s.listener.run false [⟨poll.reception, false⟩]).Agrees r)
    (hlistener : r.listener = s'.listener) (hstatus : r.status = s'.stage.status)
    (hleft : r.left = []) : Follows l s' false (unrequested s'.past) := by
  obtain ⟨rfl, rfl⟩ := h.going hgoing
  have hwaiting := h.status.trans hgoing
  obtain ⟨hlistener', hstatus', hleft'⟩ := run_append_of_waiting hwaiting [⟨poll.reception, false⟩]
  rw [h.listener] at hlistener' hstatus' hleft'
  refine ⟨map_reception_unrequested _, ?_, ?_, ?_, fun _ => ⟨rfl, rfl⟩⟩
  · rw [hpast, unrequested_append, hlistener', hrun.listener, hlistener]
  · rw [hpast, unrequested_append, hstatus', hrun.status, hstatus]
  · rw [hpast, unrequested_append, hleft', hrun.left, hleft]

theorem Follows.wake (h : Follows l s cancelled waits) (hgoing : s.stage.status = .waiting)
    {poll : Poll} (hpoll : poll.reception = .nothing) :
    Follows l { s with stage := .head, past := s.past ++ [poll] } false
      (unrequested (s.past ++ [poll])) := by
  obtain ⟨hlistener, hok⟩ := await_of_nothing (l := s.listener) (w := ⟨poll.reception, false⟩) hpoll
  exact h.iterate hgoing rfl (run_once_of_ok hok) hlistener rfl rfl

theorem Follows.fail (h : Follows l s cancelled waits) (hgoing : s.stage.status = .waiting)
    {poll : Poll} {e : Error} (hpoll : poll.reception = .failed e) :
    Follows l { s with stage := .failed e, past := s.past ++ [poll] } false
      (unrequested (s.past ++ [poll])) := by
  obtain ⟨hlistener, herror⟩ :=
    await_of_failed (l := s.listener) (w := ⟨poll.reception, false⟩) hpoll
  exact h.iterate hgoing rfl (run_once_of_error herror) hlistener rfl rfl

/-- The look at the request that ends the run. -/
theorem Follows.stop (h : Follows l s cancelled waits) (hgoing : s.stage.status = .waiting) :
    ∃ cancelled' waits',
      Follows l { s with stage := .stopped s.listener.printer.printed } cancelled' waits' := by
  obtain ⟨rfl, rfl⟩ := h.going hgoing
  obtain ⟨c, hpolls, hlistener, hstatus, hleft⟩ := exists_call_of_waiting (h.status.trans hgoing)
  rw [h.listener] at hlistener
  refine ⟨c.cancelled, c.waits, ?_, hlistener, ?_, hleft, ?_⟩
  · show c.waits.map Wait.reception = s.past.map Poll.reception
    rw [← hpolls]
    cases c <;> simp [Call.waits, Call.polls, Poll.waits]
  · rw [hstatus, hlistener]
    rfl
  · intro hw
    cases hw

/-! ## What was received -/

/-- The frames that the polls brought were printed, except for the last if its printing failed. -/
def Received (s : System P) : Prop :=
  Wait.frames (unrequested s.past) = (s.printed ++ s.stage.tried).map Prod.snd

def printing (frames : List (P × Bytes)) : List Operation := frames.map fun f => .print f.2

theorem Follows.frames (h : Follows l s cancelled waits) (hs : Received s) :
    Wait.frames waits = (s.printed ++ s.stage.tried).map Prod.snd :=
  (frames_congr (h.polls.trans (map_reception_unrequested _).symm)).trans hs

theorem Follows.printer (h : Follows l s cancelled waits) (hs : Received s) :
    s.listener = { l with printer := l.printer.after (printing (s.printed ++ s.stage.tried)) } := by
  obtain ⟨past, hsplit, hcourse⟩ := l.run_course cancelled waits
  rw [h.left, List.append_nil] at hsplit
  have hprints : prints waits = printing (s.printed ++ s.stage.tried) := by
    rw [prints, h.frames hs, List.map_map]
    rfl
  rw [← h.listener, hcourse.listener, ← hsplit, hprints]

/-! ## Steps -/

/-- The frames of one publisher. -/
def framesOf [DecidableEq P] (p : P) (frames : List (P × Bytes)) : List Bytes :=
  (frames.filter fun f => f.1 = p).map Prod.snd

variable [DecidableEq P]

/-- One step of a publisher, of whoever requests the end, or of the loop. -/
inductive Step (s : System P) : System P → Prop where
  | send (p : P) (frame : Bytes) :
      Step s { s with
        sent := Function.update s.sent p (s.sent p ++ [frame])
        queue := Function.update s.queue p (s.queue p ++ [frame]) }
  | cancel : Step s { s with cancelled := true }
  | stop (h : s.stage = .head) (hc : s.cancelled = true) :
      Step s { s with stage := .stopped s.listener.printer.printed }
  | poll (h : s.stage = .head) (hc : s.cancelled = false) : Step s { s with stage := .polling }
  /-- The poll was idle, or a signal interrupted it. -/
  | wake (h : s.stage = .polling) (poll : Poll) (hpoll : poll.reception = .nothing) :
      Step s { s with stage := .head, past := s.past ++ [poll] }
  | unpolled (h : s.stage = .polling) (code : Code) (e : Error)
      (hpoll : (Poll.failed code).reception = .failed e) :
      Step s { s with
        stage := .failed e
        past := s.past ++ [.failed code] }
  | ready (h : s.stage = .polling) (p : P) (hp : s.queue p ≠ []) :
      Step s { s with stage := .readable }
  | unreceived (h : s.stage = .readable) (code : Code) :
      Step s { s with
        stage := .failed (.transport code)
        past := s.past ++ [.readable (.error code)] }
  | receive (h : s.stage = .readable) (p : P) (frame : Bytes) (rest : List Bytes)
      (hp : s.queue p = frame :: rest) :
      Step s { s with
        stage := .received p frame
        queue := Function.update s.queue p rest }
  | print (p : P) (frame : Bytes) (h : s.stage = .received p frame)
      (hprint : (s.listener.printer.printFrame frame).result = .ok ()) :
      Step s { s with
        listener.printer := (s.listener.printer.printFrame frame).printer
        stage := .head
        past := s.past ++ [.readable (.ok frame)]
        printed := s.printed ++ [(p, frame)] }
  | unprinted (p : P) (frame : Bytes) (e : Error) (h : s.stage = .received p frame)
      (hprint : (s.listener.printer.printFrame frame).result = .error e) :
      Step s { s with
        listener.printer := (s.listener.printer.printFrame frame).printer
        stage := .unprinted p frame e
        past := s.past ++ [.readable (.ok frame)] }

/-- Everything that can happen, in any order. -/
inductive Reaches (s : System P) : System P → Prop where
  | refl : Reaches s s
  | step {s' s'' : System P} (h : Reaches s s') (hstep : Step s' s'') : Reaches s s''

/-! ## Order -/

/-- Where the frames of each publisher are. -/
def Ordered (s : System P) : Prop :=
  ∀ p, framesOf p s.printed ++ framesOf p s.stage.inHand ++ s.queue p = s.sent p

theorem framesOf_nil (p : P) : framesOf p [] = [] := rfl

theorem framesOf_single_self (p : P) (frame : Bytes) : framesOf p [(p, frame)] = [frame] := by
  simp [framesOf]

theorem framesOf_single_of_ne {p q : P} (h : q ≠ p) (frame : Bytes) :
    framesOf p [(q, frame)] = [] := by
  simp [framesOf, h]

theorem framesOf_append (p : P) (frames more : List (P × Bytes)) :
    framesOf p (frames ++ more) = framesOf p frames ++ framesOf p more := by
  simp [framesOf]

theorem Step.ordered (h : Step s s') (hs : Ordered s) : Ordered s' := by
  intro p
  have hp := hs p
  cases h with
  | send q frame =>
    dsimp only
    by_cases hq : p = q
    · subst hq
      rw [Function.update_self, Function.update_self, ← List.append_assoc, hp]
    · rw [Function.update_of_ne hq, Function.update_of_ne hq, hp]
  | cancel => exact hp
  | stop hstage _ | poll hstage _ | wake hstage _ _ | unpolled hstage _ _ _ | ready hstage _ _
  | unreceived hstage _ =>
    rw [hstage] at hp
    exact hp
  | receive hstage q frame rest hqueue =>
    rw [hstage] at hp
    dsimp only
    by_cases hq : p = q
    · subst hq
      rw [hqueue] at hp
      rw [Function.update_self, ← hp]
      show _ ++ framesOf p [(p, frame)] ++ rest = _ ++ framesOf p [] ++ frame :: rest
      rw [framesOf_single_self, framesOf_nil, List.append_nil, List.append_assoc,
        List.singleton_append]
    · rw [Function.update_of_ne hq, ← hp]
      show _ ++ framesOf p [(q, frame)] ++ _ = _
      rw [framesOf_single_of_ne (Ne.symm hq)]
      rfl
  | print q frame hstage _ =>
    rw [hstage] at hp
    rw [← hp]
    show framesOf p (s.printed ++ [(q, frame)]) ++ framesOf p [] ++ s.queue p = _
    rw [framesOf_append, framesOf_nil, List.append_nil]
    rfl
  | unprinted q frame e hstage _ =>
    rw [hstage] at hp
    exact hp

/-! ## Every step and every run -/

theorem Step.follows (h : Step s s') (hs : Follows l s cancelled waits) :
    ∃ cancelled' waits', Follows l s' cancelled' waits' := by
  cases h with
  | send | cancel => exact ⟨_, _, hs.inside rfl rfl rfl⟩
  | poll hstage _ | ready hstage _ _ | receive hstage _ _ _ _ =>
    refine ⟨_, _, hs.inside rfl rfl ?_⟩
    rw [hstage]
    rfl
  | stop hstage _ => exact hs.stop (congrArg Stage.status hstage)
  | wake hstage poll hpoll => exact ⟨_, _, hs.wake (congrArg Stage.status hstage) hpoll⟩
  | unpolled hstage code e hpoll => exact ⟨_, _, hs.fail (congrArg Stage.status hstage) hpoll⟩
  | unreceived hstage code => exact ⟨_, _, hs.fail (congrArg Stage.status hstage) rfl⟩
  | print p frame hstage hprint =>
    have hok : (s.listener.await ⟨.frame frame, false⟩).result = .ok () := hprint
    exact ⟨_, _, hs.iterate (congrArg Stage.status hstage) rfl (run_once_of_ok hok) rfl rfl rfl⟩
  | unprinted p frame e hstage hprint =>
    have herror : (s.listener.await ⟨.frame frame, false⟩).result = .error e := hprint
    exact ⟨_, _, hs.iterate (congrArg Stage.status hstage) rfl (run_once_of_error herror) rfl rfl
      rfl⟩

theorem Step.received (h : Step s s') (hs : Received s) : Received s' := by
  have hframe (frame : Bytes) : Wait.frames (unrequested (s.past ++ [.readable (.ok frame)])) =
      Wait.frames (unrequested s.past) ++ [frame] := by
    rw [unrequested_append, frames_append]
    rfl
  rw [Received] at hs ⊢
  cases h with
  | send | cancel => exact hs
  | stop hstage _ | poll hstage _ | ready hstage _ _ | receive hstage _ _ _ _ =>
    rw [hstage] at hs
    exact hs
  | wake hstage poll hpoll =>
    rw [hstage] at hs
    rw [frames_unrequested_quiet _ (by simp [hpoll])]
    exact hs
  | unpolled hstage code e hpoll =>
    rw [hstage] at hs
    rw [frames_unrequested_quiet _ (by simp [hpoll])]
    exact hs
  | unreceived hstage code =>
    rw [hstage] at hs
    rw [frames_unrequested_quiet _ (by simp [Poll.reception])]
    exact hs
  | print p frame hstage _ =>
    rw [hstage] at hs
    rw [hframe, hs]
    simp [Stage.tried]
  | unprinted p frame e hstage _ =>
    rw [hstage] at hs
    rw [hframe, hs]
    simp [Stage.tried]

theorem Step.succeeds (h : Step s s') (hs : Follows l s cancelled waits) (hr : Received s)
    (hprinted : l.printer.Succeeds (printing s.printed)) :
    l.printer.Succeeds (printing s'.printed) := by
  cases h with
  | print p frame hstage hprint =>
    have hprinter := congrArg Listener.printer (hs.printer hr)
    rw [hstage] at hprinter
    show l.printer.Succeeds (printing (s.printed ++ [(p, frame)]))
    rw [printing, List.map_append]
    refine succeeds_append_iff.2 ⟨hprinted, ?_, trivial⟩
    rw [hprinter] at hprint
    show ((l.printer.after (printing s.printed)).printFrame frame).result = .ok ()
    rwa [Stage.tried, List.append_nil] at hprint
  | send | cancel | stop | poll | wake | unpolled | ready | unreceived | receive | unprinted =>
    exact hprinted

/-- What every step preserves. -/
structure Kept (l : Listener) (s : System P) : Prop where
  ordered : Ordered s
  received : Received s
  printed : l.printer.Succeeds (printing s.printed)
  follows : ∃ cancelled waits, Follows l s cancelled waits

theorem kept_start (l : Listener) : Kept l ({ listener := l } : System P) :=
  ⟨fun _ => rfl, rfl, trivial, false, [], follows_start l⟩

theorem Step.kept (h : Step s s') (hs : Kept l s) : Kept l s' := by
  obtain ⟨hordered, hreceived, hprinted, cancelled, waits, hfollows⟩ := hs
  exact ⟨h.ordered hordered, h.received hreceived, h.succeeds hfollows hreceived hprinted,
    h.follows hfollows⟩

theorem Reaches.kept (h : Reaches { listener := l } s) : Kept l s := by
  induction h with
  | refl => exact kept_start l
  | step _ hstep ih => exact hstep.kept ih

/-- Whatever is sent, in whatever order the queues are served, and whenever the polls end and
the end is requested: the frames of each publisher that were printed, the one that the loop has
in hand, if it is of this publisher, and those in its queue are what it sent, in order.  What was
printed was printed by the run of the loop through the polls that are over. -/
theorem reaches_keeps_order (h : Reaches { listener := l } s) :
    (∀ p, framesOf p s.printed ++ framesOf p s.stage.inHand ++ s.queue p = s.sent p) ∧
      s.stage.inHand.length ≤ 1 ∧
      l.printer.Succeeds (printing s.printed) ∧
      s.listener = { l with printer := l.printer.after (printing (s.printed ++ s.stage.tried)) } ∧
      ∃ cancelled waits, waits.map Wait.reception = s.past.map Poll.reception ∧
        Wait.frames waits = (s.printed ++ s.stage.tried).map Prod.snd ∧
        let r := l.run cancelled waits
        r.listener = s.listener ∧ r.status = s.stage.status ∧ r.left = [] := by
  obtain ⟨hordered, hreceived, hprinted, cancelled, waits, hfollows⟩ := h.kept
  refine ⟨hordered, ?_, hprinted, hfollows.printer hreceived, cancelled, waits, hfollows.polls,
    hfollows.frames hreceived, hfollows.listener, hfollows.status, hfollows.left⟩
  cases s.stage <;> simp [Stage.inHand]

/-- Of two publishers the second to send is served first, a poll is interrupted, and the end is
requested while a frame is in hand and another one in its publisher's queue. -/
theorem reaches_keeps_order_two :
    ∃ s : System Bool, Reaches { listener := ⟨{}, .ofMillis 1⟩ } s ∧
      s.cancelled = true ∧ s.past = [.failed .eintr, .readable (.ok [0x42])] ∧
      s.printed = [(false, [0x42])] ∧ s.stage.inHand = [(true, [0x41])] ∧
      s.queue true = [[0x43]] ∧ s.sent true = [[0x41], [0x43]] ∧
      (∀ p, framesOf p s.printed ++ framesOf p s.stage.inHand ++ s.queue p = s.sent p) ∧
      (⟨{}, .ofMillis 1⟩ : Listener).printer.Succeeds [.print [0x42]] := by
  have hprint := (perform_of_unfailing (p := {}) ⟨rfl, fun _ => rfl⟩ (.print [0x42])).1
  have h : Reaches ({ listener := ⟨{}, .ofMillis 1⟩ } : System Bool) _ := .refl
  have h := (h.step (.poll rfl rfl)).step (.wake rfl (.failed .eintr) rfl)
  dsimp only at h
  have h := (h.step (.send true [0x41])).step (.send false [0x42])
  dsimp only at h
  have h := (h.step (.poll rfl rfl)).step (.ready rfl true (List.cons_ne_nil _ _))
  dsimp only at h
  have h := (h.step (.receive rfl false [0x42] [] rfl)).step (.print false [0x42] rfl hprint)
  dsimp only at h
  have h := (h.step (.poll rfl rfl)).step (.ready rfl true (List.cons_ne_nil _ _))
  dsimp only at h
  have h := (h.step (.send true [0x43])).step (.receive rfl true [0x41] [[0x43]] rfl)
  have h := h.step .cancel
  dsimp only at h
  obtain ⟨hordered, -, hprinted, -⟩ := reaches_keeps_order h
  exact ⟨_, h, rfl, rfl, rfl, rfl, rfl, rfl, hordered, hprinted⟩

/-! ## Every run is reached -/

theorem Reaches.head {s'' : System P} (hstep : Step s s') (h : Reaches s' s'') :
    Reaches s s'' := by
  induction h with
  | refl => exact .step .refl hstep
  | step _ hlast ih => exact .step ih hlast

theorem Reaches.trans {s'' : System P} (h : Reaches s s') (h' : Reaches s' s'') :
    Reaches s s'' := by
  induction h with
  | refl => exact h'
  | step _ hlast ih => exact ih (.head hlast h')

/-- A poll can be begun, and the end be requested while it lasts. -/
theorem exists_polling (hstage : s.stage = .head) (hc : s.cancelled = false) (cancels : Bool) :
    Reaches s { s with stage := .polling, cancelled := cancels } := by
  have hpoll : Reaches s { s with stage := .polling } := .step .refl (.poll hstage hc)
  cases cancels with
  | false =>
    rw [hc] at hpoll
    exact hpoll
  | true => exact .step hpoll .cancel

/-- A frame that is sent while a poll lasts is the next one to be received from its publisher. -/
theorem exists_readable {p : P} (hstage : s.stage = .polling) (hq : s.queue p = [])
    (frame : Bytes) :
    ∃ s', Reaches s s' ∧ s'.listener = s.listener ∧ s'.cancelled = s.cancelled ∧
      s'.stage = .readable ∧ s'.queue p = [frame] := by
  have hqueue : Function.update s.queue p (s.queue p ++ [frame]) p = [frame] := by
    rw [Function.update_self, hq]
    rfl
  have hsent : Reaches s _ := .step .refl (.send p frame)
  refine ⟨_, hsent.step (.ready hstage p ?_), rfl, rfl, rfl, hqueue⟩
  show Function.update s.queue p (s.queue p ++ [frame]) p ≠ []
  rw [hqueue]
  exact List.cons_ne_nil _ _

/-- A poll that fails, or a receive that does behind one that found a frame. -/
theorem exists_failed {p : P} (hstage : s.stage = .polling) (hq : s.queue p = []) {poll : Poll}
    {e : Error} (hpoll : poll.reception = .failed e) :
    ∃ s', Reaches s s' ∧ s'.listener = s.listener ∧ s'.stage = .failed e := by
  cases poll with
  | idle => cases hpoll
  | failed code => exact ⟨_, .step .refl (.unpolled hstage code e hpoll), rfl, rfl⟩
  | readable received =>
    cases received with
    | ok bytes => cases hpoll
    | error code =>
      cases hpoll
      obtain ⟨s', hreaches, hlistener, -, hstage', -⟩ := exists_readable hstage hq []
      exact ⟨_, hreaches.step (.unreceived hstage' code), hlistener, rfl⟩

/-- What one iteration of the loop leads to. -/
def Iterates (s : System P) (p : P) (cancels : Bool) (o : Outcome) : Prop :=
  ∃ s', Reaches s s' ∧ s'.listener = o.listener ∧
    (o.result = .ok () → s'.stage = .head ∧ s'.cancelled = cancels ∧ s'.queue p = []) ∧
    ∀ e, o.result = .error e → s'.stage.status = .failed e

variable {p : P} {cancels : Bool}

theorem Iterates.of_reaches {o : Outcome} (h : Reaches s s') (hs : Iterates s' p cancels o) :
    Iterates s p cancels o := by
  obtain ⟨s'', hreaches, hafter⟩ := hs
  exact ⟨s'', h.trans hreaches, hafter⟩

theorem Iterates.of_ok {o : Outcome} (h : Reaches s s') (hlistener : s'.listener = o.listener)
    (hok : o.result = .ok ()) (hstage : s'.stage = .head) (hc : s'.cancelled = cancels)
    (hq : s'.queue p = []) : Iterates s p cancels o := by
  refine ⟨s', h, hlistener, fun _ => ⟨hstage, hc, hq⟩, ?_⟩
  intro e he
  rw [hok] at he
  cases he

theorem Iterates.of_error {o : Outcome} {e : Error} (h : Reaches s s')
    (hlistener : s'.listener = o.listener) (herror : o.result = .error e)
    (hstatus : s'.stage.status = .failed e) : Iterates s p cancels o := by
  refine ⟨s', h, hlistener, ?_, ?_⟩
  · intro hok
    rw [herror] at hok
    cases hok
  · intro e' he'
    rw [herror] at he'
    cases he'
    exact hstatus

theorem iterates_frame (hstage : s.stage = .polling) (hc : s.cancelled = cancels)
    (hq : s.queue p = []) (frame : Bytes) :
    Iterates s p cancels (s.listener.await ⟨.frame frame, cancels⟩) := by
  obtain ⟨s', hreaches, hlistener, hcancelled, hstage', hqueue⟩ := exists_readable hstage hq frame
  have hreceived := hreaches.step (.receive hstage' p frame [] hqueue)
  have hempty : Function.update s'.queue p [] p = [] := Function.update_self _ _ _
  rw [← hlistener]
  cases hprint : (s'.listener.printer.printFrame frame).result with
  | ok u =>
    exact .of_ok (hreceived.step (.print p frame rfl hprint)) rfl hprint rfl
      (hcancelled.trans hc) hempty
  | error e =>
    exact .of_error (hreceived.step (.unprinted p frame e rfl hprint)) rfl hprint rfl

theorem iterates (hstage : s.stage = .head) (hc : s.cancelled = false) (hq : s.queue p = [])
    (poll : Poll) (cancels : Bool) :
    Iterates s p cancels (s.listener.await ⟨poll.reception, cancels⟩) := by
  have hpolling := exists_polling hstage hc cancels
  cases hreception : poll.reception with
  | nothing =>
    obtain ⟨hlistener, hok⟩ := await_of_nothing (l := s.listener) (w := ⟨.nothing, cancels⟩) rfl
    exact .of_ok (hpolling.step (.wake rfl poll hreception)) hlistener.symm hok rfl rfl hq
  | failed e =>
    obtain ⟨hlistener, herror⟩ :=
      await_of_failed (l := s.listener) (w := ⟨.failed e, cancels⟩) rfl
    obtain ⟨s', hreaches, hlistener', hstage'⟩ := exists_failed
      (s := { s with stage := .polling, cancelled := cancels }) rfl hq hreception
    refine .of_error (hpolling.trans hreaches) (hlistener'.trans hlistener.symm) herror ?_
    rw [hstage']
    rfl
  | frame frame =>
    exact .of_reaches hpolling (iterates_frame
      (s := { s with stage := .polling, cancelled := cancels }) rfl rfl hq frame)

theorem exists_stop (hstage : s.stage = .head) (hc : s.cancelled = true) (waits : List Wait) :
    ∃ s', Reaches s s' ∧ s'.listener = (s.listener.run true waits).listener ∧
      s'.stage.status = (s.listener.run true waits).status := by
  refine ⟨_, .step .refl (.stop hstage hc), ?_, ?_⟩
  · rw [run]
  · rw [run]
    rfl

/-- No run of the loop is left out: whatever its polls come to, and whenever the end is
requested, some way of the system leaves the same listener and ends the same way. -/
theorem exists_reaches_run (hstage : s.stage = .head) (hq : s.queue p = [])
    (polls : List (Poll × Bool)) :
    let r := s.listener.run s.cancelled (polls.map fun poll => ⟨poll.1.reception, poll.2⟩)
    ∃ s', Reaches s s' ∧ s'.listener = r.listener ∧ s'.stage.status = r.status := by
  dsimp only
  induction polls generalizing s with
  | nil =>
    cases hc : s.cancelled with
    | true =>
      exact exists_stop hstage hc _
    | false =>
      refine ⟨s, .refl, rfl, ?_⟩
      rw [hstage]
      rfl
  | cons poll polls ih =>
    cases hc : s.cancelled with
    | true =>
      exact exists_stop hstage hc _
    | false =>
      obtain ⟨s₁, hreaches, hlistener, hok, herror⟩ := iterates hstage hc hq poll.1 poll.2
      rw [List.map_cons, run]
      dsimp only
      cases hresult : (s.listener.await ⟨poll.1.reception, poll.2⟩).result with
      | error e => exact ⟨s₁, hreaches, hlistener, herror e hresult⟩
      | ok u =>
        obtain ⟨hstage₁, hcancelled₁, hq₁⟩ := hok hresult
        obtain ⟨s', hreaches', hlistener', hstatus'⟩ := ih hstage₁ hq₁
        rw [hcancelled₁, hlistener] at hlistener' hstatus'
        exact ⟨s', hreaches.trans hreaches', hlistener', hstatus'⟩

end Multiplex
end FrameTap
