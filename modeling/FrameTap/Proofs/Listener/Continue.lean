import FrameTap.Proofs.Listener.Resume

/-!
# Runs that go on

A run through some waits is the beginning of every run through these and more.  If it is still
waiting, the rest is a run of its own from the listener that it leaves (`run_append`), so a
run can be followed wait by wait.  And behind each of its waits it could have been stopped, by
a request during that wait or before the first one (`exists_call_of_waiting`).
-/

namespace FrameTap.Listener

open Printer Transport

/-- The runs leave the same, the events apart. -/
structure Run.Agrees (r r' : Run) : Prop where
  listener : r.listener = r'.listener
  status : r.status = r'.status
  left : r.left = r'.left

/-- Where more waits follow, a run that was still waiting goes on, and one that was over is not
changed by them. -/
theorem run_append (l : Listener) (cancelled : Bool) (waits more : List Wait) :
    let r := l.run cancelled waits
    (l.run cancelled (waits ++ more)).Agrees
      (if r.status = .waiting then r.listener.run false more
        else { r with left := r.left ++ more }) := by
  induction waits generalizing l cancelled with
  | nil =>
    cases cancelled with
    | true =>
      rw [List.nil_append, run, run]
      exact ⟨rfl, rfl, rfl⟩
    | false => exact ⟨rfl, rfl, rfl⟩
  | cons w waits ih =>
    cases cancelled with
    | true =>
      rw [run, run]
      exact ⟨rfl, rfl, rfl⟩
    | false =>
      rw [List.cons_append, run, run]
      dsimp only
      cases (l.await w).result with
      | error e => exact ⟨rfl, rfl, rfl⟩
      | ok u =>
        have hlater := ih (l.await w).listener w.cancels
        dsimp only at hlater ⊢
        split at hlater <;> rename_i hstatus
        · rw [if_pos hstatus]
          exact ⟨hlater.listener, hlater.status, hlater.left⟩
        · rw [if_neg hstatus]
          exact ⟨hlater.listener, hlater.status, hlater.left⟩

theorem run_append_of_waiting {l : Listener} {waits : List Wait}
    (h : (l.run false waits).status = .waiting) (more : List Wait) :
    (l.run false (waits ++ more)).Agrees ((l.run false waits).listener.run false more) := by
  have happend := l.run_append false waits more
  dsimp only at happend
  rwa [if_pos h] at happend

theorem waiting_of_append {l : Listener} {waits more : List Wait}
    (h : (l.run false (waits ++ more)).status = .waiting) :
    (l.run false waits).status = .waiting := by
  by_cases hstatus : (l.run false waits).status = .waiting
  · exact hstatus
  · have happend := l.run_append false waits more
    dsimp only at happend
    rw [if_neg hstatus] at happend
    rw [← happend.status, h]

theorem run_once_of_ok {l : Listener} {w : Wait} (h : (l.await w).result = .ok ()) :
    (l.run false [w]).Agrees ((l.await w).listener.run w.cancels []) := by
  rw [run]
  dsimp only
  rw [h]
  exact ⟨rfl, rfl, rfl⟩

theorem run_once_of_error {l : Listener} {w : Wait} {e : Error}
    (h : (l.await w).result = .error e) :
    (l.run false [w]).Agrees ⟨(l.await w).listener, .failed e, [], []⟩ := by
  rw [run]
  dsimp only
  rw [h]
  exact ⟨rfl, rfl, rfl⟩

theorem await_of_nothing {l : Listener} {w : Wait} (h : w.reception = .nothing) :
    (l.await w).listener = l ∧ (l.await w).result = .ok () := by
  rw [await, h]
  exact ⟨rfl, rfl⟩

theorem await_of_failed {l : Listener} {w : Wait} {e : Error} (h : w.reception = .failed e) :
    (l.await w).listener = l ∧ (l.await w).result = .error e := by
  rw [await, h]
  exact ⟨rfl, rfl⟩

/-- A request during a wait changes nothing of what the wait itself leaves. -/
theorem await_request (l : Listener) (reception : Reception) :
    (l.await ⟨reception, true⟩).listener = (l.await ⟨reception, false⟩).listener ∧
      (l.await ⟨reception, true⟩).result = (l.await ⟨reception, false⟩).result := by
  cases reception <;> exact ⟨rfl, rfl⟩

/-- Had the end been requested during the last wait, the run would have stopped behind it. -/
theorem run_request {l : Listener} {waits : List Wait} {reception : Reception}
    (h : (l.run false (waits ++ [⟨reception, false⟩])).status = .waiting) :
    let r := l.run false (waits ++ [⟨reception, true⟩])
    r.listener = (l.run false (waits ++ [⟨reception, false⟩])).listener ∧
      r.status = .stopped r.listener.printer.printed ∧ r.left = [] := by
  intro r
  have hwaits := waiting_of_append h
  obtain ⟨hlistener, hstatus, hleft⟩ := run_append_of_waiting hwaits [⟨reception, true⟩]
  obtain ⟨hlistener', hstatus', -⟩ := run_append_of_waiting hwaits [⟨reception, false⟩]
  rw [hstatus'] at h
  rw [hlistener', hlistener, hstatus, hleft]
  generalize (l.run false waits).listener = m at h ⊢
  obtain ⟨hsame, hresult⟩ := m.await_request reception
  cases hr : (m.await ⟨reception, false⟩).result with
  | error e =>
    rw [(run_once_of_error hr).status] at h
    cases h
  | ok u =>
    have hgoing := run_once_of_ok hr
    have hended := run_once_of_ok (hresult.trans hr)
    rw [hended.listener, hended.status, hended.left, hgoing.listener, hsame]
    exact ⟨rfl, rfl, rfl⟩

/-- The waits of these polls, the end not being requested. -/
def unrequested (polls : List Poll) : List Wait := polls.map fun poll => ⟨poll.reception, false⟩

theorem unrequested_append (polls : List Poll) (poll : Poll) :
    unrequested (polls ++ [poll]) = unrequested polls ++ [⟨poll.reception, false⟩] :=
  List.map_append

/-- A run that is still waiting behind these polls could have been stopped there. -/
theorem exists_call_of_waiting {l : Listener} {polls : List Poll}
    (h : (l.run false (unrequested polls)).status = .waiting) :
    ∃ c : Call, c.polls = polls ∧
      let r := l.run c.cancelled c.waits
      r.listener = (l.run false (unrequested polls)).listener ∧
        r.status = .stopped r.listener.printer.printed ∧ r.left = [] := by
  rcases List.eq_nil_or_concat polls with rfl | ⟨polls, last, rfl⟩
  · refine ⟨.immediate, rfl, ?_⟩
    show (l.run true []).listener = l ∧ _
    rw [run]
    exact ⟨rfl, rfl, rfl⟩
  · rw [List.concat_eq_append, unrequested_append] at h ⊢
    exact ⟨.through polls last, rfl, run_request h⟩

theorem frames_congr {waits waits' : List Wait}
    (h : waits.map Wait.reception = waits'.map Wait.reception) :
    Wait.frames waits = Wait.frames waits' := by
  induction waits generalizing waits' with
  | nil => rw [List.map_eq_nil_iff.1 h.symm]
  | cons w waits ih =>
    obtain ⟨w', rest, rfl, hw, hrest⟩ := List.map_eq_cons_iff.1 h.symm
    have hfirst : Wait.frames [w] = Wait.frames [w'] := by
      rw [Wait.frames, Wait.frames, List.filterMap_cons, List.filterMap_cons, hw]
    have hwaits := frames_append [w] waits
    have hrest' := frames_append [w'] rest
    rw [List.singleton_append] at hwaits hrest'
    rw [hwaits, hrest', hfirst, ih hrest.symm]

theorem map_reception_unrequested (polls : List Poll) :
    (unrequested polls).map Wait.reception = polls.map Poll.reception := List.map_map

theorem frames_unrequested_quiet (polls : List Poll) {poll : Poll}
    (h : ∀ bytes, poll.reception ≠ .frame bytes) :
    Wait.frames (unrequested (polls ++ [poll])) = Wait.frames (unrequested polls) := by
  rw [unrequested_append, frames_append, frames_single_of_ne _ h, List.append_nil]

end FrameTap.Listener
