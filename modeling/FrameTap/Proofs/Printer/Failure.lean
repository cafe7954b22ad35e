import FrameTap.Proofs.Printer.Stream
import Mathlib.Data.ENat.Lattice

/-!
# Where an operation fails

An operation puts out a body, a line break, and a flush, and it fails at the first of these that
the sink does not accept.  How many bytes the sink has room for decides which one that is: fewer
than the body has, just as many, or more (`Outcome`).  Neither the portions in which the bytes are
taken nor the interruptions between them make a difference.

What is reported tells the body of a record apart from all the rest, and it passes on the fault of
the sink itself: that of the turn in which it took nothing more (`Refused`), or that of the flush.
The theorem this file exists for is `failure_by_place`.
-/

namespace FrameTap

namespace Sink

variable {s s' s'' next : Sink} {bytes : Bytes} {fault : WriteFault}

/-! ## Room -/

/-- How many bytes the sink still takes. -/
def room (s : Sink) : ℕ∞ :=
  match s.capacity with
  | none => ⊤
  | some capacity => (capacity - s.size : ℕ)

theorem fits_iff_le_room : s.Fits bytes ↔ (bytes.length : ℕ∞) ≤ s.room := by
  cases hcap : s.capacity with
  | none => simp [room, hcap, fits_of_no_capacity hcap]
  | some capacity =>
    rw [fits_iff_of_capacity hcap, room, hcap]
    exact Nat.cast_le.symm

theorem room_lt_iff : s.room < bytes.length ↔ ¬ s.Fits bytes := by
  rw [fits_iff_le_room, not_le]

theorem lt_room_iff : (bytes.length : ℕ∞) < s.room ↔ s.Fits (bytes ++ Printer.lineBreak) := by
  rw [fits_iff_le_room, List.length_append, Nat.cast_add]
  exact (ENat.add_one_le_iff (ENat.natCast_ne_top _)).symm

/-- What is taken is the beginning that there is room for. -/
theorem exists_fitting_eq (s : Sink) (bytes : Bytes) :
    ∃ n : ℕ, (n : ℕ∞) = min s.room bytes.length ∧ s.fitting bytes = bytes.take n := by
  cases hcap : s.capacity with
  | none =>
    refine ⟨bytes.length, ?_, ?_⟩
    · simp [room, hcap]
    · rw [fits_of_no_capacity hcap, List.take_length]
  | some capacity =>
    refine ⟨min (capacity - s.size) bytes.length, ?_, ?_⟩
    · simp only [room, hcap]
      exact Nat.mono_cast.map_min
    · rw [fitting, hcap, ← List.take_eq_take_min]

/-! ## Refusals -/

/-- The fault with which a turn ends where the sink is full. -/
def refusal (s : Sink) (turn : Nat) : WriteFault := (s.turns turn).whenFull.getD s.whenFull

/-- The turn that ended last in `s'` has this fault for a sink that is full. -/
def Refused (s s' : Sink) (fault : WriteFault) : Prop :=
  ∃ turn, s'.turn = turn + 1 ∧ fault = s.refusal turn

/-- The fault over which a writer gives up, as it does where a call takes nothing. -/
def Answer.fault? : Answer → Option WriteFault
  | .interrupted | .took (_ + 1) => none
  | .took 0 => some .tookNothing
  | .failed fault => some fault

theorem write_refused {answer : Answer} (h : s.write bytes = (answer, next))
    (hfault : answer.fault? = some fault) : Refused s next fault := by
  rw [write] at h
  split at h
  · cases h
    cases hfault
  · dsimp only at h
    split at h
    · split at h
      · rename_i hfull
        cases h
        cases hfault
        exact ⟨s.turn, rfl, hfull.symm⟩
      · rename_i hfull
        cases h
        cases hfault
        exact ⟨s.turn, rfl, hfull.symm⟩
    · cases h
      cases hfault

/-- Calls that took bytes leave the faults of the turns as they are. -/
theorem Took.refused (h : Took s s' bytes) (h' : Refused s' s'' fault) : Refused s s'' fault := by
  obtain ⟨turn, hturn, hfault⟩ := h'
  refine ⟨turn, hturn, ?_⟩
  rw [hfault, refusal, refusal, h.turns, h.whenFull]

theorem writeAll_refused (h : s.writeAll bytes = ⟨next, some fault⟩) : Refused s next fault := by
  -- one case for each answer: those that go on leave the faults of the turns as they are
  fun_induction writeAll s bytes with
  | case1 s => cases h
  | case2 s b bytes later answer ih =>
    have hc := s.write_call (List.cons_ne_nil b bytes)
    rw [answer] at hc
    cases hc with
    | interrupted took => exact took.refused (ih h)
  | case3 s b bytes later answer =>
    cases h
    exact write_refused answer rfl
  | case4 s b bytes n later answer ih =>
    have hc := s.write_call (List.cons_ne_nil b bytes)
    rw [answer] at hc
    cases hc with
    | took _ _ _ _ _ took => exact took.refused (ih h)
  | case5 s b bytes why later answer =>
    cases h
    exact write_refused answer rfl

theorem writePieces_refused {pieces : List Bytes}
    (h : s.writePieces pieces = ⟨next, some fault⟩) : Refused s next fault := by
  induction pieces generalizing s with
  | nil => cases h
  | cons piece pieces ih =>
    have htook := (s.writeAll_written piece).took
    rw [writePieces] at h
    split at h
    · rename_i later heq
      rw [heq] at htook
      exact htook.refused (ih h)
    · exact writeAll_refused h

end Sink

namespace Printer

open Sink

/-! ## Bodies -/

/-- What an operation is to write in front of its line break. -/
def Operation.body (format : Format) (seq : Nat) : Operation → Bytes
  | .announce e => Utf8.encode (announcementText e)
  | .print frame => format.render seq frame

/-- How a fault inside the body of an operation is reported. -/
def Operation.bodyError (format : Format) : Operation → WriteFault → Error
  | .announce _ => .output
  | .print _ => Printer.bodyError format

theorem rendering_eq (format : Format) (seq : Nat) (op : Operation) :
    rendering format seq op = op.body format seq ++ lineBreak := by
  cases op <;> rfl

/-! ## Emitting a line -/

variable {p : Printer} {bodyError : WriteFault → Error} {body : Bytes} {after : Sink}
  {error : Error} {op : Operation}

/-- What becomes of a line: it stops inside its body, at the line break or at the flush, or it is
put out. -/
inductive Outcome (p : Printer) (bodyError : WriteFault → Error) (body : Bytes) (after : Sink) :
    Except Error Unit → Prop where
  | body (fault : WriteFault) (room : p.sink.room < body.length)
      (refused : Refused p.sink after fault) :
      Outcome p bodyError body after (.error (bodyError fault))
  | lineBreak (fault : WriteFault) (room : p.sink.room = body.length)
      (refused : Refused p.sink after fault) :
      Outcome p bodyError body after (.error (.output fault))
  | flush (fault : WriteFault) (room : body.length < p.sink.room)
      (fails : p.sink.flushFault (p.sink.flushes + 1) = some fault) :
      Outcome p bodyError body after (.error (.output fault))
  | done (room : body.length < p.sink.room)
      (succeeds : p.sink.flushFault (p.sink.flushes + 1) = none) :
      Outcome p bodyError body after (.ok ())

theorem emit_of_body_fault {body : List Bytes} {sink : Sink} {fault : WriteFault}
    (h : p.sink.writePieces body = ⟨sink, some fault⟩) :
    p.emit bodyError body = ⟨{ p with sink }, .error (bodyError fault)⟩ := by
  rw [emit, h]

theorem emit_of_break_fault {body : List Bytes} {sink sink' : Sink} {fault : WriteFault}
    (hbody : p.sink.writePieces body = ⟨sink, none⟩)
    (hbreak : sink.writeAll lineBreak = ⟨sink', some fault⟩) :
    p.emit bodyError body = ⟨{ p with sink := sink' }, .error (.output fault)⟩ := by
  simp only [emit, hbody, hbreak]

/-- Where there is no room for the line, the fault is the sink's refusal. -/
theorem emit_refused (bodyError : WriteFault → Error) {body : List Bytes}
    (hfull : ¬ p.sink.Fits (body.flatten ++ lineBreak)) :
    ∃ fault, (p.emit bodyError body).result =
        .error (if p.sink.Fits body.flatten then .output fault else bodyError fault) ∧
      Refused p.sink (p.emit bodyError body).printer.sink fault := by
  have hbody := p.sink.writePieces_written body
  rcases hpieces : p.sink.writePieces body with ⟨sink, _ | fault⟩
  · rw [hpieces] at hbody
    have hf := hbody.complete.1 rfl
    have htook := hbody.took
    rw [hf] at htook
    have hline := Written.append htook hf (sink.writeAll_written lineBreak)
    rcases hbreak : sink.writeAll lineBreak with ⟨sink', _ | fault⟩
    · rw [hbreak] at hline
      exact absurd (hline.complete.1 rfl) hfull
    · -- the sink that refuses the line break has the turns of the one that took the body
      rw [emit_of_break_fault hpieces hbreak]
      refine ⟨fault, ?_, htook.refused (writeAll_refused hbreak)⟩
      rw [if_pos hf]
  · rw [hpieces] at hbody
    have hnot : ¬ p.sink.Fits body.flatten := by
      intro hf
      cases hbody.complete.2 hf
    rw [emit_of_body_fault hpieces]
    refine ⟨fault, ?_, writePieces_refused hpieces⟩
    rw [if_neg hnot]

theorem emit_outcome (p : Printer) (bodyError : WriteFault → Error) (body : List Bytes) :
    Outcome p bodyError body.flatten (p.emit bodyError body).printer.sink
      (p.emit bodyError body).result := by
  by_cases hline : p.sink.Fits (body.flatten ++ lineBreak)
  · have hroom := lt_room_iff.2 hline
    have hemitted := p.emit_emitted bodyError body
    generalize p.emit bodyError body = step at hemitted ⊢
    cases hemitted with
    | whole fits took =>
      show Outcome p bodyError body.flatten _ (flushed p.sink)
      rw [flushed]
      split
      · rename_i hflush
        exact .done hroom hflush
      · rename_i fault hflush
        exact .flush fault hroom hflush
    | part fault full took => exact absurd hline full
  · obtain ⟨fault, hresult, hrefused⟩ := emit_refused bodyError hline
    rw [hresult]
    by_cases hbody : p.sink.Fits body.flatten
    · rw [if_pos hbody]
      have hle := le_of_not_gt (mt lt_room_iff.1 hline)
      exact .lineBreak fault (le_antisymm hle (fits_iff_le_room.1 hbody)) hrefused
    · rw [if_neg hbody]
      exact .body fault (room_lt_iff.2 hbody) hrefused

/-! ## One operation -/

/-- Counting a frame changes neither the result nor the sink. -/
theorem printFrame_of_emit (p : Printer) (frame : Bytes) :
    (p.printFrame frame).result =
        (p.emit (Printer.bodyError p.format) (p.format.pieces p.printed frame)).result ∧
      (p.printFrame frame).printer.sink =
        (p.emit (Printer.bodyError p.format) (p.format.pieces p.printed frame)).printer.sink := by
  rw [printFrame]
  split
  · rename_i printer heq
    rw [heq]
    exact ⟨rfl, rfl⟩
  · exact ⟨rfl, rfl⟩

theorem perform_outcome (p : Printer) (op : Operation) :
    Outcome p (op.bodyError p.format) (op.body p.format p.printed) (p.perform op).printer.sink
      (p.perform op).result := by
  cases op with
  | announce e =>
    have hbody : ((announcement e).map Utf8.encode).flatten = Utf8.encode (announcementText e) :=
      List.append_cancel_right (flatten_announcement e)
    have houtcome := p.emit_outcome .output ((announcement e).map Utf8.encode)
    rwa [hbody] at houtcome
  | print frame =>
    obtain ⟨hresult, hsink⟩ := p.printFrame_of_emit frame
    have houtcome := p.emit_outcome (Printer.bodyError p.format) (p.format.pieces p.printed frame)
    rwa [Format.flatten_pieces, ← hresult, ← hsink] at houtcome

theorem length_rendering_le_iff : ((rendering p.format p.printed op).length : ℕ∞) ≤ p.sink.room ↔
    ((op.body p.format p.printed).length : ℕ∞) < p.sink.room := by
  rw [← fits_iff_le_room, lt_room_iff, rendering_eq]

/-- Only the body of a record is told apart. -/
theorem bodyError_eq_output (h : p.format ≠ .json ∨ op.prints = false) :
    op.bodyError p.format = .output := by
  cases op with
  | announce e => rfl
  | print frame =>
    have hformat : p.format ≠ .json := h.resolve_right Bool.noConfusion
    show Printer.bodyError p.format = .output
    cases hp : p.format with
    | json => exact absurd hp hformat
    | raw | text | bytes => rfl

/-- An error of an operation passes on a fault of the sink: its refusal where the room ran out,
or that of the flush. -/
theorem fault_of_error (h : (p.perform op).result = .error error) :
    ∃ fault, (error = op.bodyError p.format fault ∨ error = .output fault) ∧
      (((rendering p.format p.printed op).length : ℕ∞) ≤ p.sink.room →
        p.sink.flushFault (p.sink.flushes + 1) = some fault) ∧
      (p.sink.room < (rendering p.format p.printed op).length →
        Refused p.sink (p.perform op).printer.sink fault) := by
  have houtcome := p.perform_outcome op
  rw [← not_le, length_rendering_le_iff]
  generalize (p.perform op).result = result at h houtcome
  cases houtcome with
  | body fault room refused =>
    cases h
    exact ⟨fault, .inl rfl, fun hle => absurd hle room.not_gt, fun _ => refused⟩
  | lineBreak fault room refused =>
    cases h
    exact ⟨fault, .inr rfl, fun hle => absurd room hle.ne', fun _ => refused⟩
  | flush fault room fails =>
    cases h
    exact ⟨fault, .inr rfl, fun _ => fails, fun hnot => absurd room hnot⟩
  | done room succeeds => cases h

theorem error_eq_output (hplain : p.format ≠ .json ∨ op.prints = false)
    (h : (p.perform op).result = .error error) : ∃ fault, error = .output fault := by
  obtain ⟨fault, hkind, -⟩ := fault_of_error h
  rw [bodyError_eq_output hplain, or_self] at hkind
  exact ⟨fault, hkind⟩

/-- Which error the printing of a record ends with, by the room that the sink has. -/
theorem record_error_iff (hjson : p.format = .json) (frame : Bytes) :
    let size : ℕ∞ := (Utf8.encode (Record.ofFrame p.printed frame).toJson).length
    ((∃ fault, (p.perform (.print frame)).result = .error (.json fault)) ↔ p.sink.room < size) ∧
      ((∃ fault, (p.perform (.print frame)).result = .error (.output fault)) ↔
        p.sink.room = size ∨
          size < p.sink.room ∧ p.sink.flushFault (p.sink.flushes + 1) ≠ none) := by
  intro size
  have houtcome := p.perform_outcome (.print frame)
  rw [hjson] at houtcome
  generalize (p.perform (.print frame)).result = result at houtcome ⊢
  cases houtcome with
  | body fault room refused =>
    have hroom : p.sink.room < size := room
    refine ⟨iff_of_true ⟨fault, rfl⟩ hroom, iff_of_false ?_ ?_⟩
    · rintro ⟨fault', h⟩
      cases h
    · rintro (heq | ⟨hgt, -⟩)
      · exact hroom.ne heq
      · exact hroom.not_gt hgt
  | lineBreak fault room refused =>
    have hroom : p.sink.room = size := room
    refine ⟨iff_of_false ?_ hroom.not_lt, iff_of_true ⟨fault, rfl⟩ (.inl hroom)⟩
    rintro ⟨fault', h⟩
    cases h
  | flush fault room fails =>
    have hroom : size < p.sink.room := room
    refine ⟨iff_of_false ?_ hroom.not_gt, iff_of_true ⟨fault, rfl⟩ (.inr ⟨hroom, ?_⟩)⟩
    · rintro ⟨fault', h⟩
      cases h
    · rw [fails]
      exact Option.some_ne_none fault
  | done room succeeds =>
    have hroom : size < p.sink.room := room
    refine ⟨iff_of_false ?_ hroom.not_gt, iff_of_false ?_ ?_⟩
    · rintro ⟨fault, h⟩
      cases h
    · rintro ⟨fault, h⟩
      cases h
    · rintro (heq | ⟨-, hfails⟩)
      · exact hroom.ne' heq
      · exact hfails succeeds

theorem json_or_output {format : Format} {fault : WriteFault}
    (h : error = op.bodyError format fault ∨ error = .output fault) :
    error = .json fault ∨ error = .output fault := by
  rcases h with rfl | rfl
  · cases op with
    | announce e => exact .inr rfl
    | print frame =>
      cases format with
      | json => exact .inl rfl
      | raw | text | bytes => exact .inr rfl
  · exact .inr rfl

theorem cause_of_fault {fault : WriteFault} (h : error = .json fault ∨ error = .output fault) :
    error.cause? = some fault.message := by
  obtain rfl | rfl := h <;> rfl

theorem printed_of_error (h : (p.perform op).result = .error error) :
    (p.perform op).printer.printed = p.printed := by
  rw [p.perform_printed op, h, Except.isOk, Except.toBool, Bool.and_false]
  rfl

/-- A record that the sink has no room for is an error of its text, and what comes behind the
text is one of the output, as all is in the other forms.  Either passes on the fault that the
sink itself gave.  The printer stays as it was, up to the bytes that there was room for. -/
theorem failure_by_place (p : Printer) (op : Operation) :
    let step := p.perform op
    let line := rendering p.format p.printed op
    let flushFault := p.sink.flushFault (p.sink.flushes + 1)
    (step.result = .ok () ↔ (line.length : ℕ∞) ≤ p.sink.room ∧ flushFault = none) ∧
      (∀ frame, p.format = .json → op = .print frame →
        let size : ℕ∞ := (Utf8.encode (Record.ofFrame p.printed frame).toJson).length
        ((∃ fault, step.result = .error (.json fault)) ↔ p.sink.room < size) ∧
          ((∃ fault, step.result = .error (.output fault)) ↔
            p.sink.room = size ∨ size < p.sink.room ∧ flushFault ≠ none)) ∧
      (p.format ≠ .json ∨ op.prints = false →
        ∀ error, step.result = .error error → ∃ fault, error = .output fault) ∧
      (∀ error, step.result = .error error →
        (∃ fault, (error = .json fault ∨ error = .output fault) ∧
          error.cause? = some fault.message ∧
          (fault = .tookNothing → error.cause? = some "failed to write whole buffer".toList) ∧
          ((line.length : ℕ∞) ≤ p.sink.room → flushFault = some fault) ∧
          (p.sink.room < line.length → Refused p.sink step.printer.sink fault)) ∧
        step.printer.format = p.format ∧ step.printer.printed = p.printed) ∧
      ∃ n : ℕ, (n : ℕ∞) = min p.sink.room line.length ∧
        step.printer.sink.content = p.sink.content ++ line.take n := by
  intro step line flushFault
  have hput := p.perform_put op
  refine ⟨?_, ?_, fun hplain error => error_eq_output hplain, ?_, ?_⟩
  · rw [← fits_iff_le_room]
    exact hput.ok_iff
  · rintro frame hjson rfl
    exact record_error_iff hjson frame
  · intro error herror
    obtain ⟨fault, hkind, hflush, hrefused⟩ := fault_of_error herror
    have hfault := json_or_output hkind
    have hcause := cause_of_fault hfault
    refine ⟨⟨fault, hfault, hcause, ?_, hflush, hrefused⟩, hput.format, printed_of_error herror⟩
    rintro rfl
    exact hcause
  · obtain ⟨n, hn, hfitting⟩ := p.sink.exists_fitting_eq line
    refine ⟨n, hn, ?_⟩
    rw [← hfitting]
    exact hput.content

end Printer
end FrameTap
