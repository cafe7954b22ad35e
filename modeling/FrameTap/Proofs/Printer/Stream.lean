import FrameTap.Proofs.Printer

/-!
# The stream of a printer

Operations follow one another on one printer, and those that fail are followed by others as
well.  The renderings of all of them make up the stream, in which the frames are numbered by
those that succeeded before.  What the sink holds is always a beginning of the stream.

The theorem this file exists for is `stream_within_capacity`: over a sink that takes
`capacity` bytes, in whatever portions and after whatever interruptions, every operation
leaves exactly that much of the stream so far.
-/

namespace FrameTap.Printer

open Sink

/-- The printer after the operations. -/
def after (p : Printer) : List Operation → Printer
  | [] => p
  | op :: ops => (p.perform op).printer.after ops

/-- How many of the operations print a frame and succeed. -/
def succeeded (p : Printer) : List Operation → Nat
  | [] => 0
  | op :: ops =>
    (op.prints && (p.perform op).result.isOk).toNat + (p.perform op).printer.succeeded ops

/-- The renderings of the operations.  A frame is numbered by the frames that were printed
with success before it. -/
def renderings (p : Printer) (ops : List Operation) : List Bytes :=
  ops.mapIdx fun i op => rendering p.format (p.printed + p.succeeded (ops.take i)) op

def stream (p : Printer) (ops : List Operation) : Bytes := (p.renderings ops).flatten

/-- All of the operations succeed. -/
def Succeeds (p : Printer) : List Operation → Prop
  | [] => True
  | op :: ops => (p.perform op).result = .ok () ∧ (p.perform op).printer.Succeeds ops

/-- What the operations do to the sink. -/
def trace (p : Printer) : List Operation → List Event
  | [] => []
  | op :: ops => Event.ofStep p (p.perform op) ++ (p.perform op).printer.trace ops

theorem after_append (p : Printer) (ops more : List Operation) :
    p.after (ops ++ more) = (p.after ops).after more := by
  induction ops generalizing p with
  | nil => rfl
  | cons op ops ih => exact ih (p.perform op).printer

theorem after_concat (p : Printer) (ops : List Operation) (op : Operation) :
    p.after (ops ++ [op]) = ((p.after ops).perform op).printer := p.after_append ops [op]

theorem trace_append (p : Printer) (ops more : List Operation) :
    p.trace (ops ++ more) = p.trace ops ++ (p.after ops).trace more := by
  induction ops generalizing p with
  | nil => rfl
  | cons op ops ih =>
    rw [List.cons_append, trace, ih, trace, List.append_assoc]
    rfl

theorem succeeds_append_iff {p : Printer} {ops more : List Operation} :
    p.Succeeds (ops ++ more) ↔ p.Succeeds ops ∧ (p.after ops).Succeeds more := by
  induction ops generalizing p with
  | nil => exact (and_iff_right trivial).symm
  | cons op ops ih =>
    rw [List.cons_append, Succeeds, ih, Succeeds, and_assoc]
    rfl

theorem after_format (p : Printer) (ops : List Operation) : (p.after ops).format = p.format := by
  induction ops generalizing p with
  | nil => rfl
  | cons op ops ih => exact (ih (p.perform op).printer).trans (p.perform_put op).format

theorem after_capacity (p : Printer) (ops : List Operation) :
    (p.after ops).sink.capacity = p.sink.capacity := by
  induction ops generalizing p with
  | nil => rfl
  | cons op ops ih => exact (ih (p.perform op).printer).trans (p.perform_put op).capacity

theorem after_flushFault (p : Printer) (ops : List Operation) :
    (p.after ops).sink.flushFault = p.sink.flushFault := by
  induction ops generalizing p with
  | nil => rfl
  | cons op ops ih => exact (ih (p.perform op).printer).trans (p.perform_put op).flushFault

theorem after_printed (p : Printer) (ops : List Operation) :
    (p.after ops).printed = p.printed + p.succeeded ops := by
  induction ops generalizing p with
  | nil => rfl
  | cons op ops ih =>
    rw [after, ih, p.perform_printed op, succeeded, Nat.add_assoc]

theorem isOk_iff {r : Except Error Unit} : r.isOk = true ↔ r = .ok () := by
  cases r with
  | ok u => exact iff_of_true rfl rfl
  | error error =>
    refine iff_of_false ?_ ?_
    · exact Bool.false_ne_true
    · intro h
      cases h

theorem countP_announce (es : List Endpoint) :
    (es.map Operation.announce).countP Operation.prints = 0 := by
  rw [List.countP_map]
  exact List.countP_eq_zero.2 fun _ _ => Bool.false_ne_true

/-- Where all succeed, the frames among them are counted one by one. -/
theorem Succeeds.succeeded {p : Printer} {ops : List Operation} (h : p.Succeeds ops) :
    p.succeeded ops = ops.countP Operation.prints := by
  induction ops generalizing p with
  | nil => rfl
  | cons op ops ih =>
    rw [Printer.succeeded, ih h.2, isOk_iff.2 h.1, Bool.and_true, List.countP_cons, Nat.add_comm]
    cases op.prints <;> rfl

/-! ## The stream, operation by operation -/

theorem renderings_cons (p : Printer) (op : Operation) (ops : List Operation) :
    p.renderings (op :: ops) =
      rendering p.format p.printed op :: (p.perform op).printer.renderings ops := by
  rw [renderings, List.mapIdx_cons]
  refine congrArg _ (congrArg (fun f => ops.mapIdx f) (funext fun i => funext fun o => ?_))
  rw [List.take_succ_cons, succeeded, (p.perform_put op).format, p.perform_printed op,
    Nat.add_assoc]

theorem stream_cons (p : Printer) (op : Operation) (ops : List Operation) :
    p.stream (op :: ops) =
      rendering p.format p.printed op ++ (p.perform op).printer.stream ops := by
  rw [stream, renderings_cons, List.flatten_cons]
  rfl

theorem stream_concat (p : Printer) (ops : List Operation) (op : Operation) :
    p.stream (ops ++ [op]) =
      p.stream ops ++ rendering p.format (p.printed + p.succeeded ops) op := by
  induction ops generalizing p with
  | nil =>
    rw [List.nil_append, stream_cons]
    exact List.append_nil _
  | cons o ops ih =>
    rw [List.cons_append, stream_cons, ih, stream_cons, List.append_assoc, succeeded,
      (p.perform_put o).format, p.perform_printed o, Nat.add_assoc]

/-! ## The content -/

/-- The size that the content of a sink has when it was extended by what fits. -/
theorem size_of_content {s s' : Sink} {bytes : Bytes}
    (h : s'.content = s.content ++ s.fitting bytes) :
    s'.size = s.size + (s.fitting bytes).length := by
  rw [← s'.length_content, h, List.length_append, s.length_content]

/-- The sink holds a beginning of the stream. -/
theorem after_content (p : Printer) (ops : List Operation) :
    (p.after ops).sink.content = p.sink.content ++ p.sink.fitting (p.stream ops) := by
  induction ops generalizing p with
  | nil =>
    rw [stream, renderings, List.mapIdx_nil, List.flatten_nil, fitting_nil, List.append_nil]
    rfl
  | cons op ops ih =>
    have hput := p.perform_put op
    rw [after, ih, hput.content, stream_cons,
      fitting_append hput.capacity (size_of_content hput.content), List.append_assoc]

/-- There is room for a line behind the operations where there was room for the whole stream
and the line. -/
theorem after_fits_iff (p : Printer) (ops : List Operation) {line : Bytes} (hl : line ≠ []) :
    p.sink.Fits (p.stream ops ++ line) ↔ (p.after ops).sink.Fits line :=
  fits_append_iff (p.after_capacity ops) (size_of_content (p.after_content ops)) hl

/-- What one more operation leaves, in terms of the stream from the start. -/
theorem perform_after (p : Printer) (ops : List Operation) (op : Operation) :
    ((p.after ops).perform op).printer.sink.content =
        p.sink.content ++ p.sink.fitting (p.stream (ops ++ [op])) ∧
      (((p.after ops).perform op).result = .ok () ↔ p.sink.Fits (p.stream (ops ++ [op])) ∧
        p.sink.flushFault ((p.after ops).sink.flushes + 1) = none) ∧
      ((p.after ops).perform op).printer.sink.flushes =
        (p.after ops).sink.flushes + if p.sink.Fits (p.stream (ops ++ [op])) then 1 else 0 := by
  have hput := (p.after ops).perform_put op
  have hfits := p.after_fits_iff ops (rendering_ne_nil p.format (p.printed + p.succeeded ops) op)
  rw [p.after_format ops, p.after_printed ops] at hput
  rw [← stream_concat] at hfits
  refine ⟨?_, ?_, ?_⟩
  · rw [← after_concat]
    exact p.after_content (ops ++ [op])
  · rw [hput.ok_iff, ← hfits, p.after_flushFault ops]
  · rw [hput.flushes]
    simp only [hfits]

/-! ## Timetables -/

/-- Two printers that differ in the timetables of their sinks at most, and in how they answer
when they are full. -/
structure Alike (p q : Printer) : Prop where
  format : p.format = q.format
  printed : p.printed = q.printed
  capacity : p.sink.capacity = q.sink.capacity
  flushFault : p.sink.flushFault = q.sink.flushFault
  content : p.sink.content = q.sink.content
  flushes : p.sink.flushes = q.sink.flushes

theorem Alike.fitting {p q : Printer} (h : Alike p q) (bytes : Bytes) :
    p.sink.fitting bytes = q.sink.fitting bytes := by
  refine fitting_congr h.capacity ?_ bytes
  rw [← p.sink.length_content, h.content, q.sink.length_content]

theorem Alike.fits_iff {p q : Printer} (h : Alike p q) (bytes : Bytes) :
    p.sink.Fits bytes ↔ q.sink.Fits bytes := by
  rw [Fits, h.fitting bytes]
  rfl

theorem Alike.isOk_perform {p q : Printer} (h : Alike p q) (op : Operation) :
    (p.perform op).result.isOk = (q.perform op).result.isOk := by
  rw [Bool.eq_iff_iff, isOk_iff, isOk_iff, (p.perform_put op).ok_iff, (q.perform_put op).ok_iff,
    h.format, h.printed, h.fits_iff, h.flushFault, h.flushes]

theorem Alike.perform {p q : Printer} (h : Alike p q) (op : Operation) :
    Alike (p.perform op).printer (q.perform op).printer := by
  have hp := p.perform_put op
  have hq := q.perform_put op
  rw [h.format, h.printed] at hp
  refine ⟨?_, ?_, ?_, ?_, ?_, ?_⟩
  · rw [hp.format, hq.format, h.format]
  · rw [p.perform_printed op, q.perform_printed op, h.printed, h.isOk_perform op]
  · rw [hp.capacity, hq.capacity, h.capacity]
  · rw [hp.flushFault, hq.flushFault, h.flushFault]
  · rw [hp.content, hq.content, h.content, h.fitting]
  · rw [hp.flushes, hq.flushes, h.flushes]
    simp only [h.fits_iff]

theorem Alike.stream {p q : Printer} (h : Alike p q) (ops : List Operation) :
    p.stream ops = q.stream ops := by
  induction ops generalizing p q with
  | nil => rfl
  | cons op ops ih => rw [stream_cons, stream_cons, h.format, h.printed, ih (h.perform op)]

/-! ## Sinks of a limited capacity -/

/-- A printer that has printed nothing, over a sink that takes `capacity` bytes. -/
def fresh (capacity : Nat) (whenFull : WriteFault) (turns : Nat → Turn)
    (flushFault : Nat → Option WriteFault) (format : Format) : Printer where
  sink := { capacity := some capacity, whenFull, turns, flushFault }
  format := format

/-- After each operation the sink holds the first `capacity` bytes of the stream so far.  The
operation succeeds where these are all and its flush does not fail, it flushes once where
they are all and not otherwise, and the counter gives the frames printed with success.  The
stream is the same for every timetable. -/
theorem stream_within_capacity (capacity : Nat) (whenFull : WriteFault) (turns : Nat → Turn)
    (flushFault : Nat → Option WriteFault) (format : Format) (ops : List Operation)
    (op : Operation) :
    let start := fresh capacity whenFull turns flushFault format
    let before := start.after ops
    let step := before.perform op
    let due := start.stream (ops ++ [op])
    step.printer.sink.content = due.take capacity ∧
      (step.result = .ok () ↔
        due.length ≤ capacity ∧ flushFault (before.sink.flushes + 1) = none) ∧
      step.printer.sink.flushes =
        before.sink.flushes + (if due.length ≤ capacity then 1 else 0) ∧
      step.printer.printed = start.succeeded (ops ++ [op]) ∧
      ∀ (whenFull' : WriteFault) (turns' : Nat → Turn),
        (fresh capacity whenFull' turns' flushFault format).stream (ops ++ [op]) = due := by
  intro start before step due
  obtain ⟨hcontent, hok, hflushes⟩ := start.perform_after ops op
  have hfits : start.sink.Fits due ↔ due.length ≤ capacity := fits_iff_of_capacity rfl
  refine ⟨hcontent, ?_, ?_, ?_, ?_⟩
  · rw [← hfits]
    exact hok
  · simp only [← hfits]
    exact hflushes
  · have hprinted := start.after_printed (ops ++ [op])
    rw [after_concat] at hprinted
    exact hprinted.trans (Nat.zero_add _)
  · intro whenFull' turns'
    have halike : Alike (fresh capacity whenFull' turns' flushFault format) start :=
      ⟨rfl, rfl, rfl, rfl, rfl, rfl⟩
    exact halike.stream (ops ++ [op])

end FrameTap.Printer
