import FrameTap.Proofs.Printer.Stream
import FrameTap.Proofs.Text.Cut

/-!
# Lines on a sink that never fails

Over a sink that takes everything and whose flushes never fail every operation succeeds, so
what the sink holds is the whole stream: first a line for each announcement, then a line for
each frame, the frames numbered one after the other.
-/

namespace FrameTap

open Sink

/-- A sink that takes everything and never fails to flush.  In what portions it takes what
it is offered, and after how many interruptions, is left open. -/
structure Sink.Unfailing (s : Sink) : Prop where
  capacity : s.capacity = none
  flushFault : ∀ n, s.flushFault n = none

namespace Printer

variable {p : Printer}

theorem perform_of_unfailing (h : p.sink.Unfailing) (op : Operation) :
    (p.perform op).result = .ok () ∧ (p.perform op).printer.sink.Unfailing := by
  have hput := p.perform_put op
  refine ⟨?_, ?_, ?_⟩
  · exact hput.ok_iff.2 ⟨fits_of_no_capacity h.capacity, h.flushFault _⟩
  · rw [hput.capacity, h.capacity]
  · rw [hput.flushFault]
    exact h.flushFault

theorem succeeds_of_unfailing (h : p.sink.Unfailing) (ops : List Operation) :
    p.Succeeds ops := by
  induction ops generalizing p with
  | nil => trivial
  | cons op ops ih =>
    have hop := perform_of_unfailing h op
    exact ⟨hop.1, ih hop.2⟩

theorem content_of_unfailing (h : p.sink.Unfailing) (ops : List Operation) :
    (p.after ops).sink.content = p.sink.content ++ p.stream ops := by
  have hfits : p.sink.fitting (p.stream ops) = p.stream ops := fits_of_no_capacity h.capacity
  rw [after_content, hfits]

/-! ## Renderings -/

theorem renderings_append (p : Printer) (ops more : List Operation) :
    p.renderings (ops ++ more) = p.renderings ops ++ (p.after ops).renderings more := by
  induction ops generalizing p with
  | nil => rfl
  | cons op ops ih =>
    rw [List.cons_append, renderings_cons, ih, renderings_cons, List.cons_append]
    rfl

theorem renderings_announce (p : Printer) (es : List Endpoint) :
    p.renderings (es.map .announce) = es.map announcementLine := by
  induction es generalizing p with
  | nil => rfl
  | cons e es ih =>
    rw [List.map_cons, renderings_cons, ih, List.map_cons]
    rfl

/-- The frames are numbered from the counter on where all are printed with success. -/
theorem renderings_print {fs : List Bytes} (h : p.Succeeds (fs.map .print)) :
    p.renderings (fs.map .print) =
      fs.mapIdx fun j frame => p.format.render (p.printed + j) frame ++ lineBreak := by
  induction fs generalizing p with
  | nil => rfl
  | cons frame fs ih =>
    have hprinted : (p.perform (.print frame)).printer.printed = p.printed + 1 := by
      rw [perform_printed, h.1]
      rfl
    rw [List.map_cons, renderings_cons, ih h.2, List.mapIdx_cons, hprinted,
      (p.perform_put (.print frame)).format]
    refine congrArg _ (congrArg (fun f => fs.mapIdx f) (funext fun j => funext fun f => ?_))
    rw [Nat.add_assoc, Nat.add_comm 1 j]

/-! ## Lines -/

/-- The lines of the frames without their line breaks, in a form that numbers them from
zero. -/
def frameLines (format : Format) (fs : List Bytes) : List Bytes :=
  fs.mapIdx fun j frame => format.render j frame

theorem lines_frameLines (format : Format) (fs : List Bytes) :
    (fs.mapIdx fun j frame => format.render j frame ++ lineBreak).flatten =
      Text.lines 0x0A (frameLines format fs) := by
  rw [Text.lines, List.flatMap_def, frameLines, List.mapIdx_eq_zipIdx_map,
    List.mapIdx_eq_zipIdx_map, List.map_map]
  rfl

theorem lines_announcements (es : List Endpoint) :
    (es.map announcementLine).flatten =
      Text.lines 0x0A (es.map fun e => Utf8.encode (announcementText e)) := by
  rw [Text.lines, List.flatMap_def, List.map_map]
  rfl

/-- The stream of announcements and then frames, line by line. -/
theorem stream_of_unfailing (h : p.sink.Unfailing) (hprinted : p.printed = 0)
    (es : List Endpoint) (fs : List Bytes) :
    p.stream (es.map .announce ++ fs.map .print) =
      Text.lines 0x0A ((es.map fun e => Utf8.encode (announcementText e)) ++
        frameLines p.format fs) := by
  have hs := succeeds_of_unfailing h (es.map .announce ++ fs.map .print)
  obtain ⟨hannounce, hprint⟩ := succeeds_append_iff.1 hs
  have hcounter : (p.after (es.map .announce)).printed = 0 := by
    rw [after_printed, hannounce.succeeded, countP_announce, hprinted]
  rw [stream, renderings_append, renderings_announce, renderings_print hprint, hcounter,
    after_format, List.flatten_append, Text.lines_append, lines_announcements]
  simp only [Nat.zero_add]
  rw [lines_frameLines]

end Printer
end FrameTap
