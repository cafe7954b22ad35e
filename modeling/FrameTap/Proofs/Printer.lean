import FrameTap.Event
import FrameTap.Proofs.Sink
import FrameTap.Proofs.Text.Utf8

/-!
# One operation of a printer

An operation announces an endpoint or prints a frame.  It has one rendering, which depends
on the form, on the number of frames printed so far and on nothing else, and the sink takes
of the rendering what it has room for.  Only after all of it is the sink flushed, once, and
only after a successful flush does a frame count as printed.

`perform_put` says this about every printer, whatever its sink does.
-/

namespace FrameTap

open Sink

/-- The frame in this form as a whole. -/
def Format.render (seq : Nat) (frame : Bytes) : Format → Bytes
  | .raw => frame
  | .text => Utf8.encode (Utf8.decodeLossy frame)
  | .bytes => Utf8.encode (ByteLiteral.encode frame)
  | .json => Utf8.encode (Record.ofFrame seq frame).toJson

theorem Format.flatten_pieces (seq : Nat) (frame : Bytes) (format : Format) :
    (format.pieces seq frame).flatten = format.render seq frame := by
  cases format with
  | raw => exact List.append_nil frame
  | text => exact List.append_nil _
  | bytes => exact List.append_nil _
  | json => exact (Utf8.encode_flatten _).symm

namespace Printer

/-! ## Operations and their renderings -/

inductive Operation where
  | announce (e : Endpoint)
  | print (frame : Bytes)
  deriving DecidableEq

def Operation.prints : Operation → Bool
  | .announce _ => false
  | .print _ => true

def perform (p : Printer) : Operation → Step
  | .announce e => p.announce e
  | .print frame => p.printFrame frame

def announcementText (e : Endpoint) : Text :=
  "Listening on ".toList ++ e.display ++ "...".toList

/-- The line that announces an endpoint. -/
def announcementLine (e : Endpoint) : Bytes := Utf8.encode (announcementText e) ++ lineBreak

/-- All that an operation is to write, `seq` being the number of frames printed before. -/
def rendering (format : Format) (seq : Nat) : Operation → Bytes
  | .announce e => announcementLine e
  | .print frame => format.render seq frame ++ lineBreak

theorem rendering_ne_nil (format : Format) (seq : Nat) (op : Operation) :
    rendering format seq op ≠ [] := by
  cases op with
  | announce e =>
    show Utf8.encode (announcementText e) ++ lineBreak ≠ []
    exact List.append_ne_nil_of_right_ne_nil _ (List.cons_ne_nil _ _)
  | print frame => exact List.append_ne_nil_of_right_ne_nil _ (List.cons_ne_nil _ _)

theorem flatten_announcement (e : Endpoint) :
    ((announcement e).map Utf8.encode).flatten ++ lineBreak = announcementLine e := by
  have htext : (announcement e).flatten = announcementText e := by
    unfold announcement announcementText
    simp only [List.flatten_cons, List.flatten_nil, List.append_nil, List.append_assoc]
  rw [← Utf8.encode_flatten, htext, announcementLine]

/-! ## Emitting a line -/

/-- What comes of the flush that the sink is about to make. -/
def flushed (s : Sink) : Except Error Unit :=
  match s.flushFault (s.flushes + 1) with
  | none => .ok ()
  | some fault => .error (.output fault)

theorem flushed_eq_ok_iff {s : Sink} :
    flushed s = .ok () ↔ s.flushFault (s.flushes + 1) = none := by
  rw [flushed]
  split
  · rename_i h
    exact iff_of_true rfl h
  · rename_i h
    exact iff_of_false (by simp) (by simp [h])

/-- What emitting a line leaves.  Either all of it was taken and the sink was flushed, or the
part that fits was taken, and the error tells whether the body was complete. -/
inductive Emitted (p : Printer) (bodyError : WriteFault → Error) (body : Bytes) : Step → Prop where
  | whole {sink : Sink} (fits : p.sink.Fits (body ++ lineBreak))
      (took : Took p.sink sink (body ++ lineBreak)) :
      Emitted p bodyError body
        ⟨{ p with sink := sink.flush.sink }, flushed p.sink⟩
  | part {sink : Sink} (fault : WriteFault) (full : ¬ p.sink.Fits (body ++ lineBreak))
      (took : Took p.sink sink (p.sink.fitting (body ++ lineBreak))) :
      Emitted p bodyError body
        ⟨{ p with sink }, .error (if p.sink.Fits body then .output fault else bodyError fault)⟩

theorem emit_emitted (p : Printer) (bodyError : WriteFault → Error) (body : List Bytes) :
    Emitted p bodyError body.flatten (p.emit bodyError body) := by
  have hbody := p.sink.writePieces_written body
  rw [emit]
  split
  · rename_i sink fault heq
    rw [heq] at hbody
    have hn : ¬ p.sink.Fits body.flatten := by
      intro hf
      cases hbody.complete.2 hf
    have htook : Took p.sink sink (p.sink.fitting (body.flatten ++ lineBreak)) := by
      rw [fitting_append_of_not_fits hn]
      exact hbody.took
    have hpart : Emitted p bodyError body.flatten _ :=
      .part fault (fun h => hn (fits_of_fits_append h)) htook
    rwa [if_neg hn] at hpart
  · rename_i sink heq
    rw [heq] at hbody
    have hf := hbody.complete.1 rfl
    have htook := hbody.took
    rw [hf] at htook
    have hline := Written.append htook hf (sink.writeAll_written lineBreak)
    split
    · rename_i sink' fault heq'
      rw [heq'] at hline
      have hn : ¬ p.sink.Fits (body.flatten ++ lineBreak) := by
        intro h
        cases hline.complete.2 h
      have hpart : Emitted p bodyError body.flatten _ := .part fault hn hline.took
      rwa [if_pos hf] at hpart
    · rename_i sink' heq'
      rw [heq'] at hline
      have hall := hline.complete.1 rfl
      have htook' := hline.took
      rw [hall] at htook'
      have hwhole : Emitted p bodyError body.flatten _ := .whole hall htook'
      rw [flushed, ← htook'.flushFault, ← htook'.flushes, flush] at hwhole
      rw [flush]
      cases hflush : sink'.flushFault (sink'.flushes + 1) with
      | none =>
        rw [hflush] at hwhole
        exact hwhole
      | some fault =>
        rw [hflush] at hwhole
        exact hwhole

/-! ## One operation -/

/-- A line was put out as far as the sink has room for it. -/
structure Put (p : Printer) (line : Bytes) (s : Step) : Prop where
  format : s.printer.format = p.format
  capacity : s.printer.sink.capacity = p.sink.capacity
  flushFault : s.printer.sink.flushFault = p.sink.flushFault
  content : s.printer.sink.content = p.sink.content ++ p.sink.fitting line
  gained : Sink.gained p.sink s.printer.sink = p.sink.fitting line
  flushes : s.printer.sink.flushes = p.sink.flushes + if p.sink.Fits line then 1 else 0
  ok_iff : s.result = .ok () ↔
    p.sink.Fits line ∧ p.sink.flushFault (p.sink.flushes + 1) = none

variable {p : Printer} {bodyError : WriteFault → Error} {body : Bytes} {s : Step}

theorem Emitted.put (h : Emitted p bodyError body s) : Put p (body ++ lineBreak) s := by
  cases h with
  | @whole sink fits took =>
    have hline : p.sink.fitting (body ++ lineBreak) = body ++ lineBreak := fits
    refine ⟨rfl, took.capacity, took.flushFault, ?_, ?_, ?_, ?_⟩
    · rw [hline]
      exact took.content
    · rw [hline]
      exact took.gained
    · rw [if_pos fits]
      exact congrArg (· + 1) took.flushes
    · rw [flushed_eq_ok_iff]
      exact (and_iff_right fits).symm
  | part fault full took =>
    refine ⟨rfl, took.capacity, took.flushFault, took.content, took.gained, ?_, ?_⟩
    · rw [if_neg full]
      exact took.flushes
    · refine iff_of_false ?_ fun h => full h.1
      intro h
      cases h

theorem Emitted.printed (h : Emitted p bodyError body s) : s.printer.printed = p.printed := by
  cases h <;> rfl

theorem announce_emitted (p : Printer) (e : Endpoint) :
    Emitted p .output ((announcement e).map Utf8.encode).flatten (p.announce e) :=
  p.emit_emitted .output _

theorem announce_error {e : Endpoint} {error : Error} (h : (p.announce e).result = .error error) :
    ∃ fault, error = .output fault := by
  have hemitted := p.announce_emitted e
  generalize p.announce e = step at hemitted h
  cases hemitted with
  | whole fits took =>
    rw [flushed] at h
    split at h
    · cases h
    · cases h
      exact ⟨_, rfl⟩
  | part fault full took =>
    rw [ite_self] at h
    cases h
    exact ⟨fault, rfl⟩

/-- Printing a frame emits its rendering and then counts it. -/
theorem printFrame_emitted (p : Printer) (frame : Bytes) :
    ∃ s, Emitted p (Printer.bodyError p.format) (p.format.render p.printed frame) s ∧
      (p.printFrame frame).result = s.result ∧
      (p.printFrame frame).printer =
        { s.printer with printed := p.printed + s.result.isOk.toNat } := by
  have h := p.emit_emitted (Printer.bodyError p.format) (p.format.pieces p.printed frame)
  rw [Format.flatten_pieces] at h
  rw [printFrame]
  generalize p.emit (Printer.bodyError p.format) (p.format.pieces p.printed frame) = emitted
    at h ⊢
  obtain ⟨printer, result⟩ := emitted
  cases result with
  | ok u => exact ⟨⟨printer, .ok u⟩, h, rfl, rfl⟩
  | error error =>
    refine ⟨⟨printer, .error error⟩, h, rfl, ?_⟩
    exact congrArg (fun n => { printer with printed := n }) h.printed

/-- What an operation leaves in the sink is decided by its rendering. -/
theorem perform_put (p : Printer) (op : Operation) :
    Put p (rendering p.format p.printed op) (p.perform op) := by
  cases op with
  | announce e =>
    have h := (p.announce_emitted e).put
    rwa [flatten_announcement] at h
  | print frame =>
    obtain ⟨s, h, hresult, hprinter⟩ := p.printFrame_emitted frame
    have hput := h.put
    refine ⟨?_, ?_, ?_, ?_, ?_, ?_, ?_⟩
    · exact hprinter ▸ hput.format
    · exact hprinter ▸ hput.capacity
    · exact hprinter ▸ hput.flushFault
    · exact hprinter ▸ hput.content
    · exact hprinter ▸ hput.gained
    · exact hprinter ▸ hput.flushes
    · exact hresult ▸ hput.ok_iff

/-- The counter moves with a frame that was printed and with nothing else. -/
theorem perform_printed (p : Printer) (op : Operation) :
    (p.perform op).printer.printed =
      p.printed + (op.prints && (p.perform op).result.isOk).toNat := by
  cases op with
  | announce e => exact (p.announce_emitted e).printed
  | print frame =>
    obtain ⟨s, h, hresult, hprinter⟩ := p.printFrame_emitted frame
    show (p.printFrame frame).printer.printed =
      p.printed + (true && (p.printFrame frame).result.isOk).toNat
    rw [hprinter, hresult, Bool.true_and]

end Printer
end FrameTap
