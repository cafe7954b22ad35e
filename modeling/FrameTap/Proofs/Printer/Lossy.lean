import FrameTap.Proofs.Printer.Lines
import FrameTap.Proofs.Text.Division

/-!
# The text form of a stream

The text form decodes frame by frame and the raw form leaves the frames as they are.  Still a
stream in text form is the raw stream decoded as a whole: each frame ends with a line break,
which is an ASCII byte, so no character and no gap of the whole reaches from one line into
the next.
-/

namespace FrameTap

namespace Utf8

theorem pieces_line (body rest : Bytes) :
    pieces (body ++ Printer.lineBreak ++ rest) = pieces body ++ some '\n' :: pieces rest := by
  have hbreak : pieces (0x0A :: rest) = some '\n' :: pieces rest := piecesFrom_whole rfl rest
  rw [List.append_assoc]
  show pieces (body ++ 0x0A :: rest) = _
  rw [pieces_append_ascii body (by decide), hbreak]

theorem encode_lossy_line (body rest : Bytes) :
    encode (decodeLossy (body ++ Printer.lineBreak ++ rest)) =
      encode (decodeLossy body) ++ Printer.lineBreak ++ encode (decodeLossy rest) := by
  have hbreak : String.utf8EncodeChar '\n' = Printer.lineBreak := by decide
  rw [decodeLossy, pieces_line, List.map_append, encode_append, List.map_cons, encode_cons,
    Option.getD_some, hbreak, List.append_assoc]
  rfl

/-- A line is valid with what follows it where both are. -/
theorem valid_line_iff {body rest : Bytes} :
    Valid (body ++ Printer.lineBreak ++ rest) ↔ Valid body ∧ Valid rest := by
  rw [valid_iff, valid_iff, valid_iff, pieces_line]
  simp

end Utf8

namespace Printer

open Utf8

/-- The text form writes what lossy decoding makes of the raw form, whatever comes behind. -/
theorem rendering_text (seq seq' : Nat) (op : Operation) (rest : Bytes) :
    encode (decodeLossy (rendering .raw seq op ++ rest)) =
      rendering .text seq' op ++ encode (decodeLossy rest) := by
  cases op with
  | announce e =>
    show encode (decodeLossy (announcementLine e ++ rest)) = announcementLine e ++ _
    rw [announcementLine, encode_lossy_line, decodeLossy_encode]
  | print frame =>
    show encode (decodeLossy (frame ++ lineBreak ++ rest)) =
      encode (decodeLossy frame) ++ lineBreak ++ _
    exact encode_lossy_line frame rest

theorem valid_rendering_iff {seq : Nat} {op : Operation} {rest : Bytes} :
    Valid (rendering .raw seq op ++ rest) ↔
      (∀ frame, op = .print frame → Valid frame) ∧ Valid rest := by
  cases op with
  | announce e =>
    show Valid (announcementLine e ++ rest) ↔ _
    rw [announcementLine, valid_line_iff]
    have hline : Valid (encode (announcementText e)) := ⟨announcementText e, rfl⟩
    simp [hline]
  | print frame =>
    show Valid (frame ++ lineBreak ++ rest) ↔ _
    rw [valid_line_iff]
    simp

theorem stream_text {p q : Printer} (hp : p.format = .text) (hq : q.format = .raw)
    (ops : List Operation) : p.stream ops = encode (decodeLossy (q.stream ops)) := by
  induction ops generalizing p q with
  | nil => rfl
  | cons op ops ih =>
    have hp' := (p.perform_put op).format.trans hp
    have hq' := (q.perform_put op).format.trans hq
    rw [stream_cons, stream_cons, hp, hq, rendering_text q.printed p.printed, ih hp' hq']

theorem valid_stream_iff {q : Printer} (hq : q.format = .raw) {ops : List Operation} :
    Valid (q.stream ops) ↔ ∀ frame, .print frame ∈ ops → Valid frame := by
  induction ops generalizing q with
  | nil =>
    have hnil : Valid (q.stream []) := ⟨[], rfl⟩
    simp [hnil]
  | cons op ops ih =>
    have hq' := (q.perform_put op).format.trans hq
    rw [stream_cons, hq, valid_rendering_iff, ih hq']
    constructor
    · rintro ⟨hop, hops⟩ frame hmem
      rcases List.mem_cons.1 hmem with heq | hmem
      · exact hop frame heq.symm
      · exact hops frame hmem
    · intro h
      refine ⟨?_, ?_⟩
      · rintro frame rfl
        exact h frame List.mem_cons_self
      · intro frame hmem
        exact h frame (List.mem_cons_of_mem _ hmem)

/-- Of the same operations the text form makes the lossy decoding of all that the raw form
makes: of each character itself and of each gap one replacement character.  It is always
valid, and the two are the same where every frame is valid. -/
theorem text_decodes_raw {p q : Printer} (hp : p.sink.Unfailing) (hq : q.sink.Unfailing)
    (hptext : p.format = .text) (hqraw : q.format = .raw) (hpempty : p.sink.content = [])
    (hqempty : q.sink.content = []) (ops : List Operation) :
    let text := (p.after ops).sink.content
    let raw := (q.after ops).sink.content
    p.Succeeds ops ∧ q.Succeeds ops ∧
      text = encode (decodeLossy raw) ∧
      (∃ ps, Divides raw ps ∧ text = encode (ps.map (·.getD replacement))) ∧
      Valid text ∧
      (text = raw ↔ ∀ frame, .print frame ∈ ops → Valid frame) := by
  intro text raw
  have htext : text = p.stream ops := by
    show (p.after ops).sink.content = _
    rw [content_of_unfailing hp, hpempty, List.nil_append]
  have hraw : raw = q.stream ops := by
    show (q.after ops).sink.content = _
    rw [content_of_unfailing hq, hqempty, List.nil_append]
  have hdecode : text = encode (decodeLossy raw) := by
    rw [htext, hraw, stream_text hptext hqraw]
  refine ⟨succeeds_of_unfailing hp ops, succeeds_of_unfailing hq ops, hdecode,
    ⟨pieces raw, divides_iff.2 rfl, hdecode⟩, ⟨decodeLossy raw, hdecode⟩, ?_⟩
  rw [hdecode, encode_decodeLossy_eq_iff, hraw, valid_stream_iff hqraw]

/-- A character cut in two by a line break, with an announcement before it. -/
theorem text_decodes_raw_cut :
    let ops : List Operation := [.announce ⟨['h'], 1⟩, .print [0xE2, 0x82], .print [0xAC, 0x61]]
    let text := (after { format := .text } ops).sink.content
    let raw := (after { format := .raw } ops).sink.content
    raw = announcementLine ⟨['h'], 1⟩ ++ [0xE2, 0x82, 0x0A, 0xAC, 0x61, 0x0A] ∧
      text = announcementLine ⟨['h'], 1⟩ ++ encode "\uFFFD\n\uFFFDa\n".toList ∧
      Valid text ∧ text ≠ raw := by
  intro ops text raw
  have hp : ({ format := .text } : Printer).sink.Unfailing := ⟨rfl, fun _ => rfl⟩
  have hq : ({ format := .raw } : Printer).sink.Unfailing := ⟨rfl, fun _ => rfl⟩
  have hraw : raw = announcementLine ⟨['h'], 1⟩ ++ [0xE2, 0x82, 0x0A, 0xAC, 0x61, 0x0A] := by
    show (after { format := .raw } ops).sink.content = _
    rw [content_of_unfailing hq]
    decide +kernel
  obtain ⟨-, -, hdecode, -, hvalid, hsame⟩ := text_decodes_raw hp hq rfl rfl rfl rfl ops
  refine ⟨hraw, ?_, hvalid, ?_⟩
  · show (after { format := .text } ops).sink.content = _
    rw [hdecode]
    show encode (decodeLossy raw) = _
    rw [hraw]
    decide +kernel
  · intro heq
    have hframe : Valid [0xE2, 0x82] := hsame.1 heq [0xE2, 0x82] (by simp [ops])
    exact absurd hframe (by decide)

end Printer
end FrameTap
