import FrameTap.Proofs.Endpoint
import FrameTap.Proofs.Frame.Base64
import FrameTap.Proofs.Frame.ByteLiteral
import FrameTap.Proofs.Frame.Record
import FrameTap.Proofs.Listener.Setup
import FrameTap.Proofs.Printer.Lines

/-!
# Reading the output back

The output of a listener is lines, first the announcements and then the frames.  In the forms
`bytes` and `json` no line holds a line break and none of a frame can be taken for an
announcement, so the endpoints and the frames can be read off the bytes alone.
`output_decodes` says so.
-/

namespace FrameTap

open Printer

/-! ## Lines of frames -/

namespace Format

/-- The forms in which no frame breaks its line. -/
def Legible (format : Format) : Prop := format = .bytes ∨ format = .json

/-- What a line in this form tells of the frame with the number `seq`. -/
def Describes (format : Format) (seq : Nat) (line frame : Bytes) : Prop :=
  match format with
  | raw => line = frame
  | text => Utf8.decode? line = some (Utf8.decodeLossy frame)
  | bytes => ∃ t, Utf8.decode? line = some t ∧ ByteLiteral.read? t = some frame
  | json => ∃ data, Record.ofJson line = .ok ⟨seq, frame.length, data⟩ ∧
      Base64.decode? data = some frame

/-- The line of a frame tells what it was made of.  Numbers are read up to a word of 64 bits. -/
theorem describes_render (format : Format) {seq : Nat} {frame : Bytes} (hseq : seq < UInt64.size)
    (hsize : frame.length < UInt64.size) :
    format.Describes seq (format.render seq frame) frame := by
  cases format with
  | raw => rfl
  | text => exact Utf8.decode?_encode _
  | bytes => exact ⟨_, Utf8.decode?_encode _, ByteLiteral.read?_encode frame⟩
  | json =>
    have hread := Record.ofJson_toJson (r := Record.ofFrame seq frame) hseq hsize
    exact ⟨Base64.encode frame, hread, Base64.decode?_encode frame⟩

theorem Describes.unique {format : Format} (hformat : format.Legible) {i j : Nat}
    {line f g : Bytes} (hf : format.Describes i line f) (hg : format.Describes j line g) :
    f = g := by
  rcases hformat with rfl | rfl
  · obtain ⟨t, ht, hf⟩ := hf
    obtain ⟨u, hu, hg⟩ := hg
    rw [ht] at hu
    cases hu
    rw [hf] at hg
    exact Option.some.inj hg
  · obtain ⟨data, hdata, hf⟩ := hf
    obtain ⟨data', hdata', hg⟩ := hg
    rw [hdata] at hdata'
    have hsame : data = data' := congrArg Record.data (Except.ok.inj hdata')
    rw [hsame, hg] at hf
    exact (Option.some.inj hf).symm

theorem newline_notMem_render {format : Format} (hformat : format.Legible) (seq : Nat)
    (frame : Bytes) : 0x0A ∉ format.render seq frame := by
  rcases hformat with rfl | rfl
  · exact Utf8.newline_notMem_encode (ByteLiteral.newline_notMem_encode frame)
  · exact Utf8.newline_notMem_encode (Record.newline_notMem_toJson _)

end Format

/-! ## Lines of endpoints -/

/-- The line is the announcement of the endpoint, in one of the texts that name it. -/
def Announces (line : Bytes) (e : Endpoint) : Prop :=
  ∃ text, line = Utf8.encode ("Listening on ".toList ++ text ++ "...".toList) ∧
    Endpoint.parse text = .ok e

theorem announces_announcement {e : Endpoint} (h : e.Accepted) :
    Announces (Utf8.encode (announcementText e)) e :=
  ⟨e.display, rfl, Endpoint.parse_display h⟩

theorem Announces.unique {line : Bytes} {e e' : Endpoint} (h : Announces line e)
    (h' : Announces line e') : e = e' := by
  obtain ⟨text, hline, hparse⟩ := h
  obtain ⟨text', hline', hparse'⟩ := h'
  have htext := Utf8.encode_injective (hline.symm.trans hline')
  rw [List.append_cancel_left (List.append_cancel_right htext), hparse'] at hparse
  exact (Except.ok.inj hparse).symm

theorem newline_notMem_announcement {e : Endpoint} (h : e.Accepted) :
    0x0A ∉ Utf8.encode (announcementText e) := by
  have hbegin : '\n' ∉ "Listening on ".toList := by decide
  have hend : '\n' ∉ "...".toList := by decide
  refine Utf8.newline_notMem_encode ?_
  unfold announcementText
  rw [List.mem_append, List.mem_append]
  rintro ((hm | hm) | hm)
  · exact hbegin hm
  · exact Endpoint.newline_notMem_display h hm
  · exact hend hm

/-! ## What a listener leaves -/

/-- `out` is what a fresh listener leaves on a sink that never fails: it was set up with the
endpoints `es`, and then its run received the frames `fs`.  A frame lies in memory, so its
length is a word. -/
structure Leaves (format : Format) (es : List Endpoint) (fs : List Bytes) (out : Bytes) :
    Prop where
  accepted : ∀ e ∈ es, ∃ t, Endpoint.parse t = .ok e
  counted : fs.length < UInt64.size
  measured : ∀ frame ∈ fs, frame.length < UInt64.size
  session : ∃ (l : Listener) (socket : Socket) (cancelled : Bool) (past left : List Wait),
    l.printer.format = format ∧ l.printer.printed = 0 ∧ l.printer.sink.content = [] ∧
      l.printer.sink.Unfailing ∧ (l.setup socket es).result = .ok () ∧
      let r := (l.setup socket es).listener.run cancelled (past ++ left)
      r.left = left ∧ Wait.frames past = fs ∧ r.listener.printer.sink.content = out

variable {format : Format} {es : List Endpoint} {fs : List Bytes} {out : Bytes}

theorem Leaves.accepted_of_mem (h : Leaves format es fs out) {e : Endpoint} (he : e ∈ es) :
    e.Accepted := by
  obtain ⟨t, ht⟩ := h.accepted e he
  exact Endpoint.accepted_of_parse ht

theorem Leaves.ne_nil (h : Leaves format es fs out) : es ≠ [] := by
  obtain ⟨l, socket, cancelled, past, left, -, -, -, -, hok, -⟩ := h.session
  exact (Listener.setup_ok_iff.1 hok).1

/-- The lines of an output, the announcements first. -/
def outputLines (format : Format) (es : List Endpoint) (fs : List Bytes) : List Bytes :=
  (es.map fun e => Utf8.encode (announcementText e)) ++ frameLines format fs

theorem Leaves.eq_lines (h : Leaves format es fs out) :
    out = Text.lines 0x0A (outputLines format es fs) := by
  obtain ⟨l, socket, cancelled, past, left, rfl, hprinted, hempty, hsink, hok, hleft, rfl, rfl⟩ :=
    h.session
  obtain ⟨past', hsplit, hcourse⟩ :=
    (l.setup socket es).listener.run_course cancelled (past ++ left)
  -- The course has the waits that were left, so its past is the one that brought the frames.
  rw [hleft] at hsplit
  rw [← List.append_cancel_right hsplit] at hcourse
  have hprinter : ((l.setup socket es).listener.run cancelled (past ++ left)).listener.printer =
      l.printer.after (es.map .announce ++ (Wait.frames past).map .print) := by
    rw [hcourse.listener, Listener.setup_of_ok hok, after_append]
    rfl
  rw [hprinter, content_of_unfailing hsink, hempty, List.nil_append,
    stream_of_unfailing hsink hprinted]
  rfl

theorem Leaves.newline_notMem (h : Leaves format es fs out) (hformat : format.Legible) :
    ∀ line ∈ outputLines format es fs, 0x0A ∉ line := by
  intro line hline
  rcases List.mem_append.1 hline with hline | hline
  · obtain ⟨e, he, rfl⟩ := List.mem_map.1 hline
    exact newline_notMem_announcement (h.accepted_of_mem he)
  · obtain ⟨j, hj, rfl⟩ := List.exists_of_mem_mapIdx hline
    exact Format.newline_notMem_render hformat j _

/-! ## Telling the lines apart -/

/-- Whether a line begins as the announcements do. -/
def beginsAnnouncement (line : Bytes) : Bool := line.head? == some 0x4C

theorem beginsAnnouncement_announcement (e : Endpoint) :
    beginsAnnouncement (Utf8.encode (announcementText e)) = true := rfl

theorem beginsAnnouncement_render (hformat : format.Legible) (seq : Nat) (frame : Bytes) :
    beginsAnnouncement (format.render seq frame) = false := by
  rcases hformat with rfl | rfl
  · rfl
  · rfl

theorem takeWhile_outputLines (hformat : format.Legible) (es : List Endpoint)
    (fs : List Bytes) : (outputLines format es fs).takeWhile beginsAnnouncement =
      es.map fun e => Utf8.encode (announcementText e) := by
  have hheads : ∀ line ∈ es.map fun e => Utf8.encode (announcementText e),
      beginsAnnouncement line = true := by
    intro line hline
    obtain ⟨e, -, rfl⟩ := List.mem_map.1 hline
    exact beginsAnnouncement_announcement e
  have hbodies : (frameLines format fs).takeWhile beginsAnnouncement = [] := by
    cases fs with
    | nil => rfl
    | cons frame fs =>
      rw [frameLines, List.mapIdx_cons, List.takeWhile_cons,
        beginsAnnouncement_render hformat 0 frame]
      rfl
  rw [outputLines, List.takeWhile_append_of_pos hheads, hbodies, List.append_nil]

theorem Leaves.describes (h : Leaves format es fs out) {j : Nat} (hj : j < fs.length) :
    ∃ line, (frameLines format fs)[j]? = some line ∧ format.Describes j line fs[j] := by
  refine ⟨format.render j fs[j], ?_, ?_⟩
  · rw [frameLines, List.getElem?_mapIdx, List.getElem?_eq_getElem hj]
    rfl
  · exact format.describes_render (Nat.lt_trans hj h.counted)
      (h.measured _ (List.getElem_mem hj))

theorem Leaves.announces (h : Leaves format es fs out) {i : Nat} (hi : i < es.length) :
    ∃ line, (es.map fun e => Utf8.encode (announcementText e))[i]? = some line ∧
      Announces line es[i] := by
  refine ⟨Utf8.encode (announcementText es[i]), ?_, ?_⟩
  · rw [List.getElem?_map, List.getElem?_eq_getElem hi]
    rfl
  · exact announces_announcement (h.accepted_of_mem (List.getElem_mem hi))

/-- Lists are the same of which the same lines tell, if each line tells of one thing only. -/
theorem eq_of_lines {α : Type} (Tells : Nat → Bytes → α → Prop) {lines : List Bytes}
    {as bs : List α} (hunique : ∀ i line a b, Tells i line a → Tells i line b → a = b)
    (hlength : as.length = bs.length)
    (ha : ∀ i (h : i < as.length), ∃ line, lines[i]? = some line ∧ Tells i line as[i])
    (hb : ∀ i (h : i < bs.length), ∃ line, lines[i]? = some line ∧ Tells i line bs[i]) :
    as = bs := by
  refine List.ext_getElem hlength fun i hi hi' => ?_
  obtain ⟨line, hline, hfirst⟩ := ha i hi
  obtain ⟨line', hline', hsecond⟩ := hb i hi'
  rw [hline] at hline'
  cases hline'
  exact hunique i line _ _ hfirst hsecond

theorem Leaves.unique (hformat : format.Legible) {es' : List Endpoint} {fs' : List Bytes}
    (h : Leaves format es fs out) (h' : Leaves format es' fs' out) : es' = es ∧ fs' = fs := by
  -- Both outputs have the same lines, and the announcements are those before the first other.
  have hcut := Text.cut_lines (h.newline_notMem hformat)
  rw [← h.eq_lines, h'.eq_lines, Text.cut_lines (h'.newline_notMem hformat)] at hcut
  have hlines := List.append_cancel_right hcut
  have hheads := congrArg (List.takeWhile beginsAnnouncement) hlines
  rw [takeWhile_outputLines hformat, takeWhile_outputLines hformat] at hheads
  rw [outputLines, outputLines, hheads] at hlines
  have hbodies := List.append_cancel_left hlines
  have hes : es'.length = es.length := by
    rw [← List.length_map (f := fun e => Utf8.encode (announcementText e)), hheads,
      List.length_map]
  have hfs : fs'.length = fs.length := by
    have hlength := congrArg List.length hbodies
    rwa [frameLines, frameLines, List.length_mapIdx, List.length_mapIdx] at hlength
  have hannounces := fun i (hi : i < es'.length) => h'.announces hi
  have hdescribes := fun j (hj : j < fs'.length) => h'.describes hj
  rw [hheads] at hannounces
  rw [hbodies] at hdescribes
  refine ⟨?_, ?_⟩
  · exact eq_of_lines (fun _ => Announces) (fun _ _ _ _ => Announces.unique) hes hannounces
      fun _ => h.announces
  · exact eq_of_lines format.Describes (fun _ _ _ _ => Format.Describes.unique hformat) hfs
      hdescribes fun _ => h.describes

/-! ## Every output occurs -/

/-- Waits that bring these frames one after the other. -/
def deliveries (fs : List Bytes) : List Wait := fs.map fun frame => ⟨.frame frame, false⟩

theorem frames_deliveries (fs : List Bytes) : Wait.frames (deliveries fs) = fs := by
  induction fs with
  | nil => rfl
  | cons frame fs ih =>
    rw [deliveries, List.map_cons, Wait.frames, List.filterMap_cons]
    exact congrArg _ ih

/-- A run on a sink that never fails comes through all of them. -/
theorem left_deliveries {l : Listener} (h : l.printer.sink.Unfailing) (fs : List Bytes) :
    (l.run false (deliveries fs)).left = [] := by
  induction fs generalizing l with
  | nil => rfl
  | cons frame fs ih =>
    have hprint := perform_of_unfailing h (.print frame)
    have hresult : (l.await ⟨.frame frame, false⟩).result = .ok () := hprint.1
    rw [deliveries, List.map_cons, Listener.run, hresult]
    exact ih hprint.2

/-- A listener that has printed nothing yet, on a sink that takes everything. -/
def unused (format : Format) : Listener where
  printer := { format }
  pollInterval := .ofMillis 1

theorem setup_unused (format : Format) {es : List Endpoint} (hes : es ≠ []) :
    ((unused format).setup {} es).result = .ok () ∧
      ((unused format).setup {} es).listener.printer.sink.Unfailing := by
  have hsink : (unused format).printer.sink.Unfailing := ⟨rfl, fun _ => rfl⟩
  have hok : ((unused format).setup {} es).result = .ok () :=
    Listener.setup_ok_iff.2 ⟨hes, rfl, fun _ _ => rfl, succeeds_of_unfailing hsink _⟩
  refine ⟨hok, ?_, ?_⟩
  · rw [Listener.setup_of_ok hok]
    exact (after_capacity _ _).trans hsink.capacity
  · rw [Listener.setup_of_ok hok]
    intro n
    exact (congrFun (after_flushFault _ _) n).trans (hsink.flushFault n)

/-- Whatever the endpoints and the frames are, some listener leaves their lines. -/
theorem leaves_outputLines (format : Format) (hes : es ≠ [])
    (haccepted : ∀ e ∈ es, ∃ t, Endpoint.parse t = .ok e) (hcounted : fs.length < UInt64.size)
    (hmeasured : ∀ frame ∈ fs, frame.length < UInt64.size) :
    Leaves format es fs (Text.lines 0x0A (outputLines format es fs)) := by
  obtain ⟨hok, hsink⟩ := setup_unused format hes
  have hleft := left_deliveries hsink fs
  have hleaves : Leaves format es fs (((unused format).setup {} es).listener.run false
      (deliveries fs ++ [])).listener.printer.sink.content := by
    refine ⟨haccepted, hcounted, hmeasured, unused format, {}, false, deliveries fs, [], rfl, rfl,
      rfl, ⟨rfl, fun _ => rfl⟩, hok, ?_, frames_deliveries fs, rfl⟩
    rw [List.append_nil]
    exact hleft
  rw [← hleaves.eq_lines]
  exact hleaves

/-! ## The output as a whole -/

/-- In a form without line breaks in it, the output is a line for each endpoint, announcing it,
and then a line for each frame, telling of this frame.  So no other endpoints and no other
frames leave the same bytes. -/
theorem output_decodes (hformat : format.Legible) (h : Leaves format es fs out) :
    out.count 0x0A = es.length + fs.length ∧ out.getLast? = some 0x0A ∧
      (∃ heads bodies, Text.cut 0x0A out = heads ++ bodies ++ [[]] ∧
        heads.length = es.length ∧ bodies.length = fs.length ∧
        (∀ i (hi : i < es.length), ∃ line, heads[i]? = some line ∧ Announces line es[i]) ∧
        ∀ j (hj : j < fs.length), ∃ line, bodies[j]? = some line ∧
          format.Describes j line fs[j]) ∧
      ∀ es' fs', Leaves format es' fs' out → es' = es ∧ fs' = fs := by
  have hnone := h.newline_notMem hformat
  have hlength : (outputLines format es fs).length = es.length + fs.length := by
    rw [outputLines, List.length_append, List.length_map, frameLines, List.length_mapIdx]
  have hlines : outputLines format es fs ≠ [] := by
    intro hnil
    rw [hnil] at hlength
    have hes := List.length_pos_iff.2 h.ne_nil
    simp only [List.length_nil] at hlength
    omega
  refine ⟨?_, ?_, ⟨_, frameLines format fs, ?_, List.length_map _, List.length_mapIdx,
    fun _ => h.announces, fun _ => h.describes⟩, fun _ _ => h.unique hformat⟩
  · rw [h.eq_lines, Text.count_lines hnone, hlength]
  · rw [h.eq_lines, Text.getLast?_lines hlines]
  · rw [h.eq_lines, Text.cut_lines hnone]
    rfl

/-- One endpoint and two frames, of which the first is a line break, a quote and a byte that is
no text, and the second is empty. -/
theorem output_decodes_line_break :
    let endpoint : Endpoint := ⟨"[::1]".toList, 5555⟩
    let frames : List Bytes := [[0x0A, 0x27, 0xFF], []]
    let out := Utf8.encode ("Listening on tcp://[::1]:5555...\n".toList ++
      "\x7b\"seq\":0,\"size\":3,\"data\":\"Cif/\"\x7d\n".toList ++
      "\x7b\"seq\":1,\"size\":0,\"data\":\"\"\x7d\n".toList)
    Format.json.Legible ∧ Leaves .json [endpoint] frames out ∧
      out.count 0x0A = 1 + 2 ∧ out.getLast? = some 0x0A ∧
      ∀ es' fs', Leaves .json es' fs' out → es' = [endpoint] ∧ fs' = frames := by
  intro endpoint frames out
  have hout : Text.lines 0x0A (outputLines .json [endpoint] frames) = out := by decide +kernel
  have haccepted : ∀ e ∈ [endpoint], ∃ t, Endpoint.parse t = .ok e := by
    intro e he
    rw [List.mem_singleton.1 he]
    exact ⟨"tcp://[::1]:5555".toList, rfl⟩
  have hleaves : Leaves .json [endpoint] frames out := by
    rw [← hout]
    exact leaves_outputLines .json (List.cons_ne_nil _ _) haccepted (by decide) (by decide)
  obtain ⟨hcount, hlast, -, hunique⟩ := output_decodes (.inr rfl) hleaves
  exact ⟨.inr rfl, hleaves, hcount, hlast, hunique⟩

end FrameTap
