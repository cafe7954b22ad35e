import FrameTap.Proofs.Decimal.Grammar
import FrameTap.Proofs.Frame.Base64
import FrameTap.Proofs.Frame.Record
import FrameTap.Proofs.Text.Cut

/-!
# The JSON text of a frame

The JSON text of any record is read back as this record.  In the text of a frame's record nothing
needs an escape, as Base64 has neither quotes nor backslashes, so the text is known exactly, and a
frame and its place in the output are known from it.
-/

namespace FrameTap.Record

theorem escapeJson_of_mem {c : Char} (h : c ∈ Base64.padding :: Base64.alphabet) :
    escapeJson c = [c] := by
  have hall : (Base64.padding :: Base64.alphabet).all (fun c => escapeJson c == [c]) = true := by
    decide +kernel
  exact eq_of_beq (List.all_eq_true.1 hall c h)

theorem flatMap_escapeJson_encode (bytes : Bytes) :
    (Base64.encode bytes).flatMap escapeJson = Base64.encode bytes := by
  have hmap : (Base64.encode bytes).flatMap escapeJson =
      (Base64.encode bytes).flatMap fun c => [c] :=
    List.flatMap_congr fun c hc => escapeJson_of_mem (Base64.mem_encode hc)
  rw [hmap, List.flatMap_singleton']

theorem toJson_ofFrame (seq : Nat) (frame : Bytes) :
    (ofFrame seq frame).toJson =
      "\x7b\"seq\":".toList ++ Numeral.write seq ++ ",\"size\":".toList ++
        Numeral.write frame.length ++ ",\"data\":\"".toList ++ Base64.encode frame ++
          "\"\x7d".toList := by
  rw [toJson, jsonPieces]
  simp only [ofFrame, flatMap_escapeJson_encode, List.flatten_cons, List.flatten_nil,
    List.append_nil, List.append_assoc]

/-! ## No escapes -/

theorem backslash_notMem_write (n : Nat) : '\\' ∉ Numeral.write n := by
  intro h
  obtain ⟨d, hd, heq⟩ := Numeral.mem_write h
  have hdigit : ∀ d < 10, '\\' ≠ Nat.digitChar d := by decide
  exact hdigit d hd heq

theorem backslash_notMem_encode (bytes : Bytes) : '\\' ∉ Base64.encode bytes := by
  intro h
  have hmem := Base64.mem_encode h
  revert hmem
  decide

theorem backslash_notMem_toJson (seq : Nat) (frame : Bytes) :
    '\\' ∉ (ofFrame seq frame).toJson := by
  rw [toJson_ofFrame]
  simp only [List.mem_append, not_or]
  refine ⟨⟨⟨⟨⟨⟨?_, backslash_notMem_write seq⟩, ?_⟩, backslash_notMem_write frame.length⟩, ?_⟩,
    backslash_notMem_encode frame⟩, ?_⟩
  all_goals decide

/-! ## Telling frames apart -/

theorem write_append_comma_inj {n m : Nat} {s t : Text}
    (h : Numeral.write n ++ ',' :: s = Numeral.write m ++ ',' :: t) : n = m ∧ s = t := by
  have hcomma : ∀ k, ',' ∉ Numeral.write k := by
    intro k hm
    obtain ⟨d, hd, heq⟩ := Numeral.mem_write hm
    have hdigit : ∀ d < 10, ',' ≠ Nat.digitChar d := by decide
    exact hdigit d hd heq
  obtain ⟨hwrite, hrest⟩ := Text.append_cons_inj (hcomma n) (hcomma m) h
  exact ⟨Numeral.write_injective hwrite, hrest⟩

/-- A numeral ends at the comma behind it, and the encoding of the frame at the end of the text. -/
theorem ofFrame_toJson_inj {seq seq' : Nat} {frame frame' : Bytes}
    (h : (ofFrame seq frame).toJson = (ofFrame seq' frame').toJson) :
    seq = seq' ∧ frame = frame' := by
  simp only [toJson_ofFrame, List.append_assoc] at h
  obtain ⟨hseq, h⟩ := write_append_comma_inj (List.append_cancel_left h)
  have hafterSeq := @List.append_cancel_left _ "\"size\":".toList _ _ h
  obtain ⟨-, h⟩ := write_append_comma_inj hafterSeq
  have hdata := List.append_cancel_right (@List.append_cancel_left _ "\"data\":\"".toList _ _ h)
  exact ⟨hseq, Base64.encode_injective hdata⟩

/-- The JSON text of a record holds no control character, so it is one line, and it is read back
as the record.  The text of a frame's record has no escape, and it belongs to one frame at one
place only. -/
theorem toJson_exact :
    (∀ r : Record, r.seq < UInt64.size → r.size < UInt64.size →
      (∀ c ∈ r.toJson, 0x20 ≤ c.toNat) ∧ ofJson (Utf8.encode r.toJson) = .ok r) ∧
      (∀ seq frame,
        (ofFrame seq frame).toJson =
            "\x7b\"seq\":".toList ++ Numeral.write seq ++ ",\"size\":".toList ++
              Numeral.write frame.length ++ ",\"data\":\"".toList ++ Base64.encode frame ++
                "\"\x7d".toList ∧
          '\\' ∉ (ofFrame seq frame).toJson) ∧
      ∀ seq frame seq' frame',
        (ofFrame seq frame).toJson = (ofFrame seq' frame').toJson → seq = seq' ∧ frame = frame' := by
  refine ⟨fun r hseq hsize => ⟨fun c hc => ?_, ofJson_toJson hseq hsize⟩, fun seq frame => ?_,
    fun seq frame seq' frame' h => ofFrame_toJson_inj h⟩
  · have hcontrol := noControl_toJson hc
    unfold noControl at hcontrol
    exact of_decide_eq_true hcontrol
  · exact ⟨toJson_ofFrame seq frame, backslash_notMem_toJson seq frame⟩

end FrameTap.Record
