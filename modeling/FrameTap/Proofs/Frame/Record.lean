import FrameTap.Proofs.Frame.Record.Layout

/-!
# Records and their JSON texts

The JSON text of a record is a text of the grammar, and its value describes the record.  So a
record whose numbers fit a word is read back from its own text, whatever its content is.  The text
holds no control character, so it is one line.
-/

namespace FrameTap.Record

open Json

/-! ## Strings -/

/-- A character is written as itself or by its code point. -/
theorem writes_escapeJson (c : Char) :
    (Item.char c).Writes (escapeJson c) ∨
      (c.toNat < 0x20 ∧ (Item.unit c.toNat).Writes (escapeJson c)) := by
  by_cases hquote : c = '"'
  · rw [escapeJson, if_pos hquote, hquote]
    exact .inl (.letter (by decide))
  by_cases hbackslash : c = '\\'
  · rw [escapeJson, if_neg hquote, if_pos hbackslash, hbackslash]
    exact .inl (.letter (by decide))
  rw [escapeJson, if_neg hquote, if_neg hbackslash]
  by_cases hbackspace : c = '\x08'
  · rw [if_pos hbackspace, hbackspace]
    exact .inl (.letter (by decide))
  by_cases hfeed : c = '\x0C'
  · rw [if_neg hbackspace, if_pos hfeed, hfeed]
    exact .inl (.letter (by decide))
  rw [if_neg hbackspace, if_neg hfeed]
  by_cases hnewline : c = '\n'
  · rw [if_pos hnewline, hnewline]
    exact .inl (.letter (by decide))
  by_cases hreturn : c = '\r'
  · rw [if_neg hnewline, if_pos hreturn, hreturn]
    exact .inl (.letter (by decide))
  rw [if_neg hnewline, if_neg hreturn]
  by_cases htab : c = '\t'
  · rw [if_pos htab, htab]
    exact .inl (.letter (by decide))
  rw [if_neg htab]
  by_cases hcontrol : c.toNat < 0x20
  · have hvalue : ((0 * 16 + 0) * 16 + c.toNat / 16) * 16 + c.toNat % 16 = c.toNat := by omega
    rw [if_pos hcontrol]
    refine .inr ⟨hcontrol, ?_⟩
    nth_rewrite 1 [← hvalue]
    exact .unit rfl rfl (ByteLiteral.hexValue?_hexDigit _ (by omega))
      (ByteLiteral.hexValue?_hexDigit _ (by omega))
  · rw [if_neg hcontrol]
    exact .inl (.plain hquote hbackslash hcontrol)

/-- The string in which a text is written stands for the text. -/
theorem exists_body (t : Text) :
    ∃ items, Body items (t.flatMap escapeJson) ∧ content? items = some t := by
  induction t with
  | nil => exact ⟨[], .nil, rfl⟩
  | cons c t ih =>
      obtain ⟨items, hbody, hcontent⟩ := ih
      rcases writes_escapeJson c with hchar | ⟨hcontrol, hunit⟩
      · refine ⟨.char c :: items, .cons hchar hbody, ?_⟩
        rw [content?, hcontent]
        rfl
      · have hleading : ¬ IsLeading c.toNat := by rw [IsLeading]; omega
        have htrailing : ¬ IsTrailing c.toNat := by rw [IsTrailing]; omega
        refine ⟨.unit c.toNat :: items, .cons hunit hbody, ?_⟩
        rw [content?.eq_def]
        dsimp only
        rw [if_neg hleading, if_neg htrailing, hcontent, Char.ofNat_toNat]
        rfl

theorem body_name (field : Field) : Body (field.name.map .char) field.name := by
  cases field <;> exact .ofBare rfl

/-! ## Records -/

theorem toJson_eq (r : Record) :
    r.toJson = '\x7b' :: (('"' :: (Field.seq.name ++ '"' :: ':' :: Numeral.write r.seq) ++
      ',' :: ('"' :: (Field.size.name ++ '"' :: ':' :: Numeral.write r.size) ++
        ',' :: '"' :: (Field.data.name ++ '"' :: ':' :: '"' ::
          (r.data.flatMap escapeJson ++ ['"'])))) ++ ['\x7d']) := by
  rw [toJson, jsonPieces]
  simp only [List.flatten_cons, List.flatten_nil, List.append_nil, List.append_assoc,
    List.cons_append, List.nil_append]
  rfl

/-- The JSON text of a record is one that describes the record. -/
theorem exists_isText_toJson {r : Record} (hseq : r.seq < UInt64.size)
    (hsize : r.size < UInt64.size) :
    ∃ v, IsText v r.toJson ∧ KeysDecode v ∧ Describes v r := by
  obtain ⟨items, hbody, hcontent⟩ := exists_body r.data
  refine ⟨.object [(Field.seq.name.map .char, .number (.ofNat r.seq)),
    (Field.size.name.map .char, .number (.ofNat r.size)),
    (Field.data.name.map .char, .string items)], ?_, ?_, ?_⟩
  · rw [toJson_eq]
    exact .tight (.object (.moreMembers (.tightMember (body_name _) (Literal.writes_ofNat r.seq))
      (.moreMembers (.tightMember (body_name _) (Literal.writes_ofNat r.size))
        (.lastMember (.tightMember (body_name _) (.string hbody))))))
  · simp [KeysDecode, content?_map_char]
  · intro field
    cases field with
    | seq => exact ⟨_, rfl, isNatural_ofNat hseq⟩
    | size => exact ⟨_, rfl, isNatural_ofNat hsize⟩
    | data => exact ⟨_, rfl, items, rfl, hcontent⟩

theorem ofJson_toJson {r : Record} (hseq : r.seq < UInt64.size) (hsize : r.size < UInt64.size) :
    ofJson (Utf8.encode r.toJson) = .ok r := by
  obtain ⟨v, htext, hkeys, hdescribes⟩ := exists_isText_toJson hseq hsize
  exact (ofJson_eq_ok_iff htext hkeys).2 hdescribes

/-! ## One line -/

/-- The character is no control character of the ASCII range. -/
def noControl (c : Char) : Bool := 0x20 ≤ c.toNat

theorem all_noControl_escapeJson : ∀ n < 0x20,
    (escapeJson (Char.ofNat n)).all noControl = true := by
  decide +kernel

theorem noControl_escapeJson {c d : Char} (h : d ∈ escapeJson c) : noControl d = true := by
  by_cases hcontrol : c.toNat < 0x20
  · rw [← Char.ofNat_toNat c] at h
    exact List.all_eq_true.1 (all_noControl_escapeJson c.toNat hcontrol) d h
  -- What is left has no letter of its own, so it is the quote, the backslash or itself.
  have hne : ∀ e : Char, e.toNat < 0x20 → c ≠ e := by
    rintro e he rfl
    exact hcontrol he
  by_cases hquote : c = '"'
  · have hall : (escapeJson '"').all noControl = true := rfl
    rw [hquote] at h
    exact List.all_eq_true.1 hall d h
  by_cases hbackslash : c = '\\'
  · have hall : (escapeJson '\\').all noControl = true := rfl
    rw [hbackslash] at h
    exact List.all_eq_true.1 hall d h
  rw [escapeJson, if_neg hquote, if_neg hbackslash, if_neg (hne '\x08' (by decide)),
    if_neg (hne '\x0C' (by decide)), if_neg (hne '\n' (by decide)), if_neg (hne '\r' (by decide)),
    if_neg (hne '\t' (by decide)), if_neg hcontrol, List.mem_singleton] at h
  rw [h, noControl, decide_eq_true_eq]
  omega

theorem noControl_write {n : Nat} {c : Char} (h : c ∈ Numeral.write n) : noControl c = true := by
  have hdigit : ∀ d < 10, noControl (Nat.digitChar d) = true := by decide
  obtain ⟨d, hd, rfl⟩ := Numeral.mem_write h
  exact hdigit d hd

/-- The JSON text of a record holds no control character, whatever its content holds. -/
theorem noControl_toJson {r : Record} {c : Char} (h : c ∈ r.toJson) : noControl c = true := by
  have hseq : "\x7b\"seq\":".toList.all noControl = true := by decide
  have hsize : ",\"size\":".toList.all noControl = true := by decide
  have hdata : ",\"data\":\"".toList.all noControl = true := by decide
  have hend : "\"\x7d".toList.all noControl = true := by decide
  obtain ⟨piece, hpiece, hc⟩ := List.mem_flatten.1 h
  simp only [jsonPieces, List.mem_cons, List.not_mem_nil, or_false] at hpiece
  rcases hpiece with rfl | rfl | rfl | rfl | rfl | rfl | rfl
  · exact List.all_eq_true.1 hseq c hc
  · exact noControl_write hc
  · exact List.all_eq_true.1 hsize c hc
  · exact noControl_write hc
  · exact List.all_eq_true.1 hdata c hc
  · obtain ⟨d, -, hd⟩ := List.mem_flatMap.1 hc
    exact noControl_escapeJson hd
  · exact List.all_eq_true.1 hend c hc

theorem newline_notMem_toJson (r : Record) : '\n' ∉ r.toJson := fun h =>
  absurd (noControl_toJson h) Bool.false_ne_true

end FrameTap.Record
