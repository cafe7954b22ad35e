import FrameTap.Proofs.Text.Utf8

/-!
# Dividing bytes into characters and gaps

Where no character begins in a byte string, the longest beginning that some character
shares is a gap, or the first byte alone if no character begins with it.  `Divides` says this
of a whole byte string without speaking of any state.  The machine answers with the one
division there is (`divides_iff`).

Two things follow.  A byte string without gaps is the encoding of its characters, so `decode?`
accepts encodings only.  And an ASCII byte is always a character of its own, so a line
break separates what stands before it from what stands behind it, however the bytes before it
end.
-/

namespace FrameTap.Utf8

/-! ## Divisions -/

/-- The bytes `part` are a maximal ill-formed part in front of `rest`. -/
structure Gap (part rest : Bytes) : Prop where
  ne_nil : part ≠ []
  /-- No character begins here. -/
  ill : ∀ c more, part ++ rest ≠ String.utf8EncodeChar c ++ more
  begins : part.length = 1 ∨ ∃ c more, String.utf8EncodeChar c = part ++ more
  /-- No character begins with one byte more. -/
  maximal : ∀ b more, rest = b :: more → ∀ c behind, String.utf8EncodeChar c ≠ part ++ b :: behind

/-- The bytes are made of these pieces. -/
inductive Divides : Bytes → List Piece → Prop where
  | nil : Divides [] []
  | character (c : Char) {bytes : Bytes} {ps : List Piece} (h : Divides bytes ps) :
      Divides (String.utf8EncodeChar c ++ bytes) (some c :: ps)
  | gap {part bytes : Bytes} {ps : List Piece} (hgap : Gap part bytes) (h : Divides bytes ps) :
      Divides (part ++ bytes) (none :: ps)

theorem eq_of_encodeChar_append {c d : Char} {x y : Bytes}
    (h : String.utf8EncodeChar c ++ x = String.utf8EncodeChar d ++ y) : c = d ∧ x = y := by
  have hpieces := congrArg (piecesFrom none) h
  rw [piecesFrom_encodeChar, piecesFrom_encodeChar] at hpieces
  obtain rfl : c = d := Option.some.inj (List.cons.inj hpieces).1
  exact ⟨rfl, List.append_cancel_left h⟩

/-- Of two gaps at one place neither is the longer. -/
theorem Gap.length_le {part part' x y : Bytes} (h : Gap part x) (h' : Gap part' y)
    (heq : part ++ x = part' ++ y) : part'.length ≤ part.length := by
  by_cases hle : part'.length ≤ part.length
  · exact hle
  · exfalso
    obtain ⟨more, hmore⟩ : part <+: part' :=
      List.prefix_of_prefix_length_le ⟨x, heq⟩ ⟨y, rfl⟩ (by omega)
    have hpos := List.length_pos_iff.2 h.ne_nil
    have hlength := congrArg List.length hmore
    rw [List.length_append] at hlength
    cases more with
    | nil =>
      rw [List.length_nil] at hlength
      omega
    | cons b more =>
      -- The longer gap has two bytes at least, so some character begins with it.
      rcases h'.begins with hone | ⟨c, behind, hc⟩
      · rw [List.length_cons] at hlength
        omega
      · rw [← hmore, List.append_assoc] at heq
        refine h.maximal b (more ++ y) (List.append_cancel_left heq) c (more ++ behind) ?_
        rw [hc, ← hmore, List.append_assoc, List.cons_append]

theorem Divides.unique {bytes : Bytes} {ps qs : List Piece} (h : Divides bytes ps)
    (h' : Divides bytes qs) : ps = qs := by
  induction h generalizing qs with
  | nil =>
    generalize hnil : ([] : Bytes) = bytes at h'
    cases h' with
    | nil => rfl
    | character c _ =>
      have hne : String.utf8EncodeChar c ≠ [] := by
        intro hc
        have hpieces := piecesFrom_encodeChar c []
        rw [hc] at hpieces
        cases hpieces
      exact absurd (List.append_eq_nil_iff.1 hnil.symm).1 hne
    | gap hgap _ => exact absurd (List.append_eq_nil_iff.1 hnil.symm).1 hgap.ne_nil
  | character c h ih =>
    generalize hbytes : String.utf8EncodeChar c ++ _ = bytes at h'
    cases h' with
    | nil =>
      have hpieces := congrArg (piecesFrom none) hbytes
      rw [piecesFrom_encodeChar] at hpieces
      cases hpieces
    | character d h' =>
      obtain ⟨rfl, rfl⟩ := eq_of_encodeChar_append hbytes
      rw [ih h']
    | gap hgap _ => exact absurd hbytes.symm (hgap.ill c _)
  | @gap part rest ps hgap h ih =>
    generalize hbytes : part ++ rest = bytes at h'
    cases h' with
    | nil => exact absurd (List.append_eq_nil_iff.1 hbytes).1 hgap.ne_nil
    | character d _ => exact absurd hbytes (hgap.ill d _)
    | gap hgap' h' =>
      have hlength := Nat.le_antisymm (hgap'.length_le hgap hbytes.symm) (hgap.length_le hgap' hbytes)
      obtain ⟨-, rfl⟩ := List.append_inj hbytes hlength
      rw [ih h']

/-! ## The last byte of a character -/

theorem val_ofNat {v : Nat} (h : v.isValidChar) : (Char.ofNat v).val.toNat = v := by
  rw [Char.ofNat, dif_pos h]
  rfl

theorem encodeChar_two {a b : Nat} (ha : 0xC2 ≤ a ∧ a < 0xE0) (hb : 0x80 ≤ b ∧ b ≤ 0xBF) :
    String.utf8EncodeChar (Char.ofNat ((a - 0xC0) * 0x40 + b % 0x40)) =
      [UInt8.ofNat a, UInt8.ofNat b] := by
  generalize hv : (a - 0xC0) * 0x40 + b % 0x40 = v
  have hvalid : v.isValidChar := Or.inl (by omega)
  have h1 : v / 64 % 32 + 192 = a := by omega
  have h2 : v % 64 + 128 = b := by omega
  rw [String.utf8EncodeChar, val_ofNat hvalid, if_neg (by omega), if_pos (by omega), h1, h2]

theorem encodeChar_three {a b c : Nat} (ha : 0xE0 ≤ a ∧ a < 0xF0) (hb : 0x80 ≤ b ∧ b ≤ 0xBF)
    (hlow : a = 0xE0 → 0xA0 ≤ b) (hhigh : a = 0xED → b ≤ 0x9F) (hc : 0x80 ≤ c ∧ c ≤ 0xBF) :
    String.utf8EncodeChar (Char.ofNat (((a - 0xE0) * 0x40 + b % 0x40) * 0x40 + c % 0x40)) =
      [UInt8.ofNat a, UInt8.ofNat b, UInt8.ofNat c] := by
  generalize hv : ((a - 0xE0) * 0x40 + b % 0x40) * 0x40 + c % 0x40 = v
  have hvalid : v.isValidChar := by
    show v < 0xD800 ∨ (0xDFFF < v ∧ v < 0x110000)
    omega
  have h1 : v / 4096 % 16 + 224 = a := by omega
  have h2 : v / 64 % 64 + 128 = b := by omega
  have h3 : v % 64 + 128 = c := by omega
  rw [String.utf8EncodeChar, val_ofNat hvalid, if_neg (by omega), if_neg (by omega),
    if_pos (by omega), h1, h2, h3]

theorem encodeChar_four {a b c d : Nat} (ha : 0xF0 ≤ a ∧ a < 0xF5) (hb : 0x80 ≤ b ∧ b ≤ 0xBF)
    (hlow : a = 0xF0 → 0x90 ≤ b) (hhigh : a = 0xF4 → b ≤ 0x8F) (hc : 0x80 ≤ c ∧ c ≤ 0xBF)
    (hd : 0x80 ≤ d ∧ d ≤ 0xBF) :
    String.utf8EncodeChar (Char.ofNat
        ((((a - 0xF0) * 0x40 + b % 0x40) * 0x40 + c % 0x40) * 0x40 + d % 0x40)) =
      [UInt8.ofNat a, UInt8.ofNat b, UInt8.ofNat c, UInt8.ofNat d] := by
  generalize hv : (((a - 0xF0) * 0x40 + b % 0x40) * 0x40 + c % 0x40) * 0x40 + d % 0x40 = v
  have hvalid : v.isValidChar := by
    show v < 0xD800 ∨ (0xDFFF < v ∧ v < 0x110000)
    omega
  have h1 : v / 262144 % 8 + 240 = a := by omega
  have h2 : v / 4096 % 64 + 128 = b := by omega
  have h3 : v / 64 % 64 + 128 = c := by omega
  have h4 : v % 64 + 128 = d := by omega
  rw [String.utf8EncodeChar, val_ofNat hvalid, if_neg (by omega), if_neg (by omega),
    if_neg (by omega), h1, h2, h3, h4]

/-! ## The states of the machine -/

theorem lead_stray : ∀ n < 256, (0x80 ≤ n ∧ n < 0xC2) ∨ 0xF5 ≤ n →
    lead (UInt8.ofNat n) = .stray := by
  decide +kernel

/-- What a first byte of the value `n` says of the bytes behind it. -/
inductive Leads (n : Nat) : Lead → Prop where
  | whole (hn : n < 0x80) : Leads n (.whole (Char.ofNat n))
  | two (hn : 0xC2 ≤ n ∧ n < 0xE0) : Leads n (.opens ⟨0x80, 0xBF, 0, n - 0xC0⟩)
  | three {low high : UInt8} (hn : 0xE0 ≤ n ∧ n < 0xF0)
      (hrange : 0x80 ≤ low.toNat ∧ low.toNat ≤ high.toNat ∧ high.toNat ≤ 0xBF)
      (hlow : n = 0xE0 → 0xA0 ≤ low.toNat) (hhigh : n = 0xED → high.toNat ≤ 0x9F) :
      Leads n (.opens ⟨low, high, 1, n - 0xE0⟩)
  | four {low high : UInt8} (hn : 0xF0 ≤ n ∧ n < 0xF5)
      (hrange : 0x80 ≤ low.toNat ∧ low.toNat ≤ high.toNat ∧ high.toNat ≤ 0xBF)
      (hlow : n = 0xF0 → 0x90 ≤ low.toNat) (hhigh : n = 0xF4 → high.toNat ≤ 0x8F) :
      Leads n (.opens ⟨low, high, 2, n - 0xF0⟩)
  | stray : Leads n .stray

theorem leads (b : UInt8) : Leads b.toNat (lead b) := by
  have hlt : b.toNat < 256 := b.toNat_lt
  have hself : UInt8.ofNat b.toNat = b := UInt8.ofNat_toNat
  generalize b.toNat = n at hlt hself
  rw [← hself]
  by_cases h1 : n < 0x80
  · rw [lead_one n hlt h1]
    exact .whole h1
  · by_cases h2 : 0xC2 ≤ n ∧ n < 0xE0
    · rw [lead_two n hlt h2.1 h2.2]
      exact .two h2
    · by_cases h3 : 0xE0 ≤ n ∧ n < 0xF0
      · rw [lead_three n hlt h3.1 h3.2]
        refine .three h3 ?_ ?_ ?_
        · by_cases hE0 : n = 0xE0
          · simp [hE0]
          · by_cases hED : n = 0xED <;> simp [hE0, hED]
        · intro hE0
          simp [hE0]
        · intro hED
          simp [hED]
      · by_cases h4 : 0xF0 ≤ n ∧ n < 0xF5
        · rw [lead_four n hlt h4.1 h4.2]
          refine .four h4 ?_ ?_ ?_
          · by_cases hF0 : n = 0xF0
            · simp [hF0]
            · by_cases hF4 : n = 0xF4 <;> simp [hF0, hF4]
          · intro hF0
            simp [hF0]
          · intro hF4
            simp [hF4]
        · rw [lead_stray n hlt (by omega)]
          exact .stray

theorem lead_whole {b : UInt8} {c : Char} (h : lead b = .whole c) :
    String.utf8EncodeChar c = [b] := by
  have hb := leads b
  rw [h] at hb
  cases hb with
  | whole hn =>
    have hval : (Char.ofNat b.toNat).toNat = b.toNat := val_ofNat (Or.inl (by omega))
    rw [encodeChar_of_ascii (by omega), hval, UInt8.ofNat_toNat]

theorem lead_opens {b : UInt8} {u : Unfinished} (h : lead b = .opens u) :
    Leads b.toNat (.opens u) := h ▸ leads b

/-- The bytes `read` have begun a character of which `u` is what is known. -/
inductive Begun : Bytes → Unfinished → Prop where
  | lead {b : UInt8} {u : Unfinished} (h : lead b = .opens u) : Begun [b] u
  | more {read : Bytes} {low high b : UInt8} {more bits : Nat}
      (h : Begun read ⟨low, high, more + 1, bits⟩) (hl : low ≤ b) (hh : b ≤ high) :
      Begun (read ++ [b]) ⟨0x80, 0xBF, more, bits * 0x40 + b.toNat % 0x40⟩

theorem Begun.ne_nil {read : Bytes} {u : Unfinished} (h : Begun read u) : read ≠ [] := by
  cases h with
  | lead h => exact List.cons_ne_nil _ _
  | more h hl hh => simp

/-- The next byte is a continuation byte, and there is one that fits. -/
theorem Begun.range {read : Bytes} {u : Unfinished} (h : Begun read u) :
    0x80 ≤ u.low.toNat ∧ u.low.toNat ≤ u.high.toNat ∧ u.high.toNat ≤ 0xBF := by
  cases h with
  | lead h =>
    cases lead_opens h with
    | two hn =>
      show 0x80 ≤ 0x80 ∧ 0x80 ≤ 0xBF ∧ 0xBF ≤ 0xBF
      omega
    | three hn hrange hlow hhigh => exact hrange
    | four hn hrange hlow hhigh => exact hrange
  | more h hl hh =>
    show 0x80 ≤ 0x80 ∧ 0x80 ≤ 0xBF ∧ 0xBF ≤ 0xBF
    omega

theorem Begun.more_le {read : Bytes} {u : Unfinished} (h : Begun read u) : u.more ≤ 2 := by
  induction h with
  | lead h => cases lead_opens h <;> simp
  | more h hl hh ih =>
    dsimp only at ih ⊢
    omega

/-- The machine reads the bytes of a character begun without an answer. -/
theorem Begun.piecesFrom {read : Bytes} {u : Unfinished} (h : Begun read u) (bytes : Bytes) :
    piecesFrom none (read ++ bytes) = piecesFrom (some u) bytes := by
  induction h generalizing bytes with
  | lead h => exact piecesFrom_opens h bytes
  | more h hl hh ih =>
    rw [List.append_assoc, ih, List.singleton_append, Utf8.piecesFrom, step, if_pos ⟨hl, hh⟩]
    rfl

/-- The last byte completes the encoding of a character. -/
theorem Begun.encodeChar {read : Bytes} {low high b : UInt8} {bits : Nat}
    (h : Begun read ⟨low, high, 0, bits⟩) (hl : low ≤ b) (hh : b ≤ high) :
    String.utf8EncodeChar (Char.ofNat (bits * 0x40 + b.toNat % 0x40)) = read ++ [b] := by
  have hb := h.range
  rw [UInt8.le_iff_toNat_le] at hl hh
  -- The character has two bytes, three or four, as far back as its first one stands.
  cases h with
  | @lead a _ hlead =>
    cases lead_opens hlead with
    | two hn =>
      rw [encodeChar_two hn ⟨hl, hh⟩]
      simp
  | @more read low₁ high₁ b₁ _ bits₁ h₁ hl₁ hh₁ =>
    have hb₁ := h₁.range
    rw [UInt8.le_iff_toNat_le] at hl₁ hh₁
    cases h₁ with
    | @lead a _ hlead =>
      cases lead_opens hlead with
      | three hn hrange hlow hhigh =>
        dsimp only at hb
        rw [encodeChar_three hn (by omega) (by omega) (by omega) (by omega)]
        simp
    | @more read low₂ high₂ b₂ _ bits₂ h₂ hl₂ hh₂ =>
      have hb₂ := h₂.range
      rw [UInt8.le_iff_toNat_le] at hl₂ hh₂
      cases h₂ with
      | @lead a _ hlead =>
        cases lead_opens hlead with
        | four hn hrange hlow hhigh =>
          dsimp only at hb hb₁
          rw [encodeChar_four hn (by omega) (by omega) (by omega) (by omega) (by omega)]
          simp
      | more h₃ hl₃ hh₃ =>
        have hmore := h₃.more_le
        dsimp only at hmore
        omega

/-- Some character begins with the bytes that have begun one. -/
theorem Begun.exists_encodeChar {more : Nat} {read : Bytes} {low high : UInt8} {bits : Nat}
    (h : Begun read ⟨low, high, more, bits⟩) :
    ∃ c behind, String.utf8EncodeChar c = read ++ behind := by
  have hfits : low ≤ low ∧ low ≤ high := by
    rw [UInt8.le_iff_toNat_le, UInt8.le_iff_toNat_le]
    exact ⟨Nat.le_refl _, h.range.2.1⟩
  induction more generalizing read low high bits with
  | zero => exact ⟨_, _, h.encodeChar hfits.1 hfits.2⟩
  | succ more ih =>
    obtain ⟨c, behind, hc⟩ := ih (h.more hfits.1 hfits.2) (by decide)
    rw [List.append_assoc] at hc
    exact ⟨c, _, hc⟩

/-! ## The machine divides -/

/-- A part at which the machine leaves a gap, whatever follows its next byte. -/
theorem Gap.of_pieces {part rest : Bytes} (hne : part ≠ [])
    (hbegins : part.length = 1 ∨ ∃ c more, String.utf8EncodeChar c = part ++ more)
    (hill : (piecesFrom none (part ++ rest)).head? = some none)
    (hmax : ∀ b more, rest = b :: more → ∀ behind,
      (piecesFrom none (part ++ b :: behind)).head? = some none) : Gap part rest := by
  refine ⟨hne, ?_, hbegins, ?_⟩
  · intro c more h
    rw [h, piecesFrom_encodeChar] at hill
    cases hill
  · intro b more hrest c behind h
    have hgap := hmax b more hrest behind
    rw [← h, ← List.append_nil (String.utf8EncodeChar c), piecesFrom_encodeChar] at hgap
    cases hgap

theorem piecesFrom_stray {b : UInt8} (h : lead b = .stray) (bytes : Bytes) :
    piecesFrom none (b :: bytes) = none :: piecesFrom none bytes := by
  rw [piecesFrom, step, begin, h]
  rfl

/-- A byte that does not continue the character begun is read as a first byte. -/
theorem piecesFrom_breaks {u : Unfinished} {b : UInt8} (h : ¬ (u.low ≤ b ∧ b ≤ u.high))
    (bytes : Bytes) : piecesFrom (some u) (b :: bytes) = none :: piecesFrom none (b :: bytes) := by
  rw [piecesFrom, step, if_neg h, piecesFrom, step]
  rfl

/-- By induction on the bytes still to be read, with and without a character begun. -/
theorem divides_piecesFrom (bytes : Bytes) :
    Divides bytes (piecesFrom none bytes) ∧
      ∀ read u, Begun read u → Divides (read ++ bytes) (piecesFrom (some u) bytes) := by
  induction bytes with
  | nil =>
    refine ⟨.nil, fun read u h => ?_⟩
    have hgap : Gap read [] := by
      refine .of_pieces h.ne_nil (.inr h.exists_encodeChar) ?_ ?_
      · rw [h.piecesFrom]
        rfl
      · intro b more hrest
        cases hrest
    exact .gap hgap .nil
  | cons b bytes ih =>
    have hfirst : Divides (b :: bytes) (piecesFrom none (b :: bytes)) := by
      cases hlead : lead b with
      | whole c =>
        rw [piecesFrom_whole hlead, ← List.singleton_append, ← lead_whole hlead]
        exact .character c ih.1
      | opens u =>
        rw [piecesFrom_opens hlead]
        exact ih.2 [b] u (.lead hlead)
      | stray =>
        have hgap : Gap [b] bytes := by
          refine .of_pieces (List.cons_ne_nil _ _) (.inl rfl) ?_ ?_
          · rw [List.singleton_append, piecesFrom_stray hlead]
            rfl
          · intro b' more hrest behind
            rw [List.singleton_append, piecesFrom_stray hlead]
            rfl
        rw [piecesFrom_stray hlead]
        exact .gap hgap ih.1
    refine ⟨hfirst, fun read u h => ?_⟩
    by_cases hfits : u.low ≤ b ∧ b ≤ u.high
    · rw [piecesFrom, step, if_pos hfits]
      obtain ⟨low, high, more, bits⟩ := u
      cases more with
      | zero =>
        have hc := h.encodeChar hfits.1 hfits.2
        rw [← List.singleton_append, ← List.append_assoc, ← hc]
        exact .character _ ih.1
      | succ more =>
        have hmore := ih.2 _ _ (h.more hfits.1 hfits.2)
        rwa [List.append_assoc, List.singleton_append] at hmore
    · have hgap : Gap read (b :: bytes) := by
        refine .of_pieces h.ne_nil (.inr h.exists_encodeChar) ?_ ?_
        · rw [h.piecesFrom, piecesFrom_breaks hfits]
          rfl
        · intro b' more hrest behind
          cases hrest
          rw [h.piecesFrom, piecesFrom_breaks hfits]
          rfl
      rw [piecesFrom_breaks hfits]
      exact .gap hgap hfirst

/-- Bytes are divided in one way, which is the one that the machine answers with. -/
theorem divides_iff {bytes : Bytes} {ps : List Piece} : Divides bytes ps ↔ ps = pieces bytes := by
  have h : Divides bytes (pieces bytes) := (divides_piecesFrom bytes).1
  constructor
  · intro h'
    exact h'.unique h
  · rintro rfl
    exact h

/-! ## Byte strings without gaps -/

/-- The bytes are the encoding of a text. -/
def Valid (bytes : Bytes) : Prop := ∃ t, bytes = encode t

theorem Divides.eq_encode {t : Text} {bytes : Bytes} (h : Divides bytes (t.map some)) :
    bytes = encode t := by
  induction t generalizing bytes with
  | nil =>
    cases h
    rfl
  | cons c t ih =>
    cases h with
    | character _ h => rw [encode_cons, ih h]

theorem mapM_id_eq_some_iff {ps : List Piece} {t : Text} :
    ps.mapM id = some t ↔ ps = t.map some := by
  induction ps generalizing t with
  | nil => cases t <;> simp
  | cons p ps ih =>
    cases p with
    | none => cases t <;> simp
    | some c =>
      cases t with
      | nil => simp [Option.bind_eq_some_iff]
      | cons d t =>
        simp only [List.mapM_cons, id, Option.pure_def, Option.bind_eq_bind, Option.bind_some,
          Option.bind_eq_some_iff, ih, List.map_cons, List.cons.injEq, Option.some.injEq]
        constructor
        · rintro ⟨t', hps, rfl, rfl⟩
          exact ⟨rfl, hps⟩
        · rintro ⟨rfl, hps⟩
          exact ⟨t, hps, rfl, rfl⟩

/-- What is accepted is the encoding of the answer. -/
theorem decode?_eq_some_iff {bytes : Bytes} {t : Text} :
    decode? bytes = some t ↔ bytes = encode t := by
  constructor
  · intro h
    have hpieces := mapM_id_eq_some_iff.1 h
    exact Divides.eq_encode (divides_iff.2 hpieces.symm)
  · rintro rfl
    exact decode?_encode t

theorem valid_iff {bytes : Bytes} : Valid bytes ↔ none ∉ pieces bytes := by
  constructor
  · rintro ⟨t, rfl⟩
    simp [pieces_encode]
  · intro h
    refine ⟨decodeLossy bytes, Divides.eq_encode (divides_iff.2 ?_)⟩
    rw [decodeLossy, List.map_map]
    refine (List.map_congr_left fun p hp => ?_).trans (List.map_id _)
    cases p with
    | none => exact absurd hp h
    | some c => rfl

instance (bytes : Bytes) : Decidable (Valid bytes) := decidable_of_iff _ valid_iff.symm

theorem decodeLossy_encode (t : Text) : decodeLossy (encode t) = t := by
  rw [decodeLossy, pieces_encode, List.map_map]
  exact List.map_id t

/-- Lossy decoding changes nothing exactly where there is nothing to replace. -/
theorem encode_decodeLossy_eq_iff {bytes : Bytes} :
    encode (decodeLossy bytes) = bytes ↔ Valid bytes := by
  constructor
  · intro h
    exact ⟨_, h.symm⟩
  · rintro ⟨t, rfl⟩
    rw [decodeLossy_encode]

/-! ## ASCII bytes separate -/

/-- An ASCII byte stands in no character but its own. -/
theorem encodeChar_ne_append_ascii {part : Bytes} (hne : part ≠ []) {b : UInt8}
    (hb : b.toNat < 0x80) (c : Char) (behind : Bytes) :
    String.utf8EncodeChar c ≠ part ++ b :: behind := by
  intro h
  have hmem : b ∈ String.utf8EncodeChar c := by
    rw [h]
    simp
  rcases mem_encodeChar hmem with ⟨hc, -⟩ | hhigh
  · have hlength := congrArg List.length h
    have hpos := List.length_pos_iff.2 hne
    rw [encodeChar_of_ascii hc, List.length_append, List.length_singleton, List.length_cons]
      at hlength
    omega
  · rw [UInt8.le_iff_toNat_le] at hhigh
    have hle : 0x80 ≤ b.toNat := hhigh
    omega

/-- A gap stays one when an ASCII byte follows what follows it. -/
theorem Gap.append_ascii {part rest : Bytes} (h : Gap part rest) {b : UInt8} (hb : b.toNat < 0x80)
    (bytes : Bytes) : Gap part (rest ++ b :: bytes) := by
  refine ⟨h.ne_nil, ?_, h.begins, ?_⟩
  · intro c more heq
    rw [← List.append_assoc] at heq
    rcases List.append_eq_append_iff.1 heq with ⟨x, hx, hy⟩ | ⟨x, hx, -⟩
    · cases x with
      | nil =>
        rw [List.append_nil] at hx
        refine h.ill c [] ?_
        rw [hx, List.append_nil]
      | cons b' x =>
        cases hy
        have hne : part ++ rest ≠ [] := by simp [h.ne_nil]
        exact encodeChar_ne_append_ascii hne hb c x hx
    · exact h.ill c x hx
  · intro b' more hrest
    cases rest with
    | nil =>
      cases hrest
      exact encodeChar_ne_append_ascii h.ne_nil hb
    | cons b'' rest =>
      cases hrest
      exact h.maximal b' rest rfl

theorem Divides.append_ascii {bytes rest : Bytes} {ps qs : List Piece} {b : UInt8}
    (hb : b.toNat < 0x80) (h : Divides bytes ps) (h' : Divides (b :: rest) qs) :
    Divides (bytes ++ b :: rest) (ps ++ qs) := by
  induction h with
  | nil => exact h'
  | character c _ ih =>
    rw [List.append_assoc]
    exact .character c ih
  | gap hgap _ ih =>
    rw [List.append_assoc]
    exact .gap (hgap.append_ascii hb rest) ih

/-- What stands before an ASCII byte and what stands behind it are divided apart. -/
theorem pieces_append_ascii (bytes : Bytes) {b : UInt8} (hb : b.toNat < 0x80) (rest : Bytes) :
    pieces (bytes ++ b :: rest) = pieces bytes ++ pieces (b :: rest) :=
  (divides_iff.1 (.append_ascii hb (divides_iff.2 rfl) (divides_iff.2 rfl))).symm

end FrameTap.Utf8
