import FrameTap.Endpoint
import FrameTap.Proofs.Decimal.Grammar
import FrameTap.Proofs.Except
import FrameTap.Proofs.Text.Cut

/-!
# The grammar of endpoints

`Spells s host port n` says what the text `s` of an endpoint is made of: a scheme, a host, a
colon, and a port that denotes `n`.  The reader accepts exactly these texts.  It cuts a text at
its last colon (`Cut`) and judges the two parts each for itself.  A port holds no colon, so host
and port are known from the text even if the host has colons of its own.
-/

namespace FrameTap.Endpoint

/-- What may stand between the scheme and the colon before the port. -/
structure IsHost (host : Text) : Prop where
  ne_nil : host ≠ []
  brackets : host.head? = some '[' ↔ host.getLast? = some ']'
  colon : ':' ∈ host → host.head? = some '['
  unbroken : ∀ c ∈ host, ¬ Text.WhiteSpace c

/-- The text `s` is that of an endpoint with the host `host` and the port `n`, written `port`. -/
structure Spells (s host port : Text) (n : Nat) : Prop where
  text : s = "tcp://".toList ++ host ++ ':' :: port
  host : IsHost host
  port : Numeral.Denotes port n
  pos : 1 ≤ n
  le : n ≤ 65535

/-- The text is cut into a host and a port at its last colon. -/
structure Cut (s host port : Text) : Prop where
  text : s = "tcp://".toList ++ host ++ ':' :: port
  last : ':' ∉ port

/-! ## Hosts -/

theorem opensBracket_iff {host : Text} : opensBracket host = true ↔ host.head? = some '[' := by
  rw [opensBracket, beq_iff_eq]

theorem closesBracket_iff {host : Text} : closesBracket host = true ↔ host.getLast? = some ']' := by
  rw [closesBracket, beq_iff_eq]

/-- The tests of a host find no fault in it exactly where it keeps all conditions. -/
theorem hostFault?_eq_none_iff {host : Text} : hostFault? host = none ↔ IsHost host := by
  have hbrackets : (opensBracket host != closesBracket host) = false ↔
      (host.head? = some '[' ↔ host.getLast? = some ']') := by
    rw [bne_eq_false_iff_eq, Bool.eq_iff_iff, opensBracket_iff, closesBracket_iff]
  have hcolon : (!opensBracket host && host.contains ':') = false ↔
      (':' ∈ host → host.head? = some '[') := by
    rw [Bool.and_eq_false_iff, Bool.not_eq_false', opensBracket_iff, ← Bool.not_eq_true,
      List.contains_iff_mem]
    constructor
    · rintro (h | h) hm
      · exact h
      · exact absurd hm h
    · intro h
      by_cases hm : ':' ∈ host
      · exact Or.inl (h hm)
      · exact Or.inr hm
  have hblank : host.any Text.isBlank = false ↔ ∀ c ∈ host, ¬ Text.WhiteSpace c := by
    simp only [List.any_eq_false, Text.isBlank_iff]
  constructor
  · intro h
    unfold hostFault? at h
    split at h
    · cases h
    · rename_i hempty
      split at h
      · cases h
      · rename_i hb
        split at h
        · cases h
        · rename_i hc
          split at h
          · cases h
          · rename_i hw
            exact ⟨fun hnil => hempty (by rw [hnil]; rfl), hbrackets.1 (Bool.not_eq_true _ ▸ hb),
              hcolon.1 (Bool.not_eq_true _ ▸ hc), hblank.1 (Bool.not_eq_true _ ▸ hw)⟩
  · intro h
    rw [hostFault?, if_neg (by simpa using h.ne_nil), hbrackets.2 h.brackets,
      hcolon.2 h.colon, hblank.2 h.unbroken]
    rfl

/-! ## Ports -/

theorem one_le_toNat_iff {port : UInt16} : 1 ≤ port.toNat ↔ port ≠ 0 := by
  rw [Nat.one_le_iff_ne_zero, Ne, Ne, ← UInt16.toNat_inj]
  rfl

theorem readPort_eq_ok_iff {t : Text} {port : UInt16} :
    readPort t = .ok port ↔ Numeral.Denotes t port.toNat ∧ 1 ≤ port.toNat := by
  constructor
  · intro h
    unfold readPort at h
    split at h
    · cases h
    · rename_i n hzero hn
      cases h
      obtain ⟨hdenotes, hle⟩ := Numeral.readNat_eq_ok_iff.1 hn
      rw [UInt16.toNat_ofNat_of_lt' (Nat.lt_succ_of_le hle)]
      exact ⟨hdenotes, Nat.one_le_iff_ne_zero.2 hzero⟩
    · cases h
  · rintro ⟨hdenotes, hpos⟩
    have hle : port.toNat ≤ maxPort := Nat.le_of_lt_succ port.toNat_lt
    rw [readPort, Numeral.readNat_eq_ok_iff.2 ⟨hdenotes, hle⟩]
    split
    · rename_i heq
      exact absurd (Except.ok.inj heq) (Nat.one_le_iff_ne_zero.1 hpos)
    · rename_i n _ heq
      rw [← Except.ok.inj heq, UInt16.ofNat_toNat]
    · rename_i heq
      cases heq

theorem colon_notMem_of_denotes {t : Text} {n : Nat} (h : Numeral.Denotes t n) : ':' ∉ t := by
  refine Numeral.notMem_of_denotes h ?_ (by decide)
  unfold Numeral.IsDigit
  decide

variable {s host port : Text} {n : Nat} {e : Endpoint}

/-! ## Cutting -/

theorem cut_cases (s : Text) :
    ¬ "tcp://".toList <+: s ∨ (∃ rest, s = "tcp://".toList ++ rest ∧ ':' ∉ rest) ∨
      ∃ host port, Cut s host port := by
  by_cases hscheme : "tcp://".toList <+: s
  · obtain ⟨rest, rfl⟩ := hscheme
    refine .inr ?_
    cases hsplit : Text.splitLast? ':' rest with
    | none => exact .inl ⟨rest, rfl, Text.splitLast?_eq_none_iff.1 hsplit⟩
    | some parts =>
        obtain ⟨host, port⟩ := parts
        obtain ⟨htext, hlast⟩ := Text.splitLast?_eq_some hsplit
        exact .inr ⟨host, port, by rw [htext, List.append_assoc], hlast⟩
  · exact .inl hscheme

theorem read_of_no_scheme (h : ¬ "tcp://".toList <+: s) : read s = .error .scheme := by
  have hafter : Text.after? scheme s = none := by
    cases ha : Text.after? scheme s with
    | none => rfl
    | some rest => exact absurd ⟨rest, (Text.eq_append_of_after? ha).symm⟩ h
  rw [read, hafter]

theorem read_of_no_colon {rest : Text} (h : ':' ∉ rest) :
    read ("tcp://".toList ++ rest) = .error .missingPort := by
  have hafter : Text.after? scheme ("tcp://".toList ++ rest) = some rest :=
    Text.after?_append scheme rest
  simp only [read, hafter, Text.splitLast?_eq_none_iff.2 h]

/-- The last colon stands in front of the port, so host and port are judged each for itself. -/
theorem Cut.read_eq (h : Cut s host port) :
    read s =
      match hostFault? host with
      | some reason => .error reason
      | none => (readPort port).map fun port => ⟨host, port⟩ := by
  have hafter : Text.after? scheme s = some (host ++ ':' :: port) := by
    rw [Text.after?_eq_some_iff, h.text, List.append_assoc]
    rfl
  cases hfault : hostFault? host <;>
    simp only [read, hafter, Text.splitLast?_append_cons h.last, hfault]

theorem Cut.unique {host' port' : Text} (h : Cut s host port) (h' : Cut s host' port') :
    host = host' ∧ port = port' := by
  have htext : host ++ ':' :: port = host' ++ ':' :: port' := by
    have hboth := h.text.symm.trans h'.text
    rw [List.append_assoc, List.append_assoc] at hboth
    exact List.append_cancel_left hboth
  have hsplit := Text.splitLast?_append_cons h.last host
  rw [htext, Text.splitLast?_append_cons h'.last] at hsplit
  obtain ⟨rfl, rfl⟩ := Prod.mk.inj (Option.some.inj hsplit)
  exact ⟨rfl, rfl⟩

/-! ## Endpoints -/

/-- The port is what stands behind the last colon, as it has none itself. -/
theorem Spells.cut (h : Spells s host port n) : Cut s host port :=
  ⟨h.text, colon_notMem_of_denotes h.port⟩

theorem Spells.unique {host' port' : Text} {n' : Nat} (h : Spells s host port n)
    (h' : Spells s host' port' n') : host = host' ∧ port = port' ∧ n = n' := by
  obtain ⟨rfl, rfl⟩ := h.cut.unique h'.cut
  exact ⟨rfl, rfl, Numeral.denotes_unique h.port h'.port⟩

/-- A character that neither the scheme nor a number can hold is one of the host. -/
theorem Spells.mem_iff {c : Char} (h : Spells s host port n) (hscheme : c ∉ scheme)
    (hdigit : ¬ Numeral.IsDigit c) (hplus : c ≠ '+') : c ∈ s ↔ c ∈ host := by
  have hport : c ∉ port := Numeral.notMem_of_denotes h.port hdigit hplus
  rw [h.text, List.mem_append, List.mem_append, List.mem_cons]
  constructor
  · rintro ((hm | hm) | hm | hm)
    · exact absurd hm hscheme
    · exact hm
    · rw [hm] at hscheme
      exact absurd (by decide) hscheme
    · exact absurd hm hport
  · exact fun hm => .inl (.inr hm)

theorem Spells.read_eq (h : Spells s e.host port e.port.toNat) : read s = .ok e := by
  rw [h.cut.read_eq, hostFault?_eq_none_iff.2 h.host]
  dsimp only
  rw [readPort_eq_ok_iff.2 ⟨h.port, h.pos⟩]
  rfl

theorem exists_spells_of_read (h : read s = .ok e) : ∃ port, Spells s e.host port e.port.toNat := by
  rcases cut_cases s with hscheme | ⟨rest, rfl, hcolon⟩ | ⟨host, port, hcut⟩
  · rw [read_of_no_scheme hscheme] at h
    cases h
  · rw [read_of_no_colon hcolon] at h
    cases h
  · rw [hcut.read_eq] at h
    cases hfault : hostFault? host with
    | some reason =>
      rw [hfault] at h
      cases h
    | none =>
      rw [hfault] at h
      cases hport : readPort port with
      | error reason =>
        rw [hport] at h
        cases h
      | ok p =>
        rw [hport] at h
        cases h
        obtain ⟨hdenotes, hpos⟩ := readPort_eq_ok_iff.1 hport
        exact ⟨port, hcut.text, hostFault?_eq_none_iff.1 hfault, hdenotes, hpos,
          Nat.le_of_lt_succ p.toNat_lt⟩

theorem parse_eq_ok_iff_read : parse s = .ok e ↔ read s = .ok e := mapError_eq_ok_iff

theorem parse_eq_ok_iff : parse s = .ok e ↔ ∃ port, Spells s e.host port e.port.toNat := by
  rw [parse_eq_ok_iff_read]
  constructor
  · exact exists_spells_of_read
  · rintro ⟨port, h⟩
    exact h.read_eq

/-- The texts of endpoints are those of the grammar, and each is put together in one way
only. -/
theorem parse_grammar (s : Text) :
    (∀ (host : Text) (n : Nat), (∃ e, parse s = .ok e ∧ e.host = host ∧ e.port.toNat = n) ↔
      ∃ port, Spells s host port n) ∧
    ∀ host port n host' port' n', Spells s host port n → Spells s host' port' n' →
      host = host' ∧ port = port' ∧ n = n' := by
  refine ⟨fun host n => ⟨?_, ?_⟩, fun _ _ _ _ _ _ h h' => h.unique h'⟩
  · rintro ⟨e, he, rfl, rfl⟩
    exact parse_eq_ok_iff.1 he
  · rintro ⟨port, h⟩
    have hport : (UInt16.ofNat n).toNat = n := UInt16.toNat_ofNat_of_lt' (Nat.lt_succ_of_le h.le)
    refine ⟨⟨host, UInt16.ofNat n⟩, parse_eq_ok_iff.2 ⟨port, ?_⟩, rfl, hport⟩
    rw [hport]
    exact h

end FrameTap.Endpoint
