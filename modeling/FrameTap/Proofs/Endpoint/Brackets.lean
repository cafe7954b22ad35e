import FrameTap.Proofs.Endpoint.Canonical

/-!
# Brackets in hosts

The tests of a host look at its first and its last character, and at brackets nowhere else.
So a host that was accepted is either anything between a first `[` and a last `]`, or a text
without colons that neither begins with the one nor ends with the other.  A name, an address,
and a bracketed address are among these, and so are hosts with stray brackets
(`stray_bracket_accepted`).  `produced_brackets` says which hosts these are.
-/

namespace FrameTap.Endpoint

/-- As a name or an IPv4 address is: without brackets and colons. -/
def IsPlain (host : Text) : Prop := '[' ∉ host ∧ ']' ∉ host ∧ ':' ∉ host

/-- As a bracketed address is: one pair of brackets with something between them. -/
def IsBracketed (host : Text) : Prop :=
  ∃ inner, host = '[' :: inner ++ [']'] ∧ inner ≠ [] ∧ '[' ∉ inner ∧ ']' ∉ inner

/-- Between a first and a last bracket, whatever else it holds. -/
def IsEnclosed (host : Text) : Prop := ∃ inner, host = '[' :: inner ++ [']']

/-- Without colons, and neither beginning with `[` nor ending with `]`. -/
def IsUnenclosed (host : Text) : Prop :=
  host.head? ≠ some '[' ∧ host.getLast? ≠ some ']' ∧ ':' ∉ host

variable {host : Text} {e : Endpoint}

theorem isEnclosed_iff : IsEnclosed host ↔ host.head? = some '[' ∧ host.getLast? = some ']' := by
  constructor
  · rintro ⟨inner, rfl⟩
    exact ⟨rfl, List.getLast?_concat⟩
  · rintro ⟨hhead, hlast⟩
    obtain ⟨front, rfl⟩ := List.getLast?_eq_some_iff.1 hlast
    cases front with
    | nil => cases hhead
    | cons c inner =>
      cases hhead
      exact ⟨inner, rfl⟩

theorem isHost_iff : IsHost host ↔ host ≠ [] ∧ (∀ c ∈ host, ¬ Text.WhiteSpace c) ∧
    (IsEnclosed host ∨ IsUnenclosed host) := by
  rw [isEnclosed_iff, IsUnenclosed]
  constructor
  · rintro ⟨hne, hbrackets, hcolon, hblank⟩
    refine ⟨hne, hblank, ?_⟩
    by_cases hhead : host.head? = some '['
    · exact .inl ⟨hhead, hbrackets.1 hhead⟩
    · exact .inr ⟨hhead, fun h => hhead (hbrackets.2 h), fun h => hhead (hcolon h)⟩
  · rintro ⟨hne, hblank, ⟨hhead, hlast⟩ | ⟨hhead, hlast, hcolon⟩⟩
    · exact ⟨hne, iff_of_true hhead hlast, fun _ => hhead, hblank⟩
    · exact ⟨hne, iff_of_false hhead hlast, fun h => absurd h hcolon, hblank⟩

theorem produced_iff_accepted : Produced e ↔ e.Accepted :=
  ⟨Produced.accepted, fun h => .inl ⟨e.display, parse_display h⟩⟩

/-! ## Stray brackets -/

/-- Between brackets, only those two count. -/
theorem isBracketed_iff_of_isEnclosed (h : IsEnclosed host) :
    IsBracketed host ↔ host ≠ ['[', ']'] ∧ '[' ∉ host.tail ∧ ']' ∉ host.dropLast := by
  obtain ⟨inner, rfl⟩ := h
  have hdrop : ('[' :: inner ++ [']']).dropLast = '[' :: inner := List.dropLast_concat
  rw [hdrop]
  constructor
  · rintro ⟨inner', heq, hne, hopening, hclosing⟩
    obtain rfl := List.append_cancel_right (List.cons.inj heq).2
    refine ⟨fun h => hne ?_, ?_, ?_⟩
    · exact List.append_cancel_right (List.cons.inj h).2
    · simpa using hopening
    · simpa using hclosing
  · rintro ⟨hne, hopening, hclosing⟩
    refine ⟨inner, rfl, fun h => hne ?_, ?_, ?_⟩
    · rw [h]
      rfl
    · simpa using hopening
    · simpa using hclosing

theorem isPlain_iff_of_isUnenclosed (h : IsUnenclosed host) :
    IsPlain host ↔ '[' ∉ host.tail ∧ ']' ∉ host.dropLast := by
  obtain ⟨hhead, hlast, hcolon⟩ := h
  constructor
  · rintro ⟨hopening, hclosing, -⟩
    exact ⟨fun h => hopening (List.mem_of_mem_tail h),
      fun h => hclosing (List.dropLast_subset host h)⟩
  · rintro ⟨hopening, hclosing⟩
    refine ⟨fun h => ?_, fun h => ?_, hcolon⟩
    · cases host with
      | nil => cases h
      | cons c rest =>
        rcases List.mem_cons.1 h with rfl | h
        · exact hhead rfl
        · exact hopening h
    · rcases List.eq_nil_or_concat host with rfl | ⟨front, c, rfl⟩
      · cases h
      · rw [List.concat_eq_append] at h hlast hclosing
        rw [List.dropLast_concat] at hclosing
        rcases List.mem_append.1 h with h | h
        · exact hclosing h
        · rw [List.mem_singleton.1 h, List.getLast?_concat] at hlast
          exact hlast rfl

/-- An accepted host is enclosed in brackets, or has no colon and no bracket that would enclose
it, and every such host without white space is accepted.  It is a name, an address or one
bracketed address exactly where no `[` stands behind its first character, no `]` before its last
one, and it is not a pair of brackets alone. -/
theorem produced_brackets (e : Endpoint) :
    (Produced e ↔ e.port ≠ 0 ∧ e.host ≠ [] ∧ (∀ c ∈ e.host, ¬ Text.WhiteSpace c) ∧
      (IsEnclosed e.host ∨ IsUnenclosed e.host)) ∧
    (Produced e → (IsPlain e.host ∨ IsBracketed e.host ↔
      e.host ≠ ['[', ']'] ∧ '[' ∉ e.host.tail ∧ ']' ∉ e.host.dropLast)) := by
  have hproduced : Produced e ↔ IsHost e.host ∧ e.port ≠ 0 := by
    rw [produced_iff_accepted, Accepted, hostFault?_eq_none_iff]
  rw [hproduced]
  refine ⟨?_, ?_⟩
  · rw [isHost_iff, and_comm]
  · rintro ⟨hhost, -⟩
    obtain ⟨-, -, henclosed | hunenclosed⟩ := isHost_iff.1 hhost
    · -- The brackets around it keep it from being plain.
      have hplain : ¬ IsPlain e.host := fun h =>
        h.1 (List.mem_of_mem_head? (isEnclosed_iff.1 henclosed).1)
      rw [or_iff_right hplain]
      exact isBracketed_iff_of_isEnclosed henclosed
    · have hbracketed : ¬ IsBracketed e.host := fun ⟨inner, h, _⟩ =>
        hunenclosed.1 (isEnclosed_iff.1 ⟨inner, h⟩).1
      have hpair : e.host ≠ ['[', ']'] := fun h => hunenclosed.1 (by rw [h]; rfl)
      rw [or_iff_left hbracketed, and_iff_right hpair]
      exact isPlain_iff_of_isUnenclosed hunenclosed

/-- A bracket that nothing closes, inside of a host, is let through in a text and in a host that
is given apart. -/
theorem stray_bracket_accepted :
    parse "tcp://a[b:1".toList = .ok ⟨"a[b".toList, 1⟩ ∧
      ofHostPort "a[b".toList 1 = .ok ⟨"a[b".toList, 1⟩ ∧
      ¬ ∀ e, Produced e → IsPlain e.host ∨ IsBracketed e.host := by
  refine ⟨rfl, rfl, fun h => ?_⟩
  rcases h ⟨"a[b".toList, 1⟩ (.inl ⟨"tcp://a[b:1".toList, rfl⟩) with hplain | ⟨inner, heq, -⟩
  · exact hplain.1 (by decide)
  · cases heq

end FrameTap.Endpoint
