import FrameTap.Except
import FrameTap.Json.Lexeme

/-!
# Skipping JSON values

The end of a JSON value is found without reading it.  The arrays and objects that are
open around the present place are kept in a list, innermost first, so values may be
nested to any depth.  What follows the value is not looked at.
-/

namespace FrameTap.Json

inductive Container where
  | array
  | object
  deriving DecidableEq

/-- The text behind a value that is no container.  Its first byte is `b`, and `s` is the
text behind that byte. -/
def scalar (b : UInt8) (s : Bytes) : Except Flaw Bytes :=
  if b = 0x6E then word [0x75, 0x6C, 0x6C] s
  else if b = 0x74 then word [0x72, 0x75, 0x65] s
  else if b = 0x66 then word [0x61, 0x6C, 0x73, 0x65] s
  else if b = 0x22 then skipString s
  else if b = 0x2D then (number .malformed true s).map Prod.snd
  else if isDigit b then (number .malformed false (b :: s)).map Prod.snd
  else .error .malformed

theorem length_skipSpace_le (s : Bytes) : (skipSpace s).length ≤ s.length :=
  (List.dropWhile_suffix isSpace).length_le

/-- Space is skipped before a byte that is found behind it. -/
theorem length_lt_of_skipSpace {s rest : Bytes} {b : UInt8} (h : skipSpace s = b :: rest) :
    rest.length < s.length := by
  have := length_skipSpace_le s
  rw [h, List.length_cons] at this
  omega

theorem length_word_le {letters s rest : Bytes} (h : word letters s = .ok rest) :
    rest.length ≤ s.length := by
  induction letters generalizing s with
  | nil =>
    cases h
    exact Nat.le_refl _
  | cons l letters ih =>
    cases s with
    | nil => cases h
    | cons b s =>
      by_cases hl : l = b
      · rw [word, if_pos hl] at h
        exact Nat.le_succ_of_le (ih h)
      · rw [word, if_neg hl] at h
        cases h

theorem length_digits1 {atEnd : Flaw} {s digits rest : Bytes}
    (h : digits1 atEnd s = .ok (digits, rest)) : rest.length < s.length := by
  unfold digits1 at h
  split at h
  · cases h
  · rename_i b s
    split at h
    · rename_i hb
      cases h
      rw [List.dropWhile_cons_of_pos hb]
      exact Nat.lt_succ_of_le (List.dropWhile_suffix isDigit).length_le
    · cases h

theorem length_wholePart {atEnd : Flaw} {s digits rest : Bytes}
    (h : wholePart atEnd s = .ok (digits, rest)) : rest.length < s.length := by
  unfold wholePart at h
  split at h
  · split at h
    · cases h
    · cases h
      simp
  · exact length_digits1 h

theorem length_fractionPart_le {atEnd : Flaw} {s rest : Bytes} {digits : Option Bytes}
    (h : fractionPart atEnd s = .ok (digits, rest)) : rest.length ≤ s.length := by
  unfold fractionPart at h
  split at h
  · obtain ⟨p, hd, h⟩ := map_eq_ok_iff.1 h
    cases h
    have := length_digits1 hd
    simp only [List.length_cons]
    omega
  · cases h
    exact Nat.le_refl _

theorem length_exponentDigits_le {atEnd : Flaw} {negative : Bool} {s rest : Bytes}
    {digits : Option (Bool × Bytes)} (h : exponentDigits atEnd negative s = .ok (digits, rest)) :
    rest.length ≤ s.length := by
  obtain ⟨p, hd, h⟩ := map_eq_ok_iff.1 h
  cases h
  exact Nat.le_of_lt (length_digits1 hd)

theorem length_signedExponent_le {atEnd : Flaw} {s rest : Bytes} {digits : Option (Bool × Bytes)}
    (h : signedExponent atEnd s = .ok (digits, rest)) : rest.length ≤ s.length := by
  unfold signedExponent at h
  split at h
  · exact Nat.le_succ_of_le (length_exponentDigits_le h)
  · exact Nat.le_succ_of_le (length_exponentDigits_le h)
  · exact length_exponentDigits_le h

theorem length_exponentPart_le {atEnd : Flaw} {s rest : Bytes} {digits : Option (Bool × Bytes)}
    (h : exponentPart atEnd s = .ok (digits, rest)) : rest.length ≤ s.length := by
  unfold exponentPart at h
  split at h
  · exact Nat.le_succ_of_le (length_signedExponent_le h)
  · exact Nat.le_succ_of_le (length_signedExponent_le h)
  · cases h
    exact Nat.le_refl _

/-- A number has at least one digit. -/
theorem length_number {atEnd : Flaw} {negative : Bool} {s rest : Bytes} {n : Number}
    (h : number atEnd negative s = .ok (n, rest)) : rest.length < s.length := by
  obtain ⟨w, hw, h⟩ := bind_eq_ok_iff.1 h
  obtain ⟨f, hf, h⟩ := bind_eq_ok_iff.1 h
  obtain ⟨e, he, h⟩ := bind_eq_ok_iff.1 h
  cases h
  have h₁ := length_wholePart hw
  have h₂ := length_fractionPart_le hf
  have h₃ := length_exponentPart_le he
  omega

theorem length_skipString {s rest : Bytes} (h : skipString s = .ok rest) :
    rest.length < s.length := by
  fun_induction skipString s with
  | case1 => cases h
  | case2 => cases h; simp
  | case3 => cases h
  | case4 _ _ heq _ ih =>
    have := ih h
    have := length_skipEscape heq
    simp only [List.length_cons]
    omega
  | case5 => cases h
  | case6 _ _ _ _ _ ih =>
    have := ih h
    simp only [List.length_cons]
    omega

theorem length_stringBytes {s rest bytes : Bytes} (h : stringBytes s = .ok (bytes, rest)) :
    rest.length < s.length := by
  fun_induction stringBytes s generalizing bytes with
  | case1 => cases h
  | case2 => cases h; simp
  | case3 => cases h
  | case4 _ _ _ heq _ ih =>
    obtain ⟨p, hr, h⟩ := map_eq_ok_iff.1 h
    cases h
    have := length_escape heq
    have := ih hr
    simp only [List.length_cons]
    omega
  | case5 => cases h
  | case6 _ _ _ _ _ ih =>
    obtain ⟨p, hr, h⟩ := map_eq_ok_iff.1 h
    cases h
    have := ih hr
    simp only [List.length_cons]
    omega

theorem length_scalar_le {b : UInt8} {s rest : Bytes} (h : scalar b s = .ok rest) :
    rest.length ≤ s.length := by
  unfold scalar at h
  split at h
  · exact length_word_le h
  · split at h
    · exact length_word_le h
    · split at h
      · exact length_word_le h
      · split at h
        · exact Nat.le_of_lt (length_skipString h)
        · split at h
          · obtain ⟨p, hn, rfl⟩ := map_eq_ok_iff.1 h
            exact Nat.le_of_lt (length_number hn)
          · split at h
            · obtain ⟨p, hn, rfl⟩ := map_eq_ok_iff.1 h
              exact Nat.le_of_lt_succ (length_number hn)
            · cases h

mutual

/-- The text behind all that is open, where a value comes next. -/
def skipValue (opened : List Container) (s : Bytes) : Except Flaw Bytes :=
  match _here : skipSpace s with
  | [] => .error .truncated
  | b :: s =>
    if b = 0x5B then
      match _first : skipSpace s with
      | 0x5D :: s => skipRest opened s
      | _ => skipValue (.array :: opened) s
    else if b = 0x7B then
      match _first : skipSpace s with
      | 0x7D :: s => skipRest opened s
      | _ => skipMember (.object :: opened) s
    else
      match _value : scalar b s with
      | .error flaw => .error flaw
      | .ok s => skipRest opened s
  termination_by s.length
  decreasing_by
    all_goals have := length_lt_of_skipSpace _here
    · have := length_lt_of_skipSpace _first
      omega
    · omega
    · have := length_lt_of_skipSpace _first
      omega
    · omega
    · have := length_scalar_le _value
      omega

/-- The text behind all that is open, where a value has just ended. -/
def skipRest (opened : List Container) (s : Bytes) : Except Flaw Bytes :=
  match opened with
  | [] => .ok s
  | .array :: outer =>
    match _here : skipSpace s with
    | [] => .error .truncated
    | b :: s =>
      if b = 0x2C then skipValue (.array :: outer) s
      else if b = 0x5D then skipRest outer s
      else .error .malformed
  | .object :: outer =>
    match _here : skipSpace s with
    | [] => .error .truncated
    | b :: s =>
      if b = 0x2C then skipMember (.object :: outer) s
      else if b = 0x7D then skipRest outer s
      else .error .malformed
  termination_by s.length
  decreasing_by all_goals exact length_lt_of_skipSpace _here

/-- The text behind all that is open, where a member of an object comes next. -/
def skipMember (opened : List Container) (s : Bytes) : Except Flaw Bytes :=
  match _here : skipSpace s with
  | [] => .error .truncated
  | b :: s =>
    if b = 0x22 then
      match _key : skipString s with
      | .error flaw => .error flaw
      | .ok s =>
        match _colon : skipSpace s with
        | [] => .error .truncated
        | b :: s => if b = 0x3A then skipValue opened s else .error .malformed
    else .error .malformed
  termination_by s.length
  decreasing_by
    have := length_lt_of_skipSpace _here
    have := length_skipString _key
    have := length_lt_of_skipSpace _colon
    omega

end

mutual

/-- A value has at least one byte. -/
theorem length_skipValue {opened : List Container} {s rest : Bytes}
    (h : skipValue opened s = .ok rest) : rest.length < s.length := by
  rw [skipValue] at h
  split at h
  · cases h
  · rename_i b t ht
    have hlt := length_lt_of_skipSpace ht
    split at h
    · split at h
      · rename_i u hu
        have := length_lt_of_skipSpace hu
        have := length_skipRest_le h
        omega
      · have := length_skipValue h
        omega
    · split at h
      · split at h
        · rename_i u hu
          have := length_lt_of_skipSpace hu
          have := length_skipRest_le h
          omega
        · have := length_skipMember h
          omega
      · split at h
        · cases h
        · rename_i u hu
          have := length_scalar_le hu
          have := length_skipRest_le h
          omega
  termination_by s.length

theorem length_skipRest_le {opened : List Container} {s rest : Bytes}
    (h : skipRest opened s = .ok rest) : rest.length ≤ s.length := by
  rw [skipRest.eq_def] at h
  split at h
  · cases h
    exact Nat.le_refl _
  · split at h
    · cases h
    · rename_i b t ht
      have hlt := length_lt_of_skipSpace ht
      split at h
      · have := length_skipValue h
        omega
      · split at h
        · have := length_skipRest_le h
          omega
        · cases h
  · split at h
    · cases h
    · rename_i b t ht
      have hlt := length_lt_of_skipSpace ht
      split at h
      · have := length_skipMember h
        omega
      · split at h
        · have := length_skipRest_le h
          omega
        · cases h
  termination_by s.length

theorem length_skipMember {opened : List Container} {s rest : Bytes}
    (h : skipMember opened s = .ok rest) : rest.length < s.length := by
  rw [skipMember] at h
  split at h
  · cases h
  · rename_i b t ht
    have hlt := length_lt_of_skipSpace ht
    split at h
    · split at h
      · cases h
      · rename_i u hu
        have := length_skipString hu
        split at h
        · cases h
        · rename_i c v hv
          have := length_lt_of_skipSpace hv
          split at h
          · have := length_skipValue h
            omega
          · cases h
    · cases h
  termination_by s.length

end

end FrameTap.Json
