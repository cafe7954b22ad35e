/-!
# Texts and byte strings

A text is its list of characters and a byte string its list of bytes, so that
every reader and writer of this library is a recursion on a list.  Three cutting
operations serve all of them: taking a known beginning off (`after?`), cutting at
the last separator (`splitLast?`) and cutting at every separator (`cut`).
-/

namespace FrameTap

abbrev Text := List Char

abbrev Bytes := List UInt8

namespace Text

variable {α : Type} [DecidableEq α]

/-- What follows `beginning` in `s`, if `s` begins with it. -/
def after? : (beginning s : List α) → Option (List α)
  | [], s => some s
  | _ :: _, [] => none
  | b :: beginning, c :: s => if b = c then after? beginning s else none

/-- The parts before and after the last `sep`, if there is one. -/
def splitLast? (sep : α) : List α → Option (List α × List α)
  | [] => none
  | c :: s =>
    match splitLast? sep s with
    | some (before, behind) => some (c :: before, behind)
    | none => if c = sep then some ([], s) else none

/-- The pieces between the separators, one more than there are separators.  Empty
pieces count, so the empty list has one piece. -/
def cut (sep : α) : List α → List (List α)
  | [] => [[]]
  | c :: s =>
    if c = sep then [] :: cut sep s
    else
      match cut sep s with
      | [] => [[c]]
      | piece :: pieces => (c :: piece) :: pieces

/-- The text up to its first line break. -/
def firstLine (t : Text) : Text := t.takeWhile (· ≠ '\n')

theorem after?_append (beginning s : List α) : after? beginning (beginning ++ s) = some s := by
  induction beginning with
  | nil => rfl
  | cons b beginning ih => simp [after?, ih]

theorem eq_append_of_after? {beginning s rest : List α} (h : after? beginning s = some rest) :
    s = beginning ++ rest := by
  induction beginning generalizing s with
  | nil => simpa [after?] using h
  | cons b beginning ih =>
    cases s with
    | nil => simp [after?] at h
    | cons c s =>
      by_cases hbc : b = c
      · rw [after?, if_pos hbc] at h
        simp [hbc, ih h]
      · simp [after?, hbc] at h

/-- A beginning is taken off exactly where it stands. -/
theorem after?_eq_some_iff {beginning s rest : List α} :
    after? beginning s = some rest ↔ s = beginning ++ rest :=
  ⟨eq_append_of_after?, fun h => h ▸ after?_append beginning rest⟩

/-- There is no last separator exactly when there is none at all. -/
theorem splitLast?_eq_none_iff {sep : α} {s : List α} : splitLast? sep s = none ↔ sep ∉ s := by
  induction s with
  | nil => simp [splitLast?]
  | cons c s ih =>
    cases hs : splitLast? sep s with
    | some p =>
      have hm : sep ∈ s := by
        refine Decidable.byContradiction fun hn => ?_
        rw [ih.2 hn] at hs
        cases hs
      simp [splitLast?, hs, hm]
    | none =>
      have hn := ih.1 hs
      by_cases hc : c = sep
      · simp [splitLast?, hs, hc]
      · simp [splitLast?, hs, hn, hc, Ne.symm hc]

end Text
end FrameTap
