import FrameTap.Text.Basic

/-!
# Cutting what was joined

Pieces that do not hold the separator come back when the joined list is cut: at its
last separator, or at every separator, whether it ends each piece or stands between them.
-/

namespace FrameTap.Text

variable {α : Type}

/-- The pieces one after the other, each with the separator behind it. -/
def lines (sep : α) (pieces : List (List α)) : List α := pieces.flatMap (· ++ [sep])

theorem lines_cons (sep : α) (piece : List α) (pieces : List (List α)) :
    lines sep (piece :: pieces) = piece ++ sep :: lines sep pieces := by
  rw [lines, List.flatMap_cons, List.append_assoc, List.singleton_append]
  rfl

theorem lines_append (sep : α) (first second : List (List α)) :
    lines sep (first ++ second) = lines sep first ++ lines sep second :=
  List.flatMap_append

theorem getLast?_lines {sep : α} {pieces : List (List α)} (h : pieces ≠ []) :
    (lines sep pieces).getLast? = some sep := by
  have hsplit : pieces = pieces.dropLast ++ [pieces.getLast h] :=
    (List.dropLast_concat_getLast h).symm
  rw [hsplit, lines_append, lines_cons, List.getLast?_append, List.getLast?_append]
  rfl

/-- Two lists that are equal are cut at the first separator into the same parts. -/
theorem append_cons_inj {sep : α} {first second s t : List α} (hfirst : sep ∉ first)
    (hsecond : sep ∉ second) (h : first ++ sep :: s = second ++ sep :: t) :
    first = second ∧ s = t := by
  induction first generalizing second with
  | nil =>
      cases second with
      | nil => exact ⟨rfl, (List.cons.inj h).2⟩
      | cons c second =>
          rw [(List.cons.inj h).1] at hsecond
          exact absurd List.mem_cons_self hsecond
  | cons c first ih =>
      cases second with
      | nil =>
          rw [(List.cons.inj h).1] at hfirst
          exact absurd List.mem_cons_self hfirst
      | cons d second =>
          obtain ⟨hhead, htail⟩ := List.cons.inj h
          rw [List.mem_cons, not_or] at hfirst hsecond
          obtain ⟨hparts, hrest⟩ := ih hfirst.2 hsecond.2 htail
          exact ⟨by rw [hhead, hparts], hrest⟩

variable [DecidableEq α]

/-! ## At every separator -/

theorem cut_eq_splitOn (sep : α) (s : List α) : cut sep s = s.splitOn sep := by
  induction s with
  | nil => rfl
  | cons c s ih =>
      rw [cut, List.splitOn_cons_eq_if_modifyHead, ih]
      by_cases hc : c = sep
      · simp [hc]
      · cases h : s.splitOn sep with
        | nil => exact absurd h (List.splitOn_ne_nil sep s)
        | cons piece pieces => simp [hc]

theorem cut_append_cons {sep : α} {piece : List α} (h : sep ∉ piece) (s : List α) :
    cut sep (piece ++ sep :: s) = piece :: cut sep s := by
  rw [cut_eq_splitOn, cut_eq_splitOn, List.splitOn_append_cons_self_of_not_mem h]

/-- Pieces with the separator between them come back. -/
theorem cut_intercalate {sep : α} {pieces : List (List α)} (h : ∀ piece ∈ pieces, sep ∉ piece)
    (hne : pieces ≠ []) : cut sep ([sep].intercalate pieces) = pieces := by
  rw [cut_eq_splitOn, List.splitOn_intercalate sep h hne]

theorem cut_of_notMem {sep : α} {s : List α} (h : sep ∉ s) : cut sep s = [s] := by
  have hpieces : ∀ piece ∈ [s], sep ∉ piece := by simpa using h
  have hcut := cut_intercalate hpieces (List.cons_ne_nil s [])
  rwa [List.intercalate_singleton] at hcut

/-- Behind the last separator there is one more piece, which is empty. -/
theorem cut_lines {sep : α} {pieces : List (List α)} (h : ∀ piece ∈ pieces, sep ∉ piece) :
    cut sep (lines sep pieces) = pieces ++ [[]] := by
  induction pieces with
  | nil => rfl
  | cons piece pieces ih =>
      have hfirst := h piece List.mem_cons_self
      have hrest : ∀ p ∈ pieces, sep ∉ p := fun p hp => h p (List.mem_cons_of_mem _ hp)
      rw [lines_cons, cut_append_cons hfirst, ih hrest, List.cons_append]

theorem count_lines {sep : α} {pieces : List (List α)} (h : ∀ piece ∈ pieces, sep ∉ piece) :
    (lines sep pieces).count sep = pieces.length := by
  induction pieces with
  | nil => rfl
  | cons piece pieces ih =>
      have hfirst := h piece List.mem_cons_self
      have hrest : ∀ p ∈ pieces, sep ∉ p := fun p hp => h p (List.mem_cons_of_mem _ hp)
      rw [lines_cons, List.count_append, List.count_cons_self, List.count_eq_zero.2 hfirst,
        ih hrest, List.length_cons, Nat.zero_add]

/-! ## At the last separator -/

theorem splitLast?_append_cons {sep : α} {behind : List α} (h : sep ∉ behind)
    (before : List α) : splitLast? sep (before ++ sep :: behind) = some (before, behind) := by
  induction before with
  | nil =>
      rw [List.nil_append, splitLast?, splitLast?_eq_none_iff.2 h]
      exact if_pos rfl
  | cons c before ih => rw [List.cons_append, splitLast?, ih]

/-- The list is the two parts with the separator between, and it is the last one. -/
theorem splitLast?_eq_some {sep : α} {s before behind : List α}
    (h : splitLast? sep s = some (before, behind)) :
    s = before ++ sep :: behind ∧ sep ∉ behind := by
  induction s generalizing before with
  | nil => cases h
  | cons c s ih =>
      rw [splitLast?] at h
      cases hs : splitLast? sep s with
      | some p =>
          rw [hs] at h
          cases h
          have hp := ih hs
          exact ⟨by rw [hp.1, List.cons_append, ← hp.1], hp.2⟩
      | none =>
          rw [hs] at h
          dsimp only at h
          split at h
          · rename_i hc
            cases h
            exact ⟨by rw [hc, List.nil_append], splitLast?_eq_none_iff.1 hs⟩
          · cases h

end FrameTap.Text
