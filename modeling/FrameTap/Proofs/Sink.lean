import FrameTap.Sink

/-!
# What a sink holds after it was written to

Whatever a sink's timetable is, a write adds to its content the part of the bytes that it
has room for, and the write is complete exactly when that part is all of them.

`Took s s' bytes` says that calls which took `bytes` lead from `s` to `s'`.  Every operation
has one such lemma, and what the content, the size and the gain are follows from it.
-/

namespace FrameTap.Sink

variable {s s' s'' : Sink} {bytes more : Bytes}

/-! ## Room -/

/-- There is room for all of the bytes. -/
def Fits (s : Sink) (bytes : Bytes) : Prop := s.fitting bytes = bytes

instance (s : Sink) (bytes : Bytes) : Decidable (s.Fits bytes) :=
  inferInstanceAs (Decidable (_ = _))

/-- What fits is a beginning of the bytes, whose length the room alone decides. -/
theorem exists_fitting_eq_take (s : Sink) (n : Nat) :
    ∃ room, ∀ bytes : Bytes, bytes.length ≤ n → s.fitting bytes = bytes.take room := by
  cases hc : s.capacity with
  | none =>
    refine ⟨n, fun bytes hn => ?_⟩
    rw [List.take_of_length_le hn, fitting, hc]
  | some capacity =>
    refine ⟨capacity - s.size, fun bytes _ => ?_⟩
    rw [fitting, hc]

theorem fitting_nil (s : Sink) : s.fitting [] = [] := by
  obtain ⟨room, h⟩ := s.exists_fitting_eq_take 0
  rw [h [] (Nat.le_refl 0), List.take_nil]

theorem fits_nil (s : Sink) : s.Fits [] := s.fitting_nil

theorem fitting_fitting (s : Sink) (bytes : Bytes) : s.Fits (s.fitting bytes) := by
  obtain ⟨room, h⟩ := s.exists_fitting_eq_take bytes.length
  have hle : (s.fitting bytes).length ≤ bytes.length := by
    rw [h bytes (Nat.le_refl _)]
    exact List.length_take_le' _ _
  show s.fitting (s.fitting bytes) = s.fitting bytes
  rw [h _ hle, h bytes (Nat.le_refl _), List.take_take, Nat.min_self]

/-- Bytes behind those that do not fit change nothing. -/
theorem fitting_append_of_not_fits (h : ¬ s.Fits bytes) :
    s.fitting (bytes ++ more) = s.fitting bytes := by
  obtain ⟨room, hr⟩ := s.exists_fitting_eq_take (bytes ++ more).length
  have hb := hr bytes (by simp)
  have hlt : room < bytes.length := by
    refine Nat.lt_of_not_le fun hle => h ?_
    rw [Fits, hb, List.take_of_length_le hle]
  rw [hr _ (Nat.le_refl _), hb, List.take_append_of_le_length (Nat.le_of_lt hlt)]

theorem fits_of_fits_append (h : s.Fits (bytes ++ more)) : s.Fits bytes := by
  refine Decidable.byContradiction fun hn => hn ?_
  have he : s.fitting (bytes ++ more) = s.fitting bytes := fitting_append_of_not_fits hn
  have hlen := congrArg List.length (h.symm.trans he)
  obtain ⟨room, hr⟩ := s.exists_fitting_eq_take bytes.length
  have hb := hr bytes (Nat.le_refl _)
  rw [hb, List.length_append, List.length_take] at hlen
  rw [Fits, hb, List.take_of_length_le (by omega)]

/-- Against a capacity, bytes fit where the sizes add up to no more. -/
theorem fits_iff_of_capacity {capacity : Nat} (h : s.capacity = some capacity) :
    s.Fits bytes ↔ bytes.length ≤ capacity - s.size := by
  rw [Fits, fitting, h]
  constructor
  · intro he
    rw [← he]
    exact List.length_take_le _ _
  · exact List.take_of_length_le

/-- The room is a matter of the capacity and the size alone. -/
theorem fitting_congr (hc : s.capacity = s'.capacity) (hs : s.size = s'.size) (bytes : Bytes) :
    s.fitting bytes = s'.fitting bytes := by
  rw [fitting, fitting, hc, hs]

theorem fits_of_no_capacity (h : s.capacity = none) : s.Fits bytes := by
  rw [Fits, fitting, h]

/-- Once what fits of some bytes has been taken, the room is what is left behind them. -/
theorem fitting_append (hc : s'.capacity = s.capacity)
    (hs : s'.size = s.size + (s.fitting bytes).length) (more : Bytes) :
    s.fitting (bytes ++ more) = s.fitting bytes ++ s'.fitting more := by
  cases hcap : s.capacity with
  | none =>
    rw [fits_of_no_capacity hcap, fits_of_no_capacity hcap,
      fits_of_no_capacity (hc.trans hcap)]
  | some capacity =>
    simp only [fitting, hc, hcap] at hs ⊢
    rw [List.length_take] at hs
    have hroom : capacity - s'.size = capacity - s.size - bytes.length := by omega
    rw [List.take_append, hroom]

/-- A full sink stays full. -/
theorem fits_append_iff (hc : s'.capacity = s.capacity)
    (hs : s'.size = s.size + (s.fitting bytes).length) (hm : more ≠ []) :
    s.Fits (bytes ++ more) ↔ s'.Fits more := by
  have ha := fitting_append hc hs more
  constructor
  · intro h
    have hb := fits_of_fits_append h
    rw [Fits, ha, hb, List.append_right_inj] at h
    exact h
  · intro h
    refine Decidable.byContradiction fun hn => hm ?_
    have hb : ¬ s.Fits bytes := by
      intro hb
      refine hn ?_
      rw [Fits, ha, hb, h]
    have hnone := ha.symm.trans (fitting_append_of_not_fits hb)
    rw [List.append_right_eq_self] at hnone
    exact h.symm.trans hnone

/-! ## Calls that took bytes -/

/-- Calls that took `bytes` lead from `s` to `s'`.  They leave the capacity, the faults and
the timetable as they are and flush nothing. -/
structure Took (s s' : Sink) (bytes : Bytes) : Prop where
  capacity : s'.capacity = s.capacity
  whenFull : s'.whenFull = s.whenFull
  turns : s'.turns = s.turns
  flushFault : s'.flushFault = s.flushFault
  flushes : s'.flushes = s.flushes
  taken : ∃ pieces, s'.taken = pieces ++ s.taken ∧ pieces.reverse.flatten = bytes

namespace Took

theorem refl (s : Sink) : Took s s [] := ⟨rfl, rfl, rfl, rfl, rfl, [], rfl, rfl⟩

theorem trans (h : Took s s' bytes) (h' : Took s' s'' more) : Took s s'' (bytes ++ more) := by
  obtain ⟨pieces, ht, hp⟩ := h.taken
  obtain ⟨pieces', ht', hp'⟩ := h'.taken
  refine ⟨h'.capacity.trans h.capacity, h'.whenFull.trans h.whenFull, h'.turns.trans h.turns,
    h'.flushFault.trans h.flushFault, h'.flushes.trans h.flushes, pieces' ++ pieces, ?_, ?_⟩
  · rw [ht', ht, List.append_assoc]
  · rw [List.reverse_append, List.flatten_append, hp, hp']

theorem content (h : Took s s' bytes) : s'.content = s.content ++ bytes := by
  obtain ⟨pieces, ht, hp⟩ := h.taken
  rw [Sink.content, ht, List.reverse_append, List.flatten_append, hp]
  rfl

theorem size (h : Took s s' bytes) : s'.size = s.size + bytes.length := by
  rw [← s'.length_content, h.content, List.length_append, s.length_content]

/-- After bytes for which there was room, what fits of others is what fitted behind them. -/
theorem fitting_append (h : Took s s' bytes) (hf : s.Fits bytes) (more : Bytes) :
    s.fitting (bytes ++ more) = bytes ++ s'.fitting more := by
  have hs : s'.size = s.size + (s.fitting bytes).length := by
    rw [hf]
    exact h.size
  rw [Sink.fitting_append h.capacity hs, hf]

/-- There is room for both where there is room for the second behind the first. -/
theorem fits_append_iff (h : Took s s' bytes) (hf : s.Fits bytes) :
    s.Fits (bytes ++ more) ↔ s'.Fits more := by
  rw [Fits, h.fitting_append hf, List.append_right_inj]
  rfl

end Took

/-! ## One call -/

/-- A turn allows a beginning of the bytes, and at least one if there is one. -/
theorem exists_allowed_append (t : Turn) {bytes : Bytes} (hb : bytes ≠ []) :
    ∃ rest, t.allowed bytes ++ rest = bytes ∧ t.allowed bytes ≠ [] := by
  cases hm : t.most with
  | none =>
    refine ⟨[], ?_, ?_⟩
    · rw [Turn.allowed, hm, List.append_nil]
    · rwa [Turn.allowed, hm]
  | some n =>
    refine ⟨bytes.drop (max 1 n), ?_, ?_⟩
    · rw [Turn.allowed, hm, List.take_append_drop]
    · rw [Turn.allowed, hm]
      intro he
      rcases List.take_eq_nil_iff.1 he with h | h
      · omega
      · exact hb h

/-- What a call leaves, by its answer: nothing but the timetable moves on, or a beginning of
the bytes was taken, or there was room for none of them. -/
inductive Call (s : Sink) (bytes : Bytes) : Answer → Sink → Prop where
  | interrupted {next : Sink} (h : Took s next []) : Call s bytes .interrupted next
  | took {next : Sink} (b : UInt8) (piece rest : Bytes) (split : b :: piece ++ rest = bytes)
      (fits : s.Fits (b :: piece)) (h : Took s next (b :: piece)) :
      Call s bytes (.took (piece.length + 1)) next
  | tookNothing {next : Sink} (full : s.fitting bytes = []) (h : Took s next []) :
      Call s bytes (.took 0) next
  | failed {next : Sink} (fault : WriteFault) (full : s.fitting bytes = [])
      (h : Took s next []) : Call s bytes (.failed fault) next

theorem write_call (s : Sink) {bytes : Bytes} (hb : bytes ≠ []) :
    Call s bytes (s.write bytes).1 (s.write bytes).2 := by
  have idle (turn interrupted : Nat) :
      Took s { s with turn := turn, interrupted := interrupted } [] :=
    ⟨rfl, rfl, rfl, rfl, rfl, [], rfl, rfl⟩
  obtain ⟨rest, hrest, hne⟩ := exists_allowed_append (s.turns s.turn) hb
  rw [write]
  split
  · exact .interrupted (idle s.turn (s.interrupted + 1))
  · dsimp only
    split
    · rename_i hfull
      -- Not even the part that the turn allows fits, so nothing does.
      have hnot : ¬ s.Fits ((s.turns s.turn).allowed bytes) := by
        intro h
        exact hne (h.symm.trans hfull)
      have hnone : s.fitting bytes = [] := by
        rw [← hrest, fitting_append_of_not_fits hnot, hfull]
      split
      · exact .tookNothing hnone (idle _ _)
      · exact .failed _ hnone (idle _ _)
    · rename_i b piece hpiece
      obtain ⟨room, hroom⟩ := s.exists_fitting_eq_take ((s.turns s.turn).allowed bytes).length
      have hsplit := List.take_append_drop room ((s.turns s.turn).allowed bytes)
      rw [← hroom _ (Nat.le_refl _), hpiece] at hsplit
      refine .took b piece (((s.turns s.turn).allowed bytes).drop room ++ rest) ?_ ?_ ?_
      · rw [← List.append_assoc, hsplit, hrest]
      · rw [← hpiece]
        exact s.fitting_fitting _
      · exact ⟨rfl, rfl, rfl, rfl, rfl, [b :: piece], rfl, by simp⟩

/-! ## Writing -/

/-- A write takes the bytes that fit, and is complete where all of them do. -/
structure Written (s : Sink) (bytes : Bytes) (w : Writing) : Prop where
  took : Took s w.sink (s.fitting bytes)
  complete : w.fault = none ↔ s.Fits bytes

theorem Written.of_full {fault : WriteFault} (hne : bytes ≠ []) (full : s.fitting bytes = [])
    (h : Took s s' []) : Written s bytes ⟨s', some fault⟩ := by
  refine ⟨by rwa [full], iff_of_false (by simp) fun hf => hne ?_⟩
  exact hf.symm.trans full

/-- What is done behind bytes that were taken is a part of the whole write. -/
theorem Written.append {w : Writing} (h : Took s s' bytes) (hf : s.Fits bytes)
    (hw : Written s' more w) : Written s (bytes ++ more) w := by
  refine ⟨?_, hw.complete.trans (h.fits_append_iff hf).symm⟩
  rw [h.fitting_append hf]
  exact h.trans hw.took

theorem Written.nil (s : Sink) : Written s [] ⟨s, none⟩ := by
  refine ⟨?_, iff_of_true rfl s.fits_nil⟩
  rw [fitting_nil]
  exact .refl s

theorem writeAll_written (s : Sink) (bytes : Bytes) : Written s bytes (s.writeAll bytes) := by
  fun_induction writeAll s bytes with
  | case1 s => exact .nil s
  | case2 s b bytes next answer ih =>
    have hc := s.write_call (List.cons_ne_nil b bytes)
    rw [answer] at hc
    cases hc with
    | interrupted h => exact Written.append h s.fits_nil ih
  | case3 s b bytes next answer =>
    have hc := s.write_call (List.cons_ne_nil b bytes)
    rw [answer] at hc
    cases hc with
    | tookNothing full h => exact .of_full (List.cons_ne_nil b bytes) full h
  | case4 s b bytes n next answer ih =>
    have hc := s.write_call (List.cons_ne_nil b bytes)
    rw [answer] at hc
    cases hc with
    | took b piece rest split fits h =>
      obtain ⟨rfl, rfl⟩ := List.cons.inj split
      have hrest : List.drop piece.length (List.append piece rest) = rest := List.drop_left
      rw [hrest] at ih ⊢
      exact Written.append h fits ih
  | case5 s b bytes fault next answer =>
    have hc := s.write_call (List.cons_ne_nil b bytes)
    rw [answer] at hc
    cases hc with
    | failed _ full h => exact .of_full (List.cons_ne_nil b bytes) full h

/-- Pieces are written as all of them at once would be. -/
theorem writePieces_written (s : Sink) (pieces : List Bytes) :
    Written s pieces.flatten (s.writePieces pieces) := by
  induction pieces generalizing s with
  | nil => exact .nil s
  | cons piece pieces ih =>
    have hw := s.writeAll_written piece
    rw [writePieces, List.flatten_cons]
    split
    · rename_i next heq
      rw [heq] at hw
      have hf := hw.complete.1 rfl
      have ht := hw.took
      rw [hf] at ht
      exact Written.append ht hf (ih next)
    · rename_i stopped hstop
      have hn : ¬ s.Fits piece := by
        intro hf
        refine hstop (s.writeAll piece).sink ?_
        rw [← hw.complete.2 hf]
      refine ⟨?_, iff_of_false ?_ ?_⟩
      · rw [fitting_append_of_not_fits hn]
        exact hw.took
      · intro h
        exact hn (hw.complete.1 h)
      · intro h
        exact hn (fits_of_fits_append h)

/-! ## What was gained -/

theorem flatten_piecesOf (pieces taken : List Bytes) :
    (piecesOf pieces.flatten.length (pieces ++ taken)).reverse.flatten = pieces.reverse.flatten := by
  induction pieces with
  | nil => cases taken <;> rfl
  | cons piece pieces ih =>
    rw [List.cons_append, piecesOf]
    split
    · rename_i h
      simp only [List.flatten_cons, List.length_append, Nat.add_eq_zero_iff,
        List.length_eq_zero_iff] at h
      have hp : pieces.reverse.flatten = [] := by
        simpa using h.2
      rw [List.reverse_cons, List.flatten_append, hp, h.1]
      rfl
    · rw [List.flatten_cons, List.length_append, Nat.add_sub_cancel_left, List.reverse_cons,
        List.flatten_append, ih, List.reverse_cons, List.flatten_append]

theorem Took.gained (h : Took s s' bytes) : Sink.gained s s' = bytes := by
  obtain ⟨pieces, ht, hp⟩ := h.taken
  have hn : s'.size - s.size = pieces.flatten.length := by
    rw [h.size, Nat.add_sub_cancel_left, ← hp, List.length_flatten, List.length_flatten,
      List.map_reverse, List.sum_reverse]
  rw [Sink.gained, hn, ht, flatten_piecesOf, hp]

end FrameTap.Sink
