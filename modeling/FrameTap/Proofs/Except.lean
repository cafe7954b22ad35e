import FrameTap.Except
import Mathlib.Data.List.Forall2

/-!
# A step for each element of a list

The steps are taken one after the other, and the first that fails ends them.
-/

namespace FrameTap

variable {ε α β : Type}

theorem mapM_eq_ok_iff {f : α → Except ε β} {xs : List α} {ys : List β} :
    xs.mapM f = .ok ys ↔ List.Forall₂ (fun x y => f x = .ok y) xs ys := by
  induction xs generalizing ys with
  | nil =>
    rw [List.mapM_nil, List.forall₂_nil_left_iff]
    constructor
    · intro h
      cases h
      rfl
    · rintro rfl
      rfl
  | cons x xs ih =>
    rw [List.mapM_cons, List.forall₂_cons_left_iff, bind_eq_ok_iff]
    constructor
    · rintro ⟨y, hy, h⟩
      obtain ⟨ys', hys', h⟩ := bind_eq_ok_iff.1 h
      cases h
      exact ⟨y, ys', hy, ih.1 hys', rfl⟩
    · rintro ⟨y, ys', hy, hys', rfl⟩
      exact ⟨y, hy, bind_eq_ok_iff.2 ⟨ys', ih.2 hys', rfl⟩⟩

/-- The first step that fails decides about the error. -/
theorem mapM_eq_error_iff {f : α → Except ε β} {xs : List α} {e : ε} :
    xs.mapM f = .error e ↔
      ∃ earlier x later, xs = earlier ++ x :: later ∧ (∀ y ∈ earlier, ∃ b, f y = .ok b) ∧
        f x = .error e := by
  constructor
  · intro h
    induction xs with
    | nil => cases h
    | cons x xs ih =>
      rw [List.mapM_cons] at h
      cases hx : f x with
      | error e' =>
        rw [hx, error_bind] at h
        cases h
        exact ⟨[], x, xs, rfl, List.forall_mem_nil _, hx⟩
      | ok b =>
        rw [hx, ok_bind] at h
        cases hrest : xs.mapM f with
        | error e' =>
          rw [hrest, error_bind] at h
          cases h
          obtain ⟨earlier, x', later, heq, hearlier, hx'⟩ := ih hrest
          exact ⟨x :: earlier, x', later, congrArg (x :: ·) heq,
            List.forall_mem_cons.2 ⟨⟨b, hx⟩, hearlier⟩, hx'⟩
        | ok bs =>
          rw [hrest] at h
          cases h
  · rintro ⟨earlier, x, later, rfl, hearlier, hx⟩
    induction earlier with
    | nil => rw [List.nil_append, List.mapM_cons, hx, error_bind]
    | cons y earlier ih =>
      obtain ⟨⟨b, hb⟩, hrest⟩ := List.forall_mem_cons.1 hearlier
      rw [List.cons_append, List.mapM_cons, hb, ok_bind, ih hrest, error_bind]

theorem mapM_singleton_eq_ok_iff {f : α → Except ε β} {x : α} {ys : List β} :
    [x].mapM f = .ok ys ↔ ∃ y, f x = .ok y ∧ ys = [y] := by
  rw [mapM_eq_ok_iff, List.forall₂_cons_left_iff]
  simp only [List.forall₂_nil_left_iff]
  constructor
  · rintro ⟨y, _, hy, rfl, rfl⟩
    exact ⟨y, hy, rfl⟩
  · rintro ⟨y, hy, rfl⟩
    exact ⟨y, [], hy, rfl, rfl⟩

theorem mapM_append_eq_ok {f : α → Except ε β} {xs xs' : List α} {ys ys' : List β}
    (h : xs.mapM f = .ok ys) (h' : xs'.mapM f = .ok ys') :
    (xs ++ xs').mapM f = .ok (ys ++ ys') :=
  mapM_eq_ok_iff.2 (List.rel_append (mapM_eq_ok_iff.1 h) (mapM_eq_ok_iff.1 h'))

/-- Where no step fails there is a result. -/
theorem exists_mapM_eq_ok {f : α → Except ε β} {xs : List α} (h : ∀ x ∈ xs, ∃ y, f x = .ok y) :
    ∃ ys, xs.mapM f = .ok ys := by
  cases hmap : xs.mapM f with
  | ok ys => exact ⟨ys, rfl⟩
  | error e =>
    obtain ⟨earlier, x, later, rfl, -, hx⟩ := mapM_eq_error_iff.1 hmap
    obtain ⟨y, hy⟩ := h x (List.mem_append_right earlier List.mem_cons_self)
    rw [hx] at hy
    cases hy

theorem ne_nil_of_mapM {f : α → Except ε β} {xs : List α} {ys : List β} (h : xs.mapM f = .ok ys)
    (hne : xs ≠ []) : ys ≠ [] := by
  rintro rfl
  exact hne (List.forall₂_nil_right_iff.1 (mapM_eq_ok_iff.1 h))

theorem forall_mem_of_mapM {f : α → Except ε β} {xs : List α} {ys : List β} {P : β → Prop}
    (h : xs.mapM f = .ok ys) (hP : ∀ x y, f x = .ok y → P y) : ∀ y ∈ ys, P y := by
  have hall := mapM_eq_ok_iff.1 h
  clear h
  induction hall with
  | nil => exact List.forall_mem_nil _
  | cons hy _ ih => exact List.forall_mem_cons.2 ⟨hP _ _ hy, ih⟩

theorem mapM_map_eq_ok {f : α → Except ε β} {g : β → α} {ys : List β}
    (h : ∀ y ∈ ys, f (g y) = .ok y) : (ys.map g).mapM f = .ok ys := by
  induction ys with
  | nil => rfl
  | cons y ys ih =>
    rw [List.map_cons, List.mapM_cons, h y List.mem_cons_self, ok_bind,
      ih fun y' hy' => h y' (List.mem_cons_of_mem y hy')]
    rfl

end FrameTap
