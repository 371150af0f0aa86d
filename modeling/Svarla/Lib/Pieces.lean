import Mathlib

/-!
# Cutting a list into pieces of bounded cost

A list is cut into at most `n` pieces that each cost at most `m` (`Cuts`). Whoever takes pieces off the
front and makes each as long as it gets needs no more of them than anyone (`Cuts.of_full`).
-/

namespace Svarla.Lib

variable {α : Type*} {cost : α → Nat} {m n : Nat}

/-- What a piece costs. -/
def pieceCost (cost : α → Nat) (piece : List α) : Nat := (piece.map cost).sum

@[simp] theorem pieceCost_nil : pieceCost cost [] = 0 := rfl

@[simp] theorem pieceCost_cons (x : α) (xs : List α) :
    pieceCost cost (x :: xs) = cost x + pieceCost cost xs := by
  rw [pieceCost, pieceCost, List.map_cons, List.sum_cons]

@[simp] theorem pieceCost_append (xs ys : List α) :
    pieceCost cost (xs ++ ys) = pieceCost cost xs + pieceCost cost ys := by
  rw [pieceCost, List.map_append, List.sum_append]
  rfl

/-- At most `n` pieces of cost at most `m`. -/
def Cuts (cost : α → Nat) (m n : Nat) (xs : List α) : Prop :=
  ∃ pieces : List (List α), pieces.flatten = xs ∧ pieces.length ≤ n ∧
    ∀ piece ∈ pieces, pieceCost cost piece ≤ m

theorem Cuts.nil : Cuts cost m n [] := ⟨[], rfl, Nat.zero_le _, nofun⟩

/-- Something is cut into one piece at least. -/
theorem Cuts.pos {xs : List α} (h : Cuts cost m n xs) (hne : xs ≠ []) : 0 < n := by
  obtain ⟨pieces, rfl, hlength, -⟩ := h
  cases pieces with
  | nil => exact absurd rfl hne
  | cons => exact Nat.lt_of_lt_of_le (Nat.succ_pos _) hlength

/-- All pieces together. -/
theorem Cuts.cost_le {xs : List α} (h : Cuts cost m n xs) : pieceCost cost xs ≤ n * m := by
  obtain ⟨pieces, rfl, hlength, hfit⟩ := h
  refine Nat.le_trans ?_ (Nat.mul_le_mul_right m hlength)
  clear hlength
  induction pieces with
  | nil => exact Nat.zero_le _
  | cons piece pieces ih =>
    have hrest := ih fun p hp => hfit p (List.mem_cons_of_mem _ hp)
    have hpiece := hfit piece List.mem_cons_self
    rw [List.flatten_cons, pieceCost_append, List.length_cons, Nat.add_mul]
    omega

theorem Cuts.tail {x : α} {xs : List α} (h : Cuts cost m n (x :: xs)) : Cuts cost m n xs := by
  obtain ⟨pieces, hflat, hlength, hfit⟩ := h
  induction pieces generalizing n with
  | nil => cases hflat
  | cons piece pieces ih =>
    cases piece with
    | nil =>
      rw [List.length_cons] at hlength
      obtain ⟨pieces', hflat', hlength', hfit'⟩ := ih (n := pieces.length) hflat (Nat.le_refl _)
        fun p hp => hfit p (List.mem_cons_of_mem _ hp)
      exact ⟨pieces', hflat', by omega, hfit'⟩
    | cons y piece =>
      rw [List.flatten_cons, List.cons_append] at hflat
      obtain ⟨rfl, rfl⟩ := List.cons.inj hflat
      refine ⟨piece :: pieces, rfl, hlength, fun p hp => ?_⟩
      obtain rfl | hp := List.mem_cons.mp hp
      · have hpiece := hfit _ List.mem_cons_self
        rw [pieceCost_cons] at hpiece
        exact Nat.le_trans (Nat.le_add_left _ _) hpiece
      · exact hfit p (List.mem_cons_of_mem _ hp)

theorem Cuts.of_append {xs ys : List α} (h : Cuts cost m n (xs ++ ys)) : Cuts cost m n ys := by
  induction xs with
  | nil => exact h
  | cons x xs ih => exact ih h.tail

/-- **The longest piece.** Where the front cannot be longer, the rest takes a piece less. -/
theorem Cuts.of_full {front back : List α} (h : Cuts cost m n (front ++ back))
    (hfull : ∀ x rest, back = x :: rest → m < pieceCost cost front + cost x) :
    Cuts cost m (n - 1) back := by
  obtain ⟨pieces, hflat, hlength, hfit⟩ := h
  cases pieces with
  | nil =>
    obtain ⟨-, rfl⟩ := List.append_eq_nil_iff.mp hflat.symm
    exact .nil
  | cons piece pieces =>
    have hrest : Cuts cost m (n - 1) pieces.flatten := by
      rw [List.length_cons] at hlength
      exact ⟨pieces, rfl, by omega, fun p hp => hfit p (List.mem_cons_of_mem _ hp)⟩
    rw [List.flatten_cons] at hflat
    obtain ⟨more, rfl, hmore⟩ | ⟨more, rfl, hmore⟩ := List.append_eq_append_iff.mp hflat
    · exact (hmore ▸ hrest).of_append
    · cases more with
      | nil =>
        rw [hmore, List.nil_append]
        exact hrest
      | cons x more =>
        -- the first piece would be longer than the front
        have hpiece := hfit _ List.mem_cons_self
        have hlt := hfull x _ hmore
        rw [pieceCost_append, pieceCost_cons] at hpiece
        omega

end Svarla.Lib
