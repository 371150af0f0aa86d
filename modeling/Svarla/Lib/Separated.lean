import Mathlib

/-!
# Texts joined by a separator

A key such as `a|12|3/4` can be taken apart again where the fields around a separator do not contain
it: at the first separator if the front has none, at the last if the back has none. Numbers contain
no separator but a minus sign, and are determined by their digits.
-/

namespace Svarla.Lib.Separated

variable {α : Type*}

/-- Two texts with a separator agree on both sides of the last one. -/
theorem append_cons_inj_right {sep : α} {x x' y y' : List α} (hy : sep ∉ y) (hy' : sep ∉ y')
    (h : x ++ sep :: y = x' ++ sep :: y') : x = x' ∧ y = y' := by
  rcases List.append_eq_append_iff.mp h with ⟨mid, rfl, hmid⟩ | ⟨mid, rfl, hmid⟩ <;>
    cases mid with
    | nil => simpa [eq_comm] using hmid
    | cons a mid =>
      -- the other separator would lie behind this one
      obtain ⟨-, rfl⟩ := List.cons.inj hmid
      simp at hy hy'

/-- Two texts with a separator agree on both sides of the first one. -/
theorem append_cons_inj_left {sep : α} {x x' y y' : List α} (hx : sep ∉ x) (hx' : sep ∉ x')
    (h : x ++ sep :: y = x' ++ sep :: y') : x = x' ∧ y = y' := by
  have hrev := congrArg List.reverse h
  simp only [List.reverse_append, List.reverse_cons, List.append_assoc, List.singleton_append] at hrev
  obtain ⟨hy, hx⟩ := append_cons_inj_right (by simpa using hx) (by simpa using hx') hrev
  exact ⟨List.reverse_injective hx, List.reverse_injective hy⟩

/-- Two texts with a separator agree on both sides of it, or one front reaches into the other's
back. -/
theorem append_cons_eq_append_cons_iff {sep : α} {x x' y y' : List α} :
    x ++ sep :: y = x' ++ sep :: y' ↔ x = x' ∧ y = y' ∨
      (∃ mid, x' = x ++ sep :: mid ∧ y = mid ++ sep :: y') ∨
      ∃ mid, x = x' ++ sep :: mid ∧ y' = mid ++ sep :: y := by
  constructor
  · intro h
    rcases List.append_eq_append_iff.mp h with ⟨mid, rfl, hmid⟩ | ⟨mid, rfl, hmid⟩ <;>
      cases mid with
      | nil => exact .inl (by simpa [eq_comm] using hmid)
      | cons a mid =>
        obtain ⟨rfl, rfl⟩ := List.cons.inj hmid
        first
        | exact .inr (.inl ⟨mid, rfl, rfl⟩)
        | exact .inr (.inr ⟨mid, rfl, rfl⟩)
  · rintro (⟨rfl, rfl⟩ | ⟨mid, rfl, rfl⟩ | ⟨mid, rfl, rfl⟩) <;> simp

/-- Where the field behind the first front has no separator, the other front reaches over it. -/
theorem exists_mid_iff {sep : α} {x x' n y y' : List α} (hn : sep ∉ n) :
    (∃ mid, x' = x ++ sep :: mid ∧ n ++ sep :: y = mid ++ sep :: y') ↔
      x' = x ++ sep :: n ∧ y = y' ∨
        ∃ mid, x' = x ++ sep :: (n ++ sep :: mid) ∧ y = mid ++ sep :: y' := by
  constructor
  · rintro ⟨mid, rfl, h⟩
    rcases append_cons_eq_append_cons_iff.mp h with ⟨rfl, rfl⟩ | ⟨mid', rfl, rfl⟩ | ⟨mid', rfl, -⟩
    · exact .inl ⟨rfl, rfl⟩
    · exact .inr ⟨mid', rfl, rfl⟩
    · simp at hn
  · rintro (⟨rfl, rfl⟩ | ⟨mid, rfl, rfl⟩)
    · exact ⟨n, rfl, rfl⟩
    · exact ⟨n ++ sep :: mid, rfl, by simp⟩

/-- A character of a printed number is a digit or the sign. -/
theorem mem_repr {n : Int} {c : Char} (h : c ∈ n.repr.toList) : c.isDigit = true ∨ c = '-' := by
  have hnat : ∀ (m : Nat) (c : Char), c ∈ m.repr.toList → c.isDigit = true := by
    intro m c hc
    rw [Nat.toList_repr] at hc
    exact Nat.isDigit_of_mem_toDigits (by decide) (by decide) hc
  rw [Int.repr_eq_if] at h
  split at h
  · exact .inl (hnat _ c h)
  · rw [String.toList_append] at h
    rcases List.mem_append.mp h with h | h
    · exact .inr (by simpa using h)
    · exact .inl (hnat _ c h)

/-- A separator that is no digit and no sign does not occur in a printed number. -/
theorem notMem_repr (sep : Char) (hdigit : sep.isDigit = false) (hsign : sep ≠ '-') (n : Int) :
    sep ∉ n.repr.toList := by
  intro h
  rcases mem_repr h with h | h
  · rw [hdigit] at h
    cases h
  · exact hsign h

end Svarla.Lib.Separated
