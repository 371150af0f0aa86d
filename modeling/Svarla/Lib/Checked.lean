import Mathlib.Algebra.Order.Group.Unbundled.Int
import Mathlib.Data.List.Basic
import Mathlib.Tactic.Common
import Mathlib.Tactic.Linarith

/-!
# Arithmetic of a fixed width, and loops over buffers

The operations on integers of 32 bits wrap around (`Arith.wrapping`), or fail where a result does not fit
(`Arith.checked`). Both give the exact result where it fits (`Arith.Exact`), so that what is proved of all
such operations is proved of a program that wraps around and of the same program with its overflows
found.

A loop fails where its body does, and a write where its index is not one of the buffer.
-/

namespace Svarla.Lib

/-! ## Arithmetic -/

/-- An integer has so many bits, with its sign. -/
def Fits (bits : Nat) (n : Int) : Prop := -2 ^ (bits - 1) ≤ n ∧ n < 2 ^ (bits - 1)

instance (bits : Nat) (n : Int) : Decidable (Fits bits n) := inferInstanceAs (Decidable (_ ∧ _))

theorem Fits.bmod {n : Int} (h : Fits 32 n) : n.bmod (2 ^ 32) = n := by
  obtain ⟨hlow, hhigh⟩ := h
  exact Int.bmod_eq_of_le (by omega) (by omega)

/-- The operations on integers of 32 bits, and the conversion to 16 bits. -/
structure Arith where
  add : Int32 → Int32 → Option Int32
  sub : Int32 → Int32 → Option Int32
  mul : Int32 → Int32 → Option Int32
  div : Int32 → Int32 → Option Int32
  narrow : Int32 → Option Int16

namespace Arith

/-- What does not fit is truncated. -/
def wrapping : Arith where
  add a b := some (a + b)
  sub a b := some (a - b)
  mul a b := some (a * b)
  div a b := if b = 0 then none else some (a / b)
  narrow a := some a.toInt16

/-- What does not fit is a failure. -/
def checked : Arith where
  add a b := if Fits 32 (a.toInt + b.toInt) then some (a + b) else none
  sub a b := if Fits 32 (a.toInt - b.toInt) then some (a - b) else none
  mul a b := if Fits 32 (a.toInt * b.toInt) then some (a * b) else none
  div a b := if b ≠ 0 ∧ Fits 32 (a.toInt.tdiv b.toInt) then some (a / b) else none
  narrow a := if Fits 16 a.toInt then some a.toInt16 else none

/-- A result that fits is that of the integers. -/
structure Exact (m : Arith) : Prop where
  add : ∀ {a b : Int32}, Fits 32 (a.toInt + b.toInt) →
    ∃ c, m.add a b = some c ∧ c.toInt = a.toInt + b.toInt
  sub : ∀ {a b : Int32}, Fits 32 (a.toInt - b.toInt) →
    ∃ c, m.sub a b = some c ∧ c.toInt = a.toInt - b.toInt
  mul : ∀ {a b : Int32}, Fits 32 (a.toInt * b.toInt) →
    ∃ c, m.mul a b = some c ∧ c.toInt = a.toInt * b.toInt
  div : ∀ {a b : Int32}, b ≠ 0 → Fits 32 (a.toInt.tdiv b.toInt) →
    ∃ c, m.div a b = some c ∧ c.toInt = a.toInt.tdiv b.toInt
  narrow : ∀ {a : Int32}, Fits 16 a.toInt → ∃ c, m.narrow a = some c ∧ c.toInt = a.toInt

theorem toInt_narrow {a : Int32} (h : Fits 16 a.toInt) : a.toInt16.toInt = a.toInt := by
  obtain ⟨hlow, hhigh⟩ := h
  rw [Int32.toInt_toInt16]
  exact Int.bmod_eq_of_le (by omega) (by omega)

theorem exact_wrapping : wrapping.Exact where
  add h := ⟨_, rfl, by rw [Int32.toInt_add, h.bmod]⟩
  sub h := ⟨_, rfl, by rw [Int32.toInt_sub, h.bmod]⟩
  mul h := ⟨_, rfl, by rw [Int32.toInt_mul, h.bmod]⟩
  div hb h := ⟨_, if_neg hb, by rw [Int32.toInt_div, h.bmod]⟩
  narrow h := ⟨_, rfl, toInt_narrow h⟩

theorem exact_checked : checked.Exact where
  add h := ⟨_, if_pos h, by rw [Int32.toInt_add, h.bmod]⟩
  sub h := ⟨_, if_pos h, by rw [Int32.toInt_sub, h.bmod]⟩
  mul h := ⟨_, if_pos h, by rw [Int32.toInt_mul, h.bmod]⟩
  div hb h := ⟨_, if_pos ⟨hb, h⟩, by rw [Int32.toInt_div, h.bmod]⟩
  narrow h := ⟨_, if_pos h, toInt_narrow h⟩

end Arith

/-- A quotient that is rounded toward zero has the integer bounds of the exact one. -/
theorem tdiv_bounds {x k low high : Int} (hk : 0 < k) (hlow : low * k ≤ x) (hhigh : x ≤ high * k) :
    low ≤ x.tdiv k ∧ x.tdiv k ≤ high := by
  rcases Int.le_total 0 x with hx | hx
  · rw [Int.tdiv_eq_ediv_of_nonneg hx]
    exact ⟨Int.le_ediv_of_mul_le hk hlow, Int.ediv_le_of_le_mul hk hhigh⟩
  · have hneg : x.tdiv k = -((-x) / k) := by
      rw [← Int.tdiv_eq_ediv_of_nonneg (by omega), Int.neg_tdiv, neg_neg]
    have hle : (-x) / k ≤ -low := Int.ediv_le_of_le_mul hk (by rw [Int.neg_mul]; omega)
    have hge : -high ≤ (-x) / k := Int.le_ediv_of_mul_le hk (by rw [Int.neg_mul]; omega)
    rw [hneg]
    omega

/-! ## Loops -/

section
variable {α σ : Type*}

/-- `for i := 0; i < n; i++`. -/
def forLoop : Nat → σ → (σ → Nat → Option σ) → Option σ
  | 0, s, _ => some s
  | n + 1, s, body => (forLoop n s body).bind fun s => body s n

/-- **The invariant rule.** -/
theorem forLoop_invariant {n : Nat} {s : σ} {body : σ → Nat → Option σ} (I : Nat → σ → Prop)
    (hinit : I 0 s) (hbody : ∀ i < n, ∀ s, I i s → ∃ t, body s i = some t ∧ I (i + 1) t) :
    ∃ t, forLoop n s body = some t ∧ I n t := by
  induction n with
  | zero => exact ⟨s, rfl, hinit⟩
  | succ n ih =>
    obtain ⟨t, ht, hI⟩ := ih fun i hi => hbody i (by omega)
    rw [forLoop, ht]
    exact hbody n (by omega) t hI

/-- A write to a buffer. -/
def write (out : List α) (i : Nat) (a : α) : Option (List α) :=
  if i < out.length then some (out.set i a) else none

/-- A buffer of a size is filled with the values of the first indexes. -/
structure Filled (value : Nat → α) (size k : Nat) (out : List α) : Prop where
  length : out.length = size
  value : ∀ i < k, out[i]? = some (value i)

variable {value : Nat → α} {size k : Nat} {out : List α}

theorem Filled.replicate (value : Nat → α) (size : Nat) (a : α) :
    Filled value size 0 (.replicate size a) :=
  ⟨List.length_replicate, fun _ hi => absurd hi (Nat.not_lt_zero _)⟩

/-- The value of the next index is written. -/
theorem Filled.write (h : Filled value size k out) (hk : k < size) :
    ∃ t, write out k (value k) = some t ∧ Filled value size (k + 1) t := by
  have hlength := h.length
  refine ⟨out.set k (value k), if_pos (by omega), by rw [List.length_set, hlength], fun i hi => ?_⟩
  rcases Nat.lt_succ_iff_lt_or_eq.mp hi with hi | rfl
  · rw [List.getElem?_set_ne (by omega), h.value i hi]
  · rw [List.getElem?_set_self (by omega)]

theorem Filled.eq (h : Filled value size size out) : out = (List.range size).map value := by
  refine List.ext_getElem? fun i => ?_
  rw [List.getElem?_map]
  by_cases hi : i < size
  · rw [h.value i hi, List.getElem?_range hi]
    rfl
  · rw [List.getElem?_eq_none (by rw [h.length]; omega), List.getElem?_eq_none (by simp; omega)]
    rfl

/-- A loop that writes a block of values for each index. -/
theorem forLoop_blocks {n block : Nat} {a : α} {body : List α → Nat → Option (List α)}
    (hbody : ∀ i < n, ∀ out, Filled value (n * block) (i * block) out →
      ∃ t, body out i = some t ∧ Filled value (n * block) ((i + 1) * block) t) :
    forLoop n (.replicate (n * block) a) body = some ((List.range (n * block)).map value) := by
  obtain ⟨out, hout, hfilled⟩ := forLoop_invariant (fun i => Filled value (n * block) (i * block))
    (by rw [Nat.zero_mul]; exact .replicate value _ a) hbody
  rw [hout, hfilled.eq]

/-- A loop that writes one value for each index. -/
theorem forLoop_values {n : Nat} {a : α} {body : List α → Nat → Option (List α)}
    (hbody : ∀ i < n, ∀ out, body out i = write out i (value i)) :
    forLoop n (.replicate n a) body = some ((List.range n).map value) := by
  obtain ⟨out, hout, hfilled⟩ := @forLoop_invariant _ n _ body (fun i => Filled value n i)
    (.replicate value n a) fun i hi out hfilled => by
      rw [hbody i hi]
      exact hfilled.write hi
  rw [hout, hfilled.eq]

end

end Svarla.Lib
