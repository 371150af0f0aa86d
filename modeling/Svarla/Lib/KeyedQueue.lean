import Mathlib.Data.List.Nodup

/-!
# Bounded keyed queues

The reference behaviour of a bounded first-in first-out queue whose items may carry a key: a push of
a key already present is ignored, any other push appends and keeps the newest `capacity` items, and
an item is deleted by its key. Without a key function the queue is a plain bounded FIFO.

An implementation keeps the items of a queue somewhere else as well. What it needs is here: the
queue never exceeds its capacity, its keys stay distinct, and what a push and a deletion do to the
keys.
-/

namespace Svarla.Lib.KeyedQueue

variable {α κ : Type*} [DecidableEq κ]

/-- The newest `n` items. -/
def newest (n : Nat) (q : List α) : List α := q.drop (q.length - n)

/-- The queue holds an item with the key of `x`. -/
def HasKeyOf (key : Option (α → κ)) (q : List α) (x : α) : Prop :=
  ∃ f ∈ key, ∃ y ∈ q, f y = f x

instance (key : Option (α → κ)) (q : List α) (x : α) : Decidable (HasKeyOf key q x) :=
  match key with
  | none => isFalse fun ⟨_, h, _⟩ => nomatch h
  | some f => decidable_of_iff (∃ y ∈ q, f y = f x)
      ⟨fun h => ⟨f, rfl, h⟩, fun ⟨_, hf, h⟩ => by cases hf; exact h⟩

omit [DecidableEq κ] in
@[simp] theorem hasKeyOf_some {f : α → κ} {q : List α} {x : α} :
    HasKeyOf (some f) q x ↔ ∃ y ∈ q, f y = f x :=
  ⟨fun ⟨_, hf, h⟩ => by cases hf; exact h, fun h => ⟨f, rfl, h⟩⟩

/-- Append an item unless its key is present, and keep the newest items. -/
def push (key : Option (α → κ)) (capacity : Nat) (q : List α) (x : α) : List α :=
  if HasKeyOf key q x then q else newest capacity (q ++ [x])

/-- Delete the item with a key. -/
def remove (key : Option (α → κ)) (q : List α) (k : κ) : List α :=
  match key with
  | none => q
  | some f => q.filter (f · ≠ k)

/-- The keys are distinct. -/
def DistinctKeys (key : Option (α → κ)) (q : List α) : Prop :=
  ∀ f ∈ key, (q.map f).Nodup

theorem length_newest_le (n : Nat) (q : List α) : (newest n q).length ≤ n := by
  unfold newest
  rw [List.length_drop]
  omega

/-- Within the bound nothing is dropped. -/
theorem newest_of_le {n : Nat} {q : List α} (h : q.length ≤ n) : newest n q = q := by
  unfold newest
  rw [Nat.sub_eq_zero_of_le h, List.drop_zero]

/-- What is kept was there. -/
theorem newest_sublist (n : Nat) (q : List α) : (newest n q).Sublist q :=
  List.drop_sublist _ q

/-- The newest of a queue with one item appended. -/
theorem newest_concat {n : Nat} (hn : 0 < n) (q : List α) (x : α) :
    newest n (q ++ [x]) = q.drop (q.length + 1 - n) ++ [x] := by
  unfold newest
  rw [List.length_append, List.length_singleton, List.drop_append_of_le_length (by omega)]

omit [DecidableEq κ] in
/-- Distinct keys stay distinct under deletion from either end or between. -/
theorem DistinctKeys.sublist {key : Option (α → κ)} {p q : List α} (h : DistinctKeys key q)
    (hpq : p.Sublist q) : DistinctKeys key p :=
  fun f hf => (h f hf).sublist (hpq.map f)

omit [DecidableEq κ] in
/-- A new key keeps the keys distinct. -/
theorem DistinctKeys.concat {key : Option (α → κ)} {q : List α} {x : α}
    (h : DistinctKeys key q) (hx : ¬ HasKeyOf key q x) : DistinctKeys key (q ++ [x]) := by
  intro f hf
  rw [List.map_append, List.map_singleton]
  refine (h f hf).append (by simp) ?_
  rw [List.disjoint_singleton]
  intro hmem
  obtain ⟨y, hy, hyx⟩ := List.mem_map.mp hmem
  exact hx ⟨f, hf, y, hy, hyx⟩

/-- **Keys stay distinct.** -/
theorem DistinctKeys.push {key : Option (α → κ)} {capacity : Nat} {q : List α} (x : α)
    (h : DistinctKeys key q) : DistinctKeys key (push key capacity q x) := by
  unfold KeyedQueue.push
  split
  · exact h
  · next hx => exact (h.concat hx).sublist (newest_sublist _ _)

theorem DistinctKeys.remove {key : Option (α → κ)} {q : List α} (k : κ)
    (h : DistinctKeys key q) : DistinctKeys key (remove key q k) := by
  unfold KeyedQueue.remove
  split
  · exact h
  · exact h.sublist List.filter_sublist

/-- Under distinct keys, deleting the first item with a key deletes the key. -/
theorem filter_eq_eraseP {f : α → κ} {q : List α} (h : (q.map f).Nodup) (k : κ) :
    q.filter (f · ≠ k) = q.eraseP (f · = k) := by
  induction q with
  | nil => rfl
  | cons x q ih =>
    rw [List.map_cons, List.nodup_cons] at h
    by_cases hx : f x = k
    · -- the rest has no such key
      have hrest : q.filter (f · ≠ k) = q := by
        rw [List.filter_eq_self]
        intro y hy
        simp only [decide_eq_true_eq]
        rintro rfl
        exact h.1 (hx ▸ List.mem_map_of_mem hy)
      rw [List.filter_cons_of_neg (by simpa using hx), List.eraseP_cons_of_pos (by simpa using hx),
        hrest]
    · rw [List.filter_cons_of_pos (by simpa using hx), List.eraseP_cons_of_neg (by simpa using hx),
        ih h.2]

end Svarla.Lib.KeyedQueue
