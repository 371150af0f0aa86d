import Mathlib.Data.List.AList

/-!
# Finite maps of one type of values

Mathlib's association lists without repeated keys, at values of one type, with the two operations a
program needs beside `insert` and `erase`: changing a value where it is (`modify`), and erasing keys by
their values (`keep`, `eraseValue`). Everything about them is said by what `lookup` finds.
-/

namespace Svarla.Lib

/-- A finite map. -/
abbrev Map (K V : Type) := AList fun _ : K => V

namespace Map

variable {K V : Type} [DecidableEq K]

/-- The value of a key becomes another, at its place. -/
def modify (m : Map K V) (k : K) (f : V → V) : Map K V where
  entries := m.entries.map fun e => if e.1 = k then ⟨e.1, f e.2⟩ else e
  nodupKeys := by
    have hkeys : (m.entries.map fun e => if e.1 = k then ⟨e.1, f e.2⟩ else e).keys =
        m.entries.keys := by
      simp only [List.keys, List.map_map]
      refine List.map_congr_left fun e _ => ?_
      simp only [Function.comp_apply]
      split <;> rfl
    rw [List.NodupKeys, hkeys]
    exact m.nodupKeys

/-- The entries that `p` holds of. -/
def keep (m : Map K V) (p : K → V → Bool) : Map K V where
  entries := m.entries.filter fun e => p e.1 e.2
  nodupKeys := m.nodupKeys.sublist List.filter_sublist

/-- Every key with the value `v` is gone. -/
def eraseValue [DecidableEq V] (m : Map K V) (v : V) : Map K V where
  entries := m.entries.filter fun e => e.2 ≠ v
  nodupKeys := m.nodupKeys.sublist List.filter_sublist

theorem lookup_insert (m : Map K V) (k k' : K) (v : V) :
    AList.lookup k' (AList.insert k v m) = if k' = k then some v else AList.lookup k' m := by
  split
  · next h => rw [h, AList.lookup_insert]
  · next h => exact AList.lookup_insert_ne h

theorem lookup_erase (m : Map K V) (k k' : K) :
    AList.lookup k' (AList.erase k m) = if k' = k then none else AList.lookup k' m := by
  split
  · next h => rw [h, AList.lookup_erase]
  · next h => exact AList.lookup_erase_ne h

theorem lookup_modify (m : Map K V) (k k' : K) (f : V → V) :
    (m.modify k f).lookup k' = if k' = k then (m.lookup k').map f else m.lookup k' := by
  obtain ⟨entries, hnodup⟩ := m
  simp only [modify, AList.lookup]
  clear hnodup
  induction entries with
  | nil => simp
  | cons e entries ih =>
    obtain ⟨key, value⟩ := e
    by_cases hkey : key = k' <;> by_cases hk : key = k <;> grind

theorem lookup_keep (m : Map K V) (p : K → V → Bool) (k : K) :
    (m.keep p).lookup k = (m.lookup k).filter (p k) := by
  refine Option.ext fun w => ?_
  rw [Option.filter_eq_some_iff, ← Option.mem_def, ← Option.mem_def, AList.mem_lookup_iff,
    AList.mem_lookup_iff]
  simp [keep, List.mem_filter]

theorem lookup_eraseValue [DecidableEq V] (m : Map K V) (v : V) (k : K) :
    (m.eraseValue v).lookup k = (m.lookup k).filter (· ≠ v) := by
  refine Option.ext fun w => ?_
  rw [Option.filter_eq_some_iff, ← Option.mem_def, ← Option.mem_def, AList.mem_lookup_iff,
    AList.mem_lookup_iff]
  simp [eraseValue, List.mem_filter]

end Map

end Svarla.Lib
