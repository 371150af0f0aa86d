import Mathlib.Algebra.BigOperators.Group.List.Basic
import Mathlib.Algebra.Order.BigOperators.Group.List
import Mathlib.Tactic.Ring

/-!
# Threads

Threads at work in a list: the `i`-th makes a step, and goes on as another thread or ends
(`advance`). What the threads still owe together is the sum of their debts, and a step changes it by
the debt of the one thread that made it (`owed_advance`).
-/

namespace Svarla.Lib

variable {τ : Type*}

/-- The threads after a step of the `i`-th, which goes on as `next` or ends. -/
def advance (threads : List τ) (i : Nat) (next : Option τ) : List τ :=
  match next with
  | none => threads.eraseIdx i
  | some t => threads.set i t

/-- What the threads owe together. -/
def owed (debt : τ → Nat) (threads : List τ) : Nat := (threads.map debt).sum

@[simp] theorem owed_nil (debt : τ → Nat) : owed debt [] = 0 := rfl

@[simp] theorem owed_cons (debt : τ → Nat) (t : τ) (threads : List τ) :
    owed debt (t :: threads) = debt t + owed debt threads := by
  rw [owed, owed, List.map_cons, List.sum_cons]

@[simp] theorem owed_concat (debt : τ → Nat) (threads : List τ) (t : τ) :
    owed debt (threads ++ [t]) = owed debt threads + debt t := by
  rw [owed, owed, List.map_append, List.sum_append, List.map_singleton, List.sum_singleton]

/-- A thread's own debt is part of what is owed. -/
theorem le_owed_of_mem {threads : List τ} {t : τ} (ht : t ∈ threads) (debt : τ → Nat) :
    debt t ≤ owed debt threads :=
  List.le_sum_of_mem (List.mem_map_of_mem ht)

/-- A thread after the step is an old one, or the one that goes on. -/
theorem mem_advance {threads : List τ} {i : Nat} {next : Option τ} {t : τ}
    (h : t ∈ advance threads i next) : t ∈ threads ∨ next = some t := by
  cases next with
  | none => exact .inl (List.mem_of_mem_eraseIdx h)
  | some u => exact (List.mem_or_eq_of_mem_set h).imp_right fun ht => congrArg some ht.symm

/-- A thread after the step is the one that goes on, or one of the others. -/
theorem mem_others_of_mem_advance {threads : List τ} {i : Nat} {next : Option τ} {t : τ}
    (h : t ∈ advance threads i next) : next = some t ∨ t ∈ threads.eraseIdx i := by
  cases next with
  | none => exact .inr h
  | some u =>
    obtain ⟨j, hj⟩ := List.mem_iff_getElem?.mp h
    by_cases hij : i = j
    · subst hij
      obtain ⟨_, _, ht⟩ := Option.map_eq_some_iff.mp (List.getElem?_set_self'.symm.trans hj)
      exact .inl (congrArg some ht)
    · exact .inr (List.mem_eraseIdx_iff_getElem?.mpr
        ⟨j, Ne.symm hij, (List.getElem?_set_ne hij).symm.trans hj⟩)

/-- Two lists that go along with each other. -/
theorem length_advance {υ : Type*} {xs : List τ} {ys : List υ} (hlength : xs.length = ys.length)
    (i : Nat) {x : Option τ} {y : Option υ} (hnext : x.isSome = y.isSome) :
    (advance xs i x).length = (advance ys i y).length := by
  cases x <;> cases y
  · rw [advance, advance, List.length_eraseIdx, List.length_eraseIdx, hlength]
  · cases hnext
  · cases hnext
  · rw [advance, advance, List.length_set, List.length_set, hlength]

/-- A thread that made no step is still there. -/
theorem mem_advance_of_ne {threads : List τ} {i : Nat} {t u : τ} (ht : threads[i]? = some t)
    (next : Option τ) (hu : u ∈ threads) (hne : u ≠ t) : u ∈ advance threads i next := by
  obtain ⟨j, hj⟩ := List.mem_iff_getElem?.mp hu
  have hij : i ≠ j := by
    rintro rfl
    exact hne (Option.some.inj (hj.symm.trans ht))
  cases next with
  | none => exact List.mem_eraseIdx_iff_getElem?.mpr ⟨j, hij.symm, hj⟩
  | some v => exact List.mem_iff_getElem?.mpr ⟨j, (List.getElem?_set_ne hij).trans hj⟩

/-- The thread that goes on is there. -/
theorem mem_advance_next {threads : List τ} {i : Nat} {t u : τ} (ht : threads[i]? = some t) :
    u ∈ advance threads i (some u) :=
  List.mem_set (List.getElem?_eq_some_iff.mp ht).1 u

/-- A thread after one was set is that one, or one that was there. -/
theorem of_getElem?_set {threads : List τ} {i j : Nat} {t u : τ}
    (h : (threads.set i t)[j]? = some u) : j = i ∧ u = t ∨ j ≠ i ∧ threads[j]? = some u := by
  by_cases hij : i = j
  · subst hij
    obtain ⟨_, _, hu⟩ := Option.map_eq_some_iff.mp (List.getElem?_set_self'.symm.trans h)
    exact .inl ⟨rfl, hu.symm⟩
  · exact .inr ⟨Ne.symm hij, (List.getElem?_set_ne hij).symm.trans h⟩

/-- A thread after one more has come is one that was there, or that one. -/
theorem of_getElem?_concat {threads : List τ} {j : Nat} {t u : τ}
    (h : (threads ++ [t])[j]? = some u) : threads[j]? = some u ∨ j = threads.length ∧ u = t := by
  rw [List.getElem?_append] at h
  split at h
  · exact .inl h
  · obtain ⟨hj, hu⟩ := List.getElem?_eq_some_iff.mp h
    rw [List.length_singleton] at hj
    exact .inr ⟨by omega, by rw [← hu, List.getElem_singleton]⟩

/-- What a thread has still to do is among what all have to do. -/
theorem mem_flatten_set {υ : Type*} {threads : List (List υ)} {i : Nat} {t u : List υ}
    (ht : threads[i]? = some t) {x : υ} (hx : x ∈ u) : x ∈ (threads.set i u).flatten :=
  List.mem_flatten.mpr ⟨u, List.mem_set (List.getElem?_eq_some_iff.mp ht).1 u, hx⟩

/-- What the others have still to do does not change. -/
theorem mem_flatten_set_of_mem {υ : Type*} {threads : List (List υ)} {i : Nat} {x y : υ}
    {rest : List υ} (ht : threads[i]? = some (y :: rest)) (hx : x ∈ threads.flatten) (hne : x ≠ y) :
    x ∈ (threads.set i rest).flatten := by
  obtain ⟨u, hu, hxu⟩ := List.mem_flatten.mp hx
  obtain ⟨j, hj⟩ := List.mem_iff_getElem?.mp hu
  by_cases hij : i = j
  · subst hij
    cases ht.symm.trans hj
    exact mem_flatten_set ht ((List.mem_cons.mp hxu).resolve_left hne)
  · exact List.mem_flatten.mpr
      ⟨u, List.mem_iff_getElem?.mpr ⟨j, (List.getElem?_set_ne hij).trans hj⟩, hxu⟩

/-- What a thread has to do before the rest takes nothing away. -/
theorem mem_flatten_set_append {υ : Type*} {threads : List (List υ)} {i : Nat} {x : υ}
    {rest : List υ} (hx : x ∈ (threads.set i rest).flatten) (next : List υ) :
    x ∈ (threads.set i (next ++ rest)).flatten := by
  induction threads generalizing i with
  | nil => exact hx
  | cons u threads ih =>
    cases i with
    | zero =>
      rw [List.set_cons_zero, List.flatten_cons] at hx ⊢
      exact (List.mem_append.mp hx).elim (fun h => by simp [h]) (fun h => by simp [h])
    | succ i =>
      rw [List.set_cons_succ, List.flatten_cons] at hx ⊢
      exact List.mem_append.mpr ((List.mem_append.mp hx).imp_right ih)

/-- What is to be done after a step of a thread follows from it, or was there. -/
theorem of_mem_flatten_set {υ : Type*} {threads : List (List υ)} {i : Nat} {x : υ}
    {next rest : List υ} (hx : x ∈ (threads.set i (next ++ rest)).flatten) :
    x ∈ next ∨ x ∈ rest ∨ x ∈ threads.flatten := by
  obtain ⟨u, hu, hxu⟩ := List.mem_flatten.mp hx
  obtain hu | rfl := List.mem_or_eq_of_mem_set hu
  · exact .inr (.inr (List.mem_flatten.mpr ⟨u, hu, hxu⟩))
  · exact (List.mem_append.mp hxu).imp_right .inl

/-- What is to be done after a step of a thread follows from it, or is what was left. -/
theorem of_mem_flatten_set_append {υ : Type*} {threads : List (List υ)} {i : Nat} {x : υ}
    {next rest : List υ} (hx : x ∈ (threads.set i (next ++ rest)).flatten) :
    x ∈ next ∨ x ∈ (threads.set i rest).flatten := by
  induction threads generalizing i with
  | nil => exact .inr hx
  | cons u threads ih =>
    cases i with
    | zero =>
      rw [List.set_cons_zero, List.flatten_cons] at hx ⊢
      simpa [or_assoc] using hx
    | succ i =>
      rw [List.set_cons_succ, List.flatten_cons] at hx ⊢
      obtain hx | hx := List.mem_append.mp hx
      · exact .inr (List.mem_append_left _ hx)
      · exact (ih hx).imp_right (List.mem_append_right _)

/-- **A step changes what is owed by the debt of its thread.** -/
theorem owed_advance {threads : List τ} {i : Nat} {t : τ} (ht : threads[i]? = some t)
    (debt : τ → Nat) (next : Option τ) :
    owed debt (advance threads i next) + debt t = owed debt threads + next.elim 0 debt := by
  induction threads generalizing i with
  | nil => cases ht
  | cons u threads ih =>
    cases i with
    | zero =>
      cases ht
      cases next with
      | none => simp [advance, Nat.add_comm]
      | some v => simp only [advance, List.set_cons_zero, owed_cons, Option.elim_some]; ring
    | succ i =>
      have hrest := ih (i := i) (by simpa using ht)
      cases next with
      | none =>
        simp only [advance, List.eraseIdx_cons_succ, owed_cons, Option.elim_none] at hrest ⊢
        omega
      | some v =>
        simp only [advance, List.set_cons_succ, owed_cons, Option.elim_some] at hrest ⊢
        omega

/-- A step of a thread changes how many operations of a kind are to be done by those that follow. -/
theorem countP_flatten_set {υ : Type*} {threads : List (List υ)} {i : Nat} {y : υ} {rest : List υ}
    (ht : threads[i]? = some (y :: rest)) (p : υ → Bool) (next : List υ) :
    (threads.set i (next ++ rest)).flatten.countP p + [y].countP p =
      threads.flatten.countP p + next.countP p := by
  have howed := owed_advance ht (List.countP p) (some (next ++ rest))
  simp only [advance, owed, Option.elim_some, List.countP_append] at howed
  have hcons : (y :: rest).countP p = [y].countP p + rest.countP p := by
    rw [← List.countP_append, List.singleton_append]
  rw [List.countP_flatten, List.countP_flatten]
  omega

/-- A thread that has nothing to show ends. -/
theorem filterMap_eraseIdx_of_none {υ : Type*} {threads : List τ} {i : Nat} {t : τ}
    (ht : threads[i]? = some t) {f : τ → Option υ} (hf : f t = none) :
    (threads.eraseIdx i).filterMap f = threads.filterMap f := by
  induction threads generalizing i with
  | nil => cases ht
  | cons u threads ih =>
    cases i with
    | zero =>
      cases ht
      rw [List.eraseIdx_cons_zero, List.filterMap_cons_none hf]
    | succ i =>
      rw [List.eraseIdx_cons_succ, List.filterMap_cons, List.filterMap_cons,
        ih (i := i) (by simpa using ht)]

/-- The first thread that has something to show ends. -/
theorem filterMap_eraseIdx_of_first {υ : Type*} {threads : List τ} {i : Nat} {t : τ} {x : υ}
    (ht : threads[i]? = some t) {f : τ → Option υ} (hf : f t = some x)
    (hfirst : ∀ j < i, ∀ u, threads[j]? = some u → f u = none) :
    threads.filterMap f = x :: (threads.eraseIdx i).filterMap f := by
  induction threads generalizing i with
  | nil => cases ht
  | cons u threads ih =>
    cases i with
    | zero =>
      cases ht
      rw [List.eraseIdx_cons_zero, List.filterMap_cons_some hf]
    | succ i =>
      have hu := hfirst 0 (Nat.succ_pos i) u rfl
      have hrest := ih (i := i) (by simpa using ht) fun j hj v hv =>
        hfirst (j + 1) (Nat.succ_lt_succ hj) v (by simpa using hv)
      rw [List.eraseIdx_cons_succ, List.filterMap_cons_none hu, List.filterMap_cons_none hu, hrest]

/-- One thread at most. -/
theorem advance_one {b : Option τ} {i : Nat} {t : τ} (ht : b.toList[i]? = some t) :
    b = some t ∧ i = 0 ∧ ∀ next, advance b.toList i next = next.toList := by
  cases b with
  | none => cases ht
  | some u =>
    cases i with
    | succ i => cases ht
    | zero =>
      cases ht
      exact ⟨rfl, rfl, fun next => by cases next <;> rfl⟩

/-- **Two threads at most.** The one that makes the step goes on or ends, and the other is where it
was. -/
theorem advance_two {a b : Option τ} {i : Nat} {t : τ} (ht : (a.toList ++ b.toList)[i]? = some t) :
    (a = some t ∧ i = 0 ∧
        ∀ next, advance (a.toList ++ b.toList) i next = next.toList ++ b.toList) ∨
      (b = some t ∧ i = a.toList.length ∧
        ∀ next, advance (a.toList ++ b.toList) i next = a.toList ++ next.toList) := by
  cases a with
  | none => exact .inr (advance_one ht)
  | some u =>
    cases i with
    | zero =>
      cases ht
      exact .inl ⟨rfl, rfl, fun next => by cases next <;> rfl⟩
    | succ i =>
      cases b with
      | none => cases ht
      | some v =>
        cases i with
        | succ i => cases ht
        | zero =>
          cases ht
          exact .inr ⟨rfl, rfl, fun next => by cases next <;> rfl⟩

/-- Where one thread owes all there is, the others owe nothing. -/
theorem debt_eq_zero_of_mem_others {threads : List τ} {i : Nat} {t u : τ} {debt : τ → Nat}
    (ht : threads[i]? = some t) (howed : owed debt threads ≤ debt t) (hu : u ∈ threads.eraseIdx i) :
    debt u = 0 := by
  have hrest := owed_advance ht debt none
  have hle := le_owed_of_mem hu debt
  simp only [advance, Option.elim_none] at hrest
  omega

end Svarla.Lib
