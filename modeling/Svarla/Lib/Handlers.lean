import Svarla.Lib.Run
import Svarla.Lib.Threads

/-!
# Handlers on a shared state

A component whose handlers run on goroutines of their own. A handler is the list of the operations it has
still to do, and an operation is one access to the shared state, after which other operations come before
the rest of the handler (`Done.next`), and other handlers may have been started (`Done.spawned`). An
operation that is blocked has no outcome. The operations of all handlers mix in any order (`advance`).

What is still to be done is `pending`. An operation takes itself out of it and adds what follows from it
(`countP_pending_after`), and leaves the other handlers as they are (`forall_after`).
-/

namespace Svarla.Lib

variable {σ α ρ : Type*}

/-- What an operation does. -/
structure Done (σ α : Type*) where
  shared : σ
  /-- What the handler has to do next. -/
  next : List α
  /-- The handlers that were started. -/
  spawned : List (List α)

/-- A shared state, and the handlers that work on it. -/
structure Handlers (σ α : Type*) where
  shared : σ
  threads : List (List α)

namespace Handlers

/-- A handler is started. -/
def spawn (s : Handlers σ α) (thread : List α) : Handlers σ α :=
  { s with threads := s.threads ++ [thread] }

/-- What all handlers have still to do. -/
def pending (s : Handlers σ α) : List α := s.threads.flatten

/-- All handlers have finished. -/
def Finished (s : Handlers σ α) : Prop := s.pending = []

instance (s : Handlers σ α) : Decidable s.Finished :=
  decidable_of_iff (s.pending.isEmpty = true) List.isEmpty_iff

/-- The state after an operation of the `i`-th handler, which has to do the rest after it. -/
def after (s : Handlers σ α) (i : Nat) (done : Done σ α) (rest : List α) : Handlers σ α :=
  ⟨done.shared, s.threads.set i (done.next ++ rest) ++ done.spawned⟩

/-- The next operation of the `i`-th handler, if it is not blocked. -/
def advance (run : σ → ρ → α → Option (Done σ α)) (s : Handlers σ α) (i : Nat) (reply : ρ) :
    Option (Handlers σ α) :=
  match s.threads[i]? with
  | none | some [] => none
  | some (op :: rest) => (run s.shared reply op).map (s.after i · rest)

/-- What is left to do besides the next operation of the `i`-th handler, which has the rest after it. -/
def others (s : Handlers σ α) (i : Nat) (rest : List α) : List α := (s.threads.set i rest).flatten

variable {run : σ → ρ → α → Option (Done σ α)} {s t : Handlers σ α} {i : Nat} {reply : ρ} {op : α}
  {rest : List α} {done : Done σ α}

/-- A handler goes on with its first operation. -/
theorem of_advance (hstep : s.advance run i reply = some t) :
    ∃ op rest done, s.threads[i]? = some (op :: rest) ∧ run s.shared reply op = some done ∧
      t = s.after i done rest := by
  unfold advance at hstep
  split at hstep
  · cases hstep
  · cases hstep
  · next op rest hthread =>
    obtain ⟨done, hdone, ht⟩ := Option.map_eq_some_iff.mp hstep
    exact ⟨op, rest, done, hthread, hdone, ht.symm⟩

@[simp] theorem shared_after : (s.after i done rest).shared = done.shared := rfl

@[simp] theorem shared_spawn (thread : List α) : (s.spawn thread).shared = s.shared := rfl

theorem pending_spawn (thread : List α) : (s.spawn thread).pending = s.pending ++ thread := by
  rw [pending, spawn, List.flatten_append, List.flatten_singleton, pending]

/-- The first handler has nothing to do, and gets something. -/
theorem pending_set_zero (hidle : s.threads[0]? = some []) (thread : List α) :
    ({ s with threads := s.threads.set 0 thread } : Handlers σ α).pending = thread ++ s.pending := by
  cases hthreads : s.threads with
  | nil => simp [hthreads] at hidle
  | cons first others =>
    rw [hthreads, List.getElem?_cons_zero, Option.some.injEq] at hidle
    simp [pending, hthreads, hidle]

theorem pending_after :
    (s.after i done rest).pending =
      (s.threads.set i (done.next ++ rest)).flatten ++ done.spawned.flatten := by
  rw [pending, after, List.flatten_append]

/-- What is to be done after an operation follows from it, or is left. -/
theorem of_mem_pending_after_others {x : α} (hx : x ∈ (s.after i done rest).pending) :
    x ∈ done.next ∨ x ∈ done.spawned.flatten ∨ x ∈ s.others i rest := by
  rw [pending_after] at hx
  obtain hx | hx := List.mem_append.mp hx
  · exact (of_mem_flatten_set_append hx).imp_right .inr
  · exact .inr (.inl hx)

/-- **What holds of every handler.** The handler that goes on keeps it, those that it starts have it,
and the others are what they were. -/
theorem forall_after {P Q : List α → Prop} (hall : ∀ thread ∈ s.threads, P thread)
    (hkeeps : ∀ thread ∈ s.threads, P thread → Q thread) (hgoes : Q (done.next ++ rest))
    (hspawned : ∀ thread ∈ done.spawned, Q thread) :
    ∀ thread ∈ (s.after i done rest).threads, Q thread := by
  intro thread hmem
  obtain hmem | hmem := List.mem_append.mp hmem
  · obtain hmem | rfl := List.mem_or_eq_of_mem_set hmem
    · exact hkeeps thread hmem (hall thread hmem)
    · exact hgoes
  · exact hspawned thread hmem

section

variable (hthread : s.threads[i]? = some (op :: rest))

include hthread

/-- The operation was to be done. -/
theorem mem_pending : op ∈ s.pending :=
  List.mem_flatten.mpr ⟨_, List.mem_of_getElem? hthread, List.mem_cons_self⟩

/-- What the other operations were is not changed. -/
theorem mem_pending_after {x : α} (hx : x ∈ s.pending) (hne : x ≠ op) :
    x ∈ (s.after i done rest).pending := by
  rw [pending_after]
  exact List.mem_append_left _ (mem_flatten_set_append (mem_flatten_set_of_mem hthread hx hne) _)

/-- What is to be done after an operation follows from it, or was to be done before. -/
theorem of_mem_pending_after {x : α} (hx : x ∈ (s.after i done rest).pending) :
    x ∈ done.next ∨ x ∈ done.spawned.flatten ∨ x ∈ s.pending := by
  rw [pending_after] at hx
  obtain hx | hx := List.mem_append.mp hx
  · obtain hnext | hrest | hx := of_mem_flatten_set hx
    · exact .inl hnext
    · exact .inr (.inr (List.mem_flatten.mpr ⟨_, List.mem_of_getElem? hthread, .tail _ hrest⟩))
    · exact .inr (.inr hx)
  · exact .inr (.inl hx)

/-- The others are those of a kind but for the operation. -/
theorem countP_others (p : α → Bool) :
    (s.others i rest).countP p + [op].countP p = s.pending.countP p := by
  have hset := countP_flatten_set hthread p []
  rwa [List.nil_append, List.countP_nil, Nat.add_zero] at hset

/-- The operations of a kind after an operation. -/
theorem countP_pending_after_others (p : α → Bool) :
    (s.after i done rest).pending.countP p =
      (done.next ++ s.others i rest).countP p + done.spawned.flatten.countP p := by
  have hset := countP_flatten_set hthread p done.next
  have hothers := countP_flatten_set hthread p []
  rw [List.nil_append, List.countP_nil] at hothers
  rw [pending_after, List.countP_append, List.countP_append, others]
  omega

/-- The others were to be done before. -/
theorem mem_pending_of_others {x : α} (hx : x ∈ s.others i rest) : x ∈ s.pending := by
  obtain ⟨u, hu, hxu⟩ := List.mem_flatten.mp hx
  obtain hu | rfl := List.mem_or_eq_of_mem_set hu
  · exact List.mem_flatten.mpr ⟨u, hu, hxu⟩
  · exact List.mem_flatten.mpr ⟨_, List.mem_of_getElem? hthread, .tail _ hxu⟩

/-- The operations of a kind that are to be done, before and after one of them. -/
theorem countP_pending_after (p : α → Bool) :
    (s.after i done rest).pending.countP p + [op].countP p =
      s.pending.countP p + (done.next.countP p + done.spawned.flatten.countP p) := by
  have hset := countP_flatten_set hthread p done.next
  rw [pending_after, List.countP_append, pending]
  omega

end

end Handlers

end Svarla.Lib
