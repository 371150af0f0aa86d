/-!
# The outcome of every schedule

A system that makes steps of `next` in whatever order `EndsIn good`: no schedule goes on for ever, and
where nothing is left to do, `good` holds. It is shown with a rank that every step lowers
(`EndsIn.of_rank`), and refuted with a state from which `good` is out of reach
(`EndsIn.exists_good`).
-/

namespace Svarla.Lib

universe u

variable {σ : Type u} {next : σ → σ → Prop} {good : σ → Prop}

/-- Every schedule ends, and in a state that is good. -/
inductive EndsIn (next : σ → σ → Prop) (good : σ → Prop) : σ → Prop
  | intro {s : σ} (last : (∀ t, ¬ next s t) → good s) (step : ∀ t, next s t → EndsIn next good t) :
    EndsIn next good s

/-- What is left of a schedule after a step. -/
theorem EndsIn.after {s t : σ} (h : EndsIn next good s) (hst : next s t) : EndsIn next good t := by
  obtain ⟨-, hstep⟩ := h
  exact hstep t hst

/-- A state where nothing is left to do. -/
theorem EndsIn.last {s : σ} (h : EndsIn next good s) (hlast : ∀ t, ¬ next s t) : good s := by
  obtain ⟨hgood, -⟩ := h
  exact hgood hlast

/-- **Ranked invariants.** Every step keeps the invariant at a lower rank, and the invariant makes a
last state good. -/
theorem EndsIn.of_rank {I : Nat → σ → Prop}
    (hstep : ∀ n s t, I n s → next s t → ∃ m, m < n ∧ I m t)
    (hlast : ∀ n s, I n s → (∀ t, ¬ next s t) → good s) {n : Nat} {s : σ} (hs : I n s) :
    EndsIn next good s := by
  induction n using Nat.strongRecOn generalizing s with
  | ind n ih =>
    refine .intro (hlast n s hs) fun t hst => ?_
    obtain ⟨m, hm, ht⟩ := hstep n s t hs hst
    exact ih m hm ht

/-- What every step keeps holds of a last state too. -/
theorem EndsIn.exists_good {K : σ → Prop} (hK : ∀ s t, K s → next s t → K t) {s : σ}
    (h : EndsIn next good s) (hs : K s) : ∃ t, K t ∧ good t := by
  induction h with
  | @intro s last step ih =>
    by_cases hlast : ∀ t, ¬ next s t
    · exact ⟨s, hs, last hlast⟩
    · obtain ⟨t, ht⟩ := Classical.not_forall_not.mp hlast
      exact ih t ht (hK s t hs ht)

end Svarla.Lib
