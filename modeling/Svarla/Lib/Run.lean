import Mathlib.Data.List.Basic

/-!
# Runs of a partial step function

A component is a function `step : σ → ε → Option σ`: the state after an event, or `none` where the
event cannot happen. A run is a list of events (`exec`). What holds of every reachable state is an
invariant of one step (`exec_invariant`).

A run may be `Guarded`: every event meets a condition in the state it meets. `Guarded` says nothing
about the states after the last event, so a property of guarded runs speaks about every prefix
(`Guarded.of_append`), and a system whose guarded steps cannot be refused runs to the end
(`exec_progress`).
-/

namespace Svarla.Lib

variable {σ ε : Type*}

/-- The state after a run, if every event of it can happen. -/
def exec (step : σ → ε → Option σ) : σ → List ε → Option σ
  | s, [] => some s
  | s, e :: es => (step s e).bind (exec step · es)

/-- Every event of the run meets `guard` in the state before it. -/
def Guarded (step : σ → ε → Option σ) (guard : σ → ε → Prop) : σ → List ε → Prop
  | _, [] => True
  | s, e :: es => guard s e ∧ ∀ t, step s e = some t → Guarded step guard t es

variable {step : σ → ε → Option σ} {guard : σ → ε → Prop}

/-- A run is guarded or not by what its states are. -/
instance decidableGuarded [∀ s e, Decidable (guard s e)] (s : σ) :
    (es : List ε) → Decidable (Guarded step guard s es)
  | [] => .isTrue trivial
  | e :: es =>
    have : Decidable (∀ t, step s e = some t → Guarded step guard t es) :=
      match step s e with
      | none => .isTrue nofun
      | some t =>
        have := decidableGuarded t es
        decidable_of_iff (Guarded step guard t es)
          ⟨fun h _ ht => Option.some.inj ht ▸ h, fun h => h t rfl⟩
    inferInstanceAs (Decidable (_ ∧ _))

@[simp] theorem exec_nil (s : σ) : exec step s [] = some s := rfl

@[simp] theorem exec_cons (s : σ) (e : ε) (es : List ε) :
    exec step s (e :: es) = (step s e).bind (exec step · es) := rfl

/-- A run of two parts. -/
theorem exec_append (s : σ) (es fs : List ε) :
    exec step s (es ++ fs) = (exec step s es).bind (exec step · fs) := by
  induction es generalizing s with
  | nil => rfl
  | cons e es ih =>
    rw [List.cons_append, exec_cons, exec_cons, Option.bind_assoc]
    congr 1
    funext t
    exact ih t

/-- A run with one more step. -/
theorem exec_concat {s t u : σ} {es : List ε} {e : ε} (hrun : exec step s es = some t)
    (hstep : step t e = some u) : exec step s (es ++ [e]) = some u := by
  rw [exec_append, hrun, Option.bind_some, exec_cons, hstep, Option.bind_some, exec_nil]

@[simp] theorem guarded_nil (s : σ) : Guarded step guard s [] := trivial

/-- A run without a condition is guarded by the trivial one. -/
theorem guarded_true (s : σ) (es : List ε) : Guarded step (fun _ _ => True) s es := by
  induction es generalizing s with
  | nil => trivial
  | cons e es ih => exact ⟨trivial, fun t _ => ih t⟩

/-- A run that meets two conditions. -/
theorem Guarded.and {guard' : σ → ε → Prop} {s : σ} {es : List ε} (h : Guarded step guard s es)
    (h' : Guarded step guard' s es) : Guarded step (fun s e => guard s e ∧ guard' s e) s es := by
  induction es generalizing s with
  | nil => trivial
  | cons e es ih => exact ⟨⟨h.1, h'.1⟩, fun t ht => ih (h.2 t ht) (h'.2 t ht)⟩

/-- The two parts of a guarded run. -/
theorem Guarded.of_append {s : σ} {es fs : List ε} (h : Guarded step guard s (es ++ fs)) :
    Guarded step guard s es ∧ ∀ t, exec step s es = some t → Guarded step guard t fs := by
  induction es generalizing s with
  | nil => exact ⟨trivial, fun t ht => by cases ht; exact h⟩
  | cons e es ih =>
    obtain ⟨hguard, hrest⟩ := h
    refine ⟨⟨hguard, fun t ht => (ih (hrest t ht)).1⟩, fun t ht => ?_⟩
    obtain ⟨u, hu, hut⟩ := Option.bind_eq_some_iff.mp ht
    exact (ih (hrest u hu)).2 t hut

/-- **Invariants of guarded runs.** What a guarded step keeps, a guarded run keeps. -/
theorem Guarded.invariant {I : σ → Prop}
    (hstep : ∀ s e t, I s → guard s e → step s e = some t → I t) {s t : σ} {es : List ε}
    (hguard : Guarded step guard s es) (hs : I s) (hrun : exec step s es = some t) : I t := by
  induction es generalizing s with
  | nil => cases hrun; exact hs
  | cons e es ih =>
    obtain ⟨u, hu, hut⟩ := Option.bind_eq_some_iff.mp hrun
    exact ih (hguard.2 u hu) (hstep s e u hs hguard.1 hu) hut

/-- **Invariants of runs.** -/
theorem exec_invariant {I : σ → Prop} (hstep : ∀ s e t, I s → step s e = some t → I t) {s t : σ}
    {es : List ε} (hs : I s) (hrun : exec step s es = some t) : I t :=
  (guarded_true s es).invariant (fun s e t h _ => hstep s e t h) hs hrun

/-- **Exact conditions.** Where a step keeps `I`, beside an invariant `J` of its own, if and only if its
event meets the condition, the guarded runs are those with `I` in every state. -/
theorem guarded_iff_invariant {I J : σ → Prop}
    (hstep : ∀ s e t, J s → I s → step s e = some t → J t ∧ (I t ↔ guard s e))
    (hrefused : ∀ s e, step s e = none → guard s e) {s : σ} (hJ : J s) (hs : I s) (es : List ε) :
    Guarded step guard s es ↔
      ∀ es₁ es₂ t, es = es₁ ++ es₂ → exec step s es₁ = some t → I t := by
  constructor
  · rintro hguard es₁ es₂ t rfl hrun
    refine (Guarded.invariant (I := fun s => J s ∧ I s) (fun s e t hI hg ht => ?_) hguard.of_append.1
      ⟨hJ, hs⟩ hrun).2
    obtain ⟨hJt, hiff⟩ := hstep s e t hI.1 hI.2 ht
    exact ⟨hJt, hiff.mpr hg⟩
  · intro hall
    induction es generalizing s with
    | nil => trivial
    | cons e es ih =>
      have hnext : ∀ t, step s e = some t → I t := fun t ht =>
        hall [e] es t rfl (by rw [exec_cons, ht]; rfl)
      refine ⟨?_, fun t ht => ?_⟩
      · match ht : step s e with
        | none => exact hrefused s e ht
        | some t => exact (hstep s e t hJ hs ht).2.mp (hnext t ht)
      · refine ih (hstep s e t hJ hs ht).1 (hnext t ht) fun es₁ es₂ u hes hu => ?_
        refine hall (e :: es₁) es₂ u (by rw [hes]; rfl) ?_
        rw [exec_cons, ht]
        exact hu

/-- **Progress.** Where an invariant lets no guarded step be refused, a guarded run reaches its
end. -/
theorem Guarded.progress {I : σ → Prop}
    (hstep : ∀ s e, I s → guard s e → ∃ t, step s e = some t ∧ I t) {s : σ} {es : List ε}
    (hguard : Guarded step guard s es) (hs : I s) : ∃ t, exec step s es = some t ∧ I t := by
  induction es generalizing s with
  | nil => exact ⟨s, rfl, hs⟩
  | cons e es ih =>
    obtain ⟨u, hu, hIu⟩ := hstep s e hs hguard.1
    obtain ⟨t, ht, hIt⟩ := ih (hguard.2 u hu) hIu
    exact ⟨t, by rw [exec_cons, hu]; exact ht, hIt⟩

end Svarla.Lib
