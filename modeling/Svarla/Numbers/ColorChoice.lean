import Svarla.Numbers.Colors

/-!
# The choice of a colour is fair

A number that has a colour of the palette which no other active number has keeps it, also where a number
that is not active has it too and another colour is free (`kept_beside_free`). Otherwise the choice is a
free colour, if there is one, else one that numbers alone hold that are not active, and else one that the
fewest active numbers have (`chooseColor_fair`).
-/

namespace Svarla.Numbers

/-- What is reclaimed is a colour of the palette that some number holds which is not active. -/
theorem mem_of_fewestInactive {activeColors inactiveColors colors : List String} {color : String}
    (h : fewestInactive activeColors inactiveColors colors = some color) :
    color ∈ colors ∧ color ∈ inactiveColors := by
  have hloop : ∀ (colors : List String) (reclaim : Option String),
      colors.foldl (fun reclaim color =>
        if activeColors.count color = 0 ∧ 0 < inactiveColors.count color ∧
            ∀ c ∈ reclaim, inactiveColors.count color < inactiveColors.count c then some color
        else reclaim) reclaim = some color →
      reclaim = some color ∨ color ∈ colors ∧ color ∈ inactiveColors := by
    intro colors
    induction colors with
    | nil => exact fun reclaim h => .inl h
    | cons c colors ih =>
      intro reclaim h
      rw [List.foldl_cons] at h
      obtain htaken | ⟨hmem, hinactive⟩ := ih _ h
      · split at htaken
        · next htake =>
          cases htaken
          exact .inr ⟨.head _, List.count_pos_iff.mp htake.2.1⟩
        · exact .inl htaken
      · exact .inr ⟨.tail _ hmem, hinactive⟩
  exact (hloop colors none h).resolve_left nofun

/-- The colour that is shared is one of the palette, and no other has fewer active numbers. -/
theorem leastUsed_spec (activeColors : List String) :
    leastUsed activeColors ∈ palette ∧
      ∀ color ∈ palette, activeColors.count (leastUsed activeColors) ≤ activeColors.count color := by
  have hloop : ∀ (colors : List String) (best : String),
      let found := colors.foldl (fun best color =>
        if activeColors.count color < activeColors.count best then color else best) best
      (found = best ∨ found ∈ colors) ∧ activeColors.count found ≤ activeColors.count best ∧
        ∀ color ∈ colors, activeColors.count found ≤ activeColors.count color := by
    intro colors
    induction colors with
    | nil => exact fun best => ⟨.inl rfl, Nat.le_refl _, fun _ h => (nomatch h)⟩
    | cons c colors ih =>
      intro best
      rw [List.foldl_cons]
      split
      · next hless =>
        obtain ⟨hfound, hle, hall⟩ := ih c
        refine ⟨.inr (List.mem_cons.mpr hfound), Nat.le_trans hle (Nat.le_of_lt hless), ?_⟩
        exact List.forall_mem_cons.mpr ⟨hle, hall⟩
      · next hmore =>
        obtain ⟨hfound, hle, hall⟩ := ih best
        refine ⟨hfound.imp_right (.tail _), hle, ?_⟩
        exact List.forall_mem_cons.mpr ⟨Nat.le_trans hle (Nat.le_of_not_lt hmore), hall⟩
  obtain ⟨hfound, -, hall⟩ := hloop palette "#D32F2F"
  refine ⟨hfound.elim (fun h => ?_) id, hall⟩
  exact (show leastUsed activeColors = "#D32F2F" from h).symm ▸ List.mem_cons_self

/-- **The choice is fair.** The number's own colour stays, if it can; otherwise the choice is free, or else
free among active numbers, or else held by as few of these as any. -/
theorem chooseColor_fair (existingColor : Option String) (activeColors inactiveColors : List String) :
    (chooseColor existingColor activeColors inactiveColors).color ∈ palette ∧
    (∀ color, existingColor = some color → color ∈ palette → color ∉ activeColors →
      chooseColor existingColor activeColors inactiveColors = ⟨color, none⟩) ∧
    ((∀ color, existingColor = some color → color ∈ palette → color ∈ activeColors) →
      let choice := chooseColor existingColor activeColors inactiveColors
      ((∃ color ∈ palette, color ∉ activeColors ∧ color ∉ inactiveColors) →
        choice.color ∉ activeColors ∧ choice.color ∉ inactiveColors ∧ choice.reclaimFrom = none) ∧
      ((∀ color ∈ palette, color ∈ activeColors ∨ color ∈ inactiveColors) →
        (∃ color ∈ palette, color ∉ activeColors) →
        choice.color ∉ activeColors ∧ choice.color ∈ inactiveColors ∧
          choice.reclaimFrom = some choice.color) ∧
      ((∀ color ∈ palette, color ∈ activeColors) → choice.reclaimFrom = none ∧
        ∀ color ∈ palette, activeColors.count choice.color ≤ activeColors.count color)) := by
  unfold chooseColor
  split
  · next color hkeep =>
    obtain ⟨rfl, hcolor⟩ := Option.filter_eq_some_iff.mp hkeep
    obtain ⟨hpalette, hfree⟩ := of_decide_eq_true hcolor
    refine ⟨hpalette, fun c hc _ _ => by rw [Option.some.inj hc], fun htaken => ?_⟩
    exact absurd (htaken color rfl hpalette) (List.count_eq_zero.mp hfree)
  · next hnone =>
    have hown : ∀ color, existingColor = some color → color ∈ palette → color ∈ activeColors := by
      intro color hcolor hpalette
      by_contra hfree
      rw [hcolor, Option.filter_eq_none_iff] at hnone
      exact hnone color rfl (decide_eq_true ⟨hpalette, List.count_eq_zero.mpr hfree⟩)
    split
    · next color hfind =>
      -- a colour that nobody has
      have hmem := List.mem_of_find?_eq_some hfind
      have hcolor := List.find?_some hfind
      obtain ⟨hactive, hinactive⟩ := of_decide_eq_true hcolor
      rw [List.count_eq_zero] at hactive hinactive
      refine ⟨hmem, fun c hc hp hfree => absurd (hown c hc hp) hfree, fun _ => ⟨fun _ => ?_, ?_, ?_⟩⟩
      · exact ⟨hactive, hinactive, rfl⟩
      · exact fun hall _ => ((hall color hmem).elim hactive hinactive).elim
      · exact fun hall => (hactive (hall color hmem)).elim
    · next hheld =>
      have hall : ∀ color ∈ palette, color ∈ activeColors ∨ color ∈ inactiveColors := by
        intro color hcolor
        by_contra hfree
        rw [not_or, ← List.count_eq_zero, ← List.count_eq_zero] at hfree
        exact List.find?_eq_none.mp hheld color hcolor (decide_eq_true hfree)
      have hnotFree : ¬ ∃ color ∈ palette, color ∉ activeColors ∧ color ∉ inactiveColors :=
        fun ⟨color, hcolor, hactive, hinactive⟩ => (hall color hcolor).elim hactive hinactive
      split
      · next color hreclaim =>
        have hactive := (fewestInactive_spec ..).1 color hreclaim
        obtain ⟨hmem, hinactive⟩ := mem_of_fewestInactive hreclaim
        refine ⟨hmem, fun c hc hp hfree => absurd (hown c hc hp) hfree, fun _ =>
          ⟨fun h => absurd h hnotFree, fun _ _ => ⟨hactive, hinactive, rfl⟩, fun h => ?_⟩⟩
        exact absurd (h color hmem) hactive
      · next hfewest =>
        obtain ⟨hmem, hleast⟩ := leastUsed_spec activeColors
        refine ⟨hmem, fun c hc hp hfree => absurd (hown c hc hp) hfree, fun _ =>
          ⟨fun h => absurd h hnotFree, fun _ ⟨color, hcolor, hfree⟩ => ?_, fun _ => ⟨rfl, hleast⟩⟩⟩
        -- all colours have active numbers, as there is none to reclaim
        exact absurd ((hall color hcolor).elim id ((fewestInactive_spec ..).2 hfewest color hcolor)) hfree

/-- **A colour is kept that is not free.** A number that is not active has it as well, and another colour
nobody has. -/
theorem kept_beside_free :
    ¬ ∀ (existingColor : Option String) (activeColors inactiveColors : List String),
      (∃ color ∈ palette, color ∉ activeColors ∧ color ∉ inactiveColors) →
        (chooseColor existingColor activeColors inactiveColors).color ∉ activeColors ∧
          (chooseColor existingColor activeColors inactiveColors).color ∉ inactiveColors := by
  intro h
  have hkept := h (some "#D32F2F") [] ["#D32F2F"] ⟨"#1976D2", by decide, by decide, by decide⟩
  exact hkept.2 (by decide)

end Svarla.Numbers
