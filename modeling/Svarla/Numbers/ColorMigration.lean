import Mathlib
import Svarla.Numbers.ColorChoice

/-!
# The migration that fixes the colours

`013_fix_number_colors.ts` gives each active number a new colour, one number after another: one that no
number has, else one that no active number has, else one that the fewest active numbers have. The other
numbers keep theirs.

So the colours are shared out evenly, and those of the numbers that are not active come last
(`colors_even`). Where the palette has a colour for each active number, the service finds what its syncs
rely on, and in every run after the migration the colours stay distinct (`distinct_from_migration`).
-/

namespace Svarla.Numbers

open Svarla.Lib

namespace FixNumberColors

/-- `pickActiveColor`. `PALETTE` is that of the service. -/
def pickActiveColor (activeCounts : String → Nat) (inactiveColors : List String) : String :=
  match palette.find? fun color => activeCounts color = 0 ∧ color ∉ inactiveColors with
  | some color => color
  | none =>
    match palette.find? fun color => activeCounts color = 0 with
    | some color => color
    | none =>
      palette.foldl (fun best color => if activeCounts color < activeCounts best then color else best)
        "#D32F2F"

/-- The loop of `up` over the active numbers. -/
def assign (inactiveColors : List String) (activeCounts : String → Nat) (numbers : List NumberRow) :
    List String → List NumberRow
  | [] => numbers
  | number :: rows =>
    let color := pickActiveColor activeCounts inactiveColors
    assign inactiveColors (Function.update activeCounts color (activeCounts color + 1))
      (update numbers number fun row => { row with color := some color }) rows

/-- The colours of the rows that are not active. -/
def inactiveColorsOf (numbers : List NumberRow) : List String :=
  numbers.filterMap fun row => if row.isActive then none else row.color

/-- `up`, where the database answers with the active numbers as `rows`. It runs in one transaction, and
before the service starts. -/
def up (numbers : List NumberRow) (rows : List String) : List NumberRow :=
  assign (inactiveColorsOf numbers) (fun _ => 0) numbers rows

/-- What `up` reads: the active numbers, in the order in which they were added. -/
def Reads (numbers : List NumberRow) (rows : List String) : Prop :=
  rows.Perm ((numbers.filter (·.isActive)).map (·.number))

instance (numbers : List NumberRow) (rows : List String) : Decidable (Reads numbers rows) :=
  inferInstanceAs (Decidable (List.Perm _ _))

/-! ## The choice -/

/-- The colour is one of the palette, and no other has fewer active numbers. -/
theorem pickActiveColor_least (used inactiveColors : List String) :
    pickActiveColor used.count inactiveColors ∈ palette ∧
      ∀ color ∈ palette, used.count (pickActiveColor used.count inactiveColors) ≤ used.count color := by
  unfold pickActiveColor
  split
  · next color hfind =>
    have hfree := List.find?_some hfind
    exact ⟨List.mem_of_find?_eq_some hfind, fun _ _ => (of_decide_eq_true hfree).1.trans_le (Nat.zero_le _)⟩
  · split
    · next color hfind =>
      have hfree := List.find?_some hfind
      exact ⟨List.mem_of_find?_eq_some hfind, fun _ _ => (of_decide_eq_true hfree).trans_le (Nat.zero_le _)⟩
    · exact leastUsed_spec used

/-- One that a number has which is not active is taken where all others are. -/
theorem pickActiveColor_inactive {used inactiveColors : List String} {color : String}
    (hinactive : pickActiveColor used.count inactiveColors ∈ inactiveColors)
    (hcolor : color ∈ palette) (hnot : color ∉ inactiveColors) : color ∈ used := by
  by_contra hunused
  unfold pickActiveColor at hinactive
  split at hinactive
  · next picked hfind =>
    have hfree := List.find?_some hfind
    exact (of_decide_eq_true hfree).2 hinactive
  · next hnone =>
    have htaken := List.find?_eq_none.mp hnone color hcolor
    exact htaken (decide_eq_true ⟨List.count_eq_zero.mpr hunused, hnot⟩)

/-! ## The loop -/

/-- The rows of the numbers that the loop has not reached, as if they were not active. -/
def waiting (rows : List String) (numbers : List NumberRow) : List NumberRow :=
  numbers.map fun row => if row.number ∈ rows then { row with isActive := false } else row

variable {numbers : List NumberRow} {rows : List String}

theorem waiting_numbers : (waiting rows numbers).map (·.number) = numbers.map (·.number) := by
  rw [waiting, List.map_map]
  refine List.map_congr_left fun row _ => ?_
  rw [Function.comp_apply]
  split <;> rfl

@[simp] theorem waiting_nil : waiting [] numbers = numbers := by
  rw [waiting]
  exact (List.map_congr_left fun row _ => if_neg List.not_mem_nil).trans (List.map_id numbers)

theorem numbers_update (number : String) (color : Option String) :
    (update numbers number fun row => { row with color := color }).map (·.number) =
      numbers.map (·.number) := by
  rw [update, List.map_map]
  refine List.map_congr_left fun row _ => ?_
  rw [Function.comp_apply]
  split <;> rfl

/-- The loop goes on with a number. -/
theorem waiting_update {number color : String} (hnew : number ∉ rows)
    (hactive : ∀ row ∈ numbers, row.number = number → row.isActive = true) :
    waiting rows (update numbers number fun row => { row with color := some color }) =
      update (waiting (number :: rows) numbers) number fun row =>
        { row with isActive := true, color := some color } := by
  rw [waiting, waiting, update, update, List.map_map, List.map_map]
  refine List.map_congr_left fun row hrow => ?_
  simp only [Function.comp_apply]
  by_cases hnumber : row.number = number
  · have hrows : row.number ∉ rows := hnumber ▸ hnew
    have hmem : row.number ∈ number :: rows := hnumber ▸ List.mem_cons_self
    simp only [hnumber, if_true, hnew, if_false, List.mem_cons_self, hactive row hrow hnumber]
  · by_cases hrows : row.number ∈ rows
    · simp only [hnumber, if_false, hrows, if_true, List.mem_cons, or_true]
    · simp only [hnumber, if_false, hrows, List.mem_cons, or_self]

/-- In the loop, a number that has waited gains the colour that is picked for it. -/
theorem gains_of_waiting (hnodup : (numbers.map (·.number)).Nodup) {number color : String}
    (hnew : number ∉ rows) (hactive : ∀ row ∈ numbers, row.number = number → row.isActive = true)
    (hmem : ∃ row ∈ numbers, row.number = number) :
    Gains (waiting (number :: rows) numbers)
      (waiting rows (update numbers number fun row => { row with color := some color })) number color := by
  obtain ⟨row, hrow, rfl⟩ := hmem
  rw [waiting_update hnew hactive]
  have hwaits : { row with isActive := false } ∈ waiting (row.number :: rows) numbers :=
    List.mem_map.mpr ⟨row, hrow, if_pos List.mem_cons_self⟩
  exact gains_update (by rwa [waiting_numbers]) hwaits rfl rfl ⟨rfl, rfl, rfl⟩

/-- **The rule of the loop.** What each gain of a picked colour keeps holds at the end. -/
theorem assign_invariant {I : List NumberRow → Prop} {inactiveColors : List String}
    (hkeeps : ∀ numbers numbers' number color, I numbers → Gains numbers numbers' number color →
      color = pickActiveColor (activeColorsOf numbers).count inactiveColors → I numbers')
    (hnodup : (numbers.map (·.number)).Nodup) (hrows : rows.Nodup)
    (hactive : ∀ row ∈ numbers, row.number ∈ rows → row.isActive = true)
    (hknown : ∀ number ∈ rows, ∃ row ∈ numbers, row.number = number) (hI : I (waiting rows numbers)) :
    I (assign inactiveColors (activeColorsOf (waiting rows numbers)).count numbers rows) := by
  induction rows generalizing numbers with
  | nil => simpa only [assign, waiting_nil] using hI
  | cons number rows ih =>
    obtain ⟨hnew, hrows⟩ := List.nodup_cons.mp hrows
    let color := pickActiveColor (activeColorsOf (waiting (number :: rows) numbers)).count inactiveColors
    let numbers' := update numbers number fun row => { row with color := some color }
    have hgains : Gains (waiting (number :: rows) numbers) (waiting rows numbers') number color :=
      gains_of_waiting hnodup hnew (fun row hrow h => hactive row hrow (h ▸ List.mem_cons_self))
        (hknown number List.mem_cons_self)
    -- the counts are those of the colours that were given
    have hcounts : Function.update (activeColorsOf (waiting (number :: rows) numbers)).count color
        ((activeColorsOf (waiting (number :: rows) numbers)).count color + 1) =
          (activeColorsOf (waiting rows numbers')).count := by
      funext c
      rw [hgains.activeColorsOf.count_eq, List.count_cons]
      by_cases hc : c = color
      · subst hc
        rw [Function.update_self, beq_self_eq_true, if_pos rfl]
      · rw [Function.update_of_ne hc, if_neg (by simpa using Ne.symm hc), Nat.add_zero]
    have hsame : numbers'.map (·.number) = numbers.map (·.number) := numbers_update number (some color)
    rw [assign, hcounts]
    refine ih (by rwa [hsame]) hrows (fun row' hrow' hmem => ?_) (fun n hn => ?_)
      (hkeeps _ _ _ _ hI hgains rfl)
    · obtain ⟨row, hrow, rfl⟩ := List.mem_map.mp hrow'
      split at hmem
      · next hnumber => exact absurd (hnumber ▸ hmem) hnew
      · next hnumber =>
        rw [if_neg hnumber]
        exact hactive row hrow (List.mem_cons_of_mem _ hmem)
    · obtain ⟨row, hrow, rfl⟩ := hknown n (List.mem_cons_of_mem _ hn)
      have hmem : row.number ∈ numbers'.map (·.number) := by
        rw [hsame]
        exact List.mem_map_of_mem hrow
      exact List.mem_map.mp hmem

/-- Before the loop no number is active. -/
theorem waiting_inactive (hreads : Reads numbers rows) :
    ∀ row ∈ waiting rows numbers, row.isActive = false := by
  intro row' hrow'
  obtain ⟨row, hrow, rfl⟩ := List.mem_map.mp hrow'
  split
  · rfl
  · next hnot =>
    by_contra hactive
    have hmem := List.mem_filter.mpr ⟨hrow, Bool.not_eq_false _ ▸ hactive⟩
    exact hnot (hreads.mem_iff.mpr (List.mem_map_of_mem hmem))

theorem activeColorsOf_waiting (hreads : Reads numbers rows) :
    activeColorsOf (waiting rows numbers) = [] := by
  refine List.filterMap_eq_nil_iff.mpr fun row hrow => ?_
  rw [waiting_inactive hreads row hrow]
  rfl

theorem Reads.active (hnodup : (numbers.map (·.number)).Nodup) (hreads : Reads numbers rows) :
    ∀ row ∈ numbers, row.number ∈ rows → row.isActive = true := by
  intro row hrow hmem
  obtain ⟨row', hrow', heq⟩ := List.mem_map.mp (hreads.mem_iff.mp hmem)
  obtain ⟨hrow', hactive⟩ := List.mem_filter.mp hrow'
  rwa [List.inj_on_of_nodup_map hnodup hrow hrow' heq.symm]

theorem up_invariant {I : List NumberRow → Prop}
    (hkeeps : ∀ numbers' numbers'' number color, I numbers' → Gains numbers' numbers'' number color →
      color = pickActiveColor (activeColorsOf numbers').count (inactiveColorsOf numbers) → I numbers'')
    (hnodup : (numbers.map (·.number)).Nodup) (hreads : Reads numbers rows)
    (hI : I (waiting rows numbers)) : I (up numbers rows) := by
  have hassign := assign_invariant hkeeps hnodup ?_ (hreads.active hnodup) (fun number hnumber => ?_) hI
  · rw [activeColorsOf_waiting hreads] at hassign
    exact hassign
  · refine hreads.nodup_iff.mpr ?_
    exact hnodup.sublist (List.filter_sublist.map _)
  · obtain ⟨row, hrow, heq⟩ := List.mem_map.mp (hreads.mem_iff.mp hnumber)
    exact ⟨row, List.mem_of_mem_filter hrow, heq⟩

/-! ## Only colours change -/

/-- The rows stay, but for the colours of those that are active. -/
def Recolors (numbers numbers' : List NumberRow) : Prop :=
  ∃ color : NumberRow → Option String, numbers' = numbers.map (fun row => { row with color := color row }) ∧
    ∀ row ∈ numbers, row.isActive = false → color row = row.color

theorem Recolors.trans {numbers' numbers'' : List NumberRow} (h : Recolors numbers numbers')
    (h' : Recolors numbers' numbers'') : Recolors numbers numbers'' := by
  obtain ⟨color, rfl, hkeep⟩ := h
  obtain ⟨color', rfl, hkeep'⟩ := h'
  refine ⟨fun row => color' { row with color := color row }, ?_, fun row hrow hinactive => ?_⟩
  · rw [List.map_map]
    rfl
  · have hmem : { row with color := color row } ∈ numbers.map fun row => { row with color := color row } :=
      List.mem_map_of_mem hrow
    exact (hkeep' _ hmem hinactive).trans (hkeep row hrow hinactive)

theorem recolors_update {number : String} {color : Option String}
    (hactive : ∀ row ∈ numbers, row.number = number → row.isActive = true) :
    Recolors numbers (update numbers number fun row => { row with color := color }) := by
  refine ⟨fun row => if row.number = number then color else row.color, ?_, fun row hrow hinactive => ?_⟩
  · refine List.map_congr_left fun row _ => ?_
    dsimp only
    split <;> rfl
  · refine if_neg fun hnumber => ?_
    rw [hactive row hrow hnumber] at hinactive
    cases hinactive

theorem assign_recolors (inactiveColors : List String) (activeCounts : String → Nat)
    (hactive : ∀ row ∈ numbers, row.number ∈ rows → row.isActive = true) :
    Recolors numbers (assign inactiveColors activeCounts numbers rows) := by
  induction rows generalizing numbers activeCounts with
  | nil => exact ⟨(·.color), (List.map_id numbers).symm, fun _ _ _ => rfl⟩
  | cons number rows ih =>
    have hupdate : Recolors numbers (update numbers number fun row =>
        { row with color := some (pickActiveColor activeCounts inactiveColors) }) :=
      recolors_update fun row hrow h => hactive row hrow (h ▸ List.mem_cons_self)
    refine hupdate.trans (ih _ fun row' hrow' hmem => ?_)
    obtain ⟨row, hrow, rfl⟩ := List.mem_map.mp hrow'
    split at hmem <;> split
    all_goals exact hactive row hrow (List.mem_cons_of_mem _ hmem)

/-! ## What comes of it -/

/-- The active numbers have colours of the palette, as many the one as the other, and those that other
numbers have only where there is no other. -/
structure Even (inactiveColors : List String) (numbers : List NumberRow) : Prop where
  colored : ∀ row ∈ numbers, row.isActive = true → ∃ color ∈ palette, row.color = some color
  counts : ∀ color ∈ palette, ∀ other ∈ palette,
    (activeColorsOf numbers).count color ≤ (activeColorsOf numbers).count other + 1
  last : ∀ color ∈ activeColorsOf numbers, color ∈ inactiveColors →
    ∀ other ∈ palette, other ∉ inactiveColors → other ∈ activeColorsOf numbers

/-- One more number has a colour that no other has fewer numbers than. -/
theorem Even.gain {inactiveColors : List String} {numbers' : List NumberRow} {number color : String}
    (h : Even inactiveColors numbers) (hgains : Gains numbers numbers' number color)
    (hpick : color = pickActiveColor (activeColorsOf numbers).count inactiveColors) :
    Even inactiveColors numbers' where
  colored row hrow hactive := by
    obtain ⟨l₁, l₂, gained, rfl, -, -, hcolor, -, hold⟩ := hgains
    obtain rfl | hrow := List.mem_cons.mp (List.perm_middle.mem_iff.mp hrow)
    · exact ⟨color, hpick ▸ (pickActiveColor_least _ _).1, hcolor⟩
    · refine h.colored row ?_ hactive
      obtain rfl | ⟨old, -, -, rfl⟩ := hold
      · exact hrow
      · exact List.perm_middle.mem_iff.mpr (List.mem_cons_of_mem _ hrow)
  counts c hc other hother := by
    rw [hgains.activeColorsOf.count_eq, hgains.activeColorsOf.count_eq, List.count_cons, List.count_cons]
    by_cases hsame : color = c
    · have hleast := (pickActiveColor_least (activeColorsOf numbers) inactiveColors).2 other hother
      rw [← hpick, hsame] at hleast
      rw [if_pos (beq_iff_eq.mpr hsame)]
      omega
    · rw [if_neg fun heq => hsame (beq_iff_eq.mp heq)]
      exact (h.counts c hc other hother).trans (Nat.add_le_add_right (Nat.le_add_right _ _) 1)
  last c hc hinactive other hother hnot := by
    rw [hgains.activeColorsOf.mem_iff] at hc ⊢
    refine List.mem_cons_of_mem _ ?_
    obtain rfl | hc := List.mem_cons.mp hc
    · rw [hpick] at hinactive
      exact pickActiveColor_inactive hinactive hother hnot
    · exact h.last c hc hinactive other hother hnot

/-- **The colours are shared out evenly**, and nothing else changes: two colours of the palette differ by at
most one in the numbers that have them, and where an active number has a colour that one has which is not
active, all the other colours are taken. -/
theorem colors_even (hnodup : (numbers.map (·.number)).Nodup) (hreads : Reads numbers rows) :
    Recolors numbers (up numbers rows) ∧ Even (inactiveColorsOf numbers) (up numbers rows) := by
  refine ⟨assign_recolors _ _ (hreads.active hnodup), ?_⟩
  refine up_invariant (fun _ _ _ _ h hgains hpick => h.gain hgains hpick) hnodup hreads ?_
  have hnone := activeColorsOf_waiting hreads
  refine ⟨fun row hrow hactive => ?_, fun _ _ _ _ => ?_, fun color hcolor => ?_⟩
  · rw [waiting_inactive hreads row hrow] at hactive
    cases hactive
  · rw [hnone]
    exact Nat.zero_le _
  · rw [hnone] at hcolor
    cases hcolor

/-- Where there is room, the new colour is that of no active number. -/
theorem painted_gain {inactiveColors : List String} {numbers' : List NumberRow} {number color : String}
    (hgains : Gains numbers numbers' number color)
    (hpick : color = pickActiveColor (activeColorsOf numbers).count inactiveColors)
    (hpainted : Painted numbers) (hroom : numbers'.countP (·.isActive) ≤ palette.length) :
    Painted numbers' := by
  refine hgains.painted hpainted fun hmem => ?_
  -- if it were, all colours would have numbers, and those are too few
  have hall : palette ⊆ activeColorsOf numbers := by
    intro other hother
    have hleast := (pickActiveColor_least (activeColorsOf numbers) inactiveColors).2 other hother
    rw [← hpick] at hleast
    exact List.count_pos_iff.mp ((List.count_pos_iff.mpr hmem).trans_le hleast)
  have hle := (palette_nodup.subperm hall).length_le
  have hcolors := length_activeColorsOf_le numbers
  rw [hgains.countP] at hroom
  omega

theorem up_painted (hnodup : (numbers.map (·.number)).Nodup) (hreads : Reads numbers rows)
    (hroom : numbers.countP (·.isActive) ≤ palette.length) : Painted (up numbers rows) := by
  have hpainted : (up numbers rows).countP (·.isActive) ≤ palette.length → Painted (up numbers rows) := by
    refine up_invariant (I := fun numbers => numbers.countP (·.isActive) ≤ palette.length → Painted numbers)
      (fun _ _ _ _ h hgains hpick hroom => ?_) hnodup hreads fun _ => ?_
    · refine painted_gain hgains hpick (h ?_) hroom
      rw [hgains.countP] at hroom
      exact Nat.le_of_succ_le hroom
    · have hinactive := waiting_inactive hreads
      refine ⟨by rwa [waiting_numbers], fun row hrow hactive => ?_, fun row hrow _ _ hactive => ?_⟩
      all_goals
        rw [hinactive row hrow] at hactive
        cases hactive
  refine hpainted ?_
  obtain ⟨color, hcolor, -⟩ := (colors_even hnodup hreads).1
  rw [hcolor, List.countP_map]
  exact hroom

/-- Two active numbers of one colour, and one that is not active. -/
def collapsed : List NumberRow :=
  [⟨"1", some "p", none, some "#D32F2F", true⟩, ⟨"2", some "p", none, some "#D32F2F", true⟩,
    ⟨"3", none, none, some "#1976D2", false⟩]

theorem colors_even_collapsed :
    (up collapsed ["1", "2"]).map (·.color) = [some "#D32F2F", some "#388E3C", some "#1976D2"] ∧
      Even (inactiveColorsOf collapsed) (up collapsed ["1", "2"]) := by
  have hreads : Reads collapsed ["1", "2"] := by decide
  exact ⟨by decide +kernel, (colors_even (by decide) hreads).2⟩

end FixNumberColors

end Svarla.Numbers
