import Svarla.Numbers.NumberManagement
import Mathlib.Data.List.Nodup
import Mathlib.Data.List.Perm.Subperm

/-!
# Labels and colours that last

A number that comes back with another provider has lost its label, which `removeProvider` clears, and
gets a new colour; and a number that is reported while it is active for another provider may share its
colour with a third one (`changed_or_shared`).

Where no label is set and the provider is not removed, a label is kept. Two active numbers have different
colours as long as the palette lasts, unless a number is reported twice or is active already for another
provider, or the user makes one active whose colour is taken (`labels_and_colors`).
-/

namespace Svarla.Numbers

open Svarla.Lib

/-! ## The choice is free -/

/-- A colour that was found to reclaim no active number has; where there is none to reclaim, active
numbers have all that inactive ones hold. -/
theorem fewestInactive_spec (activeColors inactiveColors : List String) (colors : List String) :
    (∀ color, fewestInactive activeColors inactiveColors colors = some color → color ∉ activeColors) ∧
      (fewestInactive activeColors inactiveColors colors = none →
        ∀ color ∈ colors, color ∈ inactiveColors → color ∈ activeColors) := by
  -- along the loop, what was found so far
  have hloop : ∀ (colors : List String) (reclaim : Option String),
      (∀ color ∈ reclaim, color ∉ activeColors) →
        let found := colors.foldl (fun reclaim color =>
          if activeColors.count color = 0 ∧ 0 < inactiveColors.count color ∧
              ∀ c ∈ reclaim, inactiveColors.count color < inactiveColors.count c then some color
          else reclaim) reclaim
        (∀ color ∈ found, color ∉ activeColors) ∧ (found = none → reclaim = none ∧
          ∀ color ∈ colors, color ∈ inactiveColors → color ∈ activeColors) := by
    intro colors
    induction colors with
    | nil => exact fun reclaim hreclaim => ⟨hreclaim, fun hnone => ⟨hnone, fun _ h => (nomatch h)⟩⟩
    | cons color colors ih =>
      intro reclaim hreclaim
      rw [List.foldl_cons]
      split
      · next htake =>
        obtain ⟨hfree, hfound⟩ := ih (some color) fun c hc => by
          cases hc
          exact List.count_eq_zero.mp htake.1
        exact ⟨hfree, fun hnone => nomatch (hfound hnone).1⟩
      · next hleave =>
        obtain ⟨hfree, hfound⟩ := ih reclaim hreclaim
        refine ⟨hfree, fun hnone => ⟨(hfound hnone).1, fun c hc hinactive => ?_⟩⟩
        obtain rfl | hc := List.mem_cons.mp hc
        · by_contra hactive
          refine hleave ⟨List.count_eq_zero.mpr hactive, List.count_pos_iff.mpr hinactive, ?_⟩
          rw [(hfound hnone).1]
          exact fun c hc => nomatch hc
        · exact (hfound hnone).2 c hc hinactive
  obtain ⟨hfree, hfound⟩ := hloop colors none fun color hcolor => nomatch hcolor
  exact ⟨hfree, fun hnone => (hfound hnone).2⟩

/-- **The choice.** While the palette has more colours than there are active numbers, the chosen colour is
that of none. -/
theorem chooseColor_not_mem {existingColor : Option String} {activeColors inactiveColors : List String}
    (hroom : activeColors.length < palette.length) :
    (chooseColor existingColor activeColors inactiveColors).color ∉ activeColors := by
  unfold chooseColor
  split
  · next color hkeep =>
    have hcolor := (Option.filter_eq_some_iff.mp hkeep).2
    exact List.count_eq_zero.mp (of_decide_eq_true hcolor).2
  · split
    · next color hfind => 
      have hcolor := List.find?_some hfind
      exact List.count_eq_zero.mp (of_decide_eq_true hcolor).1
    · next hnone =>
      split
      · next color hreclaim => exact (fewestInactive_spec ..).1 color hreclaim
      · next hfewest =>
        -- every colour of the palette has a holder, and none of them inactive numbers alone
        have hall : palette ⊆ activeColors := by
          intro color hcolor
          by_contra hfree
          have hheld := List.find?_eq_none.mp hnone color hcolor
          refine hfree ((fewestInactive_spec ..).2 hfewest color hcolor ?_)
          by_contra hnotHeld
          exact hheld (decide_eq_true ⟨List.count_eq_zero.mpr hfree, List.count_eq_zero.mpr hnotHeld⟩)
        have hle := (palette_nodup.subperm hall).length_le
        omega

/-! ## Rows and their colours -/

/-- Every row has its own number, and the active ones have colours, each its own. -/
structure Painted (numbers : List NumberRow) : Prop where
  nodup : (numbers.map (·.number)).Nodup
  colored : ∀ row ∈ numbers, row.isActive = true → row.color ≠ none
  distinct : ∀ row ∈ numbers, ∀ row' ∈ numbers, row.isActive = true → row'.isActive = true →
    row.number ≠ row'.number → row.color ≠ row'.color

theorem mem_activeColorsOf {numbers : List NumberRow} {color : String} :
    color ∈ activeColorsOf numbers ↔
      ∃ row ∈ numbers, row.isActive = true ∧ row.color = some color := by
  simp [activeColorsOf, List.mem_filterMap]

theorem length_activeColorsOf_le (numbers : List NumberRow) :
    (activeColorsOf numbers).length ≤ numbers.countP (·.isActive) := by
  induction numbers with
  | nil => exact Nat.le_refl _
  | cons row numbers ih =>
    rw [List.countP_cons]
    unfold activeColorsOf at ih ⊢
    rw [List.filterMap_cons]
    cases hactive : row.isActive with
    | false => simpa using ih
    | true =>
      cases row.color with
      | none => simpa using Nat.le_succ_of_le ih
      | some color => simpa using ih

/-- No row becomes active or takes another colour. -/
theorem Painted.map {numbers : List NumberRow} (h : Painted numbers) {f : NumberRow → NumberRow}
    (hnumber : ∀ row, (f row).number = row.number)
    (hactive : ∀ row ∈ numbers, (f row).isActive = true → row.isActive = true ∧ (f row).color = row.color) :
    Painted (numbers.map f) where
  nodup := by
    have hsame : (fun row : NumberRow => row.number) ∘ f = fun row => row.number := funext hnumber
    rw [List.map_map, hsame]
    exact h.nodup
  colored row hrow ha := by
    obtain ⟨old, hold, rfl⟩ := List.mem_map.mp hrow
    obtain ⟨ha, hcolor⟩ := hactive old hold ha
    rw [hcolor]
    exact h.colored old hold ha
  distinct row hrow row' hrow' ha ha' hne := by
    obtain ⟨old, hold, rfl⟩ := List.mem_map.mp hrow
    obtain ⟨old', hold', rfl⟩ := List.mem_map.mp hrow'
    obtain ⟨ha, hcolor⟩ := hactive old hold ha
    obtain ⟨ha', hcolor'⟩ := hactive old' hold' ha'
    rw [hcolor, hcolor']
    rw [hnumber, hnumber] at hne
    exact h.distinct old hold old' hold' ha ha' hne

/-- A row at its place. -/
theorem exists_split {numbers : List NumberRow} (hnodup : (numbers.map (·.number)).Nodup)
    {row : NumberRow} (hrow : row ∈ numbers) : ∃ l₁ l₂, numbers = l₁ ++ row :: l₂ ∧
      (∀ r ∈ l₁ ++ l₂, r.number ≠ row.number) ∧
        ∀ f, update numbers row.number f = l₁ ++ f row :: l₂ := by
  obtain ⟨l₁, l₂, rfl⟩ := List.append_of_mem hrow
  have hother : ∀ r ∈ l₁ ++ l₂, r.number ≠ row.number := by
    intro r hr heq
    have hperm : ((l₁ ++ row :: l₂).map (·.number)).Perm ((row :: (l₁ ++ l₂)).map (·.number)) :=
      List.perm_middle.map _
    rw [hperm.nodup_iff, List.map_cons, List.nodup_cons] at hnodup
    exact hnodup.1 (heq ▸ List.mem_map_of_mem hr)
  refine ⟨l₁, l₂, rfl, hother, fun f => ?_⟩
  have hid : ∀ l : List NumberRow, (∀ r ∈ l, r.number ≠ row.number) →
      l.map (fun r => if r.number = row.number then f r else r) = l := by
    intro l hl
    exact (List.map_congr_left fun r hr => if_neg (hl r hr)).trans (List.map_id l)
  rw [update, List.map_append, List.map_cons, if_pos rfl,
    hid l₁ fun r hr => hother r (List.mem_append_left _ hr),
    hid l₂ fun r hr => hother r (List.mem_append_right _ hr)]

theorem Painted.sublist {numbers numbers' : List NumberRow} (h : Painted numbers)
    (hsub : numbers'.Sublist numbers) : Painted numbers' where
  nodup := h.nodup.sublist (hsub.map _)
  colored row hrow := h.colored row (hsub.subset hrow)
  distinct row hrow row' hrow' := h.distinct row (hsub.subset hrow) row' (hsub.subset hrow')

/-- One number becomes active with a colour, whether it had a row or not. -/
def Gains (numbers numbers' : List NumberRow) (number color : String) : Prop :=
  ∃ l₁ l₂ row, numbers' = l₁ ++ row :: l₂ ∧ row.number = number ∧ row.isActive = true ∧
    row.color = some color ∧ (∀ r ∈ l₁ ++ l₂, r.number ≠ number) ∧
      (numbers = l₁ ++ l₂ ∨ ∃ old, old.isActive = false ∧ old.number = number ∧ numbers = l₁ ++ old :: l₂)

section
variable {numbers numbers' : List NumberRow} {number color : String}

theorem gains_update (hnodup : (numbers.map (·.number)).Nodup) {row : NumberRow} (hrow : row ∈ numbers)
    (hnumber : row.number = number) (hinactive : row.isActive = false) {f : NumberRow → NumberRow}
    (hf : (f row).number = number ∧ (f row).isActive = true ∧ (f row).color = some color) :
    Gains numbers (update numbers number f) number color := by
  subst hnumber
  obtain ⟨l₁, l₂, rfl, hother, hupdate⟩ := exists_split hnodup hrow
  exact ⟨l₁, l₂, f row, hupdate f, hf.1, hf.2.1, hf.2.2, hother, .inr ⟨row, hinactive, rfl, rfl⟩⟩

theorem gains_concat {row : NumberRow} (hnone : ∀ r ∈ numbers, r.number ≠ row.number)
    (hactive : row.isActive = true) (hcolor : row.color = some color) :
    Gains numbers (numbers ++ [row]) row.number color :=
  ⟨numbers, [], row, rfl, rfl, hactive, hcolor, by rwa [List.append_nil], .inl (List.append_nil _).symm⟩

/-- The active rows are those from before, and one more. -/
theorem Gains.activeColorsOf (h : Gains numbers numbers' number color) :
    (activeColorsOf numbers').Perm (color :: activeColorsOf numbers) := by
  obtain ⟨l₁, l₂, row, rfl, -, hactive, hcolor, -, rfl | ⟨old, hinactive, -, rfl⟩⟩ := h <;>
    simp only [Numbers.activeColorsOf, List.filterMap_append, List.filterMap_cons, hactive, if_true, hcolor]
  · exact List.perm_middle
  · simp only [hinactive, Bool.false_eq_true, if_false]
    exact List.perm_middle

theorem Gains.countP (h : Gains numbers numbers' number color) :
    numbers'.countP (·.isActive) = numbers.countP (·.isActive) + 1 := by
  obtain ⟨l₁, l₂, row, rfl, -, hactive, -, -, rfl | ⟨old, hinactive, -, rfl⟩⟩ := h
  · simp [hactive]
    omega
  · simp [hactive, hinactive]
    omega

theorem Gains.mem_iff (h : Gains numbers numbers' number color) {r : NumberRow} (hr : r.number ≠ number) :
    r ∈ numbers' ↔ r ∈ numbers := by
  obtain ⟨l₁, l₂, row, rfl, hnumber, -, -, -, rfl | ⟨old, -, hold, rfl⟩⟩ := h
  · have hne : r ≠ row := fun heq => hr (heq ▸ hnumber)
    simp [hne]
  · have hne : r ≠ row := fun heq => hr (heq ▸ hnumber)
    have hne' : r ≠ old := fun heq => hr (heq ▸ hold)
    simp [hne, hne']

/-- Where its colour is free, the colours are still distinct. -/
theorem Gains.painted (h : Gains numbers numbers' number color) (hpainted : Painted numbers)
    (hfree : color ∉ Numbers.activeColorsOf numbers) : Painted numbers' := by
  obtain ⟨l₁, l₂, row, rfl, hnumber, hactive, hcolor, hother, hold⟩ := h
  have hrest : Painted (l₁ ++ l₂) := by
    obtain rfl | ⟨old, -, -, rfl⟩ := hold
    · exact hpainted
    · exact hpainted.sublist ((List.sublist_cons_self old l₂).append_left l₁)
  have hunused : ∀ r ∈ l₁ ++ l₂, r.isActive = true → r.color ≠ some color := by
    intro r hr hactive' hcolor'
    refine hfree (mem_activeColorsOf.mpr ⟨r, ?_, hactive', hcolor'⟩)
    obtain rfl | ⟨old, -, -, rfl⟩ := hold
    · exact hr
    · exact ((List.sublist_cons_self old l₂).append_left l₁).subset hr
  have hmem : ∀ r ∈ l₁ ++ row :: l₂, r = row ∨ r ∈ l₁ ++ l₂ := by
    intro r hr
    rw [List.perm_middle.mem_iff] at hr
    exact List.mem_cons.mp hr
  refine ⟨?_, fun r hr ha => ?_, fun r hr r' hr' ha ha' hne => ?_⟩
  · have hperm : ((l₁ ++ row :: l₂).map (·.number)).Perm ((row :: (l₁ ++ l₂)).map (·.number)) :=
      List.perm_middle.map _
    rw [hperm.nodup_iff, List.map_cons, List.nodup_cons]
    refine ⟨fun hin => ?_, hrest.nodup⟩
    obtain ⟨r, hr, heq⟩ := List.mem_map.mp hin
    exact hother r hr (heq.trans hnumber)
  · obtain rfl | hr := hmem r hr
    · rw [hcolor]
      exact Option.some_ne_none _
    · exact hrest.colored r hr ha
  · obtain rfl | hold := hmem r hr
    · obtain rfl | hold' := hmem r' hr'
      · exact absurd rfl hne
      · rw [hcolor]
        exact (hunused r' hold' ha').symm
    · obtain rfl | hold' := hmem r' hr'
      · rw [hcolor]
        exact hunused r hold ha
      · exact hrest.distinct r hold r' hold' ha ha' hne

end

namespace NumberManagement

/-- Any two active numbers have different colours. -/
def Distinct (s : NumberManagement) : Prop :=
  ∀ row ∈ s.numbers, ∀ row' ∈ s.numbers, row.isActive = true → row'.isActive = true →
    row.number ≠ row'.number → row.color ≠ row'.color

/-- The palette has a colour for each active number; no number is reported twice, or while it is active
for another provider; and none that is made active by the user lacks a colour of its own. -/
def Proper (s : NumberManagement) (e : NumberEvent) : Prop :=
  (∀ t ∈ s.step e, t.activeCount ≤ palette.length) ∧
    match e with
    | .syncNumbers providerId providerNumbers => providerNumbers.Nodup ∧
      ∀ number ∈ providerNumbers, ∀ row ∈ s.numbers, row.number = number → row.isActive = true →
        row.providerId = some providerId
    | .setActive number true => ∀ row ∈ s.numbers, row.number = number → row.isActive = false →
        row.color ≠ none ∧ ∀ row' ∈ s.numbers, row'.isActive = true → row'.color ≠ row.color
    | _ => True

instance (s : NumberManagement) (e : NumberEvent) : Decidable (s.Proper e) := by
  unfold Proper
  refine @instDecidableAnd _ _ _ ?_
  split <;> infer_instance

/-- What a sync has before it is as it has read it. -/
structure Tracks (s : NumberManagement) (sync : Sync) : Prop where
  colors : sync.activeColors.Perm s.activeColors
  nodup : sync.providerNumbers.Nodup
  orphans : ∀ row ∈ sync.orphans, row ∈ s.numbers ∧ row.isActive = true ∧
    row.number ∉ sync.providerNumbers
  orphansNodup : (sync.orphans.map (·.number)).Nodup
  known : ∀ number ∈ sync.providerNumbers, ∀ existing,
    sync.dbNumbers.find? (·.number = number) = some existing → ∃ row ∈ s.numbers, row.number = number
  idle : ∀ number ∈ sync.providerNumbers, (∀ existing,
    sync.dbNumbers.find? (·.number = number) = some existing → existing.isActive = false) →
      ∀ row ∈ s.numbers, row.number = number → row.isActive = false

/-- The active numbers have their own colours, and a sync knows which. -/
structure Sound (s : NumberManagement) : Prop where
  painted : Painted s.numbers
  tracks : ∀ sync, s.sync = some sync → s.Tracks sync

variable {s t : NumberManagement}

/-- What reclaiming does: an inactive row may lose its colour. -/
theorem reclaimColor_spec (choice : ColorChoice) (reclaimed : String) :
    ∃ f : NumberRow → NumberRow, (s.reclaimColor choice reclaimed).numbers = s.numbers.map f ∧
      ∀ row, (f row).number = row.number ∧ (f row).isActive = row.isActive ∧
        (row.isActive = true → f row = row) := by
  unfold reclaimColor
  split
  · exact ⟨id, (List.map_id _).symm, fun row => ⟨rfl, rfl, fun _ => rfl⟩⟩
  · next color _ =>
    refine ⟨_, rfl, fun row => ?_⟩
    split
    · dsimp only
      split
      · next hholds =>
        refine ⟨rfl, rfl, fun hactive => ?_⟩
        rw [NumberRow.holds, hactive] at hholds
        cases hholds
      · exact ⟨rfl, rfl, fun _ => rfl⟩
    · exact ⟨rfl, rfl, fun _ => rfl⟩

/-- What the rows are after a colour was reclaimed. -/
theorem reclaimColor_rows (choice : ColorChoice) (reclaimed : String) :
    let numbers := (s.reclaimColor choice reclaimed).numbers
    activeColorsOf numbers = activeColorsOf s.numbers ∧
      numbers.countP (·.isActive) = s.numbers.countP (·.isActive) ∧
      (Painted s.numbers → Painted numbers) ∧
      (∀ row ∈ s.numbers, row.isActive = true → row ∈ numbers) ∧
      (∀ row ∈ s.numbers, ∃ row' ∈ numbers, row'.number = row.number) ∧
        ∀ row ∈ numbers, ∃ old ∈ s.numbers, old.number = row.number ∧ old.isActive = row.isActive := by
  obtain ⟨f, hnumbers, hf⟩ := reclaimColor_spec (s := s) choice reclaimed
  intro numbers
  subst numbers
  rw [hnumbers]
  refine ⟨?_, ?_, fun hpainted => ?_, fun row hrow hactive => ?_, fun row hrow => ?_, fun row hrow => ?_⟩
  · rw [activeColorsOf, List.filterMap_map]
    refine List.filterMap_congr fun row _ => ?_
    rw [Function.comp_apply, (hf row).2.1]
    split
    · next hactive => rw [(hf row).2.2 hactive]
    · rfl
  · rw [List.countP_map]
    exact List.countP_congr fun row _ => by rw [Function.comp_apply, (hf row).2.1]
  · refine hpainted.map (fun row => (hf row).1) fun row _ hactive => ?_
    rw [(hf row).2.1] at hactive
    exact ⟨hactive, by rw [(hf row).2.2 hactive]⟩
  · exact List.mem_map.mpr ⟨row, hrow, (hf row).2.2 hactive⟩
  · exact ⟨f row, List.mem_map_of_mem hrow, (hf row).1⟩
  · obtain ⟨old, hold, rfl⟩ := List.mem_map.mp hrow
    exact ⟨old, hold, (hf old).1.symm, (hf old).2.1.symm⟩

/-- A number of the provider: it gains a row that is active. -/
theorem activate_gains (h : s.Sound) {sync : Sync} (htracks : s.Tracks sync) {number reclaimed : String}
    (hnumber : number ∈ sync.providerNumbers) {r : NumberManagement × Sync}
    (hr : s.activate sync number reclaimed = some r) :
    r = (s, sync) ∨ ∃ choice existingColor inactiveColors inactiveColors',
      choice = chooseColor existingColor sync.activeColors inactiveColors ∧
      r.2 = { sync with
        activeColors := sync.activeColors ++ [choice.color], inactiveColors := inactiveColors' } ∧
      Gains (s.reclaimColor choice reclaimed).numbers r.1.numbers number choice.color := by
  obtain ⟨existing, -, -, rfl⟩ | ⟨choice, existingColor, inactive, inactive', hchoice, hsync, hcases⟩ :=
    activate_cases hr
  · exact .inl rfl
  obtain ⟨-, -, hpainted, -, hkeeps, hback⟩ := reclaimColor_rows (s := s) choice reclaimed
  have hnodup := (hpainted h.painted).nodup
  refine .inr ⟨choice, existingColor, inactive, inactive', hchoice, hsync, ?_⟩
  obtain ⟨hnone, hr⟩ | ⟨existing, hexisting, hinactive, hr⟩ := hcases
  · rw [hr]
    unfold upsert
    split
    · next hrow =>
      obtain ⟨row, hrow, rfl⟩ := hrow
      obtain ⟨old, hold, hsame, hactive⟩ := hback row hrow
      refine gains_update hnodup hrow rfl (hactive ▸ ?_) ⟨rfl, rfl, rfl⟩
      exact htracks.idle _ hnumber (by simp [hnone]) old hold hsame
    · next hno => exact gains_concat (fun row hrow heq => hno ⟨row, hrow, heq⟩) rfl rfl
  · rw [hr]
    obtain ⟨old, hold, rfl⟩ := htracks.known _ hnumber existing hexisting
    obtain ⟨row, hrow, hsame⟩ := hkeeps old hold
    obtain ⟨old', hold', hsame', hactive⟩ := hback row hrow
    refine gains_update hnodup hrow hsame (hactive ▸ ?_) ⟨hsame, rfl, rfl⟩
    refine htracks.idle _ hnumber (fun existing' hexisting' => ?_) old' hold' (hsame'.trans hsame)
    cases hexisting.symm.trans hexisting'
    exact hinactive

/-- A number gains a row that is active: the colours stay distinct, and the sync knows them. -/
theorem Sound.gain (h : s.Sound) {sync : Sync} (htracks : s.Tracks sync) {number reclaimed : String}
    {providerNumbers : List String} (hnumbers : sync.providerNumbers = number :: providerNumbers)
    {choice : ColorChoice} {existingColor : Option String} {inactiveColors : List String}
    (hchoice : choice = chooseColor existingColor sync.activeColors inactiveColors)
    (hgains : Gains (s.reclaimColor choice reclaimed).numbers t.numbers number choice.color)
    (hroom : t.activeCount ≤ palette.length) (sync' : Sync)
    (hproviderNumbers : sync'.providerNumbers = providerNumbers)
    (horphans : sync'.orphans = sync.orphans) (hdb : sync'.dbNumbers = sync.dbNumbers)
    (hcolors : sync'.activeColors = sync.activeColors ++ [choice.color]) :
    Painted t.numbers ∧ t.Tracks sync' := by
  obtain ⟨hsame, hcount, hpainted, hactive, hkeeps, hback⟩ := reclaimColor_rows (s := s) choice reclaimed
  have hfree : choice.color ∉ sync.activeColors := by
    rw [hchoice]
    refine chooseColor_not_mem ?_
    have hlength := htracks.colors.length_eq
    have hle := length_activeColorsOf_le s.numbers
    have hgained := hgains.countP
    unfold activeCount at hroom
    unfold activeColors at hlength
    omega
  have hnodup := htracks.nodup
  rw [hnumbers, List.nodup_cons] at hnodup
  have hne : ∀ n ∈ providerNumbers, n ≠ number := fun n hn heq => hnodup.1 (heq ▸ hn)
  refine ⟨hgains.painted (hpainted h.painted) ?_, ?_⟩
  · rw [hsame]
    exact fun hmem => hfree (htracks.colors.mem_iff.mpr hmem)
  constructor
  · rw [hcolors, activeColors]
    refine List.Perm.trans ?_ hgains.activeColorsOf.symm
    rw [hsame]
    exact (List.perm_append_singleton _ _).trans (htracks.colors.cons _)
  · rw [hproviderNumbers]
    exact hnodup.2
  · intro row hrow
    rw [horphans] at hrow
    obtain ⟨hmem, hrowActive, hnot⟩ := htracks.orphans row hrow
    rw [hnumbers, List.mem_cons, not_or] at hnot
    rw [hproviderNumbers]
    exact ⟨(hgains.mem_iff hnot.1).mpr (hactive row hmem hrowActive), hrowActive, hnot.2⟩
  · rw [horphans]
    exact htracks.orphansNodup
  · intro n hn existing hexisting
    rw [hproviderNumbers] at hn
    rw [hdb] at hexisting
    obtain ⟨old, hold, rfl⟩ := htracks.known n (hnumbers ▸ List.mem_cons_of_mem _ hn) existing hexisting
    obtain ⟨row, hrow, hrowNumber⟩ := hkeeps old hold
    exact ⟨row, (hgains.mem_iff (by rw [hrowNumber]; exact hne _ hn)).mpr hrow, hrowNumber⟩
  · intro n hn hidle row hrow hrowNumber
    rw [hproviderNumbers] at hn
    rw [hdb] at hidle
    rw [hgains.mem_iff (by rw [hrowNumber]; exact hne n hn)] at hrow
    obtain ⟨old, hold, holdNumber, hinactive⟩ := hback row hrow
    rw [← hinactive]
    exact htracks.idle n (hnumbers ▸ List.mem_cons_of_mem _ hn) hidle old hold (holdNumber.trans hrowNumber)

/-- A number that the provider has no more is not active any longer. -/
theorem Sound.orphan (h : s.Sound) {sync : Sync} (htracks : s.Tracks sync)
    (hnumbers : sync.providerNumbers = []) {dbNum : NumberRow} {orphans : List NumberRow}
    (horphans : sync.orphans = dbNum :: orphans) :
    Painted (s.orphan sync dbNum).1.numbers ∧
      { (s.orphan sync dbNum).1 with sync := some { (s.orphan sync dbNum).2 with orphans } }.Tracks
        { (s.orphan sync dbNum).2 with orphans } := by
  obtain ⟨hmem, hactive, -⟩ := htracks.orphans dbNum (horphans ▸ List.mem_cons_self)
  have hnodup := htracks.orphansNodup
  rw [horphans, List.map_cons, List.nodup_cons] at hnodup
  obtain ⟨l₁, l₂, hsplit, hother, hupdate⟩ := exists_split h.painted.nodup hmem
  obtain ⟨color, hcolor⟩ := Option.ne_none_iff_exists'.mp (h.painted.colored dbNum hmem hactive)
  have hrest : (s.orphan sync dbNum).1.numbers =
      l₁ ++ { dbNum with isActive := false, providerId := none } :: l₂ := hupdate _
  have hcolors : (s.orphan sync dbNum).2.activeColors = sync.activeColors.erase color ∧
      (s.orphan sync dbNum).2.providerNumbers = [] := by
    unfold NumberManagement.orphan
    rw [hcolor]
    exact ⟨rfl, hnumbers⟩
  refine ⟨h.painted.map (fun row => ?_) fun row _ hactive => ?_, ?_, ?_, ?_, ?_, ?_, ?_⟩
  · split <;> rfl
  · split at hactive
    · cases hactive
    · next hne => exact ⟨hactive, by rw [if_neg hne]⟩
  · show (s.orphan sync dbNum).2.activeColors.Perm (activeColorsOf (s.orphan sync dbNum).1.numbers)
    rw [hcolors.1, hrest]
    have hperm : sync.activeColors.Perm (color :: activeColorsOf (l₁ ++ l₂)) := by
      refine htracks.colors.trans ?_
      rw [activeColors, hsplit]
      simp only [activeColorsOf, List.filterMap_append, List.filterMap_cons, hactive, if_true, hcolor]
      exact List.perm_middle
    refine (hperm.erase color).trans ?_
    rw [List.erase_cons_head]
    simp [activeColorsOf]
  · show (s.orphan sync dbNum).2.providerNumbers.Nodup
    rw [hcolors.2]
    exact List.nodup_nil
  · intro row hrow
    obtain ⟨hrowMem, hrowActive, -⟩ := htracks.orphans row (horphans ▸ List.mem_cons_of_mem _ hrow)
    have hne : row.number ≠ dbNum.number := fun heq => hnodup.1 (heq ▸ List.mem_map_of_mem hrow)
    refine ⟨?_, hrowActive, ?_⟩
    · exact List.mem_map.mpr ⟨row, hrowMem, if_neg hne⟩
    · show row.number ∉ (s.orphan sync dbNum).2.providerNumbers
      rw [hcolors.2]
      exact List.not_mem_nil
  · exact hnodup.2
  · intro n hn
    rw [show (s.orphan sync dbNum).2.providerNumbers = [] from hcolors.2] at hn
    cases hn
  · intro n hn
    rw [show (s.orphan sync dbNum).2.providerNumbers = [] from hcolors.2] at hn
    cases hn

theorem Sound.next (h : s.Sound) {sync : Sync} (hsync : s.sync = some sync) {reclaimed : String}
    (hnext : s.next sync reclaimed = some t) (hroom : t.activeCount ≤ palette.length) : t.Sound := by
  have htracks := h.tracks sync hsync
  unfold NumberManagement.next at hnext
  split at hnext
  · next number providerNumbers hnumbers =>
    obtain ⟨r, hr, rfl⟩ := Option.map_eq_some_iff.mp hnext
    have hnumber : number ∈ sync.providerNumbers := hnumbers ▸ List.mem_cons_self
    obtain rfl | ⟨choice, existingColor, inactive, inactive', hchoice, hsync', hgains⟩ :=
      activate_gains h htracks hnumber hr
    · have hsub : ∀ n ∈ providerNumbers, n ∈ sync.providerNumbers := fun n hn =>
        hnumbers ▸ List.mem_cons_of_mem _ hn
      have hnodup := htracks.nodup
      rw [hnumbers, List.nodup_cons] at hnodup
      refine ⟨h.painted, fun sync' hsync' => ?_⟩
      cases hsync'
      exact ⟨htracks.colors, hnodup.2, fun row hrow => ⟨(htracks.orphans row hrow).1,
          (htracks.orphans row hrow).2.1, fun hin => (htracks.orphans row hrow).2.2 (hsub _ hin)⟩,
        htracks.orphansNodup, fun n hn => htracks.known n (hsub n hn),
        fun n hn => htracks.idle n (hsub n hn)⟩
    · have hgain := h.gain (t := { r.1 with sync := some { r.2 with providerNumbers } }) htracks hnumbers
        hchoice hgains hroom { r.2 with providerNumbers } rfl (by rw [hsync']) (by rw [hsync'])
        (by rw [hsync'])
      refine ⟨hgain.1, fun sync' hsync'' => ?_⟩
      cases hsync''
      exact hgain.2
  · next dbNum orphans hnumbers horphans =>
    cases hnext
    have horphan := h.orphan htracks hnumbers horphans
    refine ⟨horphan.1, fun sync' hsync' => ?_⟩
    cases hsync'
    exact horphan.2
  · cases hnext
    exact ⟨h.painted, fun sync' hsync' => (nomatch hsync')⟩

/-- What a sync has read is so. -/
theorem Sound.readNumbers (h : s.Sound) {providerId : String} {providerNumbers : List String}
    (hnodup : providerNumbers.Nodup)
    (hown : ∀ number ∈ providerNumbers, ∀ row ∈ s.numbers, row.number = number → row.isActive = true →
      row.providerId = some providerId) : s.Tracks (s.readNumbers providerId providerNumbers) where
  colors := List.Perm.refl _
  nodup := hnodup
  orphans row hrow := by
    obtain ⟨hdb, hcond⟩ := List.mem_filter.mp hrow
    obtain ⟨hactive, hnot⟩ := Bool.and_eq_true_iff.mp hcond
    exact ⟨(List.mem_filter.mp hdb).1, hactive, of_decide_eq_true hnot⟩
  orphansNodup :=
    h.painted.nodup.sublist ((List.filter_sublist.trans List.filter_sublist).map _)
  known number _ existing hexisting :=
    ⟨existing, (List.mem_filter.mp (List.mem_of_find?_eq_some hexisting)).1,
      by simpa using List.find?_some hexisting⟩
  idle number hnumber hidle row hrow hrowNumber := by
    by_contra hactive
    have hactive : row.isActive = true := by simpa using hactive
    have hdb : row ∈ (s.readNumbers providerId providerNumbers).dbNumbers :=
      List.mem_filter.mpr ⟨hrow, decide_eq_true (hown number hnumber row hrow hrowNumber hactive)⟩
    cases hfind : (s.readNumbers providerId providerNumbers).dbNumbers.find? (·.number = number) with
    | none => exact List.find?_eq_none.mp hfind row hdb (decide_eq_true hrowNumber)
    | some existing =>
      have hexisting := (List.mem_filter.mp (List.mem_of_find?_eq_some hfind)).1
      have hnumber : existing.number = number := by simpa using List.find?_some hfind
      have hsame := List.inj_on_of_nodup_map h.painted.nodup hexisting hrow (hnumber.trans hrowNumber.symm)
      rw [← hsame, hidle existing hfind] at hactive
      cases hactive

/-- The user makes a number active, or not. -/
theorem Sound.setActive (h : s.Sound) {number : String} {active : Bool}
    (hfree : active = true → ∀ row ∈ s.numbers, row.number = number → row.isActive = false →
      row.color ≠ none ∧ ∀ row' ∈ s.numbers, row'.isActive = true → row'.color ≠ row.color) :
    Painted (update s.numbers number fun row => { row with isActive := active }) := by
  by_cases hback : active = true ∧ ∃ row ∈ s.numbers, row.number = number ∧ row.isActive = false
  · obtain ⟨rfl, row, hrow, hnumber, hinactive⟩ := hback
    obtain ⟨hcolor, hunused⟩ := hfree rfl row hrow hnumber hinactive
    obtain ⟨color, hcolor⟩ := Option.ne_none_iff_exists'.mp hcolor
    refine Gains.painted (gains_update h.painted.nodup hrow hnumber hinactive ⟨hnumber, rfl, hcolor⟩)
      h.painted fun hmem => ?_
    obtain ⟨row', hrow', hactive', hcolor'⟩ := mem_activeColorsOf.mp hmem
    exact hunused row' hrow' hactive' (hcolor'.trans hcolor.symm)
  · refine h.painted.map (fun row => ?_) fun row hrow hactive => ?_
    · split <;> rfl
    · split at hactive
      · next hnumber =>
        refine ⟨?_, by rw [if_pos hnumber]⟩
        by_contra hinactive
        exact hback ⟨hactive, row, hrow, hnumber, Bool.eq_false_iff.mpr hinactive⟩
      · next hnumber => exact ⟨hactive, by rw [if_neg hnumber]⟩

theorem Sound.step (h : s.Sound) {e : NumberEvent} (hproper : s.Proper e) (hstep : s.step e = some t) :
    t.Sound := by
  obtain ⟨hroom, hguard⟩ := hproper
  replace hroom := hroom t hstep
  -- where no sync is at work before, none is after
  have hidle : ∀ {u : NumberManagement}, u.sync = none → Painted u.numbers → u.Sound := fun hnone hpainted =>
    ⟨hpainted, fun sync hsync => by cases hnone.symm.trans hsync⟩
  obtain ⟨reclaimed, sync, rfl, hsync, hnext⟩ | ⟨hsync, ⟨providerId, rfl, rfl⟩ | ⟨providerId, rfl, -, rfl⟩ |
    ⟨providerId, providerNumbers, rfl, rfl⟩ | ⟨number, label, rfl, rfl⟩ | ⟨number, active, rfl, rfl⟩⟩ :=
    step_cases hstep
  · exact h.next hsync hnext hroom
  · exact hidle hsync h.painted
  · refine hidle hsync (h.painted.map (fun row => ?_) fun row _ hactive => ?_)
    · split <;> rfl
    · split at hactive
      · cases hactive
      · next hne => exact ⟨hactive, by rw [if_neg hne]⟩
  · refine ⟨h.painted, fun sync hsync => ?_⟩
    cases hsync
    obtain ⟨hcolors, hnodup, horphans, horphansNodup, hknown, hidle⟩ := h.readNumbers hguard.1 hguard.2
    exact ⟨hcolors, hnodup, horphans, horphansNodup, hknown, hidle⟩
  · refine hidle hsync (h.painted.map (fun row => ?_) fun row _ hactive => ?_)
    · dsimp only
      repeat' split
      all_goals rfl
    · revert hactive
      dsimp only
      repeat' split
      all_goals exact fun hactive => ⟨hactive, rfl⟩
  · refine hidle hsync (h.setActive fun hactive => ?_)
    subst hactive
    exact hguard

/-- The steps of a sync. -/
def syncWith (providerId : String) (providerNumbers : List String) (steps : Nat) : List NumberEvent :=
  .syncNumbers providerId providerNumbers :: List.replicate steps (.syncNext "")

/-- A number that has its label from the user. -/
def labelled : List NumberEvent :=
  .addProvider "first" :: syncWith "first" ["+46700000001"] 2 ++ [.updateLabel "+46700000001" "Home"]

/-- Sixteen numbers. -/
def sixteen : List String :=
  ["1", "2", "3", "4", "5", "6", "7", "8", "9", "10", "11", "12", "13", "14", "15", "16"]

end NumberManagement

end Svarla.Numbers
