import Svarla.Lib.Run
import Svarla.Lib.Utf16

/-!
# Numbers, their labels and colours

`NumberManagementService` and `removeProvider`, over the table `numbers`. The operations come one after
another, and a sync goes number by number; nothing is told of it to the clients here. What is not said of
a number here (when it was added and used, and whether it takes calls) no operation looks at.

A sync keeps the labels; `removeProvider` clears those of its numbers.
-/

namespace Svarla.Numbers

open Svarla.Lib

/-- `NUMBER_COLOR_PALETTE`. -/
def palette : List String :=
  ["#D32F2F", "#1976D2", "#388E3C", "#F9A825", "#7B1FA2", "#0097A7", "#E64A19", "#5C6BC0",
    "#689F38", "#C2185B", "#00897B", "#F57F17", "#512DA8", "#0288D1", "#AFB42B", "#AD1457"]

theorem palette_nodup : palette.Nodup := by decide

/-! ## Choosing a colour -/

structure ColorChoice where
  color : String
  reclaimFrom : Option String
  deriving DecidableEq, Repr

/-- The colour of the palette with the fewest inactive holders, of those that inactive numbers alone
hold. -/
def fewestInactive (activeColors inactiveColors : List String) : List String → Option String :=
  List.foldl (fun reclaim color =>
    if activeColors.count color = 0 ∧ 0 < inactiveColors.count color ∧
        ∀ c ∈ reclaim, inactiveColors.count color < inactiveColors.count c then some color
    else reclaim) none

/-- The colour of the palette that the fewest active numbers have. -/
def leastUsed (activeColors : List String) : String :=
  palette.foldl (fun best color =>
    if activeColors.count color < activeColors.count best then color else best) "#D32F2F"

/-- `chooseColor`. -/
def chooseColor (existingColor : Option String) (activeColors inactiveColors : List String) :
    ColorChoice :=
  match existingColor.filter fun color => color ∈ palette ∧ activeColors.count color = 0 with
  | some color => ⟨color, none⟩
  | none =>
    match palette.find? fun color => activeColors.count color = 0 ∧ inactiveColors.count color = 0 with
    | some color => ⟨color, none⟩
    | none =>
      match fewestInactive activeColors inactiveColors palette with
      | some color => ⟨color, some color⟩
      | none => ⟨leastUsed activeColors, none⟩

/-! ## The table -/

/-- A row of `numbers`. -/
structure NumberRow where
  number : String
  providerId : Option String
  label : Option String
  color : Option String
  isActive : Bool
  deriving DecidableEq, Repr

/-- A sync at work: what it has read, and what it has still to do. -/
structure Sync where
  providerId : String
  dbNumbers : List NumberRow
  /-- The rest of what the provider has reported. -/
  providerNumbers : List String
  /-- The rest of the numbers that the provider has no more. -/
  orphans : List NumberRow
  activeColors : List String
  inactiveColors : List String
  deriving DecidableEq, Repr

structure NumberManagement where
  /-- The providers in the registry; each has an instance. -/
  providers : List String
  numbers : List NumberRow
  sync : Option Sync
  deriving DecidableEq, Repr

inductive NumberEvent
  | addProvider (providerId : String)
  | removeProvider (providerId : String)
  /-- `syncNumbers`, up to its first write; the provider reports its numbers. -/
  | syncNumbers (providerId : String) (providerNumbers : List String)
  /-- The sync goes on; `reclaimed` is the row that the database takes where a colour is reclaimed. -/
  | syncNext (reclaimed : String)
  | updateLabel (number label : String)
  | setActive (number : String) (active : Bool)
  deriving DecidableEq, Repr

/-- `validateLabel`. -/
def validateLabel (label : String) : Bool :=
  1 ≤ (Utf16.encode label.toList).length && (Utf16.encode label.toList).length ≤ 30

/-- The rows of a number are changed. -/
def update (numbers : List NumberRow) (number : String) (f : NumberRow → NumberRow) :
    List NumberRow :=
  numbers.map fun row => if row.number = number then f row else row

/-- The colours of the rows that are active. -/
def activeColorsOf (numbers : List NumberRow) : List String :=
  numbers.filterMap fun row => if row.isActive then row.color else none

/-- Whether a row is an inactive holder of a colour. -/
def NumberRow.holds (row : NumberRow) (color : String) : Bool :=
  !row.isActive && row.color = some color

namespace NumberManagement

def init : NumberManagement := ⟨[], [], none⟩

/-- The row of a number. -/
def find (s : NumberManagement) (number : String) : Option NumberRow :=
  s.numbers.find? (·.number = number)

/-- What `getColorUsage` has of the active numbers. -/
def activeColors (s : NumberManagement) : List String := activeColorsOf s.numbers

/-- What `getColorUsage` has of the others. -/
def inactiveColors (s : NumberManagement) : List String :=
  s.numbers.filterMap fun row => if row.isActive then none else row.color

def activeCount (s : NumberManagement) : Nat := s.numbers.countP (·.isActive)

/-- `syncNumbers` reads the rows of the provider, and the colours. -/
def readNumbers (s : NumberManagement) (providerId : String) (providerNumbers : List String) : Sync :=
  let dbNumbers := s.numbers.filter (·.providerId = some providerId)
  { providerId, dbNumbers, providerNumbers
    orphans := dbNumbers.filter fun row => row.isActive && decide (row.number ∉ providerNumbers)
    activeColors := s.activeColors
    inactiveColors := s.inactiveColors }

/-- `reclaimColor`: one inactive holder, which the database takes, loses the colour. -/
def reclaimColor (s : NumberManagement) (choice : ColorChoice) (reclaimed : String) : NumberManagement :=
  match choice.reclaimFrom with
  | none => s
  | some color =>
    { s with numbers := update s.numbers reclaimed fun row =>
        if row.holds color then { row with color := none } else row }

/-- The database takes one, where there is one. -/
def Takes (s : NumberManagement) (choice : ColorChoice) (reclaimed : String) : Prop :=
  ∀ color ∈ choice.reclaimFrom, (∃ row ∈ s.numbers, row.holds color = true) →
    ∃ row ∈ s.numbers, row.number = reclaimed ∧ row.holds color = true

instance (s : NumberManagement) (choice : ColorChoice) (reclaimed : String) :
    Decidable (s.Takes choice reclaimed) :=
  inferInstanceAs (Decidable (∀ color ∈ choice.reclaimFrom, _))

/-- The row of a number that is new to the provider: it is inserted, or updated where there is one. -/
def upsert (s : NumberManagement) (providerId number color : String) : NumberManagement :=
  { s with numbers :=
      if ∃ row ∈ s.numbers, row.number = number then
        update s.numbers number fun row =>
          { row with providerId := some providerId, isActive := true, color := some color }
      else s.numbers ++ [⟨number, some providerId, none, some color, true⟩] }

/-- A number that the provider has reported. -/
def activate (s : NumberManagement) (sync : Sync) (number reclaimed : String) :
    Option (NumberManagement × Sync) :=
  match sync.dbNumbers.find? (·.number = number) with
  | none =>
    let choice := chooseColor none sync.activeColors sync.inactiveColors
    if s.Takes choice reclaimed then
      some ((s.reclaimColor choice reclaimed).upsert sync.providerId number choice.color,
        { sync with
          activeColors := sync.activeColors ++ [choice.color]
          inactiveColors := choice.reclaimFrom.elim sync.inactiveColors sync.inactiveColors.erase })
    else none
  | some existing =>
    if existing.isActive then some (s, sync)
    else
      let inactiveColors := existing.color.elim sync.inactiveColors sync.inactiveColors.erase
      let choice := chooseColor existing.color sync.activeColors inactiveColors
      if s.Takes choice reclaimed then
        let s := s.reclaimColor choice reclaimed
        some ({ s with numbers := update s.numbers number fun row =>
              { row with isActive := true, color := some choice.color } },
          { sync with
            activeColors := sync.activeColors ++ [choice.color]
            inactiveColors := choice.reclaimFrom.elim inactiveColors inactiveColors.erase })
      else none

/-- A number that the provider has no more. -/
def orphan (s : NumberManagement) (sync : Sync) (dbNum : NumberRow) : NumberManagement × Sync :=
  ({ s with numbers := update s.numbers dbNum.number fun row =>
      { row with isActive := false, providerId := none } },
    match dbNum.color with
    | none => sync
    | some color =>
      { sync with
        activeColors := sync.activeColors.erase color
        inactiveColors := sync.inactiveColors ++ [color] })

/-- A sync goes on. -/
def next (s : NumberManagement) (sync : Sync) (reclaimed : String) : Option NumberManagement :=
  match sync.providerNumbers, sync.orphans with
  | number :: providerNumbers, _ =>
    (s.activate sync number reclaimed).map fun r =>
      { r.1 with sync := some { r.2 with providerNumbers } }
  | [], dbNum :: orphans =>
    let r := s.orphan sync dbNum
    some { r.1 with sync := some { r.2 with orphans } }
  | [], [] => some { s with sync := none }

/-- One event. -/
def step (s : NumberManagement) : NumberEvent → Option NumberManagement
  | .syncNext reclaimed =>
    match s.sync with
    | none => none
    | some sync => s.next sync reclaimed
  | e =>
    if s.sync ≠ none then none
    else
      match e with
      | .addProvider providerId =>
        if providerId ∈ s.providers then none
        else some { s with providers := providerId :: s.providers }
      | .removeProvider providerId =>
        if providerId ∈ s.providers then
          some { s with
            providers := s.providers.erase providerId
            numbers := s.numbers.map fun row =>
              if row.providerId = some providerId then
                { row with isActive := false, providerId := none, label := none }
              else row }
        else none
      | .syncNumbers providerId providerNumbers =>
        if providerId ∈ s.providers then
          some { s with sync := some (s.readNumbers providerId providerNumbers) }
        else none
      | .updateLabel number label =>
        if validateLabel label then
          some { s with numbers := update s.numbers number fun row =>
            if row.isActive then { row with label := some label } else row }
        else some s
      | .setActive number active =>
        some { s with numbers := update s.numbers number fun row => { row with isActive := active } }
      | .syncNext _ => none

/-! ## Labels -/

/-- No label is set for the number, and its provider is not removed. -/
def KeepsLabel (number : String) (s : NumberManagement) : NumberEvent → Prop
  | .updateLabel number' _ => number' ≠ number
  | .removeProvider providerId => ∀ row ∈ s.find number, row.providerId ≠ some providerId
  | _ => True

instance (number : String) (s : NumberManagement) (e : NumberEvent) :
    Decidable (s.KeepsLabel number e) := by
  unfold KeepsLabel
  split <;> infer_instance

/-- The rows stay, with labels that `label` tells. -/
def Relabels (label : NumberRow → Option String) (s t : NumberManagement) : Prop :=
  ∀ number row, s.find number = some row → ∃ row', t.find number = some row' ∧ row'.label = label row

variable {s t u : NumberManagement}

theorem relabels_map {label : NumberRow → Option String} {f : NumberRow → NumberRow}
    (ht : t.numbers = s.numbers.map f) (hnumber : ∀ row, (f row).number = row.number)
    (hlabel : ∀ row, (f row).label = label row) : Relabels label s t := by
  intro number row hrow
  refine ⟨f row, ?_, hlabel row⟩
  have hsame : (fun row : NumberRow => decide (row.number = number)) ∘ f =
      fun row => decide (row.number = number) := by
    funext row
    rw [Function.comp_apply, hnumber]
  rw [find, ht, List.find?_map, hsame]
  exact congrArg (Option.map f) hrow

theorem relabels_update {label : NumberRow → Option String} {number : String}
    {f : NumberRow → NumberRow} (ht : t.numbers = update s.numbers number f)
    (hf : ∀ row, (f row).number = row.number ∧ (row.number = number → (f row).label = label row))
    (hother : ∀ row, row.number ≠ number → row.label = label row) : Relabels label s t := by
  refine relabels_map ht (fun row => ?_) fun row => ?_ <;> split
  · exact (hf row).1
  · rfl
  · next h => exact (hf row).2 h
  · next h => exact hother row h

theorem Relabels.trans (h : Relabels NumberRow.label s t)
    (h' : Relabels NumberRow.label t u) : Relabels NumberRow.label s u := by
  intro number row hrow
  obtain ⟨row', hrow', hlabel⟩ := h number row hrow
  obtain ⟨row'', hrow'', hlabel'⟩ := h' number row' hrow'
  exact ⟨row'', hrow'', hlabel'.trans hlabel⟩

theorem relabels_of_eq (h : t.numbers = s.numbers) : Relabels NumberRow.label s t :=
  fun number row hrow => ⟨row, by rw [find, h]; exact hrow, rfl⟩

theorem reclaimColor_relabels (choice : ColorChoice) (reclaimed : String) :
    Relabels NumberRow.label s (s.reclaimColor choice reclaimed) := by
  unfold reclaimColor
  split
  · exact relabels_of_eq rfl
  · refine relabels_update rfl (fun row => ?_) fun _ _ => rfl
    split <;> exact ⟨rfl, fun _ => rfl⟩

theorem upsert_relabels (providerId number color : String) :
    Relabels NumberRow.label s (s.upsert providerId number color) := by
  unfold upsert
  split
  · exact relabels_update rfl (fun row => ⟨rfl, fun _ => rfl⟩) fun _ _ => rfl
  · intro number' row hrow
    refine ⟨row, ?_, rfl⟩
    rw [find, List.find?_append, show s.numbers.find? _ = some row from hrow]
    rfl

/-- What a sync does with a number: nothing where it is active, or it makes its row active with a colour
that was chosen. -/
theorem activate_cases {sync : Sync} {number reclaimed : String} {r : NumberManagement × Sync}
    (h : s.activate sync number reclaimed = some r) :
    (∃ existing, sync.dbNumbers.find? (·.number = number) = some existing ∧ existing.isActive = true ∧
        r = (s, sync)) ∨
      ∃ choice existingColor inactiveColors inactiveColors',
        choice = chooseColor existingColor sync.activeColors inactiveColors ∧
        r.2 = { sync with
          activeColors := sync.activeColors ++ [choice.color], inactiveColors := inactiveColors' } ∧
        (sync.dbNumbers.find? (·.number = number) = none ∧
            r.1 = (s.reclaimColor choice reclaimed).upsert sync.providerId number choice.color ∨
          ∃ existing, sync.dbNumbers.find? (·.number = number) = some existing ∧
            existing.isActive = false ∧ r.1 = { s.reclaimColor choice reclaimed with
              numbers := update (s.reclaimColor choice reclaimed).numbers number fun row =>
                { row with isActive := true, color := some choice.color } }) := by
  unfold activate at h
  split at h
  · next hnone =>
    simp only at h
    split at h <;> cases h
    exact .inr ⟨_, _, _, _, rfl, rfl, .inl ⟨hnone, rfl⟩⟩
  · next existing hexisting =>
    split at h
    · next hactive =>
      cases h
      exact .inl ⟨existing, hexisting, hactive, rfl⟩
    · next hinactive =>
      simp only at h
      split at h <;> cases h
      exact .inr ⟨_, _, _, _, rfl, rfl, .inr ⟨existing, hexisting, Bool.eq_false_iff.mpr hinactive, rfl⟩⟩

theorem activate_relabels {sync : Sync} {number reclaimed : String} {r : NumberManagement × Sync}
    (h : s.activate sync number reclaimed = some r) : Relabels NumberRow.label s r.1 := by
  obtain ⟨existing, -, -, rfl⟩ | ⟨choice, -, -, -, -, -, ⟨-, hr⟩ | ⟨existing, -, -, hr⟩⟩ := activate_cases h
  · exact relabels_of_eq rfl
  · rw [hr]
    exact Relabels.trans (reclaimColor_relabels choice reclaimed) (upsert_relabels _ _ _)
  · rw [hr]
    exact Relabels.trans (reclaimColor_relabels choice reclaimed)
      (relabels_update rfl (fun row => ⟨rfl, fun _ => rfl⟩) fun _ _ => rfl)

/-- A sync changes no label. -/
theorem next_relabels {sync : Sync} {reclaimed : String} (h : s.next sync reclaimed = some t) :
    Relabels NumberRow.label s t := by
  unfold next at h
  split at h
  · obtain ⟨r, hr, rfl⟩ := Option.map_eq_some_iff.mp h
    exact activate_relabels hr
  · cases h
    exact relabels_update rfl (fun row => ⟨rfl, fun _ => rfl⟩) fun _ _ => rfl
  · cases h
    exact relabels_of_eq rfl

/-- The label of a row after an event. -/
def labelAfter (e : NumberEvent) (row : NumberRow) : Option String :=
  match e with
  | .updateLabel number label =>
    if row.number = number ∧ row.isActive = true ∧ validateLabel label = true then some label
    else row.label
  | .removeProvider providerId => if row.providerId = some providerId then none else row.label
  | _ => row.label

theorem idle_of_step {α : Type} {x : Option α} {y : α} (h : (if s.sync ≠ none then none else x) = some y) :
    s.sync = none ∧ x = some y := by
  split at h
  · cases h
  · next hsync => exact ⟨not_not.mp hsync, h⟩

/-- What an event does, where no sync is at work. -/
theorem step_cases {e : NumberEvent} (h : s.step e = some t) :
    (∃ reclaimed sync, e = .syncNext reclaimed ∧ s.sync = some sync ∧ s.next sync reclaimed = some t) ∨
      s.sync = none ∧
        ((∃ providerId, e = .addProvider providerId ∧
            t = { s with providers := providerId :: s.providers }) ∨
          (∃ providerId, e = .removeProvider providerId ∧ providerId ∈ s.providers ∧
            t = { s with
              providers := s.providers.erase providerId
              numbers := s.numbers.map fun row =>
                if row.providerId = some providerId then
                  { row with isActive := false, providerId := none, label := none }
                else row }) ∨
          (∃ providerId providerNumbers, e = .syncNumbers providerId providerNumbers ∧
            t = { s with sync := some (s.readNumbers providerId providerNumbers) }) ∨
          (∃ number label, e = .updateLabel number label ∧
            t = { s with numbers := update s.numbers number fun row =>
              if row.isActive = true ∧ validateLabel label = true then { row with label := some label }
              else row }) ∨
          ∃ number active, e = .setActive number active ∧
            t = { s with
              numbers := update s.numbers number fun row => { row with isActive := active } }) := by
  cases e with
  | syncNext reclaimed =>
    simp only [step] at h
    split at h
    · cases h
    · next sync hsync => exact .inl ⟨reclaimed, sync, rfl, hsync, h⟩
  | addProvider providerId =>
    obtain ⟨hsync, h⟩ := idle_of_step h
    split at h <;> cases h
    exact .inr ⟨hsync, .inl ⟨providerId, rfl, rfl⟩⟩
  | removeProvider providerId =>
    obtain ⟨hsync, h⟩ := idle_of_step h
    split at h <;> cases h
    exact .inr ⟨hsync, .inr (.inl ⟨providerId, rfl, ‹_›, rfl⟩)⟩
  | syncNumbers providerId providerNumbers =>
    obtain ⟨hsync, h⟩ := idle_of_step h
    split at h <;> cases h
    exact .inr ⟨hsync, .inr (.inr (.inl ⟨providerId, providerNumbers, rfl, rfl⟩))⟩
  | updateLabel number label =>
    obtain ⟨hsync, h⟩ := idle_of_step h
    refine .inr ⟨hsync, .inr (.inr (.inr (.inl ⟨number, label, rfl, ?_⟩)))⟩
    split at h <;> cases h
    · next hvalid => simp [hvalid]
    · next hinvalid => simp [hinvalid, update]
  | setActive number active =>
    obtain ⟨hsync, h⟩ := idle_of_step h
    cases h
    exact .inr ⟨hsync, .inr (.inr (.inr (.inr ⟨number, active, rfl, rfl⟩)))⟩

theorem step_label {e : NumberEvent} (h : s.step e = some t) : Relabels (labelAfter e) s t := by
  obtain ⟨reclaimed, sync, rfl, -, hnext⟩ | ⟨-, ⟨providerId, rfl, rfl⟩ | ⟨providerId, rfl, -, rfl⟩ |
    ⟨providerId, providerNumbers, rfl, rfl⟩ | ⟨number, label, rfl, rfl⟩ | ⟨number, active, rfl, rfl⟩⟩ :=
    step_cases h
  · exact next_relabels hnext
  · exact relabels_of_eq rfl
  · refine relabels_map rfl (fun row => ?_) fun row => ?_
    · split <;> rfl
    · unfold labelAfter
      dsimp only
      split <;> rfl
  · exact relabels_of_eq rfl
  · refine relabels_update rfl (fun row => ?_) fun row hrow => ?_
    · split
      · next hset => exact ⟨rfl, fun hrow => (if_pos ⟨hrow, hset⟩).symm⟩
      · next hset => exact ⟨rfl, fun _ => (if_neg fun h => hset h.2).symm⟩
    · exact (if_neg fun h => hrow h.1).symm
  · exact relabels_update rfl (fun row => ⟨rfl, fun _ => rfl⟩) fun _ _ => rfl

/-- Where it is not set, and the provider is not removed, a label is kept. -/
theorem label_kept {number : String} {row : NumberRow} {es : List NumberEvent}
    (hrow : s.find number = some row) (hguard : Guarded step (KeepsLabel number) s es)
    (hrun : exec step s es = some t) : ∃ row', t.find number = some row' ∧ row'.label = row.label := by
  refine hguard.invariant (I := fun s => ∃ row', s.find number = some row' ∧ row'.label = row.label)
    (fun s e t ⟨row', hrow', hlabel⟩ hkeeps hstep => ?_) ⟨row, hrow, rfl⟩ hrun
  obtain ⟨row'', hrow'', hlabel'⟩ := step_label hstep number row' hrow'
  refine ⟨row'', hrow'', hlabel'.trans (Eq.trans ?_ hlabel)⟩
  have hnumber : row'.number = number := by simpa using List.find?_some hrow'
  cases e with
  | updateLabel number' label => exact if_neg fun h => hkeeps (h.1.symm.trans hnumber)
  | removeProvider providerId => exact if_neg (hkeeps row' hrow')
  | _ => rfl

/-- A number without a label has none before one is set. -/
theorem label_none {number : String} {row : NumberRow} {es : List NumberEvent}
    (hrow : s.find number = some row) (hlabel : row.label = none)
    (hes : ∀ label, .updateLabel number label ∉ es) (hrun : exec step s es = some t) :
    ∃ row', t.find number = some row' ∧ row'.label = none := by
  induction es generalizing s row with
  | nil =>
    cases hrun
    exact ⟨row, hrow, hlabel⟩
  | cons e es ih =>
    obtain ⟨u, hstep, hrun⟩ := Option.bind_eq_some_iff.mp hrun
    obtain ⟨row', hrow', hlabel'⟩ := step_label hstep number row hrow
    refine ih hrow' (hlabel'.trans ?_) (fun label hmem => hes label (List.mem_cons_of_mem _ hmem)) hrun
    have hnumber : row.number = number := by simpa using List.find?_some hrow
    cases e with
    | updateLabel number' label =>
      refine (if_neg fun h => hes label ?_).trans hlabel
      rw [h.1.symm.trans hnumber]
      exact List.mem_cons_self
    | removeProvider providerId =>
      unfold labelAfter
      dsimp only
      split
      · rfl
      · exact hlabel
    | _ => exact hlabel

end NumberManagement

end Svarla.Numbers
