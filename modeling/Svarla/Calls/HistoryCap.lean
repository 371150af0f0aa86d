import Mathlib
import Svarla.Lib.Run

/-!
# The cap on the history of calls

`recordCall` adds an entry, and then `enforceEntryCap` counts the entries, reads which ones are the oldest if
there are too many, and deletes these. Other calls may come between these statements: two that count the same
excess delete it twice, and leave fewer entries than they could.

But the cap holds: there are never more entries than it allows and calls are under way (`length_le_cap`). And
what is deleted is old: no entry that is gone is newer than one that is there (`newest_stay`). A history that
is full stays so where calls do not overlap (`stays_full`).
-/

namespace Svarla.Calls

open Svarla.Lib

/-- What `enforceEntryCap` reads of a row of `call_history`. -/
structure HistoryEntry where
  id : String
  timestamp : Int
  deriving DecidableEq, Repr

/-- `enforceEntryCap`, once it has counted too many entries. -/
inductive Enforcement
  | reading (excess : Nat)
  | deleting (idsToDelete : List String)
  deriving DecidableEq, Repr

structure CallHistory where
  entries : List HistoryEntry
  /-- The clock of the database. -/
  now : Int
  /-- The calls of `recordCall` whose entry is there and that have not counted yet. -/
  counting : Nat
  /-- Those that have counted too many entries, in the order in which they did. -/
  enforcements : List Enforcement
  deriving DecidableEq, Repr

inductive CallHistoryEvent
  | timePasses (time : Nat)
  | insert (id : String)
  | count
  | read (i : Nat) (oldestEntries : List HistoryEntry)
  | delete (i : Nat)
  /-- The statement of a call that has not counted fails, or that of the `i`-th that has. -/
  | countFails
  | fails (i : Nat)
  deriving DecidableEq, Repr

namespace CallHistory

def init (now : Int) : CallHistory := ⟨[], now, 0, []⟩

/-- What the oldest entries may be; those of one time come in any order. -/
def Oldest (entries : List HistoryEntry) (excess : Nat) (oldestEntries : List HistoryEntry) : Prop :=
  oldestEntries.Nodup ∧ oldestEntries.length = min excess entries.length ∧
    (∀ entry ∈ oldestEntries, entry ∈ entries) ∧
      ∀ entry ∈ oldestEntries, ∀ other ∈ entries, other ∉ oldestEntries → entry.timestamp ≤ other.timestamp

instance (entries : List HistoryEntry) (excess : Nat) (oldestEntries : List HistoryEntry) :
    Decidable (Oldest entries excess oldestEntries) :=
  inferInstanceAs (Decidable (_ ∧ _ ∧ _ ∧ _))

/-- `cap` is `MAX_HISTORY_ENTRIES`. An entry with an id that is there is refused. -/
def step (cap : Nat) (h : CallHistory) : CallHistoryEvent → Option CallHistory
  | .timePasses time => some { h with now := h.now + time }
  | .insert id =>
    if id ∈ h.entries.map (·.id) then some h
    else some { h with entries := h.entries ++ [⟨id, h.now⟩], counting := h.counting + 1 }
  | .count =>
    if h.counting = 0 then none
    else if cap < h.entries.length then
      some { h with
        counting := h.counting - 1
        enforcements := h.enforcements ++ [.reading (h.entries.length - cap)] }
    else some { h with counting := h.counting - 1 }
  | .read i oldestEntries =>
    match h.enforcements[i]? with
    | some (.reading excess) =>
      if ¬ Oldest h.entries excess oldestEntries then none
      else if oldestEntries = [] then some { h with enforcements := h.enforcements.eraseIdx i }
      else some { h with enforcements := h.enforcements.set i (.deleting (oldestEntries.map (·.id))) }
    | _ => none
  | .delete i =>
    match h.enforcements[i]? with
    | some (.deleting idsToDelete) =>
      some { h with
        entries := h.entries.filter (·.id ∉ idsToDelete)
        enforcements := h.enforcements.eraseIdx i }
    | _ => none
  | .countFails => if h.counting = 0 then none else some { h with counting := h.counting - 1 }
  | .fails i =>
    if i < h.enforcements.length then some { h with enforcements := h.enforcements.eraseIdx i } else none

variable {cap : Nat} {s t u h : CallHistory} {e : CallHistoryEvent} {es : List CallHistoryEvent}

/-! ## The cap -/

/-- How many entries a call leaves, if it goes on with those that there are now. -/
def left (entries : List HistoryEntry) : Enforcement → Nat
  | .reading excess => entries.length - excess
  | .deleting idsToDelete => (entries.filter (·.id ∉ idsToDelete)).length

theorem left_le (entries : List HistoryEntry) (c : Enforcement) : left entries c ≤ entries.length := by
  cases c with
  | reading excess => exact Nat.sub_le _ _
  | deleting idsToDelete => exact List.length_filter_le _ _

theorem left_mono {entries entries' : List HistoryEntry} (h : entries'.Sublist entries) (c : Enforcement) :
    left entries' c ≤ left entries c := by
  cases c with
  | reading excess => exact Nat.sub_le_sub_right h.length_le excess
  | deleting idsToDelete => exact (h.filter _).length_le

theorem left_concat (entries : List HistoryEntry) (entry : HistoryEntry) (c : Enforcement) :
    left (entries ++ [entry]) c ≤ left entries c + 1 := by
  cases c with
  | reading excess => simp only [left, List.length_append, List.length_singleton]; omega
  | deleting idsToDelete =>
    simp only [left, List.filter_append, List.length_append]
    have := List.length_filter_le (fun entry => decide (entry.id ∉ idsToDelete)) [entry]
    simp only [List.length_singleton] at this
    omega

/-- What a call leaves and what it deletes are all the entries. -/
theorem left_add_deleted (entries : List HistoryEntry) (idsToDelete : List String) :
    left entries (.deleting idsToDelete) + (entries.filter (·.id ∈ idsToDelete)).length = entries.length := by
  have hsplit := List.length_eq_length_filter_add (l := entries) fun entry => decide (entry.id ∈ idsToDelete)
  simp only [left, decide_not]
  omega

/-- The entries that are read can be deleted. -/
theorem left_deleting {entries oldestEntries : List HistoryEntry} {excess : Nat}
    (h : Oldest entries excess oldestEntries) :
    left entries (.deleting (oldestEntries.map (·.id))) ≤ left entries (.reading excess) := by
  obtain ⟨hnodup, hlength, hmem, -⟩ := h
  have hsubperm :
      oldestEntries.Subperm (entries.filter fun entry => entry.id ∈ oldestEntries.map (·.id)) := by
    refine (List.subperm_of_subset hnodup) fun entry hentry => List.mem_filter.mpr ⟨hmem entry hentry, ?_⟩
    exact decide_eq_true (List.mem_map_of_mem hentry)
  have hle := hsubperm.length_le
  have hsplit := left_add_deleted entries (oldestEntries.map (·.id))
  rw [left]
  omega

/-- Every call under way leaves at most as many entries as the cap and the calls behind it allow. -/
def Promises (cap counting : Nat) (entries : List HistoryEntry) : List Enforcement → Prop
  | [] => True
  | c :: cs => left entries c ≤ cap + counting + cs.length ∧ Promises cap counting entries cs

variable {counting : Nat} {entries entries' : List HistoryEntry} {cs : List Enforcement} {c c' : Enforcement}
  {i : Nat}

theorem Promises.mono (h : Promises cap counting entries cs) (hsub : entries'.Sublist entries) :
    Promises cap counting entries' cs := by
  induction cs with
  | nil => trivial
  | cons c cs ih => exact ⟨(left_mono hsub c).trans h.1, ih h.2⟩

theorem Promises.insert {entry : HistoryEntry} (h : Promises cap counting entries cs) :
    Promises cap (counting + 1) (entries ++ [entry]) cs := by
  induction cs with
  | nil => trivial
  | cons c cs ih =>
    refine ⟨?_, ih h.2⟩
    have hhead := h.1
    have hconcat := left_concat entries entry c
    omega

/-- Where there are not too many entries, any call leaves few enough. -/
theorem Promises.of_le (h : entries.length ≤ cap) : Promises cap counting entries cs := by
  induction cs with
  | nil => trivial
  | cons c cs ih =>
    refine ⟨?_, ih⟩
    have hleft := left_le entries c
    omega

theorem Promises.count (h : Promises cap (counting + 1) entries cs) (hcap : cap < entries.length) :
    Promises cap counting entries (cs ++ [.reading (entries.length - cap)]) := by
  induction cs with
  | nil =>
    refine ⟨?_, trivial⟩
    simp only [left]
    omega
  | cons c cs ih =>
    refine ⟨?_, ih h.2⟩
    have hhead := h.1
    simp only [List.append_eq, List.length_append, List.length_singleton]
    omega

theorem Promises.get (h : Promises cap counting entries cs) (hget : cs[i]? = some c) :
    left entries c ≤ cap + counting + (cs.length - 1 - i) := by
  induction cs generalizing i with
  | nil => cases hget
  | cons d cs ih =>
    cases i with
    | zero =>
      cases hget
      have hhead := h.1
      simp only [List.length_cons]
      omega
    | succ i =>
      have htail := ih h.2 hget
      simp only [List.length_cons]
      omega

theorem Promises.set (h : Promises cap counting entries cs) (hget : cs[i]? = some c)
    (hleft : left entries c' ≤ left entries c) : Promises cap counting entries (cs.set i c') := by
  induction cs generalizing i with
  | nil => trivial
  | cons d cs ih =>
    cases i with
    | zero =>
      cases hget
      exact ⟨hleft.trans h.1, h.2⟩
    | succ i =>
      refine ⟨?_, ih h.2 hget⟩
      rw [List.length_set]
      exact h.1

/-- A call ends. Those before it count on it no more, but it has left few enough entries for them too. -/
theorem Promises.eraseIdx (h : Promises cap counting entries cs) (hsub : entries'.Sublist entries)
    (hi : i < cs.length) (hlength : entries'.length ≤ cap + counting + (cs.length - 1 - i)) :
    Promises cap counting entries' (cs.eraseIdx i) := by
  induction cs generalizing i with
  | nil => cases hi
  | cons d cs ih =>
    rw [List.length_cons] at hi hlength
    cases i with
    | zero => exact h.2.mono hsub
    | succ i =>
      have hi' : i < cs.length := Nat.lt_of_succ_lt_succ hi
      refine ⟨?_, ih h.2 hi' (by omega)⟩
      have hleft := left_le entries' d
      rw [List.length_eraseIdx_of_lt hi']
      omega

structure Bounded (cap : Nat) (h : CallHistory) : Prop where
  total : h.entries.length ≤ cap + h.counting + h.enforcements.length
  promises : Promises cap h.counting h.entries h.enforcements

/-- A call ends, and leaves what it has promised. -/
theorem Bounded.ends (h : Bounded cap s) (hget : s.enforcements[i]? = some c)
    (hsub : entries'.Sublist s.entries) (hleft : entries'.length ≤ left s.entries c) :
    Bounded cap { s with entries := entries', enforcements := s.enforcements.eraseIdx i } := by
  obtain ⟨hi, -⟩ := List.getElem?_eq_some_iff.mp hget
  have hpromise := hleft.trans (h.promises.get hget)
  refine ⟨?_, h.promises.eraseIdx hsub hi hpromise⟩
  change entries'.length ≤ cap + s.counting + (s.enforcements.eraseIdx i).length
  rw [List.length_eraseIdx_of_lt hi]
  omega

def isFailure (e : CallHistoryEvent) : Bool :=
  match e with
  | .countFails | .fails _ => true
  | _ => false

/-- No statement fails. -/
def Answered (_ : CallHistory) (e : CallHistoryEvent) : Prop := isFailure e = false

instance (h : CallHistory) (e : CallHistoryEvent) : Decidable (Answered h e) :=
  inferInstanceAs (Decidable (_ = _))

theorem Bounded.step (h : Bounded cap s) (hanswered : Answered s e) (hstep : step cap s e = some t) :
    Bounded cap t := by
  cases e with
  | timePasses => cases hstep; exact ⟨h.total, h.promises⟩
  | insert id =>
    rw [CallHistory.step] at hstep
    split at hstep <;> cases hstep
    · exact h
    · refine ⟨?_, h.promises.insert⟩
      have htotal := h.total
      simp only [List.length_append, List.length_singleton]
      omega
  | count =>
    rw [CallHistory.step] at hstep
    split_ifs at hstep with hcounting hcap <;> cases hstep
    · have hsucc : s.counting - 1 + 1 = s.counting := Nat.succ_pred_eq_of_ne_zero hcounting
      refine ⟨?_, Promises.count (by rw [hsucc]; exact h.promises) hcap⟩
      have htotal := h.total
      simp only [List.length_append, List.length_singleton]
      omega
    · refine ⟨?_, .of_le (Nat.not_lt.mp hcap)⟩
      dsimp only
      omega
  | read i oldestEntries =>
    rw [CallHistory.step] at hstep
    split at hstep
    · next excess hget =>
      split_ifs at hstep with holdest hempty <;> cases hstep
      · refine h.ends hget (.refl _) ?_
        have hlength := holdest.2.1
        rw [hempty, List.length_nil] at hlength
        simp only [left]
        omega
      · refine ⟨?_, h.promises.set hget (left_deleting holdest)⟩
        rw [List.length_set]
        exact h.total
    · cases hstep
  | delete i =>
    rw [CallHistory.step] at hstep
    split at hstep
    · next idsToDelete hget =>
      cases hstep
      exact h.ends hget List.filter_sublist le_rfl
    · cases hstep
  | countFails => cases hanswered
  | fails => cases hanswered

/-- **The cap holds**, whatever the order in which calls of `recordCall` proceed: while no statement fails,
there are at most as many entries as the cap allows and calls are under way. -/
theorem length_le_cap {now : Int} (hrun : exec (step cap) (init now) es = some s)
    (hanswered : Guarded (step cap) Answered (init now) es) :
    s.entries.length ≤ cap + s.counting + s.enforcements.length := by
  have hbounded : Bounded cap s :=
    hanswered.invariant (fun _ _ _ h he => h.step he) ⟨Nat.zero_le _, trivial⟩ hrun
  exact hbounded.total

/-! ## What is deleted -/

def inserted (e : CallHistoryEvent) : Option String :=
  match e with
  | .insert id => some id
  | _ => none

def deletes (c : Enforcement) (id : String) : Bool :=
  match c with
  | .deleting idsToDelete => id ∈ idsToDelete
  | .reading _ => false

/-- The id of a new entry is not that of one which is being deleted. -/
def NewId (h : CallHistory) (e : CallHistoryEvent) : Prop :=
  ∀ id ∈ inserted e, ∀ c ∈ h.enforcements, deletes c id = false

instance (h : CallHistory) (e : CallHistoryEvent) : Decidable (NewId h e) :=
  inferInstanceAs (Decidable (∀ id ∈ inserted e, ∀ c ∈ h.enforcements, deletes c id = false))

structure Ordered (h : CallHistory) : Prop where
  past : ∀ entry ∈ h.entries, entry.timestamp ≤ h.now
  distinct : (h.entries.map (·.id)).Nodup
  oldest : ∀ idsToDelete, .deleting idsToDelete ∈ h.enforcements →
    ∀ entry ∈ h.entries, entry.id ∈ idsToDelete →
      ∀ other ∈ h.entries, other.id ∉ idsToDelete → entry.timestamp ≤ other.timestamp

theorem Ordered.sublist (h : Ordered s) {t : CallHistory} (hentries : t.entries.Sublist s.entries)
    (hnow : s.now ≤ t.now)
    (hcalls : ∀ idsToDelete, .deleting idsToDelete ∈ t.enforcements →
      .deleting idsToDelete ∈ s.enforcements) :
    Ordered t where
  past entry hentry := (h.past entry (hentries.subset hentry)).trans hnow
  distinct := h.distinct.sublist (hentries.map _)
  oldest idsToDelete hc entry hentry hid other hother hnot :=
    h.oldest idsToDelete (hcalls idsToDelete hc) entry (hentries.subset hentry) hid other
      (hentries.subset hother) hnot

theorem Ordered.insert {id : String} (h : Ordered s) (hid : id ∉ s.entries.map (·.id))
    (hnew : s.NewId (.insert id)) :
    Ordered { s with entries := s.entries ++ [⟨id, s.now⟩], counting := s.counting + 1 } where
  past entry hentry := by
    rcases List.mem_append.mp hentry with hentry | hentry
    · exact h.past entry hentry
    · rw [List.mem_singleton.mp hentry]
  distinct := by
    rw [List.map_append, List.map_singleton, List.nodup_append_comm]
    exact List.nodup_cons.mpr ⟨hid, h.distinct⟩
  oldest idsToDelete hc entry hentry hdeleted other hother hnot := by
    rcases List.mem_append.mp hentry with hentry | hentry
    · rcases List.mem_append.mp hother with hother | hother
      · exact h.oldest idsToDelete hc entry hentry hdeleted other hother hnot
      · rw [List.mem_singleton.mp hother]
        exact h.past entry hentry
    · rw [List.mem_singleton.mp hentry] at hdeleted
      exact absurd hdeleted (of_decide_eq_false (hnew id rfl _ hc))

/-- The oldest entries are read. -/
theorem Ordered.read {excess : Nat} {oldestEntries : List HistoryEntry} (h : Ordered s)
    (holdest : Oldest s.entries excess oldestEntries) :
    Ordered { s with enforcements := s.enforcements.set i (.deleting (oldestEntries.map (·.id))) } where
  past := h.past
  distinct := h.distinct
  oldest idsToDelete hc entry hentry hid other hother hnot := by
    rcases List.mem_or_eq_of_mem_set hc with hc | hc
    · exact h.oldest idsToDelete hc entry hentry hid other hother hnot
    · cases hc
      obtain ⟨entry', hentry', heq⟩ := List.mem_map.mp hid
      have hsame := List.inj_on_of_nodup_map h.distinct (holdest.2.2.1 entry' hentry') hentry heq
      subst hsame
      exact holdest.2.2.2 entry' hentry' other hother fun hmem => hnot (List.mem_map_of_mem hmem)

theorem Ordered.step (h : Ordered s) (hnew : s.NewId e) (hstep : step cap s e = some t) : Ordered t := by
  have hkeeps (i : Nat) (idsToDelete : List String)
      (hc : Enforcement.deleting idsToDelete ∈ s.enforcements.eraseIdx i) :
      Enforcement.deleting idsToDelete ∈ s.enforcements := (List.eraseIdx_sublist _ _).subset hc
  cases e with
  | timePasses time =>
    cases hstep
    exact h.sublist (.refl _) (by simp) fun _ => id
  | insert id =>
    rw [CallHistory.step] at hstep
    split at hstep <;> cases hstep
    · exact h
    · next hid => exact h.insert hid hnew
  | count =>
    rw [CallHistory.step] at hstep
    split_ifs at hstep <;> cases hstep
    · refine h.sublist (.refl _) le_rfl fun idsToDelete hc => ?_
      rcases List.mem_append.mp hc with hc | hc
      · exact hc
      · cases List.mem_singleton.mp hc
    · exact h.sublist (.refl _) le_rfl fun _ => id
  | read i oldestEntries =>
    rw [CallHistory.step] at hstep
    split at hstep
    · split_ifs at hstep with holdest <;> cases hstep
      · exact h.sublist (.refl _) le_rfl (hkeeps i)
      · exact h.read holdest
    · cases hstep
  | delete i =>
    rw [CallHistory.step] at hstep
    split at hstep
    · cases hstep
      exact h.sublist List.filter_sublist le_rfl (hkeeps i)
    · cases hstep
  | countFails =>
    rw [CallHistory.step] at hstep
    split_ifs at hstep
    cases hstep
    exact h.sublist (.refl _) le_rfl fun _ => id
  | fails i =>
    rw [CallHistory.step] at hstep
    split_ifs at hstep
    cases hstep
    exact h.sublist (.refl _) le_rfl (hkeeps i)

theorem ordered_init (now : Int) : Ordered (init now) :=
  ⟨fun _ h => (List.not_mem_nil h).elim, .nil, fun _ h => (List.not_mem_nil h).elim⟩

/-- The entry was there, and if it is gone, those that are there are not older. -/
def Passed (entry : HistoryEntry) (h : CallHistory) : Prop :=
  entry.timestamp ≤ h.now ∧ (entry ∈ h.entries ∨ ∀ other ∈ h.entries, entry.timestamp ≤ other.timestamp)

theorem Passed.sublist {entry : HistoryEntry} (h : Passed entry s) {t : CallHistory} (hnow : s.now ≤ t.now)
    (hentries : t.entries = s.entries) : Passed entry t :=
  ⟨h.1.trans hnow, by rw [hentries]; exact h.2⟩

theorem Passed.step {entry : HistoryEntry} (h : Passed entry s) (hordered : Ordered s)
    (hstep : step cap s e = some t) : Passed entry t := by
  obtain ⟨hnow, hentry⟩ := id h
  cases e with
  | timePasses time =>
    cases hstep
    exact h.sublist (by simp) rfl
  | insert id =>
    rw [CallHistory.step] at hstep
    split at hstep <;> cases hstep
    · exact h
    · refine ⟨hnow, hentry.imp (List.mem_append_left _) fun hold other hother => ?_⟩
      rcases List.mem_append.mp hother with hother | hother
      · exact hold other hother
      · rw [List.mem_singleton.mp hother]
        exact hnow
  | count =>
    rw [CallHistory.step] at hstep
    split_ifs at hstep <;> cases hstep <;> exact h.sublist le_rfl rfl
  | read i oldestEntries =>
    rw [CallHistory.step] at hstep
    split at hstep
    · split_ifs at hstep <;> cases hstep <;> exact h.sublist le_rfl rfl
    · cases hstep
  | delete i =>
    rw [CallHistory.step] at hstep
    split at hstep
    · next idsToDelete hget =>
      cases hstep
      have hc := List.mem_of_getElem? hget
      refine ⟨hnow, ?_⟩
      by_cases hdeleted : entry.id ∈ idsToDelete
      · right
        intro other hother
        obtain ⟨hother, hnot⟩ := List.mem_filter.mp hother
        rcases hentry with hentry | hold
        · exact hordered.oldest idsToDelete hc entry hentry hdeleted other hother (of_decide_eq_true hnot)
        · exact hold other hother
      · refine hentry.imp (fun hmem => ?_) fun hold other hother => ?_
        · exact List.mem_filter.mpr ⟨hmem, decide_eq_true hdeleted⟩
        · exact hold other (List.mem_of_mem_filter hother)
    · cases hstep
  | countFails =>
    rw [CallHistory.step] at hstep
    split_ifs at hstep
    cases hstep
    exact h.sublist le_rfl rfl
  | fails i =>
    rw [CallHistory.step] at hstep
    split_ifs at hstep
    cases hstep
    exact h.sublist le_rfl rfl

/-- **The newest stay**, whatever the order in which calls proceed and whichever statements fail: an entry
that was there and is gone is not newer than any that is there. -/
theorem newest_stay {now : Int} {es₁ es₂ : List CallHistoryEvent}
    (hrun₁ : exec (step cap) (init now) es₁ = some u) (hrun₂ : exec (step cap) u es₂ = some s)
    (hnew : Guarded (step cap) NewId (init now) (es₁ ++ es₂)) {entry other : HistoryEntry}
    (hentry : entry ∈ u.entries) (hgone : entry ∉ s.entries) (hother : other ∈ s.entries) :
    entry.timestamp ≤ other.timestamp := by
  obtain ⟨hnew₁, hnew₂⟩ := hnew.of_append
  have hordered : Ordered u := hnew₁.invariant (fun _ _ _ h he => h.step he) (ordered_init now) hrun₁
  have hpassed : Ordered s ∧ Passed entry s :=
    (hnew₂ u hrun₁).invariant (I := fun h => Ordered h ∧ Passed entry h)
      (fun _ _ _ h he hstep => ⟨h.1.step he hstep, h.2.step h.1 hstep⟩)
      ⟨hordered, hordered.past entry hentry, .inl hentry⟩ hrun₂
  exact (hpassed.2.2.resolve_left hgone) other hother

/-! ## Calls that do not overlap -/

/-- A call is recorded when none is under way. -/
def Alone (h : CallHistory) (e : CallHistoryEvent) : Prop :=
  (inserted e).isSome = true → h.counting = 0 ∧ h.enforcements = []

instance (h : CallHistory) (e : CallHistoryEvent) : Decidable (Alone h e) :=
  inferInstanceAs (Decidable (_ → _ ∧ _))

/-- As many entries as the cap allows, and the one of the call under way. -/
inductive Full (cap : Nat) (h : CallHistory) : Prop
  | rests : h.counting = 0 → h.enforcements = [] → h.entries.length = cap → Full cap h
  | counts : h.counting = 1 → h.enforcements = [] → h.entries.length = cap + 1 → Full cap h
  | enforces (c : Enforcement) : h.counting = 0 → h.enforcements = [c] → left h.entries c = cap →
      h.entries.length = cap + 1 → Full cap h

/-- The entries that are read are all that is deleted. -/
theorem left_deleting_eq {oldestEntries : List HistoryEntry} {excess : Nat}
    (hdistinct : (entries.map (·.id)).Nodup) (h : Oldest entries excess oldestEntries) :
    left entries (.deleting (oldestEntries.map (·.id))) = left entries (.reading excess) := by
  refine le_antisymm (left_deleting h) ?_
  have hsubperm :
      (entries.filter fun entry => entry.id ∈ oldestEntries.map (·.id)).Subperm oldestEntries := by
    refine List.subperm_of_subset ((List.Nodup.of_map _ hdistinct).filter _) fun entry hentry => ?_
    obtain ⟨hmem, hid⟩ := List.mem_filter.mp hentry
    obtain ⟨entry', hentry', heq⟩ := List.mem_map.mp (of_decide_eq_true hid)
    rwa [← List.inj_on_of_nodup_map hdistinct (h.2.2.1 entry' hentry') hmem heq]
  have hle := hsubperm.length_le
  have hlength := h.2.1
  have hsplit := left_add_deleted entries (oldestEntries.map (·.id))
  rw [left]
  omega

theorem Full.step (h : Full cap s) (hordered : Ordered s) (hanswered : Answered s e) (halone : Alone s e)
    (hstep : step cap s e = some t) : Full cap t := by
  cases e with
  | timePasses =>
    cases hstep
    cases h with
    | rests hcounting hnone hlength => exact .rests hcounting hnone hlength
    | counts hcounting hnone hlength => exact .counts hcounting hnone hlength
    | enforces c hcounting hone hleft hlength => exact .enforces c hcounting hone hleft hlength
  | insert id =>
    obtain ⟨hcounting, hnone⟩ := halone rfl
    rw [CallHistory.step] at hstep
    split at hstep <;> cases hstep
    · exact h
    · cases h with
      | rests _ _ hlength =>
        refine .counts (by rw [hcounting]) hnone ?_
        rw [List.length_append, hlength]
        rfl
      | counts hone => rw [hcounting] at hone; cases hone
      | enforces c _ hone => rw [hnone] at hone; cases hone
  | count =>
    rw [CallHistory.step] at hstep
    cases h with
    | rests hcounting => rw [if_pos hcounting] at hstep; cases hstep
    | enforces c hcounting => rw [if_pos hcounting] at hstep; cases hstep
    | counts hcounting hnone hlength =>
      rw [if_neg (by omega), if_pos (by omega)] at hstep
      cases hstep
      refine .enforces (.reading (s.entries.length - cap)) (by rw [hcounting]) (by rw [hnone]; rfl) ?_ hlength
      simp only [left]
      omega
  | read i oldestEntries =>
    rw [CallHistory.step] at hstep
    split at hstep
    · next excess hget =>
      cases h with
      | rests _ hnone => rw [hnone] at hget; cases hget
      | counts _ hnone => rw [hnone] at hget; cases hget
      | enforces c hcounting hone hleft hlength =>
        rw [hone, List.getElem?_singleton, Option.ite_none_right_eq_some, Option.some.injEq] at hget
        obtain ⟨rfl, rfl⟩ := hget
        split_ifs at hstep with holdest hempty <;> cases hstep
        · have hnone := holdest.2.1
          rw [hempty, List.length_nil] at hnone
          simp only [left] at hleft
          omega
        · refine .enforces _ hcounting (by rw [hone]; rfl) ?_ hlength
          rw [left_deleting_eq hordered.distinct holdest, hleft]
    · cases hstep
  | delete i =>
    rw [CallHistory.step] at hstep
    split at hstep
    · next idsToDelete hget =>
      cases hstep
      cases h with
      | rests _ hnone => rw [hnone] at hget; cases hget
      | counts _ hnone => rw [hnone] at hget; cases hget
      | enforces c hcounting hone hleft _ =>
        rw [hone, List.getElem?_singleton, Option.ite_none_right_eq_some, Option.some.injEq] at hget
        obtain ⟨rfl, rfl⟩ := hget
        exact .rests hcounting (by rw [hone]; rfl) hleft
    · cases hstep
  | countFails => cases hanswered
  | fails => cases hanswered

/-- **A full history stays full**, where calls do not overlap and no statement fails: it has exactly as many
entries as the cap allows whenever no call is under way. -/
theorem stays_full {now : Int} {es₁ es₂ : List CallHistoryEvent}
    (hrun₁ : exec (step cap) (init now) es₁ = some u) (hrun₂ : exec (step cap) u es₂ = some s)
    (hnew : Guarded (step cap) NewId (init now) (es₁ ++ es₂))
    (hcalls : Guarded (step cap) (fun h e => Answered h e ∧ Alone h e) u es₂)
    (hrests : u.counting = 0 ∧ u.enforcements = []) (hfull : u.entries.length = cap)
    (hdone : s.counting = 0 ∧ s.enforcements = []) : s.entries.length = cap := by
  obtain ⟨hnew₁, hnew₂⟩ := hnew.of_append
  have hordered : Ordered u := hnew₁.invariant (fun _ _ _ h he => h.step he) (ordered_init now) hrun₁
  have hstays : Ordered s ∧ Full cap s :=
    ((hnew₂ u hrun₁).and hcalls).invariant (I := fun h => Ordered h ∧ Full cap h)
      (fun _ _ _ h he hstep => ⟨h.1.step he.1 hstep, h.2.step h.1 he.2.1 he.2.2 hstep⟩)
      ⟨hordered, .rests hrests.1 hrests.2 hfull⟩ hrun₂
  cases hstays.2 with
  | rests _ _ hlength => exact hlength
  | counts hone => rw [hdone.1] at hone; cases hone
  | enforces c _ hone => rw [hdone.2] at hone; cases hone

/-- A call is recorded where only one is kept, and then another one. -/
def firstCall : List CallHistoryEvent := [.insert "a", .count]

def secondCall : List CallHistoryEvent :=
  [.timePasses 1, .insert "b", .count, .read 0 [⟨"a", 0⟩], .delete 0]

theorem length_le_cap_secondCall : ∃ s, exec (step 1) (init 0) (firstCall ++ secondCall) = some s ∧
    s.entries.length ≤ 1 + s.counting + s.enforcements.length := by
  have hanswered : Guarded (step 1) Answered (init 0) (firstCall ++ secondCall) := by decide
  exact ⟨_, rfl, length_le_cap rfl hanswered⟩

theorem newest_stay_secondCall : ∃ u s, exec (step 1) (init 0) firstCall = some u ∧
    exec (step 1) u secondCall = some s ∧ ∀ other ∈ s.entries, 0 ≤ other.timestamp := by
  have hrun₁ : exec (step 1) (init 0) firstCall = some ⟨[⟨"a", 0⟩], 0, 0, []⟩ := rfl
  have hrun₂ : exec (step 1) ⟨[⟨"a", 0⟩], 0, 0, []⟩ secondCall = some ⟨[⟨"b", 1⟩], 1, 0, []⟩ := rfl
  have hnew : Guarded (step 1) NewId (init 0) (firstCall ++ secondCall) := by decide
  have hgone : (⟨"a", 0⟩ : HistoryEntry) ∉ [(⟨"b", 1⟩ : HistoryEntry)] := by decide
  exact ⟨_, _, hrun₁, hrun₂, fun other hother => newest_stay hrun₁ hrun₂ hnew (.head _) hgone hother⟩

theorem stays_full_secondCall : ∃ u s, exec (step 1) (init 0) firstCall = some u ∧
    exec (step 1) u secondCall = some s ∧ s.entries.length = 1 := by
  have hrun₁ : exec (step 1) (init 0) firstCall = some ⟨[⟨"a", 0⟩], 0, 0, []⟩ := rfl
  have hrun₂ : exec (step 1) ⟨[⟨"a", 0⟩], 0, 0, []⟩ secondCall = some ⟨[⟨"b", 1⟩], 1, 0, []⟩ := rfl
  have hnew : Guarded (step 1) NewId (init 0) (firstCall ++ secondCall) := by decide
  have hcalls : Guarded (step 1) (fun h e => Answered h e ∧ Alone h e) ⟨[⟨"a", 0⟩], 0, 0, []⟩ secondCall := by
    decide
  exact ⟨_, _, hrun₁, hrun₂, stays_full hrun₁ hrun₂ hnew hcalls ⟨rfl, rfl⟩ rfl ⟨rfl, rfl⟩⟩

/-- Two calls that overlap delete an entry too many. -/
example : (exec (step 2) ⟨[⟨"a", 0⟩, ⟨"b", 1⟩], 2, 0, []⟩
    [.insert "c", .insert "d", .count, .count, .read 0 [⟨"a", 0⟩, ⟨"b", 1⟩], .delete 0,
      .read 0 [⟨"c", 2⟩, ⟨"d", 2⟩], .delete 0]).map (·.entries) = some [] := by
  decide

end CallHistory

end Svarla.Calls
