import Svarla.Lib.Run
import Svarla.Notifications.ReadState
import Mathlib.Data.List.Nodup

/-!
# One notification for a source

`createNotification` looks for a notification of the source and type, and inserts one where there is
none, in two statements. The table has a unique index on source and type, so that an insertion, or the
update of a type, fails where it would make a second row of them (`NotificationTable.Consistent`).

The index does not see that `transitionToMissed` makes a missed call of the incoming call. When its
notification is created again after it, or the insertion comes only after it, there are two for
the call, and the new one is pending though the old one was read (`created_after_transition`). There is
one for a call, in every state of a run, if and only if no notification of a call is inserted where
there is one of the other type (`one_per_source_iff`).

The payload, the timestamps, and what is sent to the devices are left out.
-/

namespace Svarla.Notifications

open Svarla.Lib

/-- Is it a notification of a call that was not answered yet? -/
def NotificationType.IsCall (type : NotificationType) : Prop := type = incomingCall ∨ type = missedCall

instance (type : NotificationType) : Decidable type.IsCall := inferInstanceAs (Decidable (_ ∨ _))

/-- A row of `notifications`. -/
structure NotificationRow where
  id : String
  type : NotificationType
  status : NotificationStatus
  sourceEntityId : String
  deriving DecidableEq, Repr

/-- The key of the unique index. -/
def NotificationRow.key (row : NotificationRow) : String × NotificationType :=
  (row.sourceEntityId, row.type)

structure NotificationTable where
  rows : List NotificationRow
  /-- The calls of `createNotification` that have found no row, by source and type. -/
  inserting : List (String × NotificationType)
  /-- The sources of the notifications of calls that were marked read. -/
  readCalls : List String
  deriving DecidableEq, Repr

/-- A statement of one of the calls. -/
inductive TableEvent
  /-- `createNotification` looks for a row. -/
  | select (sourceEntityId : String) (type : NotificationType)
  /-- The `i`-th of those that have found none inserts one, with a new id. -/
  | insert (i : Nat) (id : String)
  | transitionToMissed (sourceEntityId : String)
  | markCallResolved (sourceEntityId : String)
  | markRead (id : String)
  deriving DecidableEq, Repr

namespace NotificationTable

def init : NotificationTable := ⟨[], [], []⟩

/-- A row as it is when it was marked read, where `p` holds of it. -/
def marked (p : NotificationRow → Bool) (row : NotificationRow) : NotificationRow :=
  if p row then { row with status := .read } else row

/-- The rows of which `p` holds are marked read. -/
def mark (s : NotificationTable) (p : NotificationRow → Bool) : NotificationTable :=
  { s with
    rows := s.rows.map (marked p)
    readCalls := s.readCalls ++
      (s.rows.filter fun row => p row && row.type.IsCall).map (·.sourceEntityId) }

/-- A row as it is when its call was missed. -/
def missed (sourceEntityId : String) (row : NotificationRow) : NotificationRow :=
  if row.key = (sourceEntityId, .incomingCall) then { row with type := .missedCall } else row

def step (s : NotificationTable) : TableEvent → Option NotificationTable
  | .select sourceEntityId type =>
    if (sourceEntityId, type) ∈ s.rows.map (·.key) then some s
    else some { s with inserting := s.inserting ++ [(sourceEntityId, type)] }
  | .insert i id =>
    match s.inserting[i]? with
    | some (sourceEntityId, type) =>
      let s := { s with inserting := s.inserting.eraseIdx i }
      -- the index refuses a second row
      if (sourceEntityId, type) ∈ s.rows.map (·.key) then some s
      else some { s with rows := s.rows ++ [⟨id, type, .pending, sourceEntityId⟩] }
    | none => none
  | .transitionToMissed sourceEntityId =>
    if (sourceEntityId, .incomingCall) ∈ s.rows.map (·.key) ∧
        (sourceEntityId, .missedCall) ∈ s.rows.map (·.key) then some s
    else some { s with rows := s.rows.map (missed sourceEntityId) }
  | .markCallResolved sourceEntityId =>
    some (s.mark fun row =>
      row.sourceEntityId = sourceEntityId ∧ row.type.IsCall ∧ row.status = .pending)
  | .markRead id => some (s.mark fun row => row.id = id ∧ row.status = .pending)

/-- There is one notification for a source and type, and one for a call. One that was marked read is not
pending. -/
structure OnePerSource (s : NotificationTable) : Prop where
  unique : (s.rows.map (·.key)).Nodup
  oneForCall : ∀ source, (source, .incomingCall) ∈ s.rows.map (·.key) →
    (source, .missedCall) ∉ s.rows.map (·.key)
  stayRead : ∀ row ∈ s.rows, row.type.IsCall → row.sourceEntityId ∈ s.readCalls → row.status = .read

/-- The other type of the notification of a call. -/
def other : NotificationType → Option NotificationType
  | .incomingCall => some .missedCall
  | .missedCall => some .incomingCall
  | _ => none

/-- No notification of a call is inserted where there is one of the other type. -/
def Clear (s : NotificationTable) : TableEvent → Prop
  | .insert i _ => ∀ entry ∈ s.inserting[i]?, entry ∉ s.rows.map (·.key) →
      ∀ type ∈ other entry.2, (entry.1, type) ∉ s.rows.map (·.key)
  | _ => True

/-- What holds in every state: the index, and that a notification of a call stays one. -/
structure Consistent (s : NotificationTable) : Prop where
  unique : (s.rows.map (·.key)).Nodup
  kept : ∀ source ∈ s.readCalls, ∃ row ∈ s.rows, row.sourceEntityId = source ∧ row.type.IsCall

theorem consistent_init : Consistent init := ⟨List.nodup_nil, nofun⟩

theorem onePerSource_init : OnePerSource init := ⟨List.nodup_nil, nofun, nofun⟩

@[simp] theorem key_marked (p : NotificationRow → Bool) (row : NotificationRow) :
    (marked p row).key = row.key := by
  unfold marked
  split <;> rfl

@[simp] theorem map_key_mark (s : NotificationTable) (p : NotificationRow → Bool) :
    (s.mark p).rows.map (·.key) = s.rows.map (·.key) := by
  rw [mark, List.map_map]
  exact List.map_congr_left fun row _ => key_marked p row

/-- A call has one row. -/
theorem OnePerSource.eq_of_isCall {s : NotificationTable} (h : OnePerSource s)
    {row row' : NotificationRow} (hrow : row ∈ s.rows) (hrow' : row' ∈ s.rows)
    (hcall : row.type.IsCall) (hcall' : row'.type.IsCall)
    (hsource : row.sourceEntityId = row'.sourceEntityId) : row = row' := by
  have hkey : ∀ {r : NotificationRow} {type : NotificationType}, r ∈ s.rows → r.type = type →
      (r.sourceEntityId, type) ∈ s.rows.map (·.key) := by
    rintro r type hr rfl
    exact List.mem_map_of_mem hr
  have htype : row.type = row'.type := by
    rcases hcall with htype | htype <;> rcases hcall' with htype' | htype'
    · rw [htype, htype']
    · exact absurd (hkey hrow' htype') (hsource ▸ h.oneForCall _ (hkey hrow htype))
    · exact absurd (hkey hrow htype) (hsource ▸ h.oneForCall _ (hkey hrow' htype'))
    · rw [htype, htype']
  exact List.inj_on_of_nodup_map h.unique hrow hrow' (by
    rw [NotificationRow.key, NotificationRow.key, htype, hsource])

/-- Rows are marked read. -/
theorem Consistent.mark {s : NotificationTable} (h : Consistent s) (p : NotificationRow → Bool) :
    Consistent (s.mark p) where
  unique := by
    rw [map_key_mark]
    exact h.unique
  kept := by
    have hmarked : ∀ row ∈ s.rows, row.type.IsCall → ∃ row' ∈ (s.mark p).rows,
        row'.sourceEntityId = row.sourceEntityId ∧ row'.type.IsCall := by
      intro row hrow hcall
      refine ⟨marked p row, List.mem_map_of_mem hrow, ?_⟩
      unfold marked
      split <;> exact ⟨rfl, hcall⟩
    intro source hsource
    rcases List.mem_append.mp hsource with hsource | hsource
    · obtain ⟨row, hrow, rfl, hcall⟩ := h.kept source hsource
      exact hmarked row hrow hcall
    · obtain ⟨row, hrow, rfl⟩ := List.mem_map.mp hsource
      obtain ⟨hrow, hp⟩ := List.mem_filter.mp hrow
      simp only [Bool.and_eq_true, decide_eq_true_eq] at hp
      exact hmarked row hrow hp.2

theorem OnePerSource.mark {s : NotificationTable} (h : OnePerSource s) (p : NotificationRow → Bool) :
    OnePerSource (s.mark p) where
  unique := by
    rw [map_key_mark]
    exact h.unique
  oneForCall := by
    rw [map_key_mark]
    exact h.oneForCall
  stayRead := by
    intro row' hrow' hcall hsource
    obtain ⟨row, hrow, rfl⟩ := List.mem_map.mp hrow'
    have hsame : (marked p row).type = row.type ∧ (marked p row).sourceEntityId = row.sourceEntityId := by
      unfold marked
      split <;> exact ⟨rfl, rfl⟩
    rw [hsame.1] at hcall
    rw [hsame.2] at hsource
    rcases hp : p row with _ | _
    · -- it was not marked now: it is not a row of the others
      rw [marked, hp, if_neg Bool.false_ne_true]
      rcases List.mem_append.mp hsource with hsource | hsource
      · exact h.stayRead row hrow hcall hsource
      · obtain ⟨row₁, hrow₁, heq⟩ := List.mem_map.mp hsource
        obtain ⟨hrow₁, hp₁⟩ := List.mem_filter.mp hrow₁
        simp only [Bool.and_eq_true, decide_eq_true_eq] at hp₁
        rw [h.eq_of_isCall hrow₁ hrow hp₁.2 hcall heq, hp] at hp₁
        cases hp₁.1
    · rw [marked, hp, if_pos rfl]

/-- The keys, where an incoming call was missed. -/
theorem map_key_missed (rows : List NotificationRow) (sourceEntityId : String) :
    (rows.map (missed sourceEntityId)).map (·.key) = (rows.map (·.key)).map fun key =>
      if key = (sourceEntityId, .incomingCall) then (sourceEntityId, .missedCall) else key := by
  rw [List.map_map, List.map_map]
  refine List.map_congr_left fun row _ => ?_
  simp only [Function.comp_apply, missed]
  split
  · rename_i hkey
    rw [NotificationRow.key, Prod.mk.injEq] at hkey
    rw [NotificationRow.key, hkey.1]
  · rfl

/-- A missed call keeps its source, its status, and that it is one of a call. -/
theorem missed_spec (sourceEntityId : String) (row : NotificationRow) :
    (missed sourceEntityId row).sourceEntityId = row.sourceEntityId ∧
      (missed sourceEntityId row).status = row.status ∧
      ((missed sourceEntityId row).type.IsCall ↔ row.type.IsCall) := by
  unfold missed
  split
  · rename_i hkey
    rw [NotificationRow.key, Prod.mk.injEq] at hkey
    exact ⟨rfl, rfl, iff_of_true (.inr rfl) (.inl hkey.2)⟩
  · exact ⟨rfl, rfl, Iff.rfl⟩

/-- The index lets the transition happen only where there is no missed call. -/
theorem Consistent.transition {s : NotificationTable} (h : Consistent s) {sourceEntityId : String}
    (hindex : ¬ ((sourceEntityId, .incomingCall) ∈ s.rows.map (·.key) ∧
      (sourceEntityId, .missedCall) ∈ s.rows.map (·.key))) :
    Consistent { s with rows := s.rows.map (missed sourceEntityId) } where
  unique := by
    rw [map_key_missed]
    refine List.Nodup.map_on (fun key hkey key' hkey' heq => ?_) h.unique
    split at heq <;> split at heq
    · simp_all
    · rename_i hmissed _
      subst hmissed
      exact absurd ⟨hkey, heq ▸ hkey'⟩ hindex
    · rename_i hmissed
      subst hmissed
      exact absurd ⟨hkey', heq ▸ hkey⟩ hindex
    · exact heq
  kept := by
    intro source hsource
    obtain ⟨row, hrow, rfl, hcall⟩ := h.kept source hsource
    obtain ⟨hsame, -, htype⟩ := missed_spec sourceEntityId row
    exact ⟨_, List.mem_map_of_mem hrow, hsame, htype.mpr hcall⟩

theorem OnePerSource.transition {s : NotificationTable} (h : OnePerSource s) {sourceEntityId : String}
    (hunique : ((s.rows.map (missed sourceEntityId)).map (·.key)).Nodup) :
    OnePerSource { s with rows := s.rows.map (missed sourceEntityId) } where
  unique := hunique
  oneForCall := by
    intro source hincoming hmissed
    rw [map_key_missed] at hincoming hmissed
    obtain ⟨key, hkey, heq⟩ := List.mem_map.mp hincoming
    obtain ⟨key', hkey', heq'⟩ := List.mem_map.mp hmissed
    split at heq
    · cases heq
    · subst heq
      rename_i hne
      split at heq'
      · rename_i hkey'
        cases heq'
        exact hne rfl
      · subst heq'
        exact h.oneForCall source hkey hkey'
  stayRead := by
    intro row' hrow' hcall hsource
    obtain ⟨row, hrow, rfl⟩ := List.mem_map.mp hrow'
    obtain ⟨hsame, hstatus, htype⟩ := missed_spec sourceEntityId row
    rw [hstatus]
    rw [hsame] at hsource
    exact h.stayRead row hrow (htype.mp hcall) hsource

/-- A row is inserted that the index lets through. -/
theorem Consistent.insert {s : NotificationTable} (h : Consistent s) {row : NotificationRow}
    (hindex : row.key ∉ s.rows.map (·.key)) : Consistent { s with rows := s.rows ++ [row] } where
  unique := by
    rw [List.map_append, List.map_singleton]
    exact List.Nodup.append h.unique (List.nodup_singleton _) (by simpa using hindex)
  kept := by
    intro source hsource
    obtain ⟨row, hrow, hkept⟩ := h.kept source hsource
    exact ⟨row, List.mem_append_left _ hrow, hkept⟩

/-- There is still one for a call where there was none of the other type. -/
theorem OnePerSource.insert {s : NotificationTable} (h : OnePerSource s) (hconsistent : Consistent s)
    {row : NotificationRow} (hindex : row.key ∉ s.rows.map (·.key)) :
    OnePerSource { s with rows := s.rows ++ [row] } ↔
      ∀ type ∈ other row.type, (row.sourceEntityId, type) ∉ s.rows.map (·.key) := by
  constructor
  · intro hafter type htype hmem
    have hnew : row.key ∈ (s.rows ++ [row]).map (·.key) := by simp
    have hold : (row.sourceEntityId, type) ∈ (s.rows ++ [row]).map (·.key) := by
      rw [List.map_append]
      exact List.mem_append_left _ hmem
    rw [NotificationRow.key] at hnew
    cases hrow : row.type <;> rw [hrow] at htype hnew <;> cases htype
    · exact hafter.oneForCall _ hnew hold
    · exact hafter.oneForCall _ hold hnew
  · intro hclear
    have hkey : ∀ {key}, key ∈ (s.rows ++ [row]).map (·.key) →
        key ∈ s.rows.map (·.key) ∨ key = row.key := by
      intro key hmem
      rw [List.map_append, List.map_singleton] at hmem
      exact (List.mem_append.mp hmem).imp_right List.mem_singleton.mp
    refine ⟨(hconsistent.insert hindex).unique, ?_, ?_⟩
    · intro source hincoming hmissed
      rcases hkey hincoming with hincoming | hincoming <;> rcases hkey hmissed with hmissed | hmissed
      · exact h.oneForCall source hincoming hmissed
      · obtain ⟨rfl, htype⟩ := Prod.mk.inj hmissed
        exact hclear .incomingCall (by rw [← htype]; rfl) hincoming
      · obtain ⟨rfl, htype⟩ := Prod.mk.inj hincoming
        exact hclear .missedCall (by rw [← htype]; rfl) hmissed
      · cases (Prod.mk.inj hincoming).2.trans (Prod.mk.inj hmissed).2.symm
    · intro row' hrow' hcall hsource
      rcases List.mem_append.mp hrow' with hrow' | hrow'
      · exact h.stayRead row' hrow' hcall hsource
      · -- what was read is still there, and it is no row of this call
        obtain rfl := List.mem_singleton.mp hrow'
        obtain ⟨read, hread, heq, hreadCall⟩ := hconsistent.kept _ hsource
        have hmem : (row'.sourceEntityId, read.type) ∈ s.rows.map (·.key) := by
          rw [← heq]
          exact List.mem_map_of_mem hread
        rcases hcall with htype | htype <;> rcases hreadCall with hreadType | hreadType <;>
          rw [hreadType] at hmem <;> rw [NotificationRow.key, htype] at hindex
        · exact absurd hmem hindex
        · exact absurd hmem (hclear _ (by rw [htype]; rfl))
        · exact absurd hmem (hclear _ (by rw [htype]; rfl))
        · exact absurd hmem hindex

/-- **One step.** -/
theorem Consistent.step {s t : NotificationTable} {e : TableEvent} (h : Consistent s)
    (hstep : s.step e = some t) :
    Consistent t ∧ (OnePerSource s → (OnePerSource t ↔ s.Clear e)) := by
  cases e with
  | select source type =>
    rw [NotificationTable.step] at hstep
    split at hstep <;> cases hstep
    · exact ⟨h, fun hone => iff_of_true hone trivial⟩
    · exact ⟨⟨h.unique, h.kept⟩,
        fun hone => iff_of_true ⟨hone.unique, hone.oneForCall, hone.stayRead⟩ trivial⟩
  | insert i id =>
    rcases hentry : s.inserting[i]? with _ | ⟨source, type⟩
    · simp [NotificationTable.step, hentry] at hstep
    · simp only [NotificationTable.step, hentry] at hstep
      have hclear : s.Clear (.insert i id) ↔ ((source, type) ∉ s.rows.map (·.key) →
          ∀ type' ∈ other type, (source, type') ∉ s.rows.map (·.key)) := by
        simp only [Clear, hentry, Option.mem_some_iff, forall_eq']
      rw [hclear]
      have hconsistent : Consistent { s with inserting := s.inserting.eraseIdx i } :=
        ⟨h.unique, h.kept⟩
      have hbefore (hone : OnePerSource s) :
          OnePerSource { s with inserting := s.inserting.eraseIdx i } :=
        ⟨hone.unique, hone.oneForCall, hone.stayRead⟩
      split at hstep
      · rename_i hindex
        cases hstep
        exact ⟨hconsistent, fun hone => iff_of_true (hbefore hone) fun hne => absurd hindex hne⟩
      · rename_i hindex
        cases hstep
        have hkey : NotificationRow.key ⟨id, type, .pending, source⟩ ∉ s.rows.map (·.key) := hindex
        refine ⟨hconsistent.insert hkey, fun hone => ?_⟩
        rw [(hbefore hone).insert hconsistent hkey]
        exact ⟨fun hall _ => hall, fun hall => hall hindex⟩
  | transitionToMissed source =>
    rw [NotificationTable.step] at hstep
    split at hstep
    · cases hstep
      exact ⟨h, fun hone => iff_of_true hone trivial⟩
    · rename_i hindex
      cases hstep
      have hafter := h.transition hindex
      exact ⟨hafter, fun hone => iff_of_true (hone.transition hafter.unique) trivial⟩
  | markCallResolved source =>
    cases hstep
    exact ⟨h.mark _, fun hone => iff_of_true (hone.mark _) trivial⟩
  | markRead id =>
    cases hstep
    exact ⟨h.mark _, fun hone => iff_of_true (hone.mark _) trivial⟩

theorem clear_of_refused {s : NotificationTable} {e : TableEvent} (h : s.step e = none) :
    s.Clear e := by
  cases e with
  | insert i id =>
    intro entry hentry
    rw [Option.mem_def] at hentry
    simp only [NotificationTable.step, hentry] at h
    split at h <;> cases h
  | _ => trivial

/-- **One notification for a source.** In every state of a run there is one notification for a source and
type and one for a call, and none that was marked read is pending, if and only if no notification of a
call is inserted where there is one of the other type. -/
theorem one_per_source_iff (es : List TableEvent) :
    Lib.Guarded NotificationTable.step Clear init es ↔ ∀ es₁ es₂ t, es = es₁ ++ es₂ →
      exec NotificationTable.step init es₁ = some t → OnePerSource t :=
  guarded_iff_invariant (fun _ _ _ hJ hI hstep => (hJ.step hstep).imp_right fun hiff => hiff hI)
    (fun _ _ hrefused => clear_of_refused hrefused) consistent_init onePerSource_init es

/-- The notification of a call is read, and becomes that of a missed call. The event that has created it
comes again: there is a second one, and it is pending. -/
theorem created_after_transition :
    ∃ t, exec NotificationTable.step init [.select "call" .incomingCall, .insert 0 "a",
        .transitionToMissed "call", .markCallResolved "call", .select "call" .incomingCall,
        .insert 0 "b"] = some t ∧
      t.rows = [⟨"a", .missedCall, .read, "call"⟩, ⟨"b", .incomingCall, .pending, "call"⟩] ∧
      ¬ OnePerSource t := by
  refine ⟨_, rfl, by decide, fun h => ?_⟩
  exact h.oneForCall "call" (by decide) (by decide)

/-- The index alone keeps the rows of a source and type one, in every run. -/
theorem unique_of_run {es : List TableEvent} {t : NotificationTable}
    (hrun : exec NotificationTable.step init es = some t) : (t.rows.map (·.key)).Nodup := by
  exact (exec_invariant (I := Consistent) (fun _ _ _ h hstep => (h.step hstep).1) consistent_init
    hrun).unique

end NotificationTable
end Svarla.Notifications
