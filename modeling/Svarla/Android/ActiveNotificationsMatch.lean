import Svarla.Android.ActiveNotifications

/-!
# One Android notification for each of the server's

While every step meets `Spares`, the maps of `NotificationHandler`, its table and what is displayed match:
`stays_oneToOne`. Its counters start again with each process and wrap, only SMS are recognised when they
are created again, most of the ways to dismiss leave the table and the map of types as they were, and a
notification is displayed whatever its status; so runs without that condition end otherwise
(`restart_shares_ids`).
-/

namespace Svarla.Android.NotificationHandler

open Svarla.Lib

/-- No writes are left, and the rehydration is over. -/
def Settled (s : NotificationHandler) : Prop :=
  s.writes = [] ∧ s.loading = some []

/-- The map from the server's notifications to those of Android is one-to-one, and says what is
displayed. -/
structure OneToOne (s : NotificationHandler) : Prop where
  shown_once : ∀ a b d d', s.shown.lookup a = some d → s.shown.lookup b = some d' →
    d.serverId = d'.serverId → a = b
  ids_differ : ∀ x y a, s.serverNotificationIdMap.lookup x = some a →
    s.serverNotificationIdMap.lookup y = some a → x = y
  table_agrees : s.Settled → ∀ x,
    s.serverNotificationIdMap.lookup x = (s.table.lookup x).map (·.androidId) ∧
    s.serverNotificationTypeMap.lookup x = (s.table.lookup x).map (·.type)
  read_dismissed : ∀ x ∈ s.read, ∀ a d, s.shown.lookup a = some d → d.serverId ≠ x

/-- What is displayed of `x` is under the Android id `androidId`. -/
def ShownAt (s : NotificationHandler) (x : String) (androidId : Int) : Prop :=
  ∀ e ∈ s.shown.entries, e.2.serverId = x → e.1 = androidId

/-- A write for `x` is left. -/
def Unwritten (s : NotificationHandler) (x : String) : Prop :=
  ∃ w ∈ s.writes, w.serverId = x

/-- No other notification is tracked under the Android id. -/
def Unused (s : NotificationHandler) (x : String) (androidId : Int) : Prop :=
  ∀ e ∈ s.serverNotificationIdMap.entries, e.2 = androidId → e.1 = x

/-- The Android id under which a created notification is posted, if it is. -/
def posts (s : NotificationHandler) (event : NotificationCreatedEvent) : Option Int :=
  match event.notificationType with
  | .incomingSms =>
    if (s.serverNotificationIdMap.lookup event.id).isSome then none else some s.nextSmsId
  | .missedCall => some s.nextMissedCallId
  | .blockedCall => some s.nextMissedCallId
  | _ => none

/-- The update changes the type of the notification where it is displayed. -/
def changesType (s : NotificationHandler) (event : NotificationUpdatedEvent) (calls : CallHistory) : Bool :=
  (s.serverNotificationIdMap.lookup event.id).isSome && event.notificationType.any fun newType =>
    s.serverNotificationTypeMap.lookup event.id != some newType &&
      !(newType == .missedCall && s.suppressed event.id calls)

/-- No notification is taken out of the map alone. -/
def DismissesNone (s : NotificationHandler) (p : String → Int → Bool) : Prop :=
  ∀ e ∈ s.serverNotificationIdMap.entries, p e.1 e.2 = false

/-- What the coroutine cancels next is all that is displayed of its notification. -/
def SparesJob (s : NotificationHandler) : ConversationJob → Prop
  | .cancel _ ((x, androidId) :: _) => s.ShownAt x androidId
  | _ => True

variable (matchKey : String → String)

/-- What keeps the map one-to-one. -/
def Spares (s : NotificationHandler) : NotificationEvent → Prop
  -- The Android id is free. What is posted is not displayed elsewhere and not read, and what is said to be
  -- read is not displayed.
  | .created event granted _ =>
    (∀ androidId ∈ s.posts event, s.Unused event.id androidId ∧
      (granted = true → event.id ∉ s.read ∧ s.ShownAt event.id androidId)) ∧
    (event.status = "read" → (∀ e ∈ s.shown.entries, e.2.serverId ≠ event.id) ∧
      ((s.posts event).isSome = true → granted = false))
  -- What is displayed of a read notification is where it is tracked, and no row keeps an old type.
  | .updated event calls _ =>
    if event.status = some "read" then
      ∀ e ∈ s.shown.entries, e.2.serverId = event.id →
        s.serverNotificationIdMap.lookup event.id = some e.1
    else s.changesType event calls = false
  -- The writes for one notification run in their order, and the last of them does not fail.
  | .settle i ok => ∀ w ∈ s.writes[i]?, (∀ v ∈ s.writes.take i, v.serverId ≠ w.serverId) ∧
      (ok = true ∨ ∃ v ∈ s.writes.drop (i + 1), v.serverId = w.serverId)
  | .restart => True
  -- No row of a tracked notification is too old.
  | .rehydrate cutoff => ∀ e ∈ s.table.entries, e.2.createdAt < cutoff →
      s.serverNotificationIdMap.lookup e.1 = none ∨ s.Unwritten e.1
  -- The row is still there, unless the maps have it, and its Android id is free.
  | .rehydrateNext => ∀ e ∈ (s.loading.getD []).head?,
      (s.serverNotificationIdMap.lookup e.1 = some e.2.androidId ∧
        s.serverNotificationTypeMap.lookup e.1 = some e.2.type) ∨
      (¬ s.Unwritten e.1 ∧ s.table.lookup e.1 = some e.2 ∧ s.Unused e.1 e.2.androidId)
  | .swipe _ => True
  | .tap _ => True
  | .dismissCallNotification callId => s.DismissesNone fun x _ => ofCall callId x
  | .dismissAllMissedCallNotifications => s.DismissesNone fun _ a => ofMissedCall a
  | .dismissConversationNotifications phoneNumber =>
    ∀ x ∈ s.toRemove matchKey (matchKey phoneNumber),
      ∀ androidId ∈ s.serverNotificationIdMap.lookup x, s.ShownAt x androidId
  | .conversationJob i _ => ∀ job ∈ s.jobs[i]?, s.SparesJob job
  | .dismissMissedCallNotifications => s.DismissesNone fun x _ => "missed_".toList.isPrefixOf x.toList
  | .cancelAll => s.DismissesNone fun _ _ => true

instance (s : NotificationHandler) (x : String) (androidId : Int) : Decidable (s.ShownAt x androidId) :=
  inferInstanceAs (Decidable (∀ e ∈ s.shown.entries, e.2.serverId = x → e.1 = androidId))

instance (s : NotificationHandler) (x : String) : Decidable (s.Unwritten x) :=
  inferInstanceAs (Decidable (∃ w ∈ s.writes, w.serverId = x))

instance (s : NotificationHandler) (x : String) (androidId : Int) : Decidable (s.Unused x androidId) :=
  inferInstanceAs (Decidable (∀ e ∈ s.serverNotificationIdMap.entries, e.2 = androidId → e.1 = x))

instance (s : NotificationHandler) (p : String → Int → Bool) : Decidable (s.DismissesNone p) :=
  inferInstanceAs (Decidable (∀ e ∈ s.serverNotificationIdMap.entries, p e.1 e.2 = false))

instance (s : NotificationHandler) : (job : ConversationJob) → Decidable (s.SparesJob job)
  | .query _ => .isTrue trivial
  | .cancel _ [] => .isTrue trivial
  | .cancel _ ((x, androidId) :: _) => inferInstanceAs (Decidable (s.ShownAt x androidId))
  | .queryAll _ => .isTrue trivial
  | .cancelActive _ => .isTrue trivial

instance (s : NotificationHandler) : (e : NotificationEvent) → Decidable (s.Spares matchKey e)
  | .created .. => inferInstanceAs (Decidable (_ ∧ _))
  | .updated .. => inferInstanceAs (Decidable (ite _ _ _))
  | .settle .. => inferInstanceAs (Decidable (∀ w ∈ s.writes[_]?, _ ∧ _))
  | .restart => .isTrue trivial
  | .rehydrate _ => inferInstanceAs (Decidable (∀ e ∈ s.table.entries, _ → _ ∨ _))
  | .rehydrateNext => inferInstanceAs (Decidable (∀ e ∈ (s.loading.getD []).head?, _ ∨ _))
  | .swipe _ => .isTrue trivial
  | .tap _ => .isTrue trivial
  | .dismissCallNotification callId =>
    inferInstanceAs (Decidable (s.DismissesNone fun x _ => ofCall callId x))
  | .dismissAllMissedCallNotifications =>
    inferInstanceAs (Decidable (s.DismissesNone fun _ a => ofMissedCall a))
  | .dismissConversationNotifications _ =>
    inferInstanceAs (Decidable (∀ x ∈ _, ∀ androidId ∈ s.serverNotificationIdMap.lookup x,
      s.ShownAt x androidId))
  | .conversationJob .. => inferInstanceAs (Decidable (∀ job ∈ s.jobs[_]?, s.SparesJob job))
  | .dismissMissedCallNotifications =>
    inferInstanceAs (Decidable (s.DismissesNone fun x _ => "missed_".toList.isPrefixOf x.toList))
  | .cancelAll => inferInstanceAs (Decidable (s.DismissesNone fun _ _ => true))

/-! ## Maps -/

theorem lookup_erase_eq_some {K V : Type} [DecidableEq K] {m : Map K V} {k k' : K} {v : V} :
    AList.lookup k' (AList.erase k m) = some v ↔ k' ≠ k ∧ m.lookup k' = some v := by
  rw [Map.lookup_erase]
  by_cases h : k' = k <;> simp [h]

/-- A value that no other key has leaves the keys apart. -/
theorem ids_insert {m : Map String Int}
    (hdiffer : ∀ x y a, m.lookup x = some a → m.lookup y = some a → x = y) {z : String} {a : Int}
    (hfree : ∀ x, m.lookup x = some a → x = z) (x y : String) (b : Int)
    (hx : AList.lookup x (AList.insert z a m) = some b)
    (hy : AList.lookup y (AList.insert z a m) = some b) : x = y := by
  rw [Map.lookup_insert] at hx hy
  split at hx <;> split at hy
  · next hx' hy' => rw [hx', hy']
  · next hx' hy' =>
    cases hx
    exact absurd (hfree y hy) hy'
  · next hx' hy' =>
    cases hy
    exact absurd (hfree x hx) hx'
  · exact hdiffer x y b hx hy

theorem Unused.lookup {s : NotificationHandler} {x y : String} {androidId : Int}
    (h : s.Unused x androidId) (hy : s.serverNotificationIdMap.lookup y = some androidId) : y = x :=
  h ⟨y, androidId⟩ (AList.mem_lookup_iff.mp hy) rfl

/-! ## What is displayed -/

@[simp] theorem showNotification_idMap (s : NotificationHandler) (granted : Bool) (a : Int) (d : Displayed) :
    (s.showNotification granted a d).serverNotificationIdMap =
      s.serverNotificationIdMap.insert d.serverId a := by
  cases granted <;> rfl

@[simp] theorem showNotification_typeMap (s : NotificationHandler) (granted : Bool) (a : Int)
    (d : Displayed) :
    (s.showNotification granted a d).serverNotificationTypeMap = s.serverNotificationTypeMap := by
  cases granted <;> rfl

@[simp] theorem showNotification_writes (s : NotificationHandler) (granted : Bool) (a : Int)
    (d : Displayed) : (s.showNotification granted a d).writes = s.writes := by
  cases granted <;> rfl

@[simp] theorem showNotification_table (s : NotificationHandler) (granted : Bool) (a : Int)
    (d : Displayed) : (s.showNotification granted a d).table = s.table := by
  cases granted <;> rfl

@[simp] theorem showNotification_loading (s : NotificationHandler) (granted : Bool) (a : Int)
    (d : Displayed) : (s.showNotification granted a d).loading = s.loading := by
  cases granted <;> rfl

theorem ShownAt.lookup {s : NotificationHandler} {x : String} {androidId : Int}
    (h : s.ShownAt x androidId) {a : Int} {d : Displayed} (ha : s.shown.lookup a = some d)
    (hd : d.serverId = x) : a = androidId :=
  h ⟨a, d⟩ (AList.mem_lookup_iff.mp ha) hd

/-- What is displayed is displayed once, and not read. -/
structure Shows (shown : Map Int Displayed) (read : List String) : Prop where
  once : ∀ a b d d', shown.lookup a = some d → shown.lookup b = some d' →
    d.serverId = d'.serverId → a = b
  dismissed : ∀ x ∈ read, ∀ a d, shown.lookup a = some d → d.serverId ≠ x

namespace Shows

variable {shown shown' : Map Int Displayed} {read : List String}

theorem mono (h : Shows shown read)
    (hsub : ∀ a d, shown'.lookup a = some d → shown.lookup a = some d) : Shows shown' read where
  once a b d d' ha hb := h.once a b d d' (hsub a d ha) (hsub b d' hb)
  dismissed x hx a d ha := h.dismissed x hx a d (hsub a d ha)

theorem keep (h : Shows shown read) (p : Int → Displayed → Bool) : Shows (shown.keep p) read := by
  refine h.mono fun a d ha => ?_
  rw [Map.lookup_keep, Option.filter_eq_some_iff] at ha
  exact ha.1

theorem erase (h : Shows shown read) (androidId : Int) : Shows (shown.erase androidId) read :=
  h.mono fun _ _ ha => (lookup_erase_eq_some.mp ha).2

theorem markRead (h : Shows shown read) {x : String}
    (hx : ∀ a d, shown.lookup a = some d → d.serverId ≠ x) : Shows shown (x :: read) where
  once := h.once
  dismissed y hy := by
    obtain rfl | hy := List.mem_cons.mp hy
    · exact hx
    · exact h.dismissed y hy

/-- A notification that is not read and that is displayed nowhere else. -/
theorem insert (h : Shows shown read) {androidId : Int} {d : Displayed} (hread : d.serverId ∉ read)
    (hat : ∀ a e, shown.lookup a = some e → e.serverId = d.serverId → a = androidId) :
    Shows (shown.insert androidId d) read where
  once a b e e' ha hb he := by
    rw [Map.lookup_insert] at ha hb
    split at ha <;> split at hb
    · next ha' hb' => rw [ha', hb']
    · next ha' hb' =>
      cases ha
      rw [ha', hat b e' hb he.symm]
    · next ha' hb' =>
      cases hb
      rw [hb', hat a e ha he]
    · exact h.once a b e e' ha hb he
  dismissed x hx a e ha := by
    rw [Map.lookup_insert] at ha
    split at ha
    · cases ha
      exact fun hd => hread (hd ▸ hx)
    · exact h.dismissed x hx a e ha

end Shows

/-! ## What is remembered -/

/-- The last write for `x` that is left. -/
def lastWrite (writes : List TableWrite) (x : String) : Option TableWrite :=
  (writes.filter fun w => decide (w.serverId = x)).getLast?

theorem lastWrite_append (ws vs : List TableWrite) (x : String) :
    lastWrite (ws ++ vs) x = (lastWrite vs x).or (lastWrite ws x) := by
  unfold lastWrite
  rw [List.filter_append, List.getLast?_append]

theorem lastWrite_singleton (w : TableWrite) (x : String) :
    lastWrite [w] x = if w.serverId = x then some w else none := by
  by_cases h : w.serverId = x <;> simp [lastWrite, h]

theorem lastWrite_eq_none {writes : List TableWrite} {x : String} :
    lastWrite writes x = none ↔ ∀ w ∈ writes, w.serverId ≠ x := by
  simp [lastWrite]

/-- The maps are those of a row, or of none. -/
def Holds (s : NotificationHandler) (x : String) (row : Option ActiveNotification) : Prop :=
  s.serverNotificationIdMap.lookup x = row.map (·.androidId) ∧
    s.serverNotificationTypeMap.lookup x = row.map (·.type)

/-- The rehydration is past `x`. -/
def Loaded (s : NotificationHandler) (x : String) : Prop :=
  ∃ rest, s.loading = some rest ∧ ∀ e ∈ rest, e.1 ≠ x

/-- The maps say what the table will, once the writes are done; before the rehydration they may say
nothing. -/
def Remembers (s : NotificationHandler) (x : String) : Prop :=
  match lastWrite s.writes x with
  | some w => s.Holds x w.row
  | none => s.Holds x (s.table.lookup x) ∨ (¬ s.Loaded x ∧ s.Holds x none)

variable {s t : NotificationHandler} {x : String}

theorem Remembers.congr (h : s.Remembers x)
    (hid : t.serverNotificationIdMap.lookup x = s.serverNotificationIdMap.lookup x)
    (htype : t.serverNotificationTypeMap.lookup x = s.serverNotificationTypeMap.lookup x)
    (hlast : lastWrite t.writes x = lastWrite s.writes x)
    (htable : lastWrite s.writes x = none → t.table.lookup x = s.table.lookup x)
    (hloaded : t.Loaded x → s.Loaded x) : t.Remembers x := by
  have hholds : ∀ row, s.Holds x row → t.Holds x row := fun row hrow =>
    ⟨hid.trans hrow.1, htype.trans hrow.2⟩
  unfold Remembers at h ⊢
  rw [hlast]
  cases hw : lastWrite s.writes x with
  | some w =>
    rw [hw] at h
    exact hholds _ h
  | none =>
    rw [hw] at h
    refine h.imp (fun h => ?_) fun h => ⟨fun ht => h.1 (hloaded ht), hholds _ h.2⟩
    rw [htable hw]
    exact hholds _ h

/-- What is remembered of a tracked notification does not depend on the rehydration. -/
theorem Remembers.elim_tracked (h : s.Remembers x)
    (htracked : s.serverNotificationIdMap.lookup x ≠ none)
    (hid : t.serverNotificationIdMap.lookup x = s.serverNotificationIdMap.lookup x)
    (htype : t.serverNotificationTypeMap.lookup x = s.serverNotificationTypeMap.lookup x)
    (hwrites : t.writes = s.writes) (htable : t.table = s.table) : t.Remembers x := by
  unfold Remembers Holds at h ⊢
  rw [hid, htype, hwrites, htable]
  cases hw : lastWrite s.writes x with
  | some w =>
    rw [hw] at h
    exact h
  | none =>
    rw [hw] at h
    exact Or.inl (h.resolve_right fun hnone => htracked hnone.2.1)

/-! ## The invariant -/

/-- What every step keeps that spares the map. -/
structure Matches (s : NotificationHandler) : Prop where
  shows : Shows s.shown s.read
  ids_differ : ∀ x y a, s.serverNotificationIdMap.lookup x = some a →
    s.serverNotificationIdMap.lookup y = some a → x = y
  remembers : ∀ x, s.Remembers x

theorem Matches.oneToOne (h : s.Matches) : s.OneToOne where
  shown_once := h.shows.once
  ids_differ := h.ids_differ
  table_agrees hsettled x := by
    have hx := h.remembers x
    unfold Remembers at hx
    rw [hsettled.1] at hx
    exact hx.resolve_right fun hnot => hnot.1 ⟨[], hsettled.2, by simp⟩
  read_dismissed := h.shows.dismissed

theorem matches_init : init.Matches where
  shows := ⟨by simp [init], by simp [init]⟩
  ids_differ := by simp [init]
  remembers x := Or.inl ⟨by simp [init], by simp [init]⟩

namespace Matches

/-- A step that only displays less. -/
theorem shrink (h : s.Matches) {shown : Map Int Displayed} (hshown : Shows shown s.read) :
    { s with shown := shown }.Matches :=
  ⟨hshown, h.ids_differ, h.remembers⟩

theorem cancel (h : s.Matches) (androidId : Int) : (s.cancel androidId).Matches :=
  h.shrink (h.shows.erase androidId)

theorem markRead (h : s.Matches) (hx : ∀ a d, s.shown.lookup a = some d → d.serverId ≠ x) :
    (s.markRead x).Matches :=
  ⟨h.shows.markRead hx, h.ids_differ, h.remembers⟩

theorem untrack (h : s.Matches) (x : String) : (s.untrackServerNotification x).Matches where
  shows := h.shows
  ids_differ y z a hy hz :=
    h.ids_differ y z a (lookup_erase_eq_some.mp hy).2 (lookup_erase_eq_some.mp hz).2
  remembers y := by
    by_cases hy : x = y
    · subst hy
      unfold Remembers Holds
      simp [untrackServerNotification, lastWrite_append, lastWrite_singleton, TableWrite.serverId,
        TableWrite.row]
    · refine (h.remembers y).congr ?_ ?_ ?_ (fun _ => rfl) id
      · simp [untrackServerNotification, Ne.symm hy]
      · simp [untrackServerNotification, Ne.symm hy]
      · simp [untrackServerNotification, lastWrite_append, lastWrite_singleton, TableWrite.serverId, hy]

theorem cancelAndMarkRead (h : s.Matches) {androidId : Int} (hat : s.ShownAt x androidId) :
    (s.cancelAndMarkRead x androidId).Matches := by
  refine ((h.cancel androidId).untrack x).markRead fun a d ha hd => ?_
  obtain ⟨hne, ha⟩ := lookup_erase_eq_some.mp ha
  exact hne (hat.lookup ha hd)

/-- A notification is posted under an Android id that is free, and is tracked. -/
theorem post (h : s.Matches) {granted : Bool} {androidId : Int} {event : NotificationCreatedEvent}
    {channel : NotificationChannel} (type : NotificationType) (now : Nat)
    (hunused : s.Unused event.id androidId)
    (hshown : granted = true → event.id ∉ s.read ∧ s.ShownAt event.id androidId) :
    ((s.showNotification granted androidId ⟨event.id, channel, true⟩).trackServerNotification matchKey
      androidId type event now).Matches where
  shows := by
    cases granted with
    | false => exact h.shows
    | true =>
      obtain ⟨hread, hat⟩ := hshown rfl
      exact h.shows.insert hread fun a d ha hd => hat.lookup ha hd
  ids_differ := by
    -- Both `showNotification` and `trackServerNotification` put it into the map.
    have hshow := ids_insert h.ids_differ fun _ hx => hunused.lookup hx
    have htrack := ids_insert hshow fun x hx => hshow x event.id androidId hx (AList.lookup_insert _)
    simpa only [trackServerNotification, showNotification_idMap] using htrack
  remembers y := by
    by_cases hy : event.id = y
    · subst hy
      unfold Remembers Holds
      simp [trackServerNotification, lastWrite_append, lastWrite_singleton, TableWrite.serverId,
        TableWrite.row]
    · refine (h.remembers y).congr ?_ ?_ ?_ (fun _ => ?_) fun hl => ?_
      · simp [trackServerNotification, Ne.symm hy]
      · simp [trackServerNotification, Ne.symm hy]
      · simp [trackServerNotification, lastWrite_append, lastWrite_singleton, TableWrite.serverId, hy]
      · simp [trackServerNotification]
      · simpa [Loaded, trackServerNotification] using hl

/-- The writes of one notification run in their order. -/
theorem settle (h : s.Matches) {i : Nat} {ok : Bool} {w : TableWrite} (hw : s.writes[i]? = some w)
    (hfirst : ∀ v ∈ s.writes.take i, v.serverId ≠ w.serverId)
    (hlast : ok = true ∨ ∃ v ∈ s.writes.drop (i + 1), v.serverId = w.serverId) :
    { s with
      table := if ok then w.run s.table else s.table
      writes := s.writes.eraseIdx i }.Matches where
  shows := h.shows
  ids_differ := h.ids_differ
  remembers x := by
    have hx := h.remembers x
    have hsplit : lastWrite s.writes x = (lastWrite (s.writes.drop (i + 1)) x).or
        (if w.serverId = x then some w else lastWrite (s.writes.take i) x) := by
      obtain ⟨hi, hget⟩ := List.getElem?_eq_some_iff.mp hw
      have hwrites : s.writes = s.writes.take i ++ ([w] ++ s.writes.drop (i + 1)) := by
        rw [List.singleton_append, ← hget, ← List.drop_eq_getElem_cons hi, List.take_append_drop]
      rw [hwrites, lastWrite_append, lastWrite_append, lastWrite_singleton, ← hwrites, Option.or_assoc]
      congr 1
      split <;> rfl
    have herase : lastWrite (s.writes.eraseIdx i) x = (lastWrite (s.writes.drop (i + 1)) x).or
        (lastWrite (s.writes.take i) x) := by
      rw [List.eraseIdx_eq_take_drop_succ, lastWrite_append]
    have htable : w.serverId ≠ x → (if ok then w.run s.table else s.table).lookup x =
        s.table.lookup x := by
      intro hne
      split
      · rw [TableWrite.lookup_run, if_neg (Ne.symm hne)]
      · rfl
    by_cases hwx : w.serverId = x
    · subst hwx
      have hnone : lastWrite (s.writes.take i) w.serverId = none := lastWrite_eq_none.mpr hfirst
      rw [if_pos rfl] at hsplit
      rw [hnone, Option.or_none] at herase
      unfold Remembers at hx ⊢
      rw [hsplit] at hx
      simp only [herase]
      cases hlater : lastWrite (s.writes.drop (i + 1)) w.serverId with
      | some v =>
        simp only [hlater, Option.some_or] at hx
        exact hx
      | none =>
        -- The last write for it: it does not fail, and the row is what the maps say.
        have hok : ok = true :=
          hlast.resolve_right fun ⟨v, hv, hid⟩ => lastWrite_eq_none.mp hlater v hv hid
        simp only [hlater, Option.none_or] at hx
        left
        simp only [hok, if_true, TableWrite.lookup_run]
        exact hx
    · rw [if_neg hwx] at hsplit
      exact hx.congr rfl rfl (herase.trans hsplit.symm) (fun _ => htable hwx) id

theorem restart (h : s.Matches) :
    { init with table := s.table, shown := s.shown, read := s.read }.Matches where
  shows := h.shows
  ids_differ := by simp [init]
  remembers x := by
    refine Or.inr ⟨fun ⟨rest, hrest, _⟩ => ?_, by simp [init], by simp [init]⟩
    cases hrest

/-- The rows that are too old are those of notifications that are not tracked. -/
theorem rehydrate (h : s.Matches) {cutoff : Nat}
    (hold : ∀ e ∈ s.table.entries, e.2.createdAt < cutoff →
      s.serverNotificationIdMap.lookup e.1 = none ∨ s.Unwritten e.1) :
    { s with
      table := s.table.keep fun _ r => decide (cutoff ≤ r.createdAt)
      loading := some (getAll (s.table.keep fun _ r => decide (cutoff ≤ r.createdAt))) }.Matches where
  shows := h.shows
  ids_differ := h.ids_differ
  remembers x := by
    have hx := h.remembers x
    unfold Remembers at hx ⊢
    cases hw : lastWrite s.writes x with
    | some w =>
      simp only [hw] at hx ⊢
      exact hx
    | none =>
      simp only [hw] at hx ⊢
      cases hrow : s.table.lookup x with
      | none =>
        have hx : s.Holds x none := by
          rw [hrow] at hx
          exact hx.elim id And.right
        left
        rw [Map.lookup_keep, hrow]
        exact hx
      | some r =>
        by_cases hcutoff : cutoff ≤ r.createdAt
        · have hkept : (s.table.keep fun _ r => decide (cutoff ≤ r.createdAt)).lookup x = some r := by
            rw [Map.lookup_keep, hrow]
            simp [hcutoff]
          refine hx.imp (fun hx => ?_) fun hx => ⟨fun ⟨rest, hrest, hne⟩ => ?_, hx.2⟩
          · rw [hkept, ← hrow]
            exact hx
          · cases hrest
            exact hne (x, r) (List.mem_map.mpr ⟨⟨x, r⟩, AList.mem_lookup_iff.mp hkept, rfl⟩) rfl
        · have hid : s.serverNotificationIdMap.lookup x = none :=
            (hold ⟨x, r⟩ (AList.mem_lookup_iff.mp hrow) (Nat.lt_of_not_le hcutoff)).resolve_right
              fun ⟨w, hmem, hwx⟩ => lastWrite_eq_none.mp hw w hmem hwx
          have hx : s.Holds x none := by
            refine hx.elim (fun hx => ?_) And.right
            rw [hrow, Holds, hid] at hx
            cases hx.1
          have hgone : (s.table.keep fun _ r => decide (cutoff ≤ r.createdAt)).lookup x = none := by
            rw [Map.lookup_keep, hrow]
            simp [Nat.lt_of_not_le hcutoff]
          left
          rw [hgone]
          exact hx

/-- A row that was read is still the table's, or is in the maps already. -/
theorem rehydrateNext (h : s.Matches) {y : String} {r : ActiveNotification}
    {rest : List (String × ActiveNotification)} (hloading : s.loading = some ((y, r) :: rest))
    (hrow : (s.serverNotificationIdMap.lookup y = some r.androidId ∧
        s.serverNotificationTypeMap.lookup y = some r.type) ∨
      (¬ s.Unwritten y ∧ s.table.lookup y = some r ∧ s.Unused y r.androidId)) :
    { s with
      serverNotificationIdMap := s.serverNotificationIdMap.insert y r.androidId
      serverNotificationTypeMap := s.serverNotificationTypeMap.insert y r.type
      loading := some rest }.Matches where
  shows := h.shows
  ids_differ := by
    refine ids_insert h.ids_differ fun x hx => ?_
    obtain hmaps | ⟨_, _, hunused⟩ := hrow
    · exact h.ids_differ x y _ hx hmaps.1
    · exact hunused.lookup hx
  remembers x := by
    by_cases hxy : x = y
    · subst hxy
      obtain hmaps | ⟨hwrites, htable, _⟩ := hrow
      · -- Nothing changes for it, and it is tracked.
        refine (h.remembers x).elim_tracked (by simp [hmaps.1]) ?_ ?_ rfl rfl
        · rw [Map.lookup_insert, if_pos rfl, hmaps.1]
        · rw [Map.lookup_insert, if_pos rfl, hmaps.2]
      · have hnone : lastWrite s.writes x = none :=
          lastWrite_eq_none.mpr fun w hw hwx => hwrites ⟨w, hw, hwx⟩
        unfold Remembers
        simp only [hnone]
        refine Or.inl ⟨?_, ?_⟩ <;> rw [htable, Map.lookup_insert, if_pos rfl] <;> rfl
    · refine (h.remembers x).congr ?_ ?_ rfl (fun _ => rfl) fun ⟨rest', hrest', hne⟩ => ?_
      · rw [Map.lookup_insert, if_neg hxy]
      · rw [Map.lookup_insert, if_neg hxy]
      · cases hrest'
        refine ⟨_, hloading, fun e he => ?_⟩
        obtain rfl | he := List.mem_cons.mp he
        · exact Ne.symm hxy
        · exact hne e he

/-- A dismissal that takes nothing out of the map. -/
theorem dismissWhere (h : s.Matches) {p : String → Int → Bool} (hp : s.DismissesNone p) :
    (s.dismissWhere p).Matches := by
  have hid : ∀ x, (s.serverNotificationIdMap.keep fun x a => !p x a).lookup x =
      s.serverNotificationIdMap.lookup x := by
    intro x
    rw [Map.lookup_keep]
    cases hx : s.serverNotificationIdMap.lookup x with
    | none => rfl
    | some a =>
      have hpx : p x a = false := hp ⟨x, a⟩ (AList.mem_lookup_iff.mp hx)
      simp [hpx]
  exact {
    shows := h.shows.keep fun a _ => !(s.serverNotificationIdMap.keep p).entries.any fun e => e.2 == a
    ids_differ := fun x y a hx hy => h.ids_differ x y a ((hid x).symm.trans hx) ((hid y).symm.trans hy)
    remembers := fun x => (h.remembers x).congr (hid x) rfl rfl (fun _ => rfl) id }

/-- The first pass over a conversation. -/
theorem dismissTracked (h : s.Matches) {xs : List String}
    (hat : ∀ x ∈ xs, ∀ androidId ∈ s.serverNotificationIdMap.lookup x, s.ShownAt x androidId) :
    (s.dismissTracked xs).Matches := by
  induction xs generalizing s with
  | nil => exact h
  | cons x xs ih =>
    unfold NotificationHandler.dismissTracked
    split
    · exact ih h fun y hy => hat y (List.mem_cons_of_mem _ hy)
    · next androidId hid =>
      refine ih (h.cancelAndMarkRead (hat x List.mem_cons_self androidId hid)) fun y hy a ha e he => ?_
      -- What the rest cancels is tracked as before, and no more of it is displayed.
      have hold : s.serverNotificationIdMap.lookup y = some a := (lookup_erase_eq_some.mp ha).2
      have hmem : e ∈ s.shown.entries := (List.kerase_sublist _ _).subset he
      exact hat y (List.mem_cons_of_mem _ hy) a hold e hmem

theorem runJob (h : s.Matches) {job : ConversationJob} (ok : Bool) (hjob : s.SparesJob job) :
    (s.runJob ok job).1.Matches := by
  cases job with
  | query targetKey => exact h
  | queryAll targetKey => exact h
  | cancelActive persistedAndroidIds => exact h.shrink (h.shows.keep _)
  | cancel targetKey records =>
    cases records with
    | nil => exact h
    | cons r records => exact h.cancelAndMarkRead hjob

/-- The coroutines are not part of it. -/
theorem withJobs (h : s.Matches) (jobs : List ConversationJob) : { s with jobs := jobs }.Matches :=
  ⟨h.shows, h.ids_differ, h.remembers⟩

theorem handleNotificationUpdated (h : s.Matches) {event : NotificationUpdatedEvent}
    {calls : CallHistory} (granted : Bool) (hspares : s.Spares matchKey (.updated event calls granted)) :
    (s.handleNotificationUpdated event calls granted).Matches := by
  unfold NotificationHandler.handleNotificationUpdated
  cases hid : s.serverNotificationIdMap.lookup event.id with
  | none =>
    by_cases hread : event.status = some "read"
    · simp only [hread, if_true]
      refine h.markRead fun a d ha hd => ?_
      have hat := hspares
      simp only [Spares, hread, if_true] at hat
      cases hid.symm.trans (hat ⟨a, d⟩ (AList.mem_lookup_iff.mp ha) hd)
    · simp only [hread, if_false]
      exact h
  | some androidId =>
    by_cases hread : event.status = some "read"
    · simp only [hread, if_true]
      refine h.cancelAndMarkRead fun e he hd => ?_
      have hat := hspares
      simp only [Spares, hread, if_true] at hat
      exact Option.some.inj ((hat e he hd).symm.trans hid)
    · have hchanges := hspares
      simp only [Spares, hread, if_false, changesType, hid, Option.isSome_some, Bool.true_and] at hchanges
      simp only [hread, if_false]
      cases htype : event.notificationType with
      | none => exact h
      | some newType =>
        simp only [htype, Option.any_some] at hchanges
        by_cases hsame : s.serverNotificationTypeMap.lookup event.id = some newType
        · simp only [hsame, if_true]
          exact h
        · have hsuppressed : newType = .missedCall ∧ s.suppressed event.id calls = true := by
            simpa [hsame] using hchanges
          dsimp only
          rw [if_neg hsame, if_pos hsuppressed]
          exact (h.cancel androidId).untrack event.id

/-- What is created and posted. -/
theorem handleNotificationCreated (h : s.Matches) {event : NotificationCreatedEvent} {granted : Bool}
    (now : Nat) (hposts : ∀ androidId ∈ s.posts event, s.Unused event.id androidId ∧
      (granted = true → event.id ∉ s.read ∧ s.ShownAt event.id androidId)) :
    (s.handleNotificationCreated matchKey event granted now).Matches := by
  have hsms : ∀ c, { s with smsNotificationCounter := c }.Matches := fun _ =>
    ⟨h.shows, h.ids_differ, h.remembers⟩
  have hmissed : ∀ c, { s with missedCallNotificationCounter := c }.Matches := fun _ =>
    ⟨h.shows, h.ids_differ, h.remembers⟩
  unfold NotificationHandler.handleNotificationCreated
  unfold posts at hposts
  cases htype : event.notificationType with
  | incomingSms =>
    simp only [htype] at hposts
    by_cases htracked : (s.serverNotificationIdMap.lookup event.id).isSome = true
    · simp only [htracked, if_true]
      exact h
    · simp only [htracked] at hposts ⊢
      obtain ⟨hunused, hshown⟩ := hposts _ rfl
      exact (hsms _).post matchKey .incomingSms now hunused hshown
  | missedCall =>
    simp only [htype] at hposts
    obtain ⟨hunused, hshown⟩ := hposts _ rfl
    exact (hmissed _).post matchKey .missedCall now hunused hshown
  | blockedCall =>
    simp only [htype] at hposts
    obtain ⟨hunused, hshown⟩ := hposts _ rfl
    exact (hmissed _).post matchKey .blockedCall now hunused hshown
  | incomingCall => exact h
  | newDeviceLogin => exact h
  | other name => exact h

/-- What is not posted leaves what is displayed as it was. -/
theorem shown_of_not_posted {event : NotificationCreatedEvent} {granted : Bool} (now : Nat)
    (hposts : (s.posts event).isSome = true → granted = false) :
    (s.handleNotificationCreated matchKey event granted now).shown = s.shown := by
  unfold NotificationHandler.handleNotificationCreated
  unfold posts at hposts
  cases htype : event.notificationType with
  | incomingSms =>
    simp only [htype] at hposts
    by_cases htracked : (s.serverNotificationIdMap.lookup event.id).isSome = true
    · simp only [htracked, if_true]
    · simp only [htracked] at hposts ⊢
      cases hposts rfl
      rfl
  | missedCall =>
    simp only [htype] at hposts
    cases hposts rfl
    rfl
  | blockedCall =>
    simp only [htype] at hposts
    cases hposts rfl
    rfl
  | incomingCall => rfl
  | newDeviceLogin => rfl
  | other name => rfl

/-- **One step** that spares the map keeps it. -/
theorem step (h : s.Matches) {e : NotificationEvent} (hspares : s.Spares matchKey e)
    (hstep : s.step matchKey e = some t) : t.Matches := by
  cases e with
  | created event granted now =>
    cases hstep
    have ht := h.handleNotificationCreated matchKey now hspares.1
    split
    · next hread =>
      obtain ⟨hnone, hgranted⟩ := hspares.2 hread
      refine ht.markRead fun a d ha => ?_
      rw [shown_of_not_posted matchKey now hgranted] at ha
      exact hnone ⟨a, d⟩ (AList.mem_lookup_iff.mp ha)
    · exact ht
  | updated event calls granted =>
    cases hstep
    exact h.handleNotificationUpdated matchKey granted hspares
  | settle i ok =>
    obtain ⟨w, hw, rfl⟩ := Option.map_eq_some_iff.mp hstep
    obtain ⟨hfirst, hlast⟩ := hspares w hw
    exact h.settle hw hfirst hlast
  | restart =>
    cases hstep
    exact h.restart
  | rehydrate cutoff =>
    cases hstep
    exact h.rehydrate hspares
  | rehydrateNext =>
    simp only [NotificationHandler.step] at hstep
    split at hstep
    · next y r rest hloading =>
      cases hstep
      exact h.rehydrateNext hloading (hspares (y, r) (by simp [hloading]))
    · cases hstep
  | swipe androidId =>
    obtain ⟨d, hd, rfl⟩ := Option.map_eq_some_iff.mp hstep
    split
    · refine (h.cancel androidId).markRead fun a d' ha hid => ?_
      obtain ⟨hne, ha⟩ := lookup_erase_eq_some.mp ha
      exact hne (h.shows.once _ _ _ _ ha hd hid)
    · exact h.cancel androidId
  | tap androidId =>
    obtain ⟨d, hd, rfl⟩ := Option.map_eq_some_iff.mp hstep
    exact h.cancel androidId
  | dismissCallNotification callId =>
    cases hstep
    exact h.dismissWhere hspares
  | dismissAllMissedCallNotifications =>
    cases hstep
    have hnone : s.DismissesNone fun _ a => ofMissedCall a := hspares
    have hs := h.dismissWhere hnone
    exact hs.shrink (hs.shows.keep _)
  | dismissConversationNotifications phoneNumber =>
    cases hstep
    exact (h.dismissTracked hspares).withJobs _
  | conversationJob i ok =>
    obtain ⟨job, hjob, rfl⟩ := Option.map_eq_some_iff.mp hstep
    have hs := h.runJob ok (hspares job hjob)
    split <;> next heq => exact (show _ from heq ▸ hs).withJobs _
  | dismissMissedCallNotifications =>
    cases hstep
    exact h.dismissWhere hspares
  | cancelAll =>
    cases hstep
    have hid : ∀ x, s.serverNotificationIdMap.lookup x = none := fun x =>
      Option.eq_none_iff_forall_not_mem.mpr fun a ha =>
        Bool.noConfusion (hspares ⟨x, a⟩ (AList.mem_lookup_iff.mp ha))
    exact {
      shows := ⟨by simp, by simp⟩
      ids_differ := by simp
      remembers := fun x =>
        (h.remembers x).congr ((hid x).trans rfl).symm rfl rfl (fun _ => rfl) id }

end Matches

/-- **The notifications on Android are those of the server**, one for each, in every run that spares
them. -/
theorem stays_oneToOne {es : List NotificationEvent}
    (hspares : Guarded (step matchKey) (Spares matchKey) init es)
    (hrun : exec (step matchKey) init es = some s) : s.OneToOne :=
  (hspares.invariant (fun _ _ _ h hg hstep => h.step matchKey hg hstep) matches_init hrun).oneToOne

/-- A run with an SMS that is created twice, and one missed call. -/
theorem stays_oneToOne_run :
    ∃ s, exec (step id) init
        [.rehydrate 0, .created ⟨"s", .incomingSms, "pending", "1", some "+46700000001", none⟩ true 7,
          .settle 0 true, .created ⟨"s", .incomingSms, "pending", "1", some "+46700000001", none⟩ true 8,
          .created ⟨"m", .missedCall, "pending", "2", none, some "+46700000002"⟩ true 9] = some s ∧
      s.OneToOne := by
  have hspares : Guarded (step id) (Spares id) init
      [.rehydrate 0, .created ⟨"s", .incomingSms, "pending", "1", some "+46700000001", none⟩ true 7,
        .settle 0 true, .created ⟨"s", .incomingSms, "pending", "1", some "+46700000001", none⟩ true 8,
        .created ⟨"m", .missedCall, "pending", "2", none, some "+46700000002"⟩ true 9] := by
    decide +kernel
  exact ⟨_, rfl, stays_oneToOne id hspares rfl⟩

/-- **Two SMS under one id, and a missed call twice.** The counter starts again after a restart, at an id
that was rehydrated. A missed call that is created twice is displayed twice, and once when it is read. And
the call history takes a missed call out of one map, and leaves its row. -/
theorem restart_shares_ids :
    (∃ s, exec (step id) init
        [.rehydrate 0, .created ⟨"s", .incomingSms, "pending", "1", some "+46700000001", none⟩ true 7,
          .settle 0 true, .restart, .rehydrate 0, .rehydrateNext,
          .created ⟨"t", .incomingSms, "pending", "2", some "+46700000002", none⟩ true 8] = some s ∧
      s.serverNotificationIdMap.lookup "s" = some 2001 ∧
      s.serverNotificationIdMap.lookup "t" = some 2001 ∧ ¬ s.OneToOne) ∧
    (∃ s, exec (step id) init
        [.created ⟨"m", .missedCall, "pending", "1", none, some "+46700000001"⟩ true 7,
          .created ⟨"m", .missedCall, "pending", "1", none, some "+46700000001"⟩ true 8,
          .updated ⟨"m", none, some "read"⟩ ⟨fun _ => false, fun _ => false, fun _ => false, fun _ => false⟩
            true] = some s ∧
      "m" ∈ s.read ∧ s.shown.lookup 3001 = some ⟨"m", .missedCalls, true⟩ ∧ ¬ s.OneToOne) ∧
    ∃ s, exec (step id) init
        [.rehydrate 0, .created ⟨"m", .missedCall, "pending", "1", none, some "+46700000001"⟩ true 7,
          .settle 0 true, .dismissAllMissedCallNotifications] = some s ∧
      s.Settled ∧ s.serverNotificationIdMap.lookup "m" = none ∧
      (s.table.lookup "m").map (·.androidId) = some 3001 ∧ ¬ s.OneToOne := by
  refine ⟨⟨_, rfl, by decide +kernel, by decide +kernel, fun h => ?_⟩,
    ⟨_, rfl, by decide +kernel, by decide +kernel, fun h => ?_⟩,
    _, rfl, ⟨by decide +kernel, by decide +kernel⟩, by decide +kernel, by decide +kernel, fun h => ?_⟩
  · exact absurd (h.ids_differ "s" "t" 2001 (by decide +kernel) (by decide +kernel)) (by decide)
  · exact h.read_dismissed "m" (by decide +kernel) 3001 ⟨"m", .missedCalls, true⟩ (by decide +kernel) rfl
  · exact absurd (h.table_agrees ⟨by decide +kernel, by decide +kernel⟩ "m").1 (by decide +kernel)

end Svarla.Android.NotificationHandler
