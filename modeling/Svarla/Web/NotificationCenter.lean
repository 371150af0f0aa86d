import Svarla.Lib.Run
import Mathlib.Data.List.Nodup
import Mathlib.Data.List.Count

/-!
# The notification center

At most `maxVisible` notifications are shown, each with a timer, and the others wait in a queue. A
notification that leaves the screen makes room for the next one, and an id that was seen is ignored.

What has happened is kept beside the state: what was pushed and shown, what left the screen, and what
was dismissed while it waited. In every state what was shown and what waits is what was pushed, in its
order, without what was dismissed while it waited (`Fair.order`). So a notification is shown as soon as
those before it leave room for it (`notifications_fair`).

`resetNotifications`, which only tests call, and the listeners are left out.
-/

namespace Svarla.Web

open Svarla.Lib

/-- `MAX_VISIBLE`. -/
def maxVisible : Nat := 3

/-- `DEFAULT_TIMEOUT_MS`. -/
def defaultTimeoutMs : Nat := 6000

structure AppNotification where
  id : String
  timeoutMs : Option Nat
  deriving DecidableEq, Repr

structure NotificationCenter where
  visible : List AppNotification
  queue : List AppNotification
  /-- The armed timers, by id. -/
  timers : List (String × Nat)
  seen : List String
  /-- What was pushed and not ignored. -/
  pushed : List AppNotification
  /-- What became visible. -/
  shown : List AppNotification
  /-- What was visible, and is not any more. -/
  left : List String
  /-- What was dismissed while it waited. -/
  dropped : List String
  deriving DecidableEq, Repr

inductive NotificationEvent
  | pushNotification (n : AppNotification)
  | dismissNotification (id : String)
  /-- The timer of the id expires. -/
  | timerExpires (id : String)
  deriving DecidableEq, Repr

namespace NotificationCenter

def init : NotificationCenter := ⟨[], [], [], [], [], [], [], []⟩

def clearTimer (s : NotificationCenter) (id : String) : NotificationCenter :=
  { s with timers := s.timers.filter (·.1 ≠ id) }

def armTimer (s : NotificationCenter) (n : AppNotification) : NotificationCenter :=
  let s := s.clearTimer n.id
  { s with timers := s.timers ++ [(n.id, n.timeoutMs.getD defaultTimeoutMs)] }

/-- A notification becomes visible. -/
def put (s : NotificationCenter) (n : AppNotification) : NotificationCenter :=
  armTimer { s with visible := s.visible ++ [n], shown := s.shown ++ [n] } n

/-- The loop of `fillSlots`, over what waits. -/
def fill (s : NotificationCenter) : List AppNotification → NotificationCenter
  | [] => { s with queue := [] }
  | next :: rest =>
    if s.visible.length < maxVisible then fill (s.put next) rest else { s with queue := next :: rest }

def fillSlots (s : NotificationCenter) : NotificationCenter := s.fill s.queue

/-- A notification that was not seen. -/
def accept (s : NotificationCenter) (n : AppNotification) : NotificationCenter :=
  { s with seen := s.seen ++ [n.id], pushed := s.pushed ++ [n] }

def pushNotification (s : NotificationCenter) (n : AppNotification) : NotificationCenter :=
  if n.id ∈ s.seen then s
  else if s.visible.length < maxVisible then (s.accept n).put n
  else { s.accept n with queue := s.queue ++ [n] }

/-- The id is gone, with its timer. -/
def remove (s : NotificationCenter) (id : String) : NotificationCenter :=
  { s.clearTimer id with
    visible := s.visible.filter (·.id ≠ id)
    queue := s.queue.filter (·.id ≠ id)
    left := if id ∈ s.visible.map (·.id) then s.left ++ [id] else s.left
    dropped := if id ∈ s.queue.map (·.id) then s.dropped ++ [id] else s.dropped }

/-- `dismissNotification`. The slots are filled where the id was visible. -/
def dismissNotification (s : NotificationCenter) (id : String) : NotificationCenter :=
  if id ∈ s.visible.map (·.id) then (s.remove id).fillSlots else s.remove id

def step (s : NotificationCenter) : NotificationEvent → Option NotificationCenter
  | .pushNotification n => some (s.pushNotification n)
  | .dismissNotification id => some (s.dismissNotification id)
  | .timerExpires id => if id ∈ s.timers.map (·.1) then some (s.dismissNotification id) else none

/-- The queue is bounded and fair. -/
structure Fair (s : NotificationCenter) : Prop where
  bounded : s.visible.length ≤ maxVisible
  full : s.queue ≠ [] → s.visible.length = maxVisible
  /-- The ids that are visible or wait are distinct. -/
  distinct : ((s.visible ++ s.queue).map (·.id)).Nodup
  /-- Each visible notification has its timer, and no other one has. -/
  timers : s.timers = s.visible.map fun n => (n.id, n.timeoutMs.getD defaultTimeoutMs)
  shownOnce : (s.shown.map (·.id)).Nodup
  order : s.shown ++ s.queue = s.pushed.filter (·.id ∉ s.dropped)
  /-- What was shown is visible, or has left. -/
  count : s.shown.length = s.visible.length + s.left.length

/-- What every operation keeps, also between its parts. -/
structure Inv (s : NotificationCenter) : Prop where
  bounded : s.visible.length ≤ maxVisible
  timers : s.timers = s.visible.map fun n => (n.id, n.timeoutMs.getD defaultTimeoutMs)
  seen : s.seen = s.pushed.map (·.id)
  pushedOnce : (s.pushed.map (·.id)).Nodup
  shown : s.visible.Sublist s.shown
  order : s.shown ++ s.queue = s.pushed.filter (·.id ∉ s.dropped)
  dropped : ∀ id ∈ s.dropped, id ∈ s.seen
  count : s.shown.length = s.visible.length + s.left.length

theorem inv_init : Inv init :=
  ⟨Nat.zero_le _, rfl, rfl, List.nodup_nil, .slnil, rfl, nofun, rfl⟩

/-- What was shown and what waits is distinct. -/
theorem Inv.distinct {s : NotificationCenter} (h : Inv s) :
    ((s.shown ++ s.queue).map (·.id)).Nodup := by
  rw [h.order]
  exact h.pushedOnce.sublist (List.filter_sublist.map _)

theorem Inv.visible_queue {s : NotificationCenter} (h : Inv s) :
    ((s.visible ++ s.queue).map (·.id)).Nodup :=
  h.distinct.sublist ((h.shown.append (List.Sublist.refl _)).map _)

theorem Inv.fair {s : NotificationCenter} (h : Inv s)
    (hfull : s.queue ≠ [] → s.visible.length = maxVisible) : Fair s where
  bounded := h.bounded
  full := hfull
  distinct := h.visible_queue
  timers := h.timers
  shownOnce := h.distinct.sublist ((List.sublist_append_left _ _).map _)
  order := h.order
  count := h.count

/-- What was shown and what waits was seen. -/
theorem Inv.mem_seen {s : NotificationCenter} (h : Inv s) {n : AppNotification}
    (hn : n ∈ s.shown ++ s.queue) : n.id ∈ s.seen := by
  rw [h.order] at hn
  rw [h.seen]
  exact List.mem_map_of_mem (List.mem_of_mem_filter hn)

/-- An id that is not there is not removed. -/
theorem filter_ids {ns : List AppNotification} {id : String} (h : id ∉ ns.map (·.id)) :
    ns.filter (·.id ≠ id) = ns := by
  rw [List.filter_eq_self]
  intro n hn
  rw [decide_eq_true_eq]
  rintro rfl
  exact h (List.mem_map_of_mem hn)

/-- The timers without that of the id are those of the others. -/
theorem filter_timers (ns : List AppNotification) (id : String) (f : AppNotification → Nat) :
    (ns.map fun n => (n.id, f n)).filter (·.1 ≠ id) =
      (ns.filter (·.id ≠ id)).map fun n => (n.id, f n) := by
  rw [List.filter_map]
  rfl

/-- What is pushed waits behind the others. -/
theorem Inv.enqueue {s : NotificationCenter} (h : Inv s) {n : AppNotification}
    (hn : n.id ∉ s.seen) :
    Inv { s.accept n with queue := s.queue ++ [n] } where
  bounded := h.bounded
  timers := h.timers
  seen := by simp [accept, h.seen]
  pushedOnce := by
    rw [accept, List.map_append, List.map_singleton, List.nodup_append]
    refine ⟨h.pushedOnce, List.nodup_singleton _, fun id hid id' hid' heq => hn ?_⟩
    rw [List.mem_singleton] at hid'
    rw [h.seen, ← hid', ← heq]
    exact hid
  shown := h.shown
  order := by
    have hdropped : n.id ∉ s.dropped := fun hmem => hn (h.dropped _ hmem)
    rw [accept, List.filter_append, ← h.order, List.append_assoc]
    simp [hdropped]
  dropped := fun id hid => List.mem_append_left _ (h.dropped id hid)
  count := h.count

/-- The first one that waits becomes visible. -/
theorem Inv.put {s : NotificationCenter} {n : AppNotification} {rest : List AppNotification}
    (h : Inv { s with queue := n :: rest }) (hroom : s.visible.length < maxVisible) :
    Inv { s.put n with queue := rest } where
  bounded := by
    rw [NotificationCenter.put, armTimer, clearTimer, List.length_append, List.length_singleton]
    exact hroom
  timers := by
    have hdistinct := h.visible_queue
    rw [List.map_append, List.map_cons, List.nodup_append] at hdistinct
    have hid : n.id ∉ s.visible.map (·.id) := fun hid =>
      hdistinct.2.2 _ hid _ List.mem_cons_self rfl
    have htimers : s.timers = _ := h.timers
    simp only [NotificationCenter.put, armTimer, clearTimer]
    rw [htimers, filter_timers, filter_ids hid, List.map_append, List.map_singleton]
  seen := h.seen
  pushedOnce := h.pushedOnce
  shown := h.shown.append (List.Sublist.refl _)
  order := by
    have hassoc : s.shown ++ [n] ++ rest = s.shown ++ n :: rest := List.append_cons .. |>.symm
    exact hassoc.trans h.order
  dropped := h.dropped
  count := by
    have hcount : s.shown.length = _ := h.count
    simp only [NotificationCenter.put, armTimer, clearTimer, List.length_append,
      List.length_singleton, hcount]
    omega

/-- The slots are filled, or nobody waits. -/
theorem Inv.fill {s : NotificationCenter} {waiting : List AppNotification}
    (h : Inv { s with queue := waiting }) : Inv (s.fill waiting) ∧
      ((s.fill waiting).queue ≠ [] → (s.fill waiting).visible.length = maxVisible) := by
  induction waiting generalizing s with
  | nil => exact ⟨h, fun hne => absurd rfl hne⟩
  | cons next rest ih =>
    rw [NotificationCenter.fill]
    split
    · rename_i hroom
      exact ih (h.put hroom)
    · rename_i hfull
      exact ⟨h, fun _ => Nat.le_antisymm h.bounded (Nat.le_of_not_lt hfull)⟩

/-- What is visible loses one, where the id was visible. -/
theorem length_filter_ne {ns : List AppNotification} (hnodup : (ns.map (·.id)).Nodup) (id : String) :
    (ns.filter (·.id ≠ id)).length + (if id ∈ ns.map (·.id) then 1 else 0) = ns.length := by
  induction ns with
  | nil => rfl
  | cons n ns ih =>
    rw [List.map_cons, List.nodup_cons] at hnodup
    have hrest := ih hnodup.2
    rcases eq_or_ne n.id id with rfl | hne
    · rw [if_neg hnodup.1] at hrest
      simpa using hrest
    · have hmem : id ∈ (n :: ns).map (·.id) ↔ id ∈ ns.map (·.id) := by simp [hne.symm]
      rw [List.filter_cons_of_pos (by simpa using hne), List.length_cons, List.length_cons]
      simp only [hmem]
      omega

/-- A notification is gone, and its slot is free. -/
theorem Inv.remove {s : NotificationCenter} (h : Inv s) (id : String) : Inv (s.remove id) where
  bounded := Nat.le_trans (List.length_filter_le _ _) h.bounded
  timers := by
    rw [NotificationCenter.remove, clearTimer, h.timers, filter_timers]
  seen := h.seen
  pushedOnce := h.pushedOnce
  shown := List.filter_sublist.trans h.shown
  order := by
    rcases Decidable.em (id ∈ s.queue.map (·.id)) with hqueued | hqueued
    · -- it was not shown, as it waited
      have hdistinct := h.distinct
      rw [List.map_append, List.nodup_append] at hdistinct
      have hshown : s.shown.filter (·.id ≠ id) = s.shown :=
        filter_ids fun hid => hdistinct.2.2 _ hid _ hqueued rfl
      have hfilter : s.pushed.filter (·.id ∉ s.dropped ++ [id]) =
          (s.pushed.filter (·.id ∉ s.dropped)).filter (·.id ≠ id) := by
        rw [List.filter_filter]
        refine List.filter_congr fun n _ => ?_
        simp [and_comm]
      simp only [NotificationCenter.remove, clearTimer, if_pos hqueued]
      rw [hfilter, ← h.order, List.filter_append, hshown]
    · simp only [NotificationCenter.remove, clearTimer, if_neg hqueued]
      rw [filter_ids hqueued, h.order]
  dropped := by
    simp only [NotificationCenter.remove, clearTimer]
    rcases Decidable.em (id ∈ s.queue.map (·.id)) with hqueued | hqueued
    · rw [if_pos hqueued]
      intro id' hid'
      rcases List.mem_append.mp hid' with hid' | hid'
      · exact h.dropped id' hid'
      · rw [List.mem_singleton] at hid'
        obtain ⟨n, hn, hid⟩ := List.mem_map.mp hqueued
        rw [hid', ← hid]
        exact h.mem_seen (List.mem_append_right _ hn)
    · rw [if_neg hqueued]
      exact h.dropped
  count := by
    have hnodup := h.visible_queue.sublist ((List.sublist_append_left _ _).map _)
    have hlength := length_filter_ne hnodup id
    have hcount := h.count
    simp only [NotificationCenter.remove, clearTimer]
    rcases Decidable.em (id ∈ s.visible.map (·.id)) with hvisible | hvisible
    · rw [if_pos hvisible] at hlength ⊢
      rw [List.length_append, List.length_singleton]
      omega
    · rw [if_neg hvisible] at hlength ⊢
      omega

/-- What waits does so only where all slots are taken. -/
def Full (s : NotificationCenter) : Prop := s.queue ≠ [] → s.visible.length = maxVisible

theorem Inv.push {s : NotificationCenter} (h : Inv s) (hfull : Full s) (n : AppNotification) :
    Inv (s.pushNotification n) ∧ Full (s.pushNotification n) := by
  rw [pushNotification]
  split
  · exact ⟨h, hfull⟩
  · rename_i hseen
    have henqueue := h.enqueue hseen
    split
    · -- there is room: nobody waits
      rename_i hroom
      have hqueue : s.queue = [] := by
        by_contra hne
        exact absurd (hfull hne) (Nat.ne_of_lt hroom)
      rw [hqueue, List.nil_append] at henqueue
      have hput := henqueue.put hroom
      rw [← hqueue] at hput
      exact ⟨hput, fun hne => absurd hqueue hne⟩
    · rename_i hroom
      exact ⟨henqueue, fun _ => Nat.le_antisymm h.bounded (Nat.le_of_not_lt hroom)⟩

theorem Inv.dismiss {s : NotificationCenter} (h : Inv s) (hfull : Full s) (id : String) :
    Inv (s.dismissNotification id) ∧ Full (s.dismissNotification id) := by
  have hremove := h.remove id
  rw [dismissNotification]
  split
  · exact hremove.fill
  · -- what is visible is what it was
    rename_i hvisible
    refine ⟨hremove, fun hne => ?_⟩
    have hqueue : s.queue ≠ [] := by
      intro hnil
      exact hne (by simp [NotificationCenter.remove, hnil])
    exact (congrArg List.length (filter_ids hvisible)).trans (hfull hqueue)

/-- **One step.** -/
theorem Inv.step {s t : NotificationCenter} {e : NotificationEvent} (h : Inv s ∧ Full s)
    (hstep : s.step e = some t) : Inv t ∧ Full t := by
  cases e with
  | pushNotification n =>
    cases hstep
    exact h.1.push h.2 n
  | dismissNotification id =>
    cases hstep
    exact h.1.dismiss h.2 id
  | timerExpires id =>
    rw [NotificationCenter.step] at hstep
    split at hstep
    · cases hstep
      exact h.1.dismiss h.2 id
    · cases hstep

/-- **The notification center is a bounded fair queue**, after every run. -/
theorem notifications_fair {es : List NotificationEvent} {t : NotificationCenter}
    (hrun : exec NotificationCenter.step init es = some t) : Fair t := by
  obtain ⟨hinv, hfull⟩ := exec_invariant (I := fun s => Inv s ∧ Full s)
    (fun _ _ _ h hstep => Inv.step h hstep) ⟨inv_init, fun hne => absurd rfl hne⟩ hrun
  exact hinv.fair hfull

/-- Four notifications and one of them again: the fourth one waits until the second one is dismissed. -/
theorem notifications_fair_four :
    ∃ t, exec NotificationCenter.step init [.pushNotification ⟨"a", none⟩,
      .pushNotification ⟨"b", some 900⟩, .pushNotification ⟨"c", none⟩, .pushNotification ⟨"d", none⟩,
      .pushNotification ⟨"b", none⟩, .dismissNotification "b", .timerExpires "a"] = some t ∧
      t.visible.map (·.id) = ["c", "d"] ∧ Fair t :=
  ⟨_, rfl, by decide, @notifications_fair [.pushNotification ⟨"a", none⟩,
      .pushNotification ⟨"b", some 900⟩, .pushNotification ⟨"c", none⟩, .pushNotification ⟨"d", none⟩,
      .pushNotification ⟨"b", none⟩, .dismissNotification "b", .timerExpires "a"] _ rfl⟩

/-- **When a notification is shown.** What was shown are the first ones that were pushed and not dropped:
as many as there are slots, and one more for each that has left. -/
theorem Fair.shown_eq {s : NotificationCenter} (h : Fair s) :
    s.shown = (s.pushed.filter (·.id ∉ s.dropped)).take (maxVisible + s.left.length) := by
  have hbounded := h.bounded
  have hcount := h.count
  rw [← h.order]
  rcases List.eq_nil_or_concat s.queue with hqueue | ⟨init, last, hqueue⟩
  · rw [hqueue, List.append_nil, List.take_of_length_le (by omega)]
  · have hfull := h.full (by rw [hqueue]; simp)
    rw [← hfull, ← hcount, List.take_left]

end NotificationCenter
end Svarla.Web
