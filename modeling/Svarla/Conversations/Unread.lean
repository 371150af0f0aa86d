import Mathlib
import Svarla.Conversations.LastMessage

/-!
# Unread messages

A thread is marked as read with the time of the server's clock, and its received messages with a later time
count as unread. The time is that of the sender's network, though, and neither a removed message nor a removed
conversation is left out. So the counts are right as long as a message comes with a later time than its thread
was marked with, a thread is marked after the times of all its messages, and what is removed has been read
(`counts_right`).
-/

namespace Svarla.Conversations

open Svarla.Lib
open Svarla.Notifications (Direction Thread)

namespace Store

/-- `threadKey`. -/
abbrev threadKey (thread : Thread) : String := Notifications.Store.threadKey thread

/-- When a thread was marked as read. -/
def readAt (s : Store) (thread : Thread) : Option Int :=
  (s.readState.find? (·.1 = threadKey thread)).map (·.2)

/-- What `markThreadAsRead` writes. -/
def markThreadAsRead (s : Store) (thread : Thread) (now : Int) : Store :=
  { s with
    readState :=
      if ∃ entry ∈ s.readState, entry.1 = threadKey thread then
        s.readState.map fun entry => if entry.1 = threadKey thread then (entry.1, now) else entry
      else s.readState ++ [(threadKey thread, now)] }

/-- The query of `getUnreadMessagesCount` for a thread; no provider is written as an empty number. -/
def unreadCount (s : Store) (thread : Thread) : Nat :=
  (s.messages.filter fun m =>
    m.conversationNumber = thread.phoneNumber ∧ m.direction = .received ∧
      m.providerNumber = (if thread.providerNumber = "" then none else some thread.providerNumber) ∧
        ∀ readAt ∈ s.readAt thread, readAt < m.timestamp).length

def getUnreadMessagesCount (s : Store) : Nat := (s.conversations.map fun c => s.unreadCount c.thread).sum

def removeConversation (s : Store) (thread : Thread) : Store :=
  { s with
    conversations := s.conversations.map fun c =>
      if c.thread = thread then { c with removed := true } else c }

/-- `removeMessage` and `restoreMessage`. -/
def setRemoved (s : Store) (id : String) (removed : Bool) : Store :=
  { s with messages := s.messages.map fun m => if m.id = id then { m with removed } else m }

end Store

/-- The thread of a message. -/
def Message.thread (m : Message) : Thread := ⟨m.providerNumber.getD "", m.conversationNumber⟩

/-- The tables, and the messages that have been in their thread when it was marked as read. -/
structure ReadStateService where
  store : Store
  marked : List String

inductive ReadEvent
  | send (src normalizedTo body id : String) (now : Int)
  | receive (messageId sender recipient body id : String) (timestamp : Int)
  | markThreadAsRead (thread : Thread) (now : Int)
  | removeConversation (thread : Thread)
  | removeMessage (id : String)
  | restoreMessage (id : String)

namespace ReadStateService

def init : ReadStateService := ⟨.init, []⟩

/-- A message of a thread that was received. -/
def IsInbound (thread : Thread) (m : Message) : Prop := m.direction = .received ∧ m.thread = thread

instance (thread : Thread) (m : Message) : Decidable (IsInbound thread m) :=
  inferInstanceAs (Decidable (_ ∧ _))

/-- A message is stored in its thread. -/
def insert (s : ReadStateService) (m : Message) : Option ReadStateService :=
  ((s.store.upsertConversation m.thread).insertMessage m).map fun store => { s with store }

def step (s : ReadStateService) : ReadEvent → Option ReadStateService
  | .send src normalizedTo body id now => s.insert (ConversationService.sentRow src normalizedTo body id now)
  | .receive messageId sender recipient body id timestamp =>
    if messageId ≠ "" ∧ ∃ m ∈ s.store.messages, m.providerMessageId = some messageId then some s
    else s.insert (ConversationService.receivedRow messageId sender recipient body id timestamp)
  | .markThreadAsRead thread now =>
    some
      { store := s.store.markThreadAsRead thread now
        marked := s.marked ++ (s.store.messages.filter (IsInbound thread ·)).map (·.id) }
  | .removeConversation thread => some { s with store := s.store.removeConversation thread }
  | .removeMessage id => some { s with store := s.store.setRemoved id true }
  | .restoreMessage id => some { s with store := s.store.setRemoved id false }

/-! ## Right counts -/

/-- The messages of a conversation that are seen and have not been read. -/
def visibleUnread (s : ReadStateService) (c : Conversation) : List Message :=
  s.store.messages.filter fun m =>
    IsInbound c.thread m ∧ m.removed = false ∧ c.removed = false ∧ m.id ∉ s.marked

/-- The counts are right, and go to zero where a thread is marked. -/
structure CountsRight (s : ReadStateService) : Prop where
  thread : ∀ c ∈ s.store.conversations, s.store.unreadCount c.thread = (s.visibleUnread c).length
  badge : s.store.getUnreadMessagesCount =
    ((s.store.conversations.filter (·.removed = false)).map fun c => (s.visibleUnread c).length).sum

/-- A message comes after its thread was marked, a thread is marked after its messages, no other has its key,
and what is removed has been read. -/
def InOrder (s : ReadStateService) : ReadEvent → Prop
  | .send .. => True
  | .receive messageId sender recipient _ _ timestamp =>
    (messageId ≠ "" ∧ ∃ m ∈ s.store.messages, m.providerMessageId = some messageId) ∨
      (recipient ≠ "" ∧ ∀ readAt ∈ s.store.readAt ⟨recipient, sender⟩, readAt < timestamp)
  | .markThreadAsRead thread now => ∀ m ∈ s.store.messages, m.direction = .received →
      Store.threadKey m.thread = Store.threadKey thread → m.thread = thread ∧ m.timestamp ≤ now
  | .removeConversation thread => ∀ m ∈ s.store.messages, IsInbound thread m → m.id ∈ s.marked
  | .removeMessage id => ∀ m ∈ s.store.messages, m.id = id → m.direction = .received → m.id ∈ s.marked
  | .restoreMessage _ => True

instance (s : ReadStateService) : (e : ReadEvent) → Decidable (s.InOrder e)
  | .send .. | .restoreMessage _ => .isTrue trivial
  | .receive _ sender recipient _ _ _ =>
    inferInstanceAs (Decidable (_ ∨ (recipient ≠ "" ∧ ∀ readAt ∈ s.store.readAt ⟨recipient, sender⟩, _)))
  | .markThreadAsRead _ _ | .removeConversation _ | .removeMessage _ =>
    inferInstanceAs (Decidable (∀ m ∈ s.store.messages, _))

/-- A message counts as unread. -/
def Counts (s : ReadStateService) (m : Message) : Prop :=
  m.providerNumber = (if m.thread.providerNumber = "" then none else some m.thread.providerNumber) ∧
    ∀ readAt ∈ s.store.readAt m.thread, readAt < m.timestamp

/-- A received message counts until its thread is marked, and what is removed has been marked. -/
structure Inv (s : ReadStateService) : Prop where
  counts : ∀ m ∈ s.store.messages, m.direction = .received → (s.Counts m ↔ m.id ∉ s.marked)
  removed : ∀ m ∈ s.store.messages, m.direction = .received → m.removed = true → m.id ∈ s.marked
  hidden : ∀ c ∈ s.store.conversations, c.removed = true →
    ∀ m ∈ s.store.messages, IsInbound c.thread m → m.id ∈ s.marked
  stored : ∀ id ∈ s.marked, ∃ m ∈ s.store.messages, m.id = id
  nodup : (s.store.messages.map (·.id)).Nodup

variable {s t : ReadStateService} {thread other : Thread} {m : Message} {c : Conversation} {now : Int}

/-! ## Steps -/

/-- The entries of another key stay. -/
theorem find?_written_of_ne (entries : List (String × Int)) {key key' : String} (hne : key' ≠ key) :
    ((entries.map fun entry => if entry.1 = key then (entry.1, now) else entry).find? (·.1 = key')) =
      entries.find? (·.1 = key') := by
  induction entries with
  | nil => rfl
  | cons entry entries ih =>
    rw [List.map_cons, List.find?_cons, List.find?_cons, ih]
    by_cases hkey : entry.1 = key
    · have hskip : entry.1 ≠ key' := fun heq => hne (heq.symm.trans hkey)
      rw [if_pos hkey, decide_eq_false hskip]
    · rw [if_neg hkey]

theorem find?_written {entries : List (String × Int)} {key : String}
    (hentry : ∃ entry ∈ entries, entry.1 = key) :
    (entries.map fun entry => if entry.1 = key then (entry.1, now) else entry).find? (·.1 = key) =
      some (key, now) := by
  induction entries with
  | nil => exact absurd hentry (by simp)
  | cons entry entries ih =>
    rw [List.map_cons, List.find?_cons]
    by_cases hkey : entry.1 = key
    · rw [if_pos hkey, decide_eq_true hkey, hkey]
    · rw [if_neg hkey, decide_eq_false hkey]
      obtain ⟨entry', hmem, heq⟩ := hentry
      obtain rfl | hmem := List.mem_cons.mp hmem
      · exact absurd heq hkey
      · exact ih ⟨entry', hmem, heq⟩

theorem readAt_markThreadAsRead {store : Store} :
    (store.markThreadAsRead thread now).readAt other =
      if Store.threadKey other = Store.threadKey thread then some now else store.readAt other := by
  unfold Store.readAt Store.markThreadAsRead
  dsimp only
  split
  · next hentry =>
    split
    · next hkey => rw [hkey, find?_written hentry, Option.map_some]
    · next hne => rw [find?_written_of_ne _ hne]
  · next hnone =>
    have hfind : store.readState.find? (·.1 = Store.threadKey thread) = none :=
      List.find?_eq_none.mpr fun entry hmem heq => hnone ⟨entry, hmem, of_decide_eq_true heq⟩
    rw [List.find?_append]
    split
    · next hkey =>
      rw [hkey, hfind]
      simp
    · next hne => 
      have hother : Store.threadKey thread ≠ Store.threadKey other := fun heq => hne heq.symm
      simp [hother]

theorem inv_insert (h : s.Inv) (hremoved : m.removed = false) (hcounts : m.direction = .received → s.Counts m)
    (hstep : s.insert m = some t) : t.Inv := by
  unfold insert Store.insertMessage at hstep
  split at hstep
  · cases hstep
  · next hfresh =>
    cases hstep
    rw [Store.messages_upsert] at hfresh
    have hunmarked : m.id ∉ s.marked := fun hid => hfresh (h.stored m.id hid)
    have hreadAt : ∀ thread, Store.readAt ⟨(s.store.upsertConversation m.thread).messages ++ [m],
        (s.store.upsertConversation m.thread).conversations,
        (s.store.upsertConversation m.thread).readState⟩ thread = s.store.readAt thread := fun thread => by
      simp only [Store.readAt, Store.readState_upsert]
    refine ⟨fun m' hm' hreceived => ?_, fun m' hm' hreceived hgone => ?_,
      fun c hc hgone m' hm' hinbound => ?_, fun id hid => ?_, ?_⟩
    · unfold Counts
      dsimp only at hm' ⊢
      rw [hreadAt]
      rw [Store.messages_upsert, List.mem_append, List.mem_singleton] at hm'
      obtain hm' | rfl := hm'
      · exact h.counts m' hm' hreceived
      · exact iff_of_true (hcounts hreceived) hunmarked
    · dsimp only at hm' ⊢
      rw [Store.messages_upsert, List.mem_append, List.mem_singleton] at hm'
      obtain hm' | rfl := hm'
      · exact h.removed m' hm' hreceived hgone
      · rw [hremoved] at hgone
        cases hgone
    · dsimp only at hc hm' ⊢
      have hne : c.thread ≠ m.thread := fun heq => by
        rw [← heq] at hc
        rw [Store.removed_upsert hc] at hgone
        cases hgone
      rw [Store.messages_upsert, List.mem_append, List.mem_singleton] at hm'
      obtain hm' | rfl := hm'
      · exact h.hidden c ((Store.mem_upsert_of_ne hne).mp hc) hgone m' hm' hinbound
      · exact absurd hinbound.2.symm hne
    · obtain ⟨m', hm', hid⟩ := h.stored id hid
      dsimp only
      rw [Store.messages_upsert]
      exact ⟨m', List.mem_append_left _ hm', hid⟩
    · dsimp only
      rw [Store.messages_upsert, List.map_append, List.map_singleton]
      refine List.nodup_append.mpr ⟨h.nodup, List.pairwise_singleton _ _, fun id hid id' hid' => ?_⟩
      rw [List.mem_singleton] at hid'
      rw [hid']
      rintro rfl
      obtain ⟨m', hm', hid⟩ := List.mem_map.mp hid
      exact hfresh ⟨m', hm', hid⟩

/-- The messages of the thread are read, and no others. -/
theorem inv_mark (h : s.Inv) (horder : s.InOrder (.markThreadAsRead thread now)) :
    Inv
      { store := s.store.markThreadAsRead thread now
        marked := s.marked ++ (s.store.messages.filter (IsInbound thread ·)).map (·.id) } := by
  have hread : ∀ m ∈ s.store.messages, m.direction = .received → (m.id ∈ s.marked ++
      (s.store.messages.filter (IsInbound thread ·)).map (·.id) ↔ m.id ∈ s.marked ∨ m.thread = thread) := by
    intro m hm hreceived
    rw [List.mem_append]
    refine or_congr_right ⟨fun hid => ?_, fun hthread => ?_⟩
    · obtain ⟨m', hm', hid⟩ := List.mem_map.mp hid
      obtain ⟨hm', hinbound⟩ := List.mem_filter.mp hm'
      rw [List.inj_on_of_nodup_map h.nodup hm' hm hid] at hinbound
      exact (of_decide_eq_true hinbound).2
    · exact List.mem_map.mpr ⟨m, List.mem_filter.mpr ⟨hm, decide_eq_true ⟨hreceived, hthread⟩⟩, rfl⟩
  refine ⟨fun m hm hreceived => ?_,
    fun m hm hreceived hgone => List.mem_append_left _ (h.removed m hm hreceived hgone),
    fun c hc hgone m hm hinbound => List.mem_append_left _ (h.hidden c hc hgone m hm hinbound),
    fun id hid => ?_, h.nodup⟩
  · rw [hread m hm hreceived]
    unfold Counts
    dsimp only
    rw [readAt_markThreadAsRead]
    by_cases hkey : Store.threadKey m.thread = Store.threadKey thread
    · obtain ⟨hthread, hle⟩ := horder m hm hreceived hkey
      rw [if_pos hkey]
      refine iff_of_false (fun hcounts => ?_) fun hnot => hnot (.inr hthread)
      have := hcounts.2 now rfl
      omega
    · have hne : m.thread ≠ thread := fun heq => hkey (by rw [heq])
      rw [if_neg hkey, or_iff_left hne]
      exact h.counts m hm hreceived
  · obtain hid | hid := List.mem_append.mp hid
    · exact h.stored id hid
    · obtain ⟨m, hm, hid⟩ := List.mem_map.mp hid
      exact ⟨m, (List.mem_filter.mp hm).1, hid⟩

theorem inv_removeConversation (h : s.Inv) (horder : s.InOrder (.removeConversation thread)) :
    Inv { s with store := s.store.removeConversation thread } := by
  refine ⟨h.counts, h.removed, fun c hc hgone m hm hinbound => ?_, h.stored, h.nodup⟩
  obtain ⟨c', hc', rfl⟩ := List.mem_map.mp hc
  by_cases hthread : c'.thread = thread
  · rw [if_pos hthread] at hinbound
    exact horder m hm (hthread ▸ hinbound)
  · rw [if_neg hthread] at hinbound hgone
    exact h.hidden c' hc' hgone m hm hinbound

/-- Removed or not, a message counts as before. -/
theorem inv_setRemoved (h : s.Inv) {id : String} {removed : Bool}
    (horder : removed = true → s.InOrder (.removeMessage id)) :
    Inv { s with store := s.store.setRemoved id removed } := by
  have hrow : ∀ m ∈ (s.store.setRemoved id removed).messages, ∃ m' ∈ s.store.messages, m.id = m'.id ∧
      m.thread = m'.thread ∧ m.direction = m'.direction ∧ m.timestamp = m'.timestamp ∧
        m.providerNumber = m'.providerNumber ∧
          (m.removed = true → m'.removed = true ∨ removed = true ∧ m'.id = id) := by
    intro m hm
    obtain ⟨m', hm', rfl⟩ := List.mem_map.mp hm
    refine ⟨m', hm', ?_⟩
    split
    · next hid => exact ⟨rfl, rfl, rfl, rfl, rfl, fun hgone => .inr ⟨hgone, hid⟩⟩
    · exact ⟨rfl, rfl, rfl, rfl, rfl, .inl⟩
  have hids : (s.store.setRemoved id removed).messages.map (·.id) = s.store.messages.map (·.id) := by
    rw [Store.setRemoved, List.map_map]
    refine List.map_congr_left fun m _ => ?_
    rw [Function.comp_apply]
    split <;> rfl
  refine ⟨fun m hm hreceived => ?_, fun m hm hreceived hgone => ?_, fun c hc hgone m hm hinbound => ?_,
    fun id' hid => ?_, by rw [hids]; exact h.nodup⟩
  · obtain ⟨m', hm', hid, hthread, hdirection, htime, hprovider, -⟩ := hrow m hm
    unfold Counts
    rw [hid, hthread, htime, hprovider]
    exact h.counts m' hm' (hdirection ▸ hreceived)
  · obtain ⟨m', hm', hid, -, hdirection, -, -, hgone'⟩ := hrow m hm
    rw [hid]
    obtain hgone | ⟨hremoved, hid'⟩ := hgone' hgone
    · exact h.removed m' hm' (hdirection ▸ hreceived) hgone
    · exact horder hremoved m' hm' hid' (hdirection ▸ hreceived)
  · obtain ⟨m', hm', hid, hthread, hdirection, -⟩ := hrow m hm
    rw [hid]
    exact h.hidden c hc hgone m' hm' ⟨hdirection ▸ hinbound.1, hthread ▸ hinbound.2⟩
  · obtain ⟨m, hm, rfl⟩ := h.stored id' hid
    have hmem : m.id ∈ s.store.messages.map (·.id) := List.mem_map.mpr ⟨m, hm, rfl⟩
    rw [← hids] at hmem
    obtain ⟨m', hm', hid'⟩ := List.mem_map.mp hmem
    exact ⟨m', hm', hid'⟩

theorem counts_received {messageId sender recipient body id : String} {timestamp : Int}
    (h : recipient ≠ "" ∧ ∀ readAt ∈ s.store.readAt ⟨recipient, sender⟩, readAt < timestamp) :
    s.Counts (ConversationService.receivedRow messageId sender recipient body id timestamp) := by
  have hthread : (ConversationService.receivedRow messageId sender recipient body id timestamp).thread =
      ⟨recipient, sender⟩ := rfl
  unfold Counts
  rw [hthread]
  exact ⟨(if_neg h.1).symm, h.2⟩

theorem Inv.step (h : s.Inv) {e : ReadEvent} (horder : s.InOrder e) (hstep : s.step e = some t) : t.Inv := by
  unfold ReadStateService.step at hstep
  cases e with
  | send src normalizedTo body id now =>
    exact inv_insert h rfl (fun hsent : Direction.sent = .received => nomatch hsent) hstep
  | receive messageId sender recipient body id timestamp =>
    dsimp only at hstep
    split at hstep
    · cases hstep
      exact h
    · next hnew =>
      exact inv_insert h rfl (fun _ => counts_received (horder.resolve_left hnew)) hstep
  | markThreadAsRead thread now =>
    cases hstep
    exact inv_mark h horder
  | removeConversation thread =>
    cases hstep
    exact inv_removeConversation h horder
  | removeMessage id =>
    cases hstep
    exact inv_setRemoved h fun _ => horder
  | restoreMessage id =>
    cases hstep
    exact inv_setRemoved h nofun

/-! ## Counts -/

/-- The query finds the messages of the thread. -/
theorem thread_eq (hnumber : m.conversationNumber = thread.phoneNumber)
    (hprovider : m.providerNumber = if thread.providerNumber = "" then none else some thread.providerNumber) :
    m.thread = thread := by
  rw [Message.thread, hprovider, hnumber]
  split
  · next hnone => rw [Option.getD_none, ← hnone]
  · rfl

/-- What is counted for a conversation is what is seen and has not been read. -/
theorem Inv.unreadCount (h : s.Inv) (hc : c ∈ s.store.conversations) :
    s.store.unreadCount c.thread = (s.visibleUnread c).length := by
  unfold Store.unreadCount visibleUnread
  congr 1
  refine List.filter_congr fun m hm => decide_eq_decide.mpr ⟨?_, ?_⟩
  · rintro ⟨hnumber, hreceived, hprovider, hlater⟩
    have hthread := thread_eq hnumber hprovider
    have hunread := (h.counts m hm hreceived).mp ⟨by rwa [hthread], by rwa [hthread]⟩
    refine ⟨⟨hreceived, hthread⟩, Bool.eq_false_iff.mpr fun hgone => hunread (h.removed m hm hreceived hgone),
      Bool.eq_false_iff.mpr fun hgone => hunread (h.hidden c hc hgone m hm ⟨hreceived, hthread⟩), hunread⟩
  · rintro ⟨⟨hreceived, hthread⟩, -, -, hunread⟩
    obtain ⟨hprovider, hlater⟩ := (h.counts m hm hreceived).mpr hunread
    rw [hthread] at hprovider hlater
    exact ⟨by rw [← hthread]; rfl, hreceived, hprovider, hlater⟩

/-- Of a removed conversation, nothing is seen. -/
theorem visibleUnread_removed (hgone : c.removed = true) : s.visibleUnread c = [] := by
  refine List.filter_eq_nil_iff.mpr fun m _ => ?_
  simp [hgone]

theorem sum_filter_eq {α : Type*} (p : α → Bool) (f : α → Nat) (xs : List α)
    (h : ∀ x ∈ xs, p x = false → f x = 0) : (xs.map f).sum = ((xs.filter p).map f).sum := by
  induction xs with
  | nil => rfl
  | cons x xs ih =>
    have ih := ih fun y hy => h y (.tail _ hy)
    rw [List.map_cons, List.sum_cons, List.filter_cons, ih]
    split
    · rw [List.map_cons, List.sum_cons]
    · next hnot => rw [h x (.head _) (Bool.eq_false_iff.mpr hnot), Nat.zero_add]

theorem Inv.countsRight (h : s.Inv) : s.CountsRight := by
  refine ⟨fun c hc => h.unreadCount hc, ?_⟩
  rw [Store.getUnreadMessagesCount, List.map_congr_left fun c hc => h.unreadCount hc]
  refine sum_filter_eq _ _ _ fun c _ hnot => ?_
  rw [visibleUnread_removed (by simpa using hnot), List.length_nil]

/-- A thread counts nothing after it was marked in order. -/
theorem unreadCount_markThreadAsRead (horder : s.InOrder (.markThreadAsRead thread now)) :
    (s.store.markThreadAsRead thread now).unreadCount thread = 0 := by
  rw [Store.unreadCount, List.length_eq_zero_iff]
  refine List.filter_eq_nil_iff.mpr fun m hm hcounted => ?_
  obtain ⟨hnumber, hreceived, hprovider, hlater⟩ := of_decide_eq_true hcounted
  have hthread := thread_eq hnumber hprovider
  have hlt := hlater now (by rw [readAt_markThreadAsRead, if_pos rfl]; rfl)
  have hle := (horder m hm hreceived (by rw [hthread])).2
  omega

theorem inv_init : init.Inv :=
  ⟨fun _ hm => absurd hm List.not_mem_nil, fun _ hm => absurd hm List.not_mem_nil,
    fun _ hc => absurd hc List.not_mem_nil, fun _ hid => absurd hid List.not_mem_nil, .nil⟩

/-- **The counts are right**, and a thread that is marked counts nothing, in every run in which all comes in
order. -/
theorem counts_right {es : List ReadEvent} (horder : Guarded step InOrder init es)
    (hrun : exec step init es = some s) :
    s.CountsRight ∧ ∀ thread now, s.InOrder (.markThreadAsRead thread now) →
      (s.store.markThreadAsRead thread now).unreadCount thread = 0 :=
  ⟨(horder.invariant (fun _ _ _ h horder hstep => h.step horder hstep) inv_init hrun).countsRight,
    fun _ _ horder => unreadCount_markThreadAsRead horder⟩

/-- A thread is read, a message of it is removed, and another one comes. -/
theorem counts_right_read :
    ∃ s, exec step init
        [.receive "sms-1" "+46700000001" "+46700000002" "hej" "row-1" 1000,
          .markThreadAsRead ⟨"+46700000002", "+46700000001"⟩ 2000, .removeMessage "row-1",
          .receive "sms-2" "+46700000001" "+46700000002" "hej igen" "row-2" 3000] = some s ∧
      s.CountsRight ∧ ∀ thread now, s.InOrder (.markThreadAsRead thread now) →
        (s.store.markThreadAsRead thread now).unreadCount thread = 0 := by
  have horder : Guarded step InOrder init
      [.receive "sms-1" "+46700000001" "+46700000002" "hej" "row-1" 1000,
        .markThreadAsRead ⟨"+46700000002", "+46700000001"⟩ 2000, .removeMessage "row-1",
        .receive "sms-2" "+46700000001" "+46700000002" "hej igen" "row-2" 3000] := by
    decide +kernel
  exact ⟨_, rfl, counts_right horder rfl⟩

/-- A message that comes late does not count, and one that was removed does. -/
theorem miscounts :
    (∃ s, exec step init
        [.markThreadAsRead ⟨"+46700000002", "+46700000001"⟩ 2000,
          .receive "sms-1" "+46700000001" "+46700000002" "hej" "row-1" 1000] = some s ∧ ¬ s.CountsRight) ∧
      ∃ s, exec step init
        [.receive "sms-1" "+46700000001" "+46700000002" "hej" "row-1" 1000, .removeMessage "row-1"] = some s ∧
        ¬ s.CountsRight := by
  refine ⟨⟨_, rfl, fun h => ?_⟩, _, rfl, fun h => ?_⟩
  · have hcount := h.thread ⟨⟨"+46700000002", "+46700000001"⟩, none, none, false⟩ (by decide +kernel)
    exact absurd hcount (by decide +kernel)
  · have hcount := h.thread ⟨⟨"+46700000002", "+46700000001"⟩, none, none, false⟩ (by decide +kernel)
    exact absurd hcount (by decide +kernel)

end ReadStateService

end Svarla.Conversations
