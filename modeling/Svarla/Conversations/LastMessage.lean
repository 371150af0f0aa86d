import Svarla.Conversations.Store
import Svarla.Lib.Run

/-!
# The last message of a conversation

A message is stored when it is received, or before it is sent, and then its conversation gets its preview and
its time: that of a received message, the clock's for a sent one. Whatever comes in between, the one that is
finished last is shown. So a conversation shows its newest message exactly as long as no older one is
finished after it, and a sent one while the clock shows the time of its row (`shows_newest_iff`).
-/

namespace Svarla.Conversations

open Svarla.Lib
open Svarla.Notifications (Thread)

/-- A message that is stored, and that its conversation does not show yet. -/
structure Unfinished where
  id : String
  thread : Thread
  body : String
  /-- Of a received message. -/
  timestamp : Option Int
  deriving DecidableEq, Repr

/-- `ConversationService`, while messages are sent and received. -/
structure ConversationService where
  store : Store
  unfinished : List Unfinished

inductive ConversationEvent
  /-- `sendMessage`, up to the provider; `now` is the time of the database. -/
  | send (src dest body id : String) (now : Int)
  /-- `receiveMessage`, up to the row. -/
  | receive (messageId sender recipient body id : String) (timestamp : Int)
  /-- The rest of either one; the provider has given the message an ID, or failed. -/
  | finish (id : String) (result : Option String) (now : Int)

namespace ConversationService

def init : ConversationService := ⟨.init, []⟩

/-- The row of a message that is to be sent. -/
def sentRow (src normalizedTo body id : String) (now : Int) : Message :=
  { id
    providerMessageId := none
    conversationNumber := normalizedTo
    providerNumber := some src
    body
    direction := .sent
    status := .pending
    timestamp := now
    retryCount := 0
    removed := false }

/-- The row of a message that was received. -/
def receivedRow (messageId sender recipient body id : String) (timestamp : Int) : Message :=
  { id
    providerMessageId := if messageId = "" then none else some messageId
    conversationNumber := sender
    providerNumber := some recipient
    body
    direction := .received
    status := .delivered
    timestamp
    retryCount := 0
    removed := false }

/-- A message is stored in its thread. -/
def begin (s : ConversationService) (m : Message) (thread : Thread) (timestamp : Option Int) :
    Option ConversationService :=
  ((s.store.upsertConversation thread).insertMessage m).map fun store =>
    ⟨store, s.unfinished ++ [⟨m.id, thread, m.body, timestamp⟩]⟩

def step (s : ConversationService) : ConversationEvent → Option ConversationService
  | .send src dest body id now =>
    match validateMessage body, Numbers.validatePhoneNumber dest.toList with
    | .ok (), .ok () =>
      let normalizedTo := String.ofList (Numbers.normalizeToE164 dest.toList src.toList)
      s.begin (sentRow src normalizedTo body id now) ⟨src, normalizedTo⟩ none
    | _, _ => some s
  | .receive messageId sender recipient body id timestamp =>
    if messageId ≠ "" ∧ ∃ m ∈ s.store.messages, m.providerMessageId = some messageId then some s
    else
      s.begin (receivedRow messageId sender recipient body id timestamp) ⟨recipient, sender⟩
        (some timestamp)
  | .finish id result now =>
    match s.unfinished.find? (·.id = id) with
    | none => none
    | some u =>
      let store :=
        if u.timestamp = none then
          s.store.updateStatus id (if result = none then .failed else .sent) result
        else s.store
      some ⟨store.updateConversationMetadata u.thread u.body (u.timestamp.getD now), s.unfinished.erase u⟩

/-! ## What a conversation shows -/

/-- The times and bodies of the messages of a thread. -/
def texts (messages : List Message) (thread : Thread) : List (Int × String) :=
  (messages.filter fun m =>
    m.providerNumber.getD "" = thread.providerNumber ∧ m.conversationNumber = thread.phoneNumber).map
      fun m => (m.timestamp, m.body)

/-- The conversation shows a newest message of its thread, if it has one. -/
def ShowsNewest (messages : List Message) (c : Conversation) : Prop :=
  texts messages c.thread ≠ [] →
    ∃ m ∈ texts messages c.thread, (∀ m' ∈ texts messages c.thread, m'.1 ≤ m.1) ∧
      c.lastMessagePreview = some (threadListPreview m.2) ∧ c.lastMessageTimestamp = some m.1

/-- Every conversation of which all messages are finished does. -/
def AllShow (s : ConversationService) : Prop :=
  ∀ c ∈ s.store.conversations, (∀ u ∈ s.unfinished, u.thread ≠ c.thread) → ShowsNewest s.store.messages c

/-- A received message is at least as new as all others; for a sent one the clock shows the newest time, of a
message that looks like it. -/
def IsLatest (s : ConversationService) (u : Unfinished) (now : Int) : Prop :=
  match u.timestamp with
  | some timestamp => ∀ m ∈ texts s.store.messages u.thread, m.1 ≤ timestamp
  | none =>
    (∀ m ∈ texts s.store.messages u.thread, m.1 ≤ now) ∧
      ∃ m ∈ texts s.store.messages u.thread, m.1 = now ∧ threadListPreview m.2 = threadListPreview u.body

/-- The message that is finished last is the latest one. -/
def LatestLast (s : ConversationService) : ConversationEvent → Prop
  | .finish id _ now => ∀ u, s.unfinished.find? (·.id = id) = some u →
      (∀ u' ∈ s.unfinished.erase u, u'.thread ≠ u.thread) → s.IsLatest u now
  | _ => True

/-! ## Steps -/

/-- An unfinished message has its row, and its thread has one. -/
def Stored (s : ConversationService) : Prop :=
  ∀ u ∈ s.unfinished, (∃ c ∈ s.store.conversations, c.thread = u.thread) ∧
    ∃ m ∈ texts s.store.messages u.thread, m.2 = u.body ∧
      ∀ timestamp, u.timestamp = some timestamp → m.1 = timestamp

variable {s t : ConversationService} {thread : Thread} {m : Message}

theorem texts_append_of_ne (messages : List Message)
    (hne : ¬ (m.providerNumber.getD "" = thread.providerNumber ∧ m.conversationNumber = thread.phoneNumber)) :
    texts (messages ++ [m]) thread = texts messages thread := by
  rw [texts, List.filter_append, List.filter_singleton, decide_eq_false hne, cond_false, List.append_nil,
    texts]

theorem mem_texts_append {messages : List Message} {text : Int × String} (h : text ∈ texts messages thread) :
    text ∈ texts (messages ++ [m]) thread := by
  obtain ⟨m', hm', rfl⟩ := List.mem_map.mp h
  refine List.mem_map.mpr ⟨m', ?_, rfl⟩
  rw [List.filter_append]
  exact List.mem_append_left _ hm'

theorem mem_texts_append_self (messages : List Message)
    (hprovider : m.providerNumber.getD "" = thread.providerNumber)
    (hnumber : m.conversationNumber = thread.phoneNumber) :
    (m.timestamp, m.body) ∈ texts (messages ++ [m]) thread := by
  refine List.mem_map.mpr ⟨m, ?_, rfl⟩
  rw [List.filter_append]
  refine List.mem_append_right _ (List.mem_filter.mpr ⟨List.mem_singleton_self m, ?_⟩)
  simp [hprovider, hnumber]

/-- The status of a message is not shown. -/
theorem texts_updateStatus {store : Store} {id : String} {status : MessageStatus}
    {providerMessageId : Option String} :
    texts (store.updateStatus id status providerMessageId).messages thread = texts store.messages thread := by
  unfold texts Store.updateStatus
  rw [List.filter_map, List.map_map]
  congr 1
  · funext m
    rw [Function.comp_apply]
    split <;> rfl
  · congr 1
    funext m
    rw [Function.comp_apply]
    split <;> rfl

/-! ## The invariant -/

theorem stored_begin (h : s.Stored) (hm : m.providerNumber.getD "" = thread.providerNumber)
    (hm' : m.conversationNumber = thread.phoneNumber) {timestamp : Option Int}
    (htime : ∀ time, timestamp = some time → m.timestamp = time)
    (hstep : s.begin m thread timestamp = some t) : t.Stored := by
  unfold begin Store.insertMessage at hstep
  split at hstep
  · cases hstep
  · cases hstep
    intro u hu
    dsimp only at hu ⊢
    rw [Store.messages_upsert]
    obtain hu | hu := List.mem_append.mp hu
    · obtain ⟨hrow, text, htext, hbody, htime⟩ := h u hu
      exact ⟨Store.exists_upsert_of hrow, text, mem_texts_append htext, hbody, htime⟩
    · rw [List.mem_singleton] at hu
      subst hu
      exact ⟨Store.exists_upsert, _, mem_texts_append_self _ hm hm', rfl, htime⟩

/-- A thread with a new message has one that is not finished. -/
theorem allShow_begin (h : s.AllShow) (hm : m.providerNumber.getD "" = thread.providerNumber)
    (hm' : m.conversationNumber = thread.phoneNumber) {timestamp : Option Int}
    (hstep : s.begin m thread timestamp = some t) : t.AllShow := by
  unfold begin Store.insertMessage at hstep
  split at hstep
  · cases hstep
  · cases hstep
    intro c hc hquiet
    dsimp only at hc hquiet ⊢
    rw [Store.messages_upsert]
    have hne : c.thread ≠ thread := fun heq =>
      hquiet _ (List.mem_append_right _ (List.mem_singleton_self _)) heq.symm
    have hc := (Store.mem_upsert_of_ne hne).mp hc
    have htexts : texts (s.store.messages ++ [m]) c.thread = texts s.store.messages c.thread := by
      refine texts_append_of_ne _ fun ⟨hprovider, hnumber⟩ => hne ?_
      rw [hm] at hprovider
      rw [hm'] at hnumber
      cases hthread : c.thread
      cases hthread' : thread
      simp_all
    unfold ShowsNewest
    rw [htexts]
    exact h c hc fun u hu => hquiet u (List.mem_append_left _ hu)

theorem exists_updateMetadata {store : Store} {body : String} {timestamp : Int} {other : Thread} :
    (∃ c ∈ (store.updateConversationMetadata thread body timestamp).conversations, c.thread = other) ↔
      ∃ c ∈ store.conversations, c.thread = other := by
  have hthread : ∀ c : Conversation, (if c.thread = thread then
      { c with
        lastMessagePreview := some (threadListPreview body)
        lastMessageTimestamp := some timestamp } else c).thread = c.thread := by
    intro c
    split <;> rfl
  constructor
  · rintro ⟨c, hc, rfl⟩
    obtain ⟨c', hc', rfl⟩ := List.mem_map.mp hc
    exact ⟨c', hc', (hthread c').symm⟩
  · rintro ⟨c, hc, rfl⟩
    exact ⟨_, List.mem_map.mpr ⟨c, hc, rfl⟩, hthread c⟩

/-- What finishing a message does. -/
theorem finish_cases {id : String} {result : Option String} {now : Int}
    (hstep : s.step (.finish id result now) = some t) :
    ∃ u, s.unfinished.find? (·.id = id) = some u ∧ t.unfinished = s.unfinished.erase u ∧
      (∀ thread, texts t.store.messages thread = texts s.store.messages thread) ∧
        ∃ store : Store, store.conversations = s.store.conversations ∧
          t.store = store.updateConversationMetadata u.thread u.body (u.timestamp.getD now) := by
  unfold step at hstep
  dsimp only at hstep
  split at hstep
  · cases hstep
  · next u hu =>
    cases hstep
    refine ⟨u, hu, rfl, fun thread => ?_, _, ?_, rfl⟩
    · unfold Store.updateConversationMetadata
      dsimp only
      split
      · exact texts_updateStatus
      · rfl
    · split <;> rfl

theorem stored_finish (h : s.Stored) {id : String} {result : Option String} {now : Int}
    (hstep : s.step (.finish id result now) = some t) : t.Stored := by
  obtain ⟨u, -, herase, htexts, store, hsame, hstore⟩ := finish_cases hstep
  intro u' hu'
  rw [herase] at hu'
  obtain ⟨hrow, hmessage⟩ := h u' (List.mem_of_mem_erase hu')
  rw [htexts, hstore, exists_updateMetadata, hsame]
  exact ⟨hrow, hmessage⟩

/-- The last message that is finished is shown, and the other threads keep what they show. -/
theorem allShow_finish_iff (hstored : s.Stored) (h : s.AllShow) {id : String} {result : Option String}
    {now : Int} (hstep : s.step (.finish id result now) = some t) :
    t.AllShow ↔ s.LatestLast (.finish id result now) := by
  obtain ⟨u, hu, herase, htexts, store, hsame, hstore⟩ := finish_cases hstep
  obtain ⟨⟨c, hc, hthread⟩, m, hm, hbody, htime⟩ := hstored u (List.mem_of_find?_eq_some hu)
  constructor
  · intro hshow u' hu' hquiet
    rw [hu] at hu'
    cases hu'
    obtain ⟨m', hm', hnewest, hpreview, htimestamp⟩ := hshow
      { c with
        lastMessagePreview := some (threadListPreview u.body)
        lastMessageTimestamp := some (u.timestamp.getD now) }
      (by
        rw [hstore]
        exact List.mem_map.mpr ⟨c, hsame ▸ hc, if_pos hthread⟩)
      (by
        rw [herase, hthread]
        exact hquiet)
      (by
        rw [htexts, hthread]
        exact List.ne_nil_of_mem hm)
    dsimp only at hm' hnewest hpreview htimestamp
    rw [htexts, hthread] at hm' hnewest
    rw [Option.some.injEq] at hpreview htimestamp
    unfold IsLatest
    split
    · next timestamp htimestamp' =>
      rw [htimestamp', Option.getD_some] at htimestamp
      rw [htimestamp]
      exact hnewest
    · next hnone =>
      rw [hnone, Option.getD_none] at htimestamp
      rw [htimestamp]
      exact ⟨hnewest, m', hm', rfl, hpreview.symm⟩
  · intro hlatest c' hc' hquiet
    rw [hstore] at hc'
    obtain ⟨c, hc, rfl⟩ := List.mem_map.mp hc'
    rw [hsame] at hc
    by_cases hthread : c.thread = u.thread
    · rw [if_pos hthread] at hquiet ⊢
      dsimp only at hquiet
      rw [herase, hthread] at hquiet
      have hlatest := hlatest u hu hquiet
      intro _
      dsimp only
      rw [htexts, hthread]
      unfold IsLatest at hlatest
      split at hlatest
      · next timestamp htimestamp =>
        refine ⟨m, hm, ?_, by rw [hbody], by rw [htimestamp, Option.getD_some, htime _ htimestamp]⟩
        rw [htime _ htimestamp]
        exact hlatest
      · next hnone =>
        obtain ⟨hnewest, m', hm', hnow, hpreview⟩ := hlatest
        refine ⟨m', hm', ?_, by rw [hpreview], by rw [hnone, Option.getD_none, hnow]⟩
        rw [hnow]
        exact hnewest
    · rw [if_neg hthread] at hquiet ⊢
      unfold ShowsNewest
      rw [htexts]
      refine h c hc fun u' hu' => ?_
      by_cases heq : u' = u
      · rw [heq]
        exact fun heq => hthread heq.symm
      · exact hquiet u' (herase ▸ (List.mem_erase_of_ne heq).mpr hu')

theorem step_iff (e : ConversationEvent) (hstored : s.Stored) (h : s.AllShow) (hstep : s.step e = some t) :
    t.Stored ∧ (t.AllShow ↔ s.LatestLast e) := by
  cases e with
  | send src dest body id now =>
    unfold step at hstep
    dsimp only at hstep
    split at hstep
    · have hstored' := stored_begin hstored rfl rfl
        (fun _ htime => absurd htime (Option.some_ne_none _).symm) hstep
      exact ⟨hstored', iff_of_true (allShow_begin h rfl rfl hstep) trivial⟩
    · cases hstep
      exact ⟨hstored, iff_of_true h trivial⟩
  | receive messageId sender recipient body id timestamp =>
    unfold step at hstep
    dsimp only at hstep
    split at hstep
    · cases hstep
      exact ⟨hstored, iff_of_true h trivial⟩
    · exact ⟨stored_begin hstored rfl rfl (fun time htime => Option.some.inj htime) hstep,
        iff_of_true (allShow_begin h rfl rfl hstep) trivial⟩
  | finish id result now => exact ⟨stored_finish hstored hstep, allShow_finish_iff hstored h hstep⟩

theorem latestLast_refused (e : ConversationEvent) (hstep : s.step e = none) : s.LatestLast e := by
  cases e with
  | send => trivial
  | receive => trivial
  | finish id result now =>
    intro u hu
    simp only [step, hu] at hstep
    cases hstep

/-- **A conversation shows its newest message**, whenever all of its messages are finished, in exactly the
runs in which the last one that is finished is the latest. -/
theorem shows_newest_iff (es : List ConversationEvent) :
    Guarded step LatestLast init es ↔
      ∀ es₁ es₂ s, es = es₁ ++ es₂ → exec step init es₁ = some s → s.AllShow :=
  guarded_iff_invariant (J := Stored) (fun _ e _ hstored h hstep => step_iff e hstored h hstep)
    (fun _ e hstep => latestLast_refused e hstep) (fun _ hu => absurd hu List.not_mem_nil)
    (fun _ hc => absurd hc List.not_mem_nil) es

/-- A message that was delayed is shown in place of a newer one. -/
theorem older_shown :
    ¬ ∀ es s, exec step init es = some s → s.AllShow := by
  intro hall
  have hshow := hall
    [.receive "sms-1" "+46700000001" "+46700000002" "new" "row-1" 2000, .finish "row-1" none 2010,
      .receive "sms-2" "+46700000001" "+46700000002" "old" "row-2" 1000, .finish "row-2" none 2020] _ rfl
    ⟨⟨"+46700000002", "+46700000001"⟩, some "old", some 1000, false⟩ (by decide +kernel) (by decide +kernel)
    (by decide +kernel)
  obtain ⟨m, hm, hnewest, -, htime⟩ := hshow
  have hlater := hnewest (2000, "new") (by decide +kernel)
  rw [← Option.some.inj htime] at hlater
  exact absurd hlater (by decide)

end ConversationService

end Svarla.Conversations
