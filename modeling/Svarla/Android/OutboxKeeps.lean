import Mathlib
import Svarla.Android.Outbox

/-!
# No message is lost in the outbox, and none is sent twice

The clean-up of a thread deletes a message that waits in it; a process that ends while it sends leaves a
row that nobody takes up; and a retry and the queue sender send one message both
(`lost_or_doubled`). After three retries a message stays where it is, and a message that has failed
after it was accepted can be sent again; so it is meant.

In the runs without the former, and where no message that was accepted is retried (`Careful`), each
message is accepted once at most, and has its row until then (`kept_until_accepted`).
-/

namespace Svarla.Android

open Svarla.Lib

/-- The messages that a coroutine is going to send, or to compose. -/
def Sender.ids : Sender → List MessageId
  | insertNew m | retryMark m => [m.id]
  | posting m rest _ => m.id :: rest.map (·.id)
  | storeSent _ _ rest _ => rest.map (·.id)
  | storeFailed id rest _ => id :: rest.map (·.id)
  | retryRead id | retryQueue id => [id]
  | _ => []

/-- The message that is being sent, up to the end in the table. -/
def Sender.sends : Sender → Option MessageId
  | posting m _ _ => some m.id
  | storeFailed id _ _ => some id
  | _ => none

/-- A request is on its way, or what came of it is not in the table yet. -/
def Sender.inFlight : Sender → Bool
  | posting .. | storeSent .. | storeFailed .. => true
  | _ => false

namespace Outbox

/-- The server has accepted the message, or it is the server's copy. -/
def Accepted (s : Outbox) (id : MessageId) : Prop := ∃ a ∈ s.accepted, a.1 = id ∨ .server a.2 = id

instance (s : Outbox) (id : MessageId) : Decidable (s.Accepted id) :=
  inferInstanceAs (Decidable (∃ a ∈ s.accepted, _))

/-- No message is sent by two coroutines, or after it was accepted; no clean-up of a thread reaches one
that waits; and the process does not end while it sends. -/
def Careful (s : Outbox) : SmsEvent → Prop
  | .retryMessage id => ¬ s.Accepted id ∧ ∀ flow ∈ s.flows, id ∉ flow.ids
  | .restart => ∀ flow ∈ s.flows, flow.inFlight = false
  | .run i _ =>
    match s.flows[i]? with
    | some .readQueued => ∀ row ∈ s.messages, row.status = .queued →
        ¬ s.Accepted row.id ∧ ∀ flow ∈ s.flows, row.id ∉ flow.ids
    | some (.readRange synced providerNumber phoneNumber) =>
        ∀ id ∈ s.staleIds synced providerNumber phoneNumber, id ∈ s.composed → s.Accepted id
    | _ => True
  | _ => True

instance (s : Outbox) (e : SmsEvent) : Decidable (s.Careful e) := by
  unfold Careful
  split
  · infer_instance
  · infer_instance
  · split <;> infer_instance
  · infer_instance

/-- Each message is accepted once at most, and until then it is in the table: queued, failed, or pending
while a coroutine sends it. -/
structure Keeps (s : Outbox) : Prop where
  once : ∀ id ∈ s.composed, (s.accepted.map (·.1)).count id ≤ 1
  kept : ∀ id ∈ s.composed, id ∉ s.accepted.map (·.1) → ∃ row ∈ s.messages, row.id = id ∧
    (row.status = .queued ∨ row.status = .failed ∨
      row.status = .pending ∧ ∃ flow ∈ s.flows, flow.sends = some id)

/-! ## What a coroutine knows -/

/-- A message of the app's own was composed. -/
def Listed (s : Outbox) (id : MessageId) : Prop := ∀ n, id = .own n → id ∈ s.composed

/-- A message that is no longer waited for. -/
def Settled (s : Outbox) (id : MessageId) : Prop := ∀ n, id = .own n → s.Accepted id

def Knows (s : Outbox) : Sender → Prop
  | .insertNew m => (∃ n, m.id = .own n) ∧ m.id ∉ s.composed ∧ m.providerMessageId = none ∧
      (m.status = .pending ∨ m.status = .queued)
  | .posting m rest _ => s.Listed m.id ∧ ∀ x ∈ rest, s.Listed x.id
  | .storeSent m _ rest _ =>
      s.Drawn m.id ∧ s.Listed m.id ∧ s.Accepted m.id ∧ ∀ x ∈ rest, s.Listed x.id
  | .storeFailed _ rest _ => ∀ x ∈ rest, s.Listed x.id
  | .retryMark m =>
      s.Listed m.id ∧ (m.id ∈ s.composed → m.providerMessageId = none) ∧ m.status = .pending
  | .cache m rest _ _ _ => s.IsEntity m ∧ ∀ x ∈ rest, s.IsEntity x
  | .deleteStale id rest => s.Settled id ∧ ∀ x ∈ rest, s.Settled x
  | .statusWrite id _ => s.Settled id
  | _ => True

/-- A message that waits. -/
def Waiting (s : Outbox) (id : MessageId) : Prop := id ∈ s.composed ∧ ¬ s.Accepted id

/-- The rows have ids of their own, that were drawn. -/
structure RowsSound (s : Outbox) (messages : List Message) : Prop where
  nodup : (messages.map (·.id)).Nodup
  listed : ∀ row ∈ messages, s.Listed row.id
  drawn : ∀ row ∈ messages, s.Drawn row.id

structure Sound (s : Outbox) : Prop where
  rows : s.RowsSound s.messages
  composed : ∀ id ∈ s.composed, ∃ n, id = .own n ∧ n < s.nextOwn
  accepted : ∀ a ∈ s.accepted, s.Drawn a.1 ∧ s.Listed a.1 ∧ a.2 < s.nextServer
  once : (s.accepted.map (·.1)).Nodup
  exclusive : ∀ id, owed (fun flow => flow.ids.count id) s.flows ≤ 1
  free : ∀ flow ∈ s.flows, ∀ id ∈ flow.ids, s.Drawn id ∧ ¬ s.Accepted id
  knows : ∀ flow ∈ s.flows, s.Knows flow
  kept : ∀ id, s.Waiting id → ∃ row ∈ s.messages, row.id = id ∧ row.providerMessageId = none ∧
    (row.status = .queued ∨ row.status = .failed ∨
      row.status = .pending ∧ ∃ flow ∈ s.flows, flow.sends = some id)

theorem Sound.keeps {s : Outbox} (h : s.Sound) : s.Keeps where
  once id _ := List.nodup_iff_count.mp h.once id
  kept id hid hnot := by
    obtain ⟨n, rfl, -⟩ := h.composed id hid
    have hwaiting : s.Waiting (.own n) := by
      refine ⟨hid, fun ⟨a, ha, hsame⟩ => ?_⟩
      obtain hsame | hsame := hsame
      · exact hnot (List.mem_map.mpr ⟨a, ha, hsame⟩)
      · cases hsame
    obtain ⟨row, hrow, hsame, -, hstatus⟩ := h.kept _ hwaiting
    exact ⟨row, hrow, hsame, hstatus⟩

variable {s t : Outbox}

/-! ## Changes of the table -/

theorem RowsSound.insert {messages : List Message} (h : s.RowsSound messages) {m : Message}
    (hlisted : s.Listed m.id) (hdrawn : s.Drawn m.id) : s.RowsSound (insertMessage messages m) := by
  have hmem : ∀ row ∈ insertMessage messages m, row = m ∨ row ∈ messages := fun row hrow =>
    (List.mem_cons.mp hrow).imp_right fun hrow => (List.mem_filter.mp hrow).1
  refine ⟨?_, fun row hrow => ?_, fun row hrow => ?_⟩
  · rw [insertMessage, List.map_cons, List.nodup_cons]
    refine ⟨fun hin => ?_, h.nodup.sublist (List.filter_sublist.map _)⟩
    obtain ⟨row, hrow, hsame⟩ := List.mem_map.mp hin
    have hne := (Bool.and_eq_true_iff.mp (List.mem_filter.mp hrow).2).1
    exact of_decide_eq_true hne hsame
  · obtain rfl | hrow := hmem row hrow
    · exact hlisted
    · exact h.listed row hrow
  · obtain rfl | hrow := hmem row hrow
    · exact hdrawn
    · exact h.drawn row hrow

/-- A row that has no id of the server is not replaced, but by its own. -/
theorem mem_insertMessage {messages : List Message} {m row : Message} (hrow : row ∈ messages)
    (hne : row.id ≠ m.id) (hnone : row.providerMessageId = none) :
    row ∈ insertMessage messages m := by
  refine List.mem_cons_of_mem _ (List.mem_filter.mpr ⟨hrow, ?_⟩)
  rw [Bool.and_eq_true_iff]
  refine ⟨decide_eq_true hne, decide_eq_true ?_⟩
  rw [hnone]
  cases m.providerMessageId with
  | none => exact .inl rfl
  | some _ => exact .inr nofun

theorem RowsSound.updateStatus (h : s.RowsSound s.messages) (id : MessageId)
    (status : MessageStatus) : s.RowsSound (updateStatus s.messages id status) := by
  have hid : ∀ row : Message, (if row.id = id then { row with status } else row).id = row.id := by
    intro row
    split <;> rfl
  refine ⟨?_, fun row hrow => ?_, fun row hrow => ?_⟩
  · have hsame : (fun row : Message => row.id) ∘
        (fun row => if row.id = id then { row with status } else row) = fun row => row.id :=
      funext hid
    rw [Android.updateStatus, List.map_map, hsame]
    exact h.nodup
  · obtain ⟨old, hold, rfl⟩ := List.mem_map.mp hrow
    rw [hid]
    exact h.listed old hold
  · obtain ⟨old, hold, rfl⟩ := List.mem_map.mp hrow
    rw [hid]
    exact h.drawn old hold

theorem RowsSound.filter (h : s.RowsSound s.messages) (p : Message → Bool) :
    s.RowsSound (s.messages.filter p) :=
  ⟨h.nodup.sublist (List.filter_sublist.map _),
    fun row hrow => h.listed row (List.mem_filter.mp hrow).1,
    fun row hrow => h.drawn row (List.mem_filter.mp hrow).1⟩

/-! ## One step -/

/-- What a step does to the row of a message that waits. -/
structure KeepsRow (messages : List Message) (flow : Sender) (next : Option Sender) (row : Message) :
    Prop where
  kept : ∃ row' ∈ messages, row'.id = row.id ∧ row'.providerMessageId = none ∧
    (row'.status = .queued ∨ row'.status = .failed ∨ row'.status = .pending ∧
      ((∃ G, next = some G ∧ G.sends = some row.id) ∨
        row.status = .pending ∧ flow.sends ≠ some row.id))

/-- The row stays as it is, and a coroutine that sends it goes on to. -/
theorem keepsRow_of_mem {messages : List Message} {flow : Sender} {next : Option Sender}
    {row : Message} (hrow : row ∈ messages) (hnone : row.providerMessageId = none)
    (hstatus : row.status = .queued ∨ row.status = .failed ∨ row.status = .pending)
    (hsends : flow.sends = some row.id → ∃ G, next = some G ∧ G.sends = some row.id) :
    KeepsRow messages flow next row := by
  refine ⟨row, hrow, rfl, hnone, hstatus.imp_right (Or.imp_right fun hpending => ⟨hpending, ?_⟩)⟩
  by_cases h : flow.sends = some row.id
  · exact .inl (hsends h)
  · exact .inr ⟨hpending, h⟩

/-- A step that composes nothing, and has nothing accepted. -/
theorem Sound.advance (h : s.Sound) {i : Nat} {flow : Sender} (hflow : s.flows[i]? = some flow)
    {messages : List Message} {next : Option Sender} (hrows : s.RowsSound messages)
    (hexclusive : ∀ id, owed (fun flow => flow.ids.count id) (advance s.flows i next) ≤ 1)
    (hnext : ∀ G, next = some G → (∀ id ∈ G.ids, s.Drawn id ∧ ¬ s.Accepted id) ∧ s.Knows G)
    (hkept : ∀ row ∈ s.messages, s.Waiting row.id → row.providerMessageId = none →
      (row.status = .queued ∨ row.status = .failed ∨ row.status = .pending) →
        KeepsRow messages flow next row) :
    { s with messages, flows := Lib.advance s.flows i next }.Sound := by
  refine ⟨⟨hrows.nodup, hrows.listed, hrows.drawn⟩, h.composed, h.accepted, h.once, hexclusive,
    fun G hG => ?_, fun G hG => ?_, fun id hwaiting => ?_⟩
  · obtain hold | hG := mem_advance hG
    · exact h.free G hold
    · exact (hnext G hG).1
  · obtain hold | hG := mem_advance hG
    · exact h.knows G hold
    · exact (hnext G hG).2
  · obtain ⟨row, hrow, rfl, hnone, hstatus⟩ := h.kept id hwaiting
    obtain ⟨row', hrow', hid, hnone', hstatus'⟩ := (hkept row hrow hwaiting hnone
      (hstatus.imp_right (Or.imp_right And.left))).kept
    refine ⟨row', hrow', hid, hnone', hstatus'.imp_right (Or.imp_right ?_)⟩
    rintro ⟨hpending, hsends⟩
    refine ⟨hpending, ?_⟩
    obtain ⟨G, rfl, hG⟩ | ⟨hold, hne⟩ := hsends
    · exact ⟨G, mem_advance_next hflow, hG⟩
    · obtain hq | hf | ⟨-, G, hG, hsends⟩ := hstatus
      · rw [hold] at hq
        cases hq
      · rw [hold] at hf
        cases hf
      · refine ⟨G, mem_advance_of_ne hflow _ hG ?_, hsends⟩
        rintro rfl
        exact hne hsends

/-- A coroutine goes on with no more messages than it had. -/
theorem Sound.exclusive_advance (h : s.Sound) {i : Nat} {flow : Sender}
    (hflow : s.flows[i]? = some flow) {next : Option Sender}
    (hids : ∀ G, next = some G → ∀ id, G.ids.count id ≤ flow.ids.count id) (id : MessageId) :
    owed (fun flow => flow.ids.count id) (Lib.advance s.flows i next) ≤ 1 := by
  have howed := owed_advance hflow (fun flow => flow.ids.count id) next
  have hle := h.exclusive id
  have hnext : next.elim 0 (fun flow => flow.ids.count id) ≤ flow.ids.count id := by
    cases next with
    | none => exact Nat.zero_le _
    | some G => exact hids G rfl id
  omega

theorem updateStatus_keepsRow {flow : Sender} {next : Option Sender} {row : Message}
    (hrow : row ∈ s.messages) (hnone : row.providerMessageId = none)
    (hstatus : row.status = .queued ∨ row.status = .failed ∨ row.status = .pending) {id : MessageId}
    {status : MessageStatus} (hnew : row.id = id → status = .queued ∨ status = .failed)
    (hsends : row.id ≠ id → flow.sends ≠ some row.id) :
    KeepsRow (updateStatus s.messages id status) flow next row := by
  have hmem := List.mem_map_of_mem (f := fun row : Message =>
    if row.id = id then { row with status } else row) hrow
  by_cases hid : row.id = id
  · rw [if_pos hid] at hmem
    exact ⟨_, hmem, rfl, hnone, (hnew hid).imp_right .inl⟩
  · rw [if_neg hid] at hmem
    exact keepsRow_of_mem hmem hnone hstatus fun h => absurd h (hsends hid)

/-- The rest of the queue is sent next. -/
theorem sendNext_eq {queue : Bool} {rest : List Message} {G : Sender}
    (h : sendNext queue rest = some G) :
    ∃ m rest', rest = m :: rest' ∧ G = .posting m rest' queue := by
  cases rest with
  | nil => cases h
  | cons m rest =>
    cases h
    exact ⟨m, rest, rfl, rfl⟩

theorem sendNext_ids {queue : Bool} {rest : List Message} {G : Sender}
    (h : sendNext queue rest = some G) : G.ids = rest.map (·.id) := by
  obtain ⟨m, rest', rfl, rfl⟩ := sendNext_eq h
  rfl

theorem sendNext_knows {queue : Bool} {rest : List Message} {G : Sender}
    (h : sendNext queue rest = some G) (hrest : ∀ x ∈ rest, s.Listed x.id) : s.Knows G := by
  obtain ⟨m, rest', rfl, rfl⟩ := sendNext_eq h
  exact ⟨hrest m List.mem_cons_self, fun x hx => hrest x (List.mem_cons_of_mem _ hx)⟩

/-- A message of the server is not one that waits. -/
theorem IsEntity.ne {m : Message} (h : s.IsEntity m) {row : Message} (hsound : s.Sound)
    (hwaiting : s.Waiting row.id) : row.id ≠ m.id := by
  obtain ⟨number, -, hid, -⟩ := h
  obtain ⟨n, hown, -⟩ := hsound.composed _ hwaiting.1
  rw [hid, hown]
  exact nofun

theorem Settled.ne {id : MessageId} (h : s.Settled id) {row : Message} (hsound : s.Sound)
    (hwaiting : s.Waiting row.id) : row.id ≠ id := by
  rintro rfl
  obtain ⟨n, hown, -⟩ := hsound.composed _ hwaiting.1
  exact hwaiting.2 (h n hown)

theorem cacheNext_cases {synced : List Message} {providerNumber phoneNumber : String}
    {rest : List Message} {G : Sender} (h : cacheNext synced providerNumber phoneNumber rest = some G)
    (hrest : ∀ x ∈ rest, s.IsEntity x) : G.ids = [] ∧ G.sends = none ∧ s.Knows G := by
  cases rest with
  | nil =>
    simp only [cacheNext] at h
    split at h <;> cases h
    exact ⟨rfl, rfl, trivial⟩
  | cons m rest =>
    cases h
    exact ⟨rfl, rfl, hrest m List.mem_cons_self, fun x hx => hrest x (List.mem_cons_of_mem _ hx)⟩

theorem deleteNext_cases {ids : List MessageId} {G : Sender} (h : deleteNext ids = some G)
    (hids : ∀ x ∈ ids, s.Settled x) : G.ids = [] ∧ s.Knows G := by
  cases ids with
  | nil => cases h
  | cons id rest =>
    cases h
    exact ⟨rfl, hids id List.mem_cons_self, fun x hx => hids x (List.mem_cons_of_mem _ hx)⟩

/-- A coroutine that sends nothing goes on, and the table is as it was, or a message of the server is
inserted, or another row is deleted or gets its status. -/
theorem Sound.aside (h : s.Sound) {i : Nat} {flow : Sender} (hflow : s.flows[i]? = some flow)
    {messages : List Message} {next : Option Sender} (hrows : s.RowsSound messages)
    (hsends : flow.sends = none) (hnext : ∀ G, next = some G → G.ids = [] ∧ s.Knows G)
    (hkept : ∀ row ∈ s.messages, s.Waiting row.id → row.providerMessageId = none → row ∈ messages) :
    { s with messages, flows := Lib.advance s.flows i next }.Sound := by
  refine h.advance hflow hrows (h.exclusive_advance hflow fun G hG id => ?_)
    (fun G hG => ⟨?_, (hnext G hG).2⟩) fun row hrow hwaiting hnone hstatus => ?_
  · rw [(hnext G hG).1]
    exact Nat.zero_le _
  · rw [(hnext G hG).1]
    exact fun id hid => nomatch hid
  · exact keepsRow_of_mem (hkept row hrow hwaiting hnone) hnone hstatus fun hsome => by
      rw [hsends] at hsome
      cases hsome

/-- A retry, a clean-up and a change of status. -/
theorem Sound.run_aside (h : s.Sound) {i : Nat} {flow : Sender} {reply : SmsReply}
    {r : Outbox × Option Sender} (hflow : s.flows[i]? = some flow)
    (hr : s.proceed flow reply = some r)
    (hguard : s.Careful (.run i reply))
    (haside : match flow with
      | .fetch .. | .cache .. | .readRange .. | .deleteStale .. | .statusRead .. | .statusWrite .. =>
          True
      | _ => False) : { r.1 with flows := Lib.advance s.flows i r.2 }.Sound := by
  have hknows := h.knows flow (List.mem_of_getElem? hflow)
  cases flow with
  | fetch providerNumber phoneNumber =>
    cases reply with
    | fails =>
      cases hr
      exact h.aside hflow h.rows rfl (fun G hG => (nomatch hG)) fun row hrow _ _ => hrow
    | messages messages =>
      simp only [proceed] at hr
      split at hr <;> cases hr
      next hentities =>
      refine h.aside hflow h.rows rfl (fun G hG => ?_) fun row hrow _ _ => hrow
      have hcases := cacheNext_cases (s := s) hG fun x hx => by
        obtain ⟨m, hm, rfl⟩ := List.mem_map.mp hx
        unfold backfill
        split
        · exact hentities m hm
        · exact hentities m hm
      exact ⟨hcases.1, hcases.2.2⟩
    | _ => cases hr
  | cache m rest synced providerNumber phoneNumber =>
    cases reply with
    | done =>
      cases hr
      obtain ⟨number, hnumber, hid, hlt⟩ := hknows.1
      refine h.aside hflow (h.rows.insert (fun n hn => ?_) ?_) rfl (fun G hG => ?_)
        fun row hrow hwaiting hnone => mem_insertMessage hrow (hknows.1.ne h hwaiting) hnone
      · rw [hid] at hn
        cases hn
      · rw [hid]
        exact hlt
      · have hcases := cacheNext_cases hG hknows.2
        exact ⟨hcases.1, hcases.2.2⟩
    | _ => cases hr
  | readRange synced providerNumber phoneNumber =>
    cases reply with
    | done =>
      cases hr
      simp only [Careful, hflow] at hguard
      refine h.aside hflow h.rows rfl (fun G hG => deleteNext_cases hG fun id hid n hn => ?_)
        fun row hrow _ _ => hrow
      refine hguard id hid ?_
      obtain ⟨row, hrow, rfl⟩ := List.mem_map.mp (List.mem_filter.mp hid).1
      exact h.rows.listed row (List.mem_filter.mp hrow).1 n hn
    | _ => cases hr
  | deleteStale id rest =>
    cases reply with
    | done =>
      cases hr
      exact h.aside hflow (h.rows.filter _) rfl (fun G hG => deleteNext_cases hG hknows.2)
        fun row hrow hwaiting _ => List.mem_filter.mpr ⟨hrow, decide_eq_true (hknows.1.ne h hwaiting)⟩
    | _ => cases hr
  | statusRead serverId status =>
    cases reply with
    | done =>
      cases hr
      refine h.aside hflow h.rows rfl (fun G hG => ?_) fun row hrow _ _ => hrow
      obtain ⟨m, hm, rfl⟩ := Option.map_eq_some_iff.mp hG
      refine ⟨rfl, fun n hn => ?_⟩
      by_contra hnot
      have hmem := List.mem_of_find?_eq_some hm
      obtain ⟨row, hrow, hsame, hnone, -⟩ := h.kept m.id ⟨h.rows.listed m hmem n hn, hnot⟩
      have heq := List.inj_on_of_nodup_map h.rows.nodup hrow hmem hsame
      have hid : m.providerMessageId = some serverId := by simpa using List.find?_some hm
      rw [← heq, hnone] at hid
      cases hid
    | _ => cases hr
  | statusWrite id status =>
    cases reply with
    | done =>
      cases hr
      refine h.aside hflow (h.rows.updateStatus id status) rfl (fun G hG => (nomatch hG))
        fun row hrow hwaiting _ => ?_
      exact List.mem_map.mpr ⟨row, hrow, if_neg (hknows.ne h hwaiting)⟩
    | _ => cases hr
  | _ => cases haside

/-- The messages that a coroutine still has are free. -/
theorem Sound.rest_free (h : s.Sound) {i : Nat} {flow : Sender} (hflow : s.flows[i]? = some flow)
    {ids : List MessageId} (hids : ∀ id ∈ ids, id ∈ flow.ids) :
    ∀ id ∈ ids, s.Drawn id ∧ ¬ s.Accepted id :=
  fun id hid => h.free flow (List.mem_of_getElem? hflow) id (hids id hid)

theorem count_le_cons {id id' : MessageId} (ids : List MessageId) :
    ids.count id ≤ (id' :: ids).count id := by
  rw [List.count_cons]
  exact Nat.le_add_right ..

/-- The failure of a request is written, and what came of one that was accepted. -/
theorem Sound.run_store (h : s.Sound) {i : Nat} {flow : Sender} {reply : SmsReply}
    {r : Outbox × Option Sender} (hflow : s.flows[i]? = some flow)
    (hr : s.proceed flow reply = some r)
    (hstore : match flow with
      | .storeSent .. | .storeFailed .. => True
      | _ => False) : { r.1 with flows := Lib.advance s.flows i r.2 }.Sound := by
  have hknows := h.knows flow (List.mem_of_getElem? hflow)
  cases flow with
  | storeSent m serverId rest queue =>
    cases reply with
    | done =>
      cases hr
      obtain ⟨hdrawn, hlisted, haccepted, hrest⟩ := hknows
      refine h.advance hflow (h.rows.insert hlisted hdrawn)
        (h.exclusive_advance hflow fun G hG id => ?_) (fun G hG => ⟨?_, sendNext_knows hG hrest⟩)
        fun row hrow hwaiting hnone hstatus => ?_
      · rw [sendNext_ids hG]
        exact le_rfl
      · rw [sendNext_ids hG]
        exact h.rest_free hflow fun id hid => hid
      · have hne : row.id ≠ m.id := by
          intro heq
          exact hwaiting.2 (heq ▸ haccepted)
        exact keepsRow_of_mem (mem_insertMessage hrow hne hnone) hnone hstatus nofun
    | _ => cases hr
  | storeFailed id rest queue =>
    cases reply with
    | done =>
      cases hr
      refine h.advance hflow (h.rows.updateStatus id .failed)
        (h.exclusive_advance hflow fun G hG id' => ?_) (fun G hG => ⟨?_, sendNext_knows hG hknows⟩)
        fun row hrow hwaiting hnone hstatus => ?_
      · rw [sendNext_ids hG]
        exact count_le_cons _
      · rw [sendNext_ids hG]
        exact h.rest_free hflow fun id hid => List.mem_cons_of_mem _ hid
      · refine updateStatus_keepsRow hrow hnone hstatus (fun _ => .inr rfl) fun hne hsends => ?_
        exact hne (Option.some.inj hsends).symm
    | _ => cases hr
  | _ => cases hstore

/-- A retry goes on to its request. -/
theorem Sound.run_retry (h : s.Sound) {i : Nat} {flow : Sender} {reply : SmsReply}
    {r : Outbox × Option Sender} (hflow : s.flows[i]? = some flow)
    (hr : s.proceed flow reply = some r)
    (hretry : match flow with
      | .retryRead _ | .retryMark _ | .retryQueue _ => True
      | _ => False) : { r.1 with flows := Lib.advance s.flows i r.2 }.Sound := by
  have hmem := List.mem_of_getElem? hflow
  have hknows := h.knows flow hmem
  cases flow with
  | retryRead id =>
    cases reply with
    | done =>
      -- nothing is written yet
      have hread : ∀ next : Option Sender, (∀ G, next = some G → G.ids = [id] ∧ s.Knows G) →
          { s with flows := Lib.advance s.flows i next }.Sound := by
        intro next hnext
        refine h.advance hflow h.rows (h.exclusive_advance hflow fun G hG id' => ?_)
          (fun G hG => ⟨?_, (hnext G hG).2⟩)
          fun row hrow _ hnone hstatus => keepsRow_of_mem hrow hnone hstatus nofun
        · rw [(hnext G hG).1]
          exact le_rfl
        · rw [(hnext G hG).1]
          exact h.rest_free hflow fun id hid => hid
      simp only [proceed] at hr
      split at hr
      · cases hr
        exact hread none fun G hG => nomatch hG
      · next m hm =>
        have hrow := List.mem_of_find?_eq_some hm
        have hid : m.id = id := by simpa using List.find?_some hm
        split at hr
        · cases hr
          exact hread none fun G hG => nomatch hG
        · split at hr
          · cases hr
            exact hread none fun G hG => nomatch hG
          · split at hr <;> cases hr
            · refine hread _ fun G hG => ?_
              cases hG
              exact ⟨rfl, trivial⟩
            · refine hread _ fun G hG => ?_
              cases hG
              refine ⟨congrArg (fun id => [id]) hid, h.rows.listed m hrow, fun hcomposed => ?_, rfl⟩
              have hfree := (h.free _ hmem id List.mem_cons_self).2
              obtain ⟨row, hrow', hsame, hnone, -⟩ := h.kept m.id ⟨hcomposed, hid ▸ hfree⟩
              rw [← List.inj_on_of_nodup_map h.rows.nodup hrow' hrow hsame]
              exact hnone
    | _ => cases hr
  | retryMark m =>
    cases reply with
    | done =>
      cases hr
      obtain ⟨hlisted, hnone', hpending⟩ := hknows
      refine h.advance hflow (h.rows.insert hlisted (h.free _ hmem m.id List.mem_cons_self).1)
        (h.exclusive_advance hflow fun G hG id => ?_) (fun G hG => ?_)
        fun row hrow hwaiting hnone hstatus => ?_
      · cases hG
        exact le_rfl
      · cases hG
        exact ⟨h.rest_free hflow fun id hid => hid, hlisted, fun x hx => (nomatch hx)⟩
      · by_cases hid : row.id = m.id
        · refine ⟨m, List.mem_cons_self, hid.symm, hnone' (hid ▸ hwaiting.1),
            .inr (.inr ⟨hpending, ?_⟩)⟩
          refine .inl ⟨_, rfl, ?_⟩
          exact congrArg some hid.symm
        · exact keepsRow_of_mem (mem_insertMessage hrow hid hnone) hnone hstatus nofun
    | _ => cases hr
  | retryQueue id =>
    cases reply with
    | done =>
      cases hr
      exact h.advance hflow (h.rows.updateStatus id .queued)
        (h.exclusive_advance hflow fun G hG => (nomatch hG)) (fun G hG => (nomatch hG))
        fun row hrow _ hnone hstatus =>
          updateStatus_keepsRow hrow hnone hstatus (fun _ => .inl rfl) fun _ => nofun
    | _ => cases hr
  | _ => cases hretry

theorem owed_eq_zero {flows : List Sender} {id : MessageId} (h : ∀ flow ∈ flows, id ∉ flow.ids) :
    owed (fun flow => flow.ids.count id) flows = 0 := by
  refine List.sum_eq_zero fun n hn => ?_
  obtain ⟨flow, hflow, rfl⟩ := List.mem_map.mp hn
  exact List.count_eq_zero.mpr (h flow hflow)

/-- The queue sender reads what is queued, which nobody else sends. -/
theorem Sound.run_readQueued (h : s.Sound) {i : Nat} {reply : SmsReply} {r : Outbox × Option Sender}
    (hflow : s.flows[i]? = some .readQueued) (hr : s.proceed .readQueued reply = some r)
    (hguard : s.Careful (.run i reply)) : { r.1 with flows := Lib.advance s.flows i r.2 }.Sound := by
  cases reply with
  | done =>
    cases hr
    simp only [Careful, hflow] at hguard
    have hmem : ∀ m ∈ (s.messages.filter (·.status = .queued)).mergeSort
        (fun m m' => m.timestamp ≤ m'.timestamp), m ∈ s.messages ∧ m.status = .queued := by
      intro m hm
      obtain ⟨hm, hstatus⟩ := List.mem_filter.mp (List.mem_mergeSort.mp hm)
      exact ⟨hm, of_decide_eq_true hstatus⟩
    refine h.advance hflow h.rows (fun id => ?_) (fun G hG => ⟨?_, sendNext_knows hG fun x hx => ?_⟩)
      fun row hrow _ hnone hstatus => keepsRow_of_mem hrow hnone hstatus nofun
    · dsimp only
      have howed := owed_advance hflow (fun flow => flow.ids.count id)
        (sendNext true ((s.messages.filter (·.status = .queued)).mergeSort
          fun m m' => m.timestamp ≤ m'.timestamp))
      have hle := h.exclusive id
      have hzero : Sender.readQueued.ids.count id = 0 := rfl
      cases hnext : sendNext true ((s.messages.filter (·.status = .queued)).mergeSort
          fun m m' => m.timestamp ≤ m'.timestamp) with
      | none =>
        rw [hnext, Option.elim_none] at howed
        omega
      | some G =>
        rw [hnext, Option.elim_some, sendNext_ids hnext] at howed
        have hperm := (List.mergeSort_perm (s.messages.filter (·.status = .queued))
          (fun m m' => m.timestamp ≤ m'.timestamp)).map (·.id)
        have hnodup := hperm.nodup_iff.mpr (h.rows.nodup.sublist (List.filter_sublist.map _))
        by_cases hid : id ∈ ((s.messages.filter (·.status = .queued)).mergeSort
            fun m m' => m.timestamp ≤ m'.timestamp).map (·.id)
        · obtain ⟨m, hm, rfl⟩ := List.mem_map.mp hid
          have hnone := owed_eq_zero (hguard m (hmem m hm).1 (hmem m hm).2).2
          have hone := List.nodup_iff_count.mp hnodup m.id
          omega
        · have hzero' := List.count_eq_zero.mpr hid
          omega
    · rw [sendNext_ids hG]
      intro id hid
      obtain ⟨m, hm, rfl⟩ := List.mem_map.mp hid
      exact ⟨h.rows.drawn m (hmem m hm).1, (hguard m (hmem m hm).1 (hmem m hm).2).1⟩
    · exact h.rows.listed x (hmem x hx).1
  | _ => cases hr

/-! ## What is drawn, composed and accepted -/

/-- It only grows. -/
structure Grows (s t : Outbox) : Prop where
  own : s.nextOwn ≤ t.nextOwn
  server : s.nextServer ≤ t.nextServer
  composed : s.composed ⊆ t.composed
  accepted : s.accepted ⊆ t.accepted

theorem Grows.drawn (h : Grows s t) {id : MessageId} (hid : s.Drawn id) : t.Drawn id := by
  cases id with
  | own number => exact hid.trans_le h.own
  | server number => exact hid.trans_le h.server

theorem Grows.listed (h : Grows s t) {id : MessageId} (hid : s.Listed id) : t.Listed id :=
  fun n hn => h.composed (hid n hn)

theorem Grows.accepts (h : Grows s t) {id : MessageId} : s.Accepted id → t.Accepted id :=
  fun ⟨a, ha, hsame⟩ => ⟨a, h.accepted ha, hsame⟩

theorem Grows.settled (h : Grows s t) {id : MessageId} (hid : s.Settled id) : t.Settled id :=
  fun n hn => h.accepts (hid n hn)

theorem Grows.isEntity (h : Grows s t) {m : Message} : s.IsEntity m → t.IsEntity m :=
  fun ⟨number, hnumber, hid, hlt⟩ => ⟨number, hnumber, hid, hlt.trans_le h.server⟩

/-- What a coroutine knows stays so, if none of its own messages is composed meanwhile. -/
theorem Grows.knows (h : Grows s t) {flow : Sender}
    (hids : ∀ id ∈ flow.ids, id ∈ t.composed → id ∈ s.composed) (hknows : s.Knows flow) :
    t.Knows flow := by
  cases flow with
  | insertNew m => exact ⟨hknows.1, fun hin => hknows.2.1 (hids _ List.mem_cons_self hin), hknows.2.2⟩
  | posting m rest queue => exact ⟨h.listed hknows.1, fun x hx => h.listed (hknows.2 x hx)⟩
  | storeSent m serverId rest queue =>
    obtain ⟨hdrawn, hlisted, haccepted, hrest⟩ := hknows
    exact ⟨h.drawn hdrawn, h.listed hlisted, h.accepts haccepted, fun x hx => h.listed (hrest x hx)⟩
  | storeFailed id rest queue => exact fun x hx => h.listed (hknows x hx)
  | retryMark m =>
    exact ⟨h.listed hknows.1, fun hin => hknows.2.1 (hids _ List.mem_cons_self hin), hknows.2.2⟩
  | cache m rest synced providerNumber phoneNumber =>
    exact ⟨h.isEntity hknows.1, fun x hx => h.isEntity (hknows.2 x hx)⟩
  | deleteStale id rest => exact ⟨h.settled hknows.1, fun x hx => h.settled (hknows.2 x hx)⟩
  | statusWrite id status => exact h.settled hknows
  | _ => trivial

/-- The ids that a coroutine has no other has. -/
theorem Sound.ne_of_mem_others (h : s.Sound) {i : Nat} {flow G : Sender}
    (hflow : s.flows[i]? = some flow) (hG : G ∈ s.flows.eraseIdx i) {id id' : MessageId}
    (hid : id ∈ flow.ids) (hid' : id' ∈ G.ids) : id' ≠ id := by
  rintro rfl
  have hpos := List.count_pos_iff.mpr hid
  have hle := h.exclusive id'
  have hzero : G.ids.count id' = 0 :=
    @debt_eq_zero_of_mem_others _ _ _ _ _ (fun flow => flow.ids.count id') hflow (hle.trans hpos) hG
  exact List.count_eq_zero.mp hzero hid'

theorem originOf_of_not_accepted {id : MessageId} (h : ¬ s.Accepted id) : s.originOf id = id := by
  have hnone : s.accepted.find? (fun a => .server a.2 = id) = none :=
    List.find?_eq_none.mpr fun a ha hsame => h ⟨a, ha, .inr (of_decide_eq_true hsame)⟩
  rw [originOf, hnone]
  rfl

/-! ## Requests and new messages -/

/-- A request fails, or the message is accepted: it was not before, and nobody else sends it. -/
theorem Sound.run_posting (h : s.Sound) {i : Nat} {reply : SmsReply} {r : Outbox × Option Sender}
    {m : Message} {rest : List Message} {queue : Bool}
    (hflow : s.flows[i]? = some (.posting m rest queue))
    (hr : s.proceed (.posting m rest queue) reply = some r) :
    { r.1 with flows := Lib.advance s.flows i r.2 }.Sound := by
  have hmem := List.mem_of_getElem? hflow
  have hknows := h.knows _ hmem
  cases reply with
  | fails =>
    cases hr
    refine h.advance hflow h.rows (h.exclusive_advance hflow fun G hG id => ?_) (fun G hG => ?_)
      fun row hrow _ hnone hstatus =>
        keepsRow_of_mem hrow hnone hstatus fun hsends => ⟨_, rfl, hsends⟩
    · cases hG
      exact le_rfl
    · cases hG
      exact ⟨h.rest_free hflow fun id hid => hid, hknows.2⟩
  | accepted =>
    cases hr
    obtain ⟨hdrawn, hnot⟩ := h.free _ hmem m.id List.mem_cons_self
    rw [originOf_of_not_accepted hnot]
    let t : Outbox := { s with
      accepted := (m.id, s.nextServer) :: s.accepted, nextServer := s.nextServer + 1
      flows := Lib.advance s.flows i (some (.storeSent m s.nextServer rest queue)) }
    have hflows : t.flows = Lib.advance s.flows i (some (.storeSent m s.nextServer rest queue)) := rfl
    have hgrows : Grows s t :=
      ⟨le_rfl, Nat.le_succ _, List.Subset.refl _, List.subset_cons_self _ _⟩
    -- another message is accepted by now only if it was before
    have hother : ∀ id, s.Drawn id → id ≠ m.id → ¬ s.Accepted id → ¬ t.Accepted id := by
      rintro id hid hne hold ⟨a, ha, hsame⟩
      obtain rfl | ha := List.mem_cons.mp ha
      · obtain hsame | hsame := hsame
        · exact hne hsame.symm
        · rw [← hsame] at hid
          exact lt_irrefl _ hid
      · exact hold ⟨a, ha, hsame⟩
    have hone := (le_owed_of_mem hmem fun flow => flow.ids.count m.id).trans (h.exclusive m.id)
    have hrest : ∀ id ∈ rest.map (·.id), id ≠ m.id := by
      rintro id hid rfl
      have hpos := List.count_pos_iff.mpr hid
      have hcount : (m.id :: rest.map (·.id)).count m.id ≤ 1 := hone
      rw [List.count_cons_self] at hcount
      omega
    have hexclusive : ∀ id, owed (fun flow => flow.ids.count id)
        (Lib.advance s.flows i (some (.storeSent m s.nextServer rest queue))) ≤ 1 := by
      refine h.exclusive_advance hflow fun G hG id => ?_
      cases hG
      exact count_le_cons _
    have hkept : t.Sound := by
      refine ⟨⟨h.rows.nodup, h.rows.listed, fun row hrow => hgrows.drawn (h.rows.drawn row hrow)⟩,
        h.composed, fun a ha => ?_, ?_, hexclusive, fun G hG id hid => ?_, fun G hG => ?_,
        fun id hwaiting => ?_⟩
      · obtain rfl | ha := List.mem_cons.mp ha
        · exact ⟨hgrows.drawn hdrawn, hknows.1, Nat.lt_succ_self _⟩
        · obtain ⟨hid, hlisted, hlt⟩ := h.accepted a ha
          exact ⟨hgrows.drawn hid, hlisted, Nat.lt_succ_of_lt hlt⟩
      · refine List.nodup_cons.mpr ⟨fun hin => ?_, h.once⟩
        obtain ⟨a, ha, hsame⟩ := List.mem_map.mp hin
        exact hnot ⟨a, ha, .inl hsame⟩
      · rw [hflows] at hG
        obtain hnext | hG := mem_others_of_mem_advance hG
        · cases hnext
          obtain ⟨hd, hn⟩ := h.rest_free hflow (fun id hid => List.mem_cons_of_mem _ hid) id hid
          exact ⟨hgrows.drawn hd, hother id hd (hrest id hid) hn⟩
        · obtain ⟨hd, hn⟩ := h.free G (List.mem_of_mem_eraseIdx hG) id hid
          have hne := h.ne_of_mem_others hflow hG List.mem_cons_self hid
          exact ⟨hgrows.drawn hd, hother id hd hne hn⟩
      · rw [hflows] at hG
        obtain hG | hnext := mem_advance hG
        · exact hgrows.knows (fun _ _ hin => hin) (h.knows G hG)
        · cases hnext
          exact ⟨hgrows.drawn hdrawn, hknows.1, ⟨_, List.mem_cons_self, .inl rfl⟩, hknows.2⟩
      · have hne : id ≠ m.id := by
          rintro rfl
          exact hwaiting.2 ⟨_, List.mem_cons_self, .inl rfl⟩
        obtain ⟨row, hrow, hsame, hnone, hstatus⟩ :=
          h.kept id ⟨hwaiting.1, fun hold => hwaiting.2 (hgrows.accepts hold)⟩
        refine ⟨row, hrow, hsame, hnone, hstatus.imp_right (Or.imp_right ?_)⟩
        rintro ⟨hpending, G, hG, hsends⟩
        refine ⟨hpending, G, ?_, hsends⟩
        rw [hflows]
        refine mem_advance_of_ne hflow _ hG ?_
        rintro rfl
        exact hne (Option.some.inj hsends).symm
    exact hkept
  | _ => cases hr

/-- A message that was composed is inserted, and sent if the network is there. -/
theorem Sound.run_insertNew (h : s.Sound) {i : Nat} {reply : SmsReply} {r : Outbox × Option Sender}
    {m : Message} (hflow : s.flows[i]? = some (.insertNew m))
    (hr : s.proceed (.insertNew m) reply = some r) :
    { r.1 with flows := Lib.advance s.flows i r.2 }.Sound := by
  have hmem := List.mem_of_getElem? hflow
  obtain ⟨⟨n, hown⟩, hnew, hnone, hstatus⟩ := h.knows _ hmem
  have hfree := h.free _ hmem
  have hdrawn := (hfree m.id List.mem_cons_self).1
  cases reply with
  | done =>
    cases hr
    have hsent (hpending : m.status = .pending) :
        (if m.status = .pending then some (Sender.posting m [] false) else none) =
          some (.posting m [] false) := if_pos hpending
    have hnext : ∀ G,
        (if m.status = .pending then some (Sender.posting m [] false) else none) = some G →
          m.status = .pending ∧ G = .posting m [] false := fun G hG => by
      split at hG <;> cases hG
      exact ⟨‹_›, rfl⟩
    generalize (if m.status = .pending then some (Sender.posting m [] false) else none) = next
      at hnext hsent
    let t : Outbox := { s with
      messages := insertMessage s.messages m, composed := m.id :: s.composed
      flows := Lib.advance s.flows i next }
    have hflows : t.flows = Lib.advance s.flows i next := rfl
    have hgrows : Grows s t := ⟨le_rfl, le_rfl, List.subset_cons_self _ _, List.Subset.refl _⟩
    have hrows : t.RowsSound s.messages :=
      ⟨h.rows.nodup, fun row hrow => hgrows.listed (h.rows.listed row hrow), h.rows.drawn⟩
    have hexclusive : ∀ id,
        owed (fun flow => flow.ids.count id) (Lib.advance s.flows i next) ≤ 1 := by
      refine h.exclusive_advance hflow fun G hG id => ?_
      obtain ⟨-, rfl⟩ := hnext G hG
      exact le_rfl
    have hkept : t.Sound := by
      refine ⟨hrows.insert (fun _ _ => List.mem_cons_self) hdrawn,
        fun id hid => ?_, fun a ha => ?_, h.once, hexclusive, fun G hG => ?_, fun G hG => ?_,
        fun id hwaiting => ?_⟩
      · obtain rfl | hid := List.mem_cons.mp hid
        · rw [hown] at hdrawn
          exact ⟨n, hown, hdrawn⟩
        · exact h.composed id hid
      · obtain ⟨hid, hlisted, hlt⟩ := h.accepted a ha
        exact ⟨hid, hgrows.listed hlisted, hlt⟩
      · rw [hflows] at hG
        obtain hG | hG := mem_advance hG
        · exact h.free G hG
        · obtain ⟨-, rfl⟩ := hnext G hG
          exact hfree
      · rw [hflows] at hG
        obtain hG | hG := mem_others_of_mem_advance hG
        · obtain ⟨-, rfl⟩ := hnext G hG
          exact ⟨fun _ _ => List.mem_cons_self, fun x hx => (nomatch hx)⟩
        · refine hgrows.knows (fun id hid hin => ?_) (h.knows G (List.mem_of_mem_eraseIdx hG))
          have hne := h.ne_of_mem_others hflow hG List.mem_cons_self hid
          exact (List.mem_cons.mp hin).resolve_left hne
      · obtain rfl | hid := List.mem_cons.mp hwaiting.1
        · refine ⟨m, List.mem_cons_self, rfl, hnone, ?_⟩
          obtain hpending | hqueued := hstatus
          · refine .inr (.inr ⟨hpending, .posting m [] false, ?_, rfl⟩)
            rw [hflows, hsent hpending]
            exact mem_advance_next hflow
          · exact .inl hqueued
        · obtain ⟨row, hrow, rfl, hnone', hstatus'⟩ := h.kept id ⟨hid, hwaiting.2⟩
          have hne : row.id ≠ m.id := fun heq => hnew (heq ▸ hid)
          refine ⟨row, mem_insertMessage hrow hne hnone', rfl, hnone',
            hstatus'.imp_right (Or.imp_right ?_)⟩
          rintro ⟨hpending, G, hG, hsends⟩
          refine ⟨hpending, G, ?_, hsends⟩
          rw [hflows]
          refine mem_advance_of_ne hflow _ hG ?_
          rintro rfl
          cases hsends
    exact hkept
  | _ => cases hr

/-! ## Whole runs -/

/-- An operation of a coroutine. -/
theorem Sound.run (h : s.Sound) {i : Nat} {reply : SmsReply} (hguard : s.Careful (.run i reply))
    (hstep : s.step (.run i reply) = some t) : t.Sound := by
  obtain ⟨flow, r, hflow, hr, rfl⟩ := step_run hstep
  cases flow with
  | insertNew m => exact h.run_insertNew hflow hr
  | posting m rest queue => exact h.run_posting hflow hr
  | storeSent | storeFailed => exact h.run_store hflow hr trivial
  | retryRead | retryMark | retryQueue => exact h.run_retry hflow hr trivial
  | readQueued => exact h.run_readQueued hflow hr hguard
  | fetch | cache | readRange | deleteStale | statusRead | statusWrite =>
    exact h.run_aside hflow hr hguard trivial

/-- Ids are drawn, time passes, and the network comes or goes. -/
theorem Sound.later (h : s.Sound) {nextOwn nextServer : Nat} (hown : s.nextOwn ≤ nextOwn)
    (hserver : s.nextServer ≤ nextServer) (now : Nat) (connected : Bool) :
    { s with nextOwn, nextServer, now, connected }.Sound := by
  have hgrows : Grows s { s with nextOwn, nextServer, now, connected } :=
    ⟨hown, hserver, List.Subset.refl _, List.Subset.refl _⟩
  refine ⟨⟨h.rows.nodup, h.rows.listed, fun row hrow => hgrows.drawn (h.rows.drawn row hrow)⟩,
    fun id hid => ?_, fun a ha => ?_, h.once, h.exclusive, fun flow hflow id hid => ?_,
    fun flow hflow => hgrows.knows (fun _ _ hin => hin) (h.knows flow hflow), h.kept⟩
  · obtain ⟨n, rfl, hlt⟩ := h.composed id hid
    exact ⟨n, rfl, hlt.trans_le hown⟩
  · obtain ⟨hid, hlisted, hlt⟩ := h.accepted a ha
    exact ⟨hgrows.drawn hid, hlisted, hlt.trans_le hserver⟩
  · obtain ⟨hdrawn, hnot⟩ := h.free flow hflow id hid
    exact ⟨hgrows.drawn hdrawn, hnot⟩

/-- A coroutine starts, whose messages nobody sends. -/
theorem Sound.start (h : s.Sound) {flow : Sender} (hnodup : flow.ids.Nodup)
    (hfree : ∀ id ∈ flow.ids, s.Drawn id ∧ ¬ s.Accepted id)
    (hothers : ∀ id ∈ flow.ids, ∀ G ∈ s.flows, id ∉ G.ids) (hknows : s.Knows flow) :
    (s.start flow).Sound := by
  refine ⟨⟨h.rows.nodup, h.rows.listed, h.rows.drawn⟩, h.composed, h.accepted, h.once, fun id => ?_,
    fun G hG => ?_, fun G hG => ?_, fun id hwaiting => ?_⟩
  · rw [Outbox.start, owed_concat]
    by_cases hid : id ∈ flow.ids
    · rw [owed_eq_zero (hothers id hid), Nat.zero_add]
      exact List.nodup_iff_count.mp hnodup id
    · rw [List.count_eq_zero.mpr hid]
      exact h.exclusive id
  · obtain hold | hG := List.mem_append.mp hG
    · exact h.free G hold
    · cases List.mem_singleton.mp hG
      exact hfree
  · obtain hold | hG := List.mem_append.mp hG
    · exact h.knows G hold
    · cases List.mem_singleton.mp hG
      exact hknows
  · obtain ⟨row, hrow, hsame, hnone, hstatus⟩ := h.kept id hwaiting
    refine ⟨row, hrow, hsame, hnone, hstatus.imp_right (Or.imp_right ?_)⟩
    rintro ⟨hpending, G, hG, hsends⟩
    exact ⟨hpending, G, List.mem_append_left _ hG, hsends⟩

/-- The process starts anew: no coroutine had a message on its way. -/
theorem Sound.restart (h : s.Sound) (hguard : s.Careful .restart) : { s with flows := [] }.Sound := by
  refine ⟨⟨h.rows.nodup, h.rows.listed, h.rows.drawn⟩, h.composed, h.accepted, h.once,
    fun _ => Nat.zero_le _, fun _ hG => (nomatch hG), fun _ hG => (nomatch hG), fun id hwaiting => ?_⟩
  obtain ⟨row, hrow, hsame, hnone, hstatus⟩ := h.kept id hwaiting
  refine ⟨row, hrow, hsame, hnone, hstatus.imp_right (Or.imp_right ?_)⟩
  rintro ⟨-, G, hG, hsends⟩
  have hidle := hguard G hG
  cases G <;> cases hsends <;> cases hidle

/-- A message is composed here: its id is new to everyone. -/
theorem Sound.compose (h : s.Sound) {m : Message} (hid : m.id = .own s.nextOwn)
    (hnone : m.providerMessageId = none) (hstatus : m.status = .pending ∨ m.status = .queued) :
    ({ s with nextOwn := s.nextOwn + 1 }.start (.insertNew m)).Sound := by
  have hlater : { s with nextOwn := s.nextOwn + 1 }.Sound :=
    h.later (Nat.le_succ _) le_rfl s.now s.connected
  have hnew : ¬ s.Drawn m.id := by
    rw [hid]
    exact lt_irrefl _
  refine hlater.start (List.nodup_singleton _) (fun id hin => ?_) (fun id hin G hG hold => ?_) ?_
  · cases List.mem_singleton.mp hin
    refine ⟨?_, fun ⟨a, ha, hsame⟩ => ?_⟩
    · rw [hid]
      exact Nat.lt_succ_self _
    · obtain hsame | hsame := hsame
      · exact hnew (hsame ▸ (h.accepted a ha).1)
      · rw [hid] at hsame
        cases hsame
  · cases List.mem_singleton.mp hin
    exact hnew (h.free G hG _ hold).1
  · refine ⟨⟨_, hid⟩, fun hin => ?_, hnone, hstatus⟩
    obtain ⟨n, hn, hlt⟩ := h.composed _ hin
    exact hnew (hn ▸ hlt)

/-- **The step lemma.** -/
theorem Sound.step (h : s.Sound) {e : SmsEvent} (hguard : s.Careful e) (hstep : s.step e = some t) :
    t.Sound := by
  -- a coroutine that has no messages of its own
  have haside : ∀ {u : Outbox} {flow : Sender}, u.Sound → flow.ids = [] → u.Knows flow →
      (u.start flow).Sound := by
    intro u flow hu hids hknows
    refine hu.start ?_ ?_ ?_ hknows
    all_goals rw [hids]
    · exact List.nodup_nil
    · intros; contradiction
    · intros; contradiction
  cases e with
  | sendMessage providerNumber destination body =>
    cases hstep
    refine h.compose rfl rfl ?_
    dsimp only
    split
    · exact .inl rfl
    · exact .inr rfl
  | retryMessage id =>
    simp only [Outbox.step] at hstep
    split at hstep <;> cases hstep
    next hdrawn =>
    refine h.start (List.nodup_singleton _) (fun id' hid => ?_) (fun id' hid => ?_) trivial
    · cases List.mem_singleton.mp hid
      exact ⟨hdrawn, hguard.1⟩
    · cases List.mem_singleton.mp hid
      exact hguard.2
  | network connected =>
    cases hstep
    exact h.later le_rfl le_rfl s.now connected
  | sendQueuedMessages =>
    simp only [Outbox.step] at hstep
    split at hstep <;> cases hstep
    exact haside h rfl trivial
  | syncMessages providerNumber phoneNumber =>
    cases hstep
    exact haside h rfl trivial
  | messageStatus serverId status =>
    have hwrite : (s.start (.statusWrite (.server serverId) (status.getD .sent))).Sound :=
      haside h rfl (by rintro _ ⟨⟩)
    simp only [Outbox.step] at hstep
    split at hstep <;> cases hstep
    · exact haside hwrite rfl trivial
    · exact haside hwrite rfl trivial
    · exact haside hwrite rfl trivial
    · exact hwrite
  | arrive =>
    cases hstep
    exact h.later le_rfl (Nat.le_succ _) s.now s.connected
  | run i reply => exact h.run hguard hstep
  | wait milliseconds =>
    cases hstep
    exact h.later le_rfl le_rfl _ s.connected
  | restart =>
    cases hstep
    exact h.restart hguard

theorem Sound.init : init.Sound where
  rows := ⟨List.nodup_nil, nofun, nofun⟩
  composed := nofun
  accepted := nofun
  once := List.nodup_nil
  exclusive _ := Nat.zero_le _
  free _ hflow := nomatch hflow
  knows _ hflow := nomatch hflow
  kept _ hwaiting := nomatch hwaiting.1

end Outbox

end Svarla.Android
