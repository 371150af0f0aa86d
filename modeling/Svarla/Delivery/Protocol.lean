import Mathlib
import Svarla.Delivery.Server
import Svarla.Sms.Handler

/-!
# Delivery of incoming messages

`SMSDelivery` in `modem-gateway/cmd/modem-gateway/smsdelivery.go` with the server at the other end.
The gateway persists a message in its buffer, a pump sends every buffered message whenever it is
kicked or its ticker fires, and an `sms_ack` removes the message it names. The connection may drop
and come back at any point, and what is in flight in either direction may be lost, duplicated,
delayed across connections and handled in any order. Both processes may end and start again: the
gateway keeps its file, and the server its tables.
-/

namespace Svarla.Delivery

open Svarla.Lib Svarla.Buffer Svarla.Sms

/-- The payload of an `incoming_sms` message, as `sendOne` builds it. -/
structure IncomingSmsPayload where
  messageId : String
  fromNumber : String
  toNumber : String
  body : String
  timestamp : Int
  deriving DecidableEq, Repr

/-- `sendOne`: the timestamp goes in milliseconds. -/
def payload (msg : IncomingSMS) : IncomingSmsPayload :=
  ⟨msg.messageID, msg.fromNumber, msg.toNumber, msg.body, msg.timestamp / 1000000⟩

/-- `handleIncomingSms` of the provider: a message without a receiver is for the number the gateway
reported. -/
def IncomingSmsPayload.event (msg : IncomingSmsPayload) (reportedNumber : Option String) :
    IncomingSmsEvent :=
  { messageId := msg.messageId
    fromNumber := msg.fromNumber
    toNumber := if msg.toNumber = "" then reportedNumber.getD "" else msg.toNumber
    body := msg.body
    timestamp := msg.timestamp }

/-- Both processes and what is in flight between them. -/
structure Protocol where
  incoming : PersistentBuffer IncomingSMS
  incomingFile : File IncomingSMS
  /-- What is left to send of the snapshot the pump has taken. -/
  pump : List IncomingSMS
  connected : Bool
  /-- The `incoming_sms` messages in flight. -/
  messages : List IncomingSmsPayload
  /-- The `sms_ack` messages in flight. -/
  acks : List String
  server : Server

/-- What can happen next. -/
inductive DeliveryEvent
  /-- `Persist`, of a message read from the modem under its name, with the text read or assembled. -/
  | persist (parsed : ParsedMessage) (toNumber body : String) (io : AppendCalls)
      (rio : RewriteCalls)
  /-- `flush` begins. -/
  | flush
  /-- The next `sendOne` of it, and whether the connection takes the message. -/
  | sendOne (sent : Bool)
  /-- `HandleAck`, of the `i`-th ack in flight. -/
  | handleAck (i : Nat) (rio : RewriteCalls)
  /-- The gateway ends and starts again. -/
  | gatewayRestart (io : LoadCalls)
  | disconnect
  | reconnect
  | loseMessage (i : Nat)
  | duplicateMessage (i : Nat)
  | loseAck (i : Nat)
  | duplicateAck (i : Nat)
  /-- The `i`-th message in flight reaches the server. -/
  | receive (i : Nat) (reportedNumber : Option String)
  /-- The next call of the `i`-th handler of the server. -/
  | server (i : Nat) (db : DbCall) (label : Option String)
  /-- The server ends and starts again. -/
  | serverRestart

/-- One event. -/
def deliveryStep (X : Externals) (s : Protocol) : DeliveryEvent → Option Protocol
  | .persist parsed toNumber body io rio =>
    let msg : IncomingSMS := ⟨deterministicMessageID X.sha256 parsed, parsed.sender, toNumber, body,
      parsed.timestamp⟩
    let (incoming, incomingFile, _) := s.incoming.push X.marshalSMS io rio s.incomingFile msg
    some { s with incoming, incomingFile }
  | .flush =>
    if s.pump = [] then
      some (if s.connected then { s with pump := s.incoming.snapshot } else s)
    else none
  | .sendOne sent =>
    match s.pump with
    | [] => none
    | msg :: rest =>
      some (if s.connected && sent then
          { s with pump := rest, messages := s.messages ++ [payload msg] }
        else { s with pump := [] })
  | .handleAck i rio =>
    s.acks[i]?.map fun messageID =>
      if messageID = "" then { s with acks := s.acks.eraseIdx i }
      else
        let (incoming, incomingFile, _) :=
          s.incoming.remove X.marshalSMS rio s.incomingFile messageID
        { s with incoming, incomingFile, acks := s.acks.eraseIdx i }
  | .gatewayRestart io =>
    -- a run in which the file cannot be opened goes on without the buffer
    match PersistentBuffer.newKeyed defaultCapacity (some IncomingSMS.messageID) io
        s.incomingFile with
    | .ok incoming => some { s with incoming, pump := [], connected := false }
    | .error _ => none
  | .disconnect => some { s with connected := false }
  | .reconnect => some { s with connected := true }
  | .loseMessage i => some { s with messages := s.messages.eraseIdx i }
  | .duplicateMessage i => s.messages[i]?.map fun msg => { s with messages := s.messages ++ [msg] }
  | .loseAck i => some { s with acks := s.acks.eraseIdx i }
  | .duplicateAck i => s.acks[i]?.map fun messageID => { s with acks := s.acks ++ [messageID] }
  | .receive i reportedNumber =>
    s.messages[i]?.map fun msg =>
      { s with
        messages := s.messages.eraseIdx i
        server := s.server.receive (msg.event reportedNumber) }
  | .server i db label =>
    s.server.handlers[i]?.map fun h =>
      { s with server := s.server.step i h db label, acks := s.acks ++ h.acks }
  | .serverRestart => some { s with server := { s.server with handlers := [] } }

/-- A gateway without messages, and a server with any tables. -/
def Protocol.start (messages : MessagesTable) (conversations : List Conversation)
    (notifications : List NotificationRow) : Protocol :=
  { incoming := (fresh defaultCapacity defaultCapacity_pos (some IncomingSMS.messageID)).1
    incomingFile := ⟨[], none⟩
    pump := [], connected := false, messages := [], acks := []
    server := ⟨messages, conversations, notifications, [], []⟩ }

/-! ## The invariant -/

/-- The server has paid for what it owes, and an ack is in order for what it acknowledges. -/
structure Server.Sound (s : Server) : Prop where
  named : ∀ h ∈ s.handlers, h.event.messageId ≠ ""
  stored : ∀ h ∈ s.handlers, h.stage.Stored → s.messages.Has h.event.messageId
  announced : ∀ messageId, s.newMessages messageId +
    owed (Handler.owesNewMessage messageId) s.handlers ≤ s.messages.count messageId
  notified : ∀ messageId, s.notified messageId +
    owed (Handler.owesNotification messageId) s.handlers ≤ s.messages.count messageId

/-- What a run keeps. -/
structure Protocol.Sound (s : Protocol) : Prop where
  keyed : s.incoming.keyFn = some IncomingSMS.messageID
  buffered : ∀ msg, msg ∈ s.incoming.items ∨ msg ∈ s.incomingFile.items → msg.messageID ≠ ""
  pumped : ∀ msg ∈ s.pump, msg.messageID ≠ ""
  sent : ∀ msg ∈ s.messages, msg.messageId ≠ ""
  acked : ∀ messageId ∈ s.acks, s.server.messages.Has messageId
  server : s.server.Sound

/-- The gateway gives every message a name. -/
theorem deterministicMessageID_ne_empty (sha256 : String → List UInt8) (p : ParsedMessage) :
    deterministicMessageID sha256 p ≠ "" := by
  intro h
  have := congrArg String.length h
  simp [deterministicMessageID, String.length_append] at this

theorem MessagesTable.Has.mono {messages messages' : MessagesTable} {messageId : String}
    (h : messages.Has messageId) (hrows : ∀ row ∈ messages.rows, row ∈ messages'.rows) :
    messages'.Has messageId := by
  obtain ⟨row, hrow, hid⟩ := has_iff.mp h
  exact has_iff.mpr ⟨row, hrows row hrow, hid⟩

/-- A new handler owes nothing. -/
theorem Server.Sound.receive {s : Server} (h : s.Sound) {event : IncomingSmsEvent}
    (hnamed : event.messageId ≠ "") : (s.receive event).Sound := by
  refine ⟨fun h' hh' => ?_, fun h' hh' => ?_, fun messageId => ?_, fun messageId => ?_⟩
  · rcases List.mem_append.mp hh' with hh' | hh'
    · exact h.named h' hh'
    · rw [List.mem_singleton.mp hh']
      exact hnamed
  · rcases List.mem_append.mp hh' with hh' | hh'
    · exact h.stored h' hh'
    · rw [List.mem_singleton.mp hh']
      exact False.elim
  · rw [Server.receive, owed_concat]
    exact h.announced messageId
  · have hnone : Handler.owesNotification messageId ⟨event, .dedup⟩ = 0 :=
      if_neg fun hboth => hboth.2
    rw [Server.receive, owed_concat, hnone]
    exact h.notified messageId

/-- **A call of a handler.** -/
theorem Server.Sound.step {s : Server} (hs : s.Sound) {i : Nat} {h : Handler}
    (hi : s.handlers[i]? = some h) (db : DbCall) (label : Option String) :
    (s.step i h db label).Sound ∧
      ∀ row ∈ s.messages.rows, row ∈ (s.step i h db label).messages.rows := by
  obtain ⟨event, stage⟩ := h
  have hmem := List.mem_of_getElem? hi
  obtain ⟨hhandlers, hrows, hstored, hannounced, hnotified⟩ :=
    s.called (hs.named _ hmem) db label (hs.stored _ hmem)
  refine ⟨⟨fun h' hh' => ?_, fun h' hh' => ?_, fun messageId => ?_, fun messageId => ?_⟩, hrows⟩
  · rcases mem_advance hh' with hh' | hh'
    · exact hs.named h' hh'
    · obtain ⟨stage', -, rfl⟩ := Option.map_eq_some_iff.mp hh'
      exact hs.named ⟨event, stage⟩ hmem
  · rcases mem_advance hh' with hh' | hh'
    · exact fun hstage => (hs.stored h' hh' hstage).mono hrows
    · obtain ⟨stage', hnext, rfl⟩ := Option.map_eq_some_iff.mp hh'
      exact hstored stage' hnext
  · have hbefore := hs.announced messageId
    have hcall := hannounced messageId
    have hadvance := owed_advance hi (Handler.owesNewMessage messageId)
      ((s.call event db label stage).2.map fun stage => ⟨event, stage⟩)
    rw [Option.elim_map] at hadvance
    simp only [Server.step, Server.newMessages, Function.comp_def] at hbefore hcall hadvance ⊢
    omega
  · have hbefore := hs.notified messageId
    have hcall := hnotified messageId
    have hadvance := owed_advance hi (Handler.owesNotification messageId)
      ((s.call event db label stage).2.map fun stage => ⟨event, stage⟩)
    rw [Option.elim_map] at hadvance
    simp only [Server.step, Server.notified, Function.comp_def] at hbefore hcall hadvance ⊢
    omega

/-- What a handler acknowledges is stored. -/
theorem Server.Sound.acks {s : Server} (hs : s.Sound) {h : Handler} (hmem : h ∈ s.handlers)
    {messageId : String} (hack : messageId ∈ h.acks) : s.messages.Has messageId := by
  unfold Handler.acks at hack
  split at hack
  · next message hstage =>
    split at hack
    · cases hack
    · rw [List.mem_singleton.mp hack]
      exact hs.stored h hmem (hstage ▸ trivial)
  · cases hack

variable {X : Externals}

/-- What concerns only what is in flight. -/
theorem Protocol.Sound.inFlight {s : Protocol} (h : s.Sound) {messages : List IncomingSmsPayload}
    (hmessages : ∀ msg ∈ messages, msg ∈ s.messages) {acks : List String}
    (hacks : ∀ messageId ∈ acks, messageId ∈ s.acks) : Protocol.Sound { s with messages, acks } :=
  ⟨h.keyed, h.buffered, h.pumped, fun msg hmsg => h.sent msg (hmessages msg hmsg),
    fun messageId hack => h.acked messageId (hacks messageId hack), h.server⟩

/-- **Every event keeps the invariant.** -/
theorem Protocol.Sound.step {s s' : Protocol} (h : s.Sound) {e : DeliveryEvent}
    (hstep : deliveryStep X s e = some s') : s'.Sound := by
  cases e with
  | persist parsed toNumber body io rio =>
    cases hstep
    refine ⟨(PersistentBuffer.push_keyFn ..).trans h.keyed, fun msg hmsg => ?_, h.pumped, h.sent,
      h.acked, h.server⟩
    rcases PersistentBuffer.mem_push hmsg with rfl | hmsg
    · exact deterministicMessageID_ne_empty _ _
    · exact h.buffered msg hmsg
  | flush =>
    simp only [deliveryStep] at hstep
    split at hstep
    · cases hstep
      split
      · exact ⟨h.keyed, h.buffered, fun msg hmsg => h.buffered msg (.inl hmsg), h.sent, h.acked, h.server⟩
      · exact h
    · cases hstep
  | sendOne sent =>
    simp only [deliveryStep] at hstep
    split at hstep
    · cases hstep
    · next msg rest hpump =>
      cases hstep
      have hpumped := h.pumped
      rw [hpump] at hpumped
      split
      · refine ⟨h.keyed, h.buffered, fun m hm => hpumped m (List.mem_cons_of_mem _ hm), fun m hm => ?_,
          h.acked, h.server⟩
        rcases List.mem_append.mp hm with hm | hm
        · exact h.sent m hm
        · rw [List.mem_singleton.mp hm]
          exact hpumped msg List.mem_cons_self
      · exact ⟨h.keyed, h.buffered, by simp, h.sent, h.acked, h.server⟩
  | handleAck i rio =>
    obtain ⟨messageID, -, rfl⟩ := Option.map_eq_some_iff.mp hstep
    have herase := h.inFlight (fun _ hmsg => hmsg)
      (fun _ hack => List.mem_of_mem_eraseIdx (i := i) hack)
    split
    · exact herase
    · exact ⟨(PersistentBuffer.remove_keyFn ..).trans h.keyed,
        fun msg hmsg => h.buffered msg (PersistentBuffer.mem_remove hmsg), h.pumped, h.sent,
        herase.acked, h.server⟩
  | gatewayRestart io =>
    simp only [deliveryStep] at hstep
    split at hstep
    · next incoming hopen =>
      cases hstep
      refine ⟨PersistentBuffer.newKeyed_keyFn hopen, fun msg hmsg => h.buffered msg (.inr ?_),
        by simp, h.sent, h.acked, h.server⟩
      exact hmsg.elim (PersistentBuffer.mem_newKeyed hopen) id
    · cases hstep
  | disconnect => cases hstep; exact ⟨h.keyed, h.buffered, h.pumped, h.sent, h.acked, h.server⟩
  | reconnect => cases hstep; exact ⟨h.keyed, h.buffered, h.pumped, h.sent, h.acked, h.server⟩
  | loseMessage i =>
    cases hstep
    exact h.inFlight (fun _ hmsg => List.mem_of_mem_eraseIdx hmsg) fun _ hack => hack
  | duplicateMessage i =>
    obtain ⟨msg, hi, rfl⟩ := Option.map_eq_some_iff.mp hstep
    refine h.inFlight (fun m hm => ?_) fun _ hack => hack
    rcases List.mem_append.mp hm with hm | hm
    · exact hm
    · exact List.mem_singleton.mp hm ▸ List.mem_of_getElem? hi
  | loseAck i =>
    cases hstep
    exact h.inFlight (fun _ hmsg => hmsg) fun _ hack => List.mem_of_mem_eraseIdx hack
  | duplicateAck i =>
    obtain ⟨messageID, hi, rfl⟩ := Option.map_eq_some_iff.mp hstep
    refine h.inFlight (fun _ hmsg => hmsg) fun m hm => ?_
    rcases List.mem_append.mp hm with hm | hm
    · exact hm
    · exact List.mem_singleton.mp hm ▸ List.mem_of_getElem? hi
  | receive i reportedNumber =>
    obtain ⟨msg, hi, rfl⟩ := Option.map_eq_some_iff.mp hstep
    exact ⟨h.keyed, h.buffered, h.pumped, fun m hm => h.sent m (List.mem_of_mem_eraseIdx hm), h.acked,
      h.server.receive (h.sent msg (List.mem_of_getElem? hi))⟩
  | server i db label =>
    obtain ⟨handler, hi, rfl⟩ := Option.map_eq_some_iff.mp hstep
    obtain ⟨hserver, hrows⟩ := h.server.step hi db label
    refine ⟨h.keyed, h.buffered, h.pumped, h.sent, fun messageId hack => ?_, hserver⟩
    rcases List.mem_append.mp hack with hack | hack
    · exact (h.acked messageId hack).mono hrows
    · exact (h.server.acks (List.mem_of_getElem? hi) hack).mono hrows
  | serverRestart =>
    cases hstep
    refine ⟨h.keyed, h.buffered, h.pumped, h.sent, h.acked, by simp, by simp, fun messageId => ?_,
      fun messageId => ?_⟩
    · exact Nat.le_trans (Nat.add_le_add_left (Nat.zero_le _) _) (h.server.announced messageId)
    · exact Nat.le_trans (Nat.add_le_add_left (Nat.zero_le _) _) (h.server.notified messageId)

/-- Nothing is in flight at the start. -/
theorem Protocol.sound_start (messages : MessagesTable) (conversations : List Conversation)
    (notifications : List NotificationRow) :
    (Protocol.start messages conversations notifications).Sound :=
  ⟨rfl, by simp [start, fresh, File.items, File.allLines], by simp [start], by simp [start],
    by simp [start], by simp [start], by simp [start], fun _ => Nat.zero_le _,
    fun _ => Nat.zero_le _⟩

/-- **Delivery is exactly once in the store.** In every run, an item leaves the gateway's buffer
through an ack only when the server has a row with its ID; no two rows have one ID; and a message is
announced, and a notification created for it, at most once. -/
theorem delivery_exactly_once (X : Externals) (messages : MessagesTable)
    (conversations : List Conversation) (notifications : List NotificationRow)
    {es : List DeliveryEvent} {s : Protocol}
    (hrun : exec (deliveryStep X) (.start messages conversations notifications) es = some s) :
    (∀ i rio s', deliveryStep X s (.handleAck i rio) = some s' → ∀ msg : IncomingSMS,
      s'.incoming.items.count msg < s.incoming.items.count msg →
        ∃ row ∈ s'.server.messages.rows, row.providerMessageId = some msg.messageID) ∧
    (∀ messageId, s.server.messages.count messageId ≤ 1) ∧
    ∀ messageId, s.server.newMessages messageId ≤ 1 ∧ s.server.notified messageId ≤ 1 := by
  have hsound : s.Sound := exec_invariant (fun s e s' h hstep => h.step hstep)
    (Protocol.sound_start messages conversations notifications) hrun
  refine ⟨fun i rio s' hstep msg hleaves => ?_, fun messageId => s.server.messages.count_le_one _,
    fun messageId => ⟨?_, ?_⟩⟩
  · obtain ⟨messageID, hi, rfl⟩ := Option.map_eq_some_iff.mp hstep
    have hhas := MessagesTable.has_iff.mp (hsound.acked messageID (List.mem_of_getElem? hi))
    split at hleaves
    · exact absurd hleaves (Nat.lt_irrefl _)
    · next hne =>
      obtain ⟨keyOf, hkeyOf, hkey⟩ := PersistentBuffer.key_of_count_remove_lt hleaves
      rw [hsound.keyed] at hkeyOf
      cases hkeyOf
      rw [if_neg hne, hkey]
      exact hhas
  · exact Nat.le_trans (Nat.le_trans (Nat.le_add_right _ _) (hsound.server.announced messageId))
      (s.server.messages.count_le_one messageId)
  · exact Nat.le_trans (Nat.le_trans (Nat.le_add_right _ _) (hsound.server.notified messageId))
      (s.server.messages.count_le_one messageId)

/-- SHA-256 and the JSON length, at the one message below. -/
def oneMessage : Externals where
  sha256 text := if text = "single|+1|1704067200000000000|A" then [45, 183, 170, 238, 187, 11, 2, 109, 253, 54, 117, 117, 78, 140, 6, 77] else []
  marshalPart _ := .ok 99
  marshalSMS _ := .ok 130

/-- A message is sent and duplicated on the way, and both copies are looked for before either is
inserted. The first copy is handled to its end, the insertion of the second throws. -/
def redelivery : List DeliveryEvent :=
  [.reconnect, .persist ⟨"+1", "A", 1704067200000000000, none⟩ "+2" "A" .done .done, .flush,
    .sendOne true, .duplicateMessage 0, .receive 0 none, .receive 0 none, .server 0 .done none,
    .server 1 .done none] ++ List.replicate 12 (.server 0 .done none)

/-- The two copies leave one row, one announcement and one notification, and an ack. -/
theorem delivery_exactly_once_redelivery :
    ∃ s, exec (deliveryStep oneMessage) (.start ⟨[], List.nodup_nil⟩ [] []) redelivery = some s ∧
      s.acks = ["in-2db7aaeebb0b026dfd3675754e8c064d"] ∧ s.server.broadcasts.length = 2 ∧
      ∀ messageId, s.server.messages.count messageId ≤ 1 ∧ s.server.newMessages messageId ≤ 1 ∧
        s.server.notified messageId ≤ 1 := by
  obtain ⟨s, hrun, hacks, hbroadcasts⟩ : ∃ s,
      exec (deliveryStep oneMessage) (.start ⟨[], List.nodup_nil⟩ [] []) redelivery = some s ∧
      s.acks = ["in-2db7aaeebb0b026dfd3675754e8c064d"] ∧ s.server.broadcasts.length = 2 :=
    ⟨_, rfl, by decide, by decide⟩
  obtain ⟨-, hcount, honce⟩ := delivery_exactly_once oneMessage _ _ _ hrun
  exact ⟨s, hrun, hacks, hbroadcasts, fun messageId => ⟨hcount messageId, honce messageId⟩⟩

end Svarla.Delivery
