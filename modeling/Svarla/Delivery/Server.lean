import Svarla.Lib.Threads
import Svarla.Lib.Utf16
import Mathlib.Data.List.Nodup

/-!
# Receiving a message on the server

What the server does with an `incoming_sms` event: the listener in `src/server.ts` over
`ConversationService.receiveMessage` and `NotificationService.createNotification`. Every `await` lets
other handlers in, so a handler is a thread whose stage is the database call it makes next, and a
step is one call with what follows it up to the next one. A call can fail, or take effect and fail
all the same, when the answer is lost.

The uniqueness the code relies on is the database's: the tables carry it, and an insertion that
would break it throws. The wake signals that follow a `notification_created` event are left out.
-/

namespace Svarla.Delivery

open Svarla.Lib

/-! ## The tables -/

inductive Direction
  | sent
  | received
  deriving DecidableEq, Repr

inductive MessageStatus
  | pending
  | sent
  | delivered
  | failed
  | queued
  deriving DecidableEq, Repr

/-- A row of `messages`. -/
structure MessageRow where
  providerMessageId : Option String
  conversationNumber : String
  providerNumber : String
  body : String
  direction : Direction
  status : MessageStatus
  timestamp : Int
  retryCount : Nat
  deriving DecidableEq, Repr

/-- The table `messages`: `provider_message_id` is unique where it is not null. -/
structure MessagesTable where
  rows : List MessageRow
  unique : (rows.filterMap MessageRow.providerMessageId).Nodup

/-- There is a row with the ID. -/
def MessagesTable.Has (messages : MessagesTable) (messageId : String) : Prop :=
  messageId ∈ messages.rows.filterMap MessageRow.providerMessageId

instance (messages : MessagesTable) (messageId : String) : Decidable (messages.Has messageId) :=
  inferInstanceAs (Decidable (_ ∈ _))

/-- `insertInto('messages')`, or a violation of the constraint. -/
def MessagesTable.insert (messages : MessagesTable) (row : MessageRow) : Option MessagesTable :=
  if h : ∃ messageId ∈ row.providerMessageId, messages.Has messageId then none
  else some
    { rows := messages.rows ++ [row]
      unique := by
        rw [List.filterMap_append, List.nodup_append]
        refine ⟨messages.unique, ?_, fun x hx y hy => ?_⟩
        · cases hid : row.providerMessageId <;> simp [hid]
        · rintro rfl
          exact h ⟨x, by simpa using hy, hx⟩ }

/-- A row of `conversations`. -/
structure Conversation where
  providerNumber : String
  phoneNumber : String
  lastMessagePreview : Option (List UInt16)
  lastMessageTimestamp : Option Int
  removed : Bool
  deriving DecidableEq, Repr

/-- The primary key of `conversations`. -/
def Conversation.key (c : Conversation) : String × String := (c.providerNumber, c.phoneNumber)

inductive NotificationType
  | incomingCall
  | missedCall
  | incomingSms
  | blockedCall
  | newDeviceLogin
  deriving DecidableEq, Repr

/-- `NotificationPayload`: the fields of an incoming message. -/
structure NotificationPayload where
  senderNumber : String
  providerNumber : String
  providerLabel : Option String
  contactName : Option String
  messagePreview : List UInt16
  timestamp : Int
  deriving DecidableEq, Repr

/-- `CreateNotificationInput`, and a row of `notifications`. -/
structure NotificationRow where
  type : NotificationType
  sourceEntityId : String
  sourceEntityType : String
  payload : NotificationPayload
  deriving DecidableEq, Repr

/-- What is broadcast to the clients. -/
inductive ServerEvent
  /-- `new_message`. -/
  | newMessage (conversationNumber providerNumber : String) (message : MessageRow)
  /-- `notification_created`. -/
  | notificationCreated (notification : NotificationRow)

/-! ## Handlers -/

/-- The event `incoming_sms`, as `ModemGatewayTelephonyProvider` emits it. -/
structure IncomingSmsEvent where
  messageId : String
  fromNumber : String
  toNumber : String
  body : String
  timestamp : Int

/-- How a database call ends. -/
inductive DbCall
  | done
  /-- It throws, and had no effect. -/
  | fails
  /-- It throws, and had its effect. -/
  | lost
  deriving DecidableEq

/-- The call a handler makes next. -/
inductive Stage
  /-- The select of `receiveMessage`. -/
  | dedup
  /-- The select of `upsertConversation`. -/
  | upsertSelect
  /-- The insertion or the update after it. -/
  | upsertWrite (existing : Option Conversation)
  /-- The insertion of the message. -/
  | insert
  /-- `updateConversationMetadata`. -/
  | metadata (message : MessageRow)
  /-- The broadcast, after which `receiveMessage` returns. -/
  | broadcast (message : MessageRow)
  /-- `receiveMessage` has returned, with null for a duplicate: the ack. -/
  | ack (message : Option MessageRow)
  /-- `getNumbers`. -/
  | numbers
  /-- The select of `createNotification`. -/
  | notificationSelect (providerLabel : Option String)
  /-- The insertion of the notification, and its broadcast. -/
  | notificationInsert (providerLabel : Option String)

/-- A handler of an event. -/
structure Handler where
  event : IncomingSmsEvent
  stage : Stage

/-- The server: its tables, what was broadcast, and the handlers at work. -/
structure Server where
  messages : MessagesTable
  conversations : List Conversation
  notifications : List NotificationRow
  broadcasts : List ServerEvent
  handlers : List Handler

/-- `truncate`, of the UTF-16 code units of a string. -/
def truncate (message : List UInt16) (maxLength : Nat) : List UInt16 :=
  if message.length ≤ maxLength then message else message.take (maxLength - 1) ++ [0x2026]

/-- `threadListPreview`. -/
def threadListPreview (message : String) : List UInt16 :=
  truncate (Utf16.encode message.toList) 50

/-- The row that `receiveMessage` inserts. -/
def IncomingSmsEvent.row (event : IncomingSmsEvent) : MessageRow where
  providerMessageId := if event.messageId = "" then none else some event.messageId
  conversationNumber := event.fromNumber
  providerNumber := event.toNumber
  body := event.body
  direction := .received
  status := .delivered
  timestamp := event.timestamp
  retryCount := 0

/-- The notification of an incoming message. -/
def IncomingSmsEvent.notification (event : IncomingSmsEvent) (providerLabel : Option String) :
    NotificationRow where
  type := .incomingSms
  sourceEntityId := event.messageId
  sourceEntityType := "messages"
  payload :=
    { senderNumber := event.fromNumber
      providerNumber := event.toNumber
      providerLabel
      contactName := none
      messagePreview := (Utf16.encode event.body.toList).take 160
      timestamp := event.timestamp }

/-- A notification of the type is there for the entity. -/
def Server.HasNotification (s : Server) (row : NotificationRow) : Prop :=
  ∃ n ∈ s.notifications, n.sourceEntityId = row.sourceEntityId ∧ n.type = row.type

instance (s : Server) (row : NotificationRow) : Decidable (s.HasNotification row) :=
  inferInstanceAs (Decidable (∃ n ∈ _, _))

/-- The next call of a handler: the server after it, and where the handler goes on, unless it threw
or is done. `label` is what `getNumbers` has for the number. -/
def Server.call (s : Server) (event : IncomingSmsEvent) (db : DbCall) (label : Option String) :
    Stage → Server × Option Stage
  | .dedup =>
    -- without an ID there is nothing to look for
    if event.messageId = "" then (s, some .upsertSelect)
    else if db ≠ .done then (s, none)
    else (s, some (if s.messages.Has event.messageId then .ack none else .upsertSelect))
  | .upsertSelect =>
    (s, if db = .done then
        some (.upsertWrite (s.conversations.find? (·.key == (event.toNumber, event.fromNumber))))
      else none)
  | .upsertWrite none =>
    -- the primary key
    if db = .fails ∨ ∃ c ∈ s.conversations, c.key = (event.toNumber, event.fromNumber) then (s, none)
    else
      ({ s with conversations :=
          s.conversations ++ [⟨event.toNumber, event.fromNumber, none, none, false⟩] },
        if db = .done then some .insert else none)
  | .upsertWrite (some existing) =>
    if existing.removed then
      if db = .fails then (s, none)
      else
        ({ s with conversations := s.conversations.map fun c =>
            if c.key = (event.toNumber, event.fromNumber) then { c with removed := false } else c },
          if db = .done then some .insert else none)
    else (s, some .insert)
  | .insert =>
    match if db = .fails then none else s.messages.insert event.row with
    | none => (s, none)
    | some messages =>
      ({ s with messages }, if db = .done then some (.metadata event.row) else none)
  | .metadata message =>
    if db = .fails then (s, none)
    else
      ({ s with conversations := s.conversations.map fun c =>
          if c.key = (event.toNumber, event.fromNumber) then
            { c with
              lastMessagePreview := some (threadListPreview event.body)
              lastMessageTimestamp := some event.timestamp }
          else c },
        if db = .done then some (.broadcast message) else none)
  | .broadcast message =>
    ({ s with broadcasts :=
        s.broadcasts ++ [.newMessage event.fromNumber event.toNumber message] },
      some (.ack (some message)))
  | .ack message => (s, message.map fun _ => .numbers)
  | .numbers => (s, if db = .done then some (.notificationSelect label) else none)
  | .notificationSelect label =>
    if db ≠ .done ∨ s.HasNotification (event.notification label) then (s, none)
    else (s, some (.notificationInsert label))
  | .notificationInsert label =>
    -- the unique index on entity and type
    if db = .fails ∨ s.HasNotification (event.notification label) then (s, none)
    else
      ({ s with
          notifications := s.notifications ++ [event.notification label]
          broadcasts := if db = .done then
            s.broadcasts ++ [.notificationCreated (event.notification label)] else s.broadcasts },
        none)

/-- A new handler, for an event. -/
def Server.receive (s : Server) (event : IncomingSmsEvent) : Server :=
  { s with handlers := s.handlers ++ [⟨event, .dedup⟩] }

/-- The next call of the `i`-th handler. -/
def Server.step (s : Server) (i : Nat) (h : Handler) (db : DbCall) (label : Option String) : Server :=
  let (s', stage) := s.call h.event db label h.stage
  { s' with handlers := advance s.handlers i (stage.map fun stage => { h with stage }) }

/-- The ack a handler sends with its next call, `ackIncomingSms`. -/
def Handler.acks (h : Handler) : List String :=
  match h.stage with
  | .ack _ => if h.event.messageId = "" then [] else [h.event.messageId]
  | _ => []

/-! ## What a call does -/

/-- The rows with an ID. -/
def MessagesTable.count (messages : MessagesTable) (messageId : String) : Nat :=
  messages.rows.countP (·.providerMessageId == some messageId)

/-- How often a message was announced to the clients as new. -/
def Server.newMessages (s : Server) (messageId : String) : Nat :=
  s.broadcasts.countP fun
    | .newMessage _ _ message => message.providerMessageId == some messageId
    | .notificationCreated _ => false

/-- How often a notification was created for an incoming message. -/
def Server.notified (s : Server) (messageId : String) : Nat :=
  s.broadcasts.countP fun
    | .newMessage _ _ _ => false
    | .notificationCreated n => n.type == .incomingSms && n.sourceEntityId == messageId

/-- The handler has inserted its message and not announced it. -/
def Handler.owesNewMessage (messageId : String) (h : Handler) : Nat :=
  match h.stage with
  | .metadata message | .broadcast message =>
    if message.providerMessageId = some messageId then 1 else 0
  | _ => 0

/-- The stage is after the insertion of the message, and before that of the notification. -/
def Stage.BeforeNotification : Stage → Prop
  | .metadata _ | .broadcast _ | .ack (some _) | .numbers | .notificationSelect _
  | .notificationInsert _ => True
  | _ => False

instance : DecidablePred Stage.BeforeNotification := fun stage => by
  unfold Stage.BeforeNotification
  split <;> infer_instance

/-- The handler has inserted its message and not created the notification. -/
def Handler.owesNotification (messageId : String) (h : Handler) : Nat :=
  if h.event.messageId = messageId ∧ h.stage.BeforeNotification then 1 else 0

/-- The message of the handler is in the table. -/
def Stage.Stored : Stage → Prop
  | .metadata _ | .broadcast _ | .ack _ => True
  | _ => False

theorem MessagesTable.has_iff {messages : MessagesTable} {messageId : String} :
    messages.Has messageId ↔ ∃ row ∈ messages.rows, row.providerMessageId = some messageId :=
  List.mem_filterMap

/-- **No two rows have one ID.** -/
theorem MessagesTable.count_le_one (messages : MessagesTable) (messageId : String) :
    messages.count messageId ≤ 1 := by
  rw [MessagesTable.count, ← List.count_filterMap]
  exact List.nodup_iff_count_le_one.mp messages.unique messageId

/-- An insertion adds its row. -/
theorem MessagesTable.insert_rows {messages messages' : MessagesTable} {row : MessageRow}
    (h : messages.insert row = some messages') : messages'.rows = messages.rows ++ [row] := by
  unfold MessagesTable.insert at h
  split at h
  · cases h
  · cases h
    rfl

/-- What a call does, seen from the message IDs: rows stay, a handler that goes on with its message
stored has it stored, and what is announced and still owed grows with the table only. -/
structure Called (s : Server) (event : IncomingSmsEvent) (stage : Stage)
    (next : Server × Option Stage) : Prop where
  handlers_eq : next.1.handlers = s.handlers
  rows_subset : ∀ row ∈ s.messages.rows, row ∈ next.1.messages.rows
  stored : ∀ stage', next.2 = some stage' → stage'.Stored → next.1.messages.Has event.messageId
  announced : ∀ messageId, next.1.newMessages messageId +
      next.2.elim 0 (fun stage' => Handler.owesNewMessage messageId ⟨event, stage'⟩) +
      s.messages.count messageId ≤
    s.newMessages messageId + Handler.owesNewMessage messageId ⟨event, stage⟩ +
      next.1.messages.count messageId
  notified : ∀ messageId, next.1.notified messageId +
      next.2.elim 0 (fun stage' => Handler.owesNotification messageId ⟨event, stage'⟩) +
      s.messages.count messageId ≤
    s.notified messageId + Handler.owesNotification messageId ⟨event, stage⟩ +
      next.1.messages.count messageId

/-- A call that touches neither the messages nor the broadcasts. -/
theorem Called.of_same {s s' : Server} {event : IncomingSmsEvent} {stage : Stage}
    {next : Option Stage} (hhandlers : s'.handlers = s.handlers)
    (hmessages : s'.messages = s.messages) (hbroadcasts : s'.broadcasts = s.broadcasts)
    (hstored : ∀ stage', next = some stage' → stage'.Stored → s.messages.Has event.messageId)
    (hannounced : ∀ messageId,
      next.elim 0 (fun stage' => Handler.owesNewMessage messageId ⟨event, stage'⟩) ≤
        Handler.owesNewMessage messageId ⟨event, stage⟩)
    (hnotified : ∀ stage', next = some stage' → stage'.BeforeNotification →
      stage.BeforeNotification) : Called s event stage (s', next) := by
  refine ⟨hhandlers, fun row hrow => hmessages ▸ hrow, fun stage' hnext hstage => ?_,
    fun messageId => ?_, fun messageId => ?_⟩
  · exact hmessages ▸ hstored stage' hnext hstage
  · have := hannounced messageId
    simp only [Server.newMessages, hmessages, hbroadcasts] at this ⊢
    omega
  · have : next.elim 0 (fun stage' => Handler.owesNotification messageId ⟨event, stage'⟩) ≤
        Handler.owesNotification messageId ⟨event, stage⟩ := by
      cases next with
      | none => exact Nat.zero_le _
      | some stage' =>
        simp only [Option.elim_some, Handler.owesNotification]
        split
        · next howes => rw [if_pos ⟨howes.1, hnotified stage' rfl howes.2⟩]
        · exact Nat.zero_le _
    simp only [Server.notified, hmessages, hbroadcasts] at this ⊢
    omega

/-- Such a call before the insertion of the message. -/
theorem Called.early {s s' : Server} {event : IncomingSmsEvent} {stage : Stage}
    {next : Option Stage} (hhandlers : s'.handlers = s.handlers)
    (hmessages : s'.messages = s.messages) (hbroadcasts : s'.broadcasts = s.broadcasts)
    (hnext : ∀ stage', next = some stage' → ¬ stage'.Stored ∧ ¬ stage'.BeforeNotification) :
    Called s event stage (s', next) := by
  refine .of_same hhandlers hmessages hbroadcasts
    (fun stage' hsome hstored => absurd hstored (hnext stage' hsome).1) (fun messageId => ?_)
    (fun stage' hsome hbefore => absurd hbefore (hnext stage' hsome).2)
  cases next with
  | none => exact Nat.zero_le _
  | some stage' =>
    obtain ⟨hstored, -⟩ := hnext stage' rfl
    simp only [Option.elim_some, Handler.owesNewMessage]
    split
    · exact absurd trivial hstored
    · exact absurd trivial hstored
    · exact Nat.zero_le _

/-- A call that throws and had no effect. -/
theorem Called.threw (s : Server) (event : IncomingSmsEvent) (stage : Stage) :
    Called s event stage (s, none) :=
  .early rfl rfl rfl (by simp)

/-- The insertion of a message pays for what follows. -/
theorem Server.called_insert (s : Server) {event : IncomingSmsEvent} (hnamed : event.messageId ≠ "")
    (db : DbCall) (label : Option String) :
    Called s event .insert (s.call event db label .insert) := by
  have hid : event.row.providerMessageId = some event.messageId := if_neg hnamed
  simp only [Server.call]
  split
  · exact .threw ..
  · next messages hinsert =>
    have hrows : messages.rows = s.messages.rows ++ [event.row] := by
      split at hinsert
      · cases hinsert
      · exact MessagesTable.insert_rows hinsert
    have hcount : ∀ messageId, messages.count messageId =
        s.messages.count messageId + if event.messageId = messageId then 1 else 0 := by
      intro messageId
      simp [MessagesTable.count, hrows, List.countP_append, hid]
    refine ⟨rfl, fun row hrow => ?_, fun stage' _ _ => ?_, fun messageId => ?_, fun messageId => ?_⟩
    · exact hrows ▸ List.mem_append_left _ hrow
    · exact MessagesTable.has_iff.mpr
        ⟨event.row, hrows ▸ List.mem_append_right _ (List.mem_singleton_self _), hid⟩
    · have hdebt : (if db = .done then some (Stage.metadata event.row) else none).elim 0
          (fun stage' => Handler.owesNewMessage messageId ⟨event, stage'⟩) ≤
            if event.messageId = messageId then 1 else 0 := by
        split
        · simp [Handler.owesNewMessage, hid]
        · exact Nat.zero_le _
      simp only [Server.newMessages, hcount] at hdebt ⊢
      omega
    · have hdebt : (if db = .done then some (Stage.metadata event.row) else none).elim 0
          (fun stage' => Handler.owesNotification messageId ⟨event, stage'⟩) ≤
            if event.messageId = messageId then 1 else 0 := by
        split
        · simp [Handler.owesNotification, Stage.BeforeNotification]
        · exact Nat.zero_le _
      simp only [Server.notified, hcount] at hdebt ⊢
      omega

/-- **Every call.** Of the calls only the insertion of a message pays for what follows, and only the
two broadcasts use it up. -/
theorem Server.called (s : Server) {event : IncomingSmsEvent} (hnamed : event.messageId ≠ "")
    (db : DbCall) (label : Option String) {stage : Stage}
    (hstage : stage.Stored → s.messages.Has event.messageId) :
    Called s event stage (s.call event db label stage) := by
  cases stage with
  | dedup =>
    simp only [Server.call, hnamed, if_false]
    split
    · exact .threw ..
    · split
      · next hhas =>
        exact .of_same rfl rfl rfl (fun _ _ _ => hhas) (fun _ => Nat.zero_le _)
          (by rintro _ ⟨⟩ h; exact h.elim)
      · exact .early rfl rfl rfl (by rintro _ ⟨⟩; exact ⟨id, id⟩)
  | upsertSelect =>
    refine .early rfl rfl rfl fun stage' hnext => ?_
    split at hnext <;> cases hnext
    exact ⟨id, id⟩
  | upsertWrite existing =>
    cases existing with
    | none =>
      simp only [Server.call]
      split
      · exact .threw ..
      · refine .early rfl rfl rfl fun stage' hnext => ?_
        split at hnext <;> cases hnext
        exact ⟨id, id⟩
    | some existing =>
      simp only [Server.call]
      split
      · split
        · exact .threw ..
        · refine .early rfl rfl rfl fun stage' hnext => ?_
          split at hnext <;> cases hnext
          exact ⟨id, id⟩
      · exact .early rfl rfl rfl (by rintro _ ⟨⟩; exact ⟨id, id⟩)
  | insert => exact s.called_insert hnamed db label
  | metadata message =>
    simp only [Server.call]
    split
    · exact .threw ..
    · refine .of_same rfl rfl rfl (fun _ _ _ => hstage trivial) (fun messageId => ?_)
        (fun _ _ _ => trivial)
      split
      · exact Nat.le_refl _
      · exact Nat.zero_le _
  | broadcast message =>
    refine ⟨rfl, fun _ hrow => hrow, fun _ _ _ => hstage trivial, fun messageId => ?_,
      fun messageId => ?_⟩
    · simp only [Server.call, Server.newMessages, List.countP_append, Handler.owesNewMessage]
      simp
    · simp only [Server.call, Server.notified, List.countP_append, Handler.owesNotification]
      simp [Stage.BeforeNotification]
  | ack message =>
    cases message with
    | none => exact .threw ..
    | some message =>
      exact .of_same rfl rfl rfl (by rintro _ ⟨⟩ h; exact h.elim) (fun _ => Nat.zero_le _)
        (fun _ _ _ => trivial)
  | numbers =>
    refine .of_same rfl rfl rfl (fun stage' hnext hstored => ?_) (fun _ => ?_) (fun _ _ _ => trivial)
    · split at hnext <;> cases hnext
      exact hstored.elim
    · split <;> exact Nat.zero_le _
  | notificationSelect providerLabel =>
    simp only [Server.call]
    split
    · exact .threw ..
    · exact .of_same rfl rfl rfl (by rintro _ ⟨⟩ h; exact h.elim) (fun _ => Nat.zero_le _)
        (fun _ _ _ => trivial)
  | notificationInsert providerLabel =>
    simp only [Server.call]
    split
    · exact .threw ..
    · refine ⟨rfl, fun _ hrow => hrow, by simp, fun messageId => ?_, fun messageId => ?_⟩
      · split
        · simp [Server.newMessages]
        · exact Nat.le_refl _
      · split
        · simp [Server.notified, Handler.owesNotification, Stage.BeforeNotification,
            IncomingSmsEvent.notification]
        · simp [Server.notified]

end Svarla.Delivery
