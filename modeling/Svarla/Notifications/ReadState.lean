import Svarla.Lib.Utf16

/-!
# Threads that are read

The server stores a message that it receives, and creates a notification for it. When a thread is read,
`markThreadAsRead` is to mark the notifications of its messages as read.

A notification is created with the ID that the provider has given the message, and looked for with the
ID of the message's row, which is no text even; and it is looked for in all threads with the phone
number. So the notification of a message stays pending (`stays_pending`). That the notifications of the
thread are marked, and no others, is the same as that these are the ones that are found (`thread_read`).

The counts that are returned and sent are left out.
-/

namespace Svarla.Notifications

open Svarla.Lib

inductive NotificationType
  | incomingSms
  | incomingCall
  | missedCall
  | blockedCall
  | deviceLogin
  deriving DecidableEq, Repr

inductive NotificationStatus
  | pending
  | read
  deriving DecidableEq, Repr

inductive Direction
  | sent
  | received
  deriving DecidableEq, Repr

/-- A row of `messages`. -/
structure Message where
  /-- A UUID. -/
  id : String
  providerMessageId : Option String
  conversationNumber : String
  providerNumber : Option String
  body : String
  direction : Direction
  timestamp : Nat
  deriving DecidableEq, Repr

/-- The payload of a notification of a message. -/
structure Payload where
  senderNumber : String
  providerNumber : String
  messagePreview : String
  timestamp : Nat
  deriving DecidableEq, Repr

/-- A row of `notifications`. -/
structure Notification where
  id : String
  type : NotificationType
  status : NotificationStatus
  sourceEntityId : String
  payload : Option Payload
  updatedAt : Nat
  deriving DecidableEq, Repr

inductive Broadcast
  | notificationCreated (notification : Notification)
  | notificationUpdated (id : String) (type : NotificationType) (status : NotificationStatus)
      (updatedAt : Nat)
  | readStateUpdated (excludeDeviceId : Option String)
  deriving DecidableEq, Repr

/-- The tables, and what was sent to the devices. -/
structure Store where
  messages : List Message
  notifications : List Notification
  /-- The thread keys that were read, and when. -/
  readState : List (String × Nat)
  sent : List Broadcast
  deriving DecidableEq, Repr

/-- The `incoming_sms` event of a provider. -/
structure IncomingSms where
  messageId : String
  sender : String
  recipient : String
  body : String
  timestamp : Nat
  deriving DecidableEq, Repr

/-- A thread. -/
structure Thread where
  providerNumber : String
  phoneNumber : String
  deriving DecidableEq, Repr

namespace Store

def init : Store := ⟨[], [], [], []⟩

/-- `receiveMessage`: the row, unless the message is a duplicate. The row has an ID of its own. -/
def receiveMessage (s : Store) (sms : IncomingSms) (id : String) : Option Message :=
  if sms.messageId ≠ "" ∧ ∃ m ∈ s.messages, m.providerMessageId = some sms.messageId then none
  else some {
    id
    providerMessageId := if sms.messageId = "" then none else some sms.messageId
    conversationNumber := sms.sender
    providerNumber := some sms.recipient
    body := sms.body
    direction := .received
    timestamp := sms.timestamp }

/-- `createNotification`: nothing, where there is one of the same source and type. -/
def createNotification (s : Store) (id sourceEntityId : String) (type : NotificationType)
    (payload : Option Payload) (now : Nat) : Store :=
  if ∃ n ∈ s.notifications, n.sourceEntityId = sourceEntityId ∧ n.type = type then s
  else
    let notification := ⟨id, type, .pending, sourceEntityId, payload, now⟩
    { s with
      notifications := s.notifications ++ [notification]
      sent := s.sent ++ [.notificationCreated notification] }

/-- The first 160 code units of a text. -/
def preview (body : String) : String :=
  .ofList (Utf16.decode ((Utf16.encode body.toList).take 160))

/-- What the server does with an `incoming_sms` event. -/
def incomingSms (s : Store) (sms : IncomingSms) (messageRow notificationRow : String) (now : Nat) :
    Store :=
  match s.receiveMessage sms messageRow with
  | none => s
  | some message =>
    { s with messages := s.messages ++ [message] }.createNotification notificationRow sms.messageId
      .incomingSms (some ⟨sms.sender, sms.recipient, preview sms.body, sms.timestamp⟩) now

/-- What the subquery of `markConversationRead` finds. -/
def Selected (comparable : Bool) (s : Store) (conversationNumber : String) (n : Notification) : Prop :=
  comparable = true ∧
    ∃ m ∈ s.messages, m.id = n.sourceEntityId ∧ m.conversationNumber = conversationNumber

instance (comparable : Bool) (s : Store) (conversationNumber : String) (n : Notification) :
    Decidable (s.Selected comparable conversationNumber n) :=
  inferInstanceAs (Decidable (_ ∧ ∃ m ∈ s.messages, _))

/-- The update of `markConversationRead`, on one row. -/
def updated (comparable : Bool) (s : Store) (conversationNumber : String) (now : Nat)
    (n : Notification) : Option Notification :=
  if n.type = .incomingSms ∧ n.status = .pending ∧ s.Selected comparable conversationNumber n then
    some { n with status := .read, updatedAt := now }
  else none

/-- `markConversationRead`. `source_entity_id` is a text and `id` of a message a UUID, and the statement
fails on a database that does not compare them. -/
def markConversationRead (comparable : Bool) (s : Store) (conversationNumber : String) (now : Nat) :
    Option Store :=
  if comparable then
    let updated := s.updated comparable conversationNumber now
    some { s with
      notifications := s.notifications.map fun n => (updated n).getD n
      sent := s.sent ++ (s.notifications.filterMap updated).map fun n =>
        .notificationUpdated n.id n.type n.status n.updatedAt }
  else none

/-- `threadKey`. -/
def threadKey (thread : Thread) : String := thread.providerNumber ++ "|" ++ thread.phoneNumber

/-- The entry of a thread in `read_state`. -/
def upsert (readState : List (String × Nat)) (itemKey : String) (now : Nat) : List (String × Nat) :=
  if readState.any (·.1 = itemKey) then
    readState.map fun entry => if entry.1 = itemKey then (itemKey, now) else entry
  else readState ++ [(itemKey, now)]

def markThreadAsRead (comparable : Bool) (s : Store) (thread : Thread)
    (excludeDeviceId : Option String) (now : Nat) : Store :=
  let s := { s with readState := upsert s.readState (threadKey thread) now }
  -- a failure is not fatal
  let s := (s.markConversationRead comparable thread.phoneNumber now).getD s
  { s with sent := s.sent ++ [.readStateUpdated excludeDeviceId] }

/-! ## The notifications of a thread -/

/-- A notification belongs to a message of the thread. The empty number stands for none. -/
def Belongs (s : Store) (thread : Thread) (n : Notification) : Prop :=
  n.type = .incomingSms ∧ ∃ m ∈ s.messages, m.direction = .received ∧
    m.providerMessageId.getD "" = n.sourceEntityId ∧
    m.providerNumber.getD "" = thread.providerNumber ∧
    m.conversationNumber = thread.phoneNumber

instance (s : Store) (thread : Thread) (n : Notification) : Decidable (s.Belongs thread n) :=
  inferInstanceAs (Decidable (_ ∧ ∃ m ∈ s.messages, _))

/-- The notifications of the thread were cleared, and no others changed. -/
structure ThreadRead (s t : Store) (thread : Thread) : Prop where
  cleared : ∀ n ∈ t.notifications, s.Belongs thread n → n.status ≠ .pending
  kept : ∀ (i : Nat) (n : Notification), s.notifications[i]? = some n → ¬ s.Belongs thread n →
    t.notifications[i]? = some n

variable {comparable : Bool} {s : Store} {thread : Thread} {now : Nat}
  {excludeDeviceId : Option String}

/-- A row after the thread was read. -/
theorem getElem?_markThreadAsRead (i : Nat) :
    (s.markThreadAsRead comparable thread excludeDeviceId now).notifications[i]? =
      s.notifications[i]?.map fun n =>
        (s.updated comparable thread.phoneNumber now n).getD n := by
  unfold markThreadAsRead markConversationRead
  cases comparable with
  | true => exact List.getElem?_map
  | false =>
    have hnone : ∀ n, s.updated false thread.phoneNumber now n = none := fun n =>
      if_neg fun h => Bool.false_ne_true h.2.2.1
    simp [hnone]

/-- **A thread is read exactly if the notifications that are found are its own.** -/
theorem thread_read (comparable : Bool) (s : Store) (thread : Thread)
    (excludeDeviceId : Option String) (now : Nat) :
    ThreadRead s (s.markThreadAsRead comparable thread excludeDeviceId now) thread ↔
      ∀ n ∈ s.notifications, n.type = .incomingSms → n.status = .pending →
        (s.Selected comparable thread.phoneNumber n ↔ s.Belongs thread n) := by
  have hrow : ∀ i, (s.markThreadAsRead comparable thread excludeDeviceId now).notifications[i]? =
      s.notifications[i]?.map fun n => (s.updated comparable thread.phoneNumber now n).getD n :=
    getElem?_markThreadAsRead
  constructor
  · intro h n hn htype hstatus
    obtain ⟨i, hi⟩ := List.mem_iff_getElem?.mp hn
    have hn' := hrow i
    rw [hi, Option.map_some, updated] at hn'
    constructor
    · intro hselected
      by_contra hbelongs
      rw [if_pos ⟨htype, hstatus, hselected⟩, h.kept i n hi hbelongs] at hn'
      -- it was marked
      have hread := congrArg Notification.status (Option.some.inj hn')
      rw [hstatus] at hread
      cases hread
    · intro hbelongs
      by_contra hselected
      rw [if_neg fun hfound => hselected hfound.2.2] at hn'
      exact h.cleared n (List.mem_of_getElem? hn') hbelongs hstatus
  · intro h
    refine ⟨fun n' hn' hbelongs hstatus => ?_, fun i n hi hbelongs => ?_⟩
    · obtain ⟨i, hi⟩ := List.mem_iff_getElem?.mp hn'
      rw [hrow i] at hi
      obtain ⟨n, hn, rfl⟩ := Option.map_eq_some_iff.mp hi
      by_cases hfound : n.type = .incomingSms ∧ n.status = .pending ∧
          s.Selected comparable thread.phoneNumber n
      · rw [updated, if_pos hfound] at hstatus
        cases hstatus
      · rw [updated, if_neg hfound] at hstatus hbelongs
        exact hfound ⟨hbelongs.1, hstatus,
          (h n (List.mem_of_getElem? hn) hbelongs.1 hstatus).mpr hbelongs⟩
    · rw [hrow i, hi, Option.map_some, updated, if_neg]
      · rfl
      · rintro ⟨htype, hstatus, hselected⟩
        exact hbelongs ((h n (List.mem_of_getElem? hi) htype hstatus).mp hselected)

/-- A store with one message. -/
def oneMessage : Store :=
  init.incomingSms ⟨"sms-1", "+46700000001", "+46700000002", "hej", 10⟩
    "6f9619ff-8b86-d011-b42d-00c04fc964ff" "7a1d0f0e-2b1c-4c5d-9e6f-0a1b2c3d4e5f" 11

/-- **The notification of a message stays pending.** -/
theorem stays_pending : ¬ ∀ (comparable : Bool) (s : Store) (thread : Thread)
    (excludeDeviceId : Option String) (now : Nat),
      ThreadRead s (s.markThreadAsRead comparable thread excludeDeviceId now) thread := by
  intro h
  have hread := h true oneMessage ⟨"+46700000002", "+46700000001"⟩ none 12
  have hpending : ∃ n ∈ (oneMessage.markThreadAsRead true ⟨"+46700000002", "+46700000001"⟩ none
      12).notifications,
      oneMessage.Belongs ⟨"+46700000002", "+46700000001"⟩ n ∧ n.status = .pending := by
    decide +kernel
  obtain ⟨n, hn, hbelongs, hstatus⟩ := hpending
  exact hread.cleared n hn hbelongs hstatus

end Store

end Svarla.Notifications
