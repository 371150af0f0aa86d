import Svarla.Lib.Run
import Svarla.Lib.Threads
import Svarla.Numbers.Normalize

/-!
# The outbox on Android

`SmsManager` and `ConversationRepository.syncMessages`, over the table `messages`. A coroutine is at
the query or request it waits for, and those of several coroutines come in any order. An id is a number
of the app's own (a UUID) or one of the server's; both are drawn in turn. A request is accepted together
with its response, which is not lost, and the table of conversations is left out.

Beside the app's own state there is what was composed here, and what the server has accepted: of
which message, and under which id.
-/

namespace Svarla.Android

open Svarla.Lib

inductive MessageDirection
  | sent
  | received
  deriving DecidableEq, Repr

inductive MessageStatus
  | pending
  | sent
  | delivered
  | failed
  | queued
  deriving DecidableEq, Repr

/-- The id of a message. -/
inductive MessageId
  | own (number : Nat)
  | server (number : Nat)
  deriving DecidableEq, Repr

structure Message where
  id : MessageId
  providerMessageId : Option Nat
  conversationNumber : String
  providerNumber : Option String
  body : String
  direction : MessageDirection
  status : MessageStatus
  timestamp : Nat
  retryCount : Nat
  deriving DecidableEq, Repr

/-- `MAX_RETRY_COUNT`. -/
def maxRetryCount : Nat := 3

/-- `normalizeToE164`, of texts. -/
def normalizeToE164 (dest src : String) : String :=
  String.ofList (Numbers.Android.SmsManager.normalizeToE164 dest.toList src.toList)

/-! ## The table -/

/-- `insert`: it replaces the row with the id, and those with the id of the server. -/
def insertMessage (messages : List Message) (m : Message) : List Message :=
  m :: messages.filter fun row =>
    decide (row.id ≠ m.id) &&
      decide (m.providerMessageId = none ∨ row.providerMessageId ≠ m.providerMessageId)

def updateStatus (messages : List Message) (id : MessageId) (status : MessageStatus) : List Message :=
  messages.map fun row => if row.id = id then { row with status } else row

/-- `getIdsForThreadInRange`. -/
def getIdsForThreadInRange (messages : List Message) (number providerNumber : String)
    (minTimestamp maxTimestamp : Nat) : List MessageId :=
  (messages.filter fun row => row.conversationNumber = number ∧
    row.providerNumber.getD "" = providerNumber ∧ minTimestamp ≤ row.timestamp ∧
      row.timestamp ≤ maxTimestamp).map (·.id)

/-! ## Coroutines -/

inductive Sender
  /-- `sendMessage`, before `insert`. -/
  | insertNew (message : Message)
  /-- `sendSms`; the queue sender has more to send. -/
  | posting (message : Message) (rest : List Message) (queue : Bool)
  | storeSent (message : Message) (serverId : Nat) (rest : List Message) (queue : Bool)
  | storeFailed (id : MessageId) (rest : List Message) (queue : Bool)
  /-- `retryMessage`. -/
  | retryRead (id : MessageId)
  | retryMark (message : Message)
  | retryQueue (id : MessageId)
  /-- `sendQueuedMessages`. -/
  | readQueued
  /-- `syncMessages`. -/
  | fetch (providerNumber phoneNumber : String)
  | cache (message : Message) (rest synced : List Message) (providerNumber phoneNumber : String)
  | readRange (synced : List Message) (providerNumber phoneNumber : String)
  | deleteStale (id : MessageId) (rest : List MessageId)
  /-- `handleWebSocketEvent` of the manager, and `handleMessageStatusEvent` of the repository. -/
  | statusRead (serverId : Nat) (status : MessageStatus)
  | statusWrite (id : MessageId) (status : MessageStatus)
  deriving DecidableEq, Repr

inductive SmsReply
  | done
  | fails
  | accepted
  /-- The messages of a thread, as `toEntity` makes them. -/
  | messages (messages : List Message)
  deriving DecidableEq, Repr

structure Outbox where
  messages : List Message
  flows : List Sender
  connected : Bool
  now : Nat
  nextOwn : Nat
  nextServer : Nat
  /-- The messages composed here, once they are in the table. -/
  composed : List MessageId
  /-- What the server has accepted, with its own id. -/
  accepted : List (MessageId × Nat)
  deriving DecidableEq, Repr

inductive SmsEvent
  | sendMessage (providerNumber destination body : String)
  | retryMessage (id : MessageId)
  /-- The network is there, or not. -/
  | network (connected : Bool)
  /-- The collector of `isNetworkAvailable` goes on to `sendQueuedMessages`. -/
  | sendQueuedMessages
  | syncMessages (providerNumber phoneNumber : String)
  /-- A status, if it is one. -/
  | messageStatus (serverId : Nat) (status : Option MessageStatus)
  /-- Another message reaches the server. -/
  | arrive
  | run (i : Nat) (reply : SmsReply)
  | wait (milliseconds : Nat)
  /-- The process ends, and starts anew. -/
  | restart
  deriving DecidableEq, Repr

/-- A coroutine of `sendQueuedMessages`. -/
def Sender.isQueue : Sender → Bool
  | posting _ _ queue | storeSent _ _ _ queue | storeFailed _ _ queue => queue
  | readQueued => true
  | _ => false

namespace Outbox

def init : Outbox := ⟨[], [], true, 0, 0, 0, [], []⟩

/-- The message that was composed, for a row that may be the server's copy of it. -/
def originOf (s : Outbox) (id : MessageId) : MessageId :=
  ((s.accepted.find? fun a => .server a.2 = id).map (·.1)).getD id

/-- Whether an id is drawn by now. -/
def Drawn (s : Outbox) : MessageId → Prop
  | .own number => number < s.nextOwn
  | .server number => number < s.nextServer

instance (s : Outbox) (id : MessageId) : Decidable (s.Drawn id) := by
  cases id <;> exact inferInstanceAs (Decidable (_ < _))

/-- The next message of the queue. -/
def sendNext (queue : Bool) : List Message → Option Sender
  | [] => none
  | m :: rest => some (.posting m rest queue)

/-- The next message of a sync, or the clean-up of the thread. -/
def cacheNext (synced : List Message) (providerNumber phoneNumber : String) :
    List Message → Option Sender
  | m :: rest => some (.cache m rest synced providerNumber phoneNumber)
  | [] =>
    if providerNumber ≠ "" ∧ synced ≠ [] then some (.readRange synced providerNumber phoneNumber)
    else none

def deleteNext : List MessageId → Option Sender
  | [] => none
  | id :: rest => some (.deleteStale id rest)

/-- The rows that the clean-up of a thread deletes. -/
def staleIds (s : Outbox) (synced : List Message) (providerNumber phoneNumber : String) :
    List MessageId :=
  (getIdsForThreadInRange s.messages phoneNumber providerNumber
    ((synced.map (·.timestamp)).min?.getD 0) ((synced.map (·.timestamp)).max?.getD 0)).filter
      (· ∉ synced.map (·.id))

/-- A message of the server, for a thread. -/
def IsEntity (s : Outbox) (m : Message) : Prop :=
  ∃ number ∈ m.providerMessageId, m.id = .server number ∧ number < s.nextServer

instance (s : Outbox) (m : Message) : Decidable (s.IsEntity m) :=
  inferInstanceAs (Decidable (∃ number ∈ m.providerMessageId, _))

/-- A message without a provider's number gets that of the thread. -/
def backfill (providerNumber : String) (m : Message) : Message :=
  if providerNumber ≠ "" ∧ m.providerNumber.getD "" = "" then
    { m with providerNumber := some providerNumber }
  else m

/-- One operation of a coroutine, and where it goes on; none if it is no reply to that. -/
def proceed (s : Outbox) : Sender → SmsReply → Option (Outbox × Option Sender)
  | .insertNew m, .done =>
    some ({ s with messages := insertMessage s.messages m, composed := m.id :: s.composed },
      if m.status = .pending then some (.posting m [] false) else none)
  | .posting m rest queue, .accepted =>
    some ({ s with
        accepted := (s.originOf m.id, s.nextServer) :: s.accepted, nextServer := s.nextServer + 1 },
      some (.storeSent m s.nextServer rest queue))
  | .posting m rest queue, .fails => some (s, some (.storeFailed m.id rest queue))
  | .storeSent m serverId rest queue, .done =>
    some ({ s with messages :=
        insertMessage s.messages { m with providerMessageId := some serverId, status := .sent } },
      sendNext queue rest)
  | .storeFailed id rest queue, .done =>
    some ({ s with messages := updateStatus s.messages id .failed }, sendNext queue rest)
  | .retryRead id, .done =>
    match s.messages.find? (·.id = id) with
    | none => some (s, none)
    | some m =>
      if m.status ≠ .failed ∧ m.status ≠ .queued then some (s, none)
      else if maxRetryCount ≤ m.retryCount then some (s, none)
      else if ¬ s.connected then some (s, some (.retryQueue id))
      else some (s, some (.retryMark { m with status := .pending, retryCount := m.retryCount + 1 }))
  | .retryMark m, .done =>
    some ({ s with messages := insertMessage s.messages m }, some (.posting m [] false))
  | .retryQueue id, .done => some ({ s with messages := updateStatus s.messages id .queued }, none)
  | .readQueued, .done =>
    some (s, sendNext true ((s.messages.filter (·.status = .queued)).mergeSort
      fun m m' => m.timestamp ≤ m'.timestamp))
  | .fetch _ _, .fails => some (s, none)
  | .fetch providerNumber phoneNumber, .messages messages =>
    if ∀ m ∈ messages, s.IsEntity m then
      let synced := messages.map (backfill providerNumber)
      some (s, cacheNext synced providerNumber phoneNumber synced)
    else none
  | .cache m rest synced providerNumber phoneNumber, .done =>
    some ({ s with messages := insertMessage s.messages m },
      cacheNext synced providerNumber phoneNumber rest)
  | .readRange synced providerNumber phoneNumber, .done =>
    some (s, deleteNext (s.staleIds synced providerNumber phoneNumber))
  | .deleteStale id rest, .done =>
    some ({ s with messages := s.messages.filter (·.id ≠ id) }, deleteNext rest)
  | .statusRead serverId status, .done =>
    some (s, (s.messages.find? (·.providerMessageId = some serverId)).map fun m =>
      .statusWrite m.id status)
  | .statusWrite id status, .done =>
    some ({ s with messages := updateStatus s.messages id status }, none)
  | _, _ => none

def start (s : Outbox) (flow : Sender) : Outbox := { s with flows := s.flows ++ [flow] }

/-- One event. -/
def step (s : Outbox) : SmsEvent → Option Outbox
  | .sendMessage providerNumber destination body =>
    some ({ s with nextOwn := s.nextOwn + 1 }.start (.insertNew
      { id := .own s.nextOwn, providerMessageId := none
        conversationNumber := normalizeToE164 destination providerNumber
        providerNumber := some providerNumber, body, direction := .sent
        status := if s.connected then .pending else .queued
        timestamp := s.now, retryCount := 0 }))
  | .retryMessage id => if s.Drawn id then some (s.start (.retryRead id)) else none
  | .network connected => some { s with connected }
  | .sendQueuedMessages => if s.flows.any (·.isQueue) then none else some (s.start .readQueued)
  | .syncMessages providerNumber phoneNumber => some (s.start (.fetch providerNumber phoneNumber))
  | .messageStatus serverId status =>
    let s := s.start (.statusWrite (.server serverId) (status.getD .sent))
    match status with
    | some .sent => some (s.start (.statusRead serverId .sent))
    | some .delivered => some (s.start (.statusRead serverId .delivered))
    | some .failed => some (s.start (.statusRead serverId .failed))
    | _ => some s
  | .arrive => some { s with nextServer := s.nextServer + 1 }
  | .run i reply =>
    match s.flows[i]? with
    | none => none
    | some flow => (s.proceed flow reply).map fun r => { r.1 with flows := advance s.flows i r.2 }
  | .wait milliseconds => some { s with now := s.now + milliseconds }
  | .restart => some { s with flows := [] }

theorem step_run {s t : Outbox} {i : Nat} {reply : SmsReply} (h : s.step (.run i reply) = some t) :
    ∃ flow r, s.flows[i]? = some flow ∧ s.proceed flow reply = some r ∧
      t = { r.1 with flows := advance s.flows i r.2 } := by
  simp only [step] at h
  split at h
  · cases h
  · next flow hflow =>
    obtain ⟨r, hr, rfl⟩ := Option.map_eq_some_iff.mp h
    exact ⟨flow, r, hflow, hr, rfl⟩

end Outbox

end Svarla.Android
