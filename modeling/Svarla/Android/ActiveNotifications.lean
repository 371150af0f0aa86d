import Svarla.Lib.Map
import Svarla.Lib.Run

/-!
# The notifications on Android

`NotificationHandler` remembers which Android notification it displays for a notification of the server, in
maps and in the table `active_notifications`, so that an update or a restart finds it again. The handlers
run on the main thread, one at a time; the writes to the table, the rehydration and the second pass of
`dismissConversationNotifications` are coroutines, which go on in any order.

The rows of the table are those of the map `table`, whose keys are their `serverId`. Left out are the texts
of a notification, its intents other than the one for its dismissal, and the notifications that are not of
the server's: `MissedCallNotifier` and the call services have ranges of their own. Beside the state of the
app there is what is displayed, and which notifications it was told, or has told the server, to be read.
-/

namespace Svarla.Android

open Svarla.Lib

inductive NotificationType
  | incomingCall
  | incomingSms
  | missedCall
  | blockedCall
  | newDeviceLogin
  | other (name : String)
  deriving DecidableEq, Repr

inductive NotificationChannel
  | calls
  | messages
  | missedCalls
  deriving DecidableEq, Repr

structure NotificationCreatedEvent where
  id : String
  notificationType : NotificationType
  /-- The handler does not read it. -/
  status : String
  sourceEntityId : String
  /-- The fields of its payload that matching reads. -/
  senderNumber : Option String
  callerNumber : Option String
  deriving DecidableEq, Repr

structure NotificationUpdatedEvent where
  id : String
  notificationType : Option NotificationType
  status : Option String
  deriving DecidableEq, Repr

/-- A row of `active_notifications`, but for its key. -/
structure ActiveNotification where
  androidId : Int
  type : NotificationType
  normalizedNumber : Option String
  createdAt : Nat
  deriving DecidableEq, Repr

/-- A write to the table that was launched. -/
inductive TableWrite
  | upsert (serverId : String) (record : ActiveNotification)
  | deleteByServerId (serverId : String)
  deriving DecidableEq, Repr

namespace TableWrite

def serverId : TableWrite → String
  | upsert serverId _ => serverId
  | deleteByServerId serverId => serverId

/-- The row after it. -/
def row : TableWrite → Option ActiveNotification
  | upsert _ record => some record
  | deleteByServerId _ => none

def run (table : Map String ActiveNotification) : TableWrite → Map String ActiveNotification
  | upsert serverId record => table.insert serverId record
  | deleteByServerId serverId => table.erase serverId

theorem lookup_run (w : TableWrite) (table : Map String ActiveNotification) (x : String) :
    (w.run table).lookup x = if x = w.serverId then w.row else table.lookup x := by
  cases w with
  | upsert y record => exact Map.lookup_insert table y x record
  | deleteByServerId y => exact Map.lookup_erase table y x

end TableWrite

/-- `getAll`. -/
def getAll (table : Map String ActiveNotification) : List (String × ActiveNotification) :=
  table.entries.map fun e => (e.1, e.2)

/-- What the system displays under an Android id. -/
structure Displayed where
  serverId : String
  channel : NotificationChannel
  /-- Whether its dismissal by the user reaches `NotificationDismissReceiver`. -/
  deleteIntent : Bool
  deriving DecidableEq, Repr

/-- Where the coroutine of `dismissConversationNotifications` is. -/
inductive ConversationJob
  | query (targetKey : String)
  | cancel (targetKey : String) (records : List (String × Int))
  | queryAll (targetKey : String)
  | cancelActive (persistedAndroidIds : List Int)
  deriving DecidableEq, Repr

/-- What `VoiceCallManager` and `MissedCallNotifier` say of calls. -/
structure CallHistory where
  wasCallDeclined : String → Bool
  wasRecentCallDeclinedFrom : String → Bool
  wasAlreadyNotified : String → Bool
  wasRecentlyNotifiedForCaller : String → Bool

structure NotificationHandler where
  serverNotificationIdMap : Map String Int
  serverNotificationTypeMap : Map String NotificationType
  serverNotificationPayloadCache : Map String NotificationCreatedEvent
  smsNotificationCounter : Int
  missedCallNotificationCounter : Int
  table : Map String ActiveNotification
  /-- The writes that were launched, in their order. -/
  writes : List TableWrite
  /-- What the rehydration of this process has read and not yet put into the maps. -/
  loading : Option (List (String × ActiveNotification))
  jobs : List ConversationJob
  shown : Map Int Displayed
  read : List String

inductive NotificationEvent
  /-- A notification from the WebSocket or from one of the fetches; the permission to post it; the time. -/
  | created (event : NotificationCreatedEvent) (granted : Bool) (now : Nat)
  | updated (event : NotificationUpdatedEvent) (calls : CallHistory) (granted : Bool)
  /-- The `i`-th write runs, or fails. -/
  | settle (i : Nat) (ok : Bool)
  /-- The process ends and another one starts. -/
  | restart
  /-- `rehydrateActiveNotifications` deletes the rows older than `cutoff` and reads the others; it puts the
  next of them into the maps. -/
  | rehydrate (cutoff : Nat)
  | rehydrateNext
  /-- The user swipes the notification away, or taps on it. -/
  | swipe (androidId : Int)
  | tap (androidId : Int)
  | dismissCallNotification (callId : String)
  | dismissAllMissedCallNotifications
  | dismissConversationNotifications (phoneNumber : String)
  /-- The `i`-th coroutine of it goes on; its query may fail. -/
  | conversationJob (i : Nat) (ok : Bool)
  | dismissMissedCallNotifications
  | cancelAll

def SMS_NOTIFICATION_ID_BASE : Int := 2000
def MISSED_CALL_NOTIFICATION_ID_BASE : Int := 3000

/-- `++counter`, of 32 bits. -/
def bump (counter : Int) : Int :=
  if counter = 2147483647 then -2147483648 else counter + 1

namespace NotificationHandler

/-- The app before its first notification. -/
def init : NotificationHandler where
  serverNotificationIdMap := ∅
  serverNotificationTypeMap := ∅
  serverNotificationPayloadCache := ∅
  smsNotificationCounter := 0
  missedCallNotificationCounter := 0
  table := ∅
  writes := []
  loading := none
  jobs := []
  shown := ∅
  read := []

/-- `notificationManager.notify`, which throws without the permission. -/
def notify (s : NotificationHandler) (granted : Bool) (androidId : Int) (d : Displayed) :
    NotificationHandler :=
  if granted then { s with shown := s.shown.insert androidId d } else s

/-- `notificationManager.cancel`. -/
def cancel (s : NotificationHandler) (androidId : Int) : NotificationHandler :=
  { s with shown := s.shown.erase androidId }

def markRead (s : NotificationHandler) (serverId : String) : NotificationHandler :=
  { s with read := serverId :: s.read }

/-- `showNotification`. -/
def showNotification (s : NotificationHandler) (granted : Bool) (androidId : Int) (d : Displayed) :
    NotificationHandler :=
  { s with serverNotificationIdMap := s.serverNotificationIdMap.insert d.serverId androidId }.notify
    granted androidId d

/-- `trackServerNotification`, with the number by its match key. -/
def trackServerNotification (matchKey : String → String) (s : NotificationHandler) (androidId : Int)
    (type : NotificationType) (event : NotificationCreatedEvent) (now : Nat) : NotificationHandler :=
  { s with
    serverNotificationIdMap := s.serverNotificationIdMap.insert event.id androidId
    serverNotificationTypeMap := s.serverNotificationTypeMap.insert event.id type
    serverNotificationPayloadCache := s.serverNotificationPayloadCache.insert event.id event
    writes := s.writes ++ [.upsert event.id
      { androidId := androidId
        type := type
        normalizedNumber := (event.senderNumber.orElse fun _ => event.callerNumber).map matchKey
        createdAt := now }] }

/-- `untrackServerNotification`. -/
def untrackServerNotification (s : NotificationHandler) (serverId : String) : NotificationHandler :=
  { s with
    serverNotificationIdMap := s.serverNotificationIdMap.erase serverId
    serverNotificationTypeMap := s.serverNotificationTypeMap.erase serverId
    serverNotificationPayloadCache := s.serverNotificationPayloadCache.erase serverId
    writes := s.writes ++ [.deleteByServerId serverId] }

def nextSmsId (s : NotificationHandler) : Int :=
  SMS_NOTIFICATION_ID_BASE + (bump s.smsNotificationCounter).tmod 500

def nextMissedCallId (s : NotificationHandler) : Int :=
  MISSED_CALL_NOTIFICATION_ID_BASE + (bump s.missedCallNotificationCounter).tmod 500

variable (matchKey : String → String)

/-- `handleNotificationCreated`. The notification of an incoming call is that of the call service, and a
login on a new device has a notifier of its own. -/
def handleNotificationCreated (s : NotificationHandler) (event : NotificationCreatedEvent)
    (granted : Bool) (now : Nat) : NotificationHandler :=
  match event.notificationType with
  | .incomingSms =>
    if (s.serverNotificationIdMap.lookup event.id).isSome then s
    else
      ({ s with smsNotificationCounter := bump s.smsNotificationCounter }.showNotification granted
        s.nextSmsId ⟨event.id, .messages, true⟩).trackServerNotification matchKey s.nextSmsId
        .incomingSms event now
  | .missedCall =>
    ({ s with missedCallNotificationCounter := bump s.missedCallNotificationCounter }.showNotification
      granted s.nextMissedCallId ⟨event.id, .missedCalls, true⟩).trackServerNotification matchKey
      s.nextMissedCallId .missedCall event now
  | .blockedCall =>
    ({ s with missedCallNotificationCounter := bump s.missedCallNotificationCounter }.showNotification
      granted s.nextMissedCallId ⟨event.id, .missedCalls, true⟩).trackServerNotification matchKey
      s.nextMissedCallId .blockedCall event now
  | _ => s

/-- Whether a change to `missed_call` is suppressed: the call was declined, or its notification was posted
when it ended. -/
def suppressed (s : NotificationHandler) (serverId : String) (calls : CallHistory) : Bool :=
  let cachedPayload := s.serverNotificationPayloadCache.lookup serverId
  let callId := cachedPayload.map (·.sourceEntityId)
  let fromNumber := cachedPayload.bind (·.callerNumber)
  callId.any calls.wasCallDeclined || fromNumber.any calls.wasRecentCallDeclinedFrom ||
    (callId.any calls.wasAlreadyNotified || fromNumber.any calls.wasRecentlyNotifiedForCaller)

/-- The channel of `updateNotificationForTypeChange`. -/
def channelOf : NotificationType → NotificationChannel
  | .incomingSms => .messages
  | .incomingCall => .calls
  | _ => .missedCalls

/-- `handleNotificationUpdated`. -/
def handleNotificationUpdated (s : NotificationHandler) (event : NotificationUpdatedEvent)
    (calls : CallHistory) (granted : Bool) : NotificationHandler :=
  match s.serverNotificationIdMap.lookup event.id with
  | none => if event.status = some "read" then s.markRead event.id else s
  | some androidId =>
    if event.status = some "read" then
      ((s.cancel androidId).untrackServerNotification event.id).markRead event.id
    else
      match event.notificationType with
      | none => s
      | some newType =>
        if s.serverNotificationTypeMap.lookup event.id = some newType then s
        else if newType = .missedCall ∧ s.suppressed event.id calls = true then
          (s.cancel androidId).untrackServerNotification event.id
        else
          -- The notification is built anew, without the intent for its dismissal; no row is written.
          { s.notify granted androidId ⟨event.id, channelOf newType, false⟩ with
            serverNotificationTypeMap := s.serverNotificationTypeMap.insert event.id newType }

/-- The loops over `serverNotificationIdMap` that cancel the notifications they take out of it. -/
def dismissWhere (s : NotificationHandler) (p : String → Int → Bool) : NotificationHandler :=
  { s with
    serverNotificationIdMap := s.serverNotificationIdMap.keep fun x a => !p x a
    shown := s.shown.keep fun a _ =>
      !(s.serverNotificationIdMap.keep p).entries.any fun e => e.2 == a }

/-- `entry.key.contains(callId) || entry.key.startsWith("call_")`. -/
def ofCall (callId key : String) : Bool :=
  key.toList.tails.any callId.toList.isPrefixOf || "call_".toList.isPrefixOf key.toList

def ofMissedCall (androidId : Int) : Bool :=
  MISSED_CALL_NOTIFICATION_ID_BASE ≤ androidId ∧ androidId ≤ MISSED_CALL_NOTIFICATION_ID_BASE + 500

/-- `cancelAndMarkRead`; the receiver queues the dismissal before it asks the server. -/
def cancelAndMarkRead (s : NotificationHandler) (serverId : String) (androidId : Int) :
    NotificationHandler :=
  ((s.cancel androidId).untrackServerNotification serverId).markRead serverId

/-- The notifications of a conversation that the first pass finds, by the cached payloads. -/
def toRemove (s : NotificationHandler) (targetKey : String) : List String :=
  (s.serverNotificationPayloadCache.keep fun x e =>
    s.serverNotificationTypeMap.lookup x == some .incomingSms &&
      e.senderNumber.any fun number => matchKey number == targetKey).entries.map (·.1)

/-- The first pass of `dismissConversationNotifications`. -/
def dismissTracked (s : NotificationHandler) : List String → NotificationHandler
  | [] => s
  | x :: xs =>
    match s.serverNotificationIdMap.lookup x with
    | none => dismissTracked s xs
    | some androidId => dismissTracked (s.cancelAndMarkRead x androidId) xs

/-- The coroutine of `dismissConversationNotifications` at `job` goes on: the state, and where it is
then. -/
def runJob (s : NotificationHandler) (ok : Bool) :
    ConversationJob → NotificationHandler × Option ConversationJob
  | .query targetKey =>
    (s, if ok then
      some (.cancel targetKey (((getAll s.table).filter fun e =>
        e.2.type == .incomingSms && e.2.normalizedNumber == some targetKey).map fun e =>
          (e.1, e.2.androidId)))
    else some (.queryAll targetKey))
  | .cancel targetKey ((x, androidId) :: records) =>
    (s.cancelAndMarkRead x androidId, some (.cancel targetKey records))
  | .cancel targetKey [] => (s, some (.queryAll targetKey))
  | .queryAll targetKey =>
    (s, if ok then
      some (.cancelActive (((getAll s.table).filter fun e =>
        e.2.normalizedNumber == some targetKey).map fun e => e.2.androidId))
    else none)
  | .cancelActive persistedAndroidIds =>
    ({ s with shown := s.shown.keep fun a d =>
        !(d.channel == .messages && persistedAndroidIds.contains a) }, none)

/-- One event. -/
def step (s : NotificationHandler) : NotificationEvent → Option NotificationHandler
  | .created event granted now =>
    let t := s.handleNotificationCreated matchKey event granted now
    some (if event.status = "read" then t.markRead event.id else t)
  | .updated event calls granted => some (s.handleNotificationUpdated event calls granted)
  | .settle i ok =>
    s.writes[i]?.map fun w =>
      { s with
        table := if ok then w.run s.table else s.table
        writes := s.writes.eraseIdx i }
  | .restart => some { init with table := s.table, shown := s.shown, read := s.read }
  | .rehydrate cutoff =>
    let table := s.table.keep fun _ r => decide (cutoff ≤ r.createdAt)
    some { s with table := table, loading := some (getAll table) }
  | .rehydrateNext =>
    match s.loading with
    | some ((x, r) :: rest) =>
      some { s with
        serverNotificationIdMap := s.serverNotificationIdMap.insert x r.androidId
        serverNotificationTypeMap := s.serverNotificationTypeMap.insert x r.type
        loading := some rest }
    | _ => none
  | .swipe androidId =>
    (s.shown.lookup androidId).map fun d =>
      if d.deleteIntent then (s.cancel androidId).markRead d.serverId else s.cancel androidId
  | .tap androidId => (s.shown.lookup androidId).map fun _ => s.cancel androidId
  | .dismissCallNotification callId => some (s.dismissWhere fun x _ => ofCall callId x)
  | .dismissAllMissedCallNotifications =>
    let s := s.dismissWhere fun _ a => ofMissedCall a
    some { s with shown := s.shown.keep fun _ d => d.channel != .missedCalls }
  | .dismissConversationNotifications phoneNumber =>
    let targetKey := matchKey phoneNumber
    let s := s.dismissTracked (s.toRemove matchKey targetKey)
    some { s with jobs := s.jobs ++ [.query targetKey] }
  | .conversationJob i ok =>
    s.jobs[i]?.map fun job =>
      match s.runJob ok job with
      | (s, some job) => { s with jobs := s.jobs.set i job }
      | (s, none) => { s with jobs := s.jobs.eraseIdx i }
  | .dismissMissedCallNotifications =>
    some (s.dismissWhere fun x _ => "missed_".toList.isPrefixOf x.toList)
  | .cancelAll => some { s with shown := ∅, serverNotificationIdMap := ∅ }

end NotificationHandler

end Svarla.Android
