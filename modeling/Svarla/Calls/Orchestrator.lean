import Svarla.Lib.Map
import Svarla.Lib.Run
import Svarla.Lib.Threads

/-!
# The call orchestrator

`CallOrchestrator`: the active calls, the three indexes over them, and the flows of `initiateOutbound`,
`handleInbound` and `answerCall`, each at the `await` it has come to. Between two events a flow's call
object is the entry of `activeCalls`, or belongs to a call that has ended; an internal call ID is a
fresh UUID, so an entry that is gone never comes back, and a change to such an object is no change of
the state.

`endCall` has no `await`. `reconcileActiveSessions`, `endAllCalls` and the listeners for provider
events end a call through it; `dispose` belongs to the shutdown. The SIP URI, which is only passed on
between the media bridge and the provider, is left out.

Beside the source's own fields the state has what is to be told about a run: the identifiers drawn so
far, the notifications created, and the effects, in their order.
-/

namespace Svarla.Calls

open Svarla.Lib

/-! ## Calls and messages -/

inductive Direction
  | outbound
  | inbound
  deriving DecidableEq, Repr

/-- A provider's entry in the registry, with its instance. -/
structure Provider where
  /-- The registry's identifier. -/
  entryId : String
  /-- `providerId` of the instance. -/
  protocol : String
  /-- `type` is `dummy`. -/
  isEcho : Bool
  /-- `type` is `46elks`. -/
  is46elks : Bool
  usesWebSocketAudio : Bool
  deriving DecidableEq, Repr

/-- `ActiveCall`. -/
structure ActiveCall where
  callId : String
  sessionId : String
  providerCallId : String
  provider : Provider
  fromNumber : String
  toNumber : String
  direction : Direction
  answered : Bool
  answeredByDevice : Option String
  startedAt : Nat
  answeredAt : Option Nat
  ended : Bool
  audioWsUrl : Option String
  /-- When the timer fires. -/
  watchdogTimer : Nat
  deriving DecidableEq, Repr

/-- `UNANSWERED_WATCHDOG_MS`. -/
def unansweredWatchdog : Nat := 90000

/-- `MAX_CALL_DURATION_MS`. -/
def maxCallDuration : Nat := 4 * 60 * 60 * 1000

namespace ActiveCall

/-- `answerCall` marks the call as answered, and arms the watchdog. -/
def markAnswered (call : ActiveCall) (deviceId : String) (now : Nat) : ActiveCall :=
  { call with
    answered := true, answeredByDevice := some deviceId, answeredAt := some now
    watchdogTimer := now + maxCallDuration }

/-- `answerCall` has failed. -/
def unmarkAnswered (call : ActiveCall) : ActiveCall :=
  { call with answered := false, answeredByDevice := none, answeredAt := none }

/-- The audio of an outbound call is there. -/
def markConnected (call : ActiveCall) (now : Nat) : ActiveCall :=
  { call with answered := true, answeredAt := some now, watchdogTimer := now + maxCallDuration }

end ActiveCall

/-- The `status` of a `call_event`. -/
inductive CallStatus
  | ringing
  | connected
  | disconnected
  | completed
  | failed
  | busy
  | dtmf
  deriving DecidableEq, Repr

/-- The data of a `call_event`. -/
structure CallEvent where
  callId : String
  status : CallStatus
  direction : Option Direction
  fromNumber : Option String
  digit : Option String
  deriving DecidableEq, Repr

/-- The `reason` of a `call_cancelled`. -/
inductive CancelReason
  | answeredElsewhere
  | declined
  | callerDisconnect
  deriving DecidableEq, Repr

structure IceCandidate where
  candidate : String
  sdpMid : String
  sdpMLineIndex : Nat
  deriving DecidableEq, Repr

/-- A message to the devices. -/
inductive WsMessage
  | callEvent (data : CallEvent)
  | callCancelled (callId : String) (reason : CancelReason)
  | iceCandidate (callId : String) (candidate : IceCandidate)
  deriving DecidableEq, Repr

/-- `broadcast`, `broadcastExcept` and `broadcastToDevice`. -/
inductive Audience
  | all
  | except (deviceId : String)
  | device (deviceId : String)
  deriving DecidableEq, Repr

inductive AnswerResult
  | success
  | failed (errorReason : String)
  deriving DecidableEq, Repr

/-- The provider leg of a patched session. -/
inductive ProviderLeg
  | websocket (protocol expectedCallId : String)
  | sip
  deriving DecidableEq, Repr

/-- What the orchestrator does to the world. -/
inductive Effect
  | createSession (sessionId : String) (echo ringback : Bool)
  | updateSession (sessionId : String) (leg : ProviderLeg)
  | destroySession (sessionId : String) (delayed : Bool)
  | makeCall (fromNumber toNumber : String) (audioUrl : Option String)
  | providerAnswer (providerCallId deviceId : String) (audioUrl : Option String)
  | providerEnd (providerCallId : String)
  -- the call history
  | recordCall (id : Option String) (phoneNumber providerNumber callType providerCallId : String)
  | markAnswered (providerCallId deviceId : String)
  | updateCallType (providerCallId callType : String)
  | updateDuration (providerCallId : String) (seconds : Nat)
  | markOutboundUnanswered (providerCallId : String)
  -- the notifications
  | createNotification (callId callerNumber providerNumber : String) (providerLabel : Option String)
  | markCallResolved (callId : String)
  | transitionToMissed (callId : String)
  -- the devices
  | send (audience : Audience) (message : WsMessage)
  /-- A request's result; none is an error thrown. -/
  | outboundReturned (deviceId : String) (callId : Option String)
  | inboundReturned (callId : Option String)
  | answerReturned (callId deviceId : String) (result : AnswerResult)
  deriving DecidableEq, Repr

/-! ## Flows -/

/-- A flow at its `await`. -/
inductive Flow
  -- `initiateOutbound`
  | requireProvider (deviceId fromNumber toNumber : String)
  | createOutbound (provider : Provider) (callId deviceId fromNumber toNumber : String)
  | makeCall (provider : Provider) (callId : String) (audioWsUrl : Option String)
      (deviceId fromNumber toNumber : String)
  | patchOutbound (provider : Provider) (callId : String) (audioWsUrl : Option String)
      (providerCallId deviceId fromNumber toNumber : String)
  -- `handleInbound`
  | createInbound (provider : Provider) (callId providerCallId fromNumber toNumber : String)
  | getNumbers (callId fromNumber toNumber : String)
  | createNotification (callId : String)
  -- `answerCall`, with the call as it was found
  | patchAnswer (call : ActiveCall) (deviceId : String)
  | answer (call : ActiveCall) (deviceId : String)
  deriving DecidableEq, Repr

/-- What an `await` gives. -/
inductive Reply
  | fails
  /-- The provider of a number, and the UUID drawn next. -/
  | provider (provider : Provider) (callId : String)
  | session (audioWsUrl : Option String)
  | placed (providerCallId : String)
  /-- The label of the number called, if it is one of the server's. -/
  | label (label : Option String)
  | notified (id : Option String)
  | done
  deriving DecidableEq, Repr

structure Orchestrator where
  /-- The clock, in milliseconds. -/
  now : Nat
  activeCalls : Map String ActiveCall
  sessionToCall : Map String String
  providerCallToInternal : Map String String
  notificationToCall : Map String String
  flows : List Flow
  /-- The UUIDs drawn so far. -/
  issued : List String
  /-- The notifications created so far, each with its call. -/
  notified : List (String × String)
  effects : List Effect

namespace Orchestrator

/-- A new orchestrator. -/
def init : Orchestrator where
  now := 0
  activeCalls := ∅
  sessionToCall := ∅
  providerCallToInternal := ∅
  notificationToCall := ∅
  flows := []
  issued := []
  notified := []
  effects := []

def emit (s : Orchestrator) (effects : List Effect) : Orchestrator :=
  { s with effects := s.effects ++ effects }

def start (s : Orchestrator) (flow : Flow) : Orchestrator := { s with flows := s.flows ++ [flow] }

/-- What `randomUUID` can give; it never gives an empty string, which is not truthy. -/
def Fresh (s : Orchestrator) (id : String) : Prop := id ≠ "" ∧ id ∉ s.issued

instance (s : Orchestrator) (id : String) : Decidable (s.Fresh id) :=
  inferInstanceAs (Decidable (_ ∧ _))

def draw (s : Orchestrator) (id : String) : Orchestrator := { s with issued := id :: s.issued }

/-- `activeCalls.has`. -/
def isActive (s : Orchestrator) (callId : String) : Bool := (s.activeCalls.lookup callId).isSome

/-- `resolveToCallId`. -/
def resolveToCallId (s : Orchestrator) (id : String) : String :=
  if s.isActive id then id
  else
    match (s.notificationToCall.lookup id).filter s.isActive with
    | some callId => callId
    | none => (s.providerCallToInternal.lookup id).getD id

/-! ### Calls that begin -/

/-- `activeCalls.set`, `sessionToCall.set` and `armWatchdog`. -/
def track (s : Orchestrator) (call : ActiveCall) : Orchestrator :=
  { s with
    activeCalls := s.activeCalls.insert call.callId call
    sessionToCall := s.sessionToCall.insert call.sessionId call.callId }

/-- `initiateOutbound`, once the provider has placed the call. -/
def trackOutbound (s : Orchestrator) (provider : Provider) (callId : String)
    (audioWsUrl : Option String) (providerCallId deviceId fromNumber toNumber : String) :
    Orchestrator :=
  let s := s.track
    { callId, sessionId := callId, providerCallId, provider, fromNumber, toNumber
      direction := .outbound, answered := false, answeredByDevice := some deviceId
      startedAt := s.now, answeredAt := none, ended := false, audioWsUrl
      watchdogTimer := s.now + unansweredWatchdog }
  emit { s with providerCallToInternal := s.providerCallToInternal.insert providerCallId callId }
    [.recordCall none toNumber fromNumber "OUTGOING" providerCallId,
      .outboundReturned deviceId (some callId)]

/-- `handleInbound`, up to its first `await`; the provider is what the registry has. -/
def handleInbound (s : Orchestrator) (provider : Option Provider)
    (callId providerCallId fromNumber toNumber : String) : Orchestrator :=
  match provider with
  | none => s.emit [.inboundReturned none]
  | some provider =>
    let s := s.draw callId
    let s := { s with
      providerCallToInternal := s.providerCallToInternal.insert providerCallId callId }
    let s := s.emit
      [.createSession callId provider.isEcho (!provider.isEcho && !provider.usesWebSocketAudio)]
    s.start (.createInbound provider callId providerCallId fromNumber toNumber)

/-- `handleInbound`, once there is a session. -/
def trackInbound (s : Orchestrator) (provider : Provider)
    (callId providerCallId fromNumber toNumber : String) (audioWsUrl : Option String) :
    Orchestrator :=
  (s.track
    { callId, sessionId := callId, providerCallId, provider, fromNumber, toNumber
      direction := .inbound, answered := false, answeredByDevice := none
      startedAt := s.now, answeredAt := none, ended := false, audioWsUrl
      watchdogTimer := s.now + unansweredWatchdog }).emit
    [.recordCall (some callId) fromNumber toNumber "INCOMING" providerCallId]

/-- `handleInbound`, with the numbers: whether or not the call is still there. -/
def announceInbound (s : Orchestrator) (callId fromNumber toNumber : String)
    (label : Option String) : Orchestrator :=
  s.emit
    [.createNotification callId fromNumber toNumber label,
      .send .all (.callEvent ⟨callId, .ringing, some .inbound, some fromNumber, none⟩),
      .inboundReturned (some callId)]

/-- The notification is there. -/
def registerNotification (s : Orchestrator) (callId : String) (id : Option String) :
    Orchestrator :=
  match id with
  | none => s
  | some id =>
    let s := { s.draw id with notified := s.notified ++ [(id, callId)] }
    if s.isActive callId then
      { s with notificationToCall := s.notificationToCall.insert id callId }
    else s

/-! ### Answering -/

/-- `answerCall` asks the provider. -/
def providerAnswer (s : Orchestrator) (call : ActiveCall) (deviceId : String) : Orchestrator :=
  s.emit [.providerAnswer call.providerCallId deviceId
    (if call.provider.usesWebSocketAudio then call.audioWsUrl else none)]

/-- `answerCall` comes to its end. -/
def answerSucceeds (s : Orchestrator) (call : ActiveCall) (deviceId : String) : Orchestrator :=
  s.emit
    [.send (.except deviceId) (.callCancelled call.callId .answeredElsewhere),
      .markAnswered call.providerCallId deviceId, .markCallResolved call.callId,
      .answerReturned call.callId deviceId .success]

/-- `answerCall` takes the answer back. -/
def answerFails (s : Orchestrator) (call : ActiveCall) (deviceId errorReason : String) :
    Orchestrator :=
  emit { s with
    activeCalls := s.activeCalls.modify call.callId ActiveCall.unmarkAnswered }
    [.answerReturned call.callId deviceId (.failed errorReason)]

/-- `answerCall`, up to its first `await`. -/
def answerCall (s : Orchestrator) (requestedId deviceId : String) : Orchestrator :=
  let callId := s.resolveToCallId requestedId
  match s.activeCalls.lookup callId with
  | none => s.emit [.answerReturned callId deviceId (.failed "Call not found or already ended")]
  | some call =>
    if call.answered then
      s.emit [.answerReturned callId deviceId (.failed "Call already answered by another device")]
    else
      let s := { s with
        activeCalls := s.activeCalls.modify callId (·.markAnswered deviceId s.now) }
      match call.direction with
      | .outbound => s.answerSucceeds call deviceId
      | .inbound =>
        if call.provider.usesWebSocketAudio then
          (s.emit [.updateSession call.sessionId
            (.websocket call.provider.protocol call.providerCallId)]).start
              (.patchAnswer call deviceId)
        else (s.providerAnswer call deviceId).start (.answer call deviceId)

/-! ### The end of a call -/

/-- What `endCall` writes to the history and the notification. -/
def endRecord (call : ActiveCall) (now : Nat) (trigger : Option String) : List Effect :=
  let durationSeconds := call.answeredAt.map fun answeredAt => (now - answeredAt + 500) / 1000
  if call.direction = .inbound ∧ ¬ call.answered then
    if trigger = some "declined" then
      [.updateCallType call.providerCallId "DECLINED", .markCallResolved call.callId]
    else [.updateCallType call.providerCallId "MISSED", .transitionToMissed call.callId]
  else if 0 < durationSeconds.getD 0 then
    [.updateDuration call.providerCallId (durationSeconds.getD 0)]
  else if call.direction = .outbound ∧ ¬ call.answered then
    [.markOutboundUnanswered call.providerCallId]
  else []

/-- The tracking state of a call is cleaned up. -/
def untrack (s : Orchestrator) (call : ActiveCall) : Orchestrator :=
  { s with
    activeCalls := s.activeCalls.erase call.callId
    sessionToCall := s.sessionToCall.erase call.sessionId
    providerCallToInternal := s.providerCallToInternal.erase call.providerCallId
    notificationToCall := s.notificationToCall.eraseValue call.callId }

/-- `endCall`. -/
def endCall (s : Orchestrator) (requestedId : String) (trigger : Option String) : Orchestrator :=
  match s.activeCalls.lookup (s.resolveToCallId requestedId) with
  | none => s
  | some call =>
    if call.ended then s
    else
      (s.emit <|
        [.send .all (.callEvent ⟨call.callId, .disconnected, none, none, none⟩),
          .send .all (.callCancelled call.callId
            (if trigger = some "declined" then .declined else .callerDisconnect)),
          .destroySession call.sessionId (trigger = some "provider_disconnected"),
          .providerEnd call.providerCallId] ++ endRecord call s.now trigger).untrack call

/-! ### Media events -/

/-- `MediaBridgeSessionEvent`. -/
inductive MediaEvent
  | providerDisconnected
  | clientDisconnected
  | providerConnected
  | clientConnected
  | dtmf (digit : Option String)
  | iceCandidate (candidate : Option IceCandidate)
  deriving DecidableEq, Repr

/-- The audio of the provider is there. -/
def providerConnected (s : Orchestrator) (call : ActiveCall) : Orchestrator :=
  let s :=
    if !call.answered && call.direction = .outbound then
      { s with activeCalls := s.activeCalls.modify call.callId (·.markConnected s.now) }
    else s
  s.emit [.send .all (.callEvent ⟨call.callId, .connected, none, none, none⟩)]

/-- `handleMediaEvent`. -/
def handleMediaEvent (s : Orchestrator) (sessionId : String) (event : MediaEvent) :
    Orchestrator :=
  match (s.sessionToCall.lookup sessionId).bind s.activeCalls.lookup with
  | none => s
  | some call =>
    match event with
    | .providerDisconnected => s.endCall call.callId (some "provider_disconnected")
    | .clientDisconnected => s.endCall call.callId none
    | .providerConnected => s.providerConnected call
    | .clientConnected => s
    | .dtmf digit =>
      match digit.filter (· ≠ "") with
      | none => s
      | some digit =>
        s.emit [.send .all (.callEvent ⟨call.callId, .dtmf, none, none, some digit⟩)]
    | .iceCandidate candidate =>
      match candidate with
      | none => s
      | some candidate =>
        let audience := (call.answeredByDevice.filter (· ≠ "")).elim Audience.all Audience.device
        s.emit [.send audience (.iceCandidate call.callId candidate)]

/-! ### What is listed -/

/-- An entry of `getAllActiveCalls`. -/
structure ListedCall where
  callId : String
  fromNumber : String
  toNumber : String
  direction : Direction
  status : CallStatus
  providerNumber : String
  startedAt : Nat
  deriving DecidableEq, Repr

def listed (call : ActiveCall) : ListedCall where
  callId := call.callId
  fromNumber := if call.direction = .inbound then call.fromNumber else call.toNumber
  toNumber := if call.direction = .inbound then call.toNumber else call.fromNumber
  direction := call.direction
  status := if call.answered then .connected else .ringing
  providerNumber := if call.direction = .inbound then call.toNumber else call.fromNumber
  startedAt := call.startedAt

/-- `getAllActiveCalls`, in the order the calls were tracked in. -/
def getAllActiveCalls (s : Orchestrator) : List ListedCall :=
  (s.activeCalls.entries.reverse.filter fun e => !e.2.ended).map fun e => listed e.2

/-! ### Continuations -/

/-- What a flow does with the reply to its `await`, and the `await` it comes to next; none if it is no
reply to that. -/
def proceed (s : Orchestrator) : Flow → Reply → Option (Orchestrator × Option Flow)
  | .requireProvider deviceId _ _, .fails => some (s.emit [.outboundReturned deviceId none], none)
  | .requireProvider deviceId fromNumber toNumber, .provider provider callId =>
    if s.Fresh callId then
      some ((s.draw callId).emit [.createSession callId provider.isEcho
          (provider.isEcho || !provider.usesWebSocketAudio)],
        some (.createOutbound provider callId deviceId fromNumber toNumber))
    else none
  | .createOutbound _ _ deviceId _ _, .fails =>
    some (s.emit [.outboundReturned deviceId none], none)
  | .createOutbound provider callId deviceId fromNumber toNumber, .session audioWsUrl =>
    some (s.emit [.makeCall fromNumber toNumber
        (if provider.usesWebSocketAudio then audioWsUrl else none)],
      some (.makeCall provider callId audioWsUrl deviceId fromNumber toNumber))
  | .makeCall _ _ _ deviceId _ _, .fails => some (s.emit [.outboundReturned deviceId none], none)
  | .makeCall provider callId audioWsUrl deviceId fromNumber toNumber, .placed providerCallId =>
    if provider.isEcho then
      some (s.trackOutbound provider callId audioWsUrl providerCallId deviceId fromNumber toNumber,
        none)
    else
      some (s.emit [.updateSession callId
          (if provider.usesWebSocketAudio || provider.is46elks then
            .websocket provider.protocol providerCallId else .sip)],
        some (.patchOutbound provider callId audioWsUrl providerCallId deviceId fromNumber toNumber))
  -- a failure is only logged
  | .patchOutbound provider callId audioWsUrl providerCallId deviceId fromNumber toNumber, .done
  | .patchOutbound provider callId audioWsUrl providerCallId deviceId fromNumber toNumber, .fails =>
    some (s.trackOutbound provider callId audioWsUrl providerCallId deviceId fromNumber toNumber,
      none)
  | .createInbound _ _ providerCallId _ _, .fails =>
    some (emit { s with
      providerCallToInternal := s.providerCallToInternal.erase providerCallId }
      [.inboundReturned none], none)
  | .createInbound provider callId providerCallId fromNumber toNumber, .session audioWsUrl =>
    some (s.trackInbound provider callId providerCallId fromNumber toNumber audioWsUrl,
      some (.getNumbers callId fromNumber toNumber))
  | .getNumbers .., .fails => some (s.emit [.inboundReturned none], none)
  | .getNumbers callId fromNumber toNumber, .label label =>
    some (s.announceInbound callId fromNumber toNumber label, some (.createNotification callId))
  | .createNotification _, .fails => some (s, none)
  | .createNotification callId, .notified id =>
    if ∀ n ∈ id, s.Fresh n then some (s.registerNotification callId id, none) else none
  | .patchAnswer call deviceId, .fails =>
    some (s.answerFails call deviceId "Failed to prepare media session", none)
  | .patchAnswer call deviceId, .done =>
    some (s.providerAnswer call deviceId, some (.answer call deviceId))
  | .answer call deviceId, .fails =>
    some (s.answerFails call deviceId "Failed to answer call", none)
  | .answer call deviceId, .done => some (s.answerSucceeds call deviceId, none)
  | _, _ => none

end Orchestrator

open Orchestrator

/-! ## Events -/

inductive CallsEvent
  | tick (milliseconds : Nat)
  | initiateOutbound (deviceId fromNumber toNumber : String)
  | handleInbound (provider : Option Provider) (callId providerCallId fromNumber toNumber : String)
  | answerCall (requestedId deviceId : String)
  | endCall (requestedId : String) (trigger : Option String)
  | mediaEvent (sessionId : String) (event : MediaEvent)
  /-- The timer of `armWatchdog` fires. -/
  | watchdog (callId : String)
  | resume (i : Nat) (reply : Reply)
  deriving DecidableEq, Repr

/-- One event. -/
def callsStep (s : Orchestrator) : CallsEvent → Option Orchestrator
  | .tick milliseconds => some { s with now := s.now + milliseconds }
  | .initiateOutbound deviceId fromNumber toNumber =>
    some (s.start (.requireProvider deviceId fromNumber toNumber))
  | .handleInbound provider callId providerCallId fromNumber toNumber =>
    if s.Fresh callId then
      some (s.handleInbound provider callId providerCallId fromNumber toNumber)
    else none
  | .answerCall requestedId deviceId => some (s.answerCall requestedId deviceId)
  | .endCall requestedId trigger => some (s.endCall requestedId trigger)
  | .mediaEvent sessionId event => some (s.handleMediaEvent sessionId event)
  | .watchdog callId =>
    match s.activeCalls.lookup callId with
    | none => none
    | some call =>
      if call.watchdogTimer ≤ s.now then some (s.endCall callId (some "watchdog_timeout")) else none
  | .resume i reply =>
    match s.flows[i]? with
    | none => none
    | some flow =>
      (s.proceed flow reply).map fun r => { r.1 with flows := advance s.flows i r.2 }

end Svarla.Calls
