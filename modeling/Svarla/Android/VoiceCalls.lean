import Mathlib
import Svarla.Lib.Run
import Svarla.Numbers.Normalize

/-!
# The calls of the Android app

`VoiceCallManager` and its coroutines, each at the request it waits for. The timers are jobs; a job that is
cancelled is gone. Tones, the ringer, the audio routing, the notification of the service and the history of
calls are not part of the state.

The status follows the diagram of `CallStatus` except where a coroutine comes when its call is over, a call of
another device is taken over, or the app is told to forget a call that is not over (`follows_iff`).
-/

namespace Svarla.Android

open Svarla.Lib

inductive CallStatus
  | idle
  | dialing
  | ringing
  | connected
  | ended
  deriving DecidableEq, Repr

inductive CallEndReason
  | localHangup
  | remoteHangup
  | failed
  | unanswered
  | declined
  | answeredElsewhere
  | connectivityLost
  | timeout
  deriving DecidableEq, Repr

structure ActiveCallInfo where
  callId : String
  remoteNumber : String
  providerNumber : String
  providerNumberLabel : Option String := none
  providerNumberColor : Option String := none
  startTime : Int
  connectedTime : Option Int := none
  isInbound : Bool
  deriving DecidableEq, Repr

structure CallState where
  status : CallStatus := .idle
  activeCallInfo : Option ActiveCallInfo := none
  endReason : Option CallEndReason := none
  errorMessage : Option String := none
  deriving DecidableEq, Repr

/-- What the set-up of a WebRTC session waits for. -/
inductive SetUpStage
  | offer
  | answer
  | description
  deriving DecidableEq, Repr

inductive Coroutine
  /-- `initiateOutboundCall`, at `callsApi.makeCall`. -/
  | making
  | settingUp (stage : SetUpStage)
  /-- `answerCall` has kept the state it saw. -/
  | answering (currentState : CallState)
  | connecting (currentState : CallState) (stage : SetUpStage)
  /-- `resolveProviderNumberColor`. -/
  | resolving (callId providerNumber : String)
  | done
  deriving DecidableEq, Repr

/-- `fetchActiveCallsFromServer`, at `callsApi.getActiveCalls`. -/
inductive ActiveCallsFetch
  | adopting
  | reconciling (activeInfo : ActiveCallInfo)
  deriving DecidableEq, Repr

/-- A call in the reply of `getActiveCalls`. -/
structure ActiveCallDto where
  callId : String
  status : String
  caller : Option String
  providerNumber : Option String
  startedAt : Option Int
  deriving DecidableEq, Repr

structure MissedCallNotification where
  callId : String
  callerNumber : String
  providerNumberLabel : Option String
  timestamp : Int
  deriving DecidableEq, Repr

structure VoiceCallManager where
  callState : CallState
  /-- `timeoutJob` waits, and so on. -/
  timeoutJob : Bool
  inboundTimeoutJob : Bool
  networkMonitorJob : Bool
  mediaInactivityJob : Bool
  resetToIdleJob : Bool
  userActedOnInboundCall : Bool
  coroutines : List Coroutine
  fetch : Option ActiveCallsFetch
  /-- What `MissedCallNotifier` was told to show. -/
  missed : List MissedCallNotification
  deriving DecidableEq, Repr

inductive WebRtcState
  | failed (reason : String)
  | disconnected
  | connecting
  | connected
  deriving DecidableEq, Repr

/-- What a suspended coroutine gets. -/
inductive Outcome
  | throws (message : String)
  | made (callId : String)
  | answered (success : Bool) (errorReason : Option String)
  | done (now : Int)
  | color (color : Option String)
  deriving DecidableEq, Repr

inductive CallEvent
  | makeCall (src dest : String) (now : Int)
  | answerCall
  | declineCall
  | endCall
  | resetToIdle
  | incoming (callId fromNumber providerNumber : String) (providerNumberLabel : Option String) (now : Int)
  | incomingFromTelecom (callId callerNumber : String) (now : Int)
  | connected (callId : String) (now : Int)
  /-- `disconnected` is strict, `completed` is not. -/
  | ended (callId : String) (strict : Bool)
  | busy (callId : String)
  | failed (callId : String)
  | cancelled (callId : String) (reason : Option String)
  | webRtc (state : WebRtcState)
  | mediaReceiving (receiving : Bool)
  | networkAvailable (isConnected : Bool)
  | timeout
  | inboundTimeout
  | mediaInactivity (receiving : Bool)
  | resetDelay
  | syncConnected
  | activeCalls (calls : Option (List ActiveCallDto)) (now : Int)
  | resume (i : Nat) (outcome : Outcome)
  deriving DecidableEq, Repr

namespace CallTeardownDecider

def mapCancelReason (reason : Option String) : CallEndReason :=
  match reason with
  | some "answered_elsewhere" => .answeredElsewhere
  | some "declined" => .declined
  | some "caller_disconnect" => .remoteHangup
  | some "timeout" => .timeout
  | _ => .remoteHangup

def shouldEndOnNonMatchingCallId (status : CallStatus) (strict : Bool) : Bool :=
  match status with
  | .connected | .dialing => true
  | .ringing => !strict
  | .idle | .ended => false

end CallTeardownDecider

/-- `INBOUND_TIMEOUT_MS`. -/
def inboundTimeoutMs : Int := 45000

def isMissedCallReason (reason : CallEndReason) : Bool :=
  reason = .timeout || reason = .remoteHangup || reason = .unanswered

/-- The provider label, or else the number that was called. -/
def ActiveCallInfo.missed (callInfo : ActiveCallInfo) : MissedCallNotification :=
  ⟨callInfo.callId, callInfo.remoteNumber, (callInfo.providerNumberLabel.filter (· ≠ "")).or
    (some callInfo.providerNumber |>.filter (· ≠ "")), callInfo.startTime⟩

namespace VoiceCallManager

def init : VoiceCallManager := ⟨{}, false, false, false, false, false, false, [], none, []⟩

def status (m : VoiceCallManager) : CallStatus := m.callState.status

/-- There is a call. -/
def active (m : VoiceCallManager) : Prop := m.status ≠ .idle ∧ m.status ≠ .ended

instance (m : VoiceCallManager) : Decidable m.active := inferInstanceAs (Decidable (_ ∧ _))

/-- The call has an id, and it is not this one. -/
def otherCall (m : VoiceCallManager) (callId : String) : Bool :=
  m.callState.activeCallInfo.any fun info => info.callId ≠ "" && callId ≠ info.callId

def launch (m : VoiceCallManager) (c : Coroutine) : VoiceCallManager :=
  { m with coroutines := m.coroutines ++ [c] }

def setCoroutine (m : VoiceCallManager) (i : Nat) (c : Coroutine) : VoiceCallManager :=
  { m with coroutines := m.coroutines.set i c }

/-- What `endCallInternal` shows of a missed call. -/
def missedCall (m : VoiceCallManager) (reason : CallEndReason) : Option MissedCallNotification :=
  m.callState.activeCallInfo.bind fun callInfo =>
    if callInfo.isInbound && callInfo.connectedTime.isNone && !m.userActedOnInboundCall &&
        isMissedCallReason reason then
      some callInfo.missed
    else none

def endCallInternal (m : VoiceCallManager) (reason : CallEndReason) (errorMessage : Option String) :
    VoiceCallManager :=
  { m with
    callState := ⟨.ended, m.callState.activeCallInfo, some reason, errorMessage⟩
    timeoutJob := false
    inboundTimeoutJob := false
    networkMonitorJob := false
    mediaInactivityJob := false
    resetToIdleJob := true
    userActedOnInboundCall := false
    missed := m.missed ++ (m.missedCall reason).toList }

def makeCall (m : VoiceCallManager) (src dest : String) (now : Int) : VoiceCallManager :=
  if m.status ≠ .idle then m
  else
    let normalizedTo :=
      String.ofList (Numbers.Android.VoiceCallManager.normalizeToE164 dest.toList src.toList)
    let callInfo : ActiveCallInfo :=
      { callId := "", remoteNumber := normalizedTo, providerNumber := src, startTime := now,
        isInbound := false }
    { m with
      callState := { status := .dialing, activeCallInfo := some callInfo }
      networkMonitorJob := true
      timeoutJob := true }.launch .making

def answerCall (m : VoiceCallManager) : VoiceCallManager :=
  if m.status ≠ .ringing then m
  else { m with inboundTimeoutJob := false, userActedOnInboundCall := true }.launch (.answering m.callState)

def declineCall (m : VoiceCallManager) : VoiceCallManager :=
  if m.status ≠ .ringing then m
  else { m with inboundTimeoutJob := false, userActedOnInboundCall := true }.endCallInternal .declined none

def endCall (m : VoiceCallManager) : VoiceCallManager :=
  if m.active then m.endCallInternal .localHangup none else m

def resetToIdle (m : VoiceCallManager) : VoiceCallManager :=
  { m with resetToIdleJob := false, callState := {} }

def resolveProviderNumberColor (m : VoiceCallManager) (callId providerNumber : String) : VoiceCallManager :=
  if providerNumber = "" then m else m.launch (.resolving callId providerNumber)

/-- A call rings where there is none; a reset that was to come is cancelled. -/
def ring (m : VoiceCallManager) (callInfo : ActiveCallInfo) : VoiceCallManager :=
  { m with
    resetToIdleJob := if m.status = .ended then false else m.resetToIdleJob
    callState := { status := .ringing, activeCallInfo := some callInfo }
    inboundTimeoutJob := true }

/-- What a second report of a ringing call makes of it. -/
def enrich (info : ActiveCallInfo) (callId fromNumber providerNumber : String)
    (providerNumberLabel : Option String) : ActiveCallInfo :=
  let resolvedProviderNumber := if providerNumber = "" then info.providerNumber else providerNumber
  { info with
    callId := callId
    remoteNumber := if fromNumber = "" then info.remoteNumber else fromNumber
    providerNumber := resolvedProviderNumber
    providerNumberLabel := providerNumberLabel.or info.providerNumberLabel
    providerNumberColor :=
      if resolvedProviderNumber = info.providerNumber then info.providerNumberColor else none }

def handleIncomingCall (m : VoiceCallManager) (callId fromNumber providerNumber : String)
    (providerNumberLabel : Option String) (now : Int) : VoiceCallManager :=
  match m.status, m.callState.activeCallInfo with
  | .ringing, some info =>
    let updatedInfo := enrich info callId fromNumber providerNumber providerNumberLabel
    { m with callState := { m.callState with activeCallInfo := some updatedInfo } }.resolveProviderNumberColor
      callId updatedInfo.providerNumber
  | _, _ =>
    if m.active then m
    else
      m.ring { callId, remoteNumber := fromNumber, providerNumber, providerNumberLabel, startTime := now,
               isInbound := true } |>.resolveProviderNumberColor callId providerNumber

def handleIncomingCallFromTelecom (m : VoiceCallManager) (callId callerNumber : String) (now : Int) :
    VoiceCallManager :=
  if m.active then m
  else
    m.ring { callId, remoteNumber := callerNumber, providerNumber := "", startTime := now, isInbound := true }

def handleCallConnected (m : VoiceCallManager) (callId : String) (now : Int) : VoiceCallManager :=
  match m.status, m.callState.activeCallInfo with
  | .dialing, some info =>
    let updatedInfo :=
      { info with
        callId := if info.callId = "" then callId else info.callId
        connectedTime := some now }
    { m with
      timeoutJob := false
      inboundTimeoutJob := false
      callState := { status := .connected, activeCallInfo := some updatedInfo } }
  | _, _ => m

def handleCallEnded (m : VoiceCallManager) (callId : String) (strict : Bool) : VoiceCallManager :=
  if ¬ m.active then m
  else if m.otherCall callId && !CallTeardownDecider.shouldEndOnNonMatchingCallId m.status strict then m
  else m.endCallInternal .remoteHangup none

/-- The call ends if it is the one that is named; `handleCallBusy` and `handleCallFailed` do so. -/
def endNamed (m : VoiceCallManager) (callId : String) (reason : CallEndReason)
    (errorMessage : Option String) : VoiceCallManager :=
  if ¬ m.active then m
  else if m.otherCall callId then m
  else m.endCallInternal reason errorMessage

def handleCallBusy (m : VoiceCallManager) (callId : String) : VoiceCallManager :=
  m.endNamed callId .remoteHangup (some "User busy")

def handleCallFailed (m : VoiceCallManager) (callId : String) : VoiceCallManager :=
  m.endNamed callId .failed (some "Call connection failed")

def handleCallCancelled (m : VoiceCallManager) (callId : String) (reason : Option String) :
    VoiceCallManager :=
  m.endNamed callId (CallTeardownDecider.mapCancelReason reason) none

/-- `observeWebRtcConnectionState`. -/
def webRtcChanges (m : VoiceCallManager) (state : WebRtcState) : VoiceCallManager :=
  if ¬ m.active then m
  else
    match state with
    | .failed reason => m.endCallInternal .connectivityLost (some ("Call disconnected: " ++ reason))
    | .disconnected =>
      if m.status = .connected ∨ m.status = .dialing then
        m.endCallInternal .connectivityLost (some "WebRTC connection lost")
      else m
    | .connecting | .connected => m

/-- `observeMediaReceiving`. -/
def mediaChanges (m : VoiceCallManager) (receiving : Bool) : VoiceCallManager :=
  { m with mediaInactivityJob := !(receiving || decide (m.status ≠ .connected)) }

/-- `startNetworkMonitoring`, at the next value. -/
def networkChanges (m : VoiceCallManager) (isConnected : Bool) : VoiceCallManager :=
  if !isConnected && (m.status = .connected || m.status = .dialing) then
    m.endCallInternal .connectivityLost (some "Call disconnected due to connectivity loss")
  else m

/-- The delay of `startOutboundTimeout` is over. -/
def timeoutPasses (m : VoiceCallManager) : VoiceCallManager :=
  if m.status = .dialing then
    { m with timeoutJob := false }.endCallInternal .unanswered (some "Call not answered")
  else { m with timeoutJob := false }

/-- That of `startInboundTimeout`. -/
def inboundTimeoutPasses (m : VoiceCallManager) : VoiceCallManager :=
  if m.status = .ringing then
    { m with inboundTimeoutJob := false }.endCallInternal .timeout (some "Inbound call timed out")
  else { m with inboundTimeoutJob := false }

def mediaInactivityPasses (m : VoiceCallManager) (receiving : Bool) : VoiceCallManager :=
  if m.status = .connected && !receiving then
    { m with mediaInactivityJob := false }.endCallInternal .remoteHangup none
  else { m with mediaInactivityJob := false }

def resetDelayPasses (m : VoiceCallManager) : VoiceCallManager :=
  if m.status = .ended then { m with resetToIdleJob := false, callState := {} }
  else { m with resetToIdleJob := false }

/-- `fetchActiveCallsFromServer`, up to its request. -/
def fetchActiveCallsFromServer (m : VoiceCallManager) : VoiceCallManager :=
  match m.status with
  | .connected => { m with fetch := m.callState.activeCallInfo.map .reconciling }
  | .idle => { m with fetch := some .adopting }
  | .dialing | .ringing | .ended => m

/-- The server still lists the call. -/
def stillActive (activeInfo : ActiveCallInfo) (calls : List ActiveCallDto) : Bool :=
  calls.any fun call =>
    (call.status = "connected" || call.status = "ringing") &&
      (call.callId ≠ "" && call.callId = activeInfo.callId ||
        call.caller.any fun caller => caller ≠ "" && caller = activeInfo.remoteNumber)

/-- The first call of the reply with such a status. -/
def listed (calls : List ActiveCallDto) (status : String) : Option ActiveCallDto :=
  calls.find? (·.status = status)

/-- A call that another device has answered is taken over, or else a fresh one that rings. -/
def adopt (m : VoiceCallManager) (calls : List ActiveCallDto) (now : Int) : VoiceCallManager :=
  if m.status ≠ .idle then m
  else
    match listed calls "connected", listed calls "ringing" with
    | some call, _ =>
      let callInfo : ActiveCallInfo :=
        { callId := call.callId, remoteNumber := call.caller.getD "",
          providerNumber := call.providerNumber.getD "", startTime := call.startedAt.getD now,
          connectedTime := some (call.startedAt.getD now), isInbound := true }
      { m with callState := { status := .connected, activeCallInfo := some callInfo } }
    | none, some call =>
      if now - call.startedAt.getD now < inboundTimeoutMs then
        m.handleIncomingCall call.callId (call.caller.getD "") (call.providerNumber.getD "") none now
      else m
    | none, none => m

/-- The reply of `getActiveCalls`; a request that failed changes nothing. -/
def fetched (m : VoiceCallManager) (fetch : ActiveCallsFetch) (calls : Option (List ActiveCallDto))
    (now : Int) : VoiceCallManager :=
  match fetch, calls with
  | _, none => m
  | .adopting, some calls => m.adopt calls now
  | .reconciling activeInfo, some calls =>
    if stillActive activeInfo calls then m else m.endCallInternal .remoteHangup none

/-- The session is there, and `answerCall` sets the state it has kept. -/
def callAnswered (m : VoiceCallManager) (currentState : CallState) (now : Int) : VoiceCallManager :=
  { m with
    callState := { currentState with
      status := .connected
      activeCallInfo := currentState.activeCallInfo.map ({ · with connectedTime := some now }) }
    networkMonitorJob := true }

/-- The call that there is now gets the id that the server gave. -/
def identify (m : VoiceCallManager) (callId : String) : VoiceCallManager :=
  { m with
    callState := { m.callState with
      activeCallInfo := m.callState.activeCallInfo.map ({ · with callId := callId }) } }

/-- The colour is for the call and the number that it was looked up for. -/
def paint (m : VoiceCallManager) (callId providerNumber : String) (color : Option String) :
    VoiceCallManager :=
  let painted (info : ActiveCallInfo) : ActiveCallInfo :=
    if color.isSome ∧ info.callId = callId ∧ info.providerNumber = providerNumber then
      { info with providerNumberColor := color }
    else info
  { m with callState := { m.callState with activeCallInfo := m.callState.activeCallInfo.map painted } }

/-- The stage after this one, if there is one. -/
def nextStage : SetUpStage → Option SetUpStage
  | .offer => some .answer
  | .answer => some .description
  | .description => none

/-- The next segment of coroutine `i`. -/
def resume (m : VoiceCallManager) (i : Nat) (c : Coroutine) (outcome : Outcome) :
    Option VoiceCallManager :=
  match c, outcome with
  | .making, .made callId => some ((m.identify callId).setCoroutine i (.settingUp .offer))
  | .settingUp stage, .done _ =>
    some (m.setCoroutine i ((nextStage stage).elim .done .settingUp))
  | .making, .throws message | .settingUp _, .throws message =>
    some ((m.setCoroutine i .done).endCallInternal .failed (some ("Call setup failed: " ++ message)))
  | .answering currentState, .answered true _ => some (m.setCoroutine i (.connecting currentState .offer))
  | .answering _, .answered false errorReason =>
    some ((m.setCoroutine i .done).endCallInternal .failed (some (errorReason.getD "Failed to answer call")))
  | .connecting currentState stage, .done now =>
    match nextStage stage with
    | some stage => some (m.setCoroutine i (.connecting currentState stage))
    | none => some ((m.setCoroutine i .done).callAnswered currentState now)
  | .answering _, .throws message | .connecting _ _, .throws message =>
    some ((m.setCoroutine i .done).endCallInternal .failed (some ("Failed to answer: " ++ message)))
  | .resolving callId providerNumber, .color color =>
    some ((m.setCoroutine i .done).paint callId providerNumber color)
  | _, _ => none

def step (m : VoiceCallManager) : CallEvent → Option VoiceCallManager
  | .makeCall src dest now => some (m.makeCall src dest now)
  | .answerCall => some m.answerCall
  | .declineCall => some m.declineCall
  | .endCall => some m.endCall
  | .resetToIdle => some m.resetToIdle
  | .incoming callId fromNumber providerNumber providerNumberLabel now =>
    some (m.handleIncomingCall callId fromNumber providerNumber providerNumberLabel now)
  | .incomingFromTelecom callId callerNumber now =>
    some (m.handleIncomingCallFromTelecom callId callerNumber now)
  | .connected callId now => some (m.handleCallConnected callId now)
  | .ended callId strict => some (m.handleCallEnded callId strict)
  | .busy callId => some (m.handleCallBusy callId)
  | .failed callId => some (m.handleCallFailed callId)
  | .cancelled callId reason => some (m.handleCallCancelled callId reason)
  | .webRtc state => some (m.webRtcChanges state)
  | .mediaReceiving receiving => some (m.mediaChanges receiving)
  | .networkAvailable isConnected => if m.networkMonitorJob then some (m.networkChanges isConnected) else none
  | .timeout => if m.timeoutJob then some m.timeoutPasses else none
  | .inboundTimeout => if m.inboundTimeoutJob then some m.inboundTimeoutPasses else none
  | .mediaInactivity receiving =>
    if m.mediaInactivityJob then some (m.mediaInactivityPasses receiving) else none
  | .resetDelay => if m.resetToIdleJob then some m.resetDelayPasses else none
  | .syncConnected => if m.fetch.isNone then some m.fetchActiveCallsFromServer else none
  | .activeCalls calls now => m.fetch.map fun fetch => { m with fetch := none }.fetched fetch calls now
  | .resume i outcome => m.coroutines[i]?.bind fun c => m.resume i c outcome

/-! ## What a step does to the status -/

variable {s t m : VoiceCallManager} {e : CallEvent}

/-- The call of another device is taken over. -/
def TakesOver (m : VoiceCallManager) (e : CallEvent) : Prop :=
  match e, m.fetch with
  | .activeCalls (some calls) _, some .adopting =>
    m.status = .idle ∧ (listed calls "connected").isSome = true
  | _, _ => False

/-- The server does not list the call that was there when it was asked. -/
def Stale (m : VoiceCallManager) (e : CallEvent) : Prop :=
  match e, m.fetch with
  | .activeCalls (some calls) _, some (.reconciling activeInfo) => stillActive activeInfo calls = false
  | _, _ => False

/-- The coroutine of `answerCall` sets its state. -/
def Completes (m : VoiceCallManager) (e : CallEvent) : Prop :=
  match e with
  | .resume i (.done _) => ∃ currentState, m.coroutines[i]? = some (.connecting currentState .description)
  | _ => False

/-- The coroutine of a call ends it. -/
def failsBy (c : Coroutine) (outcome : Outcome) : Bool :=
  match c, outcome with
  | .making, .throws _ | .settingUp _, .throws _ => true
  | .answering _, .throws _ | .connecting _ _, .throws _ | .answering _, .answered false _ => true
  | _, _ => false

def Fails (m : VoiceCallManager) (e : CallEvent) : Prop :=
  match e with
  | .resume i outcome => ∃ c, m.coroutines[i]? = some c ∧ failsBy c outcome = true
  | _ => False

/-- The diagram of `CallStatus`, and the next call after one that has ended. -/
def follows (a b : CallStatus) : Bool :=
  match a, b with
  | .idle, .dialing | .idle, .ringing | .dialing, .connected | .dialing, .ended | .ringing, .connected
  | .ringing, .ended | .connected, .ended => true
  | .ended, .idle | .ended, .ringing => true
  | _, _ => false

/-- The call is forgotten, the call of another device is taken over, or a coroutine comes when its call is
over. -/
def Strays (m : VoiceCallManager) (e : CallEvent) : Prop :=
  e = .resetToIdle ∧ m.active ∨ m.TakesOver e ∨ m.status = .idle ∧ (m.Stale e ∨ m.Fails e) ∨
    ¬ m.active ∧ m.Completes e

/-- Why a call ends with such a reason. -/
def MayEnd (m : VoiceCallManager) (e : CallEvent) (reason : CallEndReason) : Prop :=
  m.active ∧ e ≠ .resetToIdle ∧ ¬ m.Completes e ∨ m.Fails e ∧ reason = .failed ∨
    m.Stale e ∧ reason = .remoteHangup

/-- What a step does, but for the jobs. -/
inductive Change (s : VoiceCallManager) (e : CallEvent) (t : VoiceCallManager) : Prop
  | keeps : t.status = s.status → t.missed = s.missed →
      (s.networkMonitorJob = true → t.networkMonitorJob = true) → ¬ s.Strays e → Change s e t
  | ends (u : VoiceCallManager) (reason : CallEndReason) (errorMessage : Option String) :
      t = u.endCallInternal reason errorMessage → u.callState = s.callState → u.missed = s.missed →
      u.userActedOnInboundCall = s.userActedOnInboundCall ∨ reason = .declined → s.MayEnd e reason →
      Change s e t
  | follows : t.missed = s.missed → follows s.status t.status = true → t.status ≠ .ended →
      (t.status = .connected → s.status = .dialing ∧
        (s.networkMonitorJob = true → t.networkMonitorJob = true)) →
      ¬ s.Strays e → Change s e t
  | answers : t.missed = s.missed → s.Completes e → t.status = .connected → t.networkMonitorJob = true →
      Change s e t
  | takesOver : t.missed = s.missed → s.TakesOver e → t.status = .connected → Change s e t
  | forgets : t.missed = s.missed → e = .resetToIdle → t.status = .idle → Change s e t

/-- Nothing that comes late is told by such an event. -/
def plain (e : CallEvent) : Bool :=
  match e with
  | .resetToIdle | .activeCalls _ _ | .resume _ _ => false
  | _ => true

theorem not_strays (h : plain e = true) : ¬ s.Strays e := by
  revert h
  cases e <;> simp [plain, Strays, TakesOver, Stale, Fails, Completes]

theorem mayEnd_of_active {reason : CallEndReason} (h : plain e = true) (hactive : s.active) :
    s.MayEnd e reason := by
  refine .inl ⟨hactive, ?_, ?_⟩ <;> revert h <;> cases e <;> simp [plain, Completes]

theorem Change.refl (h : ¬ s.Strays e) : Change s e s := .keeps rfl rfl id h

/-- Where a call ends as it is. -/
theorem Change.ended {reason : CallEndReason} {errorMessage : Option String} (h : s.MayEnd e reason) :
    Change s e (s.endCallInternal reason errorMessage) :=
  .ends s reason errorMessage rfl rfl rfl (.inl rfl) h

theorem change_makeCall {src dest : String} {now : Int} (h : ¬ s.Strays e) :
    Change s e (s.makeCall src dest now) := by
  rw [makeCall]
  split
  · exact .refl h
  · next hidle =>
    rw [not_not] at hidle
    refine .follows rfl ?_ ?_ ?_ h
    · rw [hidle]; rfl
    · exact CallStatus.noConfusion
    · exact CallStatus.noConfusion

theorem change_answerCall (h : ¬ s.Strays e) : Change s e s.answerCall := by
  rw [answerCall]
  split
  · exact .refl h
  · exact .keeps rfl rfl id h

theorem change_declineCall (h : plain e = true) : Change s e s.declineCall := by
  rw [declineCall]
  split
  · exact .refl (not_strays h)
  · next hringing =>
    rw [not_not] at hringing
    refine .ends _ .declined none rfl rfl rfl (.inr rfl) (mayEnd_of_active h ?_)
    simp [active, hringing]

theorem change_endCall (h : plain e = true) : Change s e s.endCall := by
  rw [endCall]
  split
  · next hactive => exact .ended (mayEnd_of_active h hactive)
  · exact .refl (not_strays h)

theorem change_resolve {u : VoiceCallManager} {callId providerNumber : String} (h : Change s e u)
    (hends : u.status ≠ .ended) : Change s e (u.resolveProviderNumberColor callId providerNumber) := by
  rw [resolveProviderNumberColor]
  split
  · exact h
  · cases h with
    | keeps hstatus hmissed hmonitor hnot => exact .keeps hstatus hmissed hmonitor hnot
    | ends v reason errorMessage hu => exact absurd (by rw [hu]; rfl) hends
    | follows hmissed hfollows hended hmonitor hnot => exact .follows hmissed hfollows hended hmonitor hnot
    | answers hmissed hcompletes hconnected hmonitor => exact .answers hmissed hcompletes hconnected hmonitor
    | takesOver hmissed htakes hconnected => exact .takesOver hmissed htakes hconnected
    | forgets hmissed hforgets hidle => exact .forgets hmissed hforgets hidle

theorem change_ring {callInfo : ActiveCallInfo} (h : ¬ s.Strays e) (hactive : ¬ s.active) :
    Change s e (s.ring callInfo) := by
  have hstatus : s.status = .idle ∨ s.status = .ended := by
    rw [active, not_and_or, not_not, not_not] at hactive
    exact hactive
  refine .follows rfl ?_ CallStatus.noConfusion CallStatus.noConfusion h
  rcases hstatus with hstatus | hstatus <;> rw [hstatus] <;> rfl

theorem change_handleIncomingCall {callId fromNumber providerNumber : String}
    {providerNumberLabel : Option String} {now : Int} (h : ¬ s.Strays e) :
    Change s e (s.handleIncomingCall callId fromNumber providerNumber providerNumberLabel now) := by
  rw [handleIncomingCall]
  split
  · next hringing _ =>
    refine change_resolve (.keeps rfl rfl id h) ?_
    change s.status ≠ .ended
    rw [hringing]
    exact CallStatus.noConfusion
  · split
    · exact .refl h
    · next hactive => exact change_resolve (change_ring h hactive) CallStatus.noConfusion

theorem handleIncomingCall_of_idle {callId fromNumber providerNumber : String}
    {providerNumberLabel : Option String} {now : Int} (h : m.status = .idle) :
    m.handleIncomingCall callId fromNumber providerNumber providerNumberLabel now =
      (m.ring { callId, remoteNumber := fromNumber, providerNumber, providerNumberLabel, startTime := now,
                isInbound := true }).resolveProviderNumberColor callId providerNumber := by
  simp [handleIncomingCall, h, active]

theorem change_handleIncomingCallFromTelecom {callId callerNumber : String} {now : Int}
    (h : ¬ s.Strays e) : Change s e (s.handleIncomingCallFromTelecom callId callerNumber now) := by
  rw [handleIncomingCallFromTelecom]
  split
  · exact .refl h
  · next hactive => exact change_ring h hactive

theorem change_handleCallConnected {callId : String} {now : Int} (h : ¬ s.Strays e) :
    Change s e (s.handleCallConnected callId now) := by
  rw [handleCallConnected]
  split
  · next hdialing _ =>
    exact .follows rfl (by rw [hdialing]; rfl) CallStatus.noConfusion (fun _ => ⟨hdialing, id⟩) h
  · exact .refl h

theorem change_handleCallEnded {callId : String} {strict : Bool} (h : plain e = true) :
    Change s e (s.handleCallEnded callId strict) := by
  rw [handleCallEnded]
  split_ifs with hactive
  · exact .refl (not_strays h)
  · exact .ended (mayEnd_of_active h hactive)
  · exact .refl (not_strays h)

theorem change_endNamed {callId : String} {reason : CallEndReason} {errorMessage : Option String}
    (h : plain e = true) : Change s e (s.endNamed callId reason errorMessage) := by
  rw [endNamed]
  split_ifs with hactive
  · exact .refl (not_strays h)
  · exact .ended (mayEnd_of_active h hactive)
  · exact .refl (not_strays h)

theorem change_webRtcChanges {state : WebRtcState} (h : plain e = true) :
    Change s e (s.webRtcChanges state) := by
  unfold webRtcChanges
  split
  · exact .refl (not_strays h)
  · next hactive =>
    have hactive := not_not.mp hactive
    cases state with
    | failed => exact .ended (mayEnd_of_active h hactive)
    | disconnected =>
      dsimp only
      split
      · exact .ended (mayEnd_of_active h hactive)
      · exact .refl (not_strays h)
    | connecting => exact .refl (not_strays h)
    | connected => exact .refl (not_strays h)

theorem change_networkChanges {isConnected : Bool} (h : plain e = true) :
    Change s e (s.networkChanges isConnected) := by
  rw [networkChanges]
  split
  · next hlost =>
    refine .ended (mayEnd_of_active h ?_)
    simp only [Bool.and_eq_true, Bool.or_eq_true, decide_eq_true_eq] at hlost
    rcases hlost.2 with hstatus | hstatus <;> simp [active, hstatus]
  · exact .refl (not_strays h)

/-- A timer ends the call that it is for. -/
theorem change_passes {u : VoiceCallManager} {reason : CallEndReason} {errorMessage : Option String}
    {P : Prop} [Decidable P] (h : plain e = true) (hcall : u.callState = s.callState)
    (hmissed : u.missed = s.missed)
    (hacted : u.userActedOnInboundCall = s.userActedOnInboundCall)
    (hmonitor : u.networkMonitorJob = s.networkMonitorJob) (hactive : P → s.active) :
    Change s e (if P then u.endCallInternal reason errorMessage else u) := by
  split
  · next hpassed =>
    exact .ends u reason errorMessage rfl hcall hmissed (.inl hacted) (mayEnd_of_active h (hactive hpassed))
  · exact .keeps (by rw [status, hcall]; rfl) hmissed (by rw [hmonitor]; exact id) (not_strays h)

theorem change_resetDelayPasses (h : ¬ s.Strays e) : Change s e s.resetDelayPasses := by
  rw [resetDelayPasses]
  split
  · next hended =>
    exact .follows rfl (by rw [hended]; rfl) CallStatus.noConfusion CallStatus.noConfusion h
  · exact .keeps rfl rfl id h

theorem change_fetch (h : ¬ s.Strays e) : Change s e s.fetchActiveCallsFromServer := by
  rw [fetchActiveCallsFromServer]
  split <;> exact .keeps rfl rfl id h

theorem change_adopt {calls : List ActiveCallDto} {now : Int} (he : e = .activeCalls (some calls) now)
    (hfetch : s.fetch = some .adopting) : Change s e ({ s with fetch := none }.adopt calls now) := by
  have hstrays : s.Strays e → s.status = .idle ∧ (listed calls "connected").isSome = true := by
    subst he
    simp [Strays, TakesOver, Stale, Fails, Completes, hfetch]
  rw [adopt]
  split
  · next hidle => exact .keeps rfl rfl id fun h => hidle (hstrays h).1
  · next hidle =>
    rw [not_not] at hidle
    split
    · next call _ hconnected =>
      refine .takesOver rfl ?_ rfl
      subst he
      simp only [TakesOver, hfetch, hconnected]
      exact ⟨hidle, rfl⟩
    · next call hconnected _ =>
      have hnot : ¬ s.Strays e := fun h => by simpa [hconnected] using (hstrays h).2
      split
      · rw [handleIncomingCall_of_idle hidle]
        refine change_resolve (.follows rfl ?_ CallStatus.noConfusion CallStatus.noConfusion hnot)
          CallStatus.noConfusion
        change follows s.status .ringing = true
        rw [show s.status = .idle from hidle]
        rfl
      · exact .keeps rfl rfl id hnot
    · next hconnected _ =>
      exact .keeps rfl rfl id fun h => by simpa [hconnected] using (hstrays h).2

theorem change_fetched {fetch : ActiveCallsFetch} {calls : Option (List ActiveCallDto)} {now : Int}
    (he : e = .activeCalls calls now) (hfetch : s.fetch = some fetch) :
    Change s e ({ s with fetch := none }.fetched fetch calls now) := by
  cases calls with
  | none =>
    refine .keeps (by cases fetch <;> rfl) (by cases fetch <;> rfl) (by cases fetch <;> exact id) ?_
    subst he
    simp [Strays, TakesOver, Stale, Fails, Completes]
  | some calls =>
    cases fetch with
    | adopting => exact change_adopt he hfetch
    | reconciling activeInfo =>
      rw [fetched]
      split
      · next hactive =>
        refine .keeps rfl rfl id ?_
        subst he
        simp [Strays, TakesOver, Stale, Fails, Completes, hfetch, hactive]
      · next hstale =>
        rw [Bool.not_eq_true] at hstale
        refine .ends _ .remoteHangup none rfl rfl rfl (.inl rfl) (.inr (.inr ⟨?_, rfl⟩))
        subst he
        simpa only [Stale, hfetch] using hstale

theorem change_resume {i : Nat} {c : Coroutine} {outcome : Outcome} (he : e = .resume i outcome)
    (hget : s.coroutines[i]? = some c) (hstep : s.resume i c outcome = some t) : Change s e t := by
  have hfails : s.Fails e ↔ failsBy c outcome = true := by
    subst he
    simp [Fails, hget]
  have hstrays : failsBy c outcome = false → (∀ now currentState, outcome = .done now →
      c ≠ .connecting currentState .description) → ¬ s.Strays e := by
    intro hnot hconnecting
    rw [← Bool.not_eq_true, ← hfails] at hnot
    subst he
    cases outcome <;> simp_all [Strays, TakesOver, Stale, Completes]
  have hend (u : VoiceCallManager) (errorMessage : Option String) (hcall : u.callState = s.callState)
      (hmissed : u.missed = s.missed) (hacted : u.userActedOnInboundCall = s.userActedOnInboundCall)
      (hc : failsBy c outcome = true) : Change s e (u.endCallInternal .failed errorMessage) :=
    .ends u .failed errorMessage rfl hcall hmissed (.inl hacted) (.inr (.inl ⟨hfails.mpr hc, rfl⟩))
  unfold resume at hstep
  split at hstep
  · cases hstep
    exact .keeps rfl rfl id (hstrays rfl (by simp))
  · cases hstep
    exact .keeps rfl rfl id (hstrays rfl (by simp))
  · cases hstep
    exact hend _ _ rfl rfl rfl rfl
  · cases hstep
    exact hend _ _ rfl rfl rfl rfl
  · cases hstep
    exact .keeps rfl rfl id (hstrays rfl (by simp))
  · cases hstep
    exact hend _ _ rfl rfl rfl rfl
  · next currentState stage now =>
    cases stage with
    | description =>
      cases hstep
      exact .answers rfl (by subst he; exact ⟨currentState, hget⟩) rfl rfl
    | offer => cases hstep; exact .keeps rfl rfl id (hstrays rfl (by simp))
    | answer => cases hstep; exact .keeps rfl rfl id (hstrays rfl (by simp))
  · cases hstep
    exact hend _ _ rfl rfl rfl rfl
  · cases hstep
    exact hend _ _ rfl rfl rfl rfl
  · cases hstep
    exact .keeps rfl rfl id (hstrays rfl (by simp))
  · cases hstep

theorem step_change (hstep : step s e = some t) : Change s e t := by
  cases e with
  | makeCall => cases hstep; exact change_makeCall (not_strays rfl)
  | answerCall => cases hstep; exact change_answerCall (not_strays rfl)
  | declineCall => cases hstep; exact change_declineCall rfl
  | endCall => cases hstep; exact change_endCall rfl
  | resetToIdle => cases hstep; exact .forgets rfl rfl rfl
  | incoming => cases hstep; exact change_handleIncomingCall (not_strays rfl)
  | incomingFromTelecom => cases hstep; exact change_handleIncomingCallFromTelecom (not_strays rfl)
  | connected => cases hstep; exact change_handleCallConnected (not_strays rfl)
  | ended => cases hstep; exact change_handleCallEnded rfl
  | busy => cases hstep; exact change_endNamed rfl
  | failed => cases hstep; exact change_endNamed rfl
  | cancelled => cases hstep; exact change_endNamed rfl
  | webRtc => cases hstep; exact change_webRtcChanges rfl
  | mediaReceiving => cases hstep; exact .keeps rfl rfl id (not_strays rfl)
  | networkAvailable =>
    simp only [step, Option.ite_none_right_eq_some, Option.some.injEq] at hstep
    obtain ⟨-, rfl⟩ := hstep
    exact change_networkChanges rfl
  | timeout =>
    simp only [step, Option.ite_none_right_eq_some, Option.some.injEq] at hstep
    obtain ⟨-, rfl⟩ := hstep
    exact change_passes rfl rfl rfl rfl rfl fun h => by simp [active, h]
  | inboundTimeout =>
    simp only [step, Option.ite_none_right_eq_some, Option.some.injEq] at hstep
    obtain ⟨-, rfl⟩ := hstep
    exact change_passes rfl rfl rfl rfl rfl fun h => by simp [active, h]
  | mediaInactivity receiving =>
    simp only [step, Option.ite_none_right_eq_some, Option.some.injEq] at hstep
    obtain ⟨-, rfl⟩ := hstep
    refine change_passes rfl rfl rfl rfl rfl fun h => ?_
    simp only [Bool.and_eq_true, decide_eq_true_eq] at h
    simp [active, h.1]
  | resetDelay =>
    simp only [step, Option.ite_none_right_eq_some, Option.some.injEq] at hstep
    obtain ⟨-, rfl⟩ := hstep
    exact change_resetDelayPasses (not_strays rfl)
  | syncConnected =>
    simp only [step, Option.ite_none_right_eq_some, Option.some.injEq] at hstep
    obtain ⟨-, rfl⟩ := hstep
    exact change_fetch (not_strays rfl)
  | activeCalls calls now =>
    obtain ⟨fetch, hfetch, rfl⟩ := Option.map_eq_some_iff.mp hstep
    exact change_fetched rfl hfetch
  | resume i outcome =>
    obtain ⟨c, hget, hresume⟩ := Option.bind_eq_some_iff.mp hstep
    exact change_resume rfl hget hresume

theorem not_active (h : ¬ s.active) : s.status = .idle ∨ s.status = .ended := by
  rw [active, not_and_or, not_not, not_not] at h
  exact h

theorem exists_of_completes (h : s.Completes e) :
    ∃ i now currentState, e = .resume i (.done now) ∧
      s.coroutines[i]? = some (.connecting currentState .description) := by
  cases e with
  | resume i outcome =>
    cases outcome with
    | done now => exact ⟨i, now, h.choose, rfl, h.choose_spec⟩
    | _ => cases h
  | _ => cases h

theorem strays_of_completes (h : s.Completes e) : s.Strays e ↔ ¬ s.active := by
  obtain ⟨i, now, currentState, rfl, hget⟩ := exists_of_completes h
  simp [Strays, TakesOver, Stale, Fails, Completes, hget, failsBy]

theorem MayEnd.apart {reason : CallEndReason} (h : s.MayEnd e reason) :
    e ≠ .resetToIdle ∧ ¬ s.Completes e := by
  rcases h with ⟨-, he, hnot⟩ | ⟨hfails, -⟩ | ⟨hstale, -⟩
  · exact ⟨he, hnot⟩
  · refine ⟨(fun he => by rw [he] at hfails; cases hfails), fun hcompletes => ?_⟩
    obtain ⟨i, now, currentState, rfl, hget⟩ := exists_of_completes hcompletes
    simp [Fails, hget, failsBy] at hfails
  · refine ⟨(fun he => by rw [he] at hstale; cases hstale), fun hcompletes => ?_⟩
    obtain ⟨i, now, currentState, rfl, -⟩ := exists_of_completes hcompletes
    cases hstale

theorem TakesOver.idle (h : s.TakesOver e) : s.status = .idle := by
  unfold TakesOver at h
  split at h
  · exact h.1
  · cases h

/-- **The diagram**: a step changes the status against the diagram of `CallStatus` exactly where the app is
told to forget a call that is not over, where the call of another device is taken over, or where a coroutine
comes when its call is over. -/
theorem strays_iff (hstep : step s e = some t) :
    s.Strays e ↔ t.status ≠ s.status ∧ follows s.status t.status = false := by
  cases step_change hstep with
  | keeps hstatus _ _ hnot => simp [hstatus, hnot]
  | ends u reason errorMessage ht _ _ _ hmay =>
    have hended : t.status = .ended := by rw [ht]; rfl
    obtain ⟨hreset, hcompletes⟩ := hmay.apart
    rw [hended]
    by_cases hactive : s.active
    · have hnot : ¬ s.Strays e := by
        rintro (⟨he, -⟩ | htakes | ⟨hidle, -⟩ | ⟨hnot, -⟩)
        · exact hreset he
        · exact hactive.1 htakes.idle
        · exact hactive.1 hidle
        · exact hnot hactive
      refine iff_of_false hnot fun h => ?_
      obtain ⟨hidle, hne⟩ := hactive
      revert h hidle hne
      cases s.status <;> decide
    · rcases not_active hactive with hidle | hended'
      · rw [hidle]
        refine iff_of_true (.inr (.inr (.inl ⟨hidle, ?_⟩))) (by decide)
        rcases hmay with ⟨h, -⟩ | ⟨hfails, -⟩ | ⟨hstale, -⟩
        · exact absurd h hactive
        · exact .inr hfails
        · exact .inl hstale
      · rw [hended']
        refine iff_of_false ?_ (by decide)
        rintro (⟨he, -⟩ | htakes | ⟨hidle, -⟩ | ⟨-, h⟩)
        · exact hreset he
        · exact CallStatus.noConfusion (hended'.symm.trans htakes.idle)
        · exact CallStatus.noConfusion (hended'.symm.trans hidle)
        · exact hcompletes h
  | follows _ hfollows _ _ hnot => simp [hfollows, hnot]
  | answers _ hcompletes hconnected _ =>
    rw [strays_of_completes hcompletes, hconnected, active]
    cases s.status <;> decide
  | takesOver _ htakes hconnected =>
    rw [hconnected, htakes.idle]
    exact iff_of_true (.inr (.inl htakes)) (by decide)
  | forgets _ he hidle =>
    subst he
    have hstrays : s.Strays .resetToIdle ↔ s.active := by
      simp [Strays, TakesOver, Stale, Fails, Completes]
    rw [hstrays, hidle, active]
    cases s.status <;> decide

theorem resume_isSome {i : Nat} {c : Coroutine} {outcome : Outcome} (h : failsBy c outcome = true) :
    (m.resume i c outcome).isSome = true := by
  unfold failsBy at h
  split at h <;> first | rfl | cases h

theorem step_isSome (h : s.Strays e) : (step s e).isSome = true := by
  rcases h with ⟨rfl, -⟩ | htakes | ⟨-, hstale | hfails⟩ | ⟨-, hcompletes⟩
  · rfl
  · unfold TakesOver at htakes
    split at htakes
    · next hfetch => simp [step, hfetch]
    · cases htakes
  · unfold Stale at hstale
    split at hstale
    · next hfetch => simp [step, hfetch]
    · cases hstale
  · cases e with
    | resume i outcome =>
      obtain ⟨c, hget, hfails⟩ := hfails
      rw [step, hget]
      exact resume_isSome hfails
    | _ => cases hfails
  · obtain ⟨i, now, currentState, rfl, hget⟩ := exists_of_completes hcompletes
    rw [step, hget]
    rfl

/-- **The status follows the diagram** of `CallStatus` in a run, and starts again after a call that has ended,
if and only if no call is forgotten before it is over, none is taken over from another device, and no
coroutine comes when its call is over. -/
theorem follows_iff (es : List CallEvent) :
    Guarded step (fun s e => ∀ t, step s e = some t → t.status = s.status ∨ follows s.status t.status = true)
        init es ↔
      Guarded step (fun s e => ¬ s.Strays e) init es := by
  have hguard (s : VoiceCallManager) (e : CallEvent) :
      (∀ t, step s e = some t → t.status = s.status ∨ follows s.status t.status = true) ↔ ¬ s.Strays e := by
    constructor
    · intro h hstrays
      obtain ⟨t, ht⟩ := Option.isSome_iff_exists.mp (step_isSome hstrays)
      obtain ⟨hne, hfollows⟩ := (strays_iff ht).mp hstrays
      rcases h t ht with h | h
      · exact hne h
      · rw [hfollows] at h
        cases h
    · intro hnot t ht
      rw [strays_iff ht, not_and_or, not_not, Bool.not_eq_false] at hnot
      exact hnot
  simp only [hguard]

end VoiceCallManager

end Svarla.Android
