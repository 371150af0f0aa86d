import Svarla.Calls.Orchestrator

/-!
# The call controller of a browser tab

`CallControllerImpl` over the `WebRtcCallClient`s it creates: the store the surfaces render from, the
timers, the ringtone, and the flows of `placeCall`, `answer`, `hangup` and `reconcile`, each at the
`await` it has come to. A client is its number; `createOffer` and `applyAnswer` of a client wait
inside the flow that called them. The listeners of a store run in the step that writes it.

What only the surfaces show (the start of a call, mute and volume, the reason of its end) is left out,
with `setMuted`, `setVolume` and `sendDtmf`, which change nothing else, and so are `start` and `stop`.
A request that nobody waits for is only sent.
-/

namespace Svarla.Web

open Svarla.Lib Svarla.Calls

/-! ## The WebRTC client -/

/-- `WebRtcFailureReason`. -/
inductive FailureReason
  | micDenied
  | noMicrophone
  | offerFailed
  | answerFailed
  | iceTimeout
  | iceFailed
  | connectingTimeout
  | connectionLost
  | mediaInactive
  deriving DecidableEq, Repr

inductive WebRtcState
  | disconnected
  | connecting
  | connected
  | failed (reason : FailureReason)
  deriving DecidableEq, Repr

structure WebRtcClient where
  state : WebRtcState
  closed : Bool
  /-- There is a `localTrack`; it is not stopped. -/
  localTrack : Bool
  /-- There is a `pc`; it is not closed. -/
  pc : Bool
  /-- The controller listens to the state. -/
  subscribed : Bool
  deriving DecidableEq, Repr

namespace WebRtcClient

/-- `createWebRtcCallClient`. -/
def new : WebRtcClient := ⟨.disconnected, false, false, false, false⟩

/-- `close`. -/
def close (c : WebRtcClient) : WebRtcClient :=
  if c.closed then c
  else { c with closed := true, localTrack := false, pc := false, state := .disconnected }

end WebRtcClient

/-! ## The store -/

inductive CallPhase
  | idle
  | connecting
  | ringing
  | connected
  | failed
  deriving DecidableEq, Repr

structure CallMetadata where
  callId : String
  direction : Direction
  peerNumber : Option String
  fromNumber : Option String
  deriving DecidableEq, Repr

/-- A request to the server. -/
inductive Request
  | make (fromNumber toNumber : String)
  | answer (callId : String)
  /-- The offer is that of the client. -/
  | offer (callId : String) (client : Nat)
  | decline (callId : String)
  | active
  deriving DecidableEq, Repr

/-- Where `createOffer` waits. -/
inductive OfferStage
  /-- For the microphone. -/
  | getUserMedia
  /-- For the offer, and for it to be the local description. -/
  | localDescription
  deriving DecidableEq, Repr

/-- A flow at its `await`. -/
inductive WebFlow
  | make (fromNumber toNumber : String)
  /-- `createOffer` of a client, in `establishSession` or in `answer`. -/
  | createOffer (client : Nat) (stage : OfferStage) (callId : String) (direction : Direction)
  | answer (client : Nat) (callId : String)
  /-- `exchangeOffer` with the client's offer. -/
  | exchangeOffer (client : Nat) (callId : String) (direction : Direction)
  /-- `applyAnswer` of a client, in `exchangeOffer`. -/
  | applyAnswer (client : Nat) (callId : String) (direction : Direction) (loopback : Bool)
  | hangup (callId : String)
  | reconcile
  deriving DecidableEq, Repr

/-- The client and the call of a session's flow. -/
def WebFlow.attempt : WebFlow → Option (Nat × String)
  | .createOffer k _ callId _ | .answer k callId | .exchangeOffer k callId _
  | .applyAnswer k callId _ _ => some (k, callId)
  | .make .. | .hangup _ | .reconcile => none

/-- An entry of `GET /api/calls/active`, as far as it is read. -/
structure ListedActive where
  callId : String
  status : CallStatus
  fromNumber : Option String
  deriving DecidableEq, Repr

/-- What an `await` gives. -/
inductive WebReply
  /-- The request is rejected or takes too long, or the browser fails. -/
  | fails
  | micFails (reason : FailureReason)
  /-- A response that is not `ok`. -/
  | refused (status : Nat) (message : Option String)
  /-- A response or a result without data that is read. -/
  | ok
  | made (callId toNumber fromNumber : Option String)
  /-- The answer, if it is there: does it name a loopback candidate? -/
  | sdpAnswer (loopback : Option Bool)
  | calls (calls : List ListedActive)
  deriving DecidableEq, Repr

structure CallController where
  -- the store
  phase : CallPhase
  call : Option CallMetadata
  incoming : Option CallMetadata
  error : Option String
  warning : Option String
  /-- The client of the session. -/
  client : Option Nat
  /-- The client whose listener `unsubscribeClientState` removes. -/
  unsubscribeClientState : Option Nat
  heldElsewhere : List String
  /-- The timers, each for a call. -/
  establishCap : Option String
  noAnswerTimer : Option String
  -- the alerting service
  ringtone : Bool
  ringback : Bool
  /-- The clients created so far. -/
  created : Nat
  clients : Nat → WebRtcClient
  flows : List WebFlow
  /-- The requests sent so far. -/
  sent : List Request

/-! ## Messages for the user -/

def failureReasonToErrorKey : FailureReason → String
  | .micDenied => "mic-denied"
  | .noMicrophone => "no-microphone"
  | _ => "connection-failed"

def offerStatusToErrorKey (status : Nat) : String :=
  if status = 503 then "media-unavailable"
  else if status = 504 then "signaling-timeout"
  else if status = 404 then "call-not-found"
  else "connection-failed"

def terminalStatusToErrorKey : CallStatus → String
  | .busy => "busy"
  | .failed => "call-failed"
  | _ => "call-ended"

namespace CallController

/-- A new controller. -/
def init : CallController where
  phase := .idle
  call := none
  incoming := none
  error := none
  warning := none
  client := none
  unsubscribeClientState := none
  heldElsewhere := []
  establishCap := none
  noAnswerTimer := none
  ringtone := false
  ringback := false
  created := 0
  clients := fun _ => .new
  flows := []
  sent := []

def send (s : CallController) (request : Request) : CallController :=
  { s with sent := s.sent ++ [request] }

def start (s : CallController) (flow : WebFlow) : CallController :=
  { s with flows := s.flows ++ [flow] }

def updateClient (s : CallController) (k : Nat) (f : WebRtcClient → WebRtcClient) :
    CallController :=
  { s with clients := Function.update s.clients k (f (s.clients k)) }

@[simp] theorem updateClient_clients_self (s : CallController) (k : Nat)
    (f : WebRtcClient → WebRtcClient) : (s.updateClient k f).clients k = f (s.clients k) :=
  Function.update_self ..

theorem updateClient_clients_of_ne (s : CallController) {j k : Nat} (h : j ≠ k)
    (f : WebRtcClient → WebRtcClient) : (s.updateClient k f).clients j = s.clients j :=
  Function.update_of_ne h ..

def activeId (s : CallController) : Option String := s.call.map (·.callId)

/-! ## The session -/

/-- The clients, once `unsubscribeClientState` was called. -/
def unsubscribed (s : CallController) : Nat → WebRtcClient :=
  match s.unsubscribeClientState with
  | none => s.clients
  | some k => Function.update s.clients k { s.clients k with subscribed := false }

/-- `teardownClient`. The listener of the client is removed before the client is closed. -/
def teardownClient (s : CallController) : CallController :=
  { s with
    establishCap := none, noAnswerTimer := none, ringback := false
    unsubscribeClientState := none
    client := none
    clients :=
      match s.client with
      | none => s.unsubscribed
      | some k => Function.update s.unsubscribed k (s.unsubscribed k).close }

/-- `resetToIdle`. -/
def resetToIdle (s : CallController) (error : Option String) : CallController :=
  { teardownClient { s with ringtone := false } with
    phase := .idle, call := none, incoming := none, error }

/-- A call is on screen. -/
def visibleActive (s : CallController) : Bool :=
  s.call.isSome && (s.phase = .connecting || s.phase = .ringing || s.phase = .connected)

/-- `enforceSessionVisibility`. -/
def enforceSessionVisibility (s : CallController) : CallController :=
  if s.client.isNone || s.visibleActive then s
  else
    let s := s.teardownClient
    if s.phase = .idle then s else { s with phase := .idle, call := none }

/-- `setPhase`. -/
def setPhase (s : CallController) (phase : CallPhase) : CallController :=
  if s.phase = phase then s else enforceSessionVisibility { s with phase }

/-- A phase with a call on screen is only written. -/
theorem setPhase_visible {s : CallController} {phase : CallPhase} (hcall : s.call.isSome = true)
    (hphase : phase = .connecting ∨ phase = .ringing ∨ phase = .connected) :
    s.setPhase phase = { s with phase } := by
  rw [setPhase]
  split
  · next heq => rw [← heq]
  · have hvisible : visibleActive { s with phase } = true := by
      rw [visibleActive, hcall]
      obtain rfl | rfl | rfl := hphase <;> rfl
    rw [enforceSessionVisibility, hvisible, Bool.or_true, if_pos rfl]

/-- A failed phase ends the session. -/
theorem setPhase_failed {s : CallController} (hclient : s.client.isSome = true)
    (hphase : s.phase ≠ .failed) : s.setPhase .failed =
      { teardownClient { s with phase := .failed } with phase := .idle, call := none } := by
  have hhidden : visibleActive { s with phase := .failed } = false := by
    rw [visibleActive, Bool.and_eq_false_iff]
    exact .inr rfl
  rw [setPhase, if_neg hphase, enforceSessionVisibility, hhidden, Bool.or_false,
    if_neg (by rw [Option.isNone_eq_false_iff.mpr hclient]; exact Bool.false_ne_true)]
  exact if_neg nofun

/-- `applyWebRtcState`. -/
def applyWebRtcState (s : CallController) (state : WebRtcState) : CallController :=
  if s.client.isNone then s
  else
    match state with
    | .connecting => if s.phase = .connected ∨ s.phase = .ringing then s else s.setPhase .connecting
    | .connected =>
      setPhase { s with establishCap := none, noAnswerTimer := none, ringback := false } .connected
    | .failed reason =>
      setPhase { s with establishCap := none, error := some (failureReasonToErrorKey reason) } .failed
    | .disconnected => if s.phase = .failed then s.setPhase .idle else s

section
variable {s : CallController} {k : Nat}

theorem applyWebRtcState_connecting (h : s.client = some k) :
    s.applyWebRtcState .connecting =
      if s.phase = .connected ∨ s.phase = .ringing then s else s.setPhase .connecting := by
  simp [applyWebRtcState, h]

theorem applyWebRtcState_connected (h : s.client = some k) :
    s.applyWebRtcState .connected = setPhase { s with
      establishCap := none, noAnswerTimer := none, ringback := false } .connected := by
  simp [applyWebRtcState, h]

theorem applyWebRtcState_failed (h : s.client = some k) (reason : FailureReason) :
    s.applyWebRtcState (.failed reason) = setPhase { s with
      establishCap := none, error := some (failureReasonToErrorKey reason) } .failed := by
  simp [applyWebRtcState, h]

end

/-- `setState` of a client, with the controller's listener. -/
def setClientState (s : CallController) (k : Nat) (state : WebRtcState) : CallController :=
  let s := s.updateClient k ({ · with state })
  if (s.clients k).subscribed then s.applyWebRtcState state else s

/-- `createClient` and `bindClientState`, and `createOffer` begins. -/
def openSession (s : CallController) (callId : String) (direction : Direction) : CallController :=
  let k := s.created
  let s := { s with
    created := k + 1
    clients := Function.update s.clients k .new
    client := some k }
  let s := s.applyWebRtcState .disconnected
  let s := { s.updateClient k ({ · with subscribed := true }) with
    unsubscribeClientState := some k }
  s.start (.createOffer k .getUserMedia callId direction)

theorem openSession_eq {s : CallController} (hphase : s.phase ≠ .failed) (callId : String)
    (direction : Direction) : s.openSession callId direction = { s with
      created := s.created + 1
      clients := Function.update s.clients s.created { WebRtcClient.new with subscribed := true }
      client := some s.created
      unsubscribeClientState := some s.created
      flows := s.flows ++ [.createOffer s.created .getUserMedia callId direction] } := by
  simp [openSession, applyWebRtcState, hphase, CallController.start, updateClient]

/-- `isBusy`. -/
def isBusy (s : CallController) : Bool :=
  s.phase = .connecting || s.phase = .ringing || s.phase = .connected

/-! ## What the user does -/

/-- `placeCall`, up to its first `await`. -/
def placeCall (s : CallController) (fromNumber toNumber : String) : CallController :=
  if s.isBusy then { s with error := some "call-in-progress" }
  else
    let s := { s with error := none, warning := none }
    (s.send (.make fromNumber toNumber)).start (.make fromNumber toNumber)

/-- `answer`, up to its first `await`. -/
def answer (s : CallController) (callId : String) : CallController :=
  if s.isBusy then { s with error := some "call-in-progress" }
  else
    let peerNumber := (s.incoming.filter (·.callId = callId)).bind (·.peerNumber)
    openSession { s with
      ringtone := false
      call := some ⟨callId, .inbound, peerNumber, none⟩
      incoming := none, error := none, warning := none } callId .inbound

/-- `decline`. -/
def decline (s : CallController) (callId : String) : CallController :=
  let s := { s with ringtone := false }
  let s := if s.incoming.any (·.callId = callId) then { s with incoming := none } else s
  s.send (.decline callId)

/-- `hangup`, up to its first `await`. -/
def hangup (s : CallController) : CallController :=
  match s.call with
  | none => if s.client.isSome then s.resetToIdle (some "call-ended-locally") else s
  | some call => (s.send (.decline call.callId)).start (.hangup call.callId)

/-! ## What the server says -/

/-- `presentIncoming`. -/
def presentIncoming (s : CallController) (callId : String) (peerNumber : Option String) :
    CallController :=
  { s with incoming := some ⟨callId, .inbound, peerNumber, none⟩, error := none, ringtone := true }

/-- A terminal `call_event`. -/
def isTerminal (status : CallStatus) : Bool :=
  status = .completed || status = .failed || status = .busy

/-- `onCallEvent` for a call that is not the active one, with the status of an offer. -/
def onOffer (s : CallController) (callId : String) (peerNumber : Option String) : CallController :=
  match s.incoming.filter (·.callId = callId) with
  | some displayed =>
    { s with incoming := some { displayed with peerNumber := peerNumber.or displayed.peerNumber } }
  | none =>
    if s.call.isNone && s.incoming.isNone && callId ∉ s.heldElsewhere then
      s.presentIncoming callId peerNumber
    else if callId ∈ s.heldElsewhere then s
    else s.send (.decline callId)

/-- `onCallEvent`. -/
def onCallEvent (s : CallController) (data : CallEvent) : CallController :=
  let isActiveCall := s.call.any (·.callId = data.callId)
  if (data.status = .ringing || data.status = .connected) && !isActiveCall then
    s.onOffer data.callId data.fromNumber
  else if !isActiveCall then
    if isTerminal data.status then
      { s with heldElsewhere := s.heldElsewhere.filter (· ≠ data.callId) }
    else s
  else if isTerminal data.status then
    resetToIdle { s with noAnswerTimer := none } (some (terminalStatusToErrorKey data.status))
  else if data.status = .connected then
    let s := { s with noAnswerTimer := none, ringback := false }
    if s.phase = .ringing ∨ s.phase = .connecting then s.setPhase .connected else s
  else s

/-- `onCallCancelled`. -/
def onCallCancelled (s : CallController) (callId : String) (reason : CancelReason) :
    CallController :=
  let s := if reason = .answeredElsewhere then
    { s with heldElsewhere := callId :: s.heldElsewhere.filter (· ≠ callId) } else s
  let call := s.call
  let s := if s.incoming.any (·.callId = callId) then
    { s with ringtone := false, incoming := none } else s
  if call.any (·.callId = callId) then s.resetToIdle none else s

/-- `onWsDisconnected`. -/
def onWsDisconnected (s : CallController) : CallController :=
  if s.phase = .connected then { s with error := some "signaling-disconnected" }
  else if s.phase = .connecting ∨ s.phase = .ringing then s.resetToIdle (some "connection-failed")
  else if s.incoming.isSome then s.resetToIdle none
  else s

/-! ## The timers -/

/-- The timer of `startNoAnswerTimer`. -/
def noAnswerExpires (s : CallController) (callId : String) : CallController :=
  let s := { s with noAnswerTimer := none }
  if s.call.any (·.callId = callId) && s.phase = .ringing then
    resetToIdle { s.send (.decline callId) with ringback := false } (some "no-answer")
  else s

/-- The timer of `armEstablishCap`. -/
def establishCapExpires (s : CallController) (callId : String) : CallController :=
  let s := { s with establishCap := none }
  if s.call.any (·.callId = callId) && s.phase ≠ .connected && s.phase ≠ .idle then
    (s.send (.decline callId)).resetToIdle (some "connection-failed")
  else s

/-! ## Continuations -/

/-- `placeCall`, once the server has made the call. -/
def callMade (s : CallController) (callId : String) (peerNumber fromNumber : String) :
    CallController :=
  openSession { s with
    call := some ⟨callId, .outbound, some peerNumber, some fromNumber⟩
    incoming := none, error := none } callId .outbound

/-- `createOffer` has failed. -/
def offerFails (s : CallController) (k : Nat) (callId : String) (direction : Direction) :
    CallController :=
  let reason := match (s.clients k).state with
    | .failed reason => some reason
    | _ => none
  match direction with
  | .inbound =>
    (s.send (.decline callId)).resetToIdle
      (some (reason.elim "mic-denied" failureReasonToErrorKey))
  | .outbound => s.resetToIdle (some (reason.elim "connection-failed" failureReasonToErrorKey))

/-- `createOffer` has the microphone: the state, and the peer connection. -/
def micGranted (s : CallController) (k : Nat) : CallController :=
  let s := s.updateClient k ({ · with localTrack := true })
  let s := s.setClientState k .connecting
  s.updateClient k ({ · with pc := true })

/-- `enterRinging`. -/
def enterRinging (s : CallController) (callId : String) : CallController :=
  if s.call.any (fun call => call.callId = callId && call.direction = .outbound) &&
      (s.phase = .connecting || s.phase = .ringing) then
    { s.setPhase .ringing with ringback := true, noAnswerTimer := some callId }
  else s

/-- `reconcile`, with the list of calls. -/
def reconciled (s : CallController) (calls : List ListedActive) : CallController :=
  let byId (callId : String) : Bool := calls.any (·.callId = callId)
  let s := if s.call.any fun call => !byId call.callId then s.resetToIdle none else s
  let s := if s.incoming.any fun incoming => !byId incoming.callId then
    { s with ringtone := false, incoming := none } else s
  if s.phase = .idle && s.call.isNone && s.incoming.isNone then
    match calls.find? fun call => call.status = .ringing && call.callId ∉ s.heldElsewhere with
    | some call => s.presentIncoming call.callId call.fromNumber
    | none => s
  else s

/-- What a flow does with the reply to its `await`, and the `await` it comes to next; none if it is
no reply to that. -/
def proceed (s : CallController) : WebFlow → WebReply → Option (CallController × Option WebFlow)
  | .make .., .fails => some (s.resetToIdle (some "service-unavailable"), none)
  | .make .., .refused status message =>
    some (s.resetToIdle (some (if status = 400 then message.getD "service-unavailable"
      else "service-unavailable")), none)
  | .make _ _, .made none _ _ => some (s.resetToIdle (some "service-unavailable"), none)
  | .make fromNumber toNumber, .made (some callId) to' from' =>
    some (s.callMade callId (to'.getD toNumber) (from'.getD fromNumber), none)
  | .createOffer k .getUserMedia callId direction, .micFails reason =>
    some ((s.setClientState k (.failed reason)).offerFails k callId direction, none)
  | .createOffer k .getUserMedia callId direction, .ok =>
    some (s.micGranted k, some (.createOffer k .localDescription callId direction))
  | .createOffer k .localDescription callId direction, .fails =>
    some ((s.setClientState k (.failed .offerFailed)).offerFails k callId direction, none)
  | .createOffer k .localDescription callId .inbound, .ok =>
    some (s.send (.answer callId), some (.answer k callId))
  | .createOffer k .localDescription callId .outbound, .ok =>
    some (s.send (.offer callId k), some (.exchangeOffer k callId .outbound))
  | .answer .., .fails => some (s.resetToIdle (some "call-unavailable"), none)
  | .answer .., .refused status _ =>
    some (s.resetToIdle (some (if status = 409 then "call-unavailable" else "service-unavailable")),
      none)
  | .answer k callId, .ok =>
    some (send { s with establishCap := some callId } (.offer callId k),
      some (.exchangeOffer k callId .inbound))
  | .exchangeOffer .., .fails => some (s.resetToIdle (some "signaling-timeout"), none)
  | .exchangeOffer .., .refused status _ =>
    some (s.resetToIdle (some (offerStatusToErrorKey status)), none)
  | .exchangeOffer .., .sdpAnswer none => some (s.resetToIdle (some "connection-failed"), none)
  | .exchangeOffer _ callId direction, .sdpAnswer (some loopback) =>
    match s.client with
    | none => some (s.resetToIdle (some "connection-failed"), none)
    | some k =>
      if (s.clients k).pc then some (s, some (.applyAnswer k callId direction loopback))
      else some ((s.setClientState k (.failed .answerFailed)).resetToIdle
        (some "connection-failed"), none)
  | .applyAnswer k _ _ _, .fails =>
    some ((s.setClientState k (.failed .answerFailed)).resetToIdle (some "connection-failed"), none)
  | .applyAnswer _ callId direction loopback, .ok =>
    let s := if loopback then { s with warning := some "loopback-ice-candidate" } else s
    some (if direction = .outbound then s.enterRinging callId else s, none)
  | .hangup _, .ok => some (s.resetToIdle none, none)
  | .hangup _, .refused _ _ => some (s.resetToIdle (some "call-ended-locally"), none)
  | .hangup _, .fails => some (s.resetToIdle (some "call-ended-locally"), none)
  | .reconcile, .fails => some (s, none)
  | .reconcile, .refused _ _ => some (s, none)
  | .reconcile, .calls calls => some (s.reconciled calls, none)
  | _, _ => none

/-! ## What the operations leave alone -/

/-- The session goes on or ends, and no flow is started. -/
structure Leaves (s t : CallController) : Prop where
  flows : t.flows = s.flows
  created : t.created = s.created
  sent : s.sent <+: t.sent
  phase : s.phase ≠ .failed → t.phase ≠ .failed
  session : t.client = none ∨ t.client = s.client ∧ t.call = s.call ∧
    ∀ k, (t.clients k).closed = (s.clients k).closed

theorem Leaves.refl (s : CallController) : s.Leaves s :=
  ⟨rfl, rfl, List.prefix_rfl, id, .inr ⟨rfl, rfl, fun _ => rfl⟩⟩

theorem Leaves.trans {s t u : CallController} (h : s.Leaves t) (h' : t.Leaves u) : s.Leaves u where
  flows := h'.flows.trans h.flows
  created := h'.created.trans h.created
  sent := h.sent.trans h'.sent
  phase := h'.phase ∘ h.phase
  session := by
    obtain hnone | ⟨hclient', hcall', hclosed'⟩ := h'.session
    · exact .inl hnone
    · obtain hnone | ⟨hclient, hcall, hclosed⟩ := h.session
      · exact .inl (hclient'.trans hnone)
      · exact .inr ⟨hclient'.trans hclient, hcall'.trans hcall,
          fun k => (hclosed' k).trans (hclosed k)⟩

section
variable (s : CallController)

/-- Surfaces, messages and timers are no part of it. -/
theorem leaves_store (incoming : Option CallMetadata) (error warning : Option String)
    (heldElsewhere : List String) (establishCap noAnswerTimer : Option String)
    (ringtone ringback : Bool) : s.Leaves { s with
      incoming, error, warning, heldElsewhere, establishCap, noAnswerTimer, ringtone, ringback } :=
  ⟨rfl, rfl, List.prefix_rfl, id, .inr ⟨rfl, rfl, fun _ => rfl⟩⟩

theorem leaves_send (request : Request) (incoming : Option CallMetadata)
    (error warning : Option String) (establishCap noAnswerTimer : Option String)
    (ringtone ringback : Bool) : s.Leaves (send { s with
      incoming, error, warning, establishCap, noAnswerTimer, ringtone, ringback } request) :=
  ⟨rfl, rfl, List.prefix_append .., id, .inr ⟨rfl, rfl, fun _ => rfl⟩⟩

theorem leaves_updateClient (k : Nat) {f : WebRtcClient → WebRtcClient}
    (hclosed : ∀ c, (f c).closed = c.closed) : s.Leaves (s.updateClient k f) := by
  refine ⟨rfl, rfl, List.prefix_rfl, id, .inr ⟨rfl, rfl, fun j => ?_⟩⟩
  by_cases hj : j = k
  · subst hj
    rw [updateClient_clients_self, hclosed]
  · rw [updateClient_clients_of_ne s hj]

theorem leaves_resetToIdle (error : Option String) : s.Leaves (s.resetToIdle error) :=
  ⟨rfl, rfl, List.prefix_rfl, fun _ => nofun, .inl rfl⟩

theorem leaves_setPhase (phase : CallPhase) (hphase : phase ≠ .failed) :
    s.Leaves (s.setPhase phase) := by
  have hwritten : s.Leaves { s with phase } :=
    ⟨rfl, rfl, List.prefix_rfl, fun _ => hphase, .inr ⟨rfl, rfl, fun _ => rfl⟩⟩
  rw [setPhase]
  split
  · exact .refl s
  · rw [enforceSessionVisibility]
    split
    · exact hwritten
    · dsimp only
      split
      · exact ⟨rfl, rfl, List.prefix_rfl, fun _ => hphase, .inl rfl⟩
      · exact ⟨rfl, rfl, List.prefix_rfl, fun _ => nofun, .inl rfl⟩

/-- A session that fails is over. -/
theorem leaves_setPhase_failed (hclient : s.client.isSome = true) (hphase : s.phase ≠ .failed) :
    s.Leaves (s.setPhase .failed) ∧ (s.setPhase .failed).client = none := by
  rw [setPhase_failed hclient hphase]
  exact ⟨⟨rfl, rfl, List.prefix_rfl, fun _ => nofun, .inl rfl⟩, rfl⟩

theorem leaves_applyWebRtcState (state : WebRtcState) : s.Leaves (s.applyWebRtcState state) := by
  unfold applyWebRtcState
  split
  · exact .refl s
  next hclient =>
  cases state with
  | disconnected =>
    dsimp only
    split
    · exact s.leaves_setPhase .idle nofun
    · exact .refl s
  | connecting =>
    dsimp only
    split
    · exact .refl s
    · exact s.leaves_setPhase .connecting nofun
  | connected => exact Leaves.trans (s.leaves_store ..) (leaves_setPhase _ .connected nofun)
  | failed reason =>
    dsimp only
    by_cases hphase : s.phase = .failed
    · rw [setPhase, if_pos hphase]
      exact s.leaves_store ..
    · have hsome : s.client.isSome = true := by
        rwa [← Option.isNone_eq_false_iff, ← Bool.not_eq_true]
      have hwritten := s.leaves_store s.incoming (some (failureReasonToErrorKey reason)) s.warning
        s.heldElsewhere none s.noAnswerTimer s.ringtone s.ringback
      exact hwritten.trans (leaves_setPhase_failed { s with
        establishCap := none, error := some (failureReasonToErrorKey reason) } hsome hphase).1

theorem leaves_setClientState (k : Nat) (state : WebRtcState) :
    s.Leaves (s.setClientState k state) := by
  have hwritten := s.leaves_updateClient k (f := ({ · with state })) fun _ => rfl
  rw [setClientState]
  split
  · exact hwritten.trans (leaves_applyWebRtcState _ _)
  · exact hwritten

theorem leaves_micGranted (k : Nat) : s.Leaves (s.micGranted k) :=
  have hconnecting := (s.leaves_updateClient k (f := ({ · with localTrack := true })) fun _ => rfl).trans
    (leaves_setClientState _ k .connecting)
  hconnecting.trans (leaves_updateClient _ k (f := ({ · with pc := true })) fun _ => rfl)

theorem leaves_offerFails (k : Nat) (callId : String) (direction : Direction) :
    s.Leaves (s.offerFails k callId direction) := by
  cases direction with
  | inbound => exact (s.leaves_send ..).trans (leaves_resetToIdle _ _)
  | outbound => exact s.leaves_resetToIdle _

theorem leaves_enterRinging (callId : String) : s.Leaves (s.enterRinging callId) := by
  rw [enterRinging]
  split
  · exact (s.leaves_setPhase .ringing nofun).trans (leaves_store ..)
  · exact .refl s

theorem leaves_reconciled (calls : List ListedActive) : s.Leaves (s.reconciled calls) := by
  unfold reconciled
  extract_lets byId s₁ s₂
  have h₁ : s.Leaves s₁ := by
    dsimp only [s₁]
    split
    · exact s.leaves_resetToIdle none
    · exact .refl s
  have h₂ : s.Leaves s₂ := by
    dsimp only [s₂]
    split
    · exact h₁.trans (leaves_store ..)
    · exact h₁
  split
  · split
    · exact h₂.trans (leaves_store ..)
    · exact h₂
  · exact h₂

end

/-- A continuation makes a call, or it starts no flow. -/
theorem proceed_leaves {s : CallController} {flow : WebFlow} {reply : WebReply}
    {r : CallController × Option WebFlow} (h : s.proceed flow reply = some r) :
    s.Leaves r.1 ∨ ∃ fromNumber toNumber callId to' from',
      flow = .make fromNumber toNumber ∧ reply = .made (some callId) to' from' ∧
        r = (s.callMade callId (to'.getD toNumber) (from'.getD fromNumber), none) := by
  revert h
  fun_cases proceed s flow reply <;> intro h <;> cases h
  case case4 => exact .inr ⟨_, _, _, _, _, rfl, rfl, rfl⟩
  case case20 callId direction loopback k =>
    left
    have hwarned : s.Leaves (if loopback then { s with warning := some "loopback-ice-candidate" }
        else s) := by
      split
      · exact s.leaves_store ..
      · exact .refl s
    dsimp only
    split
    · exact hwarned.trans (leaves_enterRinging _ callId)
    · exact hwarned
  all_goals
    left
    first
    | exact .refl s
    | exact s.leaves_resetToIdle _
    | exact s.leaves_micGranted _
    | exact s.leaves_reconciled _
    | exact s.leaves_send ..
    | exact (s.leaves_setClientState _ _).trans (leaves_resetToIdle _ _)
    | exact (s.leaves_setClientState _ _).trans (leaves_offerFails ..)

theorem openSession_flows (s : CallController) (callId : String) (direction : Direction) :
    (s.openSession callId direction).flows =
      s.flows ++ [.createOffer s.created .getUserMedia callId direction] := by
  have hflows := (leaves_applyWebRtcState { s with
    created := s.created + 1
    clients := Function.update s.clients s.created .new
    client := some s.created } .disconnected).flows
  exact congrArg (· ++ [_]) hflows

/-- A continuation only starts flows. -/
theorem proceed_flows {s : CallController} {flow : WebFlow} {reply : WebReply}
    {r : CallController × Option WebFlow} (h : s.proceed flow reply = some r) :
    ∃ started, r.1.flows = s.flows ++ started := by
  obtain hleaves | ⟨fromNumber, toNumber, callId, to', from', -, -, rfl⟩ := proceed_leaves h
  · exact ⟨[], by rw [hleaves.flows, List.append_nil]⟩
  · exact ⟨_, openSession_flows ..⟩

end CallController

open CallController

/-! ## Events -/

inductive WebEvent
  | placeCall (fromNumber toNumber : String)
  | answer (callId : String)
  | decline (callId : String)
  | hangup
  | callEvent (data : CallEvent)
  | callCancelled (callId : String) (reason : CancelReason)
  /-- `onWsConnected`, or `reconcile` itself. -/
  | reconcile
  | wsDisconnected
  /-- What a client learns from its peer connection, its timers or its watchdog. -/
  | transport (client : Nat) (state : WebRtcState)
  | noAnswerExpires
  | establishCapExpires
  | resume (i : Nat) (reply : WebReply)
  deriving DecidableEq, Repr

/-- The changes of state that a client makes between its operations. -/
def transportStep : WebRtcState → WebRtcState → Bool
  | .connecting, .connected => true
  | .connecting, .failed reason =>
    reason = .iceFailed || reason = .iceTimeout || reason = .connectingTimeout
  | .connected, .failed reason => reason = .connectionLost || reason = .mediaInactive
  | _, _ => false

/-- One event. -/
def webStep (s : CallController) : WebEvent → Option CallController
  | .placeCall fromNumber toNumber => some (s.placeCall fromNumber toNumber)
  | .answer callId => some (s.answer callId)
  | .decline callId => some (s.decline callId)
  | .hangup => some s.hangup
  | .callEvent data => some (s.onCallEvent data)
  | .callCancelled callId reason => some (s.onCallCancelled callId reason)
  | .reconcile => some ((s.send .active).start .reconcile)
  | .wsDisconnected => some s.onWsDisconnected
  | .transport k state =>
    if k < s.created ∧ transportStep (s.clients k).state state then some (s.setClientState k state)
    else none
  | .noAnswerExpires => s.noAnswerTimer.map s.noAnswerExpires
  | .establishCapExpires => s.establishCap.map s.establishCapExpires
  | .resume i reply =>
    match s.flows[i]? with
    | none => none
    | some flow =>
      (s.proceed flow reply).map fun r => { r.1 with flows := advance r.1.flows i r.2 }

namespace CallController

section
variable (s : CallController)

theorem leaves_onOffer (callId : String) (peerNumber : Option String) :
    s.Leaves (s.onOffer callId peerNumber) := by
  rw [onOffer]
  split
  · exact s.leaves_store ..
  · split
    · exact s.leaves_store ..
    · split
      · exact .refl s
      · exact s.leaves_send ..

theorem leaves_onCallEvent (data : CallEvent) : s.Leaves (s.onCallEvent data) := by
  rw [onCallEvent]
  dsimp only
  split
  · exact s.leaves_onOffer ..
  split
  · split
    · exact s.leaves_store ..
    · exact .refl s
  split
  · exact Leaves.trans (s.leaves_store ..) (leaves_resetToIdle _ _)
  split
  · split
    · exact Leaves.trans (s.leaves_store ..) (leaves_setPhase _ .connected nofun)
    · exact s.leaves_store ..
  · exact .refl s

theorem leaves_onCallCancelled (callId : String) (reason : CancelReason) :
    s.Leaves (s.onCallCancelled callId reason) := by
  unfold onCallCancelled
  extract_lets s₁ call s₂
  have h₁ : s.Leaves s₁ := by
    dsimp only [s₁]
    split
    · exact s.leaves_store ..
    · exact .refl s
  have h₂ : s.Leaves s₂ := by
    dsimp only [s₂]
    split
    · exact h₁.trans (leaves_store ..)
    · exact h₁
  split
  · exact h₂.trans (leaves_resetToIdle _ _)
  · exact h₂

theorem leaves_onWsDisconnected : s.Leaves s.onWsDisconnected := by
  rw [onWsDisconnected]
  split
  · exact s.leaves_store ..
  split
  · exact s.leaves_resetToIdle _
  split
  · exact s.leaves_resetToIdle _
  · exact .refl s

theorem leaves_noAnswerExpires (callId : String) : s.Leaves (s.noAnswerExpires callId) := by
  rw [noAnswerExpires]
  split
  · exact Leaves.trans (s.leaves_send ..) (leaves_resetToIdle _ _)
  · exact s.leaves_store ..

theorem leaves_establishCapExpires (callId : String) : s.Leaves (s.establishCapExpires callId) := by
  rw [establishCapExpires]
  split
  · exact Leaves.trans (s.leaves_send ..) (leaves_resetToIdle _ _)
  · exact s.leaves_store ..

end

/-- An event other than a reply starts no flow, or one that has no client, or a session. With a
hang-up goes a decline. -/
theorem webStep_leaves {s t : CallController} {event : WebEvent}
    (hne : ∀ i reply, event ≠ .resume i reply) (h : webStep s event = some t) :
    s.Leaves t ∨
      (∃ u : CallController, ∃ flow : WebFlow, s.Leaves u ∧ flow.attempt = none ∧
        (∀ callId, flow = .hangup callId → .decline callId ∈ u.sent) ∧ t = u.start flow) ∨
      ∃ u : CallController, ∃ call, u.flows = s.flows ∧ u.created = s.created ∧ u.phase = s.phase ∧
        u.sent = s.sent ∧ u.call = some call ∧ t = u.openSession call.callId .inbound := by
  cases event with
  | placeCall fromNumber toNumber =>
    cases h
    rw [placeCall]
    split
    · exact .inl (s.leaves_store ..)
    · exact .inr (.inl ⟨_, _, s.leaves_send .., rfl, fun _ heq => (by cases heq), rfl⟩)
  | answer callId =>
    cases h
    rw [answer]
    split
    · exact .inl (s.leaves_store ..)
    · exact .inr (.inr ⟨{ s with
        ringtone := false
        call := some ⟨callId, .inbound,
          (s.incoming.filter (·.callId = callId)).bind (·.peerNumber), none⟩
        incoming := none, error := none, warning := none }, _, rfl, rfl, rfl, rfl, rfl, rfl⟩)
  | decline callId =>
    cases h
    rw [decline]
    dsimp only
    split <;> exact .inl (s.leaves_send ..)
  | hangup =>
    cases h
    rw [hangup]
    split
    · split
      · exact .inl (s.leaves_resetToIdle _)
      · exact .inl (.refl s)
    · next call _ =>
      refine .inr (.inl ⟨_, _, s.leaves_send .., rfl, fun callId heq => ?_, rfl⟩)
      cases heq
      exact List.mem_append_right _ (List.mem_singleton.mpr rfl)
  | callEvent data => cases h; exact .inl (s.leaves_onCallEvent data)
  | callCancelled callId reason => cases h; exact .inl (s.leaves_onCallCancelled callId reason)
  | reconcile => cases h; exact .inr (.inl ⟨_, _, s.leaves_send .., rfl, fun _ heq => (by cases heq), rfl⟩)
  | wsDisconnected => cases h; exact .inl s.leaves_onWsDisconnected
  | transport k state =>
    obtain ⟨-, hset⟩ := Option.ite_none_right_eq_some.mp h
    cases hset
    exact .inl (s.leaves_setClientState k state)
  | noAnswerExpires =>
    obtain ⟨callId, -, rfl⟩ := Option.map_eq_some_iff.mp h
    exact .inl (s.leaves_noAnswerExpires callId)
  | establishCapExpires =>
    obtain ⟨callId, -, rfl⟩ := Option.map_eq_some_iff.mp h
    exact .inl (s.leaves_establishCapExpires callId)
  | resume i reply => exact absurd rfl (hne i reply)

end CallController

end Svarla.Web
