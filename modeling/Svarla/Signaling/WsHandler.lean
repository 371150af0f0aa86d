import Svarla.Delivery.Server
import Svarla.Signaling.Pairing

/-!
# The signaling handler of a modem gateway

`ModemGatewayWsHandler` with the state `ModemGatewayTelephonyProvider` keeps beside it: one current
socket, whether it is authenticated, the pending challenge, and the timers. The listeners of a socket
stay registered when another socket takes its place, so its events arrive at the same handler, and a
flow that waits for the database goes on in whatever state it finds then.

Beside the source's own fields the state has what happened so far: the messages sent to each socket,
the telephony messages dispatched, and the verifications that succeeded, each with the socket whose
message was verified.
-/

namespace Svarla.Signaling

open Svarla.Lib Svarla.Delivery

/-! ## Messages -/

/-- `StatusData`. -/
structure StatusData where
  signal : Option Int
  network : Option String
  operator : Option String
  band : Option String
  networkTech : Option String
  stale : Option (List String)
  modemModel : Option String
  modemManufacturer : Option String
  firmware : Option String
  imei : Option String
  imsi : Option String
  iccid : Option String
  msisdn : Option String
  modemUnsupportedWarning : Option String
  deriving DecidableEq, Repr

/-- A message that is dispatched, with what the provider does with it. -/
inductive TelephonyMessage
  | status (data : StatusData)
  | numberReport (number : Option String)
  | callAck (requestId : String)
  | answerAck (requestId : String)
  | smsResult (requestId : String)
  | callState (state : String) (requestId : Option String)
  /-- Any other type: the provider keeps nothing of it. -/
  | other (type : String)
  deriving DecidableEq, Repr

/-- The pending request a message settles, if it is there. -/
def TelephonyMessage.settles : TelephonyMessage → Option String
  | .callAck requestId | .answerAck requestId | .smsResult requestId => some requestId
  | .callState state requestId =>
    if state ∈ ["RINGING", "ANSWERED", "FAILED", "BUSY"] then truthy requestId else none
  | _ => none

/-- A message as it arrives. -/
inductive InboundMessage
  /-- Not JSON, or without a type. -/
  | invalid
  | authPair (publicKey pairingSecret : Option String)
  | authResponse (signature : Option String)
  | telephony (msg : TelephonyMessage)
  deriving DecidableEq, Repr

/-- A message to the gateway. -/
inductive OutboundMessage
  | authChallenge (nonce : List UInt8)
  | authSuccess
  | authError (reason : String)
  deriving DecidableEq, Repr

/-! ## The state -/

structure Challenge where
  nonce : List UInt8
  expiresAt : Int
  deriving DecidableEq, Repr

/-- A flow at its `await`. -/
structure AuthTask where
  /-- The socket whose message or connection started it; none for `resetPairing`. -/
  socket : Option Nat
  stage : AuthStage
  /-- What the database answered, once it has; none inside if it threw. -/
  answer : Option (Option PairingConfig)

/-- A verification that succeeded. -/
inductive Proof
  | pairing (req : PairRequest) (stored : String)
  | signature (nonce : List UInt8) (publicKey signature : String)
  deriving DecidableEq, Repr

structure WsHandler where
  ws : Option Nat
  authenticated : Bool
  pendingChallenge : Option Challenge
  lastAuthAttempt : Int
  /-- The timers, each with the socket it was started for. -/
  pingInterval : Option Nat
  pongTimeout : Option Nat
  authTimeout : Option Nat
  /-- The timers of `issueChallenge`, which are never cleared. -/
  challengeTimeouts : List (Option Nat)
  pongReceived : Bool
  -- the provider's
  pendingOperations : List String
  modemStatus : Option StatusData
  reportedNumber : Option String
  /-- The provider's configuration in the database. -/
  config : PairingConfig
  /-- The flows at work. -/
  tasks : List AuthTask
  /-- The number of sockets accepted so far; a socket is its number. -/
  sockets : Nat
  /-- `readyState` is `OPEN`. -/
  isOpen : Nat → Bool
  sent : List (Nat × OutboundMessage)
  dispatched : List (Nat × TelephonyMessage)
  proofs : List (Option Nat × Proof)

namespace WsHandler

/-- `sendMessage`. -/
def sendMessage (s : WsHandler) (msg : OutboundMessage) : WsHandler :=
  match s.ws with
  | some k => if s.isOpen k then { s with sent := s.sent ++ [(k, msg)] } else s
  | none => s

/-- `isConnected`. -/
def isConnected (s : WsHandler) : Bool :=
  match s.ws with
  | some k => s.isOpen k && s.authenticated
  | none => false

/-- `closeExisting`. -/
def closeExisting (s : WsHandler) : WsHandler :=
  { s with
    pingInterval := none, pongTimeout := none, authTimeout := none
    authenticated := false
    pendingChallenge := none
    isOpen := fun k => s.isOpen k && s.ws != some k
    ws := none }

/-- The provider's listener for the event `disconnected`. -/
def emitDisconnected (s : WsHandler) : WsHandler :=
  { s with pendingOperations := [], reportedNumber := none }

/-- `handleDisconnect`. -/
def handleDisconnect (s : WsHandler) : WsHandler :=
  emitDisconnected { s with
    pingInterval := none, pongTimeout := none, authTimeout := none
    ws := none
    authenticated := false
    pendingChallenge := none }

/-- `auth_error`, and `closeExisting`. -/
def reject (s : WsHandler) (reason : String) : WsHandler :=
  (s.sendMessage (.authError reason)).closeExisting

/-- A flow begins. -/
def start (s : WsHandler) (socket : Option Nat) (stage : AuthStage) : WsHandler :=
  { s with tasks := s.tasks ++ [⟨socket, stage, none⟩] }

/-- `handleConnection`. -/
def handleConnection (s : WsHandler) : WsHandler :=
  let s := if s.ws.isSome then s.closeExisting else s
  let k := s.sockets
  start { s with
    ws := some k
    authenticated := false
    pendingChallenge := none
    sockets := k + 1
    isOpen := Function.update s.isOpen k true
    pingInterval := some k
    pongReceived := true
    authTimeout := some k } (some k) .initiate

/-- `AUTH_RATE_LIMIT_MS`. -/
def authRateLimit : Int := 1000

/-- `CHALLENGE_EXPIRY_MS`. -/
def challengeExpiry : Int := 30000

/-- `handleStatus`: an identity field that the report leaves out keeps its value. -/
def handleStatus (prev : Option StatusData) (msg : StatusData) : StatusData :=
  let keepPrev (field : StatusData → Option String) : Option String :=
    (field msg).or (prev.bind field)
  { msg with
    modemModel := keepPrev (·.modemModel)
    modemManufacturer := keepPrev (·.modemManufacturer)
    firmware := keepPrev (·.firmware)
    imei := keepPrev (·.imei)
    imsi := keepPrev (·.imsi)
    iccid := keepPrev (·.iccid)
    msisdn := keepPrev (·.msisdn)
    modemUnsupportedWarning := keepPrev (·.modemUnsupportedWarning) }

/-- `handleInboundMessage` of the provider. -/
def handleInboundMessage (s : WsHandler) (msg : TelephonyMessage) : WsHandler :=
  match msg with
  | .status data => { s with modemStatus := some (handleStatus s.modemStatus data) }
  | .numberReport number => { s with reportedNumber := truthy number }
  | _ =>
    { s with pendingOperations := s.pendingOperations.filter fun id => some id != msg.settles }

/-- `dispatchMessage`. -/
def dispatchMessage (s : WsHandler) (k : Nat) (msg : TelephonyMessage) : WsHandler :=
  handleInboundMessage { s with dispatched := s.dispatched ++ [(k, msg)] } msg

/-- `handleAuthMessage` with `handleAuthPair` and `handleAuthResponse`, up to the first `await`. -/
def handleAuthMessage (s : WsHandler) (k : Nat) (now : Int) (msg : InboundMessage) : WsHandler :=
  if now - s.lastAuthAttempt < authRateLimit then s.reject "rate_limited"
  else
    let s := { s with lastAuthAttempt := now }
    match msg with
    | .authPair publicKey pairingSecret =>
      match truthy publicKey, truthy pairingSecret with
      | some publicKey, some pairingSecret =>
        s.start (some k) (.existingKey ⟨publicKey, pairingSecret⟩)
      | _, _ => s.reject "missing_fields"
    | .authResponse signature =>
      match truthy signature, s.pendingChallenge with
      | none, _ => s.reject "missing_signature"
      | some _, none => s.reject "no_pending_challenge"
      | some signature, some challenge =>
        if challenge.expiresAt < now then s.reject "challenge_expired"
        else s.start (some k) (.response signature)
    | _ => s

/-- `handleMessage`. -/
def handleMessage (s : WsHandler) (k : Nat) (now : Int) (msg : InboundMessage) : WsHandler :=
  match msg with
  | .invalid => s
  | .telephony msg => if s.authenticated then s.dispatchMessage k msg else s
  | _ => s.handleAuthMessage k now msg

/-- `issueChallenge`, in a flow of `socket`. -/
def issueChallenge (s : WsHandler) (socket : Option Nat) (now : Int) (nonce : List UInt8) :
    WsHandler :=
  let s := { s with pendingChallenge := some ⟨nonce, now + challengeExpiry⟩ }
  let s := s.sendMessage (.authChallenge nonce)
  { s with challengeTimeouts := s.challengeTimeouts ++ [socket] }

/-- The verification of a message of `socket` has succeeded. -/
def accept (s : WsHandler) (socket : Option Nat) (proof : Proof) : WsHandler :=
  sendMessage { s with
    authenticated := true
    authTimeout := none
    proofs := s.proofs ++ [(socket, proof)] } .authSuccess

/-- What a flow of `socket` does after its `await`, and the `await` it comes to next. -/
def proceed (P : Platform) (s : WsHandler) (socket : Option Nat) (now : Int) (nonce : List UInt8) :
    Resumed → WsHandler × Option AuthStage
  | .goOn stage => (s, some stage)
  | .challenge => (s.issueChallenge socket now nonce, none)
  | .reject reason => (s.reject reason, none)
  | .paired req stored => (s.accept socket (.pairing req stored), none)
  | .verify publicKey signature =>
    match s.pendingChallenge with
    | none => (s, none)  -- a TypeError
    | some challenge =>
      let s := { s with pendingChallenge := none }
      (if P.verify challenge.nonce (P.decodeBase64 publicKey) (P.decodeBase64 signature) then
          s.accept socket (.signature challenge.nonce publicKey signature)
        else s.reject "invalid_signature", none)
  | .done => (s, none)

/-- The database executes the call a flow waits for. -/
def storage (s : WsHandler) (i : Nat) (t : AuthTask) (call : DbCall) : WsHandler :=
  { s with
    config := if call = .fails then s.config else t.stage.writes.getD s.config
    tasks := s.tasks.set i { t with answer := some (if call = .done then some s.config else none) } }

/-- The flow goes on with the answer; if the call threw, it ends. -/
def resume (P : Platform) (s : WsHandler) (i : Nat) (t : AuthTask) (answer : Option PairingConfig)
    (now : Int) (nonce : List UInt8) : WsHandler :=
  let (s', stage) :=
    match answer with
    | none => (s, none)
    | some config => s.proceed P t.socket now nonce (t.stage.resume P now config)
  { s' with tasks := advance s.tasks i (stage.map fun stage => ⟨t.socket, stage, none⟩) }

end WsHandler

/-! ## Events -/

/-- What can happen next. -/
inductive WsEvent
  /-- A new socket. -/
  | connect
  /-- The listeners of a socket. -/
  | message (k : Nat) (msg : InboundMessage) (now : Int)
  | close (k : Nat)
  | error (k : Nat)
  | pong (k : Nat)
  /-- A socket is closing, and has not told its listeners. -/
  | closing (k : Nat)
  /-- The database executes the call of the `i`-th flow, and the flow goes on. -/
  | storage (i : Nat) (call : DbCall)
  | resume (i : Nat) (now : Int) (nonce : List UInt8)
  /-- The timers. -/
  | authTimeout
  | challengeTimeout (i : Nat)
  | pingTick (throws : Bool)
  | pongTimeout
  /-- A request of the provider, and its timer. -/
  | request (requestId : String)
  | requestTimeout (requestId : String)
  /-- `stop` of the provider. -/
  | stop
  /-- `resetPairing`. -/
  | resetPairing (secret : String)

open WsHandler

/-- One event. -/
def wsStep (P : Platform) (s : WsHandler) : WsEvent → Option WsHandler
  | .connect => some s.handleConnection
  | .message k msg now => if k < s.sockets then some (s.handleMessage k now msg) else none
  | .close k =>
    if k < s.sockets then
      some (handleDisconnect { s with isOpen := Function.update s.isOpen k false })
    else none
  | .error k => if k < s.sockets then some s.handleDisconnect else none
  | .pong k =>
    if k < s.sockets then some { s with pongReceived := true, pongTimeout := none } else none
  | .closing k => some { s with isOpen := Function.update s.isOpen k false }
  | .storage i call =>
    match s.tasks[i]? with
    | none => none
    | some t => if t.answer.isSome then none else some (s.storage i t call)
  | .resume i now nonce =>
    match s.tasks[i]? with
    | none => none
    | some t => t.answer.map fun answer => s.resume P i t answer now nonce
  | .authTimeout =>
    s.authTimeout.map fun _ =>
      let s := { s with authTimeout := none }
      if s.authenticated then s else s.reject "auth_timeout"
  | .challengeTimeout i =>
    s.challengeTimeouts[i]?.map fun _ =>
      let s := { s with challengeTimeouts := s.challengeTimeouts.eraseIdx i }
      if s.pendingChallenge.isSome && !s.authenticated then s.reject "challenge_timeout" else s
  | .pingTick throws =>
    s.pingInterval.map fun k =>
      if s.ws.any s.isOpen then
        let s := if s.pongReceived then s else { s with pongTimeout := some k }
        let s := { s with pongReceived := false }
        if throws then s.handleDisconnect else s
      else { s with pingInterval := none }
  | .pongTimeout => s.pongTimeout.map fun _ => s.closeExisting.emitDisconnected
  | .request requestId =>
    some (if s.isConnected then { s with pendingOperations := s.pendingOperations ++ [requestId] }
      else s)
  | .requestTimeout requestId =>
    some { s with pendingOperations := s.pendingOperations.filter (· != requestId) }
  | .stop => some (closeExisting { s with pendingOperations := [] })
  | .resetPairing secret => some (s.closeExisting.start none (.loadForDelete secret))

/-- A new handler, over a provider's configuration. -/
def WsHandler.init (config : PairingConfig) : WsHandler where
  ws := none
  authenticated := false
  pendingChallenge := none
  lastAuthAttempt := 0
  pingInterval := none
  pongTimeout := none
  authTimeout := none
  challengeTimeouts := []
  pongReceived := true
  pendingOperations := []
  modemStatus := none
  reportedNumber := none
  config := config
  tasks := []
  sockets := 0
  isOpen := fun _ => false
  sent := []
  dispatched := []
  proofs := []

end Svarla.Signaling
