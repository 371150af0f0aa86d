import Svarla.Lib.Outcome
import Svarla.Lib.Run
import Svarla.Lib.Threads
import Svarla.Signaling.SocketBinding

/-!
# The pairing handshake of gateway and server

The gateway's side is `PairingAuthenticator` of `modem-gateway/internal/signaling/auth.go`, over what
`run` decides when the process starts and one connection at a time of `ReconnectingClient`; the server's
is `WsHandler`. What the process remembers is fixed at its start: a secret if the key file was not there,
and none if it was. The server learns a key in the meantime, and forgets it when it is asked to pair
again, so the two come to want different flows: `handshake_succeeds_iff` says when a handshake ends well,
and `reconnect_rejected` shows the gateway that has just paired being refused.
-/

namespace Svarla.Signaling

open Svarla.Lib Svarla.Delivery

/-! ## The gateway -/

/-- `identity.Identity`: an Ed25519 key pair, in the texts that are sent. -/
structure Identity (P : Platform) where
  /-- `PublicKeyBase64`. -/
  publicKey : String
  /-- `Sign`, in base64. -/
  sign : List UInt8 → String
  publicKey_ne : publicKey ≠ ""
  publicKey_length : (P.decodeBase64 publicKey).length = 32
  sign_ne : ∀ nonce, sign nonce ≠ ""
  verifies : ∀ nonce, P.verify nonce (P.decodeBase64 publicKey) (P.decodeBase64 (sign nonce)) = true

/-- A connection, from `connect` to its loss. -/
structure Connection where
  socket : Nat
  /-- `sendPairRequest` is still to come. -/
  pairDue : Bool
  /-- What is on its way to the server, and to the gateway. -/
  outbox : List InboundMessage
  inbox : List OutboundMessage
  /-- What the gateway has handled. -/
  received : List OutboundMessage
  deriving DecidableEq, Repr

/-- What `Authenticate` returns, once it does. -/
inductive AuthResult
  | success
  | rejected (reason : String)
  deriving DecidableEq, Repr

/-- `resultCh` is read once. -/
def Connection.result (c : Connection) : Option AuthResult :=
  c.received.findSome? fun
    | .authSuccess => some .success
    | .authError reason => some (.rejected reason)
    | .authChallenge _ => none

/-- A process of the gateway. -/
structure Process (P : Platform) where
  identity : Identity P
  /-- `pairingSecret` of the authenticator. -/
  pairingSecret : String
  /-- `pairingSecret` of the configuration at the start of the process. -/
  configured : String
  connection : Option Connection

/-- A gateway and the server. -/
structure Joint (P : Platform) where
  /-- `modem-gateway.key`. -/
  keyFile : Option (Identity P)
  /-- `pairingSecret` in the gateway's configuration. -/
  configSecret : String
  process : Option (Process P)
  server : WsHandler

namespace Joint

variable {P : Platform}

/-- The messages to the socket that are sent between two states. -/
def sentBetween (before after : WsHandler) (socket : Nat) : List OutboundMessage :=
  ((after.sent.drop before.sent.length).filter (·.1 == socket)).map (·.2)

/-- The connection of the process becomes another. -/
def withConnection (s : Joint P) (p : Process P) (c : Option Connection) : Joint P :=
  { s with process := some { p with connection := c } }

/-- The server comes to another state; what it has sent to the gateway is on its way. -/
def serverTo (s : Joint P) (server : WsHandler) : Joint P :=
  { s with
    server
    process := s.process.map fun p => { p with
      connection := p.connection.map fun c => { c with
        inbox := c.inbox ++ sentBetween s.server server c.socket } } }

/-- `run`, up to the start of the signaling client; `fresh` is what `Generate` makes. -/
def run (s : Joint P) (fresh : Identity P) : Joint P :=
  let keyExisted := s.keyFile.isSome
  let identity := s.keyFile.getD fresh
  { s with
    keyFile := some identity
    process := some {
      identity
      pairingSecret := if keyExisted && s.configSecret != "" then "" else s.configSecret
      configured := s.configSecret
      connection := none } }

/-- `connect`, with `Authenticate` up to its first `select`. -/
def connect (s : Joint P) (p : Process P) : Joint P :=
  { s with
    server := s.server.handleConnection
    process := some { p with
      connection := some ⟨s.server.sockets, p.pairingSecret != "", [], [], []⟩ } }

/-- `sendPairRequest`. -/
def sendPairRequest (s : Joint P) (p : Process P) (c : Connection) : Joint P :=
  s.withConnection p (some { c with
    pairDue := false
    outbox := c.outbox ++ [.authPair (some p.identity.publicKey) (some p.pairingSecret)] })

/-- The handler that `Authenticate` registers. -/
def handle (s : Joint P) (p : Process P) (c : Connection) (msg : OutboundMessage) : Joint P :=
  s.withConnection p (some { c with
    received := c.received ++ [msg]
    outbox := match msg with
      | .authChallenge nonce => c.outbox ++ [.authResponse (some (p.identity.sign nonce))]
      | _ => c.outbox })

end Joint

/-! ## Events -/

/-- What can happen next. -/
inductive JointEvent (P : Platform)
  /-- The gateway's configuration is edited; its key file is removed. -/
  | configure (secret : String)
  | removeKey
  /-- The process starts, and exits. -/
  | run (fresh : Identity P)
  | exit
  /-- It connects, and the connection is lost or times out. -/
  | connect
  | disconnect
  | sendPairRequest
  /-- The next message arrives at the server, or at the gateway, or is lost. -/
  | deliver (now : Int)
  | receive
  | loseOutbound
  | loseInbound
  /-- Anything else at the server: its timers and flows, other sockets, and requests to pair again. -/
  | server (e : WsEvent)
  /-- The provider is updated: its row is written, or its handler is made anew. -/
  | update (config : PairingConfig)
  | restart

open Joint

/-- One event. -/
def jointStep (P : Platform) (s : Joint P) : JointEvent P → Option (Joint P)
  | .configure secret => some { s with configSecret := secret }
  | .removeKey => some { s with keyFile := none }
  | .run fresh => if s.process.isSome then none else some (s.run fresh)
  | .exit => some { s with process := none }
  | .connect =>
    match s.process with
    | none => none
    | some p => if p.connection.isSome then none else some (s.connect p)
  | .disconnect => s.process.map fun p => s.withConnection p none
  | .sendPairRequest =>
    match s.process with
    | none => none
    | some p =>
      match p.connection with
      | none => none
      | some c => if c.pairDue then some (s.sendPairRequest p c) else none
  | .deliver now =>
    match s.process with
    | none => none
    | some p =>
      match p.connection with
      | none => none
      | some c =>
        match c.outbox with
        | [] => none
        | msg :: rest =>
          (wsStep P s.server (.message c.socket msg now)).map
            (s.withConnection p (some { c with outbox := rest })).serverTo
  | .receive =>
    match s.process with
    | none => none
    | some p =>
      match p.connection with
      | none => none
      | some c =>
        match c.inbox with
        | [] => none
        | msg :: rest => some (s.handle p { c with inbox := rest } msg)
  | .loseOutbound =>
    s.process.map fun p => s.withConnection p
      (p.connection.map fun c => { c with outbox := c.outbox.tail })
  | .loseInbound =>
    s.process.map fun p => s.withConnection p
      (p.connection.map fun c => { c with inbox := c.inbox.tail })
  | .server e => (wsStep P s.server e).map s.serverTo
  | .update config => some { s with server := { s.server with config } }
  | .restart => some { s with
      server := .init s.server.config
      process := s.process.map fun p => { p with connection := none } }

/-- A gateway that was never started, and a server over a provider's configuration. -/
def Joint.init (P : Platform) (secret : String) (config : PairingConfig) : Joint P where
  keyFile := none
  configSecret := secret
  process := none
  server := .init config

/-! ## A handshake -/

section
variable {P : Platform} (t₀ t₁ : Int)

/-- What happens in a handshake: all that is sent arrives, from the time `t₀` to the time `t₁`, and the
database does its work, for the flow that began first before the others. -/
def InHandshake (s : Joint P) : JointEvent P → Prop
  | .sendPairRequest | .receive => True
  | .deliver now => t₀ ≤ now ∧ now ≤ t₁
  | .server (.storage i call) => call = .done ∧ ∀ j < i, ∀ t ∈ s.server.tasks[j]?, t.answer.isSome
  | .server (.resume _ now _) => t₀ ≤ now ∧ now ≤ t₁
  | _ => False

/-- A step of the handshake. -/
def HandshakeStep (s t : Joint P) : Prop :=
  ∃ e, InHandshake t₀ t₁ s e ∧ jointStep P s e = some t

/-- Both sides have authenticated, and no `auth_error` was sent. -/
def Succeeded (s : Joint P) : Prop :=
  ∃ p c, s.process = some p ∧ p.connection = some c ∧ c.result = some .success ∧
    (∀ reason, .authError reason ∉ c.inbox ++ c.received) ∧
    s.server.authenticated = true ∧ s.server.ws = some c.socket

/-- The server stores the gateway's key. -/
def Paired (s : Joint P) (p : Process P) : Prop :=
  s.server.config.publicKey = some p.identity.publicKey

/-- The server stores no key, but a secret that is the one in the gateway's configuration at the start
of the process, and that does not expire before `t₁`. -/
structure Pairable (s : Joint P) (p : Process P) : Prop where
  publicKey : truthy s.server.config.publicKey = none
  pairingSecret : ∃ stored ∈ truthy s.server.config.pairingSecret,
    P.toLowerCase stored = P.toLowerCase p.configured
  unexpired : ¬ ∃ t ∈ s.server.config.pairingSecretCreatedAt, pairingSecretTTL < t₁ - t

/-- What can happen next in a handshake, on the connection `c`. -/
inductive Moves (s : Joint P) (p : Process P) (c : Connection) : Joint P → Prop
  | sendPairRequest (hdue : c.pairDue = true) : Moves s p c (s.sendPairRequest p c)
  | deliver {now : Int} {msg : InboundMessage} {rest : List InboundMessage} (hfrom : t₀ ≤ now)
      (hto : now ≤ t₁) (houtbox : c.outbox = msg :: rest) (hsocket : c.socket < s.server.sockets) :
      Moves s p c ((s.withConnection p (some { c with outbox := rest })).serverTo
        (s.server.handleMessage c.socket now msg))
  | receive {msg : OutboundMessage} {rest : List OutboundMessage} (hinbox : c.inbox = msg :: rest) :
      Moves s p c (s.handle p { c with inbox := rest } msg)
  | storage {i : Nat} {t : AuthTask} (ht : s.server.tasks[i]? = some t) (hanswer : t.answer = none)
      (hfirst : ∀ j < i, ∀ t ∈ s.server.tasks[j]?, t.answer.isSome) :
      Moves s p c (s.serverTo (s.server.storage i t .done))
  | resume {i : Nat} {t : AuthTask} {answer : Option PairingConfig} {now : Int} {nonce : List UInt8}
      (ht : s.server.tasks[i]? = some t) (hanswer : t.answer = some answer) (hfrom : t₀ ≤ now)
      (hto : now ≤ t₁) : Moves s p c (s.serverTo (s.server.resume P i t answer now nonce))

variable {t₀ t₁}

/-- **What a step of the handshake is.** -/
theorem handshakeStep_iff {s t : Joint P} {p : Process P} {c : Connection}
    (hprocess : s.process = some p) (hconnection : p.connection = some c) :
    HandshakeStep t₀ t₁ s t ↔ Moves t₀ t₁ s p c t := by
  constructor
  · rintro ⟨e, he, hstep⟩
    cases e with
    | sendPairRequest =>
      simp only [jointStep, hprocess, hconnection, Option.ite_none_right_eq_some] at hstep
      obtain ⟨hdue, hstep⟩ := hstep
      cases hstep
      exact .sendPairRequest hdue
    | deliver now =>
      simp only [jointStep, hprocess, hconnection] at hstep
      split at hstep
      · cases hstep
      · next msg rest houtbox =>
        obtain ⟨server, hserver, rfl⟩ := Option.map_eq_some_iff.mp hstep
        obtain ⟨hsocket, hserver⟩ := Option.ite_none_right_eq_some.mp hserver
        cases hserver
        exact .deliver he.1 he.2 houtbox hsocket
    | receive =>
      simp only [jointStep, hprocess, hconnection] at hstep
      split at hstep
      · cases hstep
      · next msg rest hinbox =>
        cases hstep
        exact .receive hinbox
    | server e =>
      obtain ⟨server, hserver, rfl⟩ := Option.map_eq_some_iff.mp hstep
      cases e with
      | storage i call =>
        obtain ⟨rfl, hfirst⟩ := he
        simp only [wsStep] at hserver
        split at hserver
        · cases hserver
        · next t ht =>
          split at hserver <;> cases hserver
          next hanswer => exact .storage ht (by simpa using hanswer) hfirst
      | resume i now nonce =>
        simp only [wsStep] at hserver
        split at hserver
        · cases hserver
        · next t ht =>
          obtain ⟨answer, hanswer, rfl⟩ := Option.map_eq_some_iff.mp hserver
          exact .resume ht hanswer he.1 he.2
      | _ => exact he.elim
    | _ => exact he.elim
  · intro hmove
    cases hmove with
    | sendPairRequest hdue =>
      exact ⟨.sendPairRequest, trivial, by simp [jointStep, hprocess, hconnection, hdue]⟩
    | @deliver now msg rest hfrom hto houtbox hsocket =>
      exact ⟨.deliver now, ⟨hfrom, hto⟩, by
        simp [jointStep, hprocess, hconnection, houtbox, wsStep, hsocket]⟩
    | receive hinbox => exact ⟨.receive, trivial, by simp [jointStep, hprocess, hconnection, hinbox]⟩
    | @storage i t ht hanswer hfirst =>
      exact ⟨.server (.storage i .done), ⟨rfl, hfirst⟩, by simp [jointStep, wsStep, ht, hanswer]⟩
    | @resume i t answer now nonce ht hanswer hfrom hto =>
      exact ⟨.server (.resume i now nonce), ⟨hfrom, hto⟩, by simp [jointStep, wsStep, ht, hanswer]⟩

end

end Svarla.Signaling
