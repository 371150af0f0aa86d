import Svarla.Lib.Run
import Svarla.Lib.Threads
import Mathlib.Tactic.Common

/-!
# The Android app's sync connection

`SyncManager`: the WebSocket to the server, its listener, the timer that opens the next one, the
fallback to polling and the network observer. Each call, callback and timer runs to its end before the
next one; between them anything may happen. The listener is the same for every socket, and does not ask
whose callback it handles: a socket that `disconnect` has closed still reports its end, and that drops
the socket opened since, and sets the timer after `disconnect` (`opened_after_disconnect`). A call of
`connect` leaves the timer set, and a network that is lost and found opens another socket beside the one
that has not failed yet. Every message is emitted from a coroutine of its own.

In a run where none of this happens (`Orderly`) one socket is live at most, and it is the current one
(`one_live_socket`).

Beside the source's own fields the state has every socket opened so far, what was received and emitted,
and whether `disconnect` was called since the last `connect`. The requests, the log and `send` are left
out.
-/

namespace Svarla.Android

open Svarla.Lib

inductive SyncConnectionState
  | disconnected
  | connecting
  | connected
  | reconnecting
  | pollingFallback
  deriving DecidableEq, Repr

structure WebSocketEvent where
  type : String
  data : Option String
  deriving DecidableEq, Repr

/-- Where a WebSocket is. -/
inductive SocketPhase
  | connecting
  | opened
  /-- The server has closed its side. -/
  | closing
  /-- `onClosed` or `onFailure` was called. -/
  | ended
  deriving DecidableEq, Repr

structure WebSocket where
  phase : SocketPhase
  /-- `close` was called. -/
  closeCalled : Bool
  /-- `disconnect` was not called since the last `connect` when it was opened. -/
  asked : Bool
  deriving DecidableEq, Repr

/-- A reconnect job that is neither cancelled nor over. -/
inductive ReconnectJob
  /-- `scheduleReconnect`. -/
  | backoff
  /-- `startPollingFallback`. -/
  | whilePolling
  deriving DecidableEq, Repr

/-- An event, with the socket it was received on. -/
structure Emission where
  socket : Option Nat
  event : WebSocketEvent
  deriving DecidableEq, Repr

def initialBackoffMs : Nat := 1000

def maxBackoffMs : Nat := 60000

def maxConsecutiveFailures : Nat := 3

structure SyncManager where
  -- `authManager` and `networkMonitor`
  serverUrl : Option String
  sessionToken : Option String
  isConnected : Bool
  connectionState : SyncConnectionState
  webSocket : Option Nat
  reconnectJob : Option ReconnectJob
  pollingJob : Bool
  networkObserverJob : Bool
  currentBackoffMs : Nat
  consecutiveFailures : Nat
  wantConnection : Bool
  sockets : List WebSocket
  /-- The coroutines that are to emit an event. -/
  emissions : List Emission
  received : List Emission
  emitted : List Emission
  /-- `disconnect` was called since the last `connect`, or `connect` never was. -/
  stopped : Bool

namespace SyncManager

def init : SyncManager where
  serverUrl := none
  sessionToken := none
  isConnected := false
  connectionState := .disconnected
  webSocket := none
  reconnectJob := none
  pollingJob := false
  networkObserverJob := false
  currentBackoffMs := initialBackoffMs
  consecutiveFailures := 0
  wantConnection := false
  sockets := []
  emissions := []
  received := []
  emitted := []
  stopped := true

/-- Is there a server to connect to, and a session? -/
def hasSession (s : SyncManager) : Bool := s.serverUrl.isSome && s.sessionToken.isSome

/-- Connected, or about to be. -/
def isConnecting (s : SyncManager) : Bool :=
  s.connectionState = .connected || s.connectionState = .connecting

def connectWebSocket (s : SyncManager) : SyncManager :=
  { s with
    connectionState := .connecting
    webSocket := some s.sockets.length
    sockets := s.sockets ++ [⟨.connecting, false, !s.stopped⟩] }

def connect (s : SyncManager) : SyncManager :=
  let s := { s with stopped := false }
  if s.isConnecting then s
  else if !s.hasSession then s
  else
    let s := { s with wantConnection := true, networkObserverJob := true }
    if !s.isConnected then { s with connectionState := .reconnecting }
    else s.connectWebSocket

def closeSocket (socket : WebSocket) : WebSocket := { socket with closeCalled := true }

def disconnect (s : SyncManager) : SyncManager :=
  { s with
    wantConnection := false
    networkObserverJob := false
    reconnectJob := none
    pollingJob := false
    sockets := match s.webSocket with
      | none => s.sockets
      | some k => s.sockets.modify k closeSocket
    webSocket := none
    connectionState := .disconnected
    consecutiveFailures := 0
    currentBackoffMs := initialBackoffMs
    stopped := true }

def reconnect (s : SyncManager) : SyncManager := s.disconnect.connect

/-- Reset and connect afresh, as `connectIfNeeded` and the network observer do. -/
def reconnectFresh (s : SyncManager) : SyncManager :=
  let s := { s with
    consecutiveFailures := 0, currentBackoffMs := initialBackoffMs
    reconnectJob := none, pollingJob := false }
  if s.hasSession then s.connectWebSocket else s

def connectIfNeeded (s : SyncManager) : SyncManager :=
  match s.connectionState with
  | .connected | .connecting => s
  | .reconnecting => if s.isConnected then s.reconnectFresh else s
  | .disconnected | .pollingFallback => s.connect

def scheduleReconnect (s : SyncManager) : SyncManager :=
  { s with connectionState := .reconnecting, reconnectJob := some .backoff }

def startPollingFallback (s : SyncManager) : SyncManager :=
  { s with
    connectionState := .pollingFallback, pollingJob := true, reconnectJob := some .whilePolling }

def handleDisconnect (s : SyncManager) : SyncManager :=
  let s := { s with webSocket := none }
  if !s.isConnected then
    { s with connectionState := .reconnecting, reconnectJob := none, pollingJob := false }
  else
    let s := { s with consecutiveFailures := s.consecutiveFailures + 1 }
    if maxConsecutiveFailures ≤ s.consecutiveFailures then s.startPollingFallback
    else s.scheduleReconnect

/-- The delay of the reconnect job is over. -/
def runReconnectJob (s : SyncManager) : ReconnectJob → SyncManager
  | .backoff =>
    let s := { s with
      reconnectJob := none, currentBackoffMs := min (s.currentBackoffMs * 2) maxBackoffMs }
    if s.hasSession then s.connectWebSocket else { s with connectionState := .disconnected }
  | .whilePolling =>
    if s.hasSession then connectWebSocket { s with reconnectJob := none } else s

/-- `startNetworkObserver` collects a value. -/
def observeNetwork (s : SyncManager) (isAvailable : Bool) : SyncManager :=
  if isAvailable && s.wantConnection then
    if !s.isConnecting then s.reconnectFresh else s
  else if !isAvailable then
    let s := { s with reconnectJob := none, pollingJob := false }
    if s.connectionState ≠ .disconnected then { s with connectionState := .reconnecting } else s
  else s

/-! ### The listener -/

def enterPhase (phase : SocketPhase) (socket : WebSocket) : WebSocket := { socket with phase }

def onOpen (s : SyncManager) (k : Nat) : SyncManager :=
  { s with
    sockets := s.sockets.modify k (enterPhase .opened)
    connectionState := .connected
    consecutiveFailures := 0
    currentBackoffMs := initialBackoffMs
    pollingJob := false
    emissions := s.emissions ++ [⟨none, "connected", none⟩] }

/-- A message that cannot be parsed is only logged. -/
def onMessage (s : SyncManager) (k : Nat) (event : Option WebSocketEvent) : SyncManager :=
  match event with
  | none => s
  | some event =>
    { s with
      received := s.received ++ [⟨some k, event⟩], emissions := s.emissions ++ [⟨some k, event⟩] }

def onClosing (s : SyncManager) (k : Nat) : SyncManager :=
  { s with sockets := s.sockets.modify k fun socket => closeSocket (enterPhase .closing socket) }

/-- `onClosed` and `onFailure`. -/
def onEnded (s : SyncManager) (k : Nat) : SyncManager :=
  handleDisconnect { s with sockets := s.sockets.modify k (enterPhase .ended) }

end SyncManager

/-! ## Events -/

inductive SyncEvent
  -- the world
  | account (serverUrl sessionToken : Option String)
  | network (isConnected : Bool)
  -- the app
  | connect
  | disconnect
  | reconnect
  | connectIfNeeded
  -- the coroutines
  | reconnectJob
  | poll (succeeds : Bool)
  | observeNetwork (isAvailable : Bool)
  | emit (i : Nat)
  -- the callbacks of socket `k`
  | onOpen (k : Nat)
  | onMessage (k : Nat) (event : Option WebSocketEvent)
  | onClosing (k : Nat)
  | onClosed (k : Nat)
  | onFailure (k : Nat)
  deriving DecidableEq, Repr

/-- The socket that calls back. -/
def SyncEvent.caller : SyncEvent → Option Nat
  | .onOpen k | .onMessage k _ | .onClosing k | .onClosed k | .onFailure k => some k
  | _ => none

open SyncManager

/-- One event. A socket calls back in the order of its phases. -/
def syncStep (s : SyncManager) : SyncEvent → Option SyncManager
  | .account serverUrl sessionToken => some { s with serverUrl, sessionToken }
  | .network isConnected => some { s with isConnected }
  | .connect => some s.connect
  | .disconnect => some s.disconnect
  | .reconnect => some s.reconnect
  | .connectIfNeeded => some s.connectIfNeeded
  | .reconnectJob => s.reconnectJob.map s.runReconnectJob
  | .poll succeeds =>
    if s.pollingJob then
      some (if succeeds then { s with emitted := s.emitted ++ [⟨none, "full_sync", none⟩] } else s)
    else none
  | .observeNetwork isAvailable =>
    if s.networkObserverJob then some (s.observeNetwork isAvailable) else none
  | .emit i =>
    s.emissions[i]?.map fun emission =>
      { s with emissions := s.emissions.eraseIdx i, emitted := s.emitted ++ [emission] }
  | .onOpen k =>
    if (s.sockets[k]?.map WebSocket.phase) = some .connecting then some (s.onOpen k) else none
  | .onMessage k event =>
    if (s.sockets[k]?.map WebSocket.phase) = some .opened then some (s.onMessage k event) else none
  | .onClosing k =>
    if (s.sockets[k]?.map WebSocket.phase) = some .opened then some (s.onClosing k) else none
  | .onClosed k =>
    if (s.sockets[k]?.map WebSocket.phase) = some .closing then some (s.onEnded k) else none
  | .onFailure k =>
    if ∃ socket ∈ s.sockets[k]?, socket.phase ≠ .ended then some (s.onEnded k) else none

namespace SyncManager

/-! ## The condition -/

/-- The socket is there, and neither side has given it up. -/
def Live (s : SyncManager) (k : Nat) : Prop :=
  ∃ socket ∈ s.sockets[k]?, socket.phase ≠ .ended ∧ socket.closeCalled = false

/-- The current socket is live. -/
def HasLive (s : SyncManager) : Prop := ∃ k ∈ s.webSocket, s.Live k

instance (s : SyncManager) (k : Nat) : Decidable (s.Live k) :=
  inferInstanceAs (Decidable (∃ socket ∈ s.sockets[k]?, _))

instance (s : SyncManager) : Decidable s.HasLive :=
  inferInstanceAs (Decidable (∃ k ∈ s.webSocket, _))

/-- `connect` comes to open a socket. -/
def connectOpens (s : SyncManager) : Bool := !s.isConnecting && s.hasSession && s.isConnected

/-- Neither a reconnect job is waiting nor the current socket live where `connect` opens one. -/
def MayConnect (s : SyncManager) : Prop :=
  s.connectOpens = true → s.reconnectJob = none ∧ ¬ s.HasLive

/-- A socket reports its end before another is opened, and not after `disconnect`; where the app or the
network observer opens a socket the last one is not live any more, and `connect` finds no reconnect job;
and the messages of a socket are emitted in turn. -/
def Orderly (s : SyncManager) : SyncEvent → Prop
  | .connect => s.MayConnect
  | .connectIfNeeded =>
    if s.connectionState = .reconnecting then
      (s.isConnected && s.hasSession) = true → ¬ s.HasLive
    else s.MayConnect
  | .observeNetwork isAvailable =>
    (isAvailable && s.wantConnection && !s.isConnecting && s.hasSession) = true → ¬ s.HasLive
  | .onClosed k | .onFailure k => s.webSocket = some k ∨ s.webSocket = none ∧ s.stopped = false
  | .emit i => ∀ emission ∈ s.emissions[i]?, ∀ earlier ∈ s.emissions.take i,
    earlier.socket = emission.socket → emission.socket = none
  | _ => True

/-! ## The connection -/

/-- One socket is live at most, and it is the current one; a socket is opened, and a reconnect job
waiting, only while a connection is asked for. -/
structure Sound (s : SyncManager) : Prop where
  one : ∀ k, s.Live k → s.webSocket = some k
  current : s.webSocket ≠ none → s.stopped = false
  job : s.reconnectJob ≠ none → s.stopped = false ∧ ¬ s.HasLive
  observer : s.networkObserverJob = true → s.stopped = false
  waiting : s.connectionState = .reconnecting → s.stopped = false
  asked : ∀ socket ∈ s.sockets, socket.asked = true

variable {s t : SyncManager}

/-- No socket is opened, and nothing else concerns the connection. -/
theorem Sound.frame (h : s.Sound) (hlive : ∀ k, t.Live k → s.Live k)
    (hasked : ∀ socket ∈ t.sockets, socket.asked = true) (hcurrent : t.webSocket = s.webSocket)
    (hstopped : t.stopped = s.stopped) (hjob : t.reconnectJob ≠ none → s.reconnectJob ≠ none)
    (hobserver : t.networkObserverJob = true → s.stopped = false)
    (hwaiting : t.connectionState = .reconnecting → s.stopped = false) : t.Sound where
  one k hk := hcurrent.trans (h.one k (hlive k hk))
  current hsome := hstopped.trans (h.current (hcurrent ▸ hsome))
  job hsome := by
    obtain ⟨hasks, hnone⟩ := h.job (hjob hsome)
    refine ⟨hstopped.trans hasks, fun ⟨k, hk, hlivek⟩ => hnone ⟨k, ?_, hlive k hlivek⟩⟩
    rwa [hcurrent] at hk
  observer hactive := hstopped.trans (hobserver hactive)
  waiting hstate := hstopped.trans (hwaiting hstate)
  asked := hasked

theorem Sound.not_live (h : s.Sound) (hnone : ¬ s.HasLive) (k : Nat) : ¬ s.Live k :=
  fun hk => hnone ⟨k, h.one k hk, hk⟩

/-- No socket is live while a connection is asked for. -/
theorem Sound.of_idle (hlive : ∀ k, ¬ s.Live k) (hstopped : s.stopped = false)
    (hasked : ∀ socket ∈ s.sockets, socket.asked = true) : s.Sound where
  one k hk := absurd hk (hlive k)
  current _ := hstopped
  job _ := ⟨hstopped, fun ⟨k, _, hk⟩ => hlive k hk⟩
  observer _ := hstopped
  waiting _ := hstopped
  asked := hasked

/-- A socket is opened where none is live. -/
theorem Sound.connectWebSocket (hlive : ∀ k, ¬ s.Live k) (hstopped : s.stopped = false)
    (hasked : ∀ socket ∈ s.sockets, socket.asked = true) (hjob : s.reconnectJob = none) :
    s.connectWebSocket.Sound where
  one k hk := by
    obtain ⟨socket, hsocket, hopen⟩ := hk
    obtain hold | ⟨rfl, -⟩ := of_getElem?_concat hsocket
    · exact absurd ⟨socket, hold, hopen⟩ (hlive k)
    · rfl
  current _ := hstopped
  job hsome := absurd hjob hsome
  observer _ := hstopped
  waiting _ := hstopped
  asked socket hsocket := by
    obtain hold | hnew := List.mem_append.mp hsocket
    · exact hasked socket hold
    · rw [List.mem_singleton.mp hnew, hstopped]
      rfl

/-- A socket changes, and stays given up if it was. -/
theorem live_of_modify {k : Nat} {f : WebSocket → WebSocket}
    (hsockets : t.sockets = s.sockets.modify k f)
    (hf : ∀ socket ∈ s.sockets[k]?, (f socket).phase ≠ .ended ∧ (f socket).closeCalled = false →
      socket.phase ≠ .ended ∧ socket.closeCalled = false) (j : Nat) (hj : t.Live j) : s.Live j := by
  obtain ⟨socket, hsocket, hopen⟩ := hj
  rw [hsockets, List.getElem?_modify] at hsocket
  obtain ⟨old, hold, rfl⟩ := Option.map_eq_some_iff.mp hsocket
  refine ⟨old, hold, ?_⟩
  split at hopen
  · next heq => exact hf old (heq ▸ hold) hopen
  · exact hopen

/-- A socket is given up. -/
theorem not_live_of_modify {k : Nat} {f : WebSocket → WebSocket}
    (hsockets : t.sockets = s.sockets.modify k f)
    (hf : ∀ socket, ¬ ((f socket).phase ≠ .ended ∧ (f socket).closeCalled = false)) : ¬ t.Live k := by
  rintro ⟨socket, hsocket, hopen⟩
  rw [hsockets, List.getElem?_modify] at hsocket
  obtain ⟨old, -, rfl⟩ := Option.map_eq_some_iff.mp hsocket
  rw [if_pos rfl] at hopen
  exact hf old hopen

theorem asked_modify {k : Nat} {f : WebSocket → WebSocket} {sockets : List WebSocket}
    (hf : ∀ socket, (f socket).asked = socket.asked)
    (hasked : ∀ socket ∈ sockets, socket.asked = true) :
    ∀ socket ∈ sockets.modify k f, socket.asked = true := by
  intro socket hsocket
  obtain ⟨j, hj⟩ := List.mem_iff_getElem?.mp hsocket
  rw [List.getElem?_modify] at hj
  obtain ⟨old, hold, rfl⟩ := Option.map_eq_some_iff.mp hj
  have holdasked := hasked old (List.mem_of_getElem? hold)
  split
  · exact (hf old).trans holdasked
  · exact holdasked

/-! ### One lemma a function -/

/-- A connection is asked for. -/
theorem Sound.asks (h : s.Sound) : Sound { s with stopped := false } :=
  ⟨h.one, fun _ => rfl, fun hsome => ⟨rfl, (h.job hsome).2⟩, fun _ => rfl, fun _ => rfl, h.asked⟩

theorem Sound.connect (h : s.Sound) (hmay : s.MayConnect) : s.connect.Sound := by
  have hasks := h.asks
  rw [SyncManager.connect]
  dsimp only
  split
  · exact hasks
  · next hidle =>
    split
    · exact hasks
    · next hsession =>
      split
      · exact hasks.frame (fun _ hk => hk) h.asked rfl rfl id (fun _ => rfl) fun _ => rfl
      · next hup =>
        have hopens : s.connectOpens = true := by
          simp only [Bool.not_eq_true', Bool.not_eq_false] at hsession hup
          rw [connectOpens, Bool.and_eq_true, Bool.and_eq_true]
          exact ⟨⟨by simpa [isConnecting] using hidle, hsession⟩, hup⟩
        obtain ⟨hjob, hnone⟩ := hmay hopens
        exact .connectWebSocket (h.not_live hnone) rfl h.asked hjob

theorem Sound.disconnect (h : s.Sound) : s.disconnect.Sound := by
  have hclosed : (∀ k, ¬ s.disconnect.Live k) ∧
      ∀ socket ∈ s.disconnect.sockets, socket.asked = true := by
    cases hcurrent : s.webSocket with
    | none =>
      have hsockets : s.disconnect.sockets = s.sockets := by
        simp only [SyncManager.disconnect, hcurrent]
      refine ⟨fun k ⟨socket, hsocket, hopen⟩ => ?_, hsockets ▸ h.asked⟩
      rw [hsockets] at hsocket
      cases hcurrent.symm.trans (h.one k ⟨socket, hsocket, hopen⟩)
    | some k =>
      have hsockets : s.disconnect.sockets = s.sockets.modify k closeSocket := by
        simp only [SyncManager.disconnect, hcurrent]
      refine ⟨fun j hj => ?_, hsockets ▸ asked_modify (fun _ => rfl) h.asked⟩
      have hlive := live_of_modify hsockets (fun _ _ hopen => ⟨hopen.1, by cases hopen.2⟩) j hj
      cases hcurrent.symm.trans (h.one j hlive)
      exact not_live_of_modify hsockets (fun _ hopen => by cases hopen.2) hj
  exact ⟨fun k hk => absurd hk (hclosed.1 k), fun hsome => absurd rfl hsome,
    fun hsome => absurd rfl hsome, fun hactive => absurd hactive Bool.false_ne_true,
    nofun, hclosed.2⟩

theorem Sound.reconnect (h : s.Sound) : s.reconnect.Sound :=
  h.disconnect.connect fun _ => ⟨rfl, fun ⟨_, hk, _⟩ => absurd hk (Option.not_mem_none _)⟩

theorem Sound.reconnectFresh (h : s.Sound) (hstopped : s.stopped = false)
    (hnone : s.hasSession = true → ¬ s.HasLive) : s.reconnectFresh.Sound := by
  rw [SyncManager.reconnectFresh]
  split
  · next hsession => exact .connectWebSocket (h.not_live (hnone hsession)) hstopped h.asked rfl
  · exact h.frame (fun _ hk => hk) h.asked rfl rfl (fun hsome => absurd rfl hsome)
      (fun _ => hstopped) fun _ => hstopped

theorem Sound.connectIfNeeded (h : s.Sound) (horderly : s.Orderly .connectIfNeeded) :
    s.connectIfNeeded.Sound := by
  rw [Orderly] at horderly
  rw [SyncManager.connectIfNeeded]
  cases hstate : s.connectionState with
  | connected => exact h
  | connecting => exact h
  | reconnecting =>
    rw [if_pos hstate] at horderly
    dsimp only
    split
    · next hup =>
      exact h.reconnectFresh (h.waiting hstate) fun hsession =>
        horderly (by rw [hup, hsession]; rfl)
    · exact h
  | disconnected =>
    rw [if_neg (by rw [hstate]; nofun)] at horderly
    exact h.connect horderly
  | pollingFallback =>
    rw [if_neg (by rw [hstate]; nofun)] at horderly
    exact h.connect horderly

theorem Sound.handleDisconnect (hlive : ∀ k, ¬ s.Live k) (hstopped : s.stopped = false)
    (hasked : ∀ socket ∈ s.sockets, socket.asked = true) : s.handleDisconnect.Sound := by
  rw [SyncManager.handleDisconnect]
  dsimp only
  split
  · exact .of_idle hlive hstopped hasked
  · split <;> exact .of_idle hlive hstopped hasked

theorem Sound.onEnded (h : s.Sound) {k : Nat}
    (horderly : s.webSocket = some k ∨ s.webSocket = none ∧ s.stopped = false) :
    (s.onEnded k).Sound := by
  set ended : SyncManager := { s with sockets := s.sockets.modify k (enterPhase .ended) } with hended
  have hstopped : s.stopped = false :=
    horderly.elim (fun hcurrent => h.current (by rw [hcurrent]; nofun)) And.right
  refine .handleDisconnect (s := ended) (fun j hj => ?_) hstopped
    (asked_modify (fun _ => rfl) h.asked)
  have hlive : s.Live j :=
    live_of_modify (t := ended) rfl (fun _ _ hopen => ⟨absurd rfl hopen.1, hopen.2⟩) j hj
  obtain hcurrent | ⟨hcurrent, -⟩ := horderly
  · cases hcurrent.symm.trans (h.one j hlive)
    exact not_live_of_modify (t := ended) rfl (fun _ hopen => hopen.1 rfl) hj
  · cases hcurrent.symm.trans (h.one j hlive)

theorem Sound.runReconnectJob (h : s.Sound) {job : ReconnectJob} (hjob : s.reconnectJob = some job) :
    (s.runReconnectJob job).Sound := by
  obtain ⟨hstopped, hnone⟩ := h.job (by rw [hjob]; nofun)
  have hlive := h.not_live hnone
  cases job with
  | backoff =>
    rw [SyncManager.runReconnectJob]
    dsimp only
    split
    · exact .connectWebSocket hlive hstopped h.asked rfl
    · exact .of_idle hlive hstopped h.asked
  | whilePolling =>
    rw [SyncManager.runReconnectJob]
    split
    · exact .connectWebSocket hlive hstopped h.asked rfl
    · exact h

theorem Sound.observeNetwork (h : s.Sound) {isAvailable : Bool} (hactive : s.networkObserverJob = true)
    (horderly : s.Orderly (.observeNetwork isAvailable)) : (s.observeNetwork isAvailable).Sound := by
  have hstopped := h.observer hactive
  have hcancel : Sound { s with reconnectJob := none, pollingJob := false } :=
    h.frame (fun _ hk => hk) h.asked rfl rfl (fun hsome => absurd rfl hsome) (fun _ => hstopped)
      fun _ => hstopped
  rw [SyncManager.observeNetwork]
  split
  · next hrestored =>
    split
    · next hidle =>
      refine h.reconnectFresh hstopped fun hsession => horderly ?_
      rw [hrestored, hidle, hsession]
      rfl
    · exact h
  · split
    · dsimp only
      split
      · exact hcancel.frame (fun _ hk => hk) h.asked rfl rfl id (fun _ => hstopped) fun _ => hstopped
      · exact hcancel
    · exact h

/-- A socket that is not given up changes, and is not opened. -/
theorem Sound.touch (h : s.Sound) {k : Nat} {f : WebSocket → WebSocket}
    (hsockets : t.sockets = s.sockets.modify k f)
    (hf : ∀ socket ∈ s.sockets[k]?, (f socket).phase ≠ .ended ∧ (f socket).closeCalled = false →
      socket.phase ≠ .ended ∧ socket.closeCalled = false)
    (hasked : ∀ socket, (f socket).asked = socket.asked) (hcurrent : t.webSocket = s.webSocket)
    (hstopped : t.stopped = s.stopped) (hjob : t.reconnectJob = s.reconnectJob)
    (hobserver : t.networkObserverJob = s.networkObserverJob)
    (hstate : t.connectionState = .reconnecting → s.connectionState = .reconnecting) : t.Sound :=
  h.frame (live_of_modify hsockets hf) (hsockets ▸ asked_modify hasked h.asked) hcurrent hstopped
    (fun hsome => hjob ▸ hsome) (fun hactive => h.observer (hobserver ▸ hactive))
    fun hwaits => h.waiting (hstate hwaits)

theorem Sound.step {event : SyncEvent} (h : s.Sound) (horderly : s.Orderly event)
    (hstep : syncStep s event = some t) : t.Sound := by
  cases event with
  | account serverUrl sessionToken =>
    cases hstep
    exact h.frame (fun _ hk => hk) h.asked rfl rfl id h.observer h.waiting
  | network isConnected =>
    cases hstep
    exact h.frame (fun _ hk => hk) h.asked rfl rfl id h.observer h.waiting
  | connect => cases hstep; exact h.connect horderly
  | disconnect => cases hstep; exact h.disconnect
  | reconnect => cases hstep; exact h.reconnect
  | connectIfNeeded => cases hstep; exact h.connectIfNeeded horderly
  | reconnectJob =>
    obtain ⟨job, hjob, rfl⟩ := Option.map_eq_some_iff.mp hstep
    exact h.runReconnectJob hjob
  | poll succeeds =>
    obtain ⟨-, hstep⟩ := Option.ite_none_right_eq_some.mp hstep
    cases hstep
    split
    · exact h.frame (fun _ hk => hk) h.asked rfl rfl id h.observer h.waiting
    · exact h
  | observeNetwork isAvailable =>
    obtain ⟨hactive, hstep⟩ := Option.ite_none_right_eq_some.mp hstep
    cases hstep
    exact h.observeNetwork hactive horderly
  | emit i =>
    obtain ⟨emission, -, rfl⟩ := Option.map_eq_some_iff.mp hstep
    exact h.frame (fun _ hk => hk) h.asked rfl rfl id h.observer h.waiting
  | onOpen k =>
    obtain ⟨hphase, hstep⟩ := Option.ite_none_right_eq_some.mp hstep
    cases hstep
    refine h.touch rfl (fun socket hsocket hopen => ⟨?_, hopen.2⟩) (fun _ => rfl) rfl rfl rfl rfl nofun
    obtain ⟨old, hold, hconnecting⟩ := Option.map_eq_some_iff.mp hphase
    cases hold.symm.trans hsocket
    rw [hconnecting]
    nofun
  | onMessage k event =>
    obtain ⟨-, hstep⟩ := Option.ite_none_right_eq_some.mp hstep
    cases hstep
    cases event with
    | none => exact h
    | some event => exact h.frame (fun _ hk => hk) h.asked rfl rfl id h.observer h.waiting
  | onClosing k =>
    obtain ⟨-, hstep⟩ := Option.ite_none_right_eq_some.mp hstep
    cases hstep
    exact h.touch rfl (fun _ _ hopen => by cases hopen.2) (fun _ => rfl) rfl rfl rfl rfl id
  | onClosed k =>
    obtain ⟨-, hstep⟩ := Option.ite_none_right_eq_some.mp hstep
    cases hstep
    exact h.onEnded horderly
  | onFailure k =>
    obtain ⟨-, hstep⟩ := Option.ite_none_right_eq_some.mp hstep
    cases hstep
    exact h.onEnded horderly

/-! ## The messages -/

/-- The event, if it was received on the socket. -/
def ofSocket (k : Nat) (emission : Emission) : Option WebSocketEvent :=
  if emission.socket = some k then some emission.event else none

/-- An event of the app's own is no socket's. -/
theorem filterMap_own (emissions : List Emission) (event : WebSocketEvent) (k : Nat) :
    (emissions ++ [(⟨none, event⟩ : Emission)]).filterMap (ofSocket k) =
      emissions.filterMap (ofSocket k) := by
  rw [List.filterMap_append]
  exact List.append_nil _

/-- The messages of each socket are emitted in the order they were received in. -/
def InOrder (s : SyncManager) : Prop :=
  ∀ k, s.received.filterMap (ofSocket k) =
    s.emitted.filterMap (ofSocket k) ++ s.emissions.filterMap (ofSocket k)

/-- Nothing is received or emitted. -/
def SameEvents (s t : SyncManager) : Prop :=
  t.received = s.received ∧ t.emitted = s.emitted ∧ t.emissions = s.emissions

theorem InOrder.same (h : s.InOrder) (hsame : SameEvents s t) : t.InOrder := by
  intro k
  rw [hsame.1, hsame.2.1, hsame.2.2]
  exact h k

theorem sameEvents_connect (s : SyncManager) : SameEvents s s.connect := by
  rw [SyncManager.connect]
  dsimp only
  split
  · exact ⟨rfl, rfl, rfl⟩
  · split
    · exact ⟨rfl, rfl, rfl⟩
    · split <;> exact ⟨rfl, rfl, rfl⟩

theorem sameEvents_reconnectFresh (s : SyncManager) : SameEvents s s.reconnectFresh := by
  rw [SyncManager.reconnectFresh]
  split <;> exact ⟨rfl, rfl, rfl⟩

theorem sameEvents_connectIfNeeded (s : SyncManager) : SameEvents s s.connectIfNeeded := by
  rw [SyncManager.connectIfNeeded]
  cases s.connectionState with
  | connected | connecting => exact ⟨rfl, rfl, rfl⟩
  | reconnecting =>
    dsimp only
    split
    · exact sameEvents_reconnectFresh s
    · exact ⟨rfl, rfl, rfl⟩
  | disconnected | pollingFallback => exact sameEvents_connect s

theorem sameEvents_onEnded (s : SyncManager) (k : Nat) : SameEvents s (s.onEnded k) := by
  rw [onEnded, handleDisconnect]
  dsimp only
  split
  · exact ⟨rfl, rfl, rfl⟩
  · split <;> exact ⟨rfl, rfl, rfl⟩

theorem sameEvents_runReconnectJob (s : SyncManager) (job : ReconnectJob) :
    SameEvents s (s.runReconnectJob job) := by
  cases job with
  | backoff =>
    rw [runReconnectJob]
    dsimp only
    split <;> exact ⟨rfl, rfl, rfl⟩
  | whilePolling =>
    rw [runReconnectJob]
    split <;> exact ⟨rfl, rfl, rfl⟩

theorem sameEvents_observeNetwork (s : SyncManager) (isAvailable : Bool) :
    SameEvents s (s.observeNetwork isAvailable) := by
  rw [SyncManager.observeNetwork]
  split
  · split
    · exact sameEvents_reconnectFresh s
    · exact ⟨rfl, rfl, rfl⟩
  · split
    · dsimp only
      split <;> exact ⟨rfl, rfl, rfl⟩
    · exact ⟨rfl, rfl, rfl⟩

/-- The coroutine of a message comes to emit it, the first of its socket. -/
theorem InOrder.emit (h : s.InOrder) {i : Nat} {emission : Emission}
    (hemission : s.emissions[i]? = some emission) (horderly : s.Orderly (.emit i)) :
    InOrder { s with
      emissions := s.emissions.eraseIdx i, emitted := s.emitted ++ [emission] } := by
  intro k
  change s.received.filterMap (ofSocket k) = (s.emitted ++ [emission]).filterMap (ofSocket k) ++
    (s.emissions.eraseIdx i).filterMap (ofSocket k)
  rw [h k, List.filterMap_append]
  cases hof : ofSocket k emission with
  | none =>
    rw [filterMap_eraseIdx_of_none hemission hof, List.filterMap_cons_none hof, List.filterMap_nil,
      List.append_nil]
  | some event =>
    have hsocket : emission.socket = some k := by
      by_contra hne
      rw [ofSocket, if_neg hne] at hof
      cases hof
    have hfirst := filterMap_eraseIdx_of_first hemission hof fun j hj earlier hearlier => by
      refine if_neg fun hsame => ?_
      have htaken : earlier ∈ s.emissions.take i :=
        List.mem_of_getElem? ((List.getElem?_take_of_lt hj).trans hearlier)
      have hnone := horderly emission hemission earlier htaken (hsame.trans hsocket.symm)
      cases hsocket.symm.trans hnone
    rw [hfirst, List.filterMap_cons_some hof, List.filterMap_nil, List.append_assoc,
      List.singleton_append]

theorem InOrder.step {event : SyncEvent} (h : s.InOrder) (horderly : s.Orderly event)
    (hstep : syncStep s event = some t) : t.InOrder := by
  cases event with
  | account serverUrl sessionToken => cases hstep; exact h
  | network isConnected => cases hstep; exact h
  | connect => cases hstep; exact h.same (sameEvents_connect s)
  | disconnect => cases hstep; exact h
  | reconnect => cases hstep; exact h.same (sameEvents_connect s.disconnect)
  | connectIfNeeded => cases hstep; exact h.same (sameEvents_connectIfNeeded s)
  | reconnectJob =>
    obtain ⟨job, -, rfl⟩ := Option.map_eq_some_iff.mp hstep
    exact h.same (sameEvents_runReconnectJob s job)
  | poll succeeds =>
    obtain ⟨-, hstep⟩ := Option.ite_none_right_eq_some.mp hstep
    cases hstep
    split
    · exact fun k => (h k).trans
        (congrArg (· ++ s.emissions.filterMap (ofSocket k)) (filterMap_own s.emitted _ k).symm)
    · exact h
  | observeNetwork isAvailable =>
    obtain ⟨-, hstep⟩ := Option.ite_none_right_eq_some.mp hstep
    cases hstep
    exact h.same (sameEvents_observeNetwork s isAvailable)
  | emit i =>
    obtain ⟨emission, hemission, rfl⟩ := Option.map_eq_some_iff.mp hstep
    exact h.emit hemission horderly
  | onOpen k =>
    obtain ⟨-, hstep⟩ := Option.ite_none_right_eq_some.mp hstep
    cases hstep
    exact fun j => (h j).trans
      (congrArg (s.emitted.filterMap (ofSocket j) ++ ·) (filterMap_own s.emissions _ j).symm)
  | onMessage k event =>
    obtain ⟨-, hstep⟩ := Option.ite_none_right_eq_some.mp hstep
    cases hstep
    cases event with
    | none => exact h
    | some event =>
      intro j
      change (s.received ++ [(⟨some k, event⟩ : Emission)]).filterMap (ofSocket j) =
        s.emitted.filterMap (ofSocket j) ++
          (s.emissions ++ [(⟨some k, event⟩ : Emission)]).filterMap (ofSocket j)
      rw [List.filterMap_append, List.filterMap_append, h j, List.append_assoc]
  | onClosing k =>
    obtain ⟨-, hstep⟩ := Option.ite_none_right_eq_some.mp hstep
    cases hstep
    exact h
  | onClosed k =>
    obtain ⟨-, hstep⟩ := Option.ite_none_right_eq_some.mp hstep
    cases hstep
    exact h.same (sameEvents_onEnded s k)
  | onFailure k =>
    obtain ⟨-, hstep⟩ := Option.ite_none_right_eq_some.mp hstep
    cases hstep
    exact h.same (sameEvents_onEnded s k)

/-! ## Every run -/

/-- What the connection is to keep at an event that brings it from `s` to `t`. -/
structure Safe (s t : SyncManager) (event : SyncEvent) : Prop where
  /-- One socket is live at most: the current one. -/
  one : ∀ k, t.Live k → t.webSocket = some k
  /-- No socket was opened after `disconnect` and before the next `connect`. -/
  asked : ∀ socket ∈ t.sockets, socket.asked = true
  /-- A socket that is not the current one leaves that alone. -/
  kept : ∀ k ∈ event.caller, ∀ m ∈ s.webSocket, m ≠ k →
    t.webSocket = some m ∧ (s.Live m → t.Live m)
  order : ∀ k, t.emitted.filterMap (ofSocket k) <+: t.received.filterMap (ofSocket k)

/-- A callback of an earlier socket changes that socket only. -/
theorem Orderly.kept {event : SyncEvent} (horderly : s.Orderly event)
    (hstep : syncStep s event = some t) {k m : Nat} (hk : event.caller = some k)
    (hm : s.webSocket = some m) (hne : m ≠ k) : t.webSocket = some m ∧ (s.Live m → t.Live m) := by
  have hother : ∀ f : WebSocket → WebSocket, (s.sockets.modify k f)[m]? = s.sockets[m]? := by
    intro f
    rw [List.getElem?_modify]
    cases s.sockets[m]? <;> simp [hne.symm]
  -- the end of an earlier socket is not reported while another one is current
  have hended : ¬ (s.webSocket = some k ∨ s.webSocket = none ∧ s.stopped = false) := by
    rintro (hcurrent | ⟨hcurrent, -⟩)
    · exact hne (Option.some.inj (hm.symm.trans hcurrent))
    · cases hm.symm.trans hcurrent
  cases event with
  | onOpen k' =>
    obtain ⟨-, hstep⟩ := Option.ite_none_right_eq_some.mp hstep
    cases hstep
    cases hk
    exact ⟨hm, fun ⟨socket, hsocket, hopen⟩ => ⟨socket, (hother _).trans hsocket, hopen⟩⟩
  | onMessage k' event =>
    obtain ⟨-, hstep⟩ := Option.ite_none_right_eq_some.mp hstep
    cases hstep
    cases event <;> exact ⟨hm, id⟩
  | onClosing k' =>
    obtain ⟨-, hstep⟩ := Option.ite_none_right_eq_some.mp hstep
    cases hstep
    cases hk
    exact ⟨hm, fun ⟨socket, hsocket, hopen⟩ => ⟨socket, (hother _).trans hsocket, hopen⟩⟩
  | onClosed k' => cases hk; exact absurd horderly hended
  | onFailure k' => cases hk; exact absurd horderly hended
  | _ => cases hk

theorem sound_init : init.Sound where
  one k hk := by simp [Live, init] at hk
  current hsome := absurd rfl hsome
  job hsome := absurd rfl hsome
  observer hactive := absurd hactive Bool.false_ne_true
  waiting := nofun
  asked _ hsocket := absurd hsocket List.not_mem_nil

instance (s : SyncManager) : Decidable s.MayConnect := inferInstanceAs (Decidable (_ → _))

instance (s : SyncManager) : (event : SyncEvent) → Decidable (s.Orderly event)
  | .connect => inferInstanceAs (Decidable s.MayConnect)
  | .connectIfNeeded =>
    inferInstanceAs (Decidable (if s.connectionState = .reconnecting then _ → ¬ s.HasLive
      else s.MayConnect))
  | .observeNetwork _ => inferInstanceAs (Decidable (_ → _))
  | .onClosed _ | .onFailure _ => inferInstanceAs (Decidable (_ ∨ _))
  | .emit i => inferInstanceAs (Decidable (∀ emission ∈ s.emissions[i]?, _))
  | .account _ _ | .network _ | .disconnect | .reconnect | .reconnectJob | .poll _ | .onOpen _
  | .onMessage _ _ | .onClosing _ => .isTrue trivial

end SyncManager

variable {events : List SyncEvent} {event : SyncEvent} {s t : SyncManager}

/-- **One live socket.** In every run in which a socket reports its end before another is opened and not
after `disconnect`, nothing is opened beside a socket that is live, and the messages are emitted in
turn, one socket is live at most, it is the current one, no earlier one drops or replaces it, none is
opened after `disconnect` and before the next `connect`, and the messages of each socket are emitted in
the order they were received in. -/
theorem one_live_socket (hguard : Guarded syncStep SyncManager.Orderly .init (events ++ [event]))
    (hrun : exec syncStep .init events = some s) (hstep : syncStep s event = some t) :
    SyncManager.Safe s t event := by
  obtain ⟨hbefore, hlast⟩ := hguard.of_append
  have horderly := (hlast s hrun).1
  obtain ⟨hsound, horder⟩ := hbefore.invariant (I := fun s => s.Sound ∧ s.InOrder)
    (fun _ _ _ ⟨hs, ho⟩ horderly hstep => ⟨hs.step horderly hstep, ho.step horderly hstep⟩)
    ⟨SyncManager.sound_init, fun _ => rfl⟩ hrun
  have hsound' := hsound.step horderly hstep
  exact
    { one := hsound'.one
      asked := hsound'.asked
      kept := fun k hk m hm hne => horderly.kept hstep hk hm hne
      order := fun k => ⟨_, ((horder.step horderly hstep) k).symm⟩ }

/-- The app connects, receives a message and loses its socket, and the timer opens the next one. -/
def reconnectRun : List SyncEvent :=
  [.account (some "https://server") (some "token"), .network true, .connect, .onOpen 0,
    .onMessage 0 (some ⟨"sms", none⟩), .emit 1, .onFailure 0, .reconnectJob]

theorem one_live_socket_reconnect :
    ∃ s t, exec syncStep .init reconnectRun = some s ∧ syncStep s (.onOpen 1) = some t ∧
      SyncManager.Safe s t (.onOpen 1) := by
  obtain ⟨s, hrun⟩ := Option.isSome_iff_exists.mp
    (show (exec syncStep .init reconnectRun).isSome = true by decide +kernel)
  have hsome : (exec syncStep .init (reconnectRun ++ [.onOpen 1])).isSome = true := by
    decide +kernel
  rw [exec_append, hrun, Option.bind_some, exec_cons] at hsome
  obtain ⟨t, ht⟩ := Option.isSome_iff_exists.mp hsome
  obtain ⟨u, hstep, -⟩ := Option.bind_eq_some_iff.mp ht
  exact ⟨s, u, hrun, hstep, one_live_socket (by decide +kernel) hrun hstep⟩

/-- The socket that `disconnect` has closed reports its end, and the timer opens another one. -/
theorem opened_after_disconnect :
    ¬ ∀ events event s t, exec syncStep .init events = some s → syncStep s event = some t →
      SyncManager.Safe s t event := by
  intro h
  have hsome : (exec syncStep .init
      [.account (some "https://server") (some "token"), .network true, .connect, .onOpen 0,
        .disconnect, .onFailure 0]).bind (fun s =>
          (syncStep s .reconnectJob).map fun t => t.sockets.map WebSocket.asked) =
      some [true, false] := by decide +kernel
  obtain ⟨s, hrun, hmap⟩ := Option.bind_eq_some_iff.mp hsome
  obtain ⟨t, hstep, hasked⟩ := Option.map_eq_some_iff.mp hmap
  have hmem : false ∈ t.sockets.map WebSocket.asked := by
    rw [hasked]
    decide
  obtain ⟨socket, hsocket, hnot⟩ := List.mem_map.mp hmem
  exact Bool.false_ne_true (hnot.symm.trans ((h _ _ s t hrun hstep).asked socket hsocket))

end Svarla.Android
