import Svarla.Lib.Run
import Svarla.Lib.Threads
import Svarla.Web.CallController

/-!
# The life of a WebRTC client

`createOffer` and `applyAnswer` wait for the browser, two event handlers and three timers change the state,
and `close` may come at any time. The handlers, the timers and the watchdog look at the state before they
change it; `createOffer` and `applyAnswer` do not. Where the user hangs up at the prompt for the
microphone, the client is connecting after `close`, with a live track (`closed_at_prompt`).

The client is as it is meant to be in every state of a run if and only if nothing that changes the state
comes back to a closed client, the microphone to none but a new one, the local description while it is
connecting, and a client that is closed has stopped its other streams (`lifecycle_iff`).

A listener of the state acts in a step of its own. Volume, mute, digits and the playback are left out.
-/

namespace Svarla.Web

open Svarla.Lib

/-! ## Timers and statistics -/

def ICE_TIMEOUT_MS : Nat := 20000
def CONNECTING_CAP_MS : Nat := 30000
def WATCHDOG_POLL_MS : Nat := 1000
def MEDIA_INACTIVITY_MS : Nat := 5000

structure InboundStats where
  packetsReceived : Nat
  bytesReceived : Nat
  deriving DecidableEq, Repr

/-- An entry of a report of `getStats`. -/
structure StatsEntry where
  type : String
  packetsReceived : Option Nat
  bytesReceived : Option Nat
  deriving DecidableEq, Repr

/-- `getInboundStats`, of the report that has come. -/
def getInboundStats (report : List StatsEntry) : Option InboundStats :=
  let inbound := report.filter (·.type = "inbound-rtp")
  if inbound = [] then none
  else some ⟨(inbound.map (·.packetsReceived.getD 0)).sum, (inbound.map (·.bytesReceived.getD 0)).sum⟩

def hasInboundGrowth (prev : Option InboundStats) (current : InboundStats) : Bool :=
  match prev with
  | none => true
  | some prev =>
    current.packetsReceived > prev.packetsReceived || current.bytesReceived > prev.bytesReceived

/-- The times at which growth was observed, of the readings from the last one on. -/
def growths : List (Nat × InboundStats) → List Nat
  | [] => []
  | (time, stats) :: earlier =>
    if hasInboundGrowth (earlier.head?.map (·.2)) stats then time :: growths earlier
    else growths earlier

/-- The reason for a rejected `getUserMedia`, by the name of the error. -/
def mapGetUserMediaError (name : String) : FailureReason :=
  if name = "NotFoundError" ∨ name = "DevicesNotFoundError" then .noMicrophone else .micDenied

/-! ## The client -/

/-- What a call of the client waits for. -/
inductive ClientAwait
  | getUserMedia
  | createOffer
  | setLocalDescription
  | setRemoteDescription
  /-- The watchdog's report of a connection, if there is one. -/
  | getStats (pc : Option Nat)
  deriving DecidableEq, Repr

/-- `WebRtcCallClientImpl`. -/
structure CallClient where
  state : WebRtcState
  mediaReceiving : Bool
  pc : Option Nat
  localStream : Option (List Nat)
  localTrack : Option Nat
  closed : Bool
  /-- The timers, with the times at which they are due. -/
  iceTimeout : Option Nat
  connectingCap : Option Nat
  watchdogTimer : Option Nat
  lastInboundStats : Option InboundStats
  lastActivityAt : Nat
  watchdogPolling : Bool
  now : Nat
  awaits : List ClientAwait
  /-- The tracks and the connections so far, and those of them that are not stopped or closed. -/
  captured : Nat
  live : List Nat
  created : Nat
  connections : List Nat
  /-- The states before. -/
  past : List WebRtcState
  /-- When it was connected, and what the watchdog has read since, from the last reading on. -/
  connectedAt : Nat
  readings : List (Nat × InboundStats)
  deriving DecidableEq, Repr

/-- `RTCIceConnectionState`. -/
inductive IceConnectionState
  | new | checking | connected | completed | disconnected | failed | closed
  deriving DecidableEq, Repr

/-- `RTCPeerConnectionState`. -/
inductive PeerConnectionState
  | new | connecting | connected | disconnected | failed | closed
  deriving DecidableEq, Repr

inductive ClientEvent
  | wait (ms : Nat)
  | createOffer
  /-- The stream comes, with so many audio tracks. May the connection be created for it? -/
  | userMedia (i tracks : Nat) (creates : Bool)
  | userMediaFails (i : Nat) (name : String)
  | offerCreated (i : Nat) (ok : Bool)
  /-- The local description is set, with its SDP, or is not. -/
  | localDescription (i : Nat) (sdp : Option String)
  | applyAnswer
  | remoteDescription (i : Nat) (ok : Bool)
  | iceConnectionState (pc : Nat) (state : IceConnectionState)
  | connectionState (pc : Nat) (state : PeerConnectionState)
  | iceTimeout
  | connectingCap
  | watchdogTick
  /-- The report comes, or the request for it fails. -/
  | stats (i : Nat) (report : Option (List StatsEntry))
  | close
  deriving DecidableEq, Repr

namespace CallClient

/-- `createWebRtcCallClient`. -/
def init : CallClient where
  state := .disconnected
  mediaReceiving := false
  pc := none
  localStream := none
  localTrack := none
  closed := false
  iceTimeout := none
  connectingCap := none
  watchdogTimer := none
  lastInboundStats := none
  lastActivityAt := 0
  watchdogPolling := false
  now := 0
  awaits := []
  captured := 0
  live := []
  created := 0
  connections := []
  past := []
  connectedAt := 0
  readings := []

def clearEstablishmentTimers (c : CallClient) : CallClient :=
  { c with iceTimeout := none, connectingCap := none }

def startEstablishmentTimers (c : CallClient) : CallClient :=
  { c with
    iceTimeout := some (c.now + ICE_TIMEOUT_MS)
    connectingCap := some (c.now + CONNECTING_CAP_MS) }

def stopWatchdog (c : CallClient) : CallClient :=
  { c with
    watchdogTimer := none, lastInboundStats := none, watchdogPolling := false, mediaReceiving := false }

def startWatchdog (c : CallClient) : CallClient :=
  { c.stopWatchdog with
    lastActivityAt := c.now
    mediaReceiving := true
    watchdogTimer := some (c.now + WATCHDOG_POLL_MS)
    connectedAt := c.now
    readings := [] }

/-- The establishment timers run while the client is connecting. -/
def switchTimers (c : CallClient) (next : WebRtcState) : CallClient :=
  if next = .connecting then c else c.clearEstablishmentTimers

/-- The watchdog runs while the client is connected. -/
def switchWatchdog (c : CallClient) (prev next : WebRtcState) : CallClient :=
  if next = .connected ∧ prev ≠ .connected then c.startWatchdog
  else if next ≠ .connected ∧ prev = .connected then c.stopWatchdog
  else c

/-- The state store is set. -/
def enter (c : CallClient) (next : WebRtcState) : CallClient :=
  { c with state := next, past := c.state :: c.past }

def setState (c : CallClient) (next : WebRtcState) : CallClient :=
  ((c.switchTimers next).switchWatchdog c.state next).enter next

/-- A call goes on, or ends. -/
def goOn (c : CallClient) (i : Nat) (next : Option ClientAwait) : CallClient :=
  { c with awaits := advance c.awaits i next }

/-- The stream of the microphone is the client's. -/
def capture (c : CallClient) (tracks : Nat) : CallClient :=
  let stream := List.range' c.captured tracks
  { c with
    localStream := some stream
    localTrack := stream.head?
    captured := c.captured + tracks
    live := c.live ++ stream }

def newPeerConnection (c : CallClient) : CallClient :=
  { c with pc := some c.created, created := c.created + 1, connections := c.connections ++ [c.created] }

/-- The tracks that `close` stops. -/
def localTracks (c : CallClient) : List Nat := c.localTrack.toList ++ c.localStream.getD []

/-- The tracks are stopped, and the connection is closed. -/
def release (c : CallClient) : CallClient :=
  { c with
    closed := true
    live := c.live.filter (· ∉ c.localTracks)
    connections := c.connections.filter (some · ≠ c.pc)
    localTrack := none
    localStream := none
    pc := none }

def close (c : CallClient) : CallClient :=
  if c.closed then c
  else c.clearEstablishmentTimers.stopWatchdog.release.setState .disconnected

/-- The connection was lost, or never there. -/
def fail (c : CallClient) : CallClient :=
  if c.state = .connecting then c.setState (.failed .iceFailed)
  else if c.state = .connected then c.setState (.failed .connectionLost)
  else c

def connect (c : CallClient) : CallClient :=
  if c.state = .connecting then c.setState .connected else c

def onIceConnectionStateChange (c : CallClient) : IceConnectionState → CallClient
  | .connected | .completed => c.connect
  | .failed => c.fail
  | .disconnected => if c.state = .connected then c.setState (.failed .connectionLost) else c
  | .new | .checking | .closed => c

def onConnectionStateChange (c : CallClient) : PeerConnectionState → CallClient
  | .connected => c.connect
  | .failed => c.fail
  | .new | .connecting | .disconnected | .closed => c

/-- A timer for the establishment fires. -/
def expire (c : CallClient) (reason : FailureReason) : CallClient :=
  if c.state = .connecting then c.setState (.failed reason) else c

/-- A reading of the watchdog. -/
def observe (c : CallClient) (stats : InboundStats) : CallClient :=
  { c with
    lastActivityAt := if hasInboundGrowth c.lastInboundStats stats then c.now else c.lastActivityAt
    lastInboundStats := some stats
    readings := (c.now, stats) :: c.readings }

/-- The client fails where no growth was observed for too long. -/
def checkActivity (c : CallClient) : CallClient :=
  let receiving : Bool := c.now - c.lastActivityAt < MEDIA_INACTIVITY_MS
  let c := { c with mediaReceiving := receiving }
  if receiving then c else c.setState (.failed .mediaInactive)

def endPoll (c : CallClient) : CallClient := { c with watchdogPolling := false }

/-- `pollWatchdog`, from the statistics on. -/
def pollWatchdog (c : CallClient) (stats : Option InboundStats) : CallClient :=
  if c.watchdogTimer = none ∨ c.state ≠ .connected then c.endPoll
  else (stats.elim c c.observe).checkActivity.endPoll

def step (c : CallClient) : ClientEvent → Option CallClient
  | .wait ms => some { c with now := c.now + ms }
  | .createOffer => some { c with awaits := c.awaits ++ [.getUserMedia] }
  | .userMedia i tracks creates =>
    if c.awaits[i]? = some .getUserMedia then
      let c := (c.capture tracks).setState .connecting
      some (if creates then c.newPeerConnection.goOn i (some .createOffer)
        else (c.setState (.failed .offerFailed)).goOn i none)
    else none
  | .userMediaFails i name =>
    if c.awaits[i]? = some .getUserMedia then
      some ((c.setState (.failed (mapGetUserMediaError name))).goOn i none)
    else none
  | .offerCreated i ok =>
    if c.awaits[i]? = some .createOffer then
      some (if ok then c.goOn i (some .setLocalDescription)
        else (c.setState (.failed .offerFailed)).goOn i none)
    else none
  | .localDescription i sdp =>
    if c.awaits[i]? = some .setLocalDescription then
      match sdp with
      | none => some ((c.setState (.failed .offerFailed)).goOn i none)
      | some sdp =>
        let c := c.startEstablishmentTimers
        some ((if sdp = "" then c.setState (.failed .offerFailed) else c).goOn i none)
    else none
  | .applyAnswer =>
    match c.pc with
    | none => some (c.setState (.failed .answerFailed))
    | some _ => some { c with awaits := c.awaits ++ [.setRemoteDescription] }
  | .remoteDescription i ok =>
    if c.awaits[i]? = some .setRemoteDescription then
      some ((if ok then c else c.setState (.failed .answerFailed)).goOn i none)
    else none
  | .iceConnectionState pc state =>
    -- a closed connection has no more events
    if pc ∈ c.connections then some (c.onIceConnectionStateChange state) else none
  | .connectionState pc state =>
    if pc ∈ c.connections then some (c.onConnectionStateChange state) else none
  | .iceTimeout =>
    match c.iceTimeout with
    | some due =>
      if due ≤ c.now then some ({ c with iceTimeout := none }.expire .iceTimeout) else none
    | none => none
  | .connectingCap =>
    match c.connectingCap with
    | some due =>
      if due ≤ c.now then some ({ c with connectingCap := none }.expire .connectingTimeout) else none
    | none => none
  | .watchdogTick =>
    match c.watchdogTimer with
    | some due =>
      if due ≤ c.now then
        let c := { c with watchdogTimer := some (due + WATCHDOG_POLL_MS) }
        some (if c.watchdogPolling then c
          else { c with watchdogPolling := true, awaits := c.awaits ++ [.getStats c.pc] })
      else none
    | none => none
  | .stats i report =>
    match c.awaits[i]? with
    | some (.getStats pc) =>
      -- without a connection there is no report
      let stats := (pc.bind fun _ => report).bind getInboundStats
      some ((c.pollWatchdog stats).goOn i none)
    | _ => none
  | .close => some c.close

/-! ## Its life -/

/-- The timers that are armed. -/
def armed (c : CallClient) : List Nat :=
  c.iceTimeout.toList ++ c.connectingCap.toList ++ c.watchdogTimer.toList

/-- The state goes from disconnected to connecting and connected, and fails at any time. -/
def Moves (before : WebRtcState) : WebRtcState → Prop
  | .connecting => before = .disconnected ∨ before = .connecting
  | .connected => before = .connecting
  | .failed _ | .disconnected => True

/-- No growth was observed for `MEDIA_INACTIVITY_MS`, since the client was connected. -/
def Inactive (c : CallClient) : Prop :=
  ∀ time ∈ c.connectedAt :: growths c.readings, time + MEDIA_INACTIVITY_MS ≤ c.now

structure Lawful (c : CallClient) : Prop where
  moves : (c.state :: c.past).IsChain fun next before => Moves before next
  disconnected : c.state = .disconnected → c.past = [] ∨ c.closed
  establishment : c.iceTimeout.isSome ∨ c.connectingCap.isSome → c.state = .connecting
  watchdog : c.watchdogTimer.isSome → c.state = .connected
  inactive : c.state = .failed .mediaInactive → c.Inactive
  closed : c.closed → c.state = .disconnected ∧ c.armed = [] ∧ c.live = []

/-- Nothing that changes the state comes back to a closed client, the stream comes to one that has not
been connected or failed, and the local description to one that is connecting. A client that is closed has
stopped the streams it has no more. -/
def Clear (c : CallClient) : ClientEvent → Prop
  | .userMedia i _ _ => c.awaits[i]? = some .getUserMedia →
    c.closed = false ∧ (c.state = .disconnected ∨ c.state = .connecting)
  | .userMediaFails i _ => c.awaits[i]? = some .getUserMedia → c.closed = false
  | .offerCreated i ok => c.awaits[i]? = some .createOffer → ok = false → c.closed = false
  | .localDescription i sdp => c.awaits[i]? = some .setLocalDescription →
    if sdp.getD "" = "" then c.closed = false else c.state = .connecting
  | .applyAnswer => c.pc = none → c.closed = false
  | .remoteDescription i ok => c.awaits[i]? = some .setRemoteDescription → ok = false → c.closed = false
  | .close => c.closed = false → ∀ track ∈ c.live, track ∈ c.localTracks
  | _ => True

instance (c : CallClient) (e : ClientEvent) : Decidable (c.Clear e) := by
  cases e <;> unfold Clear <;> infer_instance

/-! ## What a change of the state does -/

@[simp] theorem setState_state (c : CallClient) (next : WebRtcState) :
    (c.setState next).state = next := rfl

@[simp] theorem setState_past (c : CallClient) (next : WebRtcState) :
    (c.setState next).past = c.state :: c.past := by
  unfold setState switchWatchdog switchTimers
  split_ifs <;> rfl

@[simp] theorem setState_closed (c : CallClient) (next : WebRtcState) :
    (c.setState next).closed = c.closed := by
  unfold setState switchWatchdog switchTimers
  split_ifs <;> rfl

@[simp] theorem setState_live (c : CallClient) (next : WebRtcState) :
    (c.setState next).live = c.live := by
  unfold setState switchWatchdog switchTimers
  split_ifs <;> rfl

@[simp] theorem setState_now (c : CallClient) (next : WebRtcState) :
    (c.setState next).now = c.now := by
  unfold setState switchWatchdog switchTimers
  split_ifs <;> rfl

theorem setState_establishment (c : CallClient) (next : WebRtcState) (hne : next ≠ .connecting) :
    (c.setState next).iceTimeout = none ∧ (c.setState next).connectingCap = none := by
  unfold setState switchWatchdog switchTimers
  rw [if_neg hne]
  split_ifs <;> exact ⟨rfl, rfl⟩

/-- The watchdog stops where the client is not connected. -/
theorem setState_watchdogTimer {c : CallClient} (hwatchdog : c.watchdogTimer.isSome → c.state = .connected)
    (next : WebRtcState) (hne : next ≠ .connected) : (c.setState next).watchdogTimer = none := by
  have hkept : c.state ≠ .connected → c.watchdogTimer = none := by
    intro hstate
    by_contra hsome
    exact hstate (hwatchdog (Option.isSome_iff_ne_none.mpr hsome))
  unfold setState switchWatchdog switchTimers
  rw [if_neg fun h => hne h.1]
  split_ifs with hstate _ _
  · rfl
  · rfl
  · exact hkept fun h => hstate ⟨hne, h⟩
  · exact hkept fun h => hstate ⟨hne, h⟩

/-- It keeps what it has read. -/
theorem setState_readings (c : CallClient) (next : WebRtcState) (hne : next ≠ .connected) :
    (c.setState next).lastActivityAt = c.lastActivityAt ∧ ((c.setState next).Inactive ↔ c.Inactive) := by
  unfold setState switchWatchdog switchTimers
  rw [if_neg fun h => hne h.1]
  split_ifs <;> exact ⟨rfl, Iff.rfl⟩

/-! ## What always holds -/

/-- What holds in every run. -/
structure Consistent (c : CallClient) : Prop where
  disconnected : c.state = .disconnected → c.past = [] ∨ c.closed
  watchdog : c.watchdogTimer.isSome → c.state = .connected
  inactive : c.state = .failed .mediaInactive → c.Inactive
  anchor : c.lastActivityAt ≤ c.now
  readings : c.state = .connected →
    c.lastInboundStats = c.readings.head?.map (·.2) ∧
      ∀ time ∈ c.connectedAt :: growths c.readings, time ≤ c.lastActivityAt

theorem consistent_init : Consistent init :=
  ⟨fun _ => .inl rfl, nofun, nofun, Nat.le_refl 0, nofun⟩

theorem lawful_init : Lawful init where
  moves := .singleton _
  disconnected := fun _ => .inl rfl
  establishment := by
    rintro (h | h) <;> cases h
  watchdog := nofun
  inactive := nofun
  closed := nofun

/-- A state that is not connected. -/
theorem consistent_setState {c : CallClient} (hwatchdog : c.watchdogTimer.isSome → c.state = .connected)
    (hanchor : c.lastActivityAt ≤ c.now) (next : WebRtcState) (hne : next ≠ .connected)
    (hclosed : next = .disconnected → c.closed) (hinactive : next = .failed .mediaInactive → c.Inactive) :
    Consistent (c.setState next) where
  disconnected := by
    intro hnext
    rw [setState_closed]
    exact .inr (hclosed hnext)
  watchdog := by
    rw [setState_watchdogTimer hwatchdog next hne]
    nofun
  inactive := fun hnext => (c.setState_readings next hne).2.mpr (hinactive hnext)
  anchor := by
    rw [(c.setState_readings next hne).1, setState_now]
    exact hanchor
  readings := fun hnext => absurd hnext hne

theorem Consistent.failed {c : CallClient} (h : Consistent c) (reason : FailureReason)
    (hinactive : reason = .mediaInactive → c.Inactive) : Consistent (c.setState (.failed reason)) :=
  consistent_setState h.watchdog h.anchor (.failed reason) nofun nofun fun hnext => by
    cases hnext
    exact hinactive rfl

theorem lawful_failed {c : CallClient}
    (hmoves : (c.state :: c.past).IsChain fun next before => Moves before next)
    (hwatchdog : c.watchdogTimer.isSome → c.state = .connected) (hopen : c.closed = false)
    (reason : FailureReason) (hinactive : reason = .mediaInactive → c.Inactive) :
    Lawful (c.setState (.failed reason)) where
  moves := by
    rw [setState_past, setState_state]
    exact hmoves.cons_cons trivial
  disconnected := nofun
  establishment := by
    obtain ⟨hice, hcap⟩ := c.setState_establishment (.failed reason) nofun
    rw [hice, hcap]
    rintro (h | h) <;> cases h
  watchdog := by
    rw [setState_watchdogTimer hwatchdog (.failed reason) nofun]
    nofun
  inactive := by
    intro hnext
    cases hnext
    exact (c.setState_readings (.failed .mediaInactive) nofun).2.mpr (hinactive rfl)
  closed := by
    rw [setState_closed, hopen]
    nofun

/-- A closed client has not failed. -/
theorem Lawful.not_closed {c : CallClient} (h : Lawful c) (hstate : c.state ≠ .disconnected) :
    c.closed = false := by
  rcases hclosed : c.closed with _ | _
  · rfl
  · exact absurd (h.closed hclosed).1 hstate

theorem Lawful.failed_iff {c : CallClient} (h : Lawful c) (reason : FailureReason)
    (hinactive : reason = .mediaInactive → c.Inactive) :
    Lawful (c.setState (.failed reason)) ↔ c.closed = false := by
  constructor
  · intro hafter
    rw [← setState_closed]
    exact hafter.not_closed nofun
  · intro hopen
    exact lawful_failed h.moves h.watchdog hopen reason hinactive

/-- What the life of a client is about: neither its calls nor its connections. -/
def core (c : CallClient) : CallClient :=
  { c with
    mediaReceiving := false, pc := none, localStream := none, localTrack := none, watchdogPolling := false
    awaits := [], captured := 0, created := 0, connections := [] }

theorem consistent_core {c : CallClient} : Consistent c.core ↔ Consistent c :=
  ⟨fun h => ⟨h.disconnected, h.watchdog, h.inactive, h.anchor, h.readings⟩,
    fun h => ⟨h.disconnected, h.watchdog, h.inactive, h.anchor, h.readings⟩⟩

theorem lawful_core {c : CallClient} : Lawful c.core ↔ Lawful c :=
  ⟨fun h => ⟨h.moves, h.disconnected, h.establishment, h.watchdog, h.inactive, h.closed⟩,
    fun h => ⟨h.moves, h.disconnected, h.establishment, h.watchdog, h.inactive, h.closed⟩⟩

theorem Consistent.of_core {c d : CallClient} (h : Consistent c) (heq : d.core = c.core) :
    Consistent d := by
  rw [← consistent_core, heq, consistent_core]
  exact h

theorem Lawful.of_core {c d : CallClient} (h : Lawful c) (heq : d.core = c.core) : Lawful d := by
  rw [← lawful_core, heq, lawful_core]
  exact h

/-- A call goes on. -/
theorem Consistent.goOn {c : CallClient} (h : Consistent c) (i : Nat) (next : Option ClientAwait) :
    Consistent (c.goOn i next) := h.of_core rfl

theorem lawful_goOn {c : CallClient} (i : Nat) (next : Option ClientAwait) :
    Lawful (c.goOn i next) ↔ Lawful c :=
  ⟨fun h => h.of_core rfl, fun h => h.of_core rfl⟩

/-! ## The steps -/

/-- The stream comes, and the client connects. -/
theorem Consistent.userMedia {c : CallClient} (h : Consistent c) (hI : Lawful c) (tracks : Nat) :
    Consistent ((c.capture tracks).setState .connecting) ∧
      (Lawful ((c.capture tracks).setState .connecting) ↔
        c.closed = false ∧ (c.state = .disconnected ∨ c.state = .connecting)) := by
  have hcaptured : (c.capture tracks).watchdogTimer.isSome → (c.capture tracks).state = .connected :=
    h.watchdog
  refine ⟨consistent_setState hcaptured h.anchor .connecting nofun nofun nofun, fun hafter => ?_, ?_⟩
  · have hopen := hafter.not_closed nofun
    have hmoves := hafter.moves
    rw [setState_closed] at hopen
    rw [setState_past, setState_state] at hmoves
    exact ⟨hopen, (List.isChain_cons_cons.mp hmoves).1⟩
  · rintro ⟨hopen, hstate⟩
    refine ⟨?_, nofun, fun _ => rfl, ?_, nofun, ?_⟩
    · rw [setState_past, setState_state]
      exact hI.moves.cons_cons hstate
    · rw [setState_watchdogTimer hcaptured .connecting nofun]
      nofun
    · rw [setState_closed]
      exact fun hclosed => nomatch hopen.symm.trans hclosed

/-- It comes, and there is no connection for it. -/
theorem Consistent.userMedia_fails {c : CallClient} (h : Consistent c) (hI : Lawful c) (tracks : Nat) :
    let c' := ((c.capture tracks).setState .connecting).setState (.failed .offerFailed)
    Consistent c' ∧
      (Lawful c' ↔ c.closed = false ∧ (c.state = .disconnected ∨ c.state = .connecting)) := by
  obtain ⟨hconnecting, hiff⟩ := h.userMedia hI tracks
  refine ⟨hconnecting.failed .offerFailed nofun, fun hafter => ?_, fun hclear => ?_⟩
  · have hopen := hafter.not_closed nofun
    have hmoves := hafter.moves
    rw [setState_past, setState_past, setState_state, List.isChain_cons_cons] at hmoves
    rw [setState_closed, setState_closed] at hopen
    exact ⟨hopen, (List.isChain_cons_cons.mp hmoves.2).1⟩
  · have hafter := hiff.mpr hclear
    refine (hafter.failed_iff .offerFailed nofun).mpr ?_
    rw [setState_closed]
    exact hclear.1

/-- The establishment timers are armed. -/
theorem Consistent.localDescription {c : CallClient} (h : Consistent c) (hI : Lawful c) :
    Consistent c.startEstablishmentTimers ∧
      (Lawful c.startEstablishmentTimers ↔ c.state = .connecting) := by
  refine ⟨⟨h.disconnected, h.watchdog, h.inactive, h.anchor, h.readings⟩,
    fun hafter => hafter.establishment (.inl rfl), fun hstate => ?_⟩
  refine ⟨hI.moves, hI.disconnected, fun _ => hstate, hI.watchdog, hI.inactive, fun hclosed => ?_⟩
  exact nomatch hstate.symm.trans (hI.closed hclosed).1

/-- They are cleared at once where there is no SDP. -/
theorem Consistent.localDescription_fails {c : CallClient} (h : Consistent c) (hI : Lawful c) :
    let c' := c.startEstablishmentTimers.setState (.failed .offerFailed)
    Consistent c' ∧ (Lawful c' ↔ c.closed = false) := by
  refine ⟨(h.localDescription hI).1.failed .offerFailed nofun, fun hafter => ?_, fun hopen => ?_⟩
  · have hopen := hafter.not_closed nofun
    rw [setState_closed] at hopen
    exact hopen
  · exact lawful_failed (c := c.startEstablishmentTimers) hI.moves h.watchdog hopen .offerFailed
      nofun

/-- The connection is there. -/
theorem Consistent.connect {c : CallClient} (h : Consistent c) (hI : Lawful c) :
    Consistent c.connect ∧ Lawful c.connect := by
  unfold CallClient.connect
  split
  · rename_i hstate
    have hopen := hI.not_closed (by rw [hstate]; nofun)
    have heq : c.setState .connected = (c.clearEstablishmentTimers.startWatchdog).enter .connected := by
      rw [setState, switchTimers, if_neg nofun, switchWatchdog, if_pos ⟨rfl, by rw [hstate]; nofun⟩]
    rw [heq]
    refine ⟨⟨nofun, fun _ => rfl, nofun, Nat.le_refl _, fun _ => ⟨rfl, ?_⟩⟩, ?_, nofun, ?_, fun _ => rfl,
      nofun, ?_⟩
    · intro time htime
      exact Nat.le_of_eq (List.mem_singleton.mp htime)
    · exact hI.moves.cons_cons hstate
    · rintro (h | h) <;> cases h
    · exact fun hclosed => nomatch hopen.symm.trans hclosed
  · exact ⟨h, hI⟩

/-- It is lost. -/
theorem Consistent.lost {c : CallClient} (h : Consistent c) (hI : Lawful c)
    (hstate : c.state ≠ .disconnected) {reason : FailureReason} (hreason : reason ≠ .mediaInactive) :
    Consistent (c.setState (.failed reason)) ∧ Lawful (c.setState (.failed reason)) :=
  ⟨h.failed reason fun heq => absurd heq hreason,
    (hI.failed_iff reason fun heq => absurd heq hreason).mpr (hI.not_closed hstate)⟩

theorem Consistent.fail {c : CallClient} (h : Consistent c) (hI : Lawful c) :
    Consistent c.fail ∧ Lawful c.fail := by
  unfold CallClient.fail
  split_ifs with hconnecting hconnected
  · exact h.lost hI (by rw [hconnecting]; nofun) nofun
  · exact h.lost hI (by rw [hconnected]; nofun) nofun
  · exact ⟨h, hI⟩

theorem Consistent.onIceConnectionStateChange {c : CallClient} (h : Consistent c) (hI : Lawful c)
    (state : IceConnectionState) :
    Consistent (c.onIceConnectionStateChange state) ∧ Lawful (c.onIceConnectionStateChange state) := by
  cases state with
  | connected | completed => exact h.connect hI
  | failed => exact h.fail hI
  | disconnected =>
    rw [CallClient.onIceConnectionStateChange]
    split_ifs with hconnected
    · exact h.lost hI (by rw [hconnected]; nofun) nofun
    · exact ⟨h, hI⟩
  | new | checking | closed => exact ⟨h, hI⟩

theorem Consistent.onConnectionStateChange {c : CallClient} (h : Consistent c) (hI : Lawful c)
    (state : PeerConnectionState) :
    Consistent (c.onConnectionStateChange state) ∧ Lawful (c.onConnectionStateChange state) := by
  cases state with
  | connected => exact h.connect hI
  | failed => exact h.fail hI
  | new | connecting | disconnected | closed => exact ⟨h, hI⟩

theorem Consistent.expire {c : CallClient} (h : Consistent c) (hI : Lawful c) {reason : FailureReason}
    (hreason : reason ≠ .mediaInactive) : Consistent (c.expire reason) ∧ Lawful (c.expire reason) := by
  unfold CallClient.expire
  split_ifs with hconnecting
  · exact h.lost hI (by rw [hconnecting]; nofun) hreason
  · exact ⟨h, hI⟩

/-- The watchdog has read. -/
theorem Consistent.observe {c : CallClient} (h : Consistent c) (hstate : c.state = .connected)
    (stats : InboundStats) : Consistent (c.observe stats) := by
  obtain ⟨hlast, hgrowths⟩ := h.readings hstate
  have hanchor : c.lastActivityAt ≤ (c.observe stats).lastActivityAt ∧
      (c.observe stats).lastActivityAt ≤ c.now := by
    have hle := h.anchor
    unfold CallClient.observe
    dsimp only
    split_ifs <;> omega
  refine ⟨h.disconnected, h.watchdog, fun hnext => (nomatch hstate.symm.trans hnext), hanchor.2,
    fun _ => ⟨rfl, fun time htime => ?_⟩⟩
  rcases List.mem_cons.mp htime with rfl | htime
  · exact Nat.le_trans (hgrowths _ List.mem_cons_self) hanchor.1
  · simp only [CallClient.observe, growths, ← hlast] at htime
    split at htime
    · rename_i hgrows
      rcases List.mem_cons.mp htime with rfl | htime
      · simp only [CallClient.observe, hgrows, if_true, Nat.le_refl]
      · exact Nat.le_trans (hgrowths time (List.mem_cons_of_mem _ htime)) hanchor.1
    · exact Nat.le_trans (hgrowths time (List.mem_cons_of_mem _ htime)) hanchor.1

theorem Lawful.observe {c : CallClient} (h : Lawful c) (hstate : c.state = .connected)
    (stats : InboundStats) : Lawful (c.observe stats) :=
  ⟨h.moves, h.disconnected, h.establishment, h.watchdog,
    fun hnext => (nomatch hstate.symm.trans hnext), h.closed⟩

theorem Consistent.checkActivity {c : CallClient} (h : Consistent c) (hI : Lawful c)
    (hstate : c.state = .connected) : Consistent c.checkActivity ∧ Lawful c.checkActivity := by
  unfold CallClient.checkActivity
  dsimp only
  split_ifs with hreceiving
  · exact ⟨h.of_core rfl, hI.of_core rfl⟩
  · have hinactive : c.Inactive := by
      intro time htime
      have hle := (h.readings hstate).2 time htime
      have hanchor := h.anchor
      simp only [decide_eq_true_eq, Nat.not_lt] at hreceiving
      omega
    have hopen := hI.not_closed (by rw [hstate]; nofun)
    let d := { c with mediaReceiving := decide (c.now - c.lastActivityAt < MEDIA_INACTIVITY_MS) }
    have hstopped : d.watchdogTimer.isSome → d.state = .connected := h.watchdog
    exact ⟨consistent_setState hstopped h.anchor (.failed .mediaInactive) nofun nofun fun _ => hinactive,
      lawful_failed (c := d) hI.moves h.watchdog hopen .mediaInactive fun _ => hinactive⟩

theorem Consistent.pollWatchdog {c : CallClient} (h : Consistent c) (hI : Lawful c)
    (stats : Option InboundStats) : Consistent (c.pollWatchdog stats) ∧ Lawful (c.pollWatchdog stats) := by
  unfold CallClient.pollWatchdog
  split_ifs with hstale
  · exact ⟨h.of_core rfl, hI.of_core rfl⟩
  · have hstate : c.state = .connected := by
      by_contra hne
      exact hstale (.inr hne)
    obtain ⟨hafter, hlawful⟩ : Consistent (stats.elim c c.observe).checkActivity ∧
        Lawful (stats.elim c c.observe).checkActivity := by
      rcases stats with _ | stats
      · exact h.checkActivity hI hstate
      · exact (h.observe hstate stats).checkActivity (hI.observe hstate stats) hstate
    exact ⟨hafter.of_core rfl, hlawful.of_core rfl⟩

/-- The client is closed. -/
theorem Consistent.close {c : CallClient} (h : Consistent c) (hI : Lawful c) :
    Consistent c.close ∧ (Lawful c.close ↔ c.Clear .close) := by
  rcases hclosed : c.closed with _ | _
  · rw [CallClient.close, hclosed, if_neg nofun]
    let d := c.clearEstablishmentTimers.stopWatchdog.release
    have hstopped : d.watchdogTimer.isSome → d.state = .connected := nofun
    obtain ⟨hice, hcap⟩ := d.setState_establishment .disconnected nofun
    have hwatchdog := setState_watchdogTimer hstopped .disconnected nofun
    have hlive : (d.setState .disconnected).live = c.live.filter (· ∉ c.localTracks) := setState_live d _
    refine ⟨consistent_setState (c := d) hstopped h.anchor .disconnected nofun (fun _ => rfl) nofun,
      fun hafter _ track htrack => ?_, fun hclear => ?_⟩
    · have hnone := (hafter.closed (setState_closed d _)).2.2
      by_contra hother
      have hmem : track ∈ c.live.filter (· ∉ c.localTracks) :=
        List.mem_filter.mpr ⟨htrack, decide_eq_true hother⟩
      rw [← hlive, hnone] at hmem
      cases hmem
    · refine ⟨?_, fun _ => .inr (setState_closed d _), ?_, ?_, nofun, fun _ => ⟨rfl, ?_, ?_⟩⟩
      · rw [setState_past, setState_state]
        exact hI.moves.cons_cons trivial
      · rw [hice, hcap]
        rintro (h | h) <;> cases h
      · rw [hwatchdog]
        nofun
      · rw [armed, hice, hcap, hwatchdog]
        rfl
      · rw [hlive, List.filter_eq_nil_iff]
        intro track htrack
        simpa using hclear hclosed track htrack
  · rw [CallClient.close, hclosed, if_pos rfl]
    exact ⟨h, iff_of_true hI fun hopen => nomatch hclosed.symm.trans hopen⟩

/-- What a step leaves as it is meant to be. -/
theorem and_iff_of_true {c : CallClient} {p : Prop} (h : Consistent c ∧ Lawful c) (hp : p) :
    Consistent c ∧ (Lawful c ↔ p) := ⟨h.1, iff_of_true h.2 hp⟩

/-- **One step.** -/
theorem Consistent.step {c d : CallClient} {e : ClientEvent} (h : Consistent c) (hI : Lawful c)
    (hstep : c.step e = some d) : Consistent d ∧ (Lawful d ↔ c.Clear e) := by
  cases e with
  | wait ms =>
    cases hstep
    refine and_iff_of_true ⟨⟨h.disconnected, h.watchdog, fun hnext => ?_, ?_, h.readings⟩,
      hI.moves, hI.disconnected, hI.establishment, hI.watchdog, fun hnext => ?_, hI.closed⟩ trivial
    · exact fun time htime => Nat.le_trans (h.inactive hnext time htime) (Nat.le_add_right _ ms)
    · exact Nat.le_trans h.anchor (Nat.le_add_right _ ms)
    · exact fun time htime => Nat.le_trans (h.inactive hnext time htime) (Nat.le_add_right _ ms)
  | createOffer =>
    cases hstep
    exact and_iff_of_true ⟨h.of_core rfl, hI.of_core rfl⟩ trivial
  | userMedia i tracks creates =>
    rw [CallClient.step] at hstep
    split at hstep
    · rename_i hawait
      cases hstep
      simp only [Clear, hawait, forall_const]
      cases creates with
      | true =>
        obtain ⟨hafter, hiff⟩ := h.userMedia hI tracks
        exact ⟨hafter.of_core rfl, fun hlawful => hiff.mp (hlawful.of_core rfl),
          fun hclear => (hiff.mpr hclear).of_core rfl⟩
      | false =>
        obtain ⟨hafter, hiff⟩ := h.userMedia_fails hI tracks
        exact ⟨hafter.goOn i none, (lawful_goOn i none).trans hiff⟩
    · cases hstep
  | userMediaFails i name =>
    rw [CallClient.step] at hstep
    split at hstep
    · rename_i hawait
      cases hstep
      have hreason : mapGetUserMediaError name ≠ .mediaInactive := by
        unfold mapGetUserMediaError
        split <;> nofun
      simp only [Clear, hawait, forall_const]
      exact ⟨(h.failed _ fun heq => absurd heq hreason).goOn i none,
        (lawful_goOn i none).trans (hI.failed_iff _ fun heq => absurd heq hreason)⟩
    · cases hstep
  | offerCreated i ok =>
    rw [CallClient.step] at hstep
    split at hstep
    · rename_i hawait
      cases hstep
      simp only [Clear, hawait, forall_const]
      cases ok with
      | true => exact ⟨h.goOn i _, (lawful_goOn i _).trans (iff_of_true hI nofun)⟩
      | false =>
        simp only [forall_const]
        exact ⟨(h.failed .offerFailed nofun).goOn i none,
          (lawful_goOn i none).trans (hI.failed_iff .offerFailed nofun)⟩
    · cases hstep
  | localDescription i sdp =>
    cases sdp with
    | none =>
      rw [CallClient.step] at hstep
      split at hstep
      · rename_i hawait
        cases hstep
        simp only [Clear, hawait, forall_const]
        exact ⟨(h.failed .offerFailed nofun).goOn i none,
          (lawful_goOn i none).trans (hI.failed_iff .offerFailed nofun)⟩
      · cases hstep
    | some sdp =>
      rw [CallClient.step] at hstep
      split at hstep
      · rename_i hawait
        cases hstep
        simp only [Clear, hawait, forall_const, Option.getD_some]
        split_ifs
        · exact (h.localDescription_fails hI).imp (fun hafter => hafter.goOn i none)
            (lawful_goOn i none).trans
        · exact (h.localDescription hI).imp (fun hafter => hafter.goOn i none)
            (lawful_goOn i none).trans
      · cases hstep
  | applyAnswer =>
    rcases hpc : c.pc with _ | pc
    · simp only [CallClient.step, hpc, Option.some.injEq] at hstep
      subst hstep
      simp only [Clear, hpc, forall_const]
      exact ⟨h.failed .answerFailed nofun, hI.failed_iff .answerFailed nofun⟩
    · simp only [CallClient.step, hpc, Option.some.injEq] at hstep
      subst hstep
      refine and_iff_of_true ⟨h.of_core rfl, hI.of_core rfl⟩ fun hnone => ?_
      exact nomatch hpc.symm.trans hnone
  | remoteDescription i ok =>
    rw [CallClient.step] at hstep
    split at hstep
    · rename_i hawait
      cases hstep
      simp only [Clear, hawait, forall_const]
      cases ok with
      | true => exact ⟨h.goOn i none, (lawful_goOn i none).trans (iff_of_true hI nofun)⟩
      | false =>
        simp only [forall_const]
        exact ⟨(h.failed .answerFailed nofun).goOn i none,
          (lawful_goOn i none).trans (hI.failed_iff .answerFailed nofun)⟩
    · cases hstep
  | iceConnectionState pc state =>
    rw [CallClient.step] at hstep
    split at hstep
    · cases hstep
      exact and_iff_of_true (h.onIceConnectionStateChange hI state) trivial
    · cases hstep
  | connectionState pc state =>
    rw [CallClient.step] at hstep
    split at hstep
    · cases hstep
      exact and_iff_of_true (h.onConnectionStateChange hI state) trivial
    · cases hstep
  | iceTimeout =>
    rw [CallClient.step] at hstep
    split at hstep
    · split at hstep
      · cases hstep
        refine and_iff_of_true (Consistent.expire (c := { c with iceTimeout := none })
          ⟨h.disconnected, h.watchdog, h.inactive, h.anchor, h.readings⟩
          ⟨hI.moves, hI.disconnected, ?_, hI.watchdog, hI.inactive, ?_⟩ nofun) trivial
        · rintro (harmed | harmed)
          · cases harmed
          · exact hI.establishment (.inr harmed)
        · intro hclosed
          obtain ⟨hstate, harmed, hlive⟩ := hI.closed hclosed
          simp only [armed, List.append_eq_nil_iff] at harmed ⊢
          exact ⟨hstate, ⟨⟨rfl, harmed.1.2⟩, harmed.2⟩, hlive⟩
      · cases hstep
    · cases hstep
  | connectingCap =>
    rw [CallClient.step] at hstep
    split at hstep
    · split at hstep
      · cases hstep
        refine and_iff_of_true (Consistent.expire (c := { c with connectingCap := none })
          ⟨h.disconnected, h.watchdog, h.inactive, h.anchor, h.readings⟩
          ⟨hI.moves, hI.disconnected, ?_, hI.watchdog, hI.inactive, ?_⟩ nofun) trivial
        · rintro (harmed | harmed)
          · exact hI.establishment (.inl harmed)
          · cases harmed
        · intro hclosed
          obtain ⟨hstate, harmed, hlive⟩ := hI.closed hclosed
          simp only [armed, List.append_eq_nil_iff] at harmed ⊢
          exact ⟨hstate, ⟨⟨harmed.1.1, rfl⟩, harmed.2⟩, hlive⟩
      · cases hstep
    · cases hstep
  | watchdogTick =>
    rw [CallClient.step] at hstep
    split at hstep
    · rename_i due hdue
      split at hstep
      · cases hstep
        have hstate : c.state = .connected := h.watchdog (by rw [hdue]; rfl)
        have hopen := hI.not_closed (by rw [hstate]; nofun)
        have hclosed {q : Prop} : c.closed = true → q := fun hclosed => nomatch hopen.symm.trans hclosed
        cases c.watchdogPolling <;>
        exact and_iff_of_true ⟨⟨h.disconnected, fun _ => hstate, h.inactive, h.anchor, h.readings⟩,
          hI.moves, hI.disconnected, hI.establishment, fun _ => hstate, hI.inactive, hclosed⟩ trivial
      · cases hstep
    · cases hstep
  | stats i report =>
    rw [CallClient.step] at hstep
    split at hstep
    · rename_i pc _
      cases hstep
      obtain ⟨hafter, hlawful⟩ := h.pollWatchdog hI ((pc.bind fun _ => report).bind getInboundStats)
      exact and_iff_of_true ⟨hafter.goOn i none, (lawful_goOn i none).mpr hlawful⟩ trivial
    · cases hstep
  | close =>
    cases hstep
    exact h.close hI

theorem clear_of_refused {c : CallClient} {e : ClientEvent} (h : c.step e = none) : c.Clear e := by
  cases e with
  | userMedia i tracks creates | userMediaFails i name | offerCreated i ok | remoteDescription i ok =>
    intro hawait
    rw [CallClient.step, if_pos hawait] at h
    cases h
  | localDescription i sdp =>
    intro hawait
    cases sdp <;>
    · rw [CallClient.step, if_pos hawait] at h
      cases h
  | applyAnswer =>
    intro hpc
    simp only [CallClient.step, hpc] at h
    cases h
  | close => cases h
  | _ => trivial

/-- **The life of a client.** It is as it is meant to be in every state of a run if and only if every step
of the run is clear. -/
theorem lifecycle_iff (es : List ClientEvent) :
    Guarded step Clear init es ↔
      ∀ es₁ es₂ c, es = es₁ ++ es₂ → exec step init es₁ = some c → Lawful c :=
  guarded_iff_invariant (fun _ _ _ hJ hI hstep => hJ.step hI hstep)
    (fun _ _ hrefused => clear_of_refused hrefused) consistent_init lawful_init es

/-- The client is closed at the prompt for the microphone. Then the stream comes: the client is connecting,
its track is live, and nothing is to stop it. -/
theorem closed_at_prompt :
    ∃ c, exec step init [.createOffer, .close, .userMedia 0 1 true] = some c ∧
      c.closed = true ∧ c.state = .connecting ∧ c.live = [0] ∧ c.close = c ∧ ¬ Lawful c := by
  refine ⟨_, rfl, rfl, rfl, rfl, rfl, fun h => ?_⟩
  cases (h.closed rfl).1

end CallClient
end Svarla.Web
