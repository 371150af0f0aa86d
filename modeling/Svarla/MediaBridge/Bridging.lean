import Svarla.Lib.Map
import Svarla.Lib.Run
import Svarla.Lib.Threads
import Svarla.MediaBridge.AudioSockets
import Svarla.MediaBridge.RtpListener

/-!
# The bridging of a session

A session is bridged when its client and its provider are there. The client comes by WebRTC, the
provider by SIP, by an audio WebSocket, or not at all, where the client hears its own echo. What happens
on the two legs is handled on goroutines of their own, which share the slot of the media session, the
entry of the ringback sender, the peer session, and the RTP listener.

A handler is the list of the operations it has still to do. Each operation is one access to what is
shared, and is replaced by the operations that follow from what it found; so the operations of all
handlers mix in any order.

One session is modelled, from its creation on. Of the other sessions the listener alone is left, and of
Pion what it reports about a peer connection. `bridge.New` cannot fail. The audio itself is left out,
and so are the closing of the sockets of 46elks by a DELETE, whose end may come at any time, and the
shutdown.
-/

namespace Svarla.MediaBridge

open Svarla.Lib

/-- `ProviderLegType`. -/
inductive ProviderLegType
  | sip
  | webSocket
  | pending
  | echo
  deriving DecidableEq, Repr

/-- `session.Session`: what the handlers read of it. -/
structure Session where
  providerLeg : ProviderLegType
  ringback : Bool
  clientConnected : Bool
  providerConnected : Bool
  providerRTP : Option UdpAddr
  deriving DecidableEq, Repr

/-- `NewSession`. -/
def Session.new (providerLeg : ProviderLegType) (ringback : Bool) : Session :=
  ⟨providerLeg, ringback, false, false, none⟩

/-- `SetProviderRTP`. -/
def Session.setProviderRTP (sess : Session) (remote : UdpAddr) : Session :=
  { sess with providerRTP := some remote, providerConnected := true }

def Session.bothLegsReady (sess : Session) : Prop := sess.providerConnected ∧ sess.clientConnected

instance (sess : Session) : Decidable sess.bothLegsReady := inferInstanceAs (Decidable (_ ∧ _))

/-- `webrtc.SessionState`. -/
inductive SessionState
  | created
  | waitingClient
  | clientConnected
  | bridging
  | active
  | closing
  | destroyed
  deriving DecidableEq, Repr

namespace SessionState

def validTransitions : SessionState → List SessionState
  | created => [waitingClient, closing, destroyed]
  | waitingClient => [clientConnected, closing, destroyed]
  | clientConnected => [bridging, closing, destroyed]
  | bridging => [active, closing, destroyed]
  | active => [closing, destroyed]
  | closing => [destroyed]
  | destroyed => []

/-- `Transition`: the state stays as it is where the transition is not valid. -/
def transition (state target : SessionState) : SessionState :=
  if target ∈ state.validTransitions then target else state

end SessionState

structure PeerSession where
  state : SessionState
  /-- Is the connection up, by what was reported last? -/
  up : Bool
  deriving DecidableEq, Repr

/-- A media session, and its bridge. -/
structure MediaSession where
  /-- The provider's address; a media session that is not started by its own `Start` has none. -/
  remote : Option UdpAddr
  running : Bool
  /-- Does the watchdog watch the provider's RTP? -/
  watchdog : Bool
  /-- Does the audio bridge run? -/
  bridge : Bool
  deriving DecidableEq, Repr

/-- `ringback.Sender`. -/
structure Ringback where
  /-- Is its goroutine there? -/
  sending : Bool
  stopped : Bool
  deriving DecidableEq, Repr

/-- Whose registration it is that the RTP listener has for an address. -/
inductive Registration
  | media (n : Nat)
  | ringback
  /-- That of another session. -/
  | other
  deriving DecidableEq, Repr

/-- An operation of a handler. -/
inductive Op
  | emit (event reason : String)
  /-- `handleInvite`, once the INVITE is accepted. -/
  | addDialog (callID : String) (remote : UdpAddr)
  /-- `handleBye` and `handleCancel`. -/
  | removeDialog (reason : String)
  /-- The handler of `EventProviderConnected`, with its lookup. -/
  | providerConnected (remote : UdpAddr)
  | setProviderRTP (remote : UdpAddr)
  /-- Does the caller have to wait? -/
  | callerWaits (remote : UdpAddr)
  | registerRingback (remote : UdpAddr)
  /-- A new ringback sender gets the entry of the session. -/
  | putSender
  | startSender (k : Nat)
  /-- The lookup of `tryStartMediaSession`. -/
  | tryStartMediaSession
  | checkLegType
  | checkLegs
  | reserve
  | stopRingback
  /-- `Stop` of a ringback sender. -/
  | stopSender (k : Nat)
  | getProviderRTP
  | getPeer (remote : UdpAddr)
  /-- The reservation of the slot is removed. -/
  | release
  /-- `Start` of a media session, up to its registration. -/
  | startMedia (remote : UdpAddr)
  | startBridge (n : Nat)
  /-- The media session is put in the slot. -/
  | publish (n : Nat)
  /-- `stopMediaSession`. -/
  | stopMediaSession
  /-- What is in the slot is taken out of it. -/
  | takeSlot
  /-- `Stop` of a media session. -/
  | stopMedia (n : Nat)
  | stopWatchdog (n : Nat)
  | stopBridge (n : Nat)
  | unregister (remote : UdpAddr)
  /-- A connection of an audio socket is tracked. -/
  | trackSocket (handler : AudioHandler)
  /-- The callback of `SetOnConnect`, with its lookup. -/
  | onConnect
  | setSocketRTP
  | socketCallerWaits
  | serveSocket (handler : AudioHandler)
  | removeSocket (handler : AudioHandler)
  /-- The lookup of `tryStartWsMediaSession`. -/
  | tryStartWs
  | checkWsClient
  | reserveWs
  | getPeerWs
  | startWs
  /-- The lookup of `tryStartEchoMediaSession`. -/
  | tryStartEcho
  | checkEchoClient
  | reserveEcho
  | getPeerEcho
  | playRingback
  /-- The timer of the simulated ring period is started. -/
  | startTimer
  /-- The timer has fired. -/
  | ringTimer
  | startEcho
  | setEchoRTP
  /-- The handler of `EventClientConnected`, with its lookup. -/
  | clientConnected
  | setClientConnected
  | checkEcho
  | checkGenericSocket
  | checkElks46Socket
  /-- `HandleOffer`. -/
  | offer
  | answer (p : Nat)
  /-- `patchSession`, with its lookup. -/
  | patch (providerLeg : Option ProviderLegType) (ringback : Option Bool)
  | setProviderLeg (providerLeg : ProviderLegType)
  | setRingback (enabled : Bool)
  | deleteSession
  /-- `RemoveSession`. -/
  | removePeer
  | closePeer (p : Nat)
  | sendBye
  deriving DecidableEq, Repr

/-- The goroutine that an operation starts. -/
def Op.spawned : Op → List (List Op)
  | startTimer => [[ringTimer]]
  | _ => []

/-- What the handlers hold for the session. -/
structure Holdings where
  /-- The entry of `mediaSessions`; a reserved slot has an entry, but no media session. -/
  slot : Option (Option Nat)
  /-- The media sessions that there were; they are numbered as they come. -/
  media : List MediaSession
  /-- The entry of `ringbackSenders`. -/
  sender : Option Nat
  /-- The ringback senders that there were. -/
  senders : List Ringback
  /-- The entry of the WebRTC engine. -/
  peer : Option Nat
  /-- The sessions of the RTP listener. -/
  listener : Map UdpAddr Registration

structure Bridging where
  /-- Is the session in the store? -/
  stored : Bool
  sess : Session
  held : Holdings
  /-- The peer sessions that there were. -/
  peers : List PeerSession
  /-- The dialogs of the session: the one that it has, and those that are found by their call. -/
  bySession : Option String
  byCallID : List String
  /-- Was the provider found silent after its dialog came? -/
  silent : Bool
  /-- The audio sockets that are tracked, and those that are served. -/
  conns : List AudioHandler
  serving : List AudioHandler
  /-- The events that were emitted, with their reasons. -/
  emitted : List (String × String)
  threads : List (List Op)

inductive BridgingEvent
  | invite (callID : String) (remote : UdpAddr)
  /-- A BYE, or a CANCEL. -/
  | bye (callID reason : String)
  | connectSocket (handler : AudioHandler)
  /-- An audio socket that is served ends. -/
  | endSocket (i : Nat)
  | offer
  /-- Pion reports that a peer connection is up, or that it is not. -/
  | peerConnected (p : Nat)
  | peerLost (p : Nat) (reason : String)
  /-- The watchdog of a media session finds that the provider is silent. -/
  | rtpTimeout (n : Nat)
  | patch (providerLeg : Option ProviderLegType) (ringback : Option Bool)
  | delete
  /-- Another session registers an address, or gives it up. -/
  | otherRegisters (remote : UdpAddr)
  | otherUnregisters (remote : UdpAddr)
  /-- The listener learns that the packets of an address come from another one. -/
  | relearn (old new : UdpAddr)
  /-- The next operation of a handler; where it may fail, does it succeed? -/
  | run (i : Nat) (ok : Bool)
  deriving DecidableEq, Repr

namespace Bridging

/-- A session that was just created. -/
def init (providerLeg : ProviderLegType) (ringback : Bool) : Bridging :=
  ⟨true, .new providerLeg ringback, ⟨none, [], none, [], none, ∅⟩, [], none, [], false, [], [], [], []⟩

/-- A goroutine is started. -/
def spawn (s : Bridging) (thread : List Op) : Bridging := { s with threads := s.threads ++ [thread] }

/-- The address that stands for a provider without RTP. -/
def localRTP : UdpAddr := ⟨"127.0.0.1", 0⟩

/-- The slot is reserved, if it is free. -/
def reserve (s : Bridging) (next : List Op) : Bridging × List Op :=
  match s.held.slot with
  | some _ => (s, [])
  | none => ({ s with held.slot := some none }, next)

/-- `GetSession`; where there is no peer session, the reservation is removed. -/
def withPeer (s : Bridging) (next : List Op) : Bridging × List Op :=
  match s.held.peer with
  | none => (s, [.release])
  | some _ => (s, next)

/-- A bridge is started without the `Start` of its media session. -/
def startDirectly (s : Bridging) (next : List Op) : Bridging × List Op :=
  ({ s with held.media := s.held.media ++ [⟨none, false, false, true⟩] },
    .publish s.held.media.length :: next)

/-- `RegisterSession`. -/
def register (s : Bridging) (remote : UdpAddr) (registration : Registration) : Bridging :=
  { s with held.listener := AList.insert remote registration s.held.listener }

def setMedia (s : Bridging) (n : Nat) (f : MediaSession → MediaSession) : Bridging :=
  { s with held.media := s.held.media.modify n f }

/-- `DialogStore.Remove`. -/
def removeDialog (s : Bridging) : Bridging :=
  { s with bySession := none, byCallID := s.byCallID.filter fun callID => s.bySession ≠ some callID }

/-- One operation, and what the handler has to do next. -/
def run (s : Bridging) (ok : Bool) : Op → Bridging × List Op
  | .emit event reason => ({ s with emitted := s.emitted ++ [(event, reason)] }, [])
  | .addDialog callID remote =>
    ({ s with bySession := some callID, byCallID := callID :: s.byCallID, silent := false },
      [.providerConnected remote])
  | .removeDialog reason =>
    (s.removeDialog, [.stopMediaSession, .emit "provider_disconnected" reason])
  | .providerConnected remote =>
    (s,
      if s.stored then [.setProviderRTP remote]
      else [.emit "provider_connected" "", .tryStartMediaSession])
  | .setProviderRTP remote =>
    ({ s with sess := s.sess.setProviderRTP remote },
      [.callerWaits remote, .emit "provider_connected" "", .tryStartMediaSession])
  | .callerWaits remote =>
    (s, if s.sess.ringback ∧ ¬ s.sess.clientConnected then [.registerRingback remote] else [])
  | .registerRingback remote => if ok then (s.register remote .ringback, [.putSender]) else (s, [])
  | .putSender =>
    ({ s with
        held.sender := some s.held.senders.length
        held.senders := s.held.senders ++ [⟨false, false⟩] },
      [.startSender s.held.senders.length])
  | .startSender k =>
    ({ s with
        held.senders := s.held.senders.modify k fun r =>
          if r.stopped then r else { r with sending := true } }, [])
  | .tryStartMediaSession => (s, if s.stored then [.checkLegType] else [])
  | .checkLegType => (s, if s.sess.providerLeg = .webSocket then [] else [.checkLegs])
  | .checkLegs => (s, if s.sess.bothLegsReady then [.reserve] else [])
  | .reserve => s.reserve [.stopRingback, .getProviderRTP]
  | .stopRingback => ({ s with held.sender := none }, s.held.sender.toList.map .stopSender)
  | .stopSender k =>
    ({ s with held.senders := s.held.senders.modify k fun _ => ⟨false, true⟩ }, [])
  | .getProviderRTP =>
    match s.sess.providerRTP with
    | none => (s, [.release])
    | some remote => (s, [.getPeer remote])
  | .getPeer remote => s.withPeer [.startMedia remote]
  | .release => ({ s with held.slot := none }, [])
  | .startMedia remote =>
    if ok then
      ({ s.register remote (.media s.held.media.length) with
          held.media := s.held.media ++ [⟨some remote, false, false, false⟩] },
        [.startBridge s.held.media.length])
    else (s, [.release])
  | .startBridge n =>
    (s.setMedia n fun m => { m with running := true, watchdog := true, bridge := true },
      [.publish n, .emit "bridging_active" ""])
  | .publish n => ({ s with held.slot := some (some n) }, [])
  | .stopMediaSession => (s, [.stopRingback, .takeSlot])
  | .takeSlot => ({ s with held.slot := none }, s.held.slot.join.toList.map .stopMedia)
  | .stopMedia n =>
    match s.held.media[n]? with
    | none => (s, [])
    | some m =>
      if m.running then
        (s.setMedia n fun m => { m with running := false },
          [.stopWatchdog n, .stopBridge n] ++ m.remote.toList.map .unregister)
      else (s, [])
  | .stopWatchdog n => (s.setMedia n fun m => { m with watchdog := false }, [])
  | .stopBridge n => (s.setMedia n fun m => { m with bridge := false }, [])
  | .unregister remote => ({ s with held.listener := AList.erase remote s.held.listener }, [])
  | .trackSocket handler =>
    ({ s with conns := s.conns.insert handler },
      [.emit "provider_connected" "", .onConnect, .serveSocket handler])
  | .onConnect => (s, if s.stored then [.setSocketRTP] else [.tryStartWs])
  | .setSocketRTP =>
    ({ s with sess := s.sess.setProviderRTP localRTP }, [.socketCallerWaits, .tryStartWs])
  | .socketCallerWaits =>
    (s, if s.sess.ringback ∧ ¬ s.sess.clientConnected then [.putSender] else [])
  | .serveSocket handler => ({ s with serving := s.serving ++ [handler] }, [])
  | .removeSocket handler => ({ s with conns := s.conns.erase handler }, [])
  | .tryStartWs => (s, if s.stored then [.checkWsClient] else [])
  | .checkWsClient => (s, if s.sess.clientConnected then [.stopRingback, .reserveWs] else [])
  | .reserveWs => s.reserve [.getPeerWs]
  | .getPeerWs => s.withPeer [.startWs]
  | .startWs => s.startDirectly [.emit "bridging_active" ""]
  | .tryStartEcho => (s, if s.stored then [.checkEchoClient] else [])
  | .checkEchoClient => (s, if s.sess.clientConnected then [.reserveEcho] else [])
  | .reserveEcho => s.reserve [.getPeerEcho]
  | .getPeerEcho => s.withPeer [.playRingback]
  | .playRingback =>
    (s, if s.sess.ringback then [.putSender, .startTimer] else [.stopRingback, .startEcho])
  | .startTimer => (s.spawn [.ringTimer], [])
  | .ringTimer => (s, .stopRingback :: if s.stored then [.startEcho] else [])
  | .startEcho =>
    s.startDirectly
      [.setEchoRTP, .emit "provider_connected" "", .emit "bridging_active" ""]
  | .setEchoRTP => ({ s with sess := s.sess.setProviderRTP localRTP }, [])
  | .clientConnected =>
    (s, if s.stored then [.setClientConnected] else [.tryStartMediaSession, .checkGenericSocket])
  | .setClientConnected =>
    ({ s with sess.clientConnected := true },
      [.checkEcho, .tryStartMediaSession, .checkGenericSocket])
  | .checkEcho => (s, if s.sess.providerLeg = .echo then [.tryStartEcho] else [])
  | .checkGenericSocket =>
    (s, if .generic ∈ s.conns then [.tryStartWs] else [.checkElks46Socket])
  | .checkElks46Socket => (s, if .elks46 ∈ s.conns then [.tryStartWs] else [])
  | .offer =>
    match s.held.peer with
    | some p => (s, [.answer p])
    | none =>
      if ok then
        ({ s with held.peer := some s.peers.length, peers := s.peers ++ [⟨.created, false⟩] },
          [.answer s.peers.length])
      else (s, [])
  | .answer p =>
    match s.peers[p]? with
    | none => (s, [])
    | some peer =>
      if ok ∧ peer.state = .created then
        ({ s with peers := s.peers.set p { peer with state := .waitingClient } },
          [.emit "state_changed" ""])
      else (s, [])
  | .patch providerLeg ringback =>
    (s,
      if s.stored then
        providerLeg.toList.map .setProviderLeg ++ ringback.toList.map .setRingback
      else [])
  | .setProviderLeg providerLeg => ({ s with sess.providerLeg := providerLeg }, [])
  | .setRingback enabled => ({ s with sess.ringback := enabled }, [])
  | .deleteSession => if s.stored then ({ s with stored := false }, [.removePeer]) else (s, [])
  | .removePeer =>
    ({ s with held.peer := none }, s.held.peer.toList.map .closePeer ++ [.sendBye])
  | .closePeer p =>
    if ok then
      ({ s with
          peers := s.peers.modify p fun peer =>
            { peer with state := (peer.state.transition .closing).transition .destroyed } }, [])
    else (s, [])
  | .sendBye => (s.removeDialog, [.stopMediaSession])

/-- One event. -/
def step (s : Bridging) : BridgingEvent → Option Bridging
  | .invite callID remote =>
    some (if callID ∈ s.byCallID ∨ ¬ s.stored then s else s.spawn [.addDialog callID remote])
  | .bye callID reason =>
    some (if callID ∈ s.byCallID then s.spawn [.removeDialog reason] else s)
  | .connectSocket handler => some (if s.stored then s.spawn [.trackSocket handler] else s)
  | .endSocket i => s.serving[i]?.map fun handler =>
    { s with serving := s.serving.eraseIdx i }.spawn
      [.removeSocket handler, .emit "provider_disconnected" "ws_closed"]
  | .offer => some (s.spawn [.offer])
  | .peerConnected p => s.peers[p]?.bind fun peer =>
    match peer.state with
    -- The client has no answer yet.
    | .created => none
    | .waitingClient =>
      some ({ s with peers := s.peers.set p ⟨.clientConnected, true⟩ }.spawn
        [.emit "client_connected" "", .clientConnected])
    | _ => some { s with peers := s.peers.set p { peer with up := true } }
  | .peerLost p reason => s.peers[p]?.map fun peer =>
    { s with peers := s.peers.set p { peer with up := false } }.spawn
      [.emit "client_disconnected" reason, .stopMediaSession]
  | .rtpTimeout n => s.held.media[n]?.bind fun m =>
    if m.watchdog then
      some ({ s.setMedia n fun m => { m with watchdog := false } with silent := true }.spawn
        [.stopMediaSession, .emit "provider_disconnected" "rtp_timeout"])
    else none
  | .patch providerLeg ringback => some (s.spawn [.patch providerLeg ringback])
  | .delete => some (s.spawn [.deleteSession])
  | .otherRegisters remote => some (s.register remote .other)
  | .otherUnregisters remote =>
    some { s with held.listener := AList.erase remote s.held.listener }
  | .relearn old new => (s.held.listener.lookup old).bind fun registration =>
    -- A registration without a callback does not take the packet.
    if old ≠ new ∧ old.ip = new.ip ∧
        s.held.listener.lookup new ∈ [none, some .ringback, some .other] then
      some ({ s with held.listener := AList.erase old s.held.listener }.register new registration)
    else none
  | .run i ok =>
    match s.threads[i]? with
    | none | some [] => none
    | some (op :: rest) =>
      let r := s.run ok op
      some { r.1 with threads := r.1.threads.set i (r.2 ++ rest) }

/-- What the handlers have still to do. -/
def pending (s : Bridging) : List Op := s.threads.flatten

/-- All handlers have finished. -/
def Finished (s : Bridging) : Prop := s.pending = []

instance (s : Bridging) : Decidable s.Finished := inferInstanceAs (Decidable (_ = _))

/-! ## Pending operations -/

theorem pending_spawn (s : Bridging) (thread : List Op) :
    (s.spawn thread).pending = s.pending ++ thread := by
  rw [pending, spawn, List.flatten_append, List.flatten_singleton, pending]

theorem run_threads (s : Bridging) (ok : Bool) (op : Op) :
    (s.run ok op).1.threads = s.threads ++ op.spawned := by
  cases op with
  | reserve | reserveWs | reserveEcho =>
    simp only [run, Bridging.reserve, Op.spawned]
    split <;> simp
  | getPeer | getPeerWs | getPeerEcho =>
    simp only [run, withPeer, Op.spawned]
    split <;> simp
  | startMedia | registerRingback | closePeer | deleteSession | getProviderRTP =>
    simp only [run, Op.spawned]
    split <;> simp [register]
  | stopMedia | answer =>
    simp only [run, Op.spawned]
    split
    · simp
    · split <;> simp [setMedia]
  | offer =>
    simp only [run, Op.spawned]
    split
    · simp
    · split <;> simp
  | startTimer => rfl
  | _ => exact (List.append_nil _).symm

variable {s t : Bridging} {i : Nat} {ok : Bool} {op : Op} {rest : List Op}

/-- The state after an operation of the `i`-th handler, which has to do the rest after it. -/
def after (s : Bridging) (i : Nat) (ok : Bool) (op : Op) (rest : List Op) : Bridging :=
  { (s.run ok op).1 with threads := s.threads.set i ((s.run ok op).2 ++ rest) ++ op.spawned }

/-- A step of a handler runs its first operation. -/
theorem of_step_run (hstep : s.step (.run i ok) = some t) :
    ∃ op rest, s.threads[i]? = some (op :: rest) ∧ t = s.after i ok op rest := by
  cases hthread : s.threads[i]? with
  | none => simp [step, hthread] at hstep
  | some thread =>
    cases thread with
    | nil => simp [step, hthread] at hstep
    | cons op rest =>
      refine ⟨op, rest, rfl, ?_⟩
      simp only [step, hthread, run_threads, Option.some.injEq] at hstep
      rw [← hstep, after, List.set_append_left _ _ (List.getElem?_eq_some_iff.mp hthread).1]

theorem pending_after :
    (s.after i ok op rest).pending =
      (s.threads.set i ((s.run ok op).2 ++ rest)).flatten ++ op.spawned.flatten := by
  rw [pending, after, List.flatten_append]

section

variable (hthread : s.threads[i]? = some (op :: rest))

include hthread

theorem next_subset_pending : (s.run ok op).2 ⊆ (s.after i ok op rest).pending := fun x hx => by
  rw [pending_after]
  exact List.mem_append_left _ (mem_flatten_set hthread (List.mem_append_left _ hx))

/-- What the other operations were is not changed. -/
theorem mem_pending_after {x : Op} (hx : x ∈ s.pending) (hne : x ≠ op) :
    x ∈ (s.after i ok op rest).pending := by
  rw [pending_after]
  exact List.mem_append_left _ (mem_flatten_set_append (mem_flatten_set_of_mem hthread hx hne) _)

/-- What is to be done after an operation follows from it, or was to be done before. -/
theorem of_mem_pending_after {x : Op} (hx : x ∈ (s.after i ok op rest).pending) :
    x ∈ (s.run ok op).2 ∨ x ∈ op.spawned.flatten ∨ x ∈ s.pending := by
  rw [pending_after] at hx
  obtain hx | hx := List.mem_append.mp hx
  · obtain hnext | hrest | hx := of_mem_flatten_set hx
    · exact .inl hnext
    · exact .inr (.inr (List.mem_flatten.mpr ⟨_, List.mem_of_getElem? hthread, .tail _ hrest⟩))
    · exact .inr (.inr hx)
  · exact .inr (.inl hx)

/-- The operations of a kind that are to be done, before and after one of them. -/
theorem countP_pending_after (p : Op → Bool) :
    (s.after i ok op rest).pending.countP p + [op].countP p =
      s.pending.countP p + ((s.run ok op).2.countP p + op.spawned.flatten.countP p) := by
  have hset := countP_flatten_set hthread p (s.run ok op).2
  rw [pending_after, List.countP_append, pending]
  omega

end

end Bridging

end Svarla.MediaBridge
