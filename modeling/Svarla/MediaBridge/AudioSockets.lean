import Svarla.Lib.Map
import Svarla.Lib.Run
import Svarla.Lib.Threads
import Svarla.MediaBridge.Events
import Mathlib.Data.List.Nodup
import Mathlib.Tactic.Common

/-!
# The providers' audio sockets

A provider connects its audio over a WebSocket, to the generic handler or to the one of 46elks. Both
keep their connections by session, and what a connection leaves behind when it ends is deleted by
session, too: a connection that came later for the same session loses its entries, and is reported as
disconnected. The write channel of 46elks is looked up under the lock, and used and
closed after it, so that a message can meet a closed channel (`sockets_unsafe`).

In a run where nothing ends while a later connection of its session is there, and no channel is closed
while another caller has it (`Apart`), neither happens (`sockets_safe`).

`Shutdown`, the reads of the connections and their pings are left out; a connection may end at any time.
-/

namespace Svarla.MediaBridge

open Svarla.Lib

/-- `Handler` and `Elks46Handler`. -/
inductive AudioHandler
  | generic
  | elks46
  deriving DecidableEq, Repr

/-- Where a connection is. -/
inductive SocketPhase
  /-- In the map of connections. -/
  | tracked
  /-- `provider_connected` is emitted. -/
  | announced
  /-- In its read loop; for 46elks, with its write channel. -/
  | serving
  /-- Deleted from the maps. -/
  | removed
  /-- `provider_disconnected` is emitted. -/
  | ended
  deriving DecidableEq, Repr

namespace SocketPhase

/-- Is the connection there? -/
def Live (phase : SocketPhase) : Prop := phase = tracked ∨ phase = announced ∨ phase = serving

/-- Was there a write channel? -/
def Opened (phase : SocketPhase) : Prop := phase = serving ∨ phase = removed ∨ phase = ended

instance (phase : SocketPhase) : Decidable phase.Live := inferInstanceAs (Decidable (_ ∨ _))

instance (phase : SocketPhase) : Decidable phase.Opened := inferInstanceAs (Decidable (_ ∨ _))

end SocketPhase

/-- What is written to 46elks: `elks46AudioMsg` with its samples, or a bye. -/
inductive Elks46Message
  | audio (pcmData : List UInt8)
  | bye
  deriving DecidableEq, Repr

structure AudioSocket where
  handler : AudioHandler
  sessionID : String
  phase : SocketPhase
  /-- What is in its write channel. -/
  queue : List Elks46Message
  deriving DecidableEq, Repr

/-- A caller of the 46elks handler that has looked a write channel up; a channel has the number of its
connection. -/
inductive ChannelUser
  /-- `SendAudioFrame`, before it sends. -/
  | sending (ch : Nat) (pcmData : List UInt8)
  /-- `CloseConnection`, before it sends its bye. -/
  | bye (sessionID : String) (ch : Nat)
  /-- Before it deletes the channel of the session. -/
  | deleting (sessionID : String) (ch : Nat)
  | closing (ch : Nat)
  deriving DecidableEq, Repr

def ChannelUser.ch : ChannelUser → Nat
  | sending ch _ | bye _ ch | deleting _ ch | closing ch => ch

/-- The session of a caller that will delete its channel. -/
def ChannelUser.sessionID : ChannelUser → Option String
  | bye sessionID _ | deleting sessionID _ => some sessionID
  | sending _ _ | closing _ => none

/-- An event that was emitted, by which connection, and which ones of its session were there. -/
structure Emission where
  event : Event
  conn : Nat
  live : List Nat
  deriving DecidableEq, Repr

structure AudioSockets where
  /-- The connections that there were; they are numbered as they come. -/
  connections : List AudioSocket
  conns : Map (AudioHandler × String) Nat
  writeChs : Map String Nat
  users : List ChannelUser
  emitted : List Emission
  /-- Whose end removed whose entry from a map. -/
  removals : List (Nat × Nat)
  /-- The channels that were closed. -/
  closed : List Nat
  /-- The closed channels that a message was sent on. -/
  sentOnClosed : List Nat

inductive AudioSocketEvent
  | connect (handler : AudioHandler) (sessionID : String)
  /-- A connection goes on: it emits `provider_connected`, and then serves. -/
  | proceed (conn : Nat)
  /-- The deferred function of a connection, while it has the lock. -/
  | remove (conn : Nat)
  /-- The rest of the deferred function. -/
  | leave (conn : Nat)
  | sendAudioFrame (sessionID : String) (pcmData : List UInt8)
  | closeConnection (sessionID : String)
  /-- The next step of a caller that has a channel. -/
  | user (i : Nat)
  /-- The write goroutine of a connection takes a message. -/
  | written (conn : Nat)
  deriving DecidableEq, Repr

namespace AudioSockets

def init : AudioSockets := ⟨[], ∅, ∅, [], [], [], [], []⟩

/-- The connections of a session that are there. -/
def live (s : AudioSockets) (sessionID : String) : List Nat :=
  (List.range s.connections.length).filter fun m =>
    s.connections[m]?.any fun c => c.sessionID = sessionID ∧ c.phase.Live

def setPhase (s : AudioSockets) (n : Nat) (phase : SocketPhase) : AudioSockets :=
  { s with connections := s.connections.modify n fun c => { c with phase } }

def emit (s : AudioSockets) (n : Nat) (sessionID event reason : String) : AudioSockets :=
  { s with emitted := s.emitted ++ [⟨sessionEvent sessionID event reason, n, s.live sessionID⟩] }

/-- A message is sent on a channel with room for ten; it is dropped where the channel is full. -/
def send (s : AudioSockets) (ch : Nat) (message : Elks46Message) : AudioSockets :=
  if ch ∈ s.closed then { s with sentOnClosed := s.sentOnClosed ++ [ch] }
  else
    { s with
      connections := s.connections.modify ch fun c =>
        if c.queue.length < 10 then { c with queue := c.queue ++ [message] } else c }

/-- `handleAudioWS` and `ServeHTTP`, once the session is known: the connection is tracked. -/
def connect (s : AudioSockets) (handler : AudioHandler) (sessionID : String) : AudioSockets :=
  { s with
    connections := s.connections ++ [⟨handler, sessionID, .tracked, []⟩]
    conns := AList.insert (handler, sessionID) s.connections.length s.conns }

/-- A connection is announced, and then it is served, with a new write channel for 46elks. -/
def proceed (s : AudioSockets) (n : Nat) (c : AudioSocket) : Option AudioSockets :=
  match c.phase with
  | .tracked => some ((s.emit n c.sessionID "provider_connected" "").setPhase n .announced)
  | .announced =>
    let writeChs :=
      match c.handler with
      | .generic => s.writeChs
      | .elks46 => AList.insert c.sessionID n s.writeChs
    some ({ s with writeChs }.setPhase n .serving)
  | .serving | .removed | .ended => none

/-- The deferred function of a connection deletes the entries of its session. -/
def remove (s : AudioSockets) (n : Nat) (c : AudioSocket) : AudioSockets :=
  let s : AudioSockets :=
    { s with
      conns := AList.erase (c.handler, c.sessionID) s.conns
      removals := s.removals ++ ((s.conns.lookup (c.handler, c.sessionID)).toList.map (n, ·)) }
  let s : AudioSockets :=
    match c.handler with
    | .generic => s
    | .elks46 =>
      { s with
        writeChs := AList.erase c.sessionID s.writeChs
        removals := s.removals ++ ((s.writeChs.lookup c.sessionID).toList.map (n, ·)) }
  s.setPhase n .removed

/-- It emits `provider_disconnected`. -/
def leave (s : AudioSockets) (n : Nat) (c : AudioSocket) : AudioSockets :=
  (s.emit n c.sessionID "provider_disconnected" "ws_closed").setPhase n .ended

/-- `SendAudioFrame` of 46elks, up to its lookup. -/
def sendAudioFrame (s : AudioSockets) (sessionID : String) (pcmData : List UInt8) : AudioSockets :=
  match s.writeChs.lookup sessionID with
  | none => s
  | some ch => { s with users := s.users ++ [.sending ch pcmData] }

/-- `CloseConnection`, up to its lookups; a connection without a channel gets its bye directly. -/
def closeConnection (s : AudioSockets) (sessionID : String) : AudioSockets :=
  match s.conns.lookup (.elks46, sessionID), s.writeChs.lookup sessionID with
  | some _, some ch => { s with users := s.users ++ [.bye sessionID ch] }
  | _, _ => s

/-- The next step of a caller that has a channel, and the caller that is left. -/
def userStep (s : AudioSockets) : ChannelUser → AudioSockets × Option ChannelUser
  | .sending ch pcmData => (s.send ch (.audio pcmData), none)
  | .bye sessionID ch => (s.send ch .bye, some (.deleting sessionID ch))
  | .deleting sessionID ch =>
    ({ s with
        writeChs := AList.erase sessionID s.writeChs
        removals := s.removals ++ ((s.writeChs.lookup sessionID).toList.map (ch, ·)) },
      some (.closing ch))
  | .closing ch => ({ s with closed := s.closed ++ [ch] }, none)

/-- One event. -/
def step (s : AudioSockets) : AudioSocketEvent → Option AudioSockets
  | .connect handler sessionID => some (s.connect handler sessionID)
  | .proceed n => s.connections[n]?.bind (s.proceed n)
  | .remove n => s.connections[n]?.bind fun c =>
    if c.phase = .serving then some (s.remove n c) else none
  | .leave n => s.connections[n]?.bind fun c =>
    if c.phase = .removed then some (s.leave n c) else none
  | .sendAudioFrame sessionID pcmData => some (s.sendAudioFrame sessionID pcmData)
  | .closeConnection sessionID => some (s.closeConnection sessionID)
  | .user i => s.users[i]?.map fun user =>
    let r := s.userStep user
    { r.1 with users := advance r.1.users i r.2 }
  | .written n => s.connections[n]?.map fun _ =>
    { s with connections := s.connections.modify n fun c => { c with queue := c.queue.tail } }

/-- No connection costs a later one its entries, or is reported as disconnected while a later one of
its session is there; no message is sent on a closed channel, and no channel is closed twice. -/
structure Safe (s : AudioSockets) : Prop where
  removals : ∀ p ∈ s.removals, p.2 ≤ p.1
  emitted : ∀ e ∈ s.emitted, e.event.eventName = "provider_disconnected" →
    ∀ m ∈ e.live, m ≤ e.conn
  sentOnClosed : s.sentOnClosed = []
  closed : s.closed.Nodup

/-! ## The condition -/

/-- No connection of the session that is there came later. -/
def Last (s : AudioSockets) (n : Nat) (sessionID : String) : Prop :=
  ∀ m ∈ s.live sessionID, m ≤ n

/-- No connection of the session to the handler that is there came later. -/
def LastOf (s : AudioSockets) (n : Nat) (handler : AudioHandler) (sessionID : String) : Prop :=
  ∀ m ∈ s.live sessionID, (∃ c ∈ s.connections[m]?, c.handler = handler) → m ≤ n

/-- What a caller may do with its channel, among the others. -/
def MayUse (s : AudioSockets) (others : List ChannelUser) : ChannelUser → Prop
  | .deleting sessionID ch => s.LastOf ch .elks46 sessionID
  | .closing ch => ∀ other ∈ others, other.ch ≠ ch
  | .sending _ _ | .bye _ _ => True

/-- A connection's entries are deleted, and it is reported as disconnected, while no later one of its
session is there, and a channel is closed while no other caller has it. -/
def Apart (s : AudioSockets) : AudioSocketEvent → Prop
  | .remove n => ∀ c ∈ s.connections[n]?, s.LastOf n c.handler c.sessionID
  | .leave n => ∀ c ∈ s.connections[n]?, s.Last n c.sessionID
  | .user i => ∀ user ∈ s.users[i]?, s.MayUse (s.users.eraseIdx i) user
  | .connect _ _ | .proceed _ | .sendAudioFrame _ _ | .closeConnection _ | .written _ => True

instance (s : AudioSockets) (n : Nat) (sessionID : String) : Decidable (s.Last n sessionID) :=
  inferInstanceAs (Decidable (∀ m ∈ s.live sessionID, _))

instance (s : AudioSockets) (n : Nat) (handler : AudioHandler) (sessionID : String) :
    Decidable (s.LastOf n handler sessionID) :=
  inferInstanceAs (Decidable (∀ m ∈ s.live sessionID, _))

instance (s : AudioSockets) (others : List ChannelUser) :
    (user : ChannelUser) → Decidable (s.MayUse others user)
  | .deleting _ _ => inferInstanceAs (Decidable (LastOf _ _ _ _))
  | .closing _ => inferInstanceAs (Decidable (∀ other ∈ others, _))
  | .sending _ _ | .bye _ _ => .isTrue trivial

instance (s : AudioSockets) : (e : AudioSocketEvent) → Decidable (s.Apart e)
  | .remove n => inferInstanceAs (Decidable (∀ c ∈ s.connections[n]?, _))
  | .leave n => inferInstanceAs (Decidable (∀ c ∈ s.connections[n]?, _))
  | .user i => inferInstanceAs (Decidable (∀ user ∈ s.users[i]?, _))
  | .connect _ _ | .proceed _ | .sendAudioFrame _ _ | .closeConnection _ | .written _ =>
    .isTrue trivial

/-! ## The invariant -/

variable {s t : AudioSockets}

/-- Connection `n` is one of the handler and the session, in such a phase. -/
def Among (connections : List AudioSocket) (n : Nat) (handler : AudioHandler) (sessionID : String)
    (P : SocketPhase → Prop) : Prop :=
  ∃ c, connections[n]? = some c ∧ c.handler = handler ∧ c.sessionID = sessionID ∧ P c.phase

section Among

variable {connections : List AudioSocket} {n m : Nat} {handler handler' : AudioHandler}
  {sessionID sessionID' : String} {P Q : SocketPhase → Prop}

theorem Among.unique (h : Among connections n handler sessionID P)
    (h' : Among connections n handler' sessionID' Q) :
    handler = handler' ∧ sessionID = sessionID' ∧ ∃ phase, P phase ∧ Q phase := by
  obtain ⟨c, hc, rfl, rfl, hP⟩ := h
  obtain ⟨d, hd, rfl, rfl, hQ⟩ := h'
  cases hc.symm.trans hd
  exact ⟨rfl, rfl, c.phase, hP, hQ⟩

theorem Among.imp (h : Among connections n handler sessionID P) (hPQ : ∀ phase, P phase → Q phase) :
    Among connections n handler sessionID Q := by
  obtain ⟨c, hc, hhandler, hsession, hP⟩ := h
  exact ⟨c, hc, hhandler, hsession, hPQ c.phase hP⟩

theorem Among.concat (h : Among connections n handler sessionID P) (c : AudioSocket) :
    Among (connections ++ [c]) n handler sessionID P := by
  obtain ⟨d, hd, hrest⟩ := h
  have hlt := (List.getElem?_eq_some_iff.mp hd).1
  exact ⟨d, (List.getElem?_append_left hlt).trans hd, hrest⟩

/-- A connection's phase and queue change. -/
theorem Among.modify (h : Among connections m handler sessionID P) {f : AudioSocket → AudioSocket}
    (hf : ∀ c, (f c).handler = c.handler ∧ (f c).sessionID = c.sessionID)
    (hP : m = n → ∀ c, connections[n]? = some c → P c.phase → P (f c).phase) :
    Among (connections.modify n f) m handler sessionID P := by
  obtain ⟨c, hc, hhandler, hsession, hphase⟩ := h
  by_cases hmn : n = m
  · subst hmn
    refine ⟨f c, ?_, (hf c).1.trans hhandler, (hf c).2.trans hsession, hP rfl c hc hphase⟩
    simp [hc]
  · refine ⟨c, ?_, hhandler, hsession, hphase⟩
    simp [hc, hmn]

end Among

theorem mem_live {m : Nat} {sessionID : String} :
    m ∈ s.live sessionID ↔
      ∃ c, s.connections[m]? = some c ∧ c.sessionID = sessionID ∧ c.phase.Live := by
  rw [live, List.mem_filter, List.mem_range, Option.any_eq_true]
  constructor
  · rintro ⟨-, c, hc, h⟩
    exact ⟨c, hc, of_decide_eq_true h⟩
  · rintro ⟨c, hc, h⟩
    exact ⟨(List.getElem?_eq_some_iff.mp hc).1, c, hc, decide_eq_true h⟩

theorem LastOf.le {n m : Nat} {handler : AudioHandler} {sessionID : String}
    (h : s.LastOf n handler sessionID)
    (hm : Among s.connections m handler sessionID SocketPhase.Live) : m ≤ n := by
  obtain ⟨c, hc, hhandler, hsession, hlive⟩ := hm
  exact h m (mem_live.mpr ⟨c, hc, hsession, hlive⟩) ⟨c, hc, hhandler⟩

/-- What a run keeps. -/
structure Kept (s : AudioSockets) : Prop where
  conns : ∀ handler sessionID n, s.conns.lookup (handler, sessionID) = some n →
    Among s.connections n handler sessionID SocketPhase.Live
  writeChs : ∀ sessionID n, s.writeChs.lookup sessionID = some n →
    Among s.connections n .elks46 sessionID (· = .serving)
  users : ∀ user ∈ s.users, ∃ sessionID,
    Among s.connections user.ch .elks46 sessionID SocketPhase.Opened ∧
      ∀ id ∈ user.sessionID, id = sessionID
  /-- A channel is deleted before it is closed. -/
  closing : ∀ ch, .closing ch ∈ s.users → ∀ sessionID, s.writeChs.lookup sessionID ≠ some ch
  closed : ∀ ch ∈ s.closed, (∃ sessionID, Among s.connections ch .elks46 sessionID SocketPhase.Opened) ∧
    (∀ sessionID, s.writeChs.lookup sessionID ≠ some ch) ∧ ∀ user ∈ s.users, user.ch ≠ ch
  safe : s.Safe

theorem kept_init : init.Kept where
  conns := nofun
  writeChs := nofun
  users := nofun
  closing := nofun
  closed := nofun
  safe := ⟨nofun, nofun, rfl, .nil⟩

/-- Phases and queues change; the maps, and what the callers have, are as before. -/
theorem Kept.modify (h : s.Kept) {n : Nat} {f : AudioSocket → AudioSocket}
    (hf : ∀ c, (f c).handler = c.handler ∧ (f c).sessionID = c.sessionID)
    (hphase : ∀ c, s.connections[n]? = some c →
      (c.phase.Live → (f c).phase.Live) ∧ (c.phase = .serving → (f c).phase = .serving) ∧
        (c.phase.Opened → (f c).phase.Opened)) :
    Kept { s with connections := s.connections.modify n f } where
  conns handler sessionID m hm :=
    (h.conns handler sessionID m hm).modify hf fun _ c hc => (hphase c hc).1
  writeChs sessionID m hm := (h.writeChs sessionID m hm).modify hf fun _ c hc => (hphase c hc).2.1
  users user huser := by
    obtain ⟨sessionID, hamong, hid⟩ := h.users user huser
    exact ⟨sessionID, hamong.modify hf fun _ c hc => (hphase c hc).2.2, hid⟩
  closing := h.closing
  closed ch hch := by
    obtain ⟨⟨sessionID, hamong⟩, hrest⟩ := h.closed ch hch
    exact ⟨⟨sessionID, hamong.modify hf fun _ c hc => (hphase c hc).2.2⟩, hrest⟩
  safe := { h.safe with }

theorem Kept.connect (h : s.Kept) (handler : AudioHandler) (sessionID : String) :
    (s.connect handler sessionID).Kept where
  conns handler' sessionID' n hn := by
    rw [AudioSockets.connect, Map.lookup_insert] at hn
    split at hn
    · next heq =>
      cases hn
      cases heq
      exact ⟨_, List.getElem?_concat_length, rfl, rfl, .inl rfl⟩
    · exact (h.conns handler' sessionID' n hn).concat _
  writeChs sessionID' n hn := (h.writeChs sessionID' n hn).concat _
  users user huser := by
    obtain ⟨sessionID', hamong, hid⟩ := h.users user huser
    exact ⟨sessionID', hamong.concat _, hid⟩
  closing := h.closing
  closed ch hch := by
    obtain ⟨⟨sessionID', hamong⟩, hrest⟩ := h.closed ch hch
    exact ⟨⟨sessionID', hamong.concat _⟩, hrest⟩
  safe := { h.safe with }

/-- An event is emitted that is no `provider_disconnected`, or by the last connection. -/
theorem Kept.emit (h : s.Kept) {n : Nat} {sessionID event reason : String}
    (hlast : event = "provider_disconnected" → s.Last n sessionID) :
    (s.emit n sessionID event reason).Kept :=
  { h with
    safe :=
      { h.safe with
        emitted := fun e he hname m hm => by
          rcases List.mem_append.mp he with he | he
          · exact h.safe.emitted e he hname m hm
          · cases List.mem_singleton.mp he
            exact hlast hname m hm } }

/-- A connection gets its write channel. -/
theorem Kept.open (h : s.Kept) {n : Nat} {sessionID : String}
    (hn : Among s.connections n .elks46 sessionID (· = .serving))
    (husers : ∀ user ∈ s.users, user.ch ≠ n) (hclosed : n ∉ s.closed) :
    Kept { s with writeChs := AList.insert sessionID n s.writeChs } :=
  have hlookup : ∀ ch, ch ≠ n → (∀ id, s.writeChs.lookup id ≠ some ch) →
      ∀ id, AList.lookup id (AList.insert sessionID n s.writeChs) ≠ some ch := by
    intro ch hne hch id
    rw [Map.lookup_insert]
    split
    · exact fun heq => hne (Option.some.inj heq).symm
    · exact hch id
  { h with
    writeChs := fun id m hm => by
      rw [Map.lookup_insert] at hm
      split at hm
      · next heq =>
        cases hm
        exact heq ▸ hn
      · exact h.writeChs id m hm
    closing := fun ch hch => hlookup ch (husers _ hch) (h.closing ch hch)
    closed := fun ch hch => by
      obtain ⟨hamong, hmap, hother⟩ := h.closed ch hch
      exact ⟨hamong, hlookup ch (fun heq => hclosed (heq ▸ hch)) hmap, hother⟩
    safe := { h.safe with } }

theorem Kept.proceed (h : s.Kept) {n : Nat} {c : AudioSocket} (hn : s.connections[n]? = some c)
    (ht : s.proceed n c = some t) : t.Kept := by
  rw [AudioSockets.proceed] at ht
  split at ht
  · next hphase =>
    cases ht
    have hemit : (s.emit n c.sessionID "provider_connected" "").Kept :=
      h.emit fun heq => absurd heq (by decide)
    refine hemit.modify (fun _ => ⟨rfl, rfl⟩) fun d hd => ?_
    cases hn.symm.trans hd
    rw [hphase]
    exact ⟨fun _ => .inr (.inl rfl), nofun, fun hopened => absurd hopened (by decide)⟩
  · next hphase =>
    have hserve : (s.setPhase n .serving).Kept :=
      h.modify (fun _ => ⟨rfl, rfl⟩) fun d _ =>
        ⟨fun _ => .inr (.inr rfl), fun _ => rfl, fun _ => .inl rfl⟩
    cases hhandler : c.handler with
    | generic =>
      rw [hhandler] at ht
      cases ht
      exact hserve
    | elks46 =>
      rw [hhandler] at ht
      cases ht
      have hopened : ∀ sessionID, ¬ Among s.connections n .elks46 sessionID SocketPhase.Opened := by
        rintro sessionID ⟨d, hd, -, -, hopened⟩
        cases hn.symm.trans hd
        rw [hphase] at hopened
        exact absurd hopened (by decide)
      refine hserve.open ⟨{ c with phase := .serving }, ?_, hhandler, rfl, rfl⟩ ?_ ?_
      · simp [setPhase, hn]
      · intro user huser heq
        obtain ⟨sessionID, hamong, -⟩ := h.users user huser
        exact hopened sessionID (heq ▸ hamong)
      · intro hclosed
        obtain ⟨⟨sessionID, hamong⟩, -⟩ := h.closed n hclosed
        exact hopened sessionID hamong
  · cases ht
  · cases ht
  · cases ht

/-- Entries are removed that came no later. -/
theorem Safe.remove (h : s.Safe) {n : Nat} {entry : Option Nat} (hentry : ∀ m ∈ entry, m ≤ n) :
    Safe { s with removals := s.removals ++ entry.toList.map (n, ·) } :=
  { h with
    removals := fun p hp => by
      rcases List.mem_append.mp hp with hp | hp
      · exact h.removals p hp
      · obtain ⟨m, hm, rfl⟩ := List.mem_map.mp hp
        exact hentry m (Option.mem_toList.mp hm) }

/-- The write channel of a session is deleted. -/
theorem Kept.eraseCh (h : s.Kept) {n : Nat} {sessionID : String}
    (hlast : s.LastOf n .elks46 sessionID) :
    Kept { s with
      writeChs := AList.erase sessionID s.writeChs
      removals := s.removals ++ (s.writeChs.lookup sessionID).toList.map (n, ·) } :=
  have hlookup : ∀ id ch, AList.lookup id (AList.erase sessionID s.writeChs) = some ch →
      s.writeChs.lookup id = some ch := by
    intro id ch hch
    rw [Map.lookup_erase] at hch
    split at hch
    · cases hch
    · exact hch
  { h with
    writeChs := fun id m hm => h.writeChs id m (hlookup id m hm)
    closing := fun ch hch id hid => h.closing ch hch id (hlookup id ch hid)
    closed := fun ch hch => by
      obtain ⟨hamong, hmap, hother⟩ := h.closed ch hch
      exact ⟨hamong, fun id hid => hmap id (hlookup id ch hid), hother⟩
    safe := { h.safe.remove fun m hm => hlast.le ((h.writeChs sessionID m hm).imp fun _ heq =>
      .inr (.inr heq)) with } }

/-- The entry of a session and a handler is deleted. -/
theorem Kept.eraseConn (h : s.Kept) {n : Nat} {handler : AudioHandler} {sessionID : String}
    (hlast : s.LastOf n handler sessionID) :
    Kept { s with
      conns := AList.erase (handler, sessionID) s.conns
      removals := s.removals ++ (s.conns.lookup (handler, sessionID)).toList.map (n, ·) } :=
  { h with
    conns := fun handler' id m hm => by
      rw [Map.lookup_erase] at hm
      split at hm
      · cases hm
      · exact h.conns handler' id m hm
    safe := { h.safe.remove fun m hm => hlast.le (h.conns handler sessionID m hm) with } }

/-- A connection that has no entry in a map is no longer there. -/
theorem Kept.leaving (h : s.Kept) {n : Nat} {phase : SocketPhase} (hphase : phase.Opened)
    (hconns : ∀ k, s.conns.lookup k ≠ some n) (hchs : ∀ k, s.writeChs.lookup k ≠ some n) :
    (s.setPhase n phase).Kept where
  conns handler sessionID m hm :=
    (h.conns handler sessionID m hm).modify (fun _ => ⟨rfl, rfl⟩) fun heq =>
      absurd (heq ▸ hm) (hconns _)
  writeChs sessionID m hm :=
    (h.writeChs sessionID m hm).modify (fun _ => ⟨rfl, rfl⟩) fun heq => absurd (heq ▸ hm) (hchs _)
  users user huser := by
    obtain ⟨sessionID, hamong, hid⟩ := h.users user huser
    exact ⟨sessionID, hamong.modify (fun _ => ⟨rfl, rfl⟩) fun _ _ _ _ => hphase, hid⟩
  closing := h.closing
  closed ch hch := by
    obtain ⟨⟨sessionID, hamong⟩, hrest⟩ := h.closed ch hch
    exact ⟨⟨sessionID, hamong.modify (fun _ => ⟨rfl, rfl⟩) fun _ _ _ _ => hphase⟩, hrest⟩
  safe := { h.safe with }

theorem Kept.remove (h : s.Kept) {n : Nat} {c : AudioSocket} (hn : s.connections[n]? = some c)
    (hlast : s.LastOf n c.handler c.sessionID) : (s.remove n c).Kept := by
  have hown : ∀ handler sessionID m, s.conns.lookup (handler, sessionID) = some m → m = n →
      (handler, sessionID) = (c.handler, c.sessionID) := by
    rintro handler sessionID m hm rfl
    obtain ⟨d, hd, rfl, rfl, -⟩ := h.conns handler sessionID m hm
    cases hn.symm.trans hd
    rfl
  have hconns : ∀ k, AList.lookup k (AList.erase (c.handler, c.sessionID) s.conns) ≠ some n := by
    intro k hk
    rw [Map.lookup_erase] at hk
    split at hk
    · cases hk
    · next hne => exact hne (hown k.1 k.2 n hk rfl)
  have hch : ∀ id, s.writeChs.lookup id = some n → c.handler = .elks46 ∧ id = c.sessionID := by
    intro id hid
    obtain ⟨d, hd, hhandler, hsession, -⟩ := h.writeChs id n hid
    cases hn.symm.trans hd
    exact ⟨hhandler, hsession.symm⟩
  have hkept := h.eraseConn hlast
  cases hhandler : c.handler with
  | generic =>
    rw [AudioSockets.remove, hhandler]
    rw [hhandler] at hkept hconns
    refine hkept.leaving (by decide) hconns fun id hid => ?_
    have := (hch id hid).1
    rw [hhandler] at this
    cases this
  | elks46 =>
    rw [AudioSockets.remove, hhandler]
    rw [hhandler] at hkept hconns hlast
    refine (hkept.eraseCh hlast).leaving (by decide) hconns fun id hid => ?_
    rw [Map.lookup_erase] at hid
    split at hid
    · cases hid
    · next hne => exact hne (hch id hid).2

theorem Kept.leave (h : s.Kept) {n : Nat} {c : AudioSocket} (hn : s.connections[n]? = some c)
    (hphase : c.phase = .removed) (hlast : s.Last n c.sessionID) : (s.leave n c).Kept := by
  refine Kept.modify (h.emit fun _ => hlast) (fun _ => ⟨rfl, rfl⟩) fun d hd => ?_
  cases hn.symm.trans hd
  rw [hphase]
  exact ⟨fun hlive => absurd hlive (by decide), nofun, fun _ => .inr (.inr rfl)⟩

/-! ## The callers -/

/-- A caller gets a channel from the map. -/
theorem Kept.lookup (h : s.Kept) {sessionID : String} (user : ChannelUser)
    (hch : s.writeChs.lookup sessionID = some user.ch) (hid : ∀ id ∈ user.sessionID, id = sessionID)
    (hclosing : ∀ ch, user ≠ .closing ch) : Kept { s with users := s.users ++ [user] } :=
  { h with
    users := fun u hu => by
      rcases List.mem_append.mp hu with hu | hu
      · exact h.users u hu
      · cases List.mem_singleton.mp hu
        exact ⟨sessionID, (h.writeChs sessionID user.ch hch).imp fun _ => .inl, hid⟩
    closing := fun ch hu => by
      rcases List.mem_append.mp hu with hu | hu
      · exact h.closing ch hu
      · exact absurd (List.mem_singleton.mp hu).symm (hclosing ch)
    closed := fun ch hclosed => by
      obtain ⟨hamong, hmap, hother⟩ := h.closed ch hclosed
      refine ⟨hamong, hmap, fun u hu => ?_⟩
      rcases List.mem_append.mp hu with hu | hu
      · exact hother u hu
      · cases List.mem_singleton.mp hu
        rintro rfl
        exact hmap sessionID hch
    safe := { h.safe with } }

/-- A caller goes on with its channel, or ends. -/
theorem Kept.advance (h : s.Kept) {i : Nat} {user : ChannelUser} (hi : s.users[i]? = some user)
    (next : Option ChannelUser) (hch : ∀ u ∈ next, u.ch = user.ch)
    (hid : ∀ u ∈ next, ∀ id ∈ u.sessionID, id ∈ user.sessionID)
    (hclosing : ∀ ch, next = some (.closing ch) → ∀ id, s.writeChs.lookup id ≠ some ch) :
    Kept { s with users := advance s.users i next } :=
  have huser : user ∈ s.users := List.mem_of_getElem? hi
  { h with
    users := fun u hu => by
      rcases mem_advance hu with hu | hu
      · exact h.users u hu
      · obtain ⟨sessionID, hamong, hsession⟩ := h.users user huser
        exact ⟨sessionID, (hch u hu).symm ▸ hamong, fun id h => hsession id (hid u hu id h)⟩
    closing := fun ch hu => by
      rcases mem_advance hu with hu | hu
      · exact h.closing ch hu
      · exact hclosing ch hu
    closed := fun ch hclosed => by
      obtain ⟨hamong, hmap, hother⟩ := h.closed ch hclosed
      refine ⟨hamong, hmap, fun u hu => ?_⟩
      rcases mem_advance hu with hu | hu
      · exact hother u hu
      · exact fun heq => hother user huser ((hch u hu).symm.trans heq)
    safe := { h.safe with } }

/-- A message is sent on a channel that somebody has: it is not closed. -/
theorem Kept.send (h : s.Kept) {user : ChannelUser} (huser : user ∈ s.users)
    (message : Elks46Message) : (s.send user.ch message).Kept ∧
      (s.send user.ch message).users = s.users := by
  have hopen : user.ch ∉ s.closed := fun hclosed => (h.closed _ hclosed).2.2 user huser rfl
  rw [AudioSockets.send, if_neg hopen]
  refine ⟨h.modify (fun c => ?_) fun c _ => ?_, rfl⟩
  · split <;> exact ⟨rfl, rfl⟩
  · split <;> exact ⟨id, id, id⟩

theorem Kept.user (h : s.Kept) {i : Nat} (hapart : s.Apart (.user i))
    (ht : s.step (.user i) = some t) : t.Kept := by
  obtain ⟨user, hi, rfl⟩ := Option.map_eq_some_iff.mp ht
  have huser : user ∈ s.users := List.mem_of_getElem? hi
  have hguard := hapart user hi
  cases user with
  | sending ch pcmData =>
    obtain ⟨hkept, husers⟩ := h.send huser (.audio pcmData)
    exact hkept.advance (husers ▸ hi) none nofun nofun nofun
  | bye sessionID ch =>
    obtain ⟨hkept, husers⟩ := h.send huser .bye
    refine hkept.advance (husers ▸ hi) (some (.deleting sessionID ch)) ?_ ?_ ?_
    · rintro u ⟨⟩
      rfl
    · rintro u ⟨⟩ id hid
      exact hid
    · rintro ch ⟨⟩
  | deleting sessionID ch =>
    obtain ⟨session, hamong, hid⟩ := h.users _ huser
    cases hid sessionID rfl
    refine (h.eraseCh hguard).advance hi (some (.closing ch)) ?_ ?_ ?_
    · rintro u ⟨⟩
      rfl
    · rintro u ⟨⟩ id ⟨⟩
    · rintro ch ⟨⟩ id hlookup
      rw [Map.lookup_erase] at hlookup
      split at hlookup
      · cases hlookup
      · next hne => exact hne ((h.writeChs id _ hlookup).unique hamong).2.1
  | closing ch =>
    have hkept := h.advance hi none nofun nofun nofun
    obtain ⟨session, hamong, -⟩ := h.users _ huser
    exact
      { hkept with
        closed := fun ch' hch' => by
          rcases List.mem_append.mp hch' with hch' | hch'
          · exact hkept.closed ch' hch'
          · cases List.mem_singleton.mp hch'
            exact ⟨⟨session, hamong⟩, h.closing ch huser, hguard⟩
        safe :=
          { h.safe with
            closed := List.nodup_append.mpr ⟨h.safe.closed, List.nodup_singleton ch, by
              rintro a ha b hb rfl
              cases List.mem_singleton.mp hb
              exact (h.closed _ ha).2.2 _ huser rfl⟩ } }

theorem Kept.step (h : s.Kept) {e : AudioSocketEvent} (hapart : s.Apart e)
    (ht : s.step e = some t) : t.Kept := by
  cases e with
  | connect handler sessionID =>
    cases ht
    exact h.connect handler sessionID
  | proceed n =>
    obtain ⟨c, hn, ht⟩ := Option.bind_eq_some_iff.mp ht
    exact h.proceed hn ht
  | remove n =>
    obtain ⟨c, hn, ht⟩ := Option.bind_eq_some_iff.mp ht
    split_ifs at ht
    cases ht
    exact h.remove hn (hapart c hn)
  | leave n =>
    obtain ⟨c, hn, ht⟩ := Option.bind_eq_some_iff.mp ht
    split_ifs at ht with hphase
    cases ht
    exact h.leave hn hphase (hapart c hn)
  | sendAudioFrame sessionID pcmData =>
    cases ht
    rw [sendAudioFrame]
    split
    · exact h
    · next ch hch => exact h.lookup (.sending ch pcmData) hch nofun nofun
  | closeConnection sessionID =>
    cases ht
    rw [closeConnection]
    split
    · next ch _ hch =>
      refine h.lookup (.bye sessionID ch) hch ?_ nofun
      rintro id ⟨⟩
      rfl
    · exact h
  | user i => exact h.user hapart ht
  | written n =>
    obtain ⟨c, hn, rfl⟩ := Option.map_eq_some_iff.mp ht
    exact h.modify (fun _ => ⟨rfl, rfl⟩) fun _ _ => ⟨id, id, id⟩

/-- **The audio sockets are safe.** In a run where nothing ends while a later connection of its
session is there, and no channel is closed while another caller has it, no connection costs a later
one its entries or reports it as gone, and no closed channel is used or closed again. -/
theorem sockets_safe (s : AudioSockets) (es : List AudioSocketEvent)
    (hrun : exec step init es = some s) (hapart : Guarded step Apart init es) : s.Safe :=
  (hapart.invariant (I := Kept) (fun _ _ _ h hguard ht => h.step hguard ht) kept_init hrun).safe

/-- A call of 46elks: it is closed while a frame waits, and the provider connects again. -/
def closedAndConnected : List AudioSocketEvent :=
  [.connect .elks46 "s", .proceed 0, .proceed 0, .sendAudioFrame "s" [1, 2], .closeConnection "s",
    .user 0, .user 0, .written 0, .user 0, .user 0, .remove 0, .leave 0, .connect .elks46 "s",
    .proceed 1, .proceed 1, .sendAudioFrame "s" [3, 4], .user 0]

theorem sockets_safe_closedAndConnected :
    ∃ s, exec step init closedAndConnected = some s ∧ s.Safe :=
  ⟨_, rfl, sockets_safe _ closedAndConnected rfl (by decide)⟩

/-- The provider connects again before its first connection has ended. -/
def reconnected : List AudioSocketEvent :=
  [.connect .generic "s", .proceed 0, .proceed 0, .connect .generic "s", .proceed 1, .proceed 1,
    .remove 0, .leave 0]

/-- `CloseConnection` twice at the same time. -/
def closedTwice : List AudioSocketEvent :=
  [.connect .elks46 "s", .proceed 0, .proceed 0, .closeConnection "s", .closeConnection "s",
    .user 0, .user 0, .user 0, .user 0, .user 0, .user 0]

/-- **The audio sockets are not safe.** The end of the replaced connection removes the later one and
reports it as gone; the second caller sends its bye on a closed channel, and closes it again. -/
theorem sockets_unsafe :
    (¬ ∀ s es, exec step init es = some s → ∀ p ∈ s.removals, p.2 ≤ p.1) ∧
      (¬ ∀ s es, exec step init es = some s → ∀ e ∈ s.emitted,
        e.event.eventName = "provider_disconnected" → ∀ m ∈ e.live, m ≤ e.conn) ∧
      (¬ ∀ s es, exec step init es = some s → s.sentOnClosed = []) ∧
      ¬ ∀ s es, exec step init es = some s → s.closed.Nodup := by
  refine ⟨fun h => ?_, fun h => ?_, fun h => ?_, fun h => ?_⟩
  · exact absurd (h _ reconnected rfl) (by decide)
  · exact absurd (h _ reconnected rfl) (by decide)
  · exact absurd (h _ closedTwice rfl) (by decide)
  · exact absurd (h _ closedTwice rfl) (by decide)

end AudioSockets

end Svarla.MediaBridge
