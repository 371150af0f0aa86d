import Svarla.Lib.Map
import Svarla.Lib.Run
import Svarla.MediaBridge.Jitter

/-!
# The RTP listener

All providers' packets come to one UDP socket, and are read into one buffer. A packet that is
unmarshalled is a part of this buffer, and so is its payload, which waits in the jitter buffer of its
session while the listener goes on reading: what is played to the client is what is in the buffer then
(`overwritten`).

In a run where no packet is read over a payload that waits (`Spares`), what is played is what arrived
(`played_intact`).

The unmarshalling of a packet is a parameter, whose result is a part of the data it is given. SRTP, where
the packet that is pushed is a copy, is left out.
-/

namespace Svarla.MediaBridge

open Svarla.Lib

/-- A packet that was unmarshalled from `n` bytes; its payload is a part of them. -/
structure RtpPacket (n : Nat) where
  sequenceNumber : BitVec 16
  timestamp : BitVec 32
  start : Nat
  stop : Nat
  start_le : start ≤ stop
  stop_le : stop ≤ n

/-- A payload that waits: its place in the read buffer, and what was there when it arrived. -/
structure Slice where
  start : Nat
  stop : Nat
  arrived : List UInt8
  deriving DecidableEq, Repr

/-- The bytes at the place of a slice. -/
def Slice.bytes (buf : List UInt8) (slice : Slice) : List UInt8 :=
  (buf.drop slice.start).take (slice.stop - slice.start)

/-- The address of a provider. -/
structure UdpAddr where
  ip : String
  port : Nat
  deriving DecidableEq, Repr

/-- `RTPSession`; the callback pushes to a bridge. -/
structure RtpSession where
  remoteAddr : UdpAddr
  onRTP : Option Nat
  deriving DecidableEq, Repr

/-- What was played: the packet that was popped, and what was written to the WebRTC leg. -/
structure Played where
  popped : JitterPacket Slice
  counter : RtpCounter
  payload : List UInt8
  deriving DecidableEq, Repr

/-- The way of a bridge from the provider to the client. -/
structure Playout where
  jitterBuf : JitterBuffer Slice
  webrtcWriter : Bool
  webrtc : RtpCounter
  /-- The packet that `playoutFrame` has stamped, before it writes it. -/
  stamped : Option (JitterPacket Slice × RtpCounter)
  /-- The packets that arrived, by number and payload. -/
  received : List (BitVec 16 × List UInt8)
  played : List Played
  deriving DecidableEq, Repr

structure RtpListener where
  buf : List UInt8
  sessions : Map UdpAddr RtpSession
  bridges : List Playout

inductive RtpListenerEvent
  /-- `MediaSession.Start`: a session is registered, with a new bridge; does it have a local track? -/
  | start (remote : UdpAddr) (track : Bool)
  /-- A session is registered without a callback, for the ringback. -/
  | ringback (remote : UdpAddr)
  | unregister (remote : UdpAddr)
  /-- A packet is read, and by its address alone goes to the session at this place. -/
  | read (remote : UdpAddr) (data : List UInt8) (place : Nat)
  /-- A tick of the playout loop, up to the write. -/
  | tick (bridge : Nat)
  | write (bridge : Nat)
  deriving DecidableEq, Repr

namespace Playout

/-- A bridge without packets. -/
def new (webrtcWriter : Bool) : Playout :=
  ⟨.new defaultJitterDepth, webrtcWriter, .zero, none, [], []⟩

/-- `HandleProviderRTP`: the payload is not copied. -/
def handleProviderRTP (b : Playout) {n : Nat} (pkt : RtpPacket n) (arrived : List UInt8) : Playout :=
  { b with
    jitterBuf := b.jitterBuf.push ⟨pkt.sequenceNumber, pkt.timestamp, pkt.start, pkt.stop, arrived⟩
    received := b.received ++ [(pkt.sequenceNumber, arrived)] }

/-- `playoutFrame`, up to its write. -/
def playoutFrame (b : Playout) : Playout :=
  match b.jitterBuf.pop with
  | (none, jitterBuf) => { b with jitterBuf }
  | (some pkt, jitterBuf) =>
    if b.webrtcWriter ∧ pkt.payload.start < pkt.payload.stop then
      let webrtc := b.webrtc.next (pkt.payload.stop - pkt.payload.start)
      { b with jitterBuf, webrtc, stamped := some (pkt, webrtc) }
    else { b with jitterBuf }

/-- The payload is what is in the read buffer. -/
def write (b : Playout) (buf : List UInt8) : Option Playout :=
  b.stamped.map fun p =>
    { b with stamped := none, played := b.played ++ [⟨p.1, p.2, p.1.payload.bytes buf⟩] }

end Playout

namespace RtpListener

def init : RtpListener := ⟨List.replicate 1500 0, ∅, []⟩

/-- The sessions with the same IP address, in some order. -/
def sameIP (s : RtpListener) (remote : UdpAddr) : List (UdpAddr × RtpSession) :=
  (s.sessions.entries.map fun e => (e.1, e.2)).filter fun e => e.2.remoteAddr.ip = remote.ip

/-- The session of a packet; where only its IP address is known, the session gets its address. -/
def dispatch (s : RtpListener) (remote : UdpAddr) (place : Nat) : RtpListener × Option Nat :=
  match (s.sessions.lookup remote).bind (·.onRTP) with
  | some bridge => (s, some bridge)
  | none =>
    match (s.sameIP remote)[place % (s.sameIP remote).length]? with
    | none => (s, none)
    | some (oldKey, matched) =>
      if oldKey = remote then (s, matched.onRTP)
      else
        ({ s with
            sessions := AList.insert remote { matched with remoteAddr := remote }
              (AList.erase oldKey s.sessions) },
          matched.onRTP)

variable (unmarshal : (data : List UInt8) → Option (RtpPacket data.length))

/-- One iteration of `readLoop`: the packet is read into the buffer. -/
def read (s : RtpListener) (remote : UdpAddr) (data : List UInt8) (place : Nat) : RtpListener :=
  let data := data.take s.buf.length
  let s := { s with buf := data ++ s.buf.drop data.length }
  if data.length < 12 then s
  else
    match unmarshal data with
    | none => s
    | some pkt =>
      match s.dispatch remote place with
      | (s, none) => s
      | (s, some bridge) =>
        { s with
          bridges := s.bridges.modify bridge
            (·.handleProviderRTP pkt ((data.drop pkt.start).take (pkt.stop - pkt.start))) }

/-- One event. -/
def step (s : RtpListener) : RtpListenerEvent → Option RtpListener
  | .start remote track =>
    some
      { s with
        sessions := AList.insert remote ⟨remote, some s.bridges.length⟩ s.sessions
        bridges := s.bridges ++ [.new track] }
  | .ringback remote => some { s with sessions := AList.insert remote ⟨remote, none⟩ s.sessions }
  | .unregister remote => some { s with sessions := AList.erase remote s.sessions }
  | .read remote data place => some (s.read unmarshal remote data place)
  | .tick bridge => s.bridges[bridge]?.bind fun b =>
    if b.stamped = none then some { s with bridges := s.bridges.set bridge b.playoutFrame } else none
  | .write bridge => s.bridges[bridge]?.bind fun b =>
    (b.write s.buf).map fun b => { s with bridges := s.bridges.set bridge b }

/-- What was played is what had arrived with the packet that was popped. -/
def Intact (s : RtpListener) : Prop :=
  ∀ b ∈ s.bridges, ∀ p ∈ b.played,
    p.payload = p.popped.payload.arrived ∧ (p.popped.sequenceNumber, p.payload) ∈ b.received

instance (s : RtpListener) : Decidable s.Intact :=
  inferInstanceAs (Decidable (∀ b ∈ s.bridges, ∀ p ∈ b.played, _))

/-! ## The condition -/

end RtpListener

/-- The payloads of a bridge that wait. -/
def Playout.waiting (b : Playout) : List Slice :=
  b.jitterBuf.packets.map (·.payload) ++ b.stamped.toList.map (·.1.payload)

namespace RtpListener

/-- The packet leaves the payloads that wait as they are. -/
def Spares (s : RtpListener) : RtpListenerEvent → Prop
  | .read _ data _ => ∀ b ∈ s.bridges, ∀ slice ∈ b.waiting,
    slice.bytes (data.take s.buf.length ++ s.buf.drop (data.take s.buf.length).length) =
      slice.bytes s.buf
  | .start _ _ | .ringback _ | .unregister _ | .tick _ | .write _ => True

instance (s : RtpListener) : (e : RtpListenerEvent) → Decidable (s.Spares e)
  | .read _ _ _ => inferInstanceAs (Decidable (∀ b ∈ s.bridges, _))
  | .start _ _ | .ringback _ | .unregister _ | .tick _ | .write _ => .isTrue trivial

end RtpListener

/-! ## What waits is as it arrived -/

namespace Playout

variable {b : Playout} {buf : List UInt8}

/-- The packet has arrived, and the bytes of its payload are in the read buffer still. -/
def Fresh (b : Playout) (buf : List UInt8) (pkt : JitterPacket Slice) : Prop :=
  pkt.payload.bytes buf = pkt.payload.arrived ∧
    (pkt.sequenceNumber, pkt.payload.arrived) ∈ b.received

/-- What a bridge keeps. -/
structure Sound (b : Playout) (buf : List UInt8) : Prop where
  packets : ∀ pkt ∈ b.jitterBuf.packets, b.Fresh buf pkt
  stamped : ∀ p ∈ b.stamped, b.Fresh buf p.1
  played : ∀ p ∈ b.played, p.payload = p.popped.payload.arrived ∧
    (p.popped.sequenceNumber, p.payload) ∈ b.received

theorem sound_new (track : Bool) (buf : List UInt8) : (new track).Sound buf :=
  ⟨nofun, nofun, nofun⟩

/-- The read buffer changes, and what waits is as it was. -/
theorem Sound.spared (h : b.Sound buf) {buf' : List UInt8}
    (hspared : ∀ slice ∈ b.waiting, slice.bytes buf' = slice.bytes buf) : b.Sound buf' where
  packets pkt hpkt :=
    have hwaiting : pkt.payload ∈ b.waiting := List.mem_append_left _ (List.mem_map_of_mem hpkt)
    ⟨(hspared _ hwaiting).trans (h.packets pkt hpkt).1, (h.packets pkt hpkt).2⟩
  stamped p hp :=
    have hwaiting : p.1.payload ∈ b.waiting :=
      List.mem_append_right _ (List.mem_map_of_mem (Option.mem_toList.mpr hp))
    ⟨(hspared _ hwaiting).trans (h.stamped p hp).1, (h.stamped p hp).2⟩
  played := h.played

/-- A packet arrives at the bridge, in the buffer that it was read into. -/
theorem Sound.handleProviderRTP (h : b.Sound buf) {n : Nat} (pkt : RtpPacket n)
    {arrived : List UInt8} (harrived : (buf.drop pkt.start).take (pkt.stop - pkt.start) = arrived) :
    (b.handleProviderRTP pkt arrived).Sound buf where
  packets p hp := by
    rcases JitterBuffer.mem_push hp with rfl | hp
    · exact ⟨harrived, List.mem_append_right _ List.mem_cons_self⟩
    · exact ⟨(h.packets p hp).1, List.mem_append_left _ (h.packets p hp).2⟩
  stamped p hp := ⟨(h.stamped p hp).1, List.mem_append_left _ (h.stamped p hp).2⟩
  played p hp := ⟨(h.played p hp).1, List.mem_append_left _ (h.played p hp).2⟩

theorem Sound.playoutFrame (h : b.Sound buf) : b.playoutFrame.Sound buf := by
  have hpackets := b.jitterBuf.pop_packets
  rw [Playout.playoutFrame]
  split
  · next jitterBuf hpop =>
    rw [hpop] at hpackets
    exact { h with packets := fun pkt hpkt => h.packets pkt (hpackets ▸ hpkt) }
  · next pkt jitterBuf hpop =>
    rw [hpop] at hpackets
    have hrest : ∀ p ∈ jitterBuf.packets, b.Fresh buf p := fun p hp =>
      h.packets p (hpackets ▸ List.mem_cons_of_mem pkt hp)
    split
    · refine { h with packets := hrest, stamped := ?_ }
      rintro p ⟨⟩
      exact h.packets pkt (hpackets ▸ List.mem_cons_self)
    · exact { h with packets := hrest }

theorem Sound.write (h : b.Sound buf) {b' : Playout} (hb : b.write buf = some b') :
    b'.Sound buf := by
  obtain ⟨p, hp, rfl⟩ := Option.map_eq_some_iff.mp hb
  refine { h with stamped := nofun, played := fun q hq => ?_ }
  rcases List.mem_append.mp hq with hq | hq
  · exact h.played q hq
  · cases List.mem_singleton.mp hq
    have hfresh := h.stamped p hp
    exact ⟨hfresh.1, hfresh.1.symm ▸ hfresh.2⟩

end Playout

namespace RtpListener

variable {unmarshal : (data : List UInt8) → Option (RtpPacket data.length)} {s t : RtpListener}

/-- What a run keeps. -/
def Sound (s : RtpListener) : Prop := ∀ b ∈ s.bridges, b.Sound s.buf

/-- The sessions' addresses are all that changes when a packet is dispatched. -/
theorem dispatch_eq (s : RtpListener) (remote : UdpAddr) (place : Nat) :
    (s.dispatch remote place).1.buf = s.buf ∧ (s.dispatch remote place).1.bridges = s.bridges := by
  rw [dispatch]
  split
  · exact ⟨rfl, rfl⟩
  · split
    · exact ⟨rfl, rfl⟩
    · split <;> exact ⟨rfl, rfl⟩

/-- A packet is unmarshalled from the start of the read buffer, and goes to a bridge. -/
theorem Sound.handle (h : s.Sound) {data rest : List UInt8} (hbuf : s.buf = data ++ rest)
    (pkt : RtpPacket data.length) (bridge : Nat) :
    Sound { s with
      bridges := s.bridges.modify bridge
        (·.handleProviderRTP pkt ((data.drop pkt.start).take (pkt.stop - pkt.start))) } := by
  intro b hb
  obtain ⟨i, hi⟩ := List.mem_iff_getElem?.mp hb
  rw [List.getElem?_modify] at hi
  obtain ⟨c, hc, rfl⟩ := Option.map_eq_some_iff.mp hi
  have hsound := h c (List.mem_of_getElem? hc)
  split
  · refine hsound.handleProviderRTP pkt ?_
    have hstop := pkt.stop_le
    have hstart := pkt.start_le
    rw [hbuf, List.drop_append_of_le_length (by omega), List.take_append_of_le_length]
    rw [List.length_drop]
    omega
  · exact hsound

theorem Sound.read (h : s.Sound) {remote : UdpAddr} {data : List UInt8} {place : Nat}
    (hspares : s.Spares (.read remote data place)) :
    (s.read unmarshal remote data place).Sound := by
  have hread : Sound { s with
      buf := data.take s.buf.length ++ s.buf.drop (data.take s.buf.length).length } :=
    fun b hb => (h b hb).spared (hspares b hb)
  rw [RtpListener.read]
  split
  · exact hread
  · split
    · exact hread
    · next pkt hpkt =>
      split
      · next s' hdispatch =>
        have hsame := dispatch_eq { s with
          buf := data.take s.buf.length ++ s.buf.drop (data.take s.buf.length).length } remote place
        rw [hdispatch] at hsame
        exact fun b hb => hsame.1.symm ▸ hread b (hsame.2 ▸ hb)
      · next s' bridge hdispatch =>
        have hsame := dispatch_eq { s with
          buf := data.take s.buf.length ++ s.buf.drop (data.take s.buf.length).length } remote place
        rw [hdispatch] at hsame
        have hs' : s'.Sound := fun b hb => hsame.1.symm ▸ hread b (hsame.2 ▸ hb)
        exact hs'.handle hsame.1 pkt bridge

theorem Sound.step (h : s.Sound) {e : RtpListenerEvent} (hspares : s.Spares e)
    (ht : s.step unmarshal e = some t) : t.Sound := by
  cases e with
  | start remote track =>
    cases ht
    intro b hb
    rcases List.mem_append.mp hb with hb | hb
    · exact h b hb
    · cases List.mem_singleton.mp hb
      exact Playout.sound_new track s.buf
  | ringback remote | unregister remote =>
    cases ht
    exact h
  | read remote data place =>
    cases ht
    exact h.read hspares
  | tick bridge =>
    obtain ⟨b, hb, ht⟩ := Option.bind_eq_some_iff.mp ht
    split_ifs at ht
    cases ht
    intro b' hb'
    rcases List.mem_or_eq_of_mem_set hb' with hb' | rfl
    · exact h b' hb'
    · exact (h b (List.mem_of_getElem? hb)).playoutFrame
  | write bridge =>
    obtain ⟨b, hb, ht⟩ := Option.bind_eq_some_iff.mp ht
    obtain ⟨b', hwrite, rfl⟩ := Option.map_eq_some_iff.mp ht
    intro c hc
    rcases List.mem_or_eq_of_mem_set hc with hc | rfl
    · exact h c hc
    · exact (h b (List.mem_of_getElem? hb)).write hwrite

theorem Sound.intact (h : s.Sound) : s.Intact := fun b hb => (h b hb).played

/-- **What is played is what arrived.** In a run where no packet is read over a payload that waits,
every packet that is written to the client has the payload that came with its number. -/
theorem played_intact (unmarshal : (data : List UInt8) → Option (RtpPacket data.length))
    (s : RtpListener) (es : List RtpListenerEvent)
    (hrun : exec (step unmarshal) init es = some s)
    (hspares : Guarded (step unmarshal) Spares init es) : s.Intact :=
  (hspares.invariant (I := Sound) (fun _ _ _ h hguard ht => h.step hguard ht) nofun hrun).intact

/-- A packet without padding, extension and contributing sources: its header has twelve bytes. -/
def unmarshalPlain (data : List UInt8) : Option (RtpPacket data.length) :=
  match data with
  | 0x80 :: _ :: s₁ :: s₂ :: t₁ :: t₂ :: t₃ :: t₄ :: _ :: _ :: _ :: _ :: payload =>
    some
      { sequenceNumber := s₁.toBitVec ++ s₂.toBitVec
        timestamp := t₁.toBitVec ++ t₂.toBitVec ++ t₃.toBitVec ++ t₄.toBitVec
        start := 12
        stop := payload.length + 12
        start_le := Nat.le_add_left 12 payload.length
        stop_le := Nat.le_refl _ }
  | _ => none

/-- A provider's packet with its number and its payload. -/
def packet (n : UInt8) (payload : List UInt8) : List UInt8 :=
  [0x80, 0, 0, n, 0, 0, 0, n, 1, 2, 3, 4] ++ payload

/-- Two packets with the same payload, and one that comes when nothing waits. -/
def silence : List RtpListenerEvent :=
  [.start ⟨"10.0.0.1", 4000⟩ true, .read ⟨"10.0.0.1", 4002⟩ (packet 1 [255, 255]) 0, .tick 0,
    .read ⟨"10.0.0.1", 4002⟩ (packet 2 [255, 255]) 0, .tick 0, .write 0, .tick 0, .write 0,
    .read ⟨"10.0.0.1", 4002⟩ (packet 3 [7, 8]) 0, .tick 0, .write 0]

theorem played_intact_silence :
    ∃ s, exec (step unmarshalPlain) init silence = some s ∧ s.Intact :=
  have hsome : (exec (step unmarshalPlain) init silence).isSome := by decide +kernel
  have hrun := (Option.some_get hsome).symm
  ⟨_, hrun, played_intact unmarshalPlain _ silence hrun (by decide +kernel)⟩

/-- Two packets with different payloads, the second one read while the first one waits. -/
def speech : List RtpListenerEvent :=
  [.start ⟨"10.0.0.1", 4000⟩ true, .read ⟨"10.0.0.1", 4000⟩ (packet 1 [1, 2]) 0,
    .read ⟨"10.0.0.1", 4000⟩ (packet 2 [3, 4]) 0, .tick 0, .write 0]

/-- **A payload is overwritten.** The second packet is read over the payload of the first one, and
the client hears the second one twice. -/
theorem overwritten :
    ¬ ∀ (s : RtpListener) (es : List RtpListenerEvent),
      exec (step unmarshalPlain) init es = some s → s.Intact := by
  intro h
  have hintact : (exec (step unmarshalPlain) init speech).all fun s => s.Intact :=
    (Option.all_eq_true _ _).mpr fun s hs => decide_eq_true (h s speech hs)
  exact absurd hintact (by decide +kernel)

end RtpListener

end Svarla.MediaBridge
