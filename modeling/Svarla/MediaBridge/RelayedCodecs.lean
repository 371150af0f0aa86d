import Svarla.Lib.Run
import Svarla.MediaBridge.RtpStreams
import Svarla.Sip.SdpOffers

/-!
# The codecs of relayed audio

The bridge of a SIP session writes the payloads that it gets to the other leg as they are: to the client as
payload type 0, and to the provider as the negotiated one. It looks neither at the payload type of a packet
nor at the codec that was negotiated. What it writes is in the codec of its label exactly in the runs in
which the packets that are written came in that codec (`truthful_iff`).

A packet is kept with the payload type that it came with, and a packet that is written with the leg and the
payload type of the one that it was made of: the code drops them. The tap for decoded audio is left out.
-/

namespace Svarla.MediaBridge.Relaying

open Svarla.Lib Svarla.Sip.Stream Svarla.Sip.OfferLines

/-! ## Payload types -/

/-- What a payload is in. Any other than the two codecs is told by its leg and its payload type: telephone
events and comfort noise among them. -/
inductive Format
  | pcmu
  | opus
  | other (leg : RtpLeg) (payloadType : Int)
  deriving DecidableEq, Repr

/-- The codec of an entry of an offer, as `NegotiateCodec` tells them. -/
def formatOf (c : Codec) : Format :=
  if fold c.name = ascii "pcmu" then .pcmu
  else if fold c.name = ascii "opus" then .opus
  else if c.payloadType = 0 ∧ c.name = [] then .pcmu
  else .other .sip c.payloadType

/-- An offer, with the codec that was negotiated. -/
structure Session where
  offer : SDPOffer
  codec : Codec
  negotiated : negotiateCodec offer = some codec

namespace Session

variable (session : Session)

/-- What a payload type stands for on a leg. On that of SIP the negotiated one is of the codec, and another
is what the offer has it for, or the static PCMU. The WebRTC engine registers PCMU alone. -/
def denotes : RtpLeg → UInt8 → Format
  | .webrtc, payloadType => if payloadType = 0 then .pcmu else .other .webrtc payloadType.toNat
  | .sip, payloadType =>
    if (payloadType.toNat : Int) = session.codec.payloadType then formatOf session.codec
    else
      match session.offer.codecs.find? (·.payloadType = (payloadType.toNat : Int)) with
      | some c => formatOf c
      | none => if payloadType = 0 then .pcmu else .other .sip payloadType.toNat

/-- The codec that a leg has. -/
def legFormat : RtpLeg → Format
  | .webrtc => .pcmu
  | .sip => formatOf session.codec

/-- `uint8(event.Codec.PayloadType)`. -/
def sipPayloadType : UInt8 := UInt8.ofInt session.codec.payloadType

end Session

/-! ## The bridge -/

/-- A packet that is received: its payload type, which the bridge does not look at, and its payload. -/
structure RtpIn where
  payloadType : UInt8
  payload : List UInt8
  deriving DecidableEq, Repr

/-- A packet that is written, with the leg and the payload type of the one that it was made of. -/
structure RtpWritten where
  leg : RtpLeg
  payloadType : UInt8
  counter : RtpCounter
  ssrc : BitVec 32
  payload : List UInt8
  source : RtpLeg × UInt8
  deriving DecidableEq, Repr

/-- The bridge of a session with a SIP provider. -/
structure Relay where
  sipPayloadType : UInt8
  jitterBuf : JitterBuffer RtpIn
  sipWriter : Bool
  webrtcWriter : Bool
  counter : RtpLeg → RtpCounter
  written : List RtpWritten

inductive RelayEvent
  | clientRTP (pkt : RtpIn)
  | providerRTP (pkt : JitterPacket RtpIn)
  /-- A tick of the playout loop. -/
  | playout
  deriving DecidableEq, Repr

/-- The bridge that `tryStartMediaSession` configures, and `Start` wires: to the client if there is a local
track. -/
def start (session : Session) (localTrack : Bool) : Relay where
  sipPayloadType := session.sipPayloadType
  jitterBuf := .new defaultJitterDepth
  sipWriter := true
  webrtcWriter := localTrack
  counter _ := .zero
  written := []

/-- A payload is written to a leg, under a payload type. -/
def Relay.write (s : Relay) (leg : RtpLeg) (payloadType : UInt8) (payload : List UInt8)
    (source : RtpLeg × UInt8) : Relay :=
  let c := (s.counter leg).next payload.length
  { s with
    counter := Function.update s.counter leg c
    written := s.written ++ [⟨leg, payloadType, c, leg.ssrc, payload, source⟩] }

/-- `HandleClientRTP`. -/
def Relay.handleClientRTP (s : Relay) (pkt : RtpIn) : Relay :=
  if s.sipWriter = false then s
  else if pkt.payload = [] then s
  else s.write .sip s.sipPayloadType pkt.payload (.webrtc, pkt.payloadType)

/-- `HandleProviderRTP`. -/
def Relay.handleProviderRTP (s : Relay) (pkt : JitterPacket RtpIn) : Relay :=
  { s with jitterBuf := s.jitterBuf.push pkt }

/-- `playoutFrame`. -/
def Relay.playoutFrame (s : Relay) : Relay :=
  let s' := { s with jitterBuf := s.jitterBuf.pop.2 }
  match s.jitterBuf.pop.1 with
  | none => s'
  | some pkt =>
    if s.webrtcWriter = false then s'
    else if pkt.payload.payload = [] then s'
    else s'.write .webrtc 0 pkt.payload.payload (.sip, pkt.payload.payloadType)

def step (s : Relay) : RelayEvent → Option Relay
  | .clientRTP pkt => some (s.handleClientRTP pkt)
  | .providerRTP pkt => some (s.handleProviderRTP pkt)
  | .playout => some s.playoutFrame

/-! ## What is written -/

variable (session : Session)

/-- A packet is in the codec of its leg: its payload is, and that is what its payload type stands for. -/
structure InCodec (p : RtpWritten) : Prop where
  payload : session.denotes p.source.1 p.source.2 = session.legFormat p.leg
  label : session.denotes p.leg p.payloadType = session.legFormat p.leg

/-- Every packet that was written is what its label says. -/
def Truthful (s : Relay) : Prop := ∀ p ∈ s.written, InCodec session p

/-- A client's packet with a payload is of type 0, PCMU was negotiated, and its payload type is not cut to
one of another codec. And what is played to the client came with a payload type of PCMU. -/
def Keeps (s : Relay) : RelayEvent → Prop
  | .clientRTP pkt => s.sipWriter = true → pkt.payload ≠ [] →
    pkt.payloadType = 0 ∧ formatOf session.codec = .pcmu ∧
      session.denotes .sip session.sipPayloadType = .pcmu
  | .providerRTP _ => True
  | .playout => ∀ pkt ∈ s.jitterBuf.pop.1, s.webrtcWriter = true → pkt.payload.payload ≠ [] →
    session.denotes .sip pkt.payload.payloadType = .pcmu

variable {session}

/-! ## The legs -/

/-- A payload type of the client's leg is of the codec of the SIP leg if both are PCMU. -/
theorem client_iff (payloadType : UInt8) : session.denotes .webrtc payloadType = formatOf session.codec ↔
    payloadType = 0 ∧ formatOf session.codec = .pcmu := by
  have hother : ∀ n, formatOf session.codec ≠ .other .webrtc n := by
    intro n
    unfold formatOf
    split
    · exact Format.noConfusion
    · split
      · exact Format.noConfusion
      · split
        · exact Format.noConfusion
        · intro h
          cases h
  simp only [Session.denotes]
  split
  · next hzero => exact ⟨fun h => ⟨hzero, h.symm⟩, fun h => h.2.symm⟩
  · next hne => exact ⟨fun h => absurd h.symm (hother _), fun h => absurd h.1 hne⟩

/-- What `NegotiateCodec` gives is PCMU or Opus. -/
theorem format_negotiated (session : Session) :
    formatOf session.codec = .pcmu ∨ formatOf session.codec = .opus := by
  have hcodec := session.negotiated
  rw [negotiateCodec, foldl_negotiateStep, Option.or_none, Option.or_none] at hcodec
  obtain ⟨hpcmu, -⟩ | ⟨c, -, c', hc, hpcmu⟩ := getLast?_filterMap asPCMU session.offer.codecs
  · obtain ⟨hopus, -⟩ | ⟨c, -, c', hc, hopus⟩ := getLast?_filterMap asOpus session.offer.codecs
    · rw [hpcmu, hopus] at hcodec
      cases hcodec
    · rw [hpcmu, hopus, Option.none_or, Option.some_inj] at hcodec
      rw [← hcodec]
      unfold asOpus at hc
      split at hc
      · next hname =>
        cases hc
        refine .inr ?_
        rw [formatOf, if_neg (by rw [hname]; decide), if_pos hname]
      · cases hc
  · rw [hpcmu, Option.some_or, Option.some_inj] at hcodec
    rw [← hcodec]
    unfold asPCMU at hc
    split at hc
    · next hname =>
      cases hc
      exact .inl (if_pos hname)
    · split at hc
      · cases hc
        exact .inl rfl
      · cases hc

/-! ## Every step -/

variable {s t : Relay}

/-- The payload type of the SIP leg stays what the session was configured with. -/
def Configured (session : Session) (s : Relay) : Prop := s.sipPayloadType = session.sipPayloadType

theorem configured_start (session : Session) (localTrack : Bool) :
    Configured session (start session localTrack) := rfl

/-- One more packet. -/
theorem truthful_write (h : Truthful session s) {leg : RtpLeg} {payloadType : UInt8} {payload : List UInt8}
    {source : RtpLeg × UInt8} : Truthful session (s.write leg payloadType payload source) ↔
      session.denotes source.1 source.2 = session.legFormat leg ∧
        session.denotes leg payloadType = session.legFormat leg := by
  unfold Truthful Relay.write
  dsimp only
  constructor
  · intro hall
    have hp := hall _ (List.mem_append_right _ (.head _))
    exact ⟨hp.payload, hp.label⟩
  · rintro ⟨hpayload, hlabel⟩ p hp
    rcases List.mem_append.mp hp with hp | hp
    · exact h p hp
    · cases List.mem_singleton.mp hp
      exact ⟨hpayload, hlabel⟩

theorem truthful_client (hconfigured : Configured session s) (h : Truthful session s) (pkt : RtpIn) :
    Configured session (s.handleClientRTP pkt) ∧
      (Truthful session (s.handleClientRTP pkt) ↔ Keeps session s (.clientRTP pkt)) := by
  unfold Relay.handleClientRTP
  split
  · next hwriter =>
    exact ⟨hconfigured, iff_of_true h fun hw => by rw [hwriter] at hw; cases hw⟩
  · next hwriter =>
    split
    · next hempty => exact ⟨hconfigured, iff_of_true h fun _ hne => absurd hempty hne⟩
    · next hpayload =>
      refine ⟨hconfigured, (truthful_write h).trans ?_⟩
      have hformat := @client_iff session pkt.payloadType
      rw [hconfigured]
      constructor
      · rintro ⟨hsource, hlabel⟩ _ _
        obtain ⟨hzero, hpcmu⟩ := hformat.mp hsource
        exact ⟨hzero, hpcmu, hlabel.trans hpcmu⟩
      · intro hkeeps
        obtain ⟨hzero, hpcmu, hlabel⟩ := hkeeps (by simpa using hwriter) hpayload
        exact ⟨hformat.mpr ⟨hzero, hpcmu⟩, hlabel.trans hpcmu.symm⟩

theorem truthful_playout (hconfigured : Configured session s) (h : Truthful session s) :
    Configured session s.playoutFrame ∧
      (Truthful session s.playoutFrame ↔ Keeps session s .playout) := by
  have hkept : Truthful session { s with jitterBuf := s.jitterBuf.pop.2 } := h
  unfold Relay.playoutFrame
  dsimp only
  split
  · next hnone =>
    refine ⟨hconfigured, iff_of_true hkept fun pkt hpkt => ?_⟩
    rw [hnone] at hpkt
    cases hpkt
  · next pkt hpkt =>
    have hkeeps : Keeps session s .playout ↔ (s.webrtcWriter = true → pkt.payload.payload ≠ [] →
        session.denotes .sip pkt.payload.payloadType = .pcmu) := by
      unfold Keeps
      rw [hpkt]
      exact ⟨fun h => h pkt rfl, fun h pkt' hpkt' => by cases hpkt'; exact h⟩
    split
    · next hwriter =>
      exact ⟨hconfigured, iff_of_true hkept (hkeeps.mpr fun hw => by rw [hwriter] at hw; cases hw)⟩
    · next hwriter =>
      split
      · next hempty => exact ⟨hconfigured, iff_of_true hkept (hkeeps.mpr fun _ hne => absurd hempty hne)⟩
      · next hpayload =>
        refine ⟨hconfigured, (truthful_write hkept).trans ?_⟩
        rw [hkeeps]
        constructor
        · rintro ⟨hsource, -⟩ _ _
          exact hsource
        · intro hsource
          exact ⟨hsource (by simpa using hwriter) hpayload, rfl⟩

/-- **Every step** that meets the condition keeps the labels true, and no other. -/
theorem truthful_step {e : RelayEvent} (hconfigured : Configured session s) (h : Truthful session s)
    (hstep : step s e = some t) : Configured session t ∧ (Truthful session t ↔ Keeps session s e) := by
  cases e with
  | clientRTP pkt =>
    cases hstep
    exact truthful_client hconfigured h pkt
  | providerRTP pkt =>
    cases hstep
    exact ⟨hconfigured, iff_of_true h trivial⟩
  | playout =>
    cases hstep
    exact truthful_playout hconfigured h

/-- Where PCMU was not negotiated, Opus was, and no packet of the client is relayed in its codec. -/
theorem opus_not_relayed (hne : formatOf session.codec ≠ .pcmu) :
    formatOf session.codec = .opus ∧ ∀ (s : Relay) (pkt : RtpIn), s.sipWriter = true → pkt.payload ≠ [] →
      ¬ Keeps session s (.clientRTP pkt) := by
  refine ⟨(format_negotiated session).resolve_left hne, fun s pkt hwriter hpayload hkeeps => ?_⟩
  obtain ⟨-, hpcmu, -⟩ := hkeeps hwriter hpayload
  exact hne hpcmu

/-- Every packet is PCMU. -/
def AllPCMU (session : Session) (_ : Relay) : RelayEvent → Prop
  | .clientRTP pkt => pkt.payloadType = 0
  | .providerRTP pkt => session.denotes .sip pkt.payload.payloadType = .pcmu
  | .playout => True

/-- What waits in the jitter buffer is PCMU. -/
def BufferedPCMU (session : Session) (s : Relay) : Prop :=
  ∀ pkt ∈ s.jitterBuf.packets, session.denotes .sip pkt.payload.payloadType = .pcmu

theorem BufferedPCMU.of_packets (h : BufferedPCMU session s)
    (hpackets : ∀ pkt ∈ t.jitterBuf.packets, pkt ∈ s.jitterBuf.packets) : BufferedPCMU session t :=
  fun pkt hpkt => h pkt (hpackets pkt hpkt)

theorem jitterBuf_client (s : Relay) (pkt : RtpIn) : (s.handleClientRTP pkt).jitterBuf = s.jitterBuf := by
  unfold Relay.handleClientRTP
  split
  · rfl
  · split <;> rfl

theorem jitterBuf_playout (s : Relay) : s.playoutFrame.jitterBuf = s.jitterBuf.pop.2 := by
  unfold Relay.playoutFrame
  dsimp only
  split
  · rfl
  · split
    · rfl
    · split <;> rfl

/-- What comes as PCMU waits as PCMU. -/
theorem BufferedPCMU.step {e : RelayEvent} (h : BufferedPCMU session s) (hall : AllPCMU session s e)
    (hstep : step s e = some t) : BufferedPCMU session t := by
  cases e with
  | clientRTP pkt =>
    cases hstep
    exact h.of_packets fun p hp => by rwa [jitterBuf_client] at hp
  | providerRTP pkt =>
    cases hstep
    intro p hp
    rcases JitterBuffer.mem_push hp with rfl | hp
    · exact hall
    · exact h p hp
  | playout =>
    cases hstep
    refine h.of_packets fun p hp => ?_
    rw [jitterBuf_playout] at hp
    rw [JitterBuffer.pop_packets]
    exact List.mem_append_right _ hp

theorem toNat_sipPayloadType (hbyte : 0 ≤ session.codec.payloadType ∧ session.codec.payloadType < 256) :
    (session.sipPayloadType.toNat : Int) = session.codec.payloadType := by
  obtain ⟨n, hn⟩ := Int.eq_ofNat_of_zero_le hbyte.1
  have hlt : n < 256 := by omega
  have hmod : ((n : Int) % 2 ^ 8).toNat = n := by omega
  rw [Session.sipPayloadType, hn, UInt8.ofInt, hmod, UInt8.toNat_ofNat', Nat.mod_eq_of_lt hlt]

/-- **Where PCMU was negotiated**, with a payload type of a byte, and is all that comes, audio is what its
label says. -/
theorem truthful_of_pcmu (hpcmu : formatOf session.codec = .pcmu)
    (hbyte : 0 ≤ session.codec.payloadType ∧ session.codec.payloadType < 256) {localTrack : Bool}
    {es : List RelayEvent} (hes : Guarded step (AllPCMU session) (start session localTrack) es)
    (hrun : exec step (start session localTrack) es = some t) : Truthful session t := by
  have hlabel : session.denotes .sip session.sipPayloadType = .pcmu := by
    simp only [Session.denotes, toNat_sipPayloadType hbyte, if_true, hpcmu]
  have hinvariant : Configured session t ∧ Truthful session t ∧ BufferedPCMU session t := by
    refine hes.invariant (I := fun s => Configured session s ∧ Truthful session s ∧ BufferedPCMU session s)
      ?_ ⟨configured_start session localTrack, fun p hp => (by cases hp), fun p hp => (by cases hp)⟩ hrun
    rintro s e t ⟨hconfigured, htruthful, hbuffered⟩ hall hstep
    have hkeeps : Keeps session s e := by
      cases e with
      | clientRTP pkt => exact fun _ _ => ⟨hall, hpcmu, hlabel⟩
      | providerRTP pkt => trivial
      | playout =>
        intro pkt hpkt _ _
        refine hbuffered pkt ?_
        rw [JitterBuffer.pop_packets, Option.mem_def.mp hpkt]
        exact .head _
    obtain ⟨hconfigured', hiff⟩ := truthful_step hconfigured htruthful hstep
    exact ⟨hconfigured', hiff.mpr hkeeps, hbuffered.step hall hstep⟩
  exact hinvariant.2.1

/-- A session of an offer with PCMU and telephone events. -/
def dtmfSession : Session where
  offer := ⟨[], [⟨ascii "PCMU", 0, 8000, 1⟩, ⟨ascii "telephone-event", 101, 8000, 1⟩],
    ascii "192.0.2.9", 4000, []⟩
  codec := ⟨ascii "PCMU", 0, 8000, 1⟩
  negotiated := by decide

/-- The digit 5. -/
def telephoneEvent (sequenceNumber : BitVec 16) : JitterPacket RtpIn :=
  ⟨sequenceNumber, 160, ⟨101, [5, 10, 0, 160]⟩⟩

end Svarla.MediaBridge.Relaying
