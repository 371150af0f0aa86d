import Svarla.MediaBridge.RtpListener
import Svarla.Sip.SrtpAnswers

/-!
# SIP provider legs

What comes of the offer of a provider: the UAS keeps it in the dialog, and has an event of it; the
handler of the event stores the address and the codec in the record of the session, and starts the
ringback with them; a media session is configured with what the record has then, and is registered when
it starts. The event also carries the SRTP session of the dialog, but the record has none, and so no
media session has.

The legs of all sessions are there, with SIP providers. The operations of the handlers are events of
their own, which may come at any time.
-/

namespace Svarla.MediaBridge

open Svarla.Lib Svarla.Sip

/-- `ProviderRTPInfo`. -/
structure ProviderRTPInfo where
  remoteIP : String
  remotePort : Nat
  codec : String
  codecClockRate : Nat
  payloadType : UInt8
  deriving DecidableEq, Repr

def ProviderRTPInfo.remote (info : ProviderRTPInfo) : UdpAddr := ⟨info.remoteIP, info.remotePort⟩

/-- `session.Session`, with a SIP provider: what the handlers read of it. -/
structure SipSession where
  ringback : Bool
  clientConnected : Bool
  providerConnected : Bool
  providerRTP : Option ProviderRTPInfo
  deriving DecidableEq, Repr

/-- A ringback sender, of some session. -/
structure SipRingback where
  sessionID : String
  remoteIP : String
  remotePort : Nat
  payloadType : UInt8
  stopped : Bool
  deriving DecidableEq, Repr

/-- `mediasession.Config`. -/
structure MediaConfig where
  sessionID : String
  sipCodec : String
  sipClockRate : Nat
  sipPayloadType : UInt8
  remoteIP : String
  remotePort : Nat
  srtpSession : Option SrtpSession
  deriving DecidableEq, Repr

def MediaConfig.remote (config : MediaConfig) : UdpAddr := ⟨config.remoteIP, config.remotePort⟩

inductive MediaStage
  | created
  | running
  | stopped
  deriving DecidableEq, Repr

/-- A media session of a SIP provider. -/
structure SipMedia where
  config : MediaConfig
  stage : MediaStage
  deriving DecidableEq, Repr

/-- A packet to the provider or to the bridge. -/
structure LegPacket where
  sessionID : String
  bytes : List UInt8
  /-- The SRTP session that it has gone through. -/
  srtp : Option SrtpSession
  /-- The dialogs that the session had then. -/
  dialogs : List Dialog
  deriving DecidableEq, Repr

/-- A packet to the provider. -/
structure SentPacket extends LegPacket where
  remote : UdpAddr
  payloadType : UInt8
  deriving DecidableEq, Repr

/-- `EncryptRTP` and `DecryptRTP`. -/
structure SrtpCipher where
  encryptRTP : SrtpSession → List UInt8 → Option (List UInt8)
  decryptRTP : SrtpSession → List UInt8 → Option (List UInt8)

/-- The SIP legs of all sessions. -/
structure SipLegs where
  uas : Uas
  sessions : Map String SipSession
  /-- The ringback senders that there were, and those of the sessions. -/
  senders : List SipRingback
  ringbackSenders : Map String Nat
  /-- The media sessions that there were, and those of the sessions; a reserved slot has none. -/
  media : List SipMedia
  mediaSessions : Map String (Option Nat)
  /-- The sessions of the RTP listener; a callback is that of a media session. -/
  listener : Map UdpAddr RtpSession
  sent : List SentPacket
  bridged : List LegPacket

inductive SipLegsEvent
  | uas (input : UasInput)
  | createSession (sessionID : String) (ringback : Bool)
  | clientConnected (sessionID : String)
  | setRingback (sessionID : String) (enabled : Bool)
  | deleteSession (sessionID : String)
  /-- The handler of an event of the UAS stores where the provider is. -/
  | setProviderRTP (n : Nat)
  /-- It starts the ringback, where the caller has to wait. -/
  | startRingback (n : Nat)
  /-- `tryStartMediaSession`, up to the configuration of the media session. -/
  | configure (sessionID : String)
  /-- `Start` of a media session, and its failure. -/
  | start (n : Nat)
  | startFails (n : Nat)
  /-- `stopMediaSession`. -/
  | stopMediaSession (sessionID : String)
  /-- A ringback sender writes a packet. -/
  | playRingback (k : Nat) (packet : List UInt8)
  /-- The SIP writer of a media session gets a packet of the client. -/
  | writeSIP (n : Nat) (packet : List UInt8)
  /-- The listener reads a packet, which goes to the session at this place when it is searched by its IP
  address. -/
  | readRTP (source : UdpAddr) (packet : List UInt8) (place : Nat)

namespace SipLegs

def init : SipLegs := ⟨.init, ∅, [], ∅, [], ∅, ∅, [], []⟩

/-- What is known of the session of a request. -/
def Knows (s : SipLegs) : UasInput → Prop
  | .message msg _ _ known _ =>
    known = (s.sessions.lookup (extractSessionID msg.requestURI)).isSome
  | .sendBye _ => True
  | .shutdown _ => True

instance (s : SipLegs) : (input : UasInput) → Decidable (s.Knows input)
  | .message _ _ _ _ _ => inferInstanceAs (Decidable (_ = _))
  | .sendBye _ => .isTrue trivial
  | .shutdown _ => .isTrue trivial

/-- The provider that an event of the UAS connects. -/
def connected (s : SipLegs) (n : Nat) : Option (String × ProviderRTPInfo) :=
  match s.uas.events[n]? with
  | some (.providerConnected sessionID codec remoteIP remotePort _) =>
    some (sessionID, ⟨remoteIP, remotePort, codec.name, codec.clockRate, .ofNat codec.payloadType⟩)
  | _ => none

/-- The provider whose caller has to wait. -/
def waiting (s : SipLegs) (n : Nat) : Option (String × ProviderRTPInfo) :=
  (s.connected n).filter fun c => (s.sessions.lookup c.1).any fun sess =>
    sess.ringback ∧ ¬ sess.clientConnected

/-- The provider of a session that is ready for its media session. -/
def ready (s : SipLegs) (sessionID : String) : Option ProviderRTPInfo :=
  if s.mediaSessions.lookup sessionID = none then
    ((s.sessions.lookup sessionID).filter fun sess =>
      sess.providerConnected ∧ sess.clientConnected).bind (·.providerRTP)
  else none

/-- `stopRingback`. -/
def stopRingback (s : SipLegs) (sessionID : String) : SipLegs :=
  match s.ringbackSenders.lookup sessionID with
  | none => s
  | some k =>
    { s with
      ringbackSenders := s.ringbackSenders.erase sessionID
      senders := s.senders.modify k ({ · with stopped := true }) }

/-- `Stop` of a media session. -/
def stopMedia (s : SipLegs) (n : Nat) : SipLegs :=
  match s.media[n]?.filter (·.stage = .running) with
  | none => s
  | some m =>
    { s with
      media := s.media.set n { m with stage := .stopped }
      listener := s.listener.erase m.config.remote }

/-- A packet is sent to the provider. -/
def send (s : SipLegs) (sessionID : String) (bytes : List UInt8) (srtp : Option SrtpSession)
    (remote : UdpAddr) (payloadType : UInt8) : SipLegs :=
  { s with sent := s.sent ++ [⟨⟨sessionID, bytes, srtp, s.uas.live sessionID⟩, remote, payloadType⟩] }

/-- `HandleProviderRTP`. -/
def handleProviderRTP (s : SipLegs) (sessionID : String) (bytes : List UInt8)
    (srtp : Option SrtpSession) : SipLegs :=
  { s with bridged := s.bridged ++ [⟨sessionID, bytes, srtp, s.uas.live sessionID⟩] }

/-- The dispatch of the listener: the media session that gets the packet, and the listener then. -/
def dispatch (s : SipLegs) (source : UdpAddr) (place : Nat) : Map UdpAddr RtpSession × Option Nat :=
  let dispatched := RtpListener.dispatch ⟨[], s.listener, []⟩ source place
  (dispatched.1.sessions, dispatched.2)

/-- The callback of a media session. -/
def onRTP (cipher : SrtpCipher) (s : SipLegs) (m : SipMedia) (packet : List UInt8) : SipLegs :=
  match m.config.srtpSession with
  | some srtp =>
    match cipher.decryptRTP srtp packet with
    | some decrypted => s.handleProviderRTP m.config.sessionID decrypted (some srtp)
    | none => s
  | none => s.handleProviderRTP m.config.sessionID packet none

variable (config : UasConfig) (offers : Offers) (cipher : SrtpCipher)

def step (s : SipLegs) : SipLegsEvent → Option SipLegs
  | .uas input =>
    if s.Knows input then (s.uas.step config offers.sdp input).map fun uas => { s with uas } else none
  | .createSession sessionID ringback =>
    some { s with sessions := s.sessions.insert sessionID ⟨ringback, false, false, none⟩ }
  | .clientConnected sessionID =>
    some { s with sessions := s.sessions.modify sessionID ({ · with clientConnected := true }) }
  | .setRingback sessionID enabled =>
    some { s with sessions := s.sessions.modify sessionID ({ · with ringback := enabled }) }
  | .deleteSession sessionID => some { s with sessions := s.sessions.erase sessionID }
  | .setProviderRTP n => (s.connected n).map fun c =>
    { s with sessions := s.sessions.modify c.1 ({ · with
        providerRTP := some c.2, providerConnected := true }) }
  | .startRingback n => (s.waiting n).map fun c =>
    { s with
      listener := s.listener.insert c.2.remote ⟨c.2.remote, none⟩
      ringbackSenders := s.ringbackSenders.insert c.1 s.senders.length
      senders := s.senders ++ [⟨c.1, c.2.remoteIP, c.2.remotePort, c.2.payloadType, false⟩] }
  | .configure sessionID => (s.ready sessionID).map fun provider =>
    { s.stopRingback sessionID with
      mediaSessions := s.mediaSessions.insert sessionID none
      media := s.media ++ [⟨⟨sessionID, provider.codec, provider.codecClockRate, provider.payloadType,
        provider.remoteIP, provider.remotePort, none⟩, .created⟩] }
  | .start n => (s.media[n]?.filter (·.stage = .created)).map fun m =>
    { s with
      listener := s.listener.insert m.config.remote ⟨m.config.remote, some n⟩
      media := s.media.set n { m with stage := .running }
      mediaSessions := s.mediaSessions.insert m.config.sessionID (some n) }
  | .startFails n => (s.media[n]?.filter (·.stage = .created)).map fun m =>
    { s with
      media := s.media.set n { m with stage := .stopped }
      mediaSessions := s.mediaSessions.erase m.config.sessionID }
  | .stopMediaSession sessionID =>
    let s' := { s.stopRingback sessionID with mediaSessions := s.mediaSessions.erase sessionID }
    some (match (s.mediaSessions.lookup sessionID).join with
      | none => s'
      | some n => s'.stopMedia n)
  | .playRingback k packet => (s.senders[k]?.filter (¬ ·.stopped)).map fun r =>
    s.send r.sessionID packet none ⟨r.remoteIP, r.remotePort⟩ r.payloadType
  | .writeSIP n packet => (s.media[n]?.filter (·.stage = .running)).map fun m =>
    match m.config.srtpSession with
    | some srtp =>
      match cipher.encryptRTP srtp packet with
      | some encrypted =>
        s.send m.config.sessionID encrypted (some srtp) m.config.remote m.config.sipPayloadType
      | none => s
    | none => s.send m.config.sessionID packet none m.config.remote m.config.sipPayloadType
  | .readRTP source packet place =>
    let s' := { s with listener := (s.dispatch source place).1 }
    some (match (s.dispatch source place).2.bind fun n =>
        s.media[n]?.filter (·.stage = .running) with
      | none => s'
      | some m => s'.onRTP cipher m packet)

/-- The packets on both ways. -/
def packets (s : SipLegs) : List LegPacket := s.sent.map (·.toLegPacket) ++ s.bridged

/-- A media session at a stage. -/
theorem stage_of_filter {s : SipLegs} {n : Nat} {m : SipMedia} {stage : MediaStage}
    (hm : s.media[n]?.filter (·.stage = stage) = some m) : s.media[n]? = some m ∧ m.stage = stage := by
  obtain ⟨hmedia, hstage⟩ := Option.filter_eq_some_iff.mp hm
  exact ⟨hmedia, of_decide_eq_true hstage⟩

/-! ## Ringback is stopped -/

section

variable (s : SipLegs) (sessionID : String)

theorem uas_stopRingback : (s.stopRingback sessionID).uas = s.uas := by
  unfold SipLegs.stopRingback
  split <;> rfl

theorem media_stopRingback : (s.stopRingback sessionID).media = s.media := by
  unfold SipLegs.stopRingback
  split <;> rfl

theorem listener_stopRingback : (s.stopRingback sessionID).listener = s.listener := by
  unfold SipLegs.stopRingback
  split <;> rfl

theorem sent_stopRingback : (s.stopRingback sessionID).sent = s.sent := by
  unfold SipLegs.stopRingback
  split <;> rfl

theorem packets_stopRingback : (s.stopRingback sessionID).packets = s.packets := by
  unfold SipLegs.stopRingback
  split <;> rfl

end

end SipLegs

end Svarla.MediaBridge
