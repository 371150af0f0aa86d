import Svarla.Lib.Run
import Svarla.MediaBridge.Jitter
import Mathlib.Data.List.Chain
import Mathlib.Data.BitVec

/-!
# The RTP streams of a session

Each leg of a session has one SSRC, and several senders: the bridges, each of which starts to count anew,
and the ringback senders. A packet gets its number and its timestamp under the lock of the bridge
(`stamp`), and is written after it.

The streams are not continuous: where a bridge follows a ringback, or another bridge, the numbers start
again (`restarted`). In a run where what a sender stamps continues what the leg's last packet left, and
the packets of a leg are written in the order of their stamps (`InTurn`), they are
(`streams_continuous`).

A packet is sent when it is passed to the writer of its leg. The tap for decoded audio, the PCM that
goes to a WebSocket provider, and `HandleClientPCM`, which nobody calls, are left out, and so is what
the frames of a ringback sound like.
-/

namespace Svarla.MediaBridge

open Svarla.Lib

/-- A leg of a session that RTP is sent on. -/
inductive RtpLeg
  | sip
  | webrtc
  deriving DecidableEq, Repr

/-- The SSRC that every sender of the leg uses. -/
def RtpLeg.ssrc : RtpLeg → BitVec 32
  | sip => 0x12345678
  | webrtc => 0x87654321

/-- The one that counts. -/
inductive RtpSource
  | bridge (n : Nat)
  | ringback (n : Nat)
  deriving DecidableEq, Repr

/-- The goroutine that sends. -/
inductive RtpWorker
  /-- `jitterPlayoutLoop`. -/
  | playout (bridge : Nat)
  /-- `echoPlayoutLoop`. -/
  | echo (bridge : Nat)
  /-- A read loop of a client's track. -/
  | client (bridge : Nat)
  /-- A read loop of a WebSocket provider. -/
  | provider (bridge : Nat)
  /-- `sendLoopRTP`. -/
  | ringback (sender : Nat)
  deriving DecidableEq, Repr

def RtpWorker.source : RtpWorker → RtpSource
  | playout n | echo n | client n | provider n => .bridge n
  | ringback n => .ringback n

/-- A packet that is sent, with the worker that sends it. -/
structure RtpOut where
  worker : RtpWorker
  payloadType : BitVec 8
  counter : RtpCounter
  ssrc : BitVec 32
  payload : List (BitVec 8)
  deriving DecidableEq, Repr

/-- The packet `q` has the next number, and its timestamp is later by its length. -/
def RtpOut.Follows (p q : RtpOut) : Prop := q.counter = p.counter.next q.payload.length

instance : DecidableRel RtpOut.Follows := fun p q =>
  inferInstanceAs (Decidable (q.counter = p.counter.next q.payload.length))

/-- The packets of a leg: those that are stamped and not written yet, and those that were sent. -/
structure RtpStream where
  pending : List RtpOut
  sent : List RtpOut
  deriving DecidableEq, Repr

/-- The packets that were stamped. -/
def RtpStream.stamped (stream : RtpStream) : List RtpOut := stream.sent ++ stream.pending

/-- How a media session is started. -/
inductive MediaPath
  | sip (payloadType : BitVec 8)
  | webSocket
  | echo
  deriving DecidableEq, Repr

structure Bridge where
  /-- Is there an echo delay? -/
  echoDelay : Bool
  payloadType : BitVec 8
  jitterBuf : JitterBuffer (List (BitVec 8))
  sipWriter : Bool
  webrtcWriter : Bool
  /-- `sipSeqNum` and `sipTimestamp`, `webrtcSeqNum` and `webrtcTimestamp`. -/
  counter : RtpLeg → RtpCounter
  echoQueue : List (List (BitVec 8))
  running : Bool

/-- A ringback sender, of a SIP provider or, for the echo, of the client. -/
structure RingbackSender where
  leg : RtpLeg
  payloadType : BitVec 8
  counter : RtpCounter
  stopped : Bool
  deriving DecidableEq, Repr

/-- A packet that is to be stamped. -/
structure RtpFrame where
  worker : RtpWorker
  leg : RtpLeg
  payloadType : BitVec 8
  /-- What the timestamp advances by. -/
  advance : Nat
  payload : List (BitVec 8)
  deriving DecidableEq, Repr

/-- The packet with its number and its timestamp. -/
def RtpFrame.packet (f : RtpFrame) (c : RtpCounter) : RtpOut :=
  ⟨f.worker, f.payloadType, c, f.leg.ssrc, f.payload⟩

structure RtpSessionState where
  bridges : List Bridge
  ringbacks : List RingbackSender
  streams : RtpLeg → RtpStream

inductive RtpSessionEvent
  /-- A media session is started. -/
  | start (path : MediaPath)
  | stop (bridge : Nat)
  | startRingback (leg : RtpLeg) (payloadType : BitVec 8)
  | stopRingback (sender : Nat)
  /-- A tick of a ringback sender, with a frame of 160 samples. -/
  | ringbackFrame (sender : Nat) (payload : List (BitVec 8))
  | clientRTP (bridge : Nat) (payload : List (BitVec 8))
  | providerRTP (bridge : Nat) (pkt : JitterPacket (List (BitVec 8)))
  /-- A tick of the playout loop. -/
  | playout (bridge : Nat)
  /-- The next echo frame is due. -/
  | echo (bridge : Nat)
  | providerPCM (bridge : Nat) (pcm16k : List (BitVec 8))
  /-- A stamped packet is written. -/
  | write (leg : RtpLeg) (i : Nat)
  deriving DecidableEq, Repr

/-! ## PCM -/

/-- Little-endian samples. -/
def bytesToPCM16 : List (BitVec 8) → List (BitVec 16)
  | low :: high :: data => (high ++ low) :: bytesToPCM16 data
  | _ => []

/-- Each two samples become one; Go's division rounds towards zero. -/
def downsample16to8 : List (BitVec 16) → List (BitVec 16)
  | a :: b :: input => BitVec.ofInt 16 ((a.toInt + b.toInt).tdiv 2) :: downsample16to8 input
  | _ => []

/-- The sample as a byte of G.711 µ-law; the table `expLut` has the binary logarithms. -/
def linearToUlaw (sample : BitVec 16) : BitVec 8 :=
  let sign : BitVec 16 := if sample.toInt < 0 then 0x80 else 0
  let sample := if sample.toInt < 0 then -sample else sample
  let sample := (if 32635 < sample.toInt then 32635 else sample) + 0x84
  let exponent := Nat.log2 ((sample.sshiftRight 7) &&& 0xFF).toNat
  let mantissa := (sample.sshiftRight (exponent + 3)) &&& 0x0F
  ~~~ (sign ||| BitVec.ofNat 16 (exponent * 16) ||| mantissa).setWidth 8

def encodeUlaw (pcm : List (BitVec 16)) : List (BitVec 8) := pcm.map linearToUlaw

/-! ## The senders -/

namespace RtpStream

/-- Is the worker at a packet that it has not written yet? -/
def Busy (stream : RtpStream) (worker : RtpWorker) : Prop := ∃ p ∈ stream.pending, p.worker = worker

instance (stream : RtpStream) (worker : RtpWorker) : Decidable (stream.Busy worker) :=
  inferInstanceAs (Decidable (∃ p ∈ stream.pending, _))

end RtpStream

/-- A new bridge, with the writers that its path sets. -/
def Bridge.new : MediaPath → Bridge
  | .sip payloadType =>
    ⟨false, payloadType, .new defaultJitterDepth, true, true, fun _ => .zero, [], true⟩
  | .webSocket => ⟨false, 0, .new defaultJitterDepth, false, true, fun _ => .zero, [], true⟩
  | .echo => ⟨true, 0, .new defaultJitterDepth, false, true, fun _ => .zero, [], true⟩

namespace RtpSessionState

def init : RtpSessionState := ⟨[], [], fun _ => ⟨[], []⟩⟩

def setBridge (s : RtpSessionState) (n : Nat) (b : Bridge) : RtpSessionState :=
  { s with bridges := s.bridges.set n b }

/-- `HandleClientRTP`, up to its stamp. -/
def clientRTP (s : RtpSessionState) (n : Nat) (payload : List (BitVec 8)) (b : Bridge) :
    RtpSessionState × Option RtpFrame :=
  if b.echoDelay then
    if payload = [] then (s, none)
    else (s.setBridge n { b with echoQueue := b.echoQueue ++ [payload] }, none)
  else if ¬ b.sipWriter ∨ payload = [] then (s, none)
  else (s, some ⟨.client n, .sip, b.payloadType, payload.length, payload⟩)

/-- `playoutFrame`, up to its stamp. -/
def playoutFrame (s : RtpSessionState) (n : Nat) (b : Bridge) : RtpSessionState × Option RtpFrame :=
  match b.jitterBuf.pop with
  | (none, jitterBuf) => (s.setBridge n { b with jitterBuf }, none)
  | (some pkt, jitterBuf) =>
    (s.setBridge n { b with jitterBuf },
      if ¬ b.webrtcWriter ∨ pkt.payload = [] then none
      else some ⟨.playout n, .webrtc, 0, pkt.payload.length, pkt.payload⟩)

/-- `echoPlayoutLoop` and `writeEchoFrame`, up to the stamp of one frame. -/
def echoFrame (s : RtpSessionState) (n : Nat) (b : Bridge) :
    Option (RtpSessionState × Option RtpFrame) :=
  match b.echoQueue with
  | [] => none
  | payload :: echoQueue =>
    some (s.setBridge n { b with echoQueue },
      if ¬ b.webrtcWriter ∨ payload = [] then none
      else some ⟨.echo n, .webrtc, 0, payload.length, payload⟩)

/-- `HandleProviderPCM16k`, up to its stamp; it counts, also where there is no writer. -/
def providerPCM (s : RtpSessionState) (n : Nat) (pcm16k : List (BitVec 8)) (b : Bridge) :
    RtpSessionState × Option RtpFrame :=
  let samples8k := downsample16to8 (bytesToPCM16 pcm16k)
  if b.webrtcWriter then
    (s, some ⟨.provider n, .webrtc, 0, samples8k.length, encodeUlaw samples8k⟩)
  else
    (s.setBridge n
      { b with
        counter := Function.update b.counter .webrtc
          ((b.counter .webrtc).next samples8k.length) }, none)

/-- What an event does up to the stamp of the packet, if it sends one. -/
def frame (s : RtpSessionState) : RtpSessionEvent → Option (RtpSessionState × Option RtpFrame)
  | .start path => some ({ s with bridges := s.bridges ++ [.new path] }, none)
  | .stop n => s.bridges[n]?.map fun b => (s.setBridge n { b with running := false }, none)
  | .startRingback leg payloadType =>
    some ({ s with ringbacks := s.ringbacks ++ [⟨leg, payloadType, .zero, false⟩] }, none)
  | .stopRingback n => s.ringbacks[n]?.map fun r =>
    ({ s with ringbacks := s.ringbacks.set n { r with stopped := true } }, none)
  | .ringbackFrame n payload => s.ringbacks[n]?.bind fun r =>
    if r.stopped ∨ (s.streams r.leg).Busy (.ringback n) ∨ payload.length ≠ 160 then none
    else some (s, some ⟨.ringback n, r.leg, r.payloadType, 160, payload⟩)
  | .clientRTP n payload => s.bridges[n]?.map (s.clientRTP n payload)
  | .providerRTP n pkt => s.bridges[n]?.map fun b =>
    (s.setBridge n { b with jitterBuf := b.jitterBuf.push pkt }, none)
  | .playout n => s.bridges[n]?.bind fun b =>
    if ¬ b.running ∨ (s.streams .webrtc).Busy (.playout n) then none else some (s.playoutFrame n b)
  | .echo n => s.bridges[n]?.bind fun b =>
    if ¬ b.running ∨ (s.streams .webrtc).Busy (.echo n) then none else s.echoFrame n b
  | .providerPCM n pcm16k => s.bridges[n]?.map (s.providerPCM n pcm16k)
  | .write _ _ => none

/-- The counter of a source on a leg. -/
def counter (s : RtpSessionState) : RtpSource → RtpLeg → Option RtpCounter
  | .bridge n, leg => s.bridges[n]?.map (·.counter leg)
  | .ringback n, leg => (s.ringbacks[n]?.filter (·.leg = leg)).map (·.counter)

/-- The source counts. -/
def setCounter (s : RtpSessionState) (source : RtpSource) (leg : RtpLeg) (c : RtpCounter) :
    RtpSessionState :=
  match source with
  | .bridge n =>
    { s with
      bridges := s.bridges.modify n fun b => { b with counter := Function.update b.counter leg c } }
  | .ringback n => { s with ringbacks := s.ringbacks.modify n fun r => { r with counter := c } }

/-- A packet gets its number and its timestamp. -/
def stamp (s : RtpSessionState) (f : RtpFrame) : RtpSessionState :=
  match s.counter f.worker.source f.leg with
  | none => s
  | some c =>
    let c := c.next f.advance
    let stream := s.streams f.leg
    { s.setCounter f.worker.source f.leg c with
      streams := Function.update s.streams f.leg
        { stream with pending := stream.pending ++ [f.packet c] } }

/-- One event. -/
def step (s : RtpSessionState) : RtpSessionEvent → Option RtpSessionState
  | .write leg i =>
    let stream := s.streams leg
    stream.pending[i]?.map fun p =>
      { s with
        streams := Function.update s.streams leg
          ⟨stream.pending.eraseIdx i, stream.sent ++ [p]⟩ }
  | e => (s.frame e).map fun r => r.2.elim r.1 r.1.stamp

/-- The packets of every leg follow one another under each SSRC, and no number comes again within
2^16 packets. -/
structure Continuous (s : RtpSessionState) : Prop where
  follows : ∀ leg ssrc, ((s.streams leg).sent.filter (·.ssrc = ssrc)).IsChain RtpOut.Follows
  numbers : ∀ leg ssrc (i j : Nat) p q, i < j → j < i + 2 ^ 16 →
    ((s.streams leg).sent.filter (·.ssrc = ssrc))[i]? = some p →
    ((s.streams leg).sent.filter (·.ssrc = ssrc))[j]? = some q →
    p.counter.sequenceNumber ≠ q.counter.sequenceNumber

/-! ## The condition -/

/-- The leg's last packet was stamped by this source, or stands where this source counts. -/
def Continues (s : RtpSessionState) (source : RtpSource) (leg : RtpLeg) : Prop :=
  ∀ p ∈ (s.streams leg).stamped.getLast?, p.worker.source = source ∨ s.counter source leg = some p.counter

/-- A source stamps a packet of a leg where the leg's last one was stamped by it, too, and a packet is
written before those that were stamped after it. -/
def InTurn (s : RtpSessionState) (e : RtpSessionEvent) : Prop :=
  match e with
  | .write _ i => i = 0
  | e => ∀ r ∈ s.frame e, ∀ f ∈ r.2, s.Continues f.worker.source f.leg

instance (s : RtpSessionState) (source : RtpSource) (leg : RtpLeg) :
    Decidable (s.Continues source leg) :=
  inferInstanceAs (Decidable (∀ p ∈ (s.streams leg).stamped.getLast?, _))

instance (s : RtpSessionState) (e : RtpSessionEvent) : Decidable (s.InTurn e) :=
  match e with
  | .write _ i => inferInstanceAs (Decidable (i = 0))
  | .start _ | .stop _ | .startRingback _ _ | .stopRingback _ | .ringbackFrame _ _ | .clientRTP _ _
  | .providerRTP _ _ | .playout _ | .echo _ | .providerPCM _ _ =>
    inferInstanceAs (Decidable (∀ r ∈ s.frame _, ∀ f ∈ r.2, s.Continues f.worker.source f.leg))

/-! ## The counters -/

variable {s t : RtpSessionState} {n : Nat} {b b' : Bridge} {source : RtpSource}
  {leg leg' : RtpLeg} {c c' : RtpCounter}

theorem counter_setBridge (hb : s.bridges[n]? = some b) (hcounter : b'.counter = b.counter) :
    (s.setBridge n b').counter source leg = s.counter source leg := by
  cases source with
  | ringback m => rfl
  | bridge m =>
    rw [counter, counter, setBridge, List.getElem?_set]
    split
    · next heq =>
      subst heq
      rw [if_pos (List.getElem?_eq_some_iff.mp hb).1, hb, Option.map_some, Option.map_some, hcounter]
    · rfl

theorem counter_setCounter_self (hc : s.counter source leg = some c) :
    (s.setCounter source leg c').counter source leg = some c' := by
  cases source with
  | bridge m =>
    obtain ⟨b, hb, -⟩ := Option.map_eq_some_iff.mp hc
    simp [setCounter, counter, hb]
  | ringback m =>
    obtain ⟨r, hr, -⟩ := Option.map_eq_some_iff.mp hc
    obtain ⟨hr, hleg⟩ := Option.filter_eq_some_iff.mp hr
    simp [setCounter, counter, hr, of_decide_eq_true hleg]

/-- The counters of the other leg are as before. -/
theorem counter_setCounter_ne (hc : s.counter source leg = some c) (hne : leg' ≠ leg)
    (source' : RtpSource) :
    (s.setCounter source leg c').counter source' leg' = s.counter source' leg' := by
  cases source with
  | bridge m =>
    cases source' with
    | ringback k => rfl
    | bridge k =>
      simp only [setCounter, counter, List.getElem?_modify]
      by_cases hmk : m = k
      · subst hmk
        cases s.bridges[m]? <;> simp [Function.update_of_ne hne]
      · simp [hmk]
  | ringback m =>
    cases source' with
    | bridge k => rfl
    | ringback k =>
      obtain ⟨r, hr, -⟩ := Option.map_eq_some_iff.mp hc
      obtain ⟨hr, hleg⟩ := Option.filter_eq_some_iff.mp hr
      simp only [setCounter, counter, List.getElem?_modify]
      by_cases hmk : m = k
      · subst hmk
        have hleg' : r.leg ≠ leg' := of_decide_eq_true hleg ▸ hne.symm
        simp [hr, hleg', Option.filter]
      · simp [hmk]

/-- What an event leaves to be stamped: the streams and the counters are as before. -/
structure Prepared (s : RtpSessionState) (r : RtpSessionState × Option RtpFrame) : Prop where
  streams : r.1.streams = s.streams
  counter : ∀ source leg c, s.counter source leg = some c → r.1.counter source leg = some c
  writers : ∀ b ∈ r.1.bridges, b.webrtcWriter = true
  frame : ∀ f ∈ r.2, f.advance = f.payload.length ∧ ∃ c, s.counter f.worker.source f.leg = some c

theorem downsample_encoded (pcm16k : List (BitVec 8)) :
    (encodeUlaw (downsample16to8 (bytesToPCM16 pcm16k))).length =
      (downsample16to8 (bytesToPCM16 pcm16k)).length :=
  List.length_map ..

/-- A bridge changes, but not its counters and its writers. -/
theorem Prepared.setBridge (hwriters : ∀ b ∈ s.bridges, b.webrtcWriter = true)
    (hb : s.bridges[n]? = some b) (hcounter : b'.counter = b.counter)
    (hwriter : b'.webrtcWriter = b.webrtcWriter) {f : Option RtpFrame}
    (hf : ∀ x ∈ f, x.advance = x.payload.length ∧ x.worker.source = .bridge n) :
    s.Prepared (s.setBridge n b', f) where
  streams := rfl
  counter source leg c hc := (counter_setBridge hb hcounter).trans hc
  writers d hd := by
    rcases List.mem_or_eq_of_mem_set hd with hd | rfl
    · exact hwriters d hd
    · exact hwriter.trans (hwriters b (List.mem_of_getElem? hb))
  frame x hx := by
    refine ⟨(hf x hx).1, b.counter x.leg, ?_⟩
    rw [(hf x hx).2, RtpSessionState.counter, hb, Option.map_some]

/-- No bridge changes. -/
theorem Prepared.same (hwriters : ∀ b ∈ s.bridges, b.webrtcWriter = true)
    {f : Option RtpFrame}
    (hf : ∀ x ∈ f, x.advance = x.payload.length ∧ ∃ c, s.counter x.worker.source x.leg = some c) :
    s.Prepared (s, f) :=
  ⟨rfl, fun _ _ _ hc => hc, hwriters, hf⟩

theorem bridge_counter (hb : s.bridges[n]? = some b) (leg : RtpLeg) :
    ∃ c, s.counter (.bridge n) leg = some c :=
  ⟨b.counter leg, by rw [counter, hb, Option.map_some]⟩

theorem prepared_frame (hwriters : ∀ b ∈ s.bridges, b.webrtcWriter = true) {e : RtpSessionEvent}
    {r : RtpSessionState × Option RtpFrame} (hr : s.frame e = some r) : s.Prepared r := by
  cases e with
  | start path =>
    cases hr
    refine ⟨rfl, fun source leg c hc => ?_, fun b hb => ?_, nofun⟩
    · cases source with
      | ringback m => exact hc
      | bridge m =>
        obtain ⟨b, hb, rfl⟩ := Option.map_eq_some_iff.mp hc
        have hlt := (List.getElem?_eq_some_iff.mp hb).1
        rw [counter, List.getElem?_append_left hlt, hb, Option.map_some]
    · rcases List.mem_append.mp hb with hb | hb
      · exact hwriters b hb
      · cases List.mem_singleton.mp hb
        cases path <;> rfl
  | stop n =>
    obtain ⟨b, hb, rfl⟩ := Option.map_eq_some_iff.mp hr
    exact .setBridge hwriters hb (by rfl) (by rfl) (by nofun)
  | startRingback leg payloadType =>
    cases hr
    refine ⟨rfl, fun source leg c hc => ?_, hwriters, nofun⟩
    cases source with
    | bridge m => exact hc
    | ringback m =>
      obtain ⟨r, hr, rfl⟩ := Option.map_eq_some_iff.mp hc
      obtain ⟨hr, hleg⟩ := Option.filter_eq_some_iff.mp hr
      have hlt := (List.getElem?_eq_some_iff.mp hr).1
      simp [counter, List.getElem?_append_left hlt, hr, of_decide_eq_true hleg]
  | stopRingback n =>
    obtain ⟨q, hq, rfl⟩ := Option.map_eq_some_iff.mp hr
    refine ⟨rfl, fun source leg c hc => ?_, hwriters, nofun⟩
    cases source with
    | bridge m => exact hc
    | ringback m =>
      obtain ⟨q', hq', rfl⟩ := Option.map_eq_some_iff.mp hc
      obtain ⟨hq', hleg⟩ := Option.filter_eq_some_iff.mp hq'
      by_cases hnm : n = m
      · subst hnm
        cases hq.symm.trans hq'
        have hlt := (List.getElem?_eq_some_iff.mp hq).1
        simp [counter, hlt, of_decide_eq_true hleg]
      · simp [counter, List.getElem?_set_ne hnm, hq', of_decide_eq_true hleg]
  | ringbackFrame n payload =>
    obtain ⟨q, hq, hr⟩ := Option.bind_eq_some_iff.mp hr
    split_ifs at hr with hnone
    cases hr
    have hlength : payload.length = 160 := by
      by_contra hne
      exact hnone (.inr (.inr hne))
    refine .same hwriters ?_
    rintro f ⟨⟩
    exact ⟨hlength.symm, q.counter, by simp [RtpWorker.source, counter, hq]⟩
  | clientRTP n payload =>
    obtain ⟨b, hb, rfl⟩ := Option.map_eq_some_iff.mp hr
    rw [clientRTP]
    split_ifs
    · exact .same hwriters nofun
    · exact .setBridge hwriters hb (by rfl) (by rfl) (by nofun)
    · exact .same hwriters nofun
    · refine .same hwriters ?_
      rintro f ⟨⟩
      exact ⟨rfl, bridge_counter hb _⟩
  | providerRTP n pkt =>
    obtain ⟨b, hb, rfl⟩ := Option.map_eq_some_iff.mp hr
    exact .setBridge hwriters hb (by rfl) (by rfl) (by nofun)
  | playout n =>
    obtain ⟨b, hb, hr⟩ := Option.bind_eq_some_iff.mp hr
    split_ifs at hr
    cases hr
    rw [playoutFrame]
    split
    · exact .setBridge hwriters hb (by rfl) (by rfl) (by nofun)
    · refine .setBridge hwriters hb (by rfl) (by rfl) ?_
      split
      · exact nofun
      · rintro f ⟨⟩
        exact ⟨rfl, rfl⟩
  | echo n =>
    obtain ⟨b, hb, hr⟩ := Option.bind_eq_some_iff.mp hr
    split_ifs at hr
    rw [echoFrame] at hr
    split at hr
    · cases hr
    · cases hr
      refine .setBridge hwriters hb (by rfl) (by rfl) ?_
      split
      · exact nofun
      · rintro f ⟨⟩
        exact ⟨rfl, rfl⟩
  | providerPCM n pcm16k =>
    obtain ⟨b, hb, rfl⟩ := Option.map_eq_some_iff.mp hr
    rw [providerPCM, if_pos (hwriters b (List.mem_of_getElem? hb))]
    refine .same hwriters ?_
    rintro f ⟨⟩
    exact ⟨(downsample_encoded pcm16k).symm, bridge_counter hb _⟩
  | write leg i => cases hr

/-! ## The streams -/

/-- What a run keeps. -/
structure Kept (s : RtpSessionState) : Prop where
  writers : ∀ b ∈ s.bridges, b.webrtcWriter = true
  follows : ∀ leg, (s.streams leg).stamped.IsChain RtpOut.Follows
  ssrc : ∀ leg, ∀ p ∈ (s.streams leg).stamped, p.ssrc = leg.ssrc
  /-- The one that stamped a leg's last packet has counted no further since. -/
  last : ∀ leg, ∀ p ∈ (s.streams leg).stamped.getLast?,
    s.counter p.worker.source leg = some p.counter

theorem kept_init : init.Kept :=
  ⟨nofun, fun _ => .nil, nofun, nofun⟩

theorem Kept.prepared (h : s.Kept) {r : RtpSessionState × Option RtpFrame} (hr : s.Prepared r) :
    r.1.Kept where
  writers := hr.writers
  follows := hr.streams ▸ h.follows
  ssrc := hr.streams ▸ h.ssrc
  last leg p hp := hr.counter _ leg _ (h.last leg p (hr.streams ▸ hp))

/-- A stamped packet is the last one of its leg. -/
theorem stamped_stamp {f : RtpFrame} (hc : s.counter f.worker.source f.leg = some c) (leg : RtpLeg) :
    ((s.stamp f).streams leg).stamped =
      (s.streams leg).stamped ++ if leg = f.leg then [f.packet (c.next f.advance)] else [] := by
  rw [stamp, hc]
  by_cases hleg : leg = f.leg
  · subst hleg
    simp [RtpStream.stamped]
  · simp [hleg]

theorem writers_setCounter (hwriters : ∀ b ∈ s.bridges, b.webrtcWriter = true) (source : RtpSource)
    (leg : RtpLeg) (c : RtpCounter) :
    ∀ b ∈ (s.setCounter source leg c).bridges, b.webrtcWriter = true := by
  intro b hb
  cases source with
  | ringback m => exact hwriters b hb
  | bridge m =>
    obtain ⟨i, hi⟩ := List.mem_iff_getElem?.mp hb
    simp only [setCounter, List.getElem?_modify] at hi
    obtain ⟨d, hd, rfl⟩ := Option.map_eq_some_iff.mp hi
    have hd := hwriters d (List.mem_of_getElem? hd)
    split <;> exact hd

/-- A packet is stamped by a source that is where the leg is. -/
theorem Kept.stamp (h : s.Kept) {f : RtpFrame} (hadvance : f.advance = f.payload.length)
    (hc : s.counter f.worker.source f.leg = some c)
    (hlast : ∀ p ∈ (s.streams f.leg).stamped.getLast?, p.counter = c) : (s.stamp f).Kept := by
  have hcounter : ∀ source leg,
      (s.stamp f).counter source leg =
        (s.setCounter f.worker.source f.leg (c.next f.advance)).counter source leg := by
    intro source leg
    rw [RtpSessionState.stamp, hc]
    rfl
  refine ⟨?_, fun leg => ?_, fun leg p hp => ?_, fun leg p hp => ?_⟩
  · rw [RtpSessionState.stamp, hc]
    exact fun b hb => writers_setCounter h.writers _ _ _ b hb
  · rw [stamped_stamp hc]
    split
    · next heq =>
      subst heq
      refine (h.follows f.leg).append (.singleton _) fun p hp q hq => ?_
      cases hq
      rw [RtpOut.Follows, hlast p hp]
      exact congrArg c.next hadvance
    · rw [List.append_nil]
      exact h.follows leg
  · rw [stamped_stamp hc] at hp
    rcases List.mem_append.mp hp with hp | hp
    · exact h.ssrc leg p hp
    · split at hp
      · next heq =>
        cases List.mem_singleton.mp hp
        exact congrArg RtpLeg.ssrc heq.symm
      · cases hp
  · rw [stamped_stamp hc] at hp
    rw [hcounter]
    split at hp
    · next heq =>
      subst heq
      rw [List.getLast?_concat] at hp
      cases hp
      exact counter_setCounter_self hc
    · next hne =>
      rw [List.append_nil] at hp
      exact (counter_setCounter_ne hc hne _).trans (h.last leg p hp)

/-- The packet that was stamped first is written. -/
theorem Kept.write (h : s.Kept) {p : RtpOut} {pending : List RtpOut}
    (hpending : (s.streams leg).pending = p :: pending) :
    Kept { s with
      streams := Function.update s.streams leg ⟨pending, (s.streams leg).sent ++ [p]⟩ } := by
  have hsame : ∀ leg', RtpStream.stamped
      (Function.update s.streams leg ⟨pending, (s.streams leg).sent ++ [p]⟩ leg') =
        (s.streams leg').stamped := by
    intro leg'
    by_cases hleg : leg' = leg
    · subst hleg
      rw [Function.update_self, RtpStream.stamped, RtpStream.stamped, hpending, List.append_assoc,
        List.singleton_append]
    · rw [Function.update_of_ne hleg]
  refine ⟨h.writers, fun leg' => ?_, fun leg' q hq => ?_, fun leg' q hq => ?_⟩
  · exact (hsame leg').symm ▸ h.follows leg'
  · exact h.ssrc leg' q (hsame leg' ▸ hq)
  · exact h.last leg' q (hsame leg' ▸ hq)

/-- An event that sends a packet, or none, and writes none. -/
theorem Kept.send (h : s.Kept) {r : RtpSessionState × Option RtpFrame} {e : RtpSessionEvent}
    (hr : s.frame e = some r) (hturn : ∀ f ∈ r.2, s.Continues f.worker.source f.leg) :
    (r.2.elim r.1 r.1.stamp).Kept := by
  have hprepared := prepared_frame h.writers hr
  have hkept := h.prepared hprepared
  obtain ⟨s', f⟩ := r
  cases f with
  | none => exact hkept
  | some f =>
    obtain ⟨hadvance, c, hc⟩ := hprepared.frame f rfl
    refine hkept.stamp hadvance (hprepared.counter _ _ c hc) fun p hp => ?_
    have hp : p ∈ (s.streams f.leg).stamped.getLast? := hprepared.streams ▸ hp
    rcases hturn f rfl p hp with hsource | hcount
    · exact Option.some.inj ((h.last f.leg p hp).symm.trans (hsource ▸ hc))
    · exact Option.some.inj (hcount.symm.trans hc)

theorem Kept.step (h : s.Kept) {e : RtpSessionEvent} (hturn : s.InTurn e)
    (ht : s.step e = some t) : t.Kept := by
  cases e with
  | write leg i =>
    cases hturn
    obtain ⟨p, hp, rfl⟩ := Option.map_eq_some_iff.mp ht
    obtain ⟨pending, hpending⟩ : ∃ pending, (s.streams leg).pending = p :: pending := by
      cases hlist : (s.streams leg).pending with
      | nil =>
        rw [hlist] at hp
        cases hp
      | cons q pending =>
        rw [hlist] at hp
        cases hp
        exact ⟨pending, rfl⟩
    rw [hpending]
    exact h.write hpending
  | start | stop | startRingback | stopRingback | ringbackFrame | clientRTP | providerRTP | playout
  | echo | providerPCM =>
    simp only [RtpSessionState.step] at ht
    obtain ⟨r, hr, rfl⟩ := Option.map_eq_some_iff.mp ht
    exact h.send hr (hturn r hr)

/-- The numbers of packets that follow one another. -/
theorem follows_sequenceNumber {packets : List RtpOut} (h : packets.IsChain RtpOut.Follows)
    {i k : Nat} {p q : RtpOut} (hp : packets[i]? = some p) (hq : packets[i + k]? = some q) :
    q.counter.sequenceNumber = p.counter.sequenceNumber + BitVec.ofNat 16 k := by
  induction k generalizing q with
  | zero =>
    cases hp.symm.trans hq
    exact (BitVec.add_zero _).symm
  | succ k ih =>
    have hlt := (List.getElem?_eq_some_iff.mp hq).1
    have hmid : packets[i + k]? = some packets[i + k] := List.getElem?_eq_getElem (by omega)
    have hfollows := h.getElem (i + k) hlt
    obtain ⟨_, rfl⟩ := List.getElem?_eq_some_iff.mp hq
    rw [BitVec.ofNat_add, ← BitVec.add_assoc, ← ih hmid]
    exact congrArg RtpCounter.sequenceNumber hfollows

theorem Kept.continuous (h : s.Kept) : s.Continuous := by
  have hfollows : ∀ leg ssrc,
      ((s.streams leg).sent.filter (·.ssrc = ssrc)).IsChain RtpOut.Follows := by
    intro leg ssrc
    have hsent : (s.streams leg).sent.IsChain RtpOut.Follows := (h.follows leg).left_of_append
    by_cases hssrc : ssrc = leg.ssrc
    · have hall : (s.streams leg).sent.filter (·.ssrc = ssrc) = (s.streams leg).sent :=
        List.filter_eq_self.mpr fun p hp =>
          decide_eq_true ((h.ssrc leg p (List.mem_append_left _ hp)).trans hssrc.symm)
      rw [hall]
      exact hsent
    · have hnone : (s.streams leg).sent.filter (·.ssrc = ssrc) = [] :=
        List.filter_eq_nil_iff.mpr fun p hp heq =>
          hssrc ((of_decide_eq_true heq).symm.trans (h.ssrc leg p (List.mem_append_left _ hp)))
      rw [hnone]
      exact .nil
  refine ⟨hfollows, fun leg ssrc i j p q hij hj hp hq heq => ?_⟩
  obtain ⟨k, rfl⟩ := Nat.exists_eq_add_of_lt hij
  rw [Nat.add_assoc] at hq
  have hnumber := follows_sequenceNumber (hfollows leg ssrc) hp hq
  rw [← heq] at hnumber
  have htoNat := congrArg BitVec.toNat hnumber
  rw [BitVec.toNat_add, BitVec.toNat_ofNat] at htoNat
  have hlt := p.counter.sequenceNumber.isLt
  omega

/-- **The RTP streams are continuous.** In a run where every source that stamps a packet of a leg
continues what the leg's last packet left, and the packets are written in the order of their stamps, the
packets sent on a leg have consecutive numbers, and timestamps that advance by their lengths. -/
theorem streams_continuous (s : RtpSessionState) (es : List RtpSessionEvent)
    (hrun : exec step init es = some s) (hturn : Guarded step InTurn init es) : s.Continuous :=
  (hturn.invariant (I := Kept) (fun _ _ _ h hguard ht => h.step hguard ht) kept_init hrun).continuous

/-- A SIP call in both directions, without a ringback. -/
def bridged : List RtpSessionEvent :=
  [.start (.sip 0), .clientRTP 0 [1, 2, 3], .write .sip 0, .providerRTP 0 ⟨7, 0, [4, 5]⟩,
    .clientRTP 0 [6, 7], .providerRTP 0 ⟨8, 2, [8, 9]⟩, .playout 0, .write .sip 0,
    .write .webrtc 0, .playout 0, .write .webrtc 0]

theorem streams_continuous_bridged :
    ∃ s, exec step init bridged = some s ∧ s.Continuous :=
  ⟨_, rfl, streams_continuous _ bridged rfl (by decide)⟩

/-- A ringback is sent to the provider, and the client comes. -/
def answered : List RtpSessionEvent :=
  [.startRingback .sip 0, .ringbackFrame 0 (List.replicate 160 255), .write .sip 0,
    .stopRingback 0, .start (.sip 0), .clientRTP 0 [1, 2], .write .sip 0]

/-- **The numbers start again.** The first packet of the bridge has the number of the first packet of
the ringback, under the same SSRC. -/
theorem restarted :
    ¬ ∀ (s : RtpSessionState) (es : List RtpSessionEvent),
      exec step init es = some s → s.Continuous := by
  intro h
  have hfollows : (exec step init answered).all fun s =>
      ((s.streams .sip).sent.filter (·.ssrc = 0x12345678)).IsChain RtpOut.Follows :=
    (Option.all_eq_true _ _).mpr fun s hs => decide_eq_true ((h s answered hs).follows .sip 0x12345678)
  exact absurd hfollows (by decide +kernel)

end RtpSessionState

end Svarla.MediaBridge
