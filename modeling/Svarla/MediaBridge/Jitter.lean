import Mathlib.Data.List.Basic
import Mathlib.Tactic.Common

/-!
# RTP packets and the jitter buffer

What the bridge keeps about the RTP packets it sends (`RtpCounter`), and the jitter buffer, in which the
packets of a SIP provider wait to be played. The buffer is the same for every kind of payload. The times
of arrival are left out, as nothing reads them.
-/

namespace Svarla.MediaBridge

/-! ## Outgoing packets -/

/-- `sipSeqNum` and `sipTimestamp`, `webrtcSeqNum` and `webrtcTimestamp`, or those of a ringback. -/
structure RtpCounter where
  sequenceNumber : BitVec 16
  timestamp : BitVec 32
  deriving DecidableEq, Repr

namespace RtpCounter

def zero : RtpCounter := ⟨0, 0⟩

/-- The counter at the next packet, with a payload of `n` bytes. -/
def next (c : RtpCounter) (n : Nat) : RtpCounter :=
  ⟨c.sequenceNumber + 1, c.timestamp + BitVec.ofNat 32 n⟩

end RtpCounter

/-! ## The jitter buffer -/

section Jitter

variable {π : Type*}

/-- `DefaultJitterDepth`. -/
def defaultJitterDepth : Int := 2

/-- `MaxJitterDepth`. -/
def maxJitterDepth : Int := 10

structure JitterPacket (π : Type*) where
  sequenceNumber : BitVec 16
  timestamp : BitVec 32
  payload : π
  deriving DecidableEq, Repr

structure JitterStats where
  packetsReceived : Nat
  packetsDropped : Nat
  packetsPlayed : Nat
  reorders : Nat
  deriving DecidableEq, Repr

structure JitterBuffer (π : Type*) where
  depth : Int
  packets : List (JitterPacket π)
  nextSeq : BitVec 16
  initialized : Bool
  playing : Bool
  stats : JitterStats
  deriving DecidableEq, Repr

/-- Is `a` after `b`, in the order of sequence numbers? -/
def seqAfter (a b : BitVec 16) : Bool := 0 < (a - b).toInt

def seqBefore (a b : BitVec 16) : Bool := (a - b).toInt < 0

/-- The packet at its place in sequence order. -/
def insertInOrder (pkt : JitterPacket π) : List (JitterPacket π) → List (JitterPacket π)
  | [] => [pkt]
  | existing :: packets =>
    if seqAfter pkt.sequenceNumber existing.sequenceNumber then
      existing :: insertInOrder pkt packets
    else pkt :: existing :: packets

namespace JitterBuffer

/-- `NewJitterBuffer`. -/
def new (depth : Int) : JitterBuffer π :=
  ⟨if depth < 1 then 1 else if depth > maxJitterDepth then maxJitterDepth else depth, [], 0, false, false,
    ⟨0, 0, 0, 0⟩⟩

def isStale (jb : JitterBuffer π) (seq : BitVec 16) : Bool := seqBefore seq jb.nextSeq

def push (jb : JitterBuffer π) (pkt : JitterPacket π) : JitterBuffer π :=
  let stats := { jb.stats with packetsReceived := jb.stats.packetsReceived + 1 }
  let dropped := { stats with packetsDropped := stats.packetsDropped + 1 }
  if jb.playing ∧ jb.isStale pkt.sequenceNumber then { jb with initialized := true, stats := dropped }
  else if ∃ existing ∈ jb.packets, existing.sequenceNumber = pkt.sequenceNumber then
    { jb with initialized := true, stats := dropped }
  else
    { jb with
      initialized := true
      packets := insertInOrder pkt jb.packets
      stats :=
        if ∀ existing ∈ jb.packets, seqAfter pkt.sequenceNumber existing.sequenceNumber then stats
        else { stats with reorders := stats.reorders + 1 } }

/-- The next packet to be played, if there is one; at the start, not before the buffer has filled. -/
def pop (jb : JitterBuffer π) : Option (JitterPacket π) × JitterBuffer π :=
  match jb.packets with
  | [] => (none, jb)
  | pkt :: packets =>
    if ¬ jb.playing ∧ jb.packets.length < jb.depth then (none, jb)
    else
      -- After a large gap, `nextSeq` is first set to the number of the packet; this is overwritten.
      (some pkt,
        { jb with
          playing := true
          packets
          nextSeq := pkt.sequenceNumber + 1
          stats := { jb.stats with packetsPlayed := jb.stats.packetsPlayed + 1 } })

variable {jb : JitterBuffer π} {pkt p : JitterPacket π}

@[simp] theorem packets_new (depth : Int) : (new depth : JitterBuffer π).packets = [] := rfl

theorem mem_insertInOrder {packets : List (JitterPacket π)} :
    p ∈ insertInOrder pkt packets ↔ p = pkt ∨ p ∈ packets := by
  induction packets with
  | nil => rw [insertInOrder, List.mem_singleton, or_iff_left List.not_mem_nil]
  | cons existing packets ih =>
    rw [insertInOrder]
    split
    · rw [List.mem_cons, ih, List.mem_cons, or_left_comm]
    · rw [List.mem_cons]

/-- A packet that waits was pushed. -/
theorem mem_push (h : p ∈ (jb.push pkt).packets) : p = pkt ∨ p ∈ jb.packets := by
  rw [push] at h
  dsimp only at h
  split at h
  · exact .inr h
  · split at h
    · exact .inr h
    · exact mem_insertInOrder.mp h

/-- A packet that is popped was the first one. -/
theorem pop_packets (jb : JitterBuffer π) :
    jb.packets = jb.pop.1.toList ++ jb.pop.2.packets := by
  rw [pop]
  split
  · rfl
  · next h =>
    split
    · rfl
    · exact h

end JitterBuffer

end Jitter

end Svarla.MediaBridge
