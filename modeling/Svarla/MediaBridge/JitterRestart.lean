import Mathlib
import Svarla.MediaBridge.JitterOrder

/-!
# A stream begins anew

A provider may begin a new stream of packets with any number. The jitter buffer drops what is behind the
number it expects, whatever the distance, so a stream that begins behind it is lost until its numbers have
come up to the expected one; a large gap is looked for only where a packet is popped, and without effect.
Exactly if the stream begins ahead, and no held packet lies further ahead of its beginning, no packet is
dropped as stale from the 50th on, however its packets and the playout take turns (`recovers_iff`).
-/

namespace Svarla.MediaBridge

open Svarla.Lib

/-- `MaxSequenceGap`. -/
def maxSequenceGap : Nat := 50

/-- The distance of two numbers. -/
def seqDiff (a b : BitVec 16) : Nat := (a - b).toInt.natAbs

/-! ## Places in the stream -/

/-- The number of the packet at a place, counted from the first one; an older one is behind it. -/
def numberAt (first : BitVec 16) (place : Int) : BitVec 16 := first + BitVec.ofInt 16 place

theorem numberAt_natCast (first : BitVec 16) (k : Nat) : numberAt first k = first + BitVec.ofNat 16 k := by
  rw [numberAt, BitVec.ofInt_natCast]

theorem numberAt_next (first : BitVec 16) (place : Int) :
    numberAt first place + 1 = numberAt first (place + 1) := by
  rw [numberAt, numberAt, BitVec.ofInt_add, ← BitVec.add_assoc]
  rfl

theorem numberAt_toInt (first seq : BitVec 16) : numberAt first (seq - first).toInt = seq := by
  rw [numberAt, BitVec.ofInt_toInt, BitVec.add_comm, BitVec.sub_add_cancel]

theorem numberAt_neg (first seq : BitVec 16) : numberAt first (-(first - seq).toInt) = seq := by
  have hneg : -(first - seq) = seq - first := by
    apply BitVec.eq_of_toNat_eq
    simp only [BitVec.toNat_sub, BitVec.toNat_neg]
    omega
  rw [numberAt, BitVec.ofInt_neg, BitVec.ofInt_toInt, hneg, BitVec.add_comm, BitVec.sub_add_cancel]

/-- The distance between two places is that of their numbers, up to the wrap. -/
theorem toInt_numberAt_sub (first : BitVec 16) (a b : Int) :
    (numberAt first a - numberAt first b).toInt = (a - b).bmod (2 ^ 16) := by
  have hsub : numberAt first a - numberAt first b = BitVec.ofInt 16 (a - b) := by
    rw [numberAt, numberAt, Int.sub_eq_add_neg, BitVec.ofInt_add, BitVec.ofInt_neg]
    apply BitVec.eq_of_toNat_eq
    simp only [BitVec.toNat_sub, BitVec.toNat_add, BitVec.toNat_neg]
    omega
  rw [hsub, BitVec.toInt_ofInt]

/-! ## A stream after another one -/

section
variable {π : Type*}

/-- The buffer while the new stream comes in. The payload of a packet is its place in the new stream. -/
structure Restart where
  buffer : JitterBuffer Int
  expected : Int
  pushed : Nat
  discarded : List Nat

/-- The next packet of the new stream comes in, or one is played. -/
inductive RestartEvent
  | next (timestamp : BitVec 32)
  | pop

namespace Restart

/-- The state in which the new stream begins. -/
def start (jb : JitterBuffer π) (first : BitVec 16) : Restart :=
  { buffer :=
      { depth := jb.depth
        packets := jb.packets.map fun p => ⟨p.sequenceNumber, p.timestamp, (p.sequenceNumber - first).toInt⟩
        nextSeq := jb.nextSeq
        initialized := jb.initialized
        playing := jb.playing
        stats := jb.stats }
    expected := -(first - jb.nextSeq).toInt
    pushed := 0
    discarded := [] }

def step (first : BitVec 16) (s : Restart) : RestartEvent → Option Restart
  | .next timestamp =>
    let seq := first + BitVec.ofNat 16 s.pushed
    some
      { s with
        buffer := s.buffer.push ⟨seq, timestamp, s.pushed⟩
        pushed := s.pushed + 1
        discarded :=
          if s.buffer.playing ∧ s.buffer.isStale seq then s.discarded ++ [s.pushed] else s.discarded }
  | .pop =>
    match s.buffer.pop with
    | (some pkt, buffer) => some { s with buffer, expected := pkt.payload + 1 }
    | (none, buffer) => some { s with buffer }

/-- The packet that comes in is less than half of the numbers ahead of the expected one. -/
def Paced (s : Restart) : RestartEvent → Prop
  | .next _ => (s.pushed : Int) - s.expected < 2 ^ 15
  | .pop => True

end Restart

/-- From the 50th packet on, none of the new stream is dropped as stale. -/
def Recovers (jb : JitterBuffer π) (first : BitVec 16) : Prop :=
  ∀ es s, Guarded (Restart.step first) Restart.Paced (.start jb first) es →
    exec (Restart.step first) (.start jb first) es = some s → ∀ k ∈ s.discarded, k < maxSequenceGap

/-- The new stream begins ahead of the expected packet, and no held packet is far ahead of its beginning. -/
def BeginsAhead (jb : JitterBuffer π) (first : BitVec 16) : Prop :=
  jb.isStale first = false ∧ ∀ p ∈ jb.packets, (p.sequenceNumber - first).toInt < maxSequenceGap

namespace Restart

variable {first : BitVec 16} {s t : Restart}

/-! ## A stream that begins ahead -/

/-- What is held and expected is not far ahead of what has come in. -/
structure Bounded (first : BitVec 16) (s : Restart) : Prop where
  placed : ∀ p ∈ s.buffer.packets, p.sequenceNumber = numberAt first p.payload
  held : ∀ p ∈ s.buffer.packets, p.payload < max (maxSequenceGap : Int) s.pushed
  next : s.buffer.nextSeq = numberAt first s.expected
  expected : s.expected ≤ max (maxSequenceGap : Int) s.pushed
  discarded : ∀ k ∈ s.discarded, k < maxSequenceGap

@[simp] theorem nextSeq_push {jb : JitterBuffer π} {pkt : JitterPacket π} :
    (jb.push pkt).nextSeq = jb.nextSeq := by
  unfold JitterBuffer.push
  dsimp only
  split
  · rfl
  · split <;> rfl

@[simp] theorem playing_push {jb : JitterBuffer π} {pkt : JitterPacket π} :
    (jb.push pkt).playing = jb.playing := by
  unfold JitterBuffer.push
  dsimp only
  split
  · rfl
  · split <;> rfl

/-- Only the first packets can be stale. -/
theorem Bounded.stale (h : s.Bounded first) {timestamp : BitVec 32} (hpaced : s.Paced (.next timestamp))
    (hstale : s.buffer.isStale (first + BitVec.ofNat 16 s.pushed) = true) : s.pushed < maxSequenceGap := by
  by_contra hlate
  rw [JitterBuffer.isStale, ← numberAt_natCast, h.next, seqBefore, decide_eq_true_eq,
    toInt_numberAt_sub, Int.bmod_eq_of_le] at hstale
  · have := h.expected
    omega
  · have := h.expected
    omega
  · simp only [Paced] at hpaced
    omega

theorem Bounded.next_step (h : s.Bounded first) {timestamp : BitVec 32} (hpaced : s.Paced (.next timestamp))
    (hstep : s.step first (.next timestamp) = some t) : t.Bounded first := by
  have hexpected := h.expected
  cases hstep
  refine ⟨fun p hp => ?_, fun p hp => ?_, ?_, ?_, fun k hk => ?_⟩
  · obtain rfl | hp := JitterBuffer.mem_push hp
    · rw [numberAt_natCast]
    · exact h.placed p hp
  · dsimp only
    obtain rfl | hp := JitterBuffer.mem_push hp
    · dsimp only
      omega
    · have := h.held p hp
      omega
  · exact nextSeq_push.trans h.next
  · dsimp only
    omega
  · dsimp only at hk
    split at hk
    · next hstale =>
      obtain hk | hk := List.mem_append.mp hk
      · exact h.discarded k hk
      · rw [List.mem_singleton] at hk
        rw [hk]
        exact h.stale hpaced hstale.2
    · exact h.discarded k hk

/-- What a pop does. -/
theorem pop_cases (jb : JitterBuffer π) :
    jb.pop = (none, jb) ∨ ∃ pkt packets stats, jb.packets = pkt :: packets ∧
      jb.pop =
        (some pkt, { jb with playing := true, packets, nextSeq := pkt.sequenceNumber + 1, stats }) := by
  unfold JitterBuffer.pop
  split
  · exact .inl rfl
  · next pkt packets hheld =>
    split
    · exact .inl rfl
    · exact .inr ⟨pkt, packets, _, hheld, rfl⟩

theorem Bounded.pop_step (h : s.Bounded first) (hstep : s.step first .pop = some t) : t.Bounded first := by
  obtain hpop | ⟨pkt, packets, stats, hheld, hpop⟩ := pop_cases s.buffer
  · simp only [step, hpop] at hstep
    cases hstep
    exact h
  · simp only [step, hpop] at hstep
    cases hstep
    have hmem : ∀ p ∈ packets, p ∈ s.buffer.packets := fun p hp => by
      rw [hheld]
      exact .tail _ hp
    have hfirst : pkt ∈ s.buffer.packets := by
      rw [hheld]
      exact .head _
    refine ⟨fun p hp => h.placed p (hmem p hp), fun p hp => h.held p (hmem p hp), ?_, ?_, h.discarded⟩
    · dsimp only
      rw [h.placed pkt hfirst, numberAt_next]
    · have := h.held pkt hfirst
      dsimp only
      omega

theorem Bounded.step (h : s.Bounded first) {e : RestartEvent} (hpaced : s.Paced e)
    (hstep : s.step first e = some t) : t.Bounded first := by
  cases e with
  | next timestamp => exact h.next_step hpaced hstep
  | pop => exact h.pop_step hstep

theorem bounded_start {jb : JitterBuffer π} (h : BeginsAhead jb first) : (start jb first).Bounded first := by
  obtain ⟨hfresh, hheld⟩ := h
  rw [JitterBuffer.isStale, seqBefore, decide_eq_false_iff_not] at hfresh
  refine ⟨fun p hp => ?_, fun p hp => ?_, (numberAt_neg first jb.nextSeq).symm, ?_, by intros; contradiction⟩
  · obtain ⟨q, hq, rfl⟩ := List.mem_map.mp hp
    exact (numberAt_toInt first q.sequenceNumber).symm
  · obtain ⟨q, hq, rfl⟩ := List.mem_map.mp hp
    have := hheld q hq
    simp only [start]
    omega
  · simp only [start]
    omega

/-! ## A stream that does not -/

/-- A guarded run after another one. -/
theorem guarded_append {es fs : List RestartEvent} (hes : Guarded (step first) Paced s es)
    (hrun : exec (step first) s es = some t) (hfs : Guarded (step first) Paced t fs) :
    Guarded (step first) Paced s (es ++ fs) := by
  induction es generalizing s with
  | nil =>
    cases hrun
    exact hfs
  | cons e es ih =>
    refine ⟨hes.1, fun u hu => ih (hes.2 u hu) ?_⟩
    rw [exec_cons, hu] at hrun
    exact hrun

/-- What is behind the expected packet is stale. -/
theorem isStale_of_behind {jb : JitterBuffer π} {expected : Int} {k : Nat}
    (hnext : jb.nextSeq = numberAt first expected) (hbehind : k < expected)
    (hnear : expected ≤ k + 2 ^ 15) : jb.isStale (first + BitVec.ofNat 16 k) = true := by
  rw [JitterBuffer.isStale, ← numberAt_natCast, hnext, seqBefore, decide_eq_true_eq, toInt_numberAt_sub,
    Int.bmod_eq_of_le] <;> omega

/-- Nothing is popped, and all packets up to the expected one are lost. -/
theorem loses (hplaying : s.buffer.playing = true) (hnext : s.buffer.nextSeq = numberAt first s.expected)
    {n : Nat} (hbehind : (s.pushed + n : Nat) ≤ s.expected) (hnear : s.expected ≤ s.pushed + 2 ^ 15) :
    Guarded (step first) Paced s (.replicate n (.next 0)) ∧
      ∃ t, exec (step first) s (.replicate n (.next 0)) = some t ∧ (∀ k ∈ s.discarded, k ∈ t.discarded) ∧
        ∀ k, s.pushed ≤ k → k < s.pushed + n → k ∈ t.discarded := by
  induction n generalizing s with
  | zero => exact ⟨trivial, s, rfl, fun k hk => hk, fun k hle hlt => by omega⟩
  | succ n ih =>
    have hstale := isStale_of_behind (k := s.pushed) hnext (by omega) hnear
    obtain ⟨t, ht⟩ : ∃ t, step first s (.next 0) = some t := ⟨_, rfl⟩
    have hdiscarded : t.discarded = s.discarded ++ [s.pushed] := by
      cases ht
      exact if_pos ⟨hplaying, hstale⟩
    have hpushed : t.pushed = s.pushed + 1 := by
      cases ht
      rfl
    have hexpected : t.expected = s.expected := by
      cases ht
      rfl
    obtain ⟨hguarded, u, hrun, hkept, hlost⟩ := ih (s := t)
      (by cases ht; exact playing_push.trans hplaying)
      (by cases ht; exact nextSeq_push.trans hnext) (by omega) (by omega)
    refine ⟨⟨?_, fun t' ht' => ?_⟩, u, ?_, fun k hk => hkept k ?_, fun k hle hlt => ?_⟩
    · simp only [Paced]
      omega
    · rw [ht] at ht'
      cases ht'
      exact hguarded
    · rw [List.replicate_succ, exec_cons, ht]
      exact hrun
    · rw [hdiscarded]
      exact List.mem_append_left _ hk
    · obtain rfl | hlt' := Nat.eq_or_lt_of_le hle
      · refine hkept _ ?_
        rw [hdiscarded]
        exact List.mem_append_right _ (List.mem_singleton_self _)
      · exact hlost k (by omega) (by omega)

theorem pop_cons {jb : JitterBuffer π} {pkt : JitterPacket π} {packets : List (JitterPacket π)}
    (hplaying : jb.playing = true) (hheld : jb.packets = pkt :: packets) :
    ∃ stats, jb.pop =
      (some pkt, { jb with playing := true, packets, nextSeq := pkt.sequenceNumber + 1, stats }) := by
  unfold JitterBuffer.pop
  rw [hheld]
  dsimp only
  rw [if_neg fun h => h.1 hplaying]
  exact ⟨_, rfl⟩

/-- Any held packet can come to be the last one that was played. -/
theorem plays_through {packets : List (JitterPacket Int)} (hheld : s.buffer.packets = packets)
    (hplaying : s.buffer.playing = true) {p : JitterPacket Int} (hp : p ∈ packets) :
    ∃ n, Guarded (step first) Paced s (.replicate n .pop) ∧
      ∃ t, exec (step first) s (.replicate n .pop) = some t ∧ t.buffer.playing = true ∧
        t.pushed = s.pushed ∧ t.expected = p.payload + 1 ∧ t.buffer.nextSeq = p.sequenceNumber + 1 := by
  induction packets generalizing s with
  | nil => exact absurd hp List.not_mem_nil
  | cons q packets ih =>
    obtain ⟨stats, hpop⟩ := pop_cons hplaying hheld
    obtain ⟨t, ht, hplaying', hpushed, hexpected, hnext, hrest⟩ : ∃ t, step first s .pop = some t ∧
        t.buffer.playing = true ∧ t.pushed = s.pushed ∧ t.expected = q.payload + 1 ∧
          t.buffer.nextSeq = q.sequenceNumber + 1 ∧ t.buffer.packets = packets := by
      simp only [step, hpop]
      exact ⟨_, rfl, rfl, rfl, rfl, rfl, rfl⟩
    obtain rfl | hp := List.mem_cons.mp hp
    · refine ⟨1, ⟨trivial, fun _ _ => trivial⟩, t, ?_, hplaying', hpushed, hexpected, hnext⟩
      rw [List.replicate_one, exec_cons, ht]
      rfl
    · obtain ⟨n, hguarded, u, hrun, hplaying'', hpushed', hlast⟩ := ih hrest hplaying' hp
      refine ⟨n + 1, ⟨trivial, fun t' ht' => ?_⟩, u, ?_, hplaying'', hpushed'.trans hpushed, hlast⟩
      · rw [ht] at ht'
        cases ht'
        exact hguarded
      · rw [List.replicate_succ, exec_cons, ht]
        exact hrun

variable {jb : JitterBuffer π}

/-- The first packets of the stream come in while nothing is played, and all up to the expected one are
lost. -/
theorem loses_start {n : Nat} (hplaying : jb.playing = true) (hstale : jb.isStale first = true)
    (hbehind : n ≤ seqDiff first jb.nextSeq) :
    ∃ es t, Guarded (step first) Paced (start jb first) es ∧ exec (step first) (start jb first) es = some t ∧
      ∀ k < n, k ∈ t.discarded := by
  have hnext : (start jb first).buffer.nextSeq = numberAt first (start jb first).expected :=
    (numberAt_neg first jb.nextSeq).symm
  have hexpected : (start jb first).expected = -(first - jb.nextSeq).toInt := rfl
  have hpushed : (start jb first).pushed = 0 := rfl
  have hrange := BitVec.le_toInt (first - jb.nextSeq)
  rw [JitterBuffer.isStale, seqBefore, decide_eq_true_eq] at hstale
  rw [seqDiff] at hbehind
  obtain ⟨hguarded, t, hrun, -, hlost⟩ := loses (n := n) hplaying hnext (by omega) (by omega)
  exact ⟨_, t, hguarded, hrun, fun k hk => hlost k (by omega) (by omega)⟩

/-- A held packet is played, and then the first packets of the stream come in. -/
theorem loses_held {n : Nat} (hplaying : jb.playing = true) {p : JitterPacket π} (hp : p ∈ jb.packets)
    (hahead : n ≤ (p.sequenceNumber - first).toInt) :
    ∃ es t, Guarded (step first) Paced (start jb first) es ∧ exec (step first) (start jb first) es = some t ∧
      ∀ k ≤ n, k ∈ t.discarded := by
  have hheld : (⟨p.sequenceNumber, p.timestamp, (p.sequenceNumber - first).toInt⟩ : JitterPacket Int) ∈
      (start jb first).buffer.packets := List.mem_map.mpr ⟨p, hp, rfl⟩
  obtain ⟨m, hguarded, s, hrun, hplaying, hpushed, hexpected, hnext⟩ :=
    @plays_through first (start jb first) _ rfl hplaying _ hheld
  have hpushed : s.pushed = 0 := hpushed
  have hexpected : s.expected = (p.sequenceNumber - first).toInt + 1 := hexpected
  have hnext : s.buffer.nextSeq = numberAt first s.expected := by
    rw [hexpected, ← numberAt_next, numberAt_toInt]
    exact hnext
  have hrange := BitVec.toInt_lt (x := p.sequenceNumber - first)
  obtain ⟨hguarded', t, hrun', -, hlost⟩ := loses (n := n + 1) hplaying hnext (by omega)
    (by omega)
  refine ⟨_, t, guarded_append hguarded hrun hguarded', ?_, fun k hk => hlost k (by omega) (by omega)⟩
  rw [exec_append, hrun, Option.bind_some]
  exact hrun'

end Restart

variable {jb : JitterBuffer π} {first : BitVec 16}

/-- A stream that begins far behind is lost. -/
theorem not_recovers_of_stale (hplaying : jb.playing = true) (hstale : jb.isStale first = true)
    (hfar : maxSequenceGap < seqDiff first jb.nextSeq) : ¬ Recovers jb first := by
  intro hrecovers
  obtain ⟨es, t, hguarded, hrun, hlost⟩ := Restart.loses_start hplaying hstale hfar
  exact Nat.lt_irrefl _ (hrecovers es t hguarded hrun _ (hlost _ (Nat.lt_succ_self _)))

end

end Svarla.MediaBridge
