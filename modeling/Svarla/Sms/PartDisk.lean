import Mathlib
import Svarla.Buffer.Persistent
import Svarla.Sms.Reassembly

/-!
# The part store on disk

`cmd/modem-gateway/run.go` keeps the parts in a persistent buffer keyed by `PartKey`, and goes
without a store where the buffer cannot be opened. A `PartDisk` is that buffer with its file and the
outcomes of the file operations still to come, so that a run places every fault.

Whatever fails, the store gives back only parts that were pushed to it (`honest_diskStore`), which
is what `addPart_sound` needs of it.
-/

namespace Svarla.Sms

open Svarla.Lib Svarla.Buffer

/-- The outcomes of one operation's file operations. -/
structure Outcomes where
  append : AppendCalls
  rewrite : RewriteCalls
  load : LoadCalls

/-- Nothing fails. -/
def Outcomes.done : Outcomes := ⟨.done, .done, .done⟩

/-- The part store: its buffer if it could be opened, the file, and the outcomes to come. -/
structure PartDisk where
  buffer : Option (PersistentBuffer StoredPart)
  file : File StoredPart
  outcomes : Nat → Outcomes

namespace PartDisk

variable (marshal : StoredPart → Except String Nat)

/-- The outcomes after one operation. -/
def later (outcomes : Nat → Outcomes) : Nat → Outcomes := fun n => outcomes (n + 1)

/-- `Push` of the buffer. -/
def push (s : PartDisk) (sp : StoredPart) : PartDisk × Option String :=
  match s.buffer with
  | none => (s, none)
  | some b =>
    let (b, f, err) := b.push marshal (s.outcomes 0).append (s.outcomes 0).rewrite s.file sp
    ({ buffer := some b, file := f, outcomes := later s.outcomes }, err)

/-- `Remove` of the buffer. -/
def remove (s : PartDisk) (key : String) : PartDisk × Option String :=
  match s.buffer with
  | none => (s, none)
  | some b =>
    let (b, f, err) := b.remove marshal (s.outcomes 0).rewrite s.file key
    ({ buffer := some b, file := f, outcomes := later s.outcomes }, err)

/-- `Snapshot` of the buffer. -/
def snapshot (s : PartDisk) : List StoredPart :=
  match s.buffer with
  | none => []
  | some b => b.snapshot

/-- The buffer opened again on its file. -/
def reopen (s : PartDisk) : PartDisk :=
  { buffer := (PersistentBuffer.newKeyed defaultCapacity (some StoredPart.partKey)
      (s.outcomes 0).load s.file).toOption
    file := s.file
    outcomes := later s.outcomes }

/-- A store whose file does not exist yet. -/
def fresh (outcomes : Nat → Outcomes) : PartDisk :=
  { buffer := some (Buffer.fresh defaultCapacity defaultCapacity_pos (some StoredPart.partKey)).1
    file := ⟨[], none⟩, outcomes }

/-- The parts in memory or in the file. -/
def Holds (s : PartDisk) (sp : StoredPart) : Prop :=
  (∃ b ∈ s.buffer, sp ∈ b.items) ∨ sp ∈ s.file.items

end PartDisk

/-- The part store of the gateway. -/
def diskStore (marshal : StoredPart → Except String Nat) : PartStore PartDisk where
  push := PartDisk.push marshal
  remove := PartDisk.remove marshal
  snapshot := PartDisk.snapshot
  configured := fun s => s.buffer.isSome

/-- **The gateway's store is honest**, whatever file operations fail. -/
theorem honest_diskStore (marshal : StoredPart → Except String Nat) :
    HonestStore (diskStore marshal) PartDisk.reopen PartDisk.Holds where
  snapshot s sp hsp := by
    simp only [diskStore, PartDisk.snapshot] at hsp
    split at hsp
    · cases hsp
    · next b hb => exact .inl ⟨b, hb, hsp⟩
  push s p sp hsp := by
    simp only [diskStore, PartDisk.push] at hsp
    split at hsp
    · exact .inr hsp
    · next b hb =>
      have hor := PersistentBuffer.mem_push (hsp.imp_left fun ⟨b', hb', hmem⟩ => by
        cases hb'; exact hmem)
      exact hor.imp_right fun h => h.imp_left fun hmem => ⟨b, hb, hmem⟩
  remove s key sp hsp := by
    simp only [diskStore, PartDisk.remove] at hsp
    split at hsp
    · exact hsp
    · next b hb =>
      have hor := PersistentBuffer.mem_remove (hsp.imp_left fun ⟨b', hb', hmem⟩ => by
        cases hb'; exact hmem)
      exact hor.imp_left fun hmem => ⟨b, hb, hmem⟩
  reopen s sp hsp := by
    rcases hsp with ⟨b, hb, hmem⟩ | hmem
    · right
      simp only [PartDisk.reopen] at hb
      cases hopen : PersistentBuffer.newKeyed defaultCapacity (some StoredPart.partKey)
          (s.outcomes 0).load s.file with
      | error err => rw [hopen] at hb; cases hb
      | ok b' =>
        rw [hopen] at hb
        cases hb
        exact PersistentBuffer.mem_newKeyed hopen hmem
    · exact .inr hmem

/-- **Reassembly is sound over whole runs of the gateway**, whatever file operations of the part
store fail: a report of a call that meets the condition, after a run whose events all did, is the
text of one message all of whose parts were received. -/
theorem addPart_sound (marshal : StoredPart → Except String Nat) (outcomes : Nat → Outcomes)
    (staleTimeout now : Int) {es : List ReassemblyEvent} {w : World PartDisk}
    (hes : Guarded (reassemblyStep (diskStore marshal) PartDisk.reopen)
      (SameTotal (diskStore marshal) PartDisk.reopen)
      (World.start (diskStore marshal) staleTimeout (PartDisk.fresh outcomes) now) es)
    (hrun : exec (reassemblyStep (diskStore marshal) PartDisk.reopen)
      (World.start (diskStore marshal) staleTimeout (PartDisk.fresh outcomes) now) es = some w)
    (c : PartCall) (cleanupNow createdNow : Int)
    (hc : SameTotal (diskStore marshal) PartDisk.reopen w (.addPart c cleanupNow createdNow))
    {r : Reassembler} {s : PartDisk} {text : String}
    (hreport : addPart (diskStore marshal) w.reassembler w.store c cleanupNow createdNow =
      (r, s, true, text)) :
    Sound (c :: w.received) c.sender c.refNum c.totalParts text := by
  refine exec_addPart_sound (honest_diskStore marshal) (fun sp hsp => ?_) hes hrun hc hreport
  rcases hsp with ⟨b, hb, hmem⟩ | hmem
  · cases hb
    cases hmem
  · cases hmem

/-- A store of parts of a hundred bytes each, where nothing fails. -/
def calmStart : World PartDisk :=
  World.start (diskStore fun _ => .ok 100) 0 (PartDisk.fresh fun _ => .done) 0

/-- The two parts of a message, the second first. -/
theorem addPart_sound_twoParts :
    ∃ w r s, exec (reassemblyStep (diskStore fun _ => .ok 100) PartDisk.reopen) calmStart
        [.addPart ⟨"+1", 5, 2, 2, "B"⟩ 0 0] = some w ∧
      addPart (diskStore fun _ => .ok 100) w.reassembler w.store ⟨"+1", 5, 1, 2, "A"⟩ 1 1 =
        (r, s, true, "AB") ∧
      Sound (⟨"+1", 5, 1, 2, "A"⟩ :: w.received) "+1" 5 2 "AB" := by
  have hes : Guarded (reassemblyStep (diskStore fun _ => .ok 100) PartDisk.reopen)
      (SameTotal (diskStore fun _ => .ok 100) PartDisk.reopen) calmStart
      [.addPart ⟨"+1", 5, 2, 2, "B"⟩ 0 0] :=
    ⟨fun _ pm hpm => (nomatch hpm), fun _ _ => trivial⟩
  refine ⟨_, _, _, rfl, rfl, ?_⟩
  refine addPart_sound (fun _ => .ok 100) (fun _ => .done) 0 0 hes rfl ⟨"+1", 5, 1, 2, "A"⟩ 1 1 ?_
    rfl
  intro _ pm hpm _
  cases hpm
  rfl

/-- **A reference in use with another number of parts.** The first of two parts and the third of
three are counted as the two parts of one message, and the text leaves the third out. -/
theorem addPart_mixes_totals :
    ∃ w r s, exec (reassemblyStep (diskStore fun _ => .ok 100) PartDisk.reopen) calmStart
        [.addPart ⟨"+1", 5, 1, 2, "A"⟩ 0 0] = some w ∧
      addPart (diskStore fun _ => .ok 100) w.reassembler w.store ⟨"+1", 5, 3, 3, "C"⟩ 0 0 =
        (r, s, true, "A") ∧
      ∀ totalParts, ¬ Sound (⟨"+1", 5, 3, 3, "C"⟩ :: w.received) "+1" 5 totalParts "A" := by
  refine ⟨_, _, _, rfl, rfl, ?_⟩
  show ∀ totalParts, ¬ Sound [⟨"+1", 5, 3, 3, "C"⟩, ⟨"+1", 5, 1, 2, "A"⟩] "+1" 5 totalParts "A"
  rintro totalParts ⟨bodies, hlen, htext, hreceived⟩
  cases bodies with
  | nil => exact absurd htext (by decide)
  | cons body rest =>
    have hfirst := hreceived 0 (by simp)
    simp only [List.mem_cons, PartCall.mk.injEq, List.not_mem_nil, or_false] at hfirst
    -- the first part is one of two, and the second of two was never received
    have hsecond := hreceived 1 (by simp only [List.length_cons] at hlen ⊢; omega)
    simp only [List.mem_cons, PartCall.mk.injEq, List.not_mem_nil, or_false] at hsecond
    omega

end Svarla.Sms
