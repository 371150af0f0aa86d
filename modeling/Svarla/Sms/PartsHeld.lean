import Svarla.Buffer.Held
import Svarla.Sms.Backed
import Svarla.Sms.PartDisk

/-!
# What reassembly does to the parts on disk

The part store with any file faults: every operation of the reassembler leaves a store that can be
read (`PartDisk.Good`), and takes no part from it but those whose keys it removes and those a push
does not spare. The pending messages keep distinct part numbers whatever totals are mixed
(`Filed`), so a complete message has each of its parts in place.
-/

namespace Svarla.Sms

open Svarla.Lib Svarla.Buffer

/-! ## The store -/

namespace PartDisk

/-- The store has an open buffer, keyed by `PartKey`, over a file that can be read. -/
structure Opened (marshal : StoredPart → Except String Nat) (s : PartDisk)
    (b : PersistentBuffer StoredPart) : Prop where
  buffer_eq : s.buffer = some b
  keyFn_eq : b.keyFn = some StoredPart.partKey
  capacity_eq : b.capacity = defaultCapacity
  readable : Readable marshal b s.file

/-- The store is open. -/
def Good (marshal : StoredPart → Except String Nat) (s : PartDisk) : Prop :=
  ∃ b, s.Opened marshal b

/-- The part is in memory and on disk. -/
def HoldsPart (s : PartDisk) (sp : StoredPart) : Prop := ∃ b ∈ s.buffer, Held b s.file sp

variable {marshal : StoredPart → Except String Nat} {s : PartDisk}

/-- A part that is held can be loaded. -/
theorem HoldsPart.onFile {sp : StoredPart} (h : s.HoldsPart sp) (hs : s.Good marshal) :
    OnFile defaultCapacity s.file sp := by
  obtain ⟨b, hb, hheld⟩ := h
  obtain ⟨b', hopen⟩ := hs
  rw [hopen.buffer_eq] at hb
  cases hb
  exact hopen.capacity_eq ▸ hheld.onFile hopen.readable

/-- One removal. -/
theorem Good.remove (h : s.Good marshal) (key : String) :
    ((diskStore marshal).remove s key).1.Good marshal ∧
      ∀ sp : StoredPart, sp.partKey ≠ key → s.HoldsPart sp →
        ((diskStore marshal).remove s key).1.HoldsPart sp := by
  obtain ⟨b, hb, hkey, hcapacity, hread⟩ := h
  simp only [diskStore, PartDisk.remove, hb]
  refine ⟨⟨_, rfl, (b.remove_keyFn marshal _ _ _).trans hkey,
    (b.remove_capacity marshal _ _ _).trans hcapacity,
    (hread.remove (x := ⟨"", 0, 0, 0, "", 0⟩) _ _).1⟩, ?_⟩
  rintro sp hne ⟨b', hb', hheld⟩
  rw [hb] at hb'
  cases hb'
  refine ⟨_, rfl, (hread.remove _ _).2 (fun keyOf hk => ?_) hheld⟩
  rw [hkey] at hk
  cases hk
  exact hne

/-- Several removals. -/
theorem Good.removes (keys : List String) (h : s.Good marshal) :
    (keys.foldl (fun s key => ((diskStore marshal).remove s key).1) s).Good marshal ∧
      ∀ sp : StoredPart, sp.partKey ∉ keys → s.HoldsPart sp →
        (keys.foldl (fun s key => ((diskStore marshal).remove s key).1) s).HoldsPart sp := by
  induction keys generalizing s with
  | nil => exact ⟨h, fun _ _ hheld => hheld⟩
  | cons key keys ih =>
    obtain ⟨hgood, hkeep⟩ := h.remove key
    obtain ⟨hgood', hkeep'⟩ := ih hgood
    refine ⟨hgood', fun sp hsp hheld => ?_⟩
    rw [List.mem_cons, not_or] at hsp
    exact hkeep' sp hsp.2 (hkeep sp hsp.1 hheld)

/-- Dropping messages takes their parts only. -/
theorem Good.dropMessages (keys : List ConcatKey) (r : Reassembler) (h : s.Good marshal) :
    (keys.foldl (dropMessage (diskStore marshal)) (r, s)).2.Good marshal ∧
      ∀ sp : StoredPart, (∀ k ∈ keys, ∀ pm, r.pending.lookup k = some pm →
        sp.partKey ∉ pm.partKeys k.sender) → s.HoldsPart sp →
        (keys.foldl (dropMessage (diskStore marshal)) (r, s)).2.HoldsPart sp := by
  induction keys generalizing r s with
  | nil => exact ⟨h, fun _ _ hheld => hheld⟩
  | cons key keys ih =>
    have hone : (dropMessage (diskStore marshal) (r, s) key).2.Good marshal ∧
        ∀ sp : StoredPart, (∀ pm, r.pending.lookup key = some pm →
          sp.partKey ∉ pm.partKeys key.sender) → s.HoldsPart sp →
          (dropMessage (diskStore marshal) (r, s) key).2.HoldsPart sp := by
      unfold dropMessage
      split
      · exact ⟨h, fun _ _ hheld => hheld⟩
      · next pm hlookup =>
        obtain ⟨hgood, hkeep⟩ := h.removes (pm.partKeys key.sender)
        exact ⟨hgood, fun sp hsp hheld => hkeep sp (hsp pm hlookup) hheld⟩
    obtain ⟨hgood, hkeep⟩ := ih (dropMessage (diskStore marshal) (r, s) key).1 hone.1
    refine ⟨hgood, fun sp hsp hheld => hkeep sp (fun k hk pm hlookup => ?_)
      (hone.2 sp (hsp key List.mem_cons_self) hheld)⟩
    rw [lookup_dropMessage] at hlookup
    split at hlookup
    · cases hlookup
    · exact hsp k (List.mem_cons_of_mem _ hk) pm hlookup

/-- A push, with the outcomes it meets. -/
theorem Good.push {Relied : StoredPart → Prop} {b : PersistentBuffer StoredPart}
    (h : s.Opened marshal b) {item : StoredPart}
    (hspares : PushSpares marshal Relied b s.file (s.outcomes 0).append item) :
    ((diskStore marshal).push s item).1.Good marshal ∧
      (∀ sp, Relied sp → s.HoldsPart sp → ((diskStore marshal).push s item).1.HoldsPart sp) ∧
      (¬ KeyedQueue.HasKeyOf b.keyFn b.items item →
        PushStores b s.file (s.outcomes 0).append (s.outcomes 0).rewrite →
        ((diskStore marshal).push s item).1.HoldsPart item) ∧
      (KeyedQueue.HasKeyOf b.keyFn b.items item → ∀ sp, s.HoldsPart sp →
        ((diskStore marshal).push s item).1.HoldsPart sp) := by
  obtain ⟨hb, hkey, hcapacity, hread⟩ := h
  simp only [diskStore, PartDisk.push, hb]
  refine ⟨⟨_, rfl, (b.push_keyFn marshal _ _ _ _).trans hkey,
    (b.push_capacity marshal _ _ _ _).trans hcapacity,
    hread.push hspares _⟩, ?_, fun hnew hstores => ?_, ?_⟩
  · rintro sp hsp ⟨b', hb', hheld⟩
    rw [hb] at hb'
    cases hb'
    exact ⟨_, rfl, hheld.push hread hspares hsp _⟩
  · obtain ⟨hnil, hwhole⟩ := hstores.nil hread (hspares.resolve_left hnew).1
    exact ⟨_, rfl, held_of_push hnew hnil hwhole⟩
  · rintro hdup sp ⟨b', hb', hheld⟩
    rw [hb] at hb'
    cases hb'
    refine ⟨_, rfl, ?_⟩
    rw [PersistentBuffer.push, if_pos hdup]
    exact hheld

/-- A new reassembler leaves a store that is open. -/
theorem Good.newReassembler (h : s.Good marshal) (staleTimeout now : Int) :
    (newReassembler (diskStore marshal) staleTimeout s now).2.Good marshal := by
  have hstore := rehydrate_store (P := diskStore marshal)
    (if staleTimeout = 0 then defaultStaleTimeout else staleTimeout) now
    ((diskStore marshal).snapshot s) ∅ s
  simp only [Sms.newReassembler]
  rw [hstore]
  exact (h.removes _).1

end PartDisk

/-! ## The pending messages -/

/-- Every pending message is filed under its own reference, and its parts have distinct numbers. -/
def Filed (pending : Pending) : Prop :=
  ∀ k pm, pending.lookup k = some pm → pm.refNum = k.refNum ∧ (pm.parts.map SmsPart.seqNum).Nodup

/-- Fewer messages. -/
theorem Filed.dropMessages {S : Type} {P : PartStore S} {r : Reassembler} (h : Filed r.pending)
    (keys : List ConcatKey) (s : S) : Filed (keys.foldl (dropMessage P) (r, s)).1.pending := by
  intro k pm hk
  rw [lookup_foldl_dropMessage] at hk
  split at hk
  · cases hk
  · exact h k pm hk

/-- The message of a key, which is there or new. -/
theorem Filed.getD {pending : Pending} (h : Filed pending) (k : ConcatKey) {new : PendingMessage}
    (href : new.refNum = k.refNum) (hnew : new.parts = []) :
    ((pending.lookup k).getD new).refNum = k.refNum ∧
      (((pending.lookup k).getD new).parts.map SmsPart.seqNum).Nodup := by
  cases hlookup : pending.lookup k with
  | none => exact ⟨href, by simp [hnew]⟩
  | some pm => exact h k pm hlookup

/-- One more part of a message. -/
theorem Filed.insert {pending : Pending} (h : Filed pending) {k : ConcatKey} {pm : PendingMessage}
    (hpm : pm.refNum = k.refNum ∧ (pm.parts.map SmsPart.seqNum).Nodup) (p : SmsPart) :
    Filed (pending.insert k (pm.add p)) := by
  intro k' pm' hk'
  by_cases hkey : k' = k
  · subst hkey
    rw [AList.lookup_insert] at hk'
    cases hk'
    exact ⟨(PendingMessage.refNum_add pm p).trans hpm.1, PendingMessage.nodup_add hpm.2 p⟩
  · rw [AList.lookup_insert_ne hkey] at hk'
    exact h k' pm' hk'

/-- A new reassembler. -/
theorem Filed.newReassembler {S : Type} {P : PartStore S} (staleTimeout : Int) (s : S)
    (now : Int) : Filed (newReassembler P staleTimeout s now).1.pending := by
  have hfold : ∀ (timeout : Int) (parts : List StoredPart) (st : Pending × S),
      Filed st.1 → Filed (parts.foldl (rehydratePart P timeout now) st).1 := by
    intro timeout parts
    induction parts with
    | nil => exact fun st hst => hst
    | cons sp rest ih =>
      intro st hst
      rw [List.foldl_cons]
      refine ih _ ?_
      unfold rehydratePart
      split
      · exact hst
      · exact hst.insert (hst.getD sp.concatKey rfl rfl) _
  exact hfold _ _ _ fun k pm hk => by simp at hk

/-- **A part of a complete message is in its place**, whatever the other parts are. -/
theorem PendingMessage.ordered_of_mem {pm : PendingMessage}
    (hnodup : (pm.parts.map SmsPart.seqNum).Nodup) {seqNum totalParts : Nat} {body : String}
    (hp : ⟨seqNum, body⟩ ∈ pm.parts) (htotal : pm.totalParts = totalParts)
    (hrange : 1 ≤ seqNum ∧ seqNum ≤ totalParts) :
    pm.ordered.length = totalParts ∧ pm.ordered[seqNum - 1]? = some body := by
  refine ⟨by rw [length_ordered, htotal, Int.toNat_natCast], ?_⟩
  have hget := getElem?_ordered hnodup hp ⟨by dsimp only; omega, by dsimp only; omega⟩
  rwa [show ((seqNum : Int) - 1).toNat = seqNum - 1 by omega] at hget

end Svarla.Sms
