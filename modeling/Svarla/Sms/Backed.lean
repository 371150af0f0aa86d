import Svarla.Lib.KeyedQueue
import Svarla.Lib.Separated
import Svarla.Sms.Reassembly

/-!
# The part store backs the pending messages

Where no file operation fails, the part store is a bounded keyed queue (`QueueStore`), and every part
in it belongs to a pending message (`Backed`). Dropping messages, adding a part and starting again
from the store keep it so. A new reassembler is determined by the store (`lookup_rehydrate`), and
has every message again whose parts are all stored (`Kept.rehydrate`).
-/

namespace Svarla.Sms

open Svarla.Lib

/-! ## Part keys -/

/-- The characters of a part key, field by field. -/
theorem StoredPart.toList_partKey (p : StoredPart) : p.partKey.toList =
    ((p.sender.toList ++ '|' :: p.refNum.repr.toList) ++ '|' :: p.seqNum.repr.toList) ++
      '/' :: p.totalParts.repr.toList := by
  have hnumber : ∀ n : Int, toString n = n.repr := fun _ => rfl
  have htext : ∀ s : String, toString s = s := fun _ => rfl
  simp [StoredPart.partKey, String.toList_append, hnumber, htext]

/-- **A part key identifies a part of a message**, whatever characters the sender contains. -/
theorem StoredPart.partKey_inj {p q : StoredPart} (h : p.partKey = q.partKey) :
    p.concatKey = q.concatKey ∧ p.seqNum = q.seqNum ∧ p.totalParts = q.totalParts := by
  have hlist := congrArg String.toList h
  rw [toList_partKey, toList_partKey] at hlist
  have hslash := Separated.notMem_repr '/' (by decide) (by decide)
  have hbar := Separated.notMem_repr '|' (by decide) (by decide)
  obtain ⟨hfront, htotal⟩ := Separated.append_cons_inj_right (hslash _) (hslash _) hlist
  obtain ⟨hfront, hseq⟩ := Separated.append_cons_inj_right (hbar _) (hbar _) hfront
  obtain ⟨hsender, href⟩ := Separated.append_cons_inj_right (hbar _) (hbar _) hfront
  have hnum : ∀ {m n : Int}, m.repr.toList = n.repr.toList → m = n :=
    fun hmn => Int.repr_inj.mp (String.toList_inj.mp hmn)
  refine ⟨?_, hnum hseq, hnum htotal⟩
  rw [StoredPart.concatKey, StoredPart.concatKey, String.toList_inj.mp hsender, hnum href]

/-- The converse. -/
theorem StoredPart.partKey_congr {p q : StoredPart} (hkey : p.concatKey = q.concatKey)
    (hseq : p.seqNum = q.seqNum) (htotal : p.totalParts = q.totalParts) : p.partKey = q.partKey := by
  obtain ⟨hsender, href⟩ := ConcatKey.mk.inj hkey
  rw [partKey, partKey, hsender, href, hseq, htotal]

/-! ## Stores that are queues -/

section
variable {S : Type} (P : PartStore S) (reopen : S → S)

/-- A store that is a bounded queue keyed by `PartKey`, and the same after it was opened again. -/
structure QueueStore (Ok : S → Prop) (capacity : Nat) (Storable : StoredPart → Prop) : Prop where
  capacity_pos : 0 < capacity
  distinct : ∀ s, Ok s → ((P.snapshot s).map StoredPart.partKey).Nodup
  push : ∀ s sp, Ok s → Storable sp → Ok (P.push s sp).1 ∧
    P.snapshot (P.push s sp).1 =
      KeyedQueue.push (some StoredPart.partKey) capacity (P.snapshot s) sp
  remove : ∀ s key, Ok s → Ok (P.remove s key).1 ∧
    P.snapshot (P.remove s key).1 = (P.snapshot s).filter (·.partKey ≠ key)
  reopen : ∀ s, Ok s → Ok (reopen s) ∧ P.snapshot (reopen s) = P.snapshot s

end

section
variable {S : Type} {P : PartStore S} {reopen : S → S} {Ok : S → Prop} {capacity : Nat}
  {Storable : StoredPart → Prop}

/-- Several removals. -/
theorem QueueStore.removes (hP : QueueStore P reopen Ok capacity Storable) {s : S} (hs : Ok s)
    (keys : List String) : Ok (keys.foldl (fun s key => (P.remove s key).1) s) ∧
      P.snapshot (keys.foldl (fun s key => (P.remove s key).1) s) =
        (P.snapshot s).filter (·.partKey ∉ keys) := by
  induction keys generalizing s with
  | nil => exact ⟨hs, by simp⟩
  | cons key keys ih =>
    obtain ⟨hok, hsnap⟩ := hP.remove s key hs
    obtain ⟨hok', hsnap'⟩ := ih hok
    refine ⟨hok', hsnap'.trans ?_⟩
    rw [hsnap, List.filter_filter]
    congr 1
    funext sp
    simp [Bool.and_comm]

/-- Parts with one key are one part. -/
theorem QueueStore.eq_of_partKey (hP : QueueStore P reopen Ok capacity Storable) {s : S}
    (hs : Ok s) {sp sp' : StoredPart} (h : sp ∈ P.snapshot s) (h' : sp' ∈ P.snapshot s)
    (hkey : sp.partKey = sp'.partKey) : sp = sp' :=
  List.inj_on_of_nodup_map (hP.distinct s hs) h h' hkey

/-! ## Every stored part belongs to a pending message -/

/-- The pending messages are numbered, and have every stored part. -/
structure Backed (pending : Pending) (parts : List StoredPart) : Prop where
  refNum : ∀ k pm, pending.lookup k = some pm → pm.refNum = k.refNum
  nonempty : ∀ k pm, pending.lookup k = some pm → pm.parts ≠ []
  numbered : ∀ k pm, pending.lookup k = some pm → pm.Numbered
  stored : ∀ sp ∈ parts, ∃ pm, pending.lookup sp.concatKey = some pm ∧
    pm.totalParts = sp.totalParts ∧ pm.createdAt = sp.receivedAt ∧ pm.hasSeq sp.seqNum

/-- The keys removed with a message are those of its stored parts. -/
theorem Backed.mem_partKeys {pending : Pending} {parts : List StoredPart}
    (h : Backed pending parts) {k : ConcatKey} {pm : PendingMessage}
    (hk : pending.lookup k = some pm) {sp : StoredPart} (hsp : sp ∈ parts) :
    sp.partKey ∈ pm.partKeys k.sender ↔ sp.concatKey = k := by
  simp only [PendingMessage.partKeys, List.mem_map, h.refNum k pm hk]
  constructor
  · rintro ⟨p, -, hkey⟩
    exact (StoredPart.partKey_inj hkey).1.symm
  · rintro rfl
    obtain ⟨pm', hk', htotal, -, hseq⟩ := h.stored sp hsp
    rw [hk] at hk'
    cases hk'
    obtain ⟨p, hp, hpseq⟩ := List.any_eq_true.mp hseq
    refine ⟨p, hp, ?_⟩
    rw [htotal, beq_iff_eq.mp hpseq]
    rfl

/-- Fewer messages, with their parts. -/
theorem Backed.filter {pending pending' : Pending} {parts : List StoredPart}
    (h : Backed pending parts) (keep : ConcatKey → Bool)
    (hlookup : ∀ k, pending'.lookup k = if keep k then pending.lookup k else none) :
    Backed pending' (parts.filter fun sp => keep sp.concatKey) := by
  have hbefore : ∀ k pm, pending'.lookup k = some pm → pending.lookup k = some pm := by
    intro k pm hk
    rw [hlookup] at hk
    split at hk
    · exact hk
    · cases hk
  refine ⟨fun k pm hk => h.refNum k pm (hbefore k pm hk),
    fun k pm hk => h.nonempty k pm (hbefore k pm hk),
    fun k pm hk => h.numbered k pm (hbefore k pm hk), fun sp hsp => ?_⟩
  obtain ⟨hsp, hkeep⟩ := List.mem_filter.mp hsp
  obtain ⟨pm, hk, hrest⟩ := h.stored sp hsp
  exact ⟨pm, by rw [hlookup, if_pos hkeep, hk], hrest⟩

/-- Dropping a message drops its parts from the store, and no others. -/
theorem Backed.dropMessage (hP : QueueStore P reopen Ok capacity Storable) (key : ConcatKey)
    {r : Reassembler} {s : S} (hs : Ok s) (h : Backed r.pending (P.snapshot s)) :
    Ok (dropMessage P (r, s) key).2 ∧
      P.snapshot (dropMessage P (r, s) key).2 = (P.snapshot s).filter (·.concatKey ≠ key) := by
  cases hk : r.pending.lookup key with
  | none =>
    simp only [Sms.dropMessage, hk]
    refine ⟨hs, (List.filter_eq_self.mpr fun sp hsp => ?_).symm⟩
    obtain ⟨pm, hlookup, -⟩ := h.stored sp hsp
    simp only [decide_eq_true_eq]
    rintro rfl
    rw [hk] at hlookup
    cases hlookup
  | some pm =>
    simp only [Sms.dropMessage, hk]
    obtain ⟨hok, hsnap⟩ := hP.removes hs (pm.partKeys key.sender)
    refine ⟨hok, hsnap.trans (List.filter_congr fun sp hsp => ?_)⟩
    simp [h.mem_partKeys hk hsp]

/-- Dropping messages drops their parts from the store, and no others. -/
theorem Backed.dropMessages (hP : QueueStore P reopen Ok capacity Storable)
    (keys : List ConcatKey) {r : Reassembler} {s : S} (hs : Ok s)
    (h : Backed r.pending (P.snapshot s)) :
    Ok (keys.foldl (Sms.dropMessage P) (r, s)).2 ∧
      P.snapshot (keys.foldl (Sms.dropMessage P) (r, s)).2 =
        (P.snapshot s).filter (·.concatKey ∉ keys) ∧
      Backed (keys.foldl (Sms.dropMessage P) (r, s)).1.pending
        (P.snapshot (keys.foldl (Sms.dropMessage P) (r, s)).2) := by
  induction keys generalizing r s with
  | nil => exact ⟨hs, by simp, h⟩
  | cons key keys ih =>
    obtain ⟨hok, hsnap⟩ := h.dropMessage hP key hs
    have hbacked : Backed (Sms.dropMessage P (r, s) key).1.pending
        (P.snapshot (Sms.dropMessage P (r, s) key).2) := by
      rw [hsnap]
      exact h.filter (fun k => decide (k ≠ key)) fun k => by
        rw [lookup_dropMessage]
        split <;> simp_all
    obtain ⟨hok', hsnap', hend⟩ := ih hok hbacked
    refine ⟨hok', hsnap'.trans ?_, hend⟩
    rw [hsnap, List.filter_filter]
    congr 1
    funext sp
    simp [Bool.and_comm]

/-- **A cleanup keeps the parts that are not stale.** -/
theorem Backed.cleanupStale (hP : QueueStore P reopen Ok capacity Storable) {r : Reassembler}
    {s : S} (hs : Ok s) (h : Backed r.pending (P.snapshot s)) (now : Int) :
    Ok (cleanupStale P r s now).2 ∧
      P.snapshot (Sms.cleanupStale P r s now).2 =
        (P.snapshot s).filter (fun sp => ¬ r.staleTimeout < now - sp.receivedAt) ∧
      Backed (Sms.cleanupStale P r s now).1.pending
        (P.snapshot (Sms.cleanupStale P r s now).2) := by
  obtain ⟨hok, hsnap, hbacked⟩ := h.dropMessages hP (staleKeys r now) hs
  refine ⟨hok, hsnap.trans (List.filter_congr fun sp hsp => ?_), hbacked⟩
  obtain ⟨pm, hk, -, hat, -⟩ := h.stored sp hsp
  have hstale : sp.concatKey ∈ staleKeys r now ↔ r.staleTimeout < now - sp.receivedAt := by
    rw [mem_staleKeys, ← hat]
    constructor
    · rintro ⟨pm', hk', hstale⟩
      rw [hk] at hk'
      cases hk'
      exact hstale
    · exact fun hstale => ⟨pm, hk, hstale⟩
  simp only [hstale]

/-! ## Messages whose parts are all stored -/

/-- A part of a pending message as the store has it. -/
def PendingMessage.storedAs (pm : PendingMessage) (k : ConcatKey) (p : SmsPart) : StoredPart :=
  ⟨k.sender, k.refNum, p.seqNum, pm.totalParts, p.body, pm.createdAt⟩

@[simp] theorem PendingMessage.concatKey_storedAs (pm : PendingMessage) (k : ConcatKey)
    (p : SmsPart) : (pm.storedAs k p).concatKey = k := rfl

/-- Every part of the message is stored. -/
def PendingMessage.Whole (pm : PendingMessage) (k : ConcatKey) (parts : List StoredPart) : Prop :=
  ∀ p ∈ pm.parts, pm.storedAs k p ∈ parts

/-- The message is pending and complete with this text, and every part of it is stored. -/
def Kept (pending : Pending) (parts : List StoredPart) (k : ConcatKey) (text : String) : Prop :=
  ∃ pm, pending.lookup k = some pm ∧ pm.isComplete ∧ pm.assemble = text ∧ pm.Whole k parts

/-- **Two numbered messages with the same parts assemble alike.** -/
theorem PendingMessage.Numbered.assemble_eq {pm pm' : PendingMessage} (h : pm.Numbered)
    (h' : pm'.Numbered) (htotal : pm'.totalParts = pm.totalParts)
    (hparts : ∀ p, p ∈ pm'.parts ↔ p ∈ pm.parts) (hcomplete : pm.isComplete) :
    pm'.isComplete ∧ pm'.assemble = pm.assemble := by
  have hperm : pm'.parts.Perm pm.parts :=
    (List.perm_ext_iff_of_nodup (.of_map _ h'.nodup) (.of_map _ h.nodup)).mpr hparts
  have hcomplete' : pm'.isComplete := by
    simpa [PendingMessage.isComplete, hperm.length_eq, htotal] using hcomplete
  obtain ⟨hlen, hget⟩ := h.ordered_getElem hcomplete
  obtain ⟨hlen', hget'⟩ := h'.ordered_getElem hcomplete'
  have hordered : pm'.ordered = pm.ordered := by
    refine List.ext_getElem (by omega) fun i hi' hi => ?_
    have hsame := List.inj_on_of_nodup_map h.nodup ((hparts _).mp (hget' i hi')) (hget i hi) rfl
    exact congrArg SmsPart.body hsame
  exact ⟨hcomplete', by rw [assemble, assemble, hordered]⟩

/-- A cleanup at which the message is not stale. -/
theorem Kept.cleanupStale (hP : QueueStore P reopen Ok capacity Storable) {r : Reassembler} {s : S}
    (hs : Ok s) (hbacked : Backed r.pending (P.snapshot s)) {k : ConcatKey} {text : String}
    (h : Kept r.pending (P.snapshot s) k text) {now : Int}
    (hfresh : ∀ pm, r.pending.lookup k = some pm → ¬ pm.Stale r.staleTimeout now) :
    Kept (Sms.cleanupStale P r s now).1.pending (P.snapshot (Sms.cleanupStale P r s now).2) k
      text := by
  obtain ⟨pm, hk, hcomplete, htext, hwhole⟩ := h
  refine ⟨pm, lookup_cleanupStale.mpr ⟨hk, hfresh pm hk⟩, hcomplete, htext, fun p hp => ?_⟩
  rw [(hbacked.cleanupStale hP hs now).2.1]
  exact List.mem_filter.mpr ⟨hwhole p hp, decide_eq_true (hfresh pm hk)⟩

/-! ## A part joins its message and the store -/

/-- What stays of the stored parts when a part is pushed: all of them if the part is there already,
the newest short of the bound if it is not. -/
def staying (capacity : Nat) (parts : List StoredPart) (sp : StoredPart) : List StoredPart :=
  if KeyedQueue.HasKeyOf (some StoredPart.partKey) parts sp then parts
  else KeyedQueue.newest (capacity - 1) parts

/-- A push of a stored part changes nothing; of a new one it appends it to what stays. -/
theorem push_eq_staying (hcapacity : 0 < capacity) (parts : List StoredPart) (sp : StoredPart) :
    KeyedQueue.push (some StoredPart.partKey) capacity parts sp =
      staying capacity parts sp ++
        if KeyedQueue.HasKeyOf (some StoredPart.partKey) parts sp then [] else [sp] := by
  unfold KeyedQueue.push staying
  split
  · rw [List.append_nil]
  · rw [KeyedQueue.newest_concat hcapacity, KeyedQueue.newest,
      show parts.length - (capacity - 1) = parts.length + 1 - capacity by omega]

/-- The time of receipt does not count. -/
theorem staying_stored (capacity : Nat) (parts : List StoredPart) (c : PartCall) (t t' : Int) :
    staying capacity parts (c.stored t) = staying capacity parts (c.stored t') := by
  simp only [staying, KeyedQueue.hasKeyOf_some]
  rfl

theorem staying_subset (capacity : Nat) (parts : List StoredPart) (sp : StoredPart) :
    staying capacity parts sp ⊆ parts := by
  unfold staying
  split
  · exact List.Subset.refl _
  · exact (KeyedQueue.newest_sublist _ _).subset

namespace PendingMessage

theorem add_of_hasSeq {pm : PendingMessage} {p : SmsPart} (h : pm.hasSeq p.seqNum) :
    pm.add p = pm := if_pos h

theorem add_of_not_hasSeq {pm : PendingMessage} {p : SmsPart} (h : ¬ pm.hasSeq p.seqNum) :
    pm.add p = { pm with parts := pm.parts ++ [p] } := if_neg h

theorem hasSeq_add_self (pm : PendingMessage) (p : SmsPart) : (pm.add p).hasSeq p.seqNum := by
  by_cases h : pm.hasSeq p.seqNum
  · rwa [add_of_hasSeq h]
  · simp [hasSeq, add_of_not_hasSeq h]

theorem hasSeq_add {pm : PendingMessage} {seqNum : Int} (h : pm.hasSeq seqNum) (p : SmsPart) :
    (pm.add p).hasSeq seqNum := by
  by_cases hp : pm.hasSeq p.seqNum
  · rwa [add_of_hasSeq hp]
  · simpa [hasSeq, add_of_not_hasSeq hp] using Or.inl (by simpa [hasSeq] using h)

theorem parts_ne_nil_of_hasSeq {pm : PendingMessage} {seqNum : Int} (h : pm.hasSeq seqNum) :
    pm.parts ≠ [] := by
  intro hnil
  simp [hasSeq, hnil] at h

end PendingMessage

/-- The message a valid call finds or makes. -/
theorem Backed.message {r : Reassembler} {parts : List StoredPart} (h : Backed r.pending parts)
    {c : PartCall} (htotal : ∀ pm, r.pending.lookup c.concatKey = some pm →
      pm.totalParts = c.totalParts) (createdNow : Int) :
    (c.message r createdNow).totalParts = c.totalParts ∧
      (c.message r createdNow).refNum = c.refNum ∧ (c.message r createdNow).Numbered ∧
      ∀ p ∈ (c.message r createdNow).parts,
        r.pending.lookup c.concatKey = some (c.message r createdNow) := by
  unfold PartCall.message
  cases hlookup : r.pending.lookup c.concatKey with
  | none => exact ⟨rfl, rfl, ⟨by simp, by simp⟩, by simp⟩
  | some pm =>
    exact ⟨htotal pm hlookup, h.refNum _ pm hlookup, h.numbered _ pm hlookup, fun _ _ => rfl⟩

/-- A stored part belongs to the message the call finds. -/
theorem Backed.hasSeq_of_stored {r : Reassembler} {parts : List StoredPart}
    (h : Backed r.pending parts) {c : PartCall} {t createdNow : Int}
    (hdup : KeyedQueue.HasKeyOf (some StoredPart.partKey) parts (c.stored t)) :
    (c.message r createdNow).hasSeq c.seqNum := by
  obtain ⟨f, hf, y, hy, hkey⟩ := hdup
  cases hf
  obtain ⟨hconcat, hseq, -⟩ := StoredPart.partKey_inj hkey
  obtain ⟨pm, hlookup, -, -, hhas⟩ := h.stored y hy
  have hmessage : c.message r createdNow = pm := by
    unfold PartCall.message
    rw [show c.concatKey = y.concatKey from hconcat.symm, hlookup]
    rfl
  rw [hmessage, show c.seqNum = y.seqNum from hseq.symm]
  exact hhas

/-- A pushed part belongs to its message. -/
theorem Backed.add {r : Reassembler} {parts : List StoredPart} (h : Backed r.pending parts)
    {c : PartCall} (hc : c.Valid) (htotal : ∀ pm, r.pending.lookup c.concatKey = some pm →
      pm.totalParts = c.totalParts) (createdNow : Int) (hcapacity : 0 < capacity) :
    Backed
      (r.pending.insert c.concatKey ((c.message r createdNow).add ⟨c.seqNum, c.body⟩))
      (KeyedQueue.push (some StoredPart.partKey) capacity parts
        (c.stored (c.message r createdNow).createdAt)) := by
  obtain ⟨hpm, href, hnumbered, -⟩ := h.message htotal createdNow
  generalize hmessage : c.message r createdNow = pm at hpm href hnumbered ⊢
  -- the message of the call, and the others
  have hcases : ∀ k pm', (r.pending.insert c.concatKey (pm.add ⟨c.seqNum, c.body⟩)).lookup k =
      some pm' → k = c.concatKey ∧ pm' = pm.add ⟨c.seqNum, c.body⟩ ∨
        r.pending.lookup k = some pm' := by
    intro k pm' hk
    by_cases hkey : k = c.concatKey
    · subst hkey
      rw [AList.lookup_insert] at hk
      exact .inl ⟨rfl, (Option.some.inj hk).symm⟩
    · rw [AList.lookup_insert_ne hkey] at hk
      exact .inr hk
  refine ⟨fun k pm' hk => ?_, fun k pm' hk => ?_, fun k pm' hk => ?_, fun sp hsp => ?_⟩
  · rcases hcases k pm' hk with ⟨rfl, rfl⟩ | hk
    · rw [PendingMessage.refNum_add]
      exact href
    · exact h.refNum k pm' hk
  · rcases hcases k pm' hk with ⟨rfl, rfl⟩ | hk
    · exact PendingMessage.parts_ne_nil_of_hasSeq (PendingMessage.hasSeq_add_self pm ⟨c.seqNum, c.body⟩)
    · exact h.nonempty k pm' hk
  · rcases hcases k pm' hk with ⟨rfl, rfl⟩ | hk
    · unfold PartCall.Valid at hc
      exact hnumbered.add ⟨by dsimp only; omega, by dsimp only; omega⟩
    · exact h.numbered k pm' hk
  · rw [push_eq_staying hcapacity] at hsp
    have hor : sp ∈ parts ∨ sp = c.stored pm.createdAt := by
      rcases List.mem_append.mp hsp with hsp | hsp
      · exact .inl (staying_subset _ _ _ hsp)
      · split at hsp
        · cases hsp
        · exact .inr (List.mem_singleton.mp hsp)
    rcases hor with hsp | rfl
    · obtain ⟨pm', hlookup, hrest⟩ := h.stored sp hsp
      by_cases hkey : sp.concatKey = c.concatKey
      · have hsame : pm' = pm := by
          rw [← hmessage, PartCall.message, ← hkey, hlookup]
          rfl
        subst hsame
        refine ⟨_, by rw [hkey]; exact AList.lookup_insert _, ?_, ?_, ?_⟩
        · rw [PendingMessage.totalParts_add, hrest.1]
        · rw [PendingMessage.createdAt_add, hrest.2.1]
        · exact PendingMessage.hasSeq_add hrest.2.2 _
      · exact ⟨pm', by rw [AList.lookup_insert_ne hkey, hlookup], hrest⟩
    · refine ⟨_, AList.lookup_insert _, ?_, ?_, PendingMessage.hasSeq_add_self _ _⟩
      · rw [PendingMessage.totalParts_add, hpm]
        rfl
      · rw [PendingMessage.createdAt_add]
        rfl

/-- **A pushed part completes its message in the store**, if the parts before it stay. -/
theorem Backed.whole_add {r : Reassembler} {parts : List StoredPart} (h : Backed r.pending parts)
    {c : PartCall} (htotal : ∀ pm, r.pending.lookup c.concatKey = some pm →
      pm.totalParts = c.totalParts) (createdNow : Int) (hcapacity : 0 < capacity)
    (hstay : ∀ pm, r.pending.lookup c.concatKey = some pm →
      pm.Whole c.concatKey (staying capacity parts (c.stored pm.createdAt))) :
    ((c.message r createdNow).add ⟨c.seqNum, c.body⟩).Whole c.concatKey
      (KeyedQueue.push (some StoredPart.partKey) capacity parts
        (c.stored (c.message r createdNow).createdAt)) := by
  obtain ⟨hpm, -, -, hfound⟩ := h.message htotal createdNow
  rw [push_eq_staying hcapacity]
  have hold : ∀ p ∈ (c.message r createdNow).parts,
      (c.message r createdNow).storedAs c.concatKey p ∈
        staying capacity parts (c.stored (c.message r createdNow).createdAt) :=
    fun p hp => hstay _ (hfound p hp) p hp
  by_cases hhas : (c.message r createdNow).hasSeq c.seqNum
  · rw [PendingMessage.add_of_hasSeq hhas]
    exact fun p hp => List.mem_append_left _ (hold p hp)
  · intro p hp
    have hsame : ((c.message r createdNow).add ⟨c.seqNum, c.body⟩).storedAs c.concatKey p =
        (c.message r createdNow).storedAs c.concatKey p := by
      rw [PendingMessage.storedAs, PendingMessage.totalParts_add, PendingMessage.createdAt_add]
      rfl
    rw [hsame]
    rw [PendingMessage.add_of_not_hasSeq hhas] at hp
    rcases List.mem_append.mp hp with hp | hp
    · exact List.mem_append_left _ (hold p hp)
    · have hnew : ¬ KeyedQueue.HasKeyOf (some StoredPart.partKey) parts
          (c.stored (c.message r createdNow).createdAt) :=
        fun hdup => hhas (h.hasSeq_of_stored hdup)
      rw [if_neg hnew, List.mem_singleton.mp hp, PendingMessage.storedAs, hpm]
      exact List.mem_append_right _ (List.mem_singleton_self _)

/-! ## A reassembler made from the store -/

/-- The part of a message a stored part is. -/
def StoredPart.part (sp : StoredPart) : SmsPart := ⟨sp.seqNum, sp.body⟩

/-- The message the stored parts of one key make. -/
def messageOf (parts : List StoredPart) : Option PendingMessage :=
  parts.head?.map fun first =>
    ⟨first.refNum, first.totalParts, parts.map StoredPart.part, first.receivedAt⟩

/-- The stored parts of one message agree, and have distinct keys. -/
structure Coherent (parts : List StoredPart) : Prop where
  nodup : (parts.map StoredPart.partKey).Nodup
  agree : ∀ sp ∈ parts, ∀ sp' ∈ parts, sp.concatKey = sp'.concatKey →
    sp.totalParts = sp'.totalParts ∧ sp.receivedAt = sp'.receivedAt

/-- A backed store is coherent. -/
theorem Backed.coherent {pending : Pending} {parts : List StoredPart} (h : Backed pending parts)
    (hnodup : (parts.map StoredPart.partKey).Nodup) : Coherent parts := by
  refine ⟨hnodup, fun sp hsp sp' hsp' hkey => ?_⟩
  obtain ⟨pm, hk, htotal, hat, -⟩ := h.stored sp hsp
  obtain ⟨pm', hk', htotal', hat', -⟩ := h.stored sp' hsp'
  rw [hkey, hk'] at hk
  cases hk
  exact ⟨htotal.symm.trans htotal', hat.symm.trans hat'⟩

/-- The parts a new reassembler keeps, of one message. -/
def keptParts (staleTimeout now : Int) (k : ConcatKey) (parts : List StoredPart) :
    List StoredPart :=
  parts.filter fun sp => sp.concatKey = k ∧ ¬ Dropped staleTimeout now sp

/-- **What a new reassembler starts from**: each message made of its stored parts. -/
theorem lookup_rehydrate {staleTimeout now : Int} {parts : List StoredPart} (h : Coherent parts)
    (s : S) (k : ConcatKey) :
    (parts.foldl (rehydratePart P staleTimeout now) (∅, s)).1.lookup k =
      messageOf (keptParts staleTimeout now k parts) := by
  induction parts using List.reverseRecOn generalizing k with
  | nil => rfl
  | append_singleton parts sp ih =>
    have hsub : ∀ x ∈ parts, x ∈ parts ++ [sp] := fun x hx => List.mem_append_left _ hx
    have hlast : sp ∈ parts ++ [sp] := List.mem_append_right _ (List.mem_singleton_self _)
    have hnodup := h.nodup
    rw [List.map_append, List.nodup_append] at hnodup
    have hbefore : Coherent parts :=
      ⟨hnodup.1, fun x hx y hy => h.agree x (hsub x hx) y (hsub y hy)⟩
    have hprefix := ih hbefore
    rw [List.foldl_append, List.foldl_cons, List.foldl_nil, keptParts, List.filter_append]
    generalize parts.foldl (rehydratePart P staleTimeout now) (∅, s) = st at hprefix ⊢
    unfold rehydratePart
    split
    · next hdropped =>
      rw [List.filter_cons_of_neg (by simp [hdropped]), List.filter_nil, List.append_nil]
      exact hprefix k
    · next hkept =>
      by_cases hkey : k = sp.concatKey
      · subst hkey
        rw [AList.lookup_insert, List.filter_cons_of_pos (by simp [hkept]), List.filter_nil,
          hprefix]
        -- the parts before this one have other numbers
        have hnew : ∀ x ∈ keptParts staleTimeout now sp.concatKey parts, x.seqNum ≠ sp.seqNum := by
          intro x hx hseq
          obtain ⟨hx, hxkey⟩ := List.mem_filter.mp hx
          have hconcat : x.concatKey = sp.concatKey := (of_decide_eq_true hxkey).1
          have htotal := (h.agree x (hsub x hx) sp hlast hconcat).1
          exact hnodup.2.2 _ (List.mem_map_of_mem hx) _ (by simp)
            (StoredPart.partKey_congr hconcat hseq htotal)
        change _ = messageOf (keptParts staleTimeout now sp.concatKey parts ++ [sp])
        cases hkeptParts : keptParts staleTimeout now sp.concatKey parts with
        | nil => rfl
        | cons first rest =>
          have hfresh : ¬ PendingMessage.hasSeq ⟨first.refNum, first.totalParts,
              (first :: rest).map StoredPart.part, first.receivedAt⟩ sp.seqNum := by
            rw [← hkeptParts]
            simpa [PendingMessage.hasSeq, StoredPart.part] using hnew
          simp only [messageOf, List.head?_cons, Option.map_some, Option.getD_some]
          rw [PendingMessage.add_of_not_hasSeq hfresh]
          simp [StoredPart.part]
      · rw [AList.lookup_insert_ne hkey,
          List.filter_cons_of_neg (by simpa using fun heq => absurd heq.symm hkey), List.filter_nil,
          List.append_nil]
        exact hprefix k

/-- The parts that are dropped are removed from the store. -/
theorem rehydrate_store (staleTimeout now : Int) (parts : List StoredPart) (pending : Pending)
    (s : S) : (parts.foldl (rehydratePart P staleTimeout now) (pending, s)).2 =
      ((parts.filter (Dropped staleTimeout now ·)).map StoredPart.partKey).foldl
        (fun s key => (P.remove s key).1) s := by
  induction parts generalizing pending s with
  | nil => rfl
  | cons sp rest ih =>
    rw [List.foldl_cons]
    unfold rehydratePart
    split
    · next hdropped =>
      rw [List.filter_cons_of_pos (by simpa using hdropped)]
      exact ih _ _
    · next hkept =>
      rw [List.filter_cons_of_neg (by simpa using hkept)]
      exact ih _ _

theorem mem_keptParts {staleTimeout now : Int} {k : ConcatKey} {parts : List StoredPart}
    {sp : StoredPart} : sp ∈ keptParts staleTimeout now k parts ↔
      sp ∈ parts ∧ sp.concatKey = k ∧ ¬ Dropped staleTimeout now sp := by
  simp [keptParts]

/-- A kept part has a message. -/
theorem exists_messageOf {parts : List StoredPart} {sp : StoredPart} (h : sp ∈ parts) :
    ∃ pm, messageOf parts = some pm := by
  cases parts with
  | nil => cases h
  | cons first rest => exact ⟨_, rfl⟩

/-- The message of coherent stored parts. -/
theorem Coherent.messageOf_kept {staleTimeout now : Int} {k : ConcatKey} {parts : List StoredPart}
    (h : Coherent parts) {pm : PendingMessage}
    (hpm : messageOf (keptParts staleTimeout now k parts) = some pm) :
    pm.refNum = k.refNum ∧ pm.parts = (keptParts staleTimeout now k parts).map StoredPart.part ∧
      pm.parts ≠ [] ∧ pm.Numbered ∧ ∀ sp ∈ keptParts staleTimeout now k parts,
        pm.totalParts = sp.totalParts ∧ pm.createdAt = sp.receivedAt := by
  cases hkept : keptParts staleTimeout now k parts with
  | nil => rw [hkept] at hpm; cases hpm
  | cons first rest =>
    rw [hkept] at hpm
    cases hpm
    have hmem : ∀ sp ∈ first :: rest,
        sp ∈ parts ∧ sp.concatKey = k ∧ ¬ Dropped staleTimeout now sp :=
      fun sp hsp => mem_keptParts.mp (hkept ▸ hsp)
    obtain ⟨hfirst, hfirstKey, -⟩ := hmem first List.mem_cons_self
    have hagree : ∀ sp ∈ first :: rest,
        first.totalParts = sp.totalParts ∧ first.receivedAt = sp.receivedAt := fun sp hsp =>
      h.agree first hfirst sp (hmem sp hsp).1 (hfirstKey.trans (hmem sp hsp).2.1.symm)
    refine ⟨congrArg ConcatKey.refNum hfirstKey, rfl, by simp, ⟨fun p hp => ?_, ?_⟩, hagree⟩
    · obtain ⟨sp, hsp, rfl⟩ := List.mem_map.mp hp
      have hrange := (hmem sp hsp).2.2
      have htotal := (hagree sp hsp).1
      simp only [Dropped, StoredPart.part] at hrange ⊢
      omega
    · -- two parts with one number have one key
      have hsub : (first :: rest).Sublist parts := hkept ▸ List.filter_sublist
      dsimp only
      rw [List.map_map]
      refine List.Nodup.map_on (fun x hx y hy hseq => ?_) (.of_map _ (h.nodup.sublist (hsub.map _)))
      refine List.inj_on_of_nodup_map h.nodup (hmem x hx).1 (hmem y hy).1 ?_
      exact StoredPart.partKey_congr ((hmem x hx).2.1.trans (hmem y hy).2.1.symm) hseq
        ((hagree x hx).1.symm.trans (hagree y hy).1)

/-- **A new reassembler is backed by what it keeps of the store.** -/
theorem Backed.rehydrate (hP : QueueStore P reopen Ok capacity Storable) {pending : Pending} {s : S}
    (hs : Ok s) (h : Backed pending (P.snapshot s)) (staleTimeout now : Int) :
    Ok ((P.snapshot s).foldl (rehydratePart P staleTimeout now) (∅, s)).2 ∧
      P.snapshot ((P.snapshot s).foldl (rehydratePart P staleTimeout now) (∅, s)).2 =
        (P.snapshot s).filter (fun sp => ¬ Dropped staleTimeout now sp) ∧
      Backed ((P.snapshot s).foldl (rehydratePart P staleTimeout now) (∅, s)).1
        (P.snapshot ((P.snapshot s).foldl (rehydratePart P staleTimeout now) (∅, s)).2) := by
  have hcoherent := h.coherent (hP.distinct s hs)
  have hsnap : Ok ((P.snapshot s).foldl (rehydratePart P staleTimeout now) (∅, s)).2 ∧
      P.snapshot ((P.snapshot s).foldl (rehydratePart P staleTimeout now) (∅, s)).2 =
        (P.snapshot s).filter (fun sp => ¬ Dropped staleTimeout now sp) := by
    rw [rehydrate_store]
    obtain ⟨hok, hsnap⟩ := hP.removes hs
      (((P.snapshot s).filter (Dropped staleTimeout now ·)).map StoredPart.partKey)
    refine ⟨hok, hsnap.trans (List.filter_congr fun sp hsp => ?_)⟩
    have hkeys : sp.partKey ∈ ((P.snapshot s).filter (Dropped staleTimeout now ·)).map
        StoredPart.partKey ↔ Dropped staleTimeout now sp := by
      rw [List.mem_map]
      constructor
      · rintro ⟨x, hx, hkey⟩
        obtain ⟨hx, hdropped⟩ := List.mem_filter.mp hx
        rw [← hP.eq_of_partKey hs hx hsp hkey]
        exact of_decide_eq_true hdropped
      · exact fun hdropped => ⟨sp, List.mem_filter.mpr ⟨hsp, decide_eq_true hdropped⟩, rfl⟩
    simp only [hkeys]
  have hmessage : ∀ k pm,
      ((P.snapshot s).foldl (rehydratePart P staleTimeout now) (∅, s)).1.lookup k = some pm →
      messageOf (keptParts staleTimeout now k (P.snapshot s)) = some pm :=
    fun k pm hk => (lookup_rehydrate hcoherent s k).symm.trans hk
  refine ⟨hsnap.1, hsnap.2, fun k pm hk => (hcoherent.messageOf_kept (hmessage k pm hk)).1,
    fun k pm hk => (hcoherent.messageOf_kept (hmessage k pm hk)).2.2.1,
    fun k pm hk => (hcoherent.messageOf_kept (hmessage k pm hk)).2.2.2.1, fun sp hsp => ?_⟩
  rw [hsnap.2] at hsp
  obtain ⟨hsp, hkept⟩ := List.mem_filter.mp hsp
  have hmem : sp ∈ keptParts staleTimeout now sp.concatKey (P.snapshot s) :=
    mem_keptParts.mpr ⟨hsp, rfl, of_decide_eq_true hkept⟩
  obtain ⟨pm, hpm⟩ := exists_messageOf hmem
  obtain ⟨-, hparts, -, -, hagree⟩ := hcoherent.messageOf_kept hpm
  refine ⟨pm, (lookup_rehydrate hcoherent s _).trans hpm, (hagree sp hmem).1, (hagree sp hmem).2, ?_⟩
  rw [PendingMessage.hasSeq, hparts]
  exact List.any_eq_true.mpr ⟨sp.part, List.mem_map_of_mem hmem, beq_self_eq_true sp.seqNum⟩

/-- **A stored message that is not stale is there again**, complete and with its text. -/
theorem Kept.rehydrate (hP : QueueStore P reopen Ok capacity Storable) {pending : Pending} {s : S}
    (hs : Ok s) (hbacked : Backed pending (P.snapshot s)) {k : ConcatKey} {text : String}
    (h : Kept pending (P.snapshot s) k text) {staleTimeout now : Int}
    (hfresh : ∀ pm, pending.lookup k = some pm → ¬ pm.Stale staleTimeout now) :
    Kept ((P.snapshot s).foldl (rehydratePart P staleTimeout now) (∅, s)).1
      (P.snapshot ((P.snapshot s).foldl (rehydratePart P staleTimeout now) (∅, s)).2) k text := by
  obtain ⟨pm, hk, hcomplete, htext, hwhole⟩ := h
  have hcoherent := hbacked.coherent (hP.distinct s hs)
  have hnumbered := hbacked.numbered k pm hk
  -- the kept stored parts are the parts of the message
  have hstored : ∀ p ∈ pm.parts,
      pm.storedAs k p ∈ keptParts staleTimeout now k (P.snapshot s) := by
    intro p hp
    have hrange := hnumbered.range p hp
    have hnot := hfresh pm hk
    refine mem_keptParts.mpr ⟨hwhole p hp, rfl, ?_⟩
    simp only [Dropped, PendingMessage.storedAs, PendingMessage.Stale] at hnot ⊢
    omega
  have hpart : ∀ sp ∈ keptParts staleTimeout now k (P.snapshot s), ∃ p ∈ pm.parts,
      sp = pm.storedAs k p := by
    intro sp hsp
    obtain ⟨hmem, rfl, -⟩ := mem_keptParts.mp hsp
    obtain ⟨pm', hk', htotal, -, hseq⟩ := hbacked.stored sp hmem
    rw [hk] at hk'
    cases hk'
    obtain ⟨p, hp, hpseq⟩ := List.any_eq_true.mp hseq
    exact ⟨p, hp, hP.eq_of_partKey hs hmem (hwhole p hp)
      (StoredPart.partKey_congr rfl (beq_iff_eq.mp hpseq).symm htotal.symm)⟩
  obtain ⟨q, hq⟩ := List.exists_mem_of_ne_nil _ (hbacked.nonempty k pm hk)
  obtain ⟨pm', hpm'⟩ := exists_messageOf (hstored q hq)
  obtain ⟨-, hparts', -, hnumbered', hagree⟩ := hcoherent.messageOf_kept hpm'
  have htotal : pm'.totalParts = pm.totalParts := (hagree _ (hstored q hq)).1
  have hat : pm'.createdAt = pm.createdAt := (hagree _ (hstored q hq)).2
  have hsame : ∀ p, p ∈ pm'.parts ↔ p ∈ pm.parts := by
    intro p
    rw [hparts', List.mem_map]
    constructor
    · rintro ⟨sp, hsp, rfl⟩
      obtain ⟨p, hp, rfl⟩ := hpart sp hsp
      exact hp
    · exact fun hp => ⟨_, hstored p hp, rfl⟩
  obtain ⟨hcomplete', htext'⟩ := hnumbered.assemble_eq hnumbered' htotal hsame hcomplete
  refine ⟨pm', (lookup_rehydrate hcoherent s k).trans hpm', hcomplete', htext'.trans htext,
    fun p hp => ?_⟩
  rw [PendingMessage.storedAs, htotal, hat, (hbacked.rehydrate hP hs staleTimeout now).2.1]
  obtain ⟨hmem, -, hkept⟩ := mem_keptParts.mp (hstored p ((hsame p).mp hp))
  exact List.mem_filter.mpr ⟨hmem, decide_eq_true hkept⟩

end

end Svarla.Sms
