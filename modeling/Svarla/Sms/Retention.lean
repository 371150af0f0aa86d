import Svarla.Buffer.Refinement
import Svarla.Sms.Backed
import Svarla.Sms.PartDisk

/-!
# A complete message is kept until it is committed

A message reported complete should be pending, and its parts stored, until it is committed, so that
a hand-over that failed can be tried again after any delay or restart. The part store gives the
message back after a restart, but it does not survive the clock: `cleanupStaleLocked` and
`rehydrateFromStore` discard what is older than the timeout, complete or not, although the comments
speak of incomplete messages (`cleanup_drops_complete`). `completed_kept` is the run theorem under
the condition `KeepsCompleted`.
-/

namespace Svarla.Sms

open Svarla.Lib Svarla.Buffer

section
variable {S : Type} {P : PartStore S} {reopen : S → S} {Ok : S → Prop} {capacity : Nat}
  {Storable : StoredPart → Prop}

/-! ## Runs -/

/-- What a run keeps: every message reported complete and not committed is pending and stored. -/
structure KeptAll (P : PartStore S) (Ok : S → Prop) (w : World S) : Prop where
  ok : Ok w.store
  backed : Backed w.reassembler.pending (P.snapshot w.store)
  kept : ∀ k text, (k, text) ∈ w.completed →
    Kept w.reassembler.pending (P.snapshot w.store) k text

end

section
variable {S : Type} (P : PartStore S) (reopen : S → S) (capacity : Nat)
  (Storable : StoredPart → Prop)

/-- No message reported complete and not committed is stale. -/
def NoneStale (w : World S) (staleTimeout now : Int) : Prop :=
  ∀ k text pm, (k, text) ∈ w.completed → w.reassembler.pending.lookup k = some pm →
    ¬ pm.Stale staleTimeout now

/-- A push leaves the other parts in the store of every message that was reported complete, and of
the one this call completes. -/
def RoomFor (w : World S) (c : PartCall) (now : Int) : Prop :=
  ∀ k pm, w.reassembler.pending.lookup k = some pm → ¬ pm.Stale w.reassembler.staleTimeout now →
    (∃ text, (k, text) ∈ w.completed) ∨
      k = c.concatKey ∧ (pm.add ⟨c.seqNum, c.body⟩).isComplete →
    pm.Whole k (staying capacity
      ((P.snapshot w.store).filter fun sp => ¬ w.reassembler.staleTimeout < now - sp.receivedAt)
      (c.stored now))

/-- The condition on an event: it discards no complete message, and a part that joins one finds its
reference in use with the same number of parts, and room in the store. -/
def KeepsCompleted (w : World S) : ReassemblyEvent → Prop
  | .addPart c cleanupNow createdNow =>
    NoneStale w w.reassembler.staleTimeout cleanupNow ∧
      SameTotal P reopen w (.addPart c cleanupNow createdNow) ∧
      (c.Valid → RoomFor P capacity w c cleanupNow ∧ ∀ receivedAt, Storable (c.stored receivedAt))
  | .reconnect now => NoneStale w (effectiveTimeout w.reassembler.staleTimeout) now
  | .restart now => NoneStale w (effectiveTimeout w.reassembler.staleTimeout) now
  | _ => True

end

section
variable {S : Type} {P : PartStore S} {reopen : S → S} {Ok : S → Prop} {capacity : Nat}
  {Storable : StoredPart → Prop}

/-- The message of a call that is noted as complete after it is complete with the call's part. -/
theorem Backed.complete_add {r : Reassembler} {parts : List StoredPart}
    (h : Backed r.pending parts) {c : PartCall} (hc : c.Valid)
    (htotal : ∀ pm, r.pending.lookup c.concatKey = some pm → pm.totalParts = c.totalParts)
    (createdNow : Int) {completed : List (ConcatKey × String)}
    (hkept : ∀ k text, (k, text) ∈ completed → Kept r.pending parts k text) {text : String}
    (hmem : (c.concatKey, text) ∈
      if (report ((c.message r createdNow).add ⟨c.seqNum, c.body⟩)).1 then
        (c.concatKey, (report ((c.message r createdNow).add ⟨c.seqNum, c.body⟩)).2) ::
          completed.filter (·.1 ≠ c.concatKey)
      else completed) :
    ((c.message r createdNow).add ⟨c.seqNum, c.body⟩).isComplete ∧
      ((c.message r createdNow).add ⟨c.seqNum, c.body⟩).assemble = text := by
  unfold report at hmem
  split at hmem
  · next hcomplete =>
    refine ⟨hcomplete, ?_⟩
    simpa [eq_comm] using hmem
  · next hincomplete =>
    -- a message complete before has the part already
    obtain ⟨pm, hk, hcomplete, htext, -⟩ := hkept _ _ hmem
    have hmessage : c.message r createdNow = pm := by
      rw [PartCall.message, hk]
      rfl
    have hhas : pm.hasSeq c.seqNum := by
      have hpm := htotal pm hk
      unfold PartCall.Valid at hc
      obtain ⟨p, hp, hseq⟩ := (h.numbered _ pm hk).exists_part hcomplete
        (show ((c.seqNum - 1).toNat : Int) < pm.totalParts by omega)
      exact List.any_eq_true.mpr ⟨p, hp, beq_iff_eq.mpr (by omega)⟩
    rw [hmessage, PendingMessage.add_of_hasSeq hhas] at hincomplete ⊢
    exact ⟨hcomplete, htext⟩

/-- A valid call that meets the condition keeps every complete message. -/
theorem KeptAll.addPart (hP : QueueStore P reopen Ok capacity Storable) {w : World S}
    (h : KeptAll P Ok w) {c : PartCall} {cleanupNow : Int} (hvalid : c.Valid)
    (hfresh : NoneStale w w.reassembler.staleTimeout cleanupNow)
    (htotal : ∀ pm, w.reassembler.pending.lookup c.concatKey = some pm →
      ¬ pm.Stale w.reassembler.staleTimeout cleanupNow → pm.totalParts = c.totalParts)
    (hroom : RoomFor P capacity w c cleanupNow)
    (hstorable : ∀ receivedAt, Storable (c.stored receivedAt)) (createdNow : Int) {t : World S}
    (hstep : reassemblyStep P reopen w (.addPart c cleanupNow createdNow) = some t) :
    KeptAll P Ok t := by
  obtain ⟨hok, hsnap, hbacked⟩ := h.backed.cleanupStale hP h.ok cleanupNow
  have hkept : ∀ k text, (k, text) ∈ w.completed →
      Kept (cleanupStale P w.reassembler w.store cleanupNow).1.pending
        (P.snapshot (cleanupStale P w.reassembler w.store cleanupNow).2) k text :=
    fun k text hmem => (h.kept k text hmem).cleanupStale hP h.ok h.backed
      fun pm hk => hfresh k text pm hmem hk
  have hstay : ∀ k pm, (cleanupStale P w.reassembler w.store cleanupNow).1.pending.lookup k =
        some pm →
      ((∃ text, (k, text) ∈ w.completed) ∨
        k = c.concatKey ∧ (pm.add ⟨c.seqNum, c.body⟩).isComplete) →
      pm.Whole k (staying capacity
        (P.snapshot (cleanupStale P w.reassembler w.store cleanupNow).2) (c.stored cleanupNow)) := by
    intro k pm hk hmust
    obtain ⟨hk, hnot⟩ := lookup_cleanupStale.mp hk
    rw [hsnap]
    exact hroom k pm hk hnot hmust
  have htotal' : ∀ pm, (cleanupStale P w.reassembler w.store cleanupNow).1.pending.lookup
      c.concatKey = some pm → pm.totalParts = c.totalParts := by
    intro pm hk
    obtain ⟨hk, hnot⟩ := lookup_cleanupStale.mp hk
    exact htotal pm hk hnot
  simp only [reassemblyStep, addPart_of_valid hvalid, persistPart] at hstep
  cases hstep
  generalize (cleanupStale P w.reassembler w.store cleanupNow).1 = r,
    (cleanupStale P w.reassembler w.store cleanupNow).2 = s at *
  obtain ⟨hok', hsnap'⟩ := hP.push s (c.stored (c.message r createdNow).createdAt) hok
    (hstorable _)
  refine ⟨hok', ?_, fun k text hmem => ?_⟩
  · rw [hsnap']
    exact hbacked.add hvalid htotal' createdNow hP.capacity_pos
  · by_cases hkey : k = c.concatKey
    · subst hkey
      obtain ⟨hcomplete, htext⟩ := hbacked.complete_add hvalid htotal' createdNow hkept hmem
      refine ⟨_, AList.lookup_insert _, hcomplete, htext, ?_⟩
      rw [hsnap']
      refine hbacked.whole_add htotal' createdNow hP.capacity_pos fun pm hk => ?_
      have hmessage : c.message r createdNow = pm := by
        rw [PartCall.message, hk]
        rfl
      rw [staying_stored capacity _ c _ cleanupNow]
      exact hstay _ pm hk (.inr ⟨rfl, hmessage ▸ hcomplete⟩)
    · have hold : (k, text) ∈ w.completed := by
        simp only [report] at hmem
        split at hmem <;> simp_all
      obtain ⟨pm, hk, hcomplete, htext, -⟩ := hkept k text hold
      refine ⟨pm, by rw [AList.lookup_insert_ne hkey, hk], hcomplete, htext, fun p hp => ?_⟩
      rw [hsnap', push_eq_staying hP.capacity_pos, staying_stored capacity _ c _ cleanupNow]
      exact List.mem_append_left _ (hstay k pm hk (.inl ⟨text, hold⟩) p hp)

/-- **Every event that meets the condition keeps every complete message.** -/
theorem KeptAll.step (hP : QueueStore P reopen Ok capacity Storable) {w t : World S}
    {e : ReassemblyEvent} (h : KeptAll P Ok w) (he : KeepsCompleted P reopen capacity Storable w e)
    (hstep : reassemblyStep P reopen w e = some t) : KeptAll P Ok t := by
  cases e with
  | addPart c cleanupNow createdNow =>
    obtain ⟨hfresh, htotal, hpush⟩ := he
    by_cases hvalid : c.Valid
    · exact h.addPart hP hvalid hfresh (htotal hvalid) (hpush hvalid).1 (hpush hvalid).2 createdNow
        hstep
    · simp only [reassemblyStep, addPart_of_not_valid hvalid] at hstep
      cases hstep
      obtain ⟨hok, -, hbacked⟩ := h.backed.cleanupStale hP h.ok cleanupNow
      exact ⟨hok, hbacked, fun k text hmem => (h.kept k text hmem).cleanupStale hP h.ok h.backed
        fun pm hk => hfresh k text pm hmem hk⟩
  | commit sender refNum =>
    cases hstep
    obtain ⟨hok, hsnap, hbacked⟩ := h.backed.dropMessages hP [⟨sender, refNum⟩] h.ok
    refine ⟨hok, hbacked, fun k text hmem => ?_⟩
    obtain ⟨hmem, hne⟩ := List.mem_filter.mp hmem
    obtain ⟨pm, hk, hcomplete, htext, hwhole⟩ := h.kept k text hmem
    refine ⟨pm, ?_, hcomplete, htext, fun p hp => ?_⟩
    · exact (lookup_dropMessage _ _ _).trans (by simpa [hk] using hne)
    · exact hsnap ▸ List.mem_filter.mpr ⟨hwhole p hp, by simpa using hne⟩
  | reconnect now =>
    cases hstep
    obtain ⟨hok, -, hbacked⟩ := h.backed.rehydrate hP h.ok
      (effectiveTimeout w.reassembler.staleTimeout) now
    exact ⟨hok, hbacked, fun k text hmem => (h.kept k text hmem).rehydrate hP h.ok h.backed
      fun pm hk => he k text pm hmem hk⟩
  | restart now =>
    cases hstep
    obtain ⟨hok, hsnap⟩ := hP.reopen w.store h.ok
    have hbacked : Backed w.reassembler.pending (P.snapshot (reopen w.store)) := hsnap ▸ h.backed
    obtain ⟨hok', -, hbacked'⟩ := hbacked.rehydrate hP hok
      (effectiveTimeout w.reassembler.staleTimeout) now
    refine ⟨hok', hbacked', fun k text hmem => ?_⟩
    have hkept : Kept w.reassembler.pending (P.snapshot (reopen w.store)) k text :=
      hsnap ▸ h.kept k text hmem
    exact hkept.rehydrate hP hok hbacked fun pm hk => he k text pm hmem hk
  | iterate pending =>
    simp only [reassemblyStep] at hstep
    split at hstep
    · next hperm =>
      cases hstep
      have hlookup : ∀ k, pending.lookup k = w.reassembler.pending.lookup k :=
        fun k => AList.perm_lookup hperm
      refine ⟨h.ok, ⟨fun k pm hk => h.backed.refNum k pm ((hlookup k).symm.trans hk),
        fun k pm hk => h.backed.nonempty k pm ((hlookup k).symm.trans hk),
        fun k pm hk => h.backed.numbered k pm ((hlookup k).symm.trans hk), fun sp hsp => ?_⟩,
        fun k text hmem => ?_⟩
      · obtain ⟨pm, hk, hrest⟩ := h.backed.stored sp hsp
        exact ⟨pm, (hlookup _).trans hk, hrest⟩
      · obtain ⟨pm, hk, hrest⟩ := h.kept k text hmem
        exact ⟨pm, (hlookup _).trans hk, hrest⟩
    · cases hstep

end

/-! ## The gateway -/

section
variable (marshal : StoredPart → Except String Nat)

/-- Nothing fails, and the file refines the reference queue. -/
def PartDisk.Calm (s : PartDisk) : Prop :=
  s.outcomes = (fun _ => .done) ∧ ∃ b, s.buffer = some b ∧
    Refines marshal (some StoredPart.partKey) defaultCapacity b.items (b, s.file)

/-- **The gateway's store is a queue** where no file operation fails. -/
theorem queueStore_diskStore :
    QueueStore (diskStore marshal) PartDisk.reopen (PartDisk.Calm marshal) defaultCapacity
      (Fits marshal) where
  capacity_pos := by decide
  distinct s hs := by
    obtain ⟨-, b, hb, hrefines⟩ := hs
    simp only [diskStore, PartDisk.snapshot, hb]
    exact hrefines.distinct _ rfl
  push s sp hs hfits := by
    obtain ⟨houtcomes, b, hb, hrefines⟩ := hs
    obtain ⟨b', f', hpush, -, hb'⟩ := push_done hrefines.sync fun _ => hfits
    obtain ⟨t, ht, hrefines'⟩ := hrefines.step
      (show StoresReadable marshal _ (.push sp) from fun _ => hfits)
    simp only [Buffer.step, hpush] at ht
    cases ht
    simp only [diskStore, PartDisk.push, PartDisk.snapshot, hb, houtcomes, Outcomes.done, hpush]
    rw [← hrefines'.items_eq] at hrefines'
    exact ⟨⟨rfl, b', rfl, hrefines'⟩, by
      rw [PersistentBuffer.snapshot, hb'.items_eq, hrefines.keyFn_eq, hrefines.capacity_eq]; rfl⟩
  remove s key hs := by
    obtain ⟨houtcomes, b, hb, hrefines⟩ := hs
    have hdistinct : KeyedQueue.DistinctKeys b.keyFn b.items := hrefines.keyFn_eq ▸ hrefines.distinct
    obtain ⟨b', f', hremove, -, hb'⟩ := remove_done hrefines.sync hdistinct key
    obtain ⟨t, ht, hrefines'⟩ := hrefines.step
      (show StoresReadable marshal _ (.remove key) from trivial)
    simp only [Buffer.step, hremove] at ht
    cases ht
    simp only [diskStore, PartDisk.remove, PartDisk.snapshot, hb, houtcomes, Outcomes.done, hremove]
    rw [← hrefines'.items_eq] at hrefines'
    exact ⟨⟨rfl, b', rfl, hrefines'⟩, by
      rw [PersistentBuffer.snapshot, hb'.items_eq, hrefines.keyFn_eq]; rfl⟩
  reopen s hs := by
    obtain ⟨houtcomes, b, hb, hrefines⟩ := hs
    have hopen := newKeyed_done hrefines.sync
    rw [show b.capacity = defaultCapacity from hrefines.capacity_eq,
      show b.keyFn = some StoredPart.partKey from hrefines.keyFn_eq] at hopen
    simp only [diskStore, PartDisk.reopen, PartDisk.snapshot, houtcomes, Outcomes.done, hopen, hb]
    exact ⟨⟨rfl, b, rfl, hrefines⟩, rfl⟩

/-- A store whose file does not exist yet. -/
theorem calm_fresh : (PartDisk.fresh fun _ => .done).Calm marshal :=
  ⟨rfl, _, rfl, ⟨⟨rfl, rfl, fun l hl => by simp [PartDisk.fresh, File.allLines] at hl,
    by simp [Buffer.fresh]⟩, rfl, rfl, rfl, fun _ _ => List.nodup_nil⟩⟩

end

/-- The steps of the gateway, with parts of a hundred bytes each. -/
abbrev calmStep : World PartDisk → ReassemblyEvent → Option (World PartDisk) :=
  reassemblyStep (diskStore fun _ => .ok 100) PartDisk.reopen

/-- Both parts of a message, then another sender's part after four hundred seconds. -/
def lateRun : List ReassemblyEvent :=
  [.addPart ⟨"+1", 5, 1, 2, "A"⟩ 0 0, .addPart ⟨"+1", 5, 2, 2, "B"⟩ 0 0,
    .addPart ⟨"+2", 7, 1, 2, "C"⟩ 400000000000 400000000000]

/-- Both parts of a message, and a restart within the timeout. -/
def promptRun : List ReassemblyEvent :=
  [.addPart ⟨"+1", 5, 1, 2, "A"⟩ 0 0, .addPart ⟨"+1", 5, 2, 2, "B"⟩ 1 1, .restart 2]

end Svarla.Sms
