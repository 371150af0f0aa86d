import Mathlib.Data.List.Perm.Subperm
import Svarla.Lib.Run
import Svarla.Sms.Concat

/-!
# Runs of the reassembler

A `World` is a reassembler over its store, with two notes no code keeps: the calls of `AddPart` so
far, and the messages reported complete and not committed since. Between the calls the modem may
reconnect, which makes a new reassembler over the same store, the process may restart, which opens
the store again, and the map of pending messages may be iterated in another order.

A report is `Sound` if it is the text of one message all of whose parts were received. The
reassembler counts parts and looks them up by sender and reference alone, so a sender that reuses a
reference with another number of parts breaks it (`addPart_mixes_totals`). `addPart_sound` is the
run theorem under the condition `SameTotal`, over any store that gives back only what was pushed
(`HonestStore`).
-/

namespace Svarla.Sms

open Svarla.Lib

/-! ## Assembly -/

namespace PendingMessage

/-- The parts have distinct numbers, within the number of parts. -/
structure Numbered (pm : PendingMessage) : Prop where
  range : ∀ p ∈ pm.parts, 1 ≤ p.seqNum ∧ p.seqNum ≤ pm.totalParts
  nodup : (pm.parts.map SmsPart.seqNum).Nodup

/-- Adding a part keeps the numbers distinct. -/
theorem nodup_add {pm : PendingMessage} (h : (pm.parts.map SmsPart.seqNum).Nodup) (p : SmsPart) :
    ((pm.add p).parts.map SmsPart.seqNum).Nodup := by
  unfold PendingMessage.add
  split
  · exact h
  · next hnew =>
    rw [List.map_append, List.map_singleton]
    refine h.append (by simp) ?_
    rw [List.disjoint_singleton]
    intro hmem
    obtain ⟨q, hq, hqp⟩ := List.mem_map.mp hmem
    exact hnew (List.any_eq_true.mpr ⟨q, hq, by simpa using hqp⟩)

/-- What is in a message after an addition. -/
theorem mem_add {pm : PendingMessage} {p q : SmsPart} (h : q ∈ (pm.add p).parts) :
    q ∈ pm.parts ∨ q = p := by
  unfold add at h
  split at h
  · exact .inl h
  · simpa using h

@[simp] theorem totalParts_add (pm : PendingMessage) (p : SmsPart) :
    (pm.add p).totalParts = pm.totalParts := by
  unfold add
  split <;> rfl

@[simp] theorem createdAt_add (pm : PendingMessage) (p : SmsPart) :
    (pm.add p).createdAt = pm.createdAt := by
  unfold add
  split <;> rfl

@[simp] theorem refNum_add (pm : PendingMessage) (p : SmsPart) :
    (pm.add p).refNum = pm.refNum := by
  unfold add
  split <;> rfl

/-- Adding a part with a number in range keeps the numbering. -/
theorem Numbered.add {pm : PendingMessage} (h : pm.Numbered) {p : SmsPart}
    (hp : 1 ≤ p.seqNum ∧ p.seqNum ≤ pm.totalParts) : (pm.add p).Numbered := by
  refine ⟨fun q hq => ?_, nodup_add h.nodup p⟩
  rw [totalParts_add]
  rcases mem_add hq with hq | rfl
  · exact h.range q hq
  · exact hp

/-- One iteration of the loop of `assemble`. -/
def place (totalParts : Int) (bodies : List String) (p : SmsPart) : List String :=
  if 1 ≤ p.seqNum ∧ p.seqNum ≤ totalParts then bodies.set (p.seqNum - 1).toNat p.body else bodies

theorem length_foldl_place (totalParts : Int) (parts : List SmsPart) (bodies : List String) :
    (parts.foldl (place totalParts) bodies).length = bodies.length := by
  induction parts generalizing bodies with
  | nil => rfl
  | cons p rest ih =>
    rw [List.foldl_cons, ih]
    unfold place
    split <;> simp

/-- A number no part has keeps its entry. -/
theorem getElem?_foldl_place_of_notMem {totalParts : Int} {parts : List SmsPart} {i : Nat}
    (hi : ∀ p ∈ parts, p.seqNum ≠ i + 1) (bodies : List String) :
    (parts.foldl (place totalParts) bodies)[i]? = bodies[i]? := by
  induction parts generalizing bodies with
  | nil => rfl
  | cons p rest ih =>
    rw [List.foldl_cons, ih (fun q hq => hi q (List.mem_cons_of_mem _ hq))]
    have hp := hi p List.mem_cons_self
    unfold place
    split
    · rw [List.getElem?_set_ne (by omega)]
    · rfl

/-- A part with a number in range that no other part has is found at its number. -/
theorem getElem?_foldl_place {totalParts : Int} {parts : List SmsPart} {bodies : List String}
    (hlen : bodies.length = totalParts.toNat) (hnodup : (parts.map SmsPart.seqNum).Nodup) {p : SmsPart}
    (hp : p ∈ parts) (hrange : 1 ≤ p.seqNum ∧ p.seqNum ≤ totalParts) :
    (parts.foldl (place totalParts) bodies)[(p.seqNum - 1).toNat]? = some p.body := by
  induction parts generalizing bodies with
  | nil => cases hp
  | cons q rest ih =>
    rw [List.map_cons, List.nodup_cons] at hnodup
    have hplace : (place totalParts bodies q).length = totalParts.toNat := by
      rw [← hlen]
      unfold place
      split <;> simp
    rw [List.foldl_cons]
    rcases List.mem_cons.mp hp with rfl | hp
    · rw [getElem?_foldl_place_of_notMem, place, if_pos hrange, List.getElem?_set_self (by omega)]
      intro x hx hxp
      refine hnodup.1 (List.mem_map.mpr ⟨x, hx, ?_⟩)
      omega
    · exact ih hplace hnodup.2 hp

theorem length_ordered (pm : PendingMessage) : pm.ordered.length = pm.totalParts.toNat :=
  (length_foldl_place _ _ _).trans List.length_replicate

/-- What `assemble` finds at the number of a part. -/
theorem getElem?_ordered {pm : PendingMessage} (hnodup : (pm.parts.map SmsPart.seqNum).Nodup)
    {p : SmsPart} (hp : p ∈ pm.parts) (hrange : 1 ≤ p.seqNum ∧ p.seqNum ≤ pm.totalParts) :
    pm.ordered[(p.seqNum - 1).toNat]? = some p.body :=
  getElem?_foldl_place List.length_replicate hnodup hp hrange

/-- A complete numbered message has every number. -/
theorem Numbered.exists_part {pm : PendingMessage} (h : pm.Numbered) (hcomplete : pm.isComplete)
    {i : Nat} (hi : (i : Int) < pm.totalParts) : ∃ p ∈ pm.parts, p.seqNum = i + 1 := by
  have hcount : (pm.parts.length : Int) = pm.totalParts := by simpa [isComplete] using hcomplete
  -- as many distinct numbers as there are numbers in range are all of them
  have hsub : pm.parts.map SmsPart.seqNum ⊆
      (List.range pm.parts.length).map (fun n : Nat => (n : Int) + 1) := by
    intro n hn
    obtain ⟨p, hp, rfl⟩ := List.mem_map.mp hn
    have hrange := h.range p hp
    exact List.mem_map.mpr ⟨(p.seqNum - 1).toNat, List.mem_range.mpr (by omega), by omega⟩
  have hperm := (List.subperm_of_subset h.nodup hsub).perm_of_length_le (by simp)
  have hmem : (i : Int) + 1 ∈ (List.range pm.parts.length).map (fun n : Nat => (n : Int) + 1) :=
    List.mem_map.mpr ⟨i, List.mem_range.mpr (by omega), rfl⟩
  obtain ⟨p, hp, hpi⟩ := List.mem_map.mp (hperm.mem_iff.mpr hmem)
  exact ⟨p, hp, hpi⟩

/-- **What a complete message assembles to**: the body of each part, at its number. -/
theorem Numbered.ordered_getElem {pm : PendingMessage} (h : pm.Numbered)
    (hcomplete : pm.isComplete) : (pm.ordered.length : Int) = pm.totalParts ∧
      ∀ (i : Nat) (hi : i < pm.ordered.length), ⟨i + 1, pm.ordered[i]⟩ ∈ pm.parts := by
  have hcount : (pm.parts.length : Int) = pm.totalParts := by simpa [isComplete] using hcomplete
  have hlen := pm.length_ordered
  refine ⟨by omega, fun i hi => ?_⟩
  obtain ⟨p, hp, hpi⟩ := h.exists_part hcomplete (show (i : Int) < pm.totalParts by omega)
  have hget := getElem?_ordered h.nodup hp (h.range p hp)
  have hidx : (p.seqNum - 1).toNat = i := by omega
  have hbody : pm.ordered[i] = p.body := by
    rw [hidx] at hget
    exact (List.getElem_eq_iff hi).mpr hget
  rw [hbody, ← hpi]
  exact hp

end PendingMessage

/-! ## Runs -/

/-- The reassembler over its store, with what happened so far. -/
structure World (S : Type) where
  reassembler : Reassembler
  store : S
  /-- The calls of `AddPart`. -/
  received : List PartCall
  /-- The messages reported complete, with their texts, and not committed since. -/
  completed : List (ConcatKey × String)

/-- What can happen next. -/
inductive ReassemblyEvent
  /-- `AddPart`, at two readings of the clock. -/
  | addPart (c : PartCall) (cleanupNow createdNow : Int)
  /-- `Commit`. -/
  | commit (sender : String) (refNum : Int)
  /-- The modem reconnects: a new reassembler over the same store. -/
  | reconnect (now : Int)
  /-- The process restarts: a new reassembler over the store opened again. -/
  | restart (now : Int)
  /-- The map of pending messages is iterated in another order. -/
  | iterate (pending : Pending)

section
variable {S : Type} (P : PartStore S) (reopen : S → S)

/-- One event. -/
def reassemblyStep (w : World S) : ReassemblyEvent → Option (World S)
  | .addPart c cleanupNow createdNow =>
    let (r, s, complete, text) := addPart P w.reassembler w.store c cleanupNow createdNow
    some
      { reassembler := r, store := s, received := c :: w.received
        completed :=
          if complete then (c.concatKey, text) :: w.completed.filter (·.1 ≠ c.concatKey)
          else w.completed }
  | .commit sender refNum =>
    let (r, s) := commit P w.reassembler w.store sender refNum
    some { w with
      reassembler := r, store := s, completed := w.completed.filter (·.1 ≠ ⟨sender, refNum⟩) }
  | .reconnect now =>
    let (r, s) := newReassembler P w.reassembler.staleTimeout w.store now
    some { w with reassembler := r, store := s }
  | .restart now =>
    let (r, s) := newReassembler P w.reassembler.staleTimeout (reopen w.store) now
    some { w with reassembler := r, store := s }
  | .iterate pending =>
    if pending.entries.Perm w.reassembler.pending.entries then
      some { w with reassembler := { w.reassembler with pending } }
    else none

/-- A new reassembler over a store, before anything happened. -/
def World.start (staleTimeout : Int) (s : S) (now : Int) : World S :=
  let (r, s) := newReassembler P staleTimeout s now
  { reassembler := r, store := s, received := [], completed := [] }

/-- **Soundness of a report.** The text is that of one message, all of whose parts were received. -/
def Sound (received : List PartCall) (sender : String) (refNum totalParts : Int) (text : String) :
    Prop :=
  ∃ bodies : List String, (bodies.length : Int) = totalParts ∧ text = String.join bodies ∧
    ∀ (i : Nat) (hi : i < bodies.length),
      (⟨sender, refNum, i + 1, totalParts, bodies[i]⟩ : PartCall) ∈ received

/-- The stored parts a new reassembler keeps agree on the number of parts of their message. -/
def UniformStore (staleTimeout now : Int) (parts : List StoredPart) : Prop :=
  ∀ sp ∈ parts, ∀ sp' ∈ parts, ¬ Dropped staleTimeout now sp → ¬ Dropped staleTimeout now sp' →
    sp.concatKey = sp'.concatKey → sp.totalParts = sp'.totalParts

/-- The timeout a reassembler with this setting uses. -/
def effectiveTimeout (staleTimeout : Int) : Int :=
  if staleTimeout = 0 then defaultStaleTimeout else staleTimeout

/-- The condition on an event: a reference is not in use with another number of parts. -/
def SameTotal (w : World S) : ReassemblyEvent → Prop
  | .addPart c cleanupNow _ => c.Valid → ∀ pm, w.reassembler.pending.lookup c.concatKey = some pm →
      ¬ pm.Stale w.reassembler.staleTimeout cleanupNow → pm.totalParts = c.totalParts
  | .reconnect now =>
    UniformStore (effectiveTimeout w.reassembler.staleTimeout) now (P.snapshot w.store)
  | .restart now =>
    UniformStore (effectiveTimeout w.reassembler.staleTimeout) now (P.snapshot (reopen w.store))
  | _ => True

/-- A store that gives back only what was pushed to it: `Holds` is what it may ever give back. -/
structure HonestStore (Holds : S → StoredPart → Prop) : Prop where
  snapshot : ∀ s, ∀ sp ∈ P.snapshot s, Holds s sp
  push : ∀ s p sp, Holds (P.push s p).1 sp → sp = p ∨ Holds s sp
  remove : ∀ s key sp, Holds (P.remove s key).1 sp → Holds s sp
  reopen : ∀ s sp, Holds (reopen s) sp → Holds s sp

end

/-! ## Soundness -/

section
variable {S : Type} {P : PartStore S} {reopen : S → S} {Holds : S → StoredPart → Prop}

/-- The call a stored part comes from. -/
def StoredPart.call (sp : StoredPart) : PartCall :=
  ⟨sp.sender, sp.refNum, sp.seqNum, sp.totalParts, sp.body⟩

/-- The parts of a pending message were received for it. -/
structure Received (received : List PartCall) (k : ConcatKey) (pm : PendingMessage) : Prop where
  numbered : pm.Numbered
  calls : ∀ p ∈ pm.parts, (⟨k.sender, k.refNum, p.seqNum, pm.totalParts, p.body⟩ : PartCall) ∈ received

/-- What a run keeps: pending messages and stored parts consist of received parts. -/
structure AllReceived (Holds : S → StoredPart → Prop) (received : List PartCall) (pending : Pending)
    (s : S) : Prop where
  pending : ∀ k pm, pending.lookup k = some pm → Received received k pm
  store : ∀ sp, Holds s sp → sp.call ∈ received

/-- More calls do no harm. -/
theorem Received.mono {received received' : List PartCall} {k : ConcatKey} {pm : PendingMessage}
    (h : Received received k pm) (hsub : ∀ c ∈ received, c ∈ received') : Received received' k pm :=
  ⟨h.numbered, fun p hp => hsub _ (h.calls p hp)⟩

/-- A received part joins its message. -/
theorem Received.add {received : List PartCall} {c : PartCall} {pm : PendingMessage}
    (h : Received received c.concatKey pm) (hc : c.Valid) (htotal : pm.totalParts = c.totalParts)
    (hmem : c ∈ received) : Received received c.concatKey (pm.add ⟨c.seqNum, c.body⟩) := by
  unfold PartCall.Valid at hc
  refine ⟨h.numbered.add ⟨by dsimp only; omega, by dsimp only; omega⟩, fun p hp => ?_⟩
  rw [PendingMessage.totalParts_add]
  rcases PendingMessage.mem_add hp with hp | rfl
  · exact h.calls p hp
  · rw [htotal]
    exact hmem

/-- A complete message of received parts makes a sound report. -/
theorem Received.sound {received : List PartCall} {k : ConcatKey} {pm : PendingMessage}
    (h : Received received k pm) (hcomplete : pm.isComplete) :
    Sound received k.sender k.refNum pm.totalParts pm.assemble := by
  obtain ⟨hlen, hparts⟩ := h.numbered.ordered_getElem hcomplete
  exact ⟨pm.ordered, hlen, rfl, fun i hi => h.calls _ (hparts i hi)⟩

/-- Removals leave a store that holds less. -/
theorem HonestStore.removes (hP : HonestStore P reopen Holds) (keys : List String) {s : S}
    {sp : StoredPart} (h : Holds (keys.foldl (fun s key => (P.remove s key).1) s) sp) :
    Holds s sp := by
  induction keys generalizing s with
  | nil => exact h
  | cons key keys ih => exact hP.remove _ _ _ (ih h)

/-- Dropping messages leaves fewer of them, and a store that holds less. -/
theorem AllReceived.dropMessages (hP : HonestStore P reopen Holds) {received : List PartCall}
    (keys : List ConcatKey) {r : Reassembler} {s : S}
    (h : AllReceived Holds received r.pending s) :
    AllReceived Holds received (keys.foldl (dropMessage P) (r, s)).1.pending
      (keys.foldl (dropMessage P) (r, s)).2 := by
  refine ⟨fun k pm hk => ?_, fun sp hsp => ?_⟩
  · rw [lookup_foldl_dropMessage] at hk
    split at hk
    · cases hk
    · exact h.pending k pm hk
  · refine h.store sp ?_
    clear h
    induction keys generalizing r s with
    | nil => exact hsp
    | cons key keys ih =>
      have hdrop := ih (r := (dropMessage P (r, s) key).1) (s := (dropMessage P (r, s) key).2) hsp
      unfold dropMessage at hdrop
      split at hdrop
      · exact hdrop
      · exact hP.removes _ hdrop

/-- One part keeps the invariant, and its report is sound. -/
theorem AllReceived.addPart (hP : HonestStore P reopen Holds) {received : List PartCall}
    {r : Reassembler} {s : S} (h : AllReceived Holds received r.pending s) {c : PartCall}
    {cleanupNow : Int} (hc : c.Valid → ∀ pm, r.pending.lookup c.concatKey = some pm →
      ¬ pm.Stale r.staleTimeout cleanupNow → pm.totalParts = c.totalParts) (createdNow : Int) :
    AllReceived Holds (c :: received) (addPart P r s c cleanupNow createdNow).1.pending
        (addPart P r s c cleanupNow createdNow).2.1 ∧
      ((addPart P r s c cleanupNow createdNow).2.2.1 →
        Sound (c :: received) c.sender c.refNum c.totalParts
          (addPart P r s c cleanupNow createdNow).2.2.2) := by
  have hclean : AllReceived Holds received (cleanupStale P r s cleanupNow).1.pending
      (cleanupStale P r s cleanupNow).2 := h.dropMessages hP _
  have hmore : ∀ c' ∈ received, c' ∈ c :: received := fun _ => List.mem_cons_of_mem c
  by_cases hvalid : c.Valid
  · rw [addPart_of_valid hvalid]
    dsimp only
    -- the message the call finds after the cleanup, or a new one
    have hmessage : ∃ pm, c.message (cleanupStale P r s cleanupNow).1 createdNow = pm ∧
        pm.totalParts = c.totalParts ∧ Received (c :: received) c.concatKey pm := by
      refine ⟨_, rfl, ?_⟩
      unfold PartCall.message
      cases hlookup : (cleanupStale P r s cleanupNow).1.pending.lookup c.concatKey with
      | none =>
        exact ⟨rfl, ⟨by simp, by simp⟩, by simp⟩
      | some pm =>
        obtain ⟨hbefore, hfresh⟩ := lookup_cleanupStale.mp hlookup
        exact ⟨hc hvalid pm hbefore hfresh, (hclean.pending _ _ hlookup).mono hmore⟩
    obtain ⟨pm, hpm, htotal, hreceived⟩ := hmessage
    have hadded := hreceived.add hvalid htotal List.mem_cons_self
    rw [hpm]
    refine ⟨⟨fun k pm' hk => ?_, fun sp hsp => ?_⟩, ?_⟩
    · by_cases hkey : k = c.concatKey
      · subst hkey
        rw [AList.lookup_insert] at hk
        cases hk
        exact hadded
      · rw [AList.lookup_insert_ne hkey] at hk
        exact (hclean.pending k pm' hk).mono hmore
    · rcases hP.push _ _ _ hsp with rfl | hsp
      · exact List.mem_cons_self
      · exact hmore _ (hclean.store sp hsp)
    · unfold report
      split
      · next hcomplete =>
        intro _
        have hsound := hadded.sound hcomplete
        rwa [PendingMessage.totalParts_add, htotal] at hsound
      · simp
  · rw [addPart_of_not_valid hvalid]
    exact ⟨⟨fun k pm hk => (hclean.pending k pm hk).mono hmore,
      fun sp hsp => hmore _ (hclean.store sp hsp)⟩, by simp⟩

/-- A stored part that is kept is one a valid call could have brought. -/
theorem StoredPart.valid_call {sp : StoredPart} {staleTimeout now : Int}
    (h : ¬ Dropped staleTimeout now sp) : sp.call.Valid := by
  unfold Dropped at h
  unfold PartCall.Valid StoredPart.call
  dsimp only
  omega

/-- Stored parts that were received, and agree on the number of parts, make received messages. -/
theorem AllReceived.rehydrate (hP : HonestStore P reopen Holds) {received : List PartCall}
    {staleTimeout now : Int} {parts : List StoredPart} (hcalls : ∀ sp ∈ parts, sp.call ∈ received)
    (huniform : UniformStore staleTimeout now parts) {pending : Pending} {s : S}
    (hagree : ∀ sp ∈ parts, ¬ Dropped staleTimeout now sp →
      ∀ pm, pending.lookup sp.concatKey = some pm → pm.totalParts = sp.totalParts)
    (h : AllReceived Holds received pending s) :
    AllReceived Holds received (parts.foldl (rehydratePart P staleTimeout now) (pending, s)).1
      (parts.foldl (rehydratePart P staleTimeout now) (pending, s)).2 := by
  induction parts generalizing pending s with
  | nil => exact h
  | cons sp rest ih =>
    have hcalls' : ∀ sp ∈ rest, sp.call ∈ received := fun x hx => hcalls x (List.mem_cons_of_mem _ hx)
    have huniform' : UniformStore staleTimeout now rest := fun x hx y hy =>
      huniform x (List.mem_cons_of_mem _ hx) y (List.mem_cons_of_mem _ hy)
    rw [List.foldl_cons]
    unfold rehydratePart
    split
    · refine ih hcalls' huniform' (fun x hx => hagree x (List.mem_cons_of_mem _ hx)) ?_
      exact ⟨h.pending, fun x hx => h.store x (hP.remove _ _ _ hx)⟩
    · next hkept =>
      -- the message the part joins has the part's total, whether it is there already or new
      have hmessage : ∃ pm, (pending.lookup sp.concatKey).getD
            ⟨sp.refNum, sp.totalParts, [], sp.receivedAt⟩ = pm ∧
          pm.totalParts = sp.totalParts ∧ Received received sp.call.concatKey pm := by
        refine ⟨_, rfl, ?_⟩
        cases hlookup : pending.lookup sp.concatKey with
        | none => exact ⟨rfl, ⟨by simp, by simp⟩, by simp⟩
        | some pm =>
          exact ⟨hagree sp List.mem_cons_self hkept pm hlookup, h.pending _ _ hlookup⟩
      obtain ⟨pm, hpm, htotal, hreceived⟩ := hmessage
      have hadded := hreceived.add (StoredPart.valid_call hkept) htotal
        (hcalls sp List.mem_cons_self)
      dsimp only
      rw [hpm]
      refine ih hcalls' huniform' (fun x hx hxkept pm' hlookup => ?_)
        ⟨fun k pm' hlookup => ?_, h.store⟩
      · by_cases hkey : x.concatKey = sp.concatKey
        · rw [hkey, AList.lookup_insert] at hlookup
          cases hlookup
          rw [PendingMessage.totalParts_add, htotal]
          exact huniform sp List.mem_cons_self x (List.mem_cons_of_mem _ hx) hkept hxkept hkey.symm
        · rw [AList.lookup_insert_ne hkey] at hlookup
          exact hagree x (List.mem_cons_of_mem _ hx) hxkept pm' hlookup
      · by_cases hkey : k = sp.concatKey
        · subst hkey
          rw [AList.lookup_insert] at hlookup
          cases hlookup
          exact hadded
        · rw [AList.lookup_insert_ne hkey] at hlookup
          exact h.pending k pm' hlookup

/-- A new reassembler starts from received messages. -/
theorem AllReceived.newReassembler (hP : HonestStore P reopen Holds) {received : List PartCall}
    {staleTimeout now : Int} {s : S} (hstore : ∀ sp, Holds s sp → sp.call ∈ received)
    (huniform : UniformStore (effectiveTimeout staleTimeout) now (P.snapshot s)) :
    AllReceived Holds received (newReassembler P staleTimeout s now).1.pending
      (newReassembler P staleTimeout s now).2 := by
  refine AllReceived.rehydrate hP (fun sp hsp => hstore sp (hP.snapshot s sp hsp)) huniform
    (fun sp _ _ pm hlookup => ?_) ⟨fun k pm hlookup => ?_, hstore⟩
  · simp at hlookup
  · simp at hlookup

/-- **Every event that meets the condition keeps the invariant.** -/
theorem AllReceived.step (hP : HonestStore P reopen Holds) {w t : World S} {e : ReassemblyEvent}
    (h : AllReceived Holds w.received w.reassembler.pending w.store)
    (he : SameTotal P reopen w e) (hstep : reassemblyStep P reopen w e = some t) :
    AllReceived Holds t.received t.reassembler.pending t.store := by
  cases e with
  | addPart c cleanupNow createdNow =>
    cases hstep
    exact (h.addPart hP he createdNow).1
  | commit sender refNum =>
    cases hstep
    exact h.dropMessages hP [⟨sender, refNum⟩]
  | reconnect now =>
    cases hstep
    exact AllReceived.newReassembler hP h.store he
  | restart now =>
    cases hstep
    exact AllReceived.newReassembler hP (fun sp hsp => h.store sp (hP.reopen _ sp hsp)) he
  | iterate pending =>
    simp only [reassemblyStep] at hstep
    split at hstep
    · next hperm =>
      cases hstep
      refine ⟨fun k pm hlookup => h.pending k pm ?_, h.store⟩
      rwa [← AList.perm_lookup hperm]
    · cases hstep

/-- **Reassembly is sound over whole runs**, over any store that gives back only what was pushed: a
report of a call that meets the condition, after a run whose events all did, is the text of one
message all of whose parts were received. -/
theorem exec_addPart_sound (hP : HonestStore P reopen Holds) {staleTimeout now : Int} {s : S}
    (hs : ∀ sp, ¬ Holds s sp) {es : List ReassemblyEvent} {w : World S}
    (hes : Guarded (reassemblyStep P reopen) (SameTotal P reopen) (World.start P staleTimeout s now)
      es)
    (hrun : exec (reassemblyStep P reopen) (World.start P staleTimeout s now) es = some w)
    {c : PartCall} {cleanupNow createdNow : Int}
    (hc : SameTotal P reopen w (.addPart c cleanupNow createdNow)) {r : Reassembler} {s' : S}
    {text : String}
    (hreport : addPart P w.reassembler w.store c cleanupNow createdNow = (r, s', true, text)) :
    Sound (c :: w.received) c.sender c.refNum c.totalParts text := by
  have hstart : AllReceived Holds (World.start P staleTimeout s now).received
      (World.start P staleTimeout s now).reassembler.pending
      (World.start P staleTimeout s now).store := by
    refine AllReceived.newReassembler hP (fun sp hsp => absurd hsp (hs sp)) ?_
    intro sp hsp
    exact absurd (hP.snapshot s sp hsp) (hs sp)
  have hinv := hes.invariant (fun w e t h he hstep => AllReceived.step hP h he hstep) hstart hrun
  have hsound := (hinv.addPart hP hc createdNow).2
  rw [hreport] at hsound
  exact hsound rfl

end

end Svarla.Sms
