import Mathlib.Data.List.AList

/-!
# Reassembly of concatenated messages

`modem-gateway/internal/sms/concat.go`: the `Reassembler` over its durable part store. The store is
an interface in the source and a record of operations here (`PartStore`), over any type of store
states; a reassembler without a store is one whose store keeps nothing.

The pending messages are an association list without repeated keys. Go iterates a map in any order,
so the order of the entries is nobody's promise: `Svarla.Sms.Reassembly` lets it change between the
steps of a run. Instants and durations are nanoseconds.
-/

namespace Svarla.Sms

/-! ## Data -/

/-- `concatKey`: what identifies a concatenated message. -/
structure ConcatKey where
  sender : String
  refNum : Int
  deriving DecidableEq, Repr

/-- `smsPart`: one part of a message. -/
structure SmsPart where
  /-- The 1-based sequence number. -/
  seqNum : Int
  body : String
  deriving DecidableEq, Repr

/-- `StoredPart`: one part as the store keeps it. -/
structure StoredPart where
  sender : String
  refNum : Int
  seqNum : Int
  totalParts : Int
  body : String
  receivedAt : Int
  deriving DecidableEq, Repr

/-- `PartKey`: the key of a stored part. -/
def StoredPart.partKey (p : StoredPart) : String :=
  s!"{p.sender}|{p.refNum}|{p.seqNum}/{p.totalParts}"

/-- The message a stored part belongs to. -/
def StoredPart.concatKey (p : StoredPart) : ConcatKey := ⟨p.sender, p.refNum⟩

/-- `PartStore`: the operations of a store, with their errors, and whether there is a store. -/
structure PartStore (S : Type) where
  push : S → StoredPart → S × Option String
  remove : S → String → S × Option String
  snapshot : S → List StoredPart
  /-- `r.store != nil`. -/
  configured : S → Bool

/-- `pendingMessage`: the parts of a message received so far. -/
structure PendingMessage where
  refNum : Int
  totalParts : Int
  parts : List SmsPart
  createdAt : Int
  deriving DecidableEq, Repr

/-- The map of pending messages. -/
abbrev Pending := AList fun _ : ConcatKey => PendingMessage

/-- `Reassembler`, without its store. -/
structure Reassembler where
  pending : Pending
  staleTimeout : Int

/-- The arguments of a call of `AddPart`. -/
structure PartCall where
  sender : String
  refNum : Int
  seqNum : Int
  totalParts : Int
  body : String
  deriving DecidableEq, Repr

/-- The message a call belongs to. -/
def PartCall.concatKey (c : PartCall) : ConcatKey := ⟨c.sender, c.refNum⟩

/-- The part a call stores. -/
def PartCall.stored (c : PartCall) (receivedAt : Int) : StoredPart :=
  ⟨c.sender, c.refNum, c.seqNum, c.totalParts, c.body, receivedAt⟩

/-- The validation of `AddPart`. -/
def PartCall.Valid (c : PartCall) : Prop :=
  ¬ (c.seqNum < 1 ∨ c.totalParts < c.seqNum ∨ c.totalParts < 1)

instance (c : PartCall) : Decidable c.Valid := inferInstanceAs (Decidable (¬ _))

/-! ## Pending messages -/

namespace PendingMessage

/-- `isComplete`: as many parts as are expected. -/
def isComplete (pm : PendingMessage) : Bool := (pm.parts.length : Int) == pm.totalParts

/-- The slice `assemble` fills: each part's body at its number. -/
def ordered (pm : PendingMessage) : List String :=
  pm.parts.foldl
    (fun bodies p =>
      if 1 ≤ p.seqNum ∧ p.seqNum ≤ pm.totalParts then bodies.set (p.seqNum - 1).toNat p.body
      else bodies)
    (List.replicate pm.totalParts.toNat "")

/-- `assemble`: the bodies in sequence. -/
def assemble (pm : PendingMessage) : String := String.join pm.ordered

/-- A part with this number is there. -/
def hasSeq (pm : PendingMessage) (seqNum : Int) : Bool := pm.parts.any (·.seqNum == seqNum)

/-- The message with one more part; a duplicate is ignored. -/
def add (pm : PendingMessage) (p : SmsPart) : PendingMessage :=
  if pm.hasSeq p.seqNum then pm else { pm with parts := pm.parts ++ [p] }

/-- Pending for longer than the timeout. -/
def Stale (pm : PendingMessage) (staleTimeout now : Int) : Prop :=
  staleTimeout < now - pm.createdAt

instance (pm : PendingMessage) (staleTimeout now : Int) : Decidable (pm.Stale staleTimeout now) :=
  inferInstanceAs (Decidable (_ < _))

end PendingMessage

/-! ## The reassembler -/

/-- `DefaultStaleTimeout`: five minutes. -/
def defaultStaleTimeout : Int := 5 * 60 * 1000000000

section
variable {S : Type} (P : PartStore S)

/-- The keys of a message's parts in the store. -/
def PendingMessage.partKeys (pm : PendingMessage) (sender : String) : List String :=
  pm.parts.map fun p =>
    StoredPart.partKey ⟨sender, pm.refNum, p.seqNum, pm.totalParts, "", 0⟩

/-- `removeStoredParts`: every part of a message is removed from the store, an error only logged. -/
def removeStoredParts (sender : String) (pm : PendingMessage) (s : S) : S :=
  (pm.partKeys sender).foldl (fun s key => (P.remove s key).1) s

/-- The keys of the stale messages, in the order the map is iterated in. -/
def staleKeys (r : Reassembler) (now : Int) : List ConcatKey :=
  (r.pending.entries.filter fun e => e.2.Stale r.staleTimeout now).map (·.1)

/-- A message goes, with its stored parts. -/
def dropMessage (st : Reassembler × S) (key : ConcatKey) : Reassembler × S :=
  match st.1.pending.lookup key with
  | none => st
  | some pm =>
    ({ st.1 with pending := st.1.pending.erase key }, removeStoredParts P key.sender pm st.2)

/-- `cleanupStaleLocked`: the stale messages go. -/
def cleanupStale (r : Reassembler) (s : S) (now : Int) : Reassembler × S :=
  (staleKeys r now).foldl (dropMessage P) (r, s)

/-- `persistPart`: the part is pushed to the store, an error only logged. -/
def persistPart (c : PartCall) (receivedAt : Int) (s : S) : S :=
  (P.push s (c.stored receivedAt)).1

/-- What `AddPart` reports of a message. -/
def report (pm : PendingMessage) : Bool × String :=
  if pm.isComplete then (true, pm.assemble) else (false, "")

/-- `AddPart`: one part received, at two readings of the clock, with the report. -/
def addPart (r : Reassembler) (s : S) (c : PartCall) (cleanupNow createdNow : Int) :
    Reassembler × S × Bool × String :=
  let (r, s) := cleanupStale P r s cleanupNow
  if ¬ c.Valid then (r, s, false, "")
  else
    let pm := (r.pending.lookup c.concatKey).getD ⟨c.refNum, c.totalParts, [], createdNow⟩
    let s := persistPart P c pm.createdAt s
    let pm := pm.add ⟨c.seqNum, c.body⟩
    ({ r with pending := r.pending.insert c.concatKey pm }, s, report pm)

/-- `Commit`: the message goes. -/
def commit (r : Reassembler) (s : S) (sender : String) (refNum : Int) : Reassembler × S :=
  dropMessage P (r, s) ⟨sender, refNum⟩

/-- A stored part is dropped at start-up: it is stale, or its numbers are no part's. -/
def Dropped (staleTimeout now : Int) (sp : StoredPart) : Prop :=
  staleTimeout < now - sp.receivedAt ∨
    sp.seqNum < 1 ∨ sp.totalParts < 1 ∨ sp.totalParts < sp.seqNum

instance (staleTimeout now : Int) (sp : StoredPart) : Decidable (Dropped staleTimeout now sp) :=
  inferInstanceAs (Decidable (_ ∨ _))

/-- One stored part of `rehydrateFromStore`: dropped, or put with the message it belongs to. -/
def rehydratePart (staleTimeout now : Int) (st : Pending × S) (sp : StoredPart) : Pending × S :=
  if Dropped staleTimeout now sp then (st.1, (P.remove st.2 sp.partKey).1)
  else
    let pm := (st.1.lookup sp.concatKey).getD ⟨sp.refNum, sp.totalParts, [], sp.receivedAt⟩
    (st.1.insert sp.concatKey (pm.add ⟨sp.seqNum, sp.body⟩), st.2)

/-- `NewReassemblerWithStore`: a reassembler that starts from the stored parts. -/
def newReassembler (staleTimeout : Int) (s : S) (now : Int) : Reassembler × S :=
  let staleTimeout := if staleTimeout = 0 then defaultStaleTimeout else staleTimeout
  let (pending, s) := (P.snapshot s).foldl (rehydratePart P staleTimeout now) (∅, s)
  ({ pending, staleTimeout }, s)

/-! ## What the steps do to the pending messages -/

variable {P}

theorem lookup_dropMessage (st : Reassembler × S) (key k : ConcatKey) :
    (dropMessage P st key).1.pending.lookup k =
      if k = key then none else st.1.pending.lookup k := by
  unfold dropMessage
  split
  · next hnone =>
    split
    · next heq => rw [heq, hnone]
    · rfl
  · split
    · next heq => rw [heq]; exact AList.lookup_erase _ _
    · next hne => exact AList.lookup_erase_ne hne

@[simp] theorem staleTimeout_dropMessage (st : Reassembler × S) (key : ConcatKey) :
    (dropMessage P st key).1.staleTimeout = st.1.staleTimeout := by
  unfold dropMessage
  split <;> rfl

theorem lookup_foldl_dropMessage (keys : List ConcatKey) (st : Reassembler × S) (k : ConcatKey) :
    (keys.foldl (dropMessage P) st).1.pending.lookup k =
      if k ∈ keys then none else st.1.pending.lookup k := by
  induction keys generalizing st with
  | nil => simp
  | cons key keys ih =>
    rw [List.foldl_cons, ih, lookup_dropMessage]
    by_cases hk : k = key <;> by_cases hks : k ∈ keys <;> simp [hk, hks]

theorem mem_staleKeys {r : Reassembler} {now : Int} {k : ConcatKey} :
    k ∈ staleKeys r now ↔ ∃ pm, r.pending.lookup k = some pm ∧ pm.Stale r.staleTimeout now := by
  simp only [staleKeys, List.mem_map, List.mem_filter, decide_eq_true_eq]
  constructor
  · rintro ⟨⟨k', pm⟩, ⟨hmem, hstale⟩, rfl⟩
    exact ⟨pm, AList.mem_lookup_iff.mpr hmem, hstale⟩
  · rintro ⟨pm, hlookup, hstale⟩
    exact ⟨⟨k, pm⟩, ⟨AList.mem_lookup_iff.mp hlookup, hstale⟩, rfl⟩

/-- **What a cleanup keeps**: the messages that are not stale. -/
theorem lookup_cleanupStale {r : Reassembler} {s : S} {now : Int} {k : ConcatKey}
    {pm : PendingMessage} :
    (cleanupStale P r s now).1.pending.lookup k = some pm ↔
      r.pending.lookup k = some pm ∧ ¬ pm.Stale r.staleTimeout now := by
  unfold cleanupStale
  rw [lookup_foldl_dropMessage]
  split
  · next hmem =>
    obtain ⟨pm', hlookup, hstale⟩ := mem_staleKeys.mp hmem
    simp only [reduceCtorEq, false_iff, not_and, Classical.not_not]
    intro hlookup'
    rw [hlookup] at hlookup'
    cases hlookup'
    exact hstale
  · next hmem =>
    refine ⟨fun h => ⟨h, fun hstale => hmem (mem_staleKeys.mpr ⟨pm, h, hstale⟩)⟩, fun h => h.1⟩

@[simp] theorem staleTimeout_cleanupStale (r : Reassembler) (s : S) (now : Int) :
    (cleanupStale P r s now).1.staleTimeout = r.staleTimeout := by
  have hfold : ∀ (keys : List ConcatKey) (st : Reassembler × S),
      (keys.foldl (dropMessage P) st).1.staleTimeout = st.1.staleTimeout := by
    intro keys
    induction keys with
    | nil => exact fun st => rfl
    | cons key keys ih => exact fun st => (ih _).trans (staleTimeout_dropMessage st key)
  exact hfold _ _

/-- A call that fails the validation only cleans up. -/
theorem addPart_of_not_valid {r : Reassembler} {s : S} {c : PartCall} (hc : ¬ c.Valid)
    (cleanupNow createdNow : Int) : addPart P r s c cleanupNow createdNow =
      ((cleanupStale P r s cleanupNow).1, (cleanupStale P r s cleanupNow).2, false, "") := by
  simp only [addPart, if_pos hc]

/-- The message a valid call finds or makes. -/
def PartCall.message (c : PartCall) (r : Reassembler) (createdNow : Int) : PendingMessage :=
  (r.pending.lookup c.concatKey).getD ⟨c.refNum, c.totalParts, [], createdNow⟩

/-- A valid call cleans up, stores the part and adds it to its message. -/
theorem addPart_of_valid {r : Reassembler} {s : S} {c : PartCall} (hc : c.Valid)
    (cleanupNow createdNow : Int) :
    addPart P r s c cleanupNow createdNow =
      let r' := (cleanupStale P r s cleanupNow).1
      let pm := c.message r' createdNow
      ({ r' with pending := r'.pending.insert c.concatKey (pm.add ⟨c.seqNum, c.body⟩) },
        persistPart P c pm.createdAt (cleanupStale P r s cleanupNow).2,
        report (pm.add ⟨c.seqNum, c.body⟩)) := by
  simp only [addPart, if_neg (not_not.mpr hc)]
  rfl

end

end Svarla.Sms
