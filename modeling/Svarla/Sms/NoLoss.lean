import Mathlib
import Svarla.Sms.Handler
import Svarla.Sms.PartsHeld

/-!
# What a slot holds is safe before the slot is deleted

The handler deletes a slot of the modem once the part in it was handed to the reassembler, or the
message in it to the incoming buffer. `Durable` is what it relies on: the part is on disk in the part
store, or a message with its text is on disk in the incoming buffer or has reached the server.

The code does not make sure of it. `persistPart` only logs the error of a push, and `Durable()` asks
no more than whether there is a store, so a part that could not be written is deleted all the same
(`delete_after_failed_push`). `KeepsContent` is the condition on an event, and `delete_durable` the
run theorem: where every event meets it, every slot that is deleted holds what is safe elsewhere.
-/

namespace Svarla.Sms

open Svarla.Lib Svarla.Buffer

/-! ## What is safe -/

/-- Two messages under one name, from one sender, with one text. -/
def IncomingSMS.Same (x y : IncomingSMS) : Prop :=
  x.messageID = y.messageID ∧ x.fromNumber = y.fromNumber ∧ x.body = y.body

/-- The message has what was read: its text, or the text of the part in its place. -/
def Carries (x : IncomingSMS) (r : Reading) : Prop :=
  x.messageID = r.msg.messageID ∧ x.fromNumber = r.msg.fromNumber ∧
    match r.concat with
    | none => x.body = r.msg.body
    | some c => ∃ bodies : List String, bodies.length = c.totalParts ∧ x.body = String.join bodies ∧
        bodies[c.seqNum - 1]? = some r.msg.body

/-- The reading of a slot again. -/
def Reading.Same (r r' : Reading) : Prop := r.msg.Same r'.msg ∧ r.concat = r'.concat

section
variable (X : Externals)

namespace Gateway

/-- What was read is on disk, or has reached the server. -/
def Durable (s : Gateway) (r : Reading) : Prop :=
  (∃ c, r.concat = some c ∧
      ∃ sp, sp.call = r.call c ∧ OnFile defaultCapacity s.parts.file sp) ∨
    ∃ x, Carries x r ∧ (OnFile defaultCapacity s.incomingFile x ∨ x ∈ s.accepted)

/-- The message is in the incoming buffer, in memory and on disk, or has reached the server. -/
def HasItem (s : Gateway) (msg : IncomingSMS) : Prop :=
  ∃ x, x.Same msg ∧ (Held s.incoming s.incomingFile x ∨ x ∈ s.accepted)

/-- The part is in the part store, in memory and on disk, or a message has it. -/
def HasPart (s : Gateway) (r : Reading) (c : ConcatInfo) : Prop :=
  (∃ sp, sp.call = r.call c ∧ s.parts.HoldsPart sp) ∨ ∃ msg, Carries msg r ∧ s.HasItem msg

/-- A stored part some task is about to delete from the modem. -/
def ReliedPart (s : Gateway) (sp : StoredPart) : Prop :=
  ∃ t ∈ s.tasks, t.session = s.session ∧ ∃ r c, t.stage = .deletePart r c ∧ sp.call = r.call c

/-- A buffered message some task is about to delete a slot for, or to commit. -/
def ReliedItem (s : Gateway) (x : IncomingSMS) : Prop :=
  ∃ t ∈ s.tasks, match t.stage with
    | .deletePart r _ => t.session = s.session ∧ Carries x r
    | .deleteDelivered _ msg => x.Same msg
    | .commit _ _ msg => x.Same msg
    | _ => False

/-! ## The condition -/

/-- The push of a part stores it: it is there already with its text, or nothing fails and it goes
behind a whole line. -/
def StoresPart (parts : PartDisk) (call : PartCall) (receivedAt : Int) : Prop :=
  ∀ b ∈ parts.buffer,
    if KeyedQueue.HasKeyOf b.keyFn b.items (call.stored receivedAt) then
      ∃ sp, sp.call = call ∧ Held b parts.file sp
    else PushStores b parts.file (parts.outcomes 0).append (parts.outcomes 0).rewrite

/-- The condition on `AddPart`: its cleanup discards no part some task is about to delete from the
modem, and its push spares those; a part that does not complete its message is stored, and one that
does is of the message it completes. -/
def AddPartKeeps (s : Gateway) (session : Nat) (r : Reading) (c : ConcatInfo) (calls : Calls) :
    Prop :=
  let reassembler := s.reassemblers session
  let cleaned := cleanupStale (diskStore X.marshalPart) reassembler s.parts calls.cleanupNow
  let pm := (r.call c).message cleaned.1 calls.createdNow
  (∀ k ∈ staleKeys reassembler calls.cleanupNow, ∀ stale, reassembler.pending.lookup k = some stale →
      ∀ sp, s.ReliedPart sp → sp.partKey ∉ stale.partKeys k.sender) ∧
    ((r.call c).Valid → ∀ b ∈ cleaned.2.buffer, PushSpares X.marshalPart s.ReliedPart b
      cleaned.2.file (cleaned.2.outcomes 0).append ((r.call c).stored pm.createdAt)) ∧
    if (r.call c).Valid ∧ (pm.add ⟨c.seqNum, r.msg.body⟩).isComplete then
      pm.totalParts = c.totalParts ∧ (pm.hasSeq c.seqNum → ⟨c.seqNum, r.msg.body⟩ ∈ pm.parts)
    else
      session = s.session → (r.call c).Valid ∧ StoresPart cleaned.2 (r.call c) pm.createdAt

/-- The condition on the push of a message: it spares the messages relied on, and is suppressed only
for a message that is safe; an append goes behind a whole line. -/
def DeliverKeeps (s : Gateway) (msg : IncomingSMS) (calls : Calls) : Prop :=
  PushSpares X.marshalSMS s.ReliedItem s.incoming s.incomingFile calls.append msg ∧
    if KeyedQueue.HasKeyOf s.incoming.keyFn s.incoming.items msg then s.HasItem msg
    else s.incoming.items.length < s.incoming.capacity → calls.append = .done →
      s.incomingFile.tail = none

/-- The slot is as it was read, or empty. -/
def SlotUnchanged (s : Gateway) (t : Task) (r : Reading) : Prop :=
  ∀ pdu, s.slots s.selected t.index = some pdu →
    ∀ ownNumber r', readMessage X ownNumber t.index pdu = .ok r' → r'.Same r

/-- The condition on `Commit`: of the parts it removes, one that another task is about to delete from
the modem is in the message that was delivered. -/
def CommitKeeps (s : Gateway) (session : Nat) (r : Reading) (c : ConcatInfo) (msg : IncomingSMS) :
    Prop :=
  ∀ pm, (s.reassemblers session).pending.lookup ⟨r.msg.fromNumber, c.refNum⟩ = some pm →
    ∀ t ∈ s.tasks, t.session = s.session → ∀ r' c', t.stage = .deletePart r' c' →
      ((r'.call c').stored 0).partKey ∈ pm.partKeys r.msg.fromNumber →
        pm.totalParts = c.totalParts ∧ pm.assemble = msg.body ∧
          ⟨c'.seqNum, r'.msg.body⟩ ∈ pm.parts

/-- The condition on the next call of a task. -/
def TaskKeeps (s : Gateway) (t : Task) (calls : Calls) : Prop :=
  match t.stage with
  | .read => True
  | .addPart r c => s.AddPartKeeps X t.session r c calls
  | .deliver _ msg => s.DeliverKeeps X msg calls
  | .deleteUnread => s.Answers t calls → ∀ pdu, s.slots s.selected t.index = some pdu →
      ∀ ownNumber r, readMessage X ownNumber t.index pdu ≠ .ok r
  | .deletePart r _ => s.Answers t calls → s.SlotUnchanged X t r
  | .deleteDelivered r _ => s.Answers t calls → s.SlotUnchanged X t r
  | .commit r c msg => s.CommitKeeps t.session r c msg

end Gateway

/-- The condition on an event. -/
def KeepsContent (s : Gateway) : GatewayEvent → Prop
  | .task i calls => ∀ t, s.tasks[i]? = some t → s.TaskKeeps X t calls
  | .ack messageID _ => ∀ x, s.ReliedItem x → Held s.incoming s.incomingFile x →
      x.messageID = messageID → ∃ y ∈ s.accepted, y.Same x
  | .restart _ _ => (∀ sp ∈ s.parts.file.items, Fits X.marshalPart sp) ∧
      ∀ x ∈ s.incomingFile.items, Fits X.marshalSMS x
  | _ => True

/-! ## The invariant -/

/-- The reading comes from a slot. -/
def Reading.FromSlot (r : Reading) : Prop :=
  ∃ ownNumber index pdu, readMessage X ownNumber index pdu = .ok r

namespace Gateway

/-- What a task may rely on. -/
def TaskSafe (s : Gateway) (t : Task) : Prop :=
  match t.stage with
  | .read => True
  | .deleteUnread => True
  | .addPart r c => r.FromSlot X ∧ r.concat = some c
  | .deliver r msg => r.FromSlot X ∧ Carries msg r
  | .deletePart r c => r.FromSlot X ∧ r.concat = some c ∧
      (t.session = s.session → (r.call c).Valid ∧ s.HasPart r c)
  | .deleteDelivered r msg => r.FromSlot X ∧ Carries msg r ∧ s.HasItem msg
  | .commit r c msg => r.FromSlot X ∧ r.concat = some c ∧ Carries msg r ∧ s.HasItem msg

/-- The incoming buffer is open, keyed by the message's name. -/
structure IncomingOpen (b : PersistentBuffer IncomingSMS) (f : File IncomingSMS) : Prop where
  keyFn_eq : b.keyFn = some IncomingSMS.messageID
  capacity_eq : b.capacity = defaultCapacity
  readable : Readable X.marshalSMS b f

/-- What a run keeps. -/
structure Safe (s : Gateway) : Prop where
  parts : s.parts.Good X.marshalPart
  incoming : IncomingOpen X s.incoming s.incomingFile
  filed : ∀ session, Filed (s.reassemblers session).pending
  tasks : ∀ t ∈ s.tasks, s.TaskSafe X t
  sessions : ∀ t ∈ s.tasks, t.session ≤ s.session

end Gateway

end

/-! ## Readings -/

section
variable {X : Externals}

theorem IncomingSMS.Same.refl (x : IncomingSMS) : x.Same x := ⟨rfl, rfl, rfl⟩

theorem IncomingSMS.Same.trans {x y z : IncomingSMS} (h : x.Same y) (h' : y.Same z) : x.Same z :=
  ⟨h.1.trans h'.1, h.2.1.trans h'.2.1, h.2.2.trans h'.2.2⟩

/-- The same message carries the same. -/
theorem Carries.of_same {x y : IncomingSMS} {r : Reading} (h : Carries y r) (hxy : x.Same y) :
    Carries x r := by
  obtain ⟨hid, hfrom, hbody⟩ := hxy
  unfold Carries at h ⊢
  rw [hid, hfrom, hbody]
  exact h

/-- What carries a reading carries the reading of the slot again. -/
theorem Carries.of_reading {x : IncomingSMS} {r r' : Reading} (h : Carries x r) (hr : r'.Same r) :
    Carries x r' := by
  obtain ⟨⟨hid, hfrom, hbody⟩, hconcat⟩ := hr
  unfold Carries at h ⊢
  rw [hid, hfrom, hbody, hconcat]
  exact h

/-- A message as read carries itself. -/
theorem carries_self {r : Reading} (h : r.concat = none) : Carries r.msg r := by
  unfold Carries
  rw [h]
  exact ⟨rfl, rfl, rfl⟩

/-- The parts of one message have one name. -/
theorem Reading.FromSlot.messageID_eq {r r' : Reading} (h : r.FromSlot X) (h' : r'.FromSlot X)
    {c c' : ConcatInfo} (hc : r.concat = some c) (hc' : r'.concat = some c')
    (hfrom : r.msg.fromNumber = r'.msg.fromNumber) (href : c.refNum = c'.refNum)
    (htotal : c.totalParts = c'.totalParts) : r.msg.messageID = r'.msg.messageID := by
  have hname : ∀ {r : Reading} {c : ConcatInfo}, r.FromSlot X → r.concat = some c →
      r.msg.messageID = deterministicMessageID X.sha256 ⟨r.msg.fromNumber, "", 0, some c⟩ := by
    rintro r c ⟨own, index, pdu, hread⟩ hc
    unfold readMessage at hread
    split at hread
    · cases hread
    · next parsed _ =>
      cases hread
      dsimp only at hc ⊢
      rw [deterministicMessageID, deterministicMessageID, hashedText, hashedText, hc]
  rw [hname h hc, hname h' hc', deterministicMessageID, deterministicMessageID, hashedText,
    hashedText]
  dsimp only
  rw [hfrom, href, htotal]

/-! ## What one task relies on survives what another does -/

namespace Gateway

/-- A message relied on stays. -/
theorem HasItem.mono {s s' : Gateway} {msg : IncomingSMS} (h : s.HasItem msg)
    (hheld : ∀ x, x.Same msg → Held s.incoming s.incomingFile x → s'.HasItem x)
    (haccepted : ∀ x ∈ s.accepted, x ∈ s'.accepted) : s'.HasItem msg := by
  obtain ⟨x, hsame, hx | hx⟩ := h
  · obtain ⟨y, hyx, hy⟩ := hheld x hsame hx
    exact ⟨y, hyx.trans hsame, hy⟩
  · exact ⟨x, hsame, .inr (haccepted x hx)⟩

/-- What keeps the parts and messages relied on keeps the tasks safe. -/
theorem TaskSafe.mono {s s' : Gateway} {t : Task} (h : s.TaskSafe X t) (ht : t ∈ s.tasks)
    (hsession : t.session = s'.session → t.session = s.session)
    (hparts : ∀ r c, t.stage = .deletePart r c → t.session = s'.session → ∀ sp, sp.call = r.call c →
      s.parts.HoldsPart sp → s'.HasPart r c)
    (hitems : ∀ x, s.ReliedItem x → Held s.incoming s.incomingFile x → s'.HasItem x)
    (haccepted : ∀ x ∈ s.accepted, x ∈ s'.accepted) : s'.TaskSafe X t := by
  unfold TaskSafe at h ⊢
  split
  · trivial
  · trivial
  · next r c hstage => rw [hstage] at h; exact h
  · next r msg hstage => rw [hstage] at h; exact h
  · next r c hstage =>
    rw [hstage] at h
    refine ⟨h.1, h.2.1, fun hcurrent => ?_⟩
    obtain ⟨hvalid, ⟨sp, hsp, hheld⟩ | ⟨msg, hcarries, hitem⟩⟩ := h.2.2 (hsession hcurrent)
    · exact ⟨hvalid, hparts r c hstage hcurrent sp hsp hheld⟩
    · refine ⟨hvalid, .inr ⟨msg, hcarries, hitem.mono (fun x hsame => hitems x ?_) haccepted⟩⟩
      exact ⟨t, ht, by rw [hstage]; exact ⟨hsession hcurrent, hcarries.of_same hsame⟩⟩
  · next r msg hstage =>
    rw [hstage] at h
    refine ⟨h.1, h.2.1, h.2.2.mono (fun x hsame => hitems x ⟨t, ht, ?_⟩) haccepted⟩
    rw [hstage]
    exact hsame
  · next r c msg hstage =>
    rw [hstage] at h
    refine ⟨h.1, h.2.1, h.2.2.1, h.2.2.2.mono (fun x hsame => hitems x ⟨t, ht, ?_⟩) haccepted⟩
    rw [hstage]
    exact hsame

/-! ## The next call of a task -/

/-- A call that leaves the gateway, its other tasks, and the task itself safe. -/
structure Stepped (X : Externals) (s : Gateway) (t : Task) (next : Gateway × Option Stage) :
    Prop where
  parts : next.1.parts.Good X.marshalPart
  incoming : IncomingOpen X next.1.incoming next.1.incomingFile
  filed : ∀ session, Filed (next.1.reassemblers session).pending
  session_eq : next.1.session = s.session
  others : ∀ t' ∈ s.tasks, next.1.TaskSafe X t'
  stage : ∀ stage, next.2 = some stage → next.1.TaskSafe X { t with stage }

/-- Filing in one session. -/
theorem filed_update {reassemblers : Nat → Reassembler}
    (h : ∀ session, Filed (reassemblers session).pending) {r : Reassembler} (hr : Filed r.pending)
    (n session : Nat) : Filed (Function.update reassemblers n r session).pending := by
  by_cases hsession : session = n
  · rw [hsession, Function.update_self]
    exact hr
  · rw [Function.update_of_ne hsession]
    exact h session

/-- The key of a stored part is that of its call. -/
theorem partKey_of_call {sp : StoredPart} {call : PartCall} (h : sp.call = call) :
    sp.partKey = (call.stored 0).partKey := by
  subst h
  rfl

/-- `AT+CMGR`. -/
theorem Safe.read {s : Gateway} (h : s.Safe X) {t : Task} (hstage : t.stage = .read)
    (calls : Calls) : Stepped X s t (s.taskStep X t calls) := by
  simp only [taskStep, hstage]
  split
  · next r hread =>
    have hslot : r.FromSlot X := by
      obtain ⟨pdu, -, hpdu⟩ := Option.map_eq_some_iff.mp hread
      exact ⟨_, _, pdu, hpdu⟩
    split
    · next c hc =>
      refine ⟨h.parts, h.incoming, h.filed, rfl, h.tasks, fun stage hnext => ?_⟩
      cases hnext
      exact ⟨hslot, hc⟩
    · next hnone =>
      refine ⟨h.parts, h.incoming, h.filed, rfl, h.tasks, fun stage hnext => ?_⟩
      cases hnext
      exact ⟨hslot, carries_self hnone⟩
  · refine ⟨h.parts, h.incoming, h.filed, rfl, h.tasks, fun stage hnext => ?_⟩
    split at hnext <;> cases hnext
    trivial

/-- The parts some task relies on, after the cleanup of `AddPart`. -/
theorem Safe.cleanupStale {s : Gateway} (h : s.Safe X) {session : Nat} {r : Reading}
    {c : ConcatInfo} {calls : Calls} (hguard : s.AddPartKeeps X session r c calls) :
    (Sms.cleanupStale (diskStore X.marshalPart) (s.reassemblers session) s.parts
        calls.cleanupNow).2.Good X.marshalPart ∧
      Filed (Sms.cleanupStale (diskStore X.marshalPart) (s.reassemblers session) s.parts
        calls.cleanupNow).1.pending ∧
      ∀ sp, s.ReliedPart sp → s.parts.HoldsPart sp →
        (Sms.cleanupStale (diskStore X.marshalPart) (s.reassemblers session) s.parts
          calls.cleanupNow).2.HoldsPart sp := by
  obtain ⟨hgood, hkeep⟩ := h.parts.dropMessages
    (staleKeys (s.reassemblers session) calls.cleanupNow) (s.reassemblers session)
  exact ⟨hgood, (h.filed session).dropMessages _ _, fun sp hsp hheld =>
    hkeep sp (fun k hk stale hlookup => hguard.1 k hk stale hlookup sp hsp) hheld⟩

/-- Other tasks stay safe where the parts relied on do, and the incoming buffer is left alone. -/
theorem Safe.others_of_parts {s : Gateway} (h : s.Safe X) {reassemblers : Nat → Reassembler}
    {parts : PartDisk} (hparts : ∀ t ∈ s.tasks, ∀ r c, t.stage = .deletePart r c →
      t.session = s.session → ∀ sp, sp.call = r.call c → s.parts.HoldsPart sp →
        HasPart { s with reassemblers, parts } r c) :
    ∀ t ∈ s.tasks, TaskSafe X { s with reassemblers, parts } t := fun t ht =>
  (h.tasks t ht).mono ht (fun hsession => hsession) (hparts t ht)
    (fun x _ hheld => ⟨x, .refl x, .inl hheld⟩) (fun _ hx => hx)

/-- `AddPart`. -/
theorem Safe.addPart {s : Gateway} (h : s.Safe X) {t : Task} (ht : t ∈ s.tasks) {r : Reading}
    {c : ConcatInfo} (hstage : t.stage = .addPart r c) {calls : Calls}
    (hguard : s.AddPartKeeps X t.session r c calls) :
    Stepped X s t (s.taskStep X t calls) := by
  have hsafe := h.tasks t ht
  rw [TaskSafe, hstage] at hsafe
  obtain ⟨hslot, hc⟩ := hsafe
  obtain ⟨hgood, hfiled, hkept⟩ := h.cleanupStale hguard
  obtain ⟨-, hspares, hreport⟩ := hguard
  by_cases hvalid : (r.call c).Valid
  · simp only [taskStep, hstage, addPart_of_valid hvalid, persistPart]
    generalize hcleaned : Sms.cleanupStale (diskStore X.marshalPart) (s.reassemblers t.session)
      s.parts calls.cleanupNow = cleaned at *
    have hfound : ((r.call c).message cleaned.1 calls.createdNow).refNum =
          (r.call c).concatKey.refNum ∧
        (((r.call c).message cleaned.1 calls.createdNow).parts.map SmsPart.seqNum).Nodup :=
      hfiled.getD _ rfl rfl
    generalize (r.call c).message cleaned.1 calls.createdNow = pm at *
    obtain ⟨b, hopen⟩ := hgood
    obtain ⟨hgood', hrelied, hnew, hdup⟩ := PartDisk.Good.push hopen
      (hspares hvalid b hopen.buffer_eq)
    refine ⟨hgood', h.incoming, filed_update h.filed (hfiled.insert hfound _) _, rfl,
      h.others_of_parts fun t' ht' r' c' hstage' hcurrent sp hsp hheld => ?_, fun stage hnext => ?_⟩
    · have hsp' : s.ReliedPart sp := ⟨t', ht', hcurrent, r', c', hstage', hsp⟩
      exact .inl ⟨sp, hsp, hrelied sp hsp' (hkept sp hsp' hheld)⟩
    · by_cases hcomplete : (pm.add ⟨c.seqNum, r.msg.body⟩).isComplete
      · rw [if_pos ⟨hvalid, hcomplete⟩] at hreport
        simp only [report, Reading.call, hcomplete, if_true, Option.some.injEq] at hnext
        subst hnext
        refine ⟨hslot, rfl, rfl, ?_⟩
        rw [hc]
        have hpart : ⟨c.seqNum, r.msg.body⟩ ∈ (pm.add ⟨c.seqNum, r.msg.body⟩).parts := by
          by_cases hhas : pm.hasSeq c.seqNum
          · rw [PendingMessage.add_of_hasSeq hhas]
            exact hreport.2 hhas
          · rw [PendingMessage.add_of_not_hasSeq hhas]
            exact List.mem_append_right _ (List.mem_singleton_self _)
        have hrange : 1 ≤ c.seqNum ∧ c.seqNum ≤ c.totalParts := by
          simp only [PartCall.Valid, Reading.call] at hvalid
          omega
        obtain ⟨hlen, hget⟩ := PendingMessage.ordered_of_mem
          (PendingMessage.nodup_add hfound.2 _) hpart
          ((PendingMessage.totalParts_add _ _).trans hreport.1) hrange
        exact ⟨_, hlen, rfl, hget⟩
      · rw [if_neg (fun hboth => hcomplete hboth.2)] at hreport
        simp only [report, Reading.call, hcomplete, Bool.false_eq_true, if_false,
          Option.some.injEq] at hnext
        subst hnext
        refine ⟨hslot, hc, fun hcurrent => ⟨hvalid, .inl ?_⟩⟩
        have hstores := (hreport hcurrent).2 b hopen.buffer_eq
        split at hstores
        · next hsame =>
          obtain ⟨sp, hsp, hheld⟩ := hstores
          exact ⟨sp, hsp, hdup hsame sp ⟨b, hopen.buffer_eq, hheld⟩⟩
        · next hfresh => exact ⟨_, rfl, hnew hfresh hstores⟩
  · simp only [taskStep, hstage, addPart_of_not_valid hvalid]
    refine ⟨hgood, h.incoming, filed_update h.filed hfiled _, rfl,
      h.others_of_parts fun t' ht' r' c' hstage' hcurrent sp hsp hheld =>
        .inl ⟨sp, hsp, hkept sp ⟨t', ht', hcurrent, r', c', hstage', hsp⟩ hheld⟩,
      fun stage hnext => ?_⟩
    cases hnext
    rw [if_neg (fun hboth => hvalid hboth.1)] at hreport
    exact ⟨hslot, hc, fun hcurrent => absurd (hreport hcurrent).1 hvalid⟩

/-- `Commit`. -/
theorem Safe.commit {s : Gateway} (h : s.Safe X) {t : Task} (ht : t ∈ s.tasks) {r : Reading}
    {c : ConcatInfo} {msg : IncomingSMS} (hstage : t.stage = .commit r c msg) (calls : Calls)
    (hguard : s.CommitKeeps t.session r c msg) : Stepped X s t (s.taskStep X t calls) := by
  have hsafe := h.tasks t ht
  rw [TaskSafe, hstage] at hsafe
  obtain ⟨hslot, hc, hcarries, hitem⟩ := hsafe
  simp only [taskStep, hstage, Sms.commit]
  obtain ⟨hgood, hkeep⟩ := h.parts.dropMessages [⟨r.msg.fromNumber, c.refNum⟩]
    (s.reassemblers t.session)
  have hfiled := (h.filed t.session).dropMessages (P := diskStore X.marshalPart)
    [⟨r.msg.fromNumber, c.refNum⟩] s.parts
  refine ⟨hgood, h.incoming, filed_update h.filed hfiled _, rfl,
    h.others_of_parts fun t' ht' r' c' hstage' hcurrent sp hsp hheld => ?_, by simp⟩
  by_cases hremoved : ∃ pm, (s.reassemblers t.session).pending.lookup ⟨r.msg.fromNumber, c.refNum⟩ =
      some pm ∧ sp.partKey ∈ pm.partKeys r.msg.fromNumber
  · -- the part is in the message that was delivered
    obtain ⟨pm, hlookup, hmem⟩ := hremoved
    rw [partKey_of_call hsp] at hmem
    obtain ⟨htotal, htext, hpart⟩ := hguard pm hlookup t' ht' hcurrent r' c' hstage' hmem
    obtain ⟨href, hnodup⟩ := h.filed t.session _ pm hlookup
    have hsafe' := h.tasks t' ht'
    rw [TaskSafe, hstage'] at hsafe'
    obtain ⟨hslot', hc', hcurrent'⟩ := hsafe'
    have hvalid := (hcurrent' hcurrent).1
    simp only [PartCall.Valid, Reading.call] at hvalid
    obtain ⟨p, -, hkey⟩ := List.mem_map.mp hmem
    obtain ⟨hconcat, -, htotal'⟩ := StoredPart.partKey_inj hkey
    obtain ⟨hfrom, href'⟩ := ConcatKey.mk.inj hconcat
    simp only [PartCall.stored, Reading.call] at href hfrom href' htotal'
    have hid := hslot.messageID_eq hslot' hc hc' hfrom (by omega) (by omega)
    refine .inr ⟨msg, ⟨hcarries.1.trans hid, hcarries.2.1.trans hfrom, ?_⟩, hitem⟩
    rw [hc']
    obtain ⟨hlen, hget⟩ := PendingMessage.ordered_of_mem hnodup hpart htotal'
      ⟨by omega, by omega⟩
    exact ⟨pm.ordered, hlen, htext.symm, hget⟩
  · refine .inl ⟨sp, hsp, hkeep sp (fun k hk pm hlookup hmem => hremoved ?_) hheld⟩
    rw [List.mem_singleton.mp hk] at hlookup hmem
    exact ⟨pm, hlookup, hmem⟩

/-- `deliverIncoming`. -/
theorem Safe.deliver {s : Gateway} (h : s.Safe X) {t : Task} (ht : t ∈ s.tasks) {r : Reading}
    {msg : IncomingSMS} (hstage : t.stage = .deliver r msg) {calls : Calls}
    (hguard : s.DeliverKeeps X msg calls) : Stepped X s t (s.taskStep X t calls) := by
  have hsafe := h.tasks t ht
  rw [TaskSafe, hstage] at hsafe
  obtain ⟨hslot, hcarries⟩ := hsafe
  obtain ⟨hkey, hcapacity, hread⟩ := h.incoming
  obtain ⟨hspares, hstores⟩ := hguard
  simp only [taskStep, hstage]
  refine ⟨h.parts, ⟨(s.incoming.push_keyFn _ _ _ _ _).trans hkey,
    (s.incoming.push_capacity _ _ _ _ _).trans hcapacity,
    hread.push hspares _⟩, h.filed, rfl, fun t' ht' => ?_, fun stage hnext => ?_⟩
  · exact (h.tasks t' ht').mono ht' (fun hsession => hsession)
      (fun r' c' _ _ sp hsp hheld => .inl ⟨sp, hsp, hheld⟩)
      (fun x hx hheld => ⟨x, .refl x, .inl (hheld.push hread hspares hx _)⟩) (fun _ hx => hx)
  · split at hnext
    · next hnil =>
      cases hnext
      refine ⟨hslot, hcarries, ?_⟩
      split at hstores
      · next hdup =>
        obtain ⟨x, hx, hheld | haccepted⟩ := hstores
        · refine ⟨x, hx, .inl ?_⟩
          dsimp only
          rw [PersistentBuffer.push, if_pos hdup]
          exact hheld
        · exact ⟨x, hx, .inr haccepted⟩
      · next hnew =>
        exact ⟨msg, .refl msg, .inl (held_of_push hnew hnil fun hroom =>
          hstores hroom (append_done_of_push hnew hroom hnil))⟩
    · cases hnext

/-- `AT+CMGD`. -/
theorem Safe.deleteStored {s : Gateway} (h : s.Safe X) {t : Task} (calls : Calls)
    {next : Option Stage} (hnext : ∀ stage, next = some stage → s.TaskSafe X { t with stage }) :
    Stepped X s t (s.deleteStored t calls, next) := by
  unfold Gateway.deleteStored
  split
  · exact ⟨h.parts, h.incoming, h.filed, rfl, h.tasks, hnext⟩
  · exact ⟨h.parts, h.incoming, h.filed, rfl, h.tasks, hnext⟩

/-- **A call that meets the condition leaves everything safe.** -/
theorem Safe.taskStep {s : Gateway} (h : s.Safe X) {t : Task} (ht : t ∈ s.tasks) {calls : Calls}
    (hguard : s.TaskKeeps X t calls) : Stepped X s t (s.taskStep X t calls) := by
  cases hstage : t.stage with
  | read => exact h.read hstage calls
  | addPart r c =>
    rw [TaskKeeps, hstage] at hguard
    exact h.addPart ht hstage hguard
  | deliver r msg =>
    rw [TaskKeeps, hstage] at hguard
    exact h.deliver ht hstage hguard
  | commit r c msg =>
    rw [TaskKeeps, hstage] at hguard
    exact h.commit ht hstage calls hguard
  | deleteUnread =>
    simp only [Gateway.taskStep, hstage]
    exact h.deleteStored calls (by simp)
  | deletePart r c =>
    simp only [Gateway.taskStep, hstage]
    exact h.deleteStored calls (by simp)
  | deleteDelivered r msg =>
    have hsafe := h.tasks t ht
    rw [TaskSafe, hstage] at hsafe
    obtain ⟨hslot, hcarries, hitem⟩ := hsafe
    simp only [Gateway.taskStep, hstage]
    refine h.deleteStored calls fun stage hnext => ?_
    obtain ⟨c, hc, rfl⟩ := Option.map_eq_some_iff.mp hnext
    exact ⟨hslot, hc, hcarries, hitem⟩

/-! ## Events -/

/-- What concerns neither the stores nor the reassemblers. -/
theorem Safe.frame {s s' : Gateway} (h : s.Safe X) (hparts : s'.parts = s.parts)
    (hincoming : s'.incoming = s.incoming) (hfile : s'.incomingFile = s.incomingFile)
    (hreassemblers : s'.reassemblers = s.reassemblers) (hsession : s'.session = s.session)
    (haccepted : ∀ x ∈ s.accepted, x ∈ s'.accepted)
    (htasks : ∀ t ∈ s'.tasks, t ∈ s.tasks ∨ t.stage = .read ∧ t.session = s.session) :
    s'.Safe X := by
  refine ⟨hparts ▸ h.parts, by rw [hincoming, hfile]; exact h.incoming, hreassemblers ▸ h.filed,
    fun t ht => ?_, fun t ht => ?_⟩
  · rcases htasks t ht with ht | ⟨hread, -⟩
    · refine (h.tasks t ht).mono ht (fun hcurrent => hcurrent.trans hsession)
        (fun r c _ _ sp hsp hheld => .inl ⟨sp, hsp, hparts ▸ hheld⟩)
        (fun x _ hheld => ⟨x, .refl x, .inl (by rw [hincoming, hfile]; exact hheld)⟩) haccepted
    · rw [TaskSafe, hread]
      trivial
  · rw [hsession]
    rcases htasks t ht with ht | ⟨-, heq⟩
    · exact h.sessions t ht
    · exact Nat.le_of_eq heq

/-- A new session. -/
theorem Safe.newSession {s : Gateway} (h : s.Safe X) (now : Int) : (s.newSession X now).Safe X := by
  refine ⟨h.parts.newReassembler 0 now, h.incoming,
    filed_update h.filed (Filed.newReassembler 0 s.parts now) _, fun t ht => ?_, fun t ht => ?_⟩
  · have hle := h.sessions t ht
    refine (h.tasks t ht).mono ht (fun hcurrent => ?_) (fun r c _ hcurrent => ?_)
      (fun x _ hheld => ⟨x, .refl x, .inl hheld⟩) (fun _ hx => hx)
    · have hnew : t.session = s.session + 1 := hcurrent
      omega
    · have hnew : t.session = s.session + 1 := hcurrent
      omega
  · exact Nat.le_succ_of_le (h.sessions t ht)

/-- The next call of the drain. -/
theorem Safe.drainStep {s s' : Gateway} (h : s.Safe X) {command : Bool} {indices : List Nat}
    {stage : DrainStage} (hstep : s.drainStep command indices stage = some s') : s'.Safe X := by
  have hold : ∀ t ∈ s.tasks, t ∈ s.tasks ∨ t.stage = .read ∧ t.session = s.session := fun _ => .inl
  cases stage with
  | select storages =>
    cases storages with
    | nil => cases hstep; exact h.frame rfl rfl rfl rfl rfl (fun _ hx => hx) hold
    | cons storage rest =>
      cases command <;> cases hstep <;> exact h.frame rfl rfl rfl rfl rfl (fun _ hx => hx) hold
  | list rest => cases hstep; exact h.frame rfl rfl rfl rfl rfl (fun _ hx => hx) hold
  | process indices' rest =>
    cases indices' with
    | nil =>
      simp only [Gateway.drainStep] at hstep
      split at hstep
      · cases hstep
      · cases hstep
        exact h.frame rfl rfl rfl rfl rfl (fun _ hx => hx) hold
    | cons index indices' =>
      simp only [Gateway.drainStep] at hstep
      split at hstep
      · cases hstep
      · cases hstep
        refine h.frame rfl rfl rfl rfl rfl (fun _ hx => hx) fun t ht => ?_
        exact (List.mem_append.mp ht).imp_right fun ht => by
          rw [List.mem_singleton.mp ht]
          exact ⟨rfl, rfl⟩

/-- `HandleAck`. -/
theorem Safe.ack {s : Gateway} (h : s.Safe X) {messageID : String} {rio : RewriteCalls}
    (hguard : KeepsContent X s (.ack messageID rio)) : Safe X
      { s with
        incoming := (s.incoming.remove X.marshalSMS rio s.incomingFile messageID).1
        incomingFile := (s.incoming.remove X.marshalSMS rio s.incomingFile messageID).2.1 } := by
  obtain ⟨hkey, hcapacity, hread⟩ := h.incoming
  refine ⟨h.parts, ⟨(s.incoming.remove_keyFn _ _ _ _).trans hkey,
    (s.incoming.remove_capacity _ _ _ _).trans hcapacity,
    (hread.remove (x := ⟨"", "", "", "", 0⟩) _ _).1⟩, h.filed, fun t ht => ?_, h.sessions⟩
  refine (h.tasks t ht).mono ht (fun hcurrent => hcurrent)
    (fun r c _ _ sp hsp hheld => .inl ⟨sp, hsp, hheld⟩) (fun x hx hheld => ?_) (fun _ hx => hx)
  by_cases hid : x.messageID = messageID
  · obtain ⟨y, hy, hyx⟩ := hguard x hx hheld hid
    exact ⟨y, hyx, .inr hy⟩
  · refine ⟨x, .refl x, .inl ((hread.remove _ _).2 (fun keyOf hk => ?_) hheld)⟩
    rw [hkey] at hk
    cases hk
    exact hid

/-- Both stores opened again on their files. -/
theorem Safe.reopen {s : Gateway} (h : s.Safe X) {now : Int} {io : LoadCalls}
    (hguard : KeepsContent X s (.restart now io)) {b : PersistentBuffer StoredPart}
    (hparts : s.parts.reopen.buffer = some b) {incoming : PersistentBuffer IncomingSMS}
    (hincoming : PersistentBuffer.newKeyed defaultCapacity (some IncomingSMS.messageID) io
      s.incomingFile = .ok incoming) :
    Safe X { s with parts := s.parts.reopen, incoming, tasks := [] } := by
  obtain ⟨hfits, hfits'⟩ := hguard
  refine ⟨?_, ?_, h.filed, by simp, by simp⟩
  · simp only [PartDisk.reopen] at hparts
    cases hopen : PersistentBuffer.newKeyed defaultCapacity (some StoredPart.partKey)
        (s.parts.outcomes 0).load s.parts.file with
    | error err => rw [hopen] at hparts; cases hparts
    | ok b' =>
      rw [hopen] at hparts
      cases hparts
      obtain ⟨hread, hkey, hcapacity⟩ := readable_of_newKeyed hopen hfits
      exact ⟨_, by rw [PartDisk.reopen, hopen]; rfl, hkey, hcapacity, hread⟩
  · obtain ⟨hread, hkey, hcapacity⟩ := readable_of_newKeyed hincoming hfits'
    exact ⟨hkey, hcapacity, hread⟩

/-- **Every event that meets the condition leaves everything safe.** -/
theorem Safe.step {s s' : Gateway} (h : s.Safe X) {e : GatewayEvent} (he : KeepsContent X s e)
    (hstep : gatewayStep X s e = some s') : s'.Safe X := by
  have hold : ∀ t ∈ s.tasks, t ∈ s.tasks ∨ t.stage = .read ∧ t.session = s.session := fun _ => .inl
  cases e with
  | arrive storage index pdu =>
    simp only [gatewayStep] at hstep
    split at hstep
    · cases hstep
      exact h.frame rfl rfl rfl rfl rfl (fun _ hx => hx) hold
    · cases hstep
  | cmti index =>
    cases hstep
    refine h.frame rfl rfl rfl rfl rfl (fun _ hx => hx) fun t ht => ?_
    exact (List.mem_append.mp ht).imp_right fun ht => by
      rw [List.mem_singleton.mp ht]
      exact ⟨rfl, rfl⟩
  | task i calls =>
    simp only [gatewayStep] at hstep
    split at hstep
    · cases hstep
    · next t ht =>
      cases hstep
      have hmem := List.mem_of_getElem? ht
      have hstepped := h.taskStep hmem (he t ht)
      refine ⟨hstepped.parts, hstepped.incoming, hstepped.filed, fun t' ht' => ?_, fun t' ht' => ?_⟩
      · rcases mem_advance ht' with ht' | hnext
        · exact hstepped.others t' ht'
        · obtain ⟨stage, hstage, rfl⟩ := Option.map_eq_some_iff.mp hnext
          exact hstepped.stage stage hstage
      · dsimp only
        rw [hstepped.session_eq]
        rcases mem_advance ht' with ht' | hnext
        · exact h.sessions t' ht'
        · obtain ⟨stage, -, rfl⟩ := Option.map_eq_some_iff.mp hnext
          exact h.sessions t hmem
  | drainStart =>
    simp only [gatewayStep] at hstep
    split at hstep
    · cases hstep
    · cases hstep
      exact h.frame rfl rfl rfl rfl rfl (fun _ hx => hx) hold
  | drainStep command indices =>
    obtain ⟨stage, -, hstep⟩ := Option.bind_eq_some_iff.mp hstep
    exact h.drainStep hstep
  | flush =>
    cases hstep
    exact h.frame rfl rfl rfl rfl rfl (fun _ hx => hx) hold
  | accept msg =>
    simp only [gatewayStep] at hstep
    split at hstep
    · cases hstep
      split
      · exact h
      · exact h.frame rfl rfl rfl rfl rfl (fun x hx => List.mem_append_left _ hx) hold
    · cases hstep
  | ack messageID rio =>
    simp only [gatewayStep] at hstep
    split at hstep
    · cases hstep
      exact h.ack he
    · cases hstep
  | reconnect now =>
    cases hstep
    exact h.newSession now
  | restart now io =>
    simp only [gatewayStep] at hstep
    split at hstep
    · next b incoming hparts hincoming =>
      cases hstep
      exact (h.reopen he hparts hincoming).newSession now
    · cases hstep

/-- A process that starts for the first time. -/
theorem safe_start (X : Externals) (slots : Storage → Nat → Option (List UInt8))
    (selected : Storage) (outcomes : Nat → Outcomes) : (start slots selected outcomes).Safe X := by
  refine ⟨⟨_, rfl, rfl, rfl, ⟨?_, ?_⟩⟩, ⟨rfl, rfl, ⟨?_, ?_⟩⟩, fun _ k pm hk => ?_, ?_, ?_⟩
  · intro l hl
    simp [start, PartDisk.fresh, File.allLines] at hl
  · simp [fresh]
  · intro l hl
    simp [start, File.allLines] at hl
  · simp [start, fresh]
  · simp [start] at hk
  · simp [start]
  · simp [start]

/-- A message that is safe can be loaded, or has reached the server. -/
theorem HasItem.durable {s : Gateway} (h : s.Safe X) {msg : IncomingSMS} {r : Reading}
    (hcarries : Carries msg r) (hitem : s.HasItem msg) : s.Durable r := by
  obtain ⟨x, hsame, hheld | haccepted⟩ := hitem
  · exact .inr ⟨x, hcarries.of_same hsame,
      .inl (h.incoming.capacity_eq ▸ hheld.onFile h.incoming.readable)⟩
  · exact .inr ⟨x, hcarries.of_same hsame, .inr haccepted⟩

/-- A safe part can be loaded, or is in such a message. -/
theorem HasPart.durable {s : Gateway} (h : s.Safe X) {r : Reading} {c : ConcatInfo}
    (hc : r.concat = some c) (hpart : s.HasPart r c) : s.Durable r := by
  rcases hpart with ⟨sp, hsp, hheld⟩ | ⟨msg, hcarries, hitem⟩
  · exact .inl ⟨c, hc, sp, hsp, hheld.onFile h.parts⟩
  · exact hitem.durable h hcarries

/-- The reading of a slot again is as safe. -/
theorem Durable.of_same {s : Gateway} {r r' : Reading} (h : s.Durable r) (hsame : r'.Same r) :
    s.Durable r' := by
  rcases h with ⟨c, hc, sp, hsp, hfile⟩ | ⟨x, hcarries, hx⟩
  · refine .inl ⟨c, hsame.2.trans hc, sp, ?_, hfile⟩
    rw [hsp, Reading.call, Reading.call, hsame.1.2.1, hsame.1.2.2]
  · exact .inr ⟨x, hcarries.of_reading hsame, hx⟩

end Gateway

/-- The next call of the task is `AT+CMGD`. -/
def Task.Deletes (t : Task) : Prop :=
  match t.stage with
  | .deleteUnread | .deletePart _ _ | .deleteDelivered _ _ => True
  | _ => False

/-- **No received SMS is lost by deleting it from the modem**, in a run whose events all meet the
condition: at every `AT+CMGD` that the modem carries out, what a reading of the slot gives is on disk
in the part store or in the incoming buffer, or has reached the server. -/
theorem delete_durable (X : Externals) (slots : Storage → Nat → Option (List UInt8))
    (selected : Storage) (outcomes : Nat → Outcomes) {es : List GatewayEvent} {s : Gateway}
    (hes : Guarded (gatewayStep X) (KeepsContent X) (.start slots selected outcomes) es)
    (hrun : exec (gatewayStep X) (.start slots selected outcomes) es = some s) {i : Nat} {t : Task}
    {calls : Calls} (ht : s.tasks[i]? = some t) (hdeletes : t.Deletes) (hanswers : s.Answers t calls)
    (hguard : KeepsContent X s (.task i calls)) {pdu : List UInt8}
    (hslot : s.slots s.selected t.index = some pdu) {ownNumber : String} {r : Reading}
    (hread : readMessage X ownNumber t.index pdu = .ok r) : s.Durable r := by
  have hsafe : s.Safe X := hes.invariant (fun s e s' h he hstep => h.step he hstep)
    (Gateway.safe_start X slots selected outcomes) hrun
  have htask := hsafe.tasks t (List.mem_of_getElem? ht)
  have hkeeps := hguard t ht
  unfold Task.Deletes at hdeletes
  unfold Gateway.TaskSafe at htask
  unfold Gateway.TaskKeeps at hkeeps
  split at hdeletes
  · next hstage =>
    rw [hstage] at hkeeps
    exact absurd hread (hkeeps hanswers pdu hslot ownNumber r)
  · next r' c hstage =>
    rw [hstage] at hkeeps htask
    have hpart := ((htask.2.2 hanswers.2).2).durable hsafe htask.2.1
    exact hpart.of_same (hkeeps hanswers pdu hslot ownNumber r hread)
  · next r' msg hstage =>
    rw [hstage] at hkeeps htask
    have hitem := htask.2.2.durable hsafe htask.2.1
    exact hitem.of_same (hkeeps hanswers pdu hslot ownNumber r hread)
  · exact hdeletes.elim

end

/-! ## A part that could not be written -/

/-- SHA-256 and the JSON length, at the one part below. -/
def onePart : Externals where
  sha256 text :=
    if text = "concat|+1|5|2" then
      [0x72, 0x61, 0x8a, 0x8c, 0x53, 0x20, 0xd5, 0x31, 0x98, 0x56, 0xe0, 0x53, 0x2b, 0xb0, 0x89, 0x10]
    else []
  marshalPart _ := .ok 99
  marshalSMS _ := .ok 130

/-- The first of two parts, "A" from +1 under reference 5, as `AT+CMGR` gives it. -/
def partPDU : List UInt8 := ascii "00440191F1000842101000000000080500030502010041"

/-- What is read of it. -/
def partReading (ownNumber : String) : Reading where
  msg := ⟨deterministicMessageID onePart.sha256 ⟨"+1", "A", 1704067200000000000, some ⟨5, 1, 2⟩⟩,
    "+1", ownNumber, "A", 1704067200000000000⟩
  concat := some ⟨5, 1, 2⟩

theorem readMessage_partPDU (ownNumber : String) :
    readMessage onePart ownNumber 1 partPDU = .ok (partReading ownNumber) := by
  have hudh : parseConcatFromUDH [0, 3, 5, 2, 1] = some ⟨5, 1, 2⟩ := by
    rw [parseConcatFromUDH.eq_def]
    rfl
  have hdata : decodeUserData 8 8 true [5, 0, 3, 5, 2, 1, 0, 0x41] =
      .ok ("A", parseConcatFromUDH [0, 3, 5, 2, 1]) := rfl
  have hparse : parseDeliverPDU partPDU =
      (decodeUserData 8 8 true [5, 0, 3, 5, 2, 1, 0, 0x41]).map fun x =>
        ⟨"+1", x.1, 1704067200000000000, x.2⟩ := rfl
  rw [hdata, hudh] at hparse
  rw [readMessage, hparse]
  rfl

/-- A modem with the part in slot 1, and tasks at work. -/
def partSlot (outcomes : Nat → Outcomes) (tasks : List Task) : Gateway :=
  { Gateway.start (fun storage index => if storage = .sm ∧ index = 1 then some partPDU else none) .sm
      outcomes with tasks }

/-- The handler of the slot. -/
def partTask (stage : Stage) : Task := ⟨0, false, 1, stage⟩

/-- The handler has handed the part to the reassembler. -/
def partRun : List GatewayEvent := [.cmti 1, .task 0 .done, .task 0 .done]

theorem gatewayStep_read (outcomes : Nat → Outcomes) :
    gatewayStep onePart (partSlot outcomes [partTask .read]) (.task 0 .done) =
      some (partSlot outcomes [partTask (.addPart (partReading "") ⟨5, 1, 2⟩)]) := by
  simp [gatewayStep, Gateway.taskStep, partTask, Gateway.Answers, partSlot, Gateway.start, Calls.done,
    readMessage_partPDU, partReading, advance]

theorem exec_partRun (outcomes : Nat → Outcomes) :
    exec (gatewayStep onePart) (partSlot outcomes []) partRun =
      gatewayStep onePart (partSlot outcomes [partTask (.addPart (partReading "") ⟨5, 1, 2⟩)])
        (.task 0 .done) := by
  have hcmti : gatewayStep onePart (partSlot outcomes []) (.cmti 1) =
      some (partSlot outcomes [partTask .read]) := rfl
  rw [partRun, exec_cons, hcmti, Option.bind_some, exec_cons, gatewayStep_read, Option.bind_some,
    exec_cons]
  exact Option.bind_fun_some _

/-- **The push fails, and the part is deleted all the same.** No file can be opened for writing, the
reassembler logs the error, and the handler goes on to delete the slot: the part is in neither file
and nowhere at the server. -/
theorem delete_after_failed_push :
    ∃ s t, exec (gatewayStep onePart)
        (partSlot (fun _ => ⟨.openFails "no space left on device", .done, .done⟩) []) partRun =
          some s ∧
      s.tasks[0]? = some t ∧ t.Deletes ∧ s.Answers t .done ∧
      s.slots s.selected t.index = some partPDU ∧
      readMessage onePart "" t.index partPDU = .ok (partReading "") ∧ ¬ s.Durable (partReading "") := by
  refine ⟨_, _, (exec_partRun _).trans rfl, rfl, trivial, ⟨rfl, rfl⟩, rfl, readMessage_partPDU "", ?_⟩
  rintro (⟨c, hc, sp, -, items, hload, hmem⟩ | ⟨x, -, ⟨items, hload, hmem⟩ | hmem⟩)
  · cases hload
    cases hmem
  · cases hload
    cases hmem
  · cases hmem

/-- Where nothing fails, handing over the part meets the condition. -/
theorem addPartKeeps_part :
    (partSlot (fun _ => .done) [partTask (.addPart (partReading "") ⟨5, 1, 2⟩)]).AddPartKeeps onePart 0
      (partReading "") ⟨5, 1, 2⟩ .done := by
  refine ⟨fun k hk => (nomatch hk), fun _ b hb => ?_, ?_⟩
  · cases hb
    exact .inr ⟨⟨99, rfl, by decide⟩, fun bytes _ _ _ x _ hheld => (nomatch hheld.memory)⟩
  · rw [if_neg (by decide)]
    intro _
    refine ⟨by decide, fun b hb => ?_⟩
    cases hb
    rw [if_neg (by decide)]
    exact ⟨rfl, rfl⟩

/-- Where nothing fails every event meets the condition. -/
theorem guarded_partRun : Guarded (gatewayStep onePart) (KeepsContent onePart)
    (partSlot (fun _ => .done) []) partRun := by
  refine ⟨trivial, fun s hs => ?_⟩
  cases hs
  refine ⟨fun t ht => ?_, fun s hs => ?_⟩
  · cases ht
    trivial
  · cases (gatewayStep_read _).symm.trans hs
    refine ⟨fun t ht => ?_, fun _ _ => trivial⟩
    cases ht
    exact addPartKeeps_part

/-- Where the push succeeds the part is on disk before its slot is deleted. -/
theorem delete_durable_part :
    ∃ s, exec (gatewayStep onePart) (partSlot (fun _ => .done) []) partRun = some s ∧
      s.Durable (partReading "") := by
  obtain ⟨s, hrun, htask, hsession, hslot⟩ : ∃ s,
      exec (gatewayStep onePart) (partSlot (fun _ => .done) []) partRun = some s ∧
      s.tasks[0]? = some (partTask (.deletePart (partReading "") ⟨5, 1, 2⟩)) ∧ s.session = 0 ∧
      s.slots s.selected 1 = some partPDU :=
    ⟨_, (exec_partRun _).trans rfl, rfl, rfl, rfl⟩
  have hguard : KeepsContent onePart s (.task 0 .done) := by
    intro t ht
    rw [htask] at ht
    cases ht
    intro _ pdu hpdu ownNumber r hread
    cases hslot.symm.trans hpdu
    cases (readMessage_partPDU ownNumber).symm.trans hread
    exact ⟨⟨rfl, rfl, rfl⟩, rfl⟩
  exact ⟨s, hrun, delete_durable onePart _ _ _ guarded_partRun hrun htask trivial ⟨rfl, hsession.symm⟩
    hguard hslot (readMessage_partPDU "")⟩

end Svarla.Sms
