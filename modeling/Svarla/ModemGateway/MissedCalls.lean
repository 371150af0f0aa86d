import Svarla.Buffer.Persistent
import Svarla.ModemGateway.CallManager

/-!
# Missed calls

A call that comes while the signaling is down is rejected, and so is one that rings when the signaling
drops. `MissedCallBuffer` is there for these calls, but nothing adds them to it; what its file has from
before is drained into the send queue at the next connection, which may die before the message is
written, and the provider of the server hands on no message of this type.

So no call is lost (`NoneLost`) in exactly the runs in which no call is missed, and no call in the
buffer is delivered (`spares_iff_noneLost`).
-/

namespace Svarla.ModemGateway

open Svarla.Lib Svarla.Buffer

/-- `MissedCall`. -/
structure MissedCall where
  /-- `from`. -/
  caller : String
  timestamp : Nat
  deriving DecidableEq, Repr

/-- The gateway, the buffer, and the way of its messages to the listeners of the provider. -/
structure MissedCalls where
  calls : Calls
  buffer : PersistentBuffer MissedCall
  file : File MissedCall
  /-- What the buffer had at the start. -/
  found : List MissedCall
  /-- The numbers of the calls that were missed since. -/
  missed : List String
  /-- The messages that are queued for the connection, those that were written, and those that the server
  has received. -/
  sendCh : List (List MissedCall)
  written : List (List MissedCall)
  received : List (List MissedCall)
  /-- What the provider has handed on. -/
  handedOn : List MissedCall

inductive MissedCallsEvent
  | gateway (e : Event)
  /-- `DeliverAll`, at a connection; does the queue take the message? -/
  | deliverAll (tio : TruncateCalls) (io : AppendCalls) (rio : RewriteCalls) (queued : Bool)
  /-- `writeLoop` takes a message from the queue. -/
  | write (ok : Bool)
  /-- The connection is closed, with its queue. -/
  | closed
  /-- The server receives a message that was written. -/
  | receive (n : Nat)
  deriving DecidableEq, Repr

/-- The messages that `handleInboundMessage` does not ignore. -/
def inboundTypes : List String :=
  ["number_report", "call_state", "incoming_call", "incoming_sms", "sms_result", "delivery_report",
    "call_ack", "answer_ack", "status"]

namespace MissedCalls

/-- `NewMissedCallBuffer`; where it fails there is no buffer, and nothing is delivered. -/
def opened (io : LoadCalls) (f : File MissedCall) : PersistentBuffer MissedCall :=
  match PersistentBuffer.newKeyed defaultCapacity none io f with
  | .ok b => b
  | .error _ =>
    { items := [], capacity := defaultCapacity, keyFn := none
      capacity_pos := defaultCapacity_pos
      length_le := Nat.zero_le _ }

def init (connected : Bool) (now : Nat) (io : LoadCalls) (f : File MissedCall) : MissedCalls :=
  ⟨.init connected now, opened io f, f, (opened io f).items, [], [], [], [], []⟩

/-- The call that is missed at an event: one that rings while the signaling is down, besides the call
that the gateway has, or one that rings when the signaling drops. -/
def misses (s : Calls) : Event → Option String
  | .run i _ =>
    match s.head i with
    | some (.ring line) =>
      if ¬ s.shared.connected ∧ ∀ call ∈ s.shared.cm.call, call.line ≠ line then
        some s.shared.cm.incomingFrom
      else none
    | some .disconnect => s.shared.cm.call.bind fun call =>
      if s.shared.cm.ringing ∧ ¬ call.answered then some call.caller else none
    | _ => none
  | _ => none

variable (marshal : MissedCall → Except String Nat)

/-- The calls of a message that is not queued are put back. -/
def pushBack (io : AppendCalls) (rio : RewriteCalls) :
    PersistentBuffer MissedCall → File MissedCall → List MissedCall →
      PersistentBuffer MissedCall × File MissedCall
  | b, f, [] => (b, f)
  | b, f, call :: calls =>
    pushBack io rio (b.push marshal io rio f call).1 (b.push marshal io rio f call).2.1 calls

def step (s : MissedCalls) : MissedCallsEvent → Option MissedCalls
  | .gateway e => (s.calls.step e).map fun calls =>
    { s with calls, missed := s.missed ++ (misses s.calls e).toList }
  | .deliverAll tio io rio queued =>
    match s.buffer.drainAll tio s.file with
    | (buffer, file, .error _) => some { s with buffer, file }
    | (buffer, file, .ok []) => some { s with buffer, file }
    | (buffer, file, .ok calls) =>
      if queued ∧ s.calls.shared.connected then
        some { s with buffer, file, sendCh := s.sendCh ++ [calls] }
      else
        let (buffer, file) := pushBack marshal io rio buffer file calls
        some { s with buffer, file }
  | .write ok =>
    match s.sendCh with
    | [] => none
    | calls :: sendCh =>
      some { s with sendCh, written := if ok then s.written ++ [calls] else s.written }
  | .closed => some { s with sendCh := [] }
  | .receive n => s.written[n]?.map fun calls =>
    { s with
      received := s.received ++ [calls]
      handedOn := if "missed_calls" ∈ inboundTypes then s.handedOn ++ calls else s.handedOn }

/-- Every call that was found in the buffer or missed is in the buffer, or in a message that was
written, and what the server received was handed on. -/
structure NoneLost (s : MissedCalls) : Prop where
  recorded : (s.found.map (·.caller) ++ s.missed).Subperm
    ((s.buffer.items ++ s.written.flatten).map (·.caller))
  handed : ∀ calls ∈ s.received, ∀ call ∈ calls, call ∈ s.handedOn

/-- No call is missed, and none is taken from the buffer for a message. -/
def Spares (s : MissedCalls) : MissedCallsEvent → Prop
  | .gateway e => misses s.calls e = none ∨ s.calls.step e = none
  | .deliverAll tio _ _ queued => s.buffer.items = [] ∨ tio ≠ .done ∨
    ¬ (queued = true ∧ s.calls.shared.connected = true)
  | _ => True

/-! ## What the condition keeps -/

variable {marshal} {s t : MissedCalls}

/-- Nothing has happened to the buffer. -/
structure Untouched (s : MissedCalls) : Prop where
  keyFn : s.buffer.keyFn = none
  items : s.buffer.items = s.found
  missed : s.missed = []
  sendCh : s.sendCh = []
  written : s.written = []
  received : s.received = []

theorem Untouched.noneLost (h : s.Untouched) : s.NoneLost where
  recorded := by
    simp only [h.items, h.missed, h.written, List.append_nil, List.flatten_nil, List.Subperm.refl]
  handed := by
    rw [h.received]
    nofun

variable (marshal) in
theorem pushBack_spec (io : AppendCalls) (rio : RewriteCalls) (f : File MissedCall)
    {calls : List MissedCall} {b : PersistentBuffer MissedCall} (hkey : b.keyFn = none)
    (hroom : b.items.length + calls.length ≤ b.capacity) :
    (pushBack marshal io rio b f calls).1.keyFn = none ∧
      (pushBack marshal io rio b f calls).1.items = b.items ++ calls := by
  induction calls generalizing b f with
  | nil => exact ⟨hkey, (List.append_nil _).symm⟩
  | cons call calls ih =>
    rw [List.length_cons] at hroom
    rw [pushBack]
    rcases b.push_cases marshal io rio f call with ⟨hdup, -⟩ | ⟨-, hfull, -⟩ | ⟨-, -, b', hpush, hsame⟩
    · rw [hkey] at hdup
      exact absurd hdup (by simp [KeyedQueue.HasKeyOf])
    · omega
    · rw [hpush]
      have hitems : b'.items.length = b.items.length + 1 := by
        rw [hsame.items_eq, List.length_append, List.length_singleton]
      obtain ⟨hkey', hback⟩ := ih (appendLine marshal io f call).1 (b := b')
        (hsame.keyFn_eq.trans hkey) (by rw [hitems, hsame.capacity_eq]; omega)
      refine ⟨hkey', ?_⟩
      rw [hback, hsame.items_eq, List.append_assoc]
      rfl

/-- A call that is missed, or taken from the buffer, is not recorded. -/
theorem not_noneLost_of_length
    (h : s.buffer.items.length + s.written.flatten.length < s.found.length + s.missed.length) :
    ¬ s.NoneLost := by
  intro hnone
  have hlength := hnone.recorded.length_le
  simp only [List.length_append, List.length_map] at hlength
  omega

/-- **Every step.** From a buffer that nothing has happened to, a step leads to one of its kind if it
meets the condition, and loses a call if not. -/
theorem Untouched.step (h : s.Untouched) {e : MissedCallsEvent} (hstep : s.step marshal e = some t) :
    s.Spares e ∧ t.Untouched ∨ ¬ s.Spares e ∧ ¬ t.NoneLost := by
  match e with
  | .gateway e =>
    obtain ⟨calls, hcalls, rfl⟩ := Option.map_eq_some_iff.mp hstep
    cases hmisses : misses s.calls e with
    | none =>
      refine .inl ⟨.inl hmisses, h.keyFn, h.items, ?_, h.sendCh, h.written, h.received⟩
      rw [h.missed]
      rfl
    | some caller =>
      refine .inr ⟨?_, not_noneLost_of_length ?_⟩
      · rintro (hnone | hrefused)
        · rw [hmisses] at hnone
          cases hnone
        · rw [hcalls] at hrefused
          cases hrefused
      · simp [h.items, h.missed, h.written]
  | .deliverAll tio io rio queued =>
    rcases s.buffer.drainAll_cases tio s.file with ⟨hempty, hdrain⟩ | ⟨hne, err, herr, hdrain⟩ |
      ⟨hne, rfl, b, hdrain, hsame⟩
    · simp only [MissedCalls.step, hdrain] at hstep
      cases hstep
      exact .inl ⟨.inl hempty, h⟩
    · simp only [MissedCalls.step, hdrain] at hstep
      cases hstep
      refine .inl ⟨.inr (.inl ?_), ⟨h.keyFn, h.items, h.missed, h.sendCh, h.written, h.received⟩⟩
      rintro rfl
      cases herr
    · obtain ⟨call, calls, hcalls⟩ := List.exists_cons_of_ne_nil hne
      simp only [MissedCalls.step, hdrain, hcalls] at hstep
      split at hstep
      · next hqueued =>
        cases hstep
        refine .inr ⟨?_, not_noneLost_of_length ?_⟩
        · rintro (hempty | hdone | hnot)
          · exact hne hempty
          · exact hdone rfl
          · exact hnot hqueued
        · have hlength := congrArg List.length (h.items.symm.trans hcalls)
          simp [hsame.items_eq, h.missed, h.written, hlength]
      · next hqueued =>
        cases hstep
        have hroom : b.items.length + (call :: calls).length ≤ b.capacity := by
          rw [hsame.items_eq, hsame.capacity_eq, ← hcalls, List.length_nil, Nat.zero_add]
          exact s.buffer.length_le
        obtain ⟨hkey, hitems⟩ := pushBack_spec marshal io rio ⟨[], none⟩
          (hsame.keyFn_eq.trans h.keyFn) hroom
        rw [hsame.items_eq, List.nil_append] at hitems
        exact .inl ⟨.inr (.inr hqueued), hkey, (hitems.trans hcalls.symm).trans h.items, h.missed, h.sendCh,
          h.written, h.received⟩
  | .write ok =>
    simp only [MissedCalls.step, h.sendCh] at hstep
    cases hstep
  | .closed =>
    cases hstep
    exact .inl ⟨trivial, h.keyFn, h.items, h.missed, rfl, h.written, h.received⟩
  | .receive n =>
    simp only [MissedCalls.step, h.written, List.getElem?_nil, Option.map_none] at hstep
    cases hstep

theorem untouched_init (connected : Bool) (now : Nat) (io : LoadCalls) (f : File MissedCall) :
    (init connected now io f).Untouched := by
  refine ⟨?_, rfl, rfl, rfl, rfl, rfl⟩
  simp only [init, opened]
  split
  · next b hb => exact PersistentBuffer.newKeyed_keyFn hb
  · rfl

/-- **The runs in which no call is lost** miss no call, and deliver none from the buffer. -/
theorem spares_iff_noneLost (marshal : MissedCall → Except String Nat) (connected : Bool) (now : Nat)
    (io : LoadCalls) (f : File MissedCall) (events : List MissedCallsEvent) :
    Guarded (MissedCalls.step marshal) Spares (init connected now io f) events ↔
      ∀ before after s, events = before ++ after →
        exec (MissedCalls.step marshal) (init connected now io f) before = some s → s.NoneLost := by
  have hinit := untouched_init connected now io f
  refine guarded_iff_invariant (J := fun s => s.NoneLost → s.Untouched)
    (fun s e t hJ hs hstep => ?_) (fun s e hrefused => ?_) (fun _ => hinit) hinit.noneLost events
  · rcases (hJ hs).step hstep with ⟨hspares, ht⟩ | ⟨hspares, ht⟩
    · exact ⟨fun _ => ht, iff_of_true ht.noneLost hspares⟩
    · exact ⟨fun hnone => absurd hnone ht, iff_of_false ht hspares⟩
  · match e with
    | .gateway e => exact .inr (Option.map_eq_none_iff.mp hrefused)
    | .deliverAll tio io rio queued =>
      simp only [MissedCalls.step] at hrefused
      split at hrefused
      · cases hrefused
      · cases hrefused
      · split at hrefused <;> cases hrefused
    | .write _ | .closed | .receive _ => trivial

/-- **A call is missed, and one is not handed on.** A call that rings while the signaling is down is
rejected without an entry; and an entry from before is taken from the buffer, written to the connection
and received by the server, whose provider ignores it. -/
theorem missed_call_lost :
    (∃ s, exec (MissedCalls.step fun _ => .ok 40) (init false 0 .done ⟨[], none⟩)
        [.gateway (.urc 0 .ring), .gateway (.run 1 ⟨none, true⟩)] = some s ∧
      s.missed = [""] ∧ s.buffer.items = [] ∧ ¬ s.NoneLost) ∧
    ∃ s, exec (MissedCalls.step fun _ => .ok 40)
        (init true 0 .done ⟨[⟨some ⟨"+46700000001", 5⟩, 40⟩], none⟩)
        [.deliverAll .done .done .done true, .write true, .receive 0] = some s ∧
      s.received = [[⟨"+46700000001", 5⟩]] ∧ s.handedOn = [] ∧ ¬ s.NoneLost := by
  refine ⟨⟨_, rfl, rfl, rfl, not_noneLost_of_length (by decide)⟩, ⟨_, rfl, rfl, rfl, fun h => ?_⟩⟩
  exact absurd (h.handed _ (.head _) _ (.head _)) (by decide)

end MissedCalls

end Svarla.ModemGateway
