import Svarla.Conversations.Store
import Svarla.Lib.Run
import Svarla.Lib.Threads

/-!
# The order of a message's statuses

A message that a device has sent is pending until the provider answers. `sendMessage` then stores the
status with the provider's id, under which a receipt looks for the message, and returns; `retryMessage`
and a receipt announce the status that they store to the device. The device links its row with the
message when the request returns, and looks for announced statuses by that link.

Nothing looks at the status that is there. A receipt that comes before the id is stored is lost, a
failure that is reported late replaces a delivery, and what is announced before the device has its link
is not applied; a send that the provider refused is sent for the device (`receipt_before_id`). In a run
where receipts find their message, nothing is written over a delivery, and the device has its link and
gets the statuses in their order (`Clear`), the status never regresses and the device agrees
(`status_never_regresses`).

The request of the device has reached the server here, and statements do not fail. The limit of the
retries, and what a sync of the device brings in, are left out: only a sync brings in a row that the
listener of the repository, which looks for the server's id, would find.
-/

namespace Svarla.Conversations

open Svarla.Lib

/-- The status that a receipt reports. -/
def receiptStatus (delivered : Bool) : MessageStatus := if delivered then .delivered else .failed

/-- Where a call of the service is, that is about the message. -/
inductive StatusCall
  /-- `sendMessage`, or `retryMessage`, waits for the provider. -/
  | asking (first : Bool)
  /-- The provider has given the message an id, or refused it. -/
  | answered (first : Bool) (result : Option String)
  /-- `sendMessage` has stored the outcome. -/
  | returning (accepted : Bool)
  /-- `retryMessage` has read that the message has failed. -/
  | selected
  /-- `updateMessageStatus` has found the message. -/
  | found (providerMessageId : String) (delivered : Bool)
  deriving DecidableEq, Repr

/-- The message on the device. -/
structure DeviceRow where
  status : MessageStatus
  /-- Is its `providerMessageId` that of the server's row? -/
  linked : Bool
  deriving DecidableEq, Repr

structure Outbound where
  /-- The row of the server. -/
  status : MessageStatus
  providerMessageId : Option String
  calls : List StatusCall
  /-- The ids that the provider has given the message. -/
  accepted : List String
  /-- The receipts for one of these that were not applied. -/
  missed : List String
  everDelivered : Bool
  /-- The statuses that are stored, and not broadcast yet. -/
  announcing : List MessageStatus
  /-- The `message_status` events that are on their way. -/
  inbox : List MessageStatus
  device : DeviceRow
  deriving DecidableEq, Repr

inductive StatusEvent
  /-- The provider answers. -/
  | answer (i : Nat) (result : Option String)
  /-- The outcome is stored. -/
  | store (i : Nat)
  /-- `retryMessage` reads the message. -/
  | retry
  /-- It writes that the message is pending, and sends it. -/
  | mark (i : Nat)
  /-- A receipt comes, and `updateMessageStatus` looks for its message. -/
  | receipt (providerMessageId : String) (delivered : Bool)
  | apply (i : Nat)
  | broadcast (i : Nat)
  /-- The request of the device returns, or fails for it. -/
  | respond (i : Nat) (ok : Bool)
  /-- The device handles the next event. -/
  | deliver
  deriving DecidableEq, Repr

namespace Outbound

/-- The message is stored on both sides, and was passed to the provider. -/
def init : Outbound := ⟨.pending, none, [.asking true], [], [], false, [], [], ⟨.pending, false⟩⟩

/-- A status is written. -/
def write (s : Outbound) (status : MessageStatus) : Outbound :=
  { s with status, everDelivered := s.everDelivered || status = .delivered }

def step (s : Outbound) : StatusEvent → Option Outbound
  | .answer i result =>
    match s.calls[i]? with
    | some (.asking first) =>
      -- the provider gives an id once
      if ∃ id ∈ result, id ∈ s.accepted then none
      else some { s with
        accepted := s.accepted ++ result.toList
        calls := advance s.calls i (some (.answered first result)) }
    | _ => none
  | .store i =>
    match s.calls[i]? with
    | some (.answered first result) =>
      let status := if result.isSome then .sent else .failed
      let s := { s.write status with providerMessageId := result.or s.providerMessageId }
      if first then some { s with calls := advance s.calls i (some (.returning result.isSome)) }
      else some { s with
        calls := advance s.calls i none
        announcing := s.announcing ++ [status] }
    | _ => none
  | .retry => if s.status = .failed then some { s with calls := s.calls ++ [.selected] } else none
  | .mark i =>
    match s.calls[i]? with
    | some .selected => some { s.write .pending with calls := advance s.calls i (some (.asking false)) }
    | _ => none
  | .receipt id delivered =>
    if s.providerMessageId = some id then some { s with calls := s.calls ++ [.found id delivered] }
    else if id ∈ s.accepted then some { s with missed := s.missed ++ [id] }
    else some s
  | .apply i =>
    match s.calls[i]? with
    | some (.found id delivered) =>
      let s := { s with calls := advance s.calls i none }
      if s.providerMessageId = some id then
        some { s.write (receiptStatus delivered) with
          announcing := s.announcing ++ [receiptStatus delivered] }
      -- the row has another id by now, and the update finds none
      else some { s with missed := s.missed ++ [id] }
    | _ => none
  | .broadcast i =>
    match s.announcing[i]? with
    | some status => some { s with
        announcing := s.announcing.eraseIdx i, inbox := s.inbox ++ [status] }
    | none => none
  | .respond i ok =>
    match s.calls[i]? with
    | some (.returning _) => some { s with
        calls := advance s.calls i none
        -- the device does not look at the status that is returned
        device := if ok then ⟨.sent, true⟩ else { s.device with status := .failed } }
    | _ => none
  | .deliver =>
    match s.inbox with
    | status :: inbox => some { s with
        inbox, device := if s.device.linked then { s.device with status } else s.device }
    | [] => none

/-- The statuses are in order. -/
structure NeverRegresses (s : Outbound) : Prop where
  /-- Every receipt was applied that came after the provider had accepted the message. -/
  applied : s.missed = []
  kept : s.everDelivered → s.status = .delivered
  /-- When all is done, the device has the status of the server. -/
  agrees : s.calls = [] → s.announcing = [] → s.inbox = [] → s.device.status = s.status

/-- A receipt that has found the message may be applied. -/
def MayApply (s : Outbound) : StatusCall → Prop
  | .found id delivered =>
    s.providerMessageId = some id ∧ (delivered ∨ s.status ≠ .delivered) ∧ s.announcing = []
  | _ => True

instance (s : Outbound) : (call : StatusCall) → Decidable (s.MayApply call)
  | .found _ _ => inferInstanceAs (Decidable (_ ∧ _))
  | .asking _ | .answered _ _ | .returning _ | .selected => .isTrue trivial

/-- A receipt finds its message, nothing is written over a delivery or before the last status was
broadcast, and the device gets its link from an accepted request, before the first event. -/
def Clear (s : Outbound) : StatusEvent → Prop
  | .store _ => s.status ≠ .delivered ∧ s.announcing = []
  | .mark _ => s.status ≠ .delivered
  | .receipt id _ => id ∈ s.accepted → s.providerMessageId = some id
  | .apply i => ∀ call ∈ s.calls[i]?.toList, s.MayApply call
  | .respond i ok => ok ∧ s.calls[i]? = some (.returning true)
  | .deliver => s.device.linked
  | _ => True

instance (s : Outbound) (e : StatusEvent) : Decidable (s.Clear e) := by
  cases e <;> unfold Clear <;> infer_instance

/-! ### The first send -/

/-- The message was passed to the provider, and the outcome is not stored. -/
structure Sending (s : Outbound) : Prop where
  call : s.calls = [.asking true] ∨ ∃ result, s.calls = [.answered true result]
  row : s.status = .pending ∧ s.providerMessageId = none
  applied : s.missed = []
  undelivered : s.everDelivered = false
  silent : s.announcing = [] ∧ s.inbox = []
  unlinked : s.device.linked = false

/-! ### After the first send -/

end Outbound

namespace StatusCall

/-- `sendMessage` has not stored the outcome. -/
def first : StatusCall → Bool
  | asking first | answered first _ => first
  | _ => false

/-- A send that is not over, or whose failure the device is not to know. -/
def busy : StatusCall → Bool
  | asking first | answered first _ => !first
  | returning accepted => !accepted
  | _ => false

/-- The request of the device. -/
def request : StatusCall → Nat
  | returning _ => 1
  | _ => 0

end StatusCall

namespace Outbound

/-- The status of the device, once it has its link. -/
def linkedStatus (s : Outbound) : MessageStatus := if s.device.linked then s.device.status else .sent

/-- The status of the device, once it has got what is announced or on its way. -/
def coming (s : Outbound) : MessageStatus := ((s.inbox ++ s.announcing).getLast?).getD s.linkedStatus

/-- The outcome of the first send is stored. -/
structure Stored (s : Outbound) : Prop where
  first : ∀ call ∈ s.calls, call.first = false
  applied : s.missed = []
  kept : s.everDelivered → s.status = .delivered
  announced : s.announcing.length ≤ 1
  agrees : (∃ call ∈ s.calls, call.busy = true) ∨ s.coming = s.status
  /-- The device has its link, or its request is there. -/
  request : owed StatusCall.request s.calls = if s.device.linked then 0 else 1

theorem Stored.neverRegresses {s : Outbound} (h : Stored s) : NeverRegresses s where
  applied := h.applied
  kept := h.kept
  agrees := by
    intro hcalls hannouncing hinbox
    have hrequest := h.request
    rw [hcalls, owed_nil] at hrequest
    have hlinked : s.device.linked = true := by
      rcases hlinked : s.device.linked with _ | _
      · simp [hlinked] at hrequest
      · rfl
    rcases h.agrees with ⟨call, hcall, -⟩ | hcoming
    · rw [hcalls] at hcall
      cases hcall
    · rw [coming, hannouncing, hinbox, linkedStatus, if_pos hlinked] at hcoming
      exact hcoming

theorem Sending.neverRegresses {s : Outbound} (h : Sending s) : NeverRegresses s where
  applied := h.applied
  kept := by
    intro hdelivered
    rw [h.undelivered] at hdelivered
    cases hdelivered
  agrees := by
    intro hcalls
    rcases h.call with hcall | ⟨_, hcall⟩ <;>
    · rw [hcalls] at hcall
      cases hcall

/-- What a call goes on as, while it is not the request of the device. -/
theorem Stored.advance_request {s : Outbound} (h : Stored s) {i : Nat} {call : StatusCall}
    (hcall : s.calls[i]? = some call) (hrequest : call.request = 0) (next : Option StatusCall)
    (hnext : next.elim 0 StatusCall.request = 0) :
    owed StatusCall.request (advance s.calls i next) = if s.device.linked then 0 else 1 := by
  have howed := owed_advance hcall StatusCall.request next
  have hdevice := h.request
  omega

theorem Stored.advance_first {s : Outbound} (h : Stored s) (i : Nat) (next : Option StatusCall)
    (hnext : next.all (fun call => !call.first) = true) :
    ∀ call ∈ advance s.calls i next, call.first = false := by
  intro call hcall
  rcases mem_advance hcall with hcall | rfl
  · exact h.first call hcall
  · simpa using hnext

/-- The provider answers a call of `retryMessage`. -/
theorem Stored.answer {s t : Outbound} (h : Stored s) {i : Nat} {result : Option String}
    (hstep : s.step (.answer i result) = some t) : Stored t := by
  rw [step] at hstep
  split at hstep
  · rename_i first hcall
    split at hstep
    · cases hstep
    · cases hstep
      have hfirst : first = false := h.first _ (List.mem_of_getElem? hcall)
      subst hfirst
      let next := StatusCall.answered false result
      exact ⟨h.advance_first i (some next) rfl, h.applied, h.kept, h.announced,
        .inl ⟨next, mem_advance_next hcall, rfl⟩, h.advance_request hcall rfl (some next) rfl⟩
  · cases hstep

/-- A status is stored and announced by a call that is over. -/
theorem Stored.announce {s : Outbound} (h : Stored s) {i : Nat} {call : StatusCall}
    (hcall : s.calls[i]? = some call) (hrequest : call.request = 0) (hsilent : s.announcing = [])
    {status : MessageStatus} (hstatus : s.status ≠ .delivered ∨ status = .delivered)
    (providerMessageId : Option String) :
    Stored { s.write status with
      providerMessageId
      calls := advance s.calls i none
      announcing := s.announcing ++ [status] } where
  first := h.advance_first i none rfl
  applied := h.applied
  kept := by
    intro hdelivered
    simp only [write, Bool.or_eq_true, decide_eq_true_eq] at hdelivered ⊢
    rcases hdelivered with hdelivered | hdelivered
    · exact hstatus.resolve_left fun hne => hne (h.kept hdelivered)
    · exact hdelivered
  announced := by simp [hsilent]
  agrees := .inr (by simp [coming, write])
  request := h.advance_request hcall hrequest none rfl

theorem Stored.store {s t : Outbound} (h : Stored s) {i : Nat} (hclear : s.Clear (.store i))
    (hstep : s.step (.store i) = some t) : Stored t := by
  rw [step] at hstep
  split at hstep
  · rename_i first result hcall
    have hfirst : first = false := h.first _ (List.mem_of_getElem? hcall)
    subst hfirst
    cases hstep
    exact h.announce hcall rfl hclear.2 (.inl hclear.1) _
  · cases hstep

theorem Stored.apply {s t : Outbound} (h : Stored s) {i : Nat} (hclear : s.Clear (.apply i))
    (hstep : s.step (.apply i) = some t) : Stored t := by
  rw [step] at hstep
  split at hstep
  · rename_i id delivered hcall
    obtain ⟨hid, hdelivered, hsilent⟩ := hclear (.found id delivered) (by simp [hcall])
    simp only [hid, if_true, Option.some.injEq] at hstep
    subst hstep
    refine h.announce hcall rfl hsilent ?_ _
    rcases hdelivered with rfl | hne
    · exact .inr rfl
    · exact .inl hne
  · cases hstep

theorem Stored.mark {s t : Outbound} (h : Stored s) {i : Nat} (hclear : s.Clear (.mark i))
    (hstep : s.step (.mark i) = some t) : Stored t := by
  rw [step] at hstep
  split at hstep
  · rename_i hcall
    cases hstep
    let next := StatusCall.asking false
    refine ⟨h.advance_first i (some next) rfl, h.applied, ?_, h.announced,
      .inl ⟨next, mem_advance_next hcall, rfl⟩, h.advance_request hcall rfl (some next) rfl⟩
    intro hdelivered
    simp only [write, Bool.or_eq_true, decide_eq_true_eq] at hdelivered
    exact absurd (h.kept (hdelivered.resolve_right nofun)) hclear
  · cases hstep

/-- A call that is new has nothing to store yet. -/
theorem Stored.enter {s : Outbound} (h : Stored s) {call : StatusCall} (hfirst : call.first = false)
    (hrequest : call.request = 0) : Stored { s with calls := s.calls ++ [call] } where
  first := by
    intro call' hcall'
    rcases List.mem_append.mp hcall' with hcall' | hcall'
    · exact h.first call' hcall'
    · rw [List.mem_singleton.mp hcall']
      exact hfirst
  applied := h.applied
  kept := h.kept
  announced := h.announced
  agrees := h.agrees.imp_left fun ⟨call', hcall', hbusy⟩ =>
    ⟨call', List.mem_append_left _ hcall', hbusy⟩
  request := by
    rw [owed_concat, hrequest]
    exact h.request

theorem Stored.receipt {s t : Outbound} (h : Stored s) {id : String} {delivered : Bool}
    (hclear : s.Clear (.receipt id delivered)) (hstep : s.step (.receipt id delivered) = some t) :
    Stored t := by
  rw [step] at hstep
  split at hstep
  · cases hstep
    exact h.enter rfl rfl
  · rename_i hid
    rw [if_neg fun haccepted => hid (hclear haccepted)] at hstep
    cases hstep
    exact h

theorem Stored.broadcast {s t : Outbound} (h : Stored s) {i : Nat}
    (hstep : s.step (.broadcast i) = some t) : Stored t := by
  rw [step] at hstep
  split at hstep
  · rename_i status hstatus
    cases hstep
    -- there is one status to broadcast, and it stays the last one that comes
    obtain ⟨hannouncing, hi⟩ : s.announcing = [status] ∧ i = 0 := by
      have hannounced := h.announced
      match hlist : s.announcing, i with
      | [], _ => simp [hlist] at hstatus
      | [_], 0 => simpa [hlist] using hstatus
      | [_], i + 1 => simp [hlist] at hstatus
      | _ :: _ :: _, _ => simp [hlist] at hannounced
    subst hi
    refine ⟨h.first, h.applied, h.kept, by simp [hannouncing], h.agrees.imp_right fun hcoming => ?_,
      h.request⟩
    rw [← hcoming, coming, coming, hannouncing]
    simp [linkedStatus]
  · cases hstep

/-- The device gets its link. -/
theorem Stored.respond {s t : Outbound} (h : Stored s) {i : Nat} {ok : Bool}
    (hclear : s.Clear (.respond i ok)) (hstep : s.step (.respond i ok) = some t) : Stored t := by
  obtain ⟨rfl, hcall⟩ := hclear
  simp only [step, hcall, if_true, Option.some.injEq] at hstep
  subst hstep
  have howed := owed_advance hcall StatusCall.request none
  have hrequest := h.request
  have hdebt : StatusCall.request (.returning true) = 1 := rfl
  rw [hdebt, Option.elim_none] at howed
  have hunlinked : s.device.linked = false := by
    rcases hlinked : s.device.linked with _ | _
    · rfl
    · rw [hlinked, if_pos rfl] at hrequest
      omega
  refine ⟨h.advance_first i none rfl, h.applied, h.kept, h.announced, ?_, ?_⟩
  · rcases h.agrees with ⟨call, hmem, hbusy⟩ | hcoming
    · refine .inl ⟨call, mem_advance_of_ne hcall none hmem ?_, hbusy⟩
      rintro rfl
      cases hbusy
    · right
      rw [← hcoming]
      simp [coming, linkedStatus, hunlinked]
  · rw [hunlinked] at hrequest
    simp only [Bool.false_eq_true, if_false] at hrequest
    simp only [if_true]
    omega

theorem Stored.deliver {s t : Outbound} (h : Stored s) (hclear : s.Clear .deliver)
    (hstep : s.step .deliver = some t) : Stored t := by
  have hlinked : s.device.linked = true := hclear
  rw [step] at hstep
  split at hstep
  · rename_i status inbox hinbox
    simp only [hlinked, if_true, Option.some.injEq] at hstep
    subst hstep
    refine ⟨h.first, h.applied, h.kept, h.announced, h.agrees.imp_right fun hcoming => ?_, ?_⟩
    · rw [← hcoming]
      simp [coming, linkedStatus, hinbox, hlinked, List.getLast?_cons]
    · have hrequest := h.request
      rw [hlinked] at hrequest
      exact hrequest
  · cases hstep

theorem Stored.step {s t : Outbound} (h : Stored s) {e : StatusEvent} (hclear : s.Clear e)
    (hstep : s.step e = some t) : Stored t := by
  cases e with
  | answer i result => exact h.answer hstep
  | store i => exact h.store hclear hstep
  | retry =>
    rw [Outbound.step] at hstep
    split at hstep
    · cases hstep
      exact h.enter rfl rfl
    · cases hstep
  | mark i => exact h.mark hclear hstep
  | receipt id delivered => exact h.receipt hclear hstep
  | apply i => exact h.apply hclear hstep
  | broadcast i => exact h.broadcast hstep
  | respond i ok => exact h.respond hclear hstep
  | deliver => exact h.deliver hclear hstep

/-- Until the outcome is stored, the provider answers, and nothing else is done for the message. -/
theorem Sending.step {s t : Outbound} (h : Sending s) {e : StatusEvent} (hclear : s.Clear e)
    (hstep : s.step e = some t) : Sending t ∨ Stored t := by
  obtain ⟨hcall, ⟨hstatus, hid⟩, hmissed, hdelivered, ⟨hannouncing, hinbox⟩, hlinked⟩ := h
  obtain ⟨call, hcalls, hkind⟩ : ∃ call, s.calls = [call] ∧
      (call = .asking true ∨ ∃ result, call = .answered true result) := by
    rcases hcall with hcall | ⟨result, hcall⟩
    · exact ⟨_, hcall, .inl rfl⟩
    · exact ⟨_, hcall, .inr ⟨result, rfl⟩⟩
  cases e with
  | answer i result =>
    rw [Outbound.step, hcalls] at hstep
    rcases i with _ | i
    · rcases hkind with rfl | ⟨_, rfl⟩
      · simp only [List.getElem?_cons_zero] at hstep
        split at hstep
        · cases hstep
        · cases hstep
          exact .inl ⟨.inr ⟨result, rfl⟩, ⟨hstatus, hid⟩, hmissed, hdelivered, ⟨hannouncing, hinbox⟩,
            hlinked⟩
      · cases hstep
    · cases hstep
  | store i =>
    rw [Outbound.step, hcalls] at hstep
    rcases i with _ | i
    · rcases hkind with rfl | ⟨result, rfl⟩
      · cases hstep
      · cases hstep
        right
        let next := StatusCall.returning result.isSome
        have hcalls' : advance s.calls 0 (some next) = [next] := by rw [hcalls]; rfl
        refine ⟨?_, hmissed, ?_, ?_, ?_, ?_⟩
        · intro call hcall
          change call ∈ advance s.calls 0 (some next) at hcall
          rw [hcalls', List.mem_singleton] at hcall
          rw [hcall]
          rfl
        · cases result <;> simp [write, hdelivered]
        · simp [write, hannouncing]
        · -- a send that was refused is busy until the request of the device fails for it
          rcases result with _ | id
          · exact .inl ⟨next, hcalls'.symm ▸ List.mem_singleton_self next, rfl⟩
          · exact .inr (by simp [coming, write, hannouncing, hinbox, linkedStatus, hlinked])
        · change owed StatusCall.request (advance s.calls 0 (some next)) = if s.device.linked then 0 else 1
          rw [hcalls', hlinked]
          rfl
    · cases hstep
  | retry =>
    rw [Outbound.step, hstatus] at hstep
    cases hstep
  | mark i =>
    rw [Outbound.step, hcalls] at hstep
    rcases hkind with rfl | ⟨_, rfl⟩ <;> cases i <;> cases hstep
  | receipt id delivered =>
    rw [Outbound.step, hid, if_neg nofun] at hstep
    rw [if_neg fun haccepted => nomatch hid.symm.trans (hclear haccepted)] at hstep
    cases hstep
    exact .inl ⟨hcall, ⟨hstatus, hid⟩, hmissed, hdelivered, ⟨hannouncing, hinbox⟩, hlinked⟩
  | apply i =>
    rw [Outbound.step, hcalls] at hstep
    rcases hkind with rfl | ⟨_, rfl⟩ <;> cases i <;> cases hstep
  | broadcast i =>
    rw [Outbound.step, hannouncing] at hstep
    cases hstep
  | respond i ok =>
    rw [Outbound.step, hcalls] at hstep
    rcases hkind with rfl | ⟨_, rfl⟩ <;> cases i <;> cases hstep
  | deliver =>
    rw [Outbound.step, hinbox] at hstep
    cases hstep

theorem sending_init : Sending init :=
  ⟨.inl rfl, ⟨rfl, rfl⟩, rfl, rfl, ⟨rfl, rfl⟩, rfl⟩

/-- **The status of a message never regresses in a clear run**, and the device agrees with the server
in the end. -/
theorem status_never_regresses {es : List StatusEvent} {t : Outbound}
    (hclear : Guarded step Clear init es) (hrun : exec step init es = some t) : NeverRegresses t := by
  have hinv : Sending t ∨ Stored t := by
    refine hclear.invariant (I := fun s => Sending s ∨ Stored s) ?_ (.inl sending_init) hrun
    intro s e t hs hguard hstep
    rcases hs with hs | hs
    · exact hs.step hguard hstep
    · exact .inr (hs.step hguard hstep)
  rcases hinv with ht | ht
  · exact ht.neverRegresses
  · exact ht.neverRegresses

/-- A message that is accepted, sent and delivered. -/
theorem status_never_regresses_delivered :
    ∃ t, exec step init
        [.answer 0 (some "p"), .store 0, .respond 0 true, .receipt "p" true, .apply 0, .broadcast 0,
          .deliver] = some t ∧
      t.status = .delivered ∧ t.device.status = .delivered ∧ NeverRegresses t :=
  ⟨_, rfl, rfl, rfl, @status_never_regresses [.answer 0 (some "p"), .store 0, .respond 0 true,
    .receipt "p" true, .apply 0, .broadcast 0, .deliver] _ (by decide +kernel) rfl⟩

/-- A receipt comes before the id is stored: the message stays sent. -/
theorem receipt_before_id :
    ¬∀ (es : List StatusEvent) (t : Outbound), exec step init es = some t → NeverRegresses t := by
  intro h
  have hmissed := (h [.answer 0 (some "p"), .receipt "p" true, .store 0] _ rfl).applied
  cases hmissed

end Outbound
end Svarla.Conversations
