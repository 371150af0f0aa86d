import Mathlib.Logic.Function.Basic
import Svarla.Conversations.Store
import Svarla.Lib.Run

/-!
# Messages that are sent again

`retryMessage` reads the row of a message, looks at its status and retry count, and then writes both, whatever
the row has become. So two calls that read the row before either writes it both send the message. A call that
is answered writes the outcome, and where this fails, as for an ID that another message has, the message stays
pending; `sendMessage` writes the status alone then. As long as each call finds the row as it read it, and
writes its outcome, the message is sent at most three times, by one call at a time, and comes to be sent or
failed (`retry_conclusive`).
-/

namespace Svarla.Conversations

open Svarla.Lib

/-- `MAX_RETRIES`. -/
def maxRetries : Nat := 3

/-- Where a call of `retryMessage` is. -/
inductive RetryPhase
  /-- It has read the row. -/
  | selected (status : MessageStatus) (retryCount : Nat)
  /-- It has written that the message is pending. -/
  | marked
  /-- It waits for the provider. -/
  | sending
  /-- The provider has given the message an ID, or failed. -/
  | answered (result : Option String)
  deriving DecidableEq, Repr

/-- A message, and the calls of `retryMessage` for it. -/
structure Retrying where
  row : Message
  calls : Nat → Option RetryPhase
  sends : Nat
  /-- The status of the message whenever a call returned or threw. -/
  ended : List MessageStatus

/-- What a call does; `ok` says whether the statement, or the search for the provider, does not fail. -/
inductive RetryEvent
  | select (i : Nat) (ok : Bool)
  | mark (i : Nat) (ok : Bool)
  | send (i : Nat) (ok : Bool)
  | answer (i : Nat) (result : Option String)
  | finish (i : Nat) (ok : Bool)

/-- A call that has written that the message is pending, and not yet the outcome. -/
def RetryPhase.inFlight : Option RetryPhase → Bool
  | none => false
  | some (.selected _ _) => false
  | some _ => true

namespace Retrying

def start (row : Message) : Retrying := ⟨row, fun _ => none, 0, []⟩

def setCall (s : Retrying) (i : Nat) (phase : Option RetryPhase) : Retrying :=
  { s with calls := Function.update s.calls i phase }

/-- A call returns or throws. -/
def close (s : Retrying) (i : Nat) : Retrying :=
  { s.setCall i none with ended := s.ended ++ [s.row.status] }

/-- `retry_count` and `status` do not allow another try. -/
def Rejected (status : MessageStatus) (retryCount : Nat) : Prop :=
  maxRetries ≤ retryCount ∨ status ≠ .failed

instance (status : MessageStatus) (retryCount : Nat) : Decidable (Rejected status retryCount) :=
  inferInstanceAs (Decidable (_ ∨ _))

/-- The row with the outcome. -/
def outcome (row : Message) : Option String → Message
  | some messageId => { row with status := .sent, providerMessageId := some messageId }
  | none => { row with status := .failed }

def step (s : Retrying) : RetryEvent → Option Retrying
  | .select i ok =>
    match s.calls i with
    | none => some (if ok then s.setCall i (some (.selected s.row.status s.row.retryCount)) else s.close i)
    | _ => none
  | .mark i ok =>
    match s.calls i with
    | some (.selected status retryCount) =>
      some
        (if Rejected status retryCount ∨ ok = false then s.close i
        else
          { s.setCall i (some .marked) with
            row := { s.row with retryCount := retryCount + 1, status := .pending } })
    | _ => none
  | .send i ok =>
    match s.calls i with
    | some .marked =>
      some (if ok then { s.setCall i (some .sending) with sends := s.sends + 1 }
        else s.setCall i (some (.answered none)))
    | _ => none
  | .answer i result =>
    match s.calls i with
    | some .sending => some (s.setCall i (some (.answered result)))
    | _ => none
  | .finish i ok =>
    match s.calls i with
    | some (.answered result) =>
      some (if ok then { s with row := outcome s.row result }.close i else s.close i)
    | _ => none

/-- A call is in flight. -/
def InFlight (s : Retrying) (i : Nat) : Prop := RetryPhase.inFlight (s.calls i) = true

/-- A call marks the message as it has read it, or throws while it is not pending. -/
def AsRead (row : Message) (ok : Bool) : Option RetryPhase → Prop
  | some (.selected status retryCount) =>
    if Rejected status retryCount ∨ ok = false then row.status ≠ .pending
    else row.status = status ∧ row.retryCount = retryCount
  | _ => True

instance (row : Message) (ok : Bool) : (phase : Option RetryPhase) → Decidable (AsRead row ok phase)
  | some (.selected status retryCount) =>
    inferInstanceAs (Decidable
      (if Rejected status retryCount ∨ ok = false then row.status ≠ .pending
      else row.status = status ∧ row.retryCount = retryCount))
  | none | some .marked | some .sending | some (.answered _) => .isTrue trivial

/-- The row is written as it was read, outcomes are written, and no call ends otherwise while the message is
pending. -/
def Undisturbed (s : Retrying) : RetryEvent → Prop
  | .select _ ok => ok = false → s.row.status ≠ .pending
  | .mark i ok => AsRead s.row ok (s.calls i)
  | .finish _ ok => ok = true
  | _ => True

instance (s : Retrying) : (e : RetryEvent) → Decidable (s.Undisturbed e)
  | .select _ _ => inferInstanceAs (Decidable (_ → _))
  | .mark _ _ => inferInstanceAs (Decidable (AsRead _ _ _))
  | .finish _ _ => inferInstanceAs (Decidable (_ = _))
  | .send _ _ | .answer _ _ => .isTrue trivial

/-- The message is sent a few times, by one call at a time, and every call leaves it sent or failed. -/
structure Conclusive (s : Retrying) : Prop where
  bounded : s.sends ≤ maxRetries
  single : ∀ i j, s.InFlight i → s.InFlight j → i = j
  concluded : ∀ status ∈ s.ended, status = .sent ∨ status = .failed

/-! ## The invariant -/

/-- The message is pending exactly while a call is in flight, and every call that marks it counts. -/
structure Inv (first : Nat) (s : Retrying) : Prop where
  status : s.row.status = .pending ∨ s.row.status = .sent ∨ s.row.status = .failed
  pending : s.row.status = .pending ↔ ∃ i, s.InFlight i
  single : ∀ i j, s.InFlight i → s.InFlight j → i = j
  counted : first + s.sends ≤ s.row.retryCount
  marked : ∀ i, s.calls i = some .marked → first + s.sends < s.row.retryCount
  bounded : s.row.retryCount ≤ max first maxRetries
  concluded : ∀ status ∈ s.ended, status = .sent ∨ status = .failed

variable {s t : Retrying} {first i j : Nat}

theorem calls_setCall {phase : Option RetryPhase} :
    (s.setCall i phase).calls j = if j = i then phase else s.calls j :=
  Function.update_apply s.calls i phase j

/-- A call that stays in flight, or out of it, changes nothing for the others. -/
theorem inFlight_setCall {phase : Option RetryPhase}
    (h : RetryPhase.inFlight phase = RetryPhase.inFlight (s.calls i)) :
    (s.setCall i phase).InFlight j ↔ s.InFlight j := by
  unfold InFlight
  rw [calls_setCall]
  by_cases hj : j = i
  · rw [if_pos hj, h, hj]
  · rw [if_neg hj]

/-- A call that has nothing to write. -/
theorem Inv.setCall (h : s.Inv first) {phase : Option RetryPhase} (hmarked : phase ≠ some .marked)
    (hflight : RetryPhase.inFlight phase = RetryPhase.inFlight (s.calls i)) :
    (s.setCall i phase).Inv first where
  status := h.status
  pending := by
    simp only [inFlight_setCall hflight]
    exact h.pending
  single j k hj hk := h.single j k ((inFlight_setCall hflight).mp hj) ((inFlight_setCall hflight).mp hk)
  counted := h.counted
  marked j hj := by
    rw [calls_setCall] at hj
    split at hj
    · exact absurd hj hmarked
    · exact h.marked j hj
  bounded := h.bounded
  concluded := h.concluded

/-- A call that ends without having written anything, while the message is not pending. -/
theorem Inv.close (h : s.Inv first) (hflight : RetryPhase.inFlight (s.calls i) = false)
    (hstatus : s.row.status ≠ .pending) : (s.close i).Inv first := by
  have hset : (s.setCall i none).Inv first := h.setCall nofun hflight.symm
  refine ⟨hset.status, hset.pending, hset.single, hset.counted, hset.marked, hset.bounded,
    fun status hmem => ?_⟩
  obtain hmem | hmem := List.mem_append.mp hmem
  · exact h.concluded status hmem
  · rw [List.mem_singleton] at hmem
    rw [hmem]
    exact h.status.resolve_left hstatus

/-- The row is as the call has read it, so no other one is in flight. -/
theorem Inv.mark (h : s.Inv first) (hstatus : s.row.status = .failed)
    (hcount : s.row.retryCount < maxRetries) :
    Inv first
      { s.setCall i (some .marked) with
        row := { s.row with retryCount := s.row.retryCount + 1, status := .pending } } := by
  have hnone : ∀ j, ¬ s.InFlight j := fun j hj => by
    have hpending := h.pending.mpr ⟨j, hj⟩
    rw [hstatus] at hpending
    cases hpending
  have honly : ∀ j, (s.setCall i (some .marked)).InFlight j → j = i := fun j hj => by
    by_contra hne
    rw [InFlight, calls_setCall, if_neg hne] at hj
    exact hnone j hj
  have hcounted := h.counted
  refine ⟨.inl rfl, iff_of_true rfl ⟨i, ?_⟩, fun j k hj hk => (honly j hj).trans (honly k hk).symm, ?_,
    fun _ _ => ?_, ?_, h.concluded⟩
  · unfold InFlight
    dsimp only
    rw [calls_setCall, if_pos rfl]
    rfl
  · dsimp only [Retrying.setCall]
    omega
  · dsimp only [Retrying.setCall]
    omega
  · dsimp only
    omega

/-- The provider is asked. -/
theorem Inv.send (h : s.Inv first) (hcall : s.calls i = some .marked) :
    Inv first { s.setCall i (some .sending) with sends := s.sends + 1 } := by
  have hset : (s.setCall i (some .sending)).Inv first := h.setCall nofun (by rw [hcall]; rfl)
  have hlt := h.marked i hcall
  have hflight : s.InFlight i := by
    rw [InFlight, hcall]
    rfl
  refine ⟨hset.status, hset.pending, hset.single, ?_, fun j hj => ?_, hset.bounded, hset.concluded⟩
  · dsimp only [Retrying.setCall]
    omega
  · -- another marked call would be in flight too
    dsimp only at hj
    rw [calls_setCall] at hj
    split at hj
    · cases hj
    · next hne =>
      refine absurd (h.single j i ?_ hflight) hne
      rw [InFlight, hj]
      rfl

/-- The outcome is written, and no call is in flight any more. -/
theorem Inv.finish (h : s.Inv first) {result : Option String} (hcall : s.calls i = some (.answered result)) :
    (Retrying.close { s with row := outcome s.row result } i).Inv first := by
  have hflight : s.InFlight i := by
    rw [InFlight, hcall]
    rfl
  have hstatus : (outcome s.row result).status = .sent ∨ (outcome s.row result).status = .failed := by
    cases result with
    | none => exact .inr rfl
    | some messageId => exact .inl rfl
  have hcount : (outcome s.row result).retryCount = s.row.retryCount := by
    cases result <;> rfl
  have hnone : ∀ j, ¬ (Retrying.close { s with row := outcome s.row result } i).InFlight j := fun j hj => by
    unfold InFlight Retrying.close at hj
    dsimp only at hj
    rw [calls_setCall] at hj
    split at hj
    · cases hj
    · next hne => exact hne (h.single j i hj hflight)
  refine ⟨.inr hstatus, iff_of_false (fun hpending => ?_) (fun ⟨j, hj⟩ => hnone j hj),
    fun j _ hj => absurd hj (hnone j), ?_, fun j hj => absurd ?_ (hnone j), ?_, fun status hmem => ?_⟩
  · obtain hsent | hfailed := hstatus
    · exact absurd (hpending.symm.trans hsent) nofun
    · exact absurd (hpending.symm.trans hfailed) nofun
  · dsimp only [Retrying.close, Retrying.setCall]
    rw [hcount]
    exact h.counted
  · rw [InFlight, hj]
    rfl
  · dsimp only [Retrying.close, Retrying.setCall]
    rw [hcount]
    exact h.bounded
  · obtain hmem | hmem := List.mem_append.mp hmem
    · exact h.concluded status hmem
    · rw [List.mem_singleton] at hmem
      rw [hmem]
      exact hstatus

theorem Inv.step (h : s.Inv first) {e : RetryEvent} (hguard : s.Undisturbed e) (hstep : s.step e = some t) :
    t.Inv first := by
  unfold Retrying.step at hstep
  cases e with
  | select i ok =>
    dsimp only at hstep
    split at hstep
    · next hcall =>
      cases hstep
      split
      · exact h.setCall nofun (by rw [hcall]; rfl)
      · next hok => exact h.close (by rw [hcall]; rfl) (hguard (Bool.eq_false_iff.mpr hok))
    · cases hstep
  | mark i ok =>
    dsimp only at hstep
    split at hstep
    · next status retryCount hcall =>
      unfold Undisturbed at hguard
      dsimp only at hguard
      rw [hcall, AsRead] at hguard
      cases hstep
      split
      · next hrejected =>
        rw [if_pos hrejected] at hguard
        exact h.close (by rw [hcall]; rfl) hguard
      · next hallowed =>
        rw [if_neg hallowed] at hguard
        obtain ⟨rfl, rfl⟩ := hguard
        simp only [Rejected, not_or, not_not, Nat.not_le] at hallowed
        exact h.mark hallowed.1.2 hallowed.1.1
    · cases hstep
  | send i ok =>
    dsimp only at hstep
    split at hstep
    · next hcall =>
      cases hstep
      split
      · exact h.send hcall
      · exact h.setCall nofun (by rw [hcall]; rfl)
    · cases hstep
  | answer i result =>
    dsimp only at hstep
    split at hstep
    · next hcall =>
      cases hstep
      exact h.setCall nofun (by rw [hcall]; rfl)
    · cases hstep
  | finish i ok =>
    dsimp only at hstep
    split at hstep
    · next result hcall =>
      cases hstep
      rw [if_pos (show ok = true from hguard)]
      exact h.finish hcall
    · cases hstep

theorem inv_start {row : Message} (hfailed : row.status = .failed) : (start row).Inv row.retryCount where
  status := .inr (.inr hfailed)
  pending := by
    refine iff_of_false (fun hpending => ?_) fun ⟨_, hflight⟩ => nomatch hflight
    exact absurd (hpending.symm.trans hfailed) nofun
  single _ _ hi := nomatch hi
  counted := Nat.le_refl _
  marked _ hi := nomatch hi
  bounded := Nat.le_max_left ..
  concluded _ hmem := absurd hmem List.not_mem_nil

theorem Inv.conclusive (h : s.Inv first) : s.Conclusive := by
  refine ⟨?_, h.single, h.concluded⟩
  have := h.counted
  have := h.bounded
  omega

/-- **Retries are bounded, single and conclusive** in every run in which a call finds the row as it has read
it, and writes its outcome. -/
theorem retry_conclusive {row : Message} (hfailed : row.status = .failed) {es : List RetryEvent}
    (hundisturbed : Guarded step Undisturbed (start row) es) (hrun : exec step (start row) es = some s) :
    s.Conclusive :=
  have hinv := hundisturbed.invariant (fun _ _ _ h hguard hstep => h.step hguard hstep)
    (inv_start hfailed) hrun
  hinv.conclusive

/-- A message that was not sent. -/
def failedRow : Message :=
  ⟨"row-1", none, "+46700000001", some "+46700000002", "hej", .sent, .failed, 1000, 0, false⟩

/-- The provider fails again, and the next call is answered. -/
theorem retry_conclusive_second :
    ∃ s, exec step (start failedRow)
        [.select 0 true, .mark 0 true, .send 0 true, .answer 0 none, .finish 0 true, .select 1 true,
          .mark 1 true, .send 1 true, .answer 1 (some "sms-1"), .finish 1 true] = some s ∧
      s.Conclusive := by
  have hundisturbed : Guarded step Undisturbed (start failedRow)
      [.select 0 true, .mark 0 true, .send 0 true, .answer 0 none, .finish 0 true, .select 1 true,
        .mark 1 true, .send 1 true, .answer 1 (some "sms-1"), .finish 1 true] := by
    decide +kernel
  exact ⟨_, rfl, retry_conclusive rfl hundisturbed rfl⟩

/-- Two calls read the row before either writes it; or the ID that the provider gives is another message's. -/
theorem retried_twice :
    (∃ s, exec step (start failedRow) [.select 0 true, .select 1 true, .mark 0 true, .mark 1 true] = some s ∧
      ¬ s.Conclusive) ∧
      ∃ s, exec step (start failedRow)
          [.select 0 true, .mark 0 true, .send 0 true, .answer 0 (some "sms-1"), .finish 0 false] = some s ∧
        ¬ s.Conclusive := by
  refine ⟨⟨_, rfl, fun h => ?_⟩, _, rfl, fun h => ?_⟩
  · exact absurd (h.single 0 1 rfl rfl) (by decide)
  · have hpending := h.concluded .pending (List.mem_singleton_self _)
    exact absurd hpending (by decide)

end Retrying

end Svarla.Conversations
