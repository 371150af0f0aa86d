import Svarla.Calls.Orchestrator

/-!
# The indexes over the active calls

`sessionToCall`, `providerCallToInternal` and `notificationToCall` are written at different `await`s of
several flows and cleaned up in `endCall`. `Tracked` is what every run keeps of the calls and of the
indexes by session and by notification: an internal ID belongs to one flow that is still opening a
call, or to one active call, or to neither any more. A provider's ID is in its index already while the
media session of an inbound call is being created (`Under`), and every event leaves that index, gives
an ID to a call, or takes one away from the call that had it (`IndexStep`).
-/

namespace Svarla.Calls

open Svarla.Lib Orchestrator

/-! ## What a flow holds -/

/-- The ID a flow has drawn for a call that is not tracked yet. -/
def Flow.opening : Flow → Option String
  | .createOutbound _ callId _ _ _ => some callId
  | .makeCall _ callId _ _ _ _ => some callId
  | .patchOutbound _ callId _ _ _ _ _ => some callId
  | .createInbound _ callId _ _ _ => some callId
  | _ => none

def Flow.opens (callId : String) (flow : Flow) : Nat :=
  if flow.opening = some callId then 1 else 0

/-- The inbound call a flow creates a session for, under its provider's ID. -/
def Flow.settingUp : Flow → Option (String × String)
  | .createInbound _ callId providerCallId _ _ => some (providerCallId, callId)
  | _ => none

/-- The call of a flow of `handleInbound` that has tracked it. -/
def Flow.tracked : Flow → Option String
  | .getNumbers callId _ _ => some callId
  | .createNotification callId => some callId
  | _ => none

namespace Orchestrator

/-- No flow is opening the call any more. -/
def Begun (s : Orchestrator) (callId : String) : Prop :=
  callId ∈ s.issued ∧ owed (Flow.opens callId) s.flows = 0

/-- The calls, and their indexes by session and by notification. -/
structure Tracked (s : Orchestrator) : Prop where
  key : ∀ {c call}, s.activeCalls.lookup c = some call →
    call.callId = c ∧ call.sessionId = c ∧ call.ended = false
  opened : ∀ c, owed (Flow.opens c) s.flows + (if s.isActive c then 1 else 0) ≤
    if c ∈ s.issued then 1 else 0
  begun : ∀ flow ∈ s.flows, ∀ c, flow.tracked = some c → s.Begun c
  notified : ∀ n c, (n, c) ∈ s.notified → n ∈ s.issued ∧ s.Begun c
  session : ∀ x c, s.sessionToCall.lookup x = some c ↔ x = c ∧ s.isActive c
  notification : ∀ n c, s.notificationToCall.lookup n = some c ↔ (n, c) ∈ s.notified ∧ s.isActive c

/-- The call has the provider's ID: it is active with it, or a flow is setting it up under it. -/
def Under (s : Orchestrator) (p c : String) : Prop :=
  (∃ call, s.activeCalls.lookup c = some call ∧ call.providerCallId = p) ∨
    ∃ flow ∈ s.flows, flow.settingUp = some (p, c)

theorem isActive_iff {s : Orchestrator} {c : String} :
    s.isActive c = true ↔ ∃ call, s.activeCalls.lookup c = some call :=
  Option.isSome_iff_exists

theorem isActive_of_lookup {s : Orchestrator} {c : String} {call : ActiveCall}
    (h : s.activeCalls.lookup c = some call) : s.isActive c = true :=
  isActive_iff.mpr ⟨call, h⟩

/-- A flow that is opening a call has drawn its ID, and the call is not active. -/
theorem Tracked.opening {s : Orchestrator} (h : s.Tracked) {flow : Flow} {c : String}
    (hflow : flow ∈ s.flows) (hopening : flow.opening = some c) :
    c ∈ s.issued ∧ s.isActive c = false ∧ owed (Flow.opens c) s.flows = 1 := by
  have hdebt : 1 ≤ owed (Flow.opens c) s.flows := by
    have := le_owed_of_mem hflow (Flow.opens c)
    rwa [Flow.opens, if_pos hopening] at this
  have hopened := h.opened c
  split at hopened <;> split at hopened <;> simp_all
  omega

/-- An active call has begun. -/
theorem Tracked.begun_of_active {s : Orchestrator} (h : s.Tracked) {c : String}
    (hactive : s.isActive c = true) : s.Begun c := by
  have hopened := h.opened c
  rw [if_pos hactive] at hopened
  split at hopened
  · next hissued => exact ⟨hissued, by omega⟩
  · omega

/-! ## The calls and the indexes by session and notification -/

/-- Flows go on without opening a call. -/
theorem Tracked.goOn {s : Orchestrator} (h : s.Tracked) {flows : List Flow}
    (howed : ∀ c, owed (Flow.opens c) flows ≤ owed (Flow.opens c) s.flows)
    (htracked : ∀ flow ∈ flows, ∀ c, flow.tracked = some c →
      flow ∈ s.flows ∨ c ∈ s.issued ∧ owed (Flow.opens c) flows = 0) :
    Tracked { s with flows } where
  key := h.key
  opened c := by
    have hopened := h.opened c
    have hless := howed c
    change owed (Flow.opens c) flows + (if s.isActive c then 1 else 0) ≤
      if c ∈ s.issued then 1 else 0
    omega
  begun flow hflow c hc := by
    obtain hold | hnew := htracked flow hflow c hc
    · have hbegun := h.begun flow hold c hc
      exact ⟨hbegun.1, Nat.le_zero.mp (hbegun.2 ▸ howed c)⟩
    · exact hnew
  notified n c hn := by
    obtain ⟨hissued, hbegun⟩ := h.notified n c hn
    exact ⟨hissued, hbegun.1, Nat.le_zero.mp (hbegun.2 ▸ howed c)⟩
  session := h.session
  notification := h.notification

/-- A flow draws the ID of a call that it opens. -/
theorem Tracked.drawn {s : Orchestrator} (h : s.Tracked) {id : String} (hid : s.Fresh id)
    {flows : List Flow}
    (howed : ∀ c, owed (Flow.opens c) flows = owed (Flow.opens c) s.flows + if c = id then 1 else 0)
    (htracked : ∀ flow ∈ flows, ∀ c, flow.tracked = some c → flow ∈ s.flows) :
    Tracked { s.draw id with flows } := by
  have hbegun : ∀ c, s.Begun c → c ∈ id :: s.issued ∧ owed (Flow.opens c) flows = 0 := by
    rintro c ⟨hissued, hnone⟩
    have hne : c ≠ id := fun heq => hid.2 (heq ▸ hissued)
    exact ⟨List.mem_cons_of_mem _ hissued, by rw [howed, hnone, if_neg hne]⟩
  refine
    { key := h.key, session := h.session, notification := h.notification
      opened := fun c => ?_, begun := fun flow hflow c hc => ?_, notified := fun n c hn => ?_ }
  · have hopened := h.opened c
    change owed (Flow.opens c) flows + (if s.isActive c then 1 else 0) ≤
      if c ∈ id :: s.issued then 1 else 0
    rw [howed]
    by_cases hc : c = id
    · have hfresh := hid.2
      subst hc
      rw [if_neg hfresh] at hopened
      rw [if_pos rfl, if_pos List.mem_cons_self]
      omega
    · simpa [hc] using hopened
  · exact hbegun c (h.begun flow (htracked flow hflow c hc) c hc)
  · obtain ⟨hissued, hb⟩ := h.notified n c hn
    exact ⟨List.mem_cons_of_mem _ hissued, hbegun c hb⟩

/-- A call is tracked that no flow is opening any more. -/
theorem Tracked.track {s : Orchestrator} (h : s.Tracked) {call : ActiveCall}
    (hbegun : s.Begun call.callId)
    (hsession : call.sessionId = call.callId) (hended : call.ended = false)
    (hnotified : ∀ n, (n, call.callId) ∉ s.notified) : (s.track call).Tracked := by
  have hactive : ∀ c, (s.track call).isActive c = true ↔ c = call.callId ∨ s.isActive c = true := by
    intro c
    simp only [isActive, Orchestrator.track, Map.lookup_insert]
    split <;> simp_all
  refine
    { key := fun {c call'} hc => ?_, opened := fun c => ?_, begun := h.begun
      notified := h.notified, session := fun x c => ?_, notification := fun n c => ?_ }
  · simp only [Orchestrator.track, Map.lookup_insert] at hc
    split at hc
    · next heq => cases hc; exact ⟨heq.symm, hsession.trans heq.symm, hended⟩
    · exact h.key hc
  · have hopened := h.opened c
    change owed (Flow.opens c) s.flows + (if (s.track call).isActive c then 1 else 0) ≤
      if c ∈ s.issued then 1 else 0
    by_cases hc : c = call.callId
    · subst hc
      rw [hbegun.2, if_pos hbegun.1]
      split <;> omega
    · have : (s.track call).isActive c = s.isActive c := by
        rw [Bool.eq_iff_iff, hactive]
        simp [hc]
      rwa [this]
  · rw [hactive]
    simp only [Orchestrator.track, Map.lookup_insert, hsession]
    split
    · next heq =>
      subst heq
      exact ⟨fun hx => ⟨Option.some.inj hx, .inl (Option.some.inj hx).symm⟩,
        fun ⟨hx, _⟩ => congrArg some hx⟩
    · next hne =>
      rw [h.session]
      refine ⟨fun ⟨hx, hc⟩ => ⟨hx, .inr hc⟩, ?_⟩
      rintro ⟨rfl, heq | hc⟩
      · exact absurd heq hne
      · exact ⟨rfl, hc⟩
  · rw [hactive]
    change s.notificationToCall.lookup n = some c ↔ (n, c) ∈ s.notified ∧ _
    rw [h.notification]
    refine ⟨fun ⟨hn, hc⟩ => ⟨hn, .inr hc⟩, ?_⟩
    rintro ⟨hn, rfl | hc⟩
    · exact absurd hn (hnotified n)
    · exact ⟨hn, hc⟩

/-- What is told about a run, and the clock, are no part of the calls. -/
theorem Tracked.emit {s : Orchestrator} (h : s.Tracked) (effects : List Effect) :
    (s.emit effects).Tracked :=
  ⟨h.key, h.opened, h.begun, h.notified, h.session, h.notification⟩

/-- A call is marked as answered, or not. -/
theorem Tracked.modify {s : Orchestrator} (h : s.Tracked) (callId : String)
    {f : ActiveCall → ActiveCall}
    (hf : ∀ call, (f call).callId = call.callId ∧ (f call).sessionId = call.sessionId ∧
      (f call).ended = call.ended) :
    Tracked { s with activeCalls := s.activeCalls.modify callId f } := by
  have hactive : ∀ c, isActive { s with activeCalls := s.activeCalls.modify callId f } c =
      s.isActive c := by
    intro c
    simp only [isActive, Map.lookup_modify]
    split
    · next heq => rw [heq, Option.isSome_map]
    · rfl
  refine
    { key := fun {c call} hc => ?_, opened := fun c => ?_, begun := h.begun
      notified := h.notified, session := fun x c => ?_, notification := fun n c => ?_ }
  · simp only [Map.lookup_modify] at hc
    split at hc
    · next heq =>
      subst heq
      obtain ⟨old, hold, rfl⟩ := Option.map_eq_some_iff.mp hc
      obtain ⟨h1, h2, h3⟩ := hf old
      rw [h1, h2, h3]
      exact h.key hold
    · exact h.key hc
  · rw [hactive]
    exact h.opened c
  · rw [hactive]
    exact h.session x c
  · rw [hactive]
    exact h.notification n c

/-- An answer is taken back. -/
theorem Tracked.answerFails {s : Orchestrator} (h : s.Tracked) (call : ActiveCall)
    (deviceId errorReason : String) : (s.answerFails call deviceId errorReason).Tracked :=
  (h.modify (f := ActiveCall.unmarkAnswered) call.callId fun _ => ⟨rfl, rfl, rfl⟩).emit _

/-- A call that ends is in no index. -/
theorem Tracked.untrack {s : Orchestrator} (h : s.Tracked) {call : ActiveCall} {callId : String}
    (hcall : s.activeCalls.lookup callId = some call) : (s.untrack call).Tracked := by
  obtain ⟨rfl, hsession, -⟩ := h.key hcall
  have hactive : ∀ c, (s.untrack call).isActive c = true ↔ c ≠ call.callId ∧ s.isActive c = true := by
    intro c
    simp only [isActive, Orchestrator.untrack, Map.lookup_erase]
    split <;> simp_all
  refine
    { key := fun {c call'} hc => ?_, opened := fun c => ?_, begun := h.begun
      notified := h.notified, session := fun x c => ?_, notification := fun n c => ?_ }
  · simp only [Orchestrator.untrack, Map.lookup_erase] at hc
    split at hc
    · cases hc
    · exact h.key hc
  · have hopened := h.opened c
    change owed (Flow.opens c) s.flows + (if (s.untrack call).isActive c then 1 else 0) ≤
      if c ∈ s.issued then 1 else 0
    have hless : (if (s.untrack call).isActive c then 1 else 0) ≤ if s.isActive c then 1 else 0 := by
      split
      · next hc => rw [if_pos ((hactive c).mp hc).2]
      · exact Nat.zero_le _
    omega
  · rw [hactive]
    simp only [Orchestrator.untrack, Map.lookup_erase, hsession]
    split
    · next hx =>
      subst hx
      exact ⟨nofun, fun ⟨hx, hne, _⟩ => absurd hx.symm hne⟩
    · next hx =>
      rw [h.session]
      exact ⟨fun ⟨heq, hc⟩ => ⟨heq, heq ▸ hx, hc⟩, fun ⟨heq, _, hc⟩ => ⟨heq, hc⟩⟩
  · rw [hactive]
    simp only [Orchestrator.untrack, Map.lookup_eraseValue, Option.filter_eq_some_iff,
      decide_eq_true_eq, h.notification]
    exact ⟨fun ⟨⟨hn, hc⟩, hne⟩ => ⟨hn, hne, hc⟩, fun ⟨hn, hne, hc⟩ => ⟨⟨hn, hc⟩, hne⟩⟩

/-- A notification of a call that has begun. -/
theorem Tracked.registerNotification {s : Orchestrator} (h : s.Tracked) {callId : String}
    (hbegun : s.Begun callId) {id : Option String} (hid : ∀ n ∈ id, s.Fresh n) :
    (s.registerNotification callId id).Tracked := by
  cases id with
  | none => exact h
  | some id =>
    have hfresh := hid id rfl
    have hdrawn : (s.draw id).Tracked := by
      refine ⟨h.key, fun c => ?_, fun flow hflow c hc => ?_, fun n c hn => ?_, h.session,
        h.notification⟩
      · have hopened := h.opened c
        change _ ≤ if c ∈ id :: s.issued then 1 else 0
        refine hopened.trans ?_
        split
        · next hc => rw [if_pos (List.mem_cons_of_mem _ hc)]
        · exact Nat.zero_le _
      · exact (h.begun flow hflow c hc).imp_left (List.mem_cons_of_mem _)
      · exact (h.notified n c hn).imp (List.mem_cons_of_mem _)
          (And.imp_left (List.mem_cons_of_mem _))
    have hnotified : ∀ n c, (n, c) ∈ s.notified ++ [(id, callId)] →
        (n, c) ∈ s.notified ∨ n = id ∧ c = callId := by
      intro n c hn
      simpa using hn
    have hold : ∀ n c, (n, c) ∈ s.notified → n ≠ id := by
      rintro n c hn rfl
      exact hfresh.2 (h.notified n c hn).1
    have hin : ∀ n c, (n, c) ∈ s.notified ++ [(id, callId)] →
        n ∈ id :: s.issued ∧ (s.draw id).Begun c := by
      intro n c hn
      obtain hn | ⟨rfl, rfl⟩ := hnotified n c hn
      · exact hdrawn.notified n c hn
      · exact ⟨List.mem_cons_self, hbegun.imp_left (List.mem_cons_of_mem _)⟩
    rw [Orchestrator.registerNotification]
    split
    · next hactive =>
      refine ⟨h.key, hdrawn.opened, hdrawn.begun, hin, h.session, fun n c => ?_⟩
      simp only [Map.lookup_insert]
      split
      · next heq =>
        subst heq
        refine ⟨fun hc => ?_, fun ⟨hn, _⟩ => ?_⟩
        · cases hc
          exact ⟨List.mem_append_right _ List.mem_cons_self, hactive⟩
        · obtain hn | ⟨-, rfl⟩ := hnotified n c hn
          · exact absurd rfl (hold n c hn)
          · rfl
      · next hne =>
        change s.notificationToCall.lookup n = some c ↔ _
        rw [h.notification]
        refine ⟨fun ⟨hn, hc⟩ => ⟨List.mem_append_left _ hn, hc⟩, fun ⟨hn, hc⟩ => ?_⟩
        obtain hn | ⟨heq, -⟩ := hnotified n c hn
        · exact ⟨hn, hc⟩
        · exact absurd heq hne
    · next hactive =>
      refine ⟨h.key, hdrawn.opened, hdrawn.begun, hin, h.session, fun n c => ?_⟩
      change s.notificationToCall.lookup n = some c ↔ _
      rw [h.notification]
      refine ⟨fun ⟨hn, hc⟩ => ⟨List.mem_append_left _ hn, hc⟩, fun ⟨hn, hc⟩ => ?_⟩
      obtain hn | ⟨-, rfl⟩ := hnotified n c hn
      · exact ⟨hn, hc⟩
      · exact absurd hc hactive

/-- A flow goes on, or ends. -/
theorem Tracked.advance {s : Orchestrator} (h : s.Tracked) {i : Nat} {flow : Flow}
    {next : Option Flow} (hflow : s.flows[i]? = some flow)
    (hopening : ∀ g ∈ next, g.opening = none ∨ g.opening = flow.opening)
    (htracked : ∀ g ∈ next, ∀ c, g.tracked = some c →
      flow.tracked = some c ∨ flow.opening = some c ∧ g.opening = none) :
    Tracked { s with flows := Lib.advance s.flows i next } := by
  have hless : ∀ c, next.elim 0 (Flow.opens c) ≤ flow.opens c := by
    intro c
    cases next with
    | none => exact Nat.zero_le _
    | some g => obtain hg | hg := hopening g rfl <;> simp [Flow.opens, hg]
  have howed : ∀ c, owed (Flow.opens c) (Lib.advance s.flows i next) ≤
      owed (Flow.opens c) s.flows := by
    intro c
    have := owed_advance hflow (Flow.opens c) next
    have := hless c
    omega
  refine h.goOn howed fun g hg c hc => ?_
  obtain hg | rfl := mem_advance hg
  · exact .inl hg
  · have hmem := List.mem_of_getElem? hflow
    obtain hold | ⟨hopens, hnone⟩ := htracked g rfl c hc
    · have hbegun := h.begun flow hmem c hold
      exact .inr ⟨hbegun.1, Nat.le_zero.mp (hbegun.2 ▸ howed c)⟩
    · obtain ⟨hissued, -, hone⟩ := h.opening hmem hopens
      have hsum := owed_advance hflow (Flow.opens c) (some g)
      have hdebt : flow.opens c = 1 := by rw [Flow.opens, if_pos hopens]
      have hdone : g.opens c = 0 := by simp [Flow.opens, hnone]
      rw [hone, hdebt, Option.elim_some, hdone] at hsum
      exact .inr ⟨hissued, by omega⟩

/-- A flow ends. -/
theorem Tracked.ends {s : Orchestrator} (h : s.Tracked) {i : Nat} {flow : Flow}
    (hflow : s.flows[i]? = some flow) : Tracked { s with flows := Lib.advance s.flows i none } :=
  h.advance hflow (fun _ hg => absurd hg (Option.not_mem_none _))
    fun _ hg => absurd hg (Option.not_mem_none _)

/-- A flow goes on with the same call. -/
theorem Tracked.carries {s : Orchestrator} (h : s.Tracked) {i : Nat} {flow : Flow}
    (hflow : s.flows[i]? = some flow) (next : Flow) (hopening : next.opening = flow.opening)
    (htracked : next.tracked = flow.tracked) :
    Tracked { s with flows := Lib.advance s.flows i (some next) } := by
  refine h.advance hflow (fun g hg => ?_) fun g hg c hc => ?_
  · cases hg
    exact .inr hopening
  · cases hg
    exact .inl (htracked ▸ hc)

/-- The flow that was opening a call tracks it. -/
theorem Tracked.trackOpened {s : Orchestrator} (h : s.Tracked) {i : Nat} {flow : Flow}
    (hflow : s.flows[i]? = some flow) (call : ActiveCall) (hopening : flow.opening = some call.callId)
    (next : Option Flow)
    (hnext : ∀ g ∈ next, g.opening = none ∧ ∀ c, g.tracked = some c → c = call.callId)
    (hsession : call.sessionId = call.callId) (hended : call.ended = false) :
    (Orchestrator.track { s with flows := Lib.advance s.flows i next } call).Tracked := by
  have hmem := List.mem_of_getElem? hflow
  obtain ⟨hissued, -, hone⟩ := h.opening hmem hopening
  have hdone : owed (Flow.opens call.callId) (Lib.advance s.flows i next) = 0 := by
    have hsum := owed_advance hflow (Flow.opens call.callId) next
    have hdebt : flow.opens call.callId = 1 := by rw [Flow.opens, if_pos hopening]
    have hzero : next.elim 0 (Flow.opens call.callId) = 0 := by
      cases next with
      | none => rfl
      | some g => simp [Flow.opens, (hnext g rfl).1]
    omega
  refine (h.advance hflow (fun g hg => .inl (hnext g hg).1) fun g hg c hc => .inr ?_).track
    ⟨hissued, hdone⟩ hsession hended fun n hn => ?_
  · rw [(hnext g hg).2 c hc]
    exact ⟨hopening, (hnext g hg).1⟩
  · have hnone := (h.notified n _ hn).2.2
    omega

/-- The index by provider ID is not among them. -/
theorem Tracked.withProvider {s : Orchestrator} (h : s.Tracked) (m : Map String String) :
    Tracked { s with providerCallToInternal := m } :=
  ⟨h.key, h.opened, h.begun, h.notified, h.session, h.notification⟩

theorem Tracked.trackOutbound {s : Orchestrator} (h : s.Tracked) {i : Nat} {flow : Flow}
    {callId : String} (hflow : s.flows[i]? = some flow) (hopening : flow.opening = some callId)
    (provider : Provider) (audioWsUrl : Option String)
    (providerCallId deviceId fromNumber toNumber : String) :
    Tracked (Orchestrator.trackOutbound { s with flows := Lib.advance s.flows i none } provider callId
      audioWsUrl providerCallId deviceId fromNumber toNumber) :=
  ((h.trackOpened hflow
    ⟨callId, callId, providerCallId, provider, fromNumber, toNumber, .outbound, false, some deviceId,
      s.now, none, false, audioWsUrl, s.now + unansweredWatchdog⟩
    hopening none (fun _ hg => absurd hg (Option.not_mem_none _)) rfl rfl).withProvider _).emit _

theorem Tracked.trackInbound {s : Orchestrator} (h : s.Tracked) {i : Nat} {flow : Flow}
    {callId : String} (hflow : s.flows[i]? = some flow) (hopening : flow.opening = some callId)
    (provider : Provider) (audioWsUrl : Option String) (providerCallId fromNumber toNumber : String) :
    Tracked (Orchestrator.trackInbound { s with
        flows := Lib.advance s.flows i (some (.getNumbers callId fromNumber toNumber)) }
      provider callId providerCallId fromNumber toNumber audioWsUrl) := by
  refine (h.trackOpened hflow
    ⟨callId, callId, providerCallId, provider, fromNumber, toNumber, .inbound, false, none, s.now, none,
      false, audioWsUrl, s.now + unansweredWatchdog⟩ hopening _ (fun g hg => ?_) rfl rfl).emit _
  cases hg
  exact ⟨rfl, fun c hc => (Option.some.inj hc).symm⟩

/-- A flow draws the ID of an outbound call. -/
theorem Tracked.drawOutbound {s : Orchestrator} (h : s.Tracked) {i : Nat} {flow : Flow}
    {callId : String} (hflow : s.flows[i]? = some flow) (hopening : flow.opening = none)
    (hfresh : s.Fresh callId) (provider : Provider) (deviceId fromNumber toNumber : String) :
    Tracked { s.draw callId with
      flows := Lib.advance s.flows i
        (some (.createOutbound provider callId deviceId fromNumber toNumber)) } := by
  refine h.drawn hfresh (fun c => ?_) fun g hg c hc => ?_
  · have hsum := owed_advance hflow (Flow.opens c)
      (some (.createOutbound provider callId deviceId fromNumber toNumber))
    rw [Flow.opens, hopening, if_neg nofun, Option.elim_some, Flow.opens] at hsum
    simpa [Flow.opening, eq_comm] using hsum
  · obtain hold | hnew := mem_advance hg
    · exact hold
    · cases hnew
      cases hc

/-- A notification is no matter of the flows. -/
theorem registerNotification_flows (s : Orchestrator) (flows : List Flow) (callId : String)
    (id : Option String) : Orchestrator.registerNotification { s with flows } callId id =
      { s.registerNotification callId id with flows } := by
  cases id with
  | none => rfl
  | some id =>
    simp only [Orchestrator.registerNotification]
    change (if s.isActive callId = true then _ else _) =
      { (if s.isActive callId = true then _ else _ : Orchestrator) with flows }
    split <;> rfl

theorem registerNotification_frame (s : Orchestrator) (callId : String) (id : Option String) :
    (s.registerNotification callId id).activeCalls = s.activeCalls ∧
      (s.registerNotification callId id).providerCallToInternal = s.providerCallToInternal := by
  cases id with
  | none => exact ⟨rfl, rfl⟩
  | some id =>
    simp only [Orchestrator.registerNotification]
    split <;> exact ⟨rfl, rfl⟩

/-- **The calls through a continuation.** -/
theorem Tracked.proceed {s : Orchestrator} (h : s.Tracked) {i : Nat} {flow : Flow} {reply : Reply}
    {r : Orchestrator × Option Flow} (hflow : s.flows[i]? = some flow)
    (hr : s.proceed flow reply = some r) :
    Tracked { r.1 with flows := Lib.advance s.flows i r.2 } := by
  have hends := h.ends hflow
  have hmem := List.mem_of_getElem? hflow
  cases flow with
  | requireProvider deviceId fromNumber toNumber =>
    cases reply with
    | fails => cases hr; exact hends.emit _
    | provider provider callId =>
      rw [Orchestrator.proceed] at hr
      split at hr
      · next hfresh => cases hr; exact (h.drawOutbound hflow rfl hfresh ..).emit _
      · cases hr
    | _ => cases hr
  | createOutbound provider callId deviceId fromNumber toNumber =>
    cases reply with
    | fails => cases hr; exact hends.emit _
    | session audioWsUrl =>
      cases hr
      exact (h.carries hflow (.makeCall provider callId audioWsUrl deviceId fromNumber toNumber) rfl
        rfl).emit _
    | _ => cases hr
  | makeCall provider callId audioWsUrl deviceId fromNumber toNumber =>
    cases reply with
    | fails => cases hr; exact hends.emit _
    | placed providerCallId =>
      rw [Orchestrator.proceed] at hr
      split at hr
      · cases hr; exact h.trackOutbound hflow rfl ..
      · cases hr
        exact (h.carries hflow (.patchOutbound provider callId audioWsUrl providerCallId deviceId
          fromNumber toNumber) rfl rfl).emit _
    | _ => cases hr
  | patchOutbound provider callId audioWsUrl providerCallId deviceId fromNumber toNumber =>
    cases reply with
    | done => cases hr; exact h.trackOutbound hflow rfl ..
    | fails => cases hr; exact h.trackOutbound hflow rfl ..
    | _ => cases hr
  | createInbound provider callId providerCallId fromNumber toNumber =>
    cases reply with
    | fails => cases hr; exact (hends.withProvider _).emit _
    | session audioWsUrl => cases hr; exact h.trackInbound hflow rfl ..
    | _ => cases hr
  | getNumbers callId fromNumber toNumber =>
    cases reply with
    | fails => cases hr; exact hends.emit _
    | label label =>
      cases hr; exact (h.carries hflow (.createNotification callId) rfl rfl).emit _
    | _ => cases hr
  | createNotification callId =>
    cases reply with
    | fails => cases hr; exact hends
    | notified id =>
      rw [Orchestrator.proceed] at hr
      split at hr
      · next hfresh =>
        cases hr
        obtain ⟨hissued, hnone⟩ := h.begun _ hmem callId rfl
        have howed := owed_advance hflow (Flow.opens callId) none
        rw [Option.elim_none, hnone] at howed
        have hbegun : Begun { s with flows := Lib.advance s.flows i none } callId :=
          ⟨hissued, Nat.eq_zero_of_add_eq_zero_right howed⟩
        have hregistered := hends.registerNotification hbegun hfresh
        rwa [registerNotification_flows] at hregistered
      · cases hr
    | _ => cases hr
  | patchAnswer call deviceId =>
    cases reply with
    | fails => cases hr; exact hends.answerFails ..
    | done => cases hr; exact (h.carries hflow (.answer call deviceId) rfl rfl).emit _
    | _ => cases hr
  | answer call deviceId =>
    cases reply with
    | fails => cases hr; exact hends.answerFails ..
    | done => cases hr; exact hends.emit _
    | _ => cases hr

/-- A flow begins. -/
theorem Tracked.start {s : Orchestrator} (h : s.Tracked) (flow : Flow)
    (hopening : flow.opening = none) (htracked : flow.tracked = none) :
    (s.start flow).Tracked := by
  refine h.goOn (fun c => ?_) fun g hg c hc => ?_
  · rw [owed_concat, Flow.opens, hopening, if_neg nofun]
    exact Nat.le_refl _
  · obtain hg | rfl := by simpa using hg
    · exact .inl hg
    · cases htracked.symm.trans hc

theorem Tracked.handleInbound {s : Orchestrator} (h : s.Tracked) {callId : String}
    (hfresh : s.Fresh callId) (provider : Option Provider)
    (providerCallId fromNumber toNumber : String) :
    (s.handleInbound provider callId providerCallId fromNumber toNumber).Tracked := by
  cases provider with
  | none => exact h.emit _
  | some provider =>
    have hdrawn : Tracked { s.draw callId with
        flows := s.flows ++ [.createInbound provider callId providerCallId fromNumber toNumber] } := by
      refine h.drawn hfresh (fun c => ?_) fun g hg c hc => ?_
      · rw [owed_concat, Flow.opens]
        simp [Flow.opening, eq_comm]
      · obtain hg | rfl := by simpa using hg
        · exact hg
        · cases hc
    exact (hdrawn.withProvider _).emit _

theorem Tracked.answerCall {s : Orchestrator} (h : s.Tracked) (requestedId deviceId : String) :
    (s.answerCall requestedId deviceId).Tracked := by
  rw [Orchestrator.answerCall]
  split
  · exact h.emit _
  · next call _ =>
    split
    · exact h.emit _
    · have hmarked := h.modify (f := (·.markAnswered deviceId s.now)) (s.resolveToCallId requestedId)
        fun _ => ⟨rfl, rfl, rfl⟩
      split
      · exact hmarked.emit _
      · split
        · exact (hmarked.emit _).start _ rfl rfl
        · exact (hmarked.emit _).start _ rfl rfl

theorem Tracked.endCall {s : Orchestrator} (h : s.Tracked) (requestedId : String)
    (trigger : Option String) : (s.endCall requestedId trigger).Tracked := by
  rw [Orchestrator.endCall]
  split
  · exact h
  · next hcall =>
    split
    · exact h
    · exact (h.emit _).untrack hcall

theorem Tracked.handleMediaEvent {s : Orchestrator} (h : s.Tracked) (sessionId : String)
    (event : MediaEvent) : (s.handleMediaEvent sessionId event).Tracked := by
  rw [Orchestrator.handleMediaEvent]
  split
  · exact h
  · cases event with
    | providerDisconnected => exact h.endCall ..
    | clientDisconnected => exact h.endCall ..
    | providerConnected =>
      simp only [providerConnected]
      split
      · exact (h.modify (f := (·.markConnected s.now)) _ fun _ => ⟨rfl, rfl, rfl⟩).emit _
      · exact h.emit _
    | clientConnected => exact h
    | dtmf digit =>
      dsimp only
      split
      · exact h
      · exact h.emit _
    | iceCandidate candidate =>
      cases candidate with
      | none => exact h
      | some candidate => exact h.emit _

/-- **One event keeps the calls and their indexes in order.** -/
theorem Tracked.step {s t : Orchestrator} {event : CallsEvent} (h : s.Tracked)
    (hstep : callsStep s event = some t) : t.Tracked := by
  cases event with
  | tick milliseconds =>
    cases hstep
    exact ⟨h.key, h.opened, h.begun, h.notified, h.session, h.notification⟩
  | initiateOutbound deviceId fromNumber toNumber =>
    cases hstep
    exact h.start _ rfl rfl
  | handleInbound provider callId providerCallId fromNumber toNumber =>
    simp only [callsStep, Option.ite_none_right_eq_some] at hstep
    obtain ⟨hfresh, hstep⟩ := hstep
    cases hstep
    exact h.handleInbound hfresh ..
  | answerCall requestedId deviceId => cases hstep; exact h.answerCall ..
  | endCall requestedId trigger => cases hstep; exact h.endCall ..
  | mediaEvent sessionId event => cases hstep; exact h.handleMediaEvent ..
  | watchdog callId =>
    simp only [callsStep] at hstep
    split at hstep
    · cases hstep
    · obtain ⟨-, hstep⟩ := Option.ite_none_right_eq_some.mp hstep
      cases hstep
      exact h.endCall ..
  | resume i reply =>
    simp only [callsStep] at hstep
    split at hstep
    · cases hstep
    · next hflow =>
      obtain ⟨r, hr, rfl⟩ := Option.map_eq_some_iff.mp hstep
      exact h.proceed hflow hr

theorem tracked_init : init.Tracked where
  key hc := by simp [init] at hc
  opened _ := Nat.zero_le _
  begun _ hflow := absurd hflow List.not_mem_nil
  notified _ _ hn := absurd hn List.not_mem_nil
  session _ _ := by simp [init, isActive]
  notification _ _ := by simp [init, isActive]

/-! ## The index by provider ID -/

/-- The provider's ID under which an event registers a call. -/
def registers (s : Orchestrator) : CallsEvent → Option String
  | .handleInbound provider _ providerCallId _ _ => provider.map fun _ => providerCallId
  | .resume i reply =>
    match s.flows[i]?, reply with
    | some (.makeCall provider _ _ _ _ _), .placed providerCallId =>
      if provider.isEcho then some providerCallId else none
    | some (.patchOutbound _ _ _ providerCallId _ _ _), _ => some providerCallId
    | _, _ => none
  | _ => none

/-- What an event does to the index by provider ID. -/
inductive IndexStep (s t : Orchestrator) (registered : Option String) : Prop
  | same (hunder : ∀ p c, t.Under p c ↔ s.Under p c)
      (hindex : t.providerCallToInternal = s.providerCallToInternal)
  | register {providerCallId callId : String} (hregistered : registered = some providerCallId)
      (hunder : ∀ p c, t.Under p c ↔ s.Under p c ∨ p = providerCallId ∧ c = callId)
      (hindex : t.providerCallToInternal = s.providerCallToInternal.insert providerCallId callId)
  | release {providerCallId callId : String} (hown : s.Under providerCallId callId)
      (hunder : ∀ p c, t.Under p c ↔ s.Under p c ∧ ¬ (p = providerCallId ∧ c = callId))
      (hindex : t.providerCallToInternal = s.providerCallToInternal.erase providerCallId)

/-- A flow that sets up no inbound call goes on as another. -/
theorem settingUp_advance {flows : List Flow} {i : Nat} {flow : Flow} (next : Option Flow)
    (hflow : flows[i]? = some flow) (hold : flow.settingUp = none)
    (hnext : ∀ g ∈ next, g.settingUp = none) (x : String × String) :
    (∃ g ∈ advance flows i next, g.settingUp = some x) ↔ ∃ g ∈ flows, g.settingUp = some x := by
  constructor
  · rintro ⟨g, hg, hx⟩
    obtain hg | rfl := mem_advance hg
    · exact ⟨g, hg, hx⟩
    · cases (hnext g rfl).symm.trans hx
  · rintro ⟨g, hg, hx⟩
    refine ⟨g, mem_advance_of_ne hflow next hg ?_, hx⟩
    rintro rfl
    cases hold.symm.trans hx

/-- The flow that sets up an inbound call is the only one that does. -/
theorem Tracked.settingUp_advance {s : Orchestrator} (h : s.Tracked) {i : Nat} {flow : Flow}
    {p c : String} (next : Option Flow) (hflow : s.flows[i]? = some flow)
    (hopening : flow.opening = some c) (hold : flow.settingUp = some (p, c))
    (hnext : ∀ g ∈ next, g.settingUp = none ∧ g.opening = none) (p' c' : String) :
    (∃ g ∈ Lib.advance s.flows i next, g.settingUp = some (p', c')) ↔
      (∃ g ∈ s.flows, g.settingUp = some (p', c')) ∧ ¬ (p' = p ∧ c' = c) := by
  constructor
  · rintro ⟨g, hg, hx⟩
    obtain hmem | rfl := mem_advance hg
    · refine ⟨⟨g, hmem, hx⟩, ?_⟩
      rintro ⟨rfl, rfl⟩
      have hone := (h.opening (List.mem_of_getElem? hflow) hopening).2.2
      have hsum := owed_advance hflow (Flow.opens c') next
      have hpart := le_owed_of_mem hg (Flow.opens c')
      have hg1 : g.opens c' = 1 := by
        cases g <;> cases hx
        exact if_pos rfl
      have hf1 : flow.opens c' = 1 := if_pos hopening
      have hzero : next.elim 0 (Flow.opens c') = 0 := by
        cases next with
        | none => rfl
        | some g => simp [Flow.opens, (hnext g rfl).2]
      omega
    · cases (hnext g rfl).1.symm.trans hx
  · rintro ⟨⟨g, hg, hx⟩, hne⟩
    refine ⟨g, mem_advance_of_ne hflow next hg ?_, hx⟩
    rintro rfl
    cases hold.symm.trans hx
    exact hne ⟨rfl, rfl⟩

/-- Nothing changes for the provider IDs. -/
theorem IndexStep.of_eq {s t : Orchestrator} {registered : Option String}
    (hcalls : t.activeCalls = s.activeCalls)
    (hflows : ∀ x, (∃ g ∈ t.flows, g.settingUp = some x) ↔ ∃ g ∈ s.flows, g.settingUp = some x)
    (hindex : t.providerCallToInternal = s.providerCallToInternal) : IndexStep s t registered :=
  .same (fun p c => by rw [Under, Under, hcalls, hflows]) hindex

/-- A call is marked as answered, or not. -/
theorem IndexStep.of_modify {s t : Orchestrator} {registered : Option String} {callId : String}
    {f : ActiveCall → ActiveCall} (hcalls : t.activeCalls = s.activeCalls.modify callId f)
    (hf : ∀ call, (f call).providerCallId = call.providerCallId)
    (hflows : ∀ x, (∃ g ∈ t.flows, g.settingUp = some x) ↔ ∃ g ∈ s.flows, g.settingUp = some x)
    (hindex : t.providerCallToInternal = s.providerCallToInternal) : IndexStep s t registered := by
  refine .same (fun p c => ?_) hindex
  rw [Under, Under, hflows, hcalls]
  refine or_congr ?_ Iff.rfl
  rw [Map.lookup_modify]
  split
  · simp [hf]
  · rfl

/-- An active call is registered under its provider's ID. -/
theorem under_track {s : Orchestrator} (call : ActiveCall) (hnew : s.isActive call.callId = false)
    (p c : String) :
    (∃ call', (s.activeCalls.insert call.callId call).lookup c = some call' ∧
        call'.providerCallId = p) ↔
      (∃ call', s.activeCalls.lookup c = some call' ∧ call'.providerCallId = p) ∨
        p = call.providerCallId ∧ c = call.callId := by
  rw [Map.lookup_insert]
  split
  · next heq =>
    subst heq
    rw [isActive, Option.isSome_eq_false_iff, Option.isNone_iff_eq_none] at hnew
    simp [hnew, eq_comm]
  · next hne => simp [hne]

/-- An active call loses its provider's ID. -/
theorem Tracked.indexStep_untrack {s t : Orchestrator} (h : s.Tracked) {registered : Option String}
    {call : ActiveCall} {callId : String} (hcall : s.activeCalls.lookup callId = some call)
    (hcalls : t.activeCalls = s.activeCalls.erase call.callId) (hflows : t.flows = s.flows)
    (hindex : t.providerCallToInternal = s.providerCallToInternal.erase call.providerCallId) :
    IndexStep s t registered := by
  obtain ⟨rfl, -, -⟩ := h.key hcall
  refine .release (.inl ⟨call, hcall, rfl⟩) (fun p c => ?_) hindex
  have hnoflow : ∀ p, ¬ ∃ g ∈ s.flows, g.settingUp = some (p, call.callId) := by
    rintro p ⟨g, hg, hx⟩
    have hopening : g.opening = some call.callId := by
      cases g <;> cases hx
      rfl
    have hinactive := (h.opening hg hopening).2.1
    rw [isActive_of_lookup hcall] at hinactive
    cases hinactive
  rw [Under, Under, hcalls, hflows, Map.lookup_erase]
  split
  · next heq =>
    subst heq
    rw [hcall, iff_false_intro (hnoflow p)]
    simp [eq_comm]
  · next hne => simp [hne]

/-- The call a flow was opening is registered. -/
theorem Tracked.indexStep_trackOutbound {s : Orchestrator} (h : s.Tracked) {i : Nat} {flow : Flow}
    {callId : String} (hflow : s.flows[i]? = some flow) (hopening : flow.opening = some callId)
    (hnone : flow.settingUp = none) (provider : Provider) (audioWsUrl : Option String)
    (providerCallId deviceId fromNumber toNumber : String) :
    IndexStep s (Orchestrator.trackOutbound { s with flows := Lib.advance s.flows i none } provider
      callId audioWsUrl providerCallId deviceId fromNumber toNumber) (some providerCallId) := by
  refine .register rfl (fun p c => ?_) rfl
  have hnew := (h.opening (List.mem_of_getElem? hflow) hopening).2.1
  have hflows := Orchestrator.settingUp_advance none hflow hnone
    (fun _ hg => absurd hg (Option.not_mem_none _)) (p, c)
  have htrack := under_track
    ⟨callId, callId, providerCallId, provider, fromNumber, toNumber, .outbound, false, some deviceId,
      s.now, none, false, audioWsUrl, s.now + unansweredWatchdog⟩ hnew p c
  rw [Under, Under, or_right_comm]
  exact or_congr htrack hflows

/-- An inbound call that was being set up is active. -/
theorem Tracked.indexStep_trackInbound {s : Orchestrator} (h : s.Tracked) {i : Nat}
    {registered : Option String} {provider : Provider}
    {callId providerCallId fromNumber toNumber : String}
    (hflow : s.flows[i]? = some (.createInbound provider callId providerCallId fromNumber toNumber))
    (audioWsUrl : Option String) :
    IndexStep s (Orchestrator.trackInbound { s with
        flows := Lib.advance s.flows i (some (.getNumbers callId fromNumber toNumber)) }
      provider callId providerCallId fromNumber toNumber audioWsUrl) registered := by
  refine .same (fun p c => ?_) rfl
  have hmem := List.mem_of_getElem? hflow
  have hnew := (h.opening hmem rfl).2.1
  have hflows := h.settingUp_advance (some (.getNumbers callId fromNumber toNumber)) hflow rfl rfl
    (by rintro _ ⟨⟩; exact ⟨rfl, rfl⟩) p c
  have htrack := under_track
    ⟨callId, callId, providerCallId, provider, fromNumber, toNumber, .inbound, false, none, s.now, none,
      false, audioWsUrl, s.now + unansweredWatchdog⟩ hnew p c
  have hwas : p = providerCallId ∧ c = callId → ∃ g ∈ s.flows, g.settingUp = some (p, c) := by
    rintro ⟨rfl, rfl⟩
    exact ⟨_, hmem, rfl⟩
  refine (or_congr htrack hflows).trans ⟨?_, ?_⟩
  · rintro ((hc | hid) | ⟨hf, -⟩)
    · exact .inl hc
    · exact .inr (hwas hid)
    · exact .inr hf
  · rintro (hc | hf)
    · exact .inl (.inl hc)
    · by_cases hid : p = providerCallId ∧ c = callId
      · exact .inl (.inr hid)
      · exact .inr ⟨hf, hid⟩

/-- An inbound call that was being set up is given up. -/
theorem Tracked.indexStep_inboundFails {s : Orchestrator} (h : s.Tracked) {i : Nat}
    {registered : Option String} {provider : Provider}
    {callId providerCallId fromNumber toNumber : String}
    (hflow : s.flows[i]? = some (.createInbound provider callId providerCallId fromNumber toNumber))
    (effects : List Effect) :
    IndexStep s { s with
      providerCallToInternal := s.providerCallToInternal.erase providerCallId
      effects
      flows := Lib.advance s.flows i none } registered := by
  have hmem := List.mem_of_getElem? hflow
  refine .release (.inr ⟨_, hmem, rfl⟩) (fun p c => ?_) rfl
  have hflows := h.settingUp_advance none hflow rfl rfl
    (fun _ hg => absurd hg (Option.not_mem_none _)) p c
  have hinactive : (∃ call, s.activeCalls.lookup c = some call ∧ call.providerCallId = p) →
      ¬ (p = providerCallId ∧ c = callId) := by
    rintro ⟨call, hcall, -⟩ ⟨-, rfl⟩
    have hnew := (h.opening hmem rfl).2.1
    rw [isActive_of_lookup hcall] at hnew
    cases hnew
  refine (or_congr Iff.rfl hflows).trans ⟨?_, ?_⟩
  · rintro (hc | ⟨hf, hid⟩)
    · exact ⟨.inl hc, hinactive hc⟩
    · exact ⟨.inr hf, hid⟩
  · rintro ⟨hc | hf, hid⟩
    · exact .inl hc
    · exact .inr ⟨hf, hid⟩

/-- A flow that sets up no inbound call goes on. -/
theorem IndexStep.of_advance {s t : Orchestrator} {registered : Option String} {i : Nat} {flow : Flow}
    (next : Option Flow) (hflow : s.flows[i]? = some flow) (hold : flow.settingUp = none)
    (hnext : ∀ g ∈ next, g.settingUp = none) (hcalls : t.activeCalls = s.activeCalls)
    (hflows : t.flows = Lib.advance s.flows i next)
    (hindex : t.providerCallToInternal = s.providerCallToInternal) : IndexStep s t registered :=
  .of_eq hcalls (fun x => hflows ▸ settingUp_advance next hflow hold hnext x) hindex

/-- **A continuation and the index by provider ID.** -/
theorem Tracked.indexStep_proceed {s : Orchestrator} (h : s.Tracked) {i : Nat} {flow : Flow}
    {reply : Reply} {r : Orchestrator × Option Flow} (hflow : s.flows[i]? = some flow)
    (hr : s.proceed flow reply = some r) :
    IndexStep s { r.1 with flows := Lib.advance s.flows i r.2 } (s.registers (.resume i reply)) := by
  have hends : ∀ g ∈ (none : Option Flow), g.settingUp = none :=
    fun _ hg => absurd hg (Option.not_mem_none _)
  have hnext : ∀ {next : Flow}, next.settingUp = none → ∀ g ∈ some next, g.settingUp = none := by
    rintro next hnone g ⟨⟩
    exact hnone
  cases flow with
  | requireProvider deviceId fromNumber toNumber =>
    cases reply with
    | fails => cases hr; exact .of_advance none hflow rfl hends rfl rfl rfl
    | provider provider callId =>
      rw [Orchestrator.proceed] at hr
      split at hr
      · cases hr; exact .of_advance _ hflow rfl (hnext rfl) rfl rfl rfl
      · cases hr
    | _ => cases hr
  | createOutbound provider callId deviceId fromNumber toNumber =>
    cases reply with
    | fails => cases hr; exact .of_advance none hflow rfl hends rfl rfl rfl
    | session audioWsUrl => cases hr; exact .of_advance _ hflow rfl (hnext rfl) rfl rfl rfl
    | _ => cases hr
  | makeCall provider callId audioWsUrl deviceId fromNumber toNumber =>
    cases reply with
    | fails => cases hr; exact .of_advance none hflow rfl hends rfl rfl rfl
    | placed providerCallId =>
      have hreg : s.registers (.resume i (.placed providerCallId)) =
          if provider.isEcho then some providerCallId else none := by
        simp only [registers, hflow]
      rw [Orchestrator.proceed] at hr
      split at hr
      · next hecho =>
        cases hr
        rw [hreg, if_pos hecho]
        exact h.indexStep_trackOutbound hflow rfl rfl ..
      · cases hr; exact .of_advance _ hflow rfl (hnext rfl) rfl rfl rfl
    | _ => cases hr
  | patchOutbound provider callId audioWsUrl providerCallId deviceId fromNumber toNumber =>
    have hreg : s.registers (.resume i reply) = some providerCallId := by
      simp only [registers, hflow]
    rw [hreg]
    cases reply with
    | done => cases hr; exact h.indexStep_trackOutbound hflow rfl rfl ..
    | fails => cases hr; exact h.indexStep_trackOutbound hflow rfl rfl ..
    | _ => cases hr
  | createInbound provider callId providerCallId fromNumber toNumber =>
    cases reply with
    | fails => cases hr; exact h.indexStep_inboundFails hflow _
    | session audioWsUrl => cases hr; exact h.indexStep_trackInbound hflow audioWsUrl
    | _ => cases hr
  | getNumbers callId fromNumber toNumber =>
    cases reply with
    | fails => cases hr; exact .of_advance none hflow rfl hends rfl rfl rfl
    | label label => cases hr; exact .of_advance _ hflow rfl (hnext rfl) rfl rfl rfl
    | _ => cases hr
  | createNotification callId =>
    cases reply with
    | fails => cases hr; exact .of_advance none hflow rfl hends rfl rfl rfl
    | notified id =>
      rw [Orchestrator.proceed] at hr
      split at hr
      · cases hr
        obtain ⟨hcalls, hindex⟩ := registerNotification_frame s callId id
        exact .of_advance none hflow rfl hends hcalls rfl hindex
      · cases hr
    | _ => cases hr
  | patchAnswer call deviceId =>
    cases reply with
    | fails =>
      cases hr
      exact .of_modify rfl (fun _ => rfl) (Orchestrator.settingUp_advance none hflow rfl hends) rfl
    | done => cases hr; exact .of_advance _ hflow rfl (hnext rfl) rfl rfl rfl
    | _ => cases hr
  | answer call deviceId =>
    cases reply with
    | fails =>
      cases hr
      exact .of_modify rfl (fun _ => rfl) (Orchestrator.settingUp_advance none hflow rfl hends) rfl
    | done => cases hr; exact .of_advance none hflow rfl hends rfl rfl rfl
    | _ => cases hr

/-- A flow of `answerCall` or `initiateOutbound` begins. -/
theorem settingUp_start {flows : List Flow} {flow : Flow} (hnone : flow.settingUp = none)
    (x : String × String) :
    (∃ g ∈ flows ++ [flow], g.settingUp = some x) ↔ ∃ g ∈ flows, g.settingUp = some x := by
  simp [or_and_right, exists_or, hnone]

theorem indexStep_handleInbound (s : Orchestrator) (provider : Option Provider)
    (callId providerCallId fromNumber toNumber : String) :
    IndexStep s (s.handleInbound provider callId providerCallId fromNumber toNumber)
      (provider.map fun _ => providerCallId) := by
  cases provider with
  | none => exact .of_eq rfl (fun _ => Iff.rfl) rfl
  | some provider =>
    refine .register rfl (fun p c => ?_) rfl
    have hflows : (∃ g ∈ s.flows ++ [Flow.createInbound provider callId providerCallId fromNumber
        toNumber], g.settingUp = some (p, c)) ↔
        (∃ g ∈ s.flows, g.settingUp = some (p, c)) ∨ p = providerCallId ∧ c = callId := by
      simp [or_and_right, exists_or, Flow.settingUp, eq_comm]
    exact (or_congr Iff.rfl hflows).trans or_assoc.symm

theorem indexStep_answerCall (s : Orchestrator) (requestedId deviceId : String) :
    IndexStep s (s.answerCall requestedId deviceId) none := by
  rw [answerCall]
  split
  · exact .of_eq rfl (fun _ => Iff.rfl) rfl
  · split
    · exact .of_eq rfl (fun _ => Iff.rfl) rfl
    · split
      · exact .of_modify (f := (·.markAnswered deviceId s.now)) rfl (fun _ => rfl) (fun _ => Iff.rfl) rfl
      · split
        · exact .of_modify (f := (·.markAnswered deviceId s.now)) rfl (fun _ => rfl) (settingUp_start rfl) rfl
        · exact .of_modify (f := (·.markAnswered deviceId s.now)) rfl (fun _ => rfl) (settingUp_start rfl) rfl

theorem Tracked.indexStep_endCall {s : Orchestrator} (h : s.Tracked) (requestedId : String)
    (trigger : Option String) : IndexStep s (s.endCall requestedId trigger) none := by
  rw [Orchestrator.endCall]
  split
  · exact .of_eq rfl (fun _ => Iff.rfl) rfl
  · next hcall =>
    split
    · exact .of_eq rfl (fun _ => Iff.rfl) rfl
    · exact h.indexStep_untrack hcall rfl rfl rfl

theorem Tracked.indexStep_handleMediaEvent {s : Orchestrator} (h : s.Tracked) (sessionId : String)
    (event : MediaEvent) : IndexStep s (s.handleMediaEvent sessionId event) none := by
  rw [Orchestrator.handleMediaEvent]
  split
  · exact .of_eq rfl (fun _ => Iff.rfl) rfl
  · cases event with
    | providerDisconnected => exact h.indexStep_endCall ..
    | clientDisconnected => exact h.indexStep_endCall ..
    | providerConnected =>
      simp only [providerConnected]
      split
      · exact .of_modify (f := (·.markConnected s.now)) rfl (fun _ => rfl) (fun _ => Iff.rfl) rfl
      · exact .of_eq rfl (fun _ => Iff.rfl) rfl
    | clientConnected => exact .of_eq rfl (fun _ => Iff.rfl) rfl
    | dtmf digit => dsimp only; split <;> exact .of_eq rfl (fun _ => Iff.rfl) rfl
    | iceCandidate candidate => cases candidate <;> exact .of_eq rfl (fun _ => Iff.rfl) rfl

/-- **One event and the index by provider ID.** -/
theorem Tracked.indexStep {s t : Orchestrator} {event : CallsEvent} (h : s.Tracked)
    (hstep : callsStep s event = some t) : IndexStep s t (s.registers event) := by
  cases event with
  | tick milliseconds => cases hstep; exact .of_eq rfl (fun _ => Iff.rfl) rfl
  | initiateOutbound deviceId fromNumber toNumber =>
    cases hstep
    exact .of_eq rfl (settingUp_start rfl) rfl
  | handleInbound provider callId providerCallId fromNumber toNumber =>
    simp only [callsStep, Option.ite_none_right_eq_some] at hstep
    obtain ⟨-, hstep⟩ := hstep
    cases hstep
    exact indexStep_handleInbound ..
  | answerCall requestedId deviceId => cases hstep; exact indexStep_answerCall ..
  | endCall requestedId trigger => cases hstep; exact h.indexStep_endCall ..
  | mediaEvent sessionId event => cases hstep; exact h.indexStep_handleMediaEvent ..
  | watchdog callId =>
    simp only [callsStep] at hstep
    split at hstep
    · cases hstep
    · obtain ⟨-, hstep⟩ := Option.ite_none_right_eq_some.mp hstep
      cases hstep
      exact h.indexStep_endCall ..
  | resume i reply =>
    simp only [callsStep] at hstep
    split at hstep
    · cases hstep
    · next hflow =>
      obtain ⟨r, hr, rfl⟩ := Option.map_eq_some_iff.mp hstep
      exact h.indexStep_proceed hflow hr

/-- Every entry of the index by provider ID names a call that has it. -/
def Pointed (s : Orchestrator) : Prop :=
  ∀ p c, s.providerCallToInternal.lookup p = some c → s.Under p c

theorem IndexStep.pointed {s t : Orchestrator} {registered : Option String}
    (hstep : IndexStep s t registered) (h : s.Pointed) : t.Pointed := by
  intro p c hp
  cases hstep with
  | same hunder hindex => exact (hunder p c).mpr (h p c (hindex ▸ hp))
  | register _ hunder hindex =>
    rw [hindex, Map.lookup_insert] at hp
    rw [hunder]
    split at hp
    · next heq => exact .inr ⟨heq, (Option.some.inj hp).symm⟩
    · exact .inl (h p c hp)
  | release _ hunder hindex =>
    rw [hindex, Map.lookup_erase] at hp
    split at hp
    · cases hp
    · next hne => exact (hunder p c).mpr ⟨h p c hp, fun ⟨heq, _⟩ => hne heq⟩

/-- The index names whichever call has the provider's ID. -/
def Sole (s : Orchestrator) (p : String) : Prop :=
  ∀ c, s.Under p c → s.providerCallToInternal.lookup p = some c

/-- No call has the provider's ID. -/
def Unused (s : Orchestrator) (p : String) : Prop :=
  (∀ e ∈ s.activeCalls.entries, e.2.providerCallId ≠ p) ∧
    ∀ flow ∈ s.flows, flow.settingUp.map Prod.fst ≠ some p

instance (s : Orchestrator) (p : String) : Decidable (s.Unused p) :=
  inferInstanceAs (Decidable (_ ∧ _))

theorem Unused.not_under {s : Orchestrator} {p : String} (h : s.Unused p) (c : String) :
    ¬ s.Under p c := by
  rintro (⟨call, hcall, rfl⟩ | ⟨flow, hflow, hx⟩)
  · exact h.1 _ (AList.mem_lookup_iff.mp hcall) rfl
  · exact h.2 flow hflow (by rw [hx]; rfl)

theorem IndexStep.sole {s t : Orchestrator} {registered : Option String}
    (hstep : IndexStep s t registered) {p : String} (hfresh : registered = some p → s.Unused p)
    (h : s.Sole p) : t.Sole p := by
  intro c hc
  cases hstep with
  | same hunder hindex => rw [hindex]; exact h c ((hunder p c).mp hc)
  | register hregistered hunder hindex =>
    rw [hindex, Map.lookup_insert]
    split
    · next heq =>
      subst heq
      obtain hold | ⟨-, rfl⟩ := (hunder _ c).mp hc
      · exact absurd hold ((hfresh hregistered).not_under c)
      · rfl
    · next hne =>
      obtain hold | ⟨heq, -⟩ := (hunder p c).mp hc
      · exact h c hold
      · exact absurd heq hne
  | release hown hunder hindex =>
    obtain ⟨hold, hne⟩ := (hunder p c).mp hc
    rw [hindex, Map.lookup_erase]
    split
    · next heq =>
      subst heq
      -- both calls are the one that the index names
      have hsame := (h _ hown).symm.trans (h c hold)
      exact absurd ⟨rfl, (Option.some.inj hsame).symm⟩ hne
    · exact h c hold

/-! ## Every run -/

/-- The indexes of a state, up to the calls that share a provider's ID. -/
structure Indexed (s : Orchestrator) : Prop where
  /-- Every entry names a call that has the ID. -/
  session : ∀ x c, s.sessionToCall.lookup x = some c →
    ∃ call, s.activeCalls.lookup c = some call ∧ call.sessionId = x
  notification : ∀ n c, s.notificationToCall.lookup n = some c →
    (∃ call, s.activeCalls.lookup c = some call) ∧ (n, c) ∈ s.notified
  provider : ∀ p c, s.providerCallToInternal.lookup p = some c →
    (∃ call, s.activeCalls.lookup c = some call ∧ call.providerCallId = p) ∨
      ∃ flow ∈ s.flows, flow.settingUp = some (p, c)
  /-- Every active call is found. -/
  bySession : ∀ c call, s.activeCalls.lookup c = some call →
    call.callId = c ∧ s.sessionToCall.lookup call.sessionId = some c
  byNotification : ∀ n c call, s.activeCalls.lookup c = some call → (n, c) ∈ s.notified →
    s.notificationToCall.lookup n = some c

/-- The active calls with a provider's ID: one at most, and its index finds it. -/
structure FoundUnder (s : Orchestrator) (p : String) : Prop where
  byProvider : ∀ c call, s.activeCalls.lookup c = some call → call.providerCallId = p →
    s.providerCallToInternal.lookup p = some c
  unique : ∀ c c' call call', s.activeCalls.lookup c = some call → call.providerCallId = p →
    s.activeCalls.lookup c' = some call' → call'.providerCallId = p → c = c'

/-- `providerCallId` is given to no call while another call has it. -/
def OneAtATime (p : String) (s : Orchestrator) (event : CallsEvent) : Prop :=
  s.registers event = some p → s.Unused p

instance (p : String) (s : Orchestrator) (event : CallsEvent) : Decidable (OneAtATime p s event) :=
  inferInstanceAs (Decidable (_ → _))

theorem Tracked.indexed {s : Orchestrator} (h : s.Tracked) (hpointed : s.Pointed) : s.Indexed where
  session x c hx := by
    obtain ⟨rfl, hactive⟩ := (h.session x c).mp hx
    obtain ⟨call, hcall⟩ := isActive_iff.mp hactive
    exact ⟨call, hcall, (h.key hcall).2.1⟩
  notification n c hn := by
    obtain ⟨hnotified, hactive⟩ := (h.notification n c).mp hn
    exact ⟨isActive_iff.mp hactive, hnotified⟩
  provider := hpointed
  bySession c call hcall := by
    obtain ⟨hkey, hsession, -⟩ := h.key hcall
    exact ⟨hkey, (h.session _ c).mpr ⟨hsession, isActive_of_lookup hcall⟩⟩
  byNotification n c call hcall hn := (h.notification n c).mpr ⟨hn, isActive_of_lookup hcall⟩

theorem Sole.foundUnder {s : Orchestrator} {p : String} (h : s.Sole p) : s.FoundUnder p where
  byProvider c call hcall hp := h c (.inl ⟨call, hcall, hp⟩)
  unique c c' call call' hcall hp hcall' hp' :=
    Option.some.inj ((h c (.inl ⟨call, hcall, hp⟩)).symm.trans (h c' (.inl ⟨call', hcall', hp'⟩)))

end Orchestrator

variable {events : List CallsEvent} {s : Orchestrator}

theorem tracked_pointed_run (hrun : exec callsStep init events = some s) :
    s.Tracked ∧ s.Pointed :=
  exec_invariant (I := fun s => s.Tracked ∧ s.Pointed)
    (fun _ _ _ ⟨h, hp⟩ hstep => ⟨h.step hstep, (h.indexStep hstep).pointed hp⟩)
    ⟨tracked_init, fun p c hp => by simp [init] at hp⟩ hrun

/-- **The indexes agree.** In every state of every run, every entry of an index names a call that has
the ID, which for the index by provider ID may be an inbound call that is being set up; every active
call is found by its session and its notification; and where a provider's ID was never given to a call
while another had it, every active call with that ID is found, and there is one at most. -/
theorem indexes_agree (hrun : exec callsStep init events = some s) :
    s.Indexed ∧ ∀ p, Guarded callsStep (OneAtATime p) init events → s.FoundUnder p := by
  obtain ⟨htracked, hpointed⟩ := tracked_pointed_run hrun
  refine ⟨htracked.indexed hpointed, fun p hguard => ?_⟩
  have hsole := hguard.invariant (I := fun s => s.Tracked ∧ s.Sole p)
    (fun _ _ _ ⟨h, hs⟩ hone hstep => ⟨h.step hstep, (h.indexStep hstep).sole hone hs⟩)
    ⟨tracked_init, fun c hc => ?_⟩ hrun
  · exact hsole.2.foundUnder
  · obtain ⟨call, hcall, -⟩ | ⟨flow, hflow, -⟩ := hc
    · simp [init] at hcall
    · exact absurd hflow List.not_mem_nil

/-- A provider that connects over SIP. -/
def sipProvider : Provider := ⟨"provider", "sip", false, false, false⟩

/-- An inbound call that is answered through its notification, while another one is being set up. -/
def twoCalls : List CallsEvent :=
  [.handleInbound (some sipProvider) "call 1" "leg 1" "+31" "+32", .resume 0 (.session none),
    .resume 0 (.label none), .resume 0 (.notified (some "note")), .answerCall "note" "tablet",
    .handleInbound (some sipProvider) "call 2" "leg 2" "+33" "+32"]

theorem indexes_agree_twoCalls :
    ∃ s, exec callsStep init twoCalls = some s ∧ s.Indexed ∧ s.FoundUnder "leg 1" := by
  obtain ⟨s, hrun⟩ := Option.isSome_iff_exists.mp
    (show (exec callsStep init twoCalls).isSome = true by decide +kernel)
  have hagree := indexes_agree hrun
  exact ⟨s, hrun, hagree.1, hagree.2 "leg 1" (by decide +kernel)⟩

/-- An inbound call is in the index by provider ID before it is active. -/
theorem named_before_active :
    (exec callsStep init [.handleInbound (some sipProvider) "call 1" "leg 1" "+31" "+32"]).map
      (fun s => (s.providerCallToInternal.lookup "leg 1", s.isActive "call 1")) =
        some (some "call 1", false) := by decide +kernel

end Svarla.Calls
