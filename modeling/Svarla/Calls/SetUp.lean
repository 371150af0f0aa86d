import Mathlib
import Svarla.Calls.Lifetimes

/-!
# Setting up a call

`initiateOutbound` and `handleInbound` create a media session, ask the provider or the numbers, and
track the call, one `await` after another; each can fail. `handleInbound` takes its early mapping back
when there is no session, but nothing takes the session back when the provider does not place an
outbound call, and nothing ends an inbound call whose number cannot be looked up. An operation that
rejects anywhere else, or after its call has ended, leaves nothing behind (`set_up_atomic`).
-/

namespace Svarla.Calls

open Svarla.Lib Orchestrator

/-- The ID that the operation has drawn for its call. -/
def Flow.callId : Flow → Option String
  | .createOutbound _ callId _ _ _ => some callId
  | .makeCall _ callId _ _ _ _ => some callId
  | .patchOutbound _ callId _ _ _ _ _ => some callId
  | .createInbound _ callId _ _ _ => some callId
  | .getNumbers callId _ _ => some callId
  | .createNotification callId => some callId
  | _ => none

/-- The media session that the operation has created. -/
def Flow.created : Flow → Option String
  | .makeCall _ callId _ _ _ _ => some callId
  | .patchOutbound _ callId _ _ _ _ _ => some callId
  | .getNumbers callId _ _ => some callId
  | .createNotification callId => some callId
  | _ => none

/-- The call that the provider has placed for the operation. -/
def Flow.placed : Flow → Option String
  | .patchOutbound _ _ _ providerCallId _ _ _ => some providerCallId
  | _ => none

/-- An operation has thrown. -/
def Effect.rejects : Effect → Bool
  | .outboundReturned _ none => true
  | .inboundReturned none => true
  | _ => false

theorem Effect.Due.rejecting {s t : Orchestrator} {event : CallsEvent} {e : Effect}
    (hdue : e.Due s t event) (h : e.rejects = true) : s.Rejecting event := by
  cases e with
  | outboundReturned deviceId callId =>
    cases callId with
    | none => exact hdue
    | some callId => cases h
  | inboundReturned callId =>
    cases callId with
    | none => exact hdue
    | some callId => cases h
  | _ => cases h

namespace Orchestrator

/-- No map of the orchestrator has an entry for the call, and no timer of it can fire. -/
structure Forgotten (s : Orchestrator) (callId : String) : Prop where
  calls : s.isActive callId = false
  sessions : ∀ sessionId, s.sessionToCall.lookup sessionId ≠ some callId
  providers : ∀ providerCallId, s.providerCallToInternal.lookup providerCallId ≠ some callId
  notifications : ∀ id, s.notificationToCall.lookup id ≠ some callId
  timer : ∀ now, callsStep { s with now } (.watchdog callId) = none

/-- Nothing is left of what the operation has set up. -/
structure Undone (s : Orchestrator) (flow : Flow) : Prop where
  session : ∀ sessionId ∈ flow.created, ∃ delayed, .destroySession sessionId delayed ∈ s.effects
  placed : ∀ providerCallId ∈ flow.placed, .providerEnd providerCallId ∈ s.effects
  call : ∀ callId ∈ flow.callId, s.Forgotten callId

/-- The operation that the event continues, at the `await` it has come to. -/
def operation (s : Orchestrator) : CallsEvent → Option Flow
  | .resume i _ => s.flows[i]?
  | _ => none

/-- The operation throws at this event. -/
def Rejects (s t : Orchestrator) : Prop :=
  ∃ new, t.effects = s.effects ++ new ∧ ∃ e ∈ new, e.rejects = true

/-- The provider has not been asked to place the call, and an inbound call that was tracked has ended
meanwhile. -/
def Recovers (s : Orchestrator) : Flow → Prop
  | .makeCall .. => False
  | .getNumbers callId _ _ => s.isActive callId = false
  | _ => True

/-! ## The sessions that are destroyed -/

/-- Only a call that was tracked has its session destroyed, and every call that was tracked and is not
active any more has. -/
structure Sessions (s : Orchestrator) : Prop where
  begun : ∀ c delayed, .destroySession c delayed ∈ s.effects → s.Begun c
  ended : ∀ flow ∈ s.flows, ∀ c, flow.tracked = some c →
    s.isActive c = true ∨ ∃ delayed, .destroySession c delayed ∈ s.effects

theorem Sessions.step {s t : Orchestrator} {event : CallsEvent} (h : s.Sessions) (hs : s.Tracked)
    (hstep : callsStep s event = some t) : t.Sessions := by
  have hflows := hs.flowChange hstep
  obtain ⟨hchange, new, hnew, hdue⟩ := hs.proper hstep
  have hbegins := hflows.begins
  refine ⟨fun c delayed he => ?_, fun flow hflow c hc => ?_⟩
  · rw [hnew, List.mem_append] at he
    obtain hold | hadded := he
    · exact hbegins c (h.begun c delayed hold)
    · exact hbegins c (hs.begun_of_active (hdue _ hadded).1)
  · obtain ⟨g, hg, hgc⟩ | ⟨call, hcall, -⟩ := hflows.tracked hflow hc
    · obtain hactive | ⟨delayed, he⟩ := h.ended g hg c hgc
      · by_cases hgone : t.isActive c = false
        -- the call ends at this event
        · obtain ⟨call, hcall⟩ := isActive_iff.mp hactive
          obtain ⟨-, trigger, rfl⟩ := hchange.ended hcall hgone
          have hdestroyed := destroySession_mem_endEffects call s.now trigger
          rw [(hs.key hcall).2.1] at hdestroyed
          exact .inr ⟨_, List.mem_append_right _ hdestroyed⟩
        · exact .inl (Bool.eq_true_of_not_eq_false hgone)
      · exact .inr ⟨delayed, hnew ▸ List.mem_append_left _ he⟩
    · exact .inl (isActive_of_lookup hcall)

theorem sessions_init : init.Sessions where
  begun _ _ he := absurd he List.not_mem_nil
  ended _ hflow := absurd hflow List.not_mem_nil

theorem sessions_run {events : List CallsEvent} {s : Orchestrator}
    (hrun : exec callsStep init events = some s) : s.Sessions :=
  (exec_invariant (I := fun s => s.Tracked ∧ s.Sessions)
    (fun _ _ _ ⟨hs, h⟩ hstep => ⟨hs.step hstep, h.step hs hstep⟩)
    ⟨tracked_init, sessions_init⟩ hrun).2

/-! ## An operation that rejects -/

/-- A call that has begun and is not active is in no map. -/
theorem Tracked.forgotten {s : Orchestrator} (h : s.Tracked) (hpointed : s.Pointed) {c : String}
    (hbegun : s.Begun c) (hgone : s.isActive c = false) : s.Forgotten c where
  calls := hgone
  sessions x hx := by
    have hactive := ((h.session x c).mp hx).2
    exact Bool.false_ne_true (hgone.symm.trans hactive)
  providers p hp := by
    obtain ⟨call, hcall, -⟩ | ⟨flow, hflow, hsetting⟩ := hpointed p c hp
    · exact Bool.false_ne_true (hgone.symm.trans (isActive_of_lookup hcall))
    · have hopening : flow.opening = some c := by cases flow <;> cases hsetting; rfl
      have hone := (h.opening hflow hopening).2.2
      have hnone := hbegun.2
      omega
  notifications n hn := by
    have hactive := ((h.notification n c).mp hn).2
    exact Bool.false_ne_true (hgone.symm.trans hactive)
  timer now := by
    rw [isActive, Option.isSome_eq_false_iff, Option.isNone_iff_eq_none] at hgone
    simp only [callsStep, hgone]

/-- A flow that was opening a call ends, and nobody opens the call any more. -/
theorem Tracked.opening_ends {s : Orchestrator} (h : s.Tracked) {i : Nat} {flow : Flow} {c : String}
    (hflow : s.flows[i]? = some flow) (hopening : flow.opening = some c) :
    c ∈ s.issued ∧ s.isActive c = false ∧ owed (Flow.opens c) (Lib.advance s.flows i none) = 0 := by
  obtain ⟨hissued, hinactive, hone⟩ := h.opening (List.mem_of_getElem? hflow) hopening
  have hsum := owed_advance hflow (Flow.opens c) none
  have hdebt : flow.opens c = 1 := by rw [Flow.opens, if_pos hopening]
  rw [hone, hdebt, Option.elim_none] at hsum
  exact ⟨hissued, hinactive, by omega⟩

/-- **An operation that rejects**, `await` by `await`. -/
theorem undone_iff_recovers {s t : Orchestrator} {i : Nat} {flow : Flow} (hs : s.Tracked)
    (hsessions : s.Sessions) (ht : t.Tracked) (hpointed : t.Pointed)
    (hflow : s.flows[i]? = some flow) (hrejects : flow.rejects = true)
    (hstep : callsStep s (.resume i .fails) = some t) : t.Undone flow ↔ s.Recovers flow := by
  have hmem := List.mem_of_getElem? hflow
  simp only [callsStep, hflow] at hstep
  cases flow with
  | requireProvider deviceId fromNumber toNumber =>
    refine ⟨fun _ => trivial, fun _ => ⟨?_, ?_, ?_⟩⟩ <;> (intros; contradiction)
  | createOutbound provider callId deviceId fromNumber toNumber =>
    cases hstep
    obtain ⟨hissued, hinactive, hnone⟩ := hs.opening_ends hflow rfl
    refine ⟨fun _ => trivial, fun _ => ⟨by intros; contradiction, by intros; contradiction, fun c hc => ?_⟩⟩
    cases hc
    exact ht.forgotten hpointed ⟨hissued, hnone⟩ hinactive
  | makeCall provider callId audioWsUrl deviceId fromNumber toNumber =>
    cases hstep
    refine ⟨fun h => ?_, False.elim⟩
    -- the session is there: only a call that was tracked has it destroyed
    obtain ⟨delayed, he⟩ := h.session callId rfl
    obtain hold | hnew := List.mem_append.mp he
    · have hnone := (hsessions.begun callId delayed hold).2
      have hone := (hs.opening hmem rfl).2.2
      omega
    · cases List.mem_singleton.mp hnew
  | createInbound provider callId providerCallId fromNumber toNumber =>
    cases hstep
    obtain ⟨hissued, hinactive, hnone⟩ := hs.opening_ends hflow rfl
    refine ⟨fun _ => trivial, fun _ => ⟨by intros; contradiction, by intros; contradiction, fun c hc => ?_⟩⟩
    cases hc
    exact ht.forgotten hpointed ⟨hissued, hnone⟩ hinactive
  | getNumbers callId fromNumber toNumber =>
    cases hstep
    refine ⟨fun h => (h.call callId rfl).calls, fun hgone => ⟨fun c hc => ?_, by intros; contradiction,
      fun c hc => ?_⟩⟩
    · cases hc
      obtain hactive | ⟨delayed, he⟩ := hsessions.ended _ hmem callId rfl
      · exact absurd hactive (Bool.eq_false_iff.mp hgone)
      · exact ⟨delayed, List.mem_append_left _ he⟩
    · cases hc
      obtain ⟨hissued, hnone⟩ := hs.begun _ hmem callId rfl
      have hsum := owed_advance hflow (Flow.opens callId) none
      rw [Option.elim_none] at hsum
      refine ht.forgotten hpointed ⟨hissued, ?_⟩ hgone
      change owed (Flow.opens callId) (advance s.flows i none) = 0
      omega
  | _ => cases hrejects

end Orchestrator

variable {events : List CallsEvent} {event : CallsEvent} {s t : Orchestrator}

/-- **Setting up a call is atomic but for two of its failures.** Whatever the run, an operation that
throws has left no session, no entry and no timer of its call, if and only if it is not the provider
that fails to place an outbound call, nor the lookup of the numbers for an inbound call that is still
active. -/
theorem set_up_atomic (hrun : exec callsStep init events = some s)
    (hstep : callsStep s event = some t) (hrejects : s.Rejects t) :
    (∀ flow ∈ s.operation event, t.Undone flow) ↔ ∀ flow ∈ s.operation event, s.Recovers flow := by
  have hs := (tracked_pointed_run hrun).1
  obtain ⟨ht, hpointed⟩ := tracked_pointed_run (exec_concat hrun hstep)
  obtain ⟨new, hnew, hdue⟩ := (hs.proper hstep).due
  obtain ⟨new', hnew', e, he, hrejects⟩ := hrejects
  cases List.append_cancel_left (hnew.symm.trans hnew')
  obtain ⟨callId, providerCallId, fromNumber, toNumber, rfl⟩ | ⟨i, flow, rfl, hflow, hrejects⟩ :=
    (hdue e he).rejecting hrejects
  · have hnone : s.operation (.handleInbound none callId providerCallId fromNumber toNumber) = none :=
      rfl
    rw [hnone]
    exact iff_of_true (fun _ hflow => absurd hflow (Option.not_mem_none _))
      fun _ hflow => absurd hflow (Option.not_mem_none _)
  · have hiff := undone_iff_recovers hs (sessions_run hrun) ht hpointed hflow hrejects hstep
    rw [operation, hflow]
    simpa only [Option.mem_some, forall_eq'] using hiff

/-- There is no session for an inbound call, and nothing of the call is left. -/
theorem set_up_atomic_noSession :
    ∃ s t, exec callsStep init
        [.handleInbound (some sipProvider) "call 1" "leg 1" "+31" "+32"] = some s ∧
      callsStep s (.resume 0 .fails) = some t ∧ t.Forgotten "call 1" := by
  have hsome : (exec callsStep init
      [.handleInbound (some sipProvider) "call 1" "leg 1" "+31" "+32"]).bind (fun s =>
        (callsStep s (.resume 0 .fails)).map fun t =>
          decide (s.flows[0]? = some (.createInbound sipProvider "call 1" "leg 1" "+31" "+32") ∧
            t.effects = s.effects ++ [.inboundReturned none])) = some true := by decide +kernel
  obtain ⟨s, hrun, hmap⟩ := Option.bind_eq_some_iff.mp hsome
  obtain ⟨t, hstep, hdecide⟩ := Option.map_eq_some_iff.mp hmap
  obtain ⟨hflow, heffects⟩ := of_decide_eq_true hdecide
  have hundone := (set_up_atomic hrun hstep
    ⟨_, heffects, _, List.mem_singleton_self _, rfl⟩).mpr (fun flow hmem => by
      cases hflow.symm.trans hmem
      trivial)
  exact ⟨s, t, hrun, hstep, (hundone _ hflow).call _ rfl⟩

/-- The provider does not place an outbound call. -/
def unplacedRun : List CallsEvent :=
  [.initiateOutbound "tablet" "+32" "+31", .resume 0 (.provider sipProvider "call 1"),
    .resume 0 (.session none)]

/-- The media session is left behind when the provider does not place the call. -/
theorem session_left_behind :
    ¬ ∀ events event s t, exec callsStep init events = some s → callsStep s event = some t →
      s.Rejects t → ∀ flow ∈ s.operation event, t.Undone flow := by
  intro h
  have hsome : (exec callsStep init unplacedRun).bind (fun s =>
      (callsStep s (.resume 0 .fails)).map fun t =>
        decide (s.flows[0]? = some (.makeCall sipProvider "call 1" none "tablet" "+32" "+31") ∧
          t.effects = s.effects ++ [.outboundReturned "tablet" none] ∧
          s.effects = [.createSession "call 1" false true, .makeCall "+32" "+31" none])) =
        some true := by decide +kernel
  obtain ⟨s, hrun, hmap⟩ := Option.bind_eq_some_iff.mp hsome
  obtain ⟨t, hstep, hdecide⟩ := Option.map_eq_some_iff.mp hmap
  obtain ⟨hflow, heffects, hbefore⟩ := of_decide_eq_true hdecide
  have hundone := h _ _ s t hrun hstep ⟨_, heffects, _, List.mem_singleton_self _, rfl⟩ _ hflow
  obtain ⟨delayed, he⟩ := hundone.session _ rfl
  rw [heffects, hbefore] at he
  simp at he

end Svarla.Calls
