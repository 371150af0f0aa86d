import Svarla.Calls.Lifetimes

/-!
# Media events of outbound calls

`initiateOutbound` tracks its call when the provider has placed it and the session is patched; the
media bridge knows the session from its creation on. `handleMediaEvent` ignores an event for a session
that is not in `sessionToCall`, and nothing repeats it: an event that comes once the call is tracked is
heeded in everything that follows, and one that comes before never is (`media_event_heeded`).
-/

namespace Svarla.Calls

open Svarla.Lib Orchestrator

/-- The outbound call that a flow is still placing. -/
def Flow.placing : Flow → Option String
  | .createOutbound _ callId _ _ _ => some callId
  | .makeCall _ callId _ _ _ _ => some callId
  | .patchOutbound _ callId _ _ _ _ _ => some callId
  | _ => none

/-- The call is answered, and the watchdog armed for the longest a call may take. -/
def ActiveCall.LongWatched (call : ActiveCall) : Prop :=
  call.answered = true ∧
    ∃ answeredAt, call.answeredAt = some answeredAt ∧ call.watchdogTimer = answeredAt + maxCallDuration

namespace Orchestrator

/-- A flow of `initiateOutbound` has drawn the session's ID, or has come to track its call. -/
def OutboundSession (s : Orchestrator) (sessionId : String) : Prop :=
  (∃ flow ∈ s.flows, flow.placing = some sessionId) ∨
    ∃ call, s.activeCalls.lookup sessionId = some call ∧ call.direction = .outbound

/-- What the end of the provider's audio, or its beginning, means for the call of the session. -/
def Heeded (t : Orchestrator) (sessionId : String) (ended : Bool) : Prop :=
  if ended then t.isActive sessionId = false
  else ∀ call, t.activeCalls.lookup sessionId = some call → call.LongWatched

/-- `provider_disconnected` or `provider_connected`. -/
def providerEvent (ended : Bool) : MediaEvent :=
  if ended then .providerDisconnected else .providerConnected

/-! ## Outbound calls -/

/-- No request answers an active outbound call, and one that is answered has the long watchdog. -/
structure Outbounds (s : Orchestrator) : Prop where
  asked : ∀ flow ∈ s.flows, ∀ c d, flow.answering = some (c, d) → s.Begun c ∧
    ∀ call, s.activeCalls.lookup c = some call → call.direction = .inbound
  watched : ∀ c call, s.activeCalls.lookup c = some call → call.direction = .outbound →
    call.answered = true → call.LongWatched

theorem Outbounds.step {s t : Orchestrator} {event : CallsEvent} (h : s.Outbounds) (hs : s.Tracked)
    (hstep : callsStep s event = some t) : t.Outbounds := by
  have hflows := hs.flowChange hstep
  have hchange := (hs.proper hstep).change
  refine ⟨fun flow hflow c d hc => ?_, fun c call' hcall' hout hanswered => ?_⟩
  · have hold : s.Begun c ∧ ∀ call, s.activeCalls.lookup c = some call → call.direction = .inbound := by
      obtain ⟨g, hg, hgc⟩ | ⟨call, hcall, hinbound⟩ := hflows.asked hflow hc
      · exact h.asked g hg c d hgc
      · refine ⟨hs.begun_of_active (isActive_of_lookup hcall), fun call' hcall' => ?_⟩
        cases hcall.symm.trans hcall'
        exact hinbound
    exact ⟨hflows.begins c hold.1, hchange.inbound hs hold.1 hold.2⟩
  · obtain ⟨flow, hflow, -, hfree, -⟩ | ⟨call, hcall, hbecame⟩ := hchange.entry hs hcall'
    · exact absurd hanswered (Bool.eq_false_iff.mp hfree)
    · cases hbecame with
      | same => exact h.watched c call' hcall hout hanswered
      | marked deviceId _ _ => exact ⟨rfl, s.now, rfl, rfl⟩
      | unmarked deviceId _ => cases hanswered
      | connected _ _ => exact ⟨rfl, s.now, rfl, rfl⟩

theorem outbounds_init : init.Outbounds where
  asked _ hflow := absurd hflow List.not_mem_nil
  watched _ _ hcall := by simp [init] at hcall

theorem outbounds_run {events : List CallsEvent} {s : Orchestrator}
    (hrun : exec callsStep init events = some s) : s.Tracked ∧ s.Outbounds :=
  exec_invariant (I := fun s => s.Tracked ∧ s.Outbounds)
    (fun _ _ _ ⟨hs, h⟩ hstep => ⟨hs.step hstep, h.step hs hstep⟩) ⟨tracked_init, outbounds_init⟩ hrun

/-- The call is an outbound one and answered, as long as it is active. -/
def Connected (s : Orchestrator) (c : String) : Prop :=
  s.Begun c ∧ ∀ call, s.activeCalls.lookup c = some call →
    call.direction = .outbound ∧ call.answered = true

/-- An outbound call stays answered. -/
theorem Connected.step {s t : Orchestrator} {event : CallsEvent} {c : String} (h : s.Connected c)
    (hs : s.Tracked) (hout : s.Outbounds) (hstep : callsStep s event = some t) : t.Connected c := by
  refine ⟨(hs.flowChange hstep).begins c h.1, fun call' hcall' => ?_⟩
  obtain ⟨flow, hflow, hopening, -⟩ | ⟨call, hcall, hbecame⟩ :=
    (hs.proper hstep).change.entry hs hcall'
  · have hone := (hs.opening hflow hopening).2.2
    have hnone := h.1.2
    omega
  · obtain ⟨hdirection, hanswered⟩ := h.2 call hcall
    refine ⟨hbecame.direction.trans hdirection, ?_⟩
    cases hbecame with
    | same => exact hanswered
    | marked deviceId _ _ => rfl
    | unmarked deviceId hfails =>
      rw [(hs.key hcall).1] at hfails
      obtain ⟨flow, hflow, hanswering⟩ := answering_of_failing hfails
      have hinbound := (hout.asked flow hflow c deviceId hanswering).2 call hcall
      cases hinbound.symm.trans hdirection
    | connected _ _ => rfl

/-! ## An event that comes in time -/

theorem handleMediaEvent_of_active {s : Orchestrator} (hs : s.Tracked) {c : String}
    {call : ActiveCall} (hcall : s.activeCalls.lookup c = some call) :
    s.handleMediaEvent c .providerConnected = s.providerConnected call ∧
      s.handleMediaEvent c .providerDisconnected =
        s.endCall c (some "provider_disconnected") := by
  have hsession : s.sessionToCall.lookup c = some c :=
    (hs.session c c).mpr ⟨rfl, isActive_of_lookup hcall⟩
  simp only [handleMediaEvent, hsession, Option.bind_some, hcall, (hs.key hcall).1, true_and]

theorem connected_of_active {s : Orchestrator} (hs : s.Tracked) {c : String} {call : ActiveCall}
    (hcall : s.activeCalls.lookup c = some call) (hout : call.direction = .outbound) :
    (s.handleMediaEvent c .providerConnected).Connected c := by
  have hbegun := hs.begun_of_active (isActive_of_lookup hcall)
  have hkey := (hs.key hcall).1
  rw [(handleMediaEvent_of_active hs hcall).1]
  dsimp only [providerConnected]
  split
  · refine ⟨hbegun, fun call' hcall' => ?_⟩
    simp only [emit, Map.lookup_modify, hkey, if_true, hcall, Option.map_some,
      Option.some.injEq] at hcall'
    rw [← hcall']
    exact ⟨hout, rfl⟩
  · next hmarks =>
    refine ⟨hbegun, fun call' hcall' => ?_⟩
    cases hcall.symm.trans hcall'
    refine ⟨hout, ?_⟩
    simpa [hout] using hmarks

theorem disconnected_of_active {s : Orchestrator} (hs : s.Tracked) {c : String} {call : ActiveCall}
    (hcall : s.activeCalls.lookup c = some call) :
    (s.handleMediaEvent c .providerDisconnected).isActive c = false := by
  have hresolve : s.resolveToCallId c = c := if_pos (isActive_of_lookup hcall)
  obtain ⟨hkey, -, hended⟩ := hs.key hcall
  rw [(handleMediaEvent_of_active hs hcall).2, endCall, hresolve, hcall]
  simp only [hended, Bool.false_eq_true, if_false]
  rw [isActive_untrack, hkey]
  simp

/-- The event of an active call is heeded in every state that follows. -/
theorem heeded_of_active {events : List CallsEvent} {s t : Orchestrator} {c : String}
    {call : ActiveCall} (hs : s.Tracked) (houtbounds : s.Outbounds)
    (hcall : s.activeCalls.lookup c = some call) (hout : call.direction = .outbound) (ended : Bool)
    (hrun : exec callsStep (s.handleMediaEvent c (providerEvent ended)) events = some t) :
    t.Heeded c ended := by
  have hstep : callsStep s (.mediaEvent c (providerEvent ended)) =
      some (s.handleMediaEvent c (providerEvent ended)) := rfl
  have hs' := hs.step hstep
  cases ended with
  | true =>
    have hbegun := (hs.flowChange hstep).begins c (hs.begun_of_active (isActive_of_lookup hcall))
    -- what is gone stays gone
    have hgone := exec_invariant
      (I := fun s : Orchestrator => s.Tracked ∧ s.Begun c ∧ s.isActive c = false)
      (fun _ _ _ ⟨hs, hbegun, hgone⟩ hstep => ⟨hs.step hstep, (hs.flowChange hstep).begins c hbegun,
        (hs.proper hstep).change.gone hs hbegun hgone⟩)
      ⟨hs', hbegun, disconnected_of_active hs hcall⟩ hrun
    exact hgone.2.2
  | false =>
    have hconnected := exec_invariant
      (I := fun s : Orchestrator => s.Tracked ∧ s.Outbounds ∧ s.Connected c)
      (fun _ _ _ ⟨hs, hout, h⟩ hstep => ⟨hs.step hstep, hout.step hs hstep, h.step hs hout hstep⟩)
      ⟨hs', houtbounds.step hs hstep, connected_of_active hs hcall hout⟩ hrun
    obtain ⟨-, houtbounds', hconnected⟩ := hconnected
    intro call' hcall'
    obtain ⟨hdirection, hanswered⟩ := hconnected.2 call' hcall'
    exact houtbounds'.watched c call' hcall' hdirection hanswered

/-! ## An event that comes too early -/

/-- An event for a session without a call is ignored. -/
theorem handleMediaEvent_of_inactive {s : Orchestrator} (hs : s.Tracked) {c : String}
    (hgone : s.isActive c = false) (event : MediaEvent) : s.handleMediaEvent c event = s := by
  have hsession : s.sessionToCall.lookup c = none := by
    refine Option.eq_none_iff_forall_ne_some.mpr fun d hd => ?_
    obtain ⟨rfl, hactive⟩ := (hs.session c d).mp hd
    exact Bool.false_ne_true (hgone.symm.trans hactive)
  simp only [handleMediaEvent, hsession, Option.bind_none]

/-- Some run from here tracks the call, and leaves it unanswered. -/
def GetsTracked (s : Orchestrator) (c : String) : Prop :=
  ∃ events t call, exec callsStep s events = some t ∧ t.activeCalls.lookup c = some call ∧
    call.answered = false

theorem GetsTracked.resume {s : Orchestrator} {i : Nat} {flow : Flow}
    {r : Orchestrator × Option Flow} {c : String} (hflow : s.flows[i]? = some flow) (reply : Reply)
    (hr : s.proceed flow reply = some r)
    (h : GetsTracked { r.1 with flows := advance s.flows i r.2 } c) : s.GetsTracked c := by
  obtain ⟨events, u, call, hrun, hcall⟩ := h
  have hstep : callsStep s (.resume i reply) = some { r.1 with flows := advance s.flows i r.2 } := by
    simp only [callsStep, hflow, hr, Option.map_some]
  exact ⟨.resume i reply :: events, u, call, by rw [exec_cons, hstep]; exact hrun, hcall⟩

theorem getsTracked_trackOutbound (s : Orchestrator) (flows : List Flow) (provider : Provider)
    (callId : String) (audioWsUrl : Option String)
    (providerCallId deviceId fromNumber toNumber : String) :
    GetsTracked { s.trackOutbound provider callId audioWsUrl providerCallId deviceId fromNumber
      toNumber with flows } callId :=
  ⟨[], _, _, rfl, by rw [trackOutbound, track, emit, Map.lookup_insert, if_pos rfl], rfl⟩

theorem getElem?_advance_next {flows : List Flow} {i : Nat} {flow next : Flow}
    (hflow : flows[i]? = some flow) : (advance flows i (some next))[i]? = some next :=
  List.getElem?_set_self (List.getElem?_eq_some_iff.mp hflow).1

/-- A flow that is placing an outbound call tracks it, if nothing fails. -/
theorem getsTracked_of_placing {s : Orchestrator} {i : Nat} {flow : Flow} {c : String}
    (hflow : s.flows[i]? = some flow) (hplacing : flow.placing = some c) : s.GetsTracked c := by
  -- the last `await` first
  have hpatch : ∀ {s : Orchestrator} {provider audioWsUrl providerCallId deviceId fromNumber toNumber},
      s.flows[i]? = some (.patchOutbound provider c audioWsUrl providerCallId deviceId fromNumber
        toNumber) → s.GetsTracked c :=
    fun hflow => .resume hflow .done rfl (getsTracked_trackOutbound ..)
  have hplaced : ∀ {s : Orchestrator} {provider audioWsUrl deviceId fromNumber toNumber},
      s.flows[i]? = some (.makeCall provider c audioWsUrl deviceId fromNumber toNumber) →
        s.GetsTracked c := by
    intro s provider audioWsUrl deviceId fromNumber toNumber hflow
    cases hecho : provider.isEcho with
    | true =>
      exact .resume hflow (.placed "") (if_pos hecho) (getsTracked_trackOutbound ..)
    | false =>
      exact .resume hflow (.placed "") (if_neg (Bool.eq_false_iff.mp hecho))
        (hpatch (getElem?_advance_next hflow))
  cases flow with
  | createOutbound provider callId deviceId fromNumber toNumber =>
    cases hplacing
    exact .resume hflow (.session none) rfl (hplaced (getElem?_advance_next hflow))
  | makeCall provider callId audioWsUrl deviceId fromNumber toNumber =>
    cases hplacing
    exact hplaced hflow
  | patchOutbound provider callId audioWsUrl providerCallId deviceId fromNumber toNumber =>
    cases hplacing
    exact hpatch hflow
  | _ => cases hplacing

end Orchestrator

variable {events : List CallsEvent} {s : Orchestrator} {sessionId : String}

/-- **A media event is heeded when its call is tracked, and only then.** In every run, the beginning or
the end of the provider's audio on the session of an outbound call shows in everything that follows, as
an answered call under the long watchdog or as one that is gone, if and only if the call is active when
the event comes. -/
theorem media_event_heeded (hrun : exec callsStep init events = some s)
    (hsession : s.OutboundSession sessionId) (ended : Bool) :
    (∀ later t, exec callsStep (s.handleMediaEvent sessionId (providerEvent ended)) later = some t →
      t.Heeded sessionId ended) ↔ s.isActive sessionId = true := by
  obtain ⟨hs, houtbounds⟩ := outbounds_run hrun
  obtain ⟨flow, hflow, hplacing⟩ | ⟨call, hcall, hout⟩ := hsession
  · have hopening : flow.opening = some sessionId := by cases flow <;> cases hplacing <;> rfl
    have hinactive := (hs.opening hflow hopening).2.1
    refine iff_of_false (fun hheeded => ?_) (Bool.eq_false_iff.mp hinactive)
    -- the event is lost, and the call comes to be tracked without it
    rw [handleMediaEvent_of_inactive hs hinactive] at hheeded
    obtain ⟨i, hi⟩ := List.getElem?_of_mem hflow
    obtain ⟨later, t, call, hlater, hcall, hfree⟩ := getsTracked_of_placing hi hplacing
    have hheeds := hheeded later t hlater
    cases ended with
    | true => exact Bool.false_ne_true (hheeds.symm.trans (isActive_of_lookup hcall))
    | false => exact Bool.false_ne_true (hfree.symm.trans (hheeds call hcall).1)
  · exact iff_of_true (fun later t hlater => heeded_of_active hs houtbounds hcall hout ended hlater)
      (isActive_of_lookup hcall)

/-- An outbound call that the provider has placed, up to the patch of its session. -/
def placingRun : List CallsEvent :=
  [.initiateOutbound "tablet" "+32" "+31", .resume 0 (.provider sipProvider "call 1"),
    .resume 0 (.session none), .resume 0 (.placed "leg 1")]

/-- The audio of a call that is tracked begins. -/
theorem media_event_heeded_tracked :
    ∃ s, exec callsStep init (placingRun ++ [.resume 0 .done]) = some s ∧
      ∀ later t, exec callsStep (s.handleMediaEvent "call 1" .providerConnected) later = some t →
        t.Heeded "call 1" false := by
  have hsome : (exec callsStep init (placingRun ++ [.resume 0 .done])).map (fun s =>
      (s.activeCalls.lookup "call 1").map ActiveCall.direction) = some (some .outbound) := by
    decide +kernel
  obtain ⟨s, hrun, hcall⟩ := Option.map_eq_some_iff.mp hsome
  obtain ⟨call, hlookup, hout⟩ := Option.map_eq_some_iff.mp hcall
  exact ⟨s, hrun, (media_event_heeded hrun (.inr ⟨call, hlookup, hout⟩) false).mpr
    (isActive_of_lookup hlookup)⟩

/-- The provider answers before the session is patched: the call is tracked as unanswered. -/
theorem media_event_lost :
    ¬ ∀ events s sessionId ended, exec callsStep init events = some s →
      s.OutboundSession sessionId → ∀ later t,
        exec callsStep (s.handleMediaEvent sessionId (providerEvent ended)) later = some t →
          t.Heeded sessionId ended := by
  intro h
  have hsome : (exec callsStep init placingRun).bind (fun s =>
      (exec callsStep (s.handleMediaEvent "call 1" .providerConnected) [.resume 0 .done]).map fun t =>
        (s.flows.map Flow.placing, (t.activeCalls.lookup "call 1").map ActiveCall.answered)) =
      some ([some "call 1"], some false) := by decide +kernel
  obtain ⟨s, hrun, hmap⟩ := Option.bind_eq_some_iff.mp hsome
  obtain ⟨t, hlater, heq⟩ := Option.map_eq_some_iff.mp hmap
  obtain ⟨hplacing, hanswered⟩ := Prod.mk.inj heq
  obtain ⟨call, hcall, hfree⟩ := Option.map_eq_some_iff.mp hanswered
  obtain ⟨flow, hflow, hplaces⟩ := List.mem_map.mp (hplacing ▸ List.mem_singleton_self (some "call 1"))
  have hheeded := h _ s "call 1" false hrun (.inl ⟨flow, hflow, hplaces⟩) _ t hlater call hcall
  exact Bool.false_ne_true (hfree.symm.trans hheeded.1)

end Svarla.Calls
