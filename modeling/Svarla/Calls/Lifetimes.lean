import Mathlib
import Svarla.Calls.Answering

/-!
# The life of a call

What one event can do to the calls (`CallChange`), to the requests that answer them, and what it may
say about them (`Effect.Due`), whatever the run: a call comes to be tracked by the flow that has drawn
its ID, is marked and unmarked while it is active, and is gone for good when it ends.
-/

namespace Svarla.Calls

open Svarla.Lib Orchestrator

/-- The call of a flow that waits for the numbers. -/
def Flow.numbered : Flow → Option String
  | .getNumbers callId _ _ => some callId
  | _ => none

/-- A failure at this `await` is the operation's. -/
def Flow.rejects : Flow → Bool
  | .requireProvider .. | .createOutbound .. | .makeCall .. | .createInbound .. | .getNumbers .. =>
    true
  | _ => false

namespace Orchestrator

/-- What `endCall` does to the world. -/
def endEffects (call : ActiveCall) (now : Nat) (trigger : Option String) : List Effect :=
  [.send .all (.callEvent ⟨call.callId, .disconnected, none, none, none⟩),
    .send .all (.callCancelled call.callId
      (if trigger = some "declined" then .declined else .callerDisconnect)),
    .destroySession call.sessionId (trigger = some "provider_disconnected"),
    .providerEnd call.providerCallId] ++ endRecord call now trigger

/-- The call that the event announces: it brings `handleInbound` the numbers. -/
def announcing (s : Orchestrator) : CallsEvent → Option String
  | .resume i (.label _) => s.flows[i]?.bind Flow.numbered
  | _ => none

/-- The call that the event is to end. -/
def ending (s : Orchestrator) : CallsEvent → Option String
  | .endCall requestedId _ => some (s.resolveToCallId requestedId)
  | .mediaEvent sessionId .providerDisconnected | .mediaEvent sessionId .clientDisconnected =>
    s.sessionToCall.lookup sessionId
  | .watchdog callId => some callId
  | _ => none

/-- The call and the device of a request that fails to answer. -/
def failing (s : Orchestrator) : CallsEvent → Option (String × String)
  | .resume i .fails => s.flows[i]?.bind Flow.answering
  | _ => none

/-- `initiateOutbound` or `handleInbound` throws at this event. -/
def Rejecting (s : Orchestrator) (event : CallsEvent) : Prop :=
  (∃ callId providerCallId fromNumber toNumber,
    event = .handleInbound none callId providerCallId fromNumber toNumber) ∨
    ∃ i flow, event = .resume i .fails ∧ s.flows[i]? = some flow ∧ flow.rejects = true

/-- What an event does to the calls. -/
inductive CallChange (s t : Orchestrator) (event : CallsEvent) : Prop
  | same (hcalls : t.activeCalls = s.activeCalls)
  | tracks (call : ActiveCall) (flow : Flow) (hflow : flow ∈ s.flows)
      (hopening : flow.opening = some call.callId) (hfree : call.answered = false)
      (hinbound : flow.settingUp.isSome = true → call.direction = .inbound)
      (hcalls : t.activeCalls = s.activeCalls.insert call.callId call)
  | marks (call : ActiveCall) (deviceId : String)
      (hcall : s.activeCalls.lookup call.callId = some call) (hfree : call.answered = false)
      (hasked : call.direction = .outbound ∨
        ∃ flow ∈ t.flows, flow.answering = some (call.callId, deviceId))
      (hcalls : t.activeCalls = s.activeCalls.modify call.callId (·.markAnswered deviceId s.now))
  | unmarks (callId deviceId : String) (hfails : s.failing event = some (callId, deviceId))
      (hcalls : t.activeCalls = s.activeCalls.modify callId ActiveCall.unmarkAnswered)
  | connects (call : ActiveCall) (hcall : s.activeCalls.lookup call.callId = some call)
      (hfree : call.answered = false) (hout : call.direction = .outbound)
      (hcalls : t.activeCalls = s.activeCalls.modify call.callId (·.markConnected s.now))
  | ends (call : ActiveCall) (trigger : Option String)
      (hcall : s.activeCalls.lookup call.callId = some call)
      (hending : s.ending event = some call.callId)
      (h : t = (s.emit (endEffects call s.now trigger)).untrack call)

end Orchestrator

/-- What an event may say about a call, where the state goes from `s` to `t`. -/
def Effect.Due (s t : Orchestrator) (event : CallsEvent) : Effect → Prop
  | .send _ (.callEvent data) =>
    match data.status with
    | .ringing => s.announcing event = some data.callId ∧ t.activeCalls = s.activeCalls
    | .connected => s.isActive data.callId = true ∧ t.isActive data.callId = true
    | .disconnected => s.isActive data.callId = true ∧ t.isActive data.callId = false
    | _ => True
  | .createNotification callId .. =>
    s.announcing event = some callId ∧ t.activeCalls = s.activeCalls
  | .destroySession sessionId _ => s.isActive sessionId = true ∧ t.isActive sessionId = false
  | .outboundReturned _ none => s.Rejecting event
  | .inboundReturned none => s.Rejecting event
  | _ => True

namespace Orchestrator

/-- All that an event says is due. -/
def SaysDue (s t : Orchestrator) (event : CallsEvent) : Prop :=
  ∃ new, t.effects = s.effects ++ new ∧ ∀ e ∈ new, e.Due s t event

theorem SaysDue.of_eq {s t : Orchestrator} {event : CallsEvent} (h : t.effects = s.effects) :
    SaysDue s t event :=
  ⟨[], h.trans (List.append_nil _).symm, nofun⟩

theorem isActive_modify (s : Orchestrator) (callId c : String) (f : ActiveCall → ActiveCall) :
    ((s.activeCalls.modify callId f).lookup c).isSome = s.isActive c := by
  rw [Map.lookup_modify, isActive]
  split <;> simp

theorem endRecord_due (s t : Orchestrator) (event : CallsEvent) (call : ActiveCall) (now : Nat)
    (trigger : Option String) : ∀ e ∈ endRecord call now trigger, e.Due s t event := by
  rw [endRecord]
  split_ifs <;> simp [Effect.Due]

theorem destroySession_mem_endEffects (call : ActiveCall) (now : Nat) (trigger : Option String) :
    .destroySession call.sessionId (trigger = some "provider_disconnected") ∈
      endEffects call now trigger := by
  simp [endEffects]

/-! ## One lemma an operation -/

/-- `endCall` finds no call, or ends the call it finds. -/
theorem Tracked.endCall_cases {s : Orchestrator} (h : s.Tracked) (requestedId : String)
    (trigger : Option String) : s.endCall requestedId trigger = s ∨
      ∃ call, s.activeCalls.lookup call.callId = some call ∧
        s.resolveToCallId requestedId = call.callId ∧
        s.endCall requestedId trigger = (s.emit (endEffects call s.now trigger)).untrack call := by
  rw [Orchestrator.endCall]
  split
  · exact .inl rfl
  · next call hcall =>
    obtain ⟨hkey, -, hended⟩ := h.key hcall
    rw [if_neg (by simp [hended])]
    exact .inr ⟨call, hkey ▸ hcall, hkey.symm, rfl⟩

theorem isActive_untrack (s : Orchestrator) (effects : List Effect) (call : ActiveCall) (c : String) :
    ((s.emit effects).untrack call).isActive c = (s.isActive c && decide (c ≠ call.callId)) := by
  simp only [isActive, untrack, emit, Map.lookup_erase]
  split <;> simp_all

/-- The end of a call is told. -/
theorem Tracked.ends_due {s : Orchestrator} (h : s.Tracked) {call : ActiveCall}
    (hcall : s.activeCalls.lookup call.callId = some call) (trigger : Option String)
    (event : CallsEvent) :
    SaysDue s ((s.emit (endEffects call s.now trigger)).untrack call) event := by
  refine ⟨_, rfl, fun e he => ?_⟩
  have hactive := isActive_of_lookup hcall
  have hgone : ((s.emit (endEffects call s.now trigger)).untrack call).isActive call.callId = false := by
    rw [isActive_untrack]
    simp
  have hsession := (h.key hcall).2.1
  rw [endEffects, List.mem_append] at he
  obtain he | he := he
  · simp only [List.mem_cons, List.not_mem_nil, or_false] at he
    obtain rfl | rfl | rfl | rfl := he
    · exact ⟨hactive, hgone⟩
    · trivial
    · exact ⟨hsession ▸ hactive, hsession ▸ hgone⟩
    · trivial
  · exact endRecord_due _ _ _ _ _ _ e he

/-- What an event does and says. -/
structure Proper (s t : Orchestrator) (event : CallsEvent) : Prop where
  change : CallChange s t event
  due : SaysDue s t event

theorem Proper.of_same {s t : Orchestrator} {event : CallsEvent}
    (hcalls : t.activeCalls = s.activeCalls) (hdue : SaysDue s t event) : Proper s t event :=
  ⟨.same hcalls, hdue⟩

theorem Tracked.proper_endCall {s : Orchestrator} (h : s.Tracked) {requestedId : String}
    (trigger : Option String) {event : CallsEvent}
    (hending : s.ending event = some (s.resolveToCallId requestedId)) :
    Proper s (s.endCall requestedId trigger) event := by
  obtain heq | ⟨call, hcall, hid, heq⟩ := h.endCall_cases requestedId trigger
  · rw [heq]
    exact .of_same rfl (.of_eq rfl)
  · rw [heq]
    exact ⟨.ends call trigger hcall (hending.trans (congrArg some hid)) rfl,
      h.ends_due hcall trigger event⟩

theorem proper_providerConnected {s : Orchestrator} {call : ActiveCall}
    (hcall : s.activeCalls.lookup call.callId = some call) (event : CallsEvent) :
    Proper s (s.providerConnected call) event := by
  have hactive := isActive_of_lookup hcall
  dsimp only [Orchestrator.providerConnected]
  split
  · next hmarks =>
    simp only [Bool.and_eq_true, Bool.not_eq_eq_eq_not, Bool.not_true, decide_eq_true_eq] at hmarks
    refine ⟨.connects call hcall hmarks.1 hmarks.2 rfl, _, rfl, fun e he => ?_⟩
    rw [List.mem_singleton.mp he]
    exact ⟨hactive, (isActive_modify ..).trans hactive⟩
  · refine .of_same rfl ⟨_, rfl, fun e he => ?_⟩
    rw [List.mem_singleton.mp he]
    exact ⟨hactive, hactive⟩

theorem Tracked.proper_handleMediaEvent {s : Orchestrator} (h : s.Tracked) (sessionId : String)
    (mediaEvent : MediaEvent) :
    Proper s (s.handleMediaEvent sessionId mediaEvent) (.mediaEvent sessionId mediaEvent) := by
  rw [Orchestrator.handleMediaEvent]
  split
  · exact .of_same rfl (.of_eq rfl)
  · next call hcall =>
    obtain ⟨c, hsession, hcall⟩ := Option.bind_eq_some_iff.mp hcall
    have hkey := (h.key hcall).1
    have hresolve : s.resolveToCallId call.callId = c := by
      rw [hkey, resolveToCallId, if_pos (isActive_of_lookup hcall)]
    have hlookup := hkey ▸ hcall
    cases mediaEvent with
    | providerDisconnected => exact h.proper_endCall _ (hsession.trans (congrArg some hresolve.symm))
    | clientDisconnected => exact h.proper_endCall _ (hsession.trans (congrArg some hresolve.symm))
    | providerConnected => exact proper_providerConnected hlookup _
    | clientConnected => exact .of_same rfl (.of_eq rfl)
    | dtmf digit =>
      dsimp only
      split
      · exact .of_same rfl (.of_eq rfl)
      · exact .of_same rfl ⟨_, rfl, by simp [Effect.Due]⟩
    | iceCandidate candidate =>
      cases candidate with
      | none => exact .of_same rfl (.of_eq rfl)
      | some candidate => exact .of_same rfl ⟨_, rfl, by simp [Effect.Due]⟩

theorem proper_handleInbound (s : Orchestrator) (provider : Option Provider)
    (callId providerCallId fromNumber toNumber : String) :
    Proper s (s.handleInbound provider callId providerCallId fromNumber toNumber)
      (.handleInbound provider callId providerCallId fromNumber toNumber) := by
  cases provider with
  | none =>
    refine .of_same rfl ⟨_, rfl, fun e he => ?_⟩
    rw [List.mem_singleton.mp he]
    exact .inl ⟨callId, providerCallId, fromNumber, toNumber, rfl⟩
  | some provider => exact .of_same rfl ⟨_, rfl, by simp [Effect.Due]⟩

theorem Tracked.proper_answerCall {s : Orchestrator} (h : s.Tracked) (requestedId deviceId : String)
    (event : CallsEvent) : Proper s (s.answerCall requestedId deviceId) event := by
  rw [Orchestrator.answerCall]
  split
  · exact .of_same rfl ⟨_, rfl, by simp [Effect.Due]⟩
  · next call hcall =>
    have hkey := (h.key hcall).1
    split
    · exact .of_same rfl ⟨_, rfl, by simp [Effect.Due]⟩
    · next hanswered =>
      have hfree := Bool.eq_false_iff.mpr hanswered
      rw [← hkey] at hcall ⊢
      cases hdirection : call.direction with
      | outbound =>
        exact ⟨.marks call deviceId hcall hfree (.inl hdirection) rfl, _, rfl,
          by simp [Effect.Due]⟩
      | inbound =>
        dsimp only
        split
        · exact ⟨.marks call deviceId hcall hfree
            (.inr ⟨.patchAnswer call deviceId, List.mem_concat_self, rfl⟩) rfl, _, rfl,
            by simp [Effect.Due]⟩
        · exact ⟨.marks call deviceId hcall hfree
            (.inr ⟨.answer call deviceId, List.mem_concat_self, rfl⟩) rfl, _, rfl,
            by simp [Effect.Due]⟩

/-- **A continuation.** -/
theorem proper_proceed {s : Orchestrator} {i : Nat} {flow : Flow} {reply : Reply}
    {r : Orchestrator × Option Flow} (hflow : s.flows[i]? = some flow)
    (hr : s.proceed flow reply = some r) :
    Proper s { r.1 with flows := advance s.flows i r.2 } (.resume i reply) := by
  have hmem := List.mem_of_getElem? hflow
  revert hr
  fun_cases Orchestrator.proceed s flow reply <;> intro hr <;> cases hr
  -- the operation throws
  case case1 | case4 | case6 | case11 | case13 =>
    refine .of_same rfl ⟨_, rfl, fun e he => ?_⟩
    rw [List.mem_singleton.mp he]
    exact .inr ⟨i, _, rfl, hflow, rfl⟩
  -- a flow tracks the call it has been opening
  case case7 | case9 | case10 =>
    exact ⟨.tracks _ _ hmem rfl rfl (by intros; contradiction) rfl, _, rfl, by simp [Effect.Due]⟩
  case case12 =>
    exact ⟨.tracks _ _ hmem rfl rfl (fun _ => rfl) rfl, _, rfl, by simp [Effect.Due]⟩
  case case14 callId fromNumber toNumber label =>
    have hannounces : s.announcing (.resume i (.label label)) = some callId := by
      rw [announcing, hflow]
      rfl
    refine .of_same rfl ⟨_, rfl, fun e he => ?_⟩
    simp only [List.mem_cons, List.not_mem_nil, or_false] at he
    obtain rfl | rfl | rfl := he
    · exact ⟨hannounces, rfl⟩
    · exact ⟨hannounces, rfl⟩
    · trivial
  case case16 callId id _ =>
    exact .of_same (registerNotification_frame s callId id).1
      (.of_eq (registerNotification_effects s callId id))
  -- a request to answer the call fails
  case case18 call deviceId =>
    refine ⟨.unmarks call.callId deviceId ?_ rfl, _, rfl, by simp [Effect.Due]⟩
    rw [failing, hflow]
    rfl
  case case20 call deviceId =>
    refine ⟨.unmarks call.callId deviceId ?_ rfl, _, rfl, by simp [Effect.Due]⟩
    rw [failing, hflow]
    rfl
  all_goals first
    | exact .of_same rfl (.of_eq rfl)
    | exact .of_same rfl ⟨_, rfl, by simp [Effect.Due]⟩

/-- **What one event can do and say.** -/
theorem Tracked.proper {s t : Orchestrator} {event : CallsEvent} (h : s.Tracked)
    (hstep : callsStep s event = some t) : Proper s t event := by
  cases event with
  | tick milliseconds => cases hstep; exact .of_same rfl (.of_eq rfl)
  | initiateOutbound deviceId fromNumber toNumber =>
    cases hstep
    exact .of_same rfl (.of_eq rfl)
  | handleInbound provider callId providerCallId fromNumber toNumber =>
    simp only [callsStep, Option.ite_none_right_eq_some] at hstep
    obtain ⟨-, hstep⟩ := hstep
    cases hstep
    exact proper_handleInbound ..
  | answerCall requestedId deviceId => cases hstep; exact h.proper_answerCall ..
  | endCall requestedId trigger => cases hstep; exact h.proper_endCall trigger rfl
  | mediaEvent sessionId event => cases hstep; exact h.proper_handleMediaEvent ..
  | watchdog callId =>
    simp only [callsStep] at hstep
    split at hstep
    · cases hstep
    · next call hcall =>
      obtain ⟨-, hstep⟩ := Option.ite_none_right_eq_some.mp hstep
      cases hstep
      refine h.proper_endCall _ (congrArg some ?_)
      rw [resolveToCallId, if_pos (isActive_of_lookup hcall)]
  | resume i reply =>
    simp only [callsStep] at hstep
    split at hstep
    · cases hstep
    · next flow hflow =>
      obtain ⟨r, hr, rfl⟩ := Option.map_eq_some_iff.mp hstep
      exact proper_proceed hflow hr

/-! ## The flows -/

/-- What an event does to the flows. -/
inductive FlowChange (s t : Orchestrator) (event : CallsEvent) : Prop
  | same (hflows : t.flows = s.flows) (hissued : t.issued = s.issued)
  | starts (flow : Flow) (hflows : t.flows = s.flows ++ [flow])
      (hissued : ∀ x ∈ s.issued, x ∈ t.issued) (hopening : ∀ c ∈ s.issued, flow.opening ≠ some c)
      (htracked : flow.tracked = none)
      (hanswering : ∀ c d, flow.answering = some (c, d) →
        ∃ call, s.activeCalls.lookup c = some call ∧ call.direction = .inbound)
  | goesOn (i : Nat) (flow : Flow) (reply : Reply) (r : Orchestrator × Option Flow)
      (hevent : event = .resume i reply) (hflow : s.flows[i]? = some flow)
      (hr : s.proceed flow reply = some r) (h : t = { r.1 with flows := advance s.flows i r.2 })

theorem Tracked.flowChange_endCall {s : Orchestrator} (h : s.Tracked) (requestedId : String)
    (trigger : Option String) (event : CallsEvent) :
    FlowChange s (s.endCall requestedId trigger) event := by
  obtain heq | ⟨call, -, -, heq⟩ := h.endCall_cases requestedId trigger <;>
  · rw [heq]
    exact .same rfl rfl

theorem Tracked.flowChange_handleMediaEvent {s : Orchestrator} (h : s.Tracked) (sessionId : String)
    (mediaEvent : MediaEvent) (event : CallsEvent) :
    FlowChange s (s.handleMediaEvent sessionId mediaEvent) event := by
  rw [Orchestrator.handleMediaEvent]
  split
  · exact .same rfl rfl
  · cases mediaEvent with
    | providerDisconnected => exact h.flowChange_endCall ..
    | clientDisconnected => exact h.flowChange_endCall ..
    | providerConnected => dsimp only [providerConnected]; split <;> exact .same rfl rfl
    | clientConnected => exact .same rfl rfl
    | dtmf digit => dsimp only; split <;> exact .same rfl rfl
    | iceCandidate candidate => cases candidate <;> exact .same rfl rfl

theorem Tracked.flowChange_answerCall {s : Orchestrator} (h : s.Tracked)
    (requestedId deviceId : String) (event : CallsEvent) :
    FlowChange s (s.answerCall requestedId deviceId) event := by
  rw [Orchestrator.answerCall]
  split
  · exact .same rfl rfl
  · next call hcall =>
    rw [← (h.key hcall).1] at hcall
    split
    · exact .same rfl rfl
    · split
      · exact .same rfl rfl
      · next hinbound =>
        split
        · refine .starts (.patchAnswer call deviceId) rfl (fun _ hx => hx)
            (fun _ _ => (Option.some_ne_none _).symm) rfl fun c d hc => ?_
          cases hc
          exact ⟨call, hcall, hinbound⟩
        · refine .starts (.answer call deviceId) rfl (fun _ hx => hx)
            (fun _ _ => (Option.some_ne_none _).symm) rfl fun c d hc => ?_
          cases hc
          exact ⟨call, hcall, hinbound⟩

/-- **What one event can do to the flows.** -/
theorem Tracked.flowChange {s t : Orchestrator} {event : CallsEvent} (h : s.Tracked)
    (hstep : callsStep s event = some t) : FlowChange s t event := by
  cases event with
  | tick milliseconds => cases hstep; exact .same rfl rfl
  | initiateOutbound deviceId fromNumber toNumber =>
    cases hstep
    exact .starts _ rfl (fun _ hx => hx) (fun _ _ => (Option.some_ne_none _).symm) rfl
      (by intros; contradiction)
  | handleInbound provider callId providerCallId fromNumber toNumber =>
    simp only [callsStep, Option.ite_none_right_eq_some] at hstep
    obtain ⟨hfresh, hstep⟩ := hstep
    cases hstep
    cases provider with
    | none => exact .same rfl rfl
    | some provider =>
      refine .starts _ rfl (fun _ hx => List.mem_cons_of_mem _ hx) (fun c hc hopening => ?_) rfl
        (by intros; contradiction)
      cases hopening
      exact hfresh.2 hc
  | answerCall requestedId deviceId => cases hstep; exact h.flowChange_answerCall ..
  | endCall requestedId trigger => cases hstep; exact h.flowChange_endCall ..
  | mediaEvent sessionId event => cases hstep; exact h.flowChange_handleMediaEvent ..
  | watchdog callId =>
    simp only [callsStep] at hstep
    split at hstep
    · cases hstep
    · obtain ⟨-, hstep⟩ := Option.ite_none_right_eq_some.mp hstep
      cases hstep
      exact h.flowChange_endCall ..
  | resume i reply =>
    simp only [callsStep] at hstep
    split at hstep
    · cases hstep
    · next flow hflow =>
      obtain ⟨r, hr, rfl⟩ := Option.map_eq_some_iff.mp hstep
      exact .goesOn i flow reply r rfl hflow hr rfl

/-- A call that has begun is not begun again. -/
theorem FlowChange.begins {s t : Orchestrator} {event : CallsEvent} (h : FlowChange s t event) :
    Begins s t := by
  cases h with
  | same hflows hissued => exact begins_of_flows hissued hflows
  | starts flow hflows hissued hopening _ _ => exact begins_of_start hissued hflows hopening
  | goesOn i flow reply r _ hflow hr h =>
    subst h
    obtain ⟨hissued, hnext⟩ := proceed_next hr
    exact begins_of_advance hflow hissued rfl hnext

/-! ## One call -/

/-- What an event makes of a call that stays active. -/
inductive Became (s t : Orchestrator) (event : CallsEvent) (call : ActiveCall) : ActiveCall → Prop
  | same : Became s t event call call
  | marked (deviceId : String) (hfree : call.answered = false)
      (hasked : call.direction = .outbound ∨
        ∃ flow ∈ t.flows, flow.answering = some (call.callId, deviceId)) :
      Became s t event call (call.markAnswered deviceId s.now)
  | unmarked (deviceId : String) (hfails : s.failing event = some (call.callId, deviceId)) :
      Became s t event call call.unmarkAnswered
  | connected (hfree : call.answered = false) (hout : call.direction = .outbound) :
      Became s t event call (call.markConnected s.now)

theorem Became.direction {s t : Orchestrator} {event : CallsEvent} {call call' : ActiveCall}
    (h : Became s t event call call') : call'.direction = call.direction := by
  cases h <;> rfl

/-- The entry of a call is new, or what has become of the one before. -/
theorem CallChange.entry {s t : Orchestrator} {event : CallsEvent} (h : CallChange s t event)
    (hs : s.Tracked) {c : String} {call' : ActiveCall}
    (hcall' : t.activeCalls.lookup c = some call') :
    (∃ flow ∈ s.flows, flow.opening = some c ∧ call'.answered = false ∧
      (flow.settingUp.isSome = true → call'.direction = .inbound)) ∨
      ∃ call, s.activeCalls.lookup c = some call ∧ Became s t event call call' := by
  -- the entry is as it was, unless it is the call's that the event changes
  have hmodified : ∀ {callId : String} {f : ActiveCall → ActiveCall},
      t.activeCalls = s.activeCalls.modify callId f →
      (∀ call, s.activeCalls.lookup callId = some call → Became s t event call (f call)) →
      ∃ call, s.activeCalls.lookup c = some call ∧ Became s t event call call' := by
    intro callId f hcalls hbecame
    rw [hcalls, Map.lookup_modify] at hcall'
    split at hcall'
    · next heq =>
      subst heq
      obtain ⟨call, hcall, rfl⟩ := Option.map_eq_some_iff.mp hcall'
      exact ⟨call, hcall, hbecame call hcall⟩
    · exact ⟨call', hcall', .same⟩
  cases h with
  | same hcalls => exact .inr ⟨call', hcalls ▸ hcall', .same⟩
  | tracks call flow hflow hopening hfree hinbound hcalls =>
    rw [hcalls, Map.lookup_insert] at hcall'
    split at hcall'
    · next heq =>
      cases hcall'
      exact .inl ⟨flow, hflow, heq ▸ hopening, hfree, hinbound⟩
    · exact .inr ⟨call', hcall', .same⟩
  | marks call deviceId hcall hfree hasked hcalls =>
    refine .inr (hmodified hcalls fun found hfound => ?_)
    cases hcall.symm.trans hfound
    exact .marked deviceId hfree hasked
  | unmarks callId deviceId hfails hcalls =>
    refine .inr (hmodified hcalls fun found hfound => ?_)
    rw [← (hs.key hfound).1] at hfails
    exact .unmarked deviceId hfails
  | connects call hcall hfree hout hcalls =>
    refine .inr (hmodified hcalls fun found hfound => ?_)
    cases hcall.symm.trans hfound
    exact .connected hfree hout
  | ends call trigger hcall _ h =>
    rw [h, untrack, Map.lookup_erase] at hcall'
    split at hcall'
    · cases hcall'
    · exact .inr ⟨call', hcall', .same⟩

/-- A call that is active no more has ended. -/
theorem CallChange.ended {s t : Orchestrator} {event : CallsEvent} (h : CallChange s t event)
    {c : String} {call : ActiveCall} (hcall : s.activeCalls.lookup c = some call)
    (hgone : t.isActive c = false) :
    s.ending event = some c ∧
      ∃ trigger, t = (s.emit (endEffects call s.now trigger)).untrack call := by
  have hactive := isActive_of_lookup hcall
  have hmodified : ∀ {callId : String} {f : ActiveCall → ActiveCall},
      t.activeCalls = s.activeCalls.modify callId f → False := by
    intro callId f hcalls
    rw [isActive, hcalls, isActive_modify, hactive] at hgone
    cases hgone
  cases h with
  | same hcalls =>
    rw [isActive, hcalls, ← isActive, hactive] at hgone
    cases hgone
  | tracks call' flow _ _ _ _ hcalls =>
    rw [isActive, hcalls, Map.lookup_insert] at hgone
    split at hgone
    · cases hgone
    · rw [← isActive, hactive] at hgone
      cases hgone
  | marks call' deviceId _ _ _ hcalls => exact (hmodified hcalls).elim
  | unmarks callId deviceId _ hcalls => exact (hmodified hcalls).elim
  | connects call' _ _ _ hcalls => exact (hmodified hcalls).elim
  | ends call' trigger hcall' hending h =>
    rw [h, isActive_untrack, hactive, Bool.true_and, decide_eq_false_iff_not, not_not] at hgone
    rw [hgone, hcall'] at hcall
    cases hcall
    exact ⟨hgone ▸ hending, trigger, h⟩

/-- A call that has begun and is not active never is again. -/
theorem CallChange.gone {s t : Orchestrator} {event : CallsEvent} (h : CallChange s t event)
    (hs : s.Tracked) {c : String} (hbegun : s.Begun c) (hgone : s.isActive c = false) :
    t.isActive c = false := by
  rw [Bool.eq_false_iff]
  intro hactive
  obtain ⟨call', hcall'⟩ := isActive_iff.mp hactive
  obtain ⟨flow, hflow, hopening, -⟩ | ⟨call, hcall, -⟩ := h.entry hs hcall'
  · have hone := (hs.opening hflow hopening).2.2
    have hnone := hbegun.2
    omega
  · rw [isActive_of_lookup hcall] at hgone
    cases hgone

/-- A call that has begun keeps its direction. -/
theorem CallChange.inbound {s t : Orchestrator} {event : CallsEvent} (h : CallChange s t event)
    (hs : s.Tracked) {c : String} (hbegun : s.Begun c)
    (hinbound : ∀ call, s.activeCalls.lookup c = some call → call.direction = .inbound) :
    ∀ call, t.activeCalls.lookup c = some call → call.direction = .inbound := by
  intro call' hcall'
  obtain ⟨flow, hflow, hopening, -⟩ | ⟨call, hcall, hbecame⟩ := h.entry hs hcall'
  · have hone := (hs.opening hflow hopening).2.2
    have hnone := hbegun.2
    omega
  · exact hbecame.direction.trans (hinbound call hcall)

theorem answering_of_failing {s : Orchestrator} {event : CallsEvent} {c d : String}
    (h : s.failing event = some (c, d)) : ∃ flow ∈ s.flows, flow.answering = some (c, d) := by
  cases event with
  | resume i reply =>
    cases reply with
    | fails =>
      obtain ⟨flow, hflow, hanswering⟩ := Option.bind_eq_some_iff.mp h
      exact ⟨flow, List.mem_of_getElem? hflow, hanswering⟩
    | _ => cases h
  | _ => cases h

/-! ## The flows of a call -/

theorem proceed_tracked {s : Orchestrator} {flow next : Flow} {reply : Reply}
    {r : Orchestrator × Option Flow} {c : String} (hr : s.proceed flow reply = some r)
    (hnext : r.2 = some next) (hc : next.tracked = some c) :
    flow.tracked = some c ∨
      ∃ call, r.1.activeCalls.lookup c = some call ∧ call.direction = .inbound := by
  revert hr
  fun_cases Orchestrator.proceed s flow reply <;> intro hr <;> cases hr
  case case12 =>
    cases hnext
    cases hc
    exact .inr ⟨_, by rw [trackInbound, track, emit, Map.lookup_insert, if_pos rfl], rfl⟩
  case case14 =>
    cases hnext
    cases hc
    exact .inl rfl
  all_goals
    cases hnext
    try cases hc

/-- A flow has a call that it has tracked, or has just tracked it. -/
theorem FlowChange.tracked {s t : Orchestrator} {event : CallsEvent} (h : FlowChange s t event)
    {flow : Flow} {c : String} (hflow : flow ∈ t.flows) (hc : flow.tracked = some c) :
    (∃ g ∈ s.flows, g.tracked = some c) ∨
      ∃ call, t.activeCalls.lookup c = some call ∧ call.direction = .inbound := by
  cases h with
  | same hflows _ => exact .inl ⟨flow, hflows ▸ hflow, hc⟩
  | starts g hflows _ _ htracked _ =>
    rw [hflows, List.mem_append, List.mem_singleton] at hflow
    obtain hold | rfl := hflow
    · exact .inl ⟨flow, hold, hc⟩
    · rw [htracked] at hc
      cases hc
  | goesOn i g reply r _ hg hr h =>
    subst h
    obtain hold | hnext := mem_advance hflow
    · exact .inl ⟨flow, hold, hc⟩
    · exact (proceed_tracked hr hnext hc).imp_left fun hold =>
        ⟨g, List.mem_of_getElem? hg, hold⟩

theorem proceed_answering {s : Orchestrator} {flow next : Flow} {reply : Reply}
    {r : Orchestrator × Option Flow} {c d : String} (hr : s.proceed flow reply = some r)
    (hnext : r.2 = some next) (hc : next.answering = some (c, d)) :
    flow.answering = some (c, d) := by
  revert hr
  fun_cases Orchestrator.proceed s flow reply <;> intro hr <;> cases hr
  case case19 =>
    cases hnext
    exact hc
  all_goals
    cases hnext
    try cases hc

/-- A request to answer a call was made when the call was active and inbound. -/
theorem FlowChange.asked {s t : Orchestrator} {event : CallsEvent} (h : FlowChange s t event)
    {flow : Flow} {c d : String} (hflow : flow ∈ t.flows) (hc : flow.answering = some (c, d)) :
    (∃ g ∈ s.flows, g.answering = some (c, d)) ∨
      ∃ call, s.activeCalls.lookup c = some call ∧ call.direction = .inbound := by
  cases h with
  | same hflows _ => exact .inl ⟨flow, hflows ▸ hflow, hc⟩
  | starts g hflows _ _ _ hanswering =>
    rw [hflows, List.mem_append, List.mem_singleton] at hflow
    obtain hold | rfl := hflow
    · exact .inl ⟨flow, hold, hc⟩
    · exact .inr (hanswering c d hc)
  | goesOn i g reply r _ hg hr h =>
    subst h
    obtain hold | hnext := mem_advance hflow
    · exact .inl ⟨flow, hold, hc⟩
    · exact .inl ⟨g, List.mem_of_getElem? hg, proceed_answering hr hnext hc⟩

/-- A request to answer a call goes on, succeeds, or fails, and then the call is not answered. -/
theorem FlowChange.answering {s t : Orchestrator} {event : CallsEvent} (h : FlowChange s t event)
    {new : List Effect} (hnew : t.effects = s.effects ++ new) {flow : Flow} {c d : String}
    (hflow : flow ∈ s.flows) (hc : flow.answering = some (c, d)) :
    (∃ g ∈ t.flows, g.answering = some (c, d)) ∨ .markCallResolved c ∈ new ∨
      s.failing event = some (c, d) ∧
        ∀ call, t.activeCalls.lookup c = some call → call.answered = false := by
  have hunmarked : ∀ (call : ActiveCall) (calls : Map String ActiveCall),
      (calls.modify c ActiveCall.unmarkAnswered).lookup c = some call → call.answered = false := by
    intro call calls hcall
    rw [Map.lookup_modify, if_pos rfl] at hcall
    obtain ⟨before, -, rfl⟩ := Option.map_eq_some_iff.mp hcall
    rfl
  cases h with
  | same hflows _ => exact .inl ⟨flow, hflows ▸ hflow, hc⟩
  | starts g hflows _ _ _ _ => exact .inl ⟨flow, hflows ▸ List.mem_append_left _ hflow, hc⟩
  | goesOn i g reply r hevent hg hr h =>
    subst h hevent
    by_cases heq : flow = g
    · subst heq
      cases flow with
      | patchAnswer call deviceId =>
        cases hc
        cases reply with
        | fails =>
          cases hr
          exact .inr (.inr ⟨by rw [failing, hg]; rfl, fun call' hcall' => hunmarked call' _ hcall'⟩)
        | done =>
          cases hr
          exact .inl ⟨_, mem_advance_next hg, rfl⟩
        | _ => cases hr
      | answer call deviceId =>
        cases hc
        cases reply with
        | fails =>
          cases hr
          exact .inr (.inr ⟨by rw [failing, hg]; rfl, fun call' hcall' => hunmarked call' _ hcall'⟩)
        | done =>
          cases hr
          rw [← List.append_cancel_left hnew]
          simp
        | _ => cases hr
      | _ => cases hc
    · exact .inl ⟨flow, mem_advance_of_ne hg _ hflow heq, hc⟩

end Orchestrator

end Svarla.Calls
