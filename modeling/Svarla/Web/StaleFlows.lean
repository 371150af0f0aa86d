import Svarla.Web.CallController

/-!
# Flows that come back late

A flow of the controller waits at each `await` while events change the store. It may come back when
its call has ended, or with a list of calls that was requested before what is displayed changed
(`Behind`). Most ways out of a flow reset the controller without looking at what it displays, so a
late one takes a newer call with it (`late_failure_ends_call`), and a list presents a call that was
declined meanwhile (`list_presents_declined`).

A run is watched (`Watch`): beside each flow stands the state it began in and the events since. The
watch changes nothing (`step_now`). The ways on of `Spares` keep what is displayed
(`Spares.kept`), and in a run whose late continuations take no other (`Spared`), every one does
(`late_flows_keep`).
-/

namespace Svarla.Web

open Svarla.Lib Svarla.Calls

namespace CallController

def incomingId (s : CallController) : Option String := s.incoming.map (·.callId)

/-- A call is active, or one is presented. -/
def displays (s : CallController) : Bool := s.call.isSome || s.incoming.isSome

end CallController

/-! ## The watch -/

/-- Where a flow comes from. -/
structure Origin where
  /-- When the flow began. -/
  state : CallController
  /-- The events since. -/
  since : List WebEvent

/-- The event says that the call has ended. -/
def WebEvent.ends (callId : String) : WebEvent → Bool
  | .callEvent data => data.callId = callId && CallController.isTerminal data.status
  | .callCancelled id _ => id = callId
  | _ => false

/-- The event says that there is the call. -/
def WebEvent.names (callId : String) : WebEvent → Bool
  | .callEvent data =>
    data.callId = callId && (data.status = .ringing || data.status = .connected)
  | _ => false

namespace Origin

variable (o : Origin) (s : CallController)

/-- What was sent since the flow began. -/
def sent : List Request := s.sent.drop o.state.sent.length

/-- The call has ended since, or it was declined or hung up from here. -/
def Ended (callId : String) : Bool :=
  o.since.any (·.ends callId) || .decline callId ∈ o.sent s

/-- The call is nothing to be presented any more: it has ended, or it was answered from here. -/
def Over (callId : String) : Bool := o.Ended s callId || .answer callId ∈ o.sent s

/-- What is displayed was not when the flow began. -/
def Newer : Bool :=
  (s.call.isSome && s.activeId ≠ o.state.activeId) ||
    (s.incoming.isSome && s.incomingId ≠ o.state.incomingId)

/-- The server has named what is displayed since. -/
def Named : Bool :=
  s.activeId.any (fun callId => o.since.any (·.names callId)) ||
    s.incomingId.any (fun callId => o.since.any (·.names callId))

end Origin

/-- The controller, and the origins of its flows in their order. -/
structure Watch where
  now : CallController
  origins : List Origin

namespace Watch

def init : Watch := ⟨.init, []⟩

/-- The origins after an event that has led to `t`, those of the flows it started among them. -/
def seen (s : Watch) (event : WebEvent) (t : CallController) : List Origin :=
  s.origins.map (fun o => { o with since := o.since ++ [event] }) ++
    List.replicate (t.flows.length - s.now.flows.length) ⟨s.now, []⟩

def step (s : Watch) : WebEvent → Option Watch
  | .resume i reply =>
    s.now.flows[i]?.bind fun flow =>
      (s.now.proceed flow reply).map fun r =>
        let origins := s.seen (.resume i reply) r.1
        ⟨{ r.1 with flows := advance r.1.flows i r.2 },
          advance origins i (r.2.bind fun _ => origins[i]?)⟩
  | event => (webStep s.now event).map fun t => ⟨t, s.seen event t⟩

theorem step_of_ne (s : Watch) {event : WebEvent} (h : ∀ i reply, event ≠ .resume i reply) :
    s.step event = (webStep s.now event).map fun t => ⟨t, s.seen event t⟩ := by
  cases event with
  | resume i reply => exact absurd rfl (h i reply)
  | _ => rfl

theorem map_now (next : Option CallController) (origins : CallController → List Origin) :
    (next.map fun t => (⟨t, origins t⟩ : Watch)).map (·.now) = next := by
  cases next <;> rfl

/-- The watch takes no part. -/
theorem step_now (s : Watch) (event : WebEvent) :
    (s.step event).map (·.now) = webStep s.now event := by
  cases event with
  | resume i reply =>
    rw [step, webStep]
    cases s.now.flows[i]? with
    | none => rfl
    | some flow =>
      rw [Option.bind_some, Option.map_map]
      rfl
  | _ => rw [s.step_of_ne fun _ _ h => by cases h]; exact map_now _ (s.seen _)

end Watch

/-! ## Late continuations -/

namespace CallController

/-- The flow is behind: its call is not the active one any more, or what it was told is older than
what is displayed. -/
def Behind (o : Origin) (s : CallController) : WebFlow → WebReply → Bool
  | .make .., .made (some callId) _ _ => o.Newer s && o.Ended s callId
  | .make .., _ => o.Newer s
  | .hangup callId, _ => s.displays && s.activeId ≠ some callId
  | .reconcile, _ => o.Newer s || o.Named s
  | .createOffer k _ callId _, _ | .answer k callId, _ | .exchangeOffer k callId _, _
  | .applyAnswer k callId _ _, _ =>
    s.displays && !(s.client = some k && s.activeId = some callId)

/-- What is displayed, its client and its timers are as before, and the client is given no answer. -/
structure Kept (s : CallController) (r : CallController × Option WebFlow) : Prop where
  phase : r.1.phase = s.phase
  call : r.1.call = s.call
  incoming : r.1.incoming = s.incoming
  client : r.1.client = s.client
  clients : ∀ k, s.client = some k → r.1.clients k = s.clients k
  establishCap : r.1.establishCap = s.establishCap
  noAnswerTimer : r.1.noAnswerTimer = s.noAnswerTimer
  ringtone : r.1.ringtone = s.ringtone
  ringback : r.1.ringback = s.ringback
  answer : ∀ k callId direction loopback,
    r.2 = some (.applyAnswer k callId direction loopback) → s.client ≠ some k

/-- The list has what is displayed. -/
def listed (s : CallController) (calls : List ListedActive) : Bool :=
  s.call.all (fun call => calls.any (·.callId = call.callId)) &&
    s.incoming.all (fun incoming => calls.any (·.callId = incoming.callId))

/-- The ways on that look at what is displayed, or change nothing. -/
def Spares (s : CallController) : WebFlow → WebReply → Bool
  | .createOffer k .getUserMedia _ _, .ok =>
    !(s.clients k).subscribed || s.client.isNone || s.phase = .connecting || s.phase = .ringing ||
      s.phase = .connected
  | .createOffer _ .localDescription _ _, .ok => true
  | .answer _ callId, .ok => s.establishCap = some callId
  | .applyAnswer _ callId direction _, .ok => direction = .inbound || s.activeId ≠ some callId
  | .reconcile, .fails | .reconcile, .refused .. => true
  | .reconcile, .calls calls => s.listed calls
  | _, _ => false

/-- The first call that the list has to offer, if the list does not have what is displayed. -/
def offered (s : CallController) (calls : List ListedActive) : Option ListedActive :=
  if s.displays && s.listed calls then none
  else calls.find? fun call => call.status = .ringing && call.callId ∉ s.heldElsewhere

/-- A late list offers nothing that is over. -/
def Fresh (o : Origin) (s : CallController) : WebFlow → WebReply → Bool
  | .reconcile, .calls calls => (s.offered calls).all fun call => !o.Over s call.callId
  | _, _ => true

/-! ## Clients and calls -/

/-- A client belongs to the call of its flows. -/
structure Paired (s : CallController) : Prop where
  created : ∀ k, s.client = some k → k < s.created
  call : s.client.isSome = true → s.call.isSome = true
  attempts : ∀ flow ∈ s.flows, ∀ k callId, flow.attempt = some (k, callId) →
    k < s.created ∧ (s.client = some k → s.activeId = some callId)

theorem paired_init : init.Paired := ⟨nofun, nofun, nofun⟩

theorem Leaves.paired {s t : CallController} (h : s.Leaves t) (hs : s.Paired) : t.Paired where
  created k hk := by
    obtain hnone | ⟨hclient, -⟩ := h.session
    · rw [hnone] at hk; cases hk
    · rw [h.created]
      exact hs.created k (hclient ▸ hk)
  call hsome := by
    obtain hnone | ⟨hclient, hcall, -⟩ := h.session
    · rw [hnone] at hsome; cases hsome
    · rw [hcall]
      exact hs.call (hclient ▸ hsome)
  attempts flow hflow k callId hattempt := by
    obtain ⟨hk, hactive⟩ := hs.attempts flow (h.flows ▸ hflow) k callId hattempt
    refine ⟨by rw [h.created]; exact hk, fun hclient' => ?_⟩
    obtain hnone | ⟨hclient, hcall, -⟩ := h.session
    · rw [hnone] at hclient'; cases hclient'
    · rw [activeId, hcall]
      exact hactive (hclient ▸ hclient')

/-- Other flows, all of which are known or belong to the active call. -/
theorem Paired.flows {s : CallController} (h : s.Paired) (flows : List WebFlow)
    (hflows : ∀ flow ∈ flows, flow ∈ s.flows ∨ ∀ k callId, flow.attempt = some (k, callId) →
      k < s.created ∧ (s.client = some k → s.activeId = some callId)) :
    Paired { s with flows } where
  created := h.created
  call := h.call
  attempts flow hflow k callId hattempt :=
    (hflows flow hflow).elim (fun hmem => h.attempts flow hmem k callId hattempt)
      fun hpair => hpair k callId hattempt

theorem Paired.start {s : CallController} (h : s.Paired) {flow : WebFlow}
    (hflow : flow.attempt = none) : (s.start flow).Paired :=
  h.flows _ fun other hother => (List.mem_append.mp hother).imp_right fun heq k callId hattempt => by
    rw [List.mem_singleton.mp heq, hflow] at hattempt
    cases hattempt

/-- A new session has a client of its own, for the active call. -/
theorem Paired.openSession {s : CallController} (hflows : ∀ flow ∈ s.flows, ∀ k callId,
    flow.attempt = some (k, callId) → k < s.created) {call : CallMetadata}
    (hcall : s.call = some call) (direction : Direction) :
    (s.openSession call.callId direction).Paired := by
  have hheld : Paired { s with
      created := s.created + 1
      clients := Function.update s.clients s.created .new
      client := some s.created } := by
    refine ⟨fun k hk => ?_, fun _ => ?_, fun flow hflow k callId hattempt => ?_⟩
    · cases hk
      exact Nat.lt_succ_self _
    · exact Option.isSome_iff_exists.mpr ⟨call, hcall⟩
    · have hk := hflows flow hflow k callId hattempt
      exact ⟨Nat.lt_succ_of_lt hk, fun hclient => by cases hclient; exact absurd hk (Nat.lt_irrefl _)⟩
  have hleaves := leaves_applyWebRtcState { s with
      created := s.created + 1
      clients := Function.update s.clients s.created .new
      client := some s.created } .disconnected
  have hpaired := hleaves.paired hheld
  refine ⟨hpaired.created, hpaired.call, fun flow hflow k callId hattempt => ?_⟩
  obtain hold | hnew := List.mem_append.mp hflow
  · exact hpaired.attempts flow hold k callId hattempt
  · rw [List.mem_singleton.mp hnew] at hattempt
    cases hattempt
    refine ⟨hleaves.created.symm ▸ Nat.lt_succ_self _, fun hclient => ?_⟩
    obtain hnone | ⟨-, hsame, -⟩ := hleaves.session
    · exact absurd (hnone.symm.trans hclient) nofun
    · exact congrArg (Option.map _) (hsame.trans hcall)

/-! ## The ways on -/

theorem Behind.displays {o : Origin} {s : CallController} {flow : WebFlow} {reply : WebReply}
    (h : Behind o s flow reply = true) : s.displays = true := by
  have hnewer : o.Newer s = true → s.displays = true := by
    simp only [Origin.Newer, CallController.displays, Bool.or_eq_true, Bool.and_eq_true]
    exact fun h => h.imp (·.1) (·.1)
  have hnamed : o.Named s = true → s.displays = true := by
    simp only [Origin.Named, CallController.displays, activeId, incomingId]
    cases s.call <;> cases s.incoming <;> simp
  revert h
  fun_cases Behind o s flow reply
  case case1 => exact fun h => hnewer (Bool.and_eq_true_iff.mp h).1
  case case2 => exact hnewer
  case case4 => exact fun h => (Bool.or_eq_true_iff.mp h).elim hnewer hnamed
  all_goals exact fun h => (Bool.and_eq_true_iff.mp h).1

/-- Messages, requests and other clients are no part of it. -/
theorem kept_store {s : CallController} {clients : Nat → WebRtcClient}
    (hclients : ∀ k, s.client = some k → clients k = s.clients k) {next : Option WebFlow}
    (hnext : ∀ k callId direction loopback, next ≠ some (.applyAnswer k callId direction loopback))
    (warning : Option String) (sent : List Request) :
    Kept s ({ s with clients, warning, sent }, next) where
  phase := rfl
  call := rfl
  incoming := rfl
  client := rfl
  clients := hclients
  establishCap := rfl
  noAnswerTimer := rfl
  ringtone := rfl
  ringback := rfl
  answer k callId direction loopback heq := absurd heq (hnext k callId direction loopback)

/-- Nothing comes of a client that begins to connect while another call has come as far. -/
theorem applyWebRtcState_connecting_self {s : CallController} (h : s.client = none ∨
    s.phase = .connecting ∨ s.phase = .ringing ∨ s.phase = .connected) :
    s.applyWebRtcState .connecting = s := by
  obtain hnone | hphase | hphase | hphase := h
  · simp [applyWebRtcState, hnone]
  · simp [applyWebRtcState, setPhase, hphase]
  · simp [applyWebRtcState, hphase]
  · simp [applyWebRtcState, hphase]

theorem micGranted_clients {s : CallController} {k : Nat}
    (hspares : (s.clients k).subscribed = false ∨ s.client = none ∨ s.phase = .connecting ∨
      s.phase = .ringing ∨ s.phase = .connected) :
    ∃ clients, s.micGranted k = { s with clients } ∧ ∀ j, j ≠ k → clients j = s.clients j := by
  have hset : (s.updateClient k ({ · with localTrack := true })).setClientState k .connecting =
      (s.updateClient k ({ · with localTrack := true })).updateClient k
        ({ · with state := .connecting }) := by
    rw [setClientState]
    split
    · next hsubscribed =>
      refine applyWebRtcState_connecting_self (hspares.resolve_left fun hnot => ?_)
      simp [hnot] at hsubscribed
    · rfl
  refine ⟨_, by rw [micGranted, hset]; rfl, fun j hj => ?_⟩
  simp [updateClient, hj]

theorem enterRinging_other {s : CallController} {callId : String} (h : s.activeId ≠ some callId) :
    s.enterRinging callId = s := by
  have hother : s.call.any (fun call => call.callId = callId && call.direction = .outbound) = false := by
    cases hcall : s.call with
    | none => rfl
    | some call =>
      have hid : call.callId ≠ callId := fun heq => h (by rw [activeId, hcall, ← heq]; rfl)
      simp [hid]
  rw [enterRinging, hother, Bool.false_and, if_neg Bool.false_ne_true]

theorem reconciled_listed {s : CallController} {calls : List ListedActive}
    (hlisted : s.listed calls = true) (hdisplays : s.displays = true) : s.reconciled calls = s := by
  obtain ⟨hcall, hincoming⟩ := Bool.and_eq_true_iff.mp hlisted
  have hcall' : s.call.any (fun call => !calls.any (·.callId = call.callId)) = false := by
    cases hactive : s.call with
    | none => rfl
    | some call => simpa [hactive] using hcall
  have hincoming' : s.incoming.any (fun incoming => !calls.any (·.callId = incoming.callId)) = false := by
    cases hpresented : s.incoming with
    | none => rfl
    | some incoming => simpa [hpresented] using hincoming
  have hbusy : (s.phase = .idle && s.call.isNone && s.incoming.isNone) = false := by
    revert hdisplays
    rw [displays]
    cases s.call <;> cases s.incoming <;> simp
  simp only [reconciled, hcall', hincoming', Bool.false_eq_true, if_false, hbusy]

/-- **The ways on that spare what is displayed.** -/
theorem Spares.kept {o : Origin} {s : CallController} {flow : WebFlow} {reply : WebReply}
    {r : CallController × Option WebFlow} (hspares : Spares s flow reply = true)
    (hattempt : ∀ k callId, flow.attempt = some (k, callId) → s.client = some k →
      s.activeId = some callId)
    (hbehind : Behind o s flow reply = true) (hr : s.proceed flow reply = some r) : Kept s r := by
  have hdisplays := Behind.displays hbehind
  revert hspares hr
  fun_cases Spares s flow reply
  case case1 k callId direction =>
    intro hspares hr
    cases hr
    have hk : s.client ≠ some k := by
      intro hclient
      simp [Behind, hclient, hattempt k callId rfl hclient] at hbehind
    have hheard : (s.clients k).subscribed = false ∨ s.client = none ∨ s.phase = .connecting ∨
        s.phase = .ringing ∨ s.phase = .connected := by
      simpa [or_assoc] using hspares
    obtain ⟨clients, hgranted, hclients⟩ := micGranted_clients hheard
    rw [hgranted]
    exact kept_store (fun j hj => hclients j fun heq => hk (heq ▸ hj))
      (fun _ _ _ _ heq => by cases heq) _ _
  case case2 k callId direction =>
    intro _ hr
    cases direction <;> cases hr <;> exact kept_store (fun _ _ => rfl) (fun _ _ _ _ heq => by cases heq) _ _
  case case3 k callId =>
    intro hcap hr
    cases hr
    rw [← of_decide_eq_true hcap]
    exact kept_store (fun _ _ => rfl) (fun _ _ _ _ heq => by cases heq) _ _
  case case4 k callId direction loopback =>
    intro hspares hr
    cases hr
    have hsame : (if direction = .outbound then enterRinging (if loopback then
        { s with warning := some "loopback-ice-candidate" } else s) callId else
        if loopback then { s with warning := some "loopback-ice-candidate" } else s) =
        if loopback then { s with warning := some "loopback-ice-candidate" } else s := by
      split
      · next houtbound =>
        refine enterRinging_other ?_
        simp only [houtbound, Bool.or_eq_true, decide_eq_true_eq] at hspares
        have hother := hspares.resolve_left nofun
        split <;> exact hother
      · rfl
    rw [hsame]
    split
    · exact kept_store (fun _ _ => rfl) (fun _ _ _ _ heq => by cases heq) _ _
    · exact kept_store (fun _ _ => rfl) (fun _ _ _ _ heq => by cases heq) _ _
  case case5 => intro _ hr; cases hr; exact kept_store (fun _ _ => rfl) (fun _ _ _ _ heq => by cases heq) _ _
  case case6 => intro _ hr; cases hr; exact kept_store (fun _ _ => rfl) (fun _ _ _ _ heq => by cases heq) _ _
  case case7 calls =>
    intro hlisted hr
    cases hr
    rw [reconciled_listed hlisted hdisplays]
    exact kept_store (fun _ _ => rfl) (fun _ _ _ _ heq => by cases heq) _ _
  case case8 => exact fun hspares => absurd hspares Bool.false_ne_true

/-- What a list presents, it has offered. -/
theorem reconciled_presents {s : CallController} {calls : List ListedActive}
    {incoming : CallMetadata} (h : (s.reconciled calls).incoming = some incoming) :
    s.incoming = some incoming ∨ ∃ call, s.offered calls = some call ∧
      call.callId = incoming.callId := by
  by_cases hshown : (s.displays && s.listed calls) = true
  · obtain ⟨hdisplays, hlisted⟩ := Bool.and_eq_true_iff.mp hshown
    exact .inl (reconciled_listed hlisted hdisplays ▸ h)
  have hoffered : s.offered calls = calls.find? fun call =>
      call.status = .ringing && call.callId ∉ s.heldElsewhere := if_neg hshown
  unfold reconciled at h
  extract_lets byId s₁ s₂ at h
  have hheld : s₂.heldElsewhere = s.heldElsewhere := by
    dsimp only [s₂, s₁]
    split_ifs <;> rfl
  have hincoming : s₂.incoming = some incoming → s.incoming = some incoming := by
    dsimp only [s₂, s₁]
    split_ifs <;> simp [resetToIdle]
  split at h
  · rw [hheld, ← hoffered] at h
    split at h
    · next call hfound =>
      cases h
      exact .inr ⟨call, hfound, rfl⟩
    · exact .inl (hincoming h)
  · exact .inl (hincoming h)

/-! ## The run -/

/-- What a list presents is nothing that is over. -/
def Presents (o : Origin) (s : CallController) (t : CallController) : Prop :=
  ∀ incoming, t.incoming = some incoming → s.incoming ≠ some incoming →
    o.Over s incoming.callId = false

theorem Fresh.presents {o : Origin} {s : CallController} {calls : List ListedActive}
    (h : Fresh o s .reconcile (.calls calls) = true) : Presents o s (s.reconciled calls) := by
  intro incoming hpresented hnew
  obtain ⟨call, hoffered, hid⟩ := (reconciled_presents hpresented).resolve_left hnew
  rw [Fresh, hoffered, Option.all_some, hid] at h
  simpa using h

/-- The flow that goes on is that of the same attempt. -/
theorem proceed_attempt {o : Origin} {s : CallController} (h : s.Paired) {flow next : WebFlow}
    {reply : WebReply} {t : CallController} (hflow : flow ∈ s.flows)
    (hspares : Behind o s flow reply = true → Spares s flow reply = true)
    (hr : s.proceed flow reply = some (t, some next)) {k : Nat} {callId : String}
    (hattempt : next.attempt = some (k, callId)) :
      k < s.created ∧ (s.client = some k → s.activeId = some callId) := by
  have hown : next.attempt = flow.attempt → k < s.created ∧ (s.client = some k →
      s.activeId = some callId) := fun heq => h.attempts flow hflow k callId (heq ▸ hattempt)
  revert hr hspares
  fun_cases proceed s flow reply <;> intro hspares hr <;> cases hr
  case case6 => exact hown rfl
  case case8 => exact hown rfl
  case case9 => exact hown rfl
  case case12 => exact hown rfl
  case case17 j callId' direction loopback k' hclient hpc =>
    cases hattempt
    refine ⟨h.created k hclient, fun _ => ?_⟩
    have hactive : s.call.isSome = true := h.call (by rw [hclient]; rfl)
    -- Otherwise the answer would be for a client of another call.
    by_contra hother
    have hbehind : Behind o s (.exchangeOffer j callId direction) (.sdpAnswer (some loopback)) =
        true := by
      simp [Behind, CallController.displays, hactive, hother]
    exact absurd (hspares hbehind) Bool.false_ne_true

end CallController

open CallController

namespace Watch

/-- A late continuation takes a way that spares what is displayed, and a late list is fresh. -/
def Spared (s : Watch) : WebEvent → Prop
  | .resume i reply => ∀ flow ∈ s.now.flows[i]?, ∀ o ∈ s.origins[i]?,
      (Behind o s.now flow reply = true → Spares s.now flow reply = true) ∧
        Fresh o s.now flow reply = true
  | _ => True

instance (s : Watch) : (event : WebEvent) → Decidable (s.Spared event)
  | .resume i reply =>
    inferInstanceAs (Decidable (∀ flow ∈ s.now.flows[i]?, ∀ o ∈ s.origins[i]?,
      (Behind o s.now flow reply = true → Spares s.now flow reply = true) ∧
        Fresh o s.now flow reply = true))
  | .placeCall .. | .answer _ | .decline _ | .hangup | .callEvent _ | .callCancelled .. | .reconcile
  | .wsDisconnected | .transport .. | .noAnswerExpires | .establishCapExpires => .isTrue trivial

/-- Every flow has its origin, and clients belong to their calls. -/
structure Tied (s : Watch) : Prop where
  paired : s.now.Paired
  origins : s.origins.length = s.now.flows.length

theorem tied_init : init.Tied := ⟨paired_init, rfl⟩

theorem Tied.seen {s : Watch} (h : s.Tied) (event : WebEvent) {t : CallController}
    (ht : ∃ started, t.flows = s.now.flows ++ started) :
    (s.seen event t).length = t.flows.length := by
  obtain ⟨started, hstarted⟩ := ht
  rw [Watch.seen, List.length_append, List.length_map, List.length_replicate, h.origins, hstarted,
    List.length_append, Nat.add_sub_cancel_left]

/-- The origin of a flow. -/
theorem Tied.origin {s : Watch} (h : s.Tied) {i : Nat} {flow : WebFlow}
    (hflow : s.now.flows[i]? = some flow) : ∃ o, s.origins[i]? = some o := by
  have hlt : i < s.origins.length := h.origins ▸ (List.getElem?_eq_some_iff.mp hflow).1
  exact ⟨_, List.getElem?_eq_getElem hlt⟩

/-- What a continuation is, in the watch. -/
theorem step_resume {s t : Watch} {i : Nat} {reply : WebReply}
    (h : s.step (.resume i reply) = some t) : ∃ flow r, s.now.flows[i]? = some flow ∧
      s.now.proceed flow reply = some r ∧
      t = ⟨{ r.1 with flows := advance r.1.flows i r.2 }, advance (s.seen (.resume i reply) r.1) i
        (r.2.bind fun _ => (s.seen (.resume i reply) r.1)[i]?)⟩ := by
  obtain ⟨flow, hflow, hrest⟩ := Option.bind_eq_some_iff.mp h
  obtain ⟨r, hr, rfl⟩ := Option.map_eq_some_iff.mp hrest
  exact ⟨flow, r, hflow, hr, rfl⟩

theorem Tied.callMade {s : CallController} (h : s.Paired) (callId peerNumber fromNumber : String) :
    (s.callMade callId peerNumber fromNumber).Paired :=
  Paired.openSession (s := { s with
    call := some ⟨callId, .outbound, some peerNumber, some fromNumber⟩
    incoming := none, error := none })
    (fun flow hflow k id hattempt => (h.attempts flow hflow k id hattempt).1) rfl .outbound

/-- **One event.** -/
theorem Tied.step {s t : Watch} (h : s.Tied) {event : WebEvent} (hguard : s.Spared event)
    (hstep : s.step event = some t) : t.Tied := by
  by_cases hresume : ∃ i reply, event = .resume i reply
  · obtain ⟨i, reply, rfl⟩ := hresume
    obtain ⟨flow, r, hflow, hr, rfl⟩ := step_resume hstep
    obtain ⟨o, ho⟩ := h.origin hflow
    have hspares := (hguard flow hflow o ho).1
    have hseen := h.seen (.resume i reply) (proceed_flows hr)
    have hlt : i < (s.seen (.resume i reply) r.1).length := by
      obtain ⟨started, hstarted⟩ := proceed_flows hr
      rw [hseen, hstarted, List.length_append]
      exact Nat.lt_add_right _ (List.getElem?_eq_some_iff.mp hflow).1
    refine ⟨?_, length_advance hseen i ?_⟩
    · obtain hleaves | ⟨fromNumber, toNumber, callId, to', from', -, -, rfl⟩ := proceed_leaves hr
      · refine (hleaves.paired h.paired).flows _ fun next hnext => (mem_advance hnext).imp_right ?_
        intro hgoes k callId hattempt
        obtain ⟨u, goes⟩ := r
        cases hgoes
        obtain ⟨hk, hactive⟩ := proceed_attempt h.paired (List.mem_of_getElem? hflow) hspares hr hattempt
        refine ⟨hleaves.created.symm ▸ hk, fun hclient' => ?_⟩
        obtain hnone | ⟨hclient, hcall, -⟩ := hleaves.session
        · exact absurd (hnone.symm.trans hclient') nofun
        · rw [activeId, hcall]
          exact hactive (hclient ▸ hclient')
      · exact (Tied.callMade h.paired ..).flows _ fun next hnext =>
          (mem_advance hnext).imp_right fun hgoes => by cases hgoes
    · rw [List.getElem?_eq_getElem hlt]
      cases r.2 <;> rfl
  · have hne : ∀ i reply, event ≠ .resume i reply := fun i reply heq => hresume ⟨i, reply, heq⟩
    rw [s.step_of_ne hne] at hstep
    obtain ⟨u, hu, rfl⟩ := Option.map_eq_some_iff.mp hstep
    obtain hleaves | ⟨v, flow, hleaves, hflow, -, rfl⟩ |
        ⟨v, call, hflows, hcreated, -, -, hcall, rfl⟩ :=
      webStep_leaves hne hu
    · exact ⟨hleaves.paired h.paired, h.seen event ⟨[], by rw [hleaves.flows, List.append_nil]⟩⟩
    · refine ⟨(hleaves.paired h.paired).start hflow, h.seen event ⟨[flow], ?_⟩⟩
      rw [CallController.start, hleaves.flows]
    · refine ⟨Paired.openSession (fun flow hflow k callId hattempt => ?_) hcall .inbound,
        h.seen event ⟨_, (openSession_flows ..).trans (by rw [hflows])⟩⟩
      rw [hcreated]
      exact (h.paired.attempts flow (hflows ▸ hflow) k callId hattempt).1

end Watch

/-- What a late continuation does not touch, in the state it meets. -/
def LateFlowsKeep (s : Watch) (i : Nat) (reply : WebReply) : Prop :=
  ∀ flow ∈ s.now.flows[i]?, ∀ o ∈ s.origins[i]?, ∀ r ∈ s.now.proceed flow reply,
    (Behind o s.now flow reply = true → Kept s.now r) ∧
      (flow = .reconcile → Presents o s.now r.1)

/-- **Late flows.** In a run that is spared, every continuation whose call has ended, or whose list is
older than what is displayed, keeps what is displayed, and no list presents what is over. -/
theorem late_flows_keep {events : List WebEvent} {i : Nat} {reply : WebReply} {s : Watch}
    (hguard : Guarded Watch.step Watch.Spared .init (events ++ [.resume i reply]))
    (hrun : exec Watch.step .init events = some s) : LateFlowsKeep s i reply := by
  intro flow hflow o ho r hr
  have htied : s.Tied := hguard.of_append.1.invariant (I := Watch.Tied)
    (fun _ _ _ h hg hstep => h.step hg hstep) Watch.tied_init hrun
  obtain ⟨hspares, hfresh⟩ := (hguard.of_append.2 s hrun).1 flow hflow o ho
  refine ⟨fun hbehind => Spares.kept (hspares hbehind) (fun k callId hattempt =>
    (htied.paired.attempts flow (List.mem_of_getElem? hflow) k callId hattempt).2) hbehind hr, ?_⟩
  rintro rfl
  cases reply with
  | calls calls =>
    cases hr
    exact Fresh.presents hfresh
  | fails | refused => cases hr; exact fun incoming hold hnew => absurd hold hnew
  | _ => cases hr

/-- Call c is cancelled and d is presented before the SDP answer for c is applied. -/
theorem late_flows_keep_applyAnswer : ∃ s, exec Watch.step .init
    [.answer "c", .resume 0 .ok, .resume 0 .ok, .resume 0 .ok, .resume 0 (.sdpAnswer (some false)),
      .callCancelled "c" .callerDisconnect, .callEvent ⟨"d", .ringing, some .inbound, none, none⟩] =
        some s ∧
    s.now.flows = [.applyAnswer 0 "c" .inbound false] ∧ LateFlowsKeep s 0 .ok := by
  have hguard : Guarded Watch.step Watch.Spared .init ([.answer "c", .resume 0 .ok, .resume 0 .ok,
      .resume 0 .ok, .resume 0 (.sdpAnswer (some false)), .callCancelled "c" .callerDisconnect,
      .callEvent ⟨"d", .ringing, some .inbound, none, none⟩] ++ [.resume 0 .ok]) := by decide
  exact ⟨_, rfl, rfl, late_flows_keep hguard rfl⟩

/-- Call c is cancelled and d is presented before the microphone is denied for c: d is gone. -/
theorem late_failure_ends_call : ¬ ∀ events s i reply,
    exec Watch.step .init events = some s → LateFlowsKeep s i reply := by
  intro h
  have hkeep := h [.answer "c", .callCancelled "c" .callerDisconnect,
    .callEvent ⟨"d", .ringing, some .inbound, none, none⟩] _ 0 (.micFails .micDenied) rfl _ rfl _ rfl
    _ rfl
  exact absurd (hkeep.1 (by decide)).incoming (by decide)

/-- The user declines d while a list is under way that still has it: d is presented again. -/
theorem list_presents_declined : ¬ ∀ events s i reply,
    exec Watch.step .init events = some s → LateFlowsKeep s i reply := by
  intro h
  have hkeep := h [.callEvent ⟨"d", .ringing, some .inbound, none, none⟩, .reconcile,
    .decline "d"] _ 0 (.calls [⟨"d", .ringing, none⟩]) rfl _ rfl _ rfl _ rfl
  exact absurd (hkeep.2 rfl _ rfl (by decide)) (by decide)

end Svarla.Web
