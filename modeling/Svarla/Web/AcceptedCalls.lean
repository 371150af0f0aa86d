import Mathlib
import Svarla.Web.CallController

/-!
# Calls that the server has accepted

Once the server has accepted an answer or made a call for the tab, the tab must not leave the call
without a word. It has an open session for it, it has sent a decline, or the server has said itself
that the call is over (`Accounted`). The timers, the hang-up and a microphone that is denied to an
answer send a decline; the other ways out of a session do not (`silent`), so a call whose media fails
is left connected on the server (`left_after_media_failure`). In a run that takes none of them with an
accepted call, every accepted call is accounted for (`accepted_accounted`).

Whether the server has accepted a request that the tab gave up, and whether a call that is missing in
a list has ended, only the server knows. A run says it with the event (`Fact`).
-/

namespace Svarla.Web

open Svarla.Lib Svarla.Calls

/-! ## The server's part -/

/-- What the server knows about a reply. -/
inductive Fact
  | none
  /-- It has accepted the answer of the call, or made it, on this request. -/
  | accepted (callId : String)
  /-- These calls are not in its list because they have ended. -/
  | ended (callIds : List String)
  deriving DecidableEq, Repr

namespace Fact

def acceptedIds : Fact → List String
  | accepted callId => [callId]
  | none | ended _ => []

def endedIds : Fact → List String
  | ended callIds => callIds
  | none | accepted _ => []

/-- A success says that the server has accepted; after anything else it may have. -/
def fits (fact : Fact) : WebFlow → WebReply → Bool
  | .answer _ callId, .ok => fact = accepted callId
  | .answer _ callId, _ => fact = none || fact = accepted callId
  | .make .., .made (some callId) _ _ => fact = accepted callId
  | .make .., _ => fact.endedIds = []
  | .reconcile, .calls calls =>
    fact.acceptedIds = [] && fact.endedIds.all fun callId => !calls.any (·.callId = callId)
  | _, _ => fact = none

end Fact

/-- An event of the tab. -/
structure TabEvent where
  event : WebEvent
  fact : Fact
  deriving DecidableEq, Repr

/-- The calls that an event of the server says are over. -/
def WebEvent.over : WebEvent → List String
  | .callEvent data => if CallController.isTerminal data.status then [data.callId] else []
  | .callCancelled callId _ => [callId]
  | _ => []

structure Tab where
  now : CallController
  /-- The calls that the server has accepted from the tab. -/
  accepted : List String
  /-- The calls that the server has told the tab are over. -/
  reported : List String

namespace Tab

def init : Tab := ⟨.init, [], []⟩

def fits (s : Tab) (e : TabEvent) : Bool :=
  match e.event with
  | .resume i reply => s.now.flows[i]?.any (e.fact.fits · reply)
  | _ => e.fact = .none

def step (s : Tab) (e : TabEvent) : Option Tab :=
  if s.fits e then
    (webStep s.now e.event).map fun t =>
      ⟨t, s.accepted ++ e.fact.acceptedIds, s.reported ++ (e.event.over ++ e.fact.endedIds)⟩
  else none

end Tab

namespace CallController

/-- The controller has an open session for the call. -/
def SessionFor (s : CallController) (callId : String) : Prop :=
  s.activeId = some callId ∧ ∃ k, s.client = some k ∧ (s.clients k).closed = false

/-- The controller waits for nothing. -/
structure Settled (s : CallController) : Prop where
  flows : s.flows = []
  establishCap : s.establishCap = none
  noAnswerTimer : s.noAnswerTimer = none

end CallController

open CallController

/-- Somebody knows how it stands with the call. -/
def Tab.Accounted (s : Tab) (callId : String) : Prop :=
  s.now.SessionFor callId ∨ .decline callId ∈ s.now.sent ∨ callId ∈ s.reported

/-- No call that the server has accepted is left. -/
def NeverSilent (s : Tab) : Prop :=
  s.now.Settled → ∀ callId ∈ s.accepted, s.Accounted callId

/-! ## The ways out without a word -/

namespace CallController

/-- The reply leads out of the session for the call, or to one for another call, and no decline for the
call is sent. -/
def silentReply (s : CallController) (callId : String) (fact : Fact) : WebFlow → WebReply → Bool
  | .make .., .made (some other) _ _ => other ≠ callId
  | .make .., _ => true
  | .createOffer .., .ok => false
  | .createOffer _ _ other direction, _ => direction = .outbound || other ≠ callId
  | .exchangeOffer .., .sdpAnswer (some _) => !s.client.any fun k => (s.clients k).pc
  | .exchangeOffer .., _ => true
  | .answer .., .ok | .applyAnswer .., .ok => false
  | .answer .., _ | .applyAnswer .., _ => true
  | .hangup other, _ => other ≠ callId
  | .reconcile, .calls calls => !calls.any (·.callId = callId) && callId ∉ fact.endedIds
  | .reconcile, _ => false

/-- The event leads out of the session for the call, or to one for another call, and no decline for the
call is sent. -/
def silent (s : CallController) (callId : String) (e : TabEvent) : Bool :=
  match e.event with
  | .answer other => !s.isBusy && other ≠ callId
  | .wsDisconnected =>
    s.phase = .connecting || s.phase = .ringing || (s.phase ≠ .connected && s.incoming.isSome)
  | .transport k (.failed _) => (s.clients k).subscribed
  | .resume i reply => s.flows[i]?.any (s.silentReply callId e.fact · reply)
  | _ => false

/-- The call that the server has accepted with the reply has a session. -/
def lands (s : CallController) (callId : String) : WebEvent → Bool
  | .resume _ (.made (some _) _ _) => true
  | .resume _ .ok => s.activeId = some callId && s.client.isSome
  | _ => false

end CallController

namespace Tab

/-- The call is accounted for without a session. -/
def told (s : Tab) (callId : String) : Bool :=
  .decline callId ∈ s.now.sent || callId ∈ s.reported

/-- An accepted call is not left without a word, and a call is accepted for a session. -/
def Speaks (s : Tab) (e : TabEvent) : Prop :=
  (∀ callId ∈ s.accepted, s.told callId = true ∨ s.now.silent callId e = false) ∧
    ∀ callId ∈ e.fact.acceptedIds, s.told callId = true ∨ s.now.lands callId e.event = true

instance (s : Tab) (e : TabEvent) : Decidable (s.Speaks e) := inferInstanceAs (Decidable (_ ∧ _))

end Tab

/-! ## Sessions that go on -/

namespace CallController

variable {s t : CallController} {callId : String}

/-- A session goes on while its client is held. -/
theorem SessionFor.goesOn (h : s.SessionFor callId) (hleaves : s.Leaves t)
    (hclient : t.client = s.client) : t.SessionFor callId := by
  obtain ⟨hactive, k, hk, hopen⟩ := h
  obtain hnone | ⟨-, hcall, hclosed⟩ := hleaves.session
  · rw [hclient, hk] at hnone
    cases hnone
  · exact ⟨by rw [activeId, hcall]; exact hactive, k, hclient.trans hk, (hclosed k).trans hopen⟩

theorem SessionFor.call (h : s.SessionFor callId) : s.call.isSome = true := by
  have hactive := h.1
  rw [activeId, Option.map_eq_some_iff] at hactive
  exact Option.isSome_iff_exists.mpr (hactive.imp fun _ hcall => hcall.1)

/-- The call of the session, as events and flows are compared with it. -/
theorem SessionFor.any_call (h : s.SessionFor callId) (other : String) :
    s.call.any (·.callId = other) = decide (callId = other) := by
  have hactive := h.1
  rw [activeId, Option.map_eq_some_iff] at hactive
  obtain ⟨call, hcall, rfl⟩ := hactive
  rw [hcall, Option.any_some]

theorem setPhase_client (hcall : s.call.isSome = true) {phase : CallPhase}
    (hphase : phase = .connecting ∨ phase = .ringing ∨ phase = .connected) :
    (s.setPhase phase).client = s.client := by
  rw [setPhase_visible hcall hphase]

theorem setClientState_client (hcall : s.call.isSome = true) (k : Nat) {state : WebRtcState}
    (hstate : state = .connecting ∨ state = .connected) :
    (s.setClientState k state).client = s.client := by
  rw [setClientState]
  split
  · obtain rfl | rfl := hstate
    · unfold applyWebRtcState
      dsimp only
      split_ifs
      · rfl
      · rfl
      · exact setPhase_client (s := s.updateClient k _) hcall (.inl rfl)
    · unfold applyWebRtcState
      dsimp only
      split_ifs
      · rfl
      · exact setPhase_client (s := { s.updateClient k _ with
          establishCap := none, noAnswerTimer := none, ringback := false }) hcall (.inr (.inr rfl))
  · rfl

theorem micGranted_client (hcall : s.call.isSome = true) (k : Nat) :
    (s.micGranted k).client = s.client :=
  setClientState_client (s := s.updateClient k ({ · with localTrack := true })) hcall k (.inl rfl)

theorem enterRinging_client (hcall : s.call.isSome = true) (other : String) :
    (s.enterRinging other).client = s.client := by
  rw [enterRinging]
  split
  · exact setPhase_client hcall (.inr (.inl rfl))
  · rfl

theorem reconciled_client {calls : List ListedActive}
    (hlisted : s.call.all fun call => calls.any (·.callId = call.callId)) :
    (s.reconciled calls).client = s.client := by
  have hkept : s.call.any (fun call => !calls.any (·.callId = call.callId)) = false := by
    cases hactive : s.call with
    | none => rfl
    | some call => simpa [hactive] using hlisted
  simp only [reconciled, hkept, Bool.false_eq_true, if_false]
  split_ifs <;> (try split) <;> rfl

theorem onCallEvent_client (hcall : s.call.isSome = true) {data : CallEvent}
    (hother : ¬(s.call.any (·.callId = data.callId) = true ∧ isTerminal data.status = true)) :
    (s.onCallEvent data).client = s.client := by
  rw [onCallEvent]
  dsimp only
  split_ifs with hoffer hnot hterminal hends
  · rw [onOffer]
    split
    · rfl
    · split_ifs <;> rfl
  · rfl
  · rfl
  · exact absurd ⟨by simpa using hnot, hends⟩ hother
  · exact setPhase_client (s := { s with noAnswerTimer := none, ringback := false }) hcall
      (.inr (.inr rfl))
  · rfl
  · rfl

theorem onCallCancelled_client {other : String} (hother : s.call.any (·.callId = other) = false)
    (reason : CancelReason) : (s.onCallCancelled other reason).client = s.client := by
  unfold onCallCancelled
  extract_lets s₁ call s₂
  have hcall : call = s.call := by
    dsimp only [call, s₁]
    split <;> rfl
  rw [hcall, hother, if_neg Bool.false_ne_true]
  dsimp only [s₂, s₁]
  split_ifs <;> rfl

theorem onWsDisconnected_client (hquiet : (s.phase = .connecting || s.phase = .ringing ||
    (s.phase ≠ .connected && s.incoming.isSome) : Bool) = false) :
    s.onWsDisconnected.client = s.client := by
  rw [onWsDisconnected]
  split_ifs with hconnected hconnecting hincoming
  · rfl
  · simp only [Bool.or_eq_false_iff, decide_eq_false_iff_not] at hquiet
    exact absurd hconnecting (not_or.mpr hquiet.1)
  · simp [hconnected, hincoming] at hquiet
  · rfl

theorem setClientState_unheard {k : Nat} (hunheard : (s.clients k).subscribed = false)
    (state : WebRtcState) : (s.setClientState k state).client = s.client := by
  rw [setClientState]
  simp only [updateClient_clients_self, hunheard, Bool.false_eq_true, if_false]
  rfl

/-- A new session is for its call. -/
theorem sessionFor_openSession {call : CallMetadata} (hcall : s.call = some call)
    (hphase : s.phase ≠ .failed) (direction : Direction) :
    (s.openSession call.callId direction).SessionFor call.callId := by
  rw [openSession_eq hphase]
  exact ⟨congrArg (Option.map _) hcall, s.created, rfl, by simp [WebRtcClient.new]⟩

/-- A decline goes with every hang-up. -/
def HangupsSent (s : CallController) : Prop :=
  ∀ callId, .hangup callId ∈ s.flows → .decline callId ∈ s.sent

/-- An answer whose offer fails is declined. -/
theorem declined_offerFails (k : Nat) {other : String} {direction : Direction}
    (hdeclines : (direction = .outbound || other ≠ callId : Bool) = false) :
    .decline callId ∈ (s.offerFails k other direction).sent := by
  rw [Bool.or_eq_false_iff, decide_eq_false_iff_not, decide_eq_false_iff_not, not_not] at hdeclines
  obtain ⟨hdirection, rfl⟩ := hdeclines
  cases direction with
  | inbound => exact List.mem_append_right _ (List.mem_singleton.mpr rfl)
  | outbound => exact absurd rfl hdirection

/-- **A reply.** Unless it leads out without a word, the session goes on or a decline was sent. -/
theorem SessionFor.reply (h : s.SessionFor callId) (hphase : s.phase ≠ .failed)
    (hhangups : s.HangupsSent) {flow : WebFlow} {reply : WebReply} {fact : Fact}
    {r : CallController × Option WebFlow} (hflow : flow ∈ s.flows)
    (hsilent : s.silentReply callId fact flow reply = false) (hr : s.proceed flow reply = some r) :
    r.1.SessionFor callId ∨ .decline callId ∈ r.1.sent ∨ callId ∈ fact.endedIds := by
  revert hr hsilent
  fun_cases proceed s flow reply <;> intro hsilent hr <;> cases hr
  all_goals try cases hsilent
  case case4 fromNumber toNumber other to' from' =>
    have hother : other = callId := by simpa [silentReply] using hsilent
    subst hother
    exact .inl (sessionFor_openSession (s := { s with
      call := some ⟨other, .outbound, some (to'.getD toNumber), some (from'.getD fromNumber)⟩
      incoming := none, error := none }) rfl hphase .outbound)
  case case5 k other direction reason => exact .inr (.inl (declined_offerFails k hsilent))
  case case6 k other direction =>
    exact .inl (h.goesOn (s.leaves_micGranted k) (micGranted_client h.call k))
  case case7 k other direction => exact .inr (.inl (declined_offerFails k hsilent))
  case case8 | case9 | case12 => exact .inl (h.goesOn (s.leaves_send ..) rfl)
  case case16 hclient => simp [silentReply, hclient] at hsilent
  case case17 => exact .inl h
  case case18 k hclient hpc => simp [silentReply, hclient, hpc] at hsilent
  case case20 k other direction loopback warned =>
    have hleaves := (proceed_leaves (show s.proceed (.applyAnswer k other direction loopback) .ok =
      some _ from rfl)).resolve_right (by rintro ⟨_, _, _, _, _, hmake, -⟩; cases hmake)
    have hwarned : warned.call = s.call ∧ warned.client = s.client := by
      dsimp only [warned]
      split <;> exact ⟨rfl, rfl⟩
    refine .inl (h.goesOn hleaves ?_)
    dsimp only
    split
    · exact (enterRinging_client (hwarned.1 ▸ h.call) other).trans hwarned.2
    · exact hwarned.2
  case case21 other | case22 other _ _ | case23 other =>
    have hother : other = callId := by simpa [silentReply] using hsilent
    subst hother
    exact .inr (.inl (hhangups other hflow))
  case case24 | case25 => exact .inl h
  case case26 calls =>
    rw [silentReply, Bool.and_eq_false_iff] at hsilent
    obtain hlisted | hended := hsilent
    · refine .inl (h.goesOn (s.leaves_reconciled calls) (reconciled_client ?_))
      have hactive := h.1
      rw [activeId, Option.map_eq_some_iff] at hactive
      obtain ⟨call, hcall, rfl⟩ := hactive
      simpa [hcall] using hlisted
    · exact .inr (.inr (by simpa using hended))

/-- **An event.** Unless it leads out without a word, the session goes on, a decline was sent, or the
server has said that the call is over. -/
theorem SessionFor.event (h : s.SessionFor callId) (hphase : s.phase ≠ .failed)
    (hhangups : s.HangupsSent) {e : TabEvent} (hsilent : s.silent callId e = false)
    (hstep : webStep s e.event = some t) :
    t.SessionFor callId ∨ .decline callId ∈ t.sent ∨ callId ∈ e.event.over ++ e.fact.endedIds := by
  obtain ⟨event, fact⟩ := e
  cases event with
  | placeCall fromNumber toNumber =>
    cases hstep
    rw [placeCall]
    split
    · exact .inl (h.goesOn (s.leaves_store ..) rfl)
    · exact .inl h
  | answer other =>
    cases hstep
    rw [answer]
    split
    · exact .inl (h.goesOn (s.leaves_store ..) rfl)
    · next hbusy =>
      have hother : other = callId := by simpa [silent, hbusy] using hsilent
      subst hother
      exact .inl (sessionFor_openSession (s := { s with
        ringtone := false
        call := some ⟨other, .inbound,
          (s.incoming.filter (·.callId = other)).bind (·.peerNumber), none⟩
        incoming := none, error := none, warning := none }) rfl hphase .inbound)
  | decline other =>
    cases hstep
    rw [decline]
    dsimp only
    split <;> exact .inl (h.goesOn (s.leaves_send ..) rfl)
  | hangup =>
    cases hstep
    rw [hangup]
    split
    · next hnone =>
      have hcall := h.call
      rw [hnone] at hcall
      cases hcall
    · exact .inl h
  | callEvent data =>
    cases hstep
    by_cases hends : s.call.any (·.callId = data.callId) = true ∧ isTerminal data.status = true
    · rw [h.any_call, decide_eq_true_iff] at hends
      refine .inr (.inr (List.mem_append_left _ ?_))
      rw [WebEvent.over, if_pos hends.2]
      exact List.mem_singleton.mpr hends.1
    · exact .inl (h.goesOn (s.leaves_onCallEvent data) (onCallEvent_client h.call hends))
  | callCancelled other reason =>
    cases hstep
    by_cases hother : callId = other
    · exact .inr (.inr (List.mem_append_left _ (List.mem_singleton.mpr hother)))
    · have hnot : s.call.any (·.callId = other) = false := by
        rw [h.any_call, decide_eq_false hother]
      exact .inl (h.goesOn (s.leaves_onCallCancelled other reason)
        (onCallCancelled_client hnot reason))
  | reconcile => cases hstep; exact .inl h
  | wsDisconnected =>
    cases hstep
    exact .inl (h.goesOn s.leaves_onWsDisconnected (onWsDisconnected_client hsilent))
  | transport k state =>
    obtain ⟨⟨-, htransport⟩, hset⟩ := Option.ite_none_right_eq_some.mp hstep
    cases hset
    refine .inl (h.goesOn (s.leaves_setClientState k state) ?_)
    cases state with
    | connecting => exact setClientState_client h.call k (.inl rfl)
    | connected => exact setClientState_client h.call k (.inr rfl)
    | failed reason => exact setClientState_unheard hsilent _
    | disconnected =>
      revert htransport
      cases (s.clients k).state <;> (intros; contradiction)
  | noAnswerExpires =>
    obtain ⟨other, -, rfl⟩ := Option.map_eq_some_iff.mp hstep
    rw [CallController.noAnswerExpires]
    split
    · next hexpires =>
      rw [Bool.and_eq_true, h.any_call, decide_eq_true_iff] at hexpires
      obtain ⟨rfl, -⟩ := hexpires
      exact .inr (.inl (List.mem_append_right _ (List.mem_singleton.mpr rfl)))
    · exact .inl (h.goesOn (s.leaves_store ..) rfl)
  | establishCapExpires =>
    obtain ⟨other, -, rfl⟩ := Option.map_eq_some_iff.mp hstep
    rw [CallController.establishCapExpires]
    split
    · next hexpires =>
      rw [Bool.and_assoc, Bool.and_eq_true, h.any_call, decide_eq_true_iff] at hexpires
      obtain ⟨rfl, -⟩ := hexpires
      exact .inr (.inl (List.mem_append_right _ (List.mem_singleton.mpr rfl)))
    · exact .inl (h.goesOn (s.leaves_store ..) rfl)
  | resume i reply =>
    rw [webStep] at hstep
    cases hflow : s.flows[i]? with
    | none => rw [hflow] at hstep; cases hstep
    | some flow =>
      rw [hflow] at hstep
      obtain ⟨r, hr, rfl⟩ := Option.map_eq_some_iff.mp hstep
      have hquiet : s.silentReply callId fact flow reply = false := by
        simpa [silent, hflow] using hsilent
      exact (h.reply hphase hhangups (List.mem_of_getElem? hflow) hquiet hr).imp_right
        (.imp_right (List.mem_append_right _))

end CallController

/-! ## The run -/

namespace CallController

/-- No session has failed, the client that is held is open, and hang-ups were sent. -/
structure Orderly (s : CallController) : Prop where
  phase : s.phase ≠ .failed
  held : ∀ k, s.client = some k → (s.clients k).closed = false
  hangups : s.HangupsSent

theorem orderly_init : init.Orderly := ⟨nofun, nofun, nofun⟩

theorem Leaves.orderly {s t : CallController} (h : s.Leaves t) (hs : s.Orderly) : t.Orderly where
  phase := h.phase hs.phase
  held k hk := by
    obtain hnone | ⟨hclient, -, hclosed⟩ := h.session
    · rw [hnone] at hk
      cases hk
    · exact (hclosed k).trans (hs.held k (hclient ▸ hk))
  hangups callId hmem := h.sent.subset (hs.hangups callId (h.flows ▸ hmem))

/-- Sessions add no hang-up and send nothing. -/
theorem Orderly.openSession {s u : CallController} (h : s.Orderly) (hphase : u.phase = s.phase)
    (hflows : u.flows = s.flows) (hsent : u.sent = s.sent) (callId : String) (direction : Direction) :
    (u.openSession callId direction).Orderly ∧ s.sent <+: (u.openSession callId direction).sent := by
  have hne : u.phase ≠ .failed := hphase ▸ h.phase
  rw [openSession_eq hne]
  refine ⟨⟨hne, fun k hk => ?_, fun other hmem => ?_⟩, hsent ▸ List.prefix_rfl⟩
  · cases hk
    simp [WebRtcClient.new]
  · have hold : .hangup other ∈ s.flows := by simpa [hflows] using hmem
    exact hsent ▸ h.hangups other hold

/-- A continuation goes on with no hang-up. -/
theorem proceed_next {s t : CallController} {flow next : WebFlow} {reply : WebReply}
    (hr : s.proceed flow reply = some (t, some next)) (callId : String) : next ≠ .hangup callId := by
  revert hr
  fun_cases proceed s flow reply <;> intro hr <;> cases hr <;> intro heq <;> cases heq

/-- **One event.** Nothing that was sent is taken back. -/
theorem Orderly.step {s t : CallController} (h : s.Orderly) {event : WebEvent}
    (hstep : webStep s event = some t) : t.Orderly ∧ s.sent <+: t.sent := by
  by_cases hresume : ∃ i reply, event = .resume i reply
  · obtain ⟨i, reply, rfl⟩ := hresume
    rw [webStep] at hstep
    cases hflow : s.flows[i]? with
    | none => rw [hflow] at hstep; cases hstep
    | some flow =>
      rw [hflow] at hstep
      obtain ⟨r, hr, rfl⟩ := Option.map_eq_some_iff.mp hstep
      have hadvanced : r.1.Orderly → Orderly { r.1 with flows := advance r.1.flows i r.2 } := by
        refine fun hr' => ⟨hr'.phase, hr'.held, fun callId hmem => ?_⟩
        obtain hold | hnew := mem_advance hmem
        · exact hr'.hangups callId hold
        · obtain ⟨u, next⟩ := r
          cases hnew
          exact absurd rfl (proceed_next hr callId)
      obtain hleaves | ⟨fromNumber, toNumber, callId, to', from', -, -, rfl⟩ := proceed_leaves hr
      · exact ⟨hadvanced (hleaves.orderly h), hleaves.sent⟩
      · have hopened := h.openSession (u := { s with
          call := some ⟨callId, .outbound, some (to'.getD toNumber), some (from'.getD fromNumber)⟩
          incoming := none, error := none }) rfl rfl rfl callId .outbound
        exact ⟨hadvanced hopened.1, hopened.2⟩
  · have hne : ∀ i reply, event ≠ .resume i reply := fun i reply heq => hresume ⟨i, reply, heq⟩
    obtain hleaves | ⟨u, flow, hleaves, -, hdecline, rfl⟩ | ⟨u, call, hflows, -, hphase, hsent, -, rfl⟩ :=
      webStep_leaves hne hstep
    · exact ⟨hleaves.orderly h, hleaves.sent⟩
    · have hu := hleaves.orderly h
      refine ⟨⟨hu.phase, hu.held, fun callId hmem => ?_⟩, hleaves.sent⟩
      obtain hold | hnew := List.mem_append.mp hmem
      · exact hu.hangups callId hold
      · exact hdecline callId (List.mem_singleton.mp hnew).symm
    · exact h.openSession hphase hflows hsent _ _

/-- A call that is accepted for a session has one. -/
theorem Orderly.lands {s t : CallController} (h : s.Orderly) {callId : String} {event : WebEvent}
    (hlands : s.lands callId event = true)
    (hfits : Tab.fits ⟨s, [], []⟩ ⟨event, .accepted callId⟩ = true)
    (hstep : webStep s event = some t) : t.SessionFor callId := by
  cases event with
  | resume i reply =>
    rw [webStep] at hstep
    cases hflow : s.flows[i]? with
    | none => rw [hflow] at hstep; cases hstep
    | some flow =>
      rw [hflow] at hstep
      obtain ⟨r, hr, rfl⟩ := Option.map_eq_some_iff.mp hstep
      have hfact : (Fact.accepted callId).fits flow reply = true := by
        simpa only [Tab.fits, hflow, Option.any_some] using hfits
      clear hstep
      revert hfact
      fun_cases Fact.fits (.accepted callId) flow reply <;> intro hfact
      case case1 k other =>
        cases hr
        obtain ⟨hactive, hclient⟩ := Bool.and_eq_true_iff.mp hlands
        obtain ⟨j, hj⟩ := Option.isSome_iff_exists.mp hclient
        exact ⟨of_decide_eq_true hactive, j, hj, h.held j hj⟩
      case case2 k other hok =>
        cases reply with
        | ok => exact absurd rfl hok
        | made => cases hr
        | _ => cases hlands
      case case3 fromNumber toNumber other to' from' =>
        cases hr
        cases of_decide_eq_true hfact
        exact sessionFor_openSession (s := { s with
          call := some ⟨callId, .outbound, some (to'.getD toNumber), some (from'.getD fromNumber)⟩
          incoming := none, error := none }) rfl h.phase .outbound
      case case4 fromNumber toNumber hmade =>
        cases reply with
        | ok => cases hr
        | made callId to' from' =>
          cases callId with
          | none => cases hlands
          | some other => exact absurd rfl (hmade other to' from')
        | _ => cases hlands
      case case5 => cases hfact
      case case6 => cases hfact
  | _ => cases hlands

end CallController

namespace Tab

/-- Every accepted call is accounted for. -/
structure Spoken (s : Tab) : Prop where
  orderly : s.now.Orderly
  accounted : ∀ callId ∈ s.accepted, s.Accounted callId

theorem spoken_init : init.Spoken := ⟨orderly_init, nofun⟩

/-- What the tab was told or has sent stays so. -/
theorem accounted_of_told {s t : Tab} {callId : String} (h : s.told callId = true)
    (hsent : s.now.sent <+: t.now.sent) (hreported : s.reported <+: t.reported) :
    t.Accounted callId := by
  rw [Tab.told, Bool.or_eq_true, decide_eq_true_iff, decide_eq_true_iff] at h
  exact .inr (h.imp (fun hmem => hsent.subset hmem) fun hmem => hreported.subset hmem)

/-- **One event.** -/
theorem Spoken.step {s t : Tab} (h : s.Spoken) {e : TabEvent} (hguard : s.Speaks e)
    (hstep : s.step e = some t) : t.Spoken := by
  obtain ⟨hfits, hmap⟩ := Option.ite_none_right_eq_some.mp hstep
  obtain ⟨u, hu, rfl⟩ := Option.map_eq_some_iff.mp hmap
  obtain ⟨horderly, hsent⟩ := h.orderly.step hu
  refine ⟨horderly, fun callId hmem => ?_⟩
  obtain hold | hnew := List.mem_append.mp hmem
  · obtain htold | hsilent := hguard.1 callId hold
    · exact accounted_of_told htold hsent (List.prefix_append ..)
    · obtain hsession | hdecline | hreported := h.accounted callId hold
      · exact (hsession.event h.orderly.phase h.orderly.hangups hsilent hu).imp_right
          (.imp_right (List.mem_append_right _))
      · exact .inr (.inl (hsent.subset hdecline))
      · exact .inr (.inr (List.mem_append_left _ hreported))
  · obtain htold | hlands := hguard.2 callId hnew
    · exact accounted_of_told htold hsent (List.prefix_append ..)
    · obtain ⟨event, fact⟩ := e
      cases fact with
      | accepted other =>
        rw [List.mem_singleton.mp hnew] at hlands ⊢
        exact .inl (h.orderly.lands hlands hfits hu)
      | none => cases hnew
      | ended callIds => cases hnew

end Tab

/-- **Accepted calls.** In a run that leaves no accepted call without a word, every one has an open
session, or was declined, or the server has said that it is over. -/
theorem accepted_accounted {events : List TabEvent} {s : Tab}
    (hguard : Guarded Tab.step Tab.Speaks .init events)
    (hrun : exec Tab.step .init events = some s) : NeverSilent s :=
  have hspoken : s.Spoken := hguard.invariant (I := Tab.Spoken)
    (fun _ _ _ h hg hstep => h.step hg hstep) Tab.spoken_init hrun
  fun _ => hspoken.accounted

/-- Call c is answered and connects, and the user hangs up. -/
theorem accepted_accounted_hangup : ∃ s, exec Tab.step .init [⟨.answer "c", .none⟩,
      ⟨.resume 0 .ok, .none⟩, ⟨.resume 0 .ok, .none⟩, ⟨.resume 0 .ok, .accepted "c"⟩,
      ⟨.resume 0 (.sdpAnswer (some false)), .none⟩, ⟨.resume 0 .ok, .none⟩,
      ⟨.transport 0 .connected, .none⟩, ⟨.hangup, .none⟩, ⟨.resume 0 .ok, .none⟩] = some s ∧
    s.now.Settled ∧ s.accepted = ["c"] ∧ NeverSilent s := by
  have hguard : Guarded Tab.step Tab.Speaks .init [⟨.answer "c", .none⟩,
      ⟨.resume 0 .ok, .none⟩, ⟨.resume 0 .ok, .none⟩, ⟨.resume 0 .ok, .accepted "c"⟩,
      ⟨.resume 0 (.sdpAnswer (some false)), .none⟩, ⟨.resume 0 .ok, .none⟩,
      ⟨.transport 0 .connected, .none⟩, ⟨.hangup, .none⟩, ⟨.resume 0 .ok, .none⟩] := by decide
  exact ⟨_, rfl, ⟨rfl, rfl, rfl⟩, rfl, accepted_accounted hguard rfl⟩

/-- Call c is answered, its media fails, and nobody tells the server. -/
theorem left_after_media_failure : ¬ ∀ events s, exec Tab.step .init events = some s →
    NeverSilent s := by
  intro h
  have hsilent := h [⟨.answer "c", .none⟩, ⟨.resume 0 .ok, .none⟩, ⟨.resume 0 .ok, .none⟩,
    ⟨.resume 0 .ok, .accepted "c"⟩, ⟨.resume 0 (.sdpAnswer (some false)), .none⟩,
    ⟨.resume 0 .ok, .none⟩, ⟨.transport 0 (.failed .iceFailed), .none⟩] _ rfl ⟨rfl, rfl, rfl⟩ "c"
    (by decide)
  obtain ⟨hactive, -⟩ | hdecline | hreported := hsilent
  · exact absurd hactive (by decide)
  · exact absurd hdecline (by decide)
  · exact absurd hreported (by decide)

end Svarla.Web
