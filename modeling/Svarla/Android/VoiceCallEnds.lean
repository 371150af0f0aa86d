import Mathlib
import Svarla.Lib.Run
import Svarla.Android.VoiceCalls

/-!
# The ends of the calls of the Android app

Every call that is set up, that rings or that has ended has a way out: a timer waits for it, or its answer is
under way (`way_out`). What is known of the call in each status (`CallState.WellFormed`) and of the states that
coroutines keep (`KeepsRinging`) says which calls count as missed (`missed_iff`).
-/

namespace Svarla.Android

open Svarla.Lib

/-- What is known of a call in such a state. -/
def ActiveCallInfo.Fits (info : ActiveCallInfo) (status : CallStatus) : Prop :=
  (status = .dialing → info.isInbound = false) ∧
    (status = .ringing → info.isInbound = true ∧ info.connectedTime = none) ∧
      (status = .connected → info.connectedTime.isSome = true)

/-- There is a call unless the status is IDLE, and a reason and a message only where it is ENDED. -/
structure CallState.WellFormed (c : CallState) : Prop where
  idle : c.status = .idle → c.activeCallInfo = none
  call : c.status ≠ .idle → c.status ≠ .ended → ∃ info, c.activeCallInfo = some info ∧ info.Fits c.status
  reason : c.endReason.isSome = true ↔ c.status = .ended
  message : c.errorMessage.isSome = true → c.status = .ended

/-- The state that the coroutine will set. -/
def Coroutine.kept (c : Coroutine) : Option CallState :=
  match c with
  | .answering currentState | .connecting currentState _ => some currentState
  | .making | .settingUp _ | .resolving _ _ | .done => none

namespace VoiceCallManager

variable {s t m : VoiceCallManager} {e : CallEvent}

/-- The call is being answered. -/
def Answering (m : VoiceCallManager) : Prop := ∃ c ∈ m.coroutines, c.kept.isSome = true

/-- A coroutine keeps a call that rings. -/
def KeepsRinging (m : VoiceCallManager) : Prop :=
  ∀ c ∈ m.coroutines, ∀ currentState, c.kept = some currentState →
    currentState.status = .ringing ∧ currentState.WellFormed

structure Sound (m : VoiceCallManager) : Prop where
  wellFormed : m.callState.WellFormed
  dialing : m.status = .dialing → m.timeoutJob = true ∧ m.networkMonitorJob = true
  ringing : m.status = .ringing → m.inboundTimeoutJob = true ∨ m.Answering
  ended : m.status = .ended → m.resetToIdleJob = true
  kept : m.KeepsRinging

theorem wellFormed_idle : CallState.WellFormed {} :=
  ⟨fun _ => rfl, fun h => absurd rfl h, iff_of_false Bool.noConfusion CallStatus.noConfusion,
    fun h => Bool.noConfusion h⟩

theorem wellFormed_call {status : CallStatus} {info : ActiveCallInfo} (hidle : status ≠ .idle)
    (hended : status ≠ .ended) (h : info.Fits status) :
    CallState.WellFormed ⟨status, some info, none, none⟩ :=
  ⟨fun hstatus => absurd hstatus hidle, fun _ _ => ⟨info, rfl, h⟩, iff_of_false Bool.noConfusion hended,
    fun h => Bool.noConfusion h⟩

/-- What is known of a call does not depend on its texts. -/
theorem wellFormed_map {c : CallState} {f : ActiveCallInfo → ActiveCallInfo} (h : c.WellFormed)
    (hf : ∀ info, (f info).isInbound = info.isInbound ∧ (f info).connectedTime = info.connectedTime) :
    CallState.WellFormed { c with activeCallInfo := c.activeCallInfo.map f } := by
  refine ⟨fun hidle => ?_, fun hidle hended => ?_, h.reason, h.message⟩
  · change c.activeCallInfo.map f = none
    rw [h.idle hidle, Option.map_none]
  · obtain ⟨info, hinfo, hfits⟩ := h.call hidle hended
    refine ⟨f info, by rw [hinfo]; rfl, ?_⟩
    rw [ActiveCallInfo.Fits, (hf info).1, (hf info).2]
    exact hfits

theorem Sound.init : init.Sound :=
  ⟨wellFormed_idle, CallStatus.noConfusion, CallStatus.noConfusion, CallStatus.noConfusion,
    fun _ h => by cases h⟩

theorem sound_endCallInternal {reason : CallEndReason} {errorMessage : Option String}
    (h : m.KeepsRinging) : (m.endCallInternal reason errorMessage).Sound :=
  ⟨⟨CallStatus.noConfusion, fun _ hended => absurd rfl hended, iff_of_true rfl rfl, fun _ => rfl⟩,
    CallStatus.noConfusion, CallStatus.noConfusion, fun _ => rfl, h⟩

theorem Answering.launch {c : Coroutine} (h : m.Answering) : (m.launch c).Answering := by
  obtain ⟨c', hc', hkept⟩ := h
  exact ⟨c', List.mem_append_left _ hc', hkept⟩

theorem KeepsRinging.launch {c : Coroutine} (h : m.KeepsRinging)
    (hc : ∀ currentState, c.kept = some currentState →
      currentState.status = .ringing ∧ currentState.WellFormed) :
    (m.launch c).KeepsRinging := by
  intro c' hc'
  rcases List.mem_append.mp hc' with hc' | hc'
  · exact h c' hc'
  · rw [List.mem_singleton] at hc'
    rw [hc']
    exact hc

theorem Sound.launch {c : Coroutine} (h : m.Sound)
    (hc : ∀ currentState, c.kept = some currentState →
      currentState.status = .ringing ∧ currentState.WellFormed) :
    (m.launch c).Sound :=
  ⟨h.wellFormed, h.dialing, fun hringing => (h.ringing hringing).imp id .launch, h.ended, h.kept.launch hc⟩

theorem KeepsRinging.set {i : Nat} {c c' : Coroutine} (h : m.KeepsRinging) (hget : m.coroutines[i]? = some c)
    (hc : ∀ currentState, c'.kept = some currentState → c.kept = some currentState) :
    (m.setCoroutine i c').KeepsRinging := by
  intro d hd currentState hkept
  rcases List.mem_or_eq_of_mem_set hd with hd | rfl
  · exact h d hd currentState hkept
  · exact h c (List.mem_of_getElem? hget) currentState (hc currentState hkept)

theorem Answering.set {i : Nat} {c c' : Coroutine} (h : m.Answering) (hget : m.coroutines[i]? = some c)
    (hc : c.kept.isSome = true → c'.kept.isSome = true) : (m.setCoroutine i c').Answering := by
  obtain ⟨hlt, hgetElem⟩ := List.getElem?_eq_some_iff.mp hget
  obtain ⟨d, hd, hkept⟩ := h
  obtain ⟨j, hj, rfl⟩ := List.mem_iff_getElem.mp hd
  by_cases hij : i = j
  · subst hij
    rw [hgetElem] at hkept
    exact ⟨c', List.mem_set hlt c', hc hkept⟩
  · have hmem : m.coroutines[j] ∈ m.coroutines.set i c' :=
      List.mem_iff_getElem.mpr ⟨j, by rwa [List.length_set], List.getElem_set_ne hij _⟩
    exact ⟨m.coroutines[j], hmem, hkept⟩

theorem Sound.set {i : Nat} {c c' : Coroutine} (h : m.Sound) (hget : m.coroutines[i]? = some c)
    (hc : c'.kept = c.kept) : (m.setCoroutine i c').Sound :=
  ⟨h.wellFormed, h.dialing,
    fun hringing => (h.ringing hringing).imp id fun h => h.set hget fun hs => by rwa [hc],
    h.ended, h.kept.set hget fun currentState hs => by rwa [← hc]⟩

theorem Sound.map {f : ActiveCallInfo → ActiveCallInfo} (h : m.Sound)
    (hf : ∀ info, (f info).isInbound = info.isInbound ∧ (f info).connectedTime = info.connectedTime) :
    Sound { m with callState := { m.callState with activeCallInfo := m.callState.activeCallInfo.map f } } :=
  ⟨wellFormed_map h.wellFormed hf, h.dialing, h.ringing, h.ended, h.kept⟩

theorem Sound.resolve {callId providerNumber : String} (h : m.Sound) :
    (m.resolveProviderNumberColor callId providerNumber).Sound := by
  rw [resolveProviderNumberColor]
  split
  · exact h
  · exact h.launch fun _ hkept => by cases hkept

theorem Sound.makeCall {src dest : String} {now : Int} (h : m.Sound) : (m.makeCall src dest now).Sound := by
  rw [VoiceCallManager.makeCall]
  split
  · exact h
  · refine Sound.launch ⟨wellFormed_call CallStatus.noConfusion CallStatus.noConfusion ?_,
      fun _ => ⟨rfl, rfl⟩, CallStatus.noConfusion, CallStatus.noConfusion, h.kept⟩ fun _ hkept => by
        cases hkept
    exact ⟨fun _ => rfl, CallStatus.noConfusion, CallStatus.noConfusion⟩

theorem Sound.answerCall (h : m.Sound) : m.answerCall.Sound := by
  rw [VoiceCallManager.answerCall]
  split
  · exact h
  · next hringing =>
    rw [not_not] at hringing
    refine ⟨h.wellFormed, fun hdialing => ?_, fun _ => .inr ?_, h.ended,
      h.kept.launch fun currentState hkept => ?_⟩
    · exact CallStatus.noConfusion (hringing.symm.trans hdialing)
    · exact ⟨.answering m.callState, List.mem_append_right _ (.head _), rfl⟩
    · cases hkept
      exact ⟨hringing, h.wellFormed⟩

theorem Sound.declineCall (h : m.Sound) : m.declineCall.Sound := by
  rw [VoiceCallManager.declineCall]
  split
  · exact h
  · exact sound_endCallInternal h.kept

theorem Sound.endCall (h : m.Sound) : m.endCall.Sound := by
  rw [VoiceCallManager.endCall]
  split
  · exact sound_endCallInternal h.kept
  · exact h

theorem Sound.ring {callInfo : ActiveCallInfo} (h : m.Sound) (hinbound : callInfo.isInbound = true)
    (htime : callInfo.connectedTime = none) : (m.ring callInfo).Sound :=
  ⟨wellFormed_call CallStatus.noConfusion CallStatus.noConfusion
      ⟨CallStatus.noConfusion, fun _ => ⟨hinbound, htime⟩, CallStatus.noConfusion⟩,
    CallStatus.noConfusion, fun _ => .inl rfl, CallStatus.noConfusion, h.kept⟩

theorem Sound.handleIncomingCall {callId fromNumber providerNumber : String}
    {providerNumberLabel : Option String} {now : Int} (h : m.Sound) :
    (m.handleIncomingCall callId fromNumber providerNumber providerNumberLabel now).Sound := by
  rw [VoiceCallManager.handleIncomingCall]
  split
  · next info _ hinfo =>
    have henriched :=
      h.map (f := (enrich · callId fromNumber providerNumber providerNumberLabel)) fun _ => ⟨rfl, rfl⟩
    simp only [hinfo, Option.map_some] at henriched
    exact henriched.resolve
  · split
    · exact h
    · exact (h.ring rfl rfl).resolve

theorem Sound.handleIncomingCallFromTelecom {callId callerNumber : String} {now : Int} (h : m.Sound) :
    (m.handleIncomingCallFromTelecom callId callerNumber now).Sound := by
  rw [VoiceCallManager.handleIncomingCallFromTelecom]
  split
  · exact h
  · exact h.ring rfl rfl

theorem Sound.handleCallConnected {callId : String} {now : Int} (h : m.Sound) :
    (m.handleCallConnected callId now).Sound := by
  rw [VoiceCallManager.handleCallConnected]
  split
  · exact ⟨wellFormed_call CallStatus.noConfusion CallStatus.noConfusion
      ⟨CallStatus.noConfusion, CallStatus.noConfusion, fun _ => rfl⟩,
      CallStatus.noConfusion, CallStatus.noConfusion, CallStatus.noConfusion, h.kept⟩
  · exact h

theorem Sound.handleCallEnded {callId : String} {strict : Bool} (h : m.Sound) :
    (m.handleCallEnded callId strict).Sound := by
  rw [VoiceCallManager.handleCallEnded]
  split_ifs
  · exact h
  · exact sound_endCallInternal h.kept
  · exact h

theorem Sound.endNamed {callId : String} {reason : CallEndReason} {errorMessage : Option String}
    (h : m.Sound) : (m.endNamed callId reason errorMessage).Sound := by
  rw [VoiceCallManager.endNamed]
  split_ifs
  · exact h
  · exact sound_endCallInternal h.kept
  · exact h

theorem Sound.webRtcChanges {state : WebRtcState} (h : m.Sound) : (m.webRtcChanges state).Sound := by
  unfold VoiceCallManager.webRtcChanges
  split
  · exact h
  · cases state with
    | failed => exact sound_endCallInternal h.kept
    | disconnected =>
      dsimp only
      split
      · exact sound_endCallInternal h.kept
      · exact h
    | connecting => exact h
    | connected => exact h

theorem Sound.networkChanges {isConnected : Bool} (h : m.Sound) : (m.networkChanges isConnected).Sound := by
  rw [VoiceCallManager.networkChanges]
  split
  · exact sound_endCallInternal h.kept
  · exact h

theorem Sound.timeoutPasses (h : m.Sound) : m.timeoutPasses.Sound := by
  rw [VoiceCallManager.timeoutPasses]
  split
  · exact sound_endCallInternal h.kept
  · next hdialing => exact ⟨h.wellFormed, fun hstatus => absurd hstatus hdialing, h.ringing, h.ended, h.kept⟩

theorem Sound.inboundTimeoutPasses (h : m.Sound) : m.inboundTimeoutPasses.Sound := by
  rw [VoiceCallManager.inboundTimeoutPasses]
  split
  · exact sound_endCallInternal h.kept
  · next hringing => exact ⟨h.wellFormed, h.dialing, fun hstatus => absurd hstatus hringing, h.ended, h.kept⟩

theorem Sound.mediaInactivityPasses {receiving : Bool} (h : m.Sound) :
    (m.mediaInactivityPasses receiving).Sound := by
  rw [VoiceCallManager.mediaInactivityPasses]
  split
  · exact sound_endCallInternal h.kept
  · exact ⟨h.wellFormed, h.dialing, h.ringing, h.ended, h.kept⟩

theorem Sound.idle {u : VoiceCallManager} (hcall : u.callState = {}) (hkept : u.KeepsRinging) : u.Sound := by
  have hidle : u.status = .idle := by rw [status, hcall]
  refine ⟨by rw [hcall]; exact wellFormed_idle, fun h => ?_, fun h => ?_, fun h => ?_, hkept⟩ <;>
    exact CallStatus.noConfusion (hidle.symm.trans h)

theorem Sound.resetDelayPasses (h : m.Sound) : m.resetDelayPasses.Sound := by
  rw [VoiceCallManager.resetDelayPasses]
  split
  · exact .idle rfl h.kept
  · next hended => exact ⟨h.wellFormed, h.dialing, h.ringing, fun hstatus => absurd hstatus hended, h.kept⟩

theorem Sound.fetchActiveCallsFromServer (h : m.Sound) : m.fetchActiveCallsFromServer.Sound := by
  rw [VoiceCallManager.fetchActiveCallsFromServer]
  split <;> exact ⟨h.wellFormed, h.dialing, h.ringing, h.ended, h.kept⟩

theorem Sound.adopt {calls : List ActiveCallDto} {now : Int} (h : m.Sound) : (m.adopt calls now).Sound := by
  rw [VoiceCallManager.adopt]
  split
  · exact h
  · split
    · exact ⟨wellFormed_call CallStatus.noConfusion CallStatus.noConfusion
        ⟨CallStatus.noConfusion, CallStatus.noConfusion, fun _ => rfl⟩,
        CallStatus.noConfusion, CallStatus.noConfusion, CallStatus.noConfusion, h.kept⟩
    · split
      · exact h.handleIncomingCall
      · exact h
    · exact h

theorem Sound.fetched {fetch : ActiveCallsFetch} {calls : Option (List ActiveCallDto)} {now : Int}
    (h : m.Sound) : (m.fetched fetch calls now).Sound := by
  cases calls with
  | none => cases fetch <;> exact h
  | some calls =>
    cases fetch with
    | adopting => exact h.adopt
    | reconciling activeInfo =>
      rw [VoiceCallManager.fetched]
      split
      · exact h
      · exact sound_endCallInternal h.kept

/-- The answered call was ringing when its coroutine started. -/
theorem Sound.callAnswered {currentState : CallState} {now : Int} (h : m.KeepsRinging)
    (hstate : currentState.status = .ringing ∧ currentState.WellFormed) :
    (m.callAnswered currentState now).Sound := by
  obtain ⟨hringing, hwf⟩ := hstate
  obtain ⟨info, hinfo, -⟩ := hwf.call (by rw [hringing]; exact CallStatus.noConfusion)
    (by rw [hringing]; exact CallStatus.noConfusion)
  have hnone : currentState.endReason = none ∧ currentState.errorMessage = none := by
    constructor <;> rw [← Option.not_isSome_iff_eq_none] <;> intro hsome
    · exact CallStatus.noConfusion (hringing.symm.trans (hwf.reason.mp hsome))
    · exact CallStatus.noConfusion (hringing.symm.trans (hwf.message hsome))
  refine ⟨?_, CallStatus.noConfusion, CallStatus.noConfusion, CallStatus.noConfusion, h⟩
  rw [VoiceCallManager.callAnswered, hinfo, hnone.1, hnone.2]
  exact wellFormed_call CallStatus.noConfusion CallStatus.noConfusion
    ⟨CallStatus.noConfusion, CallStatus.noConfusion, fun _ => rfl⟩

theorem Sound.resume {i : Nat} {c : Coroutine} {outcome : Outcome} (h : s.Sound)
    (hget : s.coroutines[i]? = some c) (hstep : s.resume i c outcome = some t) : t.Sound := by
  have hfail (reason : CallEndReason) (errorMessage : Option String) :
      ((s.setCoroutine i .done).endCallInternal reason errorMessage).Sound :=
    sound_endCallInternal (h.kept.set hget fun _ hkept => by cases hkept)
  unfold VoiceCallManager.resume at hstep
  split at hstep
  · cases hstep
    exact Sound.set (h.map fun _ => ⟨rfl, rfl⟩) hget rfl
  · next stage _ =>
    cases hstep
    exact h.set hget (by cases stage <;> rfl)
  · cases hstep
    exact hfail _ _
  · cases hstep
    exact hfail _ _
  · cases hstep
    exact h.set hget rfl
  · cases hstep
    exact hfail _ _
  · next currentState stage now =>
    split at hstep
    · cases hstep
      exact h.set hget rfl
    · cases hstep
      exact .callAnswered (h.kept.set hget fun _ hkept => by cases hkept)
        (h.kept _ (List.mem_of_getElem? hget) _ rfl)
  · cases hstep
    exact hfail _ _
  · cases hstep
    exact hfail _ _
  · cases hstep
    refine Sound.map (h.set hget rfl) fun info => ?_
    split <;> exact ⟨rfl, rfl⟩
  · cases hstep

theorem Sound.step (h : s.Sound) (hstep : step s e = some t) : t.Sound := by
  cases e with
  | makeCall => cases hstep; exact h.makeCall
  | answerCall => cases hstep; exact h.answerCall
  | declineCall => cases hstep; exact h.declineCall
  | endCall => cases hstep; exact h.endCall
  | resetToIdle => cases hstep; exact .idle rfl h.kept
  | incoming => cases hstep; exact h.handleIncomingCall
  | incomingFromTelecom => cases hstep; exact h.handleIncomingCallFromTelecom
  | connected => cases hstep; exact h.handleCallConnected
  | ended => cases hstep; exact h.handleCallEnded
  | busy => cases hstep; exact h.endNamed
  | failed => cases hstep; exact h.endNamed
  | cancelled => cases hstep; exact h.endNamed
  | webRtc => cases hstep; exact h.webRtcChanges
  | mediaReceiving => cases hstep; exact ⟨h.wellFormed, h.dialing, h.ringing, h.ended, h.kept⟩
  | networkAvailable =>
    simp only [VoiceCallManager.step, Option.ite_none_right_eq_some, Option.some.injEq] at hstep
    obtain ⟨-, rfl⟩ := hstep
    exact h.networkChanges
  | timeout =>
    simp only [VoiceCallManager.step, Option.ite_none_right_eq_some, Option.some.injEq] at hstep
    obtain ⟨-, rfl⟩ := hstep
    exact h.timeoutPasses
  | inboundTimeout =>
    simp only [VoiceCallManager.step, Option.ite_none_right_eq_some, Option.some.injEq] at hstep
    obtain ⟨-, rfl⟩ := hstep
    exact h.inboundTimeoutPasses
  | mediaInactivity =>
    simp only [VoiceCallManager.step, Option.ite_none_right_eq_some, Option.some.injEq] at hstep
    obtain ⟨-, rfl⟩ := hstep
    exact h.mediaInactivityPasses
  | resetDelay =>
    simp only [VoiceCallManager.step, Option.ite_none_right_eq_some, Option.some.injEq] at hstep
    obtain ⟨-, rfl⟩ := hstep
    exact h.resetDelayPasses
  | syncConnected =>
    simp only [VoiceCallManager.step, Option.ite_none_right_eq_some, Option.some.injEq] at hstep
    obtain ⟨-, rfl⟩ := hstep
    exact h.fetchActiveCallsFromServer
  | activeCalls =>
    obtain ⟨fetch, -, rfl⟩ := Option.map_eq_some_iff.mp hstep
    exact Sound.fetched ⟨h.wellFormed, h.dialing, h.ringing, h.ended, h.kept⟩
  | resume =>
    obtain ⟨c, hget, hresume⟩ := Option.bind_eq_some_iff.mp hstep
    exact h.resume hget hresume

theorem sound_of_run {es : List CallEvent} (hrun : exec step init es = some s) : s.Sound :=
  exec_invariant (fun _ _ _ h => h.step) .init hrun

/-- The event can come, and brings the status about. -/
def Leads (m : VoiceCallManager) (e : CallEvent) (status : CallStatus) : Prop :=
  ∃ t, step m e = some t ∧ t.status = status

/-- Only a call that was taken over is not ended by the loss of the network. -/
theorem unmonitored (h : s.Sound) (hstep : step s e = some t) (hconnected : t.status = .connected)
    (hmonitor : t.networkMonitorJob = false) :
    s.status = .connected ∧ s.networkMonitorJob = false ∨ s.TakesOver e := by
  cases step_change hstep with
  | keeps hstatus _ hkeeps _ =>
    refine .inl ⟨hstatus.symm.trans hconnected, ?_⟩
    by_contra hs
    rw [hkeeps (Bool.not_eq_false _ ▸ hs)] at hmonitor
    cases hmonitor
  | ends u reason errorMessage ht => rw [ht] at hconnected; cases hconnected
  | follows _ _ _ hdials _ =>
    obtain ⟨hdialing, hkeeps⟩ := hdials hconnected
    rw [hkeeps (h.dialing hdialing).2] at hmonitor
    cases hmonitor
  | answers _ _ _ htrue => rw [htrue] at hmonitor; cases hmonitor
  | takesOver _ htakes _ => exact .inr htakes
  | forgets _ _ hidle => rw [hidle] at hconnected; cases hconnected

/-- It was taken over, and has been there since. -/
def TakenOver (es : List CallEvent) : Prop :=
  ∃ es₁ e es₂ u, es = es₁ ++ e :: es₂ ∧ exec step init es₁ = some u ∧ u.TakesOver e ∧
    ∀ es₃ es₄ v, es₂ = es₃ ++ es₄ → exec step init (es₁ ++ e :: es₃) = some v → v.status = .connected

theorem takenOver_of_run {es : List CallEvent} (hrun : exec step init es = some s)
    (hconnected : s.status = .connected) (hmonitor : s.networkMonitorJob = false) : TakenOver es := by
  induction es using List.reverseRecOn generalizing s with
  | nil => cases hrun; cases hconnected
  | append_singleton es e ih =>
    have hrun' := hrun
    rw [exec_append, Option.bind_eq_some_iff] at hrun'
    obtain ⟨u, hu, hstep⟩ := hrun'
    rw [exec_cons, Option.bind_eq_some_iff] at hstep
    obtain ⟨s', hstep, hs'⟩ := hstep
    cases hs'
    rcases unmonitored (sound_of_run hu) hstep hconnected hmonitor with ⟨hu', hmonitor'⟩ | htakes
    · obtain ⟨es₁, e₁, es₂, w, rfl, hw, htakes, hsince⟩ := ih hu hu' hmonitor'
      refine ⟨es₁, e₁, es₂ ++ [e], w, by simp, hw, htakes, fun es₃ es₄ v hes hv => ?_⟩
      rcases List.eq_nil_or_concat es₄ with rfl | ⟨es₄, e₄, rfl⟩
      · rw [List.append_nil] at hes
        rw [← hes, ← List.cons_append, ← List.append_assoc, hrun] at hv
        cases hv
        exact hconnected
      · rw [List.concat_eq_append, ← List.append_assoc] at hes
        exact hsince es₃ es₄ v (List.append_inj_left' hes rfl) hv
    · refine ⟨es, e, [], u, rfl, hu, htakes, fun es₃ es₄ v hes hv => ?_⟩
      obtain ⟨rfl, -⟩ := List.append_eq_nil_iff.mp hes.symm
      rw [hrun] at hv
      cases hv
      exact hconnected

theorem ended_of_network (h : s.status = .connected ∨ s.status = .dialing) :
    (s.networkChanges false).status = .ended := by
  rw [networkChanges, if_pos (by simpa using h)]
  rfl

/-- **No call waits for ever.** In every state of every run, a call that is set up is ended by its timer and
by the loss of the network, one that rings is ended by its timer unless it is being answered, and then by a
failure of that, and a call that has ended makes room for the next one. The loss of the network also ends a
call that is connected, unless it was taken over from another device. -/
theorem way_out {es : List CallEvent} (hrun : exec step init es = some s) :
    s.callState.WellFormed ∧
      (s.status = .dialing → s.Leads .timeout .ended ∧ s.Leads (.networkAvailable false) .ended) ∧
      (s.status = .ringing → s.Leads .inboundTimeout .ended ∨
        ∃ i, ∀ message, s.Leads (.resume i (.throws message)) .ended) ∧
      (s.status = .ended → s.Leads .resetDelay .idle) ∧
      (s.status = .connected → s.Leads (.networkAvailable false) .ended ∨ TakenOver es) := by
  have h := sound_of_run hrun
  refine ⟨h.wellFormed, fun hdialing => ?_, fun hringing => ?_, fun hended => ?_, fun hconnected => ?_⟩
  · obtain ⟨htimeout, hmonitor⟩ := h.dialing hdialing
    constructor
    · exact ⟨_, by rw [step, if_pos htimeout], by rw [timeoutPasses, if_pos hdialing]; rfl⟩
    · exact ⟨_, by rw [step, if_pos hmonitor], ended_of_network (.inr hdialing)⟩
  · rcases h.ringing hringing with htimeout | ⟨c, hc, hkept⟩
    · exact .inl ⟨_, by rw [step, if_pos htimeout], by rw [inboundTimeoutPasses, if_pos hringing]; rfl⟩
    · obtain ⟨i, hi, rfl⟩ := List.mem_iff_getElem.mp hc
      refine .inr ⟨i, fun message => ?_⟩
      rw [Leads, step, List.getElem?_eq_getElem hi, Option.bind_some]
      cases hcoroutine : s.coroutines[i] with
      | answering => exact ⟨_, rfl, rfl⟩
      | connecting => exact ⟨_, rfl, rfl⟩
      | _ => rw [hcoroutine] at hkept; cases hkept
  · exact ⟨_, by rw [step, if_pos (h.ended hended)], by rw [resetDelayPasses, if_pos hended]; rfl⟩
  · cases hmonitor : s.networkMonitorJob with
    | true => exact .inl ⟨_, by rw [step, if_pos hmonitor], ended_of_network (.inl hconnected)⟩
    | false => exact .inr (takenOver_of_run hrun hconnected hmonitor)

/-- The call of a ringing state, and what is told of no other. -/
theorem Sound.rings (h : s.Sound) (hringing : s.status = .ringing) :
    ∃ info, s.callState.activeCallInfo = some info ∧ info.isInbound = true ∧ info.connectedTime = none := by
  have hidle : s.status ≠ .idle := by rw [hringing]; exact CallStatus.noConfusion
  have hended : s.status ≠ .ended := by rw [hringing]; exact CallStatus.noConfusion
  obtain ⟨info, hinfo, hfits⟩ := h.wellFormed.call hidle hended
  exact ⟨info, hinfo, hfits.2.1 hringing⟩

/-- A call that came in and was not answered rings, or has ended. -/
theorem Sound.status_of_missed {info : ActiveCallInfo} (h : s.Sound)
    (hinfo : s.callState.activeCallInfo = some info) (hinbound : info.isInbound = true)
    (htime : info.connectedTime = none) : s.status = .ringing ∨ s.status = .ended := by
  by_contra hnot
  rw [not_or] at hnot
  have hidle : s.status ≠ .idle := fun hidle => by
    rw [h.wellFormed.idle hidle] at hinfo
    cases hinfo
  obtain ⟨info', hinfo', hfits⟩ := h.wellFormed.call hidle hnot.2
  cases hinfo.symm.trans hinfo'
  cases hstatus : s.status with
  | idle => exact hidle hstatus
  | dialing => rw [hfits.1 hstatus] at hinbound; cases hinbound
  | ringing => exact hnot.1 hstatus
  | connected =>
    have hsome := hfits.2.2 hstatus
    rw [htime] at hsome
    cases hsome
  | ended => exact hnot.2 hstatus

theorem step_of_stale (h : s.Stale e) :
    step s e = some ({ s with fetch := none }.endCallInternal .remoteHangup none) := by
  unfold Stale at h
  split at h
  · next calls now activeInfo hfetch => simp [step, hfetch, fetched, h]
  · cases h

/-- The call came in, and nobody has answered it here. -/
def Unanswered (m : VoiceCallManager) : Prop :=
  ∃ info, m.callState.activeCallInfo = some info ∧ info.isInbound = true ∧ info.connectedTime = none

theorem missedCall_isSome {reason : CallEndReason} :
    (m.missedCall reason).isSome = true ↔
      m.Unanswered ∧ m.userActedOnInboundCall = false ∧ isMissedCallReason reason = true := by
  rw [missedCall, Unanswered]
  cases m.callState.activeCallInfo with
  | none => simp
  | some info => simp [and_assoc]

theorem eq_missed_of_missedCall {reason : CallEndReason} {notification : MissedCallNotification}
    (h : m.missedCall reason = some notification) :
    ∃ info, m.callState.activeCallInfo = some info ∧ notification = info.missed := by
  obtain ⟨info, hinfo, h⟩ := Option.bind_eq_some_iff.mp h
  rw [Option.ite_none_right_eq_some] at h
  exact ⟨info, hinfo, (Option.some.inj h.2).symm⟩

/-- Where a call ends with such a reason, what is announced. -/
theorem missed_endCallInternal {reason : CallEndReason} {errorMessage : Option String} :
    (m.endCallInternal reason errorMessage).missed ≠ m.missed ↔
      m.Unanswered ∧ m.userActedOnInboundCall = false ∧ isMissedCallReason reason = true := by
  rw [← missedCall_isSome, endCallInternal]
  cases m.missedCall reason <;> simp

/-- A call comes in. -/
def ringingRun : List CallEvent := [.incoming "a" "+46701234567" "+46101234567" none 0]

theorem way_out_rings : ∃ s, exec step init ringingRun = some s ∧ s.status = .ringing ∧
    (s.Leads .inboundTimeout .ended ∨ ∃ i, ∀ message, s.Leads (.resume i (.throws message)) .ended) :=
  ⟨_, rfl, rfl, (@way_out _ ringingRun rfl).2.2.1 rfl⟩

end VoiceCallManager

end Svarla.Android
