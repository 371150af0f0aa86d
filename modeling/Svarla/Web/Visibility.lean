import Mathlib
import Svarla.Web.CallController

/-!
# The session and what is on screen

The controller holds one client at most, and its guard against a second call reads the phase, which
changes only when the microphone is there. So an attempt that begins while another one still waits
replaces the client without closing it (`two_clients`), and a microphone that is granted to a client
that was closed meanwhile stays live (`microphone_stays_live`). In a run that does neither
(`SessionsApart`), the client held is the only one that holds anything, and its call is on screen or
still waits for the microphone (`sessions_visible`).
-/

namespace Svarla.Web

open Svarla.Lib Svarla.Calls CallController

/-- The client holds no track and no peer connection. -/
structure WebRtcClient.Silent (c : WebRtcClient) : Prop where
  localTrack : c.localTrack = false
  pc : c.pc = false

namespace CallController

/-- The call is on screen. -/
def activePhase (phase : CallPhase) : Prop :=
  phase = .connecting ∨ phase = .ringing ∨ phase = .connected

/-- The attempt for the call still waits for the microphone. -/
def Acquiring (s : CallController) (k : Nat) (callId : String) : Prop :=
  ∃ direction, .createOffer k .getUserMedia callId direction ∈ s.flows

/-- A client that is not held is closed, and nobody listens to it. -/
structure Released (s : CallController) (k : Nat) : Prop where
  silent : (s.clients k).Silent
  subscribed : (s.clients k).subscribed = false
  closed : k < s.created → (s.clients k).closed = true

/-- The client that is held is open, and its call is on screen or waits for the microphone. -/
structure Held (s : CallController) (k : Nat) : Prop where
  created : k < s.created
  closed : (s.clients k).closed = false
  subscribed : (s.clients k).subscribed = true
  call : ∃ call, s.call = some call ∧
    (activePhase s.phase ∨ s.phase = .idle ∧ (s.clients k).Silent ∧ s.Acquiring k call.callId)

/-- The controller's session. -/
structure Session (s : CallController) : Prop where
  unsubscribe : s.unsubscribeClientState = s.client
  idle : s.client = none → s.phase = .idle
  held : ∀ k, s.client = some k → s.Held k
  released : ∀ k, s.client ≠ some k → s.Released k

theorem session_init : init.Session where
  unsubscribe := rfl
  idle _ := rfl
  held _ hk := nomatch hk
  released _ _ := ⟨⟨rfl, rfl⟩, rfl, fun hk => absurd hk (Nat.not_lt_zero _)⟩

/-! ## Teardown -/

/-- No client is held. -/
structure Quiet (s : CallController) : Prop where
  client : s.client = none
  unsubscribe : s.unsubscribeClientState = none
  released : ∀ k, s.Released k

theorem Quiet.session {s : CallController} (h : s.Quiet) (hphase : s.phase = .idle) : s.Session where
  unsubscribe := h.unsubscribe.trans h.client.symm
  idle _ := hphase
  held k hk := by rw [h.client] at hk; cases hk
  released k _ := h.released k

theorem Session.quiet {s : CallController} (h : s.Session) (hnone : s.client = none) : s.Quiet where
  client := hnone
  unsubscribe := h.unsubscribe.trans hnone
  released k := h.released k (by rw [hnone]; exact nofun)

/-- It is about the clients only. -/
theorem Quiet.store {s : CallController} (h : s.Quiet) (phase : CallPhase)
    (call incoming : Option CallMetadata) (error warning : Option String) (ringtone : Bool)
    (flows : List WebFlow) :
    Quiet { s with phase, call, incoming, error, warning, ringtone, flows } where
  client := h.client
  unsubscribe := h.unsubscribe
  released k :=
    have hreleased := h.released k
    ⟨hreleased.silent, hreleased.subscribed, hreleased.closed⟩

theorem close_silent (c : WebRtcClient) (hopen : c.closed = false) : c.close.Silent := by
  rw [WebRtcClient.close, if_neg (by rw [hopen]; exact Bool.false_ne_true)]
  exact ⟨rfl, rfl⟩

theorem close_closed (c : WebRtcClient) : c.close.closed = true := by
  rw [WebRtcClient.close]
  split
  · assumption
  · rfl

theorem close_subscribed (c : WebRtcClient) : c.close.subscribed = c.subscribed := by
  rw [WebRtcClient.close]
  split <;> rfl

/-- **Teardown.** Whatever the phase and the call are, no client is held afterwards. -/
theorem teardownClient_quiet {s : CallController} (hunsubscribe : s.unsubscribeClientState = s.client)
    (hheld : ∀ k, s.client = some k → (s.clients k).closed = false)
    (hreleased : ∀ k, s.client ≠ some k → s.Released k) : s.teardownClient.Quiet := by
  refine ⟨rfl, rfl, fun j => ?_⟩
  cases hclient : s.client with
  | none =>
    have hclients : s.teardownClient.clients = s.clients := by
      simp only [teardownClient, unsubscribed, hunsubscribe, hclient]
    have hj := hreleased j (by rw [hclient]; exact nofun)
    exact ⟨hclients ▸ hj.silent, hclients ▸ hj.subscribed, hclients ▸ hj.closed⟩
  | some k =>
    have hopen := hheld k hclient
    have hclients : s.teardownClient.clients =
        Function.update s.clients k (WebRtcClient.close { s.clients k with subscribed := false }) := by
      simp only [teardownClient, unsubscribed, hunsubscribe, hclient, Function.update_self,
        Function.update_idem]
    by_cases hj : j = k
    · subst hj
      have hself : s.teardownClient.clients j =
          WebRtcClient.close { s.clients j with subscribed := false } := by
        rw [hclients, Function.update_self]
      exact ⟨by rw [hself]; exact close_silent _ hopen, by rw [hself, close_subscribed],
        fun _ => by rw [hself, close_closed]⟩
    · have hother := hreleased j (by rw [hclient]; exact fun heq => hj (Option.some.inj heq).symm)
      have hself : s.teardownClient.clients j = s.clients j := by
        rw [hclients, Function.update_of_ne hj]
      exact ⟨hself ▸ hother.silent, hself ▸ hother.subscribed, hself ▸ hother.closed⟩

theorem Session.teardown {s : CallController} (h : s.Session) : s.teardownClient.Quiet :=
  teardownClient_quiet h.unsubscribe (fun k hk => (h.held k hk).closed) h.released

/-- Back to idle. -/
theorem Session.resetToIdle {s : CallController} (h : s.Session) (error : Option String) :
    (s.resetToIdle error).Session :=
  (h.teardown.store .idle none none error _ false _).session rfl

/-! ## The states of the client -/

/-- A client is held, and there is a call; nothing is said about the phase. -/
structure Holding (s : CallController) (k : Nat) : Prop where
  client : s.client = some k
  unsubscribe : s.unsubscribeClientState = some k
  created : k < s.created
  closed : (s.clients k).closed = false
  subscribed : (s.clients k).subscribed = true
  call : s.call.isSome = true
  released : ∀ j, j ≠ k → s.Released j

theorem Session.holding {s : CallController} (h : s.Session) {k : Nat} (hk : s.client = some k) :
    s.Holding k where
  client := hk
  unsubscribe := h.unsubscribe.trans hk
  created := (h.held k hk).created
  closed := (h.held k hk).closed
  subscribed := (h.held k hk).subscribed
  call := by
    obtain ⟨call, hcall, -⟩ := (h.held k hk).call
    rw [hcall]
    rfl
  released j hj := h.released j (by rw [hk]; exact fun heq => hj (Option.some.inj heq).symm)

theorem Holding.session {s : CallController} {k : Nat} (h : s.Holding k)
    (hphase : activePhase s.phase) : s.Session where
  unsubscribe := h.unsubscribe.trans h.client.symm
  idle hnone := by rw [h.client] at hnone; cases hnone
  held j hj := by
    cases h.client.symm.trans hj
    obtain ⟨call, hcall⟩ := Option.isSome_iff_exists.mp h.call
    exact ⟨h.created, h.closed, h.subscribed, call, hcall, .inl hphase⟩
  released j hj := h.released j fun heq => hj (heq ▸ h.client)

/-- The client that is held changes without being closed. -/
theorem Holding.updateClient {s : CallController} {k : Nat} (h : s.Holding k)
    {f : WebRtcClient → WebRtcClient} (hclosed : ∀ c, (f c).closed = c.closed)
    (hsubscribed : ∀ c, (f c).subscribed = c.subscribed) : (s.updateClient k f).Holding k where
  client := h.client
  unsubscribe := h.unsubscribe
  created := h.created
  closed := by rw [updateClient_clients_self, hclosed, h.closed]
  subscribed := by rw [updateClient_clients_self, hsubscribed, h.subscribed]
  call := h.call
  released j hj := by
    have hother := h.released j hj
    have hself := s.updateClient_clients_of_ne hj f
    exact ⟨hself ▸ hother.silent, hself ▸ hother.subscribed, hself ▸ hother.closed⟩

/-- A phase without a call on screen ends the session. -/
theorem Holding.setPhase_failed {s : CallController} {k : Nat} (h : s.Holding k)
    (hphase : s.phase ≠ .failed) : (s.setPhase .failed).Session ∧ (s.setPhase .failed).client = none := by
  have hquiet : (teardownClient { s with phase := .failed }).Quiet := by
    refine teardownClient_quiet (h.unsubscribe.trans h.client.symm) (fun j hj => ?_) fun j hj => ?_
    · cases h.client.symm.trans hj
      exact h.closed
    · have hother := h.released j fun heq => hj (heq ▸ h.client)
      exact ⟨hother.silent, hother.subscribed, hother.closed⟩
  rw [CallController.setPhase_failed (by rw [h.client]; rfl) hphase]
  exact ⟨(hquiet.store .idle none _ _ _ _ _).session rfl, hquiet.client⟩

/-- The listener hears the client that is held. -/
theorem Holding.setClientState {s : CallController} {k : Nat} (h : s.Holding k) (state : WebRtcState) :
    s.setClientState k state = (s.updateClient k ({ · with state })).applyWebRtcState state := by
  rw [CallController.setClientState]
  simp only [updateClient_clients_self, h.subscribed, if_true]

theorem Holding.setPhase_visible {s : CallController} {k : Nat} (h : s.Holding k) {phase : CallPhase}
    (hphase : activePhase phase) :
    (s.setPhase phase).Holding k ∧ activePhase (s.setPhase phase).phase := by
  rw [CallController.setPhase_visible h.call hphase]
  exact ⟨⟨h.client, h.unsubscribe, h.created, h.closed, h.subscribed, h.call, fun j hj =>
    ⟨(h.released j hj).silent, (h.released j hj).subscribed, (h.released j hj).closed⟩⟩, hphase⟩

/-- Timers and messages are no part of it. -/
theorem Holding.quieten {s : CallController} {k : Nat} (h : s.Holding k)
    (establishCap noAnswerTimer : Option String) (ringback : Bool) (error : Option String) :
    Holding { s with establishCap, noAnswerTimer, ringback, error } k :=
  ⟨h.client, h.unsubscribe, h.created, h.closed, h.subscribed, h.call, fun j hj =>
    ⟨(h.released j hj).silent, (h.released j hj).subscribed, (h.released j hj).closed⟩⟩

/-- The client that is held begins to connect, or connects. -/
theorem Holding.connects {s : CallController} {k : Nat} (h : s.Holding k) {state : WebRtcState}
    (hstate : state = .connecting ∨ state = .connected) :
    (s.setClientState k state).Holding k ∧ activePhase (s.setClientState k state).phase := by
  have hupdated := h.updateClient (f := ({ · with state })) (fun _ => rfl) fun _ => rfl
  rw [h.setClientState]
  obtain rfl | rfl := hstate
  · rw [applyWebRtcState_connecting hupdated.client]
    split
    · next hphase => exact ⟨hupdated, hphase.elim (fun hp => .inr (.inr hp)) fun hp => .inr (.inl hp)⟩
    · exact hupdated.setPhase_visible (.inl rfl)
  · rw [applyWebRtcState_connected hupdated.client]
    exact (hupdated.quieten none none false _).setPhase_visible (.inr (.inr rfl))

/-- The client that is held fails, and is no longer held. -/
theorem Holding.fails {s : CallController} {k : Nat} (h : s.Holding k) (hphase : s.phase ≠ .failed)
    (reason : FailureReason) : (s.setClientState k (.failed reason)).Session ∧
      (s.setClientState k (.failed reason)).client = none := by
  have hupdated := h.updateClient (f := ({ · with state := .failed reason })) (fun _ => rfl)
    fun _ => rfl
  rw [h.setClientState, applyWebRtcState_failed hupdated.client]
  exact (hupdated.quieten none _ _ _).setPhase_failed hphase

/-- Nobody hears a client that is not held. -/
theorem Released.setClientState {s : CallController} {k : Nat} (h : s.Released k)
    (state : WebRtcState) :
    s.setClientState k state = s.updateClient k ({ · with state }) := by
  rw [CallController.setClientState]
  simp only [updateClient, Function.update_self, h.subscribed, Bool.false_eq_true, if_false]

/-- A client that is not held changes its state. -/
theorem Session.updateState {s : CallController} (h : s.Session) {k : Nat}
    (hk : s.client ≠ some k) (state : WebRtcState) :
    (s.updateClient k ({ · with state })).Session := by
  refine ⟨h.unsubscribe, h.idle, fun j hj => ?_, fun j hj => ?_⟩
  · have hne : j ≠ k := fun heq => hk (heq ▸ hj)
    have hself := s.updateClient_clients_of_ne hne ({ · with state })
    obtain ⟨hcreated, hclosed, hsubscribed, call, hcall, hshown⟩ := h.held j hj
    refine ⟨hcreated, hself ▸ hclosed, hself ▸ hsubscribed, call, hcall, ?_⟩
    rw [hself]
    exact hshown
  · have hother := h.released j hj
    by_cases hne : j = k
    · subst hne
      have hself := s.updateClient_clients_self j ({ · with state })
      exact ⟨⟨by rw [hself]; exact hother.silent.localTrack, by rw [hself]; exact hother.silent.pc⟩,
        by rw [hself]; exact hother.subscribed, by rw [hself]; exact hother.closed⟩
    · have hself := s.updateClient_clients_of_ne hne ({ · with state })
      exact ⟨hself ▸ hother.silent, hself ▸ hother.subscribed, hself ▸ hother.closed⟩

theorem Session.phase_ne_failed {s : CallController} (h : s.Session) : s.phase ≠ .failed := by
  intro hphase
  cases hclient : s.client with
  | none => rw [h.idle hclient] at hphase; cases hphase
  | some k =>
    obtain ⟨call, -, (hp | hp | hp) | ⟨hp, -⟩⟩ := (h.held k hclient).call <;>
      rw [hphase] at hp <;> cases hp

/-- **A client's state changes.** -/
theorem Session.setClientState {s : CallController} (h : s.Session) (k : Nat) {state : WebRtcState}
    (hstate : state ≠ .disconnected) : (s.setClientState k state).Session := by
  by_cases hk : s.client = some k
  · have hholding := h.holding hk
    cases state with
    | disconnected => exact absurd rfl hstate
    | connecting =>
      have hconnects := hholding.connects (.inl rfl)
      exact hconnects.1.session hconnects.2
    | connected =>
      have hconnects := hholding.connects (.inr rfl)
      exact hconnects.1.session hconnects.2
    | failed reason => exact (hholding.fails h.phase_ne_failed reason).1
  · rw [(h.released k hk).setClientState]
    exact h.updateState hk state

theorem Session.clientFails {s : CallController} (h : s.Session) (k : Nat) (reason : FailureReason) :
    (s.setClientState k (.failed reason)).Session :=
  h.setClientState k fun heq => by cases heq

/-! ## The operations -/

/-- What the surfaces render besides, the timers and the requests are no part of it. -/
theorem Session.surface {s : CallController} (h : s.Session) (incoming : Option CallMetadata)
    (error warning : Option String) (heldElsewhere : List String)
    (establishCap noAnswerTimer : Option String) (ringtone ringback : Bool) (sent : List Request) :
    Session { s with
      incoming, error, warning, heldElsewhere, establishCap, noAnswerTimer, ringtone, ringback,
      sent } where
  unsubscribe := h.unsubscribe
  idle := h.idle
  held k hk :=
    have hheld := h.held k hk
    ⟨hheld.created, hheld.closed, hheld.subscribed, hheld.call⟩
  released k hk :=
    have hreleased := h.released k hk
    ⟨hreleased.silent, hreleased.subscribed, hreleased.closed⟩

/-- Other flows, with every attempt that waits for the microphone among them. -/
theorem Session.flows {s : CallController} (h : s.Session) (flows : List WebFlow)
    (hacquiring : ∀ k callId, s.Acquiring k callId → Acquiring { s with flows } k callId) :
    Session { s with flows } where
  unsubscribe := h.unsubscribe
  idle := h.idle
  held k hk := by
    obtain ⟨hcreated, hclosed, hsubscribed, call, hcall, hshown⟩ := h.held k hk
    exact ⟨hcreated, hclosed, hsubscribed, call, hcall, hshown.imp_right fun hidle =>
      ⟨hidle.1, hidle.2.1, hacquiring k _ hidle.2.2⟩⟩
  released k hk :=
    have hreleased := h.released k hk
    ⟨hreleased.silent, hreleased.subscribed, hreleased.closed⟩

theorem Session.start {s : CallController} (h : s.Session) (flow : WebFlow) : (s.start flow).Session :=
  h.flows _ fun _ _ hacquiring =>
    hacquiring.imp fun _ hmem => List.mem_append_left _ hmem

/-- No microphone is waited for where no client is held. -/
theorem Session.ended {s : CallController} (h : s.Session) (hnone : s.client = none)
    (flows : List WebFlow) : Session { s with flows } :=
  ((h.quiet hnone).store _ _ _ _ _ _ flows).session (h.idle hnone)

/-- **A session opens.** Where no client is held, the new one is the only one. -/
theorem Quiet.openSession {s : CallController} (h : s.Quiet) (hphase : s.phase = .idle)
    {call : CallMetadata} (hcall : s.call = some call) (direction : Direction) :
    (s.openSession call.callId direction).Session := by
  rw [openSession_eq (by rw [hphase]; exact nofun)]
  refine ⟨rfl, nofun, fun k hk => ?_, fun k hk => ?_⟩
  · cases hk
    exact ⟨Nat.lt_succ_self _, by simp [WebRtcClient.new], by simp, call, hcall,
      .inr ⟨hphase, ⟨by simp [WebRtcClient.new], by simp [WebRtcClient.new]⟩, direction, by simp⟩⟩
  · have hne : k ≠ s.created := fun heq => hk (congrArg some heq.symm)
    obtain ⟨⟨htrack, hpc⟩, hsubscribed, hclosed⟩ := h.released k
    refine ⟨⟨?_, ?_⟩, ?_, fun hlt => ?_⟩
    · simpa [hne] using htrack
    · simpa [hne] using hpc
    · simpa [hne] using hsubscribed
    · simpa [hne] using hclosed (Nat.lt_of_le_of_ne (Nat.le_of_lt_succ hlt) hne)

/-- The phase of a call that is on screen already. -/
theorem Session.setPhase {s : CallController} (h : s.Session) (hshown : activePhase s.phase)
    {phase : CallPhase} (hphase : activePhase phase) : (s.setPhase phase).Session := by
  cases hclient : s.client with
  | none =>
    rw [h.idle hclient] at hshown
    obtain hp | hp | hp := hshown <;> cases hp
  | some k =>
    have hset := (h.holding hclient).setPhase_visible hphase
    exact hset.1.session hset.2

/-- The microphone of the client that is held is granted. -/
theorem Session.micGranted {s : CallController} (h : s.Session) {k : Nat} (hk : s.client = some k) :
    (s.micGranted k).Holding k ∧ activePhase (s.micGranted k).phase := by
  have htrack := (h.holding hk).updateClient (f := ({ · with localTrack := true })) (fun _ => rfl)
    fun _ => rfl
  have hconnects := htrack.connects (.inl rfl)
  exact ⟨hconnects.1.updateClient (f := ({ · with pc := true })) (fun _ => rfl) fun _ => rfl,
    hconnects.2⟩

theorem Session.offerFails {s : CallController} (h : s.Session) (k : Nat) (callId : String)
    (direction : Direction) : (s.offerFails k callId direction).Session := by
  cases direction with
  | inbound => exact Session.resetToIdle (h.surface _ _ _ _ _ _ _ _ _) _
  | outbound => exact h.resetToIdle _

theorem Session.enterRinging {s : CallController} (h : s.Session) (callId : String) :
    (s.enterRinging callId).Session := by
  rw [CallController.enterRinging]
  split
  · next hringing =>
    have hshown : activePhase s.phase := by
      simp only [Bool.and_eq_true, Bool.or_eq_true, decide_eq_true_eq] at hringing
      exact hringing.2.imp_right .inl
    exact (h.setPhase hshown (.inr (.inl rfl))).surface _ _ _ _ _ _ _ _ _
  · exact h

theorem Session.reconciled {s : CallController} (h : s.Session) (calls : List ListedActive) :
    (s.reconciled calls).Session := by
  unfold CallController.reconciled
  extract_lets byId s₁ s₂
  have h₁ : s₁.Session := by
    dsimp only [s₁]
    split
    · exact h.resetToIdle none
    · exact h
  have h₂ : s₂.Session := by
    dsimp only [s₂]
    split
    · exact h₁.surface none _ _ _ _ _ false _ _
    · exact h₁
  split
  · split
    · exact h₂.surface _ _ _ _ _ _ _ _ _
    · exact h₂
  · exact h₂

/-! ## The run -/

/-- A continuation opens a session only where none is, and a microphone is granted only to the client
that is held. -/
def ResumesApart (s : CallController) : WebFlow → WebReply → Bool
  | .make .., .made (some _) _ _ => s.client = none
  | .createOffer k .getUserMedia _ _, .ok => s.client = some k
  | _, _ => true

/-- No session is opened beside another one, and no microphone is granted to a client that was left. -/
def SessionsApart (s : CallController) : WebEvent → Prop
  | .answer _ => s.isBusy = false → s.client = none
  | .resume i reply => ∀ flow ∈ s.flows[i]?, s.ResumesApart flow reply = true
  | _ => True

instance (s : CallController) : (event : WebEvent) → Decidable (s.SessionsApart event)
  | .answer _ => inferInstanceAs (Decidable (_ → _))
  | .resume i reply =>
    inferInstanceAs (Decidable (∀ flow ∈ s.flows[i]?, s.ResumesApart flow reply = true))
  | .placeCall .. | .decline _ | .hangup | .callEvent _ | .callCancelled .. | .reconcile
  | .wsDisconnected | .transport .. | .noAnswerExpires | .establishCapExpires => .isTrue trivial

theorem Session.answer {s : CallController} (h : s.Session) {callId : String}
    (hguard : s.isBusy = false → s.client = none) : (s.answer callId).Session := by
  rw [CallController.answer]
  split
  · exact h.surface _ _ _ _ _ _ _ _ _
  · next hbusy =>
    have hnone := hguard (Bool.eq_false_of_not_eq_true hbusy)
    have hquiet := (h.quiet hnone).store s.phase (some ⟨callId, .inbound,
      (s.incoming.filter (·.callId = callId)).bind (·.peerNumber), none⟩) none none none false s.flows
    exact hquiet.openSession (h.idle hnone) rfl .inbound

theorem Session.callMade {s : CallController} (h : s.Session) (hnone : s.client = none)
    (callId peerNumber fromNumber : String) : (s.callMade callId peerNumber fromNumber).Session := by
  have hquiet := (h.quiet hnone).store s.phase
    (some ⟨callId, .outbound, some peerNumber, some fromNumber⟩) none none s.warning s.ringtone s.flows
  exact hquiet.openSession (h.idle hnone) rfl .outbound

theorem Session.onOffer {s : CallController} (h : s.Session) (callId : String)
    (peerNumber : Option String) : (s.onOffer callId peerNumber).Session := by
  rw [CallController.onOffer]
  split
  · exact h.surface _ _ _ _ _ _ _ _ _
  · split
    · exact h.surface _ _ _ _ _ _ _ _ _
    · split
      · exact h
      · exact h.surface _ _ _ _ _ _ _ _ _

theorem Session.onCallEvent {s : CallController} (h : s.Session) (data : CallEvent) :
    (s.onCallEvent data).Session := by
  rw [CallController.onCallEvent]
  dsimp only
  split
  · exact h.onOffer _ _
  split
  · split
    · exact h.surface _ _ _ _ _ _ _ _ _
    · exact h
  split
  · exact Session.resetToIdle (h.surface _ _ _ _ _ _ _ _ _) _
  split
  · have hwritten : Session { s with noAnswerTimer := none, ringback := false } :=
      h.surface _ _ _ _ _ _ _ _ _
    split
    · next hphase =>
      exact hwritten.setPhase (hphase.elim (fun hp => .inr (.inl hp)) .inl) (.inr (.inr rfl))
    · exact hwritten
  · exact h

theorem Session.onCallCancelled {s : CallController} (h : s.Session) (callId : String)
    (reason : CancelReason) : (s.onCallCancelled callId reason).Session := by
  unfold CallController.onCallCancelled
  extract_lets s₁ call s₂
  have h₁ : s₁.Session := by
    dsimp only [s₁]
    split
    · exact h.surface _ _ _ _ _ _ _ _ _
    · exact h
  have h₂ : s₂.Session := by
    dsimp only [s₂]
    split
    · exact h₁.surface none _ _ _ _ _ false _ _
    · exact h₁
  split
  · exact h₂.resetToIdle none
  · exact h₂

theorem Session.onWsDisconnected {s : CallController} (h : s.Session) : s.onWsDisconnected.Session := by
  rw [CallController.onWsDisconnected]
  split
  · exact h.surface _ _ _ _ _ _ _ _ _
  split
  · exact h.resetToIdle _
  split
  · exact h.resetToIdle _
  · exact h

theorem Session.noAnswerExpires {s : CallController} (h : s.Session) (callId : String) :
    (s.noAnswerExpires callId).Session := by
  rw [CallController.noAnswerExpires]
  split
  · exact Session.resetToIdle (h.surface _ _ _ _ _ _ _ _ _) _
  · exact h.surface _ _ _ _ _ _ _ _ _

theorem Session.establishCapExpires {s : CallController} (h : s.Session) (callId : String) :
    (s.establishCapExpires callId).Session := by
  rw [CallController.establishCapExpires]
  split
  · exact Session.resetToIdle (h.surface _ _ _ _ _ _ _ _ _) _
  · exact h.surface _ _ _ _ _ _ _ _ _

theorem Session.hangup {s : CallController} (h : s.Session) : s.hangup.Session := by
  rw [CallController.hangup]
  split
  · split
    · exact h.resetToIdle _
    · exact h
  · exact Session.start (h.surface _ _ _ _ _ _ _ _ _) _

/-- A continuation. One that waited for the microphone leaves no session, or one on screen. -/
theorem Session.proceed {s : CallController} (h : s.Session) {flow : WebFlow} {reply : WebReply}
    {r : CallController × Option WebFlow} (hguard : s.ResumesApart flow reply = true)
    (hr : s.proceed flow reply = some r) :
    r.1.Session ∧ ∀ k callId direction, flow = .createOffer k .getUserMedia callId direction →
      r.1.client = none ∨ activePhase r.1.phase := by
  revert hr
  fun_cases CallController.proceed s flow reply <;> intro hr <;> cases hr
  case case4 => exact ⟨h.callMade (of_decide_eq_true hguard) .., by rintro _ _ _ ⟨⟩⟩
  case case5 k callId direction reason =>
    refine ⟨(h.clientFails k reason).offerFails k callId direction, fun _ _ _ _ => .inl ?_⟩
    cases direction <;> rfl
  case case6 k callId direction =>
    have hgranted := h.micGranted (of_decide_eq_true hguard)
    exact ⟨hgranted.1.session hgranted.2, fun _ _ _ _ => .inr hgranted.2⟩
  case case7 k callId direction =>
    exact ⟨(h.clientFails k _).offerFails k callId direction, by rintro _ _ _ ⟨⟩⟩
  case case20 callId direction loopback k =>
    refine ⟨?_, by rintro _ _ _ ⟨⟩⟩
    have hwarned : Session (if loopback then { s with warning := some "loopback-ice-candidate" }
        else s) := by
      split
      · exact h.surface _ _ _ _ _ _ _ _ _
      · exact h
    dsimp only
    split
    · exact hwarned.enterRinging callId
    · exact hwarned
  all_goals
    refine ⟨?_, by rintro _ _ _ ⟨⟩⟩
    first
    | exact h
    | exact h.resetToIdle _
    | exact h.surface _ _ _ _ _ _ _ _ _
    | exact (h.clientFails _ _).resetToIdle _
    | exact h.reconciled _

/-- The flow that was resumed is gone or goes on; the session does not need it. -/
theorem Session.advance {s : CallController} (h : s.Session) {i : Nat} {flow : WebFlow}
    (hflow : s.flows[i]? = some flow) (hacquired : ∀ k callId direction,
      flow = .createOffer k .getUserMedia callId direction → s.client = none ∨ activePhase s.phase)
    (next : Option WebFlow) : Session { s with flows := advance s.flows i next } := by
  by_cases hnone : s.client = none
  · exact h.ended hnone _
  obtain ⟨k, hk⟩ := Option.ne_none_iff_exists'.mp hnone
  by_cases hshown : activePhase s.phase
  · have hholding := h.holding hk
    exact Holding.session ⟨hk, hholding.unsubscribe, hholding.created, hholding.closed,
      hholding.subscribed, hholding.call, fun j hj => ⟨(hholding.released j hj).silent,
        (hholding.released j hj).subscribed, (hholding.released j hj).closed⟩⟩ hshown
  · refine h.flows _ fun k callId hacquiring => ?_
    obtain ⟨direction, hmem⟩ := hacquiring
    exact ⟨direction, mem_advance_of_ne hflow next hmem fun heq =>
      (hacquired k callId direction heq.symm).elim hnone hshown⟩

/-- **One event.** -/
theorem Session.step {s t : CallController} (h : s.Session) {event : WebEvent}
    (hguard : s.SessionsApart event) (hstep : webStep s event = some t) : t.Session := by
  cases event with
  | placeCall fromNumber toNumber =>
    cases hstep
    rw [CallController.placeCall]
    split
    · exact h.surface _ _ _ _ _ _ _ _ _
    · exact Session.start (h.surface _ _ _ _ _ _ _ _ _) _
  | answer callId =>
    cases hstep
    exact h.answer hguard
  | decline callId =>
    cases hstep
    rw [CallController.decline]
    dsimp only
    split <;> exact h.surface _ _ _ _ _ _ _ _ _
  | hangup => cases hstep; exact h.hangup
  | callEvent data => cases hstep; exact h.onCallEvent data
  | callCancelled callId reason => cases hstep; exact h.onCallCancelled callId reason
  | reconcile => cases hstep; exact Session.start (h.surface _ _ _ _ _ _ _ _ _) _
  | wsDisconnected => cases hstep; exact h.onWsDisconnected
  | transport k state =>
    obtain ⟨⟨-, htransport⟩, hset⟩ := Option.ite_none_right_eq_some.mp hstep
    cases hset
    refine h.setClientState k fun heq => ?_
    subst heq
    revert htransport
    cases (s.clients k).state <;> (intros; contradiction)
  | noAnswerExpires =>
    obtain ⟨callId, -, rfl⟩ := Option.map_eq_some_iff.mp hstep
    exact h.noAnswerExpires callId
  | establishCapExpires =>
    obtain ⟨callId, -, rfl⟩ := Option.map_eq_some_iff.mp hstep
    exact h.establishCapExpires callId
  | resume i reply =>
    rw [webStep] at hstep
    cases hflow : s.flows[i]? with
    | none => rw [hflow] at hstep; cases hstep
    | some flow =>
      rw [hflow] at hstep
      obtain ⟨r, hr, rfl⟩ := Option.map_eq_some_iff.mp hstep
      have hproceed := h.proceed (hguard flow (Option.mem_def.mpr hflow)) hr
      obtain ⟨started, hstarted⟩ := proceed_flows hr
      refine hproceed.1.advance ?_ hproceed.2 r.2
      rw [hstarted]
      exact (List.getElem?_append_left (List.getElem?_eq_some_iff.mp hflow).1).trans hflow

end CallController

open CallController

/-- Nothing is open or live out of sight. -/
structure Visible (s : CallController) : Prop where
  /-- A client that is not closed is the one held. -/
  held : ∀ k < s.created, (s.clients k).closed = false → s.client = some k
  /-- Its call is on screen or waits for the microphone. -/
  shown : ∀ k < s.created, (s.clients k).closed = false →
    ∃ call, s.call = some call ∧ (activePhase s.phase ∨ s.Acquiring k call.callId)
  idle : s.phase = .idle → ∀ k, (s.clients k).Silent

theorem CallController.Session.visible {s : CallController} (h : s.Session) : Visible s := by
  have hheld : ∀ k < s.created, (s.clients k).closed = false → s.client = some k := by
    intro k hk hopen
    by_contra hne
    rw [(h.released k hne).closed hk] at hopen
    cases hopen
  refine ⟨hheld, fun k hk hopen => ?_, fun hidle k => ?_⟩
  · obtain ⟨call, hcall, hshown⟩ := (h.held k (hheld k hk hopen)).call
    exact ⟨call, hcall, hshown.imp_right fun hwaits => hwaits.2.2⟩
  · by_cases hclient : s.client = some k
    · obtain ⟨call, -, hphase | hwaits⟩ := (h.held k hclient).call
      · rw [hidle] at hphase
        obtain hp | hp | hp := hphase <;> cases hp
      · exact hwaits.2.1
    · exact (h.released k hclient).silent

/-- **Session visibility.** In every state of a run whose sessions are apart. -/
theorem sessions_visible {events : List WebEvent} {s : CallController}
    (hguard : Guarded webStep SessionsApart init events) (hrun : exec webStep init events = some s) :
    Visible s :=
  Session.visible <|
    hguard.invariant (I := Session) (fun _ _ _ h hg hstep => h.step hg hstep) session_init hrun

/-- A call that is answered, and hung up from here. -/
theorem sessions_visible_call : ∃ s : CallController,
    exec webStep init [.answer "c", .resume 0 .ok, .resume 0 .ok, .resume 0 .ok, .hangup,
      .resume 1 .ok] = some s ∧ Visible s := by
  have hguard : Guarded webStep SessionsApart init [.answer "c", .resume 0 .ok, .resume 0 .ok,
      .resume 0 .ok, .hangup, .resume 1 .ok] := by decide
  exact ⟨_, rfl, sessions_visible hguard rfl⟩

/-- The call is cancelled while the browser still asks for the microphone, and then it is granted. -/
theorem microphone_stays_live : ¬ ∀ events s, exec webStep init events = some s → Visible s := by
  intro h
  have hvisible := h [.answer "c", .callCancelled "c" .answeredElsewhere, .resume 0 .ok] _ rfl
  exact absurd (hvisible.idle rfl 0).localTrack (by decide)

/-- A second answer replaces the client of the first, which stays open. -/
theorem two_clients : ¬ ∀ events s, exec webStep init events = some s → Visible s := by
  intro h
  have hvisible := h [.answer "c", .answer "c"] _ rfl
  exact absurd (hvisible.held 0 (by decide) (by decide)) (by decide)

end Svarla.Web
