import Mathlib
import Svarla.Lib.Run
import Svarla.Signaling.SocketBinding

/-!
# Events of a replaced socket

An event of a socket that is no longer the current one should leave its successor alone. The listeners
do not ask whose event it is: the close of a replaced socket drops the one in its place
(`close_of_replaced`). `Harmless` says when an event of such a socket disturbs nothing, and
`undisturbed_iff` that it is exact in every state a run can reach.
-/

namespace Svarla.Signaling

open Svarla.Lib Svarla.Delivery

/-- The socket an event belongs to: the one whose listener it is, whose message or connection started
the flow that goes on, or that the timer was started for. -/
def WsEvent.socket (s : WsHandler) : WsEvent → Option Nat
  | .message k _ _ | .close k | .error k | .pong k | .closing k => some k
  | .resume i _ _ => s.tasks[i]?.bind AuthTask.socket
  | .authTimeout => s.authTimeout
  | .challengeTimeout i => s.challengeTimeouts[i]?.join
  | .pingTick _ => s.pingInterval
  | .pongTimeout => s.pongTimeout
  | _ => none

namespace WsHandler

/-- The current socket, its authentication, the pending operations and the modem status are the
same. -/
structure Undisturbed (s s' : WsHandler) : Prop where
  ws_eq : s'.ws = s.ws
  authenticated_eq : s'.authenticated = s.authenticated
  pendingChallenge_eq : s'.pendingChallenge = s.pendingChallenge
  pendingOperations_eq : s'.pendingOperations = s.pendingOperations
  modemStatus_eq : s'.modemStatus = s.modemStatus

/-- There is no socket, and nothing of one. -/
structure Idle (s : WsHandler) : Prop where
  ws_eq : s.ws = none
  authenticated_eq : s.authenticated = false
  pendingChallenge_eq : s.pendingChallenge = none

/-- The message settles no pending operation, and reports no other status. -/
def Settled (s : WsHandler) : TelephonyMessage → Prop
  | .status data => s.modemStatus = some (handleStatus s.modemStatus data)
  | msg => ∀ id ∈ s.pendingOperations, msg.settles ≠ some id

end WsHandler

open WsHandler

/-- The condition on a flow of a replaced socket that goes on with the configuration it has read. -/
def HarmlessStage (P : Platform) (s : WsHandler) (now : Int) (nonce : List UInt8)
    (config : PairingConfig) : AuthStage → Prop
  | .initiate => truthy config.publicKey = none ∨
      s.pendingChallenge = some ⟨nonce, now + challengeExpiry⟩
  | .existingKey _ => truthy config.publicKey = none ∨ s.Idle
  | .storedSecret req => s.Idle ∨ ∃ stored ∈ truthy config.pairingSecret,
      P.toLowerCase stored = P.toLowerCase req.pairingSecret
  | .createdAt req _ => s.Idle ∨
      (¬ ∃ t ∈ config.pairingSecretCreatedAt, pairingSecretTTL < now - t) ∧
        (P.decodeBase64 req.publicKey).length = 32
  | .saveCleared _ _ _ => s.authenticated = true
  | .response _ => s.pendingChallenge = none ∧ (truthy config.publicKey = none → s.Idle)
  | _ => True

/-- The condition on an event of a replaced socket. -/
def Harmless (P : Platform) (s : WsHandler) : WsEvent → Prop
  | .close _ | .error _ => s.Idle ∧ s.pendingOperations = []
  | .message _ msg now =>
    match msg with
    | .invalid => True
    | .telephony msg => s.authenticated = false ∨ s.Settled msg
    | .authPair publicKey pairingSecret => s.Idle ∨ ¬ now - s.lastAuthAttempt < authRateLimit ∧
        (truthy publicKey).isSome ∧ (truthy pairingSecret).isSome
    | .authResponse signature => s.Idle ∨ ¬ now - s.lastAuthAttempt < authRateLimit ∧
        (truthy signature).isSome ∧ ∃ challenge ∈ s.pendingChallenge, ¬ challenge.expiresAt < now
  | .resume i now nonce => ∀ t config, s.tasks[i]? = some t → t.answer = some (some config) →
    HarmlessStage P s now nonce config t.stage
  | .challengeTimeout _ => s.pendingChallenge = none ∨ s.authenticated = true
  | _ => True

namespace WsHandler

variable {P : Platform}

/-! ## The timers -/

/-- The clearable timers are those of the current socket. -/
structure TimersOwned (s : WsHandler) : Prop where
  authTimeout : ∀ k ∈ s.authTimeout, s.ws = some k
  pingInterval : ∀ k ∈ s.pingInterval, s.ws = some k
  pongTimeout : ∀ k ∈ s.pongTimeout, s.ws = some k

/-- The timers that are left are old ones, and the socket is the same. -/
theorem TimersOwned.mono {s s' : WsHandler} (h : s.TimersOwned) (hws : s'.ws = s.ws)
    (hauth : ∀ k ∈ s'.authTimeout, k ∈ s.authTimeout)
    (hping : ∀ k ∈ s'.pingInterval, k ∈ s.pingInterval)
    (hpong : ∀ k ∈ s'.pongTimeout, k ∈ s.pongTimeout) : s'.TimersOwned :=
  ⟨fun k hk => hws.trans (h.authTimeout k (hauth k hk)),
    fun k hk => hws.trans (h.pingInterval k (hping k hk)),
    fun k hk => hws.trans (h.pongTimeout k (hpong k hk))⟩

/-- The timers are as they were, and so is the socket. -/
theorem TimersOwned.congr {s s' : WsHandler} (h : s.TimersOwned) (hws : s'.ws = s.ws)
    (hauth : s'.authTimeout = s.authTimeout) (hping : s'.pingInterval = s.pingInterval)
    (hpong : s'.pongTimeout = s.pongTimeout) : s'.TimersOwned :=
  h.mono hws (fun _ hk => hauth ▸ hk) (fun _ hk => hping ▸ hk) fun _ hk => hpong ▸ hk

/-- All timers are cleared. -/
theorem timersOwned_of_none {s : WsHandler} (hauth : s.authTimeout = none)
    (hping : s.pingInterval = none) (hpong : s.pongTimeout = none) : s.TimersOwned :=
  ⟨by simp [hauth], by simp [hping], by simp [hpong]⟩

/-- `closeExisting` clears all timers. -/
theorem timersOwned_closeExisting (s : WsHandler) : s.closeExisting.TimersOwned :=
  timersOwned_of_none rfl rfl rfl

/-- `handleDisconnect` clears all timers. -/
theorem timersOwned_handleDisconnect (s : WsHandler) : s.handleDisconnect.TimersOwned :=
  timersOwned_of_none rfl rfl rfl

/-- `sendMessage` touches none. -/
theorem TimersOwned.sendMessage {s : WsHandler} (h : s.TimersOwned) (msg : OutboundMessage) :
    (s.sendMessage msg).TimersOwned := by
  unfold WsHandler.sendMessage
  split
  · split
    · exact h.congr rfl rfl rfl rfl
    · exact h
  · exact h

/-- `handleAuthMessage` starts none. -/
theorem TimersOwned.handleAuthMessage {s : WsHandler} (h : s.TimersOwned) (k : Nat) (now : Int)
    (msg : InboundMessage) : (s.handleAuthMessage k now msg).TimersOwned := by
  unfold WsHandler.handleAuthMessage
  split
  · exact timersOwned_closeExisting _
  · cases msg with
    | invalid => exact h.congr rfl rfl rfl rfl
    | telephony msg => exact h.congr rfl rfl rfl rfl
    | authPair publicKey pairingSecret =>
      dsimp only
      split
      · exact h.congr rfl rfl rfl rfl
      · exact timersOwned_closeExisting _
    | authResponse signature =>
      dsimp only
      split
      · exact timersOwned_closeExisting _
      · exact timersOwned_closeExisting _
      · split
        · exact timersOwned_closeExisting _
        · exact h.congr rfl rfl rfl rfl

/-- `accept` clears one. -/
theorem TimersOwned.accept {s : WsHandler} (h : s.TimersOwned) (socket : Option Nat)
    (proof : Proof) : (s.accept socket proof).TimersOwned := by
  have hcleared : TimersOwned { s with
      authenticated := true, authTimeout := none, proofs := s.proofs ++ [(socket, proof)] } :=
    h.mono rfl (by rintro _ ⟨⟩) (fun _ hk => hk) fun _ hk => hk
  exact hcleared.sendMessage _

/-- A flow starts no clearable timer. -/
theorem TimersOwned.proceed {s : WsHandler} (h : s.TimersOwned) (socket : Option Nat) (now : Int)
    (nonce : List UInt8) (resumed : Resumed) :
    (s.proceed P socket now nonce resumed).1.TimersOwned := by
  cases resumed with
  | goOn stage => exact h
  | challenge =>
    have hpending : TimersOwned { s with
        pendingChallenge := some ⟨nonce, now + challengeExpiry⟩ } := h.congr rfl rfl rfl rfl
    exact (hpending.sendMessage (.authChallenge nonce)).congr rfl rfl rfl rfl
  | reject reason => exact timersOwned_closeExisting _
  | paired req stored => exact h.accept _ _
  | verify publicKey signature =>
    simp only [WsHandler.proceed]
    split
    · exact h
    · dsimp only
      split
      · have hspent : TimersOwned { s with pendingChallenge := none } := h.congr rfl rfl rfl rfl
        exact hspent.accept _ _
      · exact timersOwned_closeExisting _
  | done => exact h

/-- **Every event.** -/
theorem TimersOwned.step {s s' : WsHandler} (h : s.TimersOwned) {e : WsEvent}
    (hstep : wsStep P s e = some s') : s'.TimersOwned := by
  cases e with
  | connect =>
    cases hstep
    have hclosed : (if s.ws.isSome then s.closeExisting else s).pongTimeout = none := by
      split
      · rfl
      · next hnone =>
        cases hpong : s.pongTimeout with
        | none => rfl
        | some k => exact absurd (by rw [h.pongTimeout k hpong]; rfl) hnone
    refine ⟨?_, ?_, fun k hk => ?_⟩
    · rintro _ ⟨⟩
      rfl
    · rintro _ ⟨⟩
      rfl
    · rw [WsHandler.handleConnection, WsHandler.start] at hk
      dsimp only at hk
      rw [hclosed] at hk
      cases hk
  | message k msg now =>
    obtain ⟨-, hstep⟩ := Option.ite_none_right_eq_some.mp hstep
    cases hstep
    cases msg with
    | invalid => exact h
    | authPair publicKey pairingSecret => exact h.handleAuthMessage k now (.authPair ..)
    | authResponse signature => exact h.handleAuthMessage k now (.authResponse _)
    | telephony msg =>
      simp only [WsHandler.handleMessage]
      split
      · cases msg <;> exact h.congr rfl rfl rfl rfl
      · exact h
  | close k =>
    obtain ⟨-, hstep⟩ := Option.ite_none_right_eq_some.mp hstep
    cases hstep
    exact timersOwned_handleDisconnect _
  | error k =>
    obtain ⟨-, hstep⟩ := Option.ite_none_right_eq_some.mp hstep
    cases hstep
    exact timersOwned_handleDisconnect _
  | pong k =>
    obtain ⟨-, hstep⟩ := Option.ite_none_right_eq_some.mp hstep
    cases hstep
    exact h.mono rfl (fun _ hk => hk) (fun _ hk => hk) (by rintro _ ⟨⟩)
  | closing k => cases hstep; exact h.congr rfl rfl rfl rfl
  | storage i call =>
    simp only [wsStep] at hstep
    split at hstep
    · cases hstep
    · split at hstep <;> cases hstep
      exact h.congr rfl rfl rfl rfl
  | resume i now nonce =>
    simp only [wsStep] at hstep
    split at hstep
    · cases hstep
    · obtain ⟨answer, -, rfl⟩ := Option.map_eq_some_iff.mp hstep
      cases answer with
      | none => exact h.congr rfl rfl rfl rfl
      | some config => exact (h.proceed (P := P) _ now nonce _).congr rfl rfl rfl rfl
  | authTimeout =>
    obtain ⟨_, -, rfl⟩ := Option.map_eq_some_iff.mp hstep
    dsimp only
    split
    · exact h.mono rfl (by rintro _ ⟨⟩) (fun _ hk => hk) fun _ hk => hk
    · exact timersOwned_closeExisting _
  | challengeTimeout i =>
    obtain ⟨_, -, rfl⟩ := Option.map_eq_some_iff.mp hstep
    dsimp only
    split
    · exact timersOwned_closeExisting _
    · exact h.congr rfl rfl rfl rfl
  | pingTick throws =>
    obtain ⟨k, hk, rfl⟩ := Option.map_eq_some_iff.mp hstep
    split
    · dsimp only
      split
      · exact timersOwned_handleDisconnect _
      · split
        · exact h.congr rfl rfl rfl rfl
        · exact ⟨h.authTimeout, h.pingInterval, by
            rintro _ ⟨⟩
            exact h.pingInterval k hk⟩
    · exact h.mono rfl (fun _ hk => hk) (by rintro _ ⟨⟩) fun _ hk => hk
  | pongTimeout =>
    obtain ⟨_, -, rfl⟩ := Option.map_eq_some_iff.mp hstep
    exact timersOwned_of_none rfl rfl rfl
  | request requestId =>
    cases hstep
    split
    · exact h.congr rfl rfl rfl rfl
    · exact h
  | requestTimeout requestId => cases hstep; exact h.congr rfl rfl rfl rfl
  | stop => cases hstep; exact timersOwned_closeExisting _
  | resetPairing secret => cases hstep; exact timersOwned_of_none rfl rfl rfl

/-! ## What an event disturbs -/

theorem Undisturbed.refl (s : WsHandler) : Undisturbed s s := ⟨rfl, rfl, rfl, rfl, rfl⟩

/-- A state that is closed is undisturbed if it was closed before. -/
theorem undisturbed_closed_iff {s s' : WsHandler} (hws : s'.ws = none)
    (hauth : s'.authenticated = false) (hpending : s'.pendingChallenge = none)
    (hops : s'.pendingOperations = s.pendingOperations) (hstatus : s'.modemStatus = s.modemStatus) :
    Undisturbed s s' ↔ s.Idle := by
  constructor
  · rintro ⟨hws', hauth', hpending', -, -⟩
    exact ⟨hws'.symm.trans hws, hauth'.symm.trans hauth, hpending'.symm.trans hpending⟩
  · rintro ⟨hws', hauth', hpending'⟩
    exact ⟨hws.trans hws'.symm, hauth.trans hauth'.symm, hpending.trans hpending'.symm, hops, hstatus⟩

/-- `sendMessage` disturbs nothing. -/
theorem undisturbed_sendMessage (s : WsHandler) (msg : OutboundMessage) :
    Undisturbed s (s.sendMessage msg) := by
  unfold WsHandler.sendMessage
  split
  · split <;> exact ⟨rfl, rfl, rfl, rfl, rfl⟩
  · exact .refl s

/-- `auth_error` closes whatever is current. -/
theorem undisturbed_reject_iff {s s' : WsHandler} (reason : String)
    (hops : s'.pendingOperations = s.pendingOperations) (hstatus : s'.modemStatus = s.modemStatus) :
    Undisturbed s (s'.reject reason) ↔ s.Idle :=
  undisturbed_closed_iff rfl rfl rfl
    ((undisturbed_sendMessage s' _).pendingOperations_eq.trans hops)
    ((undisturbed_sendMessage s' _).modemStatus_eq.trans hstatus)

/-- The attempt is noted before the message is looked at. -/
theorem undisturbed_reject_attempt_iff (s : WsHandler) (now : Int) (reason : String) :
    Undisturbed s (reject { s with lastAuthAttempt := now } reason) ↔ s.Idle :=
  undisturbed_reject_iff reason rfl rfl

/-- `handleDisconnect`. -/
theorem undisturbed_handleDisconnect_iff {s s' : WsHandler}
    (hstatus : s'.modemStatus = s.modemStatus) :
    Undisturbed s s'.handleDisconnect ↔ s.Idle ∧ s.pendingOperations = [] := by
  constructor
  · rintro ⟨hws, hauth, hpending, hops, -⟩
    exact ⟨⟨hws.symm, hauth.symm, hpending.symm⟩, hops.symm⟩
  · rintro ⟨⟨hws, hauth, hpending⟩, hops⟩
    exact ⟨hws.symm, hauth.symm, hpending.symm, hops.symm, hstatus⟩

/-- `accept`. -/
theorem undisturbed_accept_iff (s : WsHandler) (socket : Option Nat) (proof : Proof) :
    Undisturbed s (s.accept socket proof) ↔ s.authenticated = true := by
  obtain ⟨hws, hauth, hpending, hops, hstatus⟩ := undisturbed_sendMessage { s with
    authenticated := true, authTimeout := none, proofs := s.proofs ++ [(socket, proof)] } .authSuccess
  constructor
  · intro h
    exact h.authenticated_eq.symm.trans hauth
  · intro h
    exact ⟨hws, hauth.trans h.symm, hpending, hops, hstatus⟩

/-- `issueChallenge`. -/
theorem undisturbed_issueChallenge_iff (s : WsHandler) (socket : Option Nat) (now : Int)
    (nonce : List UInt8) : Undisturbed s (s.issueChallenge socket now nonce) ↔
      s.pendingChallenge = some ⟨nonce, now + challengeExpiry⟩ := by
  obtain ⟨hws, hauth, hpending, hops, hstatus⟩ := undisturbed_sendMessage { s with
    pendingChallenge := some ⟨nonce, now + challengeExpiry⟩ } (.authChallenge nonce)
  constructor
  · intro h
    exact h.pendingChallenge_eq.symm.trans hpending
  · intro h
    exact ⟨hws, hauth, hpending.trans h.symm, hops, hstatus⟩

/-- `dispatchMessage`. -/
theorem undisturbed_dispatchMessage_iff (s : WsHandler) (k : Nat) (msg : TelephonyMessage) :
    Undisturbed s (s.dispatchMessage k msg) ↔ s.Settled msg := by
  have hfilter : ∀ msg : TelephonyMessage,
      (s.pendingOperations.filter fun id => some id != msg.settles) = s.pendingOperations ↔
        ∀ id ∈ s.pendingOperations, msg.settles ≠ some id := by
    intro msg
    rw [List.filter_eq_self]
    simp only [bne_iff_ne]
    exact forall₂_congr fun _ _ => ne_comm
  cases msg with
  | status data => exact ⟨fun h => h.modemStatus_eq.symm, fun h => ⟨rfl, rfl, rfl, rfl, h.symm⟩⟩
  | numberReport number =>
    exact ⟨fun _ _ _ => nofun, fun _ => ⟨rfl, rfl, rfl, rfl, rfl⟩⟩
  | callAck requestId =>
    exact ⟨fun h => (hfilter _).mp h.pendingOperations_eq,
      fun h => ⟨rfl, rfl, rfl, (hfilter (.callAck requestId)).mpr h, rfl⟩⟩
  | answerAck requestId =>
    exact ⟨fun h => (hfilter _).mp h.pendingOperations_eq,
      fun h => ⟨rfl, rfl, rfl, (hfilter (.answerAck requestId)).mpr h, rfl⟩⟩
  | smsResult requestId =>
    exact ⟨fun h => (hfilter _).mp h.pendingOperations_eq,
      fun h => ⟨rfl, rfl, rfl, (hfilter (.smsResult requestId)).mpr h, rfl⟩⟩
  | callState state requestId =>
    exact ⟨fun h => (hfilter _).mp h.pendingOperations_eq,
      fun h => ⟨rfl, rfl, rfl, (hfilter (.callState state requestId)).mpr h, rfl⟩⟩
  | other type =>
    exact ⟨fun h => (hfilter _).mp h.pendingOperations_eq,
      fun h => ⟨rfl, rfl, rfl, (hfilter (.other type)).mpr h, rfl⟩⟩

/-- A message of a replaced socket. -/
theorem undisturbed_handleMessage_iff (s : WsHandler) (k : Nat) (now : Int) (msg : InboundMessage) :
    Undisturbed s (s.handleMessage k now msg) ↔ Harmless P s (.message k msg now) := by
  cases msg with
  | invalid => exact iff_of_true (.refl s) trivial
  | telephony msg =>
    simp only [WsHandler.handleMessage, Harmless]
    split
    · next hauth =>
      rw [undisturbed_dispatchMessage_iff, hauth]
      exact (or_iff_right (by simp)).symm
    · next hauth => exact iff_of_true (.refl s) (.inl (by simpa using hauth))
  | authPair publicKey pairingSecret =>
    simp only [WsHandler.handleMessage, WsHandler.handleAuthMessage, Harmless]
    split
    · next hlimited =>
      exact (undisturbed_reject_iff _ rfl rfl).trans (or_iff_left fun h => h.1 hlimited).symm
    · next hallowed =>
      split
      · next hkey hsecret =>
        exact iff_of_true ⟨rfl, rfl, rfl, rfl, rfl⟩
          (.inr ⟨hallowed, by rw [hkey]; rfl, by rw [hsecret]; rfl⟩)
      · next hmissing =>
        refine (undisturbed_reject_attempt_iff s now _).trans (or_iff_left ?_).symm
        rintro ⟨-, hkey, hsecret⟩
        obtain ⟨key, hkey⟩ := Option.isSome_iff_exists.mp hkey
        obtain ⟨secret, hsecret⟩ := Option.isSome_iff_exists.mp hsecret
        exact hmissing key secret hkey hsecret
  | authResponse signature =>
    simp only [WsHandler.handleMessage, WsHandler.handleAuthMessage, Harmless]
    split
    · next hlimited =>
      exact (undisturbed_reject_iff _ rfl rfl).trans (or_iff_left fun h => h.1 hlimited).symm
    · next hallowed =>
      split
      · next hmissing =>
        refine (undisturbed_reject_attempt_iff s now _).trans (or_iff_left ?_).symm
        rintro ⟨-, hsignature, -⟩
        rw [hmissing] at hsignature
        cases hsignature
      · next hpending =>
        refine (undisturbed_reject_attempt_iff s now _).trans (or_iff_left ?_).symm
        rintro ⟨-, -, challenge, hchallenge, -⟩
        rw [hpending] at hchallenge
        cases hchallenge
      · next challenge hsignature hpending =>
        split
        · next hexpired =>
          refine (undisturbed_reject_attempt_iff s now _).trans (or_iff_left ?_).symm
          rintro ⟨-, -, challenge', hchallenge', hfresh⟩
          rw [hpending] at hchallenge'
          cases hchallenge'
          exact hfresh hexpired
        · next hfresh =>
          exact iff_of_true ⟨rfl, rfl, rfl, rfl, rfl⟩
            (.inr ⟨hallowed, by rw [hsignature]; rfl, challenge, hpending, hfresh⟩)

/-- The verification spends the challenge it finds. -/
theorem undisturbed_verify_iff (s : WsHandler) (socket : Option Nat) (now : Int)
    (nonce : List UInt8) (publicKey signature : String) :
    Undisturbed s (s.proceed P socket now nonce (.verify publicKey signature)).1 ↔
      s.pendingChallenge = none := by
  simp only [WsHandler.proceed]
  cases hpending : s.pendingChallenge with
  | none => exact iff_of_true (.refl s) rfl
  | some challenge =>
    refine iff_of_false (fun h => ?_) (by simp)
    have hspent := h.pendingChallenge_eq
    rw [hpending] at hspent
    dsimp only at hspent
    split at hspent
    · have haccept := (undisturbed_sendMessage { s with
        pendingChallenge := none
        authenticated := true
        authTimeout := none
        proofs := s.proofs ++ [(socket, .signature challenge.nonce publicKey signature)] }
        .authSuccess).pendingChallenge_eq
      cases haccept.symm.trans hspent
    · cases hspent

/-- A flow of a replaced socket goes on. -/
theorem undisturbed_proceed_iff {s : WsHandler} {i : Nat} {t : AuthTask}
    (ht : s.tasks[i]? = some t) {config : PairingConfig} (hanswer : t.answer = some (some config))
    (now : Int) (nonce : List UInt8) :
    Undisturbed s (s.proceed P t.socket now nonce (t.stage.resume P now config)).1 ↔
      Harmless P s (.resume i now nonce) := by
  have hharmless : ∀ {Q : AuthStage → PairingConfig → Prop}, Q t.stage config ↔
      ∀ t' config', s.tasks[i]? = some t' → t'.answer = some (some config') →
        Q t'.stage config' := by
    intro Q
    constructor
    · intro h t' config' ht' hanswer'
      cases ht.symm.trans ht'
      cases hanswer.symm.trans hanswer'
      exact h
    · exact fun h => h t config ht hanswer
  refine Iff.trans ?_ (hharmless (Q := fun stage config => HarmlessStage P s now nonce config stage))
  cases t.stage with
  | initiate =>
    simp only [AuthStage.resume, HarmlessStage]
    cases hkey : truthy config.publicKey with
    | none => exact iff_of_true (.refl s) (.inl rfl)
    | some key =>
      exact (undisturbed_issueChallenge_iff s t.socket now nonce).trans (or_iff_right (by simp)).symm
  | existingKey req =>
    simp only [AuthStage.resume, HarmlessStage]
    cases hkey : truthy config.publicKey with
    | none => exact iff_of_true (.refl s) (.inl rfl)
    | some key => exact (undisturbed_reject_iff _ rfl rfl).trans (or_iff_right (by simp)).symm
  | storedSecret req =>
    simp only [AuthStage.resume, HarmlessStage]
    cases hsecret : truthy config.pairingSecret with
    | none => exact (undisturbed_reject_iff _ rfl rfl).trans (or_iff_left (by simp)).symm
    | some stored =>
      dsimp only
      split
      · next hdiffers =>
        exact (undisturbed_reject_iff _ rfl rfl).trans (or_iff_left (by simpa using hdiffers)).symm
      · next hsame => exact iff_of_true (.refl s) (.inr ⟨stored, rfl, not_not.mp hsame⟩)
  | createdAt req stored =>
    simp only [AuthStage.resume, HarmlessStage]
    split
    · next hexpired =>
      exact (undisturbed_reject_iff _ rfl rfl).trans (or_iff_left fun h => h.1 hexpired).symm
    · next hfresh =>
      split
      · next hlength =>
        exact (undisturbed_reject_iff _ rfl rfl).trans (or_iff_left fun h => hlength h.2).symm
      · next hlength => exact iff_of_true (.refl s) (.inr ⟨hfresh, not_not.mp hlength⟩)
  | saveCleared req stored written => exact undisturbed_accept_iff s t.socket _
  | response signature =>
    simp only [AuthStage.resume, HarmlessStage]
    cases hkey : truthy config.publicKey with
    | none =>
      refine (undisturbed_reject_iff _ rfl rfl).trans ?_
      exact ⟨fun h => ⟨h.pendingChallenge_eq, fun _ => h⟩, fun h => h.2 rfl⟩
    | some key => exact (undisturbed_verify_iff s t.socket now nonce key signature).trans (by simp)
  | _ => exact iff_of_true (.refl s) trivial

/-- A new handler has no timers. -/
theorem timersOwned_init (config : PairingConfig) : (init config).TimersOwned :=
  timersOwned_of_none rfl rfl rfl

end WsHandler

/-! ## The exact condition -/

/-- **Events of a replaced socket.** In every state a run reaches, an event of a socket that is not the
current one leaves the current socket, its authentication, the pending operations and the modem status
as they are if and only if it is harmless there. -/
theorem undisturbed_iff (P : Platform) (config : PairingConfig) {es : List WsEvent} {s s' : WsHandler}
    {e : WsEvent} {k : Nat} (hrun : exec (wsStep P) (.init config) es = some s)
    (hsocket : e.socket s = some k) (hreplaced : s.ws ≠ some k) (hstep : wsStep P s e = some s') :
    Undisturbed s s' ↔ Harmless P s e := by
  have htimers : s.TimersOwned :=
    exec_invariant (fun _ _ _ h => h.step) (timersOwned_init config) hrun
  cases e with
  | message k' msg now =>
    obtain ⟨-, hstep⟩ := Option.ite_none_right_eq_some.mp hstep
    cases hstep
    exact undisturbed_handleMessage_iff s k' now msg
  | close k' =>
    obtain ⟨-, hstep⟩ := Option.ite_none_right_eq_some.mp hstep
    cases hstep
    exact undisturbed_handleDisconnect_iff rfl
  | error k' =>
    obtain ⟨-, hstep⟩ := Option.ite_none_right_eq_some.mp hstep
    cases hstep
    exact undisturbed_handleDisconnect_iff rfl
  | pong k' =>
    obtain ⟨-, hstep⟩ := Option.ite_none_right_eq_some.mp hstep
    cases hstep
    exact iff_of_true ⟨rfl, rfl, rfl, rfl, rfl⟩ trivial
  | closing k' => cases hstep; exact iff_of_true ⟨rfl, rfl, rfl, rfl, rfl⟩ trivial
  | resume i now nonce =>
    simp only [wsStep] at hstep
    split at hstep
    · cases hstep
    · next t ht =>
      obtain ⟨answer, hanswer, rfl⟩ := Option.map_eq_some_iff.mp hstep
      cases answer with
      | none =>
        -- the call threw: the flow ends
        refine iff_of_true ⟨rfl, rfl, rfl, rfl, rfl⟩ fun t' config' ht' hanswer' => ?_
        cases ht.symm.trans ht'
        cases hanswer.symm.trans hanswer'
      | some read =>
        refine Iff.trans ?_ (undisturbed_proceed_iff ht hanswer now nonce)
        constructor
        · rintro ⟨hws, hauth, hpending, hops, hstatus⟩
          exact ⟨hws, hauth, hpending, hops, hstatus⟩
        · rintro ⟨hws, hauth, hpending, hops, hstatus⟩
          exact ⟨hws, hauth, hpending, hops, hstatus⟩
  | challengeTimeout i =>
    obtain ⟨_, -, rfl⟩ := Option.map_eq_some_iff.mp hstep
    dsimp only
    split
    · next hlate =>
      rw [Bool.and_eq_true, Bool.not_eq_true'] at hlate
      have hreject : Undisturbed s (reject
          { s with challengeTimeouts := s.challengeTimeouts.eraseIdx i } "challenge_timeout") ↔
          s.Idle := undisturbed_reject_iff _ rfl rfl
      refine hreject.trans (iff_of_false (fun h => ?_) ?_)
      · rw [h.pendingChallenge_eq] at hlate
        exact absurd hlate.1 Bool.false_ne_true
      · rintro (h | h)
        · rw [h] at hlate
          exact absurd hlate.1 Bool.false_ne_true
        · rw [h] at hlate
          exact absurd hlate.2 Bool.false_ne_true.symm
    · next hlate =>
      refine iff_of_true ⟨rfl, rfl, rfl, rfl, rfl⟩ ?_
      cases hpending : s.pendingChallenge with
      | none => exact .inl hpending
      | some challenge =>
        rw [hpending] at hlate
        exact .inr (by simpa using hlate)
  -- the timers that are cleared with their socket
  | authTimeout => exact absurd (htimers.authTimeout k hsocket) hreplaced
  | pingTick throws => exact absurd (htimers.pingInterval k hsocket) hreplaced
  | pongTimeout => exact absurd (htimers.pongTimeout k hsocket) hreplaced
  | connect => cases hsocket
  | storage i call => cases hsocket
  | request requestId => cases hsocket
  | requestTimeout requestId => cases hsocket
  | stop => cases hsocket
  | resetPairing secret => cases hsocket

/-- Socket 1 takes the place of socket 0, and is paired. -/
def successorRun : List WsEvent :=
  [.connect] ++ flowOn 1 ++ [.connect] ++ flowOn 1 ++
    [.message 1 (.authPair (some zeroKey) (some "ABC123")) 5000] ++ flowOn 7

/-- **The close event of socket 0 drops socket 1.** -/
theorem close_of_replaced :
    ∃ s s', exec (wsStep oneKey) unpaired successorRun = some s ∧ s.ws = some 1 ∧
      s.authenticated = true ∧ wsStep oneKey s (.close 0) = some s' ∧ s'.ws = none ∧
      s'.authenticated = false ∧ ¬ Undisturbed s s' := by
  obtain ⟨s, s', hrun, hws, hauth, hstep, hws', hauth'⟩ : ∃ s s',
      exec (wsStep oneKey) unpaired successorRun = some s ∧ s.ws = some 1 ∧ s.authenticated = true ∧
      wsStep oneKey s (.close 0) = some s' ∧ s'.ws = none ∧ s'.authenticated = false :=
    ⟨_, _, rfl, rfl, rfl, rfl, rfl, rfl⟩
  exact ⟨s, s', hrun, hws, hauth, hstep, hws', hauth', fun h => nomatch h.ws_eq.symm.trans hws' ▸ hws⟩

/-- A message that is not JSON, from the socket that was replaced. -/
theorem undisturbed_iff_invalid :
    ∃ s s', exec (wsStep oneKey) unpaired successorRun = some s ∧
      wsStep oneKey s (.message 0 .invalid 7000) = some s' ∧ Undisturbed s s' := by
  obtain ⟨s, s', hrun, hws, hstep⟩ : ∃ s s', exec (wsStep oneKey) unpaired successorRun = some s ∧
      s.ws = some 1 ∧ wsStep oneKey s (.message 0 .invalid 7000) = some s' :=
    ⟨_, _, rfl, rfl, rfl⟩
  exact ⟨s, s', hrun, hstep,
    (undisturbed_iff oneKey _ hrun rfl (by rw [hws]; nofun) hstep).mpr trivial⟩

end Svarla.Signaling
