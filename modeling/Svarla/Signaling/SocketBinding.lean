import Svarla.Lib.Run
import Svarla.Signaling.WsHandler

/-!
# Which socket is authenticated

The handler credits a verification to the socket that is current when the verification ends, and
dispatches the messages of every socket it ever accepted. `authenticated_replaced` is a run in which a
socket is authenticated that never sent anything. Where a verification ends while its socket is still
the current one, and messages come from sockets that were verified, authentication is bound to the
socket (`authenticated_bound`).
-/

namespace Svarla.Signaling

open Svarla.Lib Svarla.Delivery

section
variable (P : Platform)

/-- A verification of a message of the socket, over what was sent to that socket. -/
def Proof.Correct (sent : List (Nat × OutboundMessage)) (k : Nat) : Proof → Prop
  | .pairing req stored => P.toLowerCase stored = P.toLowerCase req.pairingSecret
  | .signature nonce publicKey sig => (k, .authChallenge nonce) ∈ sent ∧
      P.verify nonce (P.decodeBase64 publicKey) (P.decodeBase64 sig)

/-- The socket has completed a pairing, or signed a challenge that was sent to it. -/
def WsHandler.Proven (s : WsHandler) (k : Nat) : Prop :=
  ∃ proof, (some k, proof) ∈ s.proofs ∧ proof.Correct P s.sent k

/-- The condition on an event: a verification that succeeds does so while its socket is the current
one, and the challenge was sent there; and while the handler is authenticated, a message comes from
the current socket or from one that succeeded before. -/
def SocketBound (s : WsHandler) : WsEvent → Prop
  | .message k (.telephony _) _ =>
    s.authenticated → s.ws = some k ∨ some k ∈ s.proofs.map Prod.fst
  | .resume i _ _ => ∀ t config, s.tasks[i]? = some t → t.answer = some (some config) →
    match t.stage with
    | .saveCleared _ _ _ => ∃ k, t.socket = some k ∧ s.ws = some k
    | .response signature => ∀ publicKey challenge, truthy config.publicKey = some publicKey →
        s.pendingChallenge = some challenge →
        P.verify challenge.nonce (P.decodeBase64 publicKey) (P.decodeBase64 signature) →
          ∃ k, t.socket = some k ∧ s.ws = some k ∧ (k, .authChallenge challenge.nonce) ∈ s.sent
    | _ => True
  | _ => True

/-- A flow that goes on to store a key has compared the secrets. -/
def AuthStage.Checked : AuthStage → Prop
  | .createdAt req stored | .loadForKey req stored | .saveKey req stored _
  | .loadForClear req stored | .saveCleared req stored _ =>
    P.toLowerCase stored = P.toLowerCase req.pairingSecret
  | _ => True

/-- What a run keeps. -/
structure WsHandler.Bound (s : WsHandler) : Prop where
  current : s.authenticated → ∃ k, s.ws = some k ∧ s.Proven P k
  proofs : ∀ k proof, (some k, proof) ∈ s.proofs → proof.Correct P s.sent k
  dispatched : ∀ d ∈ s.dispatched, s.Proven P d.1
  checked : ∀ t ∈ s.tasks, t.stage.Checked P

end

variable {P : Platform}

namespace WsHandler

/-- A message that is sent changes nothing else. -/
theorem sendMessage_eq (s : WsHandler) (msg : OutboundMessage) :
    ∃ new, s.sendMessage msg = { s with sent := s.sent ++ new } := by
  unfold sendMessage
  split
  · split
    · exact ⟨_, rfl⟩
    · exact ⟨[], by rw [List.append_nil]⟩
  · exact ⟨[], by rw [List.append_nil]⟩

end WsHandler

theorem Proof.Correct.mono {sent sent' : List (Nat × OutboundMessage)} {k : Nat} {proof : Proof}
    (h : proof.Correct P sent k) (hsent : ∀ m ∈ sent, m ∈ sent') : proof.Correct P sent' k := by
  cases proof with
  | pairing req stored => exact h
  | signature nonce publicKey signature => exact ⟨hsent _ h.1, h.2⟩

namespace WsHandler

theorem Proven.mono {s s' : WsHandler} {k : Nat} (h : s.Proven P k)
    (hsent : ∀ m ∈ s.sent, m ∈ s'.sent) (hproofs : ∀ p ∈ s.proofs, p ∈ s'.proofs) :
    s'.Proven P k := by
  obtain ⟨proof, hproof, hcorrect⟩ := h
  exact ⟨proof, hproofs _ hproof, hcorrect.mono hsent⟩

/-- What neither verifies nor dispatches, and authenticates nobody. -/
theorem Bound.frame {s s' : WsHandler} (h : s.Bound P)
    (hauth : s'.authenticated → s.authenticated ∧ s'.ws = s.ws)
    (hsent : ∃ new, s'.sent = s.sent ++ new) (hproofs : s'.proofs = s.proofs)
    (hdispatched : s'.dispatched = s.dispatched)
    (htasks : ∀ t ∈ s'.tasks, t ∈ s.tasks ∨ t.stage.Checked P) : s'.Bound P := by
  obtain ⟨new, hnew⟩ := hsent
  have hmono : ∀ m ∈ s.sent, m ∈ s'.sent := fun m hm => hnew ▸ List.mem_append_left _ hm
  have hsub : ∀ p ∈ s.proofs, p ∈ s'.proofs := fun p hp => hproofs ▸ hp
  refine ⟨fun hs' => ?_, fun k proof hproof => ?_, fun d hd => ?_, fun t ht => ?_⟩
  · obtain ⟨hs, hws⟩ := hauth hs'
    obtain ⟨k, hk, hproven⟩ := h.current hs
    exact ⟨k, hws.trans hk, hproven.mono hmono hsub⟩
  · exact (h.proofs k proof (hproofs ▸ hproof)).mono hmono
  · exact (h.dispatched d (hdispatched ▸ hd)).mono hmono hsub
  · exact (htasks t ht).elim (h.checked t) id

/-- `closeExisting`. -/
theorem Bound.closeExisting {s : WsHandler} (h : s.Bound P) : s.closeExisting.Bound P :=
  h.frame (fun hauth => nomatch hauth) ⟨[], (List.append_nil _).symm⟩ rfl rfl fun _ => .inl

/-- `handleDisconnect`. -/
theorem Bound.handleDisconnect {s : WsHandler} (h : s.Bound P) : s.handleDisconnect.Bound P :=
  h.frame (fun hauth => nomatch hauth) ⟨[], (List.append_nil _).symm⟩ rfl rfl fun _ => .inl

/-- `sendMessage`. -/
theorem Bound.sendMessage {s : WsHandler} (h : s.Bound P) (msg : OutboundMessage) :
    (s.sendMessage msg).Bound P := by
  obtain ⟨new, hnew⟩ := s.sendMessage_eq msg
  rw [hnew]
  exact h.frame (fun hauth => ⟨hauth, rfl⟩) ⟨new, rfl⟩ rfl rfl fun _ => .inl

/-- `auth_error`. -/
theorem Bound.reject {s : WsHandler} (h : s.Bound P) (reason : String) : (s.reject reason).Bound P :=
  (h.sendMessage _).closeExisting

/-- A flow begins with nothing checked. -/
theorem Bound.start {s : WsHandler} (h : s.Bound P) (socket : Option Nat) {stage : AuthStage}
    (hstage : stage.Checked P) : (s.start socket stage).Bound P := by
  refine h.frame (fun hauth => ⟨hauth, rfl⟩) ⟨[], (List.append_nil _).symm⟩ rfl rfl fun t ht => ?_
  exact (List.mem_append.mp ht).imp_right fun ht => by rw [List.mem_singleton.mp ht]; exact hstage

/-- A state that differs in what the invariant does not mention. -/
theorem Bound.congr {s s' : WsHandler} (h : s.Bound P) (hauth : s'.authenticated = s.authenticated)
    (hws : s'.ws = s.ws) (hsent : s'.sent = s.sent) (hproofs : s'.proofs = s.proofs)
    (hdispatched : s'.dispatched = s.dispatched) (htasks : s'.tasks = s.tasks) : s'.Bound P :=
  h.frame (fun h' => ⟨hauth ▸ h', hws⟩) ⟨[], hsent.trans (List.append_nil _).symm⟩ hproofs hdispatched
    fun _ ht => .inl (htasks ▸ ht)

/-- `handleConnection`. -/
theorem Bound.handleConnection {s : WsHandler} (h : s.Bound P) : s.handleConnection.Bound P := by
  unfold WsHandler.handleConnection
  refine Bound.start ?_ _ trivial
  have hclosed : (if s.ws.isSome then s.closeExisting else s).Bound P := by
    split
    · exact h.closeExisting
    · exact h
  exact hclosed.frame (fun hauth => nomatch hauth) ⟨[], (List.append_nil _).symm⟩ rfl rfl fun _ => .inl

/-- `handleAuthMessage`, up to its first `await`. -/
theorem Bound.handleAuthMessage {s : WsHandler} (h : s.Bound P) (k : Nat) (now : Int)
    (msg : InboundMessage) : (s.handleAuthMessage k now msg).Bound P := by
  have hnow : Bound P { s with lastAuthAttempt := now } := h.congr rfl rfl rfl rfl rfl rfl
  unfold WsHandler.handleAuthMessage
  split
  · exact h.reject _
  · cases msg with
    | invalid => exact hnow
    | telephony msg => exact hnow
    | authPair publicKey pairingSecret =>
      dsimp only
      split
      · exact hnow.start _ trivial
      · exact hnow.reject _
    | authResponse signature =>
      dsimp only
      split
      · exact hnow.reject _
      · exact hnow.reject _
      · split
        · exact hnow.reject _
        · exact hnow.start _ trivial

/-- `dispatchMessage`, of a socket that is verified. -/
theorem Bound.dispatchMessage {s : WsHandler} (h : s.Bound P) {k : Nat} (hk : s.Proven P k)
    (msg : TelephonyMessage) : (s.dispatchMessage k msg).Bound P := by
  have hlogged : Bound P { s with dispatched := s.dispatched ++ [(k, msg)] } := by
    refine ⟨h.current, h.proofs, fun d hd => ?_, h.checked⟩
    rcases List.mem_append.mp hd with hd | hd
    · exact h.dispatched d hd
    · rw [List.mem_singleton.mp hd]
      exact hk
  unfold WsHandler.dispatchMessage
  cases msg <;> exact hlogged.congr rfl rfl rfl rfl rfl rfl

/-- `accept`, while the socket is the current one. -/
theorem Bound.accept {s : WsHandler} (h : s.Bound P) {k : Nat} (hws : s.ws = some k) {proof : Proof}
    (hproof : proof.Correct P s.sent k) : (s.accept (some k) proof).Bound P := by
  have haccepted : Bound P { s with
      authenticated := true, authTimeout := none, proofs := s.proofs ++ [(some k, proof)] } := by
    refine ⟨fun _ => ⟨k, hws, proof, ?_, hproof⟩, fun k' proof' hmem => ?_, fun d hd => ?_,
      h.checked⟩
    · exact List.mem_append_right _ (List.mem_singleton_self _)
    · rcases List.mem_append.mp hmem with hmem | hmem
      · exact h.proofs k' proof' hmem
      · cases List.mem_singleton.mp hmem
        exact hproof
    · exact (h.dispatched d hd).mono (fun _ hm => hm) fun _ hp => List.mem_append_left _ hp
  exact haccepted.sendMessage _

/-- A flow goes on. -/
theorem Bound.proceed {s : WsHandler} (h : s.Bound P) {i : Nat} {t : AuthTask}
    (ht : s.tasks[i]? = some t) {config : PairingConfig} (hanswer : t.answer = some (some config))
    (now : Int) (nonce : List UInt8) (hguard : SocketBound P s (.resume i now nonce)) :
    (s.proceed P t.socket now nonce (t.stage.resume P now config)).1.Bound P ∧
      ∀ stage, (s.proceed P t.socket now nonce (t.stage.resume P now config)).2 = some stage →
        stage.Checked P := by
  have hchecked := h.checked t (List.mem_of_getElem? ht)
  have hkeeps := hguard t config ht hanswer
  cases hstage : t.stage with
  | initiate =>
    simp only [AuthStage.resume]
    split
    · have hpending : Bound P { s with pendingChallenge := some ⟨nonce, now + challengeExpiry⟩ } :=
        h.congr rfl rfl rfl rfl rfl rfl
      exact ⟨(hpending.sendMessage (.authChallenge nonce)).congr rfl rfl rfl rfl rfl rfl,
        by rintro _ ⟨⟩⟩
    · exact ⟨h, by rintro _ ⟨⟩⟩
  | existingKey req =>
    simp only [AuthStage.resume]
    split
    · exact ⟨h.reject _, by rintro _ ⟨⟩⟩
    · exact ⟨h, by rintro _ ⟨⟩; trivial⟩
  | storedSecret req =>
    simp only [AuthStage.resume]
    split
    · exact ⟨h.reject _, by rintro _ ⟨⟩⟩
    · split
      · exact ⟨h.reject _, by rintro _ ⟨⟩⟩
      · next hequal =>
        have hsame := Decidable.not_not.mp hequal
        exact ⟨h, by rintro _ ⟨⟩; exact hsame⟩
  | createdAt req stored =>
    rw [hstage] at hchecked
    simp only [AuthStage.resume]
    split
    · exact ⟨h.reject _, by rintro _ ⟨⟩⟩
    · split
      · exact ⟨h.reject _, by rintro _ ⟨⟩⟩
      · exact ⟨h, by rintro _ ⟨⟩; exact hchecked⟩
  | loadForKey req stored =>
    rw [hstage] at hchecked
    exact ⟨h, by rintro _ ⟨⟩; exact hchecked⟩
  | saveKey req stored saved =>
    rw [hstage] at hchecked
    exact ⟨h, by rintro _ ⟨⟩; exact hchecked⟩
  | loadForClear req stored =>
    rw [hstage] at hchecked
    exact ⟨h, by rintro _ ⟨⟩; exact hchecked⟩
  | saveCleared req stored saved =>
    rw [hstage] at hchecked hkeeps
    obtain ⟨k, hsocket, hws⟩ := hkeeps
    rw [hsocket]
    exact ⟨h.accept hws hchecked, by rintro _ ⟨⟩⟩
  | response signature =>
    rw [hstage] at hkeeps
    simp only [AuthStage.resume]
    split
    · exact ⟨h.reject _, by rintro _ ⟨⟩⟩
    · next publicKey hkey =>
      simp only [WsHandler.proceed]
      split
      · exact ⟨h, by rintro _ ⟨⟩⟩
      · next challenge hchallenge =>
        have hspent : Bound P { s with pendingChallenge := none } :=
          h.congr rfl rfl rfl rfl rfl rfl
        refine ⟨?_, by rintro _ ⟨⟩⟩
        dsimp only
        split
        · next hverify =>
          obtain ⟨k, hsocket, hws, hsent⟩ := hkeeps publicKey challenge hkey hchallenge hverify
          rw [hsocket]
          exact hspent.accept hws ⟨hsent, hverify⟩
        · exact hspent.reject _
  | loadForDelete secret => exact ⟨h, by rintro _ ⟨⟩; trivial⟩
  | saveDeleted secret saved => exact ⟨h, by rintro _ ⟨⟩; trivial⟩
  | loadForSecret secret time => exact ⟨h, by rintro _ ⟨⟩; trivial⟩
  | saveSecret saved => exact ⟨h, by rintro _ ⟨⟩⟩

/-- `resume`. -/
theorem Bound.resume {s : WsHandler} (h : s.Bound P) {i : Nat} {t : AuthTask}
    (ht : s.tasks[i]? = some t) {answer : Option PairingConfig} (hanswer : t.answer = some answer)
    (now : Int) (nonce : List UInt8) (hguard : SocketBound P s (.resume i now nonce)) :
    (s.resume P i t answer now nonce).Bound P := by
  cases answer with
  | none =>
    refine h.frame (fun hauth => ⟨hauth, rfl⟩) ⟨[], (List.append_nil _).symm⟩ rfl rfl fun t' ht' => ?_
    have hold : t' ∈ advance s.tasks i none := ht'
    exact .inl ((mem_advance hold).elim id (by rintro ⟨⟩))
  | some config =>
    obtain ⟨hbound, hstage⟩ := h.proceed ht hanswer now nonce hguard
    refine ⟨hbound.current, hbound.proofs, hbound.dispatched, fun t' ht' => ?_⟩
    rcases mem_advance ht' with ht' | ht'
    · exact h.checked t' ht'
    · obtain ⟨stage, hnext, rfl⟩ := Option.map_eq_some_iff.mp ht'
      exact hstage stage hnext

/-- **Every event that meets the condition keeps authentication bound to the socket.** -/
theorem Bound.step {s s' : WsHandler} (h : s.Bound P) {e : WsEvent} (he : SocketBound P s e)
    (hstep : wsStep P s e = some s') : s'.Bound P := by
  cases e with
  | connect => cases hstep; exact h.handleConnection
  | message k msg now =>
    obtain ⟨-, hstep⟩ := Option.ite_none_right_eq_some.mp hstep
    cases hstep
    cases msg with
    | invalid => exact h
    | authPair publicKey pairingSecret => exact h.handleAuthMessage k now (.authPair ..)
    | authResponse signature => exact h.handleAuthMessage k now (.authResponse _)
    | telephony msg =>
      simp only [WsHandler.handleMessage]
      split
      · next hauth =>
        refine h.dispatchMessage ?_ msg
        rcases he hauth with hws | hproof
        · obtain ⟨k', hws', hproven⟩ := h.current hauth
          cases hws.symm.trans hws'
          exact hproven
        · obtain ⟨⟨_, proof⟩, hmem, rfl⟩ := List.mem_map.mp hproof
          exact ⟨proof, hmem, h.proofs k proof hmem⟩
      · exact h
  | close k =>
    obtain ⟨-, hstep⟩ := Option.ite_none_right_eq_some.mp hstep
    cases hstep
    exact h.handleDisconnect.congr rfl rfl rfl rfl rfl rfl
  | error k =>
    obtain ⟨-, hstep⟩ := Option.ite_none_right_eq_some.mp hstep
    cases hstep
    exact h.handleDisconnect
  | pong k =>
    obtain ⟨-, hstep⟩ := Option.ite_none_right_eq_some.mp hstep
    cases hstep
    exact h.congr rfl rfl rfl rfl rfl rfl
  | closing k => cases hstep; exact h.congr rfl rfl rfl rfl rfl rfl
  | storage i call =>
    simp only [wsStep] at hstep
    split at hstep
    · cases hstep
    · next t ht =>
      split at hstep <;> cases hstep
      refine h.frame (fun hauth => ⟨hauth, rfl⟩) ⟨[], (List.append_nil _).symm⟩ rfl rfl
        fun t' ht' => ?_
      rcases List.mem_or_eq_of_mem_set ht' with ht' | rfl
      · exact .inl ht'
      · exact .inr (h.checked t (List.mem_of_getElem? ht) :)
  | resume i now nonce =>
    simp only [wsStep] at hstep
    split at hstep
    · cases hstep
    · next t ht =>
      obtain ⟨answer, hanswer, rfl⟩ := Option.map_eq_some_iff.mp hstep
      exact h.resume ht hanswer now nonce he
  | authTimeout =>
    obtain ⟨_, -, rfl⟩ := Option.map_eq_some_iff.mp hstep
    have hcleared : Bound P { s with authTimeout := none } := h.congr rfl rfl rfl rfl rfl rfl
    dsimp only
    split
    · exact hcleared
    · exact hcleared.reject _
  | challengeTimeout i =>
    obtain ⟨_, -, rfl⟩ := Option.map_eq_some_iff.mp hstep
    have hfired : Bound P { s with challengeTimeouts := s.challengeTimeouts.eraseIdx i } :=
      h.congr rfl rfl rfl rfl rfl rfl
    dsimp only
    split
    · exact hfired.reject _
    · exact hfired
  | pingTick throws =>
    obtain ⟨k, -, rfl⟩ := Option.map_eq_some_iff.mp hstep
    split
    · have hpinged : ∀ b, Bound P
          { (if s.pongReceived then s else { s with pongTimeout := some k }) with pongReceived := b } := by
        intro b
        split
        · exact h.congr rfl rfl rfl rfl rfl rfl
        · exact h.congr rfl rfl rfl rfl rfl rfl
      dsimp only
      split
      · exact (hpinged false).handleDisconnect
      · exact hpinged false
    · exact h.congr rfl rfl rfl rfl rfl rfl
  | pongTimeout =>
    obtain ⟨_, -, rfl⟩ := Option.map_eq_some_iff.mp hstep
    exact h.closeExisting.congr rfl rfl rfl rfl rfl rfl
  | request requestId =>
    cases hstep
    split
    · exact h.congr rfl rfl rfl rfl rfl rfl
    · exact h
  | requestTimeout requestId => cases hstep; exact h.congr rfl rfl rfl rfl rfl rfl
  | stop =>
    cases hstep
    exact h.closeExisting.congr rfl rfl rfl rfl rfl rfl
  | resetPairing secret =>
    cases hstep
    exact h.closeExisting.start _ trivial

/-- A new handler. -/
theorem bound_init (P : Platform) (config : PairingConfig) : (init config).Bound P :=
  ⟨fun h => (nomatch h), by simp [init], by simp [init], by simp [init]⟩

end WsHandler

/-- **Authentication is bound to the socket**, in a run whose events all meet the condition: whenever
the handler is authenticated the current socket itself has completed a pairing or signed a challenge
that was sent to it, and so has the socket of every message that was dispatched. -/
theorem authenticated_bound (P : Platform) (config : PairingConfig) {es : List WsEvent}
    {s : WsHandler} (hes : Guarded (wsStep P) (SocketBound P) (.init config) es)
    (hrun : exec (wsStep P) (.init config) es = some s) :
    (s.authenticated → ∃ k, s.ws = some k ∧ s.Proven P k) ∧ ∀ d ∈ s.dispatched, s.Proven P d.1 :=
  have hbound : s.Bound P := hes.invariant (fun _ _ _ h he hstep => h.step he hstep)
    (WsHandler.bound_init P config) hrun
  ⟨hbound.current, hbound.dispatched⟩

/-! ## A socket is replaced while it is verified -/

/-- The key of 32 zero bytes, in base64. -/
def zeroKey : String := "AAAAAAAAAAAAAAAAAAAAAAAAAAAAAAAAAAAAAAAAAAA="

/-- The platform, at one key and one secret. -/
def oneKey : Platform where
  toLowerCase text := if text = "ABC123" then "abc123" else text
  decodeBase64 text := if text = zeroKey then List.replicate 32 0 else []
  verify _ _ _ := false

/-- The database answers, and the first flow goes on, `n` times. -/
def flowOn (n : Nat) : List WsEvent :=
  (List.replicate n [WsEvent.storage 0 .done, .resume 0 5000 []]).flatten

/-- A gateway that is not paired yet, with a secret. -/
def unpaired : WsHandler := .init ⟨none, some "abc123", some 0⟩

/-- A status report. -/
def report : TelephonyMessage :=
  .status ⟨some 20, some "registered", some "Operator", none, none, none, none, none, none, none, none,
    none, none, none⟩

/-- Socket 0 sends a correct `auth_pair`, and socket 1 takes its place before the secret is compared;
then socket 1 reports a status. -/
def replacedRun : List WsEvent :=
  [.connect] ++ flowOn 1 ++ [.message 0 (.authPair (some zeroKey) (some "ABC123")) 5000] ++ flowOn 1 ++
    [.connect] ++ flowOn 6 ++ [.message 1 (.telephony report) 6000]

/-- **The wrong socket is authenticated.** Socket 1 never sent anything to be verified. -/
theorem authenticated_replaced :
    ∃ s, exec (wsStep oneKey) unpaired replacedRun = some s ∧ s.authenticated = true ∧
      s.ws = some 1 ∧ s.dispatched = [(1, report)] ∧ ¬ s.Proven oneKey 1 := by
  obtain ⟨s, hrun, hauth, hws, hdispatched, hproofs⟩ : ∃ s,
      exec (wsStep oneKey) unpaired replacedRun = some s ∧ s.authenticated = true ∧ s.ws = some 1 ∧
      s.dispatched = [(1, report)] ∧ s.proofs = [(some 0, .pairing ⟨zeroKey, "ABC123"⟩ "abc123")] :=
    ⟨_, rfl, rfl, rfl, rfl, rfl⟩
  refine ⟨s, hrun, hauth, hws, hdispatched, ?_⟩
  rintro ⟨proof, hproof, -⟩
  rw [hproofs] at hproof
  cases List.mem_singleton.mp hproof

/-- The same pairing, while nobody takes the place of socket 0. -/
def pairingRun : List WsEvent :=
  [.connect] ++ flowOn 1 ++ [.message 0 (.authPair (some zeroKey) (some "ABC123")) 5000] ++ flowOn 7

theorem guarded_pairingRun : Guarded (wsStep oneKey) (SocketBound oneKey) unpaired pairingRun := by
  refine ⟨trivial, fun s hs => ?_⟩
  cases hs
  refine ⟨trivial, fun s hs => ?_⟩
  cases hs
  refine ⟨fun t config ht _ => by cases ht; trivial, fun s hs => ?_⟩
  cases hs
  refine ⟨trivial, fun s hs => ?_⟩
  cases hs
  -- six calls before the last
  iterate 6
    refine ⟨trivial, fun s hs => ?_⟩
    cases hs
    refine ⟨fun t config ht _ => by cases ht; trivial, fun s hs => ?_⟩
    cases hs
  refine ⟨trivial, fun s hs => ?_⟩
  cases hs
  exact ⟨fun t config ht _ => by cases ht; exact ⟨0, rfl, rfl⟩, fun _ _ => trivial⟩

theorem authenticated_bound_pairing :
    ∃ s, exec (wsStep oneKey) unpaired pairingRun = some s ∧
      ∃ k, s.ws = some k ∧ s.Proven oneKey k := by
  obtain ⟨s, hrun, hauth⟩ : ∃ s, exec (wsStep oneKey) unpaired pairingRun = some s ∧
      s.authenticated = true := ⟨_, rfl, rfl⟩
  exact ⟨s, hrun, (authenticated_bound oneKey _ guarded_pairingRun hrun).1 hauth⟩

end Svarla.Signaling
