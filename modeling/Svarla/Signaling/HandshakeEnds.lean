import Svarla.Signaling.Handshake

/-!
# How a handshake ends

Two handshakes end well. A process without a secret signs the challenge of a server that has its key:
one thing after the other (`ChallengePhase`). A process with a secret pairs with a server that has no key
(`PairPhase`), while the server looks for a key once more for the connection itself (`InitPhase`). In
either, every step lowers a rank, and where nothing is left to do both sides have authenticated. A
process with a secret is refused by a server that has its key, and one without waits for a server that
has none.
-/

namespace Svarla.Signaling

open Svarla.Lib Svarla.Delivery Joint WsHandler

/-! ## Flows that nobody disturbs -/

/-- From `stage` and the configuration it finds, the flow comes to `fin` after `n` calls, and leaves
another configuration, if nobody else writes it. -/
inductive AuthStage.RunsTo (P : Platform) (t₀ t₁ : Int) (fin : Resumed) :
    AuthStage → PairingConfig → PairingConfig → Nat → Prop
  | last {stage : AuthStage} {config : PairingConfig}
      (hfin : ∀ now, t₀ ≤ now → now ≤ t₁ → stage.resume P now config = fin) :
      RunsTo P t₀ t₁ fin stage config (stage.writes.getD config) 1
  | call {stage next : AuthStage} {config left : PairingConfig} {n : Nat}
      (hnext : ∀ now, t₀ ≤ now → now ≤ t₁ → stage.resume P now config = .goOn next)
      (hrest : RunsTo P t₀ t₁ fin next (stage.writes.getD config) left n) :
      RunsTo P t₀ t₁ fin stage config left (n + 1)

section
variable {P : Platform} {t₀ t₁ : Int}

/-- **A pairing.** -/
theorem pairing_runsTo {config : PairingConfig} {req : PairRequest} {stored : String}
    (hkey : truthy config.publicKey = none) (hstored : truthy config.pairingSecret = some stored)
    (hsame : P.toLowerCase stored = P.toLowerCase req.pairingSecret)
    (hunexpired : ¬ ∃ t ∈ config.pairingSecretCreatedAt, pairingSecretTTL < t₁ - t)
    (hlength : (P.decodeBase64 req.publicKey).length = 32) :
    AuthStage.RunsTo P t₀ t₁ (.paired req stored) (.existingKey req) config
      ⟨some req.publicKey, none, none⟩ 7 := by
  have hfresh : ∀ now, now ≤ t₁ →
      ¬ ∃ t ∈ config.pairingSecretCreatedAt, pairingSecretTTL < now - t := by
    rintro now hto ⟨t, ht, hexpired⟩
    exact hunexpired ⟨t, ht, by omega⟩
  have hexisting : ∀ now, t₀ ≤ now → now ≤ t₁ →
      (AuthStage.existingKey req).resume P now config = .goOn (.storedSecret req) :=
    fun now _ _ => by simp [AuthStage.resume, hkey]
  have hsecret : ∀ now, t₀ ≤ now → now ≤ t₁ →
      (AuthStage.storedSecret req).resume P now config = .goOn (.createdAt req stored) :=
    fun now _ _ => by simp [AuthStage.resume, hstored, hsame]
  have hcreated : ∀ now, t₀ ≤ now → now ≤ t₁ →
      (AuthStage.createdAt req stored).resume P now config = .goOn (.loadForKey req stored) := by
    intro now _ hto
    rw [AuthStage.resume]
    exact (if_neg (hfresh now hto)).trans (if_neg (not_not.mpr hlength))
  exact .call hexisting (.call hsecret (.call hcreated (.call (fun _ _ _ => rfl)
    (.call (fun _ _ _ => rfl) (.call (fun _ _ _ => rfl) (.last fun _ _ _ => rfl))))))

/-! ## The state of a handshake -/

/-- The gateway `p` is on the connection `c`, which is the server's current one, and the server has
these flows. -/
structure Handshaking (p : Process P) (c : Connection) (tasks : List AuthTask) (s : Joint P) :
    Prop where
  process : s.process = some { p with connection := some c }
  ws : s.server.ws = some c.socket
  isOpen : s.server.isOpen c.socket = true
  bound : c.socket < s.server.sockets
  tasks : s.server.tasks = tasks

variable {p : Process P} {c c' : Connection} {tasks tasks' : List AuthTask} {s : Joint P}

/-- The gateway does something. -/
theorem Handshaking.withConnection (h : Handshaking p c tasks s) (hsocket : c'.socket = c.socket) :
    Handshaking p c' tasks (s.withConnection { p with connection := some c } (some c')) where
  process := rfl
  ws := hsocket ▸ h.ws
  isOpen := hsocket ▸ h.isOpen
  bound := hsocket ▸ h.bound
  tasks := h.tasks

/-- The server does something, and sends the gateway `new`. -/
theorem Handshaking.serverTo (h : Handshaking p c tasks s) (new : List OutboundMessage)
    {server : WsHandler} (hsent : server.sent = s.server.sent ++ new.map (c.socket, ·))
    (hws : server.ws = s.server.ws) (hopen : server.isOpen = s.server.isOpen)
    (hsockets : server.sockets = s.server.sockets) (htasks : server.tasks = tasks') :
    Handshaking p { c with inbox := c.inbox ++ new } tasks' (s.serverTo server) where
  process := by
    have hnew : sentBetween s.server server c.socket = new := by
      rw [sentBetween, hsent, List.drop_left, List.filter_map, List.map_map]
      simp
    simp [Joint.serverTo, h.process, hnew]
  ws := hws.trans h.ws
  isOpen := (congrFun hopen _).trans h.isOpen
  bound := by rw [show (s.serverTo server).server.sockets = s.server.sockets from hsockets]; exact h.bound
  tasks := htasks

/-- The server does something, and sends nothing. -/
theorem Handshaking.serverTo_silent (h : Handshaking p c tasks s) {server : WsHandler}
    (hsent : server.sent = s.server.sent) (hws : server.ws = s.server.ws)
    (hopen : server.isOpen = s.server.isOpen) (hsockets : server.sockets = s.server.sockets)
    (htasks : server.tasks = tasks') : Handshaking p c tasks' (s.serverTo server) := by
  have hnone := h.serverTo [] (by simpa using hsent) hws hopen hsockets htasks
  rwa [List.append_nil] at hnone

/-- A message arrives at the server, which sends nothing. -/
theorem Handshaking.deliver (h : Handshaking p c tasks s) (rest : List InboundMessage)
    {server : WsHandler} (hsent : server.sent = s.server.sent) (hws : server.ws = s.server.ws)
    (hopen : server.isOpen = s.server.isOpen) (hsockets : server.sockets = s.server.sockets)
    (htasks : server.tasks = tasks') :
    Handshaking p { c with outbox := rest } tasks' ((s.withConnection { p with connection := some c }
      (some { c with outbox := rest })).serverTo server) := by
  have hrest : Handshaking p { c with outbox := rest } tasks
      (s.withConnection { p with connection := some c } (some { c with outbox := rest })) :=
    h.withConnection rfl
  exact hrest.serverTo_silent hsent hws hopen hsockets htasks

/-- A message to the current socket is sent. -/
theorem Handshaking.sendMessage (h : Handshaking p c tasks s) (server : WsHandler)
    (hws : server.ws = s.server.ws) (hopen : server.isOpen = s.server.isOpen) (msg : OutboundMessage) :
    server.sendMessage msg = { server with sent := server.sent ++ [(c.socket, msg)] } := by
  unfold WsHandler.sendMessage
  rw [hws, h.ws]
  dsimp only
  rw [hopen, h.isOpen]
  rfl

/-- The database answers a flow. -/
theorem Handshaking.storage (h : Handshaking p c tasks s) (i : Nat) (t : AuthTask) :
    Handshaking p c (advance tasks i (some { t with answer := some (some s.server.config) }))
      (s.serverTo (s.server.storage i t .done)) :=
  h.serverTo_silent rfl rfl rfl rfl (by rw [WsHandler.storage, h.tasks]; rfl)

/-- An `auth_pair` that is not rate limited starts a flow. -/
theorem handleMessage_authPair {server : WsHandler} {k : Nat} {now : Int}
    {publicKey pairingSecret : String} (hlimit : ¬ now - server.lastAuthAttempt < authRateLimit)
    (hkey : publicKey ≠ "") (hsecret : pairingSecret ≠ "") :
    server.handleMessage k now (.authPair (some publicKey) (some pairingSecret)) =
      { server with
        lastAuthAttempt := now
        tasks := server.tasks ++ [⟨some k, .existingKey ⟨publicKey, pairingSecret⟩, none⟩] } := by
  have hkey' : truthy (some publicKey) = some publicKey := by simp [truthy, hkey]
  have hsecret' : truthy (some pairingSecret) = some pairingSecret := by simp [truthy, hsecret]
  simp only [handleMessage, handleAuthMessage, if_neg hlimit, hkey', hsecret']
  rfl

/-- And so does the answer to a challenge that has not expired. -/
theorem handleMessage_authResponse {server : WsHandler} {k : Nat} {now : Int} {signature : String}
    {challenge : Challenge} (hlimit : ¬ now - server.lastAuthAttempt < authRateLimit)
    (hsignature : signature ≠ "") (hpending : server.pendingChallenge = some challenge)
    (hunexpired : ¬ challenge.expiresAt < now) :
    server.handleMessage k now (.authResponse (some signature)) =
      { server with
        lastAuthAttempt := now
        tasks := server.tasks ++ [⟨some k, .response signature, none⟩] } := by
  have hsignature' : truthy (some signature) = some signature := by simp [truthy, hsignature]
  simp only [handleMessage, handleAuthMessage, if_neg hlimit, hsignature', hpending,
    if_neg hunexpired]
  rfl

/-! ## A process that pairs -/

/-- How far the pairing is, and how many steps are left of it: on the connection `c`, with the server
`server` and the flow of the `auth_pair`, if there is one. The configuration it is to leave is
`left`. -/
inductive PairPhase (P : Platform) (t₀ t₁ : Int) (k : Nat) (req : PairRequest) (stored : String)
    (left : PairingConfig) : Connection → WsHandler → Option AuthTask → Nat → Prop
  | due {server : WsHandler} (hlimit : ¬ t₀ - server.lastAuthAttempt < authRateLimit)
      (hrun : AuthStage.RunsTo P t₀ t₁ (.paired req stored) (.existingKey req) server.config left 7) :
      PairPhase P t₀ t₁ k req stored left ⟨k, true, [], [], []⟩ server none 17
  | sent {server : WsHandler} (hlimit : ¬ t₀ - server.lastAuthAttempt < authRateLimit)
      (hrun : AuthStage.RunsTo P t₀ t₁ (.paired req stored) (.existingKey req) server.config left 7) :
      PairPhase P t₀ t₁ k req stored left
        ⟨k, false, [.authPair (some req.publicKey) (some req.pairingSecret)], [], []⟩ server none 16
  | waiting {server : WsHandler} {stage : AuthStage} {n : Nat}
      (hrun : AuthStage.RunsTo P t₀ t₁ (.paired req stored) stage server.config left n) :
      PairPhase P t₀ t₁ k req stored left ⟨k, false, [], [], []⟩ server
        (some ⟨some k, stage, none⟩) (2 * n + 1)
  | answered {server : WsHandler} {stage : AuthStage} {config : PairingConfig} {n : Nat}
      (hrun : AuthStage.RunsTo P t₀ t₁ (.paired req stored) stage config left n)
      (hconfig : server.config = stage.writes.getD config) :
      PairPhase P t₀ t₁ k req stored left ⟨k, false, [], [], []⟩ server
        (some ⟨some k, stage, some (some config)⟩) (2 * n)
  | accepted {server : WsHandler} (hauth : server.authenticated = true) :
      PairPhase P t₀ t₁ k req stored left ⟨k, false, [], [.authSuccess], []⟩ server none 1
  | done {server : WsHandler} (hauth : server.authenticated = true) :
      PairPhase P t₀ t₁ k req stored left ⟨k, false, [], [], [.authSuccess]⟩ server none 0

/-- The server looks for a key for the connection itself: it found none before the pairing stored one,
as the database takes the flow that began first before the other. -/
inductive InitPhase (k : Nat) (server : WsHandler) (pairing : Option AuthTask) :
    Option AuthTask → Nat → Prop
  | waiting (hkey : truthy server.config.publicKey = none) (hpairing : ∀ t ∈ pairing, t.answer = none) :
      InitPhase k server pairing (some ⟨some k, .initiate, none⟩) 2
  | answered {config : PairingConfig} (hkey : truthy config.publicKey = none) :
      InitPhase k server pairing (some ⟨some k, .initiate, some (some config)⟩) 1
  | gone : InitPhase k server pairing none 0

/-- A pairing at work. -/
def PairingUp (P : Platform) (t₀ t₁ : Int) (p : Process P) (k : Nat) (req : PairRequest)
    (stored : String) (left : PairingConfig) (n : Nat) (s : Joint P) : Prop :=
  ∃ c a b n₁ n₂, n = n₁ + n₂ ∧ Handshaking p c (a.toList ++ b.toList) s ∧
    InitPhase k s.server b a n₁ ∧ PairPhase P t₀ t₁ k req stored left c s.server b n₂

variable {k : Nat} {req : PairRequest} {stored : String} {left : PairingConfig}

theorem PairPhase.congr {server server' : WsHandler} {b : Option AuthTask} {n : Nat}
    (h : PairPhase P t₀ t₁ k req stored left c server b n) (hconfig : server'.config = server.config)
    (hlast : server'.lastAuthAttempt = server.lastAuthAttempt)
    (hauth : server'.authenticated = server.authenticated) :
    PairPhase P t₀ t₁ k req stored left c server' b n := by
  cases h with
  | due hlimit hrun => exact .due (hlast ▸ hlimit) (hconfig ▸ hrun)
  | sent hlimit hrun => exact .sent (hlast ▸ hlimit) (hconfig ▸ hrun)
  | waiting hrun => exact .waiting (hconfig ▸ hrun)
  | answered hrun hwritten => exact .answered hrun (hconfig.trans hwritten)
  | accepted h => exact .accepted (hauth.trans h)
  | done h => exact .done (hauth.trans h)

/-- **Every step of a pairing.** -/
theorem PairingUp.step (hreq : req = ⟨p.identity.publicKey, p.pairingSecret⟩)
    (hsecret : p.pairingSecret ≠ "") {n : Nat} {s t : Joint P}
    (h : PairingUp P t₀ t₁ p k req stored left n s) (hstep : HandshakeStep t₀ t₁ s t) :
    ∃ m, m < n ∧ PairingUp P t₀ t₁ p k req stored left m t := by
  obtain ⟨c, a, b, n₁, n₂, rfl, hs, ha, hb⟩ := h
  cases (handshakeStep_iff hs.process rfl).mp hstep with
  | sendPairRequest hdue =>
    cases hb with
    | due hlimit hrun =>
      refine ⟨n₁ + 16, by omega, _, a, none, n₁, 16, rfl, hs.withConnection rfl, ha, ?_⟩
      rw [hreq] at hrun ⊢
      exact .sent hlimit hrun
    | _ => cases hdue
  | @deliver now msg rest hfrom hto houtbox hsocket =>
    cases hb with
    | sent hlimit hrun =>
      cases houtbox
      have hallowed : ¬ now - s.server.lastAuthAttempt < authRateLimit := by omega
      have hstart : s.server.handleMessage k now
          (.authPair (some req.publicKey) (some req.pairingSecret)) =
          { s.server with
            lastAuthAttempt := now
            tasks := s.server.tasks ++ [⟨some k, .existingKey req, none⟩] } := by
        subst hreq
        exact handleMessage_authPair hallowed p.identity.publicKey_ne hsecret
      rw [hstart]
      refine ⟨n₁ + 15, by omega, ⟨k, false, [], [], []⟩, a, some ⟨some k, .existingKey req, none⟩, n₁,
        15, rfl, hs.deliver [] rfl rfl rfl rfl ?_, ?_, ?_⟩
      · dsimp only
        rw [hs.tasks]
        exact congrArg (· ++ _) (List.append_nil _)
      · cases ha with
        | waiting hkey _ => exact .waiting hkey (by rintro _ ⟨⟩; rfl)
        | answered hkey => exact .answered hkey
        | gone => exact .gone
      · exact show PairPhase P t₀ t₁ k req stored left ⟨k, false, [], [], []⟩ { s.server with
            lastAuthAttempt := now
            tasks := s.server.tasks ++ [⟨some k, .existingKey req, none⟩] } _ (2 * 7 + 1) from
          .waiting hrun
    | _ => cases houtbox
  | receive hinbox =>
    cases hb with
    | accepted hauth =>
      cases hinbox
      exact ⟨n₁ + 0, by omega, _, a, none, n₁, 0, rfl, hs.withConnection rfl, ha, .done hauth⟩
    | _ => cases hinbox
  | @storage i t ht hanswer hfirst =>
    rw [hs.tasks] at ht hfirst
    have hs' := hs.storage i t
    rcases advance_two ht with ⟨rfl, -, hadvance⟩ | ⟨rfl, hi, hadvance⟩
    · -- the search for a key
      rw [hadvance] at hs'
      cases ha with
      | waiting hkey hpairing =>
        exact ⟨1 + n₂, by omega, c, _, b, 1, n₂, rfl, hs', .answered hkey, hb.congr rfl rfl rfl⟩
      | answered hkey => cases hanswer
    · rw [hadvance] at hs'
      -- the flow of the `auth_pair`: the search was answered before
      have ha' : ∀ server' b', InitPhase k server' b' a n₁ := by
        intro server' b'
        cases ha with
        | waiting hkey hpairing =>
          have hfirst := hfirst 0 (by rw [hi]; exact Nat.zero_lt_one) _ rfl
          cases hfirst
        | answered hkey => exact .answered hkey
        | gone => exact .gone
      cases hb with
      | waiting hrun =>
        rename_i stage m
        exact ⟨n₁ + 2 * m, by omega, _, a, _, n₁, 2 * m, rfl, hs', ha' _ _, .answered hrun rfl⟩
      | answered hrun hconfig => cases hanswer
  | @resume i t answer now nonce ht hanswer hfrom hto =>
    rw [hs.tasks] at ht
    rcases advance_two ht with ⟨rfl, -, hadvance⟩ | ⟨rfl, hi, hadvance⟩
    · cases ha with
      | waiting hkey hpairing => cases hanswer
      | @answered config hkey =>
        cases hanswer
        have hdone : s.server.resume P i ⟨some k, .initiate, some (some config)⟩ (some config) now nonce =
            { s.server with tasks := advance s.server.tasks i none } := by
          simp [WsHandler.resume, AuthStage.resume, hkey, WsHandler.proceed]
        rw [hdone]
        refine ⟨0 + n₂, by omega, c, none, b, 0, n₂, rfl,
          hs.serverTo_silent rfl rfl rfl rfl ?_, .gone, hb.congr rfl rfl rfl⟩
        dsimp only
        rw [hs.tasks, hadvance]
    · cases hb with
      | waiting hrun => cases hanswer
      | @answered _ stage config m hrun hconfig =>
        cases hanswer
        have ha' : ∀ server' b', InitPhase k server' b' a n₁ := by
          intro server' b'
          cases ha with
          | waiting hkey hpairing => cases hpairing _ rfl
          | answered hkey => exact .answered hkey
          | gone => exact .gone
        cases hrun with
        | last hfin =>
          have haccept : s.server.resume P i ⟨some k, stage, some (some config)⟩ (some config) now
              nonce = { s.server with
                authenticated := true
                authTimeout := none
                proofs := s.server.proofs ++ [(some k, .pairing req stored)]
                sent := s.server.sent ++ [(k, .authSuccess)]
                tasks := advance s.server.tasks i none } := by
            have hsent := hs.sendMessage { s.server with
              authenticated := true
              authTimeout := none
              proofs := s.server.proofs ++ [(some k, .pairing req stored)] } rfl rfl .authSuccess
            simp only [WsHandler.resume, hfin now hfrom hto, WsHandler.proceed, WsHandler.accept, hsent]
            rfl
          rw [haccept]
          refine ⟨n₁ + 1, by omega, _, a, none, n₁, 1, rfl,
            hs.serverTo [.authSuccess] rfl rfl rfl rfl ?_, ha' _ _, .accepted rfl⟩
          dsimp only
          rw [hs.tasks, hadvance]
        | @call _ next _ _ m hnext hrest =>
          have hgo : s.server.resume P i ⟨some k, stage, some (some config)⟩ (some config) now nonce =
              { s.server with
                tasks := advance s.server.tasks i (some ⟨some k, next, none⟩) } := by
            simp [WsHandler.resume, hnext now hfrom hto, WsHandler.proceed]
          rw [hgo]
          refine ⟨n₁ + (2 * m + 1), by omega, _, a, some ⟨some k, next, none⟩, n₁, 2 * m + 1, rfl,
            hs.serverTo_silent rfl rfl rfl rfl ?_, ha' _ _, .waiting ?_⟩
          · dsimp only
            rw [hs.tasks, hadvance]
          · rw [← hconfig] at hrest
            exact hrest

/-- **A pairing with nothing left to do has succeeded.** -/
theorem PairingUp.last {n : Nat} {s : Joint P} (h : PairingUp P t₀ t₁ p k req stored left n s)
    (hwindow : t₀ ≤ t₁) (hlast : ∀ t, ¬ HandshakeStep t₀ t₁ s t) : Succeeded s := by
  obtain ⟨c, a, b, n₁, n₂, rfl, hs, ha, hb⟩ := h
  have hnone : ∀ t, ¬ Moves t₀ t₁ s { p with connection := some c } c t := fun t hmove =>
    hlast t ((handshakeStep_iff hs.process rfl).mpr hmove)
  cases hb with
  | due => exact (hnone _ (.sendPairRequest rfl)).elim
  | sent => exact (hnone _ (.deliver le_rfl hwindow rfl hs.bound)).elim
  | waiting hrun =>
    cases ha with
    | waiting hkey hpairing =>
      -- the search for a key comes first
      exact (hnone _ (.storage (i := 0) (by rw [hs.tasks]; rfl) rfl
        fun j hj => absurd hj (Nat.not_lt_zero j))).elim
    | answered hkey =>
      exact (hnone (s.serverTo (s.server.resume P 0 _ _ t₀ []))
        (.resume (by rw [hs.tasks]; rfl) rfl le_rfl hwindow)).elim
    | gone =>
      exact (hnone _ (.storage (i := 0) (by rw [hs.tasks]; rfl) rfl
        fun j hj => absurd hj (Nat.not_lt_zero j))).elim
  | @answered _ stage config m hrun hconfig =>
    have htask : s.server.tasks[a.toList.length]? = some ⟨some k, stage, some (some config)⟩ := by
      rw [hs.tasks, List.getElem?_append_right le_rfl, Nat.sub_self]
      rfl
    exact (hnone (s.serverTo (s.server.resume P _ _ _ t₀ []))
      (.resume htask rfl le_rfl hwindow)).elim
  | accepted => exact (hnone _ (.receive rfl)).elim
  | done hauth =>
    exact ⟨_, _, hs.process, rfl, rfl, by simp, hauth, hs.ws⟩

/-! ## A process that answers a challenge -/

/-- How far the challenge and its answer are, and how many steps are left. -/
inductive ChallengePhase (P : Platform) (t₀ t₁ : Int) (k : Nat) (id : Identity P) :
    Connection → WsHandler → Option AuthTask → Nat → Prop
  | waiting {server : WsHandler} (hlimit : ¬ t₀ - server.lastAuthAttempt < authRateLimit)
      (hkey : server.config.publicKey = some id.publicKey) :
      ChallengePhase P t₀ t₁ k id ⟨k, false, [], [], []⟩ server (some ⟨some k, .initiate, none⟩) 8
  | answered {server : WsHandler} {config : PairingConfig}
      (hlimit : ¬ t₀ - server.lastAuthAttempt < authRateLimit)
      (hkey : server.config.publicKey = some id.publicKey)
      (hfound : config.publicKey = some id.publicKey) :
      ChallengePhase P t₀ t₁ k id ⟨k, false, [], [], []⟩ server
        (some ⟨some k, .initiate, some (some config)⟩) 7
  | challenged {server : WsHandler} {challenge : Challenge}
      (hlimit : ¬ t₀ - server.lastAuthAttempt < authRateLimit)
      (hkey : server.config.publicKey = some id.publicKey)
      (hpending : server.pendingChallenge = some challenge) (hexpiry : t₁ ≤ challenge.expiresAt) :
      ChallengePhase P t₀ t₁ k id ⟨k, false, [], [.authChallenge challenge.nonce], []⟩ server none 6
  | signed {server : WsHandler} {challenge : Challenge}
      (hlimit : ¬ t₀ - server.lastAuthAttempt < authRateLimit)
      (hkey : server.config.publicKey = some id.publicKey)
      (hpending : server.pendingChallenge = some challenge) (hexpiry : t₁ ≤ challenge.expiresAt) :
      ChallengePhase P t₀ t₁ k id
        ⟨k, false, [.authResponse (some (id.sign challenge.nonce))], [],
          [.authChallenge challenge.nonce]⟩ server none 5
  | responding {server : WsHandler} {challenge : Challenge}
      (hkey : server.config.publicKey = some id.publicKey)
      (hpending : server.pendingChallenge = some challenge) :
      ChallengePhase P t₀ t₁ k id ⟨k, false, [], [], [.authChallenge challenge.nonce]⟩ server
        (some ⟨some k, .response (id.sign challenge.nonce), none⟩) 4
  | found {server : WsHandler} {challenge : Challenge} {config : PairingConfig}
      (hfound : config.publicKey = some id.publicKey)
      (hpending : server.pendingChallenge = some challenge) :
      ChallengePhase P t₀ t₁ k id ⟨k, false, [], [], [.authChallenge challenge.nonce]⟩ server
        (some ⟨some k, .response (id.sign challenge.nonce), some (some config)⟩) 3
  | accepted {server : WsHandler} {nonce : List UInt8} (hauth : server.authenticated = true) :
      ChallengePhase P t₀ t₁ k id ⟨k, false, [], [.authSuccess], [.authChallenge nonce]⟩ server none 2
  | done {server : WsHandler} {nonce : List UInt8} (hauth : server.authenticated = true) :
      ChallengePhase P t₀ t₁ k id ⟨k, false, [], [], [.authChallenge nonce, .authSuccess]⟩ server
        none 1

/-- A challenge at work. -/
def ChallengeUp (P : Platform) (t₀ t₁ : Int) (p : Process P) (k : Nat) (n : Nat) (s : Joint P) : Prop :=
  ∃ c b, Handshaking p c b.toList s ∧ ChallengePhase P t₀ t₁ k p.identity c s.server b n

/-- A text that is not empty. -/
theorem truthy_eq_some {text : Option String} {value : String} (htext : text = some value)
    (hvalue : value ≠ "") : truthy text = some value := by
  rw [htext, truthy, Option.filter_some, if_pos (by simpa using hvalue)]

/-- **Every step of a challenge and its answer.** -/
theorem ChallengeUp.step (hexpiry : t₁ ≤ t₀ + challengeExpiry) {n : Nat} {s t : Joint P}
    (h : ChallengeUp P t₀ t₁ p k n s) (hstep : HandshakeStep t₀ t₁ s t) :
    ∃ m, m < n ∧ ChallengeUp P t₀ t₁ p k m t := by
  obtain ⟨c, b, hs, hb⟩ := h
  cases (handshakeStep_iff hs.process rfl).mp hstep with
  | sendPairRequest hdue => cases hb <;> cases hdue
  | @deliver now msg rest hfrom hto houtbox hsocket =>
    cases hb with
    | @signed _ challenge hlimit hkey hpending hexpires =>
      cases houtbox
      have hallowed : ¬ now - s.server.lastAuthAttempt < authRateLimit := by omega
      have hunexpired : ¬ challenge.expiresAt < now := by omega
      rw [handleMessage_authResponse hallowed (p.identity.sign_ne _) hpending hunexpired]
      refine ⟨4, by omega, ⟨k, false, [], [], [.authChallenge challenge.nonce]⟩,
        some ⟨some k, .response (p.identity.sign challenge.nonce), none⟩,
        hs.deliver [] rfl rfl rfl rfl ?_, .responding hkey hpending⟩
      dsimp only
      rw [hs.tasks]
      rfl
    | _ => cases houtbox
  | receive hinbox =>
    cases hb with
    | challenged hlimit hkey hpending hexpires =>
      cases hinbox
      exact ⟨5, by omega, _, none, hs.withConnection rfl, .signed hlimit hkey hpending hexpires⟩
    | accepted hauth =>
      cases hinbox
      exact ⟨1, by omega, _, none, hs.withConnection rfl, .done hauth⟩
    | _ => cases hinbox
  | @storage i t ht hanswer hfirst =>
    rw [hs.tasks] at ht
    have hs' := hs.storage i t
    obtain ⟨rfl, -, hadvance⟩ := advance_one ht
    rw [hadvance] at hs'
    cases hb with
    | waiting hlimit hkey => exact ⟨7, by omega, _, _, hs', .answered hlimit hkey hkey⟩
    | responding hkey hpending => exact ⟨3, by omega, _, _, hs', .found hkey hpending⟩
    | answered => cases hanswer
    | found => cases hanswer
  | @resume i t answer now nonce ht hanswer hfrom hto =>
    rw [hs.tasks] at ht
    obtain ⟨rfl, -, hadvance⟩ := advance_one ht
    cases hb with
    | waiting => cases hanswer
    | responding => cases hanswer
    | @answered _ config hlimit hkey hfound =>
      cases hanswer
      have hchallenge : s.server.resume P i ⟨some k, .initiate, some (some config)⟩ (some config) now
          nonce = { s.server with
            pendingChallenge := some ⟨nonce, now + challengeExpiry⟩
            sent := s.server.sent ++ [(k, .authChallenge nonce)]
            challengeTimeouts := s.server.challengeTimeouts ++ [some k]
            tasks := advance s.server.tasks i none } := by
        have hsent := hs.sendMessage { s.server with
          pendingChallenge := some ⟨nonce, now + challengeExpiry⟩ } rfl rfl (.authChallenge nonce)
        simp only [WsHandler.resume, AuthStage.resume, truthy_eq_some hfound p.identity.publicKey_ne,
          Option.isSome_some, if_true, WsHandler.proceed, WsHandler.issueChallenge, hsent]
        rfl
      rw [hchallenge]
      let challenge : Challenge := ⟨nonce, now + challengeExpiry⟩
      have hexpires : t₁ ≤ challenge.expiresAt := show t₁ ≤ now + challengeExpiry by omega
      refine ⟨6, by omega, ⟨k, false, [], [.authChallenge challenge.nonce], []⟩, none,
        hs.serverTo [.authChallenge nonce] rfl rfl rfl rfl ?_, .challenged hlimit hkey rfl hexpires⟩
      dsimp only
      rw [hs.tasks, hadvance]
    | @found _ challenge config hfound hpending =>
      cases hanswer
      have haccept : s.server.resume P i
          ⟨some k, .response (p.identity.sign challenge.nonce), some (some config)⟩ (some config) now
          nonce = { s.server with
            pendingChallenge := none
            authenticated := true
            authTimeout := none
            proofs := s.server.proofs ++ [(some k, .signature challenge.nonce p.identity.publicKey
              (p.identity.sign challenge.nonce))]
            sent := s.server.sent ++ [(k, .authSuccess)]
            tasks := advance s.server.tasks i none } := by
        have hsent := hs.sendMessage { s.server with
          pendingChallenge := none
          authenticated := true
          authTimeout := none
          proofs := s.server.proofs ++ [(some k, .signature challenge.nonce p.identity.publicKey
            (p.identity.sign challenge.nonce))] } rfl rfl .authSuccess
        simp only [WsHandler.resume, AuthStage.resume, truthy_eq_some hfound p.identity.publicKey_ne,
          WsHandler.proceed, hpending, p.identity.verifies, if_true, WsHandler.accept, hsent]
        rfl
      rw [haccept]
      refine ⟨2, by omega, _, none, hs.serverTo [.authSuccess] rfl rfl rfl rfl ?_, .accepted rfl⟩
      dsimp only
      rw [hs.tasks, hadvance]

/-- **A challenge with nothing left to do has succeeded.** -/
theorem ChallengeUp.last {n : Nat} {s : Joint P} (h : ChallengeUp P t₀ t₁ p k n s)
    (hwindow : t₀ ≤ t₁) (hlast : ∀ t, ¬ HandshakeStep t₀ t₁ s t) : Succeeded s := by
  obtain ⟨c, b, hs, hb⟩ := h
  have hnone : ∀ t, ¬ Moves t₀ t₁ s { p with connection := some c } c t := fun t hmove =>
    hlast t ((handshakeStep_iff hs.process rfl).mpr hmove)
  cases hb with
  | waiting =>
    exact (hnone _ (.storage (i := 0) (by rw [hs.tasks]; rfl) rfl
      fun j hj => absurd hj (Nat.not_lt_zero j))).elim
  | answered =>
    exact (hnone (s.serverTo (s.server.resume P 0 _ _ t₀ []))
      (.resume (by rw [hs.tasks]; rfl) rfl le_rfl hwindow)).elim
  | challenged => exact (hnone _ (.receive rfl)).elim
  | signed => exact (hnone _ (.deliver le_rfl hwindow rfl hs.bound)).elim
  | responding =>
    exact (hnone _ (.storage (i := 0) (by rw [hs.tasks]; rfl) rfl
      fun j hj => absurd hj (Nat.not_lt_zero j))).elim
  | found =>
    exact (hnone (s.serverTo (s.server.resume P 0 _ _ t₀ []))
      (.resume (by rw [hs.tasks]; rfl) rfl le_rfl hwindow)).elim
  | accepted => exact (hnone _ (.receive rfl)).elim
  | done hauth => exact ⟨_, _, hs.process, rfl, rfl, by simp, hauth, hs.ws⟩

/-! ## Where a handshake begins -/

/-- The connection is made, and the server was at rest. -/
theorem handshaking_connect {s : Joint P} (hrest : s.server.tasks = []) :
    Handshaking p ⟨s.server.sockets, p.pairingSecret != "", [], [], []⟩
      [⟨some s.server.sockets, .initiate, none⟩] (s.connect p) := by
  have htasks : s.server.handleConnection.tasks = [⟨some s.server.sockets, .initiate, none⟩] := by
    unfold WsHandler.handleConnection
    split <;> exact congrArg (· ++ _) hrest
  have hsockets : s.server.handleConnection.sockets = s.server.sockets + 1 ∧
      s.server.handleConnection.ws = some s.server.sockets ∧
      s.server.handleConnection.isOpen s.server.sockets = true := by
    unfold WsHandler.handleConnection
    split <;> exact ⟨rfl, rfl, Function.update_self ..⟩
  obtain ⟨hsockets, hws, hopen⟩ := hsockets
  exact ⟨rfl, hws, hopen, by rw [Joint.connect, hsockets]; exact Nat.lt_succ_self _, htasks⟩

/-- A connection leaves the configuration and the rate limit alone. -/
theorem handleConnection_frame (server : WsHandler) :
    server.handleConnection.config = server.config ∧
      server.handleConnection.lastAuthAttempt = server.lastAuthAttempt := by
  unfold WsHandler.handleConnection
  split <;> exact ⟨rfl, rfl⟩

/-- A process without a secret, and a server that has its key. -/
theorem challengeUp_connect {s : Joint P} (hrest : s.server.tasks = [])
    (hlimit : ¬ t₀ - s.server.lastAuthAttempt < authRateLimit) (hpaired : Paired s p)
    (hsecret : p.pairingSecret = "") :
    ChallengeUp P t₀ t₁ p s.server.sockets 8 (s.connect p) := by
  obtain ⟨hconfig, hlast⟩ := handleConnection_frame s.server
  have hs := handshaking_connect (p := p) hrest
  rw [hsecret] at hs
  exact ⟨_, some ⟨some s.server.sockets, .initiate, none⟩, hs,
    .waiting (by rw [Joint.connect, hlast]; exact hlimit) (by rw [Joint.connect, hconfig]; exact hpaired)⟩

/-- A process with the secret of a server that has no key. -/
theorem pairingUp_connect {s : Joint P} (hrest : s.server.tasks = [])
    (hlimit : ¬ t₀ - s.server.lastAuthAttempt < authRateLimit) (hpairable : Pairable t₁ s p)
    (hconfigured : p.pairingSecret = p.configured) (hsecret : p.pairingSecret ≠ "") :
    ∃ stored left, PairingUp P t₀ t₁ p s.server.sockets ⟨p.identity.publicKey, p.pairingSecret⟩ stored
      left (2 + 17) (s.connect p) := by
  obtain ⟨hconfig, hlast⟩ := handleConnection_frame s.server
  obtain ⟨hkey, ⟨stored, hstored, hsame⟩, hunexpired⟩ := hpairable
  have hs := handshaking_connect (p := p) hrest
  rw [show (p.pairingSecret != "") = true by simpa using hsecret] at hs
  have hinit : InitPhase s.server.sockets (s.connect p).server none
      (some ⟨some s.server.sockets, .initiate, none⟩) 2 :=
    .waiting (by rw [Joint.connect, hconfig]; exact hkey) fun _ ht => absurd ht (by simp)
  have hdue : PairPhase P t₀ t₁ s.server.sockets ⟨p.identity.publicKey, p.pairingSecret⟩ stored
      ⟨some p.identity.publicKey, none, none⟩ ⟨s.server.sockets, true, [], [], []⟩
      (s.connect p).server none 17 := by
    refine .due (by rw [Joint.connect, hlast]; exact hlimit) ?_
    rw [Joint.connect, hconfig]
    exact pairing_runsTo hkey hstored (by rw [hsame, hconfigured]) hunexpired
      p.identity.publicKey_length
  exact ⟨stored, _, _, _, none, 2, 17, rfl, hs, hinit, hdue⟩

/-! ## A secret that the server does not want -/

/-- An `auth_error` is on its way or was received. -/
def AuthErrorSent (s : Joint P) : Prop :=
  ∃ p c reason, s.process = some p ∧ p.connection = some c ∧ .authError reason ∈ c.inbox ++ c.received

/-- It stays so. -/
theorem AuthErrorSent.step {s t : Joint P} (h : AuthErrorSent s) (hstep : HandshakeStep t₀ t₁ s t) :
    AuthErrorSent t := by
  obtain ⟨p, c, reason, hprocess, hconnection, hreason⟩ := h
  have hserver : ∀ (s' : Joint P) (c' : Connection) (server : WsHandler),
      s'.process = some { p with connection := some c' } → c'.inbox = c.inbox →
      c'.received = c.received → AuthErrorSent (s'.serverTo server) := by
    intro s' c' server hprocess' hinbox hreceived
    refine ⟨_, { c' with inbox := c'.inbox ++ sentBetween s'.server server c'.socket }, reason,
      by rw [Joint.serverTo, hprocess']; rfl, rfl, ?_⟩
    rw [hinbox, hreceived]
    rcases List.mem_append.mp hreason with hreason | hreason
    · exact List.mem_append_left _ (List.mem_append_left _ hreason)
    · exact List.mem_append_right _ hreason
  have hsame : s.process = some { p with connection := some c } := by rw [hprocess, ← hconnection]
  cases (handshakeStep_iff hprocess hconnection).mp hstep with
  | sendPairRequest hdue => exact ⟨_, _, reason, rfl, rfl, hreason⟩
  | deliver hfrom hto houtbox hsocket => exact hserver _ _ _ rfl rfl rfl
  | @receive msg rest hinbox =>
    refine ⟨_, _, reason, rfl, rfl, ?_⟩
    rw [hinbox] at hreason
    simp only [List.cons_append, List.mem_cons, List.mem_append] at hreason ⊢
    tauto
  | storage ht hanswer hfirst => exact hserver s c _ hsame rfl rfl
  | resume ht hanswer hfrom hto => exact hserver s c _ hsame rfl rfl

/-- **A secret for a server that has the key.** The pairing is refused. -/
theorem not_endsIn_of_paired {s : Joint P} (hrest : s.server.tasks = [])
    (hlimit : ¬ t₀ - s.server.lastAuthAttempt < authRateLimit) (hwindow : t₀ ≤ t₁)
    (hpaired : Paired s p) (hsecret : p.pairingSecret ≠ "") :
    ¬ EndsIn (HandshakeStep t₀ t₁) Succeeded (s.connect p) := by
  intro hends
  obtain ⟨hconfig, hlast⟩ := handleConnection_frame s.server
  have hs := handshaking_connect (p := p) hrest
  rw [show (p.pairingSecret != "") = true by simpa using hsecret] at hs
  generalize s.server.sockets = k at hs
  -- the request is sent, and arrives
  obtain ⟨s₂, hends₂, hs₂, hkey₂⟩ : ∃ s₂ : Joint P, EndsIn (HandshakeStep t₀ t₁) Succeeded s₂ ∧
      Handshaking p ⟨k, false, [], [], []⟩ [⟨some k, .initiate, none⟩,
        ⟨some k, .existingKey ⟨p.identity.publicKey, p.pairingSecret⟩, none⟩] s₂ ∧
      s₂.server.config.publicKey = some p.identity.publicKey := by
    have hs₁ : Handshaking p
        ⟨k, false, [.authPair (some p.identity.publicKey) (some p.pairingSecret)], [], []⟩
        [⟨some k, .initiate, none⟩] ((s.connect p).sendPairRequest
          { p with connection := some ⟨k, true, [], [], []⟩ } ⟨k, true, [], [], []⟩) :=
      hs.withConnection rfl
    have hlimit₁ : ¬ t₀ - (s.connect p).server.lastAuthAttempt < authRateLimit := by
      rw [Joint.connect, hlast]
      exact hlimit
    have hends₁ := (hends.after ((handshakeStep_iff hs.process rfl).mpr (.sendPairRequest rfl))).after
      ((handshakeStep_iff hs₁.process rfl).mpr (.deliver le_rfl hwindow rfl hs₁.bound))
    rw [show ((s.connect p).sendPairRequest _ _).server = (s.connect p).server from rfl,
      handleMessage_authPair hlimit₁ p.identity.publicKey_ne hsecret] at hends₁
    refine ⟨_, hends₁, hs₁.deliver [] rfl rfl rfl rfl ?_, ?_⟩
    · exact congrArg (· ++ _) hs₁.tasks
    · exact (congrArg PairingConfig.publicKey hconfig).trans hpaired
  -- the database answers both flows
  obtain ⟨s₄, config, hends₄, hs₄, hfound⟩ : ∃ (s₄ : Joint P) (config : PairingConfig),
      EndsIn (HandshakeStep t₀ t₁) Succeeded s₄ ∧ Handshaking p ⟨k, false, [], [], []⟩
        [⟨some k, .initiate, some (some s₂.server.config)⟩,
          ⟨some k, .existingKey ⟨p.identity.publicKey, p.pairingSecret⟩, some (some config)⟩] s₄ ∧
      config.publicKey = some p.identity.publicKey := by
    have hs₃ := hs₂.storage 0 ⟨some k, .initiate, none⟩
    have hends₃ := hends₂.after ((handshakeStep_iff hs₂.process rfl).mpr
      (.storage (i := 0) (by rw [hs₂.tasks]; rfl) rfl fun j hj => absurd hj (Nat.not_lt_zero j)))
    have hs₄ := hs₃.storage 1 ⟨some k, .existingKey ⟨p.identity.publicKey, p.pairingSecret⟩, none⟩
    have hends₄ := hends₃.after ((handshakeStep_iff hs₃.process rfl).mpr
      (.storage (i := 1) (by rw [hs₃.tasks]; rfl) rfl fun j hj => by
        obtain rfl : j = 0 := by omega
        rw [hs₃.tasks]
        rintro _ ⟨⟩
        rfl))
    exact ⟨_, _, hends₄, hs₄, hkey₂⟩
  -- and the second is refused
  let refused : AuthTask :=
    ⟨some k, .existingKey ⟨p.identity.publicKey, p.pairingSecret⟩, some (some config)⟩
  have hends₅ : EndsIn (HandshakeStep t₀ t₁) Succeeded
      (s₄.serverTo (s₄.server.resume P 1 refused (some config) t₀ [])) :=
    hends₄.after ((handshakeStep_iff hs₄.process rfl).mpr
      (.resume (by rw [hs₄.tasks]; rfl) rfl le_rfl hwindow))
  have hsent : AuthErrorSent (s₄.serverTo (s₄.server.resume P 1 refused (some config) t₀ [])) := by
    have hlog : (s₄.server.resume P 1 refused (some config) t₀ []).sent =
        s₄.server.sent ++ [(k, .authError "already_paired")] := by
      simp only [refused, WsHandler.resume, AuthStage.resume,
        truthy_eq_some hfound p.identity.publicKey_ne, Option.isSome_some, if_true,
        WsHandler.proceed, WsHandler.reject, hs₄.sendMessage s₄.server rfl rfl]
      rfl
    have hnew : sentBetween s₄.server (s₄.server.resume P 1 refused (some config) t₀ []) k =
        [.authError "already_paired"] := by
      rw [sentBetween, hlog, List.drop_left]
      simp
    have hprocess : (s₄.serverTo (s₄.server.resume P 1 refused (some config) t₀ [])).process =
        some { p with connection := some ⟨k, false, [], [.authError "already_paired"], []⟩ } := by
      simp [Joint.serverTo, hs₄.process, hnew]
    exact ⟨_, _, "already_paired", hprocess, rfl, by simp⟩
  obtain ⟨u, ⟨p', c', reason, hprocess, hconnection, hreason⟩, p'', c'', hprocess', hconnection', -,
    hnone, -⟩ := hends₅.exists_good (fun _ _ h => h.step) hsent
  cases hprocess.symm.trans hprocess'
  cases hconnection.symm.trans hconnection'
  exact hnone reason hreason

/-- **A process without a secret, and a server without its key.** Each waits for the other. -/
theorem not_endsIn_of_pairable {s : Joint P} (hrest : s.server.tasks = [])
    (hwindow : t₀ ≤ t₁) (hpairable : Pairable t₁ s p) (hsecret : p.pairingSecret = "") :
    ¬ EndsIn (HandshakeStep t₀ t₁) Succeeded (s.connect p) := by
  intro hends
  obtain ⟨hconfig, -⟩ := handleConnection_frame s.server
  have hs := handshaking_connect (p := p) hrest
  rw [hsecret] at hs
  generalize s.server.sockets = k at hs
  -- the server looks for a key, and finds none
  have hs₁ := hs.storage 0 ⟨some k, .initiate, none⟩
  have hends₁ := hends.after ((handshakeStep_iff hs.process rfl).mpr
    (.storage (i := 0) (by rw [hs.tasks]; rfl) rfl fun j hj => absurd hj (Nat.not_lt_zero j)))
  generalize hs₁s : (s.connect p).serverTo _ = s₁ at hs₁ hends₁
  let found : AuthTask := ⟨some k, .initiate, some (some (s.connect p).server.config)⟩
  have hends₂ : EndsIn (HandshakeStep t₀ t₁) Succeeded
      (s₁.serverTo (s₁.server.resume P 0 found (some (s.connect p).server.config) t₀ [])) :=
    hends₁.after ((handshakeStep_iff hs₁.process rfl).mpr
      (.resume (by rw [hs₁.tasks]; rfl) rfl le_rfl hwindow))
  have hdone : s₁.server.resume P 0 found (some (s.connect p).server.config) t₀ [] =
      { s₁.server with tasks := [] } := by
    have hnokey : truthy (s.connect p).server.config.publicKey = none := by
      rw [Joint.connect, hconfig]
      exact hpairable.publicKey
    simp only [found, WsHandler.resume, AuthStage.resume, hnokey, WsHandler.proceed, hs₁.tasks]
    rfl
  rw [hdone] at hends₂
  have hs₂ : Handshaking p ⟨k, false, [], [], []⟩ [] (s₁.serverTo { s₁.server with tasks := [] }) :=
    hs₁.serverTo_silent rfl rfl rfl rfl rfl
  -- nothing is left to do
  obtain ⟨p', c', hprocess, hconnection, hresult, -⟩ := hends₂.last fun t hstep => by
    cases (handshakeStep_iff hs₂.process rfl).mp hstep with
    | sendPairRequest hdue => cases hdue
    | deliver hfrom hto houtbox hsocket => cases houtbox
    | receive hinbox => cases hinbox
    | storage ht hanswer hfirst => rw [hs₂.tasks] at ht; cases ht
    | resume ht hanswer hfrom hto => rw [hs₂.tasks] at ht; cases ht
  cases hs₂.process.symm.trans hprocess
  cases hconnection
  cases hresult

/-! ## The exact condition -/

/-- What the process remembers is the secret configured when it started, or nothing. -/
def Remembers (s : Joint P) : Prop :=
  ∀ p, s.process = some p → p.pairingSecret = "" ∨ p.pairingSecret = p.configured

/-- A connection comes or goes. -/
theorem Remembers.withConnection {s : Joint P} (h : Remembers s) (hprocess : s.process = some p)
    (c : Option Connection) : Remembers (s.withConnection p c) := by
  rintro _ ⟨⟩
  exact h p hprocess

/-- The server does something. -/
theorem Remembers.serverTo {s : Joint P} (h : Remembers s) (server : WsHandler) :
    Remembers (s.serverTo server) := by
  intro p' hp'
  obtain ⟨p, hp, rfl⟩ := Option.map_eq_some_iff.mp hp'
  exact h p hp

/-- **Every event.** -/
theorem Remembers.step {s s' : Joint P} (h : Remembers s) {e : JointEvent P}
    (hstep : jointStep P s e = some s') : Remembers s' := by
  cases e with
  | configure secret => cases hstep; exact h
  | removeKey => cases hstep; exact h
  | run fresh =>
    obtain ⟨-, hstep⟩ := Option.ite_none_left_eq_some.mp hstep
    cases hstep
    rintro _ ⟨⟩
    dsimp only
    split
    · exact .inl rfl
    · exact .inr rfl
  | exit => cases hstep; exact nofun
  | connect =>
    simp only [jointStep] at hstep
    split at hstep
    · cases hstep
    · next p hp =>
      obtain ⟨-, hstep⟩ := Option.ite_none_left_eq_some.mp hstep
      cases hstep
      rintro _ ⟨⟩
      exact h p hp
  | disconnect =>
    obtain ⟨p, hp, rfl⟩ := Option.map_eq_some_iff.mp hstep
    exact h.withConnection hp none
  | sendPairRequest =>
    simp only [jointStep] at hstep
    split at hstep
    · cases hstep
    · next p hp =>
      split at hstep
      · cases hstep
      · obtain ⟨-, hstep⟩ := Option.ite_none_right_eq_some.mp hstep
        cases hstep
        exact h.withConnection hp _
  | deliver now =>
    simp only [jointStep] at hstep
    split at hstep
    · cases hstep
    · next p hp =>
      split at hstep
      · cases hstep
      · split at hstep
        · cases hstep
        · obtain ⟨server, -, rfl⟩ := Option.map_eq_some_iff.mp hstep
          exact (h.withConnection hp _).serverTo server
  | receive =>
    simp only [jointStep] at hstep
    split at hstep
    · cases hstep
    · next p hp =>
      split at hstep
      · cases hstep
      · split at hstep <;> cases hstep
        exact h.withConnection hp _
  | loseOutbound =>
    obtain ⟨p, hp, rfl⟩ := Option.map_eq_some_iff.mp hstep
    exact h.withConnection hp _
  | loseInbound =>
    obtain ⟨p, hp, rfl⟩ := Option.map_eq_some_iff.mp hstep
    exact h.withConnection hp _
  | server e =>
    obtain ⟨server, -, rfl⟩ := Option.map_eq_some_iff.mp hstep
    exact h.serverTo server
  | update config => cases hstep; exact h
  | restart =>
    cases hstep
    intro p' hp'
    obtain ⟨p, hp, rfl⟩ := Option.map_eq_some_iff.mp hp'
    exact h p hp

/-- **When a handshake succeeds.** In every state that any run of gateway and server comes to, where the
server is at rest and has the gateway's key, or no key and an unexpired secret equal to the one the
gateway was configured with at its start: every schedule of the next handshake ends, and with success,
if and only if the process remembers a secret exactly when the server has no key. -/
theorem handshake_succeeds_iff (P : Platform) (secret : String) (config : PairingConfig)
    {es : List (JointEvent P)} {s : Joint P} {p : Process P} {t₀ t₁ : Int}
    (hrun : exec (jointStep P) (Joint.init P secret config) es = some s) (hprocess : s.process = some p)
    (hrest : s.server.tasks = []) (hlimit : ¬ t₀ - s.server.lastAuthAttempt < authRateLimit)
    (hwindow : t₀ ≤ t₁ ∧ t₁ ≤ t₀ + challengeExpiry) (hcase : Paired s p ∨ Pairable t₁ s p) :
    EndsIn (HandshakeStep t₀ t₁) Succeeded (s.connect p) ↔
      (p.pairingSecret ≠ "" ↔ truthy s.server.config.publicKey = none) := by
  have hremembers : Remembers s :=
    exec_invariant (fun _ _ _ h hstep => h.step hstep) (by rintro _ ⟨⟩) hrun
  rcases hcase with hpaired | hpairable
  · have hkey : truthy s.server.config.publicKey ≠ none := by
      rw [truthy_eq_some hpaired p.identity.publicKey_ne]
      exact nofun
    rw [iff_false_right hkey, not_not]
    constructor
    · intro hends
      by_contra hsecret
      exact not_endsIn_of_paired hrest hlimit hwindow.1 hpaired hsecret hends
    · intro hsecret
      exact EndsIn.of_rank (fun _ _ _ h hstep => h.step hwindow.2 hstep)
        (fun _ _ h hlast => h.last hwindow.1 hlast)
        (challengeUp_connect hrest hlimit hpaired hsecret)
  · rw [iff_true_right hpairable.publicKey]
    constructor
    · intro hends hsecret
      exact not_endsIn_of_pairable hrest hwindow.1 hpairable hsecret hends
    · intro hsecret
      have hconfigured := (hremembers p hprocess).resolve_left hsecret
      obtain ⟨stored, left, hup⟩ := pairingUp_connect hrest hlimit hpairable hconfigured hsecret
      exact EndsIn.of_rank (fun _ _ _ h hstep => h.step rfl hsecret hstep)
        (fun _ _ h hlast => h.last hwindow.1 hlast) hup

end

/-- `oneKey`, with a signature. -/
def oneSigner : Platform where
  toLowerCase := oneKey.toLowerCase
  decodeBase64 := oneKey.decodeBase64
  verify _ key signature := key = List.replicate 32 0 ∧ signature = []

/-- The key pair of `zeroKey`. -/
def zeroIdentity : Identity oneSigner where
  publicKey := zeroKey
  sign _ := "signature"
  publicKey_ne := by decide
  publicKey_length := by decide
  sign_ne _ := by decide
  verifies _ := by rfl

/-- A gateway with the secret `abc123` starts for the first time, at a server that expects it. -/
def firstStart : List (JointEvent oneSigner) := [.run zeroIdentity]

/-- It connects and pairs, and the connection is lost. -/
def firstPairing : List (JointEvent oneSigner) :=
  firstStart ++ [.connect, .server (.storage 0 .done), .server (.resume 0 5000 []), .sendPairRequest,
    .deliver 5000] ++
  (List.replicate 7 [JointEvent.server (.storage 0 .done), .server (.resume 0 5000 [])]).flatten ++
  [.receive, .disconnect]

/-- **The gateway that has just paired is refused.** The process still remembers the secret, and the
server has the key by now. -/
theorem reconnect_rejected :
    ∃ s p, exec (jointStep oneSigner) (Joint.init oneSigner "ABC123" ⟨none, some "abc123", some 0⟩)
        firstPairing = some s ∧ s.process = some p ∧ p.connection = none ∧ s.server.tasks = [] ∧
      ¬ (10000 : Int) - s.server.lastAuthAttempt < authRateLimit ∧ Paired s p ∧
      ¬ EndsIn (HandshakeStep 10000 20000) Succeeded (s.connect p) := by
  obtain ⟨s, p, hrun, hprocess, hconnection, hrest, hlast, hpaired, hsecret⟩ : ∃ s p,
      exec (jointStep oneSigner) (Joint.init oneSigner "ABC123" ⟨none, some "abc123", some 0⟩)
        firstPairing = some s ∧ s.process = some p ∧ p.connection = none ∧ s.server.tasks = [] ∧
      s.server.lastAuthAttempt = 5000 ∧ Paired s p ∧ p.pairingSecret = "ABC123" :=
    ⟨_, _, rfl, rfl, rfl, rfl, rfl, rfl, rfl⟩
  have hlimit : ¬ (10000 : Int) - s.server.lastAuthAttempt < authRateLimit := by
    rw [hlast]
    decide
  exact ⟨s, p, hrun, hprocess, hconnection, hrest, hlimit, hpaired,
    not_endsIn_of_paired hrest hlimit (by decide) hpaired (by rw [hsecret]; decide)⟩

/-- The first handshake of that gateway. -/
theorem handshake_succeeds_first :
    ∃ s p, exec (jointStep oneSigner) (Joint.init oneSigner "ABC123" ⟨none, some "abc123", some 0⟩)
        firstStart = some s ∧ s.process = some p ∧
      EndsIn (HandshakeStep 10000 20000) Succeeded (s.connect p) := by
  obtain ⟨s, p, hrun, hprocess, hrest, hlast, hpairable, hsecret⟩ : ∃ s p,
      exec (jointStep oneSigner) (Joint.init oneSigner "ABC123" ⟨none, some "abc123", some 0⟩)
        firstStart = some s ∧ s.process = some p ∧ s.server.tasks = [] ∧
      s.server.lastAuthAttempt = 0 ∧ Pairable 20000 s p ∧ p.pairingSecret = "ABC123" :=
    ⟨_, _, rfl, rfl, rfl, rfl, ⟨rfl, ⟨"abc123", rfl, rfl⟩, by decide⟩, rfl⟩
  have hlimit : ¬ (10000 : Int) - s.server.lastAuthAttempt < authRateLimit := by
    rw [hlast]
    decide
  refine ⟨s, p, hrun, hprocess, (handshake_succeeds_iff oneSigner _ _ hrun hprocess hrest hlimit
    (by decide) (.inr hpairable)).mpr ?_⟩
  exact iff_of_true (by rw [hsecret]; decide) hpairable.publicKey

end Svarla.Signaling
