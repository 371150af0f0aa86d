import Svarla.Lib.Run
import Mathlib.Logic.Function.Basic

/-!
# The requests to a modem gateway

`makeCall`, `answerCall` and `sendSms` send a message with a new request id, and wait for a message of
the gateway that carries it. The entry that waits has a timer. Whatever comes first settles it: an
answer with its id, its timer, or a disconnect of the gateway, which settles all that wait
(`decides`). A call that is made while the gateway is not connected is rejected at once, and sends
nothing (`requests_settle_once`).

Sending and the entry that waits are one step: nothing comes in between them. The events that
messages emit beside, and what they report of the modem, are left out.
-/

namespace Svarla.Providers

open Svarla.Lib

inductive GatewayOperation
  | makeCall
  | answerCall
  | sendSms
  deriving DecidableEq, Repr

namespace GatewayOperation

/-- The type of the message, which also names the operation in the error of a time-out. -/
def messageType : GatewayOperation → String
  | makeCall => "make_call"
  | answerCall => "answer_call"
  | sendSms => "send_sms"

/-- `CALL_TIMEOUT_MS` and `SMS_TIMEOUT_MS`. -/
def timeoutMs : GatewayOperation → Nat
  | makeCall | answerCall => 30000
  | sendSms => 60000

end GatewayOperation

/-- What `sms_result` resolves with. -/
structure SmsResult where
  messageId : String
  success : Bool
  errorReason : Option String
  deriving DecidableEq, Repr

/-- How a promise is settled. -/
inductive Settlement
  | resolved (value : Option SmsResult)
  /-- With the text of an `Error`. -/
  | failed (text : String)
  /-- With a `ProviderTimeoutError`. -/
  | timedOut (text : String)
  /-- With a `ProviderUnavailableError`. -/
  | unavailable (text : String)
  deriving DecidableEq, Repr

/-- The message types that may settle a request. -/
inductive GatewayMessage
  | callState (requestId : Option String) (state : String) (reason : Option String)
  | smsResult (requestId : Option String) (success : Bool) (errorReason : Option String)
  | callAck (requestId : Option String)
  | answerAck (requestId : Option String)
  | other (type : String)
  deriving DecidableEq, Repr

/-- `handleInboundMessage`: which request the message settles, and how. -/
def GatewayMessage.answer : GatewayMessage → Option (String × Settlement)
  | .callState requestId state reason =>
    -- an empty id is no id
    (requestId.filter (· ≠ "")).bind fun id =>
      if state = "RINGING" ∨ state = "ANSWERED" then some (id, .resolved none)
      else if state = "FAILED" ∨ state = "BUSY" then
        some (id, .failed s!"Call failed: {reason.getD state}")
      else none
  | .smsResult requestId success errorReason =>
    requestId.map fun id => (id, .resolved (some ⟨id, success, if success then none else errorReason⟩))
  | .callAck requestId | .answerAck requestId => requestId.map fun id => (id, .resolved none)
  | .other _ => none

/-- The text of a `ProviderTimeoutError`. -/
def timeoutText (op : GatewayOperation) : String :=
  s!"Modem gateway operation {op.messageType.quote} timed out after {op.timeoutMs}ms"

/-- The text of `rejectAllPending`: the gateway has disconnected, or the provider is stopped. -/
def disconnectText (stopping : Bool) : String :=
  if stopping then "Provider is stopping" else "Modem gateway disconnected"

/-- `ModemGatewayTelephonyProvider`, by request id. -/
structure GatewayRequests where
  /-- The ids that `randomUUID` has given. -/
  used : String → Bool
  /-- Was a message with the id sent? -/
  sent : String → Bool
  pendingOperations : String → Option GatewayOperation
  timerArmed : String → Bool
  /-- How the promise of the request was settled, each time. -/
  settled : String → List Settlement

inductive GatewayEvent
  /-- An operation is called, while the gateway is connected or not. -/
  | call (op : GatewayOperation) (id : String) (connected : Bool)
  | message (msg : GatewayMessage)
  | timerFires (id : String)
  /-- The gateway disconnects, or the provider is stopped, which closes the connection. -/
  | disconnect (stopping : Bool)
  deriving DecidableEq, Repr

namespace GatewayRequests

def init : GatewayRequests :=
  ⟨fun _ => false, fun _ => false, fun _ => none, fun _ => false, fun _ => []⟩

/-- The promise of a request is settled. -/
def settle (s : GatewayRequests) (id : String) (how : Settlement) : GatewayRequests :=
  { s with settled := Function.update s.settled id (s.settled id ++ [how]) }

/-- `resolveRequest` and `rejectRequest`. -/
def settleRequest (s : GatewayRequests) (id : String) (how : Settlement) : GatewayRequests :=
  match s.pendingOperations id with
  | none => s
  | some _ =>
    settle { s with
      timerArmed := Function.update s.timerArmed id false
      pendingOperations := Function.update s.pendingOperations id none } id how

def rejectAllPending (s : GatewayRequests) (how : Settlement) : GatewayRequests :=
  { s with
    timerArmed := fun id => if (s.pendingOperations id).isSome then false else s.timerArmed id
    pendingOperations := fun _ => none
    settled := fun id =>
      if (s.pendingOperations id).isSome then s.settled id ++ [how] else s.settled id }

def step (s : GatewayRequests) : GatewayEvent → Option GatewayRequests
  | .call op id connected =>
    -- `randomUUID` gives a new id
    if s.used id then none
    else
      let s := { s with used := Function.update s.used id true }
      if connected then
        some { s with
          sent := Function.update s.sent id true
          timerArmed := Function.update s.timerArmed id true
          pendingOperations := Function.update s.pendingOperations id (some op) }
      else some (s.settle id (.unavailable "Modem gateway is not connected"))
  | .message msg =>
    match msg.answer with
    | some (id, how) => some (s.settleRequest id how)
    | none => some s
  | .timerFires id =>
    -- the timer deletes the entry, and rejects
    if s.timerArmed id then
      some (settle { s with
        timerArmed := Function.update s.timerArmed id false
        pendingOperations := Function.update s.pendingOperations id none } id
          (.timedOut ((s.pendingOperations id).elim "" timeoutText)))
    else none
  | .disconnect stopping => some (s.rejectAllPending (.unavailable (disconnectText stopping)))

/-- How an event settles a request that waits: an answer with its id, its own timer, or a disconnect. -/
def decides (op : GatewayOperation) (id : String) : GatewayEvent → Option Settlement
  | .call _ _ _ => none
  | .message msg => msg.answer.bind fun (id', how) => if id' = id then some how else none
  | .timerFires id' => if id' = id then some (.timedOut (timeoutText op)) else none
  | .disconnect stopping => some (.unavailable (disconnectText stopping))

/-- A request waits. -/
structure Waits (s : GatewayRequests) (op : GatewayOperation) (id : String) : Prop where
  used : s.used id = true
  sent : s.sent id = true
  pending : s.pendingOperations id = some op
  armed : s.timerArmed id = true
  unsettled : s.settled id = []

/-- A request is settled, and nothing of it is left. -/
structure Settled (s : GatewayRequests) (id : String) (sent : Bool) (how : Settlement) : Prop where
  used : s.used id = true
  sent : s.sent id = sent
  done : s.pendingOperations id = none
  disarmed : s.timerArmed id = false
  once : s.settled id = [how]

/-- An id that was not given yet leaves no trace. -/
def Fresh (s : GatewayRequests) (id : String) : Prop :=
  s.used id = false → s.sent id = false ∧ s.pendingOperations id = none ∧ s.timerArmed id = false ∧
    s.settled id = []

/-- What is settled is gone, and the others are what they were. -/
theorem settleRequest_of_ne {s : GatewayRequests} {id id' : String} (hne : id ≠ id')
    (how : Settlement) :
    let t := s.settleRequest id' how
    t.used id = s.used id ∧ t.sent id = s.sent id ∧
      t.pendingOperations id = s.pendingOperations id ∧ t.timerArmed id = s.timerArmed id ∧
      t.settled id = s.settled id := by
  unfold settleRequest settle
  split
  · exact ⟨rfl, rfl, rfl, rfl, rfl⟩
  · simp [Function.update_of_ne hne]

/-- A request that waits is settled by the first event that decides it, and waits on after any other. -/
theorem Waits.step {s t : GatewayRequests} {op : GatewayOperation} {id : String} {e : GatewayEvent}
    (h : Waits s op id) (hstep : s.step e = some t) :
    match decides op id e with
    | none => Waits t op id
    | some how => Settled t id true how := by
  obtain ⟨hused, hsent, hpending, harmed, hunsettled⟩ := h
  cases e with
  | call op' id' connected =>
    rw [GatewayRequests.step] at hstep
    split at hstep
    · cases hstep
    · rename_i hnew
      have hne : id ≠ id' := by
        rintro rfl
        exact hnew hused
      cases connected <;>
      · cases hstep
        constructor <;> simpa [settle, Function.update_of_ne hne]
  | message msg =>
    rcases hanswer : msg.answer with _ | ⟨id', how⟩
    · simp only [GatewayRequests.step, hanswer, Option.some.injEq] at hstep
      subst hstep
      simp only [decides, hanswer, Option.bind_none]
      exact ⟨hused, hsent, hpending, harmed, hunsettled⟩
    · simp only [GatewayRequests.step, hanswer, Option.some.injEq] at hstep
      subst hstep
      simp only [decides, hanswer, Option.bind_some]
      rcases eq_or_ne id' id with rfl | hne
      · -- the answer finds the entry
        rw [if_pos rfl]
        constructor <;> simp [settleRequest, settle, hpending, hused, hsent, hunsettled]
      · rw [if_neg hne]
        obtain ⟨hu, hs, hp, ha, hd⟩ := settleRequest_of_ne (s := s) hne.symm how
        exact ⟨hu.trans hused, hs.trans hsent, hp.trans hpending, ha.trans harmed, hd.trans hunsettled⟩
  | timerFires id' =>
    rw [GatewayRequests.step] at hstep
    split at hstep
    · cases hstep
      rw [decides]
      rcases eq_or_ne id' id with rfl | hne
      · rw [if_pos rfl]
        constructor <;> simp [settle, hused, hsent, hpending, hunsettled]
      · rw [if_neg hne]
        constructor <;> simpa [settle, Function.update_of_ne hne.symm]
    · cases hstep
  | disconnect stopping =>
    cases hstep
    constructor <;> simp [rejectAllPending, hused, hsent, hpending, hunsettled]

/-- Nothing but its own call changes what there is of a request that does not wait. -/
theorem idle_step {s t : GatewayRequests} {id : String} {e : GatewayEvent}
    (hdone : s.pendingOperations id = none) (hdisarmed : s.timerArmed id = false)
    (hcall : ∀ op connected, e = .call op id connected → s.used id = true) (hstep : s.step e = some t) :
    t.used id = s.used id ∧ t.sent id = s.sent id ∧ t.pendingOperations id = none ∧
      t.timerArmed id = false ∧ t.settled id = s.settled id := by
  cases e with
  | call op' id' connected =>
    rw [GatewayRequests.step] at hstep
    split at hstep
    · cases hstep
    · rename_i hnew
      have hne : id ≠ id' := by
        rintro rfl
        exact hnew (hcall _ _ rfl)
      cases connected <;>
      · cases hstep
        simp [settle, Function.update_of_ne hne, hdone, hdisarmed]
  | message msg =>
    rcases hanswer : msg.answer with _ | ⟨id', how'⟩
    · simp only [GatewayRequests.step, hanswer, Option.some.injEq] at hstep
      subst hstep
      exact ⟨rfl, rfl, hdone, hdisarmed, rfl⟩
    · simp only [GatewayRequests.step, hanswer, Option.some.injEq] at hstep
      subst hstep
      rcases eq_or_ne id id' with rfl | hne
      · rw [settleRequest, hdone]
        exact ⟨rfl, rfl, hdone, hdisarmed, rfl⟩
      · obtain ⟨hu, hs, hp, ha, hd⟩ := settleRequest_of_ne (s := s) hne how'
        exact ⟨hu, hs, hp.trans hdone, ha.trans hdisarmed, hd⟩
  | timerFires id' =>
    rw [GatewayRequests.step] at hstep
    split at hstep
    · rename_i harmed
      have hne : id ≠ id' := by
        rintro rfl
        rw [hdisarmed] at harmed
        cases harmed
      cases hstep
      simp [settle, Function.update_of_ne hne, hdone, hdisarmed]
    · cases hstep
  | disconnect stopping =>
    cases hstep
    simp [rejectAllPending, hdone, hdisarmed]

/-- A request that is settled stays as it is: what comes late finds no entry. -/
theorem Settled.step {s t : GatewayRequests} {id : String} {sent : Bool} {how : Settlement}
    {e : GatewayEvent} (h : Settled s id sent how) (hstep : s.step e = some t) :
    Settled t id sent how := by
  obtain ⟨hu, hs, hp, ha, hd⟩ := idle_step h.done h.disarmed (fun _ _ _ => h.used) hstep
  exact ⟨hu.trans h.used, hs.trans h.sent, hp, ha, hd.trans h.once⟩

/-- What was given stays given. -/
theorem used_step {s t : GatewayRequests} {id : String} {e : GatewayEvent}
    (hused : s.used id = true) (hstep : s.step e = some t) : t.used id = true := by
  cases e with
  | call op' id' connected =>
    rw [GatewayRequests.step] at hstep
    split at hstep
    · cases hstep
    · cases connected <;>
      · cases hstep
        rcases eq_or_ne id id' with rfl | hne <;> simp [settle, *]
  | message msg =>
    rcases hanswer : msg.answer with _ | ⟨id', how'⟩ <;>
    · simp only [GatewayRequests.step, hanswer, Option.some.injEq] at hstep
      subst hstep
      first
      | exact hused
      | unfold settleRequest
        split <;> exact hused
  | timerFires id' =>
    rw [GatewayRequests.step] at hstep
    split at hstep
    · cases hstep
      exact hused
    · cases hstep
  | disconnect stopping =>
    cases hstep
    exact hused

/-- An id that was not given yet leaves no trace, after any step. -/
theorem Fresh.step {s t : GatewayRequests} {id : String} {e : GatewayEvent} (h : Fresh s id)
    (hstep : s.step e = some t) : Fresh t id := by
  intro hunused
  rcases hused : s.used id with _ | _
  · obtain ⟨hsent, hdone, hdisarmed, hunsettled⟩ := h hused
    obtain ⟨-, hs, hp, ha, hd⟩ := idle_step hdone hdisarmed (fun op connected he => by
      subst he
      simp only [GatewayRequests.step, hused, Bool.false_eq_true, if_false] at hstep
      cases connected <;>
      · cases hstep
        simp [settle] at hunused) hstep
    exact ⟨hs.trans hsent, hp, ha, hd.trans hunsettled⟩
  · rw [used_step hused hstep] at hunused
    cases hunused

/-- From where a request waits, the first event that decides it settles it. -/
theorem Waits.run {s t : GatewayRequests} {op : GatewayOperation} {id : String}
    {es : List GatewayEvent} (h : Waits s op id) (hrun : exec GatewayRequests.step s es = some t) :
    match es.findSome? (decides op id) with
    | none => Waits t op id
    | some how => Settled t id true how := by
  induction es generalizing s with
  | nil =>
    cases hrun
    exact h
  | cons e es ih =>
    obtain ⟨u, hu, hut⟩ := Option.bind_eq_some_iff.mp hrun
    have hstep := h.step hu
    rw [List.findSome?_cons]
    rcases hdecides : decides op id e with _ | how
    · rw [hdecides] at hstep
      exact ih hstep hut
    · rw [hdecides] at hstep
      exact exec_invariant (I := fun s => Settled s id true how) (fun _ _ _ h hstep => h.step hstep)
        hstep hut

/-- A call that can happen is the first with its id: the request waits, or is rejected at once. -/
theorem Fresh.call {s t : GatewayRequests} {op : GatewayOperation} {id : String} {connected : Bool}
    (h : Fresh s id) (hstep : s.step (.call op id connected) = some t) :
    if connected then Waits t op id
    else Settled t id false (.unavailable "Modem gateway is not connected") := by
  rw [GatewayRequests.step] at hstep
  split at hstep
  · cases hstep
  · rename_i hunused
    obtain ⟨hsent, hdone, hdisarmed, hunsettled⟩ := h (Bool.eq_false_iff.mpr hunused)
    cases connected
    · cases hstep
      constructor <;> simp [settle, hsent, hdone, hdisarmed, hunsettled]
    · cases hstep
      constructor <;> simp [hunsettled]

/-- **A request settles once.** Take any run, and a call in it. A call that is made while the gateway is
not connected is rejected at once, and nothing is sent. Any other is settled by the first event after it
that decides it, and by no other: an answer with its id, its own timer, or a disconnect. Until then it
waits with its timer armed, and from then on neither an entry nor a timer is left. -/
theorem requests_settle_once {es₁ es₂ : List GatewayEvent} {op : GatewayOperation} {id : String}
    {connected : Bool} {t : GatewayRequests}
    (hrun : exec GatewayRequests.step init (es₁ ++ .call op id connected :: es₂) = some t) :
    if connected then
      match es₂.findSome? (decides op id) with
      | none => Waits t op id
      | some how => Settled t id true how
    else Settled t id false (.unavailable "Modem gateway is not connected") := by
  rw [exec_append] at hrun
  obtain ⟨s, hs, hrest⟩ := Option.bind_eq_some_iff.mp hrun
  obtain ⟨u, hu, hut⟩ := Option.bind_eq_some_iff.mp hrest
  have hfresh : Fresh s id := exec_invariant (I := fun s => Fresh s id)
    (fun _ _ _ h hstep => h.step hstep) (fun _ => ⟨rfl, rfl, rfl, rfl⟩) hs
  have hcall := hfresh.call hu
  cases connected
  · exact exec_invariant (I := fun s => Settled s id false _) (fun _ _ _ h hstep => h.step hstep)
      hcall hut
  · exact Waits.run hcall hut

/-- An answer that comes twice, and a timer of another request that fires between. -/
theorem requests_settle_once_answered :
    ∃ t, exec GatewayRequests.step init [.call .sendSms "a" true, .call .makeCall "b" true,
        .timerFires "b", .message (.smsResult (some "a") true none),
        .message (.smsResult (some "a") false (some "late")), .disconnect false] = some t ∧
      Settled t "a" true (.resolved (some ⟨"a", true, none⟩)) :=
  ⟨_, rfl, @requests_settle_once [] [.call .makeCall "b" true, .timerFires "b",
    .message (.smsResult (some "a") true none),
    .message (.smsResult (some "a") false (some "late")), .disconnect false] .sendSms "a" true _ rfl⟩

/-- A call while the gateway is not connected is settled by none of these: it is rejected at once. -/
theorem refused_at_once :
    ∃ t, exec GatewayRequests.step init [.call .makeCall "a" false] = some t ∧
      t.sent "a" = false ∧
      t.settled "a" = [.unavailable "Modem gateway is not connected"] :=
  ⟨_, rfl, rfl, rfl⟩

end GatewayRequests
end Svarla.Providers
