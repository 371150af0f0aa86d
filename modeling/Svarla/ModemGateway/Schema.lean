import Svarla.ModemGateway.MissedCalls

/-!
# The messages of the gateway

The gateway makes its messages of structures, some of whose fields are left out where they are empty.
The server reads them by the names of their fields: `dispatchMessage` of the handler for its events, and
`handleInboundMessage` of the provider for the requests that are pending. Both have `errorReason` where
the gateway has `error`, or `errorText`, so no error arrives. A call_state has no request ID, so the
failure of a call is never that of the request for it.

What is left is `Kept`, and a request whose failure need not be told (`schema_iff`). Messages of other
types are left out. The texts of the gateway are those that JSON can carry.
-/

namespace Svarla.ModemGateway

open Svarla.Lib

/-! ## JSON -/

inductive Scalar
  | null
  | bool (b : Bool)
  | number (n : Int)
  | string (s : String)
  deriving DecidableEq, Repr

inductive JSONValue
  | scalar (v : Scalar)
  /-- An array of objects. -/
  | objects (l : List (List (String × Scalar)))
  deriving DecidableEq, Repr

/-- An object, by its fields. -/
abbrev JSONObject := List (String × JSONValue)

/-- The double that is nearest to a natural number, and even where two are. -/
def nearest (n : Nat) : Nat :=
  let unit := 2 ^ (n.log2 - 52)
  let rest := n % unit
  if unit < 2 * rest ∨ (unit = 2 * rest ∧ n / unit % 2 = 1) then (n / unit + 1) * unit
  else n / unit * unit

/-- A number, as JSON.parse reads it. -/
def float64 (n : Int) : Int := n.sign * nearest n.natAbs

theorem nearest_of_lt {n : Nat} (h : n < 2 ^ 53) : nearest n = n := by
  have hlog : n.log2 - 52 = 0 := by
    rcases Nat.eq_zero_or_pos n with rfl | hpos
    · rfl
    · have := (Nat.log2_lt (by omega)).mpr h
      omega
  simp [nearest, hlog, Nat.mod_one]

/-- Numbers below 2⁵³ are read as they are. -/
theorem float64_of_lt {n : Int} (h : n.natAbs < 2 ^ 53) : float64 n = n := by
  rw [float64, nearest_of_lt h]
  exact Int.sign_mul_natAbs n

example : float64 (2 ^ 53 + 1) = 2 ^ 53 := by decide +kernel

def Scalar.parse : Scalar → Scalar
  | number n => .number (float64 n)
  | v => v

def JSONValue.parse : JSONValue → JSONValue
  | scalar v => .scalar v.parse
  | objects l => .objects (l.map fun fields => fields.map fun f => (f.1, f.2.parse))

namespace JSONObject

/-- JSON.parse, of the text of an object. -/
def parse (msg : JSONObject) : JSONObject := msg.map fun f => (f.1, f.2.parse)

/-- A field, or `undefined`. -/
def get (msg : JSONObject) (name : String) : Option JSONValue := msg.lookup name

end JSONObject

namespace JSONValue

abbrev ofString (s : String) : JSONValue := .scalar (.string s)

abbrev ofBool (b : Bool) : JSONValue := .scalar (.bool b)

abbrev ofInt (n : Int) : JSONValue := .scalar (.number n)

/-- A pointer, which may be nil. -/
abbrev ofNat? (n : Option Nat) : JSONValue := .scalar (n.elim .null fun n => .number n)

end JSONValue

/-! ## What the gateway sends -/

/-- With `omitempty`. -/
def omitEmpty (name s : String) : JSONObject := if s = "" then [] else [(name, .ofString s)]

def omitZero (name : String) (n : Int) : JSONObject := if n = 0 then [] else [(name, .ofInt n)]

/-- The state of a call, as it is sent. -/
def CallState.text : CallState → String
  | ringing => "RINGING"
  | answered => "ANSWERED"
  | completed => "COMPLETED"
  | failed => "FAILED"
  | busy => "BUSY"

/-- The payload of sms_result. -/
structure SMSResult where
  requestID : String
  success : Bool
  messageRef : Int
  error : String
  deriving DecidableEq, Repr

/-- The payload of incoming_sms. -/
structure IncomingSMSPayload where
  messageID : String
  /-- `from`. -/
  caller : String
  /-- `to`. -/
  destination : String
  body : String
  timestamp : Int
  deriving DecidableEq, Repr

/-- A message to the server. -/
inductive Outgoing
  | call (m : Message)
  | smsResult (r : SMSResult)
  | ussdResponse (requestID text : String) (sessionActive : Bool)
  | ussdError (requestID error : String)
  | incomingSMS (m : IncomingSMSPayload)
  | missedCalls (calls : List MissedCall)
  deriving DecidableEq, Repr

namespace Outgoing

def type : Outgoing → String
  | call (.callState ..) => "call_state"
  | call (.ack .callAck _) => "call_ack"
  | call (.ack .answerAck _) => "answer_ack"
  | call (.incomingCall ..) => "incoming_call"
  | smsResult _ => "sms_result"
  | ussdResponse .. => "ussd_response"
  | ussdError .. => "ussd_error"
  | incomingSMS _ => "incoming_sms"
  | missedCalls _ => "missed_calls"

def payload : Outgoing → JSONObject
  | call (.callState callID state reason durationSeconds) =>
    [("callId", .ofString callID), ("state", .ofString state.text)] ++ omitEmpty "reason" reason ++
      [("durationSeconds", .ofNat? durationSeconds)]
  | call (.ack _ requestID) => [("requestId", .ofString requestID)]
  | call (.incomingCall callID caller) => [("callId", .ofString callID), ("from", .ofString caller)]
  | smsResult r =>
    [("requestId", .ofString r.requestID), ("success", .ofBool r.success)] ++
      omitZero "messageRef" r.messageRef ++ omitEmpty "error" r.error
  | ussdResponse requestID text sessionActive =>
    [("requestId", .ofString requestID), ("text", .ofString text),
      ("sessionActive", .ofBool sessionActive)]
  | ussdError requestID error => [("requestId", .ofString requestID), ("error", .ofString error)]
  | incomingSMS m =>
    [("messageId", .ofString m.messageID), ("from", .ofString m.caller), ("to", .ofString m.destination),
      ("body", .ofString m.body), ("timestamp", .ofInt m.timestamp)]
  | missedCalls calls =>
    [("calls", .objects (calls.map fun c =>
      [("from", .string c.caller), ("timestamp", .number c.timestamp)]))]

/-- `NewMessage`, and what JSON.parse makes of its text. -/
def received (m : Outgoing) : JSONObject :=
  JSONObject.parse (("type", .ofString m.type) :: m.payload)

end Outgoing

/-! ## What the server reads -/

/-- What `dispatchMessage` emits. -/
inductive Emitted
  | incomingCall (callId caller : Option JSONValue)
  | callState (callId state reason durationSeconds : Option JSONValue)
  | incomingSms (messageId caller destination body timestamp : Option JSONValue)
  | smsResult (requestId success messageRef errorReason : Option JSONValue)
  | ussdResponse (requestId text sessionActive : Option JSONValue)
  | ussdError (requestId errorCode errorText : Option JSONValue)
  | missedCalls (calls : Option JSONValue)
  deriving DecidableEq, Repr

/-- `dispatchMessage`. -/
def dispatchMessage (msg : JSONObject) : Option Emitted :=
  match msg.get "type" with
  | some (.scalar (.string "incoming_call")) => some (.incomingCall (msg.get "callId") (msg.get "from"))
  | some (.scalar (.string "call_state")) =>
    some (.callState (msg.get "callId") (msg.get "state") (msg.get "reason") (msg.get "durationSeconds"))
  | some (.scalar (.string "incoming_sms")) =>
    some (.incomingSms (msg.get "messageId") (msg.get "from") (msg.get "to") (msg.get "body")
      (msg.get "timestamp"))
  | some (.scalar (.string "sms_result")) =>
    some (.smsResult (msg.get "requestId") (msg.get "success") (msg.get "messageRef")
      (msg.get "errorReason"))
  | some (.scalar (.string "ussd_response")) =>
    some (.ussdResponse (msg.get "requestId") (msg.get "text") (msg.get "sessionActive"))
  | some (.scalar (.string "ussd_error")) =>
    some (.ussdError (msg.get "requestId") (msg.get "errorCode") (msg.get "errorText"))
  | some (.scalar (.string "missed_calls")) => some (.missedCalls (msg.get "calls"))
  | _ => none

/-- What the handlers of the provider read. -/
inductive Inbound
  | callState (callId state durationSeconds requestId reason : Option JSONValue)
  | incomingCall (callId caller : Option JSONValue)
  | incomingSms (messageId caller destination body timestamp : Option JSONValue)
  | smsResult (requestId success errorReason : Option JSONValue)
  | callAck (requestId : Option JSONValue)
  | answerAck (requestId : Option JSONValue)
  | ignored
  deriving DecidableEq, Repr

/-- The switch of `handleInboundMessage`, with what each handler reads. -/
def Inbound.ofMessage (msg : JSONObject) : Inbound :=
  match msg.get "type" with
  | some (.scalar (.string "call_state")) =>
    .callState (msg.get "callId") (msg.get "state") (msg.get "durationSeconds") (msg.get "requestId")
      (msg.get "reason")
  | some (.scalar (.string "incoming_call")) => .incomingCall (msg.get "callId") (msg.get "from")
  | some (.scalar (.string "incoming_sms")) =>
    .incomingSms (msg.get "messageId") (msg.get "from") (msg.get "to") (msg.get "body")
      (msg.get "timestamp")
  | some (.scalar (.string "sms_result")) =>
    .smsResult (msg.get "requestId") (msg.get "success") (msg.get "errorReason")
  | some (.scalar (.string "call_ack")) => .callAck (msg.get "requestId")
  | some (.scalar (.string "answer_ack")) => .answerAck (msg.get "requestId")
  | _ => .ignored

/-! ## One schema -/

namespace Outgoing

/-- The event with the values that the gateway put in. It has no code for the error of a request. -/
def emitted : Outgoing → Option Emitted
  | call (.callState callID state reason durationSeconds) =>
    some (.callState (some (.ofString callID)) (some (.ofString state.text)) (some (.ofString reason))
      (some (.ofNat? durationSeconds)))
  | call (.ack ..) => none
  | call (.incomingCall callID caller) =>
    some (.incomingCall (some (.ofString callID)) (some (.ofString caller)))
  | smsResult r =>
    some (.smsResult (some (.ofString r.requestID)) (some (.ofBool r.success))
      (some (.ofInt r.messageRef)) (some (.ofString r.error)))
  | ussdResponse requestID text sessionActive =>
    some (.ussdResponse (some (.ofString requestID)) (some (.ofString text))
      (some (.ofBool sessionActive)))
  | ussdError requestID error =>
    some (.ussdError (some (.ofString requestID)) none (some (.ofString error)))
  | incomingSMS m =>
    some (.incomingSms (some (.ofString m.messageID)) (some (.ofString m.caller))
      (some (.ofString m.destination)) (some (.ofString m.body)) (some (.ofInt m.timestamp)))
  | missedCalls calls =>
    some (.missedCalls (some (.objects (calls.map fun c =>
      [("from", .string c.caller), ("timestamp", .number c.timestamp)]))))

/-- What the provider has to read, likewise. A call_state is put in without a request ID. -/
def inbound : Outgoing → Inbound
  | call (.callState callID state reason durationSeconds) =>
    .callState (some (.ofString callID)) (some (.ofString state.text)) (some (.ofNat? durationSeconds))
      none (some (.ofString reason))
  | call (.ack .callAck requestID) => .callAck (some (.ofString requestID))
  | call (.ack .answerAck requestID) => .answerAck (some (.ofString requestID))
  | call (.incomingCall callID caller) =>
    .incomingCall (some (.ofString callID)) (some (.ofString caller))
  | smsResult r =>
    .smsResult (some (.ofString r.requestID)) (some (.ofBool r.success)) (some (.ofString r.error))
  | incomingSMS m =>
    .incomingSms (some (.ofString m.messageID)) (some (.ofString m.caller))
      (some (.ofString m.destination)) (some (.ofString m.body)) (some (.ofInt m.timestamp))
  | ussdResponse .. | ussdError .. | missedCalls _ => .ignored

/-- The server reads what the gateway put in. -/
def Arrives (m : Outgoing) : Prop :=
  dispatchMessage m.received = m.emitted ∧ Inbound.ofMessage m.received = m.inbound

instance (m : Outgoing) : Decidable m.Arrives := inferInstanceAs (Decidable (_ ∧ _))

/-- Nothing is left out, no field has another name, and every number is a double. -/
def Kept : Outgoing → Prop
  | call (.callState _ _ reason durationSeconds) =>
    reason ≠ "" ∧ ∀ n ∈ durationSeconds, float64 n = n
  | call _ => True
  | smsResult _ => False
  | ussdResponse .. => True
  | ussdError .. => False
  | incomingSMS m => float64 m.timestamp = m.timestamp
  | missedCalls calls => ∀ c ∈ calls, float64 c.timestamp = c.timestamp

section

attribute [local simp] Arrives received payload type omitEmpty omitZero JSONObject.parse JSONObject.get
  List.lookup JSONValue.parse Scalar.parse dispatchMessage Inbound.ofMessage emitted inbound Kept

theorem arrives_callState (callID : String) (state : CallState) (reason : String)
    (durationSeconds : Option Nat) :
    (call (.callState callID state reason durationSeconds)).Arrives ↔
      (call (.callState callID state reason durationSeconds)).Kept := by
  by_cases hreason : reason = ""
  · simp [hreason]
  · cases durationSeconds <;> simp [hreason]

/-- The error has another name. -/
theorem not_arrives_smsResult (r : SMSResult) : ¬ (smsResult r).Arrives := by
  by_cases href : r.messageRef = 0 <;> by_cases herror : r.error = "" <;> simp [href, herror]

/-- Here too. -/
theorem not_arrives_ussdError (requestID error : String) : ¬ (ussdError requestID error).Arrives := by
  rintro ⟨hemitted, -⟩
  simp at hemitted

theorem arrives_missedCalls (calls : List MissedCall) :
    (missedCalls calls).Arrives ↔ (missedCalls calls).Kept := by
  simp [List.map_inj_left]

/-- **What arrives.** -/
theorem arrives_iff (m : Outgoing) : m.Arrives ↔ m.Kept := by
  cases m with
  | call m =>
    cases m with
    | callState callID state reason durationSeconds => exact arrives_callState ..
    | ack type requestID => cases type <;> simp
    | incomingCall callID caller => simp
  | smsResult r => exact iff_of_false (not_arrives_smsResult r) id
  | ussdResponse requestID text sessionActive => simp
  | ussdError requestID error => exact iff_of_false (not_arrives_ussdError requestID error) id
  | incomingSMS m => simp
  | missedCalls calls => exact arrives_missedCalls calls

end

end Outgoing

/-! ## The requests that are pending -/

/-- How a request is settled. -/
inductive Settlement
  | resolved
  /-- With the result of send_sms. -/
  | sent (messageId : Option JSONValue) (success : Bool) (errorReason : JSONValue)
  /-- `Error("Call failed: …")`. -/
  | callFailed (reason : Option JSONValue)
  deriving DecidableEq, Repr

/-- `TelephonyEvent`, without its time where it is that of the server. -/
inductive TelephonyEvent
  | callStateChanged (callId state : Option JSONValue) (durationSeconds : JSONValue)
  | incomingCall (callId caller : Option JSONValue) (destination : String)
  | incomingSms (messageId caller : Option JSONValue) (destination : JSONValue)
    (body : Option JSONValue) (timestamp : JSONValue)
  deriving DecidableEq, Repr

/-- The provider, with what it has settled and emitted. -/
structure TelephonyProvider where
  pendingOperations : List String
  reportedNumber : Option String
  settled : List (String × Settlement)
  events : List TelephonyEvent
  deriving DecidableEq, Repr

/-- Not empty, and not `undefined`. -/
def truthy : Option JSONValue → Bool
  | none => false
  | some (.scalar .null) => false
  | some (.scalar (.bool b)) => b
  | some (.scalar (.number n)) => n ≠ 0
  | some (.scalar (.string s)) => s ≠ ""
  | some (.objects _) => true

/-- `value ?? default`. -/
def coalesce (value default : Option JSONValue) : Option JSONValue :=
  if value = none ∨ value = some (.scalar .null) then default else value

namespace TelephonyProvider

/-- `resolveRequest`, and `rejectRequest`. -/
def settle (p : TelephonyProvider) (requestId : Option JSONValue) (how : Settlement) :
    TelephonyProvider :=
  match requestId with
  | some (.scalar (.string id)) =>
    if id ∈ p.pendingOperations then
      { p with
        pendingOperations := p.pendingOperations.filter (· ≠ id)
        settled := p.settled ++ [(id, how)] }
    else p
  | _ => p

def emitEvent (p : TelephonyProvider) (e : TelephonyEvent) : TelephonyProvider :=
  { p with events := p.events ++ [e] }

/-- `handleCallState`. -/
def handleCallState (p : TelephonyProvider)
    (callId state durationSeconds requestId reason : Option JSONValue) : TelephonyProvider :=
  let settled :=
    if truthy requestId then
      if state = some (.ofString "FAILED") ∨ state = some (.ofString "BUSY") then
        p.settle requestId (.callFailed (coalesce reason state))
      else if state = some (.ofString "RINGING") ∨ state = some (.ofString "ANSWERED") then
        p.settle requestId .resolved
      else p
    else p
  settled.emitEvent
    (.callStateChanged callId state ((coalesce durationSeconds none).getD (.scalar .null)))

/-- `handleIncomingSms`, at a time of the server. -/
def handleIncomingSms (p : TelephonyProvider) (now : Int)
    (messageId caller destination body timestamp : Option JSONValue) : TelephonyProvider :=
  let destination :=
    if truthy destination then destination.getD (.scalar .null)
    else .ofString (p.reportedNumber.getD "")
  p.emitEvent (.incomingSms messageId caller destination body
    ((coalesce timestamp none).getD (.ofInt now)))

/-- `handleSmsResult`. -/
def handleSmsResult (p : TelephonyProvider) (requestId success errorReason : Option JSONValue) :
    TelephonyProvider :=
  if truthy success then p.settle requestId (.sent requestId true (.scalar .null))
  else p.settle requestId (.sent requestId false ((coalesce errorReason none).getD (.scalar .null)))

/-- `handleInboundMessage`. -/
def handleInboundMessage (p : TelephonyProvider) (now : Int) : Inbound → TelephonyProvider
  | .callState callId state durationSeconds requestId reason =>
    p.handleCallState callId state durationSeconds requestId reason
  | .incomingCall callId caller => p.emitEvent (.incomingCall callId caller (p.reportedNumber.getD ""))
  | .incomingSms messageId caller destination body timestamp =>
    p.handleIncomingSms now messageId caller destination body timestamp
  | .smsResult requestId success errorReason => p.handleSmsResult requestId success errorReason
  | .callAck requestId => p.settle requestId .resolved
  | .answerAck requestId => p.settle requestId .resolved
  | .ignored => p

end TelephonyProvider

/-- The request has failed, and for this reason. -/
def Settlement.FailsWith (reason : String) : Settlement → Prop
  | resolved => False
  | sent _ success errorReason => success = false ∧ errorReason = .ofString reason
  | callFailed why => why = some (.ofString reason)

/-- The message tells a provider that waits for the request why it has failed. -/
def Outgoing.Tells (m : Outgoing) (requestID reason : String) : Prop :=
  ∀ (p : TelephonyProvider) (now : Int), requestID ∈ p.pendingOperations → p.settled = [] →
    ∃ how, (requestID, how) ∈ (p.handleInboundMessage now (.ofMessage m.received)).settled ∧
      how.FailsWith reason

/-- A provider that waits for one request. -/
def TelephonyProvider.waiting (requestID : String) : TelephonyProvider := ⟨[requestID], none, [], []⟩

/-- A call_state settles no request. -/
theorem not_tells_callState (callID : String) (state : CallState) (why : String)
    (durationSeconds : Option Nat) (requestID reason : String) :
    ¬ (Outgoing.call (.callState callID state why durationSeconds)).Tells requestID reason := by
  intro h
  obtain ⟨how, hmem, -⟩ := h (.waiting requestID) 0 (List.mem_singleton_self _) rfl
  have hread : Inbound.ofMessage (Outgoing.call (.callState callID state why durationSeconds)).received =
      .callState (some (.ofString callID)) (some (.ofString state.text))
        (some (JSONValue.ofNat? durationSeconds).parse) none
        (if why = "" then none else some (.ofString why)) := by
    by_cases hwhy : why = "" <;>
      simp [hwhy, Outgoing.received, Outgoing.payload, Outgoing.type, omitEmpty, JSONObject.parse,
        JSONObject.get, List.lookup, JSONValue.parse, Scalar.parse, Inbound.ofMessage]
  rw [hread] at hmem
  exact List.not_mem_nil hmem

/-! ## Requests about calls -/

/-- The request that an operation is for. -/
def Op.requestID : Op → Option String
  | makeCall payload => some payload.requestID
  | dial _ requestID => some requestID
  | answerCall payload => some payload.requestID
  | ata _ requestID => some requestID
  | _ => none

namespace Gateway

/-- Why the request is refused, or fails. -/
def refusal (g : Gateway) (r : Reply) : Op → Option String
  | .makeCall _ => g.cm.call.map fun _ => "call_already_active"
  | .dial .. => r.error.map fun err =>
    if saysBusy err then "BUSY" else if err = "" then "dial_failed" else err
  | .answerCall payload =>
    match g.cm.call with
    | none => some "no_matching_call"
    | some call =>
      if call.callID ≠ payload.callID then some "no_matching_call"
      else if call.answered then some "call_already_answered"
      else none
  | .ata .. => r.error.map fun err => if err = "" then "answer_failed" else err
  | _ => none

/-- The request is not refused, and its command does not fail. -/
def Accepts (g : Gateway) (r : Reply) : Op → Prop
  | .makeCall _ => g.cm.call = none
  | .dial .. => r.error = none
  | .answerCall payload => ∃ call ∈ g.cm.call, call.callID = payload.callID ∧ ¬ call.answered
  | .ata .. => r.error = none
  | _ => True

/-- Where the request is refused or fails, a message that is sent tells it. -/
def TellsFailure (g : Gateway) (r : Reply) (op : Op) : Prop :=
  ∀ reason ∈ g.refusal r op, ∀ requestID ∈ op.requestID, ∀ d, g.run r op = some d →
    ∃ m, Op.send m ∈ d.next ∧ (Outgoing.call m).Tells requestID reason

theorem refusal_eq_none {g : Gateway} {r : Reply} {op : Op} :
    g.refusal r op = none ↔ g.Accepts r op := by
  cases op with
  | answerCall payload =>
    simp only [refusal, Accepts]
    cases g.cm.call with
    | none => simp
    | some call =>
      by_cases hid : call.callID = payload.callID <;> cases hanswered : call.answered <;>
        simp [hid, hanswered]
  | makeCall payload => simp [refusal, Accepts]
  | dial callID requestID => simp [refusal, Accepts]
  | ata callID requestID => simp [refusal, Accepts]
  | _ => simp [refusal, Accepts]

/-- What is sent where a request is refused or fails is a call_state. -/
theorem sends_callState {g : Gateway} {r : Reply} {op : Op} {reason : String}
    (hrefusal : g.refusal r op = some reason) :
    ∃ requestID g' callID state why, op.requestID = some requestID ∧
      g.run r op = some ⟨g', [.send (.callState callID state why none)], []⟩ := by
  cases op with
  | makeCall payload =>
    obtain ⟨call, hcall, -⟩ := Option.map_eq_some_iff.mp hrefusal
    refine ⟨_, g, "", .failed, "call_already_active", rfl, ?_⟩
    simp only [run, hcall, goOn]
  | dial callID requestID =>
    obtain ⟨err, herr, -⟩ := Option.map_eq_some_iff.mp hrefusal
    let g' := { g.settle callID r.keeps with cm.call := none, presented := [] }
    by_cases hbusy : saysBusy err
    · refine ⟨_, g', callID, .busy, "", rfl, ?_⟩
      simp only [run, herr, if_pos hbusy, goOn, g']
    · refine ⟨_, g', callID, .failed, if err = "" then "dial_failed" else err, rfl, ?_⟩
      simp only [run, herr, if_neg hbusy, goOn, g']
  | answerCall payload =>
    refine ⟨_, g, payload.callID, .failed, reason, rfl, ?_⟩
    simp only [refusal] at hrefusal
    simp only [run]
    cases hcall : g.cm.call with
    | none =>
      simp only [hcall] at hrefusal ⊢
      cases hrefusal
      rfl
    | some call =>
      simp only [hcall] at hrefusal ⊢
      split at hrefusal
      · next hid =>
        cases hrefusal
        rw [if_pos hid, goOn]
      · next hid =>
        split at hrefusal <;> cases hrefusal
        next hanswered =>
        rw [if_neg hid, if_pos hanswered, goOn]
  | ata callID requestID =>
    obtain ⟨err, herr, -⟩ := Option.map_eq_some_iff.mp hrefusal
    refine ⟨_, (g.settle callID r.keeps).dropCall, callID, .failed,
      if err = "" then "answer_failed" else err, rfl, ?_⟩
    simp only [run, herr, goOn]
  | _ => cases hrefusal

/-- No failure is told. -/
theorem tellsFailure_iff (g : Gateway) (r : Reply) (op : Op) : g.TellsFailure r op ↔ g.Accepts r op := by
  constructor
  · intro htells
    by_contra hnot
    obtain ⟨reason, hrefusal⟩ := Option.ne_none_iff_exists'.mp (mt refusal_eq_none.mp hnot)
    obtain ⟨requestID, g', callID, state, why, hid, hrun⟩ := sends_callState hrefusal
    obtain ⟨m, hmem, hm⟩ := htells reason hrefusal requestID hid _ hrun
    cases List.mem_singleton.mp hmem
    exact not_tells_callState _ _ _ _ _ _ hm
  · intro haccepts reason hrefusal
    rw [refusal_eq_none.mpr haccepts] at hrefusal
    cases hrefusal

end Gateway

/-! ## send_sms -/

/-- The commands for the parts of a message, with what comes of each: an error, or the reference, which
may not be read. -/
def sendParts (total : Nat) : Nat → Int → List (Except String (Option Int)) → Except String Int
  | _, lastRef, [] => .ok lastRef
  | i, _, .error err :: _ =>
    .error (
      if 1 < total then
        "sms: send failed on part " ++ toString (i + 1) ++ "/" ++ toString total ++ ": " ++ err
      else "sms: send failed: " ++ err)
  | i, lastRef, .ok none :: rest => sendParts total (i + 1) lastRef rest
  | i, _, .ok (some ref) :: rest => sendParts total (i + 1) ref rest

/-- `Manager.Send`, of the parts that `encodeMessage` gives. -/
def sendSMS : Except String (List (Except String (Option Int))) → Except String Int
  | .error err => .error ("sms: encode failed: " ++ err)
  | .ok parts => sendParts parts.length 0 0 parts

/-- `handleSendSMS`. -/
def handleSendSMS (requestID : String) (encoded : Except String (List (Except String (Option Int)))) :
    Outgoing :=
  .smsResult (
    match sendSMS encoded with
    | .error err => ⟨requestID, false, 0, err⟩
    | .ok ref => ⟨requestID, true, ref, ""⟩)

/-- The message is encoded, and every part is sent. -/
def Sends : Except String (List (Except String (Option Int))) → Prop
  | .error _ => False
  | .ok parts => ∀ part ∈ parts, ∃ ref, part = .ok ref

theorem sendParts_ok_iff {total i : Nat} {lastRef : Int} {parts : List (Except String (Option Int))} :
    (∃ ref, sendParts total i lastRef parts = .ok ref) ↔ ∀ part ∈ parts, ∃ ref, part = .ok ref := by
  induction parts generalizing i lastRef with
  | nil => simp [sendParts]
  | cons part rest ih =>
    rw [List.forall_mem_cons]
    match part with
    | .error err => simp [sendParts]
    | .ok none => simpa [sendParts] using ih
    | .ok (some ref) => simpa [sendParts] using ih

theorem sendSMS_ok_iff {encoded : Except String (List (Except String (Option Int)))} :
    (∃ ref, sendSMS encoded = .ok ref) ↔ Sends encoded := by
  cases encoded with
  | error err => simp [sendSMS, Sends]
  | ok parts => exact sendParts_ok_iff

/-- An sms_result settles its request without the error. -/
theorem not_tells_smsResult (r : SMSResult) (requestID reason : String) :
    ¬ (Outgoing.smsResult r).Tells requestID reason := by
  intro h
  obtain ⟨how, hmem, hfails⟩ := h (.waiting requestID) 0 (List.mem_singleton_self _) rfl
  have hread : Inbound.ofMessage (Outgoing.smsResult r).received =
      .smsResult (some (.ofString r.requestID)) (some (.ofBool r.success)) none := by
    by_cases href : r.messageRef = 0 <;> by_cases herror : r.error = "" <;>
      simp [href, herror, Outgoing.received, Outgoing.payload, Outgoing.type, omitEmpty, omitZero,
        JSONObject.parse, JSONObject.get, List.lookup, JSONValue.parse, Scalar.parse, Inbound.ofMessage]
  have hhow : how = .sent (some (.ofString r.requestID)) r.success (.scalar .null) := by
    rw [hread] at hmem
    by_cases hid : r.requestID = requestID <;> cases hsuccess : r.success <;>
      simp_all [TelephonyProvider.handleInboundMessage, TelephonyProvider.handleSmsResult, truthy,
        coalesce, TelephonyProvider.settle, TelephonyProvider.waiting]
  subst hhow
  cases hfails.2

/-- A message that is not sent is told with its error. -/
def TellsSMSFailure (requestID : String) (encoded : Except String (List (Except String (Option Int)))) :
    Prop :=
  ∀ err, sendSMS encoded = .error err → (handleSendSMS requestID encoded).Tells requestID err

theorem tellsSMSFailure_iff (requestID : String)
    (encoded : Except String (List (Except String (Option Int)))) :
    TellsSMSFailure requestID encoded ↔ Sends encoded := by
  rw [← sendSMS_ok_iff]
  cases hsend : sendSMS encoded with
  | ok ref => exact iff_of_true (fun err herr => nomatch hsend.symm.trans herr) ⟨ref, rfl⟩
  | error err =>
    refine iff_of_false (fun htells => ?_) (fun ⟨ref, href⟩ => nomatch href)
    exact not_tells_smsResult _ _ _ (htells err hsend)

/-- **One schema.** The server reads what the gateway put into a message exactly if it is `Kept`, and a
request about a call, or a message to send, is told of its failure exactly if it does not fail. -/
theorem schema_iff (m : Outgoing) (g : Gateway) (r : Reply) (op : Op) (requestID : String)
    (encoded : Except String (List (Except String (Option Int)))) :
    (m.Arrives ↔ m.Kept) ∧ (g.TellsFailure r op ↔ g.Accepts r op) ∧
      (TellsSMSFailure requestID encoded ↔ Sends encoded) :=
  ⟨m.arrives_iff, g.tellsFailure_iff r op, tellsSMSFailure_iff requestID encoded⟩

/-- The error of an sms_result is lost, and nobody is told that a second call is refused, or that a
message was not sent. -/
theorem error_lost :
    ¬ (Outgoing.smsResult ⟨"r1", false, 0, "sms: send failed: modem: +CMS ERROR: 500"⟩).Arrives ∧
      ¬ ((Gateway.init true 0).place false
        ⟨"c1", .outbound, "", "+46700000001", "", false, 0, none, 0⟩).TellsFailure ⟨none, true⟩
          (.makeCall ⟨"r2", "c2", "+46700000002", ""⟩) ∧
        ¬ TellsSMSFailure "r1" (.ok [.error "modem: +CMS ERROR: 500"]) := by
  refine ⟨by decide, fun htells => ?_, fun htells => ?_⟩
  · cases (Gateway.tellsFailure_iff _ _ _).mp htells
  · obtain ⟨ref, href⟩ := (tellsSMSFailure_iff _ _).mp htells _ (List.mem_singleton_self _)
    cases href

end Svarla.ModemGateway
