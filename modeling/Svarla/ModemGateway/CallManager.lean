import Svarla.Lib.Separated
import Svarla.ModemGateway.Audio

/-!
# The calls of the gateway

`CallManager` has at most one call. What it handles are the messages of the server, which the read
loop of the signaling hands over one after the other; the unsolicited result codes of the modem, each
on a goroutine of its own; the timer of the report of an incoming call; and the loss of the signaling,
or of the modem. An operation is a section under its lock, a command to the modem with its answer, or
one message sent.

The calls that are on the modem are numbered (`lines`): one that is made is there from the section on
that makes it. An unsolicited result code is about one of them, which the code is not told. Of a call
ID it is recorded for which of them it stands (`placed`), and of a number for which it was presented
(`presented`). The state machine of the modem, which is only set here, and the log are left out.
-/

namespace Svarla.ModemGateway

open Svarla.Lib

/-! ## Text -/

/-- `unicode.ToUpper`, as far as it makes the letters of BUSY and BEGIN. -/
def toUpper (c : Char) : Char :=
  if c = 'ſ' then 'S' else if c = 'ı' then 'I' else c.toUpper

/-- Does an error say that the line is busy? -/
def saysBusy (err : String) : Prop := "BUSY".toList <:+: err.toList.map toUpper

instance (err : String) : Decidable (saysBusy err) := inferInstanceAs (Decidable (_ <:+: _))

/-- Does the data of a VOICE CALL begin with BEGIN? -/
def saysBegin (data : String) : Prop := "BEGIN".toList <+: data.toList.map toUpper

instance (data : String) : Decidable (saysBegin data) := inferInstanceAs (Decidable (_ <+: _))

/-- `unicode.IsSpace`. -/
def isSpace (c : Char) : Bool :=
  c.toNat ∈ [9, 10, 11, 12, 13, 32, 0x85, 0xA0, 0x1680, 0x2028, 0x2029, 0x202F, 0x205F, 0x3000] ∨
    (0x2000 ≤ c.toNat ∧ c.toNat ≤ 0x200A)

/-- `strings.TrimSpace`. -/
def trimSpace (s : List Char) : List Char :=
  ((s.dropWhile isSpace).reverse.dropWhile isSpace).reverse

/-- The text before the first `c`, and that after it. -/
def cut (c : Char) (s : List Char) : Option (List Char × List Char) :=
  if c ∈ s then some (s.takeWhile (· ≠ c), (s.dropWhile (· ≠ c)).drop 1) else none

/-- `parseCLIPNumber`. -/
def parseCLIPNumber (data : String) : String :=
  let data := trimSpace data.toList
  match cut '"' data with
  | none =>
    match cut ',' data with
    | some (number, _) => .ofList (if number = [] then data else trimSpace number)
    | none => .ofList data
  | some (_, rest) =>
    match cut '"' rest with
    | none => ""
    | some (number, _) => .ofList number

/-! ## Calls -/

inductive CallState
  | ringing
  | answered
  | completed
  | failed
  | busy
  deriving DecidableEq, Repr

inductive CallDirection
  | outbound
  | inbound
  deriving DecidableEq, Repr

/-- `MakeCallPayload`, and `AnswerCallPayload` below. -/
structure MakeCallPayload where
  requestID : String
  callID : String
  /-- `to`. -/
  destination : String
  audioWsURL : String
  deriving DecidableEq, Repr

structure AnswerCallPayload where
  requestID : String
  callID : String
  audioWsURL : String
  deriving DecidableEq, Repr

/-- A message of the server about calls. -/
inductive Request
  | makeCall (payload : MakeCallPayload)
  | answerCall (payload : AnswerCallPayload)
  | endCall (callID : String)
  deriving DecidableEq, Repr

inductive AckType
  | callAck
  | answerAck
  deriving DecidableEq, Repr

/-- A message to the server. -/
inductive Message
  | callState (callID : String) (state : CallState) (reason : String) (durationSeconds : Option Nat)
  | ack (type : AckType) (requestID : String)
  | incomingCall (callID caller : String)
  deriving DecidableEq, Repr

/-- `activeCall`. -/
structure ActiveCall where
  callID : String
  direction : CallDirection
  /-- `from`. -/
  caller : String
  /-- `to`. -/
  destination : String
  audioWsURL : String
  answered : Bool
  answerTime : Nat
  bridge : Option Nat
  /-- The call on the modem that it stands for. -/
  line : Nat
  deriving DecidableEq, Repr

/-- An unsolicited result code, by its prefix. -/
inductive URC
  | ring
  | cring
  | clip (data : String)
  | voiceCall (data : String)
  | noCarrier
  | missedCall
  | busy
  | other
  deriving DecidableEq, Repr

/-- An operation of a handler. -/
inductive Op
  /-- `handleMakeCall`, `handleAnswerCall`, `handleEndCall`. -/
  | makeCall (payload : MakeCallPayload)
  | answerCall (payload : AnswerCallPayload)
  | endCall (callID : String)
  /-- ATD has its result, and ATA. -/
  | dial (callID requestID : String)
  | ata (callID requestID : String)
  | markAnswered (callID : String)
  /-- AT+CHUP, and ATH where it fails. -/
  | hangup
  | hangupATH
  /-- The duration is found, and COMPLETED is sent. -/
  | complete (call : ActiveCall) (reason : String)
  /-- `closeAudio` on a goroutine of its own. -/
  | closeInBackground (call : ActiveCall)
  | voiceCall (line : Nat) (data : String)
  | ring (line : Nat)
  | clip (line : Nat) (data : String)
  | emitIncomingCall (callID : String)
  | noCarrier (line : Nat)
  | busy (line : Nat)
  /-- `HandleModemLost`, `HandleDisconnect`, `Shutdown`. -/
  | modemLost
  | disconnect
  | shutdown
  | send (m : Message)
  /-- `openAudioBridge`, with the sections that follow. -/
  | openAudio (callID : String)
  | connect (callID : String)
  | stream (callID : String) (b : Nat)
  | keepBridge (callID : String) (b : Nat)
  | audio (op : AudioOp)
  deriving DecidableEq, Repr

/-- `handleURC`. -/
def URC.handle (line : Nat) : URC → List Op
  | ring => [.ring line]
  | cring => [.ring line]
  | clip data => [.clip line data]
  | voiceCall data => [.voiceCall line data]
  | noCarrier => [.noCarrier line]
  | missedCall => [.noCarrier line]
  | busy => [.busy line]
  | other => []

/-- `HandleMessage`. -/
def Request.handle : Request → List Op
  | makeCall payload => [.makeCall payload]
  | answerCall payload => [.answerCall payload]
  | endCall callID => [.endCall callID]

/-- `CallManager`. -/
structure CallManager where
  call : Option ActiveCall
  callIDSeq : Nat
  incomingFrom : String
  ringing : Bool
  /-- The call that the timer is for. -/
  reportTimer : Option String
  reportSent : Bool
  deriving DecidableEq, Repr

structure Gateway where
  cm : CallManager
  /-- `IsConnected` of the signaling. -/
  connected : Bool
  /-- The time, in milliseconds. -/
  now : Nat
  /-- The report timers that are still to fire, by their calls. -/
  timers : List String
  audio : Audio
  sent : List Message
  /-- The calls that are on the modem. -/
  lines : List Nat
  /-- How many calls there were on the modem. -/
  nextLine : Nat
  /-- The call IDs that there were, and for which calls they stand. -/
  placed : List (String × Nat)
  /-- The numbers that were presented since a call has ended, and for which calls. -/
  presented : List (Nat × String)
  deriving DecidableEq, Repr

/-- What comes of an operation outside. -/
structure Reply where
  /-- The error of the command, or of what else may fail. -/
  error : Option String
  /-- Is the call still on the modem after the command? -/
  keeps : Bool
  deriving DecidableEq, Repr

namespace Gateway

/-- `NewCallManager`, on a modem without calls. -/
def init (connected : Bool) (now : Nat) : Gateway :=
  ⟨⟨none, 0, "", false, none, false⟩, connected, now, [], .init, [], [], 0, [], []⟩

/-- A call ID that the gateway makes. -/
def callIDOf (ms seq : Nat) : String := "call-" ++ toString ms ++ "-" ++ toString seq

/-- `generateCallID`. -/
def generateCallID (s : Gateway) : String := callIDOf s.now (s.cm.callIDSeq + 1)

/-- Call IDs that were made one after the other are not the same. -/
theorem seq_of_callIDOf {ms seq ms' seq' : Nat} (h : callIDOf ms seq = callIDOf ms' seq') :
    seq = seq' := by
  have hlist : ∀ ms seq : Nat, (callIDOf ms seq).toList =
      ("call-" ++ toString ms).toList ++ '-' :: (seq : Nat).repr.toList := fun ms seq => by
    rw [callIDOf, String.toList_append, String.toList_append, List.append_assoc]
    rfl
  have hdigits : ∀ seq : Nat, '-' ∉ (seq : Nat).repr.toList := fun seq hmem => by
    rw [Nat.toList_repr] at hmem
    exact absurd (Nat.isDigit_of_mem_toDigits (by decide) (by decide) hmem) (by decide)
  have hsides := congrArg String.toList h
  rw [hlist, hlist] at hsides
  have hrepr := (Separated.append_cons_inj_right (hdigits seq) (hdigits seq') hsides).2
  exact Nat.repr_inj.mp (String.toList_inj.mp hrepr)

theorem callIDOf_begins (ms seq : Nat) : "call-".toList <+: (callIDOf ms seq).toList := by
  rw [callIDOf, String.toList_append, String.toList_append, String.toList_append, List.append_assoc,
    List.append_assoc]
  exact List.prefix_append ..

/-- A call comes, under an ID that was generated or not. -/
def place (s : Gateway) (generated : Bool) (call : ActiveCall) : Gateway :=
  { s with
    cm.call := some call
    cm.callIDSeq := if generated then s.cm.callIDSeq + 1 else s.cm.callIDSeq
    nextLine := max s.nextLine (call.line + 1)
    placed := (call.callID, call.line) :: s.placed }

/-- `stopReportTimerLocked`. -/
def stopReportTimer (s : Gateway) : Gateway :=
  { s with
    timers := s.cm.reportTimer.elim s.timers s.timers.erase
    cm.reportTimer := none
    cm.reportSent := false }

/-- How a call ends. -/
def dropCall (s : Gateway) : Gateway :=
  { s with
    cm.call := none
    cm.ringing := false
    cm.incomingFrom := ""
    presented := [] }.stopReportTimer

/-- The modem after a command for a call. -/
def settle (s : Gateway) (callID : String) (keeps : Bool) : Gateway :=
  if keeps then s else { s with lines := s.lines.filter fun line => (callID, line) ∉ s.placed }

/-- All calls on the modem, after a command to hang up. -/
def hungUp (s : Gateway) (keeps : Bool) : Gateway :=
  if keeps then s else { s with lines := [], presented := [] }

@[simp] theorem cm_settle (s : Gateway) (callID : String) (keeps : Bool) :
    (s.settle callID keeps).cm = s.cm := by
  cases keeps <;> rfl

@[simp] theorem sent_settle (s : Gateway) (callID : String) (keeps : Bool) :
    (s.settle callID keeps).sent = s.sent := by
  cases keeps <;> rfl

@[simp] theorem placed_settle (s : Gateway) (callID : String) (keeps : Bool) :
    (s.settle callID keeps).placed = s.placed := by
  cases keeps <;> rfl

@[simp] theorem presented_settle (s : Gateway) (callID : String) (keeps : Bool) :
    (s.settle callID keeps).presented = s.presented := by
  cases keeps <;> rfl

@[simp] theorem timers_settle (s : Gateway) (callID : String) (keeps : Bool) :
    (s.settle callID keeps).timers = s.timers := by
  cases keeps <;> rfl

@[simp] theorem timers_hungUp (s : Gateway) (keeps : Bool) :
    (s.hungUp keeps).timers = s.timers := by
  cases keeps <;> rfl

@[simp] theorem cm_hungUp (s : Gateway) (keeps : Bool) : (s.hungUp keeps).cm = s.cm := by
  cases keeps <;> rfl

@[simp] theorem sent_hungUp (s : Gateway) (keeps : Bool) : (s.hungUp keeps).sent = s.sent := by
  cases keeps <;> rfl

@[simp] theorem placed_hungUp (s : Gateway) (keeps : Bool) :
    (s.hungUp keeps).placed = s.placed := by
  cases keeps <;> rfl

/-- `calculateDuration`. -/
def calculateDuration (s : Gateway) (call : ActiveCall) : Option Nat :=
  if call.answered then some ((s.now - call.answerTime) / 1000) else none

/-- `sendAck`. -/
def sendAck (type : AckType) (requestID : String) : List Op :=
  if requestID = "" then [] else [.send (.ack type requestID)]

/-- `closeAudio`. -/
def closeAudio (call : ActiveCall) : List Op :=
  call.bridge.toList.map (fun b => .audio (.closeBridge b)) ++ [.audio .stop]

section

variable {β : Type} {f : Op → Option β}

theorem filterMap_audio (hf : ∀ op, f (.audio op) = none) (ops : List AudioOp) :
    (ops.map Op.audio).filterMap f = [] := by
  rw [List.filterMap_map]
  exact List.filterMap_eq_nil_iff.mpr fun op _ => hf op

theorem filterMap_closeAudio (hf : ∀ op, f (.audio op) = none) (call : ActiveCall) :
    (closeAudio call).filterMap f = [] := by
  refine List.filterMap_eq_nil_iff.mpr fun op hop => ?_
  obtain hop | hop := List.mem_append.mp hop
  · obtain ⟨b, -, rfl⟩ := List.mem_map.mp hop
    exact hf _
  · exact List.mem_singleton.mp hop ▸ hf _

theorem filterMap_sendAck (hf : ∀ type requestID, f (.send (.ack type requestID)) = none)
    (type : AckType) (requestID : String) : (sendAck type requestID).filterMap f = [] := by
  unfold sendAck
  split
  · rfl
  · rw [List.filterMap_cons_none (hf ..), List.filterMap_nil]

end

/-- The operation is done; other ones come before the rest of the handler. -/
def goOn (s : Gateway) (next : List Op) : Option (Done Gateway Op) := some ⟨s, next, []⟩

/-- One operation, if it is not blocked. -/
def run (s : Gateway) (r : Reply) : Op → Option (Done Gateway Op)
  | .makeCall payload =>
    match s.cm.call with
    | some _ => s.goOn [.send (.callState "" .failed "call_already_active" none)]
    | none =>
      let callID := if payload.callID = "" then s.generateCallID else payload.callID
      let call : ActiveCall :=
        ⟨callID, .outbound, "", payload.destination, payload.audioWsURL, false, 0, none, s.nextLine⟩
      { s.place (payload.callID = "") call with lines := s.nextLine :: s.lines }.goOn
        [.dial callID payload.requestID]
  | .dial callID requestID =>
    match r.error with
    | some err =>
      { s.settle callID r.keeps with cm.call := none, presented := [] }.goOn
        [.send (
          if saysBusy err then .callState callID .busy "" none
          else .callState callID .failed (if err = "" then "dial_failed" else err) none)]
    | none =>
      (s.settle callID r.keeps).goOn
        (sendAck .callAck requestID ++ [.send (.callState callID .ringing "" none)])
  | .answerCall payload =>
    match s.cm.call with
    | none => s.goOn [.send (.callState payload.callID .failed "no_matching_call" none)]
    | some call =>
      if call.callID ≠ payload.callID then
        s.goOn [.send (.callState payload.callID .failed "no_matching_call" none)]
      else if call.answered then
        s.goOn [.send (.callState payload.callID .failed "call_already_answered" none)]
      else
        { s with cm.call := some { call with audioWsURL := payload.audioWsURL } }.goOn
          [.ata payload.callID payload.requestID]
  | .ata callID requestID =>
    match r.error with
    | some err =>
      (s.settle callID r.keeps).dropCall.goOn
        [.send (.callState callID .failed (if err = "" then "answer_failed" else err) none)]
    | none => (s.settle callID r.keeps).goOn (sendAck .answerAck requestID ++ [.markAnswered callID])
  | .markAnswered callID =>
    match s.cm.call with
    | none => s.goOn []
    | some call =>
      if call.callID = callID then
        { s with cm.call := some { call with answered := true, answerTime := s.now } }.goOn
          [.send (.callState callID .answered "" none), .openAudio callID]
      else s.goOn []
  | .endCall callID =>
    match s.cm.call with
    | none => s.goOn []
    | some call =>
      if call.callID ≠ callID then s.goOn []
      else s.dropCall.goOn [.hangup, .complete call "", .closeInBackground call]
  | .hangup => (s.hungUp r.keeps).goOn (if r.error = none then [] else [.hangupATH])
  | .hangupATH => (s.hungUp r.keeps).goOn []
  | .complete call reason =>
    s.goOn [.send (.callState call.callID .completed reason (s.calculateDuration call))]
  | .closeInBackground call => some ⟨s, [], [closeAudio call]⟩
  | .voiceCall _ data =>
    match s.cm.call with
    | none => s.goOn []
    | some call =>
      if ¬ saysBegin data ∨ call.direction ≠ .outbound ∨ call.answered then s.goOn []
      else
        { s with cm.call := some { call with answered := true, answerTime := s.now } }.goOn
          [.send (.callState call.callID .answered "" none), .openAudio call.callID]
  | .ring line =>
    if s.cm.call ≠ none ∨ s.cm.ringing then s.goOn []
    else if ¬ s.connected then s.goOn [.hangup]
    else
      let call : ActiveCall :=
        ⟨s.generateCallID, .inbound, s.cm.incomingFrom, "", "", false, 0, none, line⟩
      { s.place true call with
        cm.ringing := true
        cm.reportSent := false
        cm.reportTimer := some s.generateCallID
        timers := s.generateCallID :: s.timers }.goOn []
  | .clip line data =>
    let number := parseCLIPNumber data
    let s := { s with presented := (line, number) :: s.presented }
    match s.cm.call with
    | none => { s with cm.incomingFrom := number }.goOn []
    | some call =>
      if call.direction = .inbound ∧ call.caller = "" ∧ s.cm.ringing then
        { s with
          cm.incomingFrom := number
          cm.call := some { call with caller := number } }.goOn
          (if s.cm.reportSent then [.send (.incomingCall call.callID number)] else [])
      else { s with cm.incomingFrom := number }.goOn []
  | .emitIncomingCall callID =>
    match s.cm.call with
    | none => s.goOn []
    | some call =>
      if call.callID ≠ callID ∨ s.cm.reportSent then s.goOn []
      else { s with cm.reportSent := true }.goOn [.send (.incomingCall callID call.caller)]
  | .noCarrier _ =>
    match s.cm.call with
    | none => { s with presented := [] }.goOn []
    | some call => s.dropCall.goOn (closeAudio call ++ [.complete call ""])
  | .busy _ =>
    match s.cm.call with
    | none => { s with presented := [] }.goOn []
    | some call => s.dropCall.goOn [.send (.callState call.callID .busy "" none)]
  | .modemLost =>
    match s.cm.call with
    | none => s.goOn []
    | some call => s.dropCall.goOn (closeAudio call ++ [.complete call "modem_lost"])
  | .disconnect =>
    match s.cm.call with
    | none => s.goOn []
    | some call =>
      if s.cm.ringing ∧ ¬ call.answered then s.dropCall.goOn (closeAudio call ++ [.hangup])
      else s.goOn []
  | .shutdown =>
    match s.cm.call with
    | none => s.goOn []
    | some call => s.dropCall.goOn (closeAudio call ++ [.hangup, .complete call "shutdown"])
  | .send m =>
    (if s.connected ∧ r.error = none then { s with sent := s.sent ++ [m] } else s).goOn []
  | .openAudio callID =>
    match s.cm.call with
    | none => s.goOn []
    | some call =>
      if call.callID ≠ callID ∨ call.audioWsURL = "" then s.goOn [] else s.goOn [.connect callID]
  | .connect callID =>
    if r.error = none then
      { s with audio := s.audio.connect }.goOn [.stream callID s.audio.bridges.length]
    else s.goOn []
  | .stream callID b =>
    match s.audio.startStreaming b with
    | some audio => { s with audio }.goOn [.keepBridge callID b]
    | none => s.goOn [.audio (.closeBridge b)]
  | .keepBridge callID b =>
    match s.cm.call with
    | none => s.goOn [.audio (.closeBridge b)]
    | some call =>
      if call.callID = callID then
        { s with cm.call := some { call with bridge := some b } }.goOn [.audio (.start callID)]
      else s.goOn [.audio (.closeBridge b)]
  | .audio op =>
    (s.audio.run (r.error = none) op).map fun (audio, next) =>
      ⟨{ s with audio }, next.map .audio, []⟩

/-- A handler is started to close the audio of a call only. -/
theorem spawned_run {g : Gateway} {r : Reply} {op : Op} {d : Done Gateway Op}
    (hrun : g.run r op = some d) :
    d.spawned = [] ∨ ∃ call, op = .closeInBackground call ∧ d.spawned = [closeAudio call] := by
  have hgo : ∀ {g' : Gateway} {next : List Op}, g'.goOn next = some d → d.spawned = [] := by
    rintro g' next h
    cases h
    rfl
  cases op with
  | closeInBackground call =>
    cases hrun
    exact .inr ⟨call, rfl, rfl⟩
  | audio op =>
    obtain ⟨_, -, rfl⟩ := Option.map_eq_some_iff.mp hrun
    exact .inl rfl
  | _ =>
    refine .inl ?_
    simp only [run] at hrun
    repeat' first | exact hgo hrun | split at hrun

end Gateway

/-- What happens to the gateway. -/
inductive Event
  /-- The read loop gets a message. -/
  | message (request : Request)
  /-- The modem reports something about a call. -/
  | urc (line : Nat) (urc : URC)
  /-- The report timer of a call fires. -/
  | fire (callID : String)
  | connected
  | disconnected
  | modemLost
  | shutdown
  | wait (ms : Nat)
  /-- A loop of a bridge ends, or one of the pipeline. -/
  | bridgeLoopEnds (b : Nat) (sendLoop : Bool)
  | pcmLoopEnds (i : Nat)
  /-- The next operation of a handler. -/
  | run (i : Nat) (reply : Reply)
  deriving DecidableEq, Repr

/-- The gateway with its handlers, the first of which is that of the read loop. -/
abbrev Calls := Handlers Gateway Op

namespace Calls

def init (connected : Bool) (now : Nat) : Calls := ⟨.init connected now, [[]]⟩

/-- The gateway is set, and a handler is started. -/
def start (s : Calls) (g : Gateway) (thread : List Op) : Calls := ⟨g, s.threads ++ [thread]⟩

/-- A RING is about a call that is on the modem, or a new one; a call that has ended is not there. -/
def reported (g : Gateway) (line : Nat) : URC → Option Gateway
  | .ring | .cring =>
    if line ∈ g.lines then some g
    else if line = g.nextLine then
      some { g with lines := line :: g.lines, nextLine := line + 1 }
    else none
  | .noCarrier | .missedCall | .busy => some { g with lines := g.lines.filter (· ≠ line) }
  | _ => some g

/-- Only what is on the modem is not as before. -/
theorem eq_of_reported {g g' : Gateway} {line : Nat} {urc : URC}
    (h : reported g line urc = some g') :
    ∃ lines nextLine, g' = { g with lines := lines, nextLine := nextLine } := by
  have hring : ∀ g', (if line ∈ g.lines then some g
      else if line = g.nextLine then some { g with lines := line :: g.lines, nextLine := line + 1 }
      else none) = some g' → ∃ lines nextLine, g' = { g with lines := lines, nextLine := nextLine } := by
    intro g' h
    split at h
    · cases h
      exact ⟨_, _, rfl⟩
    · split at h <;> cases h
      exact ⟨_, _, rfl⟩
  cases urc with
  | ring | cring => exact hring g' h
  | _ =>
    cases h
    exact ⟨_, _, rfl⟩

/-- The next operation of a handler. -/
def head (s : Calls) (i : Nat) : Option Op := s.threads[i]?.bind List.head?

/-- What a step sends. -/
def newlySent (s t : Calls) : List Message := t.shared.sent.drop s.shared.sent.length

/-- One event. -/
def step (s : Calls) : Event → Option Calls
  | .message request =>
    if s.threads[0]? = some [] then some { s with threads := s.threads.set 0 request.handle } else none
  | .urc line urc => (reported s.shared line urc).map (s.start · (urc.handle line))
  | .fire callID =>
    if callID ∈ s.shared.timers then
      some (s.start { s.shared with timers := s.shared.timers.erase callID }
        [.emitIncomingCall callID])
    else none
  | .connected => some { s with shared.connected := true }
  | .disconnected => some (s.start { s.shared with connected := false } [.disconnect])
  | .modemLost => some (s.start { s.shared with lines := [] } [.modemLost])
  | .shutdown => some (s.start s.shared [.shutdown])
  | .wait ms => some { s with shared.now := s.shared.now + ms }
  | .bridgeLoopEnds b sendLoop =>
    (s.shared.audio.loopEnds b sendLoop).map fun audio => { s with shared.audio := audio }
  | .pcmLoopEnds i => (s.shared.audio.pcmLoopEnds i).map fun audio => { s with shared.audio := audio }
  | .run i reply => s.advance Gateway.run i reply

end Calls

end Svarla.ModemGateway
