import Svarla.ModemGateway.Commands
import Svarla.ModemGateway.Ussd
import Svarla.Sms.RoundTrip
import Svarla.Lib.Run

/-!
# The text of requests in AT commands

The number of a call, a DTMF digit and a USSD text are put in their AT command as they are, where a quote, a
semicolon or the end of a line ends what they are meant for. A message is sent as a PDU, of hexadecimal
digits alone (`clean_pdu`). So what is written for a request is what its operation calls for exactly if the
request is refused, or its text has none of these characters (`contained_iff`).

What is written for a command is what `executeCommand` writes, whatever the modem does meanwhile
(`Executing`), and no other text is written by the dispatcher (`written_by_executions`). The managers are
those of a gateway with a modem.
-/

namespace Svarla.ModemGateway.RequestText

open Svarla.Lib

/-! ## Requests -/

/-- A request, by what goes to the modem. -/
inductive Request
  | makeCall (number : String)
  | sendDTMF (digit : String)
  | ussdRequest (code input : String) (cancel : Bool)
  | sendSMS (number body : String)
  deriving DecidableEq, Repr

/-- What the handlers look at. -/
structure GatewayState where
  /-- Is `cm.call` there? -/
  call : Bool
  /-- `IsCallActive`. -/
  callActive : Bool
  /-- `callActive` and `state` of the USSD manager. -/
  ussdCallActive : Bool
  ussdState : SessionState
  concatRef : UInt8
  deriving DecidableEq, Repr

/-- `handleMakeCall`. -/
def handleMakeCall (g : GatewayState) (number : String) : Except String (List Command) :=
  if g.call then .error "call_already_active" else .ok [.ofText ("ATD" ++ number ++ ";")]

/-- `handleSendDTMF`. -/
def handleSendDTMF (g : GatewayState) (digit : String) : Except String (List Command) :=
  if g.callActive then .ok [.ofText ("AT+VTS=" ++ digit)] else .error "no active call"

/-- The command of a USSD text, and that which follows it when no answer comes. -/
def ussdCommands (text : String) : List Command :=
  [.ofText ("AT+CUSD=1,\"" ++ text ++ "\""), .ofText "AT+CUSD=2"]

/-- `Execute`. -/
def execute (g : GatewayState) (code : String) : Except String (List Command) :=
  if g.ussdCallActive then .error "ussd: not available during active voice call"
  else if g.ussdState ≠ .idle then .error "ussd: session already active"
  else .ok (ussdCommands code)

/-- `SendInput`. -/
def sendInput (g : GatewayState) (input : String) : Except String (List Command) :=
  if g.ussdCallActive then .error "ussd: not available during active voice call"
  else if g.ussdState ≠ .active then .error "ussd: no active session"
  else .ok (ussdCommands input)

/-- `Cancel`. -/
def cancel (g : GatewayState) : Except String (List Command) :=
  if g.ussdState = .idle then .error "ussd: no active session" else .ok [.ofText "AT+CUSD=2"]

/-- `handleUSSDRequest`. -/
def handleUSSDRequest (g : GatewayState) (code input : String) (cancelled : Bool) :
    Except String (List Command) :=
  if cancelled then cancel g else if input ≠ "" then sendInput g input else execute g code

/-- The hexadecimal digits of a PDU, as a text. -/
def pduText (pdu : List UInt8) : String := .ofList (pdu.map fun b => Char.ofNat b.toNat)

/-- `Send`. -/
def send (g : GatewayState) (number body : String) : Except String (List Command) :=
  match Sms.encodeMessage number body (g.concatRef + 1) false with
  | .error err => .error ("sms: encode failed: " ++ err)
  | .ok parts => .ok (parts.map fun part =>
    .ofMessage ("AT+CMGS=" ++ toString part.tpduLen) (pduText part.pdu))

/-- What a request is refused with, or the commands that are sent for it, one after the other as long as
none fails. -/
def handle (g : GatewayState) : Request → Except String (List Command)
  | .makeCall number => handleMakeCall g number
  | .sendDTMF digit => handleSendDTMF g digit
  | .ussdRequest code input cancelled => handleUSSDRequest g code input cancelled
  | .sendSMS number body => send g number body

/-! ## What is written -/

/-- What `executeCommand` may have written for a command when it is at a stage. Of the command it looks at
what its caller gave, and at what the reader has found meanwhile. -/
inductive Executing (c : Command) : Stage → List String → Prop
  | start : Executing c .writing []
  | step {s t : Modem} {c' : Command} {n : Nat} {stage next : Stage} {choice : Choice}
      {ws new : List String} (h : Executing c stage ws) (hcmd : c'.cmd = c.cmd)
      (hbody : c'.smsBody = c.smsBody) (hstep : s.executeCommand n c' stage choice = some t)
      (hnext : t.dispatcher = .executing n next) (hnew : t.written = s.written ++ new) :
      Executing c next (ws ++ new)

/-! ## What an operation calls for -/

/-- The characters that end an argument, a line or a message. -/
def Forbidden (c : Char) : Prop :=
  c ∈ ['\r', '\n', Char.ofNat 0x1A, Char.ofNat 0x1B, Char.ofNat 0x22, ';']

instance (c : Char) : Decidable (Forbidden c) := inferInstanceAs (Decidable (c ∈ _))

def Clean (text : String) : Prop := ∀ c ∈ text.toList, ¬ Forbidden c

instance (text : String) : Decidable (Clean text) := inferInstanceAs (Decidable (∀ c ∈ _, _))

/-- An operation of the modem, with the text that it is given. -/
inductive AtOperation
  | dial (number : String)
  | tone (digit : String)
  | ussd (text : String)
  | cancelUSSD
  | message (length : Nat) (pdu : String)
  deriving DecidableEq, Repr

namespace AtOperation

/-- What is written for an operation. -/
def writes : AtOperation → List String
  | dial number => ["ATD" ++ number ++ ";" ++ "\r\n"]
  | tone digit => ["AT+VTS=" ++ digit ++ "\r\n"]
  | ussd text => ["AT+CUSD=1,\"" ++ text ++ "\"" ++ "\r\n"]
  | cancelUSSD => ["AT+CUSD=2" ++ "\r\n"]
  | message length pdu => ["AT+CMGS=" ++ toString length ++ "\r\n", pdu ++ "\x1A"]

/-- The text that the operation is given. -/
def argument : AtOperation → String
  | dial text | tone text | ussd text | message _ text => text
  | cancelUSSD => ""

/-- So much was written for an operation: all of it where its result is awaited, and else a beginning. A
message without a result is ended by the modem layer, with an ESC. -/
def Wrote (op : AtOperation) (stage : Stage) (ws : List String) : Prop :=
  if stage = .awaiting then ws = op.writes
  else ws <+: op.writes ∨ (∃ length pdu, op = .message length pdu) ∧ ws = op.writes ++ ["\x1B"]

end AtOperation

/-- What a request calls for: a USSD text that gets no answer is followed by the end of its session. -/
def Request.operations (g : GatewayState) : Request → List AtOperation
  | .makeCall number => [.dial number]
  | .sendDTMF digit => [.tone digit]
  | .ussdRequest code input cancelled =>
    if cancelled then [.cancelUSSD] else [.ussd (if input ≠ "" then input else code), .cancelUSSD]
  | .sendSMS number body =>
    match Sms.encodeMessage number body (g.concatRef + 1) false with
    | .error _ => []
    | .ok parts => parts.map fun part => .message part.tpduLen (pduText part.pdu)

/-- Whatever happens to a command, what is written for it is what an operation calls for, and nothing of
the text that is written ends it. -/
def AtOperation.Contains (c : Command) (op : AtOperation) : Prop :=
  ∀ stage ws, Executing c stage ws → op.Wrote stage ws ∧ (ws ≠ [] → Clean op.argument)

/-- A request is refused, or each of its commands is contained in an operation that it calls for. -/
def Contained (g : GatewayState) (r : Request) : Prop :=
  ∀ commands, handle g r = .ok commands → List.Forall₂ AtOperation.Contains commands (r.operations g)

/-- A request is refused, or its text is clean, or encoded. -/
def CleanText (g : GatewayState) : Request → Prop
  | .makeCall number => g.call = true ∨ Clean number
  | .sendDTMF digit => g.callActive = false ∨ Clean digit
  | .ussdRequest code input cancelled =>
    cancelled = true ∨ g.ussdCallActive = true ∨
      if input ≠ "" then g.ussdState ≠ .active ∨ Clean input else g.ussdState ≠ .idle ∨ Clean code
  | .sendSMS _ _ => True

/-! ## The steps of a command -/

/-- How far the text of a command is written. -/
inductive Phase
  | before
  | between
  | written
  | ended
  deriving DecidableEq, Repr

/-- What is written before a stage. -/
def phase : Stage → Phase
  | .writing | .failing _ => .before
  | .prompt | .promptTimedOut | .promptFailing | .writingBody | .bodyFailing _ => .between
  | .awaiting | .timedOut => .written
  | .closing | .draining | .portClosed | .returning => .ended

/-- What the caller gave. -/
def text (c : Command) : String × String := (c.cmd, c.smsBody)

/-- A step from one stage to another, and what it writes. -/
inductive Writes (c : Command) : Stage → Stage → List String → Prop
  | line : Writes c .writing (if c.smsBody = "" then .awaiting else .prompt) [c.cmd ++ "\r\n"]
  | body : Writes c .writingBody .awaiting [c.smsBody]
  | escape (h : isCMGSCommand c.cmd = true) : Writes c .timedOut .draining ["\x1B"]
  | silent {stage next : Stage} (h : phase next = phase stage ∨ phase next = .ended) :
    Writes c stage next []

/-- What a step of `executeCommand` writes. -/
theorem executeCommand_writes {s t : Modem} {c : Command} {n : Nat} {stage : Stage} {choice : Choice}
    (h : s.executeCommand n c stage choice = some t) :
    (t.dispatcher = .waiting ∧ t.written = s.written) ∨
      ∃ next new, t.dispatcher = .executing n next ∧ t.written = s.written ++ new ∧
        Writes c stage next new := by
  have hsilent : ∀ {u : Modem} {next : Stage}, u.written = s.written →
      (phase next = phase stage ∨ phase next = .ended) →
      ((u.goto n next).dispatcher = .waiting ∧ (u.goto n next).written = s.written) ∨
      ∃ next' new, (u.goto n next).dispatcher = .executing n next' ∧
        (u.goto n next).written = s.written ++ new ∧ Writes c stage next' new :=
    fun hu hphase => .inr ⟨_, [], rfl, by rw [List.append_nil]; exact hu, .silent hphase⟩
  unfold Modem.executeCommand at h
  split at h
  · cases h
    exact .inr ⟨_, _, rfl, rfl, .line⟩
  · cases h
    exact hsilent rfl (.inl rfl)
  · obtain ⟨-, rfl⟩ := Modem.of_ite_some h
    exact hsilent rfl (.inr rfl)
  · obtain ⟨-, rfl⟩ := Modem.of_ite_some h
    exact hsilent rfl (.inl rfl)
  · cases h
    exact hsilent rfl (.inl rfl)
  · obtain ⟨-, rfl⟩ := Modem.of_ite_some h
    exact hsilent rfl (.inr rfl)
  · obtain ⟨-, rfl⟩ := Modem.of_ite_some h
    exact hsilent rfl (.inr rfl)
  · cases h
    refine hsilent rfl ?_
    split
    · exact .inr rfl
    · exact .inl rfl
  · cases h
    exact hsilent rfl (.inr rfl)
  · cases h
    exact .inr ⟨_, _, rfl, rfl, .body⟩
  · cases h
    exact hsilent rfl (.inl rfl)
  · obtain ⟨-, rfl⟩ := Modem.of_ite_some h
    exact hsilent rfl (.inr rfl)
  · cases h
    refine hsilent ?_ (.inr rfl)
    unfold Modem.complete
    split
    · rfl
    · rfl
  · obtain ⟨-, rfl⟩ := Modem.of_ite_some h
    exact hsilent rfl (.inr rfl)
  · cases h
    exact hsilent rfl (.inl rfl)
  · obtain ⟨-, rfl⟩ := Modem.of_ite_some h
    exact hsilent rfl (.inr rfl)
  · cases h
    by_cases hsms : isCMGSCommand c.cmd = true
    · rw [if_pos hsms]
      exact .inr ⟨_, _, rfl, rfl, .escape hsms⟩
    · rw [if_neg hsms]
      exact hsilent rfl (.inr rfl)
  · obtain ⟨-, rfl⟩ := Modem.of_ite_some h
    exact hsilent rfl (.inr rfl)
  · cases h
    exact hsilent rfl (.inr rfl)
  · obtain ⟨-, rfl⟩ := Modem.of_ite_some h
    exact hsilent rfl (.inr rfl)
  · cases h
    exact hsilent rfl (.inr rfl)
  · cases h
    exact .inl ⟨rfl, rfl⟩
  · cases h

/-- All that is written for a command that gets its prompt. -/
def wholeText (c : Command) : List String :=
  (c.cmd ++ "\r\n") :: if c.smsBody = "" then [] else [c.smsBody]

/-- What is written for a command, by how far it is. -/
def Written (c : Command) (ws : List String) : Phase → Prop
  | .before => ws = []
  | .between => ws = [c.cmd ++ "\r\n"] ∧ c.smsBody ≠ ""
  | .written => ws = wholeText c
  | .ended => ws <+: wholeText c ∨ isCMGSCommand c.cmd = true ∧ ws = wholeText c ++ ["\x1B"]

/-- Wherever a command is given up, a beginning of its text is written. -/
theorem Written.ended {c : Command} {ws : List String} {p : Phase} (h : Written c ws p) :
    Written c ws .ended := by
  cases p with
  | before => exact .inl (h ▸ List.nil_prefix)
  | between =>
    obtain ⟨rfl, hbody⟩ := h
    refine .inl ?_
    rw [wholeText, if_neg hbody]
    exact ⟨[c.smsBody], rfl⟩
  | written => exact .inl (h ▸ List.prefix_rfl)
  | ended => exact h

theorem Writes.keeps {c : Command} {stage next : Stage} {ws new : List String}
    (h : Writes c stage next new) (hws : Written c ws (phase stage)) :
    Written c (ws ++ new) (phase next) := by
  cases h with
  | line =>
    cases hws
    by_cases hbody : c.smsBody = ""
    · rw [if_pos hbody]
      simp [Written, phase, wholeText, hbody]
    · rw [if_neg hbody]
      exact ⟨rfl, hbody⟩
  | body =>
    obtain ⟨rfl, hbody⟩ := hws
    simp [Written, phase, wholeText, hbody]
  | escape hsms =>
    cases hws
    exact .inr ⟨hsms, rfl⟩
  | silent hphase =>
    rw [List.append_nil]
    rcases hphase with hphase | hphase
    · rwa [hphase]
    · rw [hphase]
      exact hws.ended

theorem Writes.congr {c c' : Command} {stage next : Stage} {new : List String}
    (h : Writes c stage next new) (hcmd : c.cmd = c'.cmd) (hbody : c.smsBody = c'.smsBody) :
    Writes c' stage next new := by
  cases h with
  | line =>
    rw [hcmd, hbody]
    exact .line
  | body =>
    rw [hbody]
    exact .body
  | escape hsms => exact .escape (hcmd ▸ hsms)
  | silent hphase => exact .silent hphase

/-- **What is written for a command** depends on how far it is alone. -/
theorem Executing.written {c : Command} {stage : Stage} {ws : List String} (h : Executing c stage ws) :
    Written c ws (phase stage) := by
  induction h with
  | start => rfl
  | step h hcmd hbody hstep hnext hnew ih =>
    rcases executeCommand_writes hstep with ⟨hwaiting, -⟩ | ⟨next', new', hnext', hnew', hwrites⟩
    · rw [hwaiting] at hnext
      cases hnext
    · rw [hnext] at hnext'
      cases hnext'
      rw [hnew] at hnew'
      cases List.append_cancel_left hnew'
      exact (hwrites.congr hcmd hbody).keeps ih

/-! ## Runs of the modem -/

/-- The command of a caller. -/
def submitted : ModemEvent → Option Command
  | .sendCommand cmd => some (.ofText cmd)
  | .sendSMSCommand header body => some (.ofMessage header body)
  | _ => none

/-- The texts of the commands. -/
def texts (s : Modem) : List (String × String) := s.commands.map text

theorem texts_modify {s : Modem} {n : Nat} {f : Command → Command} (hf : ∀ c, text (f c) = text c) :
    (s.commands.modify n f).map text = texts s := by
  refine List.ext_getElem? fun m => ?_
  rw [texts, List.getElem?_map, List.getElem?_map, List.getElem?_modify]
  cases s.commands[m]? with
  | none => rfl
  | some c =>
    split
    · exact congrArg some (hf c)
    · rfl

/-- So much is written for the command that the dispatcher is at, one of `P`. -/
def Current (P : Command → Prop) (s : Modem) (ws : List String) : Prop :=
  match s.dispatcher with
  | .executing n stage => ∃ c, P c ∧ (texts s)[n]? = some (text c) ∧ Executing c stage ws
  | _ => ws = []

/-- What is written is what was written for commands of `P`, one after the other. -/
structure Traced (P : Command → Prop) (s : Modem) : Prop where
  given : ∀ x ∈ texts s, ∃ c, P c ∧ text c = x
  queue : ∀ n ∈ s.queue, n < (texts s).length
  written : ∃ (past : List (List String)) (ws : List String), s.written = past.flatten ++ ws ∧
    (∀ w ∈ past, ∃ c stage, P c ∧ Executing c stage w) ∧ Current P s ws

namespace Traced

variable {P : Command → Prop} {equalFold : Modem.EqualFold} {s t : Modem}

theorem init : Traced P .init := ⟨nofun, nofun, [], [], rfl, nofun, rfl⟩

/-- The dispatcher has no part in the event. -/
theorem frame (h : Traced P s) {new : List (String × String)} (hdispatcher : t.dispatcher = s.dispatcher)
    (hwritten : t.written = s.written) (htexts : texts t = texts s ++ new)
    (hnew : ∀ x ∈ new, ∃ c, P c ∧ text c = x)
    (hqueue : ∀ n ∈ t.queue, n < (texts t).length) : Traced P t := by
  refine ⟨fun x hx => ?_, hqueue, ?_⟩
  · rw [htexts] at hx
    rcases List.mem_append.mp hx with hx | hx
    · exact h.given x hx
    · exact hnew x hx
  · obtain ⟨past, ws, hpast, hexecutions, hcurrent⟩ := h.written
    refine ⟨past, ws, hwritten.trans hpast, hexecutions, ?_⟩
    unfold Current at hcurrent ⊢
    rw [hdispatcher]
    split
    · next n stage hexecuting =>
      rw [hexecuting] at hcurrent
      obtain ⟨c, hc, htext, hexecution⟩ := hcurrent
      refine ⟨c, hc, ?_, hexecution⟩
      rw [htexts, List.getElem?_append_left (List.getElem?_eq_some_iff.mp htext).1]
      exact htext
    · next hnone =>
      split at hcurrent
      · next n stage hexecuting => exact absurd hexecuting (hnone n stage)
      · exact hcurrent

/-- The dispatcher and the texts stay. -/
theorem of_texts (h : Traced P s) (hdispatcher : t.dispatcher = s.dispatcher)
    (hwritten : t.written = s.written) (htexts : texts t = texts s)
    (hqueue : t.queue = s.queue) : Traced P t := by
  have hnew : texts t = texts s ++ [] := by rw [List.append_nil, htexts]
  refine h.frame hdispatcher hwritten hnew nofun ?_
  rw [hqueue, htexts]
  exact h.queue

/-- A command is changed, but not its text. -/
theorem modify (h : Traced P s) {n : Nat} {f : Command → Command}
    (hcommands : t.commands = s.commands.modify n f) (hf : ∀ c, text (f c) = text c)
    (hdispatcher : t.dispatcher = s.dispatcher) (hwritten : t.written = s.written)
    (hqueue : t.queue = s.queue) : Traced P t :=
  h.of_texts hdispatcher hwritten ((congrArg (List.map text) hcommands).trans (texts_modify hf)) hqueue

theorem submit (h : Traced P s) {c : Command} (hc : P c) : Traced P (s.submit c) := by
  have hgiven : text (if s.closed then c.give ⟨[], some .portClosed⟩ else c) = text c := by
    split
    · rfl
    · rfl
  have htexts : texts (s.submit c) = texts s ++ [text c] := by
    rw [← hgiven]
    exact List.map_append
  refine h.frame rfl rfl htexts (fun x hx => ⟨c, hc, (List.mem_singleton.mp hx).symm⟩) fun n hn => ?_
  rw [htexts, List.length_append]
  exact Nat.lt_add_right _ (h.queue n hn)

theorem enqueue (h : Traced P s) {n : Nat} {c : Command} (hc : s.commands[n]? = some c) :
    Traced P { s.modify n ({ · with caller := .waiting }) with queue := s.queue ++ [n] } := by
  have htexts : texts { s.modify n ({ · with caller := .waiting }) with queue := s.queue ++ [n] } =
      texts s ++ [] := by
    rw [List.append_nil]
    exact texts_modify fun _ => rfl
  refine h.frame rfl rfl htexts nofun fun m hm => ?_
  rw [htexts, List.append_nil]
  rcases List.mem_append.mp hm with hm | hm
  · exact h.queue m hm
  · rw [List.mem_singleton.mp hm, texts, List.length_map]
    exact (List.getElem?_eq_some_iff.mp hc).1

theorem readLine (h : Traced P s) (line : String) : Traced P (s.readLine equalFold line) := by
  unfold Modem.readLine
  dsimp only
  split
  · exact h
  · split
    · exact h.of_texts rfl rfl rfl rfl
    · split
      · exact h.of_texts rfl rfl rfl rfl
      · split
        · exact h
        · exact h.of_texts rfl rfl rfl rfl

theorem read (h : Traced P s) (hread : s.read = some t) : Traced P t := by
  unfold Modem.read at hread
  split at hread
  · cases hread
    exact h.modify rfl (fun _ => rfl) rfl rfl rfl
  · cases hread
    exact h.modify rfl (fun _ => rfl) rfl rfl rfl
  · obtain ⟨c, -, rfl⟩ := Option.map_eq_some_iff.mp hread
    unfold Modem.complete
    split
    · exact h.of_texts rfl rfl rfl rfl
    · exact h.modify rfl (fun _ => rfl) rfl rfl rfl
  · cases hread
    exact h.of_texts rfl rfl rfl rfl
  · cases hread
  · cases hread

/-- What is written, with what is written for the command that the dispatcher is at. -/
theorem executions (h : Traced P s) : ∃ executions : List (List String),
    s.written = executions.flatten ∧ ∀ ws ∈ executions, ∃ c stage, P c ∧ Executing c stage ws := by
  obtain ⟨past, ws, hpast, hexecutions, hcurrent⟩ := h.written
  unfold Current at hcurrent
  split at hcurrent
  · next n stage hexecuting =>
    obtain ⟨c, hc, -, hexecution⟩ := hcurrent
    refine ⟨past ++ [ws], by rw [hpast]; simp, fun w hw => ?_⟩
    rcases List.mem_append.mp hw with hw | hw
    · exact hexecutions w hw
    · rw [List.mem_singleton.mp hw]
      exact ⟨c, stage, hc, hexecution⟩
  · subst hcurrent
    exact ⟨past, by rw [hpast, List.append_nil], hexecutions⟩

/-- The dispatcher is between two commands. -/
theorem at_rest (h : Traced P s) (ht : ∀ n stage, t.dispatcher ≠ .executing n stage)
    (hwritten : t.written = s.written) (htexts : texts t = texts s)
    (hqueue : ∀ n ∈ t.queue, n ∈ s.queue) : Traced P t := by
  obtain ⟨past, hpast, hexecutions⟩ := h.executions
  refine ⟨?_, ?_, past, [], by rw [List.append_nil, hwritten, hpast], hexecutions, ?_⟩
  · rw [htexts]
    exact h.given
  · rw [htexts]
    exact fun n hn => h.queue n (hqueue n hn)
  · unfold Current
    split
    · next n stage hexecuting => exact absurd hexecuting (ht n stage)
    · rfl

theorem takeCommand (h : Traced P s) {choice : Choice} (htake : s.takeCommand choice = some t) :
    Traced P t := by
  unfold Modem.takeCommand at htake
  split at htake
  · split at htake
    · cases htake
    · next n rest hqueue =>
      cases htake
      obtain ⟨past, hpast, hexecutions⟩ := h.executions
      have hn : n < (texts s).length := h.queue n (hqueue ▸ List.mem_cons_self)
      obtain ⟨c, hc, htext⟩ := h.given _ (List.getElem_mem hn)
      refine ⟨h.given, fun m hm => h.queue m (hqueue ▸ List.mem_cons_of_mem _ hm), past, [],
        by rw [List.append_nil]; exact hpast, hexecutions, ?_⟩
      exact ⟨c, hc, List.getElem?_eq_some_iff.mpr ⟨hn, htext.symm⟩, .start⟩
  · obtain ⟨-, rfl⟩ := Modem.of_ite_some htake
    exact h.at_rest nofun rfl rfl fun _ hn => hn
  · cases htake

theorem refuseCommand (h : Traced P s) (hdispatcher : s.dispatcher = .emptying) :
    Traced P s.refuseCommand := by
  have hrest : ∀ n stage, s.dispatcher ≠ .executing n stage := by rw [hdispatcher]; exact nofun
  unfold Modem.refuseCommand
  split
  · exact h.at_rest nofun rfl rfl fun _ hn => hn
  · next n rest hqueue =>
    exact h.at_rest hrest rfl (texts_modify fun _ => rfl)
      fun _ hm => hqueue ▸ List.mem_cons_of_mem _ hm

/-- A step of `executeCommand` keeps the texts, and the queue. -/
theorem executes_texts {n : Nat} {c : Command} {stage : Stage} {choice : Choice}
    (h : Modem.Executes s n c stage choice t) : texts t = texts s ∧ t.queue = s.queue := by
  cases h with
  | goto => exact ⟨texts_modify fun _ => rfl, rfl⟩
  | offer => exact ⟨texts_modify fun _ => rfl, rfl⟩
  | close =>
    unfold Modem.complete
    split
    · exact ⟨rfl, rfl⟩
    · exact ⟨texts_modify fun _ => rfl, rfl⟩
  | leave => exact ⟨rfl, rfl⟩

theorem executeCommand (h : Traced P s) {n : Nat} {stage : Stage} {choice : Choice} {c : Command}
    (hdispatcher : s.dispatcher = .executing n stage) (hc : s.commands[n]? = some c)
    (hstep : s.executeCommand n c stage choice = some t) : Traced P t := by
  obtain ⟨htexts, hqueue⟩ := executes_texts (Modem.executes hc hdispatcher hstep)
  obtain ⟨past, ws, hpast, hexecutions, hcurrent⟩ := h.written
  unfold Current at hcurrent
  rw [hdispatcher] at hcurrent
  obtain ⟨c₀, hc₀, htext, hexecution⟩ := hcurrent
  have hsame : text c = text c₀ := by
    rw [texts, List.getElem?_map, hc] at htext
    exact Option.some.inj htext
  refine ⟨htexts ▸ h.given, by rw [hqueue, htexts]; exact h.queue, ?_⟩
  rcases executeCommand_writes hstep with ⟨hwaiting, hwritten⟩ | ⟨next, new, hnext, hwritten, -⟩
  · -- the command is done
    obtain ⟨executions, hexecutions, hof⟩ := h.executions
    refine ⟨executions, [], by rw [List.append_nil, hwritten, hexecutions], hof, ?_⟩
    unfold Current
    rw [hwaiting]
  · refine ⟨past, ws ++ new, by rw [hwritten, hpast, List.append_assoc], hexecutions, ?_⟩
    unfold Current
    rw [hnext, htexts]
    exact ⟨c₀, hc₀, htext, hexecution.step (congrArg Prod.fst hsame) (congrArg Prod.snd hsame) hstep
      hnext hwritten⟩

theorem dispatch (h : Traced P s) {choice : Choice} (hstep : s.dispatch choice = some t) : Traced P t := by
  unfold Modem.dispatch at hstep
  split at hstep
  · next hdispatcher => exact h.takeCommand hstep
  · next n stage hdispatcher =>
    obtain ⟨c, hc, hstep⟩ := Option.bind_eq_some_iff.mp hstep
    exact h.executeCommand hdispatcher hc hstep
  · next hdispatcher =>
    obtain ⟨-, rfl⟩ := Modem.of_ite_some hstep
    exact h.refuseCommand hdispatcher
  · cases hstep

/-- **Every event keeps the trace.** -/
theorem step (h : Traced P s) {event : ModemEvent} (hP : ∀ c, submitted event = some c → P c)
    (hstep : s.step equalFold event = some t) : Traced P t := by
  unfold Modem.step at hstep
  split at hstep
  · cases hstep
  · cases event with
    | sendCommand cmd =>
      cases hstep
      exact h.submit (hP _ rfl)
    | sendSMSCommand header body =>
      cases hstep
      exact h.submit (hP _ rfl)
    | enqueue n =>
      obtain ⟨c, hc, hstep⟩ := Option.bind_eq_some_iff.mp hstep
      obtain ⟨-, rfl⟩ := Modem.of_ite_some hstep
      exact h.enqueue hc
    | receive n =>
      obtain ⟨c, -, hstep⟩ := Option.bind_eq_some_iff.mp hstep
      split at hstep
      · obtain ⟨result, -, rfl⟩ := Option.map_eq_some_iff.mp hstep
        exact h.modify rfl (fun _ => rfl) rfl rfl rfl
      · cases hstep
    | abandon n =>
      obtain ⟨c, -, hstep⟩ := Option.bind_eq_some_iff.mp hstep
      obtain ⟨-, rfl⟩ := Modem.of_ite_some hstep
      exact h.modify rfl (fun _ => rfl) rfl rfl rfl
    | close =>
      cases hstep
      exact h.of_texts rfl rfl rfl rfl
    | line text =>
      obtain ⟨-, rfl⟩ := Modem.of_ite_some hstep
      exact h.readLine text
    | read => exact h.read hstep
    | ends =>
      obtain ⟨-, rfl⟩ := Modem.of_ite_some hstep
      exact h.of_texts rfl rfl rfl rfl
    | dispatch choice => exact h.dispatch hstep

theorem run (h : Traced P s) {events : List ModemEvent}
    (hP : ∀ event ∈ events, ∀ c, submitted event = some c → P c)
    (hrun : exec (Modem.step equalFold) s events = some t) : Traced P t := by
  induction events generalizing s with
  | nil => cases hrun; exact h
  | cons event rest ih =>
    obtain ⟨u, hu, hrest⟩ := Option.bind_eq_some_iff.mp hrun
    exact ih (h.step (hP event List.mem_cons_self) hu)
      (fun event' hmem => hP event' (List.mem_cons_of_mem _ hmem)) hrest

end Traced

/-- **What a run writes** is what is written for submitted commands, one after the other. -/
theorem written_by_executions {equalFold : Modem.EqualFold} {events : List ModemEvent} {s : Modem}
    (hrun : exec (Modem.step equalFold) .init events = some s) :
    ∃ executions : List (List String), s.written = executions.flatten ∧
      ∀ ws ∈ executions, ∃ c stage, (∃ event ∈ events, submitted event = some c) ∧ Executing c stage ws := by
  have htraced : Traced (fun c => ∃ event ∈ events, submitted event = some c) s :=
    Traced.init.run (fun event hevent c hc => ⟨event, hevent, hc⟩) hrun
  exact htraced.executions

/-! ## The texts that are sent -/

theorem trimSpace_prefix {l : List Char} (hl : ∀ c ∈ l.head?, isSpace c = false) :
    trimSpace l <+: l := by
  have hdrop : l.dropWhile isSpace = l := by
    cases l with
    | nil => rfl
    | cons c rest => rw [List.dropWhile_cons, if_neg (by simp [hl c rfl])]
  unfold trimSpace
  rw [hdrop, ← List.reverse_suffix, List.reverse_reverse]
  exact List.dropWhile_suffix _

/-- A command that does not begin like that of a message is none. -/
theorem not_isCMGSCommand {cmd : String} {beginning : List Char} (hcmd : beginning <+: cmd.toList)
    (hspace : beginning.head?.map isSpace = some false) (hlen : beginning.length ≤ 7)
    (hbeginning : ¬ beginning.map toUpper <+: "AT+CMGS".toList) : isCMGSCommand cmd = false := by
  have htrim : trimSpace cmd.toList <+: cmd.toList := by
    refine trimSpace_prefix fun c hc => ?_
    obtain ⟨rest, hrest⟩ := hcmd
    obtain ⟨c', hc', hspace⟩ := Option.map_eq_some_iff.mp hspace
    rw [← hrest, List.head?_append, hc', Option.some_or] at hc
    cases hc
    exact hspace
  refine decide_eq_false fun h => hbeginning ?_
  refine List.prefix_of_prefix_length_le (hcmd.map toUpper) (h.trans (htrim.map toUpper)) ?_
  simpa using hlen

/-- A command of a text is written as one line. -/
theorem Executing.wrote_text {cmd : String} {op : AtOperation} (hop : op.writes = [cmd ++ "\r\n"])
    (hcmd : isCMGSCommand cmd = false) {stage : Stage} {ws : List String}
    (h : Executing (.ofText cmd) stage ws) : op.Wrote stage ws := by
  have hwritten := h.written
  have hwhole : wholeText (.ofText cmd) = op.writes := hop.symm
  unfold AtOperation.Wrote
  split
  · next hstage =>
    subst hstage
    rw [← hwhole]
    exact hwritten
  · rcases hwritten.ended with hprefix | ⟨hsms, -⟩
    · exact .inl (hwhole ▸ hprefix)
    · exact absurd hsms (by simp [Command.ofText, hcmd])

/-- The line of a text is written, and its result awaited. -/
theorem executing_text (cmd : String) : Executing (.ofText cmd) .awaiting [cmd ++ "\r\n"] :=
  @Executing.step _ .init _ _ 0 _ _ .goes _ [cmd ++ "\r\n"] .start rfl rfl rfl rfl rfl


/-! ## PDUs -/

/-- A text of upper-case hexadecimal digits. -/
def HexDigits (text : List UInt8) : Prop := ∀ b ∈ text, ∃ d < 16, b = Sms.hexDigit d

theorem HexDigits.append {text text' : List UInt8} (h : HexDigits text) (h' : HexDigits text') :
    HexDigits (text ++ text') := by
  intro b hb
  rcases List.mem_append.mp hb with hb | hb
  · exact h b hb
  · exact h' b hb

/-- A digit of a number is one in upper case. -/
theorem mem_toDigits_hex {c : Char} (n : Nat) (hc : c ∈ Nat.toDigits 16 n) :
    ∃ d < 16, UInt8.ofNat c.toUpper.toNat = Sms.hexDigit d := by
  have hdigit : ∀ d : Fin 16, UInt8.ofNat (Nat.digitChar d).toUpper.toNat = Sms.hexDigit d := by decide
  induction n using Nat.strongRecOn with
  | ind n ih =>
    rw [Nat.toDigits_eq_if (by omega)] at hc
    split at hc
    · next hn =>
      rw [List.mem_singleton.mp hc]
      exact ⟨n, hn, hdigit ⟨n, hn⟩⟩
    · rcases List.mem_append.mp hc with hc | hc
      · exact ih (n / 16) (by omega) hc
      · have hn : n % 16 < 16 := Nat.mod_lt _ (by omega)
        rw [List.mem_singleton.mp hc]
        exact ⟨n % 16, hn, hdigit ⟨n % 16, hn⟩⟩

theorem hexDigits_fmt02X (n : Nat) : HexDigits (Sms.fmt02X n) := by
  intro b hb
  unfold Sms.fmt02X at hb
  split at hb
  · next hn =>
    rcases List.mem_cons.mp hb with rfl | hb
    · exact ⟨n / 16, by omega, rfl⟩
    · exact ⟨n % 16, by omega, List.mem_singleton.mp hb⟩
  · obtain ⟨c, hc, rfl⟩ := List.mem_map.mp hb
    exact mem_toDigits_hex n hc

theorem hexDigits_flatMap (octets : List UInt8) : HexDigits (octets.flatMap fun o => Sms.fmt02X o.toNat) := by
  intro b hb
  obtain ⟨o, -, ho⟩ := List.mem_flatMap.mp hb
  exact hexDigits_fmt02X _ b ho

/-- Upper case stays. -/
theorem HexDigits.toUpper {text : List UInt8} (h : HexDigits text) : HexDigits (Sms.toUpper text) := by
  intro b hb
  obtain ⟨b', hb', rfl⟩ := List.mem_map.mp hb
  obtain ⟨d, hd, rfl⟩ := h b' hb'
  rw [if_neg (Sms.hexDigit_spec hd).2.2]
  exact ⟨d, hd, rfl⟩

theorem hexDigits_buildSubmitPDU (p : Sms.SmsSubmitParams) : HexDigits (Sms.buildSubmitPDU p).pdu := by
  obtain ⟨octets, hdigits, -⟩ := Sms.encodeAddress_octets p.toNumber
  have haddress : HexDigits (Sms.encodeAddress p.toNumber).digits := by
    rw [hdigits]
    exact hexDigits_flatMap octets
  have h0 : HexDigits (Sms.ascii "00") := (show Sms.fmt02X 0 = Sms.ascii "00" by decide) ▸ hexDigits_fmt02X 0
  have hA : HexDigits (Sms.ascii "AA") :=
    (show Sms.fmt02X 0xAA = Sms.ascii "AA" by decide) ▸ hexDigits_fmt02X 0xAA
  refine (h0.append ?_).toUpper
  refine .append (.append (.append (.append (.append (.append (.append (.append (.append ?_ h0) ?_) ?_)
    haddress.toUpper) h0) ?_) hA) ?_) (hexDigits_flatMap _)
  all_goals exact hexDigits_fmt02X _

/-- The parts of a message are PDUs. -/
theorem encodeMessage_submit {number body : String} {ref : UInt8} {requestSR : Bool}
    {parts : List Sms.EncodedPart} (h : Sms.encodeMessage number body ref requestSR = .ok parts)
    {part : Sms.EncodedPart} (hpart : part ∈ parts) : ∃ p, part = Sms.buildSubmitPDU p := by
  unfold Sms.encodeMessage at h
  split at h
  · unfold Sms.encodeGSM7Message at h
    split at h
    · cases h
    · split at h
      · cases h
        exact ⟨_, List.mem_singleton.mp hpart⟩
      · cases h
        obtain ⟨i, hi, rfl⟩ := List.mem_mapIdx.mp hpart
        exact ⟨_, rfl⟩
  · unfold Sms.encodeUCS2Message at h
    dsimp only at h
    split at h
    · cases h
      exact ⟨_, List.mem_singleton.mp hpart⟩
    · cases h
      obtain ⟨i, hi, rfl⟩ := List.mem_mapIdx.mp hpart
      exact ⟨_, rfl⟩

/-- **A PDU is clean**, whatever number and body it is made of. -/
theorem clean_pdu {number body : String} {ref : UInt8} {requestSR : Bool} {parts : List Sms.EncodedPart}
    (h : Sms.encodeMessage number body ref requestSR = .ok parts) {part : Sms.EncodedPart}
    (hpart : part ∈ parts) : Clean (pduText part.pdu) := by
  have hdigit : ∀ d : Fin 16, ¬ Forbidden (Char.ofNat (Sms.hexDigit d).toNat) := by decide
  intro c hc
  obtain ⟨b, hb, rfl⟩ : ∃ b ∈ part.pdu, Char.ofNat b.toNat = c := by simpa [pduText] using hc
  obtain ⟨p, rfl⟩ := encodeMessage_submit h hpart
  obtain ⟨d, hd, rfl⟩ := hexDigits_buildSubmitPDU p b hb
  exact hdigit ⟨d, hd⟩

/-- A message is written as its header and its body. -/
theorem Executing.wrote_message {length : Nat} {pdu : String} {stage : Stage} {ws : List String}
    (h : Executing (.ofMessage ("AT+CMGS=" ++ toString length) pdu) stage ws) :
    (AtOperation.message length pdu).Wrote stage ws := by
  have hwritten := h.written
  have hbody : pdu ++ "\x1A" ≠ "" := by simp
  have hwhole : wholeText (.ofMessage ("AT+CMGS=" ++ toString length) pdu) =
      (AtOperation.message length pdu).writes := by
    rw [wholeText, Command.ofMessage, if_neg hbody]
    rfl
  unfold AtOperation.Wrote
  split
  · next hstage =>
    subst hstage
    rw [← hwhole]
    exact hwritten
  · rcases hwritten.ended with hprefix | ⟨-, hescape⟩
    · exact .inl (hwhole ▸ hprefix)
    · exact .inr ⟨⟨length, pdu, rfl⟩, hwhole ▸ hescape⟩

/-! ## Commands -/

/-- A command of a text is contained if and only if its argument is clean. -/
theorem contains_text_iff {cmd : String} {op : AtOperation} (hop : op.writes = [cmd ++ "\r\n"])
    (hcmd : isCMGSCommand cmd = false) :
    op.Contains (.ofText cmd) ↔ Clean op.argument := by
  constructor
  · intro h
    exact (h _ _ (executing_text cmd)).2 (List.cons_ne_nil _ _)
  · intro hclean stage ws h
    exact ⟨h.wrote_text hop hcmd, fun _ => hclean⟩

theorem isCMGSCommand_dial (number : String) : isCMGSCommand ("ATD" ++ number ++ ";") = false :=
  @not_isCMGSCommand _ "ATD".toList ⟨number.toList ++ ";".toList, by simp⟩ (by decide) (by decide)
    (by decide)

theorem isCMGSCommand_tone (digit : String) : isCMGSCommand ("AT+VTS=" ++ digit) = false :=
  @not_isCMGSCommand _ "AT+VTS=".toList ⟨digit.toList, by simp⟩ (by decide) (by decide) (by decide)

theorem isCMGSCommand_ussd (text : String) :
    isCMGSCommand ("AT+CUSD=1,\"" ++ text ++ "\"") = false :=
  @not_isCMGSCommand _ "AT+CUSD".toList ⟨"=1,\"".toList ++ text.toList ++ "\"".toList, by simp⟩
    (by decide) (by decide) (by decide)

theorem isCMGSCommand_cancelUSSD : isCMGSCommand "AT+CUSD=2" = false := by decide

theorem clean_empty : Clean "" := by simp [Clean]

/-- The end of a session is always contained. -/
theorem contains_cancelUSSD : AtOperation.cancelUSSD.Contains (.ofText "AT+CUSD=2") :=
  (contains_text_iff rfl isCMGSCommand_cancelUSSD).mpr clean_empty

/-- A USSD text, with the end of its session. -/
theorem contained_ussdCommands (text : String) :
    List.Forall₂ AtOperation.Contains (ussdCommands text) [.ussd text, .cancelUSSD] ↔ Clean text := by
  unfold ussdCommands
  rw [List.forall₂_cons, List.forall₂_cons, contains_text_iff rfl (isCMGSCommand_ussd text)]
  exact ⟨fun h => h.1, fun h => ⟨h, contains_cancelUSSD, .nil⟩⟩

/-- Every part of a message is contained. -/
theorem contained_parts {number body : String} {ref : UInt8} {requestSR : Bool}
    {parts : List Sms.EncodedPart} (h : Sms.encodeMessage number body ref requestSR = .ok parts) :
    List.Forall₂ AtOperation.Contains
      (parts.map fun part => .ofMessage ("AT+CMGS=" ++ toString part.tpduLen) (pduText part.pdu))
      (parts.map fun part => .message part.tpduLen (pduText part.pdu)) := by
  rw [List.forall₂_map_left_iff, List.forall₂_map_right_iff, List.forall₂_same]
  intro part hpart stage ws hws
  exact ⟨hws.wrote_message, fun _ => clean_pdu h hpart⟩

/-! ## Containment -/

theorem contained_of_error {g : GatewayState} {r : Request} {err : String}
    (h : handle g r = .error err) : Contained g r := by
  intro commands hcommands
  rw [h] at hcommands
  cases hcommands

theorem contained_of_ok {g : GatewayState} {r : Request} {commands : List Command}
    (h : handle g r = .ok commands) :
    Contained g r ↔ List.Forall₂ AtOperation.Contains commands (r.operations g) := by
  constructor
  · intro hr
    exact hr commands h
  · intro hr commands' hcommands
    rw [h] at hcommands
    cases hcommands
    exact hr

/-- A request for one command of a text. -/
theorem contained_one_iff {g : GatewayState} {r : Request} {refused : Prop} [Decidable refused]
    {err cmd : String} {op : AtOperation} (hoperations : r.operations g = [op])
    (hhandle : handle g r = if refused then .error err else .ok [.ofText cmd])
    (hop : op.writes = [cmd ++ "\r\n"]) (hcmd : isCMGSCommand cmd = false) :
    Contained g r ↔ refused ∨ Clean op.argument := by
  split at hhandle
  · next hrefused => exact ⟨fun _ => .inl hrefused, fun _ => contained_of_error hhandle⟩
  · next hrefused =>
    rw [contained_of_ok hhandle, hoperations, List.forall₂_cons, contains_text_iff hop hcmd]
    exact ⟨fun h => .inr h.1, fun h => ⟨h.resolve_left hrefused, .nil⟩⟩

theorem contained_makeCall_iff (g : GatewayState) (number : String) :
    Contained g (.makeCall number) ↔ g.call = true ∨ Clean (AtOperation.dial number).argument :=
  contained_one_iff rfl rfl rfl (isCMGSCommand_dial number)

theorem contained_sendDTMF_iff (g : GatewayState) (digit : String) :
    Contained g (.sendDTMF digit) ↔
      g.callActive = false ∨ Clean (AtOperation.tone digit).argument := by
  have hhandle : handle g (.sendDTMF digit) =
      if g.callActive = false then .error "no active call" else .ok [.ofText ("AT+VTS=" ++ digit)] := by
    show handleSendDTMF g digit = _
    unfold handleSendDTMF
    cases g.callActive with
    | false => rfl
    | true => rfl
  exact contained_one_iff rfl hhandle rfl (isCMGSCommand_tone digit)

/-- A USSD text is refused in a call, and in a session that it is not for. -/
theorem contained_ussd_iff {g : GatewayState} {code input : String} {wanted : SessionState}
    {text err err' : String} (hoperations : (Request.ussdRequest code input false).operations g =
      [.ussd text, .cancelUSSD])
    (hhandle : handle g (.ussdRequest code input false) = if g.ussdCallActive then .error err
      else if g.ussdState ≠ wanted then .error err' else .ok (ussdCommands text)) :
    Contained g (.ussdRequest code input false) ↔
      g.ussdCallActive = true ∨ g.ussdState ≠ wanted ∨ Clean text := by
  split at hhandle
  · next hcall => exact ⟨fun _ => .inl hcall, fun _ => contained_of_error hhandle⟩
  · next hcall =>
    split at hhandle
    · next hstate => exact ⟨fun _ => .inr (.inl hstate), fun _ => contained_of_error hhandle⟩
    · next hstate =>
      rw [contained_of_ok hhandle, hoperations, contained_ussdCommands]
      exact ⟨fun h => .inr (.inr h), fun h => (h.resolve_left hcall).resolve_left hstate⟩

theorem contained_ussdRequest_cancel (g : GatewayState) (code input : String) :
    Contained g (.ussdRequest code input true) := by
  have hiff : Contained g (.ussdRequest code input true) ↔
      g.ussdState = .idle ∨ Clean AtOperation.cancelUSSD.argument :=
    contained_one_iff rfl rfl rfl isCMGSCommand_cancelUSSD
  exact hiff.mpr (.inr clean_empty)

theorem contained_sendSMS (g : GatewayState) (number body : String) :
    Contained g (.sendSMS number body) := by
  cases hencode : Sms.encodeMessage number body (g.concatRef + 1) false with
  | error err =>
    have hhandle : handle g (.sendSMS number body) = .error ("sms: encode failed: " ++ err) := by
      simp [handle, send, hencode]
    exact contained_of_error hhandle
  | ok parts =>
    intro commands hcommands
    have hparts := contained_parts hencode
    simp only [handle, send, hencode, Except.ok.injEq] at hcommands
    subst hcommands
    simpa only [Request.operations, hencode] using hparts

/-- **A request is contained** if and only if it is refused, or its text is clean, or encoded. -/
theorem contained_iff (g : GatewayState) (r : Request) : Contained g r ↔ CleanText g r := by
  cases r with
  | makeCall number => exact contained_makeCall_iff g number
  | sendDTMF digit => exact contained_sendDTMF_iff g digit
  | ussdRequest code input cancelled =>
    cases cancelled with
    | true => exact ⟨fun _ => .inl rfl, fun _ => contained_ussdRequest_cancel g code input⟩
    | false =>
      simp only [CleanText, Bool.false_eq_true, false_or]
      split
      · next hinput =>
        have hhandle : handle g (.ussdRequest code input false) = sendInput g input := if_pos hinput
        exact contained_ussd_iff (by simp [Request.operations, hinput]) (hhandle.trans rfl)
      · next hinput =>
        have hhandle : handle g (.ussdRequest code input false) = execute g code := if_neg hinput
        exact contained_ussd_iff (by simp [Request.operations, hinput]) (hhandle.trans rfl)
  | sendSMS number body => exact ⟨fun _ => trivial, fun _ => contained_sendSMS g number body⟩

/-- A number that ends the line of its call. -/
theorem not_contained_number :
    ¬ Contained ⟨false, false, false, .idle, 0⟩ (.makeCall "1;\r\nAT+CMGD=1,4") := by
  intro h
  have hclean := ((contained_makeCall_iff _ _).mp h).resolve_left (by decide)
  exact hclean '\r' (by decide) (by decide)

end Svarla.ModemGateway.RequestText
