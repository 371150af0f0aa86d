import Svarla.ModemGateway.CallManager

/-!
# The AT commands

`Modem` has one command at a time on the serial port. The callers queue their commands; the
dispatcher takes one after the other, writes it, and waits; the reader hands the lines of the modem
to the command that is pending, and the final result completes it. An operation is a section under
the lock, or one operation of a channel. The timers fire whenever they may, and a write fails
whenever it does.

A command stays pending after its completion until the dispatcher has gone on, so a second final
result completes it again, and a channel that is closed twice ends the process (`okay_twice`). So
does a result that comes when the dispatcher has given up on the prompt, or on the body of a message.
Where neither happens (`Orderly`), every command is completed once, and every caller gets one result
(`command_completes_once`).
-/

namespace Svarla.ModemGateway

open Svarla.Lib

/-! ## Lines -/

/-- `ResultCode`, with the detail. -/
inductive ResultCode
  | ok
  | error
  | cmeError (code : String)
  | cmsError (code : String)
  deriving DecidableEq, Repr

inductive CommandError
  | writeFailed (err : String)
  | promptTimeout
  | bodyWriteFailed (err : String)
  | timeout
  | portClosed
  | generic
  | cme (code : String)
  | cms (code : String)
  deriving DecidableEq, Repr

/-- `commandResult`. -/
structure CommandResult where
  lines : List String
  err : Option CommandError
  deriving DecidableEq, Repr

/-- The rest of a text after a beginning of it. -/
def afterPrefix (beginning : String) (text : List Char) : Option (List Char) :=
  if beginning.toList <+: text then some (text.drop beginning.toList.length) else none

/-- `ParseResultCode`. -/
def parseResultCode (line : String) : Option ResultCode :=
  let trimmed := trimSpace line.toList
  if trimmed = "OK".toList then some .ok
  else if trimmed = "ERROR".toList then some .error
  else
    match afterPrefix "+CME ERROR:" trimmed, afterPrefix "+CMS ERROR:" trimmed with
    | some rest, _ => some (.cmeError (.ofList (trimSpace rest)))
    | none, some rest => some (.cmsError (.ofList (trimSpace rest)))
    | none, none => none

/-- `ResultToError`. -/
def ResultCode.toError : ResultCode → Option CommandError
  | ok => none
  | error => some .generic
  | cmeError code => some (.cme code)
  | cmsError code => some (.cms code)

def knownURCPrefixes : List String :=
  ["RING", "+CLIP:", "+CMTI:", "+CDSI:", "+CUSD:", "+DTMF:", "+CREG:", "+CDS:", "NO CARRIER", "+CRING:",
    "MISSED_CALL:", "VOICE CALL:", "+SMS FULL"]

def isKnownURC (line : String) : Bool :=
  knownURCPrefixes.any fun beginning => decide (beginning.toList <+: trimSpace line.toList)

/-- The modem wants the body of a message. -/
def isPrompt (line : String) : Bool :=
  decide ((line.toList.reverse.dropWhile (· = ' ')).reverse = ['>'])

/-- `isCMGSCommand`. -/
def isCMGSCommand (cmd : String) : Bool :=
  decide ("AT+CMGS".toList <+: (trimSpace cmd.toList).map toUpper)

/-! ## Commands -/

inductive Caller
  /-- `m.cmdQueue <- c`. -/
  | submitting
  /-- `<-c.response`. -/
  | waiting
  | returned
  deriving DecidableEq, Repr

/-- `command`, and what its caller does. -/
structure Command where
  cmd : String
  smsBody : String
  response : Option CommandResult
  completed : Bool
  /-- Of a message only. -/
  promptReady : Option Bool
  caller : Caller
  /-- What the caller got. -/
  results : List CommandResult
  deriving DecidableEq, Repr

/-- Where `executeCommand` is. -/
inductive Stage
  | writing
  | failing (err : String)
  | prompt
  | promptTimedOut
  | promptFailing
  | writingBody
  | bodyFailing (err : String)
  /-- `close(cmd.completed)`. -/
  | closing
  | awaiting
  | timedOut
  | draining
  | portClosed
  /-- The deferred function. -/
  | returning
  deriving DecidableEq, Repr

inductive Dispatcher
  | waiting
  | executing (n : Nat) (stage : Stage)
  /-- After `m.done`. -/
  | emptying
  | stopped
  deriving DecidableEq, Repr

inductive Reader
  | scanning
  | prompted (n : Nat)
  | delivering (n : Nat) (result : CommandResult)
  | completing (n : Nat)
  | received (line : String)
  | stopped
  deriving DecidableEq, Repr

/-- `Modem`, open. The commands are numbered. -/
structure Modem where
  commands : List Command
  /-- `cmdQueue`. -/
  queue : List Nat
  pendingCmd : Option Nat
  pendingLines : List String
  dispatcher : Dispatcher
  reader : Reader
  /-- `closed`, and `done` with it. -/
  closed : Bool
  /-- A channel was closed twice. -/
  crashed : Bool
  /-- What was written to the port. -/
  written : List String
  /-- The lines that the handlers were started for. -/
  dispatched : List String
  /-- The commands that the final results were credited to, one after the other. -/
  credited : List (Option Nat)
  deriving DecidableEq, Repr

/-- Which way a `select` goes, or whether a write fails. -/
inductive Choice
  | goes
  | fails (err : String)
  | promptReady
  | completed
  | timer
  | done
  deriving DecidableEq, Repr

inductive ModemEvent
  | sendCommand (cmd : String)
  | sendSMSCommand (header body : String)
  | enqueue (n : Nat)
  | receive (n : Nat)
  /-- The caller sees `m.done`. -/
  | abandon (n : Nat)
  | close
  /-- The reader has a line. -/
  | line (text : String)
  /-- The reader goes on with it. -/
  | read
  /-- The reader sees `m.done`, or the end of the port. -/
  | ends
  | dispatch (choice : Choice)
  deriving DecidableEq, Repr

namespace Command

/-- A command of `SendCommand`. -/
def ofText (cmd : String) : Command := ⟨cmd, "", none, false, none, .submitting, []⟩

/-- A command of `SendSMSCommand`. -/
def ofMessage (header body : String) : Command :=
  ⟨header, body ++ "\x1A", none, false, some false, .submitting, []⟩

/-- A result is sent, unless there is one. -/
def offer (c : Command) (result : CommandResult) : Command :=
  { c with response := some (c.response.getD result) }

/-- The caller returns the result. -/
def give (c : Command) (result : CommandResult) : Command :=
  { c with caller := .returned, results := c.results ++ [result] }

end Command

namespace Modem

def init : Modem := ⟨[], [], none, [], .waiting, .scanning, false, false, [], [], []⟩

/-- The command changes. -/
def modify (s : Modem) (n : Nat) (f : Command → Command) : Modem :=
  { s with commands := s.commands.modify n f }

/-- The dispatcher is somewhere else in `executeCommand`. -/
def goto (s : Modem) (n : Nat) (stage : Stage) : Modem := { s with dispatcher := .executing n stage }

def write (s : Modem) (text : String) : Modem := { s with written := s.written ++ [text] }

/-- `close(cmd.completed)`. -/
def complete (s : Modem) (n : Nat) (c : Command) : Modem :=
  if c.completed then { s with crashed := true } else s.modify n ({ · with completed := true })

/-- `SendCommand`, or `SendSMSCommand`. -/
def submit (s : Modem) (c : Command) : Modem :=
  { s with commands := s.commands ++ [if s.closed then c.give ⟨[], some .portClosed⟩ else c] }

/-- The select of `dispatchLoop`. -/
def takeCommand (s : Modem) : Choice → Option Modem
  | .goes =>
    match s.queue with
    | [] => none
    | n :: rest =>
      some { s with
        queue := rest, pendingCmd := some n, pendingLines := [], dispatcher := .executing n .writing }
  | .done => if s.closed then some { s with dispatcher := .emptying } else none
  | _ => none

/-- The queue after `m.done`. -/
def refuseCommand (s : Modem) : Modem :=
  match s.queue with
  | [] => { s with dispatcher := .stopped }
  | n :: rest => { s.modify n (·.offer ⟨[], some .portClosed⟩) with queue := rest }

/-- `executeCommand`. -/
def executeCommand (s : Modem) (n : Nat) (c : Command) : Stage → Choice → Option Modem
  | .writing, .goes =>
    some ((s.write (c.cmd ++ "\r\n")).goto n (if c.smsBody = "" then .awaiting else .prompt))
  | .writing, .fails err => some (s.goto n (.failing err))
  | .failing err, .goes =>
    if c.response = none then
      some ((s.modify n (·.offer ⟨[], some (.writeFailed err)⟩)).goto n .returning)
    else none
  | .prompt, .promptReady =>
    if c.promptReady = some true then
      some ((s.modify n ({ · with promptReady := some false })).goto n .writingBody)
    else none
  | .prompt, .timer => some (s.goto n .promptTimedOut)
  | .prompt, .completed => if c.completed then some (s.goto n .returning) else none
  | .prompt, .done => if s.closed then some (s.goto n .portClosed) else none
  | .promptTimedOut, .goes => some (s.goto n (if c.completed then .returning else .promptFailing))
  | .promptFailing, .goes =>
    some ((s.modify n (·.offer ⟨[], some .promptTimeout⟩)).goto n .closing)
  | .writingBody, .goes => some ((s.write c.smsBody).goto n .awaiting)
  | .writingBody, .fails err => some (s.goto n (.bodyFailing err))
  | .bodyFailing err, .goes =>
    if c.response = none then
      some ((s.modify n (·.offer ⟨[], some (.bodyWriteFailed err)⟩)).goto n .closing)
    else none
  | .closing, .goes => some ((s.complete n c).goto n .returning)
  | .awaiting, .completed => if c.completed then some (s.goto n .returning) else none
  | .awaiting, .timer => some (s.goto n .timedOut)
  | .awaiting, .done => if s.closed then some (s.goto n .portClosed) else none
  | .timedOut, .goes =>
    let s := s.modify n (·.offer ⟨[], some .timeout⟩)
    some ((if isCMGSCommand c.cmd then s.write "\x1B" else s).goto n .draining)
  -- with ESC two seconds, and without half a second
  | .draining, .completed => if c.completed then some (s.goto n .returning) else none
  | .draining, .timer => some (s.goto n .returning)
  | .draining, .done => if s.closed then some (s.goto n .returning) else none
  | .portClosed, .goes =>
    some ((s.modify n (·.offer ⟨[], some .portClosed⟩)).goto n .returning)
  | .returning, .goes => some { s with pendingCmd := none, pendingLines := [], dispatcher := .waiting }
  | _, _ => none

def dispatch (s : Modem) (choice : Choice) : Option Modem :=
  match s.dispatcher with
  | .waiting => s.takeCommand choice
  | .executing n stage => s.commands[n]?.bind (s.executeCommand n · stage choice)
  | .emptying => if choice = .goes then some s.refuseCommand else none
  | .stopped => none

/-- `strings.EqualFold`. -/
abbrev EqualFold := List Char → List Char → Bool

/-- A line of the modem, up to the first section under the lock. -/
def readLine (equalFold : EqualFold) (s : Modem) (text : String) : Modem :=
  let pending := s.pendingCmd.bind (s.commands[·]?)
  if trimSpace text.toList = [] then s
  else if isPrompt text then
    { s with reader := if pending.any (·.promptReady.isSome) then s.pendingCmd.elim .scanning .prompted
                       else .scanning }
  else
    match parseResultCode text with
    | some code =>
      { s with
        pendingLines := []
        credited := s.credited ++ [s.pendingCmd]
        reader := s.pendingCmd.elim .scanning (.delivering · ⟨s.pendingLines, code.toError⟩) }
    | none =>
      -- an echo
      if pending.any fun c => equalFold (trimSpace text.toList) (trimSpace c.cmd.toList) then s
      else { s with reader := .received text }

/-- What the reader does with the line. -/
def read (s : Modem) : Option Modem :=
  match s.reader with
  | .prompted n => some { s.modify n ({ · with promptReady := some true }) with reader := .scanning }
  | .delivering n result => some { s.modify n (·.offer result) with reader := .completing n }
  | .completing n => s.commands[n]?.map fun c => { s.complete n c with reader := .scanning }
  | .received text =>
    some { s with
      reader := .scanning
      dispatched :=
        if isKnownURC text ∨ s.pendingCmd = none then s.dispatched ++ [text] else s.dispatched
      pendingLines := if s.pendingCmd = none then s.pendingLines else s.pendingLines ++ [text] }
  | .scanning | .stopped => none

/-- One event. -/
def step (equalFold : EqualFold) (s : Modem) (event : ModemEvent) : Option Modem :=
  if s.crashed then none
  else
    match event with
    | .sendCommand cmd => some (s.submit (.ofText cmd))
    | .sendSMSCommand header body => some (s.submit (.ofMessage header body))
    | .enqueue n => s.commands[n]?.bind fun c =>
      if c.caller = .submitting ∧ s.queue.length < 64 then
        some { s.modify n ({ · with caller := .waiting }) with queue := s.queue ++ [n] }
      else none
    | .receive n => s.commands[n]?.bind fun c =>
      if c.caller = .waiting then
        c.response.map fun result => s.modify n fun c => { c.give result with response := none }
      else none
    | .abandon n => s.commands[n]?.bind fun c =>
      if c.caller ≠ .returned ∧ s.closed then some (s.modify n (·.give ⟨[], some .portClosed⟩))
      else none
    | .close => some { s with closed := true }
    | .line text => if s.reader = .scanning then some (s.readLine equalFold text) else none
    | .read => s.read
    | .ends => if s.reader = .scanning then some { s with reader := .stopped } else none
    | .dispatch choice => s.dispatch choice

/-- What goes on without a caller, the modem or `Close`. -/
def own : ModemEvent → Bool
  | .enqueue _ | .receive _ | .abandon _ | .read | .dispatch _ => true
  | _ => false

/-- Nothing goes on by itself. -/
def Settled (equalFold : EqualFold) (s : Modem) : Prop :=
  ∀ event, own event = true → s.step equalFold event = none

/-- Every command is completed once. -/
structure CompletesOnce (equalFold : EqualFold) (s : Modem) : Prop where
  /-- No channel is closed twice. -/
  closed : s.crashed = false
  /-- No caller gets two results, -/
  results : ∀ c ∈ s.commands, c.results.length ≤ 1
  /-- and in the end everyone has one. -/
  settled : s.Settled equalFold → ∀ c ∈ s.commands, ∃ result, c.results = [result]
  /-- No command is completed by two final results. -/
  credited : ∀ n, s.credited.count (some n) ≤ 1

end Modem

namespace Stage

/-- The dispatcher is to close the channel. -/
def closes : Stage → Bool
  | promptFailing | bodyFailing _ | closing => true
  | _ => false

/-- No result was sent by the dispatcher. -/
def early : Stage → Bool
  | closing | draining | returning => false
  | _ => true

end Stage

/-- What the reader does for a command. -/
inductive Role
  | away
  | delivering
  | completing
  deriving DecidableEq, Repr

/-- What the reader does for the command. -/
def Reader.role : Reader → Nat → Role
  | delivering m _, n => if m = n then .delivering else .away
  | completing m, n => if m = n then .completing else .away
  | _, _ => .away

/-- The dispatcher is to close the channel of its command. -/
def Dispatcher.closes : Dispatcher → Bool
  | executing _ stage => stage.closes
  | _ => false

namespace Modem

/-- The command is completed, or about to be. -/
def isCompleted (s : Modem) (n : Nat) : Bool :=
  s.commands[n]?.any (·.completed) || s.reader.role n != .away

/-- The command that the dispatcher gives up, and closes. -/
def givesUp (s : Modem) (choice : Choice) : Option Nat :=
  match s.dispatcher, choice with
  | .executing n .promptTimedOut, .goes =>
    if s.commands[n]?.any (·.completed) then none else some n
  | .executing n .writingBody, .fails _ => some n
  | _, _ => none

/-- A final result comes before the pending command is completed, or given up, and no command is
given up that has its final result. -/
def Orderly (s : Modem) : ModemEvent → Prop
  | .line text => parseResultCode text ≠ none →
      ∀ n ∈ s.pendingCmd, s.isCompleted n = false ∧ s.dispatcher.closes = false
  | .dispatch choice => ∀ n ∈ s.givesUp choice, s.isCompleted n = false
  | _ => True

instance (s : Modem) : (event : ModemEvent) → Decidable (s.Orderly event)
  | .line _ => inferInstanceAs (Decidable (_ → ∀ n ∈ s.pendingCmd, _))
  | .dispatch choice => inferInstanceAs (Decidable (∀ n ∈ s.givesUp choice, _))
  | .sendCommand _ | .sendSMSCommand _ _ | .enqueue _ | .receive _ | .abandon _ | .close | .read
  | .ends => inferInstanceAs (Decidable True)

end Modem

/-! ## The life of a command -/

/-- What there is about one command. -/
structure Life where
  caller : Caller
  queued : Bool
  full : Bool
  completed : Bool
  credits : Nat
  reader : Role
  stage : Option Stage
  results : Nat

namespace Life

/-- What holds of a command in orderly runs. -/
structure Sound (closed : Bool) (l : Life) : Prop where
  results : l.results = if l.caller = .returned then 1 else 0
  fresh : l.caller = .submitting ∨ l.queued = true → l.full = false ∧ l.completed = false ∧
    l.credits = 0 ∧ l.reader = .away ∧ l.stage = none
  unqueued : l.caller = .submitting → l.queued = false
  abandoned : l.queued = true → l.caller = .returned → closed = true
  credits : l.credits ≤ 1
  credited : l.credits = 1 → l.completed = true ∨ l.reader ≠ .away
  uncompleted : l.reader ≠ .away → l.completed = false
  closing : ∀ stage ∈ l.stage, stage.closes = true → l.completed = false ∧ l.reader = .away
  waiting : l.caller = .waiting → l.queued = true ∨ l.stage ≠ none ∨ l.full = true
  told : l.caller = .waiting →
    l.completed = true ∨ l.reader = .completing ∨ (∃ stage ∈ l.stage, stage.early = false) →
      l.full = true
  unsent : ∀ stage ∈ l.stage, stage.early = true → l.completed = false → l.reader ≠ .completing →
    l.full = false ∧ (l.caller = .returned → closed = true)
  held : ∀ stage ∈ l.stage, stage.early = true → l.full = true → l.caller = .returned →
    closed = true

section Sound

variable {closed : Bool} {l : Life} (h : l.Sound closed)

include h

/-- A command that is executed was taken. -/
theorem Sound.taken {stage : Stage} (hstage : l.stage = some stage) :
    l.caller ≠ .submitting ∧ l.queued = false := by
  constructor
  · intro hcaller
    have hnone := (h.fresh (.inl hcaller)).2.2.2.2
    rw [hstage] at hnone
    cases hnone
  · refine Bool.eq_false_iff.mpr fun hqueued => ?_
    have hnone := (h.fresh (.inr hqueued)).2.2.2.2
    rw [hstage] at hnone
    cases hnone

/-- A queued command has no result. -/
theorem Sound.unqueued_of_full (hfull : l.full = true) : l.queued ≠ true := fun hqueued => by
  rw [(h.fresh (.inr hqueued)).1] at hfull
  cases hfull

theorem Sound.close : l.Sound true :=
  { h with
    abandoned := fun _ _ => rfl
    unsent := fun stage hstage hearly hcompleted hreader =>
      ⟨(h.unsent stage hstage hearly hcompleted hreader).1, fun _ => rfl⟩
    held := fun _ _ _ _ _ => rfl }

theorem Sound.enqueue (hcaller : l.caller = .submitting) :
    Sound closed { l with caller := .waiting, queued := true } := by
  obtain ⟨hfull, hcompleted, -, hreader, hstage⟩ := h.fresh (.inl hcaller)
  exact { h with
    results := by simpa [hcaller] using h.results
    fresh := fun _ => h.fresh (.inl hcaller)
    unqueued := nofun
    abandoned := fun _ => nofun
    waiting := fun _ => .inl rfl
    told := by simp [hcompleted, hreader, hstage]
    unsent := by simp [hstage]
    held := by simp [hstage] }

theorem Sound.receive (hcaller : l.caller = .waiting) (hfull : l.full = true) :
    Sound closed { l with caller := .returned, full := false, results := l.results + 1 } :=
  { h with
    results := by simpa [hcaller] using h.results
    fresh := by simp [h.unqueued_of_full hfull]
    unqueued := nofun
    abandoned := fun hqueued => absurd hqueued (h.unqueued_of_full hfull)
    waiting := nofun
    told := nofun
    unsent := fun stage hstage hearly hcompleted hreader =>
      absurd hfull (by simp [(h.unsent stage hstage hearly hcompleted hreader).1])
    held := fun _ _ _ => nofun }

theorem Sound.abandon (hcaller : l.caller ≠ .returned) (hclosed : closed = true) :
    Sound closed { l with caller := .returned, results := l.results + 1 } :=
  { h with
    results := by simpa [hcaller] using h.results
    fresh := fun hfresh => h.fresh (.inr (hfresh.resolve_left nofun))
    unqueued := nofun
    abandoned := fun _ _ => hclosed
    waiting := nofun
    told := nofun
    unsent := fun stage hstage hearly hcompleted hreader =>
      ⟨(h.unsent stage hstage hearly hcompleted hreader).1, fun _ => hclosed⟩
    held := fun _ _ _ _ _ => hclosed }

theorem Sound.take (hqueued : l.queued = true) :
    Sound closed { l with queued := false, stage := some .writing } := by
  obtain ⟨hfull, hcompleted, -, hreader, -⟩ := h.fresh (.inr hqueued)
  have hcaller : l.caller ≠ .submitting := fun hcaller => by simp [h.unqueued hcaller] at hqueued
  exact { h with
    fresh := by simp [hcaller]
    unqueued := fun _ => rfl
    abandoned := nofun
    closing := by simp [Stage.closes]
    waiting := by simp
    told := by simp [hcompleted, hreader, Stage.early]
    unsent := fun _ _ _ _ _ => ⟨hfull, h.abandoned hqueued⟩
    held := by simp [hfull] }

theorem Sound.refuse (hqueued : l.queued = true) :
    Sound closed { l with queued := false, full := true } := by
  obtain ⟨-, -, -, -, hstage⟩ := h.fresh (.inr hqueued)
  have hcaller : l.caller ≠ .submitting := fun hcaller => by simp [h.unqueued hcaller] at hqueued
  exact { h with
    fresh := by simp [hcaller]
    unqueued := fun _ => rfl
    abandoned := nofun
    waiting := by simp
    told := by simp
    unsent := by simp [hstage]
    held := by simp [hstage] }

theorem Sound.credit {stage : Stage} (hstage : l.stage = some stage) (hcompleted : l.completed = false)
    (hreader : l.reader = .away) (hcloses : stage.closes = false) :
    Sound closed { l with reader := .delivering, credits := l.credits + 1 } := by
  have hcredits : l.credits ≠ 1 := fun hcredits => by
    simpa [hcompleted, hreader] using h.credited hcredits
  exact { h with
    fresh := by simp [h.taken hstage]
    credits := by
      have hle := h.credits
      show l.credits + 1 ≤ 1
      omega
    credited := by simp
    uncompleted := fun _ => hcompleted
    closing := by simp [hstage, hcloses]
    told := fun hcaller htold =>
      h.told hcaller (htold.imp_right fun htold => .inr (htold.resolve_left nofun))
    unsent := fun stage hstage hearly hcompleted _ =>
      h.unsent stage hstage hearly hcompleted (by simp [hreader]) }

theorem Sound.deliver (hreader : l.reader = .delivering) :
    Sound closed { l with reader := .completing, full := true } :=
  have hcompleted : l.completed = false := h.uncompleted (by simp [hreader])
  { h with
    fresh := fun hfresh => by simp [h.fresh hfresh] at hreader
    credited := by simp
    uncompleted := fun _ => hcompleted
    closing := fun stage hstage hcloses => by simp [h.closing stage hstage hcloses] at hreader
    waiting := by simp
    told := fun _ _ => rfl
    unsent := by simp
    held := fun stage hstage hearly _ =>
      (h.unsent stage hstage hearly hcompleted (by simp [hreader])).2 }

theorem Sound.complete (hreader : l.reader = .completing) :
    Sound closed { l with reader := .away, completed := true } :=
  { h with
    fresh := fun hfresh => by simp [h.fresh hfresh] at hreader
    credited := by simp
    uncompleted := by simp
    closing := fun stage hstage hcloses => by simp [h.closing stage hstage hcloses] at hreader
    told := fun hcaller _ => h.told hcaller (.inr (.inl hreader))
    unsent := by simp }

theorem Sound.goto {stage : Stage} (hstage : l.stage = some stage) {next : Stage}
    (hearly : next.early = true → stage.early = true)
    (hcloses : next.closes = true → l.completed = false ∧ l.reader = .away)
    (htold : next.early = false → l.completed = true ∨ stage.early = false) :
    Sound closed { l with stage := some next } :=
  { h with
    fresh := by simp [h.taken hstage]
    closing := by simpa using hcloses
    waiting := by simp
    told := by
      rintro hcaller (hcompleted | hreader | ⟨_, ⟨⟩, hnext⟩)
      · exact h.told hcaller (.inl hcompleted)
      · exact h.told hcaller (.inr (.inl hreader))
      · exact h.told hcaller ((htold hnext).imp_right fun h => .inr ⟨stage, hstage, h⟩)
    unsent := by
      rintro _ ⟨⟩ hnext
      exact h.unsent stage hstage (hearly hnext)
    held := by
      rintro _ ⟨⟩ hnext
      exact h.held stage hstage (hearly hnext) }

theorem Sound.offer {stage : Stage} (hstage : l.stage = some stage) {next : Stage}
    (hearly : next.early = false)
    (hcloses : next.closes = true → l.completed = false ∧ l.reader = .away) :
    Sound closed { l with stage := some next, full := true } :=
  { h with
    fresh := by simp [h.taken hstage]
    closing := by simpa using hcloses
    waiting := by simp
    told := by simp
    unsent := by simp [hearly]
    held := by simp [hearly] }

theorem Sound.closes (hstage : l.stage = some .closing) :
    Sound closed { l with completed := true, stage := some .returning } := by
  obtain ⟨-, hreader⟩ := h.closing _ hstage rfl
  exact { h with
    fresh := by simp [h.taken hstage]
    credited := by simp
    uncompleted := by simp [hreader]
    closing := by simp [Stage.closes]
    waiting := by simp
    told := fun hcaller _ => h.told hcaller (.inr (.inr ⟨_, hstage, rfl⟩))
    unsent := by simp
    held := by simp [Stage.early] }

theorem Sound.leave (hstage : l.stage = some .returning) :
    Sound closed { l with stage := none } :=
  { h with
    fresh := by simp [h.taken hstage]
    closing := by simp
    waiting := fun hcaller => .inr (.inr (h.told hcaller (.inr (.inr ⟨_, hstage, rfl⟩))))
    told := fun hcaller htold => h.told hcaller (htold.imp_right fun h => h.imp_right (by simp))
    unsent := by simp
    held := by simp }

end Sound
end Life

/-! ## The modem in orderly runs -/

def Dispatcher.command : Dispatcher → Option Nat
  | executing n _ => some n
  | _ => none

/-- Where the command is executed. -/
def Dispatcher.stage : Dispatcher → Nat → Option Stage
  | executing m stage, n => if m = n then some stage else none
  | _, _ => none

namespace Reader

variable {m n : Nat} {result : CommandResult}

@[simp] theorem role_scanning : scanning.role n = .away := rfl

@[simp] theorem role_delivering : (delivering n result).role n = .delivering := if_pos rfl

@[simp] theorem role_delivering_of_ne (h : m ≠ n) : (delivering n result).role m = .away :=
  if_neg (Ne.symm h)

@[simp] theorem role_completing : (completing n).role n = .completing := if_pos rfl

@[simp] theorem role_completing_of_ne (h : m ≠ n) : (completing n).role m = .away :=
  if_neg (Ne.symm h)

end Reader

namespace Dispatcher

variable {m n : Nat} {stage : Stage}

@[simp] theorem command_executing : (executing n stage).command = some n := rfl

@[simp] theorem command_waiting : waiting.command = none := rfl

@[simp] theorem stage_executing : (executing n stage).stage n = some stage := if_pos rfl

@[simp] theorem stage_of_ne (h : m ≠ n) : (executing n stage).stage m = none := if_neg (Ne.symm h)

@[simp] theorem stage_waiting : waiting.stage n = none := rfl

end Dispatcher

namespace Modem

def life (s : Modem) (n : Nat) (c : Command) : Life where
  caller := c.caller
  queued := s.queue.contains n
  full := c.response.isSome
  completed := c.completed
  credits := s.credited.count (some n)
  reader := s.reader.role n
  stage := s.dispatcher.stage n
  results := c.results.length

structure Arranged (s : Modem) : Prop where
  alive : s.crashed = false
  pending : s.pendingCmd = s.dispatcher.command
  known : ∀ n, n ∈ s.queue ∨ some n ∈ s.credited ∨ s.dispatcher.command = some n ∨
    s.reader.role n ≠ .away → n < s.commands.length
  queue : s.queue.Nodup
  stopped : s.dispatcher = .emptying ∨ s.dispatcher = .stopped → s.closed = true
  lives : ∀ n c, s.commands[n]? = some c → (s.life n c).Sound s.closed

theorem arranged_init : init.Arranged where
  alive := rfl
  pending := rfl
  known := by simp [init, Dispatcher.command, Reader.role]
  queue := .nil
  stopped := nofun
  lives := nofun

variable {s t : Modem} {n : Nat} {c : Command} {equalFold : EqualFold}

/-- The lives after a change of one command. -/
theorem Arranged.lives_modify (h : s.Arranged) {f : Command → Command}
    (hc : s.commands[n]? = some c) (hcommands : t.commands = s.commands.modify n f)
    (hclosed : t.closed = s.closed) (hothers : ∀ m c, m ≠ n → t.life m c = s.life m c)
    (hown : (t.life n (f c)).Sound s.closed) :
    ∀ m c, t.commands[m]? = some c → (t.life m c).Sound t.closed := by
  intro m c' hc'
  rw [hcommands, List.getElem?_modify] at hc'
  rw [hclosed]
  by_cases hm : m = n
  · subst hm
    simp only [hc, if_pos, Option.map_eq_map, Option.map_some, Option.some.injEq] at hc'
    exact hc' ▸ hown
  · rw [hothers m c' hm]
    simp only [if_neg (Ne.symm hm), Option.map_eq_map, Option.map_id'] at hc'
    exact h.lives m c' hc'

/-- The lives after something that changes no command. -/
theorem Arranged.lives_same (h : s.Arranged) (hcommands : t.commands = s.commands)
    (hclosed : t.closed = s.closed) (hlife : ∀ m c, t.life m c = s.life m c) :
    ∀ m c, t.commands[m]? = some c → (t.life m c).Sound t.closed := by
  intro m c hc
  rw [hclosed, hlife]
  exact h.lives m c (hcommands ▸ hc)

/-- What the dispatcher does in `executeCommand`. -/
inductive Executes (s : Modem) (n : Nat) (c : Command) (stage : Stage) (choice : Choice) :
    Modem → Prop
  | goto (next : Stage) (written : List String) (ready : Option Bool)
      (hearly : next.early = true → stage.early = true)
      (hcloses : next.closes = true → s.givesUp choice = some n)
      (htold : next.early = false → c.completed = true ∨ stage.early = false) :
      Executes s n c stage choice { s with
        commands := s.commands.modify n ({ · with promptReady := ready })
        written := written
        dispatcher := .executing n next }
  | offer (next : Stage) (written : List String) (result : CommandResult)
      (hearly : next.early = false) (hcloses : next.closes = true → stage.closes = true) :
      Executes s n c stage choice { s with
        commands := s.commands.modify n (·.offer result)
        written := written
        dispatcher := .executing n next }
  | close (hstage : stage = .closing) :
      Executes s n c stage choice ((s.complete n c).goto n .returning)
  | leave (hstage : stage = .returning) :
      Executes s n c stage choice
        { s with pendingCmd := none, pendingLines := [], dispatcher := .waiting }

theorem modify_promptReady (hc : s.commands[n]? = some c) :
    s.commands.modify n ({ · with promptReady := c.promptReady }) = s.commands := by
  refine List.ext_getElem? fun m => ?_
  rw [List.getElem?_modify]
  by_cases hm : n = m
  · subst hm
    simp [hc]
  · simp [hm]

/-- The dispatcher goes on and changes nothing of the command. -/
theorem Executes.of_goto (hc : s.commands[n]? = some c) {stage : Stage} {choice : Choice}
    (next : Stage) (written : List String)
    (hearly : next.early = true → stage.early = true)
    (hcloses : next.closes = true → s.givesUp choice = some n)
    (htold : next.early = false → c.completed = true ∨ stage.early = false) :
    Executes s n c stage choice { s with written := written, dispatcher := .executing n next } := by
  have h := Executes.goto next written c.promptReady hearly hcloses htold
  rwa [modify_promptReady hc] at h

/-- The dispatcher goes on, in one case out of two. -/
theorem of_ite_some {α : Type*} {p : Prop} [Decidable p] {a b : α}
    (h : (if p then some a else none) = some b) : p ∧ a = b := by
  split at h
  · next hp => exact ⟨hp, Option.some.inj h⟩
  · cases h

theorem executes (hc : s.commands[n]? = some c) {stage : Stage} {choice : Choice}
    (hdispatcher : s.dispatcher = .executing n stage)
    (hstep : s.executeCommand n c stage choice = some t) : Executes s n c stage choice t := by
  unfold executeCommand at hstep
  split at hstep
  · cases hstep
    refine .of_goto hc _ _ (fun _ => rfl) ?_ ?_
    · split <;> exact nofun
    · split <;> exact nofun
  · cases hstep
    exact .of_goto hc (.failing _) _ (fun _ => rfl) nofun nofun
  · obtain ⟨-, rfl⟩ := of_ite_some hstep
    exact .offer .returning _ _ rfl nofun
  · obtain ⟨-, rfl⟩ := of_ite_some hstep
    exact .goto .writingBody _ _ (fun _ => rfl) nofun nofun
  · cases hstep
    exact .of_goto hc .promptTimedOut _ (fun _ => rfl) nofun nofun
  · obtain ⟨hcompleted, rfl⟩ := of_ite_some hstep
    exact .of_goto hc .returning _ nofun nofun fun _ => .inl hcompleted
  · obtain ⟨-, rfl⟩ := of_ite_some hstep
    exact .of_goto hc .portClosed _ (fun _ => rfl) nofun nofun
  · cases hstep
    by_cases hcompleted : c.completed = true
    · rw [if_pos hcompleted]
      exact .of_goto hc .returning _ nofun nofun fun _ => .inl hcompleted
    · rw [if_neg hcompleted]
      refine .of_goto hc .promptFailing _ (fun _ => rfl) (fun _ => ?_) nofun
      simp [givesUp, hdispatcher, hc, hcompleted]
  · cases hstep
    exact .offer .closing _ _ rfl fun _ => rfl
  · cases hstep
    exact .of_goto hc .awaiting _ (fun _ => rfl) nofun nofun
  · cases hstep
    refine .of_goto hc (.bodyFailing _) _ (fun _ => rfl) (fun _ => ?_) nofun
    simp [givesUp, hdispatcher]
  · obtain ⟨-, rfl⟩ := of_ite_some hstep
    exact .offer .closing _ _ rfl fun _ => rfl
  · cases hstep
    exact .close rfl
  · obtain ⟨hcompleted, rfl⟩ := of_ite_some hstep
    exact .of_goto hc .returning _ nofun nofun fun _ => .inl hcompleted
  · cases hstep
    exact .of_goto hc .timedOut _ (fun _ => rfl) nofun nofun
  · obtain ⟨-, rfl⟩ := of_ite_some hstep
    exact .of_goto hc .portClosed _ (fun _ => rfl) nofun nofun
  · cases hstep
    split
    · exact .offer .draining _ _ rfl nofun
    · exact .offer .draining _ _ rfl nofun
  · obtain ⟨hcompleted, rfl⟩ := of_ite_some hstep
    exact .of_goto hc .returning _ nofun nofun fun _ => .inl hcompleted
  · cases hstep
    exact .of_goto hc .returning _ nofun nofun fun _ => .inr rfl
  · obtain ⟨-, rfl⟩ := of_ite_some hstep
    exact .of_goto hc .returning _ nofun nofun fun _ => .inr rfl
  · cases hstep
    exact .offer .returning _ _ rfl nofun
  · cases hstep
    exact .leave rfl
  · cases hstep

/-- The dispatcher goes on with its command. -/
theorem Arranged.execute (h : s.Arranged) {stage : Stage} {choice : Choice}
    (hguard : s.Orderly (.dispatch choice)) (hc : s.commands[n]? = some c)
    (hdispatcher : s.dispatcher = .executing n stage)
    (hstep : s.executeCommand n c stage choice = some t) : t.Arranged := by
  have hlife := h.lives n c hc
  have hstage : (s.life n c).stage = some stage := by simp [life, hdispatcher]
  have hknown := h.known
  have hpending := h.pending
  rw [hdispatcher] at hpending hknown
  cases executes hc hdispatcher hstep with
  | goto next written ready hearly hcloses htold =>
    refine ⟨h.alive, hpending, by simpa using hknown, h.queue, by simp, ?_⟩
    refine h.lives_modify hc rfl rfl (fun m c hm => by simp [life, hdispatcher, hm]) ?_
    have hsound := hlife.goto hstage hearly ?_ htold
    · simpa [life] using hsound
    · intro hnext
      have hcompleted := hguard n (hcloses hnext)
      simpa [isCompleted, hc, life] using hcompleted
  | offer next written result hearly hcloses =>
    refine ⟨h.alive, hpending, by simpa using hknown, h.queue, by simp, ?_⟩
    refine h.lives_modify hc rfl rfl (fun m c hm => by simp [life, hdispatcher, hm]) ?_
    have hsound := hlife.offer hstage hearly fun hnext => hlife.closing stage hstage (hcloses hnext)
    simpa [life, Command.offer] using hsound
  | close hclosing =>
    subst hclosing
    have hcompleted : c.completed = false := (hlife.closing _ hstage rfl).1
    have hcomplete : s.complete n c = s.modify n ({ · with completed := true }) := by
      rw [complete, hcompleted, if_neg Bool.false_ne_true]
    rw [hcomplete]
    refine ⟨h.alive, hpending, by simpa [modify, goto] using hknown, h.queue, by simp [goto], ?_⟩
    refine h.lives_modify hc rfl rfl (fun m c hm => by simp [life, hdispatcher, hm, modify, goto]) ?_
    have hsound := hlife.closes hstage
    simpa [life, modify, goto] using hsound
  | leave hleaves =>
    subst hleaves
    refine ⟨h.alive, rfl, fun m hm => hknown m (by simp at hm ⊢; tauto), h.queue, by simp, ?_⟩
    refine h.lives_modify (f := id) hc (List.modify_id n _).symm rfl
      (fun m c hm => by simp [life, hdispatcher, hm]) ?_
    simpa [life] using hlife.leave hstage

/-- A command that is new has nothing to do with the dispatcher, or with the reader. -/
theorem Arranged.life_new (h : s.Arranged) (c : Command) :
    s.life s.commands.length c =
      ⟨c.caller, false, c.response.isSome, c.completed, 0, .away, none, c.results.length⟩ := by
  have hnew : ∀ {p : Prop}, (p → s.commands.length < s.commands.length) → ¬ p :=
    fun hp hnot => (hp hnot).ne rfl
  have hqueue := hnew fun hq => h.known s.commands.length (.inl hq)
  have hcredited := hnew fun hq => h.known s.commands.length (.inr (.inl hq))
  have hcommand := hnew fun hq => h.known s.commands.length (.inr (.inr (.inl hq)))
  have hrole := not_not.mp (hnew fun hq => h.known s.commands.length (.inr (.inr (.inr hq))))
  have hstage : s.dispatcher.stage s.commands.length = none := by
    cases hdispatcher : s.dispatcher with
    | executing m stage =>
      refine Dispatcher.stage_of_ne fun hm => hcommand ?_
      rw [hdispatcher, hm, Dispatcher.command_executing]
    | waiting | emptying | stopped => rfl
  simp [life, hqueue, hrole, hstage, List.count_eq_zero.mpr hcredited]

/-- A call of `SendCommand`, or of `SendSMSCommand`. -/
theorem Arranged.submit (h : s.Arranged) (hcaller : c.caller = .submitting)
    (hresponse : c.response = none) (hcompleted : c.completed = false) (hresults : c.results = []) :
    (s.submit c).Arranged where
  alive := h.alive
  pending := h.pending
  known m hm := (h.known m hm).trans_le (by simp [Modem.submit])
  queue := h.queue
  stopped := h.stopped
  lives m c' hc' := by
    obtain hold | ⟨rfl, rfl⟩ := of_getElem?_concat hc'
    · exact h.lives m c' hold
    · have hlife : (s.submit c).life s.commands.length = s.life s.commands.length := rfl
      rw [hlife, h.life_new]
      split
      · next hclosed => constructor <;> simp [Command.give, hresponse, hcompleted, hresults, hclosed,
          Modem.submit]
      · constructor <;> simp [hcaller, hresponse, hcompleted, hresults]

/-- The dispatcher takes a command. -/
theorem Arranged.takeCommand (h : s.Arranged) {choice : Choice} (hwaiting : s.dispatcher = .waiting)
    (hstep : s.takeCommand choice = some t) : t.Arranged := by
  have hknown := h.known
  have hqueue := h.queue
  unfold Modem.takeCommand at hstep
  split at hstep
  · split at hstep
    · cases hstep
    · next n rest hrest =>
      cases hstep
      rw [hrest] at hqueue hknown
      obtain ⟨hn, hnodup⟩ := List.nodup_cons.mp hqueue
      have hlength : n < s.commands.length := hknown n (.inl List.mem_cons_self)
      have hc := List.getElem?_eq_getElem hlength
      refine ⟨h.alive, rfl, fun m hm => ?_, hnodup, nofun, ?_⟩
      · by_cases hmn : m = n
        · exact hmn ▸ hlength
        · exact hknown m (hm.imp (.tail _) (.imp_right (.imp_left fun h => by simp_all)))
      · refine h.lives_modify (f := id) hc (List.modify_id n _).symm rfl
          (fun m c hm => by simp [life, hwaiting, hrest, hm]) ?_
        have hsound := (h.lives n _ hc).take (by simp [life, hrest])
        simpa [life, hn] using hsound
  · obtain ⟨hclosed, rfl⟩ := of_ite_some hstep
    refine ⟨h.alive, by rw [h.pending, hwaiting]; rfl, fun m hm => ?_, hqueue, fun _ => hclosed, ?_⟩
    · rw [hwaiting] at hknown
      exact hknown m hm
    · exact h.lives_same rfl rfl fun m c => by simp [life, hwaiting, Dispatcher.stage]
  · cases hstep

/-- The queue is emptied. -/
theorem Arranged.refuseCommand (h : s.Arranged) (hemptying : s.dispatcher = .emptying) :
    s.refuseCommand.Arranged := by
  have hclosed := h.stopped (.inl hemptying)
  have hknown := h.known
  have hqueue := h.queue
  have hpending := h.pending
  rw [hemptying] at hpending
  unfold Modem.refuseCommand
  split
  · refine ⟨h.alive, hpending, fun m hm => ?_, hqueue, fun _ => hclosed, ?_⟩
    · rw [hemptying] at hknown
      exact hknown m hm
    · exact h.lives_same rfl rfl fun m c => by simp [life, hemptying, Dispatcher.stage]
  · next n rest hrest =>
    rw [hrest] at hqueue hknown
    obtain ⟨hn, hnodup⟩ := List.nodup_cons.mp hqueue
    have hc := List.getElem?_eq_getElem (hknown n (.inl List.mem_cons_self))
    refine ⟨h.alive, hemptying ▸ hpending, fun m hm => ?_, hnodup, fun _ => hclosed, ?_⟩
    · exact (hknown m (hm.imp_left (.tail _))).trans_le (by simp [modify])
    · refine h.lives_modify hc rfl rfl
        (fun m c hm => by simp [life, hrest, hm, modify, Dispatcher.stage, hemptying]) ?_
      have hsound := (h.lives n _ hc).refuse (by simp [life, hrest])
      simpa [life, hn, modify, Command.offer] using hsound

/-- A change of one command that nobody else has to do with. -/
theorem Arranged.modify (h : s.Arranged) {f : Command → Command} (hc : s.commands[n]? = some c)
    (hown : ((s.modify n f).life n (f c)).Sound s.closed) : (s.modify n f).Arranged where
  alive := h.alive
  pending := h.pending
  known m hm := (h.known m hm).trans_le (by simp [Modem.modify])
  queue := h.queue
  stopped := h.stopped
  lives := h.lives_modify hc rfl rfl (fun _ _ _ => rfl) hown

/-- What the callers do. -/
theorem Arranged.enqueue (h : s.Arranged) (hc : s.commands[n]? = some c)
    (hcaller : c.caller = .submitting) :
    Arranged { s.modify n ({ · with caller := .waiting }) with queue := s.queue ++ [n] } := by
  have hlife := h.lives n c hc
  have hn : n ∉ s.queue := by simpa [life] using hlife.unqueued hcaller
  have hlength : n < s.commands.length := (List.getElem?_eq_some_iff.mp hc).1
  refine ⟨h.alive, h.pending, fun m hm => ?_, ?_, h.stopped, ?_⟩
  · have hlt : m < s.commands.length := by
      obtain hm | hm := hm
      · obtain hm | hm := List.mem_append.mp hm
        · exact h.known m (.inl hm)
        · exact List.mem_singleton.mp hm ▸ hlength
      · exact h.known m (.inr hm)
    simpa [Modem.modify] using hlt
  · exact List.nodup_append.mpr ⟨h.queue, List.nodup_singleton n, by
      rintro m hm _ hn' rfl
      exact hn (List.mem_singleton.mp hn' ▸ hm)⟩
  · refine h.lives_modify hc rfl rfl (fun m c hm => by simp [life, hm, Modem.modify]) ?_
    have hsound := hlife.enqueue hcaller
    simpa [life, Modem.modify] using hsound

theorem Arranged.receive (h : s.Arranged) (hc : s.commands[n]? = some c)
    (hcaller : c.caller = .waiting) {result : CommandResult} (hresponse : c.response = some result) :
    (s.modify n fun c => { c.give result with response := none }).Arranged := by
  refine h.modify hc ?_
  have hsound := (h.lives n c hc).receive hcaller (by simp [life, hresponse])
  simpa [life, Modem.modify, Command.give] using hsound

theorem Arranged.abandon (h : s.Arranged) (hc : s.commands[n]? = some c)
    (hcaller : c.caller ≠ .returned) (hclosed : s.closed = true) :
    (s.modify n (·.give ⟨[], some .portClosed⟩)).Arranged := by
  refine h.modify hc ?_
  have hsound := (h.lives n c hc).abandon hcaller hclosed
  simpa [life, Modem.modify, Command.give] using hsound

/-- The reader comes to have nothing to do with a command that it did not complete. -/
theorem Arranged.reader (h : s.Arranged) {reader : Reader} (pendingLines : List String)
    (dispatched : List String) (hold : ∀ m, s.reader.role m = .away)
    (hrole : ∀ m, reader.role m = .away) :
    Arranged { s with
      pendingLines := pendingLines
      dispatched := dispatched
      reader := reader } where
  alive := h.alive
  pending := h.pending
  known m hm := h.known m (by simpa [hrole, hold] using hm)
  queue := h.queue
  stopped := h.stopped
  lives := h.lives_same rfl rfl fun m c => by simp [life, hrole, hold]

/-- The prompt makes no difference to the life of a command. -/
theorem Arranged.ready (h : s.Arranged) (n : Nat) (ready : Option Bool) :
    (s.modify n ({ · with promptReady := ready })).Arranged where
  alive := h.alive
  pending := h.pending
  known m hm := (h.known m hm).trans_le (by simp [Modem.modify])
  queue := h.queue
  stopped := h.stopped
  lives m c' hc' := by
    rw [Modem.modify, List.getElem?_modify] at hc'
    obtain ⟨c, hc, rfl⟩ := Option.map_eq_some_iff.mp hc'
    split
    · exact h.lives m c hc
    · exact h.lives m c hc

/-- What the reader does with its line. -/
theorem Arranged.read (h : s.Arranged) (hstep : s.read = some t) : t.Arranged := by
  have hknown := h.known
  unfold Modem.read at hstep
  split at hstep
  · next n hreader =>
    cases hstep
    exact (h.ready n _).reader _ _ (by simp [Modem.modify, hreader, Reader.role]) fun _ => rfl
  · next n result hreader =>
    cases hstep
    rw [hreader] at hknown
    have hlength : n < s.commands.length :=
      hknown n (.inr (.inr (.inr (by simp [Reader.role]))))
    have hc := List.getElem?_eq_getElem hlength
    refine ⟨h.alive, h.pending, fun m hm => ?_, h.queue, h.stopped, ?_⟩
    · have hlt := hknown m (by simpa [Reader.role, Modem.modify] using hm)
      simpa [Modem.modify] using hlt
    · refine h.lives_modify hc rfl rfl
        (fun m c hm => by simp [life, hreader, Modem.modify, Reader.role, Ne.symm hm]) ?_
      have hsound := (h.lives n _ hc).deliver (by simp [life, hreader, Reader.role])
      simpa [life, Modem.modify, Command.offer, Reader.role] using hsound
  · next n hreader =>
    obtain ⟨c, hc, rfl⟩ := Option.map_eq_some_iff.mp hstep
    rw [hreader] at hknown
    have hlife := h.lives n c hc
    have hrole : (s.life n c).reader = .completing := by simp [life, hreader, Reader.role]
    have hcompleted : c.completed = false := hlife.uncompleted (by simp [hrole])
    have hcomplete : s.complete n c = s.modify n ({ · with completed := true }) := by
      rw [complete, hcompleted, if_neg Bool.false_ne_true]
    rw [hcomplete]
    refine ⟨h.alive, h.pending, fun m hm => ?_, h.queue, h.stopped, ?_⟩
    · have hlt := hknown m (by simp [Reader.role] at hm ⊢; tauto)
      simpa [Modem.modify] using hlt
    · refine h.lives_modify hc rfl rfl
        (fun m c hm => by simp [life, hreader, Modem.modify, Reader.role, Ne.symm hm]) ?_
      have hsound := hlife.complete hrole
      simpa [life, Modem.modify, Reader.role] using hsound
  · next text hreader =>
    cases hstep
    exact h.reader _ _ (by simp [hreader, Reader.role]) fun _ => rfl
  · cases hstep
  · cases hstep

/-- The command that is pending is executed. -/
theorem Arranged.executing_of_pending (h : s.Arranged) (hpending : s.pendingCmd = some n) :
    ∃ stage, s.dispatcher = .executing n stage := by
  have hcommand := h.pending.symm.trans hpending
  cases hdispatcher : s.dispatcher with
  | executing m stage =>
    rw [hdispatcher] at hcommand
    cases hcommand
    exact ⟨stage, rfl⟩
  | waiting | emptying | stopped =>
    rw [hdispatcher] at hcommand
    cases hcommand

/-- A final result is credited to the command that is pending. -/
theorem Arranged.credit (h : s.Arranged) (hold : ∀ m, s.reader.role m = .away)
    (hpending : s.pendingCmd = some n) (hcompleted : s.isCompleted n = false)
    (hcloses : s.dispatcher.closes = false) (result : CommandResult) :
    Arranged { s with
      pendingLines := []
      credited := s.credited ++ [some n]
      reader := .delivering n result } := by
  obtain ⟨stage, hdispatcher⟩ := h.executing_of_pending hpending
  rw [hdispatcher] at hcloses
  have hlength : n < s.commands.length :=
    h.known n (.inr (.inr (.inl (by rw [hdispatcher, Dispatcher.command_executing]))))
  have hc := List.getElem?_eq_getElem hlength
  refine ⟨h.alive, h.pending, fun m hm => ?_, h.queue, h.stopped, ?_⟩
  · by_cases hmn : m = n
    · exact hmn ▸ hlength
    · refine h.known m ?_
      simpa [hold, hmn, Ne.symm hmn] using hm
  · refine h.lives_modify (f := id) hc (List.modify_id n _).symm rfl (fun m c hm => ?_) ?_
    · simp [life, hold, hm, Ne.symm hm, List.count_append]
    · have hstage : (s.life n s.commands[n]).stage = some stage := by simp [life, hdispatcher]
      have hsound := (h.lives n _ hc).credit hstage
        (by simpa [isCompleted, hc, hold, life] using hcompleted) (hold n) hcloses
      simpa [life, List.count_append] using hsound

/-- The reader has a line. -/
theorem Arranged.readLine (h : s.Arranged) {text : String} (hguard : s.Orderly (.line text))
    (hscanning : s.reader = .scanning) : (s.readLine equalFold text).Arranged := by
  have hold : ∀ m, s.reader.role m = .away := by simp [hscanning, Reader.role]
  unfold Modem.readLine
  dsimp only
  split
  · exact h
  · split
    · refine h.reader s.pendingLines s.dispatched hold fun m => ?_
      split
      · cases s.pendingCmd <;> rfl
      · rfl
    · split
      · next code hcode =>
        cases hpending : s.pendingCmd with
        | none =>
          refine ⟨h.alive, hpending ▸ h.pending, fun m hm => ?_, h.queue, h.stopped, ?_⟩
          · exact h.known m (by simpa [hold] using hm)
          · exact h.lives_same rfl rfl fun m c => by simp [life, hold, List.count_append]
        | some n =>
          obtain ⟨hcompleted, hcloses⟩ := hguard (by simp [hcode]) n hpending
          have hcredit := h.credit hold hpending hcompleted hcloses ⟨s.pendingLines, code.toError⟩
          rw [hpending] at hcredit
          exact hcredit
      · split
        · exact h
        · exact h.reader s.pendingLines s.dispatched hold fun _ => rfl

/-- **An orderly event.** -/
theorem Arranged.step (h : s.Arranged) {event : ModemEvent} (hguard : s.Orderly event)
    (hstep : s.step equalFold event = some t) : t.Arranged := by
  have halive : ¬ s.crashed = true := Bool.eq_false_iff.mp h.alive
  unfold Modem.step at hstep
  rw [if_neg halive] at hstep
  cases event with
  | sendCommand cmd =>
    cases hstep
    exact h.submit rfl rfl rfl rfl
  | sendSMSCommand header body =>
    cases hstep
    exact h.submit rfl rfl rfl rfl
  | enqueue n =>
    obtain ⟨c, hc, hstep⟩ := Option.bind_eq_some_iff.mp hstep
    obtain ⟨⟨hcaller, -⟩, rfl⟩ := of_ite_some hstep
    exact h.enqueue hc hcaller
  | receive n =>
    obtain ⟨c, hc, hstep⟩ := Option.bind_eq_some_iff.mp hstep
    split at hstep
    · next hcaller =>
      obtain ⟨result, hresponse, rfl⟩ := Option.map_eq_some_iff.mp hstep
      exact h.receive hc hcaller hresponse
    · cases hstep
  | abandon n =>
    obtain ⟨c, hc, hstep⟩ := Option.bind_eq_some_iff.mp hstep
    obtain ⟨⟨hcaller, hclosed⟩, rfl⟩ := of_ite_some hstep
    exact h.abandon hc hcaller hclosed
  | close =>
    cases hstep
    exact ⟨h.alive, h.pending, h.known, h.queue, fun _ => rfl, fun m c hc => (h.lives m c hc).close⟩
  | line text =>
    obtain ⟨hscanning, rfl⟩ := of_ite_some hstep
    exact h.readLine hguard hscanning
  | read => exact h.read hstep
  | ends =>
    obtain ⟨hscanning, rfl⟩ := of_ite_some hstep
    exact h.reader s.pendingLines s.dispatched (by simp [hscanning]) fun _ => rfl
  | dispatch choice =>
    replace hstep : s.dispatch choice = some t := hstep
    unfold Modem.dispatch at hstep
    split at hstep
    · next hwaiting => exact h.takeCommand hwaiting hstep
    · next n stage hdispatcher =>
      obtain ⟨c, hc, hstep⟩ := Option.bind_eq_some_iff.mp hstep
      exact h.execute hguard hc hdispatcher hstep
    · next hemptying =>
      obtain ⟨-, rfl⟩ := of_ite_some hstep
      exact h.refuseCommand hemptying
    · cases hstep

/-! ## In the end -/

/-- What is settled cannot go on by an event of its own. -/
theorem Settled.stuck (hsettled : s.Settled equalFold) (event : ModemEvent)
    (hown : own event = true) (hstep : s.step equalFold event = some t) : False := by
  rw [hsettled event hown] at hstep
  cases hstep

variable (equalFold) in
theorem Arranged.step_dispatch (h : s.Arranged) (choice : Choice) :
    s.step equalFold (.dispatch choice) = s.dispatch choice := by
  rw [Modem.step, if_neg (Bool.eq_false_iff.mp h.alive)]

/-- The caller of a command that has its result can take it. -/
theorem Arranged.receivable (h : s.Arranged) (hc : s.commands[n]? = some c)
    (hcaller : c.caller = .waiting) (hfull : c.response.isSome = true) : ¬ s.Settled equalFold := by
  intro hsettled
  obtain ⟨result, hresponse⟩ := Option.isSome_iff_exists.mp hfull
  refine hsettled.stuck (t := s.modify n fun c => { c.give result with response := none })
    (.receive n) rfl ?_
  rw [Modem.step, if_neg (Bool.eq_false_iff.mp h.alive)]
  simp [hc, hcaller, hresponse]

/-- The dispatcher goes on with its command, or the caller of the command does. -/
theorem Arranged.goes_on (h : s.Arranged) (hopen : s.closed = false) {stage : Stage}
    (hdispatcher : s.dispatcher = .executing n stage) : ¬ s.Settled equalFold := by
  intro hsettled
  have hlength : n < s.commands.length :=
    h.known n (.inr (.inr (.inl (by rw [hdispatcher, Dispatcher.command_executing]))))
  have hc := List.getElem?_eq_getElem hlength
  have hlife := h.lives n _ hc
  have hstage : (s.life n s.commands[n]).stage = some stage := by simp [life, hdispatcher]
  have hnone : ∀ choice, s.executeCommand n s.commands[n] stage choice = none := fun choice => by
    have hdispatch := (h.step_dispatch equalFold choice).symm.trans (hsettled _ rfl)
    rw [dispatch, hdispatcher] at hdispatch
    simpa [hc] using hdispatch
  -- a result that is not taken belongs to a caller that is waiting
  have hheld : stage.early = true → s.commands[n].response = none := fun hearly => by
    by_contra hresponse
    have hfull : (s.life n s.commands[n]).full = true := Option.isSome_iff_ne_none.mpr hresponse
    cases hcaller : s.commands[n].caller with
    | submitting => exact (hlife.taken hstage).1 hcaller
    | waiting => exact h.receivable hc hcaller hfull hsettled
    | returned =>
      have hclosed := hlife.held stage hstage hearly hfull hcaller
      rw [hopen] at hclosed
      cases hclosed
  cases stage with
  | writing | promptTimedOut | promptFailing | writingBody | closing | timedOut | portClosed
  | returning => cases hnone .goes
  | failing err =>
    have hgoes := hnone .goes
    rw [executeCommand, if_pos (hheld rfl)] at hgoes
    cases hgoes
  | bodyFailing err =>
    have hgoes := hnone .goes
    rw [executeCommand, if_pos (hheld rfl)] at hgoes
    cases hgoes
  | prompt | awaiting | draining => cases hnone .timer

/-- While the port is open, the queue is empty in the end. -/
theorem Arranged.queue_settled (h : s.Arranged) (hopen : s.closed = false)
    (hsettled : s.Settled equalFold) : s.queue = [] ∧ ∀ n, s.dispatcher.stage n = none := by
  cases hdispatcher : s.dispatcher with
  | executing n stage => exact absurd hsettled (h.goes_on hopen hdispatcher)
  | waiting =>
    refine ⟨?_, fun _ => rfl⟩
    have hdispatch := (h.step_dispatch equalFold .goes).symm.trans (hsettled _ rfl)
    rw [dispatch, hdispatcher] at hdispatch
    cases hqueue : s.queue with
    | nil => rfl
    | cons n rest =>
      rw [Modem.takeCommand, hqueue] at hdispatch
      cases hdispatch
  | emptying => simp [h.stopped (.inl hdispatcher)] at hopen
  | stopped => simp [h.stopped (.inr hdispatcher)] at hopen

/-- In the end every caller has its result. -/
theorem Arranged.returned (h : s.Arranged) (hsettled : s.Settled equalFold)
    (hc : s.commands[n]? = some c) : c.caller = .returned := by
  have halive : ¬ s.crashed = true := Bool.eq_false_iff.mp h.alive
  by_contra hcaller
  cases hclosed : s.closed with
  | true =>
    refine hsettled.stuck (t := s.modify n (·.give ⟨[], some .portClosed⟩))
      (.abandon n) rfl ?_
    rw [Modem.step, if_neg halive]
    simp [hc, hcaller, hclosed]
  | false =>
    obtain ⟨hqueue, hstage⟩ := h.queue_settled hclosed hsettled
    cases hcase : c.caller with
    | submitting =>
      have henqueue := hsettled (.enqueue n) rfl
      rw [Modem.step, if_neg halive] at henqueue
      simp [hc, hcase, hqueue] at henqueue
    | waiting =>
      have hlife := h.lives n c hc
      obtain hqueued | hexecuted | hfull := hlife.waiting hcase
      · simp [life, hqueue] at hqueued
      · exact hexecuted (hstage n)
      · exact h.receivable hc hcase hfull hsettled
    | returned => exact hcaller hcase

theorem Arranged.completesOnce (h : s.Arranged) : s.CompletesOnce equalFold where
  closed := h.alive
  results c hmem := by
    obtain ⟨n, hc⟩ := List.mem_iff_getElem?.mp hmem
    have hresults := (h.lives n c hc).results
    show (s.life n c).results ≤ 1
    split at hresults <;> omega
  settled hsettled c hmem := by
    obtain ⟨n, hc⟩ := List.mem_iff_getElem?.mp hmem
    have hresults := (h.lives n c hc).results
    have hcaller : (s.life n c).caller = .returned := h.returned hsettled hc
    rw [if_pos hcaller] at hresults
    exact List.length_eq_one_iff.mp hresults
  credited n := by
    by_cases hn : n < s.commands.length
    · exact (h.lives n _ (List.getElem?_eq_getElem hn)).credits
    · have hcredited : some n ∉ s.credited := fun hmem => hn (h.known n (.inr (.inl hmem)))
      rw [List.count_eq_zero.mpr hcredited]
      exact Nat.zero_le 1

/-- **Every command is completed once**, in orderly runs. -/
theorem command_completes_once (equalFold : EqualFold) {events : List ModemEvent} {s : Modem}
    (horderly : Guarded (step equalFold) Orderly init events)
    (hrun : exec (step equalFold) init events = some s) : s.CompletesOnce equalFold :=
  (horderly.invariant (fun _ _ _ h hguard hstep => h.step hguard hstep) arranged_init
    hrun).completesOnce

/-- A command that is answered, and one that is not. -/
def answeredRun : List ModemEvent :=
  [.sendCommand "ATA", .enqueue 0, .dispatch .goes, .dispatch .goes, .line "+CLCC: 1", .read,
    .line "OK", .read, .read, .dispatch .completed, .dispatch .goes, .receive 0,
    .sendSMSCommand "AT+CMGS=20" "00", .enqueue 1, .dispatch .goes, .dispatch .goes, .dispatch .timer,
    .dispatch .goes, .dispatch .goes, .dispatch .goes, .dispatch .goes, .receive 1]

theorem command_completes_once_answered :
    (∀ event ∈ ((exec (step fun a b => a == b) init answeredRun).map (·.commands)),
      event.map (·.results) =
        [[(⟨["+CLCC: 1"], none⟩ : CommandResult)], [⟨[], some .promptTimeout⟩]]) ∧
    ∀ s, exec (step fun a b => a == b) init answeredRun = some s →
      s.CompletesOnce fun a b => a == b :=
  ⟨by decide +kernel, fun _ hrun => command_completes_once _ (by decide +kernel) hrun⟩

/-- A command that is answered twice. -/
def okayTwiceRun : List ModemEvent :=
  [.sendCommand "ATH", .enqueue 0, .dispatch .goes, .dispatch .goes, .line "OK", .read, .read,
    .line "OK", .read, .read]

/-- **A final result too many ends the process.** -/
theorem okay_twice : ¬ ∀ (equalFold : EqualFold) (events : List ModemEvent) (s : Modem),
    exec (step equalFold) init events = some s → s.CompletesOnce equalFold := by
  intro h
  have hrun : (exec (step fun a b => a == b) init okayTwiceRun).map (·.crashed) = some true := by
    decide +kernel
  obtain ⟨s, hs, hcrashed⟩ := Option.map_eq_some_iff.mp hrun
  rw [(h _ _ s hs).closed] at hcrashed
  cases hcrashed

end Modem
end Svarla.ModemGateway
