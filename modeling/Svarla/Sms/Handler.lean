import Mathlib
import Svarla.Lib.Threads
import Svarla.Sms.MessageId
import Svarla.Sms.PartDisk

/-!
# The SMS handler

`modem-gateway/internal/sms/sms.go` with a durable part store: the `+CMTI` handler and the drain read
a slot of the modem, hand a part to the reassembler and a message to the incoming buffer, and delete
the slot. Every URC is handled in a goroutine of its own, beside the drain, so a `Gateway` holds any
number of tasks and a step is the next call of one of them: an AT command, a call of the reassembler
under its lock, a push under the buffer's. The slots, the selected storage and both files are shared.

A reconnect makes a new manager with a new reassembler over the same part store; tasks of an older
session go on, but the modem answers none of their commands. A restart ends all tasks and opens both
files again. Runs have a part store throughout, so `Durable()` is true and the sweep for the parts
left on the SIM is not reached.
-/

namespace Svarla.Sms

open Svarla.Lib Svarla.Buffer

/-! ## Messages as they are read -/

/-- `IncomingSMS`, as it is stored. -/
structure IncomingSMS where
  messageID : String
  fromNumber : String
  toNumber : String
  body : String
  timestamp : Int
  deriving DecidableEq, Repr

/-- What `readMessage` returns. -/
structure Reading where
  msg : IncomingSMS
  concat : Option ConcatInfo
  deriving DecidableEq, Repr

/-- The part a reading brings to the reassembler. -/
def Reading.call (r : Reading) (c : ConcatInfo) : PartCall :=
  ⟨r.msg.fromNumber, c.refNum, c.seqNum, c.totalParts, r.msg.body⟩

/-- What the gateway uses and does not define: SHA-256, and the length of the JSON of an item. -/
structure Externals where
  sha256 : String → List UInt8
  marshalPart : StoredPart → Except String Nat
  marshalSMS : IncomingSMS → Except String Nat

section
variable (X : Externals)

/-- `readMessage`, on the PDU that `AT+CMGR` returned. -/
def readMessage (ownNumber : String) (index : Nat) (pdu : List UInt8) : Except String Reading :=
  match parseDeliverPDU pdu with
  | .error err => .error s!"sms: parse CMGR PDU (index {index}): {err}"
  | .ok parsed => .ok
    { msg := ⟨deterministicMessageID X.sha256 parsed, parsed.sender, ownNumber, parsed.body,
        parsed.timestamp⟩
      concat := parsed.concat }

/-! ## The state -/

/-- The storages of a modem. -/
inductive Storage
  | sm
  | me
  | sr
  deriving DecidableEq, Repr

/-- Where a task is: the call it makes next, with what it keeps for it. -/
inductive Stage
  /-- `AT+CMGR`. -/
  | read
  /-- `AddPart`. -/
  | addPart (r : Reading) (c : ConcatInfo)
  /-- `deliverIncoming`, of the message as read or assembled. -/
  | deliver (r : Reading) (msg : IncomingSMS)
  /-- `AT+CMGD` of a slot the drain could not read. -/
  | deleteUnread
  /-- `AT+CMGD` of a part of an incomplete message. -/
  | deletePart (r : Reading) (c : ConcatInfo)
  /-- `AT+CMGD` of a message that was delivered. -/
  | deleteDelivered (r : Reading) (msg : IncomingSMS)
  /-- `Commit`. -/
  | commit (r : Reading) (c : ConcatInfo) (msg : IncomingSMS)

/-- A handler at work on a slot. -/
structure Task where
  /-- The connection to the modem the task belongs to. -/
  session : Nat
  /-- The task is the drain's, and not a `+CMTI` handler. -/
  draining : Bool
  index : Nat
  stage : Stage

/-- Where `DrainStoredMessages` is, with the storages still to come. -/
inductive DrainStage
  /-- `AT+CPMS`; with no storage left, back to SM. -/
  | select (storages : List Storage)
  /-- `AT+CMGL`. -/
  | list (storages : List Storage)
  /-- `processStoredIndex`, for each index. -/
  | process (indices : List Nat) (storages : List Storage)

/-- The gateway, its modem and the server's table. -/
structure Gateway where
  /-- The PDU in each slot. -/
  slots : Storage → Nat → Option (List UInt8)
  /-- The storage that commands refer to. -/
  selected : Storage
  /-- The reassembler of each session. -/
  reassemblers : Nat → Reassembler
  session : Nat
  parts : PartDisk
  incoming : PersistentBuffer IncomingSMS
  incomingFile : File IncomingSMS
  tasks : List Task
  drain : Option DrainStage
  /-- What was sent to the server. -/
  sent : List IncomingSMS
  /-- What the server has a row for. -/
  accepted : List IncomingSMS

/-- How the calls of one step of a task end. -/
structure Calls where
  /-- The AT command succeeds. -/
  command : Bool
  ownNumber : String
  cleanupNow : Int
  createdNow : Int
  append : AppendCalls
  rewrite : RewriteCalls

/-- Nothing fails, and no time passes. -/
def Calls.done : Calls := ⟨true, "", 0, 0, .done, .done⟩

/-- What can happen next. -/
inductive GatewayEvent
  /-- The modem stores a message in an empty slot. -/
  | arrive (storage : Storage) (index : Nat) (pdu : List UInt8)
  /-- A `+CMTI` starts a handler. -/
  | cmti (index : Nat)
  /-- The next call of a task. -/
  | task (i : Nat) (calls : Calls)
  /-- `DrainStoredMessages` starts. -/
  | drainStart
  /-- The next call of the drain, and the indices a listing returns. -/
  | drainStep (command : Bool) (indices : List Nat)
  /-- `flush`: the buffered messages are sent. -/
  | flush
  /-- A message that was sent reaches the server. -/
  | accept (msg : IncomingSMS)
  /-- `HandleAck`. -/
  | ack (messageID : String) (rio : RewriteCalls)
  /-- The modem is lost, and there is a new connection. -/
  | reconnect (now : Int)
  /-- The process ends, and starts again. -/
  | restart (now : Int) (io : LoadCalls)

/-! ## The steps -/

namespace Gateway

/-- The task's commands reach the modem, and the command succeeds. -/
def Answers (s : Gateway) (t : Task) (calls : Calls) : Prop :=
  calls.command = true ∧ t.session = s.session

instance (s : Gateway) (t : Task) (calls : Calls) : Decidable (s.Answers t calls) :=
  inferInstanceAs (Decidable (_ ∧ _))

/-- `deleteStored`: an error is only logged. -/
def deleteStored (s : Gateway) (t : Task) (calls : Calls) : Gateway :=
  if s.Answers t calls then
    { s with slots := fun storage index =>
        if storage = s.selected ∧ index = t.index then none else s.slots storage index }
  else s

/-- The next call of a task, in `handleCMTI` or in `processStoredIndex`, and where the task is after
it, if it goes on. -/
def taskStep (s : Gateway) (t : Task) (calls : Calls) : Gateway × Option Stage :=
  match t.stage with
  | .read =>
    let slot := if s.Answers t calls then s.slots s.selected t.index else none
    match slot.map (readMessage X calls.ownNumber t.index) with
    | some (.ok r) =>
      match r.concat with
      | some c => (s, some (.addPart r c))
      | none => (s, some (.deliver r r.msg))
    -- the drain deletes what it could not read, the other handler leaves it
    | _ => (s, if t.draining then some .deleteUnread else none)
  | .addPart r c =>
    let (reassembler, parts, complete, assembled) :=
      addPart (diskStore X.marshalPart) (s.reassemblers t.session) s.parts (r.call c)
        calls.cleanupNow calls.createdNow
    ({ s with reassemblers := Function.update s.reassemblers t.session reassembler, parts },
      some (if complete then .deliver r { r.msg with body := assembled } else .deletePart r c))
  | .deliver r msg =>
    let (incoming, incomingFile, err) :=
      s.incoming.push X.marshalSMS calls.append calls.rewrite s.incomingFile msg
    ({ s with incoming, incomingFile }, if err = none then some (.deleteDelivered r msg) else none)
  | .deleteUnread => (s.deleteStored t calls, none)
  | .deletePart _ _ => (s.deleteStored t calls, none)
  | .deleteDelivered r msg =>
    (s.deleteStored t calls, r.concat.map fun c => .commit r c msg)
  | .commit r c _ =>
    let (reassembler, parts) := commit (diskStore X.marshalPart) (s.reassemblers t.session) s.parts
      r.msg.fromNumber c.refNum
    ({ s with reassemblers := Function.update s.reassemblers t.session reassembler, parts }, none)

/-- The next call of the drain. -/
def drainStep (s : Gateway) (command : Bool) (indices : List Nat) : DrainStage → Option Gateway
  | .select (storage :: rest) =>
    some (if command then { s with selected := storage, drain := some (.list rest) }
      else { s with drain := some (.select rest) })
  | .select [] =>
    some { s with selected := if command then .sm else s.selected, drain := none }
  | .list rest =>
    some { s with drain := some (if command then .process indices rest else .select rest) }
  | .process (index :: indices) rest =>
    -- one index after the other
    if s.tasks.any (fun t => t.draining && t.session == s.session) then none
    else some { s with
      tasks := s.tasks ++ [⟨s.session, true, index, .read⟩], drain := some (.process indices rest) }
  | .process [] rest =>
    if s.tasks.any (fun t => t.draining && t.session == s.session) then none
    else some { s with drain := some (.select rest) }

/-- A new session, with a reassembler over the part store as it is. -/
def newSession (s : Gateway) (now : Int) : Gateway :=
  let (reassembler, parts) := newReassembler (diskStore X.marshalPart) 0 s.parts now
  { s with
    reassemblers := Function.update s.reassemblers (s.session + 1) reassembler
    session := s.session + 1, parts, drain := none }

end Gateway

/-- One event. -/
def gatewayStep (s : Gateway) : GatewayEvent → Option Gateway
  | .arrive storage index pdu =>
    if s.slots storage index = none then
      some { s with slots := fun st i =>
        if st = storage ∧ i = index then some pdu else s.slots st i }
    else none
  | .cmti index => some { s with tasks := s.tasks ++ [⟨s.session, false, index, .read⟩] }
  | .task i calls =>
    match s.tasks[i]? with
    | none => none
    | some t =>
      let (s', stage) := s.taskStep X t calls
      some { s' with tasks := advance s.tasks i (stage.map fun stage => { t with stage }) }
  | .drainStart =>
    if s.drain.isSome then none else some { s with drain := some (.select [.sm, .me, .sr]) }
  | .drainStep command indices => s.drain.bind (s.drainStep command indices)
  | .flush => some { s with sent := s.sent ++ s.incoming.snapshot }
  | .accept msg =>
    if msg ∈ s.sent then
      some (if s.accepted.any (·.messageID == msg.messageID) then s
        else { s with accepted := s.accepted ++ [msg] })
    else none
  | .ack messageID rio =>
    if s.accepted.any (·.messageID == messageID) then
      let (incoming, incomingFile, _) := s.incoming.remove X.marshalSMS rio s.incomingFile messageID
      some { s with incoming, incomingFile }
    else none
  | .reconnect now => some (s.newSession X now)
  | .restart now io =>
    -- a run in which a file cannot be opened goes on without the buffer
    match s.parts.reopen.buffer, PersistentBuffer.newKeyed defaultCapacity
        (some IncomingSMS.messageID) io s.incomingFile with
    | some _, .ok incoming =>
      some (Gateway.newSession X { s with parts := s.parts.reopen, incoming, tasks := [] } now)
    | _, _ => none

/-- A process that starts for the first time, with any messages in the modem. -/
def Gateway.start (slots : Storage → Nat → Option (List UInt8)) (selected : Storage)
    (outcomes : Nat → Outcomes) : Gateway :=
  { slots, selected
    reassemblers := fun _ => ⟨∅, defaultStaleTimeout⟩
    session := 0
    parts := PartDisk.fresh outcomes
    incoming := (fresh defaultCapacity defaultCapacity_pos (some IncomingSMS.messageID)).1
    incomingFile := ⟨[], none⟩
    tasks := [], drain := none, sent := [], accepted := [] }

end

end Svarla.Sms
