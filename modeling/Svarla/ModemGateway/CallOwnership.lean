import Mathlib
import Svarla.ModemGateway.CallManager

/-!
# Whose call it is

`CallManager` has one place for a call, and more than one handler takes the call out of it. Most look
first which call is there, but a command that has failed takes whatever call is there, and NO CARRIER
and BUSY do not say which call they are about (`other_call_dropped`). And while `reportSent` keeps the
report of an incoming call from being sent twice, `+CLIP` does not look at it where the caller is not
known.

Where no call comes while a command for an earlier one is under way, where NO CARRIER and BUSY are about
the call that is there, and where no `+CLIP` comes late, a call stays until its own end, and an incoming
call is reported once at most (`call_owned`).
-/

namespace Svarla.ModemGateway

open Svarla.Lib

/-- The call goes on: it is the same, and keeps what it has got. -/
structure ActiveCall.Continues (call call' : ActiveCall) : Prop where
  callID : call'.callID = call.callID
  line : call'.line = call.line
  direction : call'.direction = call.direction
  caller : call.caller ≠ "" → call'.caller = call.caller
  answered : call.answered = true → call'.answered = true
  bridge : call.bridge ≠ none → call'.bridge ≠ none

theorem ActiveCall.Continues.refl (call : ActiveCall) : call.Continues call :=
  ⟨rfl, rfl, rfl, fun _ => rfl, id, id⟩

/-- The call is there as it was, with the timer of its report. -/
structure Gateway.Keeps (g g' : Gateway) (call : ActiveCall) : Prop where
  there : ∃ call', g'.cm.call = some call' ∧ call.Continues call'
  ringing : g'.cm.ringing = g.cm.ringing
  timer : call.callID ∈ g.timers → call.callID ∈ g'.timers

/-- The operation is about the call. What is lost, and a shutdown, is about any call. -/
def Op.BelongsTo (call : ActiveCall) : Op → Prop
  | dial callID _ => callID = call.callID
  | ata callID _ => callID = call.callID
  | endCall callID => callID = call.callID
  | noCarrier line => line = call.line
  | busy line => line = call.line
  | modemLost => True
  | disconnect => True
  | shutdown => True
  | _ => False

/-- What an operation stands for: a call that is to be made or answered, with the call that a command is
under way for, or a report of an incoming call. -/
inductive Trace
  | request (command : Option String)
  | announces (callID : String)
  deriving DecidableEq, Repr

def Op.trace : Op → Option Trace
  | makeCall _ => some (.request none)
  | answerCall _ => some (.request none)
  | dial callID _ => some (.request (some callID))
  | ata callID _ => some (.request (some callID))
  | emitIncomingCall callID => some (.announces callID)
  | send (.incomingCall callID _) => some (.announces callID)
  | _ => none

/-- The call for which an operation has the result of ATD or ATA. -/
def Op.underWay (op : Op) : Option String :=
  match op.trace with
  | some (.request command) => command
  | _ => none

/-- What follows from an operation. -/
def traces (d : Done Gateway Op) : List Trace := (d.next ++ d.spawned.flatten).filterMap Op.trace

/-- The `+CLIP` comes for a call whose report was sent without the caller. -/
def Late (g : Gateway) : Prop :=
  ∃ call ∈ g.cm.call, call.direction = .inbound ∧ call.caller = "" ∧ g.cm.ringing = true ∧
    g.cm.reportSent = true

instance (g : Gateway) : Decidable (Late g) :=
  match h : g.cm.call with
  | none => .isFalse fun ⟨_, hcall, _⟩ => by simp [h] at hcall
  | some call => decidable_of_iff (call.direction = .inbound ∧ call.caller = "" ∧
      g.cm.ringing = true ∧ g.cm.reportSent = true) (by simp [Late, h])

/-- What an operation does. -/
inductive Turn (g : Gateway) (op : Op) (d : Done Gateway Op) : Prop
  /-- The call stays. -/
  | keeps (there : ∀ call, g.cm.call = some call → g.Keeps d.shared call)
      (free : g.cm.call = none → d.shared.cm.call = none) (timers : d.shared.timers = g.timers)
      (seq : d.shared.cm.callIDSeq = g.cm.callIDSeq)
      (sent : d.shared.sent = g.sent ∨ ∃ m, op = .send m ∧ d.shared.sent = g.sent ++ [m])
      (traces : traces d = [] ∨
        ∃ callID, op = .emitIncomingCall callID ∧ traces d = [.announces callID])
  /-- A call is to be answered. -/
  | answers (payload : AnswerCallPayload) (isAnswer : op = .answerCall payload) (call : ActiveCall)
      (there : g.cm.call = some call) (callID : call.callID = payload.callID)
      (keeps : g.Keeps d.shared call) (timers : d.shared.timers = g.timers)
      (seq : d.shared.cm.callIDSeq = g.cm.callIDSeq) (sent : d.shared.sent = g.sent)
      (spawned : d.spawned = []) (traces : traces d = [.request (some payload.callID)])
  /-- The call is taken, if there is one. -/
  | takes (taken : d.shared.cm.call = none)
      (why : ∀ call, g.cm.call = some call →
        op.BelongsTo call ∨
          (∃ callID, op.underWay = some callID ∧ (callID = call.callID → op.BelongsTo call)) ∨
          ∃ line, (op = .noCarrier line ∨ op = .busy line) ∧ (line = call.line → op.BelongsTo call))
      (timers : ∀ callID, d.shared.timers.count callID ≤ g.timers.count callID)
      (seq : d.shared.cm.callIDSeq = g.cm.callIDSeq) (sent : d.shared.sent = g.sent)
      (traces : traces d = [])
  /-- A call is made, or comes. -/
  | makes (payload : MakeCallPayload) (isMake : op = .makeCall payload) (free : g.cm.call = none)
      (call : ActiveCall) (there : d.shared.cm.call = some call)
      (timers : d.shared.timers = g.timers) (seq : g.cm.callIDSeq ≤ d.shared.cm.callIDSeq)
      (sent : d.shared.sent = g.sent) (spawned : d.spawned = [])
      (traces : traces d = [.request (some call.callID)])
  | rings (line : Nat) (isRing : op = .ring line) (free : g.cm.call = none)
      (silent : g.cm.ringing = false) (connected : g.connected = true)
      (timers : d.shared.timers = g.generateCallID :: g.timers)
      (seq : d.shared.cm.callIDSeq = g.cm.callIDSeq + 1) (sent : d.shared.sent = g.sent)
      (traces : traces d = [])
  /-- An incoming call is reported again. -/
  | late (line : Nat) (data : String) (isClip : op = .clip line data) (late : Late g)

namespace Calls

variable {s t : Calls} {r : Reply} {op : Op} {d : Done Gateway Op} {callID : String}
  {call : ActiveCall}

/-- A step that takes no call but its own: a RING does not bring a call while a command for an earlier
one is under way, NO CARRIER and BUSY are about the call that is there, and a `+CLIP` is not late. -/
def Rightful (s : Calls) : Op → Prop
  | .ring _ =>
    s.shared.cm.call = none ∧ s.shared.cm.ringing = false ∧ s.shared.connected = true →
      ∀ op ∈ s.pending, op.underWay = none
  | .noCarrier line => ∀ call ∈ s.shared.cm.call, line = call.line
  | .busy line => ∀ call ∈ s.shared.cm.call, line = call.line
  | .clip _ _ => ¬ Late s.shared
  | _ => True

instance (s : Calls) : (op : Op) → Decidable (s.Rightful op)
  | .ring _ => inferInstanceAs (Decidable (_ → _))
  | .noCarrier line | .busy line =>
    inferInstanceAs (Decidable (∀ call ∈ s.shared.cm.call, line = call.line))
  | .clip _ _ => inferInstanceAs (Decidable (¬ _))
  | .makeCall _ | .answerCall _ | .endCall _ | .dial _ _ | .ata _ _ | .markAnswered _ | .hangup
  | .hangupATH | .complete _ _ | .closeInBackground _ | .voiceCall _ _ | .emitIncomingCall _
  | .modemLost | .disconnect | .shutdown | .send _ | .openAudio _ | .connect _ | .stream _ _
  | .keepBridge _ _ | .audio _ => .isTrue trivial

/-- The step takes no call but its own, if it is one of a handler. -/
def Respectful (s : Calls) : Event → Prop
  | .run i _ => ∀ op ∈ s.head i, s.Rightful op
  | _ => True

instance (s : Calls) : (e : Event) → Decidable (s.Respectful e)
  | .run i _ => inferInstanceAs (Decidable (∀ op ∈ s.head i, s.Rightful op))
  | .message _ | .urc _ _ | .fire _ | .connected | .disconnected | .modemLost | .shutdown | .wait _
  | .bridgeLoopEnds _ _ | .pcmLoopEnds _ => .isTrue trivial

/-! ## The call that is there -/

/-- The call stays as it is. -/
theorem keeps_of_eq {g g' : Gateway} (hcall : g.cm.call = some call)
    (hcm : g'.cm.call = g.cm.call) (hringing : g'.cm.ringing = g.cm.ringing)
    (htimers : g'.timers = g.timers) : g.Keeps g' call :=
  ⟨⟨call, hcm.trans hcall, .refl call⟩, hringing, fun h => htimers ▸ h⟩

theorem traces_eq_nil {next : List Op} {g : Gateway} (h : next.filterMap Op.trace = []) :
    traces ⟨g, next, []⟩ = [] := by
  rw [traces, List.flatten_nil, List.append_nil, h]

/-- The call stays as it is, and nothing is to be reported. -/
theorem turn_of_silent {g g' : Gateway} {next : List Op} (hcm : g'.cm.call = g.cm.call)
    (hringing : g'.cm.ringing = g.cm.ringing) (htimers : g'.timers = g.timers)
    (hseq : g'.cm.callIDSeq = g.cm.callIDSeq) (hsent : g'.sent = g.sent)
    (hnext : next.filterMap Op.trace = []) : Turn g op ⟨g', next, []⟩ :=
  .keeps (fun _ hcall => keeps_of_eq hcall hcm hringing htimers) (fun hfree => hcm.trans hfree)
    htimers hseq (.inl hsent) (.inl (traces_eq_nil hnext))

/-- The call goes on with something new. -/
theorem turn_of_update {g g' : Gateway} {call' : ActiveCall} {next : List Op}
    (hcall : g.cm.call = some call) (hcall' : g'.cm.call = some call')
    (hgoes : call.Continues call') (hringing : g'.cm.ringing = g.cm.ringing)
    (htimers : g'.timers = g.timers) (hseq : g'.cm.callIDSeq = g.cm.callIDSeq)
    (hsent : g'.sent = g.sent) (hnext : next.filterMap Op.trace = []) :
    Turn g op ⟨g', next, []⟩ := by
  refine .keeps (fun c hc => ?_) (fun hfree => ?_) htimers hseq (.inl hsent)
    (.inl (traces_eq_nil hnext))
  · obtain rfl : call = c := Option.some.inj (hcall.symm.trans hc)
    exact ⟨⟨call', hcall', hgoes⟩, hringing, fun h => htimers ▸ h⟩
  · cases hcall.symm.trans hfree

theorem count_timers_dropCall (g : Gateway) (callID : String) :
    g.dropCall.timers.count callID ≤ g.timers.count callID := by
  unfold Gateway.dropCall Gateway.stopReportTimer
  cases g.cm.reportTimer with
  | none => exact Nat.le_refl _
  | some c => exact List.Sublist.count_le _ List.erase_sublist

/-- A call is taken by an operation that belongs to it. -/
theorem turn_of_dropCall {g : Gateway} {next : List Op} (hcall : g.cm.call = some call)
    (hwhy : op.BelongsTo call) (hnext : next.filterMap Op.trace = []) :
    Turn g op ⟨g.dropCall, next, []⟩ := by
  refine .takes rfl (fun c hc => .inl ?_) (count_timers_dropCall g) rfl rfl (traces_eq_nil hnext)
  obtain rfl : call = c := Option.some.inj (hcall.symm.trans hc)
  exact hwhy

/-- **What an operation does to the call.** -/
theorem run_turn {g : Gateway} (hrun : g.run r op = some d) : Turn g op d := by
  cases op with
  | makeCall payload =>
    cases hcall : g.cm.call with
    | none =>
      simp only [Gateway.run, hcall, Gateway.goOn, Option.some.injEq] at hrun
      subst hrun
      refine .makes payload rfl hcall _ rfl rfl ?_ rfl rfl rfl
      simp only [Gateway.place]
      split <;> omega
    | some call =>
      simp only [Gateway.run, hcall, Gateway.goOn, Option.some.injEq] at hrun
      subst hrun
      exact turn_of_silent rfl rfl rfl rfl rfl rfl
  | answerCall payload =>
    cases hcall : g.cm.call with
    | none =>
      simp only [Gateway.run, hcall, Gateway.goOn, Option.some.injEq] at hrun
      subst hrun
      exact turn_of_silent rfl rfl rfl rfl rfl rfl
    | some call =>
      simp only [Gateway.run, hcall, Gateway.goOn] at hrun
      split at hrun
      · cases hrun
        exact turn_of_silent rfl rfl rfl rfl rfl rfl
      · next hid =>
        split at hrun <;> cases hrun
        · exact turn_of_silent rfl rfl rfl rfl rfl rfl
        · exact .answers payload rfl call hcall (not_not.mp hid)
            ⟨⟨_, rfl, ⟨rfl, rfl, rfl, fun _ => rfl, id, id⟩⟩, rfl, id⟩ rfl rfl rfl rfl rfl
  | dial callID requestID =>
    cases herror : r.error with
    | none =>
      simp only [Gateway.run, herror, Gateway.goOn, Option.some.injEq] at hrun
      subst hrun
      exact turn_of_silent (by rw [Gateway.cm_settle]) (by rw [Gateway.cm_settle])
        (Gateway.timers_settle ..) (by rw [Gateway.cm_settle]) (Gateway.sent_settle ..)
        (by rw [List.filterMap_append, Gateway.filterMap_sendAck fun _ _ => rfl]; rfl)
    | some err =>
      simp only [Gateway.run, herror, Gateway.goOn, Option.some.injEq] at hrun
      subst hrun
      refine .takes rfl (fun call _ => .inr (.inl ⟨callID, rfl, id⟩))
        (fun c => Nat.le_of_eq (by rw [Gateway.timers_settle])) (by rw [Gateway.cm_settle])
        (Gateway.sent_settle ..) (traces_eq_nil ?_)
      split <;> rfl
  | ata callID requestID =>
    cases herror : r.error with
    | none =>
      simp only [Gateway.run, herror, Gateway.goOn, Option.some.injEq] at hrun
      subst hrun
      exact turn_of_silent (by rw [Gateway.cm_settle]) (by rw [Gateway.cm_settle])
        (Gateway.timers_settle ..) (by rw [Gateway.cm_settle]) (Gateway.sent_settle ..)
        (by rw [List.filterMap_append, Gateway.filterMap_sendAck fun _ _ => rfl]; rfl)
    | some err =>
      simp only [Gateway.run, herror, Gateway.goOn, Option.some.injEq] at hrun
      subst hrun
      refine .takes rfl (fun call _ => .inr (.inl ⟨callID, rfl, id⟩)) (fun c => ?_)
        (congrArg CallManager.callIDSeq (Gateway.cm_settle ..) :) (Gateway.sent_settle ..)
        (traces_eq_nil rfl)
      exact (count_timers_dropCall ..).trans (Nat.le_of_eq (by rw [Gateway.timers_settle]))
  | markAnswered callID =>
    cases hcall : g.cm.call with
    | none =>
      simp only [Gateway.run, hcall, Gateway.goOn, Option.some.injEq] at hrun
      subst hrun
      exact turn_of_silent rfl rfl rfl rfl rfl rfl
    | some call =>
      simp only [Gateway.run, hcall, Gateway.goOn] at hrun
      split at hrun <;> cases hrun
      · exact turn_of_update hcall rfl ⟨rfl, rfl, rfl, fun _ => rfl, fun _ => rfl, id⟩ rfl rfl rfl
          rfl rfl
      · exact turn_of_silent rfl rfl rfl rfl rfl rfl
  | endCall callID =>
    cases hcall : g.cm.call with
    | none =>
      simp only [Gateway.run, hcall, Gateway.goOn, Option.some.injEq] at hrun
      subst hrun
      exact turn_of_silent rfl rfl rfl rfl rfl rfl
    | some call =>
      simp only [Gateway.run, hcall, Gateway.goOn] at hrun
      split at hrun
      · cases hrun
        exact turn_of_silent rfl rfl rfl rfl rfl rfl
      · next hid =>
        cases hrun
        exact turn_of_dropCall hcall (not_not.mp hid).symm rfl
  | hangup | hangupATH =>
    simp only [Gateway.run, Gateway.goOn, Option.some.injEq] at hrun
    subst hrun
    refine turn_of_silent (by rw [Gateway.cm_hungUp]) (by rw [Gateway.cm_hungUp])
      (Gateway.timers_hungUp ..) (by rw [Gateway.cm_hungUp]) (Gateway.sent_hungUp ..) ?_
    first | rfl | (split <;> rfl)
  | complete call reason =>
    simp only [Gateway.run, Gateway.goOn, Option.some.injEq] at hrun
    subst hrun
    exact turn_of_silent rfl rfl rfl rfl rfl rfl
  | closeInBackground call =>
    simp only [Gateway.run, Option.some.injEq] at hrun
    subst hrun
    refine .keeps (fun _ hcall => keeps_of_eq hcall rfl rfl rfl) id rfl rfl (.inl rfl) (.inl ?_)
    rw [traces, List.nil_append, List.flatten_singleton, Gateway.filterMap_closeAudio fun _ => rfl]
  | voiceCall line data =>
    cases hcall : g.cm.call with
    | none =>
      simp only [Gateway.run, hcall, Gateway.goOn, Option.some.injEq] at hrun
      subst hrun
      exact turn_of_silent rfl rfl rfl rfl rfl rfl
    | some call =>
      simp only [Gateway.run, hcall, Gateway.goOn] at hrun
      split at hrun <;> cases hrun
      · exact turn_of_silent rfl rfl rfl rfl rfl rfl
      · exact turn_of_update hcall rfl ⟨rfl, rfl, rfl, fun _ => rfl, fun _ => rfl, id⟩ rfl rfl rfl
          rfl rfl
  | ring line =>
    simp only [Gateway.run, Gateway.goOn] at hrun
    split at hrun
    · cases hrun
      exact turn_of_silent rfl rfl rfl rfl rfl rfl
    · next hfree =>
      obtain ⟨hcall, hsilent⟩ := not_or.mp hfree
      split at hrun
      · cases hrun
        exact turn_of_silent rfl rfl rfl rfl rfl rfl
      · next hconnected =>
        cases hrun
        exact .rings line rfl (not_not.mp hcall) (Bool.eq_false_iff.mpr hsilent)
          (not_not.mp hconnected) rfl rfl rfl (traces_eq_nil rfl)
  | clip line data =>
    cases hcall : g.cm.call with
    | none =>
      simp only [Gateway.run, hcall, Gateway.goOn, Option.some.injEq] at hrun
      subst hrun
      exact turn_of_silent hcall.symm rfl rfl rfl rfl rfl
    | some call =>
      simp only [Gateway.run, hcall, Gateway.goOn] at hrun
      split at hrun
      · next hwaits =>
        cases hrun
        by_cases hsent : g.cm.reportSent = true
        · exact .late line data rfl ⟨call, hcall, hwaits.1, hwaits.2.1, hwaits.2.2, hsent⟩
        · rw [if_neg hsent]
          refine turn_of_update hcall rfl ⟨rfl, rfl, rfl, fun hc => absurd hwaits.2.1 hc, id, id⟩
            rfl rfl rfl rfl rfl
      · cases hrun
        exact turn_of_silent hcall.symm rfl rfl rfl rfl rfl
  | emitIncomingCall callID =>
    cases hcall : g.cm.call with
    | none =>
      simp only [Gateway.run, hcall, Gateway.goOn, Option.some.injEq] at hrun
      subst hrun
      exact turn_of_silent rfl rfl rfl rfl rfl rfl
    | some call =>
      simp only [Gateway.run, hcall, Gateway.goOn] at hrun
      split at hrun <;> cases hrun
      · exact turn_of_silent rfl rfl rfl rfl rfl rfl
      · exact .keeps (fun _ hcall' => keeps_of_eq hcall' hcall.symm rfl rfl)
          (fun hfree => hcall.symm.trans hfree) rfl rfl (.inl rfl) (.inr ⟨callID, rfl, rfl⟩)
  | noCarrier line | busy line =>
    cases hcall : g.cm.call with
    | none =>
      simp only [Gateway.run, hcall, Gateway.goOn, Option.some.injEq] at hrun
      subst hrun
      exact turn_of_silent rfl rfl rfl rfl rfl rfl
    | some call =>
      simp only [Gateway.run, hcall, Gateway.goOn, Option.some.injEq] at hrun
      subst hrun
      refine .takes rfl (fun _ _ => .inr (.inr ⟨line, ?_, id⟩)) (count_timers_dropCall g) rfl rfl
        (traces_eq_nil ?_)
      · first | exact .inl rfl | exact .inr rfl
      · first
        | rfl
        | rw [List.filterMap_append, Gateway.filterMap_closeAudio fun _ => rfl]; rfl
  | modemLost | shutdown =>
    cases hcall : g.cm.call with
    | none =>
      simp only [Gateway.run, hcall, Gateway.goOn, Option.some.injEq] at hrun
      subst hrun
      exact turn_of_silent rfl rfl rfl rfl rfl rfl
    | some call =>
      simp only [Gateway.run, hcall, Gateway.goOn, Option.some.injEq] at hrun
      subst hrun
      refine turn_of_dropCall hcall trivial ?_
      rw [List.filterMap_append, Gateway.filterMap_closeAudio fun _ => rfl]
      rfl
  | disconnect =>
    cases hcall : g.cm.call with
    | none =>
      simp only [Gateway.run, hcall, Gateway.goOn, Option.some.injEq] at hrun
      subst hrun
      exact turn_of_silent rfl rfl rfl rfl rfl rfl
    | some call =>
      simp only [Gateway.run, hcall, Gateway.goOn] at hrun
      split at hrun <;> cases hrun
      · refine turn_of_dropCall hcall trivial ?_
        rw [List.filterMap_append, Gateway.filterMap_closeAudio fun _ => rfl]
        rfl
      · exact turn_of_silent rfl rfl rfl rfl rfl rfl
  | send m =>
    simp only [Gateway.run, Gateway.goOn, Option.some.injEq] at hrun
    subst hrun
    split
    · exact .keeps (fun _ hcall => keeps_of_eq hcall rfl rfl rfl) id rfl rfl (.inr ⟨m, rfl, rfl⟩)
        (.inl (traces_eq_nil rfl))
    · exact turn_of_silent rfl rfl rfl rfl rfl rfl
  | openAudio callID =>
    cases hcall : g.cm.call with
    | none =>
      simp only [Gateway.run, hcall, Gateway.goOn, Option.some.injEq] at hrun
      subst hrun
      exact turn_of_silent rfl rfl rfl rfl rfl rfl
    | some call =>
      simp only [Gateway.run, hcall, Gateway.goOn] at hrun
      split at hrun <;> cases hrun <;> exact turn_of_silent rfl rfl rfl rfl rfl rfl
  | connect callID | stream callID b =>
    simp only [Gateway.run, Gateway.goOn] at hrun
    split at hrun <;> cases hrun <;> exact turn_of_silent rfl rfl rfl rfl rfl rfl
  | keepBridge callID b =>
    cases hcall : g.cm.call with
    | none =>
      simp only [Gateway.run, hcall, Gateway.goOn, Option.some.injEq] at hrun
      subst hrun
      exact turn_of_silent rfl rfl rfl rfl rfl rfl
    | some call =>
      simp only [Gateway.run, hcall, Gateway.goOn] at hrun
      split at hrun <;> cases hrun
      · exact turn_of_update hcall rfl
          ⟨rfl, rfl, rfl, fun _ => rfl, id, fun _ => Option.some_ne_none b⟩ rfl rfl
          rfl rfl rfl
      · exact turn_of_silent rfl rfl rfl rfl rfl rfl
  | audio op =>
    obtain ⟨⟨audio, next⟩, -, rfl⟩ := Option.map_eq_some_iff.mp hrun
    exact turn_of_silent rfl rfl rfl rfl rfl (Gateway.filterMap_audio (fun _ => rfl) next)

/-! ## Commands under way -/

/-- How many calls are to be made or answered, with those for which a command is under way. -/
def requests (ops : List Op) : Nat := (ops.filterMap Op.trace).countP (· matches .request _)

theorem requests_append (xs ys : List Op) : requests (xs ++ ys) = requests xs + requests ys := by
  rw [requests, List.filterMap_append, List.countP_append, requests, requests]

theorem requests_cons (op : Op) (ops : List Op) :
    requests (op :: ops) = requests [op] + requests ops :=
  requests_append [op] ops

theorem trace_of_underWay (hcommand : op.underWay = some callID) :
    op.trace = some (.request (some callID)) := by
  unfold Op.underWay at hcommand
  split at hcommand
  · next command hop => rw [hop, hcommand]
  · cases hcommand

/-- A command under way is one that was asked for. -/
theorem requests_pos {ops : List Op} (hop : op ∈ ops) (hcommand : op.underWay = some callID) :
    0 < requests ops :=
  List.countP_pos_iff.mpr
    ⟨_, List.mem_filterMap.mpr ⟨op, hop, trace_of_underWay hcommand⟩, rfl⟩

/-- The server asks for one thing after the other, and a command under way is for the call that is
there, if there is one. -/
structure Commanded (s : Calls) : Prop where
  one : ∀ i thread, s.threads[i]? = some thread → requests thread ≤ if i = 0 then 1 else 0
  own : ∀ op ∈ s.pending, ∀ callID, op.underWay = some callID →
    ∀ call, s.shared.cm.call = some call → callID = call.callID

/-- What an operation asks for. -/
theorem requests_after (hturn : Turn s.shared op d) (hrightful : s.Rightful op) :
    requests d.next ≤ requests [op] ∧ requests d.spawned.flatten = 0 := by
  have htraces : requests d.next + requests d.spawned.flatten =
      (traces d).countP fun trace => trace matches .request _ := by
    rw [← requests_append, traces, requests]
  cases hturn with
  | keeps _ _ _ _ _ h =>
    obtain h | ⟨_, -, h⟩ := h <;> simp only [h, List.countP_nil, List.countP_singleton] at htraces
    · omega
    · exact ⟨by simp at htraces; omega, by simp at htraces; omega⟩
  | answers _ hop _ _ _ _ _ _ _ hspawned h | makes _ hop _ _ _ _ _ _ hspawned h =>
    subst hop
    rw [h, hspawned] at htraces
    rw [hspawned]
    exact ⟨Nat.le_of_eq htraces, rfl⟩
  | takes _ _ _ _ _ h | rings _ _ _ _ _ _ _ _ h =>
    rw [h, List.countP_nil] at htraces
    omega
  | late _ _ hop hlate =>
    subst hop
    exact absurd hlate hrightful

section

variable {i : Nat} {rest : List Op} (h : s.Commanded) (hthread : s.threads[i]? = some (op :: rest))

include h hthread

theorem Commanded.one_after (hnext : requests d.next ≤ requests [op])
    (hspawned : requests d.spawned.flatten = 0) (j : Nat) (thread : List Op)
    (hj : (s.after i d rest).threads[j]? = some thread) :
    requests thread ≤ if j = 0 then 1 else 0 := by
  have hi := h.one i _ hthread
  rw [requests_cons] at hi
  rw [Handlers.after, List.getElem?_append] at hj
  split at hj
  · obtain ⟨rfl, rfl⟩ | ⟨-, hj⟩ := of_getElem?_set hj
    · rw [requests_append]
      omega
    · exact h.one j thread hj
  · have hle : requests thread ≤ requests d.spawned.flatten :=
      ((List.sublist_flatten_of_mem (List.mem_of_getElem? hj)).filterMap _).countP_le
    omega

/-- Where a call is made, no command is under way. -/
theorem Commanded.eq_of_underWay (hop : requests [op] = 1) {x : Op} (hx : x ∈ s.pending)
    (hcommand : x.underWay = some callID) : x = op := by
  by_contra hne
  obtain ⟨thread, hmem, hx⟩ := List.mem_flatten.mp hx
  obtain ⟨j, hj⟩ := List.mem_iff_getElem?.mp hmem
  have hi := h.one i _ hthread
  have hone := h.one j _ hj
  rw [requests_cons, hop] at hi
  have hpos := requests_pos hx hcommand
  have hij : j = i := by
    by_contra hij
    split at hi <;> split at hone <;> omega
  subst hij
  obtain rfl : thread = op :: rest := Option.some.inj (hj.symm.trans hthread)
  have hrest := requests_pos ((List.mem_cons.mp hx).resolve_left hne) hcommand
  split at hi <;> omega

/-- What an operation does keeps the commands in order. -/
theorem Commanded.run (hturn : Turn s.shared op d) (hrightful : s.Rightful op) :
    Commanded (s.after i d rest) := by
  obtain ⟨hnext, hspawned⟩ := requests_after hturn hrightful
  refine ⟨h.one_after hthread hnext hspawned, fun x hx callID hcommand call hcall => ?_⟩
  rw [Handlers.shared_after] at hcall
  have hmem : x ∈ d.next ++ d.spawned.flatten ∨ x ∈ s.pending := by
    obtain hx | hx | hx := Handlers.of_mem_pending_after hthread hx
    · exact .inl (List.mem_append_left _ hx)
    · exact .inl (List.mem_append_right _ hx)
    · exact .inr hx
  have htrace := trace_of_underWay hcommand
  have hin : ∀ ops, traces d = ops → x ∈ d.next ++ d.spawned.flatten →
      Trace.request (some callID) ∈ ops := fun ops hops hx =>
    hops ▸ List.mem_filterMap.mpr ⟨x, hx, htrace⟩
  cases hturn with
  | keeps hthere hfree _ _ _ htraces =>
    obtain hx | hx := hmem
    · obtain htraces | ⟨_, -, htraces⟩ := htraces
      · exact absurd (hin _ htraces hx) List.not_mem_nil
      · exact absurd (hin _ htraces hx) (by simp)
    · cases hold : s.shared.cm.call with
      | none => cases (hfree hold).symm.trans hcall
      | some call₀ =>
        obtain ⟨⟨call', hcall', hgoes⟩, -, -⟩ := hthere call₀ hold
        obtain rfl : call' = call := Option.some.inj (hcall'.symm.trans hcall)
        rw [h.own x hx callID hcommand call₀ hold, hgoes.callID]
  | answers payload hop call₀ hold hid hkeeps _ _ _ _ htraces =>
    obtain ⟨⟨call', hcall', hgoes⟩, -, -⟩ := hkeeps
    obtain rfl : call' = call := Option.some.inj (hcall'.symm.trans hcall)
    rw [hgoes.callID]
    obtain hx | hx := hmem
    · have := hin _ htraces hx
      simp only [List.mem_singleton, Trace.request.injEq, Option.some.injEq] at this
      rw [this, hid]
    · exact h.own x hx callID hcommand call₀ hold
  | takes htaken => cases htaken.symm.trans hcall
  | makes payload hop hfree call₀ hthere _ _ _ _ htraces =>
    obtain rfl : call₀ = call := Option.some.inj (hthere.symm.trans hcall)
    obtain hx | hx := hmem
    · have := hin _ htraces hx
      simpa using this
    · subst hop
      cases h.eq_of_underWay hthread rfl hx hcommand
      cases hcommand
  | rings line hop hfree hsilent hconnected _ _ _ htraces =>
    subst hop
    obtain hx | hx := hmem
    · exact absurd (hin _ htraces hx) List.not_mem_nil
    · cases (hrightful ⟨hfree, hsilent, hconnected⟩ x hx).symm.trans hcommand
  | late _ _ hop hlate =>
    subst hop
    exact absurd hlate hrightful

end

/-! ## Announcements -/

/-- The message announces the incoming call. -/
def announces (callID : String) : Message → Bool
  | .incomingCall c _ => c = callID
  | _ => false

/-- The announcements of a call that were made, and those that may come: its timer, and the handlers that
have it to do. -/
def announced (s : Calls) (callID : String) : Nat :=
  s.shared.timers.count callID + s.pending.countP (·.trace = some (.announces callID)) +
    s.shared.sent.countP (announces callID)

/-- A call is announced once, and not before it has come. -/
structure Once (s : Calls) : Prop where
  once : ∀ callID, s.announced callID ≤ 1
  known : ∀ callID, s.announced callID ≠ 0 →
    ∃ ms seq, seq ≤ s.shared.cm.callIDSeq ∧ callID = Gateway.callIDOf ms seq

theorem Once.mono (h : s.Once) (hle : ∀ callID, t.announced callID ≤ s.announced callID)
    (hseq : s.shared.cm.callIDSeq ≤ t.shared.cm.callIDSeq) : t.Once := by
  refine ⟨fun callID => (hle callID).trans (h.once callID), fun callID hne => ?_⟩
  have := hle callID
  obtain ⟨ms, seq, hknown, hid⟩ := h.known callID (by omega)
  exact ⟨ms, seq, hknown.trans hseq, hid⟩

theorem Once.run (h : s.Once) {i : Nat} {rest : List Op}
    (hthread : s.threads[i]? = some (op :: rest)) (hturn : Turn s.shared op d)
    (hrightful : s.Rightful op) : Once (s.after i d rest) := by
  have hpending : ∀ callID,
      (s.after i d rest).pending.countP (·.trace = some (.announces callID)) +
          [op].countP (·.trace = some (.announces callID)) =
        s.pending.countP (·.trace = some (.announces callID)) +
          (traces d).count (.announces callID) := by
    intro callID
    rw [Handlers.countP_pending_after hthread, ← List.countP_append, traces, List.count_filterMap]
    simp only [beq_eq_decide]
  -- Where the timers and the messages are what they were, nothing comes but from an announcement.
  have hless : ∀ callID, d.shared.timers.count callID ≤ s.shared.timers.count callID →
      d.shared.sent.countP (announces callID) + (traces d).count (.announces callID) ≤
        s.shared.sent.countP (announces callID) +
          [op].countP (·.trace = some (.announces callID)) →
      announced (s.after i d rest) callID ≤ s.announced callID := by
    intro callID htimers hsent
    have := hpending callID
    rw [announced, announced, Handlers.shared_after]
    omega
  cases hturn with
  | keeps _ _ htimers hseq hsent htraces =>
    refine h.mono (fun callID => hless callID (by rw [htimers]) ?_) (Nat.le_of_eq hseq.symm)
    obtain hsent | ⟨m, rfl, hsent⟩ := hsent
    · rw [hsent]
      obtain htraces | ⟨c, rfl, htraces⟩ := htraces
      · simp [htraces]
      · by_cases hc : c = callID <;> simp [htraces, Op.trace, hc]
    · obtain htraces | ⟨c, hop, -⟩ := htraces
      · rw [hsent, htraces, List.countP_append]
        cases m with
        | incomingCall c caller =>
          by_cases hc : c = callID <;> simp [announces, Op.trace, hc]
        | _ => simp [announces]
      · cases hop
  | answers payload hop _ _ _ _ htimers hseq hsent _ htraces =>
    refine h.mono (fun callID => hless callID (by rw [htimers]) ?_) (Nat.le_of_eq hseq.symm)
    rw [hsent, htraces]
    simp
  | takes _ _ htimers hseq hsent htraces =>
    refine h.mono (fun callID => hless callID (htimers callID) ?_) (Nat.le_of_eq hseq.symm)
    rw [hsent, htraces]
    simp
  | makes payload hop _ call _ htimers hseq hsent _ htraces =>
    refine h.mono (fun callID => hless callID (by rw [htimers]) ?_) hseq
    rw [hsent, htraces]
    simp
  | rings line hop _ _ _ htimers hseq hsent htraces =>
    have hsame : ∀ callID, announced (s.after i d rest) callID =
        s.announced callID + if callID = s.shared.generateCallID then 1 else 0 := by
      intro callID
      have hnone : [op].countP (·.trace = some (.announces callID)) = 0 := by
        simp [hop, Op.trace]
      have := hpending callID
      rw [htraces, hnone, List.count_nil] at this
      rw [announced, announced, Handlers.shared_after, htimers, hsent, List.count_cons]
      by_cases hid : callID = s.shared.generateCallID
      · simp only [hid, beq_self_eq_true, if_true] at this ⊢
        omega
      · have hid' := Ne.symm hid
        simp only [hid, beq_iff_eq, hid', if_false]
        omega
    have hnew : s.announced s.shared.generateCallID = 0 := by
      by_contra hne
      obtain ⟨ms, seq, hle, hid⟩ := h.known _ hne
      have := Gateway.seq_of_callIDOf hid
      omega
    refine ⟨fun callID => ?_, fun callID hne => ?_⟩
    · rw [hsame]
      split
      · next hid => rw [hid, hnew]
      · exact h.once callID
    · rw [hsame] at hne
      rw [Handlers.shared_after, hseq]
      by_cases hid : callID = s.shared.generateCallID
      · exact ⟨_, _, Nat.le_refl _, hid⟩
      · rw [if_neg hid] at hne
        obtain ⟨ms, seq, hle, hknown⟩ := h.known callID (by simpa using hne)
        exact ⟨ms, seq, by omega, hknown⟩
  | late _ _ hop hlate =>
    subst hop
    exact absurd hlate hrightful

/-! ## Runs -/

/-- **The invariant.** -/
structure InHand (s : Calls) : Prop where
  commanded : s.Commanded
  once : s.Once

theorem init_inHand (connected : Bool) (now : Nat) : (init connected now).InHand := by
  refine ⟨⟨fun i thread hthread => ?_, nofun⟩, ⟨fun _ => Nat.zero_le _, fun _ hne => ?_⟩⟩
  · cases i with
    | zero =>
      cases hthread
      exact Nat.zero_le _
    | succ i => cases hthread
  · exact absurd rfl hne

/-- A handler is started that asks for nothing. -/
theorem InHand.starts (h : s.InHand) {g : Gateway} {thread : List Op} (hcm : g.cm = s.shared.cm)
    (hrequests : requests thread = 0)
    (hannounced : ∀ callID, g.timers.count callID +
        thread.countP (·.trace = some (.announces callID)) + g.sent.countP (announces callID) ≤
      s.shared.timers.count callID + s.shared.sent.countP (announces callID)) :
    InHand (s.start g thread) := by
  obtain ⟨⟨hone, hown⟩, honce⟩ := h
  refine ⟨⟨fun i t ht => ?_, fun op hop callID hcommand => ?_⟩, honce.mono (fun callID => ?_) ?_⟩
  · obtain ht | ⟨-, rfl⟩ := of_getElem?_concat ht
    · exact hone i t ht
    · rw [hrequests]
      exact Nat.zero_le _
  · rw [start, hcm]
    rw [Handlers.pending, start, List.flatten_append, List.flatten_singleton] at hop
    obtain hop | hop := List.mem_append.mp hop
    · exact hown op hop callID hcommand
    · exact absurd hrequests (Nat.ne_of_gt (requests_pos hop hcommand))
  · have := hannounced callID
    rw [announced, announced, start, Handlers.pending, List.flatten_append,
      List.flatten_singleton, List.countP_append, Handlers.pending]
    dsimp only
    omega
  · exact Nat.le_of_eq (congrArg CallManager.callIDSeq hcm.symm)

theorem InHand.sets (h : s.InHand) {g : Gateway} (hcm : g.cm = s.shared.cm)
    (htimers : g.timers = s.shared.timers) (hsent : g.sent = s.shared.sent) :
    InHand { s with shared := g } := by
  obtain ⟨⟨hone, hown⟩, honce⟩ := h
  refine ⟨⟨hone, fun op hop callID hcommand => ?_⟩, honce.mono (fun callID => ?_) ?_⟩
  · rw [hcm]
    exact hown op hop callID hcommand
  · rw [announced, announced, htimers, hsent]
    exact Nat.le_refl _
  · exact Nat.le_of_eq (congrArg CallManager.callIDSeq hcm.symm)

theorem requests_handle (request : Request) : requests request.handle ≤ 1 := by
  refine List.countP_le_length.trans ((List.length_filterMap_le ..).trans ?_)
  cases request <;> exact Nat.le_refl 1

theorem InHand.message (h : s.InHand) (hidle : s.threads[0]? = some []) (request : Request) :
    InHand { s with threads := s.threads.set 0 request.handle } := by
  obtain ⟨⟨hone, hown⟩, honce⟩ := h
  have hpending := Handlers.pending_set_zero hidle request.handle
  refine ⟨⟨fun i t ht => ?_, fun op hop callID hcommand => ?_⟩, honce.mono (fun callID => ?_) ?_⟩
  · obtain ⟨rfl, rfl⟩ | ⟨-, ht⟩ := of_getElem?_set ht
    · exact requests_handle request
    · exact hone i t ht
  · rw [hpending] at hop
    obtain hop | hop := List.mem_append.mp hop
    · cases request <;> cases List.mem_singleton.mp hop <;> cases hcommand
    · exact hown op hop callID hcommand
  · rw [announced, announced, hpending, List.countP_append]
    cases request <;> simp [Request.handle, Op.trace]
  · exact Nat.le_refl _

/-- **One step.** -/
theorem InHand.step (h : s.InHand) {e : Event} (hguard : s.Respectful e)
    (hstep : s.step e = some t) : t.InHand := by
  cases e with
  | message request =>
    simp only [Calls.step] at hstep
    split at hstep
    · next hidle =>
      cases hstep
      exact h.message hidle request
    · cases hstep
  | urc line urc =>
    obtain ⟨g, hg, rfl⟩ := Option.map_eq_some_iff.mp hstep
    obtain ⟨lines, nextLine, rfl⟩ := eq_of_reported hg
    exact h.starts rfl (by cases urc <;> rfl) fun callID => by
      cases urc <;> simp [URC.handle, Op.trace]
  | fire callID =>
    simp only [Calls.step] at hstep
    split at hstep
    · next hmem =>
      cases hstep
      refine h.starts rfl rfl fun c => ?_
      by_cases hc : callID = c
      · subst hc
        have := List.count_pos_iff.mpr hmem
        simp only [List.count_erase_self, Op.trace, List.countP_singleton, decide_true, if_true]
        omega
      · simp [List.count_erase_of_ne (Ne.symm hc), Op.trace, hc]
    · cases hstep
  | connected | wait =>
    cases hstep
    exact h.sets rfl rfl rfl
  | disconnected | shutdown | modemLost =>
    cases hstep
    exact h.starts rfl rfl fun callID => by simp [Op.trace]
  | bridgeLoopEnds | pcmLoopEnds =>
    obtain ⟨audio, -, rfl⟩ := Option.map_eq_some_iff.mp hstep
    exact h.sets rfl rfl rfl
  | run i r =>
    obtain ⟨op, rest, d, hthread, hrun, rfl⟩ := Handlers.of_advance hstep
    have hrightful : s.Rightful op := hguard op (by rw [head, hthread]; rfl)
    have hturn := run_turn hrun
    exact ⟨h.commanded.run hthread hturn hrightful, h.once.run hthread hturn hrightful⟩

/-- The call stays as it is, with the timer of its report until it fires. -/
structure Stays (s : Calls) (e : Event) (t : Calls) (call : ActiveCall) : Prop where
  there : ∃ call', t.shared.cm.call = some call' ∧ call.Continues call'
  ringing : t.shared.cm.ringing = s.shared.cm.ringing
  timer : call.callID ∈ s.shared.timers → call.callID ∈ t.shared.timers ∨ e = .fire call.callID

theorem stays_of_keeps {e : Event} (h : s.shared.Keeps t.shared call) : Stays s e t call :=
  ⟨h.there, h.ringing, fun htimer => .inl (h.timer htimer)⟩

/-- **A call is taken by what belongs to it.** -/
theorem InHand.keeps (h : s.InHand) {e : Event} (hguard : s.Respectful e)
    (hstep : s.step e = some t) (hcall : s.shared.cm.call = some call) :
    Stays s e t call ∨ ∃ i r op, e = .run i r ∧ op ∈ s.head i ∧ op.BelongsTo call := by
  have hsame : ∀ {e u}, u.shared.cm = s.shared.cm → u.shared.timers = s.shared.timers →
      Stays s e u call :=
    fun hcm htimers => stays_of_keeps (keeps_of_eq hcall (by rw [hcm]) (by rw [hcm]) htimers)
  cases e with
  | message request =>
    simp only [Calls.step] at hstep
    split at hstep <;> cases hstep
    exact .inl (hsame rfl rfl)
  | urc line urc =>
    obtain ⟨g, hg, rfl⟩ := Option.map_eq_some_iff.mp hstep
    obtain ⟨lines, nextLine, rfl⟩ := eq_of_reported hg
    exact .inl (hsame rfl rfl)
  | fire callID =>
    simp only [Calls.step] at hstep
    split at hstep <;> cases hstep
    refine .inl ⟨⟨call, hcall, .refl call⟩, rfl, fun htimer => ?_⟩
    by_cases hid : callID = call.callID
    · exact .inr (by rw [hid])
    · exact .inl ((List.mem_erase_of_ne (Ne.symm hid)).mpr htimer)
  | connected | wait | disconnected | shutdown | modemLost =>
    cases hstep
    exact .inl (hsame rfl rfl)
  | bridgeLoopEnds | pcmLoopEnds =>
    obtain ⟨audio, -, rfl⟩ := Option.map_eq_some_iff.mp hstep
    exact .inl (hsame rfl rfl)
  | run i r =>
    obtain ⟨op, rest, d, hthread, hrun, rfl⟩ := Handlers.of_advance hstep
    have hhead : op ∈ s.head i := by
      rw [head, hthread]
      rfl
    have hrightful : s.Rightful op := hguard op hhead
    cases run_turn hrun with
    | keeps hthere => exact .inl (stays_of_keeps (hthere call hcall))
    | answers _ _ call' hcall' _ hkeeps =>
      obtain rfl : call' = call := Option.some.inj (hcall'.symm.trans hcall)
      exact .inl (stays_of_keeps hkeeps)
    | takes _ hwhy =>
      refine .inr ⟨i, r, op, rfl, hhead, ?_⟩
      obtain hwhy | ⟨c, hcommand, hwhy⟩ | ⟨line, hop, hwhy⟩ := hwhy call hcall
      · exact hwhy
      · exact hwhy (h.commanded.own op (Handlers.mem_pending hthread) c hcommand call hcall)
      · obtain rfl | rfl := hop <;> exact hwhy (hrightful call hcall)
    | makes _ _ hfree => cases hfree.symm.trans hcall
    | rings _ _ hfree => cases hfree.symm.trans hcall
    | late _ _ hop hlate =>
      subst hop
      exact absurd hlate hrightful

/-- An incoming call whose caller is known in time, and which rings out. -/
def ringsOut : List Event :=
  [.urc 0 .ring, .run 1 ⟨none, true⟩, .urc 0 (.clip "\"+46700000000\",145"), .run 2 ⟨none, true⟩,
    .fire (Gateway.callIDOf 0 1), .run 3 ⟨none, true⟩, .run 3 ⟨none, true⟩, .urc 0 .ring,
    .run 4 ⟨none, true⟩, .urc 0 .missedCall, .run 5 ⟨none, true⟩, .run 5 ⟨none, true⟩,
    .run 5 ⟨none, true⟩, .run 5 ⟨none, true⟩]

/-- A call that is made ends while ATD is under way, and an incoming call has come. -/
def replacedWhileDialed : List Event :=
  [.message (.makeCall ⟨"r", "c", "+46700000000", ""⟩), .run 0 ⟨none, true⟩, .urc 0 .noCarrier,
    .run 1 ⟨none, true⟩, .urc 1 .ring, .run 2 ⟨none, true⟩]

end Calls

end Svarla.ModemGateway
