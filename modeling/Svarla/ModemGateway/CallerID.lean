import Mathlib
import Svarla.ModemGateway.CallManager

/-!
# The number of a caller

The number that a `+CLIP` presents is stored beside the call, and a call that comes takes what is
stored. A number that is stored while there is no call, as that of a call which was rejected, stays
there until a call has ended, and then a `+CLIP` of the next call does not change what that call has
taken (`other_number_reported`).

Where a call finds nothing stored that is not its own, and where a `+CLIP` for another call does not come
while the number of a call is not known, every number that is reported was presented for the call, and a
call for which one was presented is reported with one (`caller_presented`).
-/

namespace Svarla.ModemGateway

open Svarla.Lib

/-- A call, with who is said to be calling. -/
structure Party where
  callID : String
  direction : CallDirection
  caller : String
  line : Nat
  deriving DecidableEq, Repr

def ActiveCall.party (call : ActiveCall) : Party := ⟨call.callID, call.direction, call.caller, call.line⟩

namespace Gateway

def party (g : Gateway) : Option Party := g.cm.call.map ActiveCall.party

/-- The number of a call is empty, or was presented for it, and it is not empty if one was presented. -/
structure Presents (g : Gateway) (line : Nat) (number : String) : Prop where
  presented : number = "" ∨ (line, number) ∈ g.presented
  known : ∀ x, (line, x) ∈ g.presented → x ≠ "" → number ≠ ""

/-- What is known of callers is the same. -/
structure Agrees (g g' : Gateway) : Prop where
  party : g'.party = g.party
  ringing : g'.cm.ringing = g.cm.ringing
  reportTimer : g'.cm.reportTimer = g.cm.reportTimer
  timers : g'.timers = g.timers
  presented : g'.presented = g.presented

/-- A call that rings has its own number, and the timer is for that call. -/
structure Attributed (g : Gateway) : Prop where
  caller : ∀ p, g.party = some p → p.direction = .inbound →
    g.cm.ringing = true ∧ g.Presents p.line p.caller
  ringing : g.cm.ringing = true → ∃ p, g.party = some p ∧ p.direction = .inbound
  timers : g.timers = [] ∨ ∃ p, g.party = some p ∧ p.direction = .inbound ∧
    g.cm.reportTimer = some p.callID ∧ g.timers = [p.callID]

variable {g g' : Gateway}

theorem party_eq_none : g.party = none ↔ g.cm.call = none := Option.map_eq_none_iff

theorem Presents.congr {line : Nat} {number : String} (h : g.Presents line number)
    (hpresented : g'.presented = g.presented) : g'.Presents line number :=
  ⟨hpresented ▸ h.presented, hpresented ▸ h.known⟩

theorem Attributed.congr (h : g.Attributed) (hsame : g.Agrees g') : g'.Attributed := by
  obtain ⟨hparty, hringing, htimer, htimers, hpresented⟩ := hsame
  refine ⟨fun p hp hin => ?_, ?_, ?_⟩
  · rw [hparty] at hp
    rw [hringing]
    exact ⟨(h.caller p hp hin).1, (h.caller p hp hin).2.congr hpresented⟩
  · rw [hringing, hparty]
    exact h.ringing
  · rw [htimers, hparty, htimer]
    exact h.timers

/-- Nothing rings where there is no call that comes. -/
theorem Attributed.silent (h : g.Attributed)
    (hparty : ∀ p, g.party = some p → p.direction = .outbound) :
    g.cm.ringing = false ∧ g.timers = [] := by
  constructor
  · by_contra hringing
    obtain ⟨p, hp, hin⟩ := h.ringing (Bool.eq_true_of_not_eq_false hringing)
    cases hin.symm.trans (hparty p hp)
  · obtain htimers | ⟨p, hp, hin, -, -⟩ := h.timers
    · exact htimers
    · cases hin.symm.trans (hparty p hp)

/-- Where there is no call, there is nothing to know. -/
theorem attributed_of_free (hfree : g.party = none) (hringing : g.cm.ringing = false)
    (htimers : g.timers = []) : g.Attributed :=
  ⟨fun _ hp => absurd (hfree.symm.trans hp) nofun, fun h => absurd (hringing.symm.trans h) nofun,
    .inl htimers⟩

/-- The timer does not fire for a call that was dropped. -/
theorem Attributed.timers_dropCall (h : g.Attributed) : g.dropCall.timers = [] := by
  unfold dropCall stopReportTimer
  obtain htimers | ⟨p, -, -, htimer, htimers⟩ := h.timers
  · cases g.cm.reportTimer <;> simp [htimers]
  · simp [htimer, htimers]

end Gateway

/-- What an operation relies on: ATD is for a call that is made, a report is for the call that comes,
with its number, and a call is hung up that is no longer there. -/
def Op.Fits (g : Gateway) : Op → Prop
  | dial _ _ => ∀ p, g.party = some p → p.direction = .outbound
  | emitIncomingCall callID => ∃ p, g.party = some p ∧ p.direction = .inbound ∧ p.callID = callID
  | send (.incomingCall callID number) =>
    ∃ p, g.party = some p ∧ p.callID = callID ∧ g.Presents p.line number
  | hangup => g.party = none
  | hangupATH => g.party = none
  | _ => True

/-- The operation is the only one, but for the audio. -/
def Op.alone : Op → Bool
  | makeCall _ => true
  | dial _ _ => true
  | ring _ => true
  | clip _ _ => true
  | emitIncomingCall _ => true
  | send (.incomingCall _ _) => true
  | _ => false

def Op.isAudio : Op → Bool
  | audio _ => true
  | _ => false

theorem Op.Fits.congr {g g' : Gateway} {op : Op} (h : op.Fits g) (hsame : g.Agrees g') :
    op.Fits g' := by
  obtain ⟨hparty, -, -, -, hpresented⟩ := hsame
  cases op with
  | dial | emitIncomingCall | hangup | hangupATH =>
    simpa only [Op.Fits, hparty] using h
  | send m =>
    cases m with
    | incomingCall callID number =>
      obtain ⟨p, hp, hid, hnumber⟩ := h
      exact ⟨p, hparty.trans hp, hid, hnumber.congr hpresented⟩
    | _ => trivial
  | _ => trivial

theorem Op.eq_audio {op : Op} (hop : op.isAudio = true) : ∃ a, op = .audio a := by
  cases op <;> first | exact ⟨_, rfl⟩ | cases hop

theorem Op.alone_of_isAudio {op : Op} (hop : op.isAudio = true) : op.alone = false := by
  obtain ⟨a, rfl⟩ := op.eq_audio hop
  rfl

theorem Op.isAudio_of_alone {op : Op} (hop : op.alone = true) : (!op.isAudio) = true := by
  cases op <;> first | rfl | cases hop

theorem Op.fits_of_isAudio {g : Gateway} {op : Op} (hop : op.isAudio = true) : op.Fits g := by
  obtain ⟨a, rfl⟩ := op.eq_audio hop
  trivial

/-- The operation relies on nothing but that there is no call. -/
theorem Op.fits_of_free {g : Gateway} {op : Op} (hfree : g.party = none) (hop : op.alone = false) :
    op.Fits g := by
  cases op with
  | hangup | hangupATH => exact hfree
  | send m =>
    cases m with
    | incomingCall => cases hop
    | _ => trivial
  | dial | emitIncomingCall => cases hop
  | _ => trivial

namespace Calls

variable {s t : Calls} {r : Reply} {op : Op} {d : Done Gateway Op}

/-- The handlers have done what they have to do, but for the audio. -/
def Handled (s : Calls) : Prop := ∀ op ∈ s.pending, op.isAudio = true

instance (s : Calls) : Decidable s.Handled := inferInstanceAs (Decidable (∀ op ∈ _, _))

/-- One thing is handled at a time. -/
def OneAtATime (s : Calls) : Event → Prop
  | .message _ => s.Handled
  | .urc _ _ => s.Handled
  | .fire _ => s.Handled
  | .disconnected => s.Handled
  | .modemLost => s.Handled
  | .shutdown => s.Handled
  | _ => True

/-- A call that comes finds no number stored but its own, and finds that. While the number of the call
is not known, a `+CLIP` presents none for another call. -/
def Attributable (s : Calls) : Op → Prop
  | .ring line =>
    s.shared.cm.call = none ∧ s.shared.cm.ringing = false ∧ s.shared.connected = true →
      (s.shared.cm.incomingFrom ≠ "" → (line, s.shared.cm.incomingFrom) ∈ s.shared.presented) ∧
        (s.shared.cm.incomingFrom = "" → ∀ x ∈ s.shared.presented, x.1 = line → x.2 = "")
  | .clip line data => ∀ call ∈ s.shared.cm.call,
      call.direction = .inbound ∧ call.caller = "" → line = call.line ∨ parseCLIPNumber data = ""
  | _ => True

instance (s : Calls) : (e : Event) → Decidable (s.OneAtATime e)
  | .message _ | .urc _ _ | .fire _ | .disconnected | .modemLost | .shutdown =>
    inferInstanceAs (Decidable s.Handled)
  | .connected | .wait _ | .bridgeLoopEnds _ _ | .pcmLoopEnds _ | .run _ _ => .isTrue trivial

instance (s : Calls) : (op : Op) → Decidable (s.Attributable op)
  | .ring _ => inferInstanceAs (Decidable (_ → (_ → _) ∧ (_ → ∀ x ∈ _, _ → _)))
  | .clip _ _ => inferInstanceAs (Decidable (∀ call ∈ s.shared.cm.call, _ → _))
  | .makeCall _ | .answerCall _ | .endCall _ | .dial _ _ | .ata _ _ | .markAnswered _ | .hangup
  | .hangupATH | .complete _ _ | .closeInBackground _ | .voiceCall _ _ | .emitIncomingCall _
  | .noCarrier _ | .busy _ | .modemLost | .disconnect | .shutdown | .send _ | .openAudio _
  | .connect _ | .stream _ _ | .keepBridge _ _ | .audio _ => .isTrue trivial

/-- The step is attributable, if it is one of a handler. -/
def Own (s : Calls) : Event → Prop
  | .run i _ => ∀ op ∈ s.head i, s.Attributable op
  | _ => True

instance (s : Calls) : (e : Event) → Decidable (s.Own e)
  | .run i _ => inferInstanceAs (Decidable (∀ op ∈ s.head i, s.Attributable op))
  | .message _ | .urc _ _ | .fire _ | .connected | .disconnected | .modemLost | .shutdown | .wait _
  | .bridgeLoopEnds _ _ | .pcmLoopEnds _ => .isTrue trivial

/-- What an operation does to what is known of callers. -/
inductive Change (g : Gateway) (op : Op) (d : Done Gateway Op) : Prop
  /-- Nothing. -/
  | keeps (agrees : g.Agrees d.shared)
      (sent : d.shared.sent = g.sent ∨ ∃ m, op = .send m ∧ d.shared.sent = g.sent ++ [m])
      (next : ∀ x ∈ d.next, x.alone = false ∧ (op.Fits g → x.Fits d.shared))
  /-- There is no call afterwards. -/
  | frees (sent : d.shared.sent = g.sent)
      (free : op.Fits g → g.Attributed →
        d.shared.party = none ∧ d.shared.cm.ringing = false ∧ d.shared.timers = [])
      (next : ∀ x ∈ d.next, x.alone = false)
  /-- A call is made. -/
  | makes (payload : MakeCallPayload) (isMake : op = .makeCall payload) (free : g.party = none)
      (p : Party) (there : d.shared.party = some p) (out : p.direction = .outbound)
      (ringing : d.shared.cm.ringing = g.cm.ringing) (timers : d.shared.timers = g.timers)
      (sent : d.shared.sent = g.sent) (requestID : String)
      (next : d.next = [.dial p.callID requestID])
  /-- A call comes. -/
  | rings (line : Nat) (isRing : op = .ring line) (free : g.cm.call = none)
      (silent : g.cm.ringing = false) (connected : g.connected = true) (p : Party)
      (there : d.shared.party = some p) (comes : p.direction = .inbound) (isLine : p.line = line)
      (caller : p.caller = g.cm.incomingFrom) (ringing : d.shared.cm.ringing = true)
      (reportTimer : d.shared.cm.reportTimer = some p.callID)
      (timers : d.shared.timers = p.callID :: g.timers)
      (presented : d.shared.presented = g.presented) (sent : d.shared.sent = g.sent)
      (next : d.next = [])
  /-- A number is presented, and the call may get it. -/
  | clips (line : Nat) (data : String) (isClip : op = .clip line data)
      (presented : d.shared.presented = (line, parseCLIPNumber data) :: g.presented)
      (ringing : d.shared.cm.ringing = g.cm.ringing)
      (reportTimer : d.shared.cm.reportTimer = g.cm.reportTimer)
      (timers : d.shared.timers = g.timers) (sent : d.shared.sent = g.sent)
      (party : d.shared.party = g.party ∧ d.next = [] ∧
          (∀ p, g.party = some p → p.direction = .inbound → g.cm.ringing = true → p.caller ≠ "") ∨
        ∃ p, g.party = some p ∧ p.direction = .inbound ∧ p.caller = "" ∧
          d.shared.party = some { p with caller := parseCLIPNumber data } ∧
          (d.next = [] ∨ d.next = [.send (.incomingCall p.callID (parseCLIPNumber data))]))
  /-- The call is reported. -/
  | emits (callID : String) (isEmit : op = .emitIncomingCall callID) (agrees : g.Agrees d.shared)
      (sent : d.shared.sent = g.sent) (p : Party) (there : g.party = some p)
      (isCall : p.callID = callID) (next : d.next = [.send (.incomingCall callID p.caller)])

section

variable {g g' : Gateway} {next : List Op}

/-- Nothing is known, and nothing is to be reported, that was not before. -/
theorem change_of_silent (hparty : g'.party = g.party) (hringing : g'.cm.ringing = g.cm.ringing)
    (htimer : g'.cm.reportTimer = g.cm.reportTimer) (htimers : g'.timers = g.timers)
    (hpresented : g'.presented = g.presented) (hsent : g'.sent = g.sent)
    (hnext : ∀ x ∈ next, x.alone = false ∧ (op.Fits g → x.Fits g')) :
    Change g op ⟨g', next, []⟩ :=
  .keeps ⟨hparty, hringing, htimer, htimers, hpresented⟩ (.inl hsent) hnext

/-- Nothing happens. -/
theorem change_of_ignored : Change g op ⟨g, [], []⟩ :=
  change_of_silent rfl rfl rfl rfl rfl rfl nofun

/-- A call is dropped. -/
theorem change_of_dropCall (hnext : ∀ x ∈ next, x.alone = false) :
    Change g op ⟨g.dropCall, next, []⟩ :=
  .frees rfl (fun _ h => ⟨rfl, rfl, h.timers_dropCall⟩) hnext

/-- What was presented is forgotten where there is no call. -/
theorem change_of_forgotten (hfree : op.Fits g → g.party = none) (hcm : g'.cm = g.cm)
    (htimers : g'.timers = g.timers) (hsent : g'.sent = g.sent)
    (hnext : ∀ x ∈ next, x.alone = false) : Change g op ⟨g', next, []⟩ := by
  refine .frees hsent (fun hfits h => ?_) hnext
  have hparty := hfree hfits
  obtain ⟨hringing, hnone⟩ := h.silent fun p hp => nomatch hparty.symm.trans hp
  have hsame : g'.party = g.party := by rw [Gateway.party, hcm, Gateway.party]
  exact ⟨hsame.trans hparty, by rw [hcm]; exact hringing, htimers.trans hnone⟩

end

theorem isAudio_closeAudio (call : ActiveCall) :
    ∀ x ∈ Gateway.closeAudio call, x.isAudio = true := by
  intro x hx
  obtain hx | hx := List.mem_append.mp hx
  · obtain ⟨b, -, rfl⟩ := List.mem_map.mp hx
    rfl
  · obtain rfl := List.mem_singleton.mp hx
    rfl

theorem alone_closeAudio (call : ActiveCall) : ∀ x ∈ Gateway.closeAudio call, x.alone = false :=
  fun x hx => Op.alone_of_isAudio (isAudio_closeAudio call x hx)

theorem fits_sendAck (g : Gateway) (type : AckType) (requestID : String) :
    ∀ x ∈ Gateway.sendAck type requestID, x.alone = false ∧ x.Fits g := by
  intro x hx
  unfold Gateway.sendAck at hx
  split at hx
  · cases hx
  · obtain rfl := List.mem_singleton.mp hx
    exact ⟨rfl, trivial⟩

/-- A command for a call has its result. -/
theorem change_of_settle {g : Gateway} {callID : String} {keeps : Bool} {type : AckType}
    {requestID : String} {next : List Op} (hnext : ∀ x ∈ next, x.alone = false ∧ ∀ g, x.Fits g) :
    Change g op ⟨g.settle callID keeps, Gateway.sendAck type requestID ++ next, []⟩ := by
  refine change_of_silent (by rw [Gateway.party, Gateway.cm_settle]; rfl)
    (by rw [Gateway.cm_settle]) (by rw [Gateway.cm_settle]) (Gateway.timers_settle ..)
    (Gateway.presented_settle ..) (Gateway.sent_settle ..) fun x hx => ?_
  obtain hx | hx := List.mem_append.mp hx
  · exact ⟨(fits_sendAck g type requestID x hx).1, fun _ => (fits_sendAck _ type requestID x hx).2⟩
  · exact ⟨(hnext x hx).1, fun _ => (hnext x hx).2 _⟩

/-- What is presented while there is no call, or for one that needs no number. -/
theorem change_of_stored {g g' : Gateway} {line : Nat} {data : String}
    (hcall : g'.cm.call = g.cm.call)
    (hpresented : g'.presented = (line, parseCLIPNumber data) :: g.presented)
    (hringing : g'.cm.ringing = g.cm.ringing) (htimer : g'.cm.reportTimer = g.cm.reportTimer)
    (htimers : g'.timers = g.timers) (hsent : g'.sent = g.sent)
    (hknown : ∀ call, g.cm.call = some call →
      ¬ (call.direction = .inbound ∧ call.caller = "" ∧ g.cm.ringing = true)) :
    Change g (.clip line data) ⟨g', [], []⟩ := by
  refine .clips line data rfl hpresented hringing htimer htimers hsent
    (.inl ⟨congrArg (Option.map ActiveCall.party) hcall, rfl, fun p hp hin hrings hempty => ?_⟩)
  obtain ⟨call, hc, rfl⟩ := Option.map_eq_some_iff.mp hp
  exact hknown call hc ⟨hin, hempty, hrings⟩

/-- An operation on the audio. -/
theorem run_audio {g : Gateway} {a : AudioOp} (hrun : g.run r (.audio a) = some d) :
    g.Agrees d.shared ∧ d.shared.sent = g.sent ∧ ∀ x ∈ d.next, x.isAudio = true := by
  obtain ⟨⟨audio, next⟩, -, rfl⟩ := Option.map_eq_some_iff.mp hrun
  refine ⟨⟨rfl, rfl, rfl, rfl, rfl⟩, rfl, fun x hx => ?_⟩
  obtain ⟨_, -, rfl⟩ := List.mem_map.mp hx
  rfl

/-- **What an operation does to what is known of callers.** -/
theorem run_change {g : Gateway} (hrun : g.run r op = some d) : Change g op d := by
  cases op with
  | makeCall payload =>
    cases hcall : g.cm.call with
    | none =>
      simp only [Gateway.run, hcall, Gateway.goOn, Option.some.injEq] at hrun
      subst hrun
      exact .makes payload rfl (Gateway.party_eq_none.mpr hcall) _ rfl rfl rfl rfl rfl _ rfl
    | some call =>
      simp only [Gateway.run, hcall, Gateway.goOn, Option.some.injEq] at hrun
      subst hrun
      exact change_of_silent rfl rfl rfl rfl rfl rfl (by simp [Op.alone, Op.Fits])
  | answerCall payload =>
    cases hcall : g.cm.call with
    | none =>
      simp only [Gateway.run, hcall, Gateway.goOn, Option.some.injEq] at hrun
      subst hrun
      exact change_of_silent rfl rfl rfl rfl rfl rfl (by simp [Op.alone, Op.Fits])
    | some call =>
      simp only [Gateway.run, hcall, Gateway.goOn] at hrun
      split at hrun
      · cases hrun
        exact change_of_silent rfl rfl rfl rfl rfl rfl (by simp [Op.alone, Op.Fits])
      · split at hrun <;> cases hrun
        · exact change_of_silent rfl rfl rfl rfl rfl rfl (by simp [Op.alone, Op.Fits])
        · refine change_of_silent ?_ rfl rfl rfl rfl rfl (by simp [Op.alone, Op.Fits])
          simp [Gateway.party, hcall, ActiveCall.party]
  | dial callID requestID =>
    cases herror : r.error with
    | none =>
      simp only [Gateway.run, herror, Gateway.goOn, Option.some.injEq] at hrun
      subst hrun
      exact change_of_settle (by simp [Op.alone, Op.Fits])
    | some err =>
      simp only [Gateway.run, herror, Gateway.goOn, Option.some.injEq] at hrun
      subst hrun
      refine .frees (Gateway.sent_settle ..) (fun hfits h => ?_) ?_
      · obtain ⟨hringing, htimers⟩ := h.silent hfits
        exact ⟨rfl, by simpa using hringing, (Gateway.timers_settle ..).trans htimers⟩
      · split <;> simp [Op.alone]
  | ata callID requestID =>
    cases herror : r.error with
    | none =>
      simp only [Gateway.run, herror, Gateway.goOn, Option.some.injEq] at hrun
      subst hrun
      exact change_of_settle (by simp [Op.alone, Op.Fits])
    | some err =>
      simp only [Gateway.run, herror, Gateway.goOn, Option.some.injEq] at hrun
      subst hrun
      refine .frees (Gateway.sent_settle ..) (fun _ h => ⟨rfl, rfl, ?_⟩) (by simp [Op.alone])
      have hsettled : (g.settle callID r.keeps).Attributed :=
        h.congr ⟨by rw [Gateway.party, Gateway.cm_settle]; rfl, by rw [Gateway.cm_settle],
          by rw [Gateway.cm_settle], Gateway.timers_settle .., Gateway.presented_settle ..⟩
      exact hsettled.timers_dropCall
  | markAnswered callID =>
    cases hcall : g.cm.call with
    | none =>
      simp only [Gateway.run, hcall, Gateway.goOn, Option.some.injEq] at hrun
      subst hrun
      exact change_of_ignored
    | some call =>
      simp only [Gateway.run, hcall, Gateway.goOn] at hrun
      split at hrun <;> cases hrun
      · refine change_of_silent ?_ rfl rfl rfl rfl rfl (by simp [Op.alone, Op.Fits])
        simp [Gateway.party, hcall, ActiveCall.party]
      · exact change_of_ignored
  | endCall callID =>
    cases hcall : g.cm.call with
    | none =>
      simp only [Gateway.run, hcall, Gateway.goOn, Option.some.injEq] at hrun
      subst hrun
      exact change_of_ignored
    | some call =>
      simp only [Gateway.run, hcall, Gateway.goOn] at hrun
      split at hrun <;> cases hrun
      · exact change_of_ignored
      · exact change_of_dropCall (by simp [Op.alone])
  | hangup =>
    simp only [Gateway.run, Gateway.goOn, Option.some.injEq] at hrun
    subst hrun
    have hnext : ∀ x ∈ if r.error = none then [] else [Op.hangupATH], x = .hangupATH := by
      intro x hx
      split at hx
      · cases hx
      · exact List.mem_singleton.mp hx
    cases r.keeps with
    | true => exact change_of_silent rfl rfl rfl rfl rfl rfl fun x hx => hnext x hx ▸ ⟨rfl, id⟩
    | false => exact change_of_forgotten id rfl rfl rfl fun x hx => hnext x hx ▸ rfl
  | hangupATH =>
    simp only [Gateway.run, Gateway.goOn, Option.some.injEq] at hrun
    subst hrun
    cases r.keeps with
    | true => exact change_of_ignored
    | false => exact change_of_forgotten id rfl rfl rfl (List.forall_mem_nil _)
  | complete call reason =>
    simp only [Gateway.run, Gateway.goOn, Option.some.injEq] at hrun
    subst hrun
    exact change_of_silent rfl rfl rfl rfl rfl rfl (by simp [Op.alone, Op.Fits])
  | closeInBackground call =>
    simp only [Gateway.run, Option.some.injEq] at hrun
    subst hrun
    exact .keeps ⟨rfl, rfl, rfl, rfl, rfl⟩ (.inl rfl) (List.forall_mem_nil _)
  | voiceCall line data =>
    cases hcall : g.cm.call with
    | none =>
      simp only [Gateway.run, hcall, Gateway.goOn, Option.some.injEq] at hrun
      subst hrun
      exact change_of_ignored
    | some call =>
      simp only [Gateway.run, hcall, Gateway.goOn] at hrun
      split at hrun <;> cases hrun
      · exact change_of_ignored
      · refine change_of_silent ?_ rfl rfl rfl rfl rfl (by simp [Op.alone, Op.Fits])
        simp [Gateway.party, hcall, ActiveCall.party]
  | ring line =>
    simp only [Gateway.run, Gateway.goOn] at hrun
    split at hrun
    · cases hrun
      exact change_of_ignored
    · next hfree =>
      obtain ⟨hcall, hsilent⟩ := not_or.mp hfree
      split at hrun
      · cases hrun
        refine change_of_silent rfl rfl rfl rfl rfl rfl fun x hx => ?_
        obtain rfl := List.mem_singleton.mp hx
        exact ⟨rfl, fun _ => Gateway.party_eq_none.mpr (not_not.mp hcall)⟩
      · next hconnected =>
        cases hrun
        exact .rings line rfl (not_not.mp hcall) (Bool.eq_false_iff.mpr hsilent)
          (not_not.mp hconnected) _ rfl rfl rfl rfl rfl rfl rfl rfl rfl rfl
  | clip line data =>
    cases hcall : g.cm.call with
    | none =>
      simp only [Gateway.run, hcall, Gateway.goOn, Option.some.injEq] at hrun
      subst hrun
      exact change_of_stored hcall.symm rfl rfl rfl rfl rfl
        fun call hc => by cases hcall.symm.trans hc
    | some call =>
      simp only [Gateway.run, hcall, Gateway.goOn] at hrun
      split at hrun
      · next hwaits =>
        cases hrun
        refine .clips line data rfl rfl rfl rfl rfl rfl (.inr ⟨call.party, ?_, hwaits.1, hwaits.2.1,
          rfl, ?_⟩)
        · rw [Gateway.party, hcall, Option.map_some]
        · split
          · exact .inr rfl
          · exact .inl rfl
      · next hknown =>
        cases hrun
        refine change_of_stored hcall.symm rfl rfl rfl rfl rfl fun c hc => ?_
        obtain rfl : call = c := Option.some.inj (hcall.symm.trans hc)
        exact hknown
  | emitIncomingCall callID =>
    cases hcall : g.cm.call with
    | none =>
      simp only [Gateway.run, hcall, Gateway.goOn, Option.some.injEq] at hrun
      subst hrun
      exact change_of_ignored
    | some call =>
      simp only [Gateway.run, hcall, Gateway.goOn] at hrun
      split at hrun <;> cases hrun
      · exact change_of_ignored
      · next hid =>
        refine .emits callID rfl ⟨?_, rfl, rfl, rfl, rfl⟩ rfl call.party ?_
          (not_not.mp (not_or.mp hid).1) rfl
        · rw [Gateway.party, Gateway.party, hcall]
        · rw [Gateway.party, hcall, Option.map_some]
  | noCarrier line | busy line =>
    cases hcall : g.cm.call with
    | none =>
      simp only [Gateway.run, hcall, Gateway.goOn, Option.some.injEq] at hrun
      subst hrun
      exact change_of_forgotten (fun _ => Gateway.party_eq_none.mpr hcall) rfl rfl rfl (List.forall_mem_nil _)
    | some call =>
      simp only [Gateway.run, hcall, Gateway.goOn, Option.some.injEq] at hrun
      subst hrun
      refine change_of_dropCall ?_
      first
      | exact List.forall_mem_append.mpr ⟨alone_closeAudio call, by simp [Op.alone]⟩
      | simp [Op.alone]
  | modemLost | shutdown =>
    cases hcall : g.cm.call with
    | none =>
      simp only [Gateway.run, hcall, Gateway.goOn, Option.some.injEq] at hrun
      subst hrun
      exact change_of_ignored
    | some call =>
      simp only [Gateway.run, hcall, Gateway.goOn, Option.some.injEq] at hrun
      subst hrun
      exact change_of_dropCall
        (List.forall_mem_append.mpr ⟨alone_closeAudio call, by simp [Op.alone]⟩)
  | disconnect =>
    cases hcall : g.cm.call with
    | none =>
      simp only [Gateway.run, hcall, Gateway.goOn, Option.some.injEq] at hrun
      subst hrun
      exact change_of_ignored
    | some call =>
      simp only [Gateway.run, hcall, Gateway.goOn] at hrun
      split at hrun <;> cases hrun
      · exact change_of_dropCall
          (List.forall_mem_append.mpr ⟨alone_closeAudio call, by simp [Op.alone]⟩)
      · exact change_of_ignored
  | send m =>
    simp only [Gateway.run, Gateway.goOn, Option.some.injEq] at hrun
    subst hrun
    split
    · exact .keeps ⟨rfl, rfl, rfl, rfl, rfl⟩ (.inr ⟨m, rfl, rfl⟩) (List.forall_mem_nil _)
    · exact change_of_ignored
  | openAudio callID =>
    cases hcall : g.cm.call with
    | none =>
      simp only [Gateway.run, hcall, Gateway.goOn, Option.some.injEq] at hrun
      subst hrun
      exact change_of_ignored
    | some call =>
      simp only [Gateway.run, hcall, Gateway.goOn] at hrun
      split at hrun <;> cases hrun
      · exact change_of_ignored
      · exact change_of_silent rfl rfl rfl rfl rfl rfl (by simp [Op.alone, Op.Fits])
  | connect callID | stream callID b =>
    simp only [Gateway.run, Gateway.goOn] at hrun
    split at hrun <;> cases hrun <;>
      exact change_of_silent rfl rfl rfl rfl rfl rfl (by simp [Op.alone, Op.Fits])
  | keepBridge callID b =>
    cases hcall : g.cm.call with
    | none =>
      simp only [Gateway.run, hcall, Gateway.goOn, Option.some.injEq] at hrun
      subst hrun
      exact change_of_silent rfl rfl rfl rfl rfl rfl (by simp [Op.alone, Op.Fits])
    | some call =>
      simp only [Gateway.run, hcall, Gateway.goOn] at hrun
      split at hrun <;> cases hrun
      · refine change_of_silent ?_ rfl rfl rfl rfl rfl (by simp [Op.alone, Op.Fits])
        simp [Gateway.party, hcall, ActiveCall.party]
      · exact change_of_silent rfl rfl rfl rfl rfl rfl (by simp [Op.alone, Op.Fits])
  | audio op =>
    obtain ⟨hagrees, hsent, hnext⟩ := run_audio hrun
    exact .keeps hagrees (.inl hsent) fun x hx =>
      ⟨Op.alone_of_isAudio (hnext x hx), fun _ => Op.fits_of_isAudio (hnext x hx)⟩

/-! ## What is reported -/

/-- What rings is known for what it is, and one thing is done at a time that depends on it. -/
structure Recognized (s : Calls) : Prop where
  callers : s.shared.Attributed
  fits : ∀ op ∈ s.pending, op.Fits s.shared
  alone : s.pending.countP Op.alone = 0 ∨ s.pending.countP (!Op.isAudio ·) = 1

section

variable {i : Nat} {rest : List Op} (hthread : s.threads[i]? = some (op :: rest))

include hthread

/-- What is left besides an operation does not have to be alone. -/
theorem Recognized.others (h : s.Recognized) (hop : op.isAudio = false) :
    ∀ x ∈ s.others i rest, x.alone = false := by
  intro x hx
  by_contra halone
  have hpos : 0 < (s.others i rest).countP Op.alone :=
    List.countP_pos_iff.mpr ⟨x, hx, Bool.eq_true_of_not_eq_false halone⟩
  have hle : (s.others i rest).countP Op.alone ≤ (s.others i rest).countP (!Op.isAudio ·) :=
    List.countP_mono_left fun _ _ => Op.isAudio_of_alone
  have hbusy := Handlers.countP_others hthread (!Op.isAudio ·)
  have hone := Handlers.countP_others hthread Op.alone
  rw [List.countP_singleton, hop] at hbusy
  have := h.alone
  simp only [Bool.not_false, if_true] at hbusy
  omega

/-- Besides an operation that has to be alone there is only audio. -/
theorem Recognized.others_audio (h : s.Recognized) (hop : op.alone = true) :
    ∀ x ∈ s.others i rest, x.isAudio = true := by
  intro x hx
  by_contra haudio
  have hpos : 0 < (s.others i rest).countP (!Op.isAudio ·) :=
    List.countP_pos_iff.mpr ⟨x, hx, by simpa using haudio⟩
  have hbusy := Handlers.countP_others hthread (!Op.isAudio ·)
  have hone := Handlers.countP_others hthread Op.alone
  rw [List.countP_singleton, if_pos (Op.isAudio_of_alone hop)] at hbusy
  rw [List.countP_singleton, if_pos hop] at hone
  have := h.alone
  omega

/-- The state after an operation. -/
theorem Recognized.after (hcallers : d.shared.Attributed)
    (hfits : ∀ x ∈ d.next ++ s.others i rest, x.Fits d.shared)
    (halone : (∀ x ∈ d.next ++ s.others i rest, x.alone = false) ∨
      (d.next ++ s.others i rest).countP (!Op.isAudio ·) = 1)
    (hspawned : ∀ x ∈ d.spawned.flatten, x.isAudio = true) :
    Recognized (Handlers.after s i d rest) := by
  refine ⟨hcallers, fun x hx => ?_, ?_⟩
  · obtain hnext | hx | hothers := Handlers.of_mem_pending_after_others hx
    · exact hfits x (List.mem_append_left _ hnext)
    · exact Op.fits_of_isAudio (hspawned x hx)
    · exact hfits x (List.mem_append_right _ hothers)
  · have hnone : d.spawned.flatten.countP Op.alone = 0 :=
      List.countP_eq_zero.mpr fun x hx halone => by
        simpa [hspawned x hx] using Op.isAudio_of_alone halone
    have hquiet : d.spawned.flatten.countP (!Op.isAudio ·) = 0 :=
      List.countP_eq_zero.mpr fun x hx => by simp [hspawned x hx]
    rw [Handlers.countP_pending_after_others hthread, Handlers.countP_pending_after_others hthread,
      hnone, hquiet]
    exact halone.imp (fun h => List.countP_eq_zero.mpr fun x hx => by simp [h x hx]) id

end

/-- One operation follows, and besides it there is only audio. -/
theorem countP_next_others {next others : List Op} (hothers : ∀ x ∈ others, x.isAudio = true)
    (hnext : next.countP (!Op.isAudio ·) = 1) : (next ++ others).countP (!Op.isAudio ·) = 1 := by
  have hquiet : others.countP (!Op.isAudio ·) = 0 :=
    List.countP_eq_zero.mpr fun x hx => by simp [hothers x hx]
  rw [List.countP_append, hnext, hquiet]

/-- **One operation.** -/
theorem Recognized.run (h : s.Recognized) {i : Nat} {rest : List Op}
    (hthread : s.threads[i]? = some (op :: rest)) (hrun : s.shared.run r op = some d)
    (hown : s.Attributable op) : Recognized (Handlers.after s i d rest) := by
  have hspawned : ∀ x ∈ d.spawned.flatten, x.isAudio = true := fun x hx => by
    obtain hnone | ⟨call, -, hclose⟩ := Gateway.spawned_run hrun
    · simp [hnone] at hx
    · rw [hclose, List.flatten_singleton] at hx
      exact isAudio_closeAudio call x hx
  have hothers : ∀ x ∈ s.others i rest, x.Fits s.shared := fun x hx =>
    h.fits x (Handlers.mem_pending_of_others hthread hx)
  have hop : op.Fits s.shared := h.fits op (Handlers.mem_pending hthread)
  by_cases haudio : op.isAudio = true
  · obtain ⟨a, rfl⟩ := Op.eq_audio haudio
    obtain ⟨hagrees, -, hnext⟩ := run_audio hrun
    refine Recognized.after hthread (h.callers.congr hagrees) (List.forall_mem_append.mpr
      ⟨fun x hx => Op.fits_of_isAudio (hnext x hx), fun x hx => (hothers x hx).congr hagrees⟩)
      ?_ hspawned
    have hquiet : d.next.countP (!Op.isAudio ·) = 0 :=
      List.countP_eq_zero.mpr fun x hx => by simp [hnext x hx]
    rw [List.countP_append, hquiet, Nat.zero_add]
    refine h.alone.imp (fun hnone => ?_) (Handlers.countP_others hthread (!Op.isAudio ·)).trans
    refine List.forall_mem_append.mpr ⟨fun x hx => Op.alone_of_isAudio (hnext x hx), fun x hx => ?_⟩
    exact Bool.eq_false_iff.mpr
      (List.countP_eq_zero.mp hnone x (Handlers.mem_pending_of_others hthread hx))
  · have hbusy : op.isAudio = false := Bool.eq_false_iff.mpr haudio
    have hidle := h.others hthread hbusy
    cases run_change hrun with
    | keeps hagrees _ hnext =>
      exact Recognized.after hthread (h.callers.congr hagrees) (List.forall_mem_append.mpr
        ⟨fun x hx => (hnext x hx).2 hop, fun x hx => (hothers x hx).congr hagrees⟩)
        (.inl (List.forall_mem_append.mpr ⟨fun x hx => (hnext x hx).1, hidle⟩)) hspawned
    | frees _ hfree hnext =>
      obtain ⟨hfree, hringing, htimers⟩ := hfree hop h.callers
      have halone := List.forall_mem_append.mpr ⟨hnext, hidle⟩
      exact Recognized.after hthread (Gateway.attributed_of_free hfree hringing htimers)
        (fun x hx => Op.fits_of_free hfree (halone x hx)) (.inl halone) hspawned
    | makes payload hmake hfree p hthere hout hringing htimers _ requestID hnext =>
      subst hmake
      have haudio := h.others_audio hthread rfl
      obtain ⟨hsilent, hnone⟩ := h.callers.silent fun p hp => nomatch hfree.symm.trans hp
      refine Recognized.after hthread ⟨fun q hq hin => ?_, fun hrings => ?_, ?_⟩ ?_ (.inr ?_)
        hspawned
      · obtain rfl : p = q := Option.some.inj (hthere.symm.trans hq)
        cases hin.symm.trans hout
      · cases (hringing.trans hsilent).symm.trans hrings
      · exact .inl (htimers.trans hnone)
      · rw [hnext]
        refine List.forall_mem_append.mpr ⟨fun x hx => ?_, fun x hx =>
          Op.fits_of_isAudio (haudio x hx)⟩
        obtain rfl := List.mem_singleton.mp hx
        intro q hq
        exact Option.some.inj (hthere.symm.trans hq) ▸ hout
      · exact countP_next_others haudio (by rw [hnext]; rfl)
    | rings line hring hfree hsilent hconnected p hthere hcomes hline hcaller hringing htimer
        htimers hpresented _ hnext =>
      subst hring
      have haudio := h.others_audio hthread rfl
      obtain ⟨hstored, hempty⟩ := hown ⟨hfree, hsilent, hconnected⟩
      obtain ⟨-, hnone⟩ := h.callers.silent fun p hp =>
        nomatch (Gateway.party_eq_none.mpr hfree).symm.trans hp
      refine Recognized.after hthread ⟨fun q hq _ => ⟨hringing, ?_⟩,
        fun _ => ⟨p, hthere, hcomes⟩, .inr ⟨p, hthere, hcomes, htimer, ?_⟩⟩ ?_ (.inl ?_) hspawned
      · obtain rfl : p = q := Option.some.inj (hthere.symm.trans hq)
        rw [hcaller, hline]
        refine ⟨?_, fun x hx hne hcaller => hne (hempty hcaller (line, x) (hpresented ▸ hx) rfl)⟩
        rw [hpresented]
        exact or_iff_not_imp_left.mpr hstored
      · rw [htimers, hnone]
      · rw [hnext]
        exact fun x hx => Op.fits_of_isAudio (haudio x hx)
      · rw [hnext]
        exact fun x hx => Op.alone_of_isAudio (haudio x hx)
    | clips line data hclip hpresented hringing htimer htimers _ hparty =>
      subst hclip
      have haudio := h.others_audio hthread rfl
      have hfits : ∀ x ∈ s.others i rest, x.Fits d.shared := fun x hx =>
        Op.fits_of_isAudio (haudio x hx)
      obtain ⟨hparty, hnext, hknown⟩ | ⟨p, hp, hcomes, hcaller, hparty, hnext⟩ := hparty
      · refine Recognized.after hthread ⟨fun q hq hin => ?_, ?_, ?_⟩ ?_ (.inl ?_) hspawned
        · rw [hparty] at hq
          obtain ⟨hrings, hpresents⟩ := h.callers.caller q hq hin
          rw [hringing]
          refine ⟨hrings, ?_, fun _ _ _ => hknown q hq hin hrings⟩
          rw [hpresented]
          exact hpresents.presented.imp_right (.tail _)
        · rw [hringing, hparty]
          exact h.callers.ringing
        · rw [htimers, htimer, hparty]
          exact h.callers.timers
        · rw [hnext]
          exact hfits
        · rw [hnext]
          exact fun x hx => Op.alone_of_isAudio (haudio x hx)
      · obtain ⟨hrings, hpresents⟩ := h.callers.caller p hp hcomes
        obtain ⟨call, hcall, rfl⟩ := Option.map_eq_some_iff.mp hp
        have hpresents : d.shared.Presents call.line (parseCLIPNumber data) := by
          refine ⟨?_, fun x hx hne => ?_⟩
          · rw [hpresented]
            refine (hown call hcall ⟨hcomes, hcaller⟩).symm.imp_right fun hline => ?_
            exact hline ▸ List.mem_cons_self
          · rw [hpresented] at hx
            obtain hx | hx := List.mem_cons.mp hx
            · exact (Prod.mk.inj hx).2 ▸ hne
            · exact absurd hcaller (hpresents.known x hx hne)
        refine Recognized.after hthread ⟨fun q hq _ => ?_, fun _ => ⟨_, hparty, hcomes⟩, ?_⟩ ?_ ?_
          hspawned
        · rw [hringing]
          exact ⟨hrings, Option.some.inj (hparty.symm.trans hq) ▸ hpresents⟩
        · rw [htimers, htimer]
          refine h.callers.timers.imp_right ?_
          rintro ⟨q, hq, -, hfor, htimers⟩
          obtain rfl := Option.some.inj (hp.symm.trans hq)
          exact ⟨_, hparty, hcomes, hfor, htimers⟩
        · refine List.forall_mem_append.mpr ⟨fun x hx => ?_, hfits⟩
          obtain hnext | hnext := hnext
          · simp [hnext] at hx
          · rw [hnext] at hx
            obtain rfl := List.mem_singleton.mp hx
            exact ⟨_, hparty, rfl, hpresents⟩
        · obtain hnext | hnext := hnext
          · rw [hnext]
            exact .inl fun x hx => Op.alone_of_isAudio (haudio x hx)
          · exact .inr (countP_next_others haudio (by rw [hnext]; rfl))
    | emits callID hemit hagrees _ p hthere hid hnext =>
      subst hemit
      have haudio := h.others_audio hthread rfl
      obtain ⟨q, hq, hcomes, -⟩ := hop
      obtain rfl : p = q := Option.some.inj (hthere.symm.trans hq)
      refine Recognized.after hthread (h.callers.congr hagrees) ?_
        (.inr (countP_next_others haudio (by rw [hnext]; rfl))) hspawned
      rw [hnext]
      refine List.forall_mem_append.mpr ⟨fun x hx => ?_, fun x hx =>
        Op.fits_of_isAudio (haudio x hx)⟩
      obtain rfl := List.mem_singleton.mp hx
      exact ⟨p, hagrees.party.trans hthere, hid,
        (h.callers.caller p hthere hcomes).2.congr hagrees.presented⟩

/-- Something is to be handled, and before it there is only audio. -/
theorem recognized_of_handled (hhandled : s.Handled) (thread : List Op) (hthread : thread.length ≤ 1)
    (hpending : t.pending.Perm (thread ++ s.pending)) (hcallers : t.shared.Attributed)
    (hfits : ∀ x ∈ thread, x.Fits t.shared) : t.Recognized := by
  refine ⟨hcallers, fun x hx => ?_, ?_⟩
  · obtain hx | hx := List.mem_append.mp (hpending.mem_iff.mp hx)
    · exact hfits x hx
    · exact Op.fits_of_isAudio (hhandled x hx)
  · rw [hpending.countP_eq, hpending.countP_eq]
    obtain rfl | ⟨op, rfl⟩ : thread = [] ∨ ∃ op, thread = [op] := by
      obtain hempty | hone := Nat.le_one_iff_eq_zero_or_eq_one.mp hthread
      · exact .inl (List.length_eq_zero_iff.mp hempty)
      · exact .inr (List.length_eq_one_iff.mp hone)
    · exact .inl (List.countP_eq_zero.mpr fun x hx => by simp [Op.alone_of_isAudio (hhandled x hx)])
    · cases hop : op.alone with
      | true => exact .inr (countP_next_others hhandled (by simp [Op.isAudio_of_alone hop] ))
      | false =>
        refine .inl (List.countP_eq_zero.mpr fun x hx => ?_)
        obtain rfl | hx := List.mem_cons.mp hx
        · simp [hop]
        · simp [Op.alone_of_isAudio (hhandled x hx)]

theorem init_recognized (connected : Bool) (now : Nat) : (init connected now).Recognized :=
  ⟨Gateway.attributed_of_free rfl rfl rfl, nofun, .inl rfl⟩

/-- Nothing changes that callers are known by. -/
theorem Recognized.congr (h : s.Recognized) (hagrees : s.shared.Agrees t.shared)
    (hpending : t.pending = s.pending) : t.Recognized :=
  ⟨h.callers.congr hagrees, fun x hx => (h.fits x (hpending ▸ hx)).congr hagrees, by
    rw [hpending]
    exact h.alone⟩

/-- The timer of a report fires. -/
theorem Recognized.fire (h : s.Recognized) {callID : String} (hmem : callID ∈ s.shared.timers) :
    Gateway.Attributed { s.shared with timers := s.shared.timers.erase callID } ∧
      (Op.emitIncomingCall callID).Fits s.shared := by
  obtain htimers | ⟨p, hp, hcomes, -, htimers⟩ := h.callers.timers
  · simp [htimers] at hmem
  · obtain rfl : callID = p.callID := by simpa [htimers] using hmem
    refine ⟨⟨fun q hq hin => ?_, h.callers.ringing, .inl (by simp [htimers])⟩, p, hp, hcomes, rfl⟩
    exact ⟨(h.callers.caller q hq hin).1, (h.callers.caller q hq hin).2.congr rfl⟩

/-- **One step.** -/
theorem Recognized.step (h : s.Recognized) {e : Event} (hone : s.OneAtATime e) (hown : s.Own e)
    (hstep : s.step e = some t) : t.Recognized := by
  have hstart : ∀ g thread, (s.start g thread).pending.Perm (thread ++ s.pending) := fun g thread =>
    (List.Perm.of_eq (Handlers.pending_spawn thread)).trans List.perm_append_comm
  cases e with
  | message request =>
    simp only [Calls.step] at hstep
    split at hstep
    · next hidle =>
      cases hstep
      refine recognized_of_handled hone request.handle (by cases request <;> rfl)
        (.of_eq (Handlers.pending_set_zero hidle _)) (h.callers.congr ⟨rfl, rfl, rfl, rfl, rfl⟩) ?_
      cases request <;> simp [Request.handle, Op.Fits]
    · cases hstep
  | urc line urc =>
    obtain ⟨g, hg, rfl⟩ := Option.map_eq_some_iff.mp hstep
    obtain ⟨lines, nextLine, rfl⟩ := eq_of_reported hg
    refine recognized_of_handled hone _ ?_ (hstart _ _)
      (h.callers.congr ⟨rfl, rfl, rfl, rfl, rfl⟩) ?_
    · cases urc <;> simp [URC.handle]
    · cases urc <;> simp [URC.handle, Op.Fits]
  | fire callID =>
    simp only [Calls.step] at hstep
    split at hstep
    · next hmem =>
      cases hstep
      obtain ⟨hcallers, hfits⟩ := h.fire hmem
      refine recognized_of_handled hone [.emitIncomingCall callID] (Nat.le_refl 1) (hstart _ _)
        hcallers fun x hx => ?_
      obtain rfl := List.mem_singleton.mp hx
      exact hfits
    · cases hstep
  | connected | wait =>
    cases hstep
    exact h.congr ⟨rfl, rfl, rfl, rfl, rfl⟩ rfl
  | disconnected | modemLost | shutdown =>
    cases hstep
    exact recognized_of_handled hone [_] (Nat.le_refl 1) (hstart _ _)
      (h.callers.congr ⟨rfl, rfl, rfl, rfl, rfl⟩) (by simp [Op.Fits])
  | bridgeLoopEnds | pcmLoopEnds =>
    obtain ⟨audio, -, rfl⟩ := Option.map_eq_some_iff.mp hstep
    exact h.congr ⟨rfl, rfl, rfl, rfl, rfl⟩ rfl
  | run i r =>
    obtain ⟨op, rest, d, hthread, hrun, rfl⟩ := Handlers.of_advance hstep
    exact h.run hthread hrun (hown op (by rw [head, hthread]; rfl))

/-- What a step sends is what a handler has to send. -/
theorem mem_newlySent {e : Event} (hstep : s.step e = some t) {m : Message}
    (hm : m ∈ newlySent s t) : .send m ∈ s.pending := by
  have hnone : ∀ {u : Calls}, u.shared.sent = s.shared.sent → m ∉ newlySent s u := by
    intro u hsent hm
    rw [newlySent, hsent, List.drop_length] at hm
    cases hm
  cases e with
  | message request =>
    simp only [Calls.step] at hstep
    split at hstep <;> cases hstep
    exact absurd hm (hnone rfl)
  | urc line urc =>
    obtain ⟨g, hg, rfl⟩ := Option.map_eq_some_iff.mp hstep
    obtain ⟨lines, nextLine, rfl⟩ := eq_of_reported hg
    exact absurd hm (hnone rfl)
  | fire callID =>
    simp only [Calls.step] at hstep
    split at hstep <;> cases hstep
    exact absurd hm (hnone rfl)
  | connected | wait | disconnected | modemLost | shutdown =>
    cases hstep
    exact absurd hm (hnone rfl)
  | bridgeLoopEnds | pcmLoopEnds =>
    obtain ⟨audio, -, rfl⟩ := Option.map_eq_some_iff.mp hstep
    exact absurd hm (hnone rfl)
  | run i r =>
    obtain ⟨op, rest, d, hthread, hrun, rfl⟩ := Handlers.of_advance hstep
    cases run_change hrun with
    | keeps _ hsent =>
      obtain hsent | ⟨m', rfl, hsent⟩ := hsent
      · exact absurd hm (hnone hsent)
      · rw [newlySent, Handlers.shared_after, hsent, List.drop_left, List.mem_singleton] at hm
        exact hm ▸ Handlers.mem_pending hthread
    | frees hsent => exact absurd hm (hnone hsent)
    | makes _ _ _ _ _ _ _ _ hsent => exact absurd hm (hnone hsent)
    | rings _ _ _ _ _ _ _ _ _ _ _ _ _ _ hsent => exact absurd hm (hnone hsent)
    | clips _ _ _ _ _ _ _ hsent => exact absurd hm (hnone hsent)
    | emits _ _ _ hsent => exact absurd hm (hnone hsent)

/-- A call that rings while the signaling is down is rejected, and another one comes after it. -/
def ringsTwice : List Event :=
  [.urc 0 .ring, .run 1 ⟨none, true⟩, .run 1 ⟨none, false⟩,
    .urc 0 (.clip "\"+46700000000\",145"), .run 2 ⟨none, true⟩, .urc 0 .missedCall,
    .run 3 ⟨none, true⟩, .connected, .urc 1 .ring, .run 4 ⟨none, true⟩,
    .urc 1 (.clip "\"+46700000001\",145"), .run 5 ⟨none, true⟩, .fire (Gateway.callIDOf 0 1),
    .run 6 ⟨none, true⟩]

/-- An incoming call whose number is presented twice, after another one has ended. -/
def ringsAgain : List Event :=
  [.urc 0 .ring, .run 1 ⟨none, true⟩, .urc 0 (.clip "\"+46700000000\",145"), .run 2 ⟨none, true⟩,
    .urc 0 .missedCall, .run 3 ⟨none, true⟩, .run 3 ⟨none, true⟩, .run 3 ⟨none, true⟩,
    .run 3 ⟨none, true⟩, .urc 1 .ring, .run 4 ⟨none, true⟩,
    .urc 1 (.clip "\"+46700000001\",145"), .run 5 ⟨none, true⟩, .fire (Gateway.callIDOf 0 2),
    .run 6 ⟨none, true⟩, .run 6 ⟨none, true⟩]

end Calls

end Svarla.ModemGateway
