import Svarla.ModemGateway.CallManager

/-!
# The reports of a call

A call is reported to the server with its states, and one of them is the last: COMPLETED, FAILED or BUSY.
Handlers that end a call, and those that have the result of a command for it, each report it when they
come to it, so a call may be reported after its end, or twice as ended, and while it is still on the
modem (`reported_twice`).

`Orderly` is what keeps the reports of a call in order: a call is only ended when no other handler has
still to report it (`Alone`), and when it is gone from the modem. Then a call that is no longer there is
owed one report at most, the last (`Reported`), and the reports are well formed
(`reports_well_formed`).
-/

namespace Svarla.ModemGateway

open Svarla.Lib

/-- The states in which a call has ended. -/
def CallState.terminal : CallState → Bool
  | ringing => false
  | answered => false
  | completed => true
  | failed => true
  | busy => true

namespace Message

/-- The message reports a state of the call. -/
def Reports (callID : String) : Message → Prop
  | callState c _ _ _ => c = callID
  | _ => False

/-- The message reports that the call has ended. -/
def Ends (callID : String) : Message → Prop
  | callState c state _ _ => c = callID ∧ state.terminal = true
  | _ => False

instance (callID : String) : (m : Message) → Decidable (m.Ends callID)
  | callState _ _ _ _ => inferInstanceAs (Decidable (_ ∧ _))
  | ack _ _ => .isFalse not_false
  | incomingCall _ _ => .isFalse not_false

theorem Ends.reports {callID : String} {m : Message} (h : m.Ends callID) : m.Reports callID := by
  cases m with
  | callState => exact h.1
  | _ => exact h

end Message

/-- After the report that a call has ended there is no other of that call. -/
def WellFormed (sent : List Message) : Prop :=
  sent.Pairwise fun m m' => ∀ callID, m.Ends callID → ¬ m'.Reports callID

/-- A call of that ID is on the modem. -/
def Gateway.OnModem (g : Gateway) (callID : String) : Prop :=
  ∃ line ∈ g.lines, (callID, line) ∈ g.placed

/-- The call that an operation reports, or that the handler reports after it, and whether it is the last
report. -/
def Op.tells : Op → Option (String × Bool)
  | dial callID _ => some (callID, false)
  | ata callID _ => some (callID, false)
  | markAnswered callID => some (callID, false)
  | complete call _ => some (call.callID, true)
  | send (.callState callID state _ _) => some (callID, state.terminal)
  | _ => none

namespace Calls

variable {s t : Calls} {r : Reply} {op : Op} {d : Done Gateway Op} {callID : String} {last : Bool}

/-- How many reports of the call are to come. -/
def owes (s : Calls) (callID : String) (last : Bool) : Nat :=
  s.pending.countP (·.tells = some (callID, last))

/-- No other handler has something to report of the call. -/
def Alone (s : Calls) (op : Op) (callID : String) : Prop :=
  ∀ last, s.owes callID last = [op].countP (·.tells = some (callID, last))

instance (s : Calls) (op : Op) (callID : String) : Decidable (s.Alone op callID) :=
  inferInstanceAs (Decidable (∀ _ : Bool, _))

/-- A call ID of the server: one that is new, and not like those that the gateway makes. -/
def New (g : Gateway) (callID : String) : Prop :=
  callID ∉ g.placed.map Prod.fst ∧ ¬ "call-".toList <+: callID.toList

instance (g : Gateway) (callID : String) : Decidable (New g callID) :=
  inferInstanceAs (Decidable (_ ∧ _))

/-- An operation does not end a call that another handler has still to report, or that is still on the
modem; a call is made only where there is none, and only the one that is there is answered, once; and
what hangs up succeeds. -/
def Proper (s : Calls) (r : Reply) : Op → Prop
  | .makeCall payload =>
    s.shared.cm.call = none ∧ (payload.callID = "" ∨ New s.shared payload.callID)
  | .answerCall payload =>
    s.shared.cm.call.any fun call => call.callID = payload.callID ∧ ¬ call.answered
  | .dial callID requestID =>
    r.error = none ∨ s.Alone (.dial callID requestID) callID ∧ ¬ r.keeps
  | .ata callID requestID =>
    r.error = none ∨ s.Alone (.ata callID requestID) callID ∧ ¬ r.keeps
  | .endCall callID =>
    s.shared.cm.call.all fun call => call.callID = callID → s.Alone (.endCall callID) callID
  | .shutdown => s.shared.cm.call.all fun call => s.Alone .shutdown call.callID
  | .disconnect => s.shared.cm.call.all fun call => s.Alone .disconnect call.callID
  | .noCarrier line =>
    s.shared.cm.call.all fun call =>
      s.Alone (.noCarrier line) call.callID ∧ call.line ∉ s.shared.lines
  | .busy line =>
    s.shared.cm.call.all fun call => s.Alone (.busy line) call.callID ∧ call.line ∉ s.shared.lines
  | .modemLost =>
    s.shared.cm.call.all fun call => s.Alone .modemLost call.callID ∧ call.line ∉ s.shared.lines
  | .hangup => r.error ≠ none ∨ ¬ r.keeps
  | .hangupATH => ¬ r.keeps
  | _ => True

instance (s : Calls) (r : Reply) : (op : Op) → Decidable (s.Proper r op)
  | .makeCall _ => inferInstanceAs (Decidable (_ ∧ _))
  | .dial _ _ | .ata _ _ | .hangup => inferInstanceAs (Decidable (_ ∨ _))
  | .hangupATH => inferInstanceAs (Decidable (¬ _))
  | .answerCall _ | .endCall _ | .shutdown | .disconnect | .noCarrier _ | .busy _ | .modemLost =>
    inferInstanceAs (Decidable (_ = _))
  | .markAnswered _ | .complete _ _ | .closeInBackground _ | .voiceCall _ _ | .ring _ | .clip _ _
  | .emitIncomingCall _ | .send _ | .openAudio _ | .connect _ | .stream _ _ | .keepBridge _ _
  | .audio _ => .isTrue trivial

/-- The step is proper, if it is one of a handler. -/
def Orderly (s : Calls) : Event → Prop
  | .run i r => ∀ op ∈ s.head i, s.Proper r op
  | _ => True

instance (s : Calls) : (e : Event) → Decidable (s.Orderly e)
  | .run i r => inferInstanceAs (Decidable (∀ op ∈ s.head i, s.Proper r op))
  | .message _ | .urc _ _ | .fire _ | .connected | .disconnected | .modemLost | .shutdown | .wait _
  | .bridgeLoopEnds _ _ | .pcmLoopEnds _ => .isTrue trivial

end Calls

/-! ## What an operation does -/

/-- What the reports that follow from an operation are. -/
def told (d : Done Gateway Op) : List (String × Bool) :=
  (d.next ++ d.spawned.flatten).filterMap Op.tells

/-- The call that is there, as it is reported and as it is on the modem. -/
def Gateway.key (g : Gateway) : Option (String × Nat) :=
  g.cm.call.map fun call => (call.callID, call.line)

@[simp] theorem filterMap_tells_closeAudio (call : ActiveCall) :
    (Gateway.closeAudio call).filterMap Op.tells = [] :=
  Gateway.filterMap_closeAudio (fun _ => rfl) call

@[simp] theorem filterMap_tells_sendAck (type : AckType) (requestID : String) :
    (Gateway.sendAck type requestID).filterMap Op.tells = [] :=
  Gateway.filterMap_sendAck (fun _ _ => rfl) type requestID

/-- The operation hangs up. -/
def Op.hangsUp : Op → Bool
  | hangup => true
  | hangupATH => true
  | _ => false

/-- Where a handler reports the end of a call, the call is gone from the modem, or the handler hangs up
before. -/
def Settled (g : Gateway) : List Op → Prop
  | [] => True
  | op :: rest =>
    op.hangsUp = true ∨
      (∀ callID, op.tells = some (callID, true) → ¬ g.OnModem callID) ∧ Settled g rest

/-- No call ID is given, and no call comes to the modem. -/
structure Unchanged (g g' : Gateway) : Prop where
  placed : g'.placed = g.placed
  callIDSeq : g'.cm.callIDSeq = g.cm.callIDSeq
  nextLine : g'.nextLine = g.nextLine
  lines : g'.lines ⊆ g.lines

/-- What a proper operation does to the call that is there, and to what is to be reported. -/
inductive Effect (s : Calls) (op : Op) (d : Done Gateway Op) : Prop
  /-- The call stays, and what was to be reported is, or a report of the call that is there. -/
  | keeps (key : d.shared.key = s.shared.key) (unchanged : Unchanged s.shared d.shared)
      (sent : d.shared.sent = s.shared.sent)
      (told : told d = [] ∨ ∃ callID last, told d = [(callID, last)] ∧
        (op.tells = some (callID, last) ∨
          last = false ∧ s.shared.key.map Prod.fst = some callID))
  /-- A message is sent, or lost. -/
  | sends (m : Message) (isSend : op = .send m) (key : d.shared.key = s.shared.key)
      (unchanged : Unchanged s.shared d.shared) (told : told d = [])
      (sent : d.shared.sent = s.shared.sent ∨ d.shared.sent = s.shared.sent ++ [m])
  /-- The call is taken, and its last report may follow. -/
  | takes (callID : String) (line : Nat) (key : s.shared.key = some (callID, line))
      (taken : d.shared.key = none) (unchanged : Unchanged s.shared d.shared)
      (sent : d.shared.sent = s.shared.sent) (alone : s.Alone op callID)
      (spawned : d.spawned = []) (told : told d = [] ∨ told d = [(callID, true)])
      (settled : (∀ line', (callID, line') ∈ s.shared.placed → line' = line) →
        Settled d.shared d.next)
  /-- A call comes. -/
  | places (callID : String) (line : Nat) (free : s.shared.key = none)
      (key : d.shared.key = some (callID, line))
      (placed : d.shared.placed = (callID, line) :: s.shared.placed)
      (sent : d.shared.sent = s.shared.sent)
      (isNew : callID = s.shared.generateCallID ∧
          d.shared.cm.callIDSeq = s.shared.cm.callIDSeq + 1 ∨
        Calls.New s.shared callID ∧ d.shared.cm.callIDSeq = s.shared.cm.callIDSeq)
      (nextLine : d.shared.nextLine = max s.shared.nextLine (line + 1))
      (onModem : d.shared.lines = s.shared.lines ∨
        line = s.shared.nextLine ∧ d.shared.lines = line :: s.shared.lines)
      (told : told d = [] ∨ told d = [(callID, false)])

theorem Unchanged.of_eq {g g' : Gateway}
    (h : (g'.placed, g'.cm.callIDSeq, g'.nextLine, g'.lines) =
      (g.placed, g.cm.callIDSeq, g.nextLine, g.lines)) : Unchanged g g' := by
  obtain ⟨hplaced, hseq, hline, hlines⟩ : _ ∧ _ ∧ _ ∧ _ := by simpa using h
  exact ⟨hplaced, hseq, hline, hlines ▸ List.Subset.refl _⟩

theorem unchanged_settle (g : Gateway) (callID : String) (keeps : Bool) :
    Unchanged g (g.settle callID keeps) := by
  cases keeps
  · exact ⟨rfl, rfl, rfl, List.filter_subset_self ..⟩
  · exact .of_eq rfl

theorem unchanged_hungUp (g : Gateway) (keeps : Bool) : Unchanged g (g.hungUp keeps) := by
  cases keeps
  · exact ⟨rfl, rfl, rfl, List.nil_subset _⟩
  · exact .of_eq rfl

/-- Nothing is on the modem that was not. -/
theorem Unchanged.onModem {g g' : Gateway} (h : Unchanged g g') {callID : String}
    (hon : g'.OnModem callID) : g.OnModem callID := by
  obtain ⟨line, hline, hplaced⟩ := hon
  exact ⟨line, h.lines hline, h.placed ▸ hplaced⟩

theorem Settled.append {g : Gateway} {xs ys : List Op} (hx : Settled g xs) (hy : Settled g ys) :
    Settled g (xs ++ ys) := by
  induction xs with
  | nil => exact hy
  | cons op xs ih => exact hx.imp_right fun h => ⟨h.1, ih h.2⟩

/-- Where nothing is on the modem, every handler may report. -/
theorem settled_of_forall {g : Gateway} {ops : List Op}
    (h : ∀ callID, (callID, true) ∈ ops.filterMap Op.tells → ¬ g.OnModem callID) :
    Settled g ops := by
  induction ops with
  | nil => trivial
  | cons op ops ih =>
    refine .inr ⟨fun callID htells => h callID ?_, ih fun callID hmem => h callID ?_⟩
    · exact List.mem_filterMap.mpr ⟨op, List.mem_cons_self, htells⟩
    · obtain ⟨x, hx, htells⟩ := List.mem_filterMap.mp hmem
      exact List.mem_filterMap.mpr ⟨x, List.mem_cons_of_mem _ hx, htells⟩

/-- A handler, after calls have left the modem. -/
theorem Settled.mono {g g' : Gateway} {ops : List Op} (hsettled : Settled g ops)
    (h : ∀ callID, (callID, true) ∈ ops.filterMap Op.tells → g'.OnModem callID → g.OnModem callID) :
    Settled g' ops := by
  induction ops with
  | nil => trivial
  | cons op ops ih =>
    refine hsettled.imp_right fun hrest => ⟨fun callID htells hon => ?_, ih hrest.2 ?_⟩
    · exact hrest.1 callID htells
        (h callID (List.mem_filterMap.mpr ⟨op, List.mem_cons_self, htells⟩) hon)
    · intro callID hmem
      obtain ⟨x, hx, htells⟩ := List.mem_filterMap.mp hmem
      exact h callID (List.mem_filterMap.mpr ⟨x, List.mem_cons_of_mem _ hx, htells⟩)

namespace Calls

variable {s t : Calls} {r : Reply} {op : Op} {d : Done Gateway Op} {callID : String} {last : Bool}

theorem key_eq_none : s.shared.key = none ↔ s.shared.cm.call = none := Option.map_eq_none_iff

@[simp] theorem key_dropCall (g : Gateway) : g.dropCall.key = none := rfl

theorem key_congr {g g' : Gateway} (hcall : g.cm.call = g'.cm.call) : g.key = g'.key := by
  rw [Gateway.key, Gateway.key, hcall]

theorem key_of_call {call : ActiveCall} (hcall : s.shared.cm.call = some call) :
    s.shared.key = some (call.callID, call.line) := by
  rw [Gateway.key, hcall, Option.map_some]

/-- A call that is there, from what its handlers know of it. -/
theorem exists_call (hkey : s.shared.key.map Prod.fst = some callID) :
    ∃ call, s.shared.cm.call = some call ∧ call.callID = callID := by
  cases hcall : s.shared.cm.call with
  | none => simp [Gateway.key, hcall] at hkey
  | some call => exact ⟨call, rfl, by simpa [Gateway.key, hcall] using hkey⟩

/-- The call stays, and nothing is to be reported that was not. -/
theorem effect_of_silent {g : Gateway} {next : List Op} {spawned : List (List Op)}
    (hkey : g.key = s.shared.key) (hsame : Unchanged s.shared g)
    (hsent : g.sent = s.shared.sent) (htold : told ⟨g, next, spawned⟩ = []) :
    Effect s op ⟨g, next, spawned⟩ :=
  .keeps hkey hsame hsent (.inl htold)

/-- A call that is gone from the modem, where its ID stands for it alone. -/
theorem not_onModem {g : Gateway} {line : Nat} (hline : line ∉ g.lines)
    (hone : ∀ line', (callID, line') ∈ g.placed → line' = line) : ¬ g.OnModem callID := by
  rintro ⟨line', hline', hplaced⟩
  exact hline (hone line' hplaced ▸ hline')

/-- A call that is gone from the modem, after a command for it. -/
theorem not_onModem_settle {g : Gateway} {keeps : Bool} (hkeeps : ¬ keeps) :
    ¬ (g.settle callID keeps).OnModem callID := by
  rintro ⟨line, hline, hplaced⟩
  rw [Gateway.placed_settle] at hplaced
  simp [Gateway.settle, hkeeps, hplaced] at hline

/-- A call for which a command has failed. -/
theorem effect_of_failed {g : Gateway} {m : Message}
    (hkey : s.shared.key.map Prod.fst = some callID) (halone : s.Alone op callID)
    (hsame : Unchanged s.shared g) (hgone' : ¬ g.OnModem callID) (hsent : g.sent = s.shared.sent)
    (hgone : g.key = none) (hm : Op.tells (.send m) = some (callID, true)) :
    Effect s op ⟨g, [.send m], []⟩ := by
  obtain ⟨call, hcall, rfl⟩ := exists_call hkey
  refine .takes call.callID call.line (key_of_call hcall) hgone hsame hsent halone
    rfl (.inr (by simp [told, hm])) fun _ => settled_of_forall fun callID hmem => ?_
  simp only [List.filterMap_cons, hm, List.filterMap_nil, List.mem_singleton, Prod.mk.injEq,
    and_true] at hmem
  exact hmem ▸ hgone'

/-- A call that is ended. -/
theorem effect_of_dropCall {call : ActiveCall} {next : List Op}
    (hcall : s.shared.cm.call = some call) (halone : s.Alone op call.callID)
    (htold : told ⟨s.shared.dropCall, next, []⟩ = [] ∨
      told ⟨s.shared.dropCall, next, []⟩ = [(call.callID, true)])
    (hsettled : (∀ line', (call.callID, line') ∈ s.shared.placed → line' = call.line) →
      Settled s.shared.dropCall next) :
    Effect s op ⟨s.shared.dropCall, next, []⟩ :=
  .takes call.callID call.line (key_of_call hcall) rfl (.of_eq rfl) rfl halone rfl htold
    hsettled

/-- A call that is ended because it is gone from the modem. -/
theorem effect_of_gone {call : ActiveCall} {next : List Op}
    (hcall : s.shared.cm.call = some call) (halone : s.Alone op call.callID)
    (hline : call.line ∉ s.shared.lines)
    (htold : next.filterMap Op.tells = [(call.callID, true)]) :
    Effect s op ⟨s.shared.dropCall, next, []⟩ := by
  refine effect_of_dropCall hcall halone
    (.inr (by rw [told, List.flatten_nil, List.append_nil, htold])) fun hone => ?_
  refine settled_of_forall fun callID hmem => ?_
  rw [htold, List.mem_singleton, Prod.mk.injEq] at hmem
  rw [hmem.1]
  exact not_onModem hline hone

/-- **What a proper operation does.** -/
theorem Proper.effect (hproper : s.Proper r op)
    (halive : ∀ callID, op.tells = some (callID, false) →
      s.shared.key.map Prod.fst = some callID)
    (hrun : Gateway.run s.shared r op = some d) : Effect s op d := by
  cases op with
  | makeCall payload =>
    obtain ⟨hfree, hnew⟩ := hproper
    simp only [Gateway.run, hfree, Gateway.goOn, Option.some.injEq] at hrun
    subst hrun
    refine .places _ _ (key_eq_none.mpr hfree) rfl rfl rfl ?_ rfl (.inr ⟨rfl, rfl⟩) (.inr rfl)
    by_cases hempty : payload.callID = ""
    · exact .inl (by simp [hempty, Gateway.place])
    · exact .inr (by simpa [hempty, Gateway.place] using hnew)
  | dial callID requestID =>
    have hkey := halive callID rfl
    cases herror : r.error with
    | none =>
      simp only [Gateway.run, herror, Gateway.goOn, Option.some.injEq] at hrun
      subst hrun
      exact .keeps (key_congr (by rw [Gateway.cm_settle])) (unchanged_settle ..)
        (Gateway.sent_settle ..)
        (.inr ⟨callID, false, by simp [told, Op.tells, CallState.terminal], .inl rfl⟩)
    | some err =>
      simp only [Gateway.run, herror, Gateway.goOn, Option.some.injEq] at hrun
      subst hrun
      obtain ⟨halone, hkeeps⟩ := hproper.resolve_left (by simp [herror])
      refine effect_of_failed hkey halone
        ⟨Gateway.placed_settle .., by rw [Gateway.cm_settle], (unchanged_settle ..).nextLine,
          (unchanged_settle ..).lines⟩ (not_onModem_settle hkeeps) (Gateway.sent_settle ..) rfl ?_
      split <;> rfl
  | ata callID requestID =>
    have hkey := halive callID rfl
    cases herror : r.error with
    | none =>
      simp only [Gateway.run, herror, Gateway.goOn, Option.some.injEq] at hrun
      subst hrun
      exact .keeps (key_congr (by rw [Gateway.cm_settle])) (unchanged_settle ..)
        (Gateway.sent_settle ..) (.inr ⟨callID, false, by simp [told, Op.tells], .inl rfl⟩)
    | some err =>
      simp only [Gateway.run, herror, Gateway.goOn, Option.some.injEq] at hrun
      subst hrun
      obtain ⟨halone, hkeeps⟩ := hproper.resolve_left (by simp [herror])
      exact effect_of_failed hkey halone
        ⟨Gateway.placed_settle .., (congrArg CallManager.callIDSeq (Gateway.cm_settle ..) :),
          (unchanged_settle ..).nextLine, (unchanged_settle ..).lines⟩ (not_onModem_settle hkeeps)
        (Gateway.sent_settle ..) rfl rfl
  | answerCall payload =>
    cases hcall : s.shared.cm.call with
    | none => simp [Proper, hcall] at hproper
    | some call =>
      obtain ⟨hid, hfresh⟩ : call.callID = payload.callID ∧ call.answered = false := by
        simpa [Proper, hcall] using hproper
      simp only [Gateway.run, hcall, hid, hfresh, ne_eq, not_true_eq_false, if_false,
        Bool.false_eq_true, Gateway.goOn, Option.some.injEq] at hrun
      subst hrun
      have hkey := hid ▸ key_of_call hcall
      exact .keeps hkey.symm (.of_eq rfl) rfl
        (.inr ⟨payload.callID, false, rfl, .inr ⟨rfl, by rw [hkey, Option.map_some]⟩⟩)
  | markAnswered callID =>
    obtain ⟨call, hcall, rfl⟩ := exists_call (halive callID rfl)
    simp only [Gateway.run, hcall, if_true, Gateway.goOn, Option.some.injEq] at hrun
    subst hrun
    exact .keeps (key_of_call hcall).symm (.of_eq rfl) rfl (.inr ⟨call.callID, false, rfl, .inl rfl⟩)
  | endCall callID =>
    cases hcall : s.shared.cm.call with
    | none =>
      simp only [Gateway.run, hcall, Gateway.goOn, Option.some.injEq] at hrun
      subst hrun
      exact effect_of_silent rfl (.of_eq rfl) rfl rfl
    | some call =>
      by_cases hid : call.callID = callID
      · subst hid
        have halone : s.Alone (.endCall call.callID) call.callID := by
          simpa [Proper, hcall] using hproper
        simp only [Gateway.run, hcall, ne_eq, not_true_eq_false, if_false, Gateway.goOn,
          Option.some.injEq] at hrun
        subst hrun
        exact effect_of_dropCall hcall halone (.inr rfl) fun _ => .inl rfl
      · simp only [Gateway.run, hcall, ne_eq, hid, not_false_eq_true, if_true, Gateway.goOn,
          Option.some.injEq] at hrun
        subst hrun
        exact effect_of_silent rfl (.of_eq rfl) rfl rfl
  | hangup | hangupATH =>
    simp only [Gateway.run, Gateway.goOn, Option.some.injEq] at hrun
    subst hrun
    refine effect_of_silent (key_congr (by rw [Gateway.cm_hungUp])) (unchanged_hungUp ..)
      (Gateway.sent_hungUp ..) ?_
    first | rfl | (split <;> rfl)
  | complete call reason =>
    simp only [Gateway.run, Gateway.goOn, Option.some.injEq] at hrun
    subst hrun
    exact .keeps rfl (.of_eq rfl) rfl (.inr ⟨call.callID, true, rfl, .inl rfl⟩)
  | closeInBackground call =>
    simp only [Gateway.run, Option.some.injEq] at hrun
    subst hrun
    exact effect_of_silent rfl (.of_eq rfl) rfl (by simp [told])
  | voiceCall line data =>
    cases hcall : s.shared.cm.call with
    | none =>
      simp only [Gateway.run, hcall, Gateway.goOn, Option.some.injEq] at hrun
      subst hrun
      exact effect_of_silent rfl (.of_eq rfl) rfl rfl
    | some call =>
      simp only [Gateway.run, hcall, Gateway.goOn] at hrun
      split at hrun <;> cases hrun
      · exact effect_of_silent rfl (.of_eq rfl) rfl rfl
      · exact .keeps (key_of_call hcall).symm (.of_eq rfl) rfl
          (.inr ⟨call.callID, false, rfl, .inr ⟨rfl, by rw [key_of_call hcall, Option.map_some]⟩⟩)
  | ring line =>
    simp only [Gateway.run, Gateway.goOn] at hrun
    split at hrun
    · cases hrun
      exact effect_of_silent rfl (.of_eq rfl) rfl rfl
    · next hfree =>
      split at hrun <;> cases hrun
      · exact effect_of_silent rfl (.of_eq rfl) rfl rfl
      · refine .places _ line (key_eq_none.mpr ?_) rfl rfl rfl (.inl ⟨rfl, rfl⟩) rfl
          (.inl rfl) (.inl rfl)
        exact not_not.mp fun h => hfree (.inl h)
  | clip line data =>
    cases hcall : s.shared.cm.call with
    | none =>
      simp only [Gateway.run, hcall, Gateway.goOn, Option.some.injEq] at hrun
      subst hrun
      exact effect_of_silent (key_congr hcall.symm) (.of_eq rfl) rfl rfl
    | some call =>
      simp only [Gateway.run, hcall, Gateway.goOn] at hrun
      split at hrun <;> cases hrun
      · refine effect_of_silent (key_of_call hcall).symm (.of_eq rfl) rfl ?_
        split <;> rfl
      · exact effect_of_silent (key_congr hcall.symm) (.of_eq rfl) rfl rfl
  | emitIncomingCall callID =>
    cases hcall : s.shared.cm.call with
    | none =>
      simp only [Gateway.run, hcall, Gateway.goOn, Option.some.injEq] at hrun
      subst hrun
      exact effect_of_silent rfl (.of_eq rfl) rfl rfl
    | some call =>
      simp only [Gateway.run, hcall, Gateway.goOn] at hrun
      split at hrun <;> cases hrun
      · exact effect_of_silent rfl (.of_eq rfl) rfl rfl
      · exact effect_of_silent (key_congr hcall.symm) (.of_eq rfl) rfl rfl
  | noCarrier line | busy line | modemLost =>
    cases hcall : s.shared.cm.call with
    | none =>
      simp only [Gateway.run, hcall, Gateway.goOn, Option.some.injEq] at hrun
      subst hrun
      exact effect_of_silent rfl (.of_eq rfl) rfl rfl
    | some call =>
      simp only [Gateway.run, hcall, Gateway.goOn, Option.some.injEq] at hrun
      subst hrun
      simp only [Proper, hcall, Option.all_some, Bool.decide_and, Bool.and_eq_true,
        decide_eq_true_eq] at hproper
      exact effect_of_gone hcall hproper.1 hproper.2
        (by simp [Op.tells, CallState.terminal])
  | shutdown =>
    cases hcall : s.shared.cm.call with
    | none =>
      simp only [Gateway.run, hcall, Gateway.goOn, Option.some.injEq] at hrun
      subst hrun
      exact effect_of_silent rfl (.of_eq rfl) rfl rfl
    | some call =>
      simp only [Gateway.run, hcall, Gateway.goOn, Option.some.injEq] at hrun
      subst hrun
      refine effect_of_dropCall hcall (by simpa [Proper, hcall] using hproper)
        (.inr (by simp [told, List.filterMap_cons, Op.tells])) fun _ => ?_
      exact (settled_of_forall (by simp)).append (.inl rfl)
  | disconnect =>
    cases hcall : s.shared.cm.call with
    | none =>
      simp only [Gateway.run, hcall, Gateway.goOn, Option.some.injEq] at hrun
      subst hrun
      exact effect_of_silent rfl (.of_eq rfl) rfl rfl
    | some call =>
      simp only [Gateway.run, hcall, Gateway.goOn] at hrun
      split at hrun <;> cases hrun
      · exact effect_of_dropCall hcall (by simpa [Proper, hcall] using hproper)
          (.inl (by simp [told, Op.tells])) fun _ => (settled_of_forall (by simp)).append (.inl rfl)
      · exact effect_of_silent rfl (.of_eq rfl) rfl rfl
  | send m =>
    simp only [Gateway.run, Gateway.goOn, Option.some.injEq] at hrun
    subst hrun
    split
    · exact .sends m rfl rfl (.of_eq rfl) rfl (.inr rfl)
    · exact .sends m rfl rfl (.of_eq rfl) rfl (.inl rfl)
  | openAudio callID =>
    cases hcall : s.shared.cm.call with
    | none =>
      simp only [Gateway.run, hcall, Gateway.goOn, Option.some.injEq] at hrun
      subst hrun
      exact effect_of_silent rfl (.of_eq rfl) rfl rfl
    | some call =>
      simp only [Gateway.run, hcall, Gateway.goOn] at hrun
      split at hrun <;> cases hrun <;> exact effect_of_silent rfl (.of_eq rfl) rfl rfl
  | connect callID =>
    simp only [Gateway.run, Gateway.goOn] at hrun
    split at hrun <;> cases hrun <;> exact effect_of_silent rfl (.of_eq rfl) rfl rfl
  | stream callID b =>
    simp only [Gateway.run, Gateway.goOn] at hrun
    split at hrun <;> cases hrun <;> exact effect_of_silent rfl (.of_eq rfl) rfl rfl
  | keepBridge callID b =>
    cases hcall : s.shared.cm.call with
    | none =>
      simp only [Gateway.run, hcall, Gateway.goOn, Option.some.injEq] at hrun
      subst hrun
      exact effect_of_silent rfl (.of_eq rfl) rfl rfl
    | some call =>
      simp only [Gateway.run, hcall, Gateway.goOn] at hrun
      split at hrun <;> cases hrun
      · exact effect_of_silent (key_of_call hcall).symm (.of_eq rfl) rfl rfl
      · exact effect_of_silent rfl (.of_eq rfl) rfl rfl
  | audio op =>
    obtain ⟨⟨audio, next⟩, -, rfl⟩ := Option.map_eq_some_iff.mp hrun
    refine effect_of_silent rfl (.of_eq rfl) rfl ?_
    rw [told, List.flatten_nil, List.append_nil, Gateway.filterMap_audio fun _ => rfl]

/-! ## The invariant -/

section

variable {i : Nat} {rest : List Op} (hthread : s.threads[i]? = some (op :: rest))

include hthread

/-- What is owed after an operation. -/
theorem owes_after (callID : String) (last : Bool) :
    owes (s.after i d rest) callID last + [op].countP (·.tells = some (callID, last)) =
      s.owes callID last + (told d).count (callID, last) := by
  have hcount : (s.after i d rest).pending.countP (fun x => decide (x.tells = some (callID, last))) +
      [op].countP (fun x => decide (x.tells = some (callID, last))) = _ :=
    Handlers.countP_pending_after hthread _
  have htold : (told d).count (callID, last) =
      d.next.countP (fun x => decide (x.tells = some (callID, last))) +
        d.spawned.flatten.countP fun x => decide (x.tells = some (callID, last)) := by
    rw [told, List.count_filterMap, List.countP_append]
    simp only [beq_eq_decide]
  rw [owes, owes, htold]
  exact hcount

/-- Where nothing new is to be reported, less is owed. -/
theorem owes_after_le (htold : (callID, last) ∈ told d → op.tells = some (callID, last))
    (hone : (told d).length ≤ 1) : owes (s.after i d rest) callID last ≤ s.owes callID last := by
  have howes := owes_after (d := d) hthread callID last
  by_cases hmem : (callID, last) ∈ told d
  · have hcount : (told d).count (callID, last) ≤ 1 := List.count_le_length.trans hone
    simp only [List.countP_singleton, htold hmem, decide_true, if_true] at howes
    omega
  · rw [List.count_eq_zero.mpr hmem] at howes
    omega

end

/-- The reports that were made and that are to come, for each call ID. -/
structure Reported (s : Calls) : Prop where
  /-- Of the call that is there, the last report has not come, and no handler has it. -/
  alive : ∀ callID, s.shared.key.map Prod.fst = some callID →
    s.owes callID true = 0 ∧ ∀ m ∈ s.shared.sent, ¬ m.Ends callID
  /-- Of a call that is not there, one report at most is to come, and it is the last. -/
  gone : ∀ callID, s.shared.key.map Prod.fst ≠ some callID →
    s.owes callID false = 0 ∧ s.owes callID true ≤ 1
  ended : ∀ callID, ∀ m ∈ s.shared.sent, m.Ends callID → s.owes callID true = 0
  unknown : ∀ callID, callID ∉ s.shared.placed.map Prod.fst →
    (∀ last, s.owes callID last = 0) ∧ ∀ m ∈ s.shared.sent, ¬ m.Reports callID
  wellFormed : WellFormed s.shared.sent

/-- A handler that is to report a call is one of those that are counted. -/
theorem owes_pos (hop : op ∈ s.pending) (htells : op.tells = some (callID, last)) :
    0 < s.owes callID last :=
  List.countP_pos_iff.mpr ⟨op, hop, by simp [htells]⟩

/-- Only of the call that is there a report is to come that is not the last. -/
theorem Reported.isAlive (h : s.Reported) (hop : op ∈ s.pending)
    (htells : op.tells = some (callID, false)) : s.shared.key.map Prod.fst = some callID := by
  by_contra hkey
  have hpos := owes_pos hop htells
  rw [(h.gone callID hkey).1] at hpos
  exact Nat.lt_irrefl 0 hpos

/-- What a message says, its handler had to say. -/
theorem tells_of_reports {m : Message} (hm : m.Reports callID) :
    ∃ last, (Op.send m).tells = some (callID, last) ∧ (m.Ends callID ↔ last = true) := by
  cases m with
  | callState c state reason duration =>
    cases hm
    exact ⟨state.terminal, rfl, ⟨fun hends => hends.2, fun hlast => ⟨rfl, hlast⟩⟩⟩
  | ack => exact hm.elim
  | incomingCall => exact hm.elim

section

variable {i : Nat} {rest : List Op} (h : s.Reported) (hthread : s.threads[i]? = some (op :: rest))

include h hthread

theorem Reported.keeps (hkey : d.shared.key = s.shared.key)
    (hsame : Unchanged s.shared d.shared) (hsent : d.shared.sent = s.shared.sent)
    (htold : told d = [] ∨ ∃ callID last, told d = [(callID, last)] ∧
      (op.tells = some (callID, last) ∨ last = false ∧ s.shared.key.map Prod.fst = some callID))
    (hplaced : ∀ callID, s.shared.key.map Prod.fst = some callID →
      callID ∈ s.shared.placed.map Prod.fst) : Reported (s.after i d rest) := by
  have hle : ∀ callID last, (last = false → s.shared.key.map Prod.fst ≠ some callID) →
      owes (s.after i d rest) callID last ≤ s.owes callID last := by
    intro callID last halive
    refine owes_after_le hthread (fun hmem => ?_) ?_
    · obtain htold | ⟨c, b, htold, hfrom⟩ := htold
      · rw [htold] at hmem
        exact absurd hmem List.not_mem_nil
      · rw [htold, List.mem_singleton, Prod.mk.injEq] at hmem
        obtain ⟨rfl, rfl⟩ := hmem
        exact hfrom.resolve_right fun hkey => halive hkey.1 hkey.2
    · obtain htold | ⟨_, _, htold, -⟩ := htold <;> simp [htold]
  have htrue := fun callID => hle callID true nofun
  refine ⟨fun callID halive => ?_, fun callID hgone => ?_, fun callID m hm hends => ?_,
    fun callID hunknown => ?_, ?_⟩
  · rw [Handlers.shared_after, hkey] at halive
    rw [Handlers.shared_after, hsent]
    exact ⟨Nat.le_zero.mp ((h.alive callID halive).1 ▸ htrue callID), (h.alive callID halive).2⟩
  · rw [Handlers.shared_after, hkey] at hgone
    have hold := h.gone callID hgone
    exact ⟨Nat.le_zero.mp (hold.1 ▸ hle callID false fun _ => hgone),
      (htrue callID).trans hold.2⟩
  · rw [Handlers.shared_after, hsent] at hm
    exact Nat.le_zero.mp (h.ended callID m hm hends ▸ htrue callID)
  · rw [Handlers.shared_after, hsame.placed] at hunknown
    rw [Handlers.shared_after, hsent]
    have hold := h.unknown callID hunknown
    refine ⟨fun last => Nat.le_zero.mp (hold.1 last ▸ hle callID last fun _ hkey => ?_), hold.2⟩
    exact hunknown (hplaced callID hkey)
  · rw [Handlers.shared_after, hsent]
    exact h.wellFormed

theorem Reported.sends {m : Message} (hop : op = .send m) (hkey : d.shared.key = s.shared.key)
    (hsame : Unchanged s.shared d.shared) (htold : told d = [])
    (hsent : d.shared.sent = s.shared.sent ∨ d.shared.sent = s.shared.sent ++ [m])
    (hplaced : ∀ callID, s.shared.key.map Prod.fst = some callID →
      callID ∈ s.shared.placed.map Prod.fst) : Reported (s.after i d rest) := by
  obtain hsent | hsent := hsent
  · exact h.keeps hthread hkey hsame hsent (.inl htold) hplaced
  subst hop
  have hpending := Handlers.mem_pending hthread
  have hle : ∀ callID last, owes (s.after i d rest) callID last ≤ s.owes callID last :=
    fun callID last => owes_after_le hthread (by simp [htold]) (by simp [htold])
  have hmem : ∀ m', m' ∈ d.shared.sent → m' ∈ s.shared.sent ∨ m' = m := fun m' hm' => by
    rw [hsent] at hm'
    exact (List.mem_append.mp hm').imp_right List.mem_singleton.mp
  -- The last report of a call is not that of one that is there.
  have hlast : ∀ callID, m.Ends callID → 0 < s.owes callID true ∧
      s.shared.key.map Prod.fst ≠ some callID := by
    intro callID hends
    obtain ⟨last, htells, hiff⟩ := tells_of_reports hends.reports
    rw [hiff.mp hends] at htells
    have hpos := owes_pos hpending htells
    exact ⟨hpos, fun halive => (Nat.ne_of_gt hpos) (h.alive callID halive).1⟩
  refine ⟨fun callID halive => ?_, fun callID hgone => ?_, fun callID m' hm' hends => ?_,
    fun callID hunknown => ?_, ?_⟩
  · rw [Handlers.shared_after, hkey] at halive
    have hold := h.alive callID halive
    refine ⟨Nat.le_zero.mp (hold.1 ▸ hle callID true), fun m' hm' hends => ?_⟩
    obtain hm' | rfl := hmem m' hm'
    · exact hold.2 m' hm' hends
    · exact (hlast callID hends).2 halive
  · rw [Handlers.shared_after, hkey] at hgone
    have hold := h.gone callID hgone
    exact ⟨Nat.le_zero.mp (hold.1 ▸ hle callID false), (hle callID true).trans hold.2⟩
  · obtain hm' | rfl := hmem m' hm'
    · exact Nat.le_zero.mp (h.ended callID m' hm' hends ▸ hle callID true)
    · obtain ⟨last, htells, hiff⟩ := tells_of_reports hends.reports
      rw [hiff.mp hends] at htells
      have howes := owes_after (d := d) hthread callID true
      have hone := (h.gone callID (hlast callID hends).2).2
      simp only [List.countP_singleton, htells, decide_true, if_true, htold, List.count_nil]
        at howes
      omega
  · rw [Handlers.shared_after, hsame.placed] at hunknown
    have hold := h.unknown callID hunknown
    refine ⟨fun last => Nat.le_zero.mp (hold.1 last ▸ hle callID last), fun m' hm' hreports => ?_⟩
    obtain hm' | rfl := hmem m' hm'
    · exact hold.2 m' hm' hreports
    · obtain ⟨last, htells, -⟩ := tells_of_reports hreports
      exact Nat.ne_of_gt (owes_pos hpending htells) (hold.1 last)
  · rw [Handlers.shared_after, hsent]
    refine List.pairwise_append.mpr ⟨h.wellFormed, List.pairwise_singleton .., ?_⟩
    rintro m' hm' _ hm callID hends hreports
    cases List.mem_singleton.mp hm
    obtain ⟨last, htells, -⟩ := tells_of_reports hreports
    cases last with
    | true => exact Nat.ne_of_gt (owes_pos hpending htells) (h.ended callID m' hm' hends)
    | false => exact (h.alive callID (h.isAlive hpending htells)).2 m' hm' hends

theorem Reported.takes {line : Nat} (hkey : s.shared.key = some (callID, line))
    (htaken : d.shared.key = none) (hsame : Unchanged s.shared d.shared)
    (hsent : d.shared.sent = s.shared.sent) (halone : s.Alone op callID)
    (htold : told d = [] ∨ told d = [(callID, true)])
    (hplaced : callID ∈ s.shared.placed.map Prod.fst) : Reported (s.after i d rest) := by
  have hother : ∀ c, c ≠ callID → ∀ last, owes (s.after i d rest) c last ≤ s.owes c last := by
    intro c hc last
    refine owes_after_le hthread (fun hmem => ?_) ?_
    · obtain htold | htold := htold <;> simp [htold, hc] at hmem
    · obtain htold | htold := htold <;> simp [htold]
  have hself : ∀ last, owes (s.after i d rest) callID last = (told d).count (callID, last) := by
    intro last
    have howes := owes_after (d := d) hthread callID last
    rw [halone last] at howes
    omega
  have hfst : s.shared.key.map Prod.fst = some callID := by rw [hkey, Option.map_some]
  refine ⟨fun c halive => ?_, fun c _ => ?_, fun c m hm hends => ?_, fun c hunknown => ?_, ?_⟩
  · rw [Handlers.shared_after, htaken] at halive
    cases halive
  · by_cases hc : c = callID
    · subst hc
      rw [hself, hself]
      obtain htold | htold := htold <;> simp [htold]
    · have hold := h.gone c fun halive => hc (Option.some.inj (halive.symm.trans hfst))
      exact ⟨Nat.le_zero.mp (hold.1 ▸ hother c hc false), (hother c hc true).trans hold.2⟩
  · rw [Handlers.shared_after, hsent] at hm
    have hc : c ≠ callID := fun hc => (h.alive callID hfst).2 m hm (hc ▸ hends)
    exact Nat.le_zero.mp (h.ended c m hm hends ▸ hother c hc true)
  · rw [Handlers.shared_after, hsame.placed] at hunknown
    rw [Handlers.shared_after, hsent]
    have hold := h.unknown c hunknown
    have hc : c ≠ callID := fun hc => hunknown (hc ▸ hplaced)
    exact ⟨fun last => Nat.le_zero.mp (hold.1 last ▸ hother c hc last), hold.2⟩
  · rw [Handlers.shared_after, hsent]
    exact h.wellFormed

theorem Reported.places {line : Nat} (hfree : s.shared.key = none)
    (hkey : d.shared.key = some (callID, line))
    (hplaced : d.shared.placed = (callID, line) :: s.shared.placed)
    (hsent : d.shared.sent = s.shared.sent)
    (htold : told d = [] ∨ told d = [(callID, false)])
    (hnew : callID ∉ s.shared.placed.map Prod.fst) : Reported (s.after i d rest) := by
  have hother : ∀ c last, ¬ (c = callID ∧ last = false) →
      owes (s.after i d rest) c last ≤ s.owes c last := by
    intro c last hc
    refine owes_after_le hthread (fun hmem => ?_) ?_
    · obtain htold | htold := htold
      · simp [htold] at hmem
      · rw [htold, List.mem_singleton, Prod.mk.injEq] at hmem
        exact absurd hmem hc
    · obtain htold | htold := htold <;> simp [htold]
  have hunknown := h.unknown callID hnew
  have hnone : ∀ c, s.shared.key.map Prod.fst ≠ some c := fun c hc => by
    rw [hfree] at hc
    cases hc
  have hfst : d.shared.key.map Prod.fst = some callID := by rw [hkey, Option.map_some]
  refine ⟨fun c halive => ?_, fun c hgone => ?_, fun c m hm hends => ?_, fun c hc => ?_, ?_⟩
  · rw [Handlers.shared_after, hfst, Option.some.injEq] at halive
    subst halive
    rw [Handlers.shared_after, hsent]
    exact ⟨Nat.le_zero.mp (hunknown.1 true ▸ hother callID true nofun),
      fun m hm hends => hunknown.2 m hm hends.reports⟩
  · rw [Handlers.shared_after, hfst] at hgone
    have hold := h.gone c (hnone c)
    have hc : c ≠ callID := fun hc => hgone (hc ▸ rfl)
    exact ⟨Nat.le_zero.mp (hold.1 ▸ hother c false fun hand => hc hand.1),
      (hother c true nofun).trans hold.2⟩
  · rw [Handlers.shared_after, hsent] at hm
    exact Nat.le_zero.mp (h.ended c m hm hends ▸ hother c true nofun)
  · rw [Handlers.shared_after, hplaced, List.map_cons, List.mem_cons, not_or] at hc
    rw [Handlers.shared_after, hsent]
    have hold := h.unknown c hc.2
    exact ⟨fun last => Nat.le_zero.mp (hold.1 last ▸ hother c last fun hand => hc.1 hand.1),
      hold.2⟩
  · rw [Handlers.shared_after, hsent]
    exact h.wellFormed

end

/-- The call IDs and the calls on the modem that there were, and who may report a call as ended. -/
structure Numbered (s : Calls) : Prop where
  here : ∀ callID line, s.shared.key = some (callID, line) → (callID, line) ∈ s.shared.placed
  one : (s.shared.placed.map Prod.fst).Nodup
  generated : ∀ callID ∈ s.shared.placed.map Prod.fst, "call-".toList <+: callID.toList →
    ∃ ms seq, seq ≤ s.shared.cm.callIDSeq ∧ callID = Gateway.callIDOf ms seq
  placed : ∀ entry ∈ s.shared.placed, entry.2 < s.shared.nextLine
  lines : ∀ line ∈ s.shared.lines, line < s.shared.nextLine
  settled : ∀ thread ∈ s.threads, Settled s.shared thread

theorem Numbered.known (h : s.Numbered) (hkey : s.shared.key.map Prod.fst = some callID) :
    callID ∈ s.shared.placed.map Prod.fst := by
  obtain ⟨⟨c, line⟩, hcall, rfl⟩ := Option.map_eq_some_iff.mp hkey
  exact List.mem_map.mpr ⟨_, h.here c line hcall, rfl⟩

/-- An ID stands for one call on the modem. -/
theorem Numbered.line_eq (h : s.Numbered) {line line' : Nat}
    (hline : (callID, line) ∈ s.shared.placed) (hline' : (callID, line') ∈ s.shared.placed) :
    line' = line :=
  congrArg Prod.snd (List.inj_on_of_nodup_map h.one hline' hline rfl)

/-- The ID of a call that comes is new. -/
theorem Numbered.isNew (h : s.Numbered)
    (hnew : callID = s.shared.generateCallID ∨ New s.shared callID) :
    callID ∉ s.shared.placed.map Prod.fst := by
  obtain rfl | hnew := hnew
  · intro hmem
    obtain ⟨ms, seq, hseq, hid⟩ := h.generated _ hmem (Gateway.callIDOf_begins ..)
    have := Gateway.seq_of_callIDOf hid
    omega
  · exact hnew.1

/-- After an operation that hangs up, every handler may report, or ATH is to come. -/
theorem settled_of_hangsUp (hproper : s.Proper r op) (hhangs : op.hangsUp = true)
    (hrun : Gateway.run s.shared r op = some d) (rest : List Op) :
    Settled d.shared (d.next ++ rest) := by
  have hclear : ∀ ops, ¬ r.keeps → Settled (s.shared.hungUp r.keeps) ops := fun ops hkeeps =>
    settled_of_forall fun callID _ hon => by
      obtain ⟨line, hline, -⟩ := hon
      simp [Gateway.hungUp, hkeeps] at hline
  cases op with
  | hangup =>
    simp only [Gateway.run, Gateway.goOn, Option.some.injEq] at hrun
    subst hrun
    by_cases herror : r.error = none
    · exact hclear _ (hproper.resolve_left (not_not.mpr herror))
    · simp only [herror, if_false]
      exact .inl rfl
  | hangupATH =>
    simp only [Gateway.run, Gateway.goOn, Option.some.injEq] at hrun
    subst hrun
    exact hclear _ hproper
  | _ => cases hhangs

section

variable {i : Nat} {rest : List Op} (h : s.Numbered)

include h

/-- No call ID is given, and what the handler goes on with is settled. -/
theorem Numbered.unchanged (hkey : d.shared.key = s.shared.key ∨ d.shared.key = none)
    (hsame : Unchanged s.shared d.shared) (hnext : Settled d.shared (d.next ++ rest))
    (hspawned : ∀ thread ∈ d.spawned, Settled d.shared thread) :
    Numbered (s.after i d rest) := by
  refine ⟨fun callID line hcall => ?_, ?_, ?_, ?_, ?_, ?_⟩
  · rw [Handlers.shared_after] at hcall ⊢
    rw [hsame.placed]
    obtain hkey | hkey := hkey
    · exact h.here callID line (hkey ▸ hcall)
    · cases hkey.symm.trans hcall
  · rw [Handlers.shared_after, hsame.placed]
    exact h.one
  · rw [Handlers.shared_after, hsame.placed, hsame.callIDSeq]
    exact h.generated
  · rw [Handlers.shared_after, hsame.placed, hsame.nextLine]
    exact h.placed
  · rw [Handlers.shared_after, hsame.nextLine]
    exact fun line hline => h.lines line (hsame.lines hline)
  · exact Handlers.forall_after h.settled
      (fun thread _ hsettled => hsettled.mono fun callID _ hon => hsame.onModem hon) hnext hspawned

variable (hthread : s.threads[i]? = some (op :: rest))

include hthread

/-- What follows from an operation of the handler is settled, and so is the rest of it. -/
theorem Numbered.settled_after (hproper : s.Proper r op)
    (hrun : Gateway.run s.shared r op = some d) (hsame : Unchanged s.shared d.shared)
    (hnext : Settled d.shared d.next) : Settled d.shared (d.next ++ rest) := by
  obtain hhangs | ⟨-, hrest⟩ := h.settled _ (List.mem_of_getElem? hthread)
  · exact settled_of_hangsUp hproper hhangs hrun rest
  · exact hnext.append (hrest.mono fun callID _ hon => hsame.onModem hon)

theorem Numbered.keeps (hproper : s.Proper r op) (hrun : Gateway.run s.shared r op = some d)
    (hkey : d.shared.key = s.shared.key) (hsame : Unchanged s.shared d.shared)
    (htold : ∀ callID, (callID, true) ∈ told d → op.tells = some (callID, true)) :
    Numbered (s.after i d rest) := by
  by_cases hhangs : op.hangsUp = true
  · refine h.unchanged (.inl hkey) hsame (settled_of_hangsUp hproper hhangs hrun rest) ?_
    cases op with
    | hangup | hangupATH =>
      cases hrun
      exact fun _ hmem => absurd hmem List.not_mem_nil
    | _ => cases hhangs
  · obtain ⟨hhead, hrest⟩ := (h.settled _ (List.mem_of_getElem? hthread)).resolve_left hhangs
    have hgone : ∀ callID, (callID, true) ∈ told d → ¬ d.shared.OnModem callID :=
      fun callID hmem hon => hhead callID (htold callID hmem) (hsame.onModem hon)
    refine h.unchanged (.inl hkey) hsame (h.settled_after hthread hproper hrun hsame ?_) ?_
    · refine settled_of_forall fun callID hmem => hgone callID ?_
      rw [told, List.filterMap_append]
      exact List.mem_append_left _ hmem
    · refine fun thread hthread => settled_of_forall fun callID hmem => hgone callID ?_
      obtain ⟨x, hx, htells⟩ := List.mem_filterMap.mp hmem
      exact List.mem_filterMap.mpr ⟨x, List.mem_append_right _
        (List.mem_flatten.mpr ⟨thread, hthread, hx⟩), htells⟩

theorem Numbered.places {line : Nat} (hreported : s.Reported) (hproper : s.Proper r op)
    (hrun : Gateway.run s.shared r op = some d) (hkey : d.shared.key = some (callID, line))
    (hplaced : d.shared.placed = (callID, line) :: s.shared.placed)
    (hisNew : callID = s.shared.generateCallID ∧
        d.shared.cm.callIDSeq = s.shared.cm.callIDSeq + 1 ∨
      New s.shared callID ∧ d.shared.cm.callIDSeq = s.shared.cm.callIDSeq)
    (hline : d.shared.nextLine = max s.shared.nextLine (line + 1))
    (hlines : d.shared.lines = s.shared.lines ∨
      line = s.shared.nextLine ∧ d.shared.lines = line :: s.shared.lines)
    (htold : told d = [] ∨ told d = [(callID, false)]) : Numbered (s.after i d rest) := by
  have hnew := h.isNew (hisNew.imp And.left And.left)
  have hother : ∀ c, c ≠ callID → d.shared.OnModem c → s.shared.OnModem c := by
    rintro c hc ⟨l, hl, hmem⟩
    rw [hplaced] at hmem
    have hmem := (List.mem_cons.mp hmem).resolve_left fun heq => hc (congrArg Prod.fst heq)
    refine ⟨l, ?_, hmem⟩
    obtain hlines | ⟨hfresh, hlines⟩ := hlines
    · exact hlines ▸ hl
    · rw [hlines] at hl
      refine (List.mem_cons.mp hl).resolve_left fun heq => ?_
      have := h.placed _ hmem
      simp only [heq, hfresh, Nat.lt_irrefl] at this
  have hthreads : ∀ thread ∈ s.threads, ∀ c, (c, true) ∈ thread.filterMap Op.tells →
      c ≠ callID := by
    rintro thread hmem c hc rfl
    obtain ⟨x, hx, htells⟩ := List.mem_filterMap.mp hc
    have hpos := owes_pos (List.mem_flatten.mpr ⟨thread, hmem, hx⟩) htells
    exact Nat.ne_of_gt hpos ((hreported.unknown c hnew).1 true)
  refine ⟨fun c l hcall => ?_, ?_, ?_, ?_, ?_, ?_⟩
  · rw [Handlers.shared_after] at hcall ⊢
    rw [hkey, Option.some.injEq] at hcall
    rw [hplaced, hcall]
    exact List.mem_cons_self
  · rw [Handlers.shared_after, hplaced, List.map_cons, List.nodup_cons]
    exact ⟨hnew, h.one⟩
  · rw [Handlers.shared_after, hplaced, List.map_cons]
    intro c hc hbegins
    obtain rfl | hc := List.mem_cons.mp hc
    · obtain ⟨hgenerated, hseq⟩ | ⟨hserver, -⟩ := hisNew
      · exact ⟨s.shared.now, _, Nat.le_refl _, hseq ▸ hgenerated⟩
      · exact absurd hbegins hserver.2
    · obtain ⟨ms, seq, hseq, hid⟩ := h.generated c hc hbegins
      refine ⟨ms, seq, hseq.trans ?_, hid⟩
      obtain ⟨-, hseq⟩ | ⟨-, hseq⟩ := hisNew <;> omega
  · rw [Handlers.shared_after, hplaced, hline]
    intro entry hentry
    obtain rfl | hentry := List.mem_cons.mp hentry
    · exact Nat.lt_of_lt_of_le (Nat.lt_succ_self _) (Nat.le_max_right ..)
    · exact Nat.lt_of_lt_of_le (h.placed entry hentry) (Nat.le_max_left ..)
  · rw [Handlers.shared_after, hline]
    intro l hl
    obtain hlines | ⟨-, hlines⟩ := hlines
    · exact Nat.lt_of_lt_of_le (h.lines l (hlines ▸ hl)) (Nat.le_max_left ..)
    · obtain rfl | hl := List.mem_cons.mp (hlines ▸ hl)
      · exact Nat.lt_of_lt_of_le (Nat.lt_succ_self _) (Nat.le_max_right ..)
      · exact Nat.lt_of_lt_of_le (h.lines l hl) (Nat.le_max_left ..)
  · have hsilent : ∀ ops, (∀ x ∈ ops, x ∈ d.next ++ d.spawned.flatten) → Settled d.shared ops := by
      intro ops hops
      refine settled_of_forall fun c hmem => ?_
      obtain ⟨x, hx, htells⟩ := List.mem_filterMap.mp hmem
      have hmem : (c, true) ∈ told d := List.mem_filterMap.mpr ⟨x, hops x hx, htells⟩
      obtain htold | htold := htold <;> simp [htold] at hmem
    refine Handlers.forall_after h.settled (fun thread hmem hsettled =>
      hsettled.mono fun c hc => hother c (hthreads thread hmem c hc)) ?_ fun thread hmem =>
        hsilent thread fun x hx => List.mem_append_right _ (List.mem_flatten.mpr ⟨_, hmem, hx⟩)
    obtain hhangs | ⟨-, hrest⟩ := h.settled _ (List.mem_of_getElem? hthread)
    · exact settled_of_hangsUp hproper hhangs hrun rest
    · refine (hsilent d.next fun x hx => List.mem_append_left _ hx).append
        (hrest.mono fun c hc => hother c ?_)
      refine hthreads _ (List.mem_of_getElem? hthread) c ?_
      obtain ⟨x, hx, htells⟩ := List.mem_filterMap.mp hc
      exact List.mem_filterMap.mpr ⟨x, List.mem_cons_of_mem _ hx, htells⟩

end

/-- **The invariant.** -/
structure InOrder (s : Calls) : Prop where
  reported : s.Reported
  numbered : s.Numbered

theorem init_inOrder (connected : Bool) (now : Nat) : (init connected now).InOrder := by
  refine ⟨⟨nofun, fun _ _ => ⟨rfl, Nat.zero_le _⟩, nofun, fun _ _ => ⟨fun _ => rfl, nofun⟩, .nil⟩,
    ⟨nofun, .nil, nofun, nofun, nofun, fun thread hmem => ?_⟩⟩
  rw [List.mem_singleton.mp hmem]
  trivial

/-- What a handler does keeps the invariant. -/
theorem InOrder.run (h : s.InOrder) {i : Nat} (horderly : s.Orderly (.run i r))
    (hstep : s.step (.run i r) = some t) : t.InOrder := by
  obtain ⟨op, rest, d, hthread, hrun, rfl⟩ := Handlers.of_advance hstep
  obtain ⟨hreported, hnumbered⟩ := h
  have hproper : s.Proper r op := horderly op (by rw [head, hthread]; rfl)
  have hknown := fun callID (hkey : s.shared.key.map Prod.fst = some callID) => hnumbered.known hkey
  cases hproper.effect (fun _ => hreported.isAlive (Handlers.mem_pending hthread)) hrun with
  | keeps hkey hsame hsent htold =>
    refine ⟨hreported.keeps hthread hkey hsame hsent htold hknown,
      hnumbered.keeps hthread hproper hrun hkey hsame fun callID hmem => ?_⟩
    obtain htold | ⟨c, last, htold, hfrom⟩ := htold
    · simp [htold] at hmem
    · rw [htold, List.mem_singleton, Prod.mk.injEq] at hmem
      obtain ⟨rfl, rfl⟩ := hmem
      exact hfrom.resolve_right nofun
  | sends m hop hkey hsame htold hsent =>
    exact ⟨hreported.sends hthread hop hkey hsame htold hsent hknown,
      hnumbered.keeps hthread hproper hrun hkey hsame (by simp [htold])⟩
  | takes callID line hkey htaken hsame hsent halone hspawned htold hsettled =>
    have hhere := hnumbered.here callID line hkey
    refine ⟨hreported.takes hthread hkey htaken hsame hsent halone htold
        (List.mem_map.mpr ⟨_, hhere, rfl⟩),
      hnumbered.unchanged (.inr htaken) hsame ?_ (by simp [hspawned])⟩
    exact hnumbered.settled_after hthread hproper hrun hsame
      (hsettled fun line' hline' => hnumbered.line_eq hhere hline')
  | places callID line hfree hkey hplaced hsent hisNew hline hlines htold =>
    have hnew := hnumbered.isNew (hisNew.imp And.left And.left)
    exact ⟨hreported.places hthread hfree hkey hplaced hsent htold hnew,
      hnumbered.places hthread hreported hproper hrun hkey hplaced hisNew hline hlines htold⟩

/-- What happens outside of the handlers: nothing is reported, and at most a new call comes to the
modem. -/
structure Outside (s t : Calls) : Prop where
  key : t.shared.key = s.shared.key
  placed : t.shared.placed = s.shared.placed
  callIDSeq : t.shared.cm.callIDSeq = s.shared.cm.callIDSeq
  sent : t.shared.sent = s.shared.sent
  lines : t.shared.nextLine = s.shared.nextLine ∧ t.shared.lines ⊆ s.shared.lines ∨
    t.shared.nextLine = s.shared.nextLine + 1 ∧
      t.shared.lines = s.shared.nextLine :: s.shared.lines
  pending : t.pending.filterMap Op.tells = s.pending.filterMap Op.tells
  threads : ∀ thread ∈ t.threads, thread ∈ s.threads ∨ thread.filterMap Op.tells = []

/-- A handler is started that has nothing to report yet. -/
theorem outside_start {g : Gateway} {thread : List Op} (hkey : g.key = s.shared.key)
    (hplaced : g.placed = s.shared.placed) (hseq : g.cm.callIDSeq = s.shared.cm.callIDSeq)
    (hsent : g.sent = s.shared.sent)
    (hlines : g.nextLine = s.shared.nextLine ∧ g.lines ⊆ s.shared.lines ∨
      g.nextLine = s.shared.nextLine + 1 ∧ g.lines = s.shared.nextLine :: s.shared.lines)
    (hthread : thread.filterMap Op.tells = []) : Outside s (s.start g thread) := by
  refine ⟨hkey, hplaced, hseq, hsent, hlines, ?_, fun thread' hmem => ?_⟩
  · rw [Handlers.pending, start, List.flatten_append, List.flatten_singleton,
      List.filterMap_append, hthread, List.append_nil, Handlers.pending]
  · obtain hmem | hmem := List.mem_append.mp hmem
    · exact .inl hmem
    · exact .inr (List.mem_singleton.mp hmem ▸ hthread)

theorem URC.tells_handle (line : Nat) (urc : URC) :
    (urc.handle line).filterMap Op.tells = [] := by
  cases urc <;> rfl

theorem Request.tells_handle (request : Request) : request.handle.filterMap Op.tells = [] := by
  cases request <;> rfl

/-- The data of the gateway is what it was, but for what is not reported. -/
theorem outside_of_shared {g : Gateway} (hkey : g.key = s.shared.key)
    (hsame : Unchanged s.shared g) (hsent : g.sent = s.shared.sent) :
    Outside s { s with shared := g } :=
  ⟨hkey, hsame.placed, hsame.callIDSeq, hsent, .inl ⟨hsame.nextLine, hsame.lines⟩, rfl,
    fun _ hmem => .inl hmem⟩

/-- What is not a step of a handler. -/
theorem outside_of_step {e : Event} (hstep : s.step e = some t) (he : ∀ i r, e ≠ .run i r) :
    Outside s t := by
  have hsame := And.intro (a := s.shared.nextLine = s.shared.nextLine) rfl
    (List.Subset.refl s.shared.lines)
  cases e with
  | message request =>
    simp only [step] at hstep
    split at hstep
    · next hidle =>
      cases hstep
      refine ⟨rfl, rfl, rfl, rfl, .inl hsame, ?_, fun thread hmem => ?_⟩
      · obtain ⟨hlength, hget⟩ := List.getElem?_eq_some_iff.mp hidle
        cases hthreads : s.threads with
        | nil => simp [hthreads] at hlength
        | cons first others =>
          have hfirst : first = [] := by simpa [hthreads] using hget
          simp [Handlers.pending, hthreads, hfirst, Request.tells_handle]
      · refine (List.mem_or_eq_of_mem_set hmem).imp_right fun heq => ?_
        rw [heq, Request.tells_handle]
    · cases hstep
  | urc line urc =>
    obtain ⟨g, hg, rfl⟩ := Option.map_eq_some_iff.mp hstep
    have hring : ∀ g, (if line ∈ s.shared.lines then some s.shared
        else if line = s.shared.nextLine then
          some { s.shared with lines := line :: s.shared.lines, nextLine := line + 1 }
        else none) = some g →
        Outside s (s.start g (urc.handle line)) := by
      intro g hg
      split at hg
      · cases hg
        exact outside_start rfl rfl rfl rfl (.inl hsame) (URC.tells_handle line urc)
      · split at hg
        · next hfresh =>
          cases hg
          exact outside_start rfl rfl rfl rfl (.inr ⟨congrArg (· + 1) hfresh, by rw [hfresh]⟩)
            (URC.tells_handle line urc)
        · cases hg
    cases urc with
    | ring | cring => exact hring g hg
    | noCarrier | missedCall | busy =>
      cases hg
      exact outside_start rfl rfl rfl rfl (.inl ⟨rfl, List.filter_subset_self ..⟩) rfl
    | clip | voiceCall | other =>
      cases hg
      exact outside_start rfl rfl rfl rfl (.inl hsame) rfl
  | fire callID =>
    simp only [step] at hstep
    split at hstep <;> cases hstep
    exact outside_start rfl rfl rfl rfl (.inl hsame) rfl
  | connected | wait =>
    cases hstep
    exact outside_of_shared rfl (.of_eq rfl) rfl
  | disconnected | shutdown =>
    cases hstep
    exact outside_start rfl rfl rfl rfl (.inl hsame) rfl
  | modemLost =>
    cases hstep
    exact outside_start rfl rfl rfl rfl (.inl ⟨rfl, List.nil_subset _⟩) rfl
  | bridgeLoopEnds | pcmLoopEnds =>
    obtain ⟨audio, -, rfl⟩ := Option.map_eq_some_iff.mp hstep
    exact outside_of_shared rfl (.of_eq rfl) rfl
  | run i r => exact absurd rfl (he i r)

theorem Outside.owes_eq (h : Outside s t) (callID : String) (last : Bool) :
    t.owes callID last = s.owes callID last := by
  have hcount : ∀ u : Calls, u.owes callID last =
      (u.pending.filterMap Op.tells).count (callID, last) := fun u => by
    rw [List.count_filterMap, owes]
    simp only [beq_eq_decide]
  rw [hcount, hcount, h.pending]

theorem InOrder.outside (h : s.InOrder) (hout : Outside s t) : t.InOrder := by
  obtain ⟨hreported, hnumbered⟩ := h
  refine ⟨⟨?_, ?_, ?_, ?_, ?_⟩, ⟨?_, ?_, ?_, ?_, ?_, ?_⟩⟩
  · simp only [hout.owes_eq, hout.key, hout.sent]
    exact hreported.alive
  · simp only [hout.owes_eq, hout.key]
    exact hreported.gone
  · simp only [hout.owes_eq, hout.sent]
    exact hreported.ended
  · simp only [hout.owes_eq, hout.sent, hout.placed]
    exact hreported.unknown
  · rw [hout.sent]
    exact hreported.wellFormed
  · rw [hout.key, hout.placed]
    exact hnumbered.here
  · rw [hout.placed]
    exact hnumbered.one
  · rw [hout.placed, hout.callIDSeq]
    exact hnumbered.generated
  · rw [hout.placed]
    intro entry hentry
    have := hnumbered.placed entry hentry
    obtain ⟨hline, -⟩ | ⟨hline, -⟩ := hout.lines <;> omega
  · intro line hline
    obtain ⟨hnext, hlines⟩ | ⟨hnext, hlines⟩ := hout.lines
    · exact hnext ▸ hnumbered.lines line (hlines hline)
    · rw [hlines] at hline
      obtain rfl | hline := List.mem_cons.mp hline
      · omega
      · have := hnumbered.lines line hline
        omega
  · intro thread hmem
    obtain hmem | hsilent := hout.threads thread hmem
    · refine (hnumbered.settled thread hmem).mono fun callID _ ⟨line, hline, hplaced⟩ => ?_
      rw [hout.placed] at hplaced
      refine ⟨line, ?_, hplaced⟩
      obtain ⟨-, hlines⟩ | ⟨-, hlines⟩ := hout.lines
      · exact hlines hline
      · rw [hlines] at hline
        refine (List.mem_cons.mp hline).resolve_left fun heq => ?_
        have := hnumbered.placed _ hplaced
        simp only [heq, Nat.lt_irrefl] at this
    · exact settled_of_forall fun callID hcall => by simp [hsilent] at hcall

/-- **One step.** -/
theorem InOrder.step (h : s.InOrder) {e : Event} (horderly : s.Orderly e)
    (hstep : s.step e = some t) : t.InOrder := by
  by_cases hrun : ∃ i r, e = .run i r
  · obtain ⟨i, r, rfl⟩ := hrun
    exact h.run horderly hstep
  · exact h.outside (outside_of_step hstep fun i r he => hrun ⟨i, r, he⟩)

/-- A call that is reported to have ended is not on the modem. -/
theorem InOrder.not_onModem (h : s.InOrder) {e : Event} (horderly : s.Orderly e)
    (hstep : s.step e = some t) {m : Message} (hm : m ∈ newlySent s t) (hends : m.Ends callID) :
    ¬ s.shared.OnModem callID := by
  by_cases hrun : ∃ i r, e = .run i r
  · obtain ⟨i, r, rfl⟩ := hrun
    obtain ⟨op, rest, d, hthread, hrun, rfl⟩ := Handlers.of_advance hstep
    have hproper : s.Proper r op := horderly op (by rw [head, hthread]; rfl)
    have hpending := Handlers.mem_pending hthread
    have hnone : d.shared.sent = s.shared.sent → False := fun hsent => by
      simp [newlySent, hsent] at hm
    cases hproper.effect (fun _ => h.reported.isAlive hpending) hrun with
    | keeps _ _ hsent | takes _ _ _ _ _ hsent | places _ _ _ _ _ hsent => exact (hnone hsent).elim
    | sends m' hop _ _ _ hsent =>
      obtain hsent | hsent := hsent
      · exact (hnone hsent).elim
      · have hm' : m = m' := by simpa [newlySent, hsent] using hm
        subst hop hm'
        obtain ⟨last, htells, hiff⟩ := tells_of_reports hends.reports
        rw [hiff.mp hends] at htells
        exact ((h.numbered.settled _ (List.mem_of_getElem? hthread)).resolve_left nofun).1
          callID htells
  · have hsent := (outside_of_step hstep fun i r he => hrun ⟨i, r, he⟩).sent
    simp [newlySent, hsent] at hm

/-- What may fail succeeds. -/
def succeeds : Reply := ⟨none, true⟩

/-- A call that is made, is answered, and ends. -/
def madeAndAnswered : List Event :=
  [.message (.makeCall ⟨"r", "c", "+46700000000", ""⟩), .run 0 succeeds, .run 0 succeeds,
    .run 0 succeeds, .run 0 succeeds, .urc 0 (.voiceCall "BEGIN"), .run 1 succeeds, .run 1 succeeds,
    .run 1 succeeds, .wait 5000, .urc 0 .noCarrier, .run 2 succeeds, .run 2 succeeds,
    .run 2 succeeds, .run 2 succeeds]

/-- A call that ends while ATD is under way, which then fails. -/
def endedWhileDialed : List Event :=
  [.message (.makeCall ⟨"r", "c", "+46700000000", ""⟩), .run 0 succeeds, .urc 0 .noCarrier,
    .run 1 succeeds, .run 1 succeeds, .run 1 succeeds, .run 1 succeeds,
    .run 0 ⟨some "modem: command timed out", false⟩, .run 0 succeeds]

end Calls

end Svarla.ModemGateway
