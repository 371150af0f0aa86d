import Mathlib
import Svarla.ModemGateway.CallManager

/-!
# Whose audio it is

The audio of an answered call is set up by its handler, and closed by that which takes the call. The two
know of each other by the call that is there when the bridge is kept, and by nothing after that: a pipeline
may be started for a call that has ended in the meantime (`started_after_end`), and a `Stop` that is late
stops whatever pipeline runs.

In a run where a pipeline is started for the call that is there, or is still to be stopped, where each
`Stop` finds the pipeline of its own call and is through before the next one is started, and where no
bridge is lost (`Apt`), the audio belongs to the call that is there (`audio_belongs`).
-/

namespace Svarla.ModemGateway.CallAudio

open Svarla.Lib

/-! ## What is kept in view -/

/-- The gateway, with the calls that its pipeline and its handlers are there for. -/
structure Watched where
  calls : Calls
  /-- The call that the pipeline was started for last. -/
  startedFor : String
  /-- The call whose audio a handler closes. -/
  closing : Nat → Option String
  /-- The calls for which a running pipeline was stopped, each with that which it was started for. -/
  stopped : List (Option String × String)

namespace Watched

def init (connected : Bool) (now : Nat) : Watched := ⟨.init connected now, "", fun _ => none, []⟩

def gateway (s : Watched) : Gateway := s.calls.shared

def pipeline (s : Watched) : Pipeline := s.gateway.audio.pipeline

/-- What is seen of an operation of a handler, before it is done. -/
def observe (s : Watched) (i : Nat) (r : Reply) : Op → Watched
  | .audio (.enable callID) => if r.error = none then { s with startedFor := callID } else s
  | .audio .stop =>
    if s.pipeline.running then { s with stopped := s.stopped ++ [(s.closing i, s.startedFor)] } else s
  | .closeInBackground call =>
    { s with closing := Function.update s.closing s.calls.threads.length (some call.callID) }
  | .noCarrier _ | .modemLost | .disconnect | .shutdown =>
    { s with closing := Function.update s.closing i (s.gateway.cm.call.map (·.callID)) }
  | _ => s

/-- What is seen of an event. -/
def see (s : Watched) : Event → Watched
  | .run i r => (s.calls.head i).elim s (s.observe i r)
  | _ => s

/-- One event. -/
def step (s : Watched) (e : Event) : Option Watched :=
  (s.calls.step e).map fun calls => { s.see e with calls := calls }

end Watched

/-! ## What is to be done -/

/-- The bridge will be closed, or is still in the hands of its handler. -/
def closes (b : Nat) : Op → Bool
  | .stream _ b' | .keepBridge _ b' | .audio (.closeBridge b') => b' = b
  | .closeInBackground call => call.bridge = some b
  | _ => false

/-- The pipeline will be stopped. -/
def stops : Op → Bool
  | .closeInBackground _ | .audio .stop => true
  | _ => false

/-- A `Stop` waits for the loops. -/
def joins : Op → Bool
  | .audio (.joinLoops _) => true
  | _ => false

/-- A `Start` waits for the modem. -/
def enables : Op → Bool
  | .audio (.enable _) => true
  | _ => false

/-- It is part of the audio's set-up, or of its end. -/
def isAudio : Op → Bool
  | .openAudio _ | .connect _ | .stream _ _ | .keepBridge _ _ | .audio _ | .closeInBackground _ => true
  | _ => false

/-- The bridge is that of the call that is there. -/
def Attached (g : Gateway) (b : Nat) : Prop := ∃ call ∈ g.cm.call, call.bridge = some b

/-- The call that is there is answered, and has a bridge. -/
def Bridged (g : Gateway) : Prop := ∃ call ∈ g.cm.call, call.answered = true ∧ call.bridge ≠ none

/-- What is to hold of the audio. -/
structure Belongs (s : Watched) : Prop where
  /-- Once its steps have finished, the pipeline runs for an answered call only, -/
  answered : (∀ op ∈ s.calls.pending, isAudio op = false) → s.pipeline.running = true →
    ∃ call ∈ s.gateway.cm.call, call.answered = true
  /-- and every bridge but that of the call is closed, with its loops. -/
  bridges : (∀ op ∈ s.calls.pending, isAudio op = false) → ∀ b bridge,
    s.gateway.audio.bridges[b]? = some bridge → ¬ Attached s.gateway b →
      bridge.connected = false ∧ bridge.sending = false ∧ bridge.receiving = false
  /-- A `Stop` begun for a call stops the pipeline of that call, -/
  stopped : ∀ p ∈ s.stopped, p.1 = some p.2
  /-- closes no port of a pipeline that is started after that, -/
  port : s.pipeline.running = true ∨ s.pipeline.locked = true → s.pipeline.pcmPort ≠ none
  /-- and waits for none of its loops. -/
  waits : ∀ n, .audio (.joinLoops n) ∈ s.calls.pending →
    ∀ loop ∈ s.pipeline.loops, loop.startedBy ≤ n

/-! ## The condition -/

/-- The call that is there, if any, has no bridge. -/
def NoBridge (g : Gateway) : Prop := ∀ call ∈ g.cm.call, call.bridge = none

instance (g : Gateway) : Decidable (NoBridge g) :=
  inferInstanceAs (Decidable (∀ call ∈ g.cm.call, call.bridge = none))

namespace Watched

/-- The condition of an operation. -/
def AptOp (s : Watched) (i : Nat) (r : Reply) : Op → Prop
  -- a call is taken, and its audio is not closed
  | .dial _ _ | .ata _ _ => r.error ≠ none → NoBridge s.gateway
  | .busy _ => NoBridge s.gateway
  -- the bridge that the call has would be lost
  | .keepBridge callID _ => ∀ call ∈ s.gateway.cm.call, call.callID = callID → call.bridge = none
  | .audio (.enable callID) => r.error = none →
    ((∃ call ∈ s.gateway.cm.call, call.callID = callID ∧ call.answered = true ∧ call.bridge ≠ none) ∨
      ∃ op ∈ s.calls.pending, stops op = true) ∧ ∀ op ∈ s.calls.pending, joins op = false
  | .audio .stop => s.pipeline.running = true → s.closing i = some s.startedFor
  | .audio (.closePort _) => s.pipeline.running = false ∧ s.pipeline.locked = false
  | _ => True

/-- The condition of a step. -/
def Apt (s : Watched) : Event → Prop
  | .run i r => ∀ op ∈ s.calls.head i, s.AptOp i r op
  | _ => True

instance (s : Watched) (i : Nat) (r : Reply) (op : Op) : Decidable (s.AptOp i r op) := by
  cases op with
  | audio op => cases op <;> dsimp only [AptOp] <;> infer_instance
  | _ => dsimp only [AptOp]; infer_instance

instance (s : Watched) (e : Event) : Decidable (s.Apt e) := by
  cases e <;> dsimp only [Apt] <;> infer_instance

end Watched

/-! ## The account -/

/-- What is there is the call's, or will be closed. -/
structure Kept (g : Gateway) (ops : List Op) : Prop where
  bridges : ∀ b bridge, g.audio.bridges[b]? = some bridge → bridge.connected = true →
    Attached g b ∨ ∃ op ∈ ops, closes b op = true
  loops : ∀ b bridge, g.audio.bridges[b]? = some bridge →
    bridge.sending = true ∨ bridge.receiving = true →
      bridge.connected = true ∨ .audio (.joinBridge b) ∈ ops
  running : g.audio.pipeline.running = true → Bridged g ∨ ∃ op ∈ ops, stops op = true
  enabling : ops.countP enables = if g.audio.pipeline.locked = true then 1 else 0
  port : g.audio.pipeline.running = true ∨ g.audio.pipeline.locked = true →
    g.audio.pipeline.pcmPort ≠ none
  started : ∀ loop ∈ g.audio.pipeline.loops, loop.startedBy ≤ g.audio.pipeline.starts
  waits : ∀ n, .audio (.joinLoops n) ∈ ops →
    ∀ loop ∈ g.audio.pipeline.loops, loop.startedBy ≤ n

section
variable {g g' : Gateway} {op : Op} {ops ops' others next : List Op}

theorem Kept.perm (h : Kept g ops) (hperm : ops.Perm ops') : Kept g ops' where
  bridges b bridge hb hconnected := (h.bridges b bridge hb hconnected).imp_right
    fun ⟨op, hop, hcloses⟩ => ⟨op, hperm.mem_iff.mp hop, hcloses⟩
  loops b bridge hb hloops := (h.loops b bridge hb hloops).imp_right hperm.mem_iff.mp
  running hrunning := (h.running hrunning).imp_right
    fun ⟨op, hop, hstops⟩ => ⟨op, hperm.mem_iff.mp hop, hstops⟩
  enabling := (hperm.countP_eq _).symm.trans h.enabling
  port := h.port
  started := h.started
  waits n hn := h.waits n (hperm.mem_iff.mpr hn)

/-- The operation has nothing to do with what is there. -/
def quiet : Op → Bool
  | .closeInBackground _ | .connect _ | .stream _ _ | .keepBridge _ _ | .audio _ => false
  | _ => true

/-- Nothing of the pipeline is under way. -/
def calm (op : Op) : Bool := !enables op && !joins op

/-- Everything that the operation was to close is closed, or left to others. -/
theorem Kept.goesOn (h : Kept g (op :: others)) (haudio : g'.audio = g.audio)
    (hattached : ∀ b, Attached g b ∨ closes b op = true →
      (∃ bridge ∈ g.audio.bridges[b]?, bridge.connected = true) →
        Attached g' b ∨ ∃ x ∈ next, closes b x = true)
    (hbridged : Bridged g ∨ stops op = true → Bridged g' ∨ ∃ x ∈ next, stops x = true)
    (hjoin : ∀ b, op ≠ .audio (.joinBridge b)) (henables : next.countP enables = [op].countP enables)
    (hjoins : ∀ x ∈ next, joins x = false) : Kept g' (next ++ others) := by
  refine ⟨fun b bridge hb hconnected => ?_, fun b bridge hb hloops => ?_, fun hrunning => ?_, ?_, ?_,
    ?_, fun n hn => ?_⟩
  · rw [haudio] at hb
    have hconnects : ∃ bridge ∈ g.audio.bridges[b]?, bridge.connected = true := ⟨bridge, hb, hconnected⟩
    have hlater : Attached g b ∨ closes b op = true → Attached g' b ∨
        ∃ x ∈ next ++ others, closes b x = true := fun hcase =>
      (hattached b hcase hconnects).imp_right fun ⟨x, hx, hcloses⟩ =>
        ⟨x, List.mem_append_left _ hx, hcloses⟩
    rcases h.bridges b bridge hb hconnected with hthere | ⟨x, hx, hcloses⟩
    · exact hlater (.inl hthere)
    · rcases List.mem_cons.mp hx with rfl | hx
      · exact hlater (.inr hcloses)
      · exact .inr ⟨x, List.mem_append_right _ hx, hcloses⟩
  · rw [haudio] at hb
    refine (h.loops b bridge hb hloops).imp_right fun hmem => ?_
    rcases List.mem_cons.mp hmem with heq | hmem
    · exact absurd heq.symm (hjoin b)
    · exact List.mem_append_right _ hmem
  · rw [haudio] at hrunning
    have hlater : Bridged g ∨ stops op = true → Bridged g' ∨ ∃ x ∈ next ++ others, stops x = true :=
      fun hcase => (hbridged hcase).imp_right fun ⟨x, hx, hstops⟩ => ⟨x, List.mem_append_left _ hx, hstops⟩
    rcases h.running hrunning with hthere | ⟨x, hx, hstops⟩
    · exact hlater (.inl hthere)
    · rcases List.mem_cons.mp hx with rfl | hx
      · exact hlater (.inr hstops)
      · exact .inr ⟨x, List.mem_append_right _ hx, hstops⟩
  · have henabling := h.enabling
    rw [← List.singleton_append, List.countP_append] at henabling
    rw [List.countP_append, henables, henabling, haudio]
  · rw [haudio]
    exact h.port
  · rw [haudio]
    exact h.started
  · rw [haudio]
    refine h.waits n (List.mem_cons_of_mem _ ?_)
    rcases List.mem_append.mp hn with hn | hn
    · cases hjoins _ hn
    · exact hn

/-- The call may have changed, and nothing else. -/
theorem Kept.changes (h : Kept g (op :: others)) (haudio : g'.audio = g.audio) (hop : quiet op = true)
    (hattached : ∀ b, Attached g b → Attached g' b ∨ ∃ x ∈ next, closes b x = true)
    (hbridged : Bridged g → Bridged g' ∨ ∃ x ∈ next, stops x = true)
    (hnext : ∀ x ∈ next, calm x = true) : Kept g' (next ++ others) := by
  have hcalm : next.countP enables = 0 := List.countP_eq_zero.mpr fun x hx henables => by
    have := hnext x hx
    simp [calm, henables] at this
  refine h.goesOn haudio (fun b hcase _ => hattached b (hcase.resolve_right fun hcloses => ?_))
    (fun hcase => hbridged (hcase.resolve_right fun hstops => ?_)) (fun b heq => ?_) ?_ fun x hx => ?_
  · cases op with
    | closeInBackground | connect | stream | keepBridge | audio => cases hop
    | _ => cases hcloses
  · cases op with
    | closeInBackground | audio => cases hop
    | _ => cases hstops
  · rw [heq] at hop
    cases hop
  · rw [hcalm]
    cases op with
    | audio => cases hop
    | _ => rfl
  · have := hnext x hx
    simp only [calm, Bool.and_eq_true, Bool.not_eq_true'] at this
    exact this.2

/-- The call that is there keeps its bridge. -/
theorem Kept.same (h : Kept g (op :: others)) (hop : quiet op = true) (haudio : g'.audio = g.audio)
    (hcall : ∀ call ∈ g.cm.call, ∃ call' ∈ g'.cm.call, call'.bridge = call.bridge ∧
      (call.answered = true → call'.answered = true))
    (hnext : ∀ x ∈ next, calm x = true) : Kept g' (next ++ others) := by
  refine h.changes haudio hop (fun b hthere => .inl ?_) (fun hthere => .inl ?_) hnext
  · obtain ⟨call, hc, hb⟩ := hthere
    obtain ⟨call', hc', hbridge, -⟩ := hcall call hc
    exact ⟨call', hc', hbridge.trans hb⟩
  · obtain ⟨call, hc, hanswered, hb⟩ := hthere
    obtain ⟨call', hc', hbridge, hkeeps⟩ := hcall call hc
    exact ⟨call', hc', hkeeps hanswered, hbridge ▸ hb⟩

/-- A call without a bridge is taken, or comes. -/
theorem Kept.bare (h : Kept g (op :: others)) (hop : quiet op = true) (haudio : g'.audio = g.audio)
    (hbare : NoBridge g) (hnext : ∀ x ∈ next, calm x = true) : Kept g' (next ++ others) := by
  refine h.changes haudio hop (fun b hthere => ?_) (fun hthere => ?_) hnext
  · obtain ⟨call, hc, hb⟩ := hthere
    cases (hbare call hc).symm.trans hb
  · obtain ⟨call, hc, -, hb⟩ := hthere
    exact absurd (hbare call hc) hb

/-- A call is taken, and its audio is to be closed. -/
theorem Kept.taken (h : Kept g (op :: others)) (hop : quiet op = true) (haudio : g'.audio = g.audio)
    {call : ActiveCall} (hcall : g.cm.call = some call)
    (hclose : .closeInBackground call ∈ next ∨ Gateway.closeAudio call ⊆ next)
    (hnext : ∀ x ∈ next, calm x = true) : Kept g' (next ++ others) := by
  refine h.changes haudio hop (fun b hthere => .inr ?_) (fun _ => .inr ?_) hnext
  · obtain ⟨call', hc, hb⟩ := hthere
    cases hcall.symm.trans hc
    rcases hclose with hclose | hclose
    · exact ⟨_, hclose, decide_eq_true hb⟩
    · refine ⟨.audio (.closeBridge b), hclose (List.mem_append_left _ ?_), decide_eq_true rfl⟩
      rw [hb]
      exact .head _
  · rcases hclose with hclose | hclose
    · exact ⟨_, hclose, rfl⟩
    · exact ⟨.audio .stop, hclose (List.mem_append_right _ (.head _)), rfl⟩

theorem calm_sendAck (type : AckType) (requestID : String) :
    ∀ x ∈ Gateway.sendAck type requestID, calm x = true := by
  unfold Gateway.sendAck
  split
  · nofun
  · simp [calm, enables, joins]

theorem calm_closeAudio (call : ActiveCall) : ∀ x ∈ Gateway.closeAudio call, calm x = true := by
  intro x hx
  rcases List.mem_append.mp hx with hx | hx
  · obtain ⟨b, -, rfl⟩ := List.mem_map.mp hx
    rfl
  · rw [List.mem_singleton.mp hx]
    rfl

theorem calm_append (h : ∀ x ∈ next, calm x = true) (h' : ∀ x ∈ ops, calm x = true) :
    ∀ x ∈ next ++ ops, calm x = true := by
  intro x hx
  rcases List.mem_append.mp hx with hx | hx
  · exact h x hx
  · exact h' x hx

theorem audio_settle (g : Gateway) (callID : String) (keeps : Bool) :
    (g.settle callID keeps).audio = g.audio := by
  cases keeps <;> rfl

theorem audio_hungUp (g : Gateway) (keeps : Bool) : (g.hungUp keeps).audio = g.audio := by
  cases keeps <;> rfl

theorem noBridge_of_none (h : g.cm.call = none) : NoBridge g := by
  intro call hcall
  rw [h] at hcall
  cases hcall

/-- The call stays. -/
theorem Kept.still (h : Kept g (op :: others)) (hop : quiet op = true) (haudio : g'.audio = g.audio)
    (hcall : g'.cm.call = g.cm.call) (hnext : ∀ x ∈ next, calm x = true) : Kept g' (next ++ others) :=
  h.same hop haudio (fun call hc => ⟨call, hcall ▸ hc, rfl, id⟩) hnext

/-- An operation that has nothing to do with what is there. -/
theorem Kept.run_quiet {r : Reply} {d : Done Gateway Op} (h : Kept g (op :: others))
    (hop : quiet op = true) (hdial : ∀ callID requestID, op = .dial callID requestID ∨
      op = .ata callID requestID → r.error ≠ none → NoBridge g)
    (hbusy : ∀ line, op = .busy line → NoBridge g) (hrun : g.run r op = some d) :
    d.spawned = [] ∧ Kept d.shared (d.next ++ others) := by
  cases op with
  | makeCall payload =>
    simp only [Gateway.run, Gateway.goOn] at hrun
    split at hrun
    · cases hrun
      exact ⟨rfl, h.still rfl rfl rfl (by simp [calm, enables, joins])⟩
    · next hnone =>
      cases hrun
      exact ⟨rfl, h.bare rfl rfl (noBridge_of_none hnone) (by simp [calm, enables, joins])⟩
  | answerCall payload =>
    simp only [Gateway.run, Gateway.goOn] at hrun
    split at hrun
    · cases hrun
      exact ⟨rfl, h.still rfl rfl rfl (by simp [calm, enables, joins])⟩
    · next call hcall =>
      split at hrun
      · cases hrun
        exact ⟨rfl, h.still rfl rfl rfl (by simp [calm, enables, joins])⟩
      · split at hrun
        · cases hrun
          exact ⟨rfl, h.still rfl rfl rfl (by simp [calm, enables, joins])⟩
        · cases hrun
          refine ⟨rfl, h.same rfl rfl (fun c hc => ?_) (by simp [calm, enables, joins])⟩
          cases hcall.symm.trans hc
          exact ⟨_, rfl, rfl, id⟩
  | dial callID requestID =>
    simp only [Gateway.run, Gateway.goOn] at hrun
    split at hrun
    · next err herror =>
      cases hrun
      refine ⟨rfl, h.bare rfl (audio_settle ..) (hdial callID requestID (.inl rfl) ?_) ?_⟩
      · rw [herror]
        exact Option.some_ne_none err
      · simp [calm, enables, joins]
    · cases hrun
      exact ⟨rfl, h.still rfl (audio_settle ..) (congrArg CallManager.call (Gateway.cm_settle ..))
        (calm_append (calm_sendAck _ _) (by simp [calm, enables, joins]))⟩
  | ata callID requestID =>
    simp only [Gateway.run, Gateway.goOn] at hrun
    split at hrun
    · next err herror =>
      cases hrun
      refine ⟨rfl, h.bare rfl (audio_settle ..) (hdial callID requestID (.inr rfl) ?_) ?_⟩
      · rw [herror]
        exact Option.some_ne_none err
      · simp [calm, enables, joins]
    · cases hrun
      exact ⟨rfl, h.still rfl (audio_settle ..) (congrArg CallManager.call (Gateway.cm_settle ..))
        (calm_append (calm_sendAck _ _) (by simp [calm, enables, joins]))⟩
  | markAnswered callID =>
    simp only [Gateway.run, Gateway.goOn] at hrun
    split at hrun
    · cases hrun
      exact ⟨rfl, h.still rfl rfl rfl (List.forall_mem_nil _)⟩
    · next call hcall =>
      split at hrun
      · cases hrun
        refine ⟨rfl, h.same rfl rfl (fun c hc => ?_) (by simp [calm, enables, joins])⟩
        cases hcall.symm.trans hc
        exact ⟨_, rfl, rfl, fun _ => rfl⟩
      · cases hrun
        exact ⟨rfl, h.still rfl rfl rfl (List.forall_mem_nil _)⟩
  | endCall callID =>
    simp only [Gateway.run, Gateway.goOn] at hrun
    split at hrun
    · cases hrun
      exact ⟨rfl, h.still rfl rfl rfl (List.forall_mem_nil _)⟩
    · next call hcall =>
      split at hrun
      · cases hrun
        exact ⟨rfl, h.still rfl rfl rfl (List.forall_mem_nil _)⟩
      · cases hrun
        exact ⟨rfl, h.taken rfl rfl hcall (.inl (by simp)) (by simp [calm, enables, joins])⟩
  | hangup =>
    simp only [Gateway.run, Gateway.goOn, Option.some.injEq] at hrun
    cases hrun
    refine ⟨rfl, h.still rfl (audio_hungUp ..) (congrArg CallManager.call (Gateway.cm_hungUp ..)) ?_⟩
    dsimp only
    split
    · intros; contradiction
    · simp [calm, enables, joins]
  | hangupATH =>
    cases hrun
    exact ⟨rfl, h.still rfl (audio_hungUp ..) (congrArg CallManager.call (Gateway.cm_hungUp ..))
      (List.forall_mem_nil _)⟩
  | complete call reason =>
    cases hrun
    exact ⟨rfl, h.still rfl rfl rfl (by simp [calm, enables, joins])⟩
  | voiceCall line data =>
    simp only [Gateway.run, Gateway.goOn] at hrun
    split at hrun
    · cases hrun
      exact ⟨rfl, h.still rfl rfl rfl (List.forall_mem_nil _)⟩
    · next call hcall =>
      split at hrun
      · cases hrun
        exact ⟨rfl, h.still rfl rfl rfl (List.forall_mem_nil _)⟩
      · cases hrun
        refine ⟨rfl, h.same rfl rfl (fun c hc => ?_) (by simp [calm, enables, joins])⟩
        cases hcall.symm.trans hc
        exact ⟨_, rfl, rfl, fun _ => rfl⟩
  | ring line =>
    simp only [Gateway.run, Gateway.goOn] at hrun
    split at hrun
    · cases hrun
      exact ⟨rfl, h.still rfl rfl rfl (List.forall_mem_nil _)⟩
    · next hfree =>
      split at hrun
      · cases hrun
        exact ⟨rfl, h.still rfl rfl rfl (by simp [calm, enables, joins])⟩
      · cases hrun
        exact ⟨rfl, h.bare rfl rfl (noBridge_of_none (not_not.mp (not_or.mp hfree).1))
          (List.forall_mem_nil _)⟩
  | clip line data =>
    simp only [Gateway.run, Gateway.goOn] at hrun
    split at hrun
    · cases hrun
      exact ⟨rfl, h.still rfl rfl rfl (List.forall_mem_nil _)⟩
    · next call hcall =>
      split at hrun
      · cases hrun
        refine ⟨rfl, h.same rfl rfl (fun c hc => ?_) ?_⟩
        · cases hcall.symm.trans hc
          exact ⟨_, rfl, rfl, id⟩
        · dsimp only
          split
          · simp [calm, enables, joins]
          · intros; contradiction
      · cases hrun
        exact ⟨rfl, h.still rfl rfl rfl (List.forall_mem_nil _)⟩
  | emitIncomingCall callID =>
    simp only [Gateway.run, Gateway.goOn] at hrun
    split at hrun
    · cases hrun
      exact ⟨rfl, h.still rfl rfl rfl (List.forall_mem_nil _)⟩
    · split at hrun
      · cases hrun
        exact ⟨rfl, h.still rfl rfl rfl (List.forall_mem_nil _)⟩
      · cases hrun
        exact ⟨rfl, h.still rfl rfl rfl (by simp [calm, enables, joins])⟩
  | noCarrier line =>
    simp only [Gateway.run, Gateway.goOn] at hrun
    split at hrun
    · cases hrun
      exact ⟨rfl, h.still rfl rfl rfl (List.forall_mem_nil _)⟩
    · next call hcall =>
      cases hrun
      exact ⟨rfl, h.taken rfl rfl hcall (.inr (List.subset_append_left ..))
        (calm_append (calm_closeAudio call) (by simp [calm, enables, joins]))⟩
  | busy line =>
    have hbare := hbusy line rfl
    simp only [Gateway.run, Gateway.goOn] at hrun
    split at hrun
    · cases hrun
      exact ⟨rfl, h.still rfl rfl rfl (List.forall_mem_nil _)⟩
    · cases hrun
      exact ⟨rfl, h.bare rfl rfl hbare (by simp [calm, enables, joins])⟩
  | modemLost =>
    simp only [Gateway.run, Gateway.goOn] at hrun
    split at hrun
    · cases hrun
      exact ⟨rfl, h.still rfl rfl rfl (List.forall_mem_nil _)⟩
    · next call hcall =>
      cases hrun
      exact ⟨rfl, h.taken rfl rfl hcall (.inr (List.subset_append_left ..))
        (calm_append (calm_closeAudio call) (by simp [calm, enables, joins]))⟩
  | disconnect =>
    simp only [Gateway.run, Gateway.goOn] at hrun
    split at hrun
    · cases hrun
      exact ⟨rfl, h.still rfl rfl rfl (List.forall_mem_nil _)⟩
    · next call hcall =>
      split at hrun
      · cases hrun
        exact ⟨rfl, h.taken rfl rfl hcall (.inr (List.subset_append_left ..))
          (calm_append (calm_closeAudio call) (by simp [calm, enables, joins]))⟩
      · cases hrun
        exact ⟨rfl, h.still rfl rfl rfl (List.forall_mem_nil _)⟩
  | shutdown =>
    simp only [Gateway.run, Gateway.goOn] at hrun
    split at hrun
    · cases hrun
      exact ⟨rfl, h.still rfl rfl rfl (List.forall_mem_nil _)⟩
    · next call hcall =>
      cases hrun
      exact ⟨rfl, h.taken rfl rfl hcall (.inr (List.subset_append_left ..))
        (calm_append (calm_closeAudio call) (by simp [calm, enables, joins]))⟩
  | send m =>
    simp only [Gateway.run, Gateway.goOn, Option.some.injEq] at hrun
    cases hrun
    refine ⟨rfl, h.still rfl ?_ ?_ (List.forall_mem_nil _)⟩
    · dsimp only
      split
      · rfl
      · rfl
    · dsimp only
      split
      · rfl
      · rfl
  | openAudio callID =>
    simp only [Gateway.run, Gateway.goOn] at hrun
    split at hrun
    · cases hrun
      exact ⟨rfl, h.still rfl rfl rfl (List.forall_mem_nil _)⟩
    · split at hrun
      · cases hrun
        exact ⟨rfl, h.still rfl rfl rfl (List.forall_mem_nil _)⟩
      · cases hrun
        exact ⟨rfl, h.still rfl rfl rfl (by simp [calm, enables, joins])⟩
  | connect callID => cases hop
  | closeInBackground | stream | keepBridge | audio => cases hop

/-! ### Bridges -/

/-- There is more to do, which has no part in the pipeline. -/
theorem Kept.more (h : Kept g ops) {x : Op} (hx : calm x = true) : Kept g (x :: ops) := by
  simp only [calm, Bool.and_eq_true, Bool.not_eq_true'] at hx
  refine { h with
    bridges := fun b bridge hb hconnected => (h.bridges b bridge hb hconnected).imp_right
      fun ⟨op, hop, hcloses⟩ => ⟨op, List.mem_cons_of_mem _ hop, hcloses⟩
    loops := fun b bridge hb hloops => (h.loops b bridge hb hloops).imp_right (List.mem_cons_of_mem _)
    running := fun hrunning => (h.running hrunning).imp_right
      fun ⟨op, hop, hstops⟩ => ⟨op, List.mem_cons_of_mem _ hop, hstops⟩
    enabling := ?_
    waits := fun n hn => ?_ }
  · rw [List.countP_cons_of_neg (by simp [hx.1]), h.enabling]
  · rcases List.mem_cons.mp hn with rfl | hn
    · cases hx.2
    · exact h.waits n hn

/-- A bridge changes, but for what it was connected for. -/
theorem Kept.setBridge (h : Kept g ops) {b : Nat} {old new : AudioBridge}
    (hold : g.audio.bridges[b]? = some old) (hconnected : new.connected = true → old.connected = true)
    (hloops : new.sending = true ∨ new.receiving = true →
      new.connected = true ∨ .audio (.joinBridge b) ∈ ops) :
    Kept { g with audio.bridges := g.audio.bridges.set b new } ops := by
  refine { h with bridges := fun b' bridge hb hc => ?_, loops := fun b' bridge hb hl => ?_ }
  · rcases of_getElem?_set hb with ⟨rfl, rfl⟩ | ⟨-, hb⟩
    · exact h.bridges _ old hold (hconnected hc)
    · exact h.bridges b' bridge hb hc
  · rcases of_getElem?_set hb with ⟨rfl, rfl⟩ | ⟨-, hb⟩
    · exact hloops hl
    · exact h.loops b' bridge hb hl

/-- A bridge is connected, and in the hands of its handler. -/
theorem Kept.connect (h : Kept g ops) (hcloses : ∃ op ∈ ops, closes g.audio.bridges.length op = true) :
    Kept { g with audio := g.audio.connect } ops := by
  refine { h with bridges := fun b bridge hb hc => ?_, loops := fun b bridge hb hl => ?_ }
  · rcases of_getElem?_concat hb with hb | ⟨rfl, -⟩
    · exact h.bridges b bridge hb hc
    · exact .inr hcloses
  · rcases of_getElem?_concat hb with hb | ⟨-, rfl⟩
    · exact h.loops b bridge hb hl
    · rcases hl with hl | hl
      · cases hl
      · cases hl

/-- A loop of a bridge ends. -/
theorem Kept.loopEnds (h : Kept g ops) {b : Nat} {sendLoop : Bool} {audio : Audio}
    (hends : g.audio.loopEnds b sendLoop = some audio) : Kept { g with audio := audio } ops := by
  obtain ⟨bridge, hb, hends⟩ := Option.bind_eq_some_iff.mp hends
  split at hends
  · next hsending =>
    cases hends
    exact h.setBridge hb id fun _ => h.loops b bridge hb (.inl hsending.2)
  · split at hends
    · next hreceiving =>
      cases hends
      exact h.setBridge hb id fun _ => h.loops b bridge hb (.inr hreceiving.2)
    · cases hends

/-- A loop of the pipeline ends. -/
theorem Kept.pcmLoopEnds (h : Kept g ops) {i : Nat} {audio : Audio}
    (hends : g.audio.pcmLoopEnds i = some audio) : Kept { g with audio := audio } ops := by
  unfold Audio.pcmLoopEnds at hends
  split at hends
  · cases hends
    exact { h with
      started := fun loop hloop => h.started loop (List.mem_of_mem_eraseIdx hloop)
      waits := fun n hn loop hloop => h.waits n hn loop (List.mem_of_mem_eraseIdx hloop) }
  · cases hends

/-- Nothing changes. -/
theorem Kept.skip (h : Kept g (op :: others)) (hcloses : ∀ b, closes b op = true →
      ∀ bridge ∈ g.audio.bridges[b]?, bridge.connected = false) (hstops : stops op = false)
    (hjoin : ∀ b, op ≠ .audio (.joinBridge b)) (henables : enables op = false) : Kept g others := by
  show Kept g ([] ++ others)
  refine h.goesOn rfl (fun b hcase hconnected => ?_) (fun hcase => ?_) hjoin ?_ nofun
  · obtain ⟨bridge, hb, hconnected⟩ := hconnected
    refine .inl (hcase.resolve_right fun hop => ?_)
    rw [hcloses b hop bridge hb] at hconnected
    cases hconnected
  · refine .inl (hcase.resolve_right fun hop => ?_)
    rw [hstops] at hop
    cases hop
  · rw [List.countP_nil, List.countP_cons_of_neg (by simp [henables]), List.countP_nil]

theorem Kept.closeBridge {b : Nat} (h : Kept g (.audio (.closeBridge b) :: others)) {ok : Bool}
    {audio : Audio} {next : List AudioOp} (hrun : g.audio.run ok (.closeBridge b) = some (audio, next)) :
    Kept { g with audio := audio } (next.map .audio ++ others) := by
  have hcloses : ∀ b', closes b' (.audio (.closeBridge b)) = true → b = b' := fun _ => of_decide_eq_true
  rw [Audio.run] at hrun
  split at hrun
  · next hnone =>
    cases hrun
    refine h.skip (fun b' hb' bridge hbridge => ?_) rfl nofun rfl
    rw [← hcloses b' hb', hnone] at hbridge
    cases hbridge
  · next bridge hb =>
    split at hrun
    · cases hrun
      have hjoined := h.more (x := .audio (.joinBridge b)) rfl
      have hclosed := @Kept.setBridge g _ hjoined b bridge
        { bridge with connected := false, streaming := false } hb nofun fun _ => .inr (.head _)
      refine (hclosed.perm (List.Perm.swap ..)).skip (fun b' hb' bridge' hbridge => ?_) rfl nofun rfl
      rw [← hcloses b' hb', Option.mem_def] at hbridge
      dsimp only at hbridge
      rw [List.getElem?_set_self (List.getElem?_eq_some_iff.mp hb).1] at hbridge
      cases hbridge
      rfl
    · next hclosed =>
      cases hrun
      refine h.skip (fun b' hb' bridge' hbridge => ?_) rfl nofun rfl
      rw [← hcloses b' hb', Option.mem_def, hb] at hbridge
      cases hbridge
      exact Bool.not_eq_true _ ▸ hclosed

theorem Kept.joinBridge {b : Nat} (h : Kept g (.audio (.joinBridge b) :: others))
    (hidle : g.audio.Idle b) : Kept g others where
  bridges b' bridge hb hconnected := (h.bridges b' bridge hb hconnected).imp_right
    fun ⟨op, hop, hcloses⟩ => by
      rcases List.mem_cons.mp hop with rfl | hop
      · cases hcloses
      · exact ⟨op, hop, hcloses⟩
  loops b' bridge hb hloops := by
    refine (h.loops b' bridge hb hloops).imp_right fun hmem => ?_
    rcases List.mem_cons.mp hmem with heq | hmem
    · cases heq
      obtain ⟨hsending, hreceiving⟩ := hidle bridge hb
      rcases hloops with hloop | hloop
      · cases hsending.symm.trans hloop
      · cases hreceiving.symm.trans hloop
    · exact hmem
  running hrunning := (h.running hrunning).imp_right fun ⟨op, hop, hstops⟩ => by
    rcases List.mem_cons.mp hop with rfl | hop
    · cases hstops
    · exact ⟨op, hop, hstops⟩
  enabling := (List.countP_cons_of_neg (by simp [enables])).symm.trans h.enabling
  port := h.port
  started := h.started
  waits n hn := h.waits n (List.mem_cons_of_mem _ hn)

/-! ### The pipeline -/

/-- The pipeline changes. -/
theorem Kept.setPipeline {x : AudioOp} (h : Kept g (.audio x :: others)) {p : Pipeline}
    (hcloses : ∀ b, closes b (.audio x) = false) (hjoin : ∀ b, x ≠ .joinBridge b)
    (hrunning : p.running = true → Bridged g ∨ ∃ x ∈ next ++ others, stops x = true)
    (henabling : (next ++ others).countP enables = if p.locked = true then 1 else 0)
    (hport : p.running = true ∨ p.locked = true → p.pcmPort ≠ none)
    (hstarted : ∀ loop ∈ p.loops, loop.startedBy ≤ p.starts)
    (hwaits : ∀ n, .audio (.joinLoops n) ∈ next ++ others → ∀ loop ∈ p.loops, loop.startedBy ≤ n) :
    Kept { g with audio.pipeline := p } (next ++ others) where
  bridges b bridge hb hconnected := (h.bridges b bridge hb hconnected).imp_right
    fun ⟨op, hop, hop'⟩ => by
      rcases List.mem_cons.mp hop with rfl | hop
      · cases (hcloses b).symm.trans hop'
      · exact ⟨op, List.mem_append_right _ hop, hop'⟩
  loops b bridge hb hloops := (h.loops b bridge hb hloops).imp_right fun hmem => by
    rcases List.mem_cons.mp hmem with heq | hmem
    · exact absurd (Op.audio.inj heq).symm (hjoin b)
    · exact List.mem_append_right _ hmem
  running := hrunning
  enabling := henabling
  port := hport
  started := hstarted
  waits := hwaits

/-- Of the operations that are left none waits for the modem, if the lock was not held. -/
theorem Kept.countP_others {x : AudioOp} (h : Kept g (.audio x :: others))
    (hlocked : g.audio.pipeline.locked = false) : others.countP enables = 0 := by
  have henabling := h.enabling
  rw [hlocked, if_neg Bool.false_ne_true] at henabling
  rw [← List.singleton_append, List.countP_append] at henabling
  omega

theorem Kept.start {callID : String} (h : Kept g (.audio (.start callID) :: others)) {ok : Bool}
    {audio : Audio} {next : List AudioOp} (hrun : g.audio.run ok (.start callID) = some (audio, next)) :
    Kept { g with audio := audio } (next.map .audio ++ others) := by
  have hskip : Kept g others := h.skip nofun rfl nofun rfl
  rw [Audio.run] at hrun
  split at hrun
  · cases hrun
  · next hlocked =>
    have hcount := h.countP_others (Bool.not_eq_true _ ▸ hlocked)
    have hlocks : ∀ p : Pipeline, p.running = g.audio.pipeline.running →
        p.locked = true → p.pcmPort ≠ none → p.loops = g.audio.pipeline.loops →
        p.starts = g.audio.pipeline.starts →
        Kept { g with audio.pipeline := p } ([.audio (.enable callID)] ++ others) := by
      intro p hp hplocked hpport hploops hpstarts
      refine h.setPipeline (fun _ => rfl) nofun (fun hr => ?_) ?_ (fun _ => hpport) ?_ fun n hn => ?_
      · rw [hp] at hr
        exact (hskip.running hr).imp_right fun ⟨x, hx, hstops⟩ => ⟨x, List.mem_append_right _ hx, hstops⟩
      · rw [hplocked, if_pos rfl, List.countP_append, hcount]
        rfl
      · rw [hploops, hpstarts]
        exact h.started
      · rw [hploops]
        refine hskip.waits n ?_
        rcases List.mem_append.mp hn with hn | hn
        · cases List.mem_singleton.mp hn
        · exact hn
    split at hrun
    · cases hrun
      exact hskip
    · split at hrun
      · next hport =>
        cases hrun
        exact hlocks _ rfl rfl (by rw [hport]; nofun) rfl rfl
      · split at hrun
        · cases hrun
          exact hlocks _ rfl rfl nofun rfl rfl
        · cases hrun
          exact hskip

theorem Kept.enable {callID : String} (h : Kept g (.audio (.enable callID) :: others)) {ok : Bool}
    (hthere : ok = true → Bridged g ∨ ∃ x ∈ others, stops x = true)
    (hfree : ok = true → ∀ x ∈ others, joins x = false)
    {audio : Audio} {next : List AudioOp} (hrun : g.audio.run ok (.enable callID) = some (audio, next)) :
    Kept { g with audio := audio } (next.map .audio ++ others) := by
  have henabling := h.enabling
  rw [List.countP_cons_of_pos rfl] at henabling
  have hlocked : g.audio.pipeline.locked = true := by
    by_contra hnot
    rw [if_neg hnot] at henabling
    omega
  rw [if_pos hlocked] at henabling
  have hcount : others.countP enables = 0 := by omega
  rw [Audio.run] at hrun
  split at hrun
  · next hok =>
    cases hrun
    show Kept _ ([] ++ others)
    refine h.setPipeline (fun _ => rfl) nofun (fun _ => hthere hok) hcount
      (fun _ => h.port (.inr hlocked)) (fun loop hloop => ?_) fun n hn => ?_
    · rcases List.mem_append.mp hloop with hloop | hloop
      · exact Nat.le_succ_of_le (h.started loop hloop)
      · simp only [List.mem_cons, List.not_mem_nil, or_false, or_self] at hloop
        subst hloop
        exact Nat.le_refl _
    · cases hfree hok _ hn
  · cases hrun
    show Kept _ ([] ++ others)
    refine h.setPipeline (fun _ => rfl) nofun (fun hr => ?_) hcount
      (fun _ => h.port (.inr hlocked)) h.started fun n hn => h.waits n (List.mem_cons_of_mem _ hn)
    refine (h.running hr).imp_right fun ⟨x, hx, hstops⟩ => ?_
    rcases List.mem_cons.mp hx with rfl | hx
    · cases hstops
    · exact ⟨x, hx, hstops⟩

theorem Kept.stop (h : Kept g (.audio .stop :: others)) {ok : Bool}
    {audio : Audio} {next : List AudioOp} (hrun : g.audio.run ok .stop = some (audio, next)) :
    Kept { g with audio := audio } (next.map .audio ++ others) := by
  rw [Audio.run] at hrun
  split at hrun
  · cases hrun
  · next hlocked =>
    have hcount := h.countP_others (Bool.not_eq_true _ ▸ hlocked)
    have hunlocked : g.audio.pipeline.locked = false := Bool.not_eq_true _ ▸ hlocked
    split at hrun
    · cases hrun
      refine h.setPipeline (fun _ => rfl) nofun nofun ?_ (fun hcase => ?_) h.started fun n hn => ?_
      · rw [List.countP_append, hcount, hunlocked]
        rfl
      · exact absurd (hcase.resolve_left nofun) hlocked
      · rcases List.mem_append.mp hn with hn | hn
        · simp only [List.map_cons, List.map_nil, List.mem_cons, List.not_mem_nil, or_false,
            Op.audio.injEq, reduceCtorEq, AudioOp.joinLoops.injEq, false_or] at hn
          subst hn
          exact h.started
        · exact h.waits n (List.mem_cons_of_mem _ hn)
    · next hstopped =>
      cases hrun
      show Kept _ ([] ++ others)
      exact h.setPipeline (fun _ => rfl) nofun (fun hr => absurd hr hstopped)
        (by rw [List.nil_append, hcount, hunlocked]; rfl) h.port h.started
        fun n hn => h.waits n (List.mem_cons_of_mem _ hn)

theorem Kept.closePort {n : Nat} (h : Kept g (.audio (.closePort n) :: others))
    (hidle : g.audio.pipeline.running = false ∧ g.audio.pipeline.locked = false) :
    Kept { g with audio.pipeline.pcmPort := none } others := by
  have hskip : Kept g others := h.skip nofun rfl nofun rfl
  refine { hskip with port := fun hcase => ?_ }
  rcases hcase with hcase | hcase
  · cases hidle.1.symm.trans hcase
  · cases hidle.2.symm.trans hcase

end

/-! ## Every step -/

section
variable {g g' : Gateway} {ops new : List Op}

/-- Handlers are started. -/
theorem Kept.append (h : Kept g ops) (hnew : ∀ x ∈ new, calm x = true) : Kept g (new ++ ops) := by
  induction new with
  | nil => exact h
  | cons x new ih =>
    exact (ih fun y hy => hnew y (List.mem_cons_of_mem _ hy)).more (hnew x List.mem_cons_self)

/-- The call and the audio are what they were. -/
theorem Kept.congr (h : Kept g ops) (hcall : g'.cm.call = g.cm.call) (haudio : g'.audio = g.audio) :
    Kept g' ops := by
  have hattached : ∀ b, Attached g b → Attached g' b := fun b ⟨call, hc, hb⟩ => ⟨call, hcall ▸ hc, hb⟩
  have hbridged : Bridged g → Bridged g' := fun ⟨call, hc, hb⟩ => ⟨call, hcall ▸ hc, hb⟩
  refine ⟨?_, ?_, ?_, ?_, ?_, ?_, ?_⟩
  · rw [haudio]
    exact fun b bridge hb hconnected => (h.bridges b bridge hb hconnected).imp_left (hattached b)
  · rw [haudio]
    exact h.loops
  · rw [haudio]
    exact fun hrunning => (h.running hrunning).imp_left hbridged
  · rw [haudio]
    exact h.enabling
  · rw [haudio]
    exact h.port
  · rw [haudio]
    exact h.started
  · rw [haudio]
    exact h.waits

/-- What an event starts. -/
theorem calm_handle (line : Nat) (urc : URC) : ∀ x ∈ urc.handle line, calm x = true := by
  cases urc <;> simp [URC.handle, calm, enables, joins]

theorem calm_request (request : Request) : ∀ x ∈ request.handle, calm x = true := by
  cases request <;> simp [Request.handle, calm, enables, joins]

end

section
variable {s t : Watched} {i : Nat} {r : Reply} {op : Op} {rest others : List Op} {d : Done Gateway Op}

/-- The next operation of a handler. -/
theorem Kept.run (h : Kept s.gateway (op :: others)) (hpending : s.calls.pending.Perm (op :: others))
    (hapt : s.AptOp i r op) (hrun : s.gateway.run r op = some d) :
    Kept d.shared (d.next ++ (d.spawned.flatten ++ others)) := by
  have hquiet : quiet op = true → Kept d.shared (d.next ++ (d.spawned.flatten ++ others)) := by
    intro hop
    have hdial : ∀ callID requestID, op = .dial callID requestID ∨ op = .ata callID requestID →
        r.error ≠ none → NoBridge s.gateway := by
      rintro callID requestID (rfl | rfl) herror
      · exact hapt herror
      · exact hapt herror
    have hbusy : ∀ line, op = .busy line → NoBridge s.gateway := by
      rintro line rfl
      exact hapt
    obtain ⟨hspawned, hkept⟩ := h.run_quiet hop hdial hbusy hrun
    rw [hspawned]
    exact hkept
  cases op with
  | closeInBackground call =>
    cases hrun
    have hkept : Kept s.gateway (Gateway.closeAudio call ++ others) := by
      refine h.goesOn rfl (fun b hcase _ => hcase.imp_right fun hb => ?_) (fun hcase => ?_)
        (fun _ => by simp) ?_ ?_
      · refine ⟨.audio (.closeBridge b), List.mem_append_left _ ?_, decide_eq_true rfl⟩
        rw [of_decide_eq_true hb]
        exact .head _
      · exact .inr ⟨.audio .stop, List.mem_append_right _ (.head _), rfl⟩
      · refine List.countP_eq_zero.mpr fun x hx henables => ?_
        have := calm_closeAudio call x hx
        simp [calm, henables] at this
      · intro x hx
        have := calm_closeAudio call x hx
        simp only [calm, Bool.and_eq_true, Bool.not_eq_true'] at this
        exact this.2
    simpa using hkept
  | connect callID =>
    simp only [Gateway.run, Gateway.goOn] at hrun
    split at hrun
    · cases hrun
      have hkept : Kept s.gateway ([.stream callID s.gateway.audio.bridges.length] ++ others) :=
        h.goesOn rfl (fun b hcase _ => .inl (hcase.resolve_right Bool.false_ne_true))
          (fun hcase => .inl (hcase.resolve_right Bool.false_ne_true)) (fun _ => by simp) rfl
        (by simp [joins])
      exact hkept.connect ⟨_, .head _, decide_eq_true rfl⟩
    · cases hrun
      exact h.skip (fun _ hop => absurd hop Bool.false_ne_true) rfl (fun _ => by simp) rfl
  | stream callID b =>
    simp only [Gateway.run, Gateway.goOn] at hrun
    split at hrun
    · next audio haudio =>
      cases hrun
      obtain ⟨bridge, hb, haudio⟩ := Option.bind_eq_some_iff.mp haudio
      obtain ⟨hcase, heq⟩ := Option.ite_none_right_eq_some.mp haudio
      cases heq
      have hkept : Kept s.gateway ([.keepBridge callID b] ++ others) :=
        h.goesOn rfl (fun b' hcase _ => hcase.imp_right fun hb' => ⟨_, .head _, hb'⟩)
          (fun hcase => .inl (hcase.resolve_right Bool.false_ne_true)) (fun _ => by simp) rfl
        (by simp [joins])
      exact hkept.setBridge hb (fun _ => hcase.1) fun _ => .inl rfl
    · cases hrun
      exact h.goesOn rfl (fun b' hcase _ => hcase.imp_right fun hb' => ⟨_, .head _, hb'⟩)
        (fun hcase => .inl (hcase.resolve_right Bool.false_ne_true)) (fun _ => by simp) rfl
        (by simp [joins])
  | keepBridge callID b =>
    have hclose : Kept s.gateway ([.audio (.closeBridge b)] ++ others) :=
      h.goesOn rfl (fun b' hcase _ => hcase.imp_right fun hb' => ⟨_, .head _, hb'⟩)
        (fun hcase => .inl (hcase.resolve_right Bool.false_ne_true)) (fun _ => by simp) rfl
        (by simp [joins])
    simp only [Gateway.run, Gateway.goOn] at hrun
    split at hrun
    · cases hrun
      exact hclose
    · next call hcall =>
      split at hrun
      · next hid =>
        cases hrun
        have hbare : call.bridge = none := hapt call hcall hid
        refine h.goesOn rfl (fun b' hcase _ => .inl ?_) (fun hcase => .inl ?_) (fun _ => by simp) rfl
          (by simp [joins])
        · rcases hcase with ⟨call', hc, hb⟩ | hb
          · cases hcall.symm.trans hc
            cases hbare.symm.trans hb
          · exact ⟨_, rfl, congrArg some (of_decide_eq_true hb)⟩
        · obtain ⟨call', hc, -, hb⟩ := hcase.resolve_right Bool.false_ne_true
          cases hcall.symm.trans hc
          exact absurd hbare hb
      · cases hrun
        exact hclose
  | audio x =>
    obtain ⟨⟨audio, next⟩, haudio, rfl⟩ := Option.map_eq_some_iff.mp hrun
    show Kept { s.gateway with audio := audio } (next.map .audio ++ others)
    cases x with
    | closeBridge b => exact h.closeBridge haudio
    | joinBridge b =>
      obtain ⟨hidle, heq⟩ := Option.ite_none_right_eq_some.mp haudio
      cases heq
      exact h.joinBridge hidle
    | start callID => exact h.start haudio
    | enable callID =>
      have hmem : ∀ {x}, x ∈ others → x ∈ s.calls.pending := fun hx =>
        hpending.mem_iff.mpr (List.mem_cons_of_mem _ hx)
      refine h.enable (fun hok => ?_) (fun hok x hx => ?_) haudio
      · rcases (hapt (of_decide_eq_true hok)).1 with ⟨call, hc, -, hanswered, hb⟩ | ⟨x, hx, hstops⟩
        · exact .inl ⟨call, hc, hanswered, hb⟩
        · rcases List.mem_cons.mp (hpending.mem_iff.mp hx) with rfl | hx
          · cases hstops
          · exact .inr ⟨x, hx, hstops⟩
      · exact (hapt (of_decide_eq_true hok)).2 x (hmem hx)
    | stop => exact h.stop haudio
    | closePort n =>
      cases haudio
      exact h.closePort hapt
    | joinLoops n =>
      obtain ⟨-, heq⟩ := Option.ite_none_right_eq_some.mp haudio
      cases heq
      exact h.skip (fun _ hop => absurd hop Bool.false_ne_true) rfl (fun _ => by simp) rfl
  | _ => exact hquiet rfl

/-- What is to be done, by the operation of a handler. -/
theorem pending_perm (hthread : s.calls.threads[i]? = some (op :: rest)) :
    s.calls.pending.Perm (op :: s.calls.others i rest) := by
  refine List.perm_iff_count.mpr fun x => ?_
  have hcount := Handlers.countP_others hthread (· == x)
  rw [List.count_eq_countP, List.count_eq_countP, ← hcount, Nat.add_comm, ← List.countP_append]
  rfl

theorem pending_after_perm (hthread : s.calls.threads[i]? = some (op :: rest)) :
    (d.next ++ (d.spawned.flatten ++ s.calls.others i rest)).Perm (s.calls.after i d rest).pending := by
  refine List.perm_iff_count.mpr fun x => ?_
  have hcount := @Handlers.countP_pending_after_others _ _ _ _ _ _ d hthread (· == x)
  rw [List.count_eq_countP, List.count_eq_countP, hcount]
  simp only [List.countP_append]
  omega

/-- The audio is accounted for. -/
structure Inv (s : Watched) : Prop where
  kept : Kept s.gateway s.calls.pending
  stopped : ∀ p ∈ s.stopped, p.1 = some p.2

theorem Inv.init (connected : Bool) (now : Nat) : Inv (.init connected now) where
  kept := ⟨nofun, nofun, nofun, rfl, nofun, nofun, nofun⟩
  stopped := nofun

theorem Inv.observe (h : Inv s) (hapt : s.AptOp i r op) :
    ∀ p ∈ (s.observe i r op).stopped, p.1 = some p.2 := by
  unfold Watched.observe
  split
  · split
    · exact h.stopped
    · exact h.stopped
  · split
    · next hrunning =>
      intro p hp
      rcases List.mem_append.mp hp with hp | hp
      · exact h.stopped p hp
      · rw [List.mem_singleton.mp hp]
        exact hapt hrunning
    · exact h.stopped
  all_goals exact h.stopped

/-- A handler goes on. -/
theorem Inv.run (h : Inv s) (hapt : s.Apt (.run i r)) (hstep : s.step (.run i r) = some t) : Inv t := by
  obtain ⟨calls, hcalls, rfl⟩ := Option.map_eq_some_iff.mp hstep
  obtain ⟨op, rest, d, hthread, hrun, rfl⟩ := Handlers.of_advance hcalls
  have hhead : s.calls.head i = some op := by rw [Calls.head, hthread]; rfl
  have hop := hapt op hhead
  have hsee : s.see (.run i r) = s.observe i r op := by rw [Watched.see, hhead]; rfl
  have hpending := pending_perm hthread
  refine ⟨?_, ?_⟩
  · exact ((h.kept.perm hpending).run hpending hop hrun).perm (pending_after_perm hthread)
  · show ∀ p ∈ (s.see (.run i r)).stopped, p.1 = some p.2
    rw [hsee]
    exact h.observe hop

/-- A handler is started. -/
theorem Inv.spawn (h : Inv s) {g : Gateway} {thread : List Op} (hcall : g.cm.call = s.gateway.cm.call)
    (haudio : g.audio = s.gateway.audio) (hthread : ∀ x ∈ thread, calm x = true) :
    Inv { s with calls := s.calls.start g thread } where
  kept := by
    refine (Kept.append (h.kept.congr hcall haudio) hthread).perm ?_
    exact List.perm_append_comm.trans (List.Perm.of_eq (Handlers.pending_spawn thread).symm)
  stopped := h.stopped

/-- **Every event keeps the account.** -/
theorem Inv.step {e : Event} (h : Inv s) (hapt : s.Apt e) (hstep : s.step e = some t) : Inv t := by
  cases e with
  | run i r => exact h.run hapt hstep
  | message request =>
    obtain ⟨calls, hcalls, rfl⟩ := Option.map_eq_some_iff.mp hstep
    obtain ⟨hidle, heq⟩ := Option.ite_none_right_eq_some.mp hcalls
    cases heq
    refine ⟨(Kept.append h.kept (calm_request request)).perm ?_, h.stopped⟩
    exact List.Perm.of_eq (Handlers.pending_set_zero hidle _).symm
  | urc line urc =>
    obtain ⟨calls, hcalls, rfl⟩ := Option.map_eq_some_iff.mp hstep
    obtain ⟨g, hg, rfl⟩ := Option.map_eq_some_iff.mp hcalls
    obtain ⟨lines, nextLine, rfl⟩ := Calls.eq_of_reported hg
    exact h.spawn rfl rfl (calm_handle line urc)
  | fire callID =>
    obtain ⟨calls, hcalls, rfl⟩ := Option.map_eq_some_iff.mp hstep
    obtain ⟨-, heq⟩ := Option.ite_none_right_eq_some.mp hcalls
    cases heq
    exact h.spawn rfl rfl (by simp [calm, enables, joins])
  | connected =>
    cases hstep
    exact ⟨h.kept.congr rfl rfl, h.stopped⟩
  | disconnected =>
    cases hstep
    exact h.spawn rfl rfl (by simp [calm, enables, joins])
  | modemLost =>
    cases hstep
    exact h.spawn rfl rfl (by simp [calm, enables, joins])
  | shutdown =>
    cases hstep
    exact h.spawn rfl rfl (by simp [calm, enables, joins])
  | wait ms =>
    cases hstep
    exact ⟨h.kept.congr rfl rfl, h.stopped⟩
  | bridgeLoopEnds b sendLoop =>
    obtain ⟨calls, hcalls, rfl⟩ := Option.map_eq_some_iff.mp hstep
    obtain ⟨audio, haudio, rfl⟩ := Option.map_eq_some_iff.mp hcalls
    exact ⟨h.kept.loopEnds haudio, h.stopped⟩
  | pcmLoopEnds i =>
    obtain ⟨calls, hcalls, rfl⟩ := Option.map_eq_some_iff.mp hstep
    obtain ⟨audio, haudio, rfl⟩ := Option.map_eq_some_iff.mp hcalls
    exact ⟨h.kept.pcmLoopEnds haudio, h.stopped⟩

/-- Once nothing of the audio is to be done, nothing is left but what is the call's. -/
theorem Inv.belongs (h : Inv s) : Belongs s where
  answered hdone hrunning := by
    rcases h.kept.running hrunning with ⟨call, hc, hanswered, -⟩ | ⟨op, hop, hstops⟩
    · exact ⟨call, hc, hanswered⟩
    · have := hdone op hop
      cases op with
      | closeInBackground | audio => cases this
      | _ => cases hstops
  bridges hdone b bridge hb hnot := by
    have hclosed : bridge.connected = false := by
      by_contra hconnected
      rcases h.kept.bridges b bridge hb (Bool.not_eq_false _ ▸ hconnected) with hthere | ⟨op, hop, hcloses⟩
      · exact hnot hthere
      · have := hdone op hop
        cases op with
        | closeInBackground | stream | keepBridge | audio => cases this
        | _ => cases hcloses
    have hidle : ¬ (bridge.sending = true ∨ bridge.receiving = true) := by
      intro hloops
      rcases h.kept.loops b bridge hb hloops with hconnected | hmem
      · cases hclosed.symm.trans hconnected
      · cases hdone _ hmem
    simp only [not_or, Bool.not_eq_true] at hidle
    exact ⟨hclosed, hidle⟩
  stopped := h.stopped
  port := h.kept.port
  waits := h.kept.waits

/-- A call is made, and answered; its bridge is kept. -/
def answered : List Event :=
  [.message (.makeCall ⟨"r", "c", "+46700000000", "wss://bridge"⟩), .run 0 ⟨none, true⟩,
    .run 0 ⟨none, true⟩, .run 0 ⟨none, true⟩, .run 0 ⟨none, true⟩, .urc 0 (.voiceCall "BEGIN"),
    .run 1 ⟨none, true⟩, .run 1 ⟨none, true⟩, .run 1 ⟨none, true⟩, .run 1 ⟨none, true⟩,
    .run 1 ⟨none, true⟩, .run 1 ⟨none, true⟩]

/-- The pipeline is started. -/
def starts : List Event := [.run 1 ⟨none, true⟩, .run 1 ⟨none, true⟩]

/-- The call has ended, and its bridge is closed. -/
def ends : List Event :=
  [.urc 0 .noCarrier, .run 2 ⟨none, true⟩, .run 2 ⟨none, true⟩, .bridgeLoopEnds 0 true,
    .bridgeLoopEnds 0 false, .run 2 ⟨none, true⟩]

/-- The pipeline is stopped, and the end is reported. -/
def finishes : List Event :=
  [.run 2 ⟨none, true⟩, .run 2 ⟨none, true⟩, .pcmLoopEnds 0, .pcmLoopEnds 0, .run 2 ⟨none, true⟩,
    .run 2 ⟨none, true⟩, .run 2 ⟨none, true⟩]

/-- The end of the call and its reports, while the modem's audio settles; then the pipeline is started. -/
def startsLate : List Event :=
  answered ++ ends ++ [.run 2 ⟨none, true⟩, .run 2 ⟨none, true⟩, .run 2 ⟨none, true⟩] ++ starts

end

end Svarla.ModemGateway.CallAudio
