import Svarla.Calls.Indexes

/-!
# Reconciling the calls with the MediaBridge

`reconcileActiveSessions` asks the MediaBridge for the session of every answered call, one after the other,
and ends the call where the leg of the provider is not connected, or where the request fails. The MediaBridge
says of a leg whether it has ever been connected: only of a call that is still being set up it says that it
is not. And a request that was not answered in time fails like one for a session that does not exist.

So a call is ended whose session is there and whose leg is alive or yet to come (`ends_while_answering`),
and no other run does that than those in which such an answer arrives for a call that goes on
(`sound_iff_justified`).

A session that nothing has happened to yet is a pending one: it was created before its call was tracked.
-/

namespace Svarla.Calls

open Svarla.Lib Orchestrator

/-- A session of the MediaBridge, by the leg of the provider. -/
inductive Session
  | pending
  | connected
  | disconnected
  /-- There is no such session any more. -/
  | gone
  deriving DecidableEq, Repr

/-- What may become of a session. -/
def Session.becomes : Session → Session → Bool
  | .pending, .connected | .connected, .disconnected | .disconnected, .connected => true
  | .gone, _ => false
  | _, .gone => true
  | _, _ => false

/-- The session does not exist any more, or its leg was connected and is disconnected. -/
def Session.over : Session → Bool
  | .disconnected | .gone => true
  | _ => false

/-- What comes of `getSessionStatus`. -/
inductive Answer
  | status (providerConnected : Bool)
  /-- The MediaBridge has no such session. -/
  | missing
  /-- The MediaBridge cannot be reached, is not in time or has an error. -/
  | failed
  deriving DecidableEq, Repr

/-- The status that the MediaBridge gives; nothing makes `ProviderConnected` false again. -/
def Session.answer : Session → Answer
  | .pending => .status false
  | .connected | .disconnected => .status true
  | .gone => .missing

/-- The trigger with which an answer ends the call. -/
def Answer.trigger : Answer → Option String
  | .status true => none
  | .status false => some "reconcile_provider_gone"
  | .missing | .failed => some "reconcile_session_missing"

/-- `reconcileActiveSessions` at its `await`: the call it asks about, the answer once it is given, and the calls
that follow. -/
structure Pass where
  callId : String
  sessionId : String
  answer : Option Answer
  rest : List String
  deriving DecidableEq, Repr

/-- The orchestrator and the sessions, and what the passes have ended: was the session over then? -/
structure Reconciling where
  calls : Orchestrator
  sessions : Map String Session
  passes : List Pass
  ended : List (String × Bool)

inductive ReconcileEvent
  | calls (e : CallsEvent)
  /-- Something happens to a session. -/
  | session (sessionId : String) (becomes : Session)
  /-- The event socket of the MediaBridge is connected again. -/
  | reconcile
  /-- A request is answered by the MediaBridge, or fails. -/
  | answer (p : Nat) (fails : Bool)
  /-- The answer arrives. -/
  | resume (p : Nat)
  deriving DecidableEq, Repr

namespace Reconciling

def init : Reconciling := ⟨.init, ∅, [], []⟩

def session (s : Reconciling) (sessionId : String) : Session := (s.sessions.lookup sessionId).getD .pending

/-- The loop, up to its next `await`. -/
def next (calls : Orchestrator) : List String → Option Pass
  | [] => none
  | callId :: rest =>
    match calls.activeCalls.lookup callId with
    | some call =>
      if call.ended ∨ ¬ call.answered then next calls rest else some ⟨callId, call.sessionId, none, rest⟩
    -- its call has ended
    | none => next calls rest

/-- The call that an answer ends. -/
def ending (s : Reconciling) (callId : String) (answer : Answer) : Option ActiveCall :=
  match answer.trigger with
  | none => none
  | some _ => (s.calls.activeCalls.lookup (s.calls.resolveToCallId callId)).filter (! ·.ended)

/-- An answer arrives. -/
def arrive (s : Reconciling) (p : Nat) (pass : Pass) (answer : Answer) : Reconciling :=
  let calls :=
    match answer.trigger with
    | none => s.calls
    | some trigger => s.calls.endCall pass.callId (some trigger)
  { s with
    calls
    passes := advance s.passes p (next calls pass.rest)
    ended := s.ended ++
      ((s.ending pass.callId answer).map fun call => (call.callId, (s.session call.sessionId).over)).toList }

def step (s : Reconciling) : ReconcileEvent → Option Reconciling
  | .calls e => (callsStep s.calls e).map fun calls => { s with calls }
  | .session sessionId becomes =>
    if (s.session sessionId).becomes becomes then
      some { s with sessions := s.sessions.insert sessionId becomes }
    else none
  | .reconcile =>
    some { s with
      passes := s.passes ++ (next s.calls (s.calls.activeCalls.entries.reverse.map (·.1))).toList }
  | .answer p fails =>
    s.passes[p]?.bind fun pass =>
      match pass.answer with
      | some _ => none
      | none =>
        let answer := if fails then .failed else (s.session pass.sessionId).answer
        some { s with passes := s.passes.set p { pass with answer := some answer } }
  | .resume p => s.passes[p]?.bind fun pass => pass.answer.map (s.arrive p pass)

/-- What was ended had a session that was over. -/
def Sound (s : Reconciling) : Prop := ∀ e ∈ s.ended, e.2 = true

/-- An answer that is no status of a connected leg finds the call ended, or the MediaBridge had no such session,
or it is over by now; and an identifier that is no call's any more is not found for another call. -/
def Justified (s : Reconciling) : ReconcileEvent → Prop
  | .resume p => ∀ pass, s.passes[p]? = some pass → ∀ answer, pass.answer = some answer →
    if s.calls.isActive pass.callId then
      answer = .failed ∨ answer = .status false → (s.session pass.sessionId).over = true
    else answer.trigger ≠ none → ∀ call,
      s.calls.activeCalls.lookup (s.calls.resolveToCallId pass.callId) = some call →
        (s.session call.sessionId).over = true
  | _ => True

/-! ## What stays -/

variable {s t : Reconciling}

/-- The calls are tracked; a pass asks about the session of its call, and one that was missing stays so. -/
structure Asks (s : Reconciling) : Prop where
  tracked : s.calls.Tracked
  own : ∀ pass ∈ s.passes, pass.sessionId = pass.callId
  missing : ∀ pass ∈ s.passes, pass.answer = some .missing → s.session pass.sessionId = .gone

theorem next_spec {calls : Orchestrator} (h : calls.Tracked) {ids : List String} {pass : Pass}
    (hnext : next calls ids = some pass) : pass.sessionId = pass.callId ∧ pass.answer = none := by
  induction ids with
  | nil => cases hnext
  | cons c ids ih =>
    rw [next] at hnext
    split at hnext
    · rename_i call hcall
      split at hnext
      · exact ih hnext
      · cases hnext
        exact ⟨(h.key hcall).2.1, rfl⟩
    · exact ih hnext

theorem session_insert (s : Reconciling) (sessionId x : String) (becomes : Session) :
    session { s with sessions := s.sessions.insert sessionId becomes } x =
      if x = sessionId then becomes else s.session x := by
  unfold session
  dsimp only
  rw [Map.lookup_insert]
  split <;> rfl

/-- A session that is gone stays so. -/
theorem gone_of_step {e : ReconcileEvent} (hstep : s.step e = some t) {x : String}
    (hgone : s.session x = .gone) :
    t.session x = .gone := by
  cases e with
  | calls e =>
    obtain ⟨calls, -, rfl⟩ := Option.map_eq_some_iff.mp hstep
    exact hgone
  | session sessionId becomes =>
    obtain ⟨hbecomes, hstep⟩ := Option.ite_none_right_eq_some.mp hstep
    cases hstep
    rw [session_insert]
    split
    · next heq =>
      rw [← heq, hgone] at hbecomes
      cases hbecomes
    · exact hgone
  | reconcile =>
    cases hstep
    exact hgone
  | answer p fails =>
    obtain ⟨pass, -, hanswer⟩ := Option.bind_eq_some_iff.mp hstep
    split at hanswer <;> cases hanswer
    exact hgone
  | resume p =>
    obtain ⟨pass, -, harrive⟩ := Option.bind_eq_some_iff.mp hstep
    obtain ⟨answer, -, rfl⟩ := Option.map_eq_some_iff.mp harrive
    exact hgone

theorem answer_missing {session : Session} (h : session.answer = .missing) : session = .gone := by
  cases session <;> first | rfl | cases h

theorem Asks.step (h : s.Asks) {e : ReconcileEvent} (hstep : s.step e = some t) : t.Asks := by
  have hgone := fun x => @gone_of_step s t e hstep x
  -- the passes after the step: one from before, one that has just come to an `await`, or one with its answer
  have hpasses : t.calls.Tracked ∧ ∀ pass ∈ t.passes, pass ∈ s.passes ∨
      pass.sessionId = pass.callId ∧ (pass.answer = some .missing → s.session pass.sessionId = .gone) := by
    cases e with
    | calls e =>
      obtain ⟨calls, hcalls, rfl⟩ := Option.map_eq_some_iff.mp hstep
      exact ⟨h.tracked.step hcalls, fun pass hpass => .inl hpass⟩
    | session sessionId becomes =>
      obtain ⟨-, hstep⟩ := Option.ite_none_right_eq_some.mp hstep
      cases hstep
      exact ⟨h.tracked, fun pass hpass => .inl hpass⟩
    | reconcile =>
      cases hstep
      refine ⟨h.tracked, fun pass hpass => (List.mem_append.mp hpass).imp id fun hnew => ?_⟩
      obtain ⟨hown, hnone⟩ := next_spec h.tracked (Option.mem_toList.mp hnew)
      exact ⟨hown, fun hmissing => by rw [hnone] at hmissing; cases hmissing⟩
    | answer p fails =>
      obtain ⟨pass, hget, hanswer⟩ := Option.bind_eq_some_iff.mp hstep
      split at hanswer <;> cases hanswer
      refine ⟨h.tracked, fun pass' hpass => (List.mem_or_eq_of_mem_set hpass).imp id ?_⟩
      rintro rfl
      refine ⟨h.own pass (List.mem_of_getElem? hget), fun hmissing => answer_missing ?_⟩
      have hanswer := Option.some.inj hmissing
      dsimp only at hanswer ⊢
      split at hanswer
      · cases hanswer
      · exact hanswer
    | resume p =>
      obtain ⟨pass, hget, harrive⟩ := Option.bind_eq_some_iff.mp hstep
      obtain ⟨answer, -, rfl⟩ := Option.map_eq_some_iff.mp harrive
      have htracked : (s.arrive p pass answer).calls.Tracked := by
        unfold arrive
        dsimp only
        split
        · exact h.tracked
        · exact h.tracked.endCall ..
      refine ⟨htracked, fun pass' hpass => (mem_advance hpass).imp id fun hnext => ?_⟩
      obtain ⟨hown, hnone⟩ := next_spec htracked hnext
      exact ⟨hown, fun hmissing => by rw [hnone] at hmissing; cases hmissing⟩
  refine ⟨hpasses.1, fun pass hpass => ?_, fun pass hpass hmissing => hgone _ ?_⟩
  · exact (hpasses.2 pass hpass).elim (h.own pass) fun hnew => hnew.1
  · exact (hpasses.2 pass hpass).elim (fun hold => h.missing pass hold hmissing) fun hnew => hnew.2 hmissing

/-! ## Each step -/

/-- What an answer ends. -/
theorem ending_eq (h : s.Asks) {callId : String} {answer : Answer} (htrigger : answer.trigger ≠ none) :
    s.ending callId answer = s.calls.activeCalls.lookup (s.calls.resolveToCallId callId) := by
  unfold ending
  split
  · next hnone => exact absurd hnone htrigger
  · cases hlookup : s.calls.activeCalls.lookup (s.calls.resolveToCallId callId) with
    | none => rfl
    | some call =>
      rw [Option.filter_some, (h.tracked.key hlookup).2.2]
      rfl

theorem sound_arrive_iff (hsound : s.Sound) (p : Nat) (pass : Pass) (answer : Answer) :
    (s.arrive p pass answer).Sound ↔
      ∀ call, s.ending pass.callId answer = some call → (s.session call.sessionId).over = true := by
  constructor
  · intro h call hcall
    exact h (call.callId, (s.session call.sessionId).over)
      (List.mem_append_right _ (by rw [hcall]; exact .head _))
  · intro h e he
    rcases List.mem_append.mp he with he | he
    · exact hsound e he
    · obtain ⟨call, hcall, rfl⟩ := Option.map_eq_some_iff.mp (Option.mem_toList.mp he)
      exact h call hcall

/-- **Every step** is justified just where what it ends was over. -/
theorem step_sound_iff (h : s.Asks) (hsound : s.Sound) {e : ReconcileEvent} (hstep : s.step e = some t) :
    t.Sound ↔ s.Justified e := by
  cases e with
  | calls e =>
    obtain ⟨calls, -, rfl⟩ := Option.map_eq_some_iff.mp hstep
    exact iff_of_true hsound trivial
  | session sessionId becomes =>
    obtain ⟨-, hstep⟩ := Option.ite_none_right_eq_some.mp hstep
    cases hstep
    exact iff_of_true hsound trivial
  | reconcile =>
    cases hstep
    exact iff_of_true hsound trivial
  | answer p fails =>
    obtain ⟨pass, -, hanswer⟩ := Option.bind_eq_some_iff.mp hstep
    split at hanswer <;> cases hanswer
    exact iff_of_true hsound trivial
  | resume p =>
    obtain ⟨pass, hget, harrive⟩ := Option.bind_eq_some_iff.mp hstep
    obtain ⟨answer, hanswer, rfl⟩ := Option.map_eq_some_iff.mp harrive
    have hpass := List.mem_of_getElem? hget
    have hjustified : s.Justified (.resume p) ↔
        if s.calls.isActive pass.callId then
          answer = .failed ∨ answer = .status false → (s.session pass.sessionId).over = true
        else answer.trigger ≠ none → ∀ call,
          s.calls.activeCalls.lookup (s.calls.resolveToCallId pass.callId) = some call →
            (s.session call.sessionId).over = true := by
      constructor
      · exact fun hall => hall pass hget answer hanswer
      · intro hone pass' hget' answer' hanswer'
        obtain rfl := Option.some.inj (hget.symm.trans hget')
        obtain rfl := Option.some.inj (hanswer.symm.trans hanswer')
        exact hone
    rw [hjustified, sound_arrive_iff hsound]
    by_cases htrigger : answer.trigger = none
    · -- the leg was connected
      have hstatus : answer = .status true := by
        match answer, htrigger with
        | .status true, _ => rfl
      subst hstatus
      refine iff_of_true nofun ?_
      split
      · rintro (hfailed | hfalse)
        · cases hfailed
        · cases hfalse
      · exact fun hne => absurd rfl hne
    · rw [ending_eq h htrigger]
      by_cases hactive : s.calls.isActive pass.callId = true
      · rw [if_pos hactive]
        obtain ⟨call, hcall⟩ := isActive_iff.mp hactive
        have hresolve : s.calls.resolveToCallId pass.callId = pass.callId := if_pos hactive
        have hsession : call.sessionId = pass.sessionId := by
          rw [(h.tracked.key hcall).2.1, h.own pass hpass]
        rw [hresolve, hcall]
        have hone : (∀ c, some call = some c → (s.session c.sessionId).over = true) ↔
            (s.session pass.sessionId).over = true := by
          rw [← hsession]
          exact ⟨fun hall => hall call rfl, fun hover c hc => Option.some.inj hc ▸ hover⟩
        rw [hone]
        match answer, htrigger with
        | .failed, _ => exact ⟨fun hover _ => hover, fun hall => hall (.inl rfl)⟩
        | .status false, _ => exact ⟨fun hover _ => hover, fun hall => hall (.inr rfl)⟩
        | .missing, _ =>
          refine iff_of_true ?_ (fun hno => hno.elim nofun nofun)
          rw [h.missing pass hpass hanswer]
          rfl
      · rw [if_neg hactive]
        exact ⟨fun hall _ => hall, fun hall => hall htrigger⟩

theorem asks_init : init.Asks :=
  ⟨tracked_init, fun _ h => absurd h List.not_mem_nil, fun _ h => absurd h List.not_mem_nil⟩

/-! ## Runs -/

/-- **Only calls that are over are ended** by the passes, in exactly the runs in which no answer that says
otherwise arrives for a call that goes on. -/
theorem sound_iff_justified (events : List ReconcileEvent) :
    Guarded step Justified init events ↔
      ∀ before after s, events = before ++ after → exec step init before = some s → s.Sound := by
  refine guarded_iff_invariant (J := Asks) (fun s e t hasks hsound hstep =>
    ⟨hasks.step hstep, step_sound_iff hasks hsound hstep⟩) (fun s e hrefused => ?_) asks_init
    (fun _ h => absurd h List.not_mem_nil) events
  match e with
  | .resume p =>
    intro pass hget answer hanswer
    rw [step, hget, Option.bind_some, hanswer] at hrefused
    cases hrefused
  | .calls _ | .session _ _ | .reconcile | .answer _ _ => trivial

/-- An inbound call that a tablet is about to answer: the provider has been asked. -/
def asked : List ReconcileEvent :=
  [.calls (.handleInbound (some ⟨"p", "modem-gateway", false, false, true⟩) "call 1" "leg 1" "+31" "+32"),
    .calls (.resume 0 (.session none)), .calls (.answerCall "call 1" "tablet"), .calls (.resume 1 .done)]

/-- **A call is ended while it is answered**, and one that goes on. The event socket is connected again while the
provider is asked to answer, and the leg is not there yet; and a request about a call whose leg is connected is
not answered in time. -/
theorem ends_while_answering :
    (∃ s, exec step init (asked ++ [.reconcile, .answer 0 false, .resume 0]) = some s ∧
      s.ended = [("call 1", false)] ∧ s.session "call 1" = .pending ∧ ¬ s.Sound) ∧
    ∃ s, exec step init (asked ++ [.calls (.resume 1 .done), .session "call 1" .connected, .reconcile,
        .answer 0 true, .resume 0]) = some s ∧
      s.ended = [("call 1", false)] ∧ s.session "call 1" = .connected ∧ ¬ s.Sound := by
  have hends : ∀ (events : List ReconcileEvent) (session : Session),
      (exec step init events).map (fun s => (s.ended, s.session "call 1")) =
        some ([("call 1", false)], session) →
        ∃ s, exec step init events = some s ∧ s.ended = [("call 1", false)] ∧ s.session "call 1" = session ∧
          ¬ s.Sound := by
    intro events session h
    obtain ⟨s, hrun, hs⟩ := Option.map_eq_some_iff.mp h
    obtain ⟨hended, hsession⟩ := Prod.mk.inj hs
    refine ⟨s, hrun, hended, hsession, fun hsound => ?_⟩
    exact absurd (hsound ("call 1", false) (hended ▸ .head _)) nofun
  exact ⟨hends _ _ (by decide +kernel), hends _ _ (by decide +kernel)⟩

end Reconciling

end Svarla.Calls
