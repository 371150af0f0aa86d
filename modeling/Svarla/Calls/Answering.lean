import Mathlib
import Svarla.Calls.Indexes

/-!
# Who answers a call

`answerCall` marks the call before its first `await`, so that a second request is refused while the
first one is under way; a failure takes the mark back. What the requests that succeed and those that
are still waiting come to together is at most one for each call (`Answering`). Nothing is checked
after the provider has answered: the call may have ended by then, and the request succeeds all the
same (`answered_after_end`); and the direction of the call is not checked at all. A run that does
neither is `AnswersLive`, and in it a request that succeeds leaves a call that is active and answered
by its device (`answers_live`).
-/

namespace Svarla.Calls

open Svarla.Lib Orchestrator

/-- The call and the device of a flow of `answerCall`. -/
def Flow.answering : Flow → Option (String × String)
  | .patchAnswer call deviceId => some (call.callId, deviceId)
  | .answer call deviceId => some (call.callId, deviceId)
  | _ => none

/-- The call whose provider a flow of `answerCall` waits for. -/
def Flow.providerAsked : Flow → Option ActiveCall
  | .answer call _ => some call
  | _ => none

def Flow.answers (callId : String) (flow : Flow) : Nat :=
  if flow.answering.map Prod.fst = some callId then 1 else 0

/-- A request to answer the call has succeeded. -/
def Effect.succeeds (callId : String) : Effect → Bool
  | .answerReturned c _ .success => c = callId
  | _ => false

/-- The devices or the notification are told that the call has ended, was declined or is missed. -/
def Effect.ends (callId : String) : Effect → Bool
  | .send _ (.callEvent data) => data.callId = callId ∧ data.status = .disconnected
  | .send _ (.callCancelled c reason) => c = callId ∧ reason ≠ .answeredElsewhere
  | .transitionToMissed c => c = callId
  | _ => false

namespace Orchestrator

/-- The requests to answer the call that have succeeded. -/
def successes (s : Orchestrator) (c : String) : Nat := s.effects.countP (Effect.succeeds c)

/-- The requests to answer the call that are under way. -/
def pending (s : Orchestrator) (c : String) : Nat := owed (Flow.answers c) s.flows

/-- The requests to answer one call. -/
structure Answering (s : Orchestrator) (c : String) : Prop where
  once : s.successes c + s.pending c ≤ 1
  /-- Only a call that was tracked is answered or ends. -/
  begun : 0 < s.successes c + s.pending c → s.Begun c
  ended : (∃ e ∈ s.effects, e.ends c) → s.Begun c
  unanswered : ∀ call, s.activeCalls.lookup c = some call →
    call.answered = false ∨ call.direction = .outbound → s.successes c + s.pending c = 0
  device : ∀ call flow d, s.activeCalls.lookup c = some call → flow ∈ s.flows →
    flow.answering = some (c, d) → call.answered = true ∧ call.answeredByDevice = some d
  live : ∀ call, s.activeCalls.lookup c = some call → ∀ e ∈ s.effects, e.ends c = false

/-! ## What an event leaves alone -/

/-- A call that has begun is not begun again. -/
def Begins (s t : Orchestrator) : Prop := ∀ c, s.Begun c → t.Begun c

theorem begins_of_flows {s t : Orchestrator} (hissued : t.issued = s.issued)
    (hflows : t.flows = s.flows) : Begins s t :=
  fun _ hc => ⟨hissued ▸ hc.1, hflows ▸ hc.2⟩

theorem begins_of_start {s t : Orchestrator} {flow : Flow} (hissued : ∀ x ∈ s.issued, x ∈ t.issued)
    (hflows : t.flows = s.flows ++ [flow]) (hopening : ∀ c ∈ s.issued, flow.opening ≠ some c) :
    Begins s t := by
  rintro c ⟨hc, hnone⟩
  refine ⟨hissued c hc, ?_⟩
  rw [hflows, owed_concat, hnone, Flow.opens, if_neg (hopening c hc)]

/-- A flow that goes on opens no call that has begun. -/
theorem begins_of_advance {s t : Orchestrator} {i : Nat} {flow : Flow} {next : Option Flow}
    (hflow : s.flows[i]? = some flow) (hissued : ∀ x ∈ s.issued, x ∈ t.issued)
    (hflows : t.flows = advance s.flows i next)
    (hnext : ∀ g ∈ next, ∀ c, g.opening = some c → flow.opening = some c ∨ c ∉ s.issued) :
    Begins s t := by
  rintro c ⟨hc, hnone⟩
  refine ⟨hissued c hc, ?_⟩
  have hsum := owed_advance hflow (Flow.opens c) next
  have hless : next.elim 0 (Flow.opens c) ≤ flow.opens c := by
    cases next with
    | none => exact Nat.zero_le _
    | some g =>
      rw [Option.elim_some, Flow.opens, Flow.opens]
      split
      · next hg => rw [if_pos ((hnext g rfl c hg).resolve_right (not_not_intro hc))]
      · exact Nat.zero_le _
  rw [hflows]
  omega

theorem proceed_next {s : Orchestrator} {flow : Flow} {reply : Reply}
    {r : Orchestrator × Option Flow} (hr : s.proceed flow reply = some r) :
    (∀ x ∈ s.issued, x ∈ r.1.issued) ∧
      ∀ g ∈ r.2, ∀ c, g.opening = some c → flow.opening = some c ∨ c ∉ s.issued := by
  revert hr
  fun_cases proceed <;> intro hr <;> cases hr
  case case2 hfresh =>
    refine ⟨fun x hx => List.mem_cons_of_mem _ hx, fun g hg c hc => ?_⟩
    cases hg
    cases hc
    exact .inr hfresh.2
  case case12 => exact ⟨fun x hx => hx, fun g hg c hc => by cases hg; cases hc⟩
  case case16 id _ =>
    refine ⟨fun x hx => ?_, fun g hg => absurd hg (Option.not_mem_none _)⟩
    cases id with
    | none => exact hx
    | some id =>
      dsimp only [registerNotification]
      split <;> exact List.mem_cons_of_mem _ hx
  all_goals first
    | exact ⟨fun x hx => hx, fun g hg => absurd hg (Option.not_mem_none _)⟩
    | exact ⟨fun x hx => hx, fun g hg c hc => by cases hg; exact .inl hc⟩

/-- The request and its call are not concerned by an event. -/
theorem Answering.frame {s t : Orchestrator} {c : String} (h : s.Answering c) (hbegins : Begins s t)
    (hcalls : ∀ call', t.activeCalls.lookup c = some call' →
      ∃ call, s.activeCalls.lookup c = some call ∧ call'.direction = call.direction ∧
        (call.answered = true → call'.answered = true) ∧
        call'.answeredByDevice = call.answeredByDevice)
    (hpending : t.pending c = s.pending c)
    (hflows : ∀ flow ∈ t.flows, ∀ d, flow.answering = some (c, d) →
      ∃ flow' ∈ s.flows, flow'.answering = some (c, d))
    {effects : List Effect} (heffects : t.effects = s.effects ++ effects)
    (hquiet : ∀ e ∈ effects, e.succeeds c = false ∧ e.ends c = false) : t.Answering c := by
  have hnone : effects.countP (Effect.succeeds c) = 0 := by
    refine List.countP_eq_zero.mpr fun e he => ?_
    rw [(hquiet e he).1]
    exact Bool.false_ne_true
  have hsuccesses : t.successes c = s.successes c := by
    rw [successes, heffects, List.countP_append, hnone]
    rfl
  have hends : ∀ e ∈ t.effects, e.ends c = true → e ∈ s.effects := by
    intro e he hend
    rw [heffects, List.mem_append] at he
    obtain hold | hnew := he
    · exact hold
    · rw [(hquiet e hnew).2] at hend
      cases hend
  refine
    { once := ?_, begun := fun hpos => ?_, ended := fun ⟨e, he, hend⟩ => ?_
      unanswered := fun call' hcall hun => ?_, device := fun call' flow d hcall hflow hd => ?_
      live := fun call' hcall e he => ?_ }
  · rw [hsuccesses, hpending]
    exact h.once
  · rw [hsuccesses, hpending] at hpos
    exact hbegins c (h.begun hpos)
  · exact hbegins c (h.ended ⟨e, hends e he hend, hend⟩)
  · obtain ⟨call, hold, hdirection, hanswered, -⟩ := hcalls call' hcall
    rw [hsuccesses, hpending]
    refine h.unanswered call hold ?_
    rw [← hdirection]
    refine hun.imp_left fun hfalse => ?_
    cases hwas : call.answered with
    | false => rfl
    | true => rw [hanswered hwas] at hfalse; cases hfalse
  · obtain ⟨call, hold, -, hanswered, hdevice⟩ := hcalls call' hcall
    obtain ⟨flow', hflow', hd'⟩ := hflows flow hflow d hd
    obtain ⟨hwas, hby⟩ := h.device call flow' d hold hflow' hd'
    exact ⟨hanswered hwas, hdevice.trans hby⟩
  · obtain ⟨call, hold, -⟩ := hcalls call' hcall
    cases hend : e.ends c with
    | false => rfl
    | true => exact hend.symm.trans (h.live call hold e (hends e he hend))

theorem pending_advance {s t : Orchestrator} {i : Nat} {flow : Flow} {next : Option Flow}
    (hflow : s.flows[i]? = some flow) (hflows : t.flows = advance s.flows i next) (c : String) :
    t.pending c + flow.answers c = s.pending c + next.elim 0 (Flow.answers c) := by
  rw [pending, hflows]
  exact owed_advance hflow (Flow.answers c) next

/-- A flow that answers the call is under way. -/
theorem pending_pos {s : Orchestrator} {flow : Flow} {c d : String} (hflow : flow ∈ s.flows)
    (hd : flow.answering = some (c, d)) : 1 ≤ s.pending c := by
  have hpart := le_owed_of_mem hflow (Flow.answers c)
  rwa [Flow.answers, hd, Option.map_some, if_pos rfl] at hpart

theorem answers_of_none {flow : Flow} (h : flow.answering = none) (c : String) :
    flow.answers c = 0 := by
  rw [Flow.answers, h]
  rfl

/-- A flow goes on that is for the same answer, or for none. -/
theorem Answering.of_advance {s t : Orchestrator} {c : String} (h : s.Answering c)
    (hbegins : Begins s t) {i : Nat} {flow : Flow} (next : Option Flow)
    (hflow : s.flows[i]? = some flow) (hsame : next.bind Flow.answering = flow.answering)
    (hcalls : t.activeCalls.lookup c = s.activeCalls.lookup c)
    (hflows : t.flows = advance s.flows i next) {effects : List Effect}
    (heffects : t.effects = s.effects ++ effects)
    (hquiet : ∀ e ∈ effects, e.succeeds c = false ∧ e.ends c = false) : t.Answering c := by
  refine h.frame hbegins (fun call' hcall => ⟨call', hcalls ▸ hcall, rfl, id, rfl⟩) ?_
    (fun g hg d hd => ?_) heffects hquiet
  · have hsum := pending_advance hflow hflows c
    have hdebt : next.elim 0 (Flow.answers c) = flow.answers c := by
      cases next with
      | none => exact (answers_of_none hsame.symm c).symm
      | some g =>
        rw [Option.bind_some] at hsame
        rw [Option.elim_some, Flow.answers, hsame, Flow.answers]
    omega
  · rw [hflows] at hg
    obtain hold | rfl := mem_advance hg
    · exact ⟨g, hold, hd⟩
    · exact ⟨flow, List.mem_of_getElem? hflow, hsame ▸ hd⟩

/-- The call of a flow that has drawn its ID is tracked. -/
theorem Answering.of_track {s t : Orchestrator} {c : String} (h : s.Answering c) (hs : s.Tracked)
    (hbegins : Begins s t) {i : Nat} {flow : Flow} (next : Option Flow)
    (hflow : s.flows[i]? = some flow) (call : ActiveCall)
    (hopening : flow.opening = some call.callId) (hanswering : flow.answering = none)
    (hnext : next.bind Flow.answering = none)
    (hcalls : t.activeCalls = s.activeCalls.insert call.callId call)
    (hflows : t.flows = advance s.flows i next) {effects : List Effect}
    (heffects : t.effects = s.effects ++ effects)
    (hquiet : ∀ e ∈ effects, e.succeeds c = false ∧ e.ends c = false) : t.Answering c := by
  by_cases hc : c = call.callId
  · subst hc
    have hone := (hs.opening (List.mem_of_getElem? hflow) hopening).2.2
    have hbefore : ¬ s.Begun call.callId := fun hb => by
      rw [hb.2] at hone
      cases hone
    have hzero : s.successes call.callId + s.pending call.callId = 0 :=
      Nat.eq_zero_of_not_pos fun hpos => hbefore (h.begun hpos)
    have hsuccesses : t.successes call.callId = 0 := by
      have hnone : effects.countP (Effect.succeeds call.callId) = 0 := by
        refine List.countP_eq_zero.mpr fun e he => ?_
        rw [(hquiet e he).1]
        exact Bool.false_ne_true
      rw [successes, heffects, List.countP_append, hnone]
      exact Nat.eq_zero_of_add_eq_zero_right hzero
    have hpending : t.pending call.callId = 0 := by
      have hsum := pending_advance hflow hflows call.callId
      have hdebt : next.elim 0 (Flow.answers call.callId) = 0 := by
        cases next with
        | none => rfl
        | some g => exact answers_of_none hnext _
      omega
    have hlive : ∀ e ∈ t.effects, e.ends call.callId = false := by
      intro e he
      rw [heffects, List.mem_append] at he
      obtain hold | hnew := he
      · cases hend : e.ends call.callId with
        | false => rfl
        | true => exact absurd (h.ended ⟨e, hold, hend⟩) hbefore
      · exact (hquiet e hnew).2
    refine
      { once := by omega, begun := fun hpos => absurd hpos (by omega)
        ended := fun ⟨e, he, hend⟩ => ?_, unanswered := fun _ _ _ => by omega
        device := fun _ g d _ hg hd => ?_, live := fun _ _ => hlive }
    · rw [hlive e he] at hend
      cases hend
    · have := pending_pos hg hd
      omega
  · exact h.of_advance hbegins next hflow (hnext.trans hanswering.symm)
      (by rw [hcalls, Map.lookup_insert, if_neg hc]) hflows heffects hquiet

/-! ## What an answer does -/

/-- The request that is under way for the call is the only one. -/
theorem Answering.sole {s : Orchestrator} {c d : String} (h : s.Answering c) {flow : Flow}
    (hflow : flow ∈ s.flows) (hd : flow.answering = some (c, d)) :
    s.successes c = 0 ∧ s.pending c = 1 ∧ s.Begun c := by
  have hpos := pending_pos hflow hd
  have honce := h.once
  exact ⟨by omega, by omega, h.begun (by omega)⟩

/-- The request that was under way for the call is no more. -/
theorem Answering.pending_ends {s t : Orchestrator} {c d : String} (h : s.Answering c) {i : Nat}
    {flow : Flow} (hflow : s.flows[i]? = some flow) (hd : flow.answering = some (c, d))
    (hflows : t.flows = advance s.flows i none) : t.pending c = 0 := by
  have hone := (h.sole (List.mem_of_getElem? hflow) hd).2.1
  have hsum := pending_advance hflow hflows c
  have hdebt : flow.answers c = 1 := by rw [Flow.answers, hd, Option.map_some, if_pos rfl]
  rw [Option.elim_none, hdebt, hone] at hsum
  omega

/-- The answer is taken back. -/
theorem Answering.of_fails {s t : Orchestrator} {c : String} (h : s.Answering c)
    (hbegins : Begins s t) {i : Nat} {flow : Flow} {callId d : String}
    (hflow : s.flows[i]? = some flow) (hd : flow.answering = some (callId, d))
    (hcalls : t.activeCalls = s.activeCalls.modify callId ActiveCall.unmarkAnswered)
    (hflows : t.flows = advance s.flows i none) {reason : String}
    (heffects : t.effects = s.effects ++ [.answerReturned callId d (.failed reason)]) :
    t.Answering c := by
  have hquiet : ∀ e ∈ [Effect.answerReturned callId d (.failed reason)],
      e.succeeds c = false ∧ e.ends c = false := by
    intro e he
    rw [List.mem_singleton.mp he]
    exact ⟨rfl, rfl⟩
  by_cases hc : c = callId
  · subst hc
    obtain ⟨hnone, -, hbegun⟩ := h.sole (List.mem_of_getElem? hflow) hd
    have hpending := h.pending_ends hflow hd hflows
    have hsuccesses : t.successes c = 0 := by
      rw [successes, heffects, List.countP_append]
      exact Nat.add_eq_zero_iff.mpr ⟨hnone, rfl⟩
    refine
      { once := by omega, begun := fun _ => hbegins c hbegun, ended := fun _ => hbegins c hbegun
        unanswered := fun _ _ _ => by omega, device := fun _ g d' _ hg hd' => ?_
        live := fun call' hcall e he => ?_ }
    · have := pending_pos hg hd'
      omega
    · rw [hcalls, Map.lookup_modify, if_pos rfl] at hcall
      obtain ⟨call, hold, -⟩ := Option.map_eq_some_iff.mp hcall
      rw [heffects, List.mem_append] at he
      exact he.elim (h.live call hold e) fun hnew => (hquiet e hnew).2
  · have hother : flow.answers c = 0 := by
      rw [Flow.answers, hd, Option.map_some, if_neg fun heq => hc (Option.some.inj heq).symm]
    refine h.frame hbegins (fun call' hcall => ⟨call', ?_, rfl, id, rfl⟩) ?_ (fun g hg d' hd' => ?_)
      heffects hquiet
    · rwa [hcalls, Map.lookup_modify, if_neg hc] at hcall
    · have hsum := pending_advance hflow hflows c
      rw [Option.elim_none] at hsum
      omega
    · rw [hflows] at hg
      exact ⟨g, (mem_advance hg).resolve_right nofun, hd'⟩

/-- The answer succeeds. -/
theorem Answering.of_succeeds {s t : Orchestrator} {c : String} (h : s.Answering c)
    (hbegins : Begins s t) {i : Nat} {flow : Flow} {callId d : String}
    (hflow : s.flows[i]? = some flow) (hd : flow.answering = some (callId, d))
    (hcalls : t.activeCalls = s.activeCalls) (hflows : t.flows = advance s.flows i none)
    {effects : List Effect} (heffects : t.effects = s.effects ++ effects)
    (hsucceeds : ∀ c, effects.countP (Effect.succeeds c) = if c = callId then 1 else 0)
    (hends : ∀ e ∈ effects, e.ends c = false) : t.Answering c := by
  by_cases hc : c = callId
  · subst hc
    have hmem := List.mem_of_getElem? hflow
    obtain ⟨hnone, hone, hbegun⟩ := h.sole hmem hd
    have hpending := h.pending_ends hflow hd hflows
    have hsuccesses : t.successes c = 1 := by
      rw [successes, heffects, List.countP_append, hsucceeds, if_pos rfl, ← successes, hnone]
    refine
      { once := by omega, begun := fun _ => hbegins c hbegun, ended := fun _ => hbegins c hbegun
        unanswered := fun call hcall hun => ?_, device := fun _ g d' _ hg hd' => ?_
        live := fun call hcall e he => ?_ }
    · rw [hcalls] at hcall
      -- the mark is still there, and the call is inbound
      obtain hfalse | hout := hun
      · rw [(h.device call flow d hcall hmem hd).1] at hfalse
        cases hfalse
      · have := h.unanswered call hcall (.inr hout)
        omega
    · have := pending_pos hg hd'
      omega
    · rw [hcalls] at hcall
      rw [heffects, List.mem_append] at he
      exact he.elim (h.live call hcall e) (hends e)
  · have hother : flow.answers c = 0 := by
      rw [Flow.answers, hd, Option.map_some, if_neg fun heq => hc (Option.some.inj heq).symm]
    refine h.frame hbegins (fun call' hcall => ⟨call', hcalls ▸ hcall, rfl, id, rfl⟩) ?_
      (fun g hg d' hd' => ?_) heffects fun e he => ⟨?_, hends e he⟩
    · have hsum := pending_advance hflow hflows c
      rw [Option.elim_none] at hsum
      omega
    · rw [hflows] at hg
      exact ⟨g, (mem_advance hg).resolve_right nofun, hd'⟩
    · have hzero := hsucceeds c
      rw [if_neg hc, List.countP_eq_zero] at hzero
      exact Bool.eq_false_iff.mpr (hzero e he)

/-- A request marks the call. -/
theorem Answering.of_marks {s t : Orchestrator} {c : String} (h : s.Answering c)
    (hbegins : Begins s t) {call : ActiveCall} {flow : Flow} {callId d : String}
    (hcall : s.activeCalls.lookup callId = some call) (hfree : call.answered = false)
    (hinbound : call.direction = .inbound) (hs : s.Tracked)
    (hd : flow.answering = some (callId, d)) {now : Nat}
    (hcalls : t.activeCalls = s.activeCalls.modify callId (·.markAnswered d now))
    (hflows : t.flows = s.flows ++ [flow]) {effects : List Effect}
    (heffects : t.effects = s.effects ++ effects)
    (hquiet : ∀ e ∈ effects, e.succeeds c = false ∧ e.ends c = false) : t.Answering c := by
  by_cases hc : c = callId
  · subst hc
    have hzero := h.unanswered call hcall (.inl hfree)
    have hbegun := hs.begun_of_active (isActive_of_lookup hcall)
    have hpending : t.pending c = 1 := by
      rw [pending, hflows, owed_concat, ← pending, Flow.answers, hd, Option.map_some, if_pos rfl]
      omega
    have hsuccesses : t.successes c = 0 := by
      have hnone : effects.countP (Effect.succeeds c) = 0 := by
        refine List.countP_eq_zero.mpr fun e he => ?_
        rw [(hquiet e he).1]
        exact Bool.false_ne_true
      rw [successes, heffects, List.countP_append, hnone]
      exact Nat.eq_zero_of_add_eq_zero_right hzero
    have hmarked : ∀ call', t.activeCalls.lookup c = some call' → call' = call.markAnswered d now := by
      intro call' hcall'
      rw [hcalls, Map.lookup_modify, if_pos rfl, hcall] at hcall'
      exact (Option.some.inj hcall').symm
    refine
      { once := by omega, begun := fun _ => hbegins c hbegun, ended := fun _ => hbegins c hbegun
        unanswered := fun call' hcall' hun => ?_, device := fun call' g d' hcall' hg hd' => ?_
        live := fun _ _ e he => ?_ }
    · rw [hmarked call' hcall'] at hun
      obtain hfalse | hout := hun
      · cases hfalse
      · cases hinbound.symm.trans hout
    · rw [hmarked call' hcall']
      rw [hflows, List.mem_append, List.mem_singleton] at hg
      obtain hold | rfl := hg
      · have := pending_pos hold hd'
        omega
      · cases hd.symm.trans hd'
        exact ⟨rfl, rfl⟩
    · rw [heffects, List.mem_append] at he
      exact he.elim (h.live call hcall e) fun hnew => (hquiet e hnew).2
  · have hother : flow.answering.map Prod.fst ≠ some c := by
      rw [hd, Option.map_some]
      exact fun heq => hc (Option.some.inj heq).symm
    refine h.frame hbegins (fun call' hcall' => ⟨call', ?_, rfl, id, rfl⟩) ?_ (fun g hg d' hd' => ?_)
      heffects hquiet
    · rwa [hcalls, Map.lookup_modify, if_neg hc] at hcall'
    · rw [pending, hflows, owed_concat, Flow.answers, if_neg hother]
      rfl
    · rw [hflows, List.mem_append, List.mem_singleton] at hg
      obtain hold | rfl := hg
      · exact ⟨g, hold, hd'⟩
      · rw [hd'] at hother
        exact absurd rfl hother

/-! ## One event -/

theorem countP_succeeds (call : ActiveCall) (d c : String) :
    List.countP (Effect.succeeds c)
      [.send (.except d) (.callCancelled call.callId .answeredElsewhere),
        .markAnswered call.providerCallId d, .markCallResolved call.callId,
        .answerReturned call.callId d .success] = if c = call.callId then 1 else 0 := by
  simp [List.countP_cons, Effect.succeeds, eq_comm]

theorem registerNotification_effects (s : Orchestrator) (callId : String) (id : Option String) :
    (s.registerNotification callId id).effects = s.effects := by
  cases id with
  | none => rfl
  | some id =>
    simp only [registerNotification]
    split <;> rfl

/-- **A continuation and the answers.** -/
theorem Answering.proceed {s : Orchestrator} {c : String} (h : s.Answering c) (hs : s.Tracked)
    {i : Nat} {flow : Flow} {reply : Reply} {r : Orchestrator × Option Flow}
    (hflow : s.flows[i]? = some flow) (hr : s.proceed flow reply = some r) :
    Answering { r.1 with flows := advance s.flows i r.2 } c := by
  obtain ⟨hissued, hnext⟩ := proceed_next hr
  have hbegins : Begins s { r.1 with flows := advance s.flows i r.2 } :=
    begins_of_advance hflow hissued rfl hnext
  have hquiet : ∀ e ∈ ([] : List Effect), e.succeeds c = false ∧ e.ends c = false :=
    fun _ he => absurd he List.not_mem_nil
  cases flow with
  | requireProvider deviceId fromNumber toNumber =>
    cases reply with
    | fails =>
      cases hr
      exact h.of_advance hbegins none hflow rfl rfl rfl rfl (by simp [Effect.succeeds, Effect.ends])
    | provider provider callId =>
      rw [Orchestrator.proceed] at hr
      split at hr
      · cases hr
        exact h.of_advance hbegins (some _) hflow rfl rfl rfl rfl
          (by simp [Effect.succeeds, Effect.ends])
      · cases hr
    | _ => cases hr
  | createOutbound provider callId deviceId fromNumber toNumber =>
    cases reply with
    | fails =>
      cases hr
      exact h.of_advance hbegins none hflow rfl rfl rfl rfl (by simp [Effect.succeeds, Effect.ends])
    | session audioWsUrl =>
      cases hr
      exact h.of_advance hbegins (some _) hflow rfl rfl rfl rfl
        (by simp [Effect.succeeds, Effect.ends])
    | _ => cases hr
  | makeCall provider callId audioWsUrl deviceId fromNumber toNumber =>
    cases reply with
    | fails =>
      cases hr
      exact h.of_advance hbegins none hflow rfl rfl rfl rfl (by simp [Effect.succeeds, Effect.ends])
    | placed providerCallId =>
      rw [Orchestrator.proceed] at hr
      split at hr
      · cases hr
        exact h.of_track hs hbegins none hflow _ rfl rfl rfl rfl rfl rfl
          (by simp [Effect.succeeds, Effect.ends])
      · cases hr
        exact h.of_advance hbegins (some _) hflow rfl rfl rfl rfl
          (by simp [Effect.succeeds, Effect.ends])
    | _ => cases hr
  | patchOutbound provider callId audioWsUrl providerCallId deviceId fromNumber toNumber =>
    cases reply with
    | done =>
      cases hr
      exact h.of_track hs hbegins none hflow _ rfl rfl rfl rfl rfl rfl
        (by simp [Effect.succeeds, Effect.ends])
    | fails =>
      cases hr
      exact h.of_track hs hbegins none hflow _ rfl rfl rfl rfl rfl rfl
        (by simp [Effect.succeeds, Effect.ends])
    | _ => cases hr
  | createInbound provider callId providerCallId fromNumber toNumber =>
    cases reply with
    | fails =>
      cases hr
      exact h.of_advance hbegins none hflow rfl rfl rfl rfl (by simp [Effect.succeeds, Effect.ends])
    | session audioWsUrl =>
      cases hr
      exact h.of_track hs hbegins (some _) hflow _ rfl rfl rfl rfl rfl rfl
        (by simp [Effect.succeeds, Effect.ends])
    | _ => cases hr
  | getNumbers callId fromNumber toNumber =>
    cases reply with
    | fails =>
      cases hr
      exact h.of_advance hbegins none hflow rfl rfl rfl rfl (by simp [Effect.succeeds, Effect.ends])
    | label label =>
      cases hr
      exact h.of_advance hbegins (some _) hflow rfl rfl rfl rfl
        (by simp [Effect.succeeds, Effect.ends])
    | _ => cases hr
  | createNotification callId =>
    cases reply with
    | fails => cases hr; exact h.of_advance hbegins none hflow rfl rfl rfl (List.append_nil _).symm hquiet
    | notified id =>
      rw [Orchestrator.proceed] at hr
      split at hr
      · cases hr
        refine h.of_advance hbegins none hflow rfl ?_ rfl ?_ hquiet
        · rw [(registerNotification_frame s callId id).1]
        · exact (registerNotification_effects s callId id).trans (List.append_nil _).symm
      · cases hr
    | _ => cases hr
  | patchAnswer call deviceId =>
    cases reply with
    | fails => cases hr; exact h.of_fails hbegins hflow rfl rfl rfl rfl
    | done =>
      cases hr
      exact h.of_advance hbegins (some _) hflow rfl rfl rfl rfl
        (by simp [Effect.succeeds, Effect.ends])
    | _ => cases hr
  | answer call deviceId =>
    cases reply with
    | fails => cases hr; exact h.of_fails hbegins hflow rfl rfl rfl rfl
    | done =>
      cases hr
      exact h.of_succeeds hbegins hflow rfl rfl rfl rfl (countP_succeeds call deviceId)
        (by simp [Effect.ends])
    | _ => cases hr

/-- Nothing is said about the answers. -/
theorem Answering.of_emit {s t : Orchestrator} {c : String} (h : s.Answering c)
    (hbegins : Begins s t) (hcalls : t.activeCalls = s.activeCalls)
    (hpending : t.pending c = s.pending c)
    (hflows : ∀ flow ∈ t.flows, flow.answering ≠ none → flow ∈ s.flows)
    {effects : List Effect} (heffects : t.effects = s.effects ++ effects)
    (hquiet : ∀ e ∈ effects, e.succeeds c = false ∧ e.ends c = false) : t.Answering c :=
  h.frame hbegins (fun call' hcall => ⟨call', hcalls ▸ hcall, rfl, id, rfl⟩) hpending
    (fun flow hflow _ hd => ⟨flow, hflows flow hflow (by rw [hd]; exact nofun), hd⟩) heffects hquiet

/-- A flow begins that answers nothing. -/
theorem Answering.of_start {s t : Orchestrator} {c : String} (h : s.Answering c)
    (hbegins : Begins s t) (hcalls : t.activeCalls = s.activeCalls) {flow : Flow}
    (hflows : t.flows = s.flows ++ [flow]) (hnone : flow.answering = none)
    {effects : List Effect} (heffects : t.effects = s.effects ++ effects)
    (hquiet : ∀ e ∈ effects, e.succeeds c = false ∧ e.ends c = false) : t.Answering c := by
  refine h.of_emit hbegins hcalls ?_ (fun g hg hsome => ?_) heffects hquiet
  · rw [pending, hflows, owed_concat, answers_of_none hnone]
    rfl
  · rw [hflows, List.mem_append, List.mem_singleton] at hg
    obtain hold | rfl := hg
    · exact hold
    · exact absurd hnone hsome

theorem Answering.endCall {s : Orchestrator} {c : String} (h : s.Answering c) (hs : s.Tracked)
    (requestedId : String) (trigger : Option String) : (s.endCall requestedId trigger).Answering c := by
  rw [Orchestrator.endCall]
  split
  · exact h
  · next call hcall =>
    split
    · exact h
    · obtain ⟨hkey, -, -⟩ := hs.key hcall
      rw [← hkey] at hcall
      set effects := [
        Effect.send .all (.callEvent ⟨call.callId, .disconnected, none, none, none⟩),
        .send .all (.callCancelled call.callId
          (if trigger = some "declined" then .declined else .callerDisconnect)),
        .destroySession call.sessionId (trigger = some "provider_disconnected"),
        .providerEnd call.providerCallId] ++ endRecord call s.now trigger with heffects
      have hsucceeds : ∀ e ∈ effects, e.succeeds c = false := by
        rw [heffects, endRecord]
        split_ifs <;> simp [Effect.succeeds]
      have hbegins : Begins s ((s.emit effects).untrack call) := begins_of_flows rfl rfl
      by_cases hc : c = call.callId
      · subst hc
        have hbegun := hs.begun_of_active (isActive_of_lookup hcall)
        have hsuccesses : ((s.emit effects).untrack call).successes call.callId =
            s.successes call.callId := by
          have hnone : effects.countP (Effect.succeeds call.callId) = 0 := by
            refine List.countP_eq_zero.mpr fun e he => ?_
            rw [hsucceeds e he]
            exact Bool.false_ne_true
          rw [successes, untrack, emit, List.countP_append, hnone]
          rfl
        have hgone : ((s.emit effects).untrack call).activeCalls.lookup call.callId = none := by
          rw [untrack, Map.lookup_erase, if_pos rfl]
        refine
          { once := ?_, begun := fun _ => hbegins _ hbegun, ended := fun _ => hbegins _ hbegun
            unanswered := fun call' hcall' _ => ?_, device := fun call' _ _ hcall' _ _ => ?_
            live := fun call' hcall' _ _ => ?_ }
        · rw [hsuccesses]
          exact h.once
        all_goals
          rw [hgone] at hcall'
          cases hcall'
      · refine h.frame hbegins (fun call' hcall' => ⟨call', ?_, rfl, id, rfl⟩) rfl
          (fun g hg d hd => ⟨g, hg, hd⟩) rfl fun e he => ⟨hsucceeds e he, ?_⟩
        · rwa [untrack, Map.lookup_erase, if_neg hc] at hcall'
        · have hother : ¬ call.callId = c := fun heq => hc heq.symm
          revert e
          rw [heffects, endRecord]
          split_ifs <;> simp [Effect.ends, hother]

/-- An outbound call that is not yet answered gets no request to answer it, and a call whose provider
has just answered is still active. -/
def AnswersLive (s : Orchestrator) : CallsEvent → Prop
  | .answerCall requestedId _ =>
    ∀ call ∈ s.activeCalls.lookup (s.resolveToCallId requestedId),
      call.direction = .outbound → call.answered = true
  | .resume i .done =>
    ∀ call ∈ s.flows[i]?.bind Flow.providerAsked, s.isActive call.callId = true
  | _ => True

instance (s : Orchestrator) : (event : CallsEvent) → Decidable (AnswersLive s event)
  | .answerCall _ _ => inferInstanceAs (Decidable (∀ call ∈ _, _ → _))
  | .resume _ .done => inferInstanceAs (Decidable (∀ call ∈ _, _ = true))
  | .resume _ .fails | .resume _ (.provider _ _) | .resume _ (.session _) | .resume _ (.placed _)
  | .resume _ (.label _) | .resume _ (.notified _) | .tick _ | .initiateOutbound _ _ _
  | .handleInbound _ _ _ _ _ | .endCall _ _ | .mediaEvent _ _ | .watchdog _ => .isTrue trivial

theorem Answering.answerCall {s : Orchestrator} {c : String} (h : s.Answering c) (hs : s.Tracked)
    {requestedId : String} (deviceId : String)
    (hlive : AnswersLive s (.answerCall requestedId deviceId)) :
    (s.answerCall requestedId deviceId).Answering c := by
  have hflows : ∀ flow ∈ s.flows, flow.answering ≠ none → flow ∈ s.flows := fun _ hflow _ => hflow
  rw [Orchestrator.answerCall]
  split
  · exact h.of_emit (begins_of_flows rfl rfl) rfl rfl hflows rfl
      (by simp [Effect.succeeds, Effect.ends])
  · next call hcall =>
    replace hlive := hlive call hcall
    split
    · exact h.of_emit (begins_of_flows rfl rfl) rfl rfl hflows rfl
        (by simp [Effect.succeeds, Effect.ends])
    · next hfree =>
      have hfree' := Bool.eq_false_iff.mpr hfree
      split
      · next hout => exact absurd (hlive hout) hfree
      · next hin =>
        obtain ⟨hkey, -, -⟩ := hs.key hcall
        split
        · exact h.of_marks (begins_of_start (fun _ hx => hx) rfl fun _ _ => (Option.some_ne_none _).symm)
            hcall hfree' hin hs
            (by rw [← hkey]; rfl) rfl rfl rfl (by simp [Effect.succeeds, Effect.ends])
        · exact h.of_marks (begins_of_start (fun _ hx => hx) rfl fun _ _ => (Option.some_ne_none _).symm)
            hcall hfree' hin hs
            (by rw [← hkey]; rfl) rfl rfl rfl (by simp [Effect.succeeds, Effect.ends])

theorem Answering.providerConnected {s : Orchestrator} {c callId : String} {call : ActiveCall}
    (h : s.Answering c) (hs : s.Tracked) (hcall : s.activeCalls.lookup callId = some call) :
    (s.providerConnected call).Answering c := by
  obtain ⟨rfl, -, -⟩ := hs.key hcall
  rw [Orchestrator.providerConnected]
  split
  · next hunanswered =>
    refine h.frame (begins_of_flows rfl rfl) (fun call' hcall' => ?_) rfl
      (fun g hg d hd => ⟨g, hg, hd⟩) rfl (by simp [Effect.succeeds, Effect.ends])
    rw [emit, Map.lookup_modify] at hcall'
    split at hcall'
    · next heq =>
      subst heq
      obtain ⟨old, hold, rfl⟩ := Option.map_eq_some_iff.mp hcall'
      exact ⟨old, hold, rfl, fun _ => rfl, rfl⟩
    · exact ⟨call', hcall', rfl, id, rfl⟩
  · exact h.of_emit (begins_of_flows rfl rfl) rfl rfl (fun _ hflow _ => hflow) rfl
      (by simp [Effect.succeeds, Effect.ends])

theorem Answering.handleMediaEvent {s : Orchestrator} {c : String} (h : s.Answering c)
    (hs : s.Tracked) (sessionId : String) (event : MediaEvent) :
    (s.handleMediaEvent sessionId event).Answering c := by
  have hflows : ∀ flow ∈ s.flows, flow.answering ≠ none → flow ∈ s.flows := fun _ hflow _ => hflow
  rw [Orchestrator.handleMediaEvent]
  split
  · exact h
  · next call hfound =>
    obtain ⟨callId, -, hcall⟩ := Option.bind_eq_some_iff.mp hfound
    cases event with
    | providerDisconnected => exact h.endCall hs ..
    | clientDisconnected => exact h.endCall hs ..
    | providerConnected => exact h.providerConnected hs hcall
    | clientConnected => exact h
    | dtmf digit =>
      dsimp only
      split
      · exact h
      · exact h.of_emit (begins_of_flows rfl rfl) rfl rfl hflows rfl
          (by simp [Effect.succeeds, Effect.ends])
    | iceCandidate candidate =>
      cases candidate with
      | none => exact h
      | some candidate =>
        exact h.of_emit (begins_of_flows rfl rfl) rfl rfl hflows rfl
          (by simp [Effect.succeeds, Effect.ends])

theorem Answering.handleInbound {s : Orchestrator} {c : String} (h : s.Answering c)
    {callId : String} (hfresh : s.Fresh callId) (provider : Option Provider)
    (providerCallId fromNumber toNumber : String) :
    (s.handleInbound provider callId providerCallId fromNumber toNumber).Answering c := by
  cases provider with
  | none =>
    exact h.of_emit (begins_of_flows rfl rfl) rfl rfl (fun _ hflow _ => hflow) rfl
      (by simp [Effect.succeeds, Effect.ends])
  | some provider =>
    refine h.of_start (begins_of_start (fun x hx => List.mem_cons_of_mem _ hx) rfl fun x hx hopens => ?_)
      rfl rfl rfl rfl (by simp [Effect.succeeds, Effect.ends])
    cases hopens
    exact hfresh.2 hx

/-- **One event and the answers to a call.** -/
theorem Answering.step {s t : Orchestrator} {c : String} {event : CallsEvent} (h : s.Answering c)
    (hs : s.Tracked) (hlive : AnswersLive s event) (hstep : callsStep s event = some t) :
    t.Answering c := by
  cases event with
  | tick milliseconds =>
    cases hstep
    exact h.of_emit (begins_of_flows rfl rfl) rfl rfl (fun _ hflow _ => hflow)
      (List.append_nil _).symm fun _ he => absurd he List.not_mem_nil
  | initiateOutbound deviceId fromNumber toNumber =>
    cases hstep
    exact h.of_start (begins_of_start (fun _ hx => hx) rfl fun _ _ => nofun) rfl rfl rfl
      (List.append_nil _).symm fun _ he => absurd he List.not_mem_nil
  | handleInbound provider callId providerCallId fromNumber toNumber =>
    simp only [callsStep, Option.ite_none_right_eq_some] at hstep
    obtain ⟨hfresh, hstep⟩ := hstep
    cases hstep
    exact h.handleInbound hfresh ..
  | answerCall requestedId deviceId => cases hstep; exact h.answerCall hs deviceId hlive
  | endCall requestedId trigger => cases hstep; exact h.endCall hs ..
  | mediaEvent sessionId event => cases hstep; exact h.handleMediaEvent hs ..
  | watchdog callId =>
    simp only [callsStep] at hstep
    split at hstep
    · cases hstep
    · obtain ⟨-, hstep⟩ := Option.ite_none_right_eq_some.mp hstep
      cases hstep
      exact h.endCall hs ..
  | resume i reply =>
    simp only [callsStep] at hstep
    split at hstep
    · cases hstep
    · next hflow =>
      obtain ⟨r, hr, rfl⟩ := Option.map_eq_some_iff.mp hstep
      exact h.proceed hs hflow hr

theorem answering_init (c : String) : init.Answering c where
  once := Nat.zero_le _
  begun hpos := absurd hpos (Nat.lt_irrefl 0)
  ended := fun ⟨_, he, _⟩ => absurd he List.not_mem_nil
  unanswered _ hcall := by simp [init] at hcall
  device _ _ _ hcall := by simp [init] at hcall
  live _ hcall := by simp [init] at hcall

/-! ## Where success comes from -/

theorem proceed_succeeds {s : Orchestrator} {flow : Flow} {reply : Reply}
    {r : Orchestrator × Option Flow} {new : List Effect} {c d : String}
    (hr : s.proceed flow reply = some r) (hnew : r.1.effects = s.effects ++ new)
    (hmem : .answerReturned c d .success ∈ new) :
    ∃ call, flow = .answer call d ∧ reply = .done ∧ call.callId = c ∧
      r = (s.answerSucceeds call d, none) := by
  revert hr
  fun_cases Orchestrator.proceed s flow reply <;> intro hr <;> cases hr
  case case21 call deviceId =>
    rw [← List.append_cancel_left hnew] at hmem
    simp only [List.mem_cons, reduceCtorEq, List.not_mem_nil, or_false, false_or,
      Effect.answerReturned.injEq, and_true] at hmem
    obtain ⟨rfl, rfl⟩ := hmem
    exact ⟨call, rfl, rfl, rfl, rfl⟩
  case case16 callId id _ =>
    rw [registerNotification_effects] at hnew
    rw [List.self_eq_append_right.mp hnew] at hmem
    cases hmem
  case case15 =>
    rw [List.self_eq_append_right.mp hnew] at hmem
    cases hmem
  all_goals
    rw [← List.append_cancel_left hnew] at hmem
    simp at hmem

/-- What an event says without a request that succeeds. -/
def NoSuccess (s t : Orchestrator) : Prop :=
  ∃ effects, t.effects = s.effects ++ effects ∧ ∀ c d, .answerReturned c d .success ∉ effects

theorem noSuccess_of_eq {s t : Orchestrator} (h : t.effects = s.effects) : NoSuccess s t :=
  ⟨[], h.trans (List.append_nil _).symm, fun _ _ => List.not_mem_nil⟩

theorem noSuccess_endCall (s : Orchestrator) (requestedId : String) (trigger : Option String) :
    NoSuccess s (s.endCall requestedId trigger) := by
  rw [endCall]
  split
  · exact noSuccess_of_eq rfl
  · split
    · exact noSuccess_of_eq rfl
    · refine ⟨_, rfl, fun c d => ?_⟩
      rw [endRecord]
      split_ifs <;> simp

theorem noSuccess_handleMediaEvent (s : Orchestrator) (sessionId : String) (event : MediaEvent) :
    NoSuccess s (s.handleMediaEvent sessionId event) := by
  rw [handleMediaEvent]
  split
  · exact noSuccess_of_eq rfl
  · cases event with
    | providerDisconnected => exact noSuccess_endCall ..
    | clientDisconnected => exact noSuccess_endCall ..
    | providerConnected => dsimp only [providerConnected]; split <;> exact ⟨_, rfl, by simp⟩
    | clientConnected => exact noSuccess_of_eq rfl
    | dtmf digit => dsimp only; split <;> first | exact noSuccess_of_eq rfl | exact ⟨_, rfl, by simp⟩
    | iceCandidate candidate =>
      cases candidate <;> first | exact noSuccess_of_eq rfl | exact ⟨_, rfl, by simp⟩

theorem noSuccess_handleInbound (s : Orchestrator) (provider : Option Provider)
    (callId providerCallId fromNumber toNumber : String) :
    NoSuccess s (s.handleInbound provider callId providerCallId fromNumber toNumber) := by
  cases provider <;> exact ⟨_, rfl, by simp⟩

theorem noSuccess_answerCall {s : Orchestrator} {requestedId deviceId : String}
    (hlive : AnswersLive s (.answerCall requestedId deviceId)) :
    NoSuccess s (s.answerCall requestedId deviceId) := by
  rw [answerCall]
  split
  · exact ⟨_, rfl, by simp⟩
  · next call hcall =>
    replace hlive := hlive call hcall
    split
    · exact ⟨_, rfl, by simp⟩
    · next hfree =>
      split
      · next hout => exact absurd (hlive hout) hfree
      · split <;> exact ⟨_, rfl, by simp⟩

/-- A request succeeds when the provider has answered, and in a run of the guard its call is active
then. -/
theorem callsStep_succeeds {s t : Orchestrator} {event : CallsEvent} {new : List Effect}
    {c d : String} (hlive : AnswersLive s event) (hstep : callsStep s event = some t)
    (hnew : t.effects = s.effects ++ new) (hmem : .answerReturned c d .success ∈ new) :
    ∃ flow ∈ s.flows, flow.answering = some (c, d) ∧ s.isActive c = true ∧
      t.activeCalls = s.activeCalls := by
  have hnone : ¬ NoSuccess s t := by
    rintro ⟨effects, heffects, hquiet⟩
    rw [heffects] at hnew
    rw [← List.append_cancel_left hnew] at hmem
    exact hquiet c d hmem
  cases event with
  | tick milliseconds => cases hstep; exact absurd (noSuccess_of_eq rfl) hnone
  | initiateOutbound deviceId fromNumber toNumber =>
    cases hstep
    exact absurd (noSuccess_of_eq rfl) hnone
  | handleInbound provider callId providerCallId fromNumber toNumber =>
    simp only [callsStep, Option.ite_none_right_eq_some] at hstep
    obtain ⟨-, hstep⟩ := hstep
    cases hstep
    exact absurd (noSuccess_handleInbound ..) hnone
  | answerCall requestedId deviceId =>
    cases hstep
    exact absurd (noSuccess_answerCall hlive) hnone
  | endCall requestedId trigger => cases hstep; exact absurd (noSuccess_endCall ..) hnone
  | mediaEvent sessionId event => cases hstep; exact absurd (noSuccess_handleMediaEvent ..) hnone
  | watchdog callId =>
    simp only [callsStep] at hstep
    split at hstep
    · cases hstep
    · obtain ⟨-, hstep⟩ := Option.ite_none_right_eq_some.mp hstep
      cases hstep
      exact absurd (noSuccess_endCall ..) hnone
  | resume i reply =>
    simp only [callsStep] at hstep
    split at hstep
    · cases hstep
    · next flow hflow =>
      obtain ⟨r, hr, rfl⟩ := Option.map_eq_some_iff.mp hstep
      obtain ⟨call, rfl, rfl, rfl, rfl⟩ := proceed_succeeds hr hnew hmem
      have hactive := hlive call (by rw [hflow]; rfl)
      exact ⟨_, List.mem_of_getElem? hflow, rfl, hactive, rfl⟩

theorem proceed_effects {s : Orchestrator} {flow : Flow} {reply : Reply}
    {r : Orchestrator × Option Flow} (hr : s.proceed flow reply = some r) :
    ∃ effects, r.1.effects = s.effects ++ effects := by
  revert hr
  fun_cases Orchestrator.proceed s flow reply <;> intro hr <;> cases hr
  all_goals first
    | exact ⟨_, rfl⟩
    | exact ⟨[], (List.append_nil _).symm⟩
    | exact ⟨[], (registerNotification_effects ..).trans (List.append_nil _).symm⟩

/-- Nothing that was done is undone. -/
theorem callsStep_effects {s t : Orchestrator} {event : CallsEvent} (hlive : AnswersLive s event)
    (hstep : callsStep s event = some t) : ∃ effects, t.effects = s.effects ++ effects := by
  have hquiet : NoSuccess s t → ∃ effects, t.effects = s.effects ++ effects :=
    fun ⟨effects, heffects, _⟩ => ⟨effects, heffects⟩
  cases event with
  | tick milliseconds => cases hstep; exact hquiet (noSuccess_of_eq rfl)
  | initiateOutbound deviceId fromNumber toNumber =>
    cases hstep
    exact hquiet (noSuccess_of_eq rfl)
  | handleInbound provider callId providerCallId fromNumber toNumber =>
    simp only [callsStep, Option.ite_none_right_eq_some] at hstep
    obtain ⟨-, hstep⟩ := hstep
    cases hstep
    exact hquiet (noSuccess_handleInbound ..)
  | answerCall requestedId deviceId => cases hstep; exact hquiet (noSuccess_answerCall hlive)
  | endCall requestedId trigger => cases hstep; exact hquiet (noSuccess_endCall ..)
  | mediaEvent sessionId event => cases hstep; exact hquiet (noSuccess_handleMediaEvent ..)
  | watchdog callId =>
    simp only [callsStep] at hstep
    split at hstep
    · cases hstep
    · obtain ⟨-, hstep⟩ := Option.ite_none_right_eq_some.mp hstep
      cases hstep
      exact hquiet (noSuccess_endCall ..)
  | resume i reply =>
    simp only [callsStep] at hstep
    split at hstep
    · cases hstep
    · obtain ⟨r, hr, rfl⟩ := Option.map_eq_some_iff.mp hstep
      exact proceed_effects hr

/-! ## No request touches an outbound call -/

/-- The event is `answerCall`, or a continuation of it. -/
def isAnswer (s : Orchestrator) : CallsEvent → Prop
  | .answerCall _ _ => True
  | .resume i _ => ∃ flow, s.flows[i]? = some flow ∧ flow.answering ≠ none
  | _ => False

theorem outbound_untouched {s t : Orchestrator} {event : CallsEvent}
    (h : ∀ c, s.Answering c) (hlive : AnswersLive s event)
    (hanswer : s.isAnswer event) (hstep : callsStep s event = some t) {c : String}
    {call : ActiveCall} (hcall : s.activeCalls.lookup c = some call)
    (hout : call.direction = .outbound) : t.activeCalls.lookup c = some call := by
  have hmodify : ∀ {callId : String} {f : ActiveCall → ActiveCall}, c ≠ callId →
      (s.activeCalls.modify callId f).lookup c = some call := by
    intro callId f hne
    rw [Map.lookup_modify, if_neg hne, hcall]
  cases event with
  | answerCall requestedId deviceId =>
    cases hstep
    rw [answerCall]
    split
    · exact hcall
    · next found hfound =>
      replace hlive := hlive found hfound
      split
      · exact hcall
      · next hfree =>
        have hne : c ≠ s.resolveToCallId requestedId := by
          rintro rfl
          rw [hfound] at hcall
          cases hcall
          exact hfree (hlive hout)
        split
        · exact hmodify hne
        · split <;> exact hmodify hne
  | resume i reply =>
    obtain ⟨flow, hflow, hsome⟩ := hanswer
    have hmem := List.mem_of_getElem? hflow
    obtain ⟨⟨callId, d⟩, hd⟩ := Option.ne_none_iff_exists'.mp hsome
    have hne : c ≠ callId := by
      rintro rfl
      have hzero := (h c).unanswered call hcall (.inr hout)
      have := pending_pos hmem hd
      omega
    simp only [callsStep, hflow] at hstep
    obtain ⟨r, hr, rfl⟩ := Option.map_eq_some_iff.mp hstep
    cases flow with
    | patchAnswer call' deviceId =>
      cases hd
      cases reply with
      | fails => cases hr; exact hmodify hne
      | done => cases hr; exact hcall
      | _ => cases hr
    | answer call' deviceId =>
      cases hd
      cases reply with
      | fails => cases hr; exact hmodify hne
      | done => cases hr; exact hcall
      | _ => cases hr
    | _ => cases hd
  | _ => cases hanswer

/-! ## Every run -/

/-- The call is active, and answered by the device; nothing has told its end. -/
def AnsweredBy (s : Orchestrator) (c d : String) : Prop :=
  (∃ call, s.activeCalls.lookup c = some call ∧ call.direction = .inbound ∧ call.ended = false ∧
    call.answered = true ∧ call.answeredByDevice = some d) ∧
    ∀ e ∈ s.effects, e.ends c = false

theorem answeredBy_of_flow {s t : Orchestrator} {c d : String} (h : s.Answering c) (ht : t.Answering c)
    (hs : s.Tracked) {flow : Flow} (hflow : flow ∈ s.flows) (hd : flow.answering = some (c, d))
    (hactive : s.isActive c = true) (hcalls : t.activeCalls = s.activeCalls) : t.AnsweredBy c d := by
  obtain ⟨call, hcall⟩ := isActive_iff.mp hactive
  obtain ⟨hanswered, hdevice⟩ := h.device call flow d hcall hflow hd
  have hinbound : call.direction = .inbound := by
    cases hdirection : call.direction with
    | inbound => rfl
    | outbound =>
      have hzero := h.unanswered call hcall (.inr hdirection)
      have := pending_pos hflow hd
      omega
  have hcall' := hcalls.symm ▸ hcall
  exact ⟨⟨call, hcall', hinbound, (hs.key hcall).2.2, hanswered, hdevice⟩, ht.live call hcall'⟩

end Orchestrator

/-- **Success means a live call.** In every run in which no request is made for an unanswered outbound
call, and a provider's answer finds its call still active, at most one request for a call succeeds;
when one does, its call is an active inbound call that is answered by its device, and nothing has told
its end; and no request changes an outbound call. -/
theorem answers_live {events : List CallsEvent} {event : CallsEvent} {s t : Orchestrator}
    (hguard : Guarded callsStep AnswersLive init (events ++ [event]))
    (hrun : exec callsStep init events = some s) (hstep : callsStep s event = some t) :
    (∀ c, t.successes c ≤ 1) ∧
      (∃ new, t.effects = s.effects ++ new ∧
        ∀ c d, .answerReturned c d .success ∈ new → t.AnsweredBy c d) ∧
      (s.isAnswer event → ∀ c call, s.activeCalls.lookup c = some call →
        call.direction = .outbound → t.activeCalls.lookup c = some call) := by
  obtain ⟨hbefore, hlast⟩ := hguard.of_append
  have hlive := (hlast s hrun).1
  obtain ⟨hs, hanswering⟩ := hbefore.invariant (I := fun s => s.Tracked ∧ ∀ c, s.Answering c)
    (fun _ _ _ ⟨hs, h⟩ hlive hstep => ⟨hs.step hstep, fun c => (h c).step hs hlive hstep⟩)
    ⟨tracked_init, answering_init⟩ hrun
  have hafter := fun c => (hanswering c).step hs hlive hstep
  refine ⟨fun c => (Nat.le_add_right _ _).trans (hafter c).once, ?_, fun hanswer c call hcall hout =>
    outbound_untouched hanswering hlive hanswer hstep hcall hout⟩
  obtain ⟨new, hnew⟩ := callsStep_effects hlive hstep
  refine ⟨new, hnew, fun c d hmem => ?_⟩
  obtain ⟨flow, hflow, hd, hactive, hcalls⟩ := callsStep_succeeds hlive hstep hnew hmem
  exact answeredBy_of_flow (hanswering c) (hafter c) hs hflow hd hactive hcalls

/-- An inbound call that a tablet is about to answer. -/
def answeringRun : List CallsEvent :=
  [.handleInbound (some sipProvider) "call 1" "leg 1" "+31" "+32", .resume 0 (.session none),
    .answerCall "call 1" "tablet"]

theorem answers_live_once :
    ∃ s t, exec callsStep init answeringRun = some s ∧ callsStep s (.resume 1 .done) = some t ∧
      t.AnsweredBy "call 1" "tablet" ∧ t.successes "call 1" ≤ 1 := by
  have hlast : (exec callsStep init answeringRun).bind (fun s =>
      (callsStep s (.resume 1 .done)).map fun t => (t.effects.drop s.effects.length).getLast?) =
      some (some (.answerReturned "call 1" "tablet" .success)) := by decide +kernel
  obtain ⟨s, hrun, hmap⟩ := Option.bind_eq_some_iff.mp hlast
  obtain ⟨t, hstep, hnew⟩ := Option.map_eq_some_iff.mp hmap
  obtain ⟨honce, ⟨new, heffects, hsuccess⟩, -⟩ := answers_live (by decide +kernel) hrun hstep
  rw [heffects, List.drop_left] at hnew
  exact ⟨s, t, hrun, hstep, hsuccess _ _ (List.mem_of_getLast? hnew), honce _⟩

/-- The call ends while its provider is asked, and the request succeeds. -/
theorem answered_after_end :
    (exec callsStep init
      (answeringRun ++ [.endCall "call 1" none, .resume 1 .done])).map
        (fun s => (s.effects.getLast?, s.isActive "call 1")) =
      some (some (.answerReturned "call 1" "tablet" .success), false) := by decide +kernel

end Svarla.Calls
