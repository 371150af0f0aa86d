import Svarla.Calls.Lifetimes

/-!
# The watchdog of a call

The timers of `armWatchdog` beside the orchestrator. A call gets a short one when it is tracked, and a
long one when it is answered or connected; the one before is cleared. The long one comes when the call
is marked, before the provider has answered, and a failure takes the mark back but not the timer, so
that a call may ring under the watchdog of a connected one (`rings_for_hours`).

Every call has one timer, whatever happens. Where no request to answer fails while its call is still
there, the timer of an unanswered call is the short one (`watchdog_covers`).
-/

namespace Svarla.Calls

open Svarla.Lib Orchestrator

/-! ## The timers -/

/-- A timer of `armWatchdog`. -/
structure Timer where
  callId : String
  armedAt : Nat
  timeoutMs : Nat
  deriving DecidableEq, Repr

/-- When the timer fires; the call refers to it by that. -/
def Timer.firesAt (timer : Timer) : Nat := timer.armedAt + timer.timeoutMs

/-- What is done with the timer of a call, whose `watchdogTimer` is given. -/
inductive TimerChange
  /-- `armWatchdog`. -/
  | arms (callId : String) (watchdogTimer : Option Nat) (timeoutMs : Nat)
  /-- `clearTimeout`, in `endCall`. -/
  | clears (callId : String) (watchdogTimer : Nat)
  deriving DecidableEq, Repr

/-- `clearTimeout`. -/
def clearTimeout (timers : List Timer) (callId : String) (watchdogTimer : Nat) : List Timer :=
  timers.eraseP fun timer => timer.callId = callId ∧ timer.firesAt = watchdogTimer

/-- The timers after a change. -/
def TimerChange.apply (timers : List Timer) (now : Nat) : TimerChange → List Timer
  | arms callId watchdogTimer timeoutMs =>
    watchdogTimer.elim timers (clearTimeout timers callId) ++ [⟨callId, now, timeoutMs⟩]
  | clears callId watchdogTimer => clearTimeout timers callId watchdogTimer

/-- The call that a flow comes to track with the reply. -/
def Flow.tracks : Flow → Reply → Option String
  | .makeCall provider callId _ _ _ _, .placed _ => if provider.isEcho then some callId else none
  | .patchOutbound _ callId _ _ _ _ _, .done => some callId
  | .patchOutbound _ callId _ _ _ _ _, .fails => some callId
  | .createInbound _ callId _ _ _, .session _ => some callId
  | _, _ => none

namespace Orchestrator

/-- `endCall` clears the timer of the call it ends. -/
def clearing (s : Orchestrator) (requestedId : String) : Option TimerChange :=
  (s.activeCalls.lookup (s.resolveToCallId requestedId)).bind fun call =>
    if call.ended then none else some (.clears call.callId call.watchdogTimer)

/-- What an event does with a timer. -/
def timerChange (s : Orchestrator) : CallsEvent → Option TimerChange
  | .answerCall requestedId _ =>
    (s.activeCalls.lookup (s.resolveToCallId requestedId)).bind fun call =>
      if call.answered then none
      else some (.arms call.callId (some call.watchdogTimer) maxCallDuration)
  | .endCall requestedId _ => s.clearing requestedId
  | .mediaEvent sessionId event =>
    ((s.sessionToCall.lookup sessionId).bind s.activeCalls.lookup).bind fun call =>
      match event with
      | .providerDisconnected => s.clearing call.callId
      | .clientDisconnected => s.clearing call.callId
      | .providerConnected =>
        if !call.answered && call.direction = .outbound then
          some (.arms call.callId (some call.watchdogTimer) maxCallDuration)
        else none
      | _ => none
  | .watchdog callId => s.clearing callId
  | .resume i reply =>
    (s.flows[i]?.bind (·.tracks reply)).map fun callId => .arms callId none unansweredWatchdog
  | _ => none

/-- The call that an event leaves unanswered: one that comes to be tracked, or whose answer fails. -/
def unanswers (s : Orchestrator) (event : CallsEvent) : Option String :=
  match event with
  | .resume i reply =>
    (s.flows[i]?.bind (·.tracks reply)).or ((s.failing event).map Prod.fst)
  | _ => none

end Orchestrator

/-- The orchestrator with the timers that are armed. -/
structure Watched where
  calls : Orchestrator
  timers : List Timer
  /-- When a call was last left unanswered. -/
  since : Map String Nat

inductive WatchedEvent
  | calls (event : CallsEvent)
  /-- A timer fires. -/
  | fires (i : Nat)
  deriving DecidableEq, Repr

namespace Watched

def init : Watched := ⟨Orchestrator.init, [], ∅⟩

/-- The calls have come to `t`. -/
def after (s : Watched) (event : CallsEvent) (t : Orchestrator) : Watched where
  calls := t
  timers := (s.calls.timerChange event).elim s.timers (TimerChange.apply s.timers s.calls.now)
  since := (s.calls.unanswers event).elim s.since (s.since.insert · s.calls.now)

end Watched

/-- One event; the timers fire by themselves. -/
def watchedStep (s : Watched) : WatchedEvent → Option Watched
  | .calls (.watchdog _) => none
  | .calls event => (callsStep s.calls event).map (s.after event)
  | .fires i =>
    match s.timers[i]? with
    | none => none
    | some timer =>
      if timer.firesAt ≤ s.calls.now then
        let s := { s with timers := s.timers.eraseIdx i }
        if s.calls.isActive timer.callId then
          some (s.after (.watchdog timer.callId)
            (s.calls.endCall timer.callId (some "watchdog_timeout")))
        else some s
      else none

namespace Watched

/-- Every call has one timer. That of an unanswered call fires in time, and a long one is that of a call
which was answered. -/
def Covered (s : Watched) : Prop :=
  ∀ c call, s.calls.activeCalls.lookup c = some call →
    ∃ timer, s.timers.filter (·.callId = c) = [timer] ∧
      (call.answered = false →
        ∃ since, s.since.lookup c = some since ∧ timer.firesAt ≤ since + unansweredWatchdog) ∧
      (timer.timeoutMs = maxCallDuration → call.answered = true)

/-- No request to answer fails while its call is there. -/
def Lasting (s : Watched) : WatchedEvent → Prop
  | .calls event => ∀ request ∈ s.calls.failing event, s.calls.isActive request.1 = false
  | .fires _ => True

instance (s : Watched) : (event : WatchedEvent) → Decidable (s.Lasting event)
  | .calls event =>
    inferInstanceAs (Decidable (∀ request ∈ s.calls.failing event, s.calls.isActive request.1 = false))
  | .fires _ => .isTrue trivial

end Watched

/-! ## What an event does with the calls and their timers -/

namespace Orchestrator

/-- The calls, with the change of a timer and the call that is left unanswered. -/
inductive Rearms (s t : Orchestrator) (event : CallsEvent) :
    Option TimerChange → Option String → Prop
  | same (hcalls : t.activeCalls = s.activeCalls) : Rearms s t event none none
  | tracks (callId : String) (call : ActiveCall) (hnew : s.isActive callId = false)
      (hcalls : t.activeCalls = s.activeCalls.insert callId call) (hfree : call.answered = false)
      (htimer : call.watchdogTimer = s.now + unansweredWatchdog) :
      Rearms s t event (some (.arms callId none unansweredWatchdog)) (some callId)
  | marks (call : ActiveCall) (f : ActiveCall → ActiveCall)
      (hcall : s.activeCalls.lookup call.callId = some call) (hanswered : (f call).answered = true)
      (htimer : (f call).watchdogTimer = s.now + maxCallDuration)
      (hcalls : t.activeCalls = s.activeCalls.modify call.callId f) :
      Rearms s t event (some (.arms call.callId (some call.watchdogTimer) maxCallDuration)) none
  | unmarks (callId deviceId : String) (hfails : s.failing event = some (callId, deviceId))
      (hcalls : t.activeCalls = s.activeCalls.modify callId ActiveCall.unmarkAnswered) :
      Rearms s t event none (some callId)
  | ends (call : ActiveCall) (hcall : s.activeCalls.lookup call.callId = some call)
      (hcalls : t.activeCalls = s.activeCalls.erase call.callId) :
      Rearms s t event (some (.clears call.callId call.watchdogTimer)) none

variable {s t : Orchestrator} {event : CallsEvent}

theorem Tracked.rearms_endCall (h : s.Tracked) (requestedId : String) (trigger : Option String) :
    Rearms s (s.endCall requestedId trigger) event (s.clearing requestedId) none := by
  rw [Orchestrator.endCall, clearing]
  cases hcall : s.activeCalls.lookup (s.resolveToCallId requestedId) with
  | none => exact .same rfl
  | some call =>
    obtain ⟨hkey, -, hended⟩ := h.key hcall
    simp only [hended, Option.bind_some, Bool.false_eq_true, if_false]
    exact .ends call (hkey ▸ hcall) rfl

theorem Tracked.rearms_handleMediaEvent (h : s.Tracked) (sessionId : String)
    (mediaEvent : MediaEvent) :
    Rearms s (s.handleMediaEvent sessionId mediaEvent) event
      (s.timerChange (.mediaEvent sessionId mediaEvent)) none := by
  rw [Orchestrator.handleMediaEvent, timerChange]
  cases hcall : (s.sessionToCall.lookup sessionId).bind s.activeCalls.lookup with
  | none => exact .same rfl
  | some call =>
    obtain ⟨c, -, hcall⟩ := Option.bind_eq_some_iff.mp hcall
    have hlookup : s.activeCalls.lookup call.callId = some call := (h.key hcall).1 ▸ hcall
    cases mediaEvent with
    | providerDisconnected => exact h.rearms_endCall ..
    | clientDisconnected => exact h.rearms_endCall ..
    | providerConnected =>
      dsimp only [Option.bind_some, Orchestrator.providerConnected]
      split
      · exact .marks call (·.markConnected s.now) hlookup rfl rfl rfl
      · exact .same rfl
    | clientConnected => exact .same rfl
    | dtmf digit =>
      dsimp only
      split <;> exact .same rfl
    | iceCandidate candidate => cases candidate <;> exact .same rfl

theorem Tracked.rearms_answerCall (h : s.Tracked) (requestedId deviceId : String) :
    Rearms s (s.answerCall requestedId deviceId) event
      (s.timerChange (.answerCall requestedId deviceId)) none := by
  rw [Orchestrator.answerCall, timerChange]
  cases hcall : s.activeCalls.lookup (s.resolveToCallId requestedId) with
  | none => exact .same rfl
  | some call =>
    obtain ⟨hkey, -, -⟩ := h.key hcall
    rw [← hkey] at hcall ⊢
    dsimp only [Option.bind_some]
    split
    · exact .same rfl
    · refine .marks call (·.markAnswered deviceId s.now) hcall rfl rfl ?_
      split
      · rfl
      · split <;> rfl

theorem Tracked.rearms_proceed (h : s.Tracked) {i : Nat} {flow : Flow} {reply : Reply}
    {r : Orchestrator × Option Flow} (hflow : s.flows[i]? = some flow)
    (hr : s.proceed flow reply = some r) :
    Rearms s { r.1 with flows := Lib.advance s.flows i r.2 } (.resume i reply)
      (s.timerChange (.resume i reply)) (s.unanswers (.resume i reply)) := by
  have hmem := List.mem_of_getElem? hflow
  have hfails : s.failing (.resume i .fails) = flow.answering := by
    rw [failing, hflow, Option.bind_some]
  rw [timerChange, unanswers, hflow, Option.bind_some]
  revert hr
  fun_cases Orchestrator.proceed s flow reply <;> intro hr <;> cases hr
  -- a flow tracks the call it has been opening
  case case7 hecho =>
    rw [Flow.tracks, if_pos hecho, Option.map_some, Option.some_or]
    exact .tracks _ _ (h.opening hmem rfl).2.1 rfl rfl rfl
  case case8 hecho =>
    rw [Flow.tracks, if_neg hecho]
    exact .same rfl
  case case9 | case10 | case12 =>
    rw [Flow.tracks, Option.map_some, Option.some_or]
    exact .tracks _ _ (h.opening hmem rfl).2.1 rfl rfl rfl
  -- a request to answer the call fails
  case case18 call deviceId | case20 call deviceId =>
    refine hfails ▸ .unmarks call.callId deviceId hfails rfl
  case case16 callId id _ => exact .same (registerNotification_frame s callId id).1
  all_goals first
    | exact .same rfl
    | rw [hfails]; exact .same rfl

/-- **What one event does with the calls and their timers.** -/
theorem Tracked.rearms (h : s.Tracked) (hstep : callsStep s event = some t) :
    Rearms s t event (s.timerChange event) (s.unanswers event) := by
  cases event with
  | tick milliseconds => cases hstep; exact .same rfl
  | initiateOutbound deviceId fromNumber toNumber => cases hstep; exact .same rfl
  | handleInbound provider callId providerCallId fromNumber toNumber =>
    simp only [callsStep, Option.ite_none_right_eq_some] at hstep
    obtain ⟨-, hstep⟩ := hstep
    cases hstep
    cases provider <;> exact .same rfl
  | answerCall requestedId deviceId => cases hstep; exact h.rearms_answerCall ..
  | endCall requestedId trigger => cases hstep; exact h.rearms_endCall ..
  | mediaEvent sessionId event => cases hstep; exact h.rearms_handleMediaEvent ..
  | watchdog callId =>
    simp only [callsStep] at hstep
    split at hstep
    · cases hstep
    · obtain ⟨-, hstep⟩ := Option.ite_none_right_eq_some.mp hstep
      cases hstep
      exact h.rearms_endCall ..
  | resume i reply =>
    simp only [callsStep] at hstep
    split at hstep
    · cases hstep
    · next flow hflow =>
      obtain ⟨r, hr, rfl⟩ := Option.map_eq_some_iff.mp hstep
      exact h.rearms_proceed hflow hr

end Orchestrator

/-! ## One timer a call -/

section

variable {timers : List Timer} {c c' : String}

/-- The timers of the other calls are not cleared. -/
theorem filter_clearTimeout_of_ne (hne : c' ≠ c) (watchdogTimer : Nat) :
    (clearTimeout timers c watchdogTimer).filter (·.callId = c') =
      timers.filter (·.callId = c') := by
  unfold clearTimeout
  induction timers with
  | nil => rfl
  | cons timer timers ih =>
    rw [List.eraseP_cons]
    cases hfound : decide (timer.callId = c ∧ timer.firesAt = watchdogTimer) with
    | true =>
      obtain ⟨rfl, -⟩ := of_decide_eq_true hfound
      rw [cond_true, List.filter_cons_of_neg (by simpa using hne.symm)]
    | false => rw [cond_false, List.filter_cons, List.filter_cons, ih]

/-- Of the timers of a call one is cleared. -/
theorem filter_clearTimeout (timers : List Timer) (c : String) (watchdogTimer : Nat) :
    (clearTimeout timers c watchdogTimer).filter (·.callId = c) =
      (timers.filter (·.callId = c)).eraseP (·.firesAt = watchdogTimer) := by
  rw [List.eraseP_filter, clearTimeout]
  congr 2
  funext timer
  rw [Bool.decide_and, Bool.and_comm]

/-- The timers of the other calls do not fire. -/
theorem filter_eraseIdx_of_ne {i : Nat} {fired : Timer} (hfired : timers[i]? = some fired)
    (hne : c ≠ fired.callId) :
    (timers.eraseIdx i).filter (·.callId = c) = timers.filter (·.callId = c) := by
  rw [← List.filterMap_eq_filter]
  exact filterMap_eraseIdx_of_none hfired (by simp [Option.guard, hne.symm])

/-- The one timer of a call fires. -/
theorem filter_eraseIdx {i : Nat} {fired : Timer} (hfired : timers[i]? = some fired)
    (hone : timers.filter (·.callId = fired.callId) = [fired]) :
    (timers.eraseIdx i).filter (·.callId = fired.callId) = [] := by
  obtain ⟨hi, rfl⟩ := List.getElem?_eq_some_iff.mp hfired
  have hperm := (List.getElem_cons_eraseIdx_perm hi).filter (·.callId = timers[i].callId)
  rw [hone, List.filter_cons, if_pos (decide_eq_true rfl)] at hperm
  exact (List.cons.inj (List.perm_singleton.mp hperm)).2

end

namespace Watched

/-- Every call has one timer, which it refers to, and that of an unanswered call is the short one that it
got when it was left unanswered. -/
structure Armed (s : Watched) : Prop where
  tracked : s.calls.Tracked
  one : ∀ c call, s.calls.activeCalls.lookup c = some call →
    ∃ timer, s.timers.filter (·.callId = c) = [timer] ∧ timer.firesAt = call.watchdogTimer ∧
      (call.answered = false →
        timer.timeoutMs = unansweredWatchdog ∧ s.since.lookup c = some timer.armedAt)
  gone : ∀ c, s.calls.isActive c = false → s.timers.filter (·.callId = c) = []

variable {s t : Watched}

theorem Armed.covered (h : s.Armed) : s.Covered := by
  intro c call hcall
  obtain ⟨timer, hone, -, hshort⟩ := h.one c call hcall
  refine ⟨timer, hone, fun hfree => ?_, fun hlong => ?_⟩
  · obtain ⟨htimeout, hsince⟩ := hshort hfree
    exact ⟨timer.armedAt, hsince, by rw [Timer.firesAt, htimeout]⟩
  · by_contra hfree
    obtain ⟨htimeout, -⟩ := hshort (Bool.eq_false_iff.mpr hfree)
    exact absurd (htimeout.symm.trans hlong) (by decide)

/-- The timers and the calls after a call has ended. -/
theorem Armed.ends (h : s.Armed) {t : Orchestrator} (call : ActiveCall) (htracked : t.Tracked)
    (hcalls : t.activeCalls = s.calls.activeCalls.erase call.callId) {timers : List Timer}
    (hothers : ∀ c, c ≠ call.callId →
      timers.filter (·.callId = c) = s.timers.filter (·.callId = c))
    (hcleared : timers.filter (·.callId = call.callId) = []) :
    Armed ⟨t, timers, s.since⟩ := by
  refine ⟨htracked, fun c call' hcall' => ?_, fun c hgone => ?_⟩
  · rw [hcalls, Map.lookup_erase] at hcall'
    split at hcall'
    · cases hcall'
    · next hne =>
      obtain ⟨timer, hone, htimer⟩ := h.one c call' hcall'
      exact ⟨timer, (hothers c hne).trans hone, htimer⟩
  · by_cases hc : c = call.callId
    · exact hc ▸ hcleared
    · refine (hothers c hc).trans (h.gone c ?_)
      rwa [isActive, hcalls, Map.lookup_erase, if_neg hc] at hgone

/-- A timer is armed for a call, which has none. -/
theorem filter_arms {timers : List Timer} {c callId : String} {now timeoutMs : Nat} :
    (timers ++ [(⟨callId, now, timeoutMs⟩ : Timer)]).filter (·.callId = c) =
      timers.filter (·.callId = c) ++ if callId = c then [⟨callId, now, timeoutMs⟩] else [] := by
  rw [List.filter_append, List.filter_singleton, Bool.cond_decide]

/-- What an event does with the timers. -/
theorem Armed.rearms (h : s.Armed) {event : CallsEvent} {t : Orchestrator} (htracked : t.Tracked)
    {change : Option TimerChange} {unanswered : Option String}
    (hrearms : Rearms s.calls t event change unanswered)
    (hlasting : ∀ request ∈ s.calls.failing event, s.calls.isActive request.1 = false) :
    Armed ⟨t, change.elim s.timers (TimerChange.apply s.timers s.calls.now),
      unanswered.elim s.since (s.since.insert · s.calls.now)⟩ := by
  cases hrearms with
  | same hcalls =>
    exact ⟨htracked, fun c call hcall => h.one c call (hcalls ▸ hcall), fun c hgone => h.gone c (by
      rwa [isActive, hcalls] at hgone)⟩
  | tracks callId call hnew hcalls hfree htimer =>
    refine ⟨htracked, fun c call' hcall' => ?_, fun c hgone => ?_⟩
    · simp only [Option.elim_some, TimerChange.apply, Option.elim_none, filter_arms]
      rw [hcalls, Map.lookup_insert] at hcall'
      split at hcall'
      · next hc =>
        cases hcall'
        subst hc
        rw [h.gone c hnew, if_pos rfl, List.nil_append]
        exact ⟨_, rfl, htimer.symm, fun _ => ⟨rfl, AList.lookup_insert _⟩⟩
      · next hc =>
        rw [if_neg (Ne.symm hc), List.append_nil, AList.lookup_insert_ne hc]
        exact h.one c call' hcall'
    · simp only [Option.elim_some, TimerChange.apply, Option.elim_none, filter_arms]
      rw [isActive, hcalls, Map.lookup_insert] at hgone
      split at hgone
      · cases hgone
      · next hc =>
        rw [if_neg (Ne.symm hc), List.append_nil]
        exact h.gone c hgone
  | marks call f hcall hanswered htimer hcalls =>
    have hcleared := filter_clearTimeout s.timers call.callId call.watchdogTimer
    obtain ⟨timer, hone, hfires, -⟩ := h.one _ call hcall
    rw [hone, List.eraseP_cons_of_pos (by simpa using hfires)] at hcleared
    refine ⟨htracked, fun c call' hcall' => ?_, fun c hgone => ?_⟩
    · simp only [Option.elim_some, TimerChange.apply, filter_arms, Option.elim_none]
      rw [hcalls, Map.lookup_modify] at hcall'
      split at hcall'
      · next hc =>
        subst hc
        rw [hcall, Option.map_some, Option.some.injEq] at hcall'
        subst hcall'
        rw [hcleared, if_pos rfl, List.nil_append]
        exact ⟨_, rfl, htimer.symm, fun hfree => absurd (hanswered.symm.trans hfree) (by decide)⟩
      · next hc =>
        rw [if_neg (Ne.symm hc), List.append_nil, filter_clearTimeout_of_ne hc]
        exact h.one c call' hcall'
    · simp only [Option.elim_some, TimerChange.apply, filter_arms]
      rw [isActive, hcalls, isActive_modify] at hgone
      have hc : c ≠ call.callId := by
        rintro rfl
        cases (isActive_of_lookup hcall).symm.trans hgone
      rw [if_neg (Ne.symm hc), List.append_nil, filter_clearTimeout_of_ne hc]
      exact h.gone c hgone
  | unmarks callId deviceId hfails hcalls =>
    have hended := hlasting _ hfails
    refine ⟨htracked, fun c call' hcall' => ?_, fun c hgone => h.gone c ?_⟩
    · rw [hcalls, Map.lookup_modify] at hcall'
      split at hcall'
      · next hc =>
        obtain ⟨call, hcall, -⟩ := Option.map_eq_some_iff.mp hcall'
        cases (isActive_of_lookup (hc ▸ hcall)).symm.trans hended
      · next hc =>
        simp only [Option.elim_some, Option.elim_none]
        rw [AList.lookup_insert_ne hc]
        exact h.one c call' hcall'
    · rwa [isActive, hcalls, isActive_modify] at hgone
  | ends call hcall hcalls =>
    have hcleared := filter_clearTimeout s.timers call.callId call.watchdogTimer
    obtain ⟨timer, hone, hfires, -⟩ := h.one _ call hcall
    rw [hone, List.eraseP_cons_of_pos (by simpa using hfires)] at hcleared
    exact h.ends _ htracked hcalls (fun c hc => filter_clearTimeout_of_ne hc _) hcleared

/-- A timer that fires is that of a call which is there, and ends it as the orchestrator does. -/
theorem Armed.fires (h : s.Armed) {i : Nat} {timer : Timer} (htimer : s.timers[i]? = some timer)
    (hdue : timer.firesAt ≤ s.calls.now) :
    ∃ call, s.calls.activeCalls.lookup timer.callId = some call ∧
      s.timers.filter (·.callId = timer.callId) = [timer] ∧
      callsStep s.calls (.watchdog timer.callId) =
        some (s.calls.endCall timer.callId (some "watchdog_timeout")) := by
  have hmem : timer ∈ s.timers.filter (·.callId = timer.callId) :=
    List.mem_filter.mpr ⟨List.mem_of_getElem? htimer, decide_eq_true rfl⟩
  cases hcall : s.calls.activeCalls.lookup timer.callId with
  | none =>
    rw [h.gone _ (by rw [isActive, hcall]; rfl)] at hmem
    cases hmem
  | some call =>
    obtain ⟨timer', hone, hfires, -⟩ := h.one _ call hcall
    rw [hone] at hmem
    obtain rfl := List.mem_singleton.mp hmem
    refine ⟨call, rfl, hone, ?_⟩
    simp only [callsStep, hcall]
    rw [if_pos (hfires ▸ hdue)]

/-- **One step.** -/
theorem Armed.step (h : s.Armed) {event : WatchedEvent} (hlasting : s.Lasting event)
    (hstep : watchedStep s event = some t) : t.Armed := by
  cases event with
  | calls event =>
    have hcalls : ∀ {t}, (callsStep s.calls event).map (s.after event) = some t → t.Armed := by
      intro t hstep
      obtain ⟨u, hu, rfl⟩ := Option.map_eq_some_iff.mp hstep
      exact h.rearms (h.tracked.step hu) (h.tracked.rearms hu) hlasting
    cases event with
    | watchdog callId => cases hstep
    | _ => exact hcalls hstep
  | fires i =>
    simp only [watchedStep] at hstep
    split at hstep
    · cases hstep
    · next timer htimer =>
      obtain ⟨hdue, hstep⟩ := Option.ite_none_right_eq_some.mp hstep
      obtain ⟨call, hcall, hone, hends⟩ := h.fires htimer hdue
      obtain ⟨hkey, -, hended⟩ := h.tracked.key hcall
      have hactive := isActive_of_lookup hcall
      have hresolve : s.calls.resolveToCallId timer.callId = timer.callId := by
        rw [resolveToCallId, if_pos hactive]
      have hclears : s.calls.clearing timer.callId =
          some (.clears timer.callId call.watchdogTimer) := by
        rw [clearing, hresolve, hcall, Option.bind_some, hended, hkey]
        rfl
      rw [if_pos hactive, Option.some.injEq] at hstep
      subst hstep
      have hunanswers : s.calls.unanswers (.watchdog timer.callId) = none := rfl
      rw [Watched.after, timerChange, hclears, hunanswers]
      refine h.ends call (h.tracked.step hends) ?_ (fun c hc => ?_) ?_
      · rw [endCall, hresolve, hcall]
        simp [hended, untrack, emit]
      · rw [hkey] at hc
        exact (filter_clearTimeout_of_ne hc _).trans (filter_eraseIdx_of_ne htimer hc)
      · rw [hkey]
        exact (filter_clearTimeout ..).trans (by rw [filter_eraseIdx htimer hone, List.eraseP_nil])

theorem init_armed : init.Armed :=
  ⟨tracked_init, fun _ _ hcall => (by cases hcall), fun _ _ => rfl⟩

/-- **The watchdog covers every call.** In every run in which no request to answer fails while its call
is there, every call has one timer; that of an unanswered call fires within the ringing timeout of the
time when the call was last left unanswered, and only an answered call has the long one. -/
theorem watchdog_covers {events : List WatchedEvent} {s : Watched}
    (hlasting : Guarded watchedStep Lasting init events)
    (hrun : exec watchedStep init events = some s) : s.Covered :=
  (hlasting.invariant (fun _ _ _ h hguard hstep => h.step hguard hstep) init_armed hrun).covered

/-- Two inbound calls, one of which is answered and one of which nobody answers. -/
def ringingRun : List WatchedEvent :=
  [.calls (.handleInbound (some sipProvider) "a" "p" "1" "2"), .calls (.resume 0 (.session none)),
    .calls (.tick 1000), .calls (.answerCall "a" "device"), .calls (.resume 1 .done),
    .calls (.handleInbound (some sipProvider) "b" "q" "1" "2"), .calls (.resume 1 (.session none)),
    .calls (.tick 89999)]

theorem watchdog_covers_ringingRun :
    (exec watchedStep init ringingRun).map (·.timers) =
        some [⟨"a", 1000, maxCallDuration⟩, ⟨"b", 1000, unansweredWatchdog⟩] ∧
      ∀ s, exec watchedStep init ringingRun = some s → s.Covered :=
  ⟨by decide +kernel, fun _ hrun => watchdog_covers (by decide +kernel) hrun⟩

/-- The provider refuses to answer, and the call rings on. -/
theorem rings_for_hours :
    ¬ ∀ events s, exec watchedStep init events = some s → s.Covered := by
  intro hall
  have hfacts : (exec watchedStep init
      [.calls (.handleInbound (some sipProvider) "a" "p" "1" "2"), .calls (.resume 0 (.session none)),
        .calls (.answerCall "a" "device"), .calls (.resume 1 .fails)]).map
        (fun s => (s.timers, (s.calls.activeCalls.lookup "a").map (·.answered))) =
      some ([⟨"a", 0, maxCallDuration⟩], some false) := by
    decide +kernel
  obtain ⟨s, hrun, hs⟩ := Option.map_eq_some_iff.mp hfacts
  obtain ⟨htimers, hfree⟩ := Prod.mk.inj hs
  obtain ⟨call, hcall, hfree⟩ := Option.map_eq_some_iff.mp hfree
  obtain ⟨timer, hone, -, hlong⟩ := hall _ s hrun "a" call hcall
  rw [htimers] at hone
  obtain rfl : ⟨"a", 0, maxCallDuration⟩ = timer := by simpa using hone
  cases hfree.symm.trans (hlong rfl)

end Watched

end Svarla.Calls
