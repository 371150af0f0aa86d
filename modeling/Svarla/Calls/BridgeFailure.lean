import Mathlib
import Svarla.Calls.Lifetimes

/-!
# The failures of the MediaBridge

`MediaBridgeEventListener` keeps a socket to the MediaBridge, and opens the next one when a timer fires;
`MediaBridgeClient` polls its health; `MediaBridgeFailureDetector` compares both, at every tick of a timer,
with what it has seen before, and ends the calls when the MediaBridge is lost. `endAllCalls` awaits between
two calls, so anything may happen while a failure is handled.

Sockets and timers are known by their number in the order of their creation, and the `stop` of the listener
belongs to the shutdown: nothing starts it again.
-/

namespace Svarla.Calls

open Svarla.Lib Orchestrator

/-! ## The event socket -/

/-- A socket, by the events it has emitted and may still emit. -/
inductive Socket
  | connecting
  | opened
  /-- `close` was called. -/
  | closing
  /-- `close` was emitted. -/
  | closed
  deriving DecidableEq, Repr

/-- `MediaBridgeEventListener`, with the sockets and the timers it has made. -/
structure EventListener where
  ws : Option Nat
  reconnectHandler : Bool
  reconnectTimer : Option Nat
  stopped : Bool
  hasConnectedBefore : Bool
  /-- `healthStatus.connected`. -/
  connected : Bool
  sockets : List Socket
  /-- Whether a timer is still to fire. -/
  timers : List Bool
  /-- How many times a socket was opened, how many times before the handler was registered, and how many times
  the handler was called. -/
  opens : Nat
  unheard : Nat
  reconnects : Nat
  deriving DecidableEq, Repr

inductive ListenerEvent
  | onReconnect
  | opened (i : Nat)
  | closed (i : Nat)
  /-- A timer fires, and the socket can be constructed or not. -/
  | fires (i : Nat) (constructed : Bool)
  | stop
  deriving DecidableEq, Repr

namespace EventListener

/-- `scheduleReconnect`. -/
def scheduleReconnect (l : EventListener) : EventListener :=
  if l.stopped then l else { l with reconnectTimer := some l.timers.length, timers := l.timers ++ [true] }

/-- `connect`. -/
def connect (l : EventListener) (constructed : Bool) : EventListener :=
  if l.stopped then l
  else if constructed then { l with ws := some l.sockets.length, sockets := l.sockets ++ [.connecting] }
  else l.scheduleReconnect

/-- A listener that was started. -/
def start (constructed : Bool) : EventListener :=
  connect ⟨none, false, none, false, false, false, [], [], 0, 0, 0⟩ constructed

/-- `open`. -/
def onOpen (l : EventListener) (i : Nat) : EventListener :=
  { l with
    connected := true
    hasConnectedBefore := true
    reconnects := if l.hasConnectedBefore && l.reconnectHandler then l.reconnects + 1 else l.reconnects
    sockets := l.sockets.set i .opened
    opens := l.opens + 1 }

/-- `close`. -/
def onClose (l : EventListener) (i : Nat) : EventListener :=
  scheduleReconnect { l with connected := false, ws := none, sockets := l.sockets.set i .closed }

/-- `stop`. -/
def stop (l : EventListener) : EventListener :=
  { l with
    stopped := true
    timers := l.reconnectTimer.elim l.timers fun i => l.timers.set i false
    reconnectTimer := none
    sockets := l.ws.elim l.sockets fun i => l.sockets.modify i fun
      | .closed => .closed
      | _ => .closing
    ws := none
    connected := false }

def step (l : EventListener) : ListenerEvent → Option EventListener
  | .onReconnect =>
    if l.reconnectHandler then none else some { l with reconnectHandler := true, unheard := l.opens }
  | .opened i => if l.sockets[i]? = some .connecting then some (l.onOpen i) else none
  | .closed i =>
    match l.sockets[i]? with
    | none | some .closed => none
    | some _ => some (l.onClose i)
  | .fires i constructed =>
    if l.timers[i]? = some true then
      some (connect { l with timers := l.timers.set i false, reconnectTimer := none } constructed)
    else none
  | .stop => some l.stop

/-- What the listener waits for: its socket, its timer, or nothing. -/
inductive Phase (l : EventListener) : Prop
  | socket (i m : Nat) (opened : Bool) (hstopped : l.stopped = false) (hws : l.ws = some i)
      (hsockets : l.sockets = .replicate i .closed ++ [if opened then .opened else .connecting])
      (htimer : l.reconnectTimer = none) (htimers : l.timers = .replicate m false)
      (hconnected : l.connected = opened)
  | waiting (i m : Nat) (hstopped : l.stopped = false) (hws : l.ws = none)
      (hsockets : l.sockets = .replicate i .closed) (htimer : l.reconnectTimer = some m)
      (htimers : l.timers = .replicate m false ++ [true]) (hconnected : l.connected = false)
  | stopped (i m : Nat) (last : List Socket) (hlast : last = [] ∨ last = [.closing])
      (hstopped : l.stopped = true) (hws : l.ws = none) (hsockets : l.sockets = .replicate i .closed ++ last)
      (htimer : l.reconnectTimer = none) (htimers : l.timers = .replicate m false)
      (hconnected : l.connected = false)

/-- How often the handler was called. -/
structure Heard (l : EventListener) : Prop where
  before : l.hasConnectedBefore = decide (0 < l.opens)
  unheard : l.unheard ≤ l.opens
  reconnects : l.reconnects = if l.reconnectHandler then l.opens - max 1 l.unheard else 0

variable {l l' : EventListener}

/-- What is in a list of one value and a last one. -/
theorem getElem?_replicate_concat {α : Type*} {x y z : α} {n i : Nat}
    (h : (List.replicate n x ++ [y])[i]? = some z) : i < n ∧ z = x ∨ i = n ∧ z = y := by
  obtain hlt | hge := Nat.lt_or_ge i n
  · rw [List.getElem?_append_left (by simpa using hlt), List.getElem?_replicate_of_lt hlt] at h
    exact .inl ⟨hlt, (Option.some.inj h).symm⟩
  · rw [List.getElem?_append_right (by simpa using hge), List.getElem?_singleton] at h
    split at h
    · next hzero =>
      rw [List.length_replicate] at hzero
      exact .inr ⟨by omega, (Option.some.inj h).symm⟩
    · cases h

theorem set_replicate_concat {α : Type*} (x y z : α) (n : Nat) :
    (List.replicate n x ++ [y]).set n z = List.replicate n x ++ [z] := by
  rw [List.set_append_right _ _ (by simp)]
  simp

theorem modify_replicate_concat {α : Type*} (x y : α) (f : α → α) (n : Nat) :
    (List.replicate n x ++ [y]).modify n f = List.replicate n x ++ [f y] := by
  rw [List.modify_eq_set_getElem?]
  simp

theorem Phase.connect (constructed : Bool) {i m : Nat} (hstopped : l.stopped = false) (hws : l.ws = none)
    (hsockets : l.sockets = .replicate i .closed) (htimer : l.reconnectTimer = none)
    (htimers : l.timers = .replicate m false) (hconnected : l.connected = false) :
    (l.connect constructed).Phase := by
  rw [EventListener.connect, if_neg (by simp [hstopped])]
  cases constructed with
  | true =>
    exact .socket i m false hstopped (by simp [hsockets]) (by simp [hsockets]) htimer htimers hconnected
  | false =>
    rw [if_neg Bool.false_ne_true, scheduleReconnect, if_neg (by simp [hstopped])]
    exact .waiting i m hstopped hws hsockets (by simp [htimers]) (by simp [htimers]) hconnected

theorem phase_start (constructed : Bool) : (start constructed).Phase :=
  .connect (i := 0) (m := 0) constructed rfl rfl rfl rfl rfl rfl

/-- **A listener stays in one of its phases.** -/
theorem Phase.step (h : l.Phase) {e : ListenerEvent} (hstep : l.step e = some l') : l'.Phase := by
  cases e with
  | onReconnect =>
    obtain ⟨-, hstep⟩ := Option.ite_none_left_eq_some.mp hstep
    cases hstep
    cases h with
    | socket i m opened h1 h2 h3 h4 h5 h6 => exact .socket i m opened h1 h2 h3 h4 h5 h6
    | waiting i m h1 h2 h3 h4 h5 h6 => exact .waiting i m h1 h2 h3 h4 h5 h6
    | stopped i m last h1 h2 h3 h4 h5 h6 h7 => exact .stopped i m last h1 h2 h3 h4 h5 h6 h7
  | opened j =>
    obtain ⟨hget, hstep⟩ := Option.ite_none_right_eq_some.mp hstep
    cases hstep
    cases h with
    | socket i m opened hstopped hws hsockets htimer htimers hconnected =>
      rw [hsockets] at hget
      obtain ⟨-, hclosed⟩ | ⟨rfl, -⟩ := getElem?_replicate_concat hget
      · cases hclosed
      · exact .socket j m true hstopped hws (by rw [onOpen, hsockets, set_replicate_concat]; rfl) htimer
          htimers rfl
    | waiting i m _ _ hsockets =>
      rw [hsockets, List.getElem?_replicate] at hget
      split at hget <;> cases hget
    | stopped i m last hlast _ _ hsockets =>
      rw [hsockets] at hget
      obtain rfl | rfl := hlast
      · rw [List.append_nil, List.getElem?_replicate] at hget
        split at hget <;> cases hget
      · obtain ⟨-, hclosed⟩ | ⟨-, hclosing⟩ := getElem?_replicate_concat hget
        · cases hclosed
        · cases hclosing
  | closed j =>
    simp only [EventListener.step] at hstep
    split at hstep
    · cases hstep
    · cases hstep
    · next k hlive hget =>
      cases hstep
      cases h with
      | socket i m opened hstopped hws hsockets htimer htimers hconnected =>
        rw [hsockets] at hget
        obtain ⟨-, rfl⟩ | ⟨rfl, -⟩ := getElem?_replicate_concat hget
        · exact absurd rfl hlive
        · rw [onClose, scheduleReconnect, if_neg (by simp [hstopped])]
          refine .waiting (j + 1) m hstopped rfl ?_ (by simp [htimers]) (by simp [htimers]) rfl
          rw [hsockets, set_replicate_concat, List.replicate_succ']
      | waiting i m _ _ hsockets =>
        rw [hsockets, List.getElem?_replicate] at hget
        split at hget <;> cases hget
        exact absurd rfl hlive
      | stopped i m last hlast hstopped hws hsockets htimer htimers hconnected =>
        rw [hsockets] at hget
        obtain rfl | rfl := hlast
        · rw [List.append_nil, List.getElem?_replicate] at hget
          split at hget <;> cases hget
          exact absurd rfl hlive
        · obtain ⟨-, rfl⟩ | ⟨rfl, -⟩ := getElem?_replicate_concat hget
          · exact absurd rfl hlive
          · rw [onClose, scheduleReconnect, if_pos hstopped]
            refine .stopped (j + 1) m [] (.inl rfl) hstopped rfl ?_ htimer htimers rfl
            rw [hsockets, set_replicate_concat, List.append_nil, List.replicate_succ']
  | fires j constructed =>
    obtain ⟨hget, hstep⟩ := Option.ite_none_right_eq_some.mp hstep
    cases hstep
    cases h with
    | socket i m opened _ _ _ _ htimers =>
      rw [htimers, List.getElem?_replicate] at hget
      split at hget <;> cases hget
    | waiting i m hstopped hws hsockets htimer htimers hconnected =>
      rw [htimers] at hget
      obtain ⟨-, hfalse⟩ | ⟨rfl, -⟩ := getElem?_replicate_concat hget
      · cases hfalse
      · refine .connect (i := i) (m := j + 1) constructed hstopped hws hsockets rfl ?_ hconnected
        rw [htimers, set_replicate_concat, List.replicate_succ']
    | stopped i m last _ _ _ _ _ htimers =>
      rw [htimers, List.getElem?_replicate] at hget
      split at hget <;> cases hget
  | stop =>
    cases hstep
    cases h with
    | socket i m opened hstopped hws hsockets htimer htimers hconnected =>
      refine .stopped i m [.closing] (.inr rfl) rfl rfl ?_ rfl (by rw [stop, htimer, htimers]; rfl) rfl
      simp only [stop, hws, Option.elim_some, hsockets, modify_replicate_concat]
      cases opened <;> rfl
    | waiting i m hstopped hws hsockets htimer htimers hconnected =>
      refine .stopped i (m + 1) [] (.inl rfl) rfl rfl (by rw [stop, hws, hsockets]; simp) rfl ?_ rfl
      simp only [stop, htimer, Option.elim_some, htimers]
      rw [set_replicate_concat, List.replicate_succ']
    | stopped i m last hlast _ hws hsockets htimer htimers _ =>
      exact .stopped i m last hlast rfl rfl (by rw [stop, hws, hsockets]; rfl) rfl
        (by rw [stop, htimer, htimers]; rfl) rfl

theorem heard_scheduleReconnect (h : l.Heard) : l.scheduleReconnect.Heard := by
  rw [scheduleReconnect]
  split
  · exact h
  · exact ⟨h.before, h.unheard, h.reconnects⟩

theorem heard_connect (h : l.Heard) (constructed : Bool) : (l.connect constructed).Heard := by
  rw [connect]
  split_ifs
  · exact h
  · exact ⟨h.before, h.unheard, h.reconnects⟩
  · exact heard_scheduleReconnect h

theorem heard_start (constructed : Bool) : (start constructed).Heard :=
  heard_connect ⟨rfl, le_rfl, rfl⟩ constructed

/-- **What a listener tells**, it tells at every socket but the first that it opens. -/
theorem Heard.step (h : l.Heard) {e : ListenerEvent} (hstep : l.step e = some l') : l'.Heard := by
  obtain ⟨hbefore, hunheard, hreconnects⟩ := h
  cases e with
  | onReconnect =>
    obtain ⟨hnone, hstep⟩ := Option.ite_none_left_eq_some.mp hstep
    cases hstep
    refine ⟨hbefore, le_rfl, ?_⟩
    rw [if_neg hnone] at hreconnects
    rw [if_pos rfl, hreconnects]
    exact (Nat.sub_eq_zero_of_le (le_max_right _ _)).symm
  | opened j =>
    obtain ⟨-, hstep⟩ := Option.ite_none_right_eq_some.mp hstep
    cases hstep
    refine ⟨by simp [onOpen], hunheard.trans (Nat.le_succ _), ?_⟩
    simp only [onOpen, hbefore, hreconnects]
    cases l.reconnectHandler with
    | false => simp
    | true =>
      rw [if_pos rfl, if_pos rfl, Bool.and_true]
      split
      · next hpos =>
        have := of_decide_eq_true hpos
        omega
      · next hzero =>
        have : ¬ 0 < l.opens := fun hpos => hzero (decide_eq_true hpos)
        omega
  | closed j =>
    simp only [EventListener.step] at hstep
    split at hstep <;> cases hstep
    exact heard_scheduleReconnect ⟨hbefore, hunheard, hreconnects⟩
  | fires j constructed =>
    obtain ⟨-, hstep⟩ := Option.ite_none_right_eq_some.mp hstep
    cases hstep
    refine heard_connect ?_ constructed
    exact ⟨hbefore, hunheard, hreconnects⟩
  | stop =>
    cases hstep
    exact ⟨hbefore, hunheard, hreconnects⟩

/-- **The listener goes on trying**: until it is stopped, it has one socket that is not closed yet, or one
timer that is to fire, and never both or two of them. It is connected while a socket is open. And it has called
the reconnect handler once for every socket that was opened since the handler was registered, but for the very
first one. -/
theorem keeps_trying {constructed : Bool} {events : List ListenerEvent}
    (hrun : exec EventListener.step (start constructed) events = some l) :
    (l.sockets.countP (· ≠ .closed) + l.timers.count true ≤ 1) ∧
      (l.stopped = false → l.sockets.countP (· ≠ .closed) + l.timers.count true = 1) ∧
      (l.connected = true ↔ .opened ∈ l.sockets) ∧
      l.reconnects = if l.reconnectHandler then l.opens - max 1 l.unheard else 0 := by
  obtain ⟨hphase, hheard⟩ := exec_invariant (I := fun l => l.Phase ∧ l.Heard)
    (fun _ _ _ h hstep => ⟨h.1.step hstep, h.2.step hstep⟩)
    ⟨phase_start constructed, heard_start constructed⟩ hrun
  refine ⟨?_, ?_, ?_, hheard.reconnects⟩
  all_goals
    cases hphase with
    | socket i m opened _ _ hsockets _ htimers hconnected =>
      rw [hsockets]
      cases opened <;> simp [htimers, hconnected, List.countP_replicate, List.count_replicate]
    | waiting i m _ _ hsockets _ htimers hconnected =>
      simp [hsockets, htimers, hconnected, List.countP_replicate, List.count_replicate, List.mem_replicate]
    | stopped i m last hlast hstopped _ hsockets _ htimers hconnected =>
      rw [hsockets]
      obtain rfl | rfl := hlast <;>
        simp [htimers, hconnected, hstopped, List.countP_replicate, List.count_replicate, List.mem_replicate]

/-- The first socket is lost, the next cannot be constructed, and the one after is opened. -/
theorem keeps_trying_reconnects : ∃ l, exec EventListener.step (start true)
    [.opened 0, .onReconnect, .closed 0, .fires 0 false, .fires 1 true, .opened 1] = some l ∧
      l.reconnects = 1 ∧ .opened ∈ l.sockets := by
  have hrun : exec EventListener.step (start true)
      [.opened 0, .onReconnect, .closed 0, .fires 0 false, .fires 1 true, .opened 1] =
        some ⟨some 1, true, none, false, true, true, [.closed, .opened], [false, false], 2, 1, 1⟩ := by decide
  obtain ⟨-, -, hconnected, hreconnects⟩ := keeps_trying hrun
  exact ⟨_, hrun, hreconnects, hconnected.mp rfl⟩

end EventListener

/-! ## The detector -/

/-- The `reason` of a failure. -/
inductive FailureReason
  | healthCheckFailure
  | eventWebsocketDisconnect
  deriving DecidableEq, Repr

/-- A `check`: what it saw, and what it handled. -/
structure Check where
  isHealthy : Bool
  isConnected : Bool
  handlingFailure : Bool
  handled : Option FailureReason
  deriving DecidableEq, Repr

/-- `endAllCalls` at its `await`: the calls it was called with, and those it has still to end. -/
structure Ending where
  callIds : List String
  rest : List String
  deriving DecidableEq, Repr

/-- `MediaBridgeFailureDetector`, with what it looks at. -/
structure Detector where
  /-- `MediaBridgeClient.healthy`. -/
  healthy : Bool
  listener : EventListener
  calls : Orchestrator
  wasHealthy : Bool
  wasConnected : Bool
  handlingFailure : Bool
  endings : List Ending
  /-- The checks so far. -/
  checks : List Check

inductive DetectorEvent
  | calls (e : CallsEvent)
  | listener (e : ListenerEvent)
  /-- `pollHealth` has its answer. -/
  | polled (ok : Bool)
  | check
  /-- `endAllCalls` goes on after its `await`. -/
  | resume (i : Nat)
  deriving DecidableEq, Repr

namespace Detector

def init (constructed : Bool) : Detector :=
  ⟨false, .start constructed, .init, false, false, false, [], []⟩

/-- The loop of `endAllCalls`, up to its next `await`; with no call left it comes to its end. -/
def endNext (calls : Orchestrator) (callIds : List String) : List String → Orchestrator × Ending
  | [] => (calls, ⟨callIds, []⟩)
  | callId :: rest => (calls.endCall callId none, ⟨callIds, rest⟩)

/-- The keys of `activeCalls`, in their order. -/
def callIds (calls : Orchestrator) : List String := calls.activeCalls.entries.reverse.map (·.1)

/-- `handleFailure`, up to the `await`. -/
def handleFailure (s : Detector) : Detector :=
  let (calls, ending) := endNext s.calls (callIds s.calls) (callIds s.calls)
  { s with
    calls, endings := s.endings ++ [ending]
    handlingFailure := true, wasHealthy := false, wasConnected := false }

/-- The failure that a check finds: the bridge was there, and is not. -/
def failure (s : Detector) : Option FailureReason :=
  if s.wasHealthy && !s.healthy then some .healthCheckFailure
  else if s.wasConnected && !s.listener.connected then some .eventWebsocketDisconnect
  else none

/-- `check`. -/
def check (s : Detector) : Detector :=
  let s := { s with
    wasHealthy := s.wasHealthy || s.healthy
    wasConnected := s.wasConnected || s.listener.connected }
  let handled := if s.handlingFailure then none else s.failure
  let s := { s with checks := s.checks ++ [⟨s.healthy, s.listener.connected, s.handlingFailure, handled⟩] }
  if handled.isSome then s.handleFailure else s

def step (s : Detector) : DetectorEvent → Option Detector
  | .calls e => (callsStep s.calls e).map fun calls => { s with calls }
  | .listener e => (s.listener.step e).map fun listener => { s with listener }
  | .polled ok => some { s with healthy := ok }
  | .check => some s.check
  | .resume i =>
    match s.endings[i]? with
    | none => none
    | some ⟨_, []⟩ => some { s with endings := s.endings.eraseIdx i, handlingFailure := false }
    | some ⟨callIds, rest⟩ =>
      let (calls, ending) := endNext s.calls callIds rest
      some { s with calls, endings := s.endings.set i ending }

/-- A check since the last failure that was handled. -/
def seen (p : Check → Bool) (checks : List Check) : Bool :=
  (checks.reverse.takeWhile (·.handled.isNone)).any p

/-- What a check has to handle, after the checks before it. -/
def due (before : List Check) (check : Check) : Option FailureReason :=
  if check.handlingFailure then none
  else if seen (·.isHealthy) before && !check.isHealthy then some .healthCheckFailure
  else if seen (·.isConnected) before && !check.isConnected then some .eventWebsocketDisconnect
  else none

/-! ## The calls -/

/-- A call that has begun stays so, and does not come back once it has ended. -/
def Later (a b : Orchestrator) : Prop :=
  ∀ c, a.Begun c → b.Begun c ∧ (a.isActive c = false → b.isActive c = false)

theorem Later.refl (a : Orchestrator) : Later a a := fun _ hbegun => ⟨hbegun, id⟩

theorem later_of_step {a b : Orchestrator} (h : a.Tracked) {e : CallsEvent} (hstep : callsStep a e = some b) :
    Later a b := fun _ hbegun =>
  ⟨(h.flowChange hstep).begins _ hbegun, (h.proper hstep).change.gone h hbegun⟩

theorem mem_callIds_iff (calls : Orchestrator) (c : String) :
    c ∈ callIds calls ↔ calls.isActive c = true := by
  rw [callIds, isActive, AList.lookup_isSome, AList.mem_keys, List.map_reverse, List.mem_reverse]
  rfl

/-- An active call is ended by its own identifier. -/
theorem endCall_inactive {calls : Orchestrator} (h : calls.Tracked) {c : String}
    (hactive : calls.isActive c = true) (trigger : Option String) :
    (calls.endCall c trigger).isActive c = false := by
  obtain ⟨call, hcall⟩ := isActive_iff.mp hactive
  obtain ⟨hkey, -, hended⟩ := h.key hcall
  have hresolve : calls.resolveToCallId c = c := if_pos hactive
  rw [Orchestrator.endCall, hresolve]
  split
  · next hnone => rw [hcall] at hnone; cases hnone
  · next found hfound =>
    obtain rfl := Option.some.inj (hcall.symm.trans hfound)
    rw [if_neg (by simp [hended]), isActive_untrack, hkey]
    simp

/-- What the loop of `endAllCalls` does: the call it has come to ends. -/
theorem endNext_spec {calls : Orchestrator} (h : calls.Tracked) (callIds rest : List String)
    (hbegun : ∀ c ∈ rest, calls.Begun c) :
    (endNext calls callIds rest).1.Tracked ∧ Later calls (endNext calls callIds rest).1 ∧
      ∀ c ∈ rest, (endNext calls callIds rest).1.isActive c = true →
        c ∈ (endNext calls callIds rest).2.rest := by
  cases rest with
  | nil => exact ⟨h, .refl _, fun c hc => absurd hc List.not_mem_nil⟩
  | cons c₀ rest =>
    have hstep : callsStep calls (.endCall c₀ none) = some (calls.endCall c₀ none) := rfl
    have hlater := later_of_step h hstep
    refine ⟨h.step hstep, hlater, fun c hc hactive => ?_⟩
    obtain rfl | hrest := List.mem_cons.mp hc
    · -- the call has ended, whether or not it was active
      refine absurd hactive (Bool.eq_false_iff.mp ?_)
      by_cases hwas : calls.isActive c = true
      · exact endCall_inactive h hwas none
      · exact (hlater c (hbegun c hc)).2 (Bool.eq_false_iff.mpr hwas)
    · exact hrest

theorem endNext_subset (calls : Orchestrator) (callIds rest : List String) {c : String}
    (hc : c ∈ (endNext calls callIds rest).2.rest) : c ∈ rest := by
  cases rest with
  | nil => exact hc
  | cons c₀ rest => exact List.mem_cons_of_mem _ hc

/-! ## What stays -/

/-- The flags are what the checks have seen, every check handled what was due, and a failure is being handled
just while `endAllCalls` is at an `await`. -/
structure Sound (s : Detector) : Prop where
  tracked : s.calls.Tracked
  healthy : s.wasHealthy = seen (·.isHealthy) s.checks
  connected : s.wasConnected = seen (·.isConnected) s.checks
  due : ∀ before check after, s.checks = before ++ check :: after → check.handled = due before check
  handling : s.endings = [] ∧ s.handlingFailure = false ∨
    ∃ ending, s.endings = [ending] ∧ s.handlingFailure = true
  begun : ∀ ending ∈ s.endings, ∀ c ∈ ending.rest, s.calls.Begun c

variable {s t u : Detector}

theorem seen_concat (p : Check → Bool) (checks : List Check) (check : Check) :
    seen p (checks ++ [check]) = (check.handled.isNone && (p check || seen p checks)) := by
  rw [seen, List.reverse_concat, List.takeWhile_cons]
  cases check.handled <;> simp [seen]

/-- The state of a check before it handles anything. -/
def seeing (s : Detector) : Detector :=
  { s with
    wasHealthy := s.wasHealthy || s.healthy
    wasConnected := s.wasConnected || s.listener.connected }

/-- What a check of this state is. -/
def observation (s : Detector) : Check where
  isHealthy := s.healthy
  isConnected := s.listener.connected
  handlingFailure := s.handlingFailure
  handled := if s.handlingFailure then none else s.seeing.failure

/-- The checks of a state with the next one. -/
def checked (s : Detector) : Detector := { s.seeing with checks := s.checks ++ [s.observation] }

theorem check_eq (s : Detector) :
    s.check = if s.observation.handled.isSome then s.checked.handleFailure else s.checked := rfl

theorem Sound.observation_due (h : s.Sound) :
    s.observation.handled = Detector.due s.checks s.observation := by
  have hlost : ∀ was is : Bool, ((was || is) && !is) = (was && !is) := by decide
  simp only [observation, Detector.due, failure, seeing, hlost, h.healthy, h.connected]

theorem Sound.checks_due (h : s.Sound) (before : List Check) (check : Check) (after : List Check)
    (heq : s.checks ++ [s.observation] = before ++ check :: after) :
    check.handled = Detector.due before check := by
  obtain rfl | ⟨after, last, rfl⟩ := after.eq_nil_or_concat
  · obtain ⟨rfl, hcheck⟩ := List.append_inj' heq rfl
    obtain rfl := (List.cons.inj hcheck).1
    exact h.observation_due
  · rw [List.concat_eq_append, ← List.cons_append, ← List.append_assoc] at heq
    exact h.due before check after (List.append_inj' heq rfl).1

theorem Sound.check (h : s.Sound) : s.check.Sound := by
  rw [check_eq]
  have hdue := h.observation_due
  split
  · next hsome =>
    have hidle : s.handlingFailure = false := by
      cases hhandling : s.handlingFailure with
      | false => rfl
      | true => simp [observation, hhandling] at hsome
    have hnone : s.endings = [] := by
      obtain ⟨hnone, -⟩ | ⟨_, -, hhandling⟩ := h.handling
      · exact hnone
      · rw [hidle] at hhandling
        cases hhandling
    have hbegun : ∀ c ∈ callIds s.calls, s.calls.Begun c := fun c hc =>
      h.tracked.begun_of_active ((mem_callIds_iff _ c).mp hc)
    obtain ⟨htracked, hlater, -⟩ := endNext_spec h.tracked (callIds s.calls) (callIds s.calls) hbegun
    have hhandled : s.observation.handled.isNone = false := by
      rw [Option.isNone_eq_false_iff]
      exact hsome
    refine ⟨htracked, ?_, ?_, h.checks_due,
      .inr ⟨(endNext s.calls (callIds s.calls) (callIds s.calls)).2, congrArg (· ++ [_]) hnone, rfl⟩, ?_⟩
    · exact (by rw [seen_concat, hhandled]; rfl : false = seen (·.isHealthy) (s.checks ++ [s.observation]))
    · exact (by rw [seen_concat, hhandled]; rfl : false = seen (·.isConnected) (s.checks ++ [s.observation]))
    · intro ending hending c hc
      obtain hold | hnew := List.mem_append.mp hending
      · exact (hlater c (h.begun ending hold c hc)).1
      · rw [List.mem_singleton.mp hnew] at hc
        refine (hlater c (hbegun c ?_)).1
        exact endNext_subset _ _ _ hc
  · next hnone =>
    have hhandled : s.observation.handled.isNone = true := by
      rw [Option.isNone_iff_eq_none]
      exact Option.not_isSome_iff_eq_none.mp hnone
    refine ⟨h.tracked, ?_, ?_, h.checks_due, h.handling, h.begun⟩
    · rw [checked, seen_concat, hhandled, Bool.true_and, ← h.healthy]
      exact Bool.or_comm ..
    · rw [checked, seen_concat, hhandled, Bool.true_and, ← h.connected]
      exact Bool.or_comm ..

theorem Sound.resume (h : s.Sound) {i : Nat} (hstep : s.step (.resume i) = some t) : t.Sound := by
  simp only [Detector.step] at hstep
  obtain ⟨hnone, -⟩ | ⟨ending, hone, hhandling⟩ := h.handling
  · rw [hnone] at hstep
    cases hstep
  · cases i with
    | succ i =>
      rw [hone] at hstep
      cases hstep
    | zero =>
      have hbegun := h.begun ending (by rw [hone]; exact .head _)
      obtain ⟨callIds, rest⟩ := ending
      rw [hone, List.getElem?_cons_zero] at hstep
      cases rest with
      | nil =>
        cases hstep
        exact ⟨h.tracked, h.healthy, h.connected, h.due, .inl ⟨rfl, rfl⟩,
          fun _ hnil => absurd hnil List.not_mem_nil⟩
      | cons c rest =>
        cases hstep
        obtain ⟨htracked, hlater, -⟩ := endNext_spec h.tracked callIds (c :: rest) hbegun
        refine ⟨htracked, h.healthy, h.connected, h.due, .inr ⟨_, rfl, hhandling⟩, ?_⟩
        intro ending hending c' hc'
        rw [List.mem_singleton.mp hending] at hc'
        exact (hlater c' (hbegun c' (endNext_subset _ _ _ hc'))).1

theorem Sound.step (h : s.Sound) {e : DetectorEvent} (hstep : s.step e = some t) : t.Sound := by
  cases e with
  | calls e =>
    obtain ⟨calls, hcalls, rfl⟩ := Option.map_eq_some_iff.mp hstep
    have hlater := later_of_step h.tracked hcalls
    exact ⟨h.tracked.step hcalls, h.healthy, h.connected, h.due, h.handling,
      fun ending hending c hc => (hlater c (h.begun ending hending c hc)).1⟩
  | listener e =>
    obtain ⟨listener, -, rfl⟩ := Option.map_eq_some_iff.mp hstep
    exact ⟨h.tracked, h.healthy, h.connected, h.due, h.handling, h.begun⟩
  | polled ok =>
    cases hstep
    exact ⟨h.tracked, h.healthy, h.connected, h.due, h.handling, h.begun⟩
  | check =>
    cases hstep
    exact h.check
  | resume i => exact h.resume hstep

/-- No step brings back a call. -/
theorem step_later (h : s.Sound) {e : DetectorEvent} (hstep : s.step e = some t) : Later s.calls t.calls := by
  cases e with
  | calls e =>
    obtain ⟨next, hcalls, rfl⟩ := Option.map_eq_some_iff.mp hstep
    exact later_of_step h.tracked hcalls
  | listener e =>
    obtain ⟨listener, -, rfl⟩ := Option.map_eq_some_iff.mp hstep
    exact .refl _
  | polled ok =>
    cases hstep
    exact .refl _
  | check =>
    cases hstep
    rw [check_eq]
    split
    · exact (endNext_spec h.tracked _ (callIds s.calls) fun c hc =>
        h.tracked.begun_of_active ((mem_callIds_iff _ c).mp hc)).2.1
    · exact .refl _
  | resume i =>
    simp only [Detector.step] at hstep
    split at hstep
    · cases hstep
    · cases hstep
      exact .refl _
    · next hget =>
      cases hstep
      exact (endNext_spec h.tracked _ _ (h.begun _ (List.mem_of_getElem? hget))).2.1

theorem sound_init (constructed : Bool) : (init constructed).Sound where
  tracked := tracked_init
  healthy := rfl
  connected := rfl
  due before check after heq := by
    have := congrArg List.length heq
    simp [init] at this
  handling := .inl ⟨rfl, rfl⟩
  begun _ hnil := absurd hnil List.not_mem_nil

theorem sound_of_run {constructed : Bool} {events : List DetectorEvent}
    (hrun : exec step (init constructed) events = some s) : s.Sound :=
  exec_invariant (fun _ _ _ h hstep => h.step hstep) (sound_init constructed) hrun

/-- **What the detector handles**, in every run: a check handles a failure if and only if no other is being
handled, and the MediaBridge is not healthy now (or its socket is not connected), but was at a check since the
last failure that was handled. Never is more than one failure being handled. -/
theorem handles_iff_lost {constructed : Bool} {events : List DetectorEvent}
    (hrun : exec step (init constructed) events = some s) :
    (∀ before check after, s.checks = before ++ check :: after → check.handled = Detector.due before check) ∧
      s.endings.length ≤ 1 ∧ (s.handlingFailure = true ↔ s.endings ≠ []) := by
  have h := sound_of_run hrun
  refine ⟨h.due, ?_⟩
  obtain ⟨hnone, hhandling⟩ | ⟨ending, hone, hhandling⟩ := h.handling
  · simp [hnone, hhandling]
  · simp [hone, hhandling]

/-- The MediaBridge is healthy, a call is placed, and the MediaBridge is lost. -/
def calledRun : List DetectorEvent :=
  [.polled true, .check, .calls (.initiateOutbound "tablet" "+32" "+31"),
    .calls (.resume 0 (.provider sipProvider "call 1")), .calls (.resume 0 (.session none)),
    .calls (.resume 0 (.placed "46 1")), .calls (.resume 0 .done), .polled false]

theorem handles_iff_lost_once : ∃ s, exec step (init true) (calledRun ++ [.check, .check]) = some s ∧
    s.checks.map (·.handled) = [none, some .healthCheckFailure, none] ∧ s.endings.length ≤ 1 := by
  have hsome : (exec step (init true) (calledRun ++ [.check, .check])).map (fun s =>
      s.checks.map (·.handled)) = some [none, some .healthCheckFailure, none] := by decide +kernel
  obtain ⟨s, hrun, hchecks⟩ := Option.map_eq_some_iff.mp hsome
  exact ⟨s, hrun, hchecks, (handles_iff_lost hrun).2.1⟩

/-! ## The end of the calls -/

/-- A call of the list has ended, or its end is still to come. -/
def Ends (calls : List String) (s : Detector) : Prop :=
  ∀ c ∈ calls, s.calls.Begun c ∧ (s.calls.isActive c = true → ∃ ending ∈ s.endings, c ∈ ending.rest)

theorem Ends.later {calls : List String} (h : s.Ends calls) (hlater : Later s.calls t.calls)
    (hendings : t.endings = s.endings) : t.Ends calls := by
  intro c hc
  obtain ⟨hbegun, hrest⟩ := h c hc
  refine ⟨(hlater c hbegun).1, fun hactive => ?_⟩
  rw [hendings]
  refine hrest ?_
  by_contra hgone
  rw [(hlater c hbegun).2 (Bool.eq_false_iff.mpr hgone)] at hactive
  cases hactive

theorem Ends.check {calls : List String} (h : s.Ends calls) (hs : s.Sound) : s.check.Ends calls := by
  rw [check_eq]
  split
  · have hbegun : ∀ c ∈ callIds s.calls, s.calls.Begun c := fun c hc =>
      hs.tracked.begun_of_active ((mem_callIds_iff _ c).mp hc)
    obtain ⟨-, hlater, hends⟩ := endNext_spec hs.tracked (callIds s.calls) (callIds s.calls) hbegun
    intro c hc
    obtain ⟨hbegun, -⟩ := h c hc
    refine ⟨(hlater c hbegun).1, fun hactive => ⟨_, List.mem_append_right _ (.head _), hends c ?_ hactive⟩⟩
    rw [mem_callIds_iff]
    by_contra hgone
    have hinactive := (hlater c hbegun).2 (Bool.eq_false_iff.mpr hgone)
    exact Bool.false_ne_true (hinactive.symm.trans hactive)
  · exact h

theorem Ends.resume {calls : List String} (h : s.Ends calls) (hs : s.Sound) {i : Nat}
    (hstep : s.step (.resume i) = some t) : t.Ends calls := by
  simp only [Detector.step] at hstep
  obtain ⟨hnone, -⟩ | ⟨ending, hone, -⟩ := hs.handling
  · rw [hnone] at hstep
    cases hstep
  · cases i with
    | succ i =>
      rw [hone] at hstep
      cases hstep
    | zero =>
      have hrest := hs.begun ending (by rw [hone]; exact .head _)
      obtain ⟨callIds, rest⟩ := ending
      rw [hone, List.getElem?_cons_zero] at hstep
      cases rest with
      | nil =>
        cases hstep
        refine fun c hc => ⟨(h c hc).1, fun hactive => ?_⟩
        obtain ⟨ending, hending, hmem⟩ := (h c hc).2 hactive
        rw [hone, List.mem_singleton] at hending
        subst hending
        exact absurd hmem List.not_mem_nil
      | cons c₀ rest =>
        cases hstep
        obtain ⟨-, hlater, hends⟩ := endNext_spec hs.tracked callIds (c₀ :: rest) hrest
        intro c hc
        obtain ⟨hbegun, hstill⟩ := h c hc
        refine ⟨(hlater c hbegun).1, fun hactive => ⟨_, .head _, hends c ?_ hactive⟩⟩
        by_cases hwas : s.calls.isActive c = true
        · obtain ⟨ending, hending, hmem⟩ := hstill hwas
          rw [hone, List.mem_singleton] at hending
          subst hending
          exact hmem
        · have hinactive := (hlater c hbegun).2 (Bool.eq_false_iff.mpr hwas)
          exact absurd (hinactive.symm.trans hactive) Bool.false_ne_true

theorem Ends.step {calls : List String} (h : s.Ends calls) (hs : s.Sound) {e : DetectorEvent}
    (hstep : s.step e = some t) : t.Ends calls := by
  cases e with
  | calls e =>
    obtain ⟨next, hcalls, rfl⟩ := Option.map_eq_some_iff.mp hstep
    exact h.later (later_of_step hs.tracked hcalls) rfl
  | listener e =>
    obtain ⟨listener, -, rfl⟩ := Option.map_eq_some_iff.mp hstep
    exact h
  | polled ok =>
    cases hstep
    exact h
  | check =>
    cases hstep
    exact h.check hs
  | resume i => exact h.resume hs hstep

/-- **A failure ends every call**: once a failure that a check has found is no longer being handled, none of
the calls that were active at that check is active, whatever came between, and none ever is again. -/
theorem failure_ends_calls {constructed : Bool} {before between after : List DetectorEvent} {v : Detector}
    (hbefore : exec step (init constructed) before = some s) (hlost : s.observation.handled.isSome = true)
    (hbetween : exec step s.check between = some u) (hover : u.handlingFailure = false)
    (hafter : exec step u after = some v) {c : String} (hactive : s.calls.isActive c = true) :
    v.calls.isActive c = false := by
  have hs := sound_of_run hbefore
  have hbegun : ∀ c ∈ callIds s.calls, s.calls.Begun c := fun c hc =>
    hs.tracked.begun_of_active ((mem_callIds_iff _ c).mp hc)
  have hmem := (mem_callIds_iff s.calls c).mpr hactive
  have hends : s.check.Ends [c] := by
    obtain ⟨-, hlater, hends⟩ := endNext_spec hs.tracked (callIds s.calls) (callIds s.calls) hbegun
    rw [check_eq, if_pos hlost]
    intro c' hc'
    obtain rfl := List.mem_singleton.mp hc'
    exact ⟨(hlater c' (hbegun c' hmem)).1,
      fun hactive => ⟨_, List.mem_append_right _ (.head _), hends c' hmem hactive⟩⟩
  have hkeeps : ∀ s e t, s.Sound ∧ s.Ends [c] → step s e = some t → t.Sound ∧ t.Ends [c] :=
    fun _ _ _ h hstep => ⟨h.1.step hstep, h.2.step h.1 hstep⟩
  obtain ⟨husound, huends⟩ := exec_invariant hkeeps ⟨hs.check, hends⟩ hbetween
  have hgone : u.calls.isActive c = false := by
    by_contra hstill
    obtain ⟨ending, hending, -⟩ := (huends c (.head _)).2 (Bool.not_eq_false _ ▸ hstill)
    obtain ⟨hnone, -⟩ | ⟨_, -, hhandling⟩ := husound.handling
    · rw [hnone] at hending
      exact absurd hending List.not_mem_nil
    · rw [hover] at hhandling
      cases hhandling
  -- a call that has ended does not come back
  refine (exec_invariant (I := fun v => v.Sound ∧ v.calls.Begun c ∧ v.calls.isActive c = false)
    (fun w e w' h hstep => ?_) ⟨husound, (huends c (.head _)).1, hgone⟩ hafter).2.2
  obtain ⟨hsound, hbegun, hgone⟩ := h
  have hlater := step_later hsound hstep
  exact ⟨hsound.step hstep, (hlater c hbegun).1, (hlater c hbegun).2 hgone⟩

theorem failure_ends_calls_outbound : ∃ s u v, exec step (init true) calledRun = some s ∧
    s.calls.isActive "call 1" = true ∧ exec step s.check [.resume 0] = some u ∧
      exec step u [.calls (.tick 5)] = some v ∧ v.calls.isActive "call 1" = false := by
  have hsome : (exec step (init true) calledRun).bind (fun s =>
      (exec step s.check [.resume 0]).bind fun u => (exec step u [.calls (.tick 5)]).map fun _ =>
        decide (s.observation.handled.isSome = true ∧ s.calls.isActive "call 1" = true ∧
          u.handlingFailure = false)) = some true := by decide +kernel
  obtain ⟨s, hbefore, hsome⟩ := Option.bind_eq_some_iff.mp hsome
  obtain ⟨u, hbetween, hsome⟩ := Option.bind_eq_some_iff.mp hsome
  obtain ⟨v, hafter, hdecide⟩ := Option.map_eq_some_iff.mp hsome
  obtain ⟨hlost, hactive, hover⟩ := of_decide_eq_true hdecide
  exact ⟨s, u, v, hbefore, hactive, hbetween, hafter,
    failure_ends_calls hbefore hlost hbetween hover hafter hactive⟩

end Detector

end Svarla.Calls
