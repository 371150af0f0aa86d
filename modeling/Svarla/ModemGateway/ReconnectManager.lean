import Svarla.Lib.Run
import Svarla.Lib.Threads

/-!
# The reconnect manager

The monitoring loop opens a modem, initializes it, and publishes it; where a health check fails, it closes
the modem and tries again, with a backoff. `Stop` closes the modem that is published, cancels the context
of the loop, and waits for the loop to return.

An attempt looks at the context while it waits, and no more when it publishes the modem. Where `Stop` closes
what is published while an attempt is under way, the attempt publishes its modem all the same, and it
stays open and available after `Stop` has returned (`published_after_stop`). In a run where no modem is
published once `Stop` has looked for one, the availability is consistent (`availability_consistent`).

A section under the lock is a step. `select` takes any case that is ready. Nobody makes the transition to
`StateError` on a state machine, and `NO CARRIER` ends a call as the call manager does.
-/

namespace Svarla.ModemGateway

open Svarla.Lib

/-! ## The state machine -/

inductive ModemState
  | disconnected
  | initializing
  | ready
  | inCall
  | error
  deriving DecidableEq, Repr

namespace ModemState

def transitionToInitializing : ModemState → Option ModemState
  | disconnected | error => some initializing
  | initializing | ready | inCall => none

def transitionToReady : ModemState → Option ModemState
  | initializing | inCall => some ready
  | disconnected | ready | error => none

def transitionToInCall : ModemState → Option ModemState
  | ready => some inCall
  | disconnected | initializing | inCall | error => none

end ModemState

/-- A modem, and the state machine that was made for it. -/
structure OpenedModem where
  closed : Bool
  state : ModemState
  sm : ModemState
  deriving DecidableEq, Repr

namespace OpenedModem

/-- `Close`. -/
def close (m : OpenedModem) : OpenedModem :=
  if m.closed then m else { m with closed := true, state := .disconnected }

theorem closed_close (m : OpenedModem) : m.close.closed = true := by
  unfold close
  split
  · assumption
  · rfl

/-- Open, initialized, and ready or in a call. -/
structure Usable (m : OpenedModem) : Prop where
  isOpen : m.closed = false
  initialized : m.state = .ready
  machine : m.sm = .ready ∨ m.sm = .inCall

end OpenedModem

/-! ## The manager -/

/-- In milliseconds. -/
def reconnectBackoffMin : Nat := 2000
def reconnectBackoffMax : Nat := 30000

def nextBackoff (current : Nat) : Nat := min (current * 2) reconnectBackoffMax

inductive ModemCallback
  | onConnected
  | onDisconnected
  | onCallLost
  deriving DecidableEq, Repr

/-- Where the monitoring loop is. An attempt is that of `connect`, or one of `reconnectLoop` with its
backoff. -/
inductive MonitorPhase
  | idle
  /-- About to open the port. -/
  | opening (attempt : Option Nat)
  /-- In `RunInitSequence`. -/
  | initializing (attempt : Option Nat) (modem : Nat)
  /-- About to publish the modem. -/
  | publishing (modem : Nat)
  /-- About to call `OnConnected`. -/
  | connected
  | selecting
  /-- The health check waits for its answer. -/
  | probing
  /-- About to close the modem, in `handleDisconnect`. -/
  | disconnecting
  /-- About to call `OnDisconnected`. -/
  | disconnected (wasInCall : Bool)
  /-- About to look at the context, in `reconnectLoop`. -/
  | looping (backoff : Nat)
  | backingOff (backoff : Nat)
  | returned
  deriving DecidableEq, Repr

/-- Where a call of `Stop` is, after it has closed the modem. -/
inductive StopPhase
  | cancelling
  | waiting
  deriving DecidableEq, Repr

structure ReconnectManager where
  available : Bool
  modem : Option Nat
  sm : Option Nat
  /-- The modems that were opened so far. -/
  modems : List OpenedModem
  /-- Those that were published: others may have their state machines. -/
  published : List Nat
  phase : MonitorPhase
  cancelled : Bool
  stops : List StopPhase
  /-- `Stop` has closed the modem. -/
  stopped : Bool
  stopReturned : Bool
  log : List ModemCallback
  deriving DecidableEq, Repr

inductive ReconnectEvent
  | start
  /-- The context of `Start` is cancelled. -/
  | cancel
  | openPort (ok : Bool)
  | runInit (ok : Bool)
  | publish
  | connected
  /-- `ctx.Done` is taken. -/
  | done
  | tick
  | probe (ok : Bool)
  | disconnect
  | disconnected
  /-- The context is not cancelled, and `reconnectLoop` waits. -/
  | wait
  | elapse
  /-- `Stop` is called, and closes the modem. -/
  | stopCloses
  | stopCancels (i : Nat)
  | stopReturns (i : Nat)
  /-- The call manager has a state machine. -/
  | callStarts (modem : Nat)
  | callEnds (modem : Nat)
  deriving DecidableEq, Repr

namespace ReconnectManager

/-- `NewReconnectManager`. -/
def init : ReconnectManager :=
  ⟨false, none, none, [], [], .idle, false, [], false, false, []⟩

def update (s : ReconnectManager) (k : Nat) (f : OpenedModem → OpenedModem) : ReconnectManager :=
  { s with modems := s.modems.modify k f }

/-- The published modem is closed. -/
def closeModem (s : ReconnectManager) : ReconnectManager :=
  { s with
    modems := s.modem.elim s.modems (s.modems.modify · .close)
    modem := none
    available := false }

def goTo (s : ReconnectManager) (phase : MonitorPhase) : ReconnectManager := { s with phase }

/-- An attempt fails, and `reconnectLoop` starts or goes on. -/
def retry : Option Nat → MonitorPhase
  | none => .looping reconnectBackoffMin
  | some backoff => .looping (nextBackoff backoff)

/-- The port is open. -/
def new (s : ReconnectManager) (attempt : Option Nat) : ReconnectManager :=
  match ModemState.disconnected.transitionToInitializing with
  | some sm => { s with
      modems := s.modems ++ [⟨false, .initializing, sm⟩]
      phase := .initializing attempt s.modems.length }
  | none => { s with
      modems := s.modems ++ [⟨true, .disconnected, .disconnected⟩]
      phase := retry attempt }

/-- `RunInitSequence` has ended for a modem. -/
def initialized (s : ReconnectManager) (attempt : Option Nat) (k : Nat) (ok : Bool) : ReconnectManager :=
  match if ok then (s.modems[k]?.bind fun m => m.sm.transitionToReady) else none with
  | some sm => (s.update k fun m => { m with state := .ready, sm }).goTo (.publishing k)
  | none => (s.update k .close).goTo (retry attempt)

def publish (s : ReconnectManager) (k : Nat) : ReconnectManager :=
  { s with
    modem := some k, sm := some k, available := true, published := s.published ++ [k]
    phase := .connected }

/-- The locked section of `handleDisconnect`. -/
def handleDisconnect (s : ReconnectManager) : ReconnectManager :=
  let wasInCall : Bool := (s.sm.bind (s.modems[·]?)).any (·.sm = .inCall)
  let s := s.closeModem
  { s with
    modems := s.sm.elim s.modems (s.modems.modify · fun m => { m with sm := .disconnected })
    phase := .disconnected wasInCall }

/-- A state machine makes a transition, if it may. -/
def transition (s : ReconnectManager) (k : Nat) (f : ModemState → Option ModemState) : ReconnectManager :=
  s.update k fun m => { m with sm := (f m.sm).getD m.sm }

def step (s : ReconnectManager) : ReconnectEvent → Option ReconnectManager
  | .start => if s.phase = .idle then some (s.goTo (.opening none)) else none
  | .cancel => some { s with cancelled := true }
  | .openPort ok =>
    match s.phase with
    | .opening attempt => some (if ok then s.new attempt else s.goTo (retry attempt))
    | _ => none
  | .runInit ok =>
    match s.phase with
    | .initializing attempt k => some (s.initialized attempt k ok)
    | _ => none
  | .publish =>
    match s.phase with
    | .publishing k => some (s.publish k)
    | _ => none
  | .connected =>
    match s.phase with
    | .connected => some { s with log := s.log ++ [.onConnected], phase := .selecting }
    | _ => none
  | .done =>
    if s.cancelled then
      match s.phase with
      | .selecting => some (s.goTo .returned)
      | .looping _ | .backingOff _ => some (s.goTo .selecting)
      | _ => none
    else none
  | .tick =>
    match s.phase with
    | .selecting =>
      some (if s.available then (if s.modem = none then s else s.goTo .probing) else s.goTo (.opening none))
    | _ => none
  | .probe ok =>
    match s.phase with
    | .probing => some (s.goTo (if ok then .selecting else .disconnecting))
    | _ => none
  | .disconnect =>
    match s.phase with
    | .disconnecting => some s.handleDisconnect
    | _ => none
  | .disconnected =>
    match s.phase with
    | .disconnected wasInCall => some { s with
        log := s.log ++ (if wasInCall then [.onCallLost] else []) ++ [.onDisconnected]
        phase := .looping reconnectBackoffMin }
    | _ => none
  | .wait =>
    match s.phase with
    | .looping backoff => if s.cancelled then none else some (s.goTo (.backingOff backoff))
    | _ => none
  | .elapse =>
    match s.phase with
    | .backingOff backoff => some (s.goTo (.opening (some backoff)))
    | _ => none
  | .stopCloses => some { s.closeModem with stopped := true, stops := s.stops ++ [.cancelling] }
  | .stopCancels i =>
    match s.stops[i]? with
    | some .cancelling => some { s with
        stops := advance s.stops i (some .waiting)
        -- before `Start` there is no context to cancel
        cancelled := s.cancelled || s.phase ≠ .idle }
    | _ => none
  | .stopReturns i =>
    match s.stops[i]?, s.phase with
    | some .waiting, .returned => some { s with stops := advance s.stops i none, stopReturned := true }
    | _, _ => none
  | .callStarts k => if k ∈ s.published then some (s.transition k ModemState.transitionToInCall) else none
  | .callEnds k => if k ∈ s.published then some (s.transition k ModemState.transitionToReady) else none

/-! ## Consistency -/

/-- What may be called next: is the modem connected, for those who are called? -/
def turn : Bool → ModemCallback → Option Bool
  | false, .onConnected => some true
  | true, .onDisconnected => some false
  | up, .onCallLost => some up
  | true, .onConnected | false, .onDisconnected => none

structure Consistent (s : ReconnectManager) : Prop where
  available : s.available → ∃ k m, s.modem = some k ∧ s.sm = some k ∧ s.modems[k]? = some m ∧ m.Usable
  oneOpen : ∀ (j k : Nat) (m m' : OpenedModem), s.modems[j]? = some m → s.modems[k]? = some m' →
    m.closed = false → m'.closed = false → j = k
  alternate : (exec turn false s.log).isSome
  stopped : s.stopReturned → s.available = false ∧ ∀ m ∈ s.modems, m.closed = true

/-- No modem is published once `Stop` has closed the one that was. -/
def Clear (s : ReconnectManager) : ReconnectEvent → Prop
  | .publish => s.stopped = false
  | _ => True

instance (s : ReconnectManager) (e : ReconnectEvent) : Decidable (s.Clear e) := by
  cases e <;> unfold Clear <;> infer_instance

end ReconnectManager

/-! ## The attempt -/

namespace MonitorPhase

/-- The modem of the attempt, which is not published. -/
def made : MonitorPhase → Option (Nat × OpenedModem)
  | initializing _ k => some (k, ⟨false, .initializing, .initializing⟩)
  | publishing k => some (k, ⟨false, .ready, .ready⟩)
  | _ => none

/-- No modem is published in an attempt, or before one. -/
def attempting : MonitorPhase → Bool
  | idle | opening _ | initializing .. | publishing _ | disconnected _ | looping _ | backingOff _ => true
  | connected | selecting | probing | disconnecting | returned => false

/-- Who was called last, of those for the connection. Only `Stop` takes the modem from under the loop. -/
def Follows (available stopped up : Bool) : MonitorPhase → Prop
  | idle | opening _ | initializing .. | publishing _ | looping _ | backingOff _ => up = false ∨ stopped
  | connected => up = false ∧ (available ∨ stopped)
  | probing | disconnecting => up = true ∧ (available ∨ stopped)
  | disconnected _ => up = true
  | selecting | returned => if available then up = true else up = false ∨ stopped

theorem attempting_of_made {phase : MonitorPhase} {k : Nat} {m : OpenedModem}
    (h : phase.made = some (k, m)) : phase.attempting = true := by
  cases phase with
  | initializing | publishing => rfl
  | _ => cases h

theorem follows_selecting {available stopped : Bool} (h : available ∨ stopped) :
    selecting.Follows available stopped true := by
  cases available with
  | true => exact rfl
  | false => exact .inr (h.resolve_left nofun)

end MonitorPhase

namespace ReconnectManager

theorem made_retry (attempt : Option Nat) : (retry attempt).made = none := by
  cases attempt <;> rfl

theorem getElem?_update_self (s : ReconnectManager) (k : Nat) (f : OpenedModem → OpenedModem) :
    (s.update k f).modems[k]? = s.modems[k]?.map f := by
  simp [update]

theorem getElem?_update_of_ne (s : ReconnectManager) {j k : Nat} (hne : j ≠ k)
    (f : OpenedModem → OpenedModem) : (s.update k f).modems[j]? = s.modems[j]? := by
  simp [update, hne.symm]

theorem length_update (s : ReconnectManager) (k : Nat) (f : OpenedModem → OpenedModem) :
    (s.update k f).modems.length = s.modems.length := List.length_modify ..

/-- A modem that is open after one was closed is another one. -/
theorem of_getElem?_update_close {s : ReconnectManager} {j k : Nat} {m : OpenedModem}
    (hm : (s.update k .close).modems[j]? = some m) (hopen : m.closed = false) :
    j ≠ k ∧ s.modems[j]? = some m := by
  have hne : j ≠ k := by
    rintro rfl
    rw [getElem?_update_self] at hm
    obtain ⟨m', -, rfl⟩ := Option.map_eq_some_iff.mp hm
    rw [OpenedModem.closed_close] at hopen
    cases hopen
  rw [getElem?_update_of_ne s hne] at hm
  exact ⟨hne, hm⟩

theorem of_getElem?_closeModem {s : ReconnectManager} {j : Nat} {m : OpenedModem}
    (hm : s.closeModem.modems[j]? = some m) (hopen : m.closed = false) :
    s.modem ≠ some j ∧ s.modems[j]? = some m := by
  rcases hmodem : s.modem with _ | k
  · simp only [closeModem, hmodem, Option.elim_none] at hm
    exact ⟨nofun, hm⟩
  · simp only [closeModem, hmodem, Option.elim_some] at hm
    obtain ⟨hne, hold⟩ := of_getElem?_update_close hm hopen
    exact ⟨fun heq => hne (Option.some.inj heq).symm, hold⟩

theorem getElem?_closeModem_of_ne {s : ReconnectManager} {j : Nat} (hne : s.modem ≠ some j) :
    s.closeModem.modems[j]? = s.modems[j]? := by
  rcases hmodem : s.modem with _ | k
  · simp only [closeModem, hmodem, Option.elim_none]
  · simp only [closeModem, hmodem, Option.elim_some]
    exact getElem?_update_of_ne s (fun heq => hne (by rw [hmodem, heq])) _

theorem length_closeModem (s : ReconnectManager) : s.closeModem.modems.length = s.modems.length := by
  rcases hmodem : s.modem with _ | k
  · simp only [closeModem, hmodem, Option.elim_none]
  · simp only [closeModem, hmodem, Option.elim_some]
    exact length_update ..

/-- What is open stays open where a state machine changes. -/
theorem of_getElem?_update_sm {s : ReconnectManager} {j k : Nat} {f : OpenedModem → OpenedModem}
    (hf : ∀ m, (f m).closed = m.closed) {m : OpenedModem} (hm : (s.update k f).modems[j]? = some m) :
    ∃ m', s.modems[j]? = some m' ∧ m'.closed = m.closed := by
  by_cases hne : j = k
  · subst hne
    rw [getElem?_update_self] at hm
    obtain ⟨m', hm', rfl⟩ := Option.map_eq_some_iff.mp hm
    exact ⟨m', hm', (hf m').symm⟩
  · rw [getElem?_update_of_ne s hne] at hm
    exact ⟨m, hm, rfl⟩

/-- Who has which modem, and who was called. -/
structure Inv (s : ReconnectManager) : Prop where
  available : s.available = s.modem.isSome
  published : ∀ k, s.modem = some k →
    s.sm = some k ∧ k ∈ s.published ∧ ∃ m, s.modems[k]? = some m ∧ m.Usable
  owner : ∀ k m, s.modems[k]? = some m → m.closed = false → s.modem = some k ∨ s.phase.made = some (k, m)
  free : s.phase.attempting = true → s.modem = none
  made : ∀ k m, s.phase.made = some (k, m) → k ∉ s.published ∧ s.modems[k]? = some m
  bound : ∀ k ∈ s.published, k < s.modems.length
  callbacks : ∃ up, exec turn false s.log = some up ∧ s.phase.Follows s.available s.stopped up
  stopped : s.stopped → s.modem = none
  stopping : ∀ x ∈ s.stops, s.stopped = true
  returned : s.stopReturned → s.stopped ∧ s.phase = .returned

theorem inv_init : Inv init where
  available := rfl
  published := nofun
  owner := nofun
  free := fun _ => rfl
  made := nofun
  bound := nofun
  callbacks := ⟨false, rfl, .inl rfl⟩
  stopped := nofun
  stopping := nofun
  returned := nofun

theorem Inv.modem_eq_none {s : ReconnectManager} (h : Inv s) {phase : MonitorPhase}
    (hphase : s.phase = phase) (hattempting : phase.attempting = true) : s.modem = none :=
  h.free (hphase ▸ hattempting)

theorem Inv.consistent {s : ReconnectManager} (h : Inv s) : Consistent s where
  available := by
    intro havailable
    rw [h.available] at havailable
    obtain ⟨k, hk⟩ := Option.isSome_iff_exists.mp havailable
    obtain ⟨hsm, -, m, hm, husable⟩ := h.published k hk
    exact ⟨k, m, hk, hsm, hm, husable⟩
  oneOpen := by
    intro j k m m' hj hk hopen hopen'
    rcases h.owner j m hj hopen with hj' | hj' <;> rcases h.owner k m' hk hopen' with hk' | hk'
    · exact Option.some.inj (hj'.symm.trans hk')
    · -- in an attempt no modem is published
      exact nomatch (h.free (MonitorPhase.attempting_of_made hk')).symm.trans hj'
    · exact nomatch (h.free (MonitorPhase.attempting_of_made hj')).symm.trans hk'
    · exact congrArg Prod.fst (Option.some.inj (hj'.symm.trans hk'))
  alternate := by
    obtain ⟨up, hup, -⟩ := h.callbacks
    rw [hup]
    rfl
  stopped := by
    intro hreturned
    obtain ⟨hstopped, hphase⟩ := h.returned hreturned
    have hnone := h.stopped hstopped
    refine ⟨by rw [h.available, hnone]; rfl, fun m hm => ?_⟩
    obtain ⟨k, hk⟩ := List.mem_iff_getElem?.mp hm
    rcases hclosed : m.closed with _ | _
    · rcases h.owner k m hk hclosed with howner | howner
      · rw [hnone] at howner
        cases howner
      · rw [hphase] at howner
        cases howner
    · rfl

/-! ## The steps -/

/-- The loop goes on, and calls who is to know. -/
theorem Inv.proceed {s : ReconnectManager} (h : Inv s) {before : MonitorPhase} (hphase : s.phase = before)
    (phase : MonitorPhase) (log : List ModemCallback) (hbefore : before.made = none)
    (hafter : phase.made = none) (hreturned : before ≠ .returned)
    (hfree : phase.attempting = true → s.modem = none)
    (hcallbacks : ∃ up, exec turn false log = some up ∧ phase.Follows s.available s.stopped up) :
    Inv { s with phase, log } where
  available := h.available
  published := h.published
  owner := by
    intro k m hm hopen
    rcases h.owner k m hm hopen with howner | howner
    · exact .inl howner
    · rw [hphase, hbefore] at howner
      cases howner
  free := hfree
  made := by
    intro k m hmade
    rw [hafter] at hmade
    cases hmade
  bound := h.bound
  callbacks := hcallbacks
  stopped := h.stopped
  stopping := h.stopping
  returned := fun hstop => absurd (hphase.symm.trans (h.returned hstop).2) hreturned

theorem Inv.new {s : ReconnectManager} (h : Inv s) {attempt : Option Nat}
    (hphase : s.phase = .opening attempt) : Inv (s.new attempt) where
  available := h.available
  published := by
    intro k hk
    exact nomatch (h.modem_eq_none hphase rfl).symm.trans hk
  owner := by
    intro k m hm hopen
    rcases Nat.lt_or_ge k s.modems.length with hlt | hge
    · rcases h.owner k m ((List.getElem?_append_left hlt).symm.trans hm) hopen with howner | howner
      · exact .inl howner
      · rw [hphase] at howner
        cases howner
    · have hlt : k < s.modems.length + 1 :=
        Nat.lt_of_lt_of_eq (List.getElem?_eq_some_iff.mp hm).1 List.length_append
      obtain rfl : k = s.modems.length := by omega
      cases List.getElem?_concat_length.symm.trans hm
      exact .inr rfl
  free := fun _ => h.modem_eq_none hphase rfl
  made := by
    intro k m hmade
    cases hmade
    refine ⟨fun hmem => absurd (h.bound _ hmem) (Nat.lt_irrefl _), ?_⟩
    exact List.getElem?_concat_length
  bound := by
    intro k hk
    have hlt := h.bound k hk
    have hlength : (s.new attempt).modems.length = s.modems.length + 1 := List.length_append
    omega
  callbacks := by
    obtain ⟨up, hup, hfollows⟩ := h.callbacks
    rw [hphase] at hfollows
    exact ⟨up, hup, hfollows⟩
  stopped := h.stopped
  stopping := h.stopping
  returned := by
    intro hreturned
    have hafter := (h.returned hreturned).2
    rw [hphase] at hafter
    cases hafter

theorem Inv.initialized {s : ReconnectManager} (h : Inv s) {attempt : Option Nat} {k : Nat}
    (hphase : s.phase = .initializing attempt k) (ok : Bool) : Inv (s.initialized attempt k ok) := by
  have hnone : s.modem = none := h.modem_eq_none hphase rfl
  obtain ⟨hfresh, hk⟩ := h.made k ⟨false, .initializing, .initializing⟩ (by rw [hphase]; rfl)
  obtain ⟨up, hup, hfollows⟩ := h.callbacks
  rw [hphase] at hfollows
  have howner {j : Nat} {m : OpenedModem} (hne : j ≠ k) (hm : s.modems[j]? = some m)
      (hopen : m.closed = false) : False := by
    rcases h.owner j m hm hopen with howner | howner
    · rw [hnone] at howner
      cases howner
    · rw [hphase] at howner
      cases howner
      exact hne rfl
  have hreturned {q : Prop} : s.stopReturned = true → q := by
    intro hreturned
    have hafter := (h.returned hreturned).2
    rw [hphase] at hafter
    cases hafter
  cases ok with
  | true =>
    have heq : s.initialized attempt k true =
        (s.update k fun m => { m with state := .ready, sm := .ready }).goTo (.publishing k) := by
      simp [ReconnectManager.initialized, hk, ModemState.transitionToReady]
    rw [heq]
    refine ⟨h.available, fun j hj => (nomatch hnone.symm.trans hj), fun j m hm hopen => ?_, fun _ => hnone,
      ?_, fun j hj => ?_, ⟨up, hup, hfollows⟩, h.stopped, h.stopping, hreturned⟩
    · change (s.update k _).modems[j]? = some m at hm
      by_cases hne : j = k
      · subst hne
        rw [getElem?_update_self, hk] at hm
        cases hm
        exact .inr rfl
      · rw [getElem?_update_of_ne s hne] at hm
        exact (howner hne hm hopen).elim
    · intro j m hmade
      cases hmade
      refine ⟨hfresh, ?_⟩
      change (s.update k _).modems[k]? = _
      rw [getElem?_update_self, hk]
      rfl
    · change j < (s.update k _).modems.length
      rw [length_update]
      exact h.bound j hj
  | false =>
    have heq : s.initialized attempt k false = (s.update k .close).goTo (retry attempt) := rfl
    rw [heq]
    refine ⟨h.available, fun j hj => (nomatch hnone.symm.trans hj), fun j m hm hopen => ?_, fun _ => hnone,
      fun j m hmade => ?_, fun j hj => ?_, ⟨up, hup, ?_⟩, h.stopped, h.stopping, hreturned⟩
    · obtain ⟨hne, hold⟩ := of_getElem?_update_close hm hopen
      exact (howner hne hold hopen).elim
    · have hretry : (retry attempt).made = some (j, m) := hmade
      rw [made_retry] at hretry
      cases hretry
    · change j < (s.update k _).modems.length
      rw [length_update]
      exact h.bound j hj
    · cases attempt <;> exact hfollows

theorem Inv.publish {s : ReconnectManager} (h : Inv s) {k : Nat} (hphase : s.phase = .publishing k)
    (hstopped : s.stopped = false) : Inv (s.publish k) := by
  have hnone : s.modem = none := h.modem_eq_none hphase rfl
  obtain ⟨-, hk⟩ := h.made k ⟨false, .ready, .ready⟩ (by rw [hphase]; rfl)
  obtain ⟨up, hup, hfollows⟩ := h.callbacks
  rw [hphase] at hfollows
  refine ⟨rfl, fun j hj => ?_, fun j m hm hopen => ?_, nofun, nofun, fun j hj => ?_, ⟨up, hup, ?_⟩, ?_,
    h.stopping, fun hreturned => ?_⟩
  · cases hj
    exact ⟨rfl, List.mem_append_right _ (List.mem_singleton_self k), _, hk, rfl, rfl, .inl rfl⟩
  · rcases h.owner j m hm hopen with howner | howner
    · exact nomatch hnone.symm.trans howner
    · rw [hphase] at howner
      cases howner
      exact .inl rfl
  · rcases List.mem_append.mp hj with hj | hj
    · exact h.bound j hj
    · rw [List.mem_singleton.mp hj]
      exact (List.getElem?_eq_some_iff.mp hk).1
  · exact ⟨hfollows.resolve_right (by rw [hstopped]; nofun), .inl rfl⟩
  · intro hafter
    exact nomatch hstopped.symm.trans hafter
  · have hafter := (h.returned hreturned).2
    rw [hphase] at hafter
    cases hafter

/-- Another modem than the published one is not open, outside of an attempt. -/
theorem Inv.closed_of_closeModem {s : ReconnectManager} (h : Inv s) (hmade : s.phase.made = none) {j : Nat}
    {m : OpenedModem} (hm : s.closeModem.modems[j]? = some m) : m.closed = true := by
  rcases hopen : m.closed with _ | _
  · obtain ⟨hne, hold⟩ := of_getElem?_closeModem hm hopen
    rcases h.owner j m hold hopen with howner | howner
    · exact absurd howner hne
    · rw [hmade] at howner
      cases howner
  · rfl

/-- A health check has failed. -/
theorem Inv.handleDisconnect {s : ReconnectManager} (h : Inv s) (hphase : s.phase = .disconnecting) :
    Inv s.handleDisconnect := by
  obtain ⟨up, hup, hfollows⟩ := h.callbacks
  rw [hphase] at hfollows
  obtain ⟨rfl, -⟩ := hfollows
  obtain ⟨hclosed, hlength⟩ : (∀ (j : Nat) (m : OpenedModem), s.handleDisconnect.modems[j]? = some m →
      m.closed = true) ∧ s.handleDisconnect.modems.length = s.modems.length := by
    have hall {j : Nat} {m : OpenedModem} (hm : s.closeModem.modems[j]? = some m) : m.closed = true :=
      h.closed_of_closeModem (by rw [hphase]; rfl) hm
    have hlength := length_closeModem s
    rcases hsm : s.closeModem.sm with _ | k
    · simp only [ReconnectManager.handleDisconnect, hsm, Option.elim_none]
      exact ⟨fun j m => hall, hlength⟩
    · simp only [ReconnectManager.handleDisconnect, hsm, Option.elim_some]
      refine ⟨fun j m hm => ?_, (length_update s.closeModem k _).trans hlength⟩
      obtain ⟨m', hm', hkept⟩ := of_getElem?_update_sm (s := s.closeModem) (by exact fun _ => rfl) hm
      rw [← hkept]
      exact hall hm'
  refine ⟨rfl, nofun, fun j m hm hopen => ?_, fun _ => rfl, nofun, fun j hj => ?_, ⟨true, hup, rfl⟩,
    fun _ => rfl, h.stopping, fun hreturned => ?_⟩
  · exact nomatch hopen.symm.trans (hclosed j m hm)
  · rw [hlength]
    exact h.bound j hj
  · have hafter := (h.returned hreturned).2
    rw [hphase] at hafter
    cases hafter

/-- `Stop` closes the modem, wherever the loop is. -/
theorem Inv.stopCloses {s : ReconnectManager} (h : Inv s) :
    Inv { s.closeModem with stopped := true, stops := s.stops ++ [.cancelling] } where
  available := rfl
  published := nofun
  owner := by
    intro j m hm hopen
    obtain ⟨hne, hold⟩ := of_getElem?_closeModem hm hopen
    exact (h.owner j m hold hopen).imp_left fun howner => absurd howner hne
  free := fun _ => rfl
  made := by
    intro j m hmade
    obtain ⟨hfresh, hj⟩ := h.made j m hmade
    refine ⟨hfresh, ?_⟩
    -- the modem of the attempt is not the published one
    exact (getElem?_closeModem_of_ne fun heq => hfresh (h.published j heq).2.1).trans hj
  bound := by
    intro j hj
    exact Nat.lt_of_lt_of_eq (h.bound j hj) (length_closeModem s).symm
  callbacks := by
    obtain ⟨up, hup, hfollows⟩ := h.callbacks
    refine ⟨up, hup, ?_⟩
    change s.phase.Follows false true up
    rcases hphase : s.phase with _ | _ | _ | _ | _ | _ | _ | _ | _ | _ | _ | _ <;>
    · rw [hphase] at hfollows
      first
      | exact .inr rfl
      | exact ⟨hfollows.1, .inr rfl⟩
      | exact hfollows
  stopped := fun _ => rfl
  stopping := fun _ _ => rfl
  returned := fun hreturned => ⟨rfl, (h.returned hreturned).2⟩

/-- A call starts or ends. -/
theorem Inv.transition {s : ReconnectManager} (h : Inv s) {k : Nat} (hk : k ∈ s.published)
    {f : ModemState → Option ModemState}
    (hf : ∀ sm, (sm = .ready ∨ sm = .inCall) → (f sm).getD sm = .ready ∨ (f sm).getD sm = .inCall) :
    Inv (s.transition k f) where
  available := h.available
  published := by
    intro j hj
    obtain ⟨hsm, hpublished, m, hm, husable⟩ := h.published j hj
    refine ⟨hsm, hpublished, ?_⟩
    by_cases hne : j = k
    · subst hne
      refine ⟨_, (getElem?_update_self s j _).trans (congrArg _ hm), husable.isOpen, husable.initialized, ?_⟩
      exact hf m.sm husable.machine
    · exact ⟨m, (getElem?_update_of_ne s hne _).trans hm, husable⟩
  owner := by
    intro j m hm hopen
    by_cases hne : j = k
    · subst hne
      obtain ⟨m', hm', hkept⟩ := of_getElem?_update_sm (by exact fun _ => rfl) hm
      -- the attempt's modem is not published
      refine (h.owner j m' hm' (hkept.trans hopen)).imp_right fun hmade => ?_
      exact absurd hk (h.made j m' hmade).1
    · exact h.owner j m ((getElem?_update_of_ne s hne _).symm.trans hm) hopen
  free := h.free
  made := by
    intro j m hmade
    obtain ⟨hfresh, hj⟩ := h.made j m hmade
    have hne : j ≠ k := fun heq => hfresh (heq ▸ hk)
    exact ⟨hfresh, (getElem?_update_of_ne s hne _).trans hj⟩
  bound := by
    intro j hj
    exact Nat.lt_of_lt_of_eq (h.bound j hj) (length_update s k _).symm
  callbacks := h.callbacks
  stopped := h.stopped
  stopping := h.stopping
  returned := h.returned

/-- **One step.** -/
theorem Inv.step {s t : ReconnectManager} {e : ReconnectEvent} (h : Inv s) (hclear : s.Clear e)
    (hstep : s.step e = some t) : Inv t := by
  obtain ⟨up, hup, hfollows⟩ := h.callbacks
  cases e with
  | start =>
    rw [ReconnectManager.step] at hstep
    split at hstep
    · rename_i hphase
      cases hstep
      rw [hphase] at hfollows
      exact h.proceed hphase (.opening none) s.log rfl rfl nofun (fun _ => h.modem_eq_none hphase rfl)
        ⟨up, hup, hfollows⟩
    · cases hstep
  | cancel =>
    cases hstep
    exact ⟨h.available, h.published, h.owner, h.free, h.made, h.bound, h.callbacks, h.stopped, h.stopping,
      h.returned⟩
  | openPort ok =>
    rw [ReconnectManager.step] at hstep
    split at hstep
    · rename_i attempt hphase
      cases hstep
      cases ok with
      | true => exact h.new hphase
      | false =>
        rw [hphase] at hfollows
        refine h.proceed hphase (retry attempt) s.log rfl (made_retry attempt) nofun
          (fun _ => h.modem_eq_none hphase rfl) ⟨up, hup, ?_⟩
        cases attempt <;> exact hfollows
    · cases hstep
  | runInit ok =>
    rw [ReconnectManager.step] at hstep
    split at hstep
    · rename_i attempt k hphase
      cases hstep
      exact h.initialized hphase ok
    · cases hstep
  | publish =>
    rw [ReconnectManager.step] at hstep
    split at hstep
    · rename_i k hphase
      cases hstep
      exact h.publish hphase hclear
    · cases hstep
  | connected =>
    rw [ReconnectManager.step] at hstep
    split at hstep
    · rename_i hphase
      cases hstep
      rw [hphase] at hfollows
      obtain ⟨rfl, hthere⟩ := hfollows
      exact h.proceed hphase .selecting _ rfl rfl nofun nofun
        ⟨true, exec_concat hup rfl, MonitorPhase.follows_selecting hthere⟩
    · cases hstep
  | done =>
    -- a loop that gives up is as one that has not connected
    have hgiveUp {phase : MonitorPhase} (hphase : s.phase = phase) (hattempting : phase.attempting = true)
        (hmade : phase.made = none) (hreturned : phase ≠ .returned)
        (hup' : up = false ∨ s.stopped = true) : Inv (s.goTo .selecting) := by
      refine h.proceed hphase .selecting s.log hmade rfl hreturned nofun ⟨up, hup, ?_⟩
      rw [h.available, h.modem_eq_none hphase hattempting]
      exact hup'
    rw [ReconnectManager.step] at hstep
    split at hstep
    · split at hstep
      · rename_i hphase
        cases hstep
        rw [hphase] at hfollows
        exact h.proceed hphase .returned s.log rfl rfl nofun nofun ⟨up, hup, hfollows⟩
      · rename_i backoff hphase
        cases hstep
        rw [hphase] at hfollows
        exact hgiveUp hphase rfl rfl nofun hfollows
      · rename_i backoff hphase
        cases hstep
        rw [hphase] at hfollows
        exact hgiveUp hphase rfl rfl nofun hfollows
      · cases hstep
    · cases hstep
  | tick =>
    rw [ReconnectManager.step] at hstep
    split at hstep
    · rename_i hphase
      cases hstep
      rw [hphase] at hfollows
      rcases havailable : s.available with _ | _ <;> rw [havailable] at hfollows
      · rw [if_neg nofun]
        have hnone : s.modem = none := by simpa [havailable] using h.available
        exact h.proceed hphase (.opening none) s.log rfl rfl nofun (fun _ => hnone) ⟨up, hup, hfollows⟩
      · rw [if_pos rfl]
        split
        · exact h
        · exact h.proceed hphase .probing s.log rfl rfl nofun nofun ⟨up, hup, hfollows, .inl havailable⟩
    · cases hstep
  | probe ok =>
    rw [ReconnectManager.step] at hstep
    split at hstep
    · rename_i hphase
      cases hstep
      rw [hphase] at hfollows
      obtain ⟨rfl, hthere⟩ := hfollows
      cases ok with
      | true =>
        exact h.proceed hphase .selecting s.log rfl rfl nofun nofun
          ⟨true, hup, MonitorPhase.follows_selecting hthere⟩
      | false =>
        exact h.proceed hphase .disconnecting s.log rfl rfl nofun nofun ⟨true, hup, rfl, hthere⟩
    · cases hstep
  | disconnect =>
    rw [ReconnectManager.step] at hstep
    split at hstep
    · rename_i hphase
      cases hstep
      exact h.handleDisconnect hphase
    · cases hstep
  | disconnected =>
    rw [ReconnectManager.step] at hstep
    split at hstep
    · rename_i wasInCall hphase
      cases hstep
      rw [hphase] at hfollows
      obtain rfl : up = true := hfollows
      refine h.proceed hphase (.looping reconnectBackoffMin) _ rfl rfl nofun
        (fun _ => h.modem_eq_none hphase rfl) ⟨false, ?_, .inl rfl⟩
      cases wasInCall with
      | true => exact exec_concat (exec_concat hup rfl) rfl
      | false => exact exec_concat (by rw [if_neg nofun, List.append_nil]; exact hup) rfl
    · cases hstep
  | wait =>
    rw [ReconnectManager.step] at hstep
    split at hstep
    · rename_i backoff hphase
      split at hstep
      · cases hstep
      · cases hstep
        rw [hphase] at hfollows
        exact h.proceed hphase (.backingOff backoff) s.log rfl rfl nofun
          (fun _ => h.modem_eq_none hphase rfl) ⟨up, hup, hfollows⟩
    · cases hstep
  | elapse =>
    rw [ReconnectManager.step] at hstep
    split at hstep
    · rename_i backoff hphase
      cases hstep
      rw [hphase] at hfollows
      exact h.proceed hphase (.opening (some backoff)) s.log rfl rfl nofun
        (fun _ => h.modem_eq_none hphase rfl) ⟨up, hup, hfollows⟩
    · cases hstep
  | stopCloses =>
    cases hstep
    exact h.stopCloses
  | stopCancels i =>
    rw [ReconnectManager.step] at hstep
    split at hstep
    · rename_i hstop
      cases hstep
      have hstopped := h.stopping _ (List.mem_of_getElem? hstop)
      exact ⟨h.available, h.published, h.owner, h.free, h.made, h.bound, h.callbacks, h.stopped,
        fun _ _ => hstopped, h.returned⟩
    · cases hstep
  | stopReturns i =>
    rw [ReconnectManager.step] at hstep
    split at hstep
    · rename_i hstop hphase
      cases hstep
      have hstopped := h.stopping _ (List.mem_of_getElem? hstop)
      exact ⟨h.available, h.published, h.owner, h.free, h.made, h.bound, h.callbacks, h.stopped,
        fun _ _ => hstopped, fun _ => ⟨hstopped, hphase⟩⟩
    · cases hstep
  | callStarts k =>
    rw [ReconnectManager.step] at hstep
    split at hstep
    · rename_i hk
      cases hstep
      refine h.transition hk ?_
      rintro _ (rfl | rfl)
      · exact .inr rfl
      · exact .inr rfl
    · cases hstep
  | callEnds k =>
    rw [ReconnectManager.step] at hstep
    split at hstep
    · rename_i hk
      cases hstep
      refine h.transition hk ?_
      rintro _ (rfl | rfl)
      · exact .inl rfl
      · exact .inl rfl
    · cases hstep

/-- **The availability is consistent** in every state of a run in which no modem is published once `Stop`
has closed the one that was. -/
theorem availability_consistent {es : List ReconnectEvent} {t : ReconnectManager}
    (hclear : Guarded step Clear init es) (hrun : exec step init es = some t) : Consistent t :=
  (hclear.invariant (fun _ _ _ h hguard hstep => h.step hguard hstep) inv_init hrun).consistent

/-- A modem is lost, another one connected, and the manager stopped. -/
theorem availability_consistent_reconnected :
    ∃ t, exec step init
        [.start, .openPort true, .runInit true, .publish, .connected, .callStarts 0, .tick, .probe false,
          .disconnect, .disconnected, .wait, .elapse, .openPort true, .runInit true, .publish, .connected,
          .stopCloses, .stopCancels 0, .done, .stopReturns 0] = some t ∧
      t.log = [.onConnected, .onCallLost, .onDisconnected, .onConnected] ∧ t.stopReturned = true ∧
      Consistent t :=
  ⟨_, rfl, rfl, rfl, @availability_consistent [.start, .openPort true, .runInit true, .publish, .connected,
    .callStarts 0, .tick, .probe false, .disconnect, .disconnected, .wait, .elapse, .openPort true,
    .runInit true, .publish, .connected, .stopCloses, .stopCancels 0, .done, .stopReturns 0] _
    (by decide +kernel) rfl⟩

/-- `Stop` closes what is published while the first attempt is about to publish its modem. The modem stays
open and available after `Stop` has returned. And where the ticker is taken before the context is
cancelled, the loop connects again, and `OnConnected` is called twice. -/
theorem published_after_stop :
    (∃ t m, exec step init
        [.start, .openPort true, .runInit true, .stopCloses, .stopCancels 0, .publish, .connected, .done,
          .stopReturns 0] = some t ∧
      t.stopReturned = true ∧ t.available = true ∧ t.modems = [m] ∧ m.closed = false ∧ ¬ Consistent t) ∧
    (∃ t, exec step init
        [.start, .openPort true, .runInit true, .publish, .connected, .stopCloses, .tick, .openPort true,
          .runInit true, .publish, .connected] = some t ∧
      t.log = [.onConnected, .onConnected] ∧ ¬ Consistent t) := by
  refine ⟨⟨_, _, rfl, rfl, rfl, rfl, rfl, fun h => ?_⟩, ⟨_, rfl, rfl, fun h => ?_⟩⟩
  · cases (h.stopped rfl).1
  · cases h.alternate

end ReconnectManager
end Svarla.ModemGateway
