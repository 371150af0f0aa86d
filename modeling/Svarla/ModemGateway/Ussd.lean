import Svarla.Lib.Run

/-!
# USSD requests

A request of the USSD manager makes a channel for its answer, sends its command, and reads the channel
of the manager only when the command has returned. The handler of `+CUSD` takes the channel away from
the manager and puts the response in. An operation is a section under the lock, or one operation of a
channel; commands return and timers fire whenever they may.

A response that comes before its request has read the channel is lost (`answer_lost`), and a request
that fails or times out resets the manager, whichever session it is in. Where neither happens
(`Orderly`), every response is that of the request that was pending (`own_answers`).
-/

namespace Svarla.ModemGateway

open Svarla.Lib

inductive SessionState
  | idle
  | pending
  | active
  deriving DecidableEq, Repr

/-- `Response`. -/
structure UssdResponse where
  text : String
  sessionActive : Bool
  deriving DecidableEq, Repr

/-- `cusdResult`; an error by its text. -/
abbrev CusdResult := Except String UssdResponse

/-- How a request ends. -/
inductive UssdOutcome
  /-- With a response, by its number. -/
  | answer (response : Nat)
  | noSession
  | commandFailed
  | timeout
  deriving DecidableEq, Repr

inductive UssdPhase
  /-- The command was sent. -/
  | command
  /-- The request waits for its answer or its timer, at a channel. -/
  | waiting (channel : Nat)
  /-- The timer has fired. -/
  | expired
  | done (outcome : UssdOutcome)
  deriving DecidableEq, Repr

/-- `Manager`, with the requests there were, whose channels have their numbers. -/
structure UssdManager where
  state : SessionState
  callActive : Bool
  responseCh : Option Nat
  requests : List UssdPhase
  /-- What is in the channels. -/
  channels : List (Option Nat)
  /-- The responses that were handled, each with the request that was pending. -/
  handled : List (Option Nat × CusdResult)
  /-- The responses that are to be put in a channel. -/
  deliveries : List (Nat × Nat)
  /-- The request that was started last, as long as nothing has ended it. -/
  pending : Option Nat
  /-- The requests whose failure or timeout changed the state of a later session. -/
  disturbing : List Nat
  deriving DecidableEq

inductive UssdEvent
  | setCallActive (active : Bool)
  /-- `Execute` and `SendInput`, up to the command. -/
  | execute
  | sendInput
  /-- `Cancel`. -/
  | cancel
  /-- The command of a request returns, and the request reads the channel of the manager. -/
  | commandReturns (request : Nat)
  | commandFails (request : Nat)
  /-- The request gets the answer from its channel. -/
  | receive (request : Nat)
  | timer (request : Nat)
  /-- What the request does after its timer. -/
  | expire (request : Nat)
  /-- `handleCUSD`, up to the delivery, of a response that is parsed into a status and a text or not. -/
  | handleCUSD (info : Except String (Nat × String))
  | deliver (channel response : Nat)
  deriving DecidableEq

/-- What the handler makes of a response. -/
def cusdResult : Except String (Nat × String) → CusdResult
  | .error err => .error ("ussd: failed to parse response: " ++ err)
  | .ok (status, text) =>
    match status with
    | 0 => .ok ⟨text, false⟩
    | 1 => .ok ⟨text, true⟩
    | 2 => .ok ⟨text, false⟩
    | 4 => .error "ussd: operation not supported by network"
    | 5 => .error "ussd: network timeout"
    | _ => .error ("ussd: unexpected status " ++ toString status)

namespace UssdManager

def init : UssdManager := ⟨.idle, false, none, [], [], [], [], none, []⟩

/-- A new request, with a channel. -/
def start (s : UssdManager) : UssdManager :=
  { s with
    state := .pending
    responseCh := some s.requests.length
    requests := s.requests ++ [.command]
    channels := s.channels ++ [none]
    pending := some s.requests.length }

def setPhase (s : UssdManager) (i : Nat) (phase : UssdPhase) : UssdManager :=
  { s with requests := s.requests.set i phase }

/-- The manager is reset by a request that fails or times out. -/
def reset (s : UssdManager) (i : Nat) : UssdManager :=
  { s with
    state := .idle
    responseCh := none
    pending := if s.pending = some i then none else s.pending
    disturbing :=
      if i + 1 < s.requests.length ∧ ¬ (s.state = .idle ∧ s.responseCh = none) then s.disturbing ++ [i]
      else s.disturbing }

/-- `handleCUSD`, up to the delivery. -/
def handleCUSD (s : UssdManager) (info : Except String (Nat × String)) : UssdManager :=
  { s with
    state :=
      match info with
      | .error _ => if s.responseCh = none then s.state else .idle
      | .ok (status, _) => if status = 1 then .active else .idle
    responseCh := none
    pending := none
    handled := s.handled ++ [(s.pending, cusdResult info)]
    deliveries := s.deliveries ++ (s.responseCh.map fun channel => (channel, s.handled.length)).toList }

def step (s : UssdManager) : UssdEvent → Option UssdManager
  | .setCallActive active => some { s with callActive := active }
  | .execute => if s.callActive = false ∧ s.state = .idle then some s.start else some s
  | .sendInput => if s.callActive = false ∧ s.state = .active then some s.start else some s
  | .cancel =>
    if s.state = .idle then some s
    else some { s with state := .idle, responseCh := none, pending := none }
  | .commandReturns i =>
    if s.requests[i]? = some .command then
      match s.responseCh with
      | none => some (s.setPhase i (UssdPhase.done .noSession))
      | some channel => some (s.setPhase i (.waiting channel))
    else none
  | .commandFails i =>
    if s.requests[i]? = some .command then
      some ((s.reset i).setPhase i (UssdPhase.done .commandFailed))
    else none
  | .receive i =>
    match s.requests[i]? with
    | some (.waiting channel) =>
      match s.channels[channel]? with
      | some (some response) =>
        some { s.setPhase i (UssdPhase.done (.answer response)) with
          channels := s.channels.set channel none }
      | _ => none
    | _ => none
  | .timer i =>
    match s.requests[i]? with
    | some (.waiting _) => some (s.setPhase i .expired)
    | _ => none
  | .expire i =>
    if s.requests[i]? = some .expired then
      some ((s.reset i).setPhase i (UssdPhase.done .timeout))
    else none
  | .handleCUSD info => some (s.handleCUSD info)
  | .deliver channel response =>
    if (channel, response) ∈ s.deliveries ∧ s.channels[channel]? = some none then
      some { s with
        channels := s.channels.set channel (some response)
        deliveries := s.deliveries.erase (channel, response) }
    else none

/-- The request returns the response, or does so when it goes on. -/
def Returns (s : UssdManager) (i response : Nat) : Prop :=
  ∃ events, (∀ e ∈ events, e = UssdEvent.deliver i response ∨ e = .receive i) ∧
    ∃ t, exec step s events = some t ∧ t.requests[i]? = some (UssdPhase.done (.answer response))

/-- Every response is returned by the request that was pending, and by no other one, and no session is
changed by an earlier request. -/
structure OwnAnswers (s : UssdManager) : Prop where
  own : ∀ (n i : Nat) result, s.handled[n]? = some (some i, result) → s.Returns i n
  once : ∀ n (i j : Nat), s.requests[i]? = some (UssdPhase.done (.answer n)) →
    s.requests[j]? = some (UssdPhase.done (.answer n)) → i = j
  apart : s.disturbing = []

/-! ## The condition -/

/-- A response is handled when the pending request waits for it; a request reads its own channel; the
timer does not fire when an answer has come; and a request that fails or times out is the last one, or
finds the manager idle. -/
def Orderly (s : UssdManager) : UssdEvent → Prop
  | .handleCUSD _ => ∀ i ∈ s.pending, s.requests[i]? = some (.waiting i)
  | .commandReturns i => ∀ channel ∈ s.responseCh, channel = i
  | .commandFails i => i + 1 = s.requests.length ∨ s.state = .idle ∧ s.responseCh = none
  | .expire i => i + 1 = s.requests.length ∨ s.state = .idle ∧ s.responseCh = none
  | .timer i => s.channels[i]? = some none ∧ ∀ d ∈ s.deliveries, d.1 ≠ i
  | .setCallActive _ => True
  | .execute => True
  | .sendInput => True
  | .cancel => True
  | .receive _ => True
  | .deliver _ _ => True

instance (s : UssdManager) : (e : UssdEvent) → Decidable (s.Orderly e)
  | .handleCUSD _ => inferInstanceAs (Decidable (∀ i ∈ s.pending, s.requests[i]? = some (.waiting i)))
  | .commandReturns i => inferInstanceAs (Decidable (∀ channel ∈ s.responseCh, channel = i))
  | .commandFails i => inferInstanceAs (Decidable
      (i + 1 = s.requests.length ∨ s.state = .idle ∧ s.responseCh = none))
  | .expire i => inferInstanceAs (Decidable
      (i + 1 = s.requests.length ∨ s.state = .idle ∧ s.responseCh = none))
  | .timer i => inferInstanceAs (Decidable (s.channels[i]? = some none ∧ ∀ d ∈ s.deliveries, d.1 ≠ i))
  | .setCallActive _ => .isTrue trivial
  | .execute => .isTrue trivial
  | .sendInput => .isTrue trivial
  | .cancel => .isTrue trivial
  | .receive _ => .isTrue trivial
  | .deliver _ _ => .isTrue trivial

/-! ## What every state keeps -/

/-- A response is on its way to the request, or there. -/
def Answered (s : UssdManager) (i response : Nat) : Prop :=
  s.requests[i]? = some (.done (.answer response)) ∨ s.requests[i]? = some (.waiting i) ∧
    ((i, response) ∈ s.deliveries ∧ s.channels[i]? = some none ∨ s.channels[i]? = some (some response))

/-- The manager's channel is that of the pending request, which is the last one and has no response yet;
what is in a channel or was returned is the response of the channel's request, which has one at most. -/
structure Sound (s : UssdManager) : Prop where
  length : s.channels.length = s.requests.length
  responseCh : s.responseCh = s.pending
  last : ∀ i ∈ s.pending, i + 1 = s.requests.length
  empty : ∀ i ∈ s.pending, s.channels[i]? = some none ∧
    ∀ (n : Nat) result, s.handled[n]? ≠ some (some i, result)
  waiting : ∀ (i : Nat) channel, s.requests[i]? = some (.waiting channel) → channel = i
  own : ∀ (n i : Nat) result, s.handled[n]? = some (some i, result) → s.Answered i n
  delivery : ∀ d ∈ s.deliveries, ∃ result, s.handled[d.2]? = some (some d.1, result)
  channel : ∀ (i n : Nat), s.channels[i]? = some (some n) → ∃ result, s.handled[n]? = some (some i, result)
  returned : ∀ (i : Nat) n, s.requests[i]? = some (.done (.answer n)) →
    ∃ result, s.handled[n]? = some (some i, result)
  unique : ∀ (n n' i : Nat) result result', s.handled[n]? = some (some i, result) →
    s.handled[n']? = some (some i, result') → n = n'
  apart : s.disturbing = []

variable {s : UssdManager}

theorem Sound.returns (h : s.Sound) {n i : Nat} {result : CusdResult}
    (hn : s.handled[n]? = some (some i, result)) : s.Returns i n := by
  have hreceive : ∀ u : UssdManager, u.requests[i]? = some (.waiting i) → u.channels[i]? = some (some n) →
      ∃ t, exec step u [.receive i] = some t ∧ t.requests[i]? = some (.done (.answer n)) := by
    intro u hw hc
    refine ⟨{ u.setPhase i (.done (.answer n)) with channels := u.channels.set i none }, ?_, ?_⟩
    · simp only [exec_cons, step, hw, hc, Option.bind_some, exec_nil]
    · exact List.getElem?_set_self (List.getElem?_eq_some_iff.mp hw).1
  obtain hdone | ⟨hw, ⟨hd, hc⟩ | hc⟩ := h.own n i result hn
  · exact ⟨[], nofun, s, rfl, hdone⟩
  · -- the response is put in the channel first
    have hi := (List.getElem?_eq_some_iff.mp hc).1
    obtain ⟨t, ht, hdone⟩ := hreceive { s with
      channels := s.channels.set i (some n)
      deliveries := s.deliveries.erase (i, n) } hw (List.getElem?_set_self hi)
    refine ⟨[.deliver i n, .receive i], by simp, t, ?_, hdone⟩
    rw [exec_cons, step, if_pos ⟨hd, hc⟩]
    exact ht
  · obtain ⟨t, ht, hdone⟩ := hreceive s hw hc
    exact ⟨[.receive i], by simp, t, ht, hdone⟩

theorem Sound.ownAnswers (h : s.Sound) : s.OwnAnswers where
  own _ _ _ := h.returns
  once n i j hi hj := by
    obtain ⟨_, hni⟩ := h.returned i n hi
    obtain ⟨_, hnj⟩ := h.returned j n hj
    cases hni.symm.trans hnj
    rfl
  apart := h.apart

theorem getElem?_concat {α : Type*} {l : List α} {a b : α} {i : Nat} :
    (l ++ [a])[i]? = some b ↔ l[i]? = some b ∨ i = l.length ∧ a = b := by
  rw [List.getElem?_append]
  split
  · next hi => exact ⟨.inl, fun h => h.resolve_right fun h' => absurd h'.1 (Nat.ne_of_lt hi)⟩
  · next hi =>
    rw [List.getElem?_eq_none (l := l) (by omega)]
    match hk : i - l.length with
    | 0 => simp [show i = l.length by omega]
    | k + 1 => simp; omega

/-! ## The operations -/

/-- A request is started. -/
theorem Sound.start (h : s.Sound) : s.start.Sound := by
  have hold : ∀ (n i : Nat) result, s.handled[n]? = some (some i, result) → i < s.requests.length := by
    intro n i result hn
    obtain hd | ⟨hw, -⟩ := h.own n i result hn
    · exact (List.getElem?_eq_some_iff.mp hd).1
    · exact (List.getElem?_eq_some_iff.mp hw).1
  refine {
    length := by simp [UssdManager.start, h.length]
    responseCh := rfl
    last := fun i hi => ?_
    empty := fun i hi => ?_
    waiting := fun i channel hw => ?_
    own := fun n i result hn => ?_
    delivery := h.delivery
    channel := fun i n hc => ?_
    returned := fun i n hd => ?_
    unique := h.unique
    apart := h.apart }
  · cases hi
    simp [UssdManager.start]
  · cases hi
    refine ⟨getElem?_concat.mpr (.inr ⟨h.length.symm, rfl⟩), fun n result hn => ?_⟩
    exact Nat.lt_irrefl _ (hold n _ result hn)
  · obtain hw | ⟨-, hw⟩ := getElem?_concat.mp hw
    · exact h.waiting i channel hw
    · cases hw
  · obtain hd | ⟨hw, hway⟩ := h.own n i result hn
    · exact .inl (getElem?_concat.mpr (.inl hd))
    · refine .inr ⟨getElem?_concat.mpr (.inl hw), ?_⟩
      obtain ⟨hd, hc⟩ | hc := hway
      · exact .inl ⟨hd, getElem?_concat.mpr (.inl hc)⟩
      · exact .inr (getElem?_concat.mpr (.inl hc))
  · obtain hc | ⟨-, hc⟩ := getElem?_concat.mp hc
    · exact h.channel i n hc
    · cases hc
  · obtain hd | ⟨-, hd⟩ := getElem?_concat.mp hd
    · exact h.returned i n hd
    · cases hd

/-- A request goes on that has no response. -/
theorem Sound.setPhase (h : s.Sound) {i : Nat} {phase : UssdPhase}
    (hnone : ∀ (n : Nat) result, s.handled[n]? ≠ some (some i, result))
    (hwaiting : ∀ channel, phase = .waiting channel → channel = i)
    (hanswer : ∀ n, phase ≠ .done (.answer n)) : (s.setPhase i phase).Sound := by
  have hset : ∀ j p, (s.requests.set i phase)[j]? = some p →
      s.requests[j]? = some p ∨ j = i ∧ phase = p := by
    intro j p hj
    rw [List.getElem?_set] at hj
    split at hj
    · next hij =>
      split at hj
      · cases hj
        exact .inr ⟨hij.symm, rfl⟩
      · cases hj
    · exact .inl hj
  have hkept : ∀ j p, j ≠ i → s.requests[j]? = some p → (s.requests.set i phase)[j]? = some p :=
    fun j p hj hp => by rw [List.getElem?_set_ne (Ne.symm hj), hp]
  refine { h with
    length := by simp [UssdManager.setPhase, h.length]
    last := fun j hj => by simp [UssdManager.setPhase, h.last j hj]
    waiting := fun j channel hw => ?_
    own := fun n j result hn => ?_
    returned := fun j n hd => ?_ }
  · obtain hw' | ⟨rfl, hw'⟩ := hset j _ hw
    · exact h.waiting j channel hw'
    · exact hwaiting channel hw'
  · have hji : j ≠ i := by
      rintro rfl
      exact hnone n result hn
    obtain hd | ⟨hw, hway⟩ := h.own n j result hn
    · exact .inl (hkept j _ hji hd)
    · exact .inr ⟨hkept j _ hji hw, hway⟩
  · obtain hd | ⟨-, hd⟩ := hset j _ hd
    · exact h.returned j n hd
    · exact absurd hd (hanswer n)

/-- The last request resets the manager, or another one an idle manager. -/
theorem Sound.reset (h : s.Sound) {i : Nat}
    (hlast : i + 1 = s.requests.length ∨ s.state = .idle ∧ s.responseCh = none) : (s.reset i).Sound := by
  have hpending : (if s.pending = some i then none else s.pending) = none := by
    split
    · rfl
    · next hne =>
      match hp : s.pending with
      | none => rfl
      | some j =>
        obtain hlast | ⟨-, hnone⟩ := hlast
        · have hj := h.last j hp
          exact absurd (hp.trans (congrArg some (by omega))) hne
        · rw [h.responseCh, hp] at hnone
          cases hnone
  have hdisturbing : ¬ (i + 1 < s.requests.length ∧ ¬ (s.state = .idle ∧ s.responseCh = none)) := by
    rintro ⟨hlt, hbusy⟩
    exact hlast.elim (Nat.ne_of_lt hlt) hbusy
  have hno : ∀ j, j ∉ (s.reset i).pending := by
    intro j hj
    cases hpending.symm.trans hj
  exact { h with
    responseCh := hpending.symm
    last := fun j hj => absurd hj (hno j)
    empty := fun j hj => absurd hj (hno j)
    apart := (if_neg hdisturbing).trans h.apart }

/-- A response is handled, when the pending request waits for it. -/
theorem Sound.handleCUSD (h : s.Sound) (info : Except String (Nat × String))
    (hwaits : ∀ i ∈ s.pending, s.requests[i]? = some (.waiting i)) : (s.handleCUSD info).Sound := by
  have hold : ∀ n x, s.handled[n]? = some x → (s.handleCUSD info).handled[n]? = some x :=
    fun n x hn => getElem?_concat.mpr (.inl hn)
  refine { h with
    responseCh := rfl
    last := nofun
    empty := nofun
    own := fun n i result hn => ?_
    delivery := fun d hd => ?_
    channel := fun i n hc => (h.channel i n hc).imp fun _ => hold n _
    returned := fun i n hd => (h.returned i n hd).imp fun _ => hold n _
    unique := fun n n' i result result' hn hn' => ?_ }
  · obtain hn | ⟨rfl, heq⟩ := getElem?_concat.mp hn
    · obtain hd | ⟨hw, ⟨hd, hc⟩ | hc⟩ := h.own n i result hn
      · exact .inl hd
      · exact .inr ⟨hw, .inl ⟨List.mem_append_left _ hd, hc⟩⟩
      · exact .inr ⟨hw, .inr hc⟩
    · obtain ⟨hp, -⟩ := Prod.mk.inj heq
      refine .inr ⟨hwaits i hp, .inl ⟨List.mem_append_right _ ?_, (h.empty i hp).1⟩⟩
      rw [h.responseCh, hp]
      exact .head _
  · rcases List.mem_append.mp hd with hd | hd
    · exact (h.delivery d hd).imp fun _ => hold d.2 _
    · rw [h.responseCh, Option.mem_toList, Option.map_eq_some_iff] at hd
      obtain ⟨i, hp, rfl⟩ := hd
      exact ⟨_, getElem?_concat.mpr (.inr ⟨rfl, by rw [hp]⟩)⟩
  · obtain hn | ⟨rfl, heq⟩ := getElem?_concat.mp hn
    · obtain hn' | ⟨rfl, heq⟩ := getElem?_concat.mp hn'
      · exact h.unique n n' i result result' hn hn'
      · exact absurd hn ((h.empty i (Prod.mk.inj heq).1).2 n result)
    · obtain hn' | ⟨rfl, -⟩ := getElem?_concat.mp hn'
      · exact absurd hn' ((h.empty i (Prod.mk.inj heq).1).2 n' result')
      · rfl

/-- A response is put in the channel of its request. -/
theorem Sound.deliver (h : s.Sound) {i n : Nat} (hd : (i, n) ∈ s.deliveries)
    (hc : s.channels[i]? = some none) :
    Sound { s with
      channels := s.channels.set i (some n)
      deliveries := s.deliveries.erase (i, n) } := by
  have hi := (List.getElem?_eq_some_iff.mp hc).1
  obtain ⟨result, hn⟩ := h.delivery (i, n) hd
  refine { h with
    length := by simp [h.length]
    empty := fun j hj => ⟨?_, (h.empty j hj).2⟩
    own := fun n' j result' hn' => ?_
    delivery := fun d hd => h.delivery d (List.mem_of_mem_erase hd)
    channel := fun j n' hc' => ?_ }
  · have hji : i ≠ j := by
      rintro rfl
      exact (h.empty i hj).2 n result hn
    rw [List.getElem?_set_ne hji]
    exact (h.empty j hj).1
  · by_cases hji : i = j
    · subst hji
      obtain rfl := h.unique n' n i result' result hn' hn
      obtain hdone | ⟨hw, -⟩ := h.own n' i result' hn'
      · exact .inl hdone
      · exact .inr ⟨hw, .inr (List.getElem?_set_self hi)⟩
    · obtain hdone | ⟨hw, ⟨hd', hc'⟩ | hc'⟩ := h.own n' j result' hn'
      · exact .inl hdone
      · refine .inr ⟨hw, .inl ⟨(List.mem_erase_of_ne ?_).mpr hd', ?_⟩⟩
        · exact fun heq => hji (Prod.mk.inj heq).1.symm
        · rw [List.getElem?_set_ne hji]
          exact hc'
      · exact .inr ⟨hw, .inr (by rw [List.getElem?_set_ne hji]; exact hc')⟩
  · rw [List.getElem?_set] at hc'
    split at hc'
    · next hij =>
      cases hc'
      exact ⟨result, hij ▸ hn⟩
    · exact h.channel j n' hc'

/-- A request gets its answer. -/
theorem Sound.receive (h : s.Sound) {i n : Nat} (hw : s.requests[i]? = some (.waiting i))
    (hc : s.channels[i]? = some (some n)) :
    Sound { s.setPhase i (.done (.answer n)) with channels := s.channels.set i none } := by
  have hi := (List.getElem?_eq_some_iff.mp hw).1
  obtain ⟨result, hn⟩ := h.channel i n hc
  refine { h with
    length := by simp [UssdManager.setPhase, h.length]
    last := fun j hj => by simp [UssdManager.setPhase, h.last j hj]
    empty := fun j hj => ⟨?_, (h.empty j hj).2⟩
    waiting := fun j channel hj => ?_
    own := fun n' j result' hn' => ?_
    channel := fun j n' hj => ?_
    returned := fun j n' hj => ?_ }
  · have hji : i ≠ j := by
      rintro rfl
      exact (h.empty i hj).2 n result hn
    rw [List.getElem?_set_ne hji]
    exact (h.empty j hj).1
  · simp only [UssdManager.setPhase, List.getElem?_set] at hj
    split at hj
    · cases hj
    · exact h.waiting j channel hj
  · by_cases hji : i = j
    · subst hji
      obtain rfl := h.unique n' n i result' result hn' hn
      exact .inl (List.getElem?_set_self hi)
    · obtain hdone | ⟨hw', hway⟩ := h.own n' j result' hn'
      · exact .inl (by simp only [UssdManager.setPhase]; rw [List.getElem?_set_ne hji]; exact hdone)
      · refine .inr ⟨by simp only [UssdManager.setPhase]; rw [List.getElem?_set_ne hji]; exact hw', ?_⟩
        simp only [UssdManager.setPhase]
        rw [List.getElem?_set_ne hji]
        exact hway
  · rw [List.getElem?_set] at hj
    split at hj
    · split at hj <;> cases hj
    · exact h.channel j n' hj
  · simp only [UssdManager.setPhase, List.getElem?_set] at hj
    split at hj
    · next hij =>
      cases hj
      exact ⟨result, hij ▸ hn⟩
    · exact h.returned j n' hj

/-- A request whose command or timer runs has no response. -/
theorem Sound.unanswered (h : s.Sound) {i : Nat} {phase : UssdPhase} (hi : s.requests[i]? = some phase)
    (hphase : phase = .command ∨ phase = .expired) (n : Nat) (result : CusdResult) :
    s.handled[n]? ≠ some (some i, result) := by
  intro hn
  obtain hd | ⟨hw, -⟩ := h.own n i result hn
  · cases hi.symm.trans hd
    obtain hphase | hphase := hphase <;> cases hphase
  · cases hi.symm.trans hw
    obtain hphase | hphase := hphase <;> cases hphase

/-- **Every step.** -/
theorem Sound.step (h : s.Sound) {e : UssdEvent} (horderly : s.Orderly e) {t : UssdManager}
    (hstep : s.step e = some t) : t.Sound := by
  match e with
  | .setCallActive active =>
    cases hstep
    exact { h with }
  | .execute =>
    simp only [UssdManager.step] at hstep
    split at hstep
    · cases hstep
      exact h.start
    · cases hstep
      exact h
  | .sendInput =>
    simp only [UssdManager.step] at hstep
    split at hstep
    · cases hstep
      exact h.start
    · cases hstep
      exact h
  | .cancel =>
    simp only [UssdManager.step] at hstep
    split at hstep
    · cases hstep
      exact h
    · cases hstep
      exact { h with responseCh := rfl, last := nofun, empty := nofun }
  | .commandReturns i =>
    simp only [UssdManager.step] at hstep
    split at hstep
    · next hi =>
      have hnone := h.unanswered hi (.inl rfl)
      split at hstep
      · cases hstep
        exact h.setPhase hnone nofun nofun
      · next channel hchannel =>
        cases hstep
        refine h.setPhase hnone (fun channel' heq => ?_) nofun
        cases heq
        exact horderly channel hchannel
    · cases hstep
  | .commandFails i =>
    simp only [UssdManager.step] at hstep
    split at hstep
    · next hi =>
      cases hstep
      exact (h.reset horderly).setPhase (h.unanswered hi (.inl rfl)) nofun nofun
    · cases hstep
  | .expire i =>
    simp only [UssdManager.step] at hstep
    split at hstep
    · next hi =>
      cases hstep
      exact (h.reset horderly).setPhase (h.unanswered hi (.inr rfl)) nofun nofun
    · cases hstep
  | .receive i =>
    simp only [UssdManager.step] at hstep
    split at hstep
    · next channel hw =>
      obtain rfl := h.waiting i channel hw
      split at hstep
      · next response hc =>
        cases hstep
        exact h.receive hw hc
      · cases hstep
    · cases hstep
  | .timer i =>
    simp only [UssdManager.step] at hstep
    split at hstep
    · next channel hw =>
      cases hstep
      obtain ⟨hempty, hdeliveries⟩ := horderly
      refine h.setPhase (fun n result hn => ?_) nofun nofun
      -- a response would be on its way
      obtain hd | ⟨-, ⟨hd, -⟩ | hc⟩ := h.own n i result hn
      · cases hw.symm.trans hd
      · exact hdeliveries (i, n) hd rfl
      · cases hempty.symm.trans hc
    · cases hstep
  | .handleCUSD info =>
    cases hstep
    exact h.handleCUSD info horderly
  | .deliver i n =>
    simp only [UssdManager.step] at hstep
    split at hstep
    · next hok =>
      cases hstep
      exact h.deliver hok.1 hok.2
    · cases hstep

/-- **USSD requests get their own answers** in every orderly run. -/
theorem own_answers {events : List UssdEvent} (horderly : Guarded step Orderly init events)
    {s : UssdManager} (hrun : exec step init events = some s) : s.OwnAnswers := by
  have hinit : init.Sound := by
    refine ⟨rfl, rfl, nofun, nofun, nofun, nofun, nofun, nofun, nofun, nofun, rfl⟩
  exact (horderly.invariant (fun s e t hs hg ht => hs.step hg ht) hinit hrun).ownAnswers

/-- A menu, an input, and the end of the session. -/
def menu : List UssdEvent :=
  [.execute, .commandReturns 0, .handleCUSD (.ok (1, "1. Saldo")), .deliver 0 0, .receive 0,
    .sendInput, .commandReturns 1, .handleCUSD (.ok (0, "100 kr")), .deliver 1 1]

theorem own_answers_menu : ∃ s, exec step init menu = some s ∧ s.OwnAnswers :=
  ⟨_, rfl, own_answers (show Guarded step Orderly init menu by decide +kernel) rfl⟩

/-- **A response that comes early is lost.** The network answers before the command has returned: the
request finds no channel, and ends without a session. -/
theorem answer_lost : ∃ s, exec step init [.execute, .handleCUSD (.ok (0, "100 kr")), .deliver 0 0,
    .commandReturns 0] = some s ∧ s.requests = [.done .noSession] ∧ ¬ s.OwnAnswers := by
  refine ⟨_, rfl, rfl, fun h => ?_⟩
  obtain ⟨events, hevents, t, ht, hdone⟩ := h.own 0 0 _ rfl
  -- the request has ended, and nothing that it could do is possible
  match events with
  | [] =>
    cases ht
    cases hdone
  | e :: events =>
    obtain rfl | rfl := hevents e (.head _)
    · cases ht
    · cases ht

end UssdManager

end Svarla.ModemGateway
