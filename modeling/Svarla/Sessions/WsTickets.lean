import Mathlib
import Svarla.Lib.Map
import Svarla.Lib.Run

/-!
# The tickets for WebSockets

`WsTicketService`: a client with a session asks for a ticket, and opens its socket with the ticket in place of
the session's token. The map keeps tickets that have expired until they are cleaned up; what it is for is said
by the history of the tickets alone (`standing`): a ticket stands for a session from its issue to its first
use, for half a minute at most.
-/

namespace Svarla.Sessions

open Svarla.Lib

structure WsTicket where
  sessionToken : String
  deviceId : String
  createdAt : Nat
  deriving DecidableEq, Repr

/-- `TICKET_TTL_MS`. -/
def ticketTtl : Nat := 30000

/-- `MAX_TICKETS`. -/
def maxTickets : Nat := 1000

/-- The ticket has not expired. -/
def WsTicket.fresh (now : Nat) (entry : WsTicket) : Bool := decide (now ≤ entry.createdAt + ticketTtl)

/-- What happened to the tickets. -/
inductive TicketEntry
  | issued (ticket : String) (entry : WsTicket)
  | consumed (ticket : String)
  | destroyed
  deriving DecidableEq, Repr

/-- The service, with the clock, and the history with the newest first. -/
structure WsTickets where
  now : Nat
  tickets : Map String WsTicket
  history : List TicketEntry

inductive TicketEvent
  | tick (milliseconds : Nat)
  /-- A ticket is asked for; its text is drawn at random. -/
  | issueTicket (sessionToken deviceId random : String)
  | consumeTicket (ticket : String)
  /-- The interval. -/
  | cleanup
  | destroy
  deriving DecidableEq, Repr

namespace WsTickets

def init : WsTickets := ⟨0, ∅, []⟩

/-- The `size` of the map. -/
def size (s : WsTickets) : Nat := s.tickets.entries.length

/-- `cleanup`. -/
def cleanup (s : WsTickets) : WsTickets := { s with tickets := s.tickets.keep fun _ entry => entry.fresh s.now }

/-- `issueTicket`: there is no ticket where it throws. -/
def issueTicket (s : WsTickets) (sessionToken deviceId random : String) : WsTickets × Option String :=
  let s := if maxTickets ≤ s.size then s.cleanup else s
  if maxTickets ≤ s.size then (s, none)
  else
    let entry := ⟨sessionToken, deviceId, s.now⟩
    ({ s with
      tickets := s.tickets.insert random entry
      history := .issued random entry :: s.history }, some random)

/-- `consumeTicket`. -/
def consumeTicket (s : WsTickets) (ticket : String) : WsTickets × Option (String × String) :=
  match s.tickets.lookup ticket with
  | none => (s, none)
  | some entry =>
    let s := { s with tickets := s.tickets.erase ticket, history := .consumed ticket :: s.history }
    if entry.fresh s.now then (s, some (entry.sessionToken, entry.deviceId)) else (s, none)

/-- `destroy`. -/
def destroy (s : WsTickets) : WsTickets := { s with tickets := ∅, history := .destroyed :: s.history }

def step (s : WsTickets) : TicketEvent → Option WsTickets
  | .tick milliseconds => some { s with now := s.now + milliseconds }
  | .issueTicket sessionToken deviceId random => some (s.issueTicket sessionToken deviceId random).1
  | .consumeTicket ticket => some (s.consumeTicket ticket).1
  | .cleanup => some s.cleanup
  | .destroy => some s.destroy

/-! ## The history -/

/-- What a ticket stands for: it was issued, and was not used since. -/
def standing : List TicketEntry → String → Option WsTicket
  | [], _ => none
  | .issued t entry :: history, ticket => if t = ticket then some entry else standing history ticket
  | .consumed t :: history, ticket => if t = ticket then none else standing history ticket
  | .destroyed :: _, _ => none

/-- What a ticket is good for. -/
def live (s : WsTickets) (ticket : String) : Option WsTicket :=
  (standing s.history ticket).filter (·.fresh s.now)

/-- The tickets that were issued. -/
def issuedTickets : List TicketEntry → List String
  | [] => []
  | .issued ticket _ :: history => ticket :: issuedTickets history
  | _ :: history => issuedTickets history

/-- The tickets that are good for something. -/
def liveTickets (s : WsTickets) : List String :=
  (issuedTickets s.history).dedup.filter fun ticket => (s.live ticket).isSome

variable {s t : WsTickets}

theorem mem_issued_of_standing {history : List TicketEntry} {ticket : String} {entry : WsTicket}
    (h : standing history ticket = some entry) : ticket ∈ issuedTickets history := by
  induction history with
  | nil => cases h
  | cons e history ih =>
    cases e with
    | issued t entry' =>
      rw [standing] at h
      split at h
      · next heq => exact heq ▸ List.mem_cons_self
      · exact List.mem_cons_of_mem _ (ih h)
    | consumed t =>
      rw [standing] at h
      split at h
      · cases h
      · exact ih h
    | destroyed => cases h

theorem mem_liveTickets {ticket : String} : ticket ∈ s.liveTickets ↔ (s.live ticket).isSome = true := by
  rw [liveTickets, List.mem_filter, List.mem_dedup, and_iff_right_iff_imp]
  intro h
  obtain ⟨entry, hentry⟩ := Option.isSome_iff_exists.mp h
  exact mem_issued_of_standing (Option.filter_eq_some_iff.mp hentry).1

/-! ## What stays -/

/-- The map has what the history says, but for tickets that have expired, and is not too large. -/
structure Sound (s : WsTickets) : Prop where
  agrees : ∀ ticket, (s.tickets.lookup ticket).filter (·.fresh s.now) = s.live ticket
  bounded : s.size ≤ maxTickets

theorem filter_fresh_later {now later : Nat} (h : now ≤ later) (entry : Option WsTicket) :
    (entry.filter (·.fresh now)).filter (·.fresh later) = entry.filter (·.fresh later) := by
  cases entry with
  | none => rfl
  | some entry =>
    by_cases hnow : entry.fresh now = true
    · rw [Option.filter_some_pos hnow]
    · have hlater : ¬ entry.fresh later = true := by
        simp only [WsTicket.fresh, decide_eq_true_eq] at hnow ⊢
        omega
      rw [Option.filter_some_neg (Bool.eq_false_iff.mpr hnow), Option.filter_some_neg (Bool.eq_false_iff.mpr hlater)]
      rfl

theorem Sound.cleanup (h : s.Sound) : s.cleanup.Sound where
  agrees ticket := by
    rw [WsTickets.cleanup, Map.lookup_keep, filter_fresh_later le_rfl]
    exact h.agrees ticket
  bounded := (List.length_filter_le _ _).trans h.bounded

/-- The tickets that a cleanup leaves are those that are good for something. -/
theorem Sound.size_cleanup (h : s.Sound) : s.cleanup.size = s.liveTickets.length := by
  have hkeys : s.cleanup.tickets.keys.Nodup := s.cleanup.tickets.keys_nodup
  have hlive : s.liveTickets.Nodup := (List.nodup_dedup _).filter _
  have hperm : s.cleanup.tickets.keys.Perm s.liveTickets := by
    refine (List.perm_ext_iff_of_nodup hkeys hlive).mpr fun ticket => ?_
    rw [← AList.mem_keys, ← AList.lookup_isSome, mem_liveTickets, WsTickets.cleanup, Map.lookup_keep,
      h.agrees]
  rw [← hperm.length_eq]
  exact (List.length_map _).symm

theorem Sound.size_le (h : s.Sound) : s.liveTickets.length ≤ s.size := by
  rw [← h.size_cleanup]
  exact List.length_filter_le _ _

/-- `issueTicket` throws just where as many tickets as there may be are good for something. -/
theorem Sound.issueTicket_cases (h : s.Sound) (sessionToken deviceId random : String) :
    (maxTickets ≤ s.liveTickets.length ∧
      s.issueTicket sessionToken deviceId random = (s.cleanup, none)) ∨
    s.liveTickets.length < maxTickets ∧ ∃ u : WsTickets, u.Sound ∧ u.now = s.now ∧
      u.history = s.history ∧ u.size < maxTickets ∧
      s.issueTicket sessionToken deviceId random =
        ({ u with
          tickets := u.tickets.insert random ⟨sessionToken, deviceId, u.now⟩
          history := .issued random ⟨sessionToken, deviceId, u.now⟩ :: u.history }, some random) := by
  unfold issueTicket
  by_cases hfull : maxTickets ≤ s.size
  · simp only [if_pos hfull, h.size_cleanup]
    by_cases hlive : maxTickets ≤ s.liveTickets.length
    · exact .inl ⟨hlive, by rw [if_pos hlive]⟩
    · refine .inr ⟨Nat.lt_of_not_le hlive, s.cleanup, h.cleanup, rfl, rfl, ?_, by rw [if_neg hlive]⟩
      rw [h.size_cleanup]
      exact Nat.lt_of_not_le hlive
  · have hsmall := Nat.lt_of_not_le hfull
    simp only [if_neg hfull]
    exact .inr ⟨h.size_le.trans_lt hsmall, s, h, rfl, rfl, hsmall, rfl⟩

theorem length_insert_le (m : Map String WsTicket) (ticket : String) (entry : WsTicket) :
    (AList.insert ticket entry m).entries.length ≤ m.entries.length + 1 := by
  rw [AList.entries_insert, List.length_cons]
  exact Nat.succ_le_succ (List.kerase_sublist ticket m.entries).length_le

theorem Sound.issueTicket (h : s.Sound) (sessionToken deviceId random : String) :
    (s.issueTicket sessionToken deviceId random).1.Sound := by
  obtain ⟨-, heq⟩ | ⟨-, u, hu, -, -, hsize, heq⟩ := h.issueTicket_cases sessionToken deviceId random
  · rw [heq]
    exact h.cleanup
  · rw [heq]
    refine ⟨fun ticket => ?_, (length_insert_le _ _ _).trans hsize⟩
    have hagrees := hu.agrees ticket
    simp only [live, standing, Map.lookup_insert] at hagrees ⊢
    by_cases hticket : ticket = random
    · rw [if_pos hticket, if_pos hticket.symm]
    · rw [if_neg hticket, if_neg (Ne.symm hticket)]
      exact hagrees

theorem Sound.consumeTicket (h : s.Sound) (ticket : String) :
    (s.consumeTicket ticket).1.Sound ∧ (s.consumeTicket ticket).2 =
      (s.live ticket).map fun entry => (entry.sessionToken, entry.deviceId) := by
  have hagrees := h.agrees ticket
  unfold WsTickets.consumeTicket
  cases hlookup : s.tickets.lookup ticket with
  | none =>
    rw [hlookup] at hagrees
    rw [← hagrees]
    exact ⟨h, rfl⟩
  | some entry =>
    rw [hlookup] at hagrees
    have hsound : Sound { s with
        tickets := s.tickets.erase ticket
        history := .consumed ticket :: s.history } := by
      refine ⟨fun other => ?_, (List.kerase_sublist ticket _).length_le.trans h.bounded⟩
      have hother := h.agrees other
      simp only [live, standing, Map.lookup_erase] at hother ⊢
      by_cases heq : other = ticket
      · rw [if_pos heq, if_pos heq.symm]
      · rw [if_neg heq, if_neg (Ne.symm heq)]
        exact hother
    by_cases hfresh : entry.fresh s.now = true
    · rw [← hagrees, Option.filter_some_pos hfresh]
      simp only [if_pos hfresh]
      exact ⟨hsound, rfl⟩
    · rw [← hagrees, Option.filter_some_neg (Bool.eq_false_iff.mpr hfresh)]
      simp only [if_neg hfresh]
      exact ⟨hsound, rfl⟩

theorem Sound.step (h : s.Sound) {e : TicketEvent} (hstep : s.step e = some t) : t.Sound := by
  cases e with
  | tick milliseconds =>
    cases hstep
    refine ⟨fun ticket => ?_, h.bounded⟩
    have hlater : s.now ≤ s.now + milliseconds := Nat.le_add_right _ _
    rw [live, ← filter_fresh_later hlater, ← filter_fresh_later hlater (standing _ _)]
    exact congrArg _ (h.agrees ticket)
  | issueTicket sessionToken deviceId random =>
    cases hstep
    exact h.issueTicket ..
  | consumeTicket ticket =>
    cases hstep
    exact (h.consumeTicket ticket).1
  | cleanup =>
    cases hstep
    exact h.cleanup
  | destroy =>
    cases hstep
    exact ⟨fun _ => rfl, Nat.zero_le _⟩

/-- **A ticket is good for one socket, for half a minute**: in every run a use of a ticket gives what it was
issued for, if it was issued at most `ticketTtl` ago and was not used since, and nothing else; a ticket is
refused just where `maxTickets` of them are good for something; and the map never has more than that. -/
theorem tickets_stand {events : List TicketEvent} (hrun : exec WsTickets.step init events = some s) :
    (∀ ticket, (s.consumeTicket ticket).2 = ((standing s.history ticket).filter (·.fresh s.now)).map
      fun entry => (entry.sessionToken, entry.deviceId)) ∧
    (∀ sessionToken deviceId random, (s.issueTicket sessionToken deviceId random).2 =
      if maxTickets ≤ s.liveTickets.length then none else some random) ∧
    s.size ≤ maxTickets := by
  have h : s.Sound := exec_invariant (fun _ _ _ h hstep => h.step hstep)
    ⟨fun _ => rfl, Nat.zero_le _⟩ hrun
  refine ⟨fun ticket => (h.consumeTicket ticket).2, fun sessionToken deviceId random => ?_, h.bounded⟩
  obtain ⟨hfull, heq⟩ | ⟨hroom, u, -, -, -, -, heq⟩ := h.issueTicket_cases sessionToken deviceId random
  · rw [heq, if_pos hfull]
  · rw [heq, if_neg (Nat.not_le.mpr hroom)]

/-- A ticket is used a second time. -/
theorem tickets_stand_usedUp : ∃ s, exec WsTickets.step init
    [.issueTicket "token" "device" "a1", .tick 30000, .consumeTicket "a1"] = some s ∧
      (s.consumeTicket "a1").2 = none := by
  have hsome : (exec WsTickets.step init
      [.issueTicket "token" "device" "a1", .tick 30000, .consumeTicket "a1"]).map (fun s =>
        decide (standing s.history "a1" = none)) = some true := by decide +kernel
  obtain ⟨s, hrun, hnone⟩ := Option.map_eq_some_iff.mp hsome
  refine ⟨s, hrun, ?_⟩
  rw [(tickets_stand hrun).1, of_decide_eq_true hnone]
  rfl

end WsTickets

end Svarla.Sessions
