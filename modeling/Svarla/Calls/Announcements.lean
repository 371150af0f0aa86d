import Svarla.Calls.Lifetimes

/-!
# What is announced of a call that has ended

The orchestrator with the table of notifications beside it. `createNotification` looks for a row of the
call and then inserts one; `transitionToMissed` and `markCallResolved` update the rows that are there.
Nobody waits for these statements, and the database executes them in any order.

`handleInbound` announces its call after it has waited for the numbers, whether or not the call is still
there, so that a call may ring after it has ended (`rings_after_end`); and a row that is inserted after
the update that was meant for it stays as it is. In a run where neither happens (`Prompt`) nothing is
announced of a call that has ended (`silent_after_end`).
-/

namespace Svarla.Calls

open Svarla.Lib Orchestrator

/-! ## The notifications of calls -/

inductive NotificationType
  | incomingCall
  | missedCall
  deriving DecidableEq, Repr

inductive NotificationStatus
  | pending
  | read
  deriving DecidableEq, Repr

/-- A row of `notifications`. -/
structure NotificationRow where
  sourceEntityId : String
  type : NotificationType
  status : NotificationStatus
  /-- How much the orchestrator had done when the row was inserted. -/
  insertedAt : Nat
  deriving DecidableEq, Repr

/-- A statement that the database has not executed yet. -/
inductive Query
  -- `createNotification`
  | selectExisting (callId : String)
  | insertIncoming (callId : String)
  | transitionToMissed (callId : String)
  | markCallResolved (callId : String)
  deriving DecidableEq, Repr

/-- The first statement of what the orchestrator asks of the notification service. -/
def Effect.query : Effect → Option Query
  | .createNotification callId _ _ _ => some (.selectExisting callId)
  | .transitionToMissed callId => some (.transitionToMissed callId)
  | .markCallResolved callId => some (.markCallResolved callId)
  | _ => none

/-- The call that a statement is to create a notification for. -/
def Query.creates : Query → Option String
  | .selectExisting callId => some callId
  | .insertIncoming callId => some callId
  | _ => none

/-- The call whose notifications a statement is to resolve. -/
def Query.resolves : Query → Option String
  | .markCallResolved callId => some callId
  | _ => none

/-- The call is told to ring or to be connected, or a notification of it is asked for. -/
def Effect.announces (callId : String) : Effect → Bool
  | .send _ (.callEvent data) =>
    data.callId = callId ∧ (data.status = .ringing ∨ data.status = .connected)
  | .createNotification c _ _ _ => c = callId
  | _ => false

/-- The call is told to be disconnected. -/
def Effect.disconnects (callId : String) : Effect → Bool
  | .send _ (.callEvent data) => data.callId = callId ∧ data.status = .disconnected
  | _ => false

/-- The orchestrator and the table of notifications. -/
structure Notifying where
  calls : Orchestrator
  queries : List Query
  rows : List NotificationRow

inductive NotifyingEvent
  | calls (event : CallsEvent)
  /-- The database executes a statement. -/
  | execute (i : Nat)
  /-- A statement fails, and that is only logged. -/
  | fails (i : Nat)
  deriving DecidableEq, Repr

namespace Notifying

def init : Notifying := ⟨Orchestrator.init, [], []⟩

/-- A statement, and the next one of the same function. -/
def execute (s : Notifying) : Query → List NotificationRow × Option Query
  | .selectExisting callId =>
    if ∃ row ∈ s.rows, row.sourceEntityId = callId ∧ row.type = .incomingCall then (s.rows, none)
    else (s.rows, some (.insertIncoming callId))
  | .insertIncoming callId =>
    (s.rows ++ [⟨callId, .incomingCall, .pending, s.calls.effects.length⟩], none)
  | .transitionToMissed callId =>
    (s.rows.map fun row =>
      if row.sourceEntityId = callId ∧ row.type = .incomingCall then { row with type := .missedCall }
      else row, none)
  | .markCallResolved callId =>
    (s.rows.map fun row =>
      if row.sourceEntityId = callId ∧ row.status = .pending then { row with status := .read }
      else row, none)

/-- The calls have come to `t`, and ask for the statements that are new. -/
def after (s : Notifying) (t : Orchestrator) : Notifying :=
  { s with
    calls := t
    queries := s.queries ++ (t.effects.drop s.calls.effects.length).filterMap Effect.query }

end Notifying

/-- One event. -/
def notifyingStep (s : Notifying) : NotifyingEvent → Option Notifying
  | .calls event => (callsStep s.calls event).map s.after
  | .execute i =>
    s.queries[i]?.map fun query =>
      { s with rows := (s.execute query).1, queries := advance s.queries i (s.execute query).2 }
  | .fails i => s.queries[i]?.map fun _ => { s with queries := advance s.queries i none }

namespace Notifying

/-- A statement is to create a notification of the call. -/
def Creating (s : Notifying) (callId : String) : Prop :=
  ∃ query ∈ s.queries, query.creates = some callId

/-- The call is being answered, or its notification is about to be resolved. -/
def Resolving (s : Notifying) (callId : String) : Prop :=
  (∃ flow ∈ s.calls.flows, flow.answering.map Prod.fst = some callId) ∨
    .markCallResolved callId ∈ s.queries

/-- An `incoming_call` notification of the call is pending. -/
def Pending (s : Notifying) (callId : String) : Prop :=
  ∃ row ∈ s.rows, row.sourceEntityId = callId ∧ row.type = .incomingCall ∧ row.status = .pending

instance (s : Notifying) (callId : String) : Decidable (s.Creating callId) :=
  inferInstanceAs (Decidable (∃ query ∈ s.queries, _))

instance (s : Notifying) (callId : String) : Decidable (s.Resolving callId) :=
  inferInstanceAs (Decidable (_ ∨ _))

/-- Nothing that concerns the notifications of the call is under way. -/
def Settled (s : Notifying) (callId : String) : Prop :=
  ¬ s.Creating callId ∧ ¬ s.Resolving callId ∧ .transitionToMissed callId ∉ s.queries

/-- After a call was told to be disconnected nothing is announced of it, no notification of it is
created, and none is left pending. -/
structure Silent (s : Notifying) : Prop where
  announced : s.calls.effects.Pairwise fun before later =>
    ∀ c, before.disconnects c = true → later.announces c = false
  created : ∀ row ∈ s.rows, ∀ e ∈ s.calls.effects.take row.insertedAt,
    e.disconnects row.sourceEntityId = false
  left : ∀ c, (∃ e ∈ s.calls.effects, e.disconnects c = true) → s.Settled c → ¬ s.Pending c

/-- An inbound call is still there when the numbers have come, and not answered and resolved already;
it ends when its notification has been created, and is resolved then; a request to answer it fails only
while it is there; and no update of the notifications fails. -/
def Prompt (s : Notifying) : NotifyingEvent → Prop
  | .calls event =>
    (∀ c ∈ s.calls.announcing event, ∃ call ∈ s.calls.activeCalls.lookup c,
      call.answered = true → s.Resolving c) ∧
      (∀ c ∈ s.calls.ending event, ¬ s.Creating c) ∧
      ∀ request ∈ s.calls.failing event, s.calls.isActive request.1 = true
  | .execute i => ∀ c ∈ s.queries[i]?.bind Query.resolves, ¬ s.Creating c
  | .fails i => ∀ query ∈ s.queries[i]?, query.creates ≠ none

/-! ## What every prompt run keeps -/

/-- The statements under way and the rows that are pending go with the calls. -/
structure Quiet (s : Notifying) : Prop where
  tracked : s.calls.Tracked
  numbered : ∀ flow ∈ s.calls.flows, ∀ c, flow.tracked = some c →
    ∀ call, s.calls.activeCalls.lookup c = some call → call.direction = .inbound
  creating : ∀ c, s.Creating c → s.calls.isActive c = true
  begun : ∀ c, s.Pending c → s.calls.Begun c
  inbound : ∀ c, s.Creating c ∨ s.Pending c →
    ∀ call, s.calls.activeCalls.lookup c = some call → call.direction = .inbound
  answered : ∀ c call, s.calls.activeCalls.lookup c = some call → call.answered = true →
    s.Creating c ∨ s.Pending c → s.Resolving c
  pending : ∀ c, s.Pending c →
    s.calls.isActive c = true ∨ s.Resolving c ∨ .transitionToMissed c ∈ s.queries
  ended : ∀ c, ∀ e ∈ s.calls.effects, e.disconnects c = true →
    s.calls.Begun c ∧ s.calls.isActive c = false
  inserted : ∀ row ∈ s.rows, row.insertedAt ≤ s.calls.effects.length
  announced : s.calls.effects.Pairwise fun before later =>
    ∀ c, before.disconnects c = true → later.announces c = false
  created : ∀ row ∈ s.rows, ∀ e ∈ s.calls.effects.take row.insertedAt,
    e.disconnects row.sourceEntityId = false

theorem Quiet.silent {s : Notifying} (h : s.Quiet) : s.Silent where
  announced := h.announced
  created := h.created
  left c hended hsettled hpending := by
    obtain ⟨e, he, hdisconnects⟩ := hended
    have hgone := (h.ended c e he hdisconnects).2
    obtain hactive | hresolving | hmissed := h.pending c hpending
    · exact Bool.false_ne_true (hgone.symm.trans hactive)
    · exact hsettled.2.1 hresolving
    · exact hsettled.2.2 hmissed

/-! ### The database -/

/-- A statement leaves the calls alone; a row that is pending was pending before or is just being
created, and what is to become of it is still under way. -/
theorem Quiet.database {s t : Notifying} (h : s.Quiet) (hcalls : t.calls = s.calls)
    (hcreating : ∀ c, t.Creating c → s.Creating c)
    (hpending : ∀ c, t.Pending c → s.Pending c ∨ s.Creating c)
    (hresolved : ∀ c, t.Creating c ∨ t.Pending c → .markCallResolved c ∈ s.queries →
      .markCallResolved c ∈ t.queries)
    (hmissed : ∀ c, t.Pending c → .transitionToMissed c ∈ s.queries →
      .transitionToMissed c ∈ t.queries)
    (hrows : ∀ row ∈ t.rows,
      (∃ old ∈ s.rows, row.sourceEntityId = old.sourceEntityId ∧ row.insertedAt = old.insertedAt) ∨
        row.insertedAt = s.calls.effects.length ∧ s.Creating row.sourceEntityId) : t.Quiet := by
  have hconcerns : ∀ c, t.Creating c ∨ t.Pending c → s.Creating c ∨ s.Pending c := by
    rintro c (hc | hc)
    · exact .inl (hcreating c hc)
    · exact (hpending c hc).symm
  have hresolving : ∀ c, t.Creating c ∨ t.Pending c → s.Resolving c → t.Resolving c := by
    rintro c hc (hflow | hquery)
    · exact .inl (hcalls ▸ hflow)
    · exact .inr (hresolved c hc hquery)
  refine
    { tracked := hcalls ▸ h.tracked, numbered := hcalls ▸ h.numbered
      creating := fun c hc => hcalls ▸ h.creating c (hcreating c hc)
      begun := fun c hc => ?_, inbound := fun c hc => hcalls ▸ h.inbound c (hconcerns c hc)
      answered := fun c call hcall hanswered hc => ?_, pending := fun c hc => ?_
      ended := hcalls ▸ h.ended, inserted := fun row hrow => ?_
      announced := hcalls ▸ h.announced, created := fun row hrow e he => ?_ }
  · rw [hcalls]
    obtain hold | hnew := hpending c hc
    · exact h.begun c hold
    · exact h.tracked.begun_of_active (h.creating c hnew)
  · exact hresolving c hc (h.answered c call (hcalls ▸ hcall) hanswered (hconcerns c hc))
  · rw [hcalls]
    obtain hold | hnew := hpending c hc
    · obtain hactive | hres | hmiss := h.pending c hold
      · exact .inl hactive
      · exact .inr (.inl (hresolving c (.inr hc) hres))
      · exact .inr (.inr (hmissed c hc hmiss))
    · exact .inl (h.creating c hnew)
  · rw [hcalls]
    obtain ⟨old, hold, -, hat⟩ | ⟨hat, -⟩ := hrows row hrow
    · rw [hat]
      exact h.inserted old hold
    · exact hat.le
  · rw [hcalls] at he
    obtain ⟨old, hold, hid, hat⟩ | ⟨hat, hnew⟩ := hrows row hrow
    · rw [hat] at he
      rw [hid]
      exact h.created old hold e he
    · rw [hat, List.take_length] at he
      refine Bool.eq_false_iff.mpr fun hdisconnects => ?_
      have hgone := (h.ended _ e he hdisconnects).2
      exact Bool.false_ne_true (hgone.symm.trans (h.creating _ hnew))

/-- What a statement leaves to create it was itself to create. -/
theorem creating_advance {s t : Notifying} {i : Nat} {query : Query} {next : Option Query}
    (hquery : s.queries[i]? = some query) (hqueries : t.queries = advance s.queries i next)
    (hnext : ∀ q ∈ next, q.creates = query.creates) (c : String) (hc : t.Creating c) :
    s.Creating c := by
  obtain ⟨q, hq, hcreates⟩ := hc
  rw [hqueries] at hq
  obtain hold | hq := mem_advance hq
  · exact ⟨q, hold, hcreates⟩
  · exact ⟨query, List.mem_of_getElem? hquery, (hnext q hq) ▸ hcreates⟩

/-- A row that is pending after an update was pending before, and it is not the call's that the update
is for. -/
theorem pending_of_map (s t : Notifying) (callId : String)
    {f : NotificationRow → NotificationRow} (hrows : t.rows = s.rows.map f)
    (hother : ∀ row, row.sourceEntityId ≠ callId → f row = row)
    (hdone : ∀ row, row.sourceEntityId = callId →
      (f row).sourceEntityId = callId ∧ ((f row).type = .incomingCall → (f row).status ≠ .pending))
    (c : String) (hc : t.Pending c) : c ≠ callId ∧ s.Pending c := by
  obtain ⟨row, hrow, hid, htype, hstatus⟩ := hc
  rw [hrows] at hrow
  obtain ⟨old, hold, rfl⟩ := List.mem_map.mp hrow
  by_cases heq : old.sourceEntityId = callId
  · exact absurd hstatus ((hdone old heq).2 htype)
  · rw [hother old heq] at hid htype hstatus
    exact ⟨hid ▸ heq, old, hold, hid, htype, hstatus⟩

theorem Quiet.execute {s : Notifying} (h : s.Quiet) {i : Nat} {query : Query}
    (hquery : s.queries[i]? = some query)
    (hprompt : ∀ c, query = .markCallResolved c → ¬ s.Creating c) :
    Quiet { s with rows := (s.execute query).1, queries := advance s.queries i (s.execute query).2 } := by
  have hmem := List.mem_of_getElem? hquery
  have hkept : ∀ other ∈ s.queries, other ≠ query →
      other ∈ advance s.queries i (s.execute query).2 :=
    fun other hother hne => mem_advance_of_ne hquery _ hother hne
  have hold : ∀ row ∈ s.rows, (∃ old ∈ s.rows, row.sourceEntityId = old.sourceEntityId ∧
      row.insertedAt = old.insertedAt) ∨
      row.insertedAt = s.calls.effects.length ∧ s.Creating row.sourceEntityId :=
    fun row hrow => .inl ⟨row, hrow, rfl, rfl⟩
  cases query with
  | selectExisting callId =>
    have hnext : ∀ q ∈ (s.execute (.selectExisting callId)).2,
        q.creates = (Query.selectExisting callId).creates := by
      rw [Notifying.execute]
      split
      · exact fun q hq => absurd hq (Option.not_mem_none _)
      · intro q hq
        cases hq
        rfl
    have hrows : (s.execute (.selectExisting callId)).1 = s.rows := by
      rw [Notifying.execute]
      split <;> rfl
    refine h.database rfl (creating_advance hquery rfl hnext) ?_
      (fun c _ hc => hkept _ hc nofun)
      (fun c _ hc => hkept _ hc nofun) ?_
    · rw [hrows]
      exact fun c hc => .inl hc
    · rw [hrows]
      exact hold
  | insertIncoming callId =>
    refine h.database rfl (creating_advance hquery rfl fun q hq => absurd hq (Option.not_mem_none _))
      (fun c hc => ?_) (fun c _ hc => hkept _ hc nofun)
      (fun c _ hc => hkept _ hc nofun) fun row hrow => ?_
    · obtain ⟨row, hrow, hid, hpending⟩ := hc
      obtain hrow | hrow := List.mem_append.mp hrow
      · exact .inl ⟨row, hrow, hid, hpending⟩
      · cases List.mem_singleton.mp hrow
        exact .inr ⟨_, hmem, congrArg some hid⟩
    · obtain hrow | hrow := List.mem_append.mp hrow
      · exact hold row hrow
      · cases List.mem_singleton.mp hrow
        exact .inr ⟨rfl, _, hmem, rfl⟩
  | transitionToMissed callId =>
    have hpending := pending_of_map s
      { s with
        rows := (s.execute (.transitionToMissed callId)).1, queries := advance s.queries i none }
      callId rfl (fun row hne => if_neg fun hboth => hne hboth.1) fun row heq => by
        split
        · exact ⟨heq, nofun⟩
        · next hother => exact ⟨heq, fun htype _ => hother ⟨heq, htype⟩⟩
    refine h.database rfl (creating_advance hquery rfl fun q hq => absurd hq (Option.not_mem_none _))
      (fun c hc => .inl (hpending c hc).2) (fun c _ hc => hkept _ hc nofun)
      (fun c hc hmissed => hkept _ hmissed fun heq => ?_) fun row hrow => ?_
    · exact (hpending c hc).1 (Query.transitionToMissed.inj heq)
    · obtain ⟨old, holdmem, rfl⟩ := List.mem_map.mp hrow
      refine .inl ⟨old, holdmem, ?_, ?_⟩ <;> split <;> rfl
  | markCallResolved callId =>
    have hpending := pending_of_map s
      { s with
        rows := (s.execute (.markCallResolved callId)).1, queries := advance s.queries i none }
      callId rfl (fun row hne => if_neg fun hboth => hne hboth.1) fun row heq => by
        split
        · exact ⟨heq, nofun⟩
        · next hother => exact ⟨heq, fun _ hstatus => hother ⟨heq, hstatus⟩⟩
    have hcreating : ∀ c, Creating { s with
        rows := (s.execute (.markCallResolved callId)).1, queries := advance s.queries i none } c →
        s.Creating c :=
      creating_advance hquery rfl fun q hq => absurd hq (Option.not_mem_none _)
    refine h.database rfl hcreating (fun c hc => .inl (hpending c hc).2)
      (fun c hc hres => hkept _ hres fun heq => ?_)
      (fun c _ hc => hkept _ hc nofun) fun row hrow => ?_
    · obtain hc | hc := hc
      · exact hprompt c heq.symm (hcreating c hc)
      · exact (hpending c hc).1 (Query.markCallResolved.inj heq)
    · obtain ⟨old, holdmem, rfl⟩ := List.mem_map.mp hrow
      refine .inl ⟨old, holdmem, ?_, ?_⟩ <;> split <;> rfl

/-- Only a statement that creates a notification may fail. -/
theorem Quiet.fails {s : Notifying} (h : s.Quiet) {i : Nat} {query : Query}
    (hquery : s.queries[i]? = some query) (hprompt : query.creates ≠ none) :
    Quiet { s with queries := advance s.queries i none } := by
  have hkept : ∀ other ∈ s.queries, other ≠ query → other ∈ advance s.queries i none :=
    fun other hother hne => mem_advance_of_ne hquery _ hother hne
  refine h.database rfl (creating_advance hquery rfl fun q hq => absurd hq (Option.not_mem_none _))
    (fun c hc => .inl hc) (fun c _ hc => hkept _ hc ?_) (fun c _ hc => hkept _ hc ?_)
    fun row hrow => .inl ⟨row, hrow, rfl, rfl⟩ <;>
  · rintro rfl
    exact hprompt rfl

/-! ### The calls -/

theorem mem_queries_after {s : Notifying} {t : Orchestrator} {new : List Effect}
    (hnew : t.effects = s.calls.effects ++ new) (query : Query) :
    query ∈ (s.after t).queries ↔ query ∈ s.queries ∨ ∃ e ∈ new, e.query = some query := by
  rw [after, hnew, List.drop_left, List.mem_append, List.mem_filterMap]

/-- An event that announces a call finds a flow that has tracked it. -/
theorem tracked_of_announcing {s : Orchestrator} {event : CallsEvent} {c : String}
    (h : s.announcing event = some c) : ∃ flow ∈ s.flows, flow.tracked = some c := by
  cases event with
  | resume i reply =>
    cases reply with
    | label label =>
      obtain ⟨flow, hflow, hnumbered⟩ := Option.bind_eq_some_iff.mp h
      refine ⟨flow, List.mem_of_getElem? hflow, ?_⟩
      cases flow <;> cases hnumbered
      rfl
    | _ => cases h
  | _ => cases h

/-- An event that ends a call makes no request fail. -/
theorem failing_of_ending {s : Orchestrator} {event : CallsEvent} {c : String}
    (h : s.ending event = some c) : s.failing event = none := by
  cases event with
  | resume i reply => cases h
  | _ => rfl

/-- The end of an inbound call that is not answered is written to its notification. -/
theorem endRecord_query {call : ActiveCall} (hinbound : call.direction = .inbound)
    (hfree : call.answered = false) (now : Nat) (trigger : Option String) :
    .markCallResolved call.callId ∈ endRecord call now trigger ∨
      .transitionToMissed call.callId ∈ endRecord call now trigger := by
  rw [endRecord, if_pos ⟨hinbound, Bool.eq_false_iff.mp hfree⟩]
  split <;> simp

theorem disconnects_due {s t : Orchestrator} {event : CallsEvent} {e : Effect} {c : String}
    (hdue : e.Due s t event) (h : e.disconnects c = true) :
    s.isActive c = true ∧ t.isActive c = false := by
  cases e with
  | send audience message =>
    cases message with
    | callEvent data =>
      obtain ⟨rfl, hstatus⟩ := of_decide_eq_true h
      simpa only [Effect.Due, hstatus] using hdue
    | _ => cases h
  | _ => cases h

theorem announces_due {s t : Orchestrator} {event : CallsEvent} {e : Effect} {c : String}
    (hdue : e.Due s t event) (h : e.announces c = true)
    (hprompt : s.announcing event = some c → s.isActive c = true) :
    s.isActive c = true ∧ t.isActive c = true := by
  have hannouncing : s.announcing event = some c ∧ t.activeCalls = s.activeCalls →
      s.isActive c = true ∧ t.isActive c = true := by
    rintro ⟨hannounces, hcalls⟩
    have hactive := hprompt hannounces
    exact ⟨hactive, by rw [isActive, hcalls]; exact hactive⟩
  cases e with
  | send audience message =>
    cases message with
    | callEvent data =>
      obtain ⟨rfl, hstatus | hstatus⟩ := of_decide_eq_true h
      · refine hannouncing ?_
        simpa only [Effect.Due, hstatus] using hdue
      · simpa only [Effect.Due, hstatus] using hdue
    | _ => cases h
  | createNotification callId _ _ _ =>
    cases of_decide_eq_true h
    exact hannouncing hdue
  | _ => cases h

variable {s : Notifying} {t : Orchestrator} {event : CallsEvent}

/-- A statement to create a notification is an old one, or comes from the announcement of a call. -/
theorem creating_after (hs : s.calls.Tracked) (hstep : callsStep s.calls event = some t) {c : String}
    (hc : (s.after t).Creating c) :
    s.Creating c ∨ s.calls.announcing event = some c ∧ t.activeCalls = s.calls.activeCalls := by
  obtain ⟨-, new, hnew, hdue⟩ := hs.proper hstep
  obtain ⟨query, hquery, hcreates⟩ := hc
  obtain hold | ⟨e, he, hadded⟩ := (mem_queries_after hnew query).mp hquery
  · exact .inl ⟨query, hold, hcreates⟩
  · replace hdue := hdue e he
    cases e with
    | createNotification callId _ _ _ =>
      cases hadded
      cases hcreates
      exact .inr hdue
    | transitionToMissed callId => cases hadded; cases hcreates
    | markCallResolved callId => cases hadded; cases hcreates
    | _ => cases hadded

/-- A request to answer goes on, comes to its end with the statement, or fails. -/
theorem resolving_after (hs : s.calls.Tracked) (hstep : callsStep s.calls event = some t)
    {c : String} (hc : s.Resolving c) :
    (s.after t).Resolving c ∨ (∃ d, s.calls.failing event = some (c, d)) ∧
      ∀ call, t.activeCalls.lookup c = some call → call.answered = false := by
  obtain ⟨-, new, hnew, -⟩ := hs.proper hstep
  obtain ⟨flow, hflow, hanswering⟩ | hquery := hc
  · obtain ⟨⟨callId, d⟩, hrequest, rfl⟩ := Option.map_eq_some_iff.mp hanswering
    obtain ⟨g, hg, hgc⟩ | hresolved | ⟨hfailing, hfree⟩ :=
      (hs.flowChange hstep).answering hnew hflow hrequest
    · exact .inl (.inl ⟨g, hg, by rw [hgc]; rfl⟩)
    · exact .inl (.inr ((mem_queries_after hnew _).mpr (.inr ⟨_, hresolved, rfl⟩)))
    · exact .inr ⟨⟨d, hfailing⟩, hfree⟩
  · exact .inl (.inr ((mem_queries_after hnew _).mpr (.inl hquery)))

/-- An active call stays active, unless the event is to end it. -/
theorem active_after (hs : s.calls.Tracked) (hstep : callsStep s.calls event = some t) {c : String}
    (hactive : s.calls.isActive c = true) :
    t.isActive c = true ∨ s.calls.ending event = some c := by
  by_cases hgone : t.isActive c = false
  · obtain ⟨call, hcall⟩ := isActive_iff.mp hactive
    exact .inr ((hs.proper hstep).change.ended hcall hgone).1
  · exact .inl (Bool.eq_true_of_not_eq_false hgone)

/-- What has a notification, or is to have one, was so before or is announced now. -/
theorem concerned_after (hs : s.calls.Tracked) (hstep : callsStep s.calls event = some t)
    {c : String} (hc : (s.after t).Creating c ∨ (s.after t).Pending c) :
    (s.Creating c ∨ s.Pending c) ∨
      s.calls.announcing event = some c ∧ t.activeCalls = s.calls.activeCalls := by
  obtain hc | hc := hc
  · exact (creating_after hs hstep hc).imp_left .inl
  · exact .inl (.inr hc)

theorem Quiet.inbound_after (h : s.Quiet) (hstep : callsStep s.calls event = some t) {c : String}
    (hc : (s.after t).Creating c ∨ (s.after t).Pending c) :
    ∀ call, t.activeCalls.lookup c = some call → call.direction = .inbound := by
  have hs := h.tracked
  obtain hold | ⟨hannounces, hcalls⟩ := concerned_after hs hstep hc
  · have hbegun : s.calls.Begun c :=
      hold.elim (fun hc => hs.begun_of_active (h.creating c hc)) (h.begun c)
    exact (hs.proper hstep).change.inbound hs hbegun (h.inbound c hold)
  · obtain ⟨flow, hflow, htracked⟩ := tracked_of_announcing hannounces
    rw [hcalls]
    exact h.numbered flow hflow c htracked

/-- A call that is answered while its notification is not resolved is being resolved. -/
theorem Quiet.answered_after (h : s.Quiet) (hprompt : s.Prompt (.calls event))
    (hstep : callsStep s.calls event = some t) {c : String} {call : ActiveCall}
    (hcall : t.activeCalls.lookup c = some call) (hanswered : call.answered = true)
    (hc : (s.after t).Creating c ∨ (s.after t).Pending c) : (s.after t).Resolving c := by
  have hs := h.tracked
  have hinbound := h.inbound_after hstep hc call hcall
  have hkeeps : s.Resolving c → (s.after t).Resolving c := fun hresolving =>
    (resolving_after hs hstep hresolving).resolve_right fun ⟨_, hfree⟩ =>
      Bool.false_ne_true ((hfree call hcall).symm.trans hanswered)
  obtain hold | ⟨hannounces, hcalls⟩ := concerned_after hs hstep hc
  · obtain ⟨flow, -, -, hfree, -⟩ | ⟨before, hbefore, hbecame⟩ :=
      (hs.proper hstep).change.entry hs hcall
    · exact absurd hanswered (Bool.eq_false_iff.mp hfree)
    · have hkey := (hs.key hbefore).1
      cases hbecame with
      | same => exact hkeeps (h.answered c call hbefore hanswered hold)
      | marked deviceId _ hasked =>
        obtain hout | ⟨flow, hflow, hanswering⟩ := hasked
        · cases hout.symm.trans hinbound
        · exact .inl ⟨flow, hflow, by rw [hanswering, hkey]; rfl⟩
      | unmarked deviceId _ => cases hanswered
      | connected _ hout => cases hout.symm.trans hinbound
  · obtain ⟨found, hfound, hresolving⟩ := hprompt.1 c hannounces
    cases hfound.symm.trans (hcalls ▸ hcall)
    exact hkeeps (hresolving hanswered)

/-- A row that is pending is its call's that is active, or is about to be resolved or missed. -/
theorem Quiet.pending_after (h : s.Quiet) (hprompt : s.Prompt (.calls event))
    (hstep : callsStep s.calls event = some t) {c : String} (hc : s.Pending c) :
    t.isActive c = true ∨ (s.after t).Resolving c ∨
      .transitionToMissed c ∈ (s.after t).queries := by
  have hs := h.tracked
  obtain ⟨hchange, new, hnew, -⟩ := hs.proper hstep
  have hqueries := mem_queries_after hnew
  obtain hactive | hresolving | hmissed := h.pending c hc
  · by_cases hgone : t.isActive c = false
    -- the call ends at this event
    · obtain ⟨call, hcall⟩ := isActive_iff.mp hactive
      obtain ⟨hending, trigger, rfl⟩ := hchange.ended hcall hgone
      cases hanswered : call.answered with
      | true =>
        refine .inr (.inl ?_)
        have hresolving := h.answered c call hcall hanswered (.inr hc)
        refine (resolving_after hs hstep hresolving).resolve_right ?_
        rintro ⟨⟨d, hfailing⟩, -⟩
        cases (failing_of_ending hending).symm.trans hfailing
      | false =>
        cases List.append_cancel_left hnew
        obtain hresolved | hmissed :=
          endRecord_query (h.inbound c (.inr hc) call hcall) hanswered s.calls.now trigger
        · rw [(hs.key hcall).1] at hresolved
          exact .inr (.inl (.inr ((hqueries _).mpr (.inr ⟨_, List.mem_append_right _ hresolved, rfl⟩))))
        · rw [(hs.key hcall).1] at hmissed
          exact .inr (.inr ((hqueries _).mpr (.inr ⟨_, List.mem_append_right _ hmissed, rfl⟩)))
    · exact .inl (Bool.eq_true_of_not_eq_false hgone)
  · obtain hresolving | ⟨⟨d, hfailing⟩, -⟩ := resolving_after hs hstep hresolving
    · exact .inr (.inl hresolving)
    · refine .inl ((active_after hs hstep (hprompt.2.2 _ hfailing)).resolve_right fun hending => ?_)
      cases (failing_of_ending hending).symm.trans hfailing
  · exact .inr (.inr ((hqueries _).mpr (.inl hmissed)))

/-- **An event of the calls.** -/
theorem Quiet.after (h : s.Quiet) (hprompt : s.Prompt (.calls event))
    (hstep : callsStep s.calls event = some t) : (s.after t).Quiet := by
  have hs := h.tracked
  have hflows := hs.flowChange hstep
  have hbegins := hflows.begins
  obtain ⟨hchange, new, hnew, hdue⟩ := hs.proper hstep
  have hannounced : ∀ c, s.calls.announcing event = some c → s.calls.isActive c = true := by
    intro c hc
    obtain ⟨call, hcall, -⟩ := hprompt.1 c hc
    exact isActive_of_lookup hcall
  refine
    { tracked := hs.step hstep, numbered := fun flow hflow c hc => ?_, creating := fun c hc => ?_
      begun := fun c hc => hbegins c (h.begun c hc), inbound := fun c => h.inbound_after hstep
      answered := fun c call => h.answered_after hprompt hstep
      pending := fun c => h.pending_after hprompt hstep, ended := fun c e he hdisconnects => ?_
      inserted := fun row hrow => ?_, announced := ?_, created := fun row hrow => ?_ }
  · obtain ⟨g, hg, hgc⟩ | ⟨call, hcall, hinbound⟩ := hflows.tracked hflow hc
    · exact hchange.inbound hs (hs.begun g hg c hgc) (h.numbered g hg c hgc)
    · intro call' hcall'
      cases hcall.symm.trans hcall'
      exact hinbound
  · obtain hold | ⟨hannounces, hcalls⟩ := creating_after hs hstep hc
    · exact (active_after hs hstep (h.creating c hold)).resolve_right fun hending =>
        hprompt.2.1 c hending hold
    · change (t.activeCalls.lookup c).isSome = true
      rw [hcalls]
      exact hannounced c hannounces
  · rw [Notifying.after, hnew, List.mem_append] at he
    obtain hold | hadded := he
    · obtain ⟨hbegun, hgone⟩ := h.ended c e hold hdisconnects
      exact ⟨hbegins c hbegun, hchange.gone hs hbegun hgone⟩
    · obtain ⟨hactive, hgone⟩ := disconnects_due (hdue e hadded) hdisconnects
      exact ⟨hbegins c (hs.begun_of_active hactive), hgone⟩
  · rw [Notifying.after, hnew, List.length_append]
    exact (h.inserted row hrow).trans (Nat.le_add_right _ _)
  · -- a call that is announced is active before and after the event
    rw [Notifying.after, hnew, List.pairwise_append]
    refine ⟨h.announced, ?_, fun before hbefore later hlater c hdisconnects => ?_⟩
    · refine List.pairwise_of_forall_mem_list fun before hbefore later hlater c hdisconnects => ?_
      have hgone := (disconnects_due (hdue before hbefore) hdisconnects).2
      refine Bool.eq_false_iff.mpr fun hannounces => ?_
      have hactive := (announces_due (hdue later hlater) hannounces (hannounced c)).2
      exact Bool.false_ne_true (hgone.symm.trans hactive)
    · have hgone := (h.ended c before hbefore hdisconnects).2
      refine Bool.eq_false_iff.mpr fun hannounces => ?_
      have hactive := (announces_due (hdue later hlater) hannounces (hannounced c)).1
      exact Bool.false_ne_true (hgone.symm.trans hactive)
  · rw [Notifying.after, hnew, List.take_append_of_le_length (h.inserted row hrow)]
    exact h.created row hrow

theorem Quiet.step {s t : Notifying} {event : NotifyingEvent} (h : s.Quiet)
    (hprompt : s.Prompt event) (hstep : notifyingStep s event = some t) : t.Quiet := by
  cases event with
  | calls event =>
    obtain ⟨u, hu, rfl⟩ := Option.map_eq_some_iff.mp hstep
    exact h.after hprompt hu
  | execute i =>
    obtain ⟨query, hquery, rfl⟩ := Option.map_eq_some_iff.mp hstep
    refine h.execute hquery fun c hc => hprompt c ?_
    rw [hquery, hc]
    rfl
  | fails i =>
    obtain ⟨query, hquery, rfl⟩ := Option.map_eq_some_iff.mp hstep
    exact h.fails hquery (hprompt query hquery)

theorem quiet_init : init.Quiet where
  tracked := tracked_init
  numbered _ hflow := absurd hflow List.not_mem_nil
  creating c hc := by simp [Creating, init] at hc
  begun c hc := by simp [Pending, init] at hc
  inbound c _ call hcall := by simp [init, Orchestrator.init] at hcall
  answered c call hcall := by simp [init, Orchestrator.init] at hcall
  pending c hc := by simp [Pending, init] at hc
  ended _ _ he := absurd he List.not_mem_nil
  inserted _ hrow := absurd hrow List.not_mem_nil
  announced := .nil
  created _ hrow := absurd hrow List.not_mem_nil

instance (s : Notifying) : (event : NotifyingEvent) → Decidable (s.Prompt event)
  | .calls _ => inferInstanceAs (Decidable (_ ∧ _ ∧ _))
  | .execute i => inferInstanceAs (Decidable (∀ c ∈ s.queries[i]?.bind Query.resolves, _))
  | .fails i => inferInstanceAs (Decidable (∀ query ∈ s.queries[i]?, query.creates ≠ none))

end Notifying

/-- **Nothing is announced of a call that has ended**, in every run in which each inbound call is still
there when its numbers have come, and ends when its notification has been created. -/
theorem silent_after_end {events : List NotifyingEvent} {s : Notifying}
    (hguard : Guarded notifyingStep Notifying.Prompt .init events)
    (hrun : exec notifyingStep .init events = some s) : s.Silent :=
  (hguard.invariant (I := Notifying.Quiet) (fun _ _ _ h hprompt hstep => h.step hprompt hstep)
    Notifying.quiet_init hrun).silent

/-- An inbound call that nobody answers. -/
def missedRun : List NotifyingEvent :=
  [.calls (.handleInbound (some sipProvider) "call 1" "leg 1" "+31" "+32"),
    .calls (.resume 0 (.session none)), .calls (.resume 0 (.label none)), .execute 0, .execute 0,
    .calls (.endCall "call 1" none), .execute 0]

theorem silent_after_end_missed :
    ∃ s, exec notifyingStep .init missedRun = some s ∧ s.Silent ∧ s.calls.isActive "call 1" = false ∧
      s.rows.map NotificationRow.type = [.missedCall] := by
  have hsome : (exec notifyingStep .init missedRun).map (fun s =>
      (s.calls.isActive "call 1", s.rows.map NotificationRow.type)) =
        some (false, [.missedCall]) := by decide +kernel
  obtain ⟨s, hrun, heq⟩ := Option.map_eq_some_iff.mp hsome
  obtain ⟨hgone, hrows⟩ := Prod.mk.inj heq
  exact ⟨s, hrun, silent_after_end (by decide +kernel) hrun, hgone, hrows⟩

/-- The caller hangs up while the numbers are looked up, and the call rings after that. -/
theorem rings_after_end :
    ¬ ∀ events s, exec notifyingStep .init events = some s → s.Silent := by
  intro h
  have hsome : (exec notifyingStep .init
      [.calls (.handleInbound (some sipProvider) "call 1" "leg 1" "+31" "+32"),
        .calls (.resume 0 (.session none)), .calls (.endCall "call 1" none),
        .calls (.resume 0 (.label none))]).map (fun s => s.calls.effects.drop 2) =
      some ([.send .all (.callEvent ⟨"call 1", .disconnected, none, none, none⟩),
        .send .all (.callCancelled "call 1" .callerDisconnect), .destroySession "call 1" false,
        .providerEnd "leg 1", .updateCallType "leg 1" "MISSED", .transitionToMissed "call 1",
        .createNotification "call 1" "+31" "+32" none,
        .send .all (.callEvent ⟨"call 1", .ringing, some .inbound, some "+31", none⟩),
        .inboundReturned (some "call 1")]) := by decide +kernel
  obtain ⟨s, hrun, heffects⟩ := Option.map_eq_some_iff.mp hsome
  have hpairs := (h _ s hrun).announced.sublist (List.drop_sublist 2 _)
  rw [heffects, List.pairwise_cons] at hpairs
  have hrings := hpairs.1 (.send .all (.callEvent ⟨"call 1", .ringing, some .inbound, some "+31", none⟩))
    (by simp) "call 1" (by decide)
  exact absurd hrings (by decide)

end Svarla.Calls
