import Mathlib
import Svarla.Sessions.Lockout

/-!
# Sessions that are over

A logout, or a removal, puts another token into the row. But `validateSession` reads the row, awaits, and
then writes it by the device: where the token was replaced in between, it accepts it all the same, and
makes the device active again (`accepted_after_logout`). So it does where another flow has found the
session expired in between.

In the runs where no session ends while a flow that validates it has read its row (`Undisturbed`), a
token is never accepted after its session has ended, and the device is not active again
(`never_again`).
-/

namespace Svarla.Sessions

open Svarla.Lib

/-- The number that was drawn for a token. -/
def Token.random : Token → Nat
  | session random | loggedOut random | removed random => random

/-- The device that a flow has read to validate its session. -/
def Flow.validating : Flow → Option Device
  | checkExpiry d | expire d | refresh d _ => some d
  | _ => none

/-- The device that a flow is going to make active. -/
def Flow.refreshing : Flow → Option Device
  | refresh d _ => some d
  | _ => none

/-- A flow that neither starts nor ends a session. -/
def Flow.Keeps : Flow → Bool
  | insertDevice _ | expire _ | logout _ | remove _ => false
  | _ => true

/-- No token that is over is accepted later. -/
def Outcome.Outlasts : Outcome → Outcome → Prop
  | .invalidated _ token, .valid _ token' => token' ≠ token
  | _, _ => True

namespace Server

/-- No session ends while a flow that validates it has read its row; one that has expired may be found
so by several flows. -/
def Undisturbed (s : Server) : Event → Prop
  | .run i _ =>
    match s.flows[i]? with
    | some (.logout token) => ∀ flow ∈ s.flows, ∀ d ∈ flow.validating, d.sessionToken ≠ .session token
    | some (.remove deviceId) => ∀ flow ∈ s.flows, ∀ d ∈ flow.validating, d.deviceId ≠ deviceId
    | some (.expire d) => ∀ flow ∈ s.flows, ∀ d' ∈ flow.refreshing, d'.deviceId ≠ d.deviceId
    | _ => True
  | _ => True

instance (s : Server) (e : Event) : Decidable (s.Undisturbed e) := by
  unfold Undisturbed
  rcases e with _ | _ | _ | _ | _ | ⟨i, random⟩ | _ | _ | _ | _ | e
  case run =>
    dsimp only
    generalize s.flows[i]? = found
    rcases found with _ | flow
    · exact .isTrue trivial
    · rcases flow with _ | _ | _ | _ | _ | _ | _ | _ | _ | _ | _ | _ | _ | _ | _ | _ | _ | _ | _ <;>
        infer_instance
  all_goals exact .isTrue trivial

/-- A token is not accepted after its session has ended, and the device is not active. -/
structure NeverAgain (s : Server) : Prop where
  outlasts : s.outcomes.Pairwise Outcome.Outlasts
  inactive : ∀ deviceId token, .invalidated deviceId token ∈ s.outcomes →
    ∃ d, s.devices[deviceId]? = some d ∧ d.isActive = false

/-! ## Rows and tokens -/

/-- A row after a change is one from before, changed if it is the one. -/
theorem row_setDevice {s : Server} {deviceId i : Nat} {f : Device → Device} {row : Device}
    (h : (s.setDevice deviceId f).devices[i]? = some row) :
    ∃ d, s.devices[i]? = some d ∧ row = if deviceId = i then f d else d := by
  rw [setDevice, List.getElem?_modify] at h
  obtain ⟨d, hd, rfl⟩ := Option.map_eq_some_iff.mp h
  exact ⟨d, hd, rfl⟩

theorem row_of_setDevice {s : Server} {deviceId i : Nat} {d : Device} (f : Device → Device)
    (h : s.devices[i]? = some d) :
    (s.setDevice deviceId f).devices[i]? = some (if deviceId = i then f d else d) := by
  rw [setDevice, List.getElem?_modify, h]
  rfl

/-- A session that is over: its token is in no row any more, and no session token in its own; or it has
expired. -/
def Over (C : Config) (s : Server) (deviceId : Nat) (token : Token) : Prop :=
  ∃ row, s.devices[deviceId]? = some row ∧ row.isActive = false ∧
    (∀ flow ∈ s.flows, ∀ d ∈ flow.refreshing, d.deviceId ≠ deviceId) ∧
      (((∀ n, row.sessionToken ≠ .session n) ∧
          ∀ (i : Nat) (d : Device), s.devices[i]? = some d → d.sessionToken ≠ token) ∨
        row.sessionToken = token ∧ C.expiresAt row.registeredAt < s.now)

/-- What a flow that validates a session has read is still in the row. -/
def Reads (s : Server) (d : Device) : Prop :=
  (∃ n, d.sessionToken = .session n) ∧ ∃ row, s.devices[d.deviceId]? = some row ∧
    row.sessionToken = d.sessionToken ∧ row.registeredAt = d.registeredAt

/-- Rows, flows and outcomes fit together. -/
structure Sound (C : Config) (s : Server) : Prop where
  ids : ∀ (i : Nat) (d : Device), s.devices[i]? = some d → d.deviceId = i
  distinct : ∀ (i j : Nat) (d d' : Device), s.devices[i]? = some d → s.devices[j]? = some d' →
    d.sessionToken = d'.sessionToken → i = j
  drawn : ∀ (i : Nat) (d : Device), s.devices[i]? = some d → d.sessionToken.random ∈ s.drawn
  drawn' : ∀ deviceId token, .invalidated deviceId token ∈ s.outcomes → token.random ∈ s.drawn
  reads : ∀ flow ∈ s.flows, ∀ d ∈ flow.validating, s.Reads d
  expired : ∀ d, .expire d ∈ s.flows → C.expiresAt d.registeredAt < s.now
  ended : ∀ deviceId token, .invalidated deviceId token ∈ s.outcomes → s.Over C deviceId token
  outlasts : s.outcomes.Pairwise Outcome.Outlasts

theorem Sound.neverAgain {C : Config} {s : Server} (h : s.Sound C) : s.NeverAgain where
  outlasts := h.outlasts
  inactive deviceId token hmem := by
    obtain ⟨row, hrow, hinactive, -⟩ := h.ended deviceId token hmem
    exact ⟨row, hrow, hinactive⟩

/-! ## Changes that end no session -/

/-- The rows keep their sessions, and only a device that a flow was going to make active becomes so. -/
def Milder (s t : Server) : Prop :=
  ∀ i : Nat, (s.devices[i]? = none → t.devices[i]? = none) ∧
    ∀ d : Device, s.devices[i]? = some d → ∃ d' : Device, t.devices[i]? = some d' ∧
      d'.deviceId = d.deviceId ∧ d'.sessionToken = d.sessionToken ∧ d'.registeredAt = d.registeredAt ∧
        (d'.isActive = true → d.isActive = true ∨
          ∃ flow ∈ s.flows, ∃ d₀ ∈ flow.refreshing, d₀.deviceId = i)

/-- A flow that has read what is in the rows, and goes on with it as it should. -/
structure Fresh (C : Config) (s : Server) (flow : Flow) : Prop where
  reads : ∀ d ∈ flow.validating, s.Reads d
  unexpired : ∀ d ∈ flow.refreshing, ¬ C.expiresAt d.registeredAt < s.now
  expired : ∀ d, flow = .expire d → C.expiresAt d.registeredAt < s.now

/-- No session ends, and one is accepted only where a flow was going to. -/
structure Quiet (C : Config) (s t : Server) : Prop where
  milder : Milder s t
  drawn : t.drawn = s.drawn
  now : s.now ≤ t.now
  outcomes : ∃ os : List Outcome, t.outcomes = s.outcomes ++ os ∧ os.length ≤ 1 ∧
    ∀ deviceId token, .invalidated deviceId token ∉ os ∧ (.valid deviceId token ∈ os →
      ∃ flow ∈ s.flows, ∃ d ∈ flow.refreshing, d.deviceId = deviceId ∧ d.sessionToken = token)
  flows : ∀ flow ∈ t.flows, flow ∈ s.flows ∨ s.Fresh C flow

theorem fresh_of_validating {C : Config} {s : Server} {flow : Flow} (h : flow.validating = none) :
    s.Fresh C flow := by
  cases flow with
  | checkExpiry | expire | refresh => cases h
  | _ => exact ⟨fun d hd => (nomatch hd), fun d hd => (nomatch hd), fun d hd => (nomatch hd)⟩

theorem validating_of_refreshing {flow : Flow} {d : Device} (h : d ∈ flow.refreshing) :
    d ∈ flow.validating := by
  cases flow with
  | refresh d' seenAt => exact h
  | _ => cases h

theorem milder_of_eq {s t : Server} (h : t.devices = s.devices) : Milder s t := by
  intro i
  rw [h]
  exact ⟨id, fun d hd => ⟨d, hd, rfl, rfl, rfl, .inl⟩⟩

theorem milder_setDevice {s t : Server} (deviceId : Nat) {f : Device → Device}
    (ht : t.devices = (s.setDevice deviceId f).devices)
    (hf : ∀ d, (f d).deviceId = d.deviceId ∧ (f d).sessionToken = d.sessionToken ∧
      (f d).registeredAt = d.registeredAt)
    (hactive : (∀ d, (f d).isActive = true → d.isActive = true) ∨
      ∃ flow ∈ s.flows, ∃ d₀ ∈ flow.refreshing, d₀.deviceId = deviceId) : Milder s t := by
  intro i
  rw [ht]
  refine ⟨fun hnone => ?_, fun d hd => ⟨_, row_of_setDevice f hd, ?_⟩⟩
  · rw [setDevice, List.getElem?_modify, hnone]
    rfl
  · split
    · next hi =>
      subst hi
      exact ⟨(hf d).1, (hf d).2.1, (hf d).2.2, fun hd => hactive.imp_left fun h => h d hd⟩
    · exact ⟨rfl, rfl, rfl, .inl⟩

/-- A row after milder changes comes from one before. -/
theorem Milder.row {s t : Server} (h : Milder s t) {i : Nat} {d' : Device}
    (hrow : t.devices[i]? = some d') : ∃ d, s.devices[i]? = some d ∧ d'.deviceId = d.deviceId ∧
      d'.sessionToken = d.sessionToken ∧ d'.registeredAt = d.registeredAt := by
  cases hd : s.devices[i]? with
  | none => cases hrow.symm.trans ((h i).1 hd)
  | some d =>
    obtain ⟨d'', hd'', hid, htoken, hregistered, -⟩ := (h i).2 d hd
    cases hrow.symm.trans hd''
    exact ⟨d, rfl, hid, htoken, hregistered⟩

variable {C : Config} {s t : Server}

theorem Reads.milder {d : Device} (h : s.Reads d) (hmilder : Milder s t) : t.Reads d := by
  obtain ⟨hsession, row, hrow, htoken, hregistered⟩ := h
  obtain ⟨row', hrow', -, htoken', hregistered', -⟩ := (hmilder d.deviceId).2 row hrow
  exact ⟨hsession, row', hrow', htoken'.trans htoken, hregistered'.trans hregistered⟩

/-- What reads the row of a session that is over finds that it has expired. -/
theorem Over.expired {token : Token} {d : Device} (h : s.Over C d.deviceId token) (hreads : s.Reads d) :
    C.expiresAt d.registeredAt < s.now := by
  obtain ⟨row, hrow, -, -, hover⟩ := h
  obtain ⟨⟨n, hn⟩, row', hrow', htoken, hregistered⟩ := hreads
  cases hrow.symm.trans hrow'
  obtain ⟨hnone, -⟩ | ⟨-, hexpired⟩ := hover
  · exact absurd (htoken.trans hn) (hnone n)
  · rwa [← hregistered]

theorem Over.quiet {deviceId : Nat} {token : Token} (h : s.Over C deviceId token)
    (hquiet : Quiet C s t) : t.Over C deviceId token := by
  have hsame := h
  obtain ⟨row, hrow, hinactive, hrefreshing, hover⟩ := h
  obtain ⟨row', hrow', -, htoken', hregistered', hactive'⟩ := (hquiet.milder deviceId).2 row hrow
  refine ⟨row', hrow', ?_, fun flow hflow d hd hid => ?_, ?_⟩
  · refine Bool.eq_false_iff.mpr fun htrue => ?_
    obtain htrue | ⟨flow, hflow, d, hd, hid⟩ := hactive' htrue
    · rw [hinactive] at htrue
      cases htrue
    · exact hrefreshing flow hflow d hd hid
  · obtain hflow | hfresh := hquiet.flows flow hflow
    · exact hrefreshing flow hflow d hd hid
    · subst hid
      exact hfresh.unexpired d hd (hsame.expired (hfresh.reads d (validating_of_refreshing hd)))
  · rw [htoken', hregistered']
    refine hover.imp (fun hgone => ⟨hgone.1, fun i d hd => ?_⟩)
      fun hexpired => ⟨hexpired.1, lt_of_lt_of_le hexpired.2 hquiet.now⟩
    obtain ⟨d₀, hd₀, -, htoken, -⟩ := hquiet.milder.row hd
    rw [htoken]
    exact hgone.2 i d₀ hd₀

/-- A session that a flow is going to accept is not over. -/
theorem Sound.ne_of_refreshing (h : s.Sound C) {flow : Flow} (hflow : flow ∈ s.flows) {d : Device}
    (hd : d ∈ flow.refreshing) {deviceId : Nat} {token : Token}
    (hmem : .invalidated deviceId token ∈ s.outcomes) : d.sessionToken ≠ token := by
  obtain ⟨row, hrow, -, hrefreshing, hover⟩ := h.ended deviceId token hmem
  obtain ⟨-, row', hrow', htoken, -⟩ := h.reads flow hflow d (validating_of_refreshing hd)
  obtain ⟨-, hgone⟩ | ⟨hsame, -⟩ := hover
  · rw [← htoken]
    exact hgone _ row' hrow'
  · intro heq
    exact hrefreshing flow hflow d hd
      (h.distinct _ _ row' row hrow' hrow (htoken.trans (heq.trans hsame.symm)))

/-- What is quiet keeps all. -/
theorem Sound.quiet (h : s.Sound C) (hquiet : Quiet C s t) : t.Sound C := by
  obtain ⟨os, hos, hone, hnone⟩ := hquiet.outcomes
  have hmem : ∀ deviceId token, .invalidated deviceId token ∈ t.outcomes →
      .invalidated deviceId token ∈ s.outcomes := by
    intro deviceId token hmem
    rw [hos] at hmem
    exact (List.mem_append.mp hmem).resolve_right (hnone deviceId token).1
  constructor
  · intro i d hd
    obtain ⟨d₀, hd₀, hid, -⟩ := hquiet.milder.row hd
    rw [hid]
    exact h.ids i d₀ hd₀
  · intro i j d d' hd hd' htoken
    obtain ⟨d₀, hd₀, -, ht, -⟩ := hquiet.milder.row hd
    obtain ⟨d₀', hd₀', -, ht', -⟩ := hquiet.milder.row hd'
    exact h.distinct i j d₀ d₀' hd₀ hd₀' (ht.symm.trans (htoken.trans ht'))
  · intro i d hd
    obtain ⟨d₀, hd₀, -, ht, -⟩ := hquiet.milder.row hd
    rw [ht, hquiet.drawn]
    exact h.drawn i d₀ hd₀
  · intro deviceId token hm
    rw [hquiet.drawn]
    exact h.drawn' deviceId token (hmem deviceId token hm)
  · intro flow hflow d hd
    refine Reads.milder ?_ hquiet.milder
    exact (hquiet.flows flow hflow).elim (fun hflow => h.reads flow hflow d hd)
      fun hfresh => hfresh.reads d hd
  · intro d hd
    refine lt_of_lt_of_le ?_ hquiet.now
    exact (hquiet.flows _ hd).elim (h.expired d) fun hfresh => hfresh.expired d rfl
  · exact fun deviceId token hm => (h.ended deviceId token (hmem deviceId token hm)).quiet hquiet
  · rw [hos, List.pairwise_append]
    refine ⟨h.outlasts, ?_, fun a ha b hb => ?_⟩
    · match os, hone with
      | [], _ => exact .nil
      | [o], _ => exact List.pairwise_singleton _ o
    · cases a with
      | invalidated deviceId token =>
        cases b with
        | valid deviceId' token' =>
          obtain ⟨flow, hflow, d, hd, -, rfl⟩ := (hnone deviceId' token').2 hb
          exact h.ne_of_refreshing hflow hd ha
        | _ => trivial
      | _ => trivial

/-! ## Sessions that end -/

/-- The end of a session is told. -/
theorem Sound.emit_invalidated (h : s.Sound C) {deviceId : Nat} {token : Token}
    (hover : s.Over C deviceId token) (hdrawn : token.random ∈ s.drawn) :
    (s.emit (.invalidated deviceId token)).Sound C := by
  have hmem : ∀ deviceId' token',
      .invalidated deviceId' token' ∈ (s.emit (.invalidated deviceId token)).outcomes →
        .invalidated deviceId' token' ∈ s.outcomes ∨ deviceId' = deviceId ∧ token' = token := by
    intro deviceId' token' hmem
    refine (List.mem_append.mp hmem).imp_right fun ho => ?_
    cases List.mem_singleton.mp ho
    exact ⟨rfl, rfl⟩
  refine { h with drawn' := ?_, ended := ?_, outlasts := ?_ }
  · intro deviceId' token' hm
    obtain hm | ⟨-, rfl⟩ := hmem deviceId' token' hm
    · exact h.drawn' deviceId' token' hm
    · exact hdrawn
  · intro deviceId' token' hm
    obtain hm | ⟨rfl, rfl⟩ := hmem deviceId' token' hm
    · exact h.ended deviceId' token' hm
    · exact hover
  · refine List.pairwise_append.mpr ⟨h.outlasts, List.pairwise_singleton _ _, fun a _ b hb => ?_⟩
    cases List.mem_singleton.mp hb
    cases a <;> trivial

/-- A token that was just drawn is not one from before. -/
theorem ne_of_drawn {token token' : Token} (htoken : token.random ∉ s.drawn)
    (htoken' : token'.random ∈ s.drawn) : token ≠ token' := by
  rintro rfl
  exact htoken htoken'

/-- Another token is put into the row of a session that no flow validates. -/
theorem Sound.replace (h : s.Sound C) {d : Device} {token : Token}
    (hrow : s.devices[d.deviceId]? = some d) (hsession : ∀ n, token ≠ .session n)
    (hrandom : token.random ∉ s.drawn)
    (hfree : ∀ flow ∈ s.flows, ∀ d' ∈ flow.validating, d'.deviceId ≠ d.deviceId)
    (hdevices : t.devices = (s.setDevice d.deviceId fun d =>
      { d with isActive := false, sessionToken := token }).devices)
    (hdrawn : t.drawn = token.random :: s.drawn) (hnow : t.now = s.now)
    (houtcomes : t.outcomes = s.outcomes) (hflows : ∀ flow ∈ t.flows, flow ∈ s.flows) :
    t.Sound C ∧ t.Over C d.deviceId d.sessionToken := by
  have hrow' : t.devices[d.deviceId]? = some { d with isActive := false, sessionToken := token } := by
    rw [hdevices, row_of_setDevice _ hrow, if_pos rfl]
  have hother : ∀ (i : Nat) (d' : Device), i ≠ d.deviceId → s.devices[i]? = some d' →
      t.devices[i]? = some d' := by
    intro i d' hi hd'
    rw [hdevices, row_of_setDevice _ hd', if_neg hi.symm]
  have hrows : ∀ (i : Nat) (d' : Device), t.devices[i]? = some d' →
      i = d.deviceId ∧ d' = { d with isActive := false, sessionToken := token } ∨
        i ≠ d.deviceId ∧ s.devices[i]? = some d' := by
    intro i d' hd'
    by_cases hi : i = d.deviceId
    · subst hi
      cases hrow'.symm.trans hd'
      exact .inl ⟨rfl, rfl⟩
    · rw [hdevices] at hd'
      obtain ⟨d₀, hd₀, rfl⟩ := row_setDevice hd'
      rw [if_neg (Ne.symm hi)]
      exact .inr ⟨hi, hd₀⟩
  -- the row of the session that ends, for any token that was its own
  have hgone : ∀ token', token'.random ∈ s.drawn →
      (∀ (i : Nat) (d' : Device), i ≠ d.deviceId → s.devices[i]? = some d' → d'.sessionToken ≠ token') →
        t.Over C d.deviceId token' := by
    intro token' hdrawn' hnone
    refine ⟨_, hrow', rfl, fun flow hflow d' hd' =>
      hfree flow (hflows flow hflow) d' (validating_of_refreshing hd'), .inl ⟨hsession, fun i d' hd' => ?_⟩⟩
    obtain ⟨-, rfl⟩ | ⟨hi, hd'⟩ := hrows i d' hd'
    · exact ne_of_drawn hrandom hdrawn'
    · exact hnone i d' hi hd'
  refine ⟨⟨?_, ?_, ?_, ?_, ?_, ?_, ?_, ?_⟩, ?_⟩
  · intro i d' hd'
    obtain ⟨rfl, rfl⟩ | ⟨-, hd'⟩ := hrows i d' hd'
    · rfl
    · exact h.ids i d' hd'
  · intro i j d₁ d₂ hd₁ hd₂ htoken
    obtain ⟨rfl, rfl⟩ | ⟨hi, hd₁⟩ := hrows i d₁ hd₁
    · obtain ⟨rfl, -⟩ | ⟨-, hd₂⟩ := hrows j d₂ hd₂
      · rfl
      · exact absurd htoken (ne_of_drawn hrandom (h.drawn j d₂ hd₂))
    · obtain ⟨rfl, rfl⟩ | ⟨-, hd₂⟩ := hrows j d₂ hd₂
      · exact absurd htoken.symm (ne_of_drawn hrandom (h.drawn i d₁ hd₁))
      · exact h.distinct i j d₁ d₂ hd₁ hd₂ htoken
  · intro i d' hd'
    rw [hdrawn]
    obtain ⟨-, rfl⟩ | ⟨-, hd'⟩ := hrows i d' hd'
    · exact List.mem_cons_self
    · exact List.mem_cons_of_mem _ (h.drawn i d' hd')
  · intro deviceId token' hm
    rw [hdrawn]
    rw [houtcomes] at hm
    exact List.mem_cons_of_mem _ (h.drawn' deviceId token' hm)
  · intro flow hflow d' hd'
    obtain ⟨hsession', row, hrow, hread⟩ := h.reads flow (hflows flow hflow) d' hd'
    exact ⟨hsession', row, hother _ row (hfree flow (hflows flow hflow) d' hd') hrow, hread⟩
  · intro d' hd'
    rw [hnow]
    exact h.expired d' (hflows _ hd')
  · intro deviceId token' hm
    rw [houtcomes] at hm
    obtain ⟨row, hover, hinactive, hrefreshing, hcases⟩ := h.ended deviceId token' hm
    by_cases hid : deviceId = d.deviceId
    · subst hid
      cases hrow.symm.trans hover
      refine hgone token' (h.drawn' _ token' hm) fun i d' hi hd' heq => ?_
      obtain ⟨-, hnone⟩ | ⟨hsame, -⟩ := hcases
      · exact hnone i d' hd' heq
      · exact hi (h.distinct i _ d' d hd' hrow (heq.trans hsame.symm))
    · refine ⟨row, hother _ row hid hover, hinactive,
        fun flow hflow => hrefreshing flow (hflows flow hflow), ?_⟩
      rw [hnow]
      refine hcases.imp_left fun hnone => ⟨hnone.1, fun i d' hd' => ?_⟩
      obtain ⟨-, rfl⟩ | ⟨-, hd'⟩ := hrows i d' hd'
      · exact ne_of_drawn hrandom (h.drawn' _ token' hm)
      · exact hnone.2 i d' hd'
  · rw [houtcomes]
    exact h.outlasts
  · exact hgone d.sessionToken (h.drawn _ d hrow) fun i d' hi hd' heq => hi (h.distinct i _ d' d hd' hrow heq)

/-- A new session has a row and a token of its own. -/
theorem Sound.insert (h : s.Sound C) {deviceName : String} {token : Token}
    (hrandom : token.random ∉ s.drawn) (hdevices : t.devices = (s.insert deviceName token).devices)
    (hdrawn : t.drawn = token.random :: s.drawn) (hnow : t.now = s.now)
    (houtcomes : t.outcomes = s.outcomes ++ [.loggedIn s.devices.length token])
    (hflows : ∀ flow ∈ t.flows, flow ∈ s.flows) : t.Sound C := by
  have hold : ∀ (i : Nat) (d : Device), s.devices[i]? = some d → t.devices[i]? = some d := by
    intro i d hd
    obtain ⟨hi, -⟩ := List.getElem?_eq_some_iff.mp hd
    rw [hdevices, Server.insert, List.getElem?_append_left hi]
    exact hd
  have hrows : ∀ (i : Nat) (d : Device), t.devices[i]? = some d →
      s.devices[i]? = some d ∨ i = d.deviceId ∧ i = s.devices.length ∧ d.sessionToken = token := by
    intro i d hd
    rw [hdevices, Server.insert] at hd
    obtain hd | ⟨rfl, rfl⟩ := of_getElem?_concat hd
    · exact .inl hd
    · exact .inr ⟨rfl, rfl, rfl⟩
  have hmem : ∀ deviceId token', .invalidated deviceId token' ∈ t.outcomes →
      .invalidated deviceId token' ∈ s.outcomes := by
    intro deviceId token' hm
    rw [houtcomes] at hm
    refine (List.mem_append.mp hm).resolve_right fun ho => ?_
    cases List.mem_singleton.mp ho
  refine ⟨?_, ?_, ?_, ?_, ?_, ?_, ?_, ?_⟩
  · intro i d hd
    obtain hd | ⟨hi, -⟩ := hrows i d hd
    · exact h.ids i d hd
    · exact hi.symm
  · intro i j d₁ d₂ hd₁ hd₂ htoken
    obtain hd₁ | ⟨-, hi, ht₁⟩ := hrows i d₁ hd₁
    · obtain hd₂ | ⟨-, -, ht₂⟩ := hrows j d₂ hd₂
      · exact h.distinct i j d₁ d₂ hd₁ hd₂ htoken
      · exact absurd (htoken.trans ht₂).symm (ne_of_drawn hrandom (h.drawn i d₁ hd₁))
    · obtain hd₂ | ⟨-, hj, -⟩ := hrows j d₂ hd₂
      · exact absurd (ht₁.symm.trans htoken) (ne_of_drawn hrandom (h.drawn j d₂ hd₂))
      · exact hi.trans hj.symm
  · intro i d hd
    rw [hdrawn]
    obtain hd | ⟨-, -, ht⟩ := hrows i d hd
    · exact List.mem_cons_of_mem _ (h.drawn i d hd)
    · rw [ht]
      exact List.mem_cons_self
  · intro deviceId token' hm
    rw [hdrawn]
    exact List.mem_cons_of_mem _ (h.drawn' deviceId token' (hmem _ _ hm))
  · intro flow hflow d hd
    obtain ⟨hsession, row, hrow, hread⟩ := h.reads flow (hflows flow hflow) d hd
    exact ⟨hsession, row, hold _ row hrow, hread⟩
  · intro d hd
    rw [hnow]
    exact h.expired d (hflows _ hd)
  · intro deviceId token' hm
    obtain ⟨row, hrow, hinactive, hrefreshing, hcases⟩ := h.ended deviceId token' (hmem _ _ hm)
    refine ⟨row, hold _ row hrow, hinactive, fun flow hflow => hrefreshing flow (hflows flow hflow), ?_⟩
    rw [hnow]
    refine hcases.imp_left fun hnone => ⟨hnone.1, fun i d hd => ?_⟩
    obtain hd | ⟨-, -, ht⟩ := hrows i d hd
    · exact hnone.2 i d hd
    · rw [ht]
      exact ne_of_drawn hrandom (h.drawn' deviceId token' (hmem _ _ hm))
  · rw [houtcomes]
    refine List.pairwise_append.mpr ⟨h.outlasts, List.pairwise_singleton _ _, fun a _ b hb => ?_⟩
    cases List.mem_singleton.mp hb
    cases a <;> trivial

/-! ## One step -/

/-- An outcome that ends no session, and accepts none but where a flow was going to. -/
def Plain (s : Server) : Outcome → Prop
  | .valid deviceId token =>
    ∃ flow ∈ s.flows, ∃ d ∈ flow.refreshing, d.deviceId = deviceId ∧ d.sessionToken = token
  | .invalidated .. => False
  | _ => True

/-- What a flow does, where no session ends. -/
structure Calm (C : Config) (s : Server) (r : Server × Option Flow) : Prop where
  milder : Milder s r.1
  drawn : r.1.drawn = s.drawn
  now : r.1.now = s.now
  outcomes : r.1.outcomes = s.outcomes ∨ ∃ o : Outcome, r.1.outcomes = s.outcomes ++ [o] ∧ s.Plain o
  next : ∀ flow, r.2 = some flow → s.Fresh C flow

theorem Calm.quiet {r : Server × Option Flow} (h : s.Calm C r) (i : Nat) :
    Quiet C s { r.1 with flows := advance s.flows i r.2 } where
  milder := h.milder
  drawn := h.drawn
  now := h.now.ge
  outcomes := by
    obtain hsame | ⟨o, hone, hplain⟩ := h.outcomes
    · exact ⟨[], hsame.trans (List.append_nil _).symm, Nat.zero_le _, fun _ _ =>
        ⟨List.not_mem_nil, fun hmem => (nomatch hmem)⟩⟩
    · refine ⟨[o], hone, le_rfl, fun deviceId token => ⟨fun hmem => ?_, fun hmem => ?_⟩⟩
      · rw [← List.mem_singleton.mp hmem] at hplain
        exact hplain
      · rw [← List.mem_singleton.mp hmem] at hplain
        exact hplain
  flows flow hflow := (mem_advance hflow).imp_right (h.next flow)

/-- No row changes, and the flow validates nothing next. -/
theorem calm_of_eq {r : Server × Option Flow} (hdevices : r.1.devices = s.devices)
    (hdrawn : r.1.drawn = s.drawn) (hnow : r.1.now = s.now)
    (houtcomes : r.1.outcomes = s.outcomes ∨
      ∃ o : Outcome, r.1.outcomes = s.outcomes ++ [o] ∧ s.Plain o)
    (hnext : ∀ flow, r.2 = some flow → flow.validating = none) : s.Calm C r :=
  ⟨milder_of_eq hdevices, hdrawn, hnow, houtcomes, fun flow hflow => fresh_of_validating (hnext flow hflow)⟩

theorem resume_calm (sweep : Sweep) : s.Calm C (s.resume C sweep) := by
  obtain ⟨flow, hflow, hresume⟩ | ⟨-, hresume⟩ := resume_cases C s sweep <;> rw [hresume]
  · refine calm_of_eq rfl rfl rfl (.inl rfl) fun next hnext => ?_
    cases hnext
    obtain ⟨d, rest, -, -, rfl | ⟨rfl, -⟩⟩ := sweepOn_cases hflow <;> rfl
  · exact calm_of_eq rfl rfl rfl (.inr ⟨_, rfl, trivial⟩) fun next hnext => nomatch hnext

theorem proceed_calm (h : s.Sound C) {i random : Nat} {flow : Flow} (hflow : s.flows[i]? = some flow)
    (hkeeps : flow.Keeps = true) : s.Calm C (s.proceed C random flow) := by
  have hmem := List.mem_of_getElem? hflow
  cases flow with
  | insertDevice | expire | logout | remove => cases hkeeps
  | listed devices => exact resume_calm _
  | sweeping rest => exact resume_calm _
  | readAuth | checkLock | resetLock | comparePassword | resetFailures | countDevices | listDevices =>
    simp only [proceed]
    repeat' split
    all_goals first
      | exact calm_of_eq rfl rfl rfl (.inl rfl) fun next hnext => by cases hnext <;> rfl
      | exact calm_of_eq rfl rfl rfl (.inr ⟨_, rfl, trivial⟩) fun next hnext => by cases hnext
  | recordFailure newAttempts lockedUntil =>
    cases lockedUntil <;>
      exact calm_of_eq rfl rfl rfl (.inr ⟨_, rfl, trivial⟩) fun next hnext => by cases hnext
  | readDevice token =>
    simp only [proceed]
    split
    · exact calm_of_eq rfl rfl rfl (.inr ⟨_, rfl, trivial⟩) fun next hnext => by cases hnext
    · next d hd =>
      refine ⟨milder_of_eq rfl, rfl, rfl, .inl rfl, fun next hnext => ?_⟩
      cases hnext
      refine ⟨fun d' hd' => ?_, fun d' hd' => (by cases hd'), fun d' hd' => (by cases hd')⟩
      cases hd'
      obtain ⟨j, hj⟩ := List.mem_iff_getElem?.mp (List.mem_of_find?_eq_some hd)
      have htoken : d.sessionToken = .session token := by simpa using List.find?_some hd
      rw [← h.ids j d hj] at hj
      exact ⟨⟨token, htoken⟩, d, hj, rfl, rfl⟩
  | checkExpiry d =>
    have hreads := h.reads _ hmem d rfl
    simp only [proceed]
    split
    · next hexpired =>
      refine ⟨milder_of_eq rfl, rfl, rfl, .inl rfl, fun next hnext => ?_⟩
      cases hnext
      refine ⟨fun d' hd' => ?_, fun d' hd' => (by cases hd'), fun d' hd' => ?_⟩
      · cases hd'
        exact hreads
      · cases hd'
        exact hexpired
    · next hunexpired =>
      refine ⟨milder_of_eq rfl, rfl, rfl, .inl rfl, fun next hnext => ?_⟩
      cases hnext
      refine ⟨fun d' hd' => ?_, fun d' hd' => ?_, fun d' hd' => (by cases hd')⟩ <;> cases hd'
      · exact hreads
      · exact hunexpired
  | refresh d seenAt =>
    refine ⟨milder_setDevice d.deviceId rfl (fun _ => ⟨rfl, rfl, rfl⟩) (.inr ⟨_, hmem, d, rfl, rfl⟩),
      rfl, rfl, .inr ⟨_, rfl, _, hmem, d, rfl, rfl, rfl⟩, fun next hnext => (by cases hnext)⟩
  | touch deviceId seenAt rest =>
    refine ⟨milder_setDevice deviceId rfl (fun d => ?_) (.inl fun d hd => ?_), rfl, rfl, .inl rfl,
      fun next hnext => by cases hnext; exact fresh_of_validating rfl⟩
    · split <;> exact ⟨rfl, rfl, rfl⟩
    · split at hd <;> exact hd
  | reap deviceId rest =>
    simp only [proceed]
    split
    · exact calm_of_eq rfl rfl rfl (.inl rfl) fun next hnext => by cases hnext; rfl
    · split
      · refine ⟨milder_setDevice deviceId rfl (fun _ => ⟨rfl, rfl, rfl⟩) (.inl fun _ hd => (by cases hd)),
          rfl, rfl, .inr ⟨_, rfl, trivial⟩, fun next hnext => by cases hnext; exact fresh_of_validating rfl⟩
      · exact calm_of_eq rfl rfl rfl (.inl rfl) fun next hnext => by cases hnext; rfl

/-- A session that has expired is over. -/
theorem Sound.expire (h : s.Sound C) {i : Nat} {d : Device} (hflow : s.flows[i]? = some (.expire d))
    (hfree : ∀ flow ∈ s.flows, ∀ d' ∈ flow.refreshing, d'.deviceId ≠ d.deviceId) :
    ({ s.setDevice d.deviceId fun d => { d with isActive := false } with
      flows := advance s.flows i none }.emit (.invalidated d.deviceId d.sessionToken)).Sound C := by
  have hmem := List.mem_of_getElem? hflow
  obtain ⟨-, row, hrow, htoken, hregistered⟩ := h.reads _ hmem d rfl
  have hcalm : s.Calm C (s.setDevice d.deviceId fun d => { d with isActive := false }, none) :=
    ⟨milder_setDevice d.deviceId rfl (fun _ => ⟨rfl, rfl, rfl⟩) (.inl fun _ hd => (nomatch hd)), rfl, rfl,
      .inl rfl, fun next hnext => nomatch hnext⟩
  have hrow' := @row_of_setDevice s d.deviceId d.deviceId row (fun d => { d with isActive := false }) hrow
  rw [if_pos rfl] at hrow'
  refine (h.quiet (hcalm.quiet i)).emit_invalidated ⟨_, hrow', rfl, fun flow hf => ?_, .inr ⟨htoken, ?_⟩⟩ ?_
  · exact hfree flow (List.mem_of_mem_eraseIdx hf)
  · show C.expiresAt row.registeredAt < s.now
    rw [hregistered]
    exact h.expired d hmem
  · show d.sessionToken.random ∈ s.drawn
    rw [← htoken]
    exact h.drawn _ row hrow

/-- A session is logged out, or its device is removed. -/
theorem Sound.invalidate (h : s.Sound C) {i random : Nat} {d : Device} {token : Token}
    (hrow : s.devices[d.deviceId]? = some d) (hsession : ∀ n, token ≠ .session n)
    (htoken : token.random = random) (hrandom : random ∉ s.drawn)
    (hfree : ∀ flow ∈ s.flows, ∀ d' ∈ flow.validating, d'.deviceId ≠ d.deviceId) :
    { (s.invalidate d token).draw random with flows := advance s.flows i none }.Sound C := by
  subst htoken
  obtain ⟨hsound, hover⟩ := h.replace (t := { (s.setDevice d.deviceId fun d =>
      { d with isActive := false, sessionToken := token }).draw token.random with
        flows := advance s.flows i none })
    hrow hsession hrandom hfree rfl rfl rfl rfl fun flow hf => List.mem_of_mem_eraseIdx hf
  exact hsound.emit_invalidated hover (List.mem_cons_of_mem _ (h.drawn _ d hrow))

theorem Sound.run (h : s.Sound C) {i random : Nat} (hguard : s.Undisturbed (.run i random))
    (hstep : s.step C (.run i random) = some t) : t.Sound C := by
  obtain ⟨flow, hflow, hrandom, rfl⟩ := step_run hstep
  simp only [Undisturbed, hflow] at hguard
  have hnotFound : ∀ o : Outcome, s.Plain o →
      { s.emit o with flows := advance s.flows i none }.Sound C := by
    intro o ho
    have hcalm : s.Calm C (s.emit o, none) :=
      calm_of_eq rfl rfl rfl (.inr ⟨o, rfl, ho⟩) fun next hnext => by cases hnext
    exact h.quiet (hcalm.quiet i)
  cases flow with
  | insertDevice deviceName =>
    have hrandom : (Token.session random).random ∉ s.drawn := hrandom
    exact h.insert hrandom rfl rfl rfl rfl fun flow hf => List.mem_of_mem_eraseIdx hf
  | expire d => exact h.expire hflow hguard
  | logout token =>
    simp only [proceed]
    split
    · exact hnotFound _ trivial
    · next d hd =>
      obtain ⟨j, hj⟩ := List.mem_iff_getElem?.mp (List.mem_of_find?_eq_some hd)
      have htoken : d.sessionToken = .session token := by simpa using List.find?_some hd
      rw [← h.ids j d hj] at hj
      refine h.invalidate hj (fun n hn => (by cases hn)) rfl hrandom fun flow hf d' hd' hid => ?_
      obtain ⟨-, row, hrow, hread, -⟩ := h.reads flow hf d' hd'
      rw [hid, hj] at hrow
      cases hrow
      exact hguard flow hf d' hd' (hread.symm.trans htoken)
  | remove deviceId =>
    simp only [proceed]
    split
    · exact hnotFound _ trivial
    · next d hd =>
      have hid := h.ids deviceId d hd
      subst hid
      exact h.invalidate hd (fun n hn => (by cases hn)) rfl hrandom hguard
  | _ => exact h.quiet ((proceed_calm h hflow rfl).quiet i)

theorem Sound.step (h : s.Sound C) {e : Event} (hguard : s.Undisturbed e)
    (hstep : s.step C e = some t) : t.Sound C := by
  have hstart : ∀ flow : Flow, flow.validating = none → (s.start flow).Sound C := by
    intro flow hnone
    refine h.quiet ⟨milder_of_eq rfl, rfl, le_rfl, ?_, fun flow' hf => ?_⟩
    · exact ⟨[], (List.append_nil _).symm, Nat.zero_le _, fun _ _ =>
        ⟨List.not_mem_nil, fun hmem => (nomatch hmem)⟩⟩
    · refine (List.mem_append.mp hf).imp_right fun hf => ?_
      cases List.mem_singleton.mp hf
      exact fresh_of_validating hnone
  have hsame : ∀ u : Server, u.devices = s.devices → u.drawn = s.drawn → s.now ≤ u.now →
      u.outcomes = s.outcomes → u.flows = s.flows → u.Sound C := by
    intro u hdevices hdrawn hnow houtcomes hflows
    refine h.quiet ⟨milder_of_eq hdevices, hdrawn, hnow, ?_, fun flow hf => .inl (hflows ▸ hf)⟩
    exact ⟨[], houtcomes.trans (List.append_nil _).symm, Nat.zero_le _, fun _ _ =>
      ⟨List.not_mem_nil, fun hmem => (nomatch hmem)⟩⟩
  cases e with
  | run i random => exact h.run hguard hstep
  | login | validateSession | logout | removeDevice | sweep =>
    cases hstep
    exact hstart _ rfl
  | wait milliseconds =>
    cases hstep
    exact hsame _ rfl rfl (Nat.le_add_right ..) rfl rfl
  | connect | disconnect | updatePasswordHash =>
    cases hstep
    exact hsame _ rfl rfl le_rfl rfl rfl
  | calls e =>
    obtain ⟨orchestrator, -, rfl⟩ := Option.map_eq_some_iff.mp hstep
    exact hsame _ rfl rfl le_rfl rfl rfl

theorem Sound.init (C : Config) (hash : Option String) (now : Nat) : (Server.init hash now).Sound C where
  ids _ _ hd := nomatch hd
  distinct _ _ _ _ hd := nomatch hd
  drawn _ _ hd := nomatch hd
  drawn' _ _ hm := nomatch hm
  reads _ hf := nomatch hf
  expired _ hd := nomatch hd
  ended _ _ hm := nomatch hm
  outlasts := .nil

/-- **A session that is over.** -/
theorem never_again {hash : Option String} {now : Nat} {es : List Event}
    (hguard : Guarded (step C) Undisturbed (init hash now) es)
    (hrun : exec (step C) (init hash now) es = some t) : t.NeverAgain :=
  Sound.neverAgain (C := C)
    (hguard.invariant (fun _ _ _ h hg hs => Sound.step h hg hs) (Sound.init C hash now) hrun)

/-- A session that is validated and logged out, and then is not accepted. -/
theorem never_again_loggedOut :
    ∃ t, exec (step exampleConfig) (init (some "secret") 0)
        (loginWith "secret" 6 ++ [.validateSession 0, .run 0 1, .run 0 1, .run 0 1, .logout 0, .run 0 1,
          .validateSession 0, .run 0 2]) = some t ∧ t.NeverAgain :=
  (Option.isSome_iff_exists.mp (by decide +kernel)).imp fun _ hrun =>
    ⟨hrun, never_again (C := exampleConfig) (by decide +kernel) hrun⟩

/-- A session that is logged out while a flow validates it: it is accepted, and active. -/
theorem accepted_after_logout :
    ∃ t, exec (step exampleConfig) (init (some "secret") 0)
        (loginWith "secret" 6 ++ [.validateSession 0, .run 0 1, .logout 0, .run 1 1, .run 0 2, .run 0 2]) =
          some t ∧ ¬ t.NeverAgain := by
  have hrun : (exec (step exampleConfig) (init (some "secret") 0)
      (loginWith "secret" 6 ++ [.validateSession 0, .run 0 1, .logout 0, .run 1 1, .run 0 2, .run 0 2])).map
        (fun t => (t.outcomes, t.devices.map (·.isActive))) =
      some ([.loggedIn 0 (.session 0), .invalidated 0 (.session 0), .valid 0 (.session 0)], [true]) := by
    decide +kernel
  obtain ⟨t, ht, hfields⟩ := Option.map_eq_some_iff.mp hrun
  refine ⟨t, ht, fun h => ?_⟩
  have houtlasts := h.outlasts
  rw [show t.outcomes = _ from congrArg Prod.fst hfields] at houtlasts
  simp [Outcome.Outlasts] at houtlasts

end Server

end Svarla.Sessions
