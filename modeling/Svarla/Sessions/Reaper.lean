import Svarla.Sessions.Lockout

/-!
# The reaper and the calls

A pass of the reaper reads the devices, then the devices of the active calls, and awaits for each device
that it writes. What it has read may be out of date when it deactivates a device: a call may be that
device's by then (`reaped_in_a_call`), or its session may just have been validated.

In the runs where neither happens to a device that a pass has still before it (`Unhurried`), the reaper
deactivates no device of an active call, and only devices that were idle for longer than the limit
(`spares_calls`).
-/

namespace Svarla.Sessions

open Svarla.Lib Svarla.Calls

/-- The devices that the rest of a pass may deactivate. -/
def Sweep.candidates (C : Config) (sweep : Sweep) : List Nat :=
  (sweep.devices.filter fun d => d.isWebDevice && decide (d.lastSeenAt + C.stalenessMs ≤ sweep.now) &&
    decide (C.uuid d.deviceId ∉ sweep.activeCallDeviceIds)).map (·.deviceId)

/-- The web devices that a pass has read, and has not looked at. -/
def Flow.listing : Flow → List Device
  | listed devices => devices.filter (·.isWebDevice)
  | _ => []

/-- The devices that a pass may still deactivate. -/
def Flow.reaping (C : Config) : Flow → List Nat
  | touch _ _ rest | sweeping rest => rest.candidates C
  | reap deviceId rest => deviceId :: rest.candidates C
  | _ => []

/-- The device that a flow is going to mark as seen. -/
def Flow.seeing : Flow → Option Nat
  | refresh d _ => some d.deviceId
  | touch deviceId _ _ => some deviceId
  | _ => none

theorem mem_candidates {C : Config} {sweep : Sweep} {deviceId : Nat} :
    deviceId ∈ sweep.candidates C ↔ ∃ d ∈ sweep.devices, d.isWebDevice = true ∧
      d.lastSeenAt + C.stalenessMs ≤ sweep.now ∧ C.uuid d.deviceId ∉ sweep.activeCallDeviceIds ∧
        d.deviceId = deviceId := by
  simp [Sweep.candidates, and_assoc]

namespace Server

/-- No device that a pass has before it is marked as seen, or comes to be the device of a call; and a
device is not deactivated in the very millisecond in which the limit is reached. -/
def Unhurried (C : Config) (s : Server) : Event → Prop
  | .run i _ =>
    match s.flows[i]? with
    | some (.refresh d _) => ∀ flow ∈ s.flows,
        d.deviceId ∉ flow.listing.map (·.deviceId) ∧ d.deviceId ∉ flow.reaping C
    | some (.touch deviceId _ _) => ∀ flow ∈ s.flows,
        deviceId ∉ flow.listing.map (·.deviceId) ∧ deviceId ∉ flow.reaping C
    | some (.reap deviceId _) => ∀ row ∈ s.devices[deviceId]?, row.isActive = true →
        row.lastSeenAt + C.stalenessMs ≠ s.now
    | _ => True
  | .calls e => ∀ orchestrator ∈ callsStep s.orchestrator e, ∀ flow ∈ s.flows,
      ∀ deviceId ∈ flow.reaping C, C.uuid deviceId ∈ getActiveDeviceIds orchestrator →
        C.uuid deviceId ∈ getActiveDeviceIds s.orchestrator
  | _ => True

instance (C : Config) (s : Server) (e : Event) : Decidable (s.Unhurried C e) := by
  unfold Unhurried
  rcases e with _ | _ | _ | _ | _ | ⟨i, random⟩ | _ | _ | _ | _ | e
  case run =>
    dsimp only
    generalize s.flows[i]? = found
    rcases found with _ | flow
    · exact .isTrue trivial
    · rcases flow with _ | _ | _ | _ | _ | _ | _ | _ | _ | _ | _ | _ | _ | _ | _ | _ | _ | _ | _ <;>
        infer_instance
  case calls => exact inferInstanceAs (Decidable (∀ orchestrator ∈ callsStep s.orchestrator e, _))
  all_goals exact .isTrue trivial

/-! ## What a pass knows -/

/-- The row was not marked as seen since it was read. -/
def Unseen (s : Server) (d : Device) : Prop :=
  ∃ row, s.devices[d.deviceId]? = some row ∧ row.lastSeenAt = d.lastSeenAt

/-- The device has been idle up to the limit. -/
def Stale (C : Config) (s : Server) (deviceId : Nat) : Prop :=
  ∃ row, s.devices[deviceId]? = some row ∧ row.lastSeenAt + C.stalenessMs ≤ s.now

/-- What a flow has read is up to date, for the devices it has before it. -/
structure UpToDate (C : Config) (s : Server) (flow : Flow) : Prop where
  unseen : ∀ d ∈ flow.listing, s.Unseen d
  stale : ∀ deviceId ∈ flow.reaping C, s.Stale C deviceId
  idle : ∀ deviceId ∈ flow.reaping C, C.uuid deviceId ∉ getActiveDeviceIds s.orchestrator

/-- Every device is in the row of its number, and every pass is up to date. -/
structure Current (C : Config) (s : Server) : Prop where
  ids : ∀ (i : Nat) (d : Device), s.devices[i]? = some d → d.deviceId = i
  flows : ∀ flow ∈ s.flows, s.UpToDate C flow

variable {C : Config} {s t : Server}

theorem upToDate_of_nil {flow : Flow} (hlisting : flow.listing = []) (hreaping : flow.reaping C = []) :
    s.UpToDate C flow where
  unseen := by simp [hlisting]
  stale := by simp [hreaping]
  idle := by simp [hreaping]

/-- A flow stays up to date where its devices are not marked as seen, and come into no call. -/
theorem UpToDate.mono {flow : Flow} (h : s.UpToDate C flow) (hnow : s.now ≤ t.now)
    (hrows : ∀ (i : Nat) (d : Device), s.devices[i]? = some d →
      (i ∈ flow.listing.map (·.deviceId) ∨ i ∈ flow.reaping C) →
        ∃ d' : Device, t.devices[i]? = some d' ∧ d'.lastSeenAt = d.lastSeenAt)
    (hcalls : ∀ deviceId ∈ flow.reaping C, C.uuid deviceId ∈ getActiveDeviceIds t.orchestrator →
      C.uuid deviceId ∈ getActiveDeviceIds s.orchestrator) : t.UpToDate C flow where
  unseen d hd := by
    obtain ⟨row, hrow, hseen⟩ := h.unseen d hd
    obtain ⟨row', hrow', hseen'⟩ := hrows _ row hrow (.inl (List.mem_map_of_mem hd))
    exact ⟨row', hrow', hseen'.trans hseen⟩
  stale deviceId hid := by
    obtain ⟨row, hrow, hstale⟩ := h.stale deviceId hid
    obtain ⟨row', hrow', hseen'⟩ := hrows _ row hrow (.inr hid)
    exact ⟨row', hrow', by omega⟩
  idle deviceId hid hactive := h.idle deviceId hid (hcalls deviceId hid hactive)

/-- What a pass goes on with it had before it. -/
theorem mem_reaping_of_resume {sweep : Sweep} {flow : Flow}
    (h : (s.resume C sweep).2 = some flow) :
    flow.listing = [] ∧ ∀ deviceId ∈ flow.reaping C, deviceId ∈ sweep.candidates C := by
  obtain ⟨flow', hflow', hresume⟩ | ⟨-, hresume⟩ := resume_cases C s sweep <;> rw [hresume] at h <;> cases h
  obtain ⟨d, rest, hsuffix, hweb, hflow⟩ := sweepOn_cases hflow'
  have hrest : ∀ deviceId ∈ Sweep.candidates C ⟨rest, sweep.activeCallDeviceIds, sweep.now, sweep.reaped⟩,
      deviceId ∈ sweep.candidates C := by
    intro deviceId hid
    obtain ⟨d', hd', hrest⟩ := mem_candidates.mp hid
    exact mem_candidates.mpr ⟨d', hsuffix.subset (List.mem_cons_of_mem _ hd'), hrest⟩
  obtain rfl | ⟨rfl, hstale, hidle⟩ := hflow
  · exact ⟨rfl, hrest⟩
  · refine ⟨rfl, fun deviceId hid => ?_⟩
    obtain rfl | hid := List.mem_cons.mp hid
    · exact mem_candidates.mpr ⟨d, hsuffix.subset List.mem_cons_self, hweb, hstale, hidle, rfl⟩
    · exact hrest deviceId hid

/-! ## One operation -/

/-- What an operation does to the rows: each stays in its place, and is marked as seen only where the
flow was going to. -/
structure KeepsRows (s : Server) (seeing : Option Nat) (t : Server) : Prop where
  row : ∀ (i : Nat) (d : Device), s.devices[i]? = some d → ∃ d' : Device, t.devices[i]? = some d' ∧
    (d'.lastSeenAt = d.lastSeenAt ∨ seeing = some i)
  ids : (∀ (i : Nat) (d : Device), s.devices[i]? = some d → d.deviceId = i) →
    ∀ (i : Nat) (d : Device), t.devices[i]? = some d → d.deviceId = i

theorem keepsRows_of_eq {seeing : Option Nat} (h : t.devices = s.devices) : KeepsRows s seeing t where
  row i d hd := ⟨d, by rw [h]; exact hd, .inl rfl⟩
  ids hids := by rwa [h]

theorem keepsRows_setDevice {seeing : Option Nat} (deviceId : Nat) (f : Device → Device)
    (ht : t.devices = s.devices.modify deviceId f) (hid : ∀ d, (f d).deviceId = d.deviceId)
    (hseen : (∀ d, (f d).lastSeenAt = d.lastSeenAt) ∨ seeing = some deviceId) : KeepsRows s seeing t where
  row i d hd := by
    refine ⟨if deviceId = i then f d else d, by rw [ht, List.getElem?_modify, hd]; rfl, ?_⟩
    split
    · next hi =>
      subst hi
      exact hseen.imp_left fun h => h d
    · exact .inl rfl
  ids hids i d hd := by
    rw [ht, List.getElem?_modify] at hd
    obtain ⟨d₀, hd₀, rfl⟩ := Option.map_eq_some_iff.mp hd
    split
    · rw [hid]
      exact hids i d₀ hd₀
    · exact hids i d₀ hd₀

theorem proceed_keepsRows (random : Nat) (flow : Flow) :
    KeepsRows s flow.seeing (s.proceed C random flow).1 := by
  have hresume : ∀ sweep, KeepsRows s none (s.resume C sweep).1 := by
    intro sweep
    obtain ⟨flow, -, hresume⟩ | ⟨-, hresume⟩ := resume_cases C s sweep <;> rw [hresume] <;>
      exact keepsRows_of_eq rfl
  cases flow with
  | listed devices => exact hresume _
  | sweeping rest => exact hresume _
  | insertDevice deviceName =>
    refine ⟨fun i d hd => ⟨d, ?_, .inl rfl⟩, fun hids i d hd => ?_⟩
    · obtain ⟨hi, -⟩ := List.getElem?_eq_some_iff.mp hd
      exact (List.getElem?_append_left hi).trans hd
    · obtain hd | ⟨rfl, rfl⟩ := of_getElem?_concat hd
      · exact hids i d hd
      · rfl
  | expire d => exact keepsRows_setDevice d.deviceId _ rfl (fun _ => rfl) (.inl fun _ => rfl)
  | refresh d seenAt => exact keepsRows_setDevice d.deviceId _ rfl (fun _ => rfl) (.inr rfl)
  | touch deviceId seenAt rest =>
    refine keepsRows_setDevice deviceId _ rfl (fun d => ?_) (.inr rfl)
    split <;> rfl
  | reap deviceId rest =>
    simp only [proceed]
    repeat' split
    all_goals first
      | exact keepsRows_of_eq rfl
      | exact keepsRows_setDevice deviceId _ rfl (fun _ => rfl) (.inl fun _ => rfl)
  | logout token =>
    simp only [proceed]
    split
    · exact keepsRows_of_eq rfl
    · next d _ => exact keepsRows_setDevice d.deviceId _ rfl (fun _ => rfl) (.inl fun _ => rfl)
  | remove deviceId =>
    simp only [proceed]
    split
    · exact keepsRows_of_eq rfl
    · next d _ => exact keepsRows_setDevice d.deviceId _ rfl (fun _ => rfl) (.inl fun _ => rfl)
  | recordFailure newAttempts lockedUntil =>
    cases lockedUntil <;> exact keepsRows_of_eq rfl
  | readAuth | checkLock | resetLock | comparePassword | resetFailures | countDevices | readDevice |
      checkExpiry | listDevices =>
    simp only [proceed]
    repeat' split
    all_goals exact keepsRows_of_eq rfl

/-- A flow goes on with nothing that it had not before it; only a new pass reads the devices. -/
theorem proceed_next (h : s.Current C) {random : Nat} {flow next : Flow} (hflow : flow ∈ s.flows)
    (hnext : (s.proceed C random flow).2 = some next) :
    (next.listing = [] ∧ ∀ deviceId ∈ next.reaping C, deviceId ∈ flow.reaping C) ∨
      s.UpToDate C next := by
  cases flow with
  | sweeping rest => exact .inl (mem_reaping_of_resume hnext)
  | listed devices =>
    obtain ⟨hlisting, hreaping⟩ := mem_reaping_of_resume hnext
    refine .inr ⟨by simp [hlisting], fun deviceId hid => ?_, fun deviceId hid => ?_⟩ <;>
      obtain ⟨d, hd, hweb, hstale, hidle, rfl⟩ := mem_candidates.mp (hreaping deviceId hid)
    · obtain ⟨row, hrow, hseen⟩ := (h.flows _ hflow).unseen d (List.mem_filter.mpr ⟨hd, hweb⟩)
      exact ⟨row, hrow, by rw [hseen]; exact hstale⟩
    · exact hidle
  | listDevices =>
    cases hnext
    refine .inr ⟨fun d hd => ?_, fun _ hid => (nomatch hid), fun _ hid => (nomatch hid)⟩
    have hd := List.mem_mergeSort.mp (List.mem_filter.mp hd).1
    obtain ⟨i, hi⟩ := List.mem_iff_getElem?.mp (List.mem_filter.mp hd).1
    refine ⟨d, ?_, rfl⟩
    rw [h.ids i d hi]
    exact hi
  | touch deviceId seenAt rest =>
    cases hnext
    exact .inl ⟨rfl, fun _ hid => hid⟩
  | reap deviceId rest =>
    refine .inl ?_
    simp only [proceed] at hnext
    repeat' split at hnext
    all_goals
      cases hnext
      exact ⟨rfl, fun _ hid => List.mem_cons_of_mem _ hid⟩
  | recordFailure newAttempts lockedUntil => cases lockedUntil <;> cases hnext
  | resetFailures deviceName =>
    simp only [proceed] at hnext
    split at hnext <;> cases hnext <;> exact .inr (upToDate_of_nil rfl rfl)
  | readAuth | checkLock | resetLock | comparePassword | countDevices | readDevice | checkExpiry |
      logout | remove | insertDevice | expire | refresh =>
    simp only [proceed] at hnext
    repeat' split at hnext
    all_goals
      cases hnext <;> exact .inr (upToDate_of_nil rfl rfl)

theorem proceed_orchestrator (random : Nat) (flow : Flow) :
    (s.proceed C random flow).1.orchestrator = s.orchestrator ∧
      (s.proceed C random flow).1.now = s.now := by
  have hresume : ∀ sweep, (s.resume C sweep).1.orchestrator = s.orchestrator ∧
      (s.resume C sweep).1.now = s.now := by
    intro sweep
    obtain ⟨flow, -, hresume⟩ | ⟨-, hresume⟩ := resume_cases C s sweep <;> rw [hresume] <;>
      exact ⟨rfl, rfl⟩
  cases flow with
  | listed devices => exact hresume _
  | sweeping rest => exact hresume _
  | recordFailure newAttempts lockedUntil => cases lockedUntil <;> exact ⟨rfl, rfl⟩
  | resetLock | resetFailures | insertDevice | expire | refresh | listDevices | touch => exact ⟨rfl, rfl⟩
  | readAuth | checkLock | comparePassword | countDevices | readDevice | checkExpiry | logout | remove |
      reap =>
    simp only [proceed]
    repeat' split
    all_goals exact ⟨rfl, rfl⟩

theorem Current.run (h : s.Current C) {i random : Nat} (hguard : s.Unhurried C (.run i random))
    (hstep : s.step C (.run i random) = some t) : t.Current C := by
  obtain ⟨flow, hflow, -, rfl⟩ := step_run hstep
  have hmem := List.mem_of_getElem? hflow
  have hrows := proceed_keepsRows (C := C) (s := s) random flow
  obtain ⟨hcalls, hnow⟩ := proceed_orchestrator (C := C) (s := s) random flow
  have hseeing : ∀ deviceId, flow.seeing = some deviceId → ∀ flow' ∈ s.flows,
      deviceId ∉ flow'.listing.map (·.deviceId) ∧ deviceId ∉ flow'.reaping C := by
    intro deviceId hseeing
    simp only [Unhurried, hflow] at hguard
    cases flow with
    | refresh d seenAt =>
      cases hseeing
      exact hguard
    | touch id seenAt rest =>
      cases hseeing
      exact hguard
    | _ => cases hseeing
  -- what was up to date, or comes from what was, is so after the operation
  have hkeep : ∀ flow', s.UpToDate C flow' → (∀ deviceId, flow.seeing = some deviceId →
      deviceId ∉ flow'.listing.map (·.deviceId) ∧ deviceId ∉ flow'.reaping C) →
        UpToDate C { (s.proceed C random flow).1 with
          flows := advance s.flows i (s.proceed C random flow).2 } flow' := by
    intro flow' hupToDate hfree
    refine hupToDate.mono hnow.ge (fun j d hd hj => ?_) fun deviceId _ hactive => ?_
    · obtain ⟨d', hd', hseen | hseen⟩ := hrows.row j d hd
      · exact ⟨d', hd', hseen⟩
      · obtain ⟨hlisting, hreaping⟩ := hfree j hseen
        exact absurd hj (by tauto)
    · rwa [← hcalls]
  refine ⟨hrows.ids h.ids, fun flow' hflow' => ?_⟩
  obtain hold | hnext := mem_advance hflow'
  · exact hkeep flow' (h.flows flow' hold) fun deviceId hid => hseeing deviceId hid flow' hold
  · obtain ⟨hlisting, hreaping⟩ | hfresh := proceed_next h hmem hnext
    · refine hkeep flow' ⟨by simp [hlisting], fun id hid => ?_, fun id hid => ?_⟩
        fun id hid => ⟨?_, fun hin => ?_⟩
      · exact (h.flows flow hmem).stale id (hreaping id hid)
      · exact (h.flows flow hmem).idle id (hreaping id hid)
      · simp [hlisting]
      · exact (hseeing id hid flow hmem).2 (hreaping id hin)
    · refine hkeep flow' hfresh fun id hid => ?_
      -- a flow that marks a device as seen does not go on with a new pass
      cases flow with
      | refresh d seenAt => cases hnext
      | touch id' seenAt rest =>
        cases hnext
        cases hid
        exact ⟨List.not_mem_nil, (hseeing _ rfl _ hmem).2⟩
      | _ => cases hid

theorem Current.step (h : s.Current C) {e : Event} (hguard : s.Unhurried C e)
    (hstep : s.step C e = some t) : t.Current C := by
  -- nothing but the calls and the clock changes
  have hsame : ∀ u : Server, u.devices = s.devices → u.flows = s.flows → s.now ≤ u.now →
      (∀ flow ∈ s.flows, ∀ deviceId ∈ flow.reaping C,
        C.uuid deviceId ∈ getActiveDeviceIds u.orchestrator →
          C.uuid deviceId ∈ getActiveDeviceIds s.orchestrator) → u.Current C := by
    intro u hdevices hflows hnow hcalls
    refine ⟨by rw [hdevices]; exact h.ids, fun flow hf => ?_⟩
    rw [hflows] at hf
    exact (h.flows flow hf).mono hnow (fun i d hd _ => ⟨d, by rw [hdevices]; exact hd, rfl⟩) (hcalls flow hf)
  have hstart : ∀ flow : Flow, flow.listing = [] → flow.reaping C = [] → (s.start flow).Current C := by
    intro flow hlisting hreaping
    refine ⟨h.ids, fun flow' hf => ?_⟩
    obtain hf | hf := List.mem_append.mp hf
    · obtain ⟨hunseen, hstale, hidle⟩ := h.flows flow' hf
      exact ⟨hunseen, hstale, hidle⟩
    · cases List.mem_singleton.mp hf
      exact upToDate_of_nil hlisting hreaping
  cases e with
  | run i random => exact h.run hguard hstep
  | login | validateSession | logout | removeDevice | sweep =>
    cases hstep
    exact hstart _ rfl rfl
  | wait milliseconds =>
    cases hstep
    exact hsame _ rfl rfl (Nat.le_add_right ..) fun _ _ _ _ hactive => hactive
  | connect | disconnect | updatePasswordHash =>
    cases hstep
    exact hsame _ rfl rfl le_rfl fun _ _ _ _ hactive => hactive
  | calls e =>
    obtain ⟨orchestrator, hcalls, rfl⟩ := Option.map_eq_some_iff.mp hstep
    exact hsame _ rfl rfl le_rfl (hguard orchestrator hcalls)

/-- Only the reaper reaps. -/
theorem reap_of_reaped {i random deviceId : Nat} (hstep : s.step C (.run i random) = some t)
    (hreaped : t.outcomes = s.outcomes ++ [.reaped deviceId]) :
    ∃ rest row, s.flows[i]? = some (.reap deviceId rest) ∧ s.devices[deviceId]? = some row ∧
      row.isActive = true := by
  obtain ⟨flow, hflow, -, rfl⟩ := step_run hstep
  have hemit : ∀ o : Outcome, s.outcomes ++ [o] = s.outcomes ++ [.reaped deviceId] → o = .reaped deviceId :=
    fun o ho => by simpa using ho
  have hsame : s.outcomes ≠ s.outcomes ++ [.reaped deviceId] := by simp
  have hresume : ∀ sweep, (s.resume C sweep).1.outcomes ≠ s.outcomes ++ [.reaped deviceId] := by
    intro sweep hreaped
    obtain ⟨flow, -, hresume⟩ | ⟨-, hresume⟩ := resume_cases C s sweep <;> rw [hresume] at hreaped
    · exact hsame hreaped
    · cases hemit _ hreaped
  cases flow with
  | listed devices => exact absurd hreaped (hresume _)
  | sweeping rest => exact absurd hreaped (hresume _)
  | reap deviceId' rest =>
    simp only [proceed] at hreaped
    split at hreaped
    · exact absurd hreaped hsame
    · next row hrow =>
      split at hreaped
      · next hactive =>
        cases hemit _ hreaped
        exact ⟨rest, row, hflow, hrow, hactive⟩
      · exact absurd hreaped hsame
  | recordFailure newAttempts lockedUntil => cases lockedUntil <;> cases hemit _ hreaped
  | resetLock | resetFailures | listDevices | touch => exact absurd hreaped hsame
  | readAuth | checkLock | comparePassword | countDevices | readDevice | checkExpiry | logout | remove |
      insertDevice | expire | refresh =>
    simp only [proceed] at hreaped
    repeat' split at hreaped
    all_goals first
      | exact absurd hreaped hsame
      | cases hemit _ hreaped

/-- **The reaper.** -/
theorem spares_calls {hash : Option String} {now i random deviceId : Nat} {es : List Event} {u : Server}
    (hguard : Guarded (step C) (Unhurried C) (init hash now) (es ++ [.run i random]))
    (hrun : exec (step C) (init hash now) es = some t) (hstep : t.step C (.run i random) = some u)
    (hreaped : u.outcomes = t.outcomes ++ [.reaped deviceId]) :
    C.uuid deviceId ∉ getActiveDeviceIds t.orchestrator ∧
      ∃ row, t.devices[deviceId]? = some row ∧ row.lastSeenAt + C.stalenessMs < t.now := by
  obtain ⟨hguard, hlast⟩ := hguard.of_append
  have hcurrent : t.Current C :=
    hguard.invariant (fun _ _ _ h hg hs => h.step hg hs)
      ⟨fun _ _ hd => (nomatch hd), fun _ hf => (nomatch hf)⟩ hrun
  obtain ⟨rest, row, hflow, hrow, hactive⟩ := reap_of_reaped hstep hreaped
  have hupToDate := hcurrent.flows _ (List.mem_of_getElem? hflow)
  refine ⟨hupToDate.idle deviceId List.mem_cons_self, row, hrow, ?_⟩
  obtain ⟨row', hrow', hstale⟩ := hupToDate.stale deviceId List.mem_cons_self
  cases hrow.symm.trans hrow'
  have hne := (hlast t hrun).1
  simp only [Unhurried, hflow] at hne
  exact lt_of_le_of_ne hstale (hne row hrow hactive)

/-- A browser that logs in, and whose page is closed for longer than the limit; a pass has found it. -/
def closedBrowser : List Event :=
  [.login "secret" webBrowserDeviceName] ++ List.replicate 5 (.run 0 0) ++
    [.wait 90001, .sweep, .run 0 1, .run 0 1]

/-- The browser is reaped. -/
theorem spares_calls_closedBrowser :
    ∃ t u, exec (step exampleConfig) (init (some "secret") 0) closedBrowser = some t ∧
      t.step exampleConfig (.run 0 1) = some u ∧ u.outcomes = t.outcomes ++ [.reaped 0] ∧
        exampleConfig.uuid 0 ∉ getActiveDeviceIds t.orchestrator ∧
          ∃ row, t.devices[0]? = some row ∧ row.lastSeenAt + exampleConfig.stalenessMs < t.now := by
  have hrun : ((exec (step exampleConfig) (init (some "secret") 0) closedBrowser).bind fun t =>
      (t.step exampleConfig (.run 0 1)).map fun u => decide (u.outcomes = t.outcomes ++ [.reaped 0])) =
        some true := by
    decide +kernel
  obtain ⟨t, ht, hrun⟩ := Option.bind_eq_some_iff.mp hrun
  obtain ⟨u, hu, hreaped⟩ := Option.map_eq_some_iff.mp hrun
  exact ⟨t, u, ht, hu, of_decide_eq_true hreaped,
    spares_calls (by decide +kernel) ht hu (of_decide_eq_true hreaped)⟩

/-- The browser places a call after the pass has found it: it is reaped in the call. And it is reaped
where its session has just been validated. -/
theorem reaped_in_a_call :
    (∃ t u, exec (step exampleConfig) (init (some "secret") 0) (closedBrowser ++
        [.calls (.initiateOutbound "0" "+46700000000" "+46701234567"),
          .calls (.resume 0 (.provider ⟨"entry", "46elks", false, true, true⟩ "call")),
          .calls (.resume 0 (.session none)), .calls (.resume 0 (.placed "placed")),
          .calls (.resume 0 .done)]) = some t ∧
      t.step exampleConfig (.run 0 1) = some u ∧ u.outcomes = t.outcomes ++ [.reaped 0] ∧
        exampleConfig.uuid 0 ∈ getActiveDeviceIds t.orchestrator) ∧
    ∃ t u, exec (step exampleConfig) (init (some "secret") 0) (closedBrowser ++
        [.validateSession 0, .run 1 1, .run 1 1, .run 1 1]) = some t ∧
      t.step exampleConfig (.run 0 1) = some u ∧ u.outcomes = t.outcomes ++ [.reaped 0] ∧
        t.devices.map (·.lastSeenAt) = [t.now] := by
  have hcall : ((exec (step exampleConfig) (init (some "secret") 0) (closedBrowser ++
      [.calls (.initiateOutbound "0" "+46700000000" "+46701234567"),
        .calls (.resume 0 (.provider ⟨"entry", "46elks", false, true, true⟩ "call")),
        .calls (.resume 0 (.session none)), .calls (.resume 0 (.placed "placed")),
        .calls (.resume 0 .done)])).bind fun t =>
      (t.step exampleConfig (.run 0 1)).map fun u => decide (u.outcomes = t.outcomes ++ [.reaped 0] ∧
        exampleConfig.uuid 0 ∈ getActiveDeviceIds t.orchestrator)) = some true := by
    decide +kernel
  have hseen : ((exec (step exampleConfig) (init (some "secret") 0) (closedBrowser ++
      [.validateSession 0, .run 1 1, .run 1 1, .run 1 1])).bind fun t =>
      (t.step exampleConfig (.run 0 1)).map fun u => decide (u.outcomes = t.outcomes ++ [.reaped 0] ∧
        t.devices.map (·.lastSeenAt) = [t.now])) = some true := by
    decide +kernel
  obtain ⟨t, ht, hcall⟩ := Option.bind_eq_some_iff.mp hcall
  obtain ⟨u, hu, hcall⟩ := Option.map_eq_some_iff.mp hcall
  obtain ⟨t', ht', hseen⟩ := Option.bind_eq_some_iff.mp hseen
  obtain ⟨u', hu', hseen⟩ := Option.map_eq_some_iff.mp hseen
  exact ⟨⟨t, u, ht, hu, of_decide_eq_true hcall⟩, t', u', ht', hu', of_decide_eq_true hseen⟩

end Server

end Svarla.Sessions
