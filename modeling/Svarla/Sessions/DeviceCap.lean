import Svarla.Sessions.Lockout

/-!
# The limit of devices

`registerDevice` counts the active devices, and inserts a row after it. Registrations that overlap count
the same devices (`six_devices`), and `validateSession` makes a device active without counting, also one
that was removed while it was at work.

In the runs where a registration counts too few, or a device comes back, only while there is room for the
registrations that have counted already (`RoomFor`), no more devices than the limit are active at any
time (`cap_kept`).
-/

namespace Svarla.Sessions

open Svarla.Lib

/-! ## Rows that change -/

section
variable {α : Type*} {p : α → Bool} {f : α → α}

/-- At most one row more. -/
theorem countP_modify_le_succ (l : List α) (i : Nat) : (l.modify i f).countP p ≤ l.countP p + 1 := by
  induction l generalizing i with
  | nil => simp
  | cons a l ih =>
    cases i with
    | zero =>
      simp only [List.modify_zero_cons, List.countP_cons]
      split <;> split <;> omega
    | succ i =>
      simp only [List.modify_succ_cons, List.countP_cons]
      have := ih i
      omega

/-- No row more, if the row that changes was counted. -/
theorem countP_modify_le {l : List α} {i : Nat} (h : ∀ a, l[i]? = some a → p (f a) = true → p a = true) :
    (l.modify i f).countP p ≤ l.countP p := by
  induction l generalizing i with
  | nil => simp
  | cons a l ih =>
    cases i with
    | zero =>
      have ha := h a rfl
      simp only [List.modify_zero_cons, List.countP_cons]
      split
      · next hfa =>
        rw [if_pos (ha hfa)]
      · omega
    | succ i =>
      simp only [List.modify_succ_cons, List.countP_cons]
      have := ih (i := i) h
      omega

end

/-- An active device that counts against the limit. -/
def Device.countsActive (d : Device) : Bool := d.isActive && !d.isWebDevice

/-- A registration that has counted, and has not inserted. -/
def Flow.waiting : Flow → Nat
  | .insertDevice deviceName => if deviceName = webBrowserDeviceName then 0 else 1
  | _ => 0

namespace Server

def activeCount (s : Server) : Nat := s.devices.countP (·.countsActive)

/-- There is room for one more, besides the registrations that have counted. -/
def HasRoom (s : Server) : Prop := s.activeCount + owed Flow.waiting s.flows < maxActiveDevices

instance (s : Server) : Decidable s.HasRoom := inferInstanceAs (Decidable (_ < _))

/-- A registration passes the limit, or a device that is not active comes back, only where there is
room. -/
def RoomFor (s : Server) : Event → Prop
  | .run i _ =>
    match s.flows[i]? with
    | some (.countDevices _) => s.getActiveDeviceCount < maxActiveDevices → s.HasRoom
    | some (.refresh d _) =>
      ∀ row ∈ s.devices[d.deviceId]?, row.isActive = false → row.isWebDevice = false → s.HasRoom
    | _ => True
  | _ => True

instance (s : Server) (e : Event) : Decidable (s.RoomFor e) := by
  unfold RoomFor
  rcases e with _ | _ | _ | _ | _ | ⟨i, random⟩ | _ | _ | _ | _ | e
  case run =>
    dsimp only
    generalize s.flows[i]? = found
    rcases found with _ | flow
    · exact .isTrue trivial
    · rcases flow with _ | _ | _ | _ | _ | _ | _ | _ | _ | _ | _ | _ | _ | _ | _ | _ | _ | _ | _ <;>
        infer_instance
  all_goals exact .isTrue trivial

variable {C : Config} {s t : Server}

/-- The row of a device changes, and is counted only if it was before. -/
theorem activeCount_setDevice_le {deviceId : Nat} {f : Device → Device}
    (h : ∀ d, s.devices[deviceId]? = some d → (f d).countsActive = true → d.countsActive = true) :
    (s.setDevice deviceId f).activeCount ≤ s.activeCount :=
  countP_modify_le h

/-- What a flow does to the devices that count, and to the registrations that wait. -/
theorem proceed_activeCount {random i : Nat} {flow : Flow} (hflow : s.flows[i]? = some flow)
    (hguard : s.RoomFor (.run i random)) :
    (s.proceed C random flow).1.activeCount + (s.proceed C random flow).2.elim 0 Flow.waiting ≤
        s.activeCount + flow.waiting ∨
      s.HasRoom ∧ (s.proceed C random flow).1.activeCount +
        (s.proceed C random flow).2.elim 0 Flow.waiting ≤ s.activeCount + flow.waiting + 1 := by
  have hresume : ∀ sweep, (s.resume C sweep).1.activeCount +
      (s.resume C sweep).2.elim 0 Flow.waiting ≤ s.activeCount := by
    intro sweep
    obtain ⟨flow, hflow, hresume⟩ | ⟨-, hresume⟩ := resume_cases C s sweep <;> rw [hresume]
    · obtain ⟨d, rest, -, -, rfl | ⟨rfl, -⟩⟩ := sweepOn_cases hflow <;> exact le_rfl
    · exact le_rfl
  have hoff : ∀ (deviceId : Nat) (f : Device → Device), (∀ d, (f d).isActive = false) →
      (s.setDevice deviceId f).activeCount ≤ s.activeCount := by
    intro deviceId f hf
    refine activeCount_setDevice_le fun d _ hcount => ?_
    rw [Device.countsActive, hf d] at hcount
    cases hcount
  cases flow with
  | listed devices => exact .inl (hresume _)
  | sweeping rest => exact .inl (hresume _)
  | resetLock | listDevices => exact .inl le_rfl
  | readAuth | readDevice | checkExpiry | logout | remove | checkLock | comparePassword =>
    refine .inl ?_
    simp only [proceed]
    repeat' split
    all_goals first
      | exact le_rfl
      | exact hoff _ _ fun _ => rfl
  | recordFailure newAttempts lockedUntil =>
    cases lockedUntil <;> exact .inl le_rfl
  | resetFailures deviceName =>
    refine .inl ?_
    simp only [proceed, Option.elim_some]
    split
    · next hweb =>
      rw [Flow.waiting, if_pos hweb]
      exact le_rfl
    · exact le_rfl
  | countDevices deviceName =>
    simp only [RoomFor, hflow] at hguard
    simp only [proceed]
    split
    · exact .inl le_rfl
    · next hcount =>
      refine .inr ⟨hguard (not_le.mp hcount), ?_⟩
      simp only [Option.elim_some, Flow.waiting]
      split <;> omega
  | insertDevice deviceName =>
    refine .inl ?_
    simp only [proceed, activeCount, insert, draw, emit, List.countP_append, List.countP_singleton,
      Device.countsActive, Device.isWebDevice, Option.elim_none, Flow.waiting]
    by_cases hweb : deviceName = webBrowserDeviceName <;> simp [hweb]
  | expire d => exact .inl (hoff _ _ fun _ => rfl)
  | refresh d seenAt =>
    simp only [RoomFor, hflow] at hguard
    by_cases hback : ∃ row ∈ s.devices[d.deviceId]?, row.isActive = false ∧ row.isWebDevice = false
    · obtain ⟨row, hrow, hactive, hweb⟩ := hback
      exact .inr ⟨hguard row hrow hactive hweb, countP_modify_le_succ ..⟩
    · refine .inl (activeCount_setDevice_le fun row hrow hcount => ?_)
      have hnot : ¬ (row.isActive = false ∧ row.isWebDevice = false) := fun h => hback ⟨row, hrow, h⟩
      have hweb : row.isWebDevice = false := by
        simpa [Device.countsActive, Device.isWebDevice] using hcount
      have hactive : row.isActive = true := by
        cases hrowActive : row.isActive with
        | true => rfl
        | false => exact absurd ⟨hrowActive, hweb⟩ hnot
      simp [Device.countsActive, hactive, hweb]
  | touch deviceId seenAt rest =>
    refine .inl (activeCount_setDevice_le fun row _ hcount => ?_)
    split at hcount <;> exact hcount
  | reap deviceId rest =>
    refine .inl ?_
    simp only [proceed]
    split
    · exact le_rfl
    · split
      · exact hoff _ _ fun _ => rfl
      · exact le_rfl

/-- The active devices and the registrations that wait keep within the limit. -/
def Capped (s : Server) : Prop := s.activeCount + owed Flow.waiting s.flows ≤ maxActiveDevices

theorem Capped.step (h : s.Capped) {e : Event} (hguard : s.RoomFor e) (hstep : s.step C e = some t) :
    t.Capped := by
  have hstart : ∀ flow : Flow, flow.waiting = 0 → (s.start flow).Capped := by
    intro flow hwaiting
    show s.activeCount + owed Flow.waiting (s.flows ++ [flow]) ≤ _
    rw [owed_concat, hwaiting]
    exact h
  cases e with
  | run i random =>
    obtain ⟨flow, hflow, -, rfl⟩ := step_run hstep
    have howed := owed_advance hflow Flow.waiting (s.proceed C random flow).2
    show (s.proceed C random flow).1.activeCount + owed Flow.waiting (advance ..) ≤ _
    have h : s.activeCount + owed Flow.waiting s.flows ≤ maxActiveDevices := h
    obtain hle | ⟨hroom, hle⟩ := proceed_activeCount (C := C) hflow hguard
    · omega
    · have hroom : s.activeCount + owed Flow.waiting s.flows < maxActiveDevices := hroom
      omega
  | login | validateSession | logout | removeDevice | sweep =>
    cases hstep
    exact hstart _ rfl
  | wait | connect | disconnect | updatePasswordHash =>
    cases hstep
    exact h
  | calls e =>
    obtain ⟨orchestrator, -, rfl⟩ := Option.map_eq_some_iff.mp hstep
    exact h

/-- A registration that is rejected leaves the rows as they are. -/
theorem devices_of_limitExceeded {i random : Nat} (hstep : s.step C (.run i random) = some t)
    (hrejected : t.outcomes = s.outcomes ++ [.limitExceeded]) : t.devices = s.devices := by
  obtain ⟨flow, -, -, rfl⟩ := step_run hstep
  have hemit : ∀ o : Outcome, s.outcomes ++ [o] = s.outcomes ++ [.limitExceeded] → o = .limitExceeded :=
    fun o ho => by simpa using ho
  have hsame : s.outcomes ≠ s.outcomes ++ [.limitExceeded] := by simp
  have hresume : ∀ sweep, (s.resume C sweep).1.devices = s.devices := by
    intro sweep
    obtain ⟨flow, -, hresume⟩ | ⟨-, hresume⟩ := resume_cases C s sweep <;> rw [hresume]
    rfl
  cases flow with
  | countDevices deviceName =>
    simp only [proceed]
    split <;> rfl
  | insertDevice deviceName => cases hemit _ hrejected
  | expire d => cases hemit _ hrejected
  | refresh d seenAt => cases hemit _ hrejected
  | touch deviceId seenAt rest => exact absurd hrejected hsame
  | reap deviceId rest =>
    simp only [proceed] at hrejected ⊢
    split at hrejected
    · rfl
    · split at hrejected
      · cases hemit _ hrejected
      · exact absurd hrejected hsame
  | logout token =>
    simp only [proceed] at hrejected ⊢
    split at hrejected
    · rfl
    · cases hemit _ hrejected
  | remove deviceId =>
    simp only [proceed] at hrejected ⊢
    split at hrejected
    · rfl
    · cases hemit _ hrejected
  | listed devices => exact hresume _
  | sweeping rest => exact hresume _
  | recordFailure newAttempts lockedUntil => cases lockedUntil <;> rfl
  | resetLock | resetFailures | listDevices => rfl
  | readAuth | readDevice | checkExpiry | checkLock | comparePassword =>
    simp only [proceed]
    repeat' split
    all_goals rfl

/-- **The limit.** -/
theorem cap_kept {hash : Option String} {now : Nat} {es : List Event}
    (hguard : Guarded (step C) RoomFor (init hash now) es)
    (hrun : exec (step C) (init hash now) es = some t) :
    t.activeCount ≤ maxActiveDevices ∧
      ∀ i random u, t.step C (.run i random) = some u →
        u.outcomes = t.outcomes ++ [.limitExceeded] → u.devices = t.devices := by
  have hcapped : t.Capped :=
    hguard.invariant (fun _ _ _ h hg hs => h.step hg hs) (Nat.zero_le _) hrun
  have hle : t.activeCount + owed Flow.waiting t.flows ≤ maxActiveDevices := hcapped
  exact ⟨by omega, fun _ _ _ hstep hrejected => devices_of_limitExceeded hstep hrejected⟩

/-- A phone that logs in. -/
def loginOf (random : Nat) : List Event :=
  .login "secret" "Phone" :: List.replicate 6 (.run 0 random)

/-- Two phones, one after the other. -/
theorem cap_kept_phones :
    ∃ t, exec (step exampleConfig) (init (some "secret") 0) (loginOf 0 ++ loginOf 1) = some t ∧
      t.activeCount ≤ maxActiveDevices ∧
        ∀ i random u, t.step exampleConfig (.run i random) = some u →
          u.outcomes = t.outcomes ++ [.limitExceeded] → u.devices = t.devices :=
  (Option.isSome_iff_exists.mp (by decide +kernel)).imp fun _ hrun =>
    ⟨hrun, cap_kept (by decide +kernel) hrun⟩

/-- Two phones that log in at once, after four others. -/
theorem six_devices :
    ∃ t, exec (step exampleConfig) (init (some "secret") 0)
        (loginOf 0 ++ loginOf 1 ++ loginOf 2 ++ loginOf 3 ++
          [.login "secret" "Phone", .login "secret" "Phone"] ++
            List.replicate 5 (.run 0 4) ++ List.replicate 5 (.run 1 4) ++ [.run 0 4, .run 0 5]) = some t ∧
      ¬ t.activeCount ≤ maxActiveDevices := by
  have hrun : (exec (step exampleConfig) (init (some "secret") 0)
      (loginOf 0 ++ loginOf 1 ++ loginOf 2 ++ loginOf 3 ++
        [.login "secret" "Phone", .login "secret" "Phone"] ++
          List.replicate 5 (.run 0 4) ++ List.replicate 5 (.run 1 4) ++ [.run 0 4, .run 0 5])).map
    (·.activeCount) = some 6 := by
    decide +kernel
  obtain ⟨t, ht, hcount⟩ := Option.map_eq_some_iff.mp hrun
  exact ⟨t, ht, by rw [hcount]; decide⟩

end Server

end Svarla.Sessions
