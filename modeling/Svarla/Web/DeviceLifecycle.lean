import Svarla.Lib.Run

/-!
# The browser as a device

`DeviceLifecycle` registers the browser: it takes the device from the storage where it is still active, or
provisions one. An attempt has ten seconds, after which nobody waits for it any more, but it goes on:
what `reconcile` provisions then is written to the storage all the same, beside an attempt that was
started meanwhile. And `logout` clears what is stored and shown, but not the attempt that is in flight.

So one request at a time provisions a device, and what is shown is what is stored, in exactly the runs
that meet `Timely` (`timely_iff_consistent`).
-/

namespace Svarla.Web

open Svarla.Lib

/-- `DeviceRegistrationState`. -/
structure DeviceRegistrationState where
  deviceId : Option String
  error : Option String
  registering : Bool
  deriving DecidableEq, Repr

/-- `INBOUND_UNAVAILABLE_MESSAGE`. -/
def inboundUnavailableMessage : String := "inbound calling unavailable"

/-- What an attempt waits for. -/
inductive Attempt
  /-- `isDeviceActive`, for the device that was stored. -/
  | checking (persisted : String)
  /-- `provision`, of `reconcile` or not. -/
  | provisioning (reconciling : Bool)
  | settled
  deriving DecidableEq, Repr

/-- `DeviceLifecycle`, with its attempts in the order of their start. -/
structure DeviceLifecycle where
  /-- Whether `localStorage` can be written, and the device that is stored. -/
  usable : Bool
  persisted : Option String
  registered : DeviceRegistrationState
  attempts : List Attempt
  inFlight : Option Nat
  /-- The requests for a logout that are under way. -/
  logouts : Nat
  /-- How many attempts there were at the last logout, and whether one since has succeeded. -/
  loggedOut : Option Nat
  anew : Bool
  /-- A result that came when nobody waited for it any more has changed something. -/
  lateChange : Bool
  deriving DecidableEq, Repr

inductive LifecycleEvent
  | ensureRegistered
  | reconcileOnReconnect
  | retry
  /-- The answer to `GET /api/devices`: is the device active? -/
  | devices (i : Nat) (active : Option Bool)
  /-- The result of `provision`. -/
  | provisioned (i : Nat) (deviceId : Option String)
  | timeout (i : Nat)
  /-- `logout`, and the answer to its request, of whatever kind. -/
  | logout
  | loggedOut
  deriving DecidableEq, Repr

namespace DeviceLifecycle

/-- `createDeviceLifecycle`, with what is stored. -/
def create (persisted : Option String) (usable : Bool) : DeviceLifecycle :=
  ⟨usable, if usable then persisted else none, ⟨if usable then persisted else none, none, false⟩, [], none, 0,
    none, false, false⟩

/-- `writePersistedDeviceId`. -/
def write (s : DeviceLifecycle) (deviceId : String) : DeviceLifecycle :=
  if s.usable then { s with persisted := some deviceId } else s

/-- An attempt begins. -/
def begin (s : DeviceLifecycle) (attempt : Attempt) : DeviceLifecycle :=
  { s with
    registered := { s.registered with registering := true, error := none }
    attempts := s.attempts ++ [attempt]
    inFlight := some s.attempts.length }

/-- `finishRegistering`, and what follows it. -/
def finish (s : DeviceLifecycle) (i : Nat) (deviceId : String) : DeviceLifecycle :=
  { s with
    registered := ⟨some deviceId, none, false⟩
    inFlight := none
    anew := s.anew || s.loggedOut.any (· ≤ i) }

/-- `failRegistering`, and what follows it. -/
def fail (s : DeviceLifecycle) : DeviceLifecycle :=
  { s with
    registered := { s.registered with registering := false, error := some inboundUnavailableMessage }
    inFlight := none }

def settle (s : DeviceLifecycle) (i : Nat) (attempt : Attempt) : DeviceLifecycle :=
  { s with attempts := s.attempts.set i attempt }

/-- A result is in; nobody may wait for it any more. -/
def noteLate (s t : DeviceLifecycle) (i : Nat) : DeviceLifecycle :=
  if s.inFlight = some i then t
  else { t with
    lateChange := s.lateChange || t.persisted ≠ s.persisted || t.registered.deviceId ≠ s.registered.deviceId }

/-- `provisionAndPersist`. -/
def provisionAndPersist (s : DeviceLifecycle) : DeviceLifecycle :=
  match s.inFlight with
  | some _ => s
  | none => s.begin (.provisioning false)

/-- `ensureRegistered`. -/
def ensureRegistered (s : DeviceLifecycle) : DeviceLifecycle :=
  match s.persisted with
  | some persisted =>
    if s.registered.deviceId ≠ some persisted ∨ s.registered.error ≠ none then
      { s with registered := { s.registered with deviceId := some persisted, error := none } }
    else s
  | none => s.provisionAndPersist

/-- `reconcileOnReconnect`. -/
def reconcileOnReconnect (s : DeviceLifecycle) : DeviceLifecycle :=
  match s.inFlight with
  | some _ => s
  | none =>
    match s.persisted with
    | none => s.provisionAndPersist
    | some persisted => s.begin (.checking persisted)

/-- `retry`. -/
def retry (s : DeviceLifecycle) : DeviceLifecycle :=
  reconcileOnReconnect { s with registered := { s.registered with error := none } }

/-- The answer about a device, for the `i`-th attempt. -/
def onDevices (s : DeviceLifecycle) (i : Nat) (persisted : String) : Option Bool → DeviceLifecycle
  | some true =>
    let t := s.settle i .settled
    if s.inFlight = some i then t.finish i persisted else t
  | some false => s.settle i (.provisioning true)
  | none =>
    let t := s.settle i .settled
    if s.inFlight = some i then t.fail else t

/-- The result of provisioning, for the `i`-th attempt. -/
def onProvisioned (s : DeviceLifecycle) (i : Nat) (reconciling : Bool) : Option String → DeviceLifecycle
  | some deviceId =>
    let t := s.settle i .settled
    -- `reconcile` writes it before the time-out has a say
    if s.inFlight = some i then (t.write deviceId).finish i deviceId
    else if reconciling then t.write deviceId
    else t
  | none =>
    let t := s.settle i .settled
    if s.inFlight = some i then t.fail else t

def step (s : DeviceLifecycle) : LifecycleEvent → Option DeviceLifecycle
  | .ensureRegistered => some s.ensureRegistered
  | .reconcileOnReconnect => some s.reconcileOnReconnect
  | .retry => some s.retry
  | .devices i active =>
    match s.attempts[i]? with
    | some (.checking persisted) => some (s.noteLate (s.onDevices i persisted active) i)
    | _ => none
  | .provisioned i deviceId =>
    match s.attempts[i]? with
    | some (.provisioning reconciling) => some (s.noteLate (s.onProvisioned i reconciling deviceId) i)
    | _ => none
  | .timeout i => if s.inFlight = some i then some s.fail else none
  | .logout => some { s with logouts := s.logouts + 1 }
  | .loggedOut =>
    if s.logouts = 0 then none
    else some { s with
      logouts := s.logouts - 1
      persisted := none
      registered := ⟨none, none, false⟩
      loggedOut := some s.attempts.length
      anew := false }

/-- The `i`-th attempt has a request under way that provisions a device. -/
def Provisions (s : DeviceLifecycle) (i : Nat) : Prop :=
  ∃ reconciling, s.attempts[i]? = some (.provisioning reconciling)

/-- One request at a time, and what is shown is stored, as long as nobody has logged out. -/
structure Consistent (s : DeviceLifecycle) : Prop where
  single : ∀ i j, s.Provisions i → s.Provisions j → i = j
  shown : s.inFlight = none → s.registered.deviceId = s.persisted
  ignored : s.lateChange = false
  cleared : ∀ n, s.loggedOut = some n → s.anew = false → s.persisted = none ∧ s.registered.deviceId = none

/-- The condition: no attempt starts to provision beside another that still does; a device that is found
active is still stored; and one that was provisioned is awaited, by an attempt from after the last logout,
and can be stored, or nobody waits and it does not get to the storage, or is there already. -/
def Timely (s : DeviceLifecycle) : LifecycleEvent → Prop
  | .ensureRegistered | .reconcileOnReconnect | .retry =>
    s.inFlight = none → s.persisted = none → ∀ i, ¬ s.Provisions i
  | .devices i (some true) => s.inFlight = some i → ∀ persisted, s.attempts[i]? = some (.checking persisted) →
    s.persisted = some persisted
  | .devices i (some false) => ∀ persisted, s.attempts[i]? = some (.checking persisted) →
      ∀ j, ¬ s.Provisions j
  | .provisioned i (some deviceId) => ∀ reconciling, s.attempts[i]? = some (.provisioning reconciling) →
    if s.inFlight = some i then s.usable = true ∧ ∀ n, s.loggedOut = some n → n ≤ i
    else reconciling = true → s.usable = true → s.persisted = some deviceId
  | _ => True

/-! ## What the condition keeps -/

variable {s t : DeviceLifecycle}

/-- What is shown is stored at any time; and an attempt that is in flight is the last one. -/
structure Steady (s : DeviceLifecycle) : Prop where
  single : ∀ i j, s.Provisions i → s.Provisions j → i = j
  shown : s.registered.deviceId = s.persisted
  ignored : s.lateChange = false
  cleared : ∀ n, s.loggedOut = some n → s.anew = false → s.persisted = none
  counted : ∀ n, s.loggedOut = some n → n ≤ s.attempts.length
  stored : s.usable = false → s.persisted = none
  started : ∀ n i, s.loggedOut = some n → s.anew = true → s.inFlight = some i → n ≤ i

theorem Steady.consistent (h : s.Steady) : s.Consistent where
  single := h.single
  shown _ := h.shown
  ignored := h.ignored
  cleared n hn hanew := ⟨h.cleared n hn hanew, h.shown.trans (h.cleared n hn hanew)⟩

/-- A change that neither provisions nor shows anything else. -/
structure Quiet (s t : DeviceLifecycle) : Prop where
  provisions : ∀ i, t.Provisions i → s.Provisions i
  usable : t.usable = s.usable
  persisted : t.persisted = s.persisted
  deviceId : t.registered.deviceId = s.registered.deviceId
  loggedOut : t.loggedOut = s.loggedOut
  anew : t.anew = s.anew
  lateChange : t.lateChange = s.lateChange
  length : s.attempts.length ≤ t.attempts.length
  inFlight : ∀ i, t.inFlight = some i → s.inFlight = some i ∨ i = s.attempts.length

theorem Steady.quiet (h : s.Steady) (hquiet : Quiet s t) : t.Steady where
  single i j hi hj := h.single i j (hquiet.provisions i hi) (hquiet.provisions j hj)
  shown := by rw [hquiet.deviceId, hquiet.persisted, h.shown]
  ignored := hquiet.lateChange.trans h.ignored
  cleared n hn hanew :=
    hquiet.persisted.trans (h.cleared n (hquiet.loggedOut ▸ hn) (hquiet.anew ▸ hanew))
  counted n hn := Nat.le_trans (h.counted n (hquiet.loggedOut ▸ hn)) hquiet.length
  stored husable := hquiet.persisted.trans (h.stored (hquiet.usable ▸ husable))
  started n i hn hanew hi := by
    rcases hquiet.inFlight i hi with hi | rfl
    · exact h.started n i (hquiet.loggedOut ▸ hn) (hquiet.anew ▸ hanew) hi
    · exact h.counted n (hquiet.loggedOut ▸ hn)

theorem provisions_settle {i : Nat} {attempt : Attempt} {j : Nat} :
    (s.settle i attempt).Provisions j ↔
      j ≠ i ∧ s.Provisions j ∨ j = i ∧ i < s.attempts.length ∧
        ∃ reconciling, attempt = .provisioning reconciling := by
  unfold Provisions settle
  dsimp only
  by_cases hij : i = j
  · subst hij
    by_cases hi : i < s.attempts.length
    · simp [hi]
    · simp [hi]
  · simp [List.getElem?_set_ne hij, Ne.symm hij]

theorem provisions_begin {attempt : Attempt} {j : Nat} :
    (s.begin attempt).Provisions j ↔
      s.Provisions j ∨ j = s.attempts.length ∧ ∃ reconciling, attempt = .provisioning reconciling := by
  unfold Provisions begin
  dsimp only
  rcases Nat.lt_trichotomy j s.attempts.length with hlt | rfl | hgt
  · rw [List.getElem?_append_left hlt]
    exact ⟨.inl, fun h => h.resolve_right fun h => Nat.ne_of_lt hlt h.1⟩
  · simp
  · have hnone : s.attempts[j]? = none := List.getElem?_eq_none (Nat.le_of_lt hgt)
    rw [hnone, List.getElem?_eq_none (by rw [List.length_append, List.length_singleton]; exact hgt)]
    simp [Nat.ne_of_gt hgt]

/-- The end of an attempt. -/
theorem quiet_settle (s : DeviceLifecycle) (i : Nat) : Quiet s (s.settle i .settled) where
  provisions j hj := by
    rcases provisions_settle.mp hj with ⟨-, hj⟩ | ⟨-, -, _, hsettled⟩
    · exact hj
    · cases hsettled
  usable := rfl
  persisted := rfl
  deviceId := rfl
  loggedOut := rfl
  anew := rfl
  lateChange := rfl
  length := Nat.le_of_eq (List.length_set ..).symm
  inFlight _ hi := .inl hi

theorem quiet_fail (s : DeviceLifecycle) : Quiet s s.fail :=
  ⟨fun _ hi => hi, rfl, rfl, rfl, rfl, rfl, rfl, Nat.le_refl _, nofun⟩

theorem Quiet.trans {u : DeviceLifecycle} (h : Quiet s t) (h' : Quiet t u)
    (hlength : t.attempts.length = s.attempts.length) : Quiet s u where
  provisions i hi := h.provisions i (h'.provisions i hi)
  usable := h'.usable.trans h.usable
  persisted := h'.persisted.trans h.persisted
  deviceId := h'.deviceId.trans h.deviceId
  loggedOut := h'.loggedOut.trans h.loggedOut
  anew := h'.anew.trans h.anew
  lateChange := h'.lateChange.trans h.lateChange
  length := Nat.le_trans h.length h'.length
  inFlight i hi := (h'.inFlight i hi).elim (h.inFlight i) fun heq => .inr (heq.trans hlength)

/-- Nobody waits, and nothing changes. -/
theorem Quiet.noteLate (h : Quiet s t) (i : Nat) : Quiet s (s.noteLate t i) := by
  unfold DeviceLifecycle.noteLate
  split
  · exact h
  · refine ⟨h.provisions, h.usable, h.persisted, h.deviceId, h.loggedOut, h.anew, ?_, h.length, h.inFlight⟩
    simp [h.persisted, h.deviceId]

/-! ## Each step -/

/-- An attempt that provisions may begin where no other provisions. -/
theorem begin_provisioning (h : s.Steady) :
    (∀ i, ¬ s.Provisions i) ∧ (s.begin (.provisioning false)).Steady ∨
      ¬ (∀ i, ¬ s.Provisions i) ∧ ¬ (s.begin (.provisioning false)).Consistent := by
  by_cases hnone : ∀ i, ¬ s.Provisions i
  · refine .inl ⟨hnone, fun i j hi hj => ?_, h.shown, h.ignored, h.cleared, fun n hn => ?_, h.stored,
      fun n i hn _ hi => ?_⟩
    · rcases provisions_begin.mp hi with hi | ⟨rfl, -⟩
      · exact absurd hi (hnone i)
      · rcases provisions_begin.mp hj with hj | ⟨rfl, -⟩
        · exact absurd hj (hnone j)
        · rfl
    · exact Nat.le_trans (h.counted n hn) (by simp [begin])
    · cases hi
      exact h.counted n hn
  · refine .inr ⟨hnone, fun hconsistent => hnone fun i hi => ?_⟩
    have hsame := hconsistent.single i s.attempts.length (provisions_begin.mpr (.inl hi))
      (provisions_begin.mpr (.inr ⟨rfl, _, rfl⟩))
    obtain ⟨reconciling, hget⟩ := hi
    rw [hsame, List.getElem?_eq_none (Nat.le_refl _)] at hget
    cases hget

theorem quiet_checking (s : DeviceLifecycle) (persisted : String) :
    Quiet s (s.begin (.checking persisted)) where
  provisions j hj := by
    rcases provisions_begin.mp hj with hj | ⟨-, _, hchecking⟩
    · exact hj
    · cases hchecking
  usable := rfl
  persisted := rfl
  deviceId := rfl
  loggedOut := rfl
  anew := rfl
  lateChange := rfl
  length := by simp [begin]
  inFlight i hi := .inr (Option.some.inj hi).symm

/-- `reconcileOnReconnect`, and the part of `ensureRegistered` where nothing is stored. -/
theorem reconcile_steady (h : s.Steady) :
    (s.inFlight = none → s.persisted = none → ∀ i, ¬ s.Provisions i) ∧ s.reconcileOnReconnect.Steady ∨
      ¬ (s.inFlight = none → s.persisted = none → ∀ i, ¬ s.Provisions i) ∧
        ¬ s.reconcileOnReconnect.Consistent := by
  unfold reconcileOnReconnect provisionAndPersist
  cases hflight : s.inFlight with
  | some i => exact .inl ⟨nofun, h⟩
  | none =>
    cases hpersisted : s.persisted with
    | some persisted => exact .inl ⟨fun _ => nofun, h.quiet (quiet_checking s persisted)⟩
    | none =>
      exact (begin_provisioning h).imp (fun hb => ⟨fun _ _ => hb.1, hb.2⟩) fun hb =>
        ⟨fun hall => hb.1 (hall rfl rfl), hb.2⟩

theorem ensure_steady (h : s.Steady) :
    (s.inFlight = none → s.persisted = none → ∀ i, ¬ s.Provisions i) ∧ s.ensureRegistered.Steady ∨
      ¬ (s.inFlight = none → s.persisted = none → ∀ i, ¬ s.Provisions i) ∧
        ¬ s.ensureRegistered.Consistent := by
  unfold ensureRegistered
  cases hpersisted : s.persisted with
  | some persisted =>
    refine .inl ⟨fun _ => nofun, ?_⟩
    dsimp only
    split
    · refine h.quiet ⟨fun _ hi => hi, rfl, hpersisted.symm, ?_, rfl, rfl, rfl, Nat.le_refl _,
        fun _ hi => .inl hi⟩
      exact (h.shown.trans hpersisted).symm
    · exact h
  | none =>
    have hreconcile := reconcile_steady h
    unfold reconcileOnReconnect at hreconcile
    rw [hpersisted] at hreconcile
    dsimp only
    cases hflight : s.inFlight with
    | some i =>
      rw [provisionAndPersist, hflight]
      exact .inl ⟨nofun, h⟩
    | none =>
      rw [hflight] at hreconcile
      exact hreconcile

/-- The answer about a device. -/
theorem devices_steady (h : s.Steady) {i : Nat} {persisted : String}
    (hget : s.attempts[i]? = some (.checking persisted)) (active : Option Bool) :
    s.Timely (.devices i active) ∧ (s.noteLate (s.onDevices i persisted active) i).Steady ∨
      ¬ s.Timely (.devices i active) ∧ ¬ (s.noteLate (s.onDevices i persisted active) i).Consistent := by
  have hlt : i < s.attempts.length := (List.getElem?_eq_some_iff.mp hget).1
  match active with
  | none =>
    refine .inl ⟨trivial, h.quiet (Quiet.noteLate ?_ i)⟩
    unfold onDevices
    dsimp only
    split
    · exact (quiet_settle s i).trans (quiet_fail _) (List.length_set ..)
    · exact quiet_settle s i
  | some true =>
    by_cases hflight : s.inFlight = some i
    · have heq : s.noteLate (s.onDevices i persisted (some true)) i =
          (s.settle i .settled).finish i persisted := by
        rw [noteLate, if_pos hflight, onDevices]
        exact if_pos hflight
      rw [heq]
      by_cases hstored : s.persisted = some persisted
      · refine .inl ⟨fun _ p hp => ?_, ?_⟩
        · obtain rfl : persisted = p := Attempt.checking.inj (Option.some.inj (hget.symm.trans hp))
          exact hstored
        · have hsettled := h.quiet (quiet_settle s i)
          refine ⟨hsettled.single, hstored.symm, h.ignored, fun n hn hanew => ?_, hsettled.counted,
            h.stored, nofun⟩
          exact h.cleared n hn (Bool.or_eq_false_iff.mp hanew).1
      · exact .inr ⟨fun htimely => hstored (htimely hflight persisted hget),
          fun hconsistent => hstored (hconsistent.shown rfl).symm⟩
    · refine .inl ⟨fun hin => absurd hin hflight, h.quiet (Quiet.noteLate ?_ i)⟩
      unfold onDevices
      dsimp only
      rw [if_neg hflight]
      exact quiet_settle s i
  | some false =>
    have hnew : (s.settle i (.provisioning true)).Provisions i :=
      provisions_settle.mpr (.inr ⟨rfl, hlt, _, rfl⟩)
    have hnot : ¬ s.Provisions i := by
      rintro ⟨reconciling, hprovisioning⟩
      cases hget.symm.trans hprovisioning
    have heq : s.noteLate (s.onDevices i persisted (some false)) i =
        { s.settle i (.provisioning true) with lateChange := s.lateChange } := by
      unfold noteLate onDevices
      dsimp only
      split
      · rfl
      · simp [settle]
    rw [heq]
    by_cases hnone : ∀ j, ¬ s.Provisions j
    · refine .inl ⟨fun _ _ => hnone, fun j k hj hk => ?_, h.shown, h.ignored, h.cleared,
      fun n hn => ?_, h.stored,
        h.started⟩
      · rcases provisions_settle.mp hj with ⟨-, hj⟩ | ⟨rfl, -⟩
        · exact absurd hj (hnone j)
        · rcases provisions_settle.mp hk with ⟨-, hk⟩ | ⟨rfl, -⟩
          · exact absurd hk (hnone k)
          · rfl
      · exact Nat.le_trans (h.counted n hn) (Nat.le_of_eq (List.length_set ..).symm)
    · refine .inr ⟨fun htimely => hnone (htimely persisted hget), fun hconsistent => hnone fun j hj => ?_⟩
      have hne : j ≠ i := fun heq => hnot (heq ▸ hj)
      exact hne (hconsistent.single j i (provisions_settle.mpr (.inl ⟨hne, hj⟩)) hnew)

theorem write_usable (husable : s.usable = true) (i : Nat) (deviceId : String) :
    (s.settle i .settled).write deviceId = { s.settle i .settled with persisted := some deviceId } :=
      if_pos husable

theorem write_unusable (husable : s.usable = false) (i : Nat) (deviceId : String) :
    (s.settle i .settled).write deviceId = s.settle i .settled :=
  if_neg fun h => Bool.false_ne_true (husable.symm.trans h)

/-- The result of provisioning. -/
theorem provisioned_steady (h : s.Steady) {i : Nat} {reconciling : Bool}
    (hget : s.attempts[i]? = some (.provisioning reconciling)) (result : Option String) :
    s.Timely (.provisioned i result) ∧ (s.noteLate (s.onProvisioned i reconciling result) i).Steady ∨
      ¬ s.Timely (.provisioned i result) ∧
        ¬ (s.noteLate (s.onProvisioned i reconciling result) i).Consistent := by
  have hthis : ∀ r, s.attempts[i]? = some (.provisioning r) → r = reconciling := fun r hr =>
    Attempt.provisioning.inj (Option.some.inj (hr.symm.trans hget))
  have hsettled := h.quiet (quiet_settle s i)
  match result with
  | none =>
    refine .inl ⟨trivial, h.quiet (Quiet.noteLate ?_ i)⟩
    unfold onProvisioned
    dsimp only
    split
    · exact (quiet_settle s i).trans (quiet_fail _) (List.length_set ..)
    · exact quiet_settle s i
  | some deviceId =>
    by_cases hflight : s.inFlight = some i
    · -- the attempt is awaited
      have heq : s.noteLate (s.onProvisioned i reconciling (some deviceId)) i =
          ((s.settle i .settled).write deviceId).finish i deviceId := by
        rw [noteLate, if_pos hflight, onProvisioned]
        exact if_pos hflight
      rw [heq]
      have htimely : s.Timely (.provisioned i (some deviceId)) ↔
          s.usable = true ∧ ∀ n, s.loggedOut = some n → n ≤ i := by
        simp only [Timely, if_pos hflight]
        exact ⟨fun hall => hall reconciling hget, fun hgood _ _ => hgood⟩
      rw [htimely]
      cases husable : s.usable with
      | false =>
        rw [write_unusable husable]
        refine .inr ⟨fun hgood => absurd hgood.1 nofun, fun hconsistent => ?_⟩
        have hshown : some deviceId = s.persisted := hconsistent.shown rfl
        rw [h.stored husable] at hshown
        cases hshown
      | true =>
        rw [write_usable husable]
        by_cases hnew : ∀ n, s.loggedOut = some n → n ≤ i
        · refine .inl ⟨⟨rfl, hnew⟩, hsettled.single, rfl, h.ignored, fun n hn hanew => ?_, hsettled.counted,
            fun hu => absurd (husable.symm.trans hu) nofun, nofun⟩
          have hany := (Bool.or_eq_false_iff.mp hanew).2
          change s.loggedOut.any (· ≤ i) = false at hany
          rw [show s.loggedOut = some n from hn, Option.any_some, decide_eq_false_iff_not] at hany
          exact absurd (hnew n hn) hany
        · refine .inr ⟨fun hgood => hnew hgood.2, fun hconsistent => hnew fun n hn => ?_⟩
          -- the attempt is from before the logout, and nothing has succeeded since
          by_contra hbefore
          have hanew : s.anew = false := by
            by_contra hanew
            exact hbefore (h.started n i hn (eq_true_of_ne_false hanew) hflight)
          have hcleared := (hconsistent.cleared n hn (by
            change (s.anew || s.loggedOut.any (· ≤ i)) = false
            rw [hanew, hn]
            simpa using hbefore)).1
          cases hcleared
    · -- nobody waits any more
      have htimely : s.Timely (.provisioned i (some deviceId)) ↔
          (reconciling = true → s.usable = true → s.persisted = some deviceId) := by
        simp only [Timely, if_neg hflight]
        exact ⟨fun hall => hall reconciling hget, fun hgood r hr => hthis r hr ▸ hgood⟩
      rw [htimely, onProvisioned, if_neg hflight]
      cases reconciling with
      | false => exact .inl ⟨nofun, h.quiet ((quiet_settle s i).noteLate i)⟩
      | true =>
        rw [if_pos rfl]
        cases husable : s.usable with
        | false =>
          rw [write_unusable husable]
          refine .inl ⟨fun _ => nofun, ?_⟩
          exact h.quiet ((quiet_settle s i).noteLate i)
        | true =>
          rw [write_usable husable]
          by_cases hstored : s.persisted = some deviceId
          · refine .inl ⟨fun _ _ => hstored, h.quiet (Quiet.noteLate ?_ i)⟩
            obtain ⟨hprov, _, _, hdev, hlog, hanew, hlate, hlen, hfl⟩ := quiet_settle s i
            exact ⟨hprov, rfl, hstored.symm, hdev, hlog, hanew, hlate, hlen, hfl⟩
          · refine .inr ⟨fun hgood => hstored (hgood rfl rfl), fun hconsistent => ?_⟩
            have hignored := hconsistent.ignored
            rw [noteLate, if_neg hflight] at hignored
            dsimp only at hignored
            simp only [Bool.or_eq_false_iff, decide_eq_false_iff_not, not_not] at hignored
            exact hstored hignored.1.2.symm

/-- **Every step** meets the condition and keeps the invariant, or it breaks the consistency. -/
theorem Steady.step (h : s.Steady) {e : LifecycleEvent} (hstep : s.step e = some t) :
    s.Timely e ∧ t.Steady ∨ ¬ s.Timely e ∧ ¬ t.Consistent := by
  match e with
  | .ensureRegistered =>
    cases hstep
    exact ensure_steady h
  | .reconcileOnReconnect =>
    cases hstep
    exact reconcile_steady h
  | .retry =>
    cases hstep
    have hcleared : Quiet s { s with registered := { s.registered with error := none } } :=
      ⟨fun _ hi => hi, rfl, rfl, rfl, rfl, rfl, rfl, Nat.le_refl _, fun _ hi => .inl hi⟩
    exact reconcile_steady (h.quiet hcleared)
  | .devices i active =>
    simp only [DeviceLifecycle.step] at hstep
    split at hstep
    · next persisted hget =>
      cases hstep
      exact devices_steady h hget active
    · cases hstep
  | .provisioned i result =>
    simp only [DeviceLifecycle.step] at hstep
    split at hstep
    · next reconciling hget =>
      cases hstep
      exact provisioned_steady h hget result
    · cases hstep
  | .timeout i =>
    simp only [DeviceLifecycle.step] at hstep
    split at hstep <;> cases hstep
    exact .inl ⟨trivial, h.quiet (quiet_fail s)⟩
  | .logout =>
    cases hstep
    exact .inl ⟨trivial, h.single, h.shown, h.ignored, h.cleared, h.counted, h.stored, h.started⟩
  | .loggedOut =>
    simp only [DeviceLifecycle.step] at hstep
    split at hstep <;> cases hstep
    refine .inl ⟨trivial, h.single, rfl, h.ignored, fun _ _ _ => rfl, fun n hn => ?_, fun _ => rfl, nofun⟩
    exact Nat.le_of_eq (Option.some.inj hn).symm

theorem steady_create (persisted : Option String) (usable : Bool) : (create persisted usable).Steady where
  single i j hi _ := by
    obtain ⟨_, hget⟩ := hi
    cases hget
  shown := rfl
  ignored := rfl
  cleared := nofun
  counted := nofun
  stored husable := by
    change (if usable then persisted else none) = none
    rw [show usable = false from husable]
    rfl
  started := nofun

/-! ## Runs -/

/-- **The consistent runs** are those that meet the condition. -/
theorem timely_iff_consistent (persisted : Option String) (usable : Bool) (events : List LifecycleEvent) :
    Guarded DeviceLifecycle.step Timely (create persisted usable) events ↔
      ∀ before after s, events = before ++ after →
        exec DeviceLifecycle.step (create persisted usable) before = some s → s.Consistent := by
  have hcreate := steady_create persisted usable
  refine guarded_iff_invariant (J := fun s => s.Consistent → s.Steady)
    (fun s e t hJ hs hstep => ?_) (fun s e hrefused => ?_) (fun _ => hcreate) hcreate.consistent events
  · rcases (hJ hs).step hstep with ⟨htimely, ht⟩ | ⟨htimely, ht⟩
    · exact ⟨fun _ => ht, iff_of_true ht.consistent htimely⟩
    · exact ⟨fun hconsistent => absurd hconsistent ht, iff_of_false ht htimely⟩
  · match e with
    | .devices i active =>
      have hnot : ∀ persisted, s.attempts[i]? ≠ some (.checking persisted) := by
        intro persisted hget
        simp only [DeviceLifecycle.step, hget] at hrefused
        cases hrefused
      match active with
      | some true => exact fun _ persisted hget => absurd hget (hnot persisted)
      | some false => exact fun persisted hget => absurd hget (hnot persisted)
      | none => trivial
    | .provisioned i result =>
      match result with
      | some deviceId =>
        intro reconciling hget
        simp only [DeviceLifecycle.step, hget] at hrefused
        cases hrefused
      | none => trivial
    | .ensureRegistered | .reconcileOnReconnect | .retry => cases hrefused
    | .timeout _ | .logout | .loggedOut => trivial

/-- **Late results.** The answer that a device is active comes after the logout, and the device is shown
though it is no longer stored; and what `reconcile` provisions after its time-out is stored beside a device
that was provisioned meanwhile. -/
theorem late_results :
    (∃ s, exec DeviceLifecycle.step (create (some "d1") true)
        [.reconcileOnReconnect, .logout, .loggedOut, .devices 0 (some true)] = some s ∧
      s.registered.deviceId = some "d1" ∧ s.persisted = none ∧ ¬ s.Consistent) ∧
    ∃ s, exec DeviceLifecycle.step (create (some "d1") true)
        [.reconcileOnReconnect, .devices 0 (some false), .timeout 0, .reconcileOnReconnect,
          .devices 1 (some false)] = some s ∧ s.attempts = [.provisioning true, .provisioning true] ∧
      (∃ t, s.step (.provisioned 0 (some "d2")) = some t ∧ t.persisted = some "d2" ∧
        t.registered.deviceId = some "d1") ∧ ¬ s.Consistent := by
  refine ⟨⟨_, rfl, rfl, rfl, fun h => ?_⟩, _, rfl, rfl, ⟨_, rfl, rfl, rfl⟩, fun h => ?_⟩
  · exact absurd (h.shown rfl) (by decide)
  · exact absurd (h.single 0 1 ⟨true, rfl⟩ ⟨true, rfl⟩) (by decide)

end DeviceLifecycle

end Svarla.Web
