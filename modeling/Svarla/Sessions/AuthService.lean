import Svarla.Calls.Orchestrator

/-!
# Sessions

`AuthService`, `DeviceRegistryManager` and `WebDeviceReaper`, over the tables `auth` and
`device_registry`. A flow is at the query it waits for, or where it goes on after one; queries of
several flows come in any order. The devices are numbered by their rows, which are never deleted, and
the calls are those of the orchestrator.

A query does not fail, and what is drawn at random was not drawn before. A session token is given by the
number that was drawn for it; a token that was put in its place by a logout or a removal is not one a
client can send. The topics and endpoints for push messages, which nothing here reads, are left out.

Beside the source's own state there are the outcomes of the flows, and the wrong attempts that were
evaluated since a login or the end of a lock-out.
-/

namespace Svarla.Sessions

open Svarla.Lib Svarla.Calls

/-! ## Rows -/

/-- The row of `auth`. -/
structure AuthRow where
  passwordHash : String
  failedAttempts : Nat
  lockedUntil : Option Nat
  deriving DecidableEq, Repr

/-- A `session_token`. -/
inductive Token
  | session (random : Nat)
  /-- `logged-out:…`. -/
  | loggedOut (random : Nat)
  /-- `removed:…`. -/
  | removed (random : Nat)
  deriving DecidableEq, Repr

/-- A row of `device_registry`. -/
structure Device where
  deviceId : Nat
  deviceName : String
  registeredAt : Nat
  lastSeenAt : Nat
  sessionToken : Token
  isActive : Bool
  deriving DecidableEq, Repr

/-- `WEB_BROWSER_DEVICE_NAME`. -/
def webBrowserDeviceName : String := "Web Browser"

/-- `isWebDevice`; the routes skip the limit for the same devices. -/
def Device.isWebDevice (d : Device) : Bool := d.deviceName = webBrowserDeviceName

/-- `MAX_ACTIVE_DEVICES`. -/
def maxActiveDevices : Nat := 5

/-- The configuration, and what the server is built on. -/
structure Config where
  maxFailedAttempts : Nat
  /-- `lockoutDurationMinutes`, in milliseconds. -/
  lockoutDuration : Nat
  stalenessMs : Nat
  /-- When a session that was registered then expires. -/
  expiresAt : Nat → Nat
  /-- `bcrypt.compare`. -/
  compare : String → String → Bool
  /-- The `device_id` of a row. -/
  uuid : Nat → String

/-! ## Flows -/

/-- The rest of a pass of the reaper. -/
structure Sweep where
  devices : List Device
  activeCallDeviceIds : List String
  now : Nat
  reaped : List Nat
  deriving DecidableEq, Repr

inductive Flow
  /-- `login`: the row is read. -/
  | readAuth (password deviceName : String)
  | checkLock (auth : AuthRow) (password deviceName : String)
  | resetLock (auth : AuthRow) (password deviceName : String)
  | comparePassword (auth : AuthRow) (password deviceName : String)
  | recordFailure (newAttempts : Nat) (lockedUntil : Option Nat)
  | resetFailures (deviceName : String)
  /-- `registerDevice`. -/
  | countDevices (deviceName : String)
  | insertDevice (deviceName : String)
  /-- `validateSession`. -/
  | readDevice (token : Nat)
  | checkExpiry (device : Device)
  | expire (device : Device)
  | refresh (device : Device) (seenAt : Nat)
  | logout (token : Nat)
  /-- `deactivateDevice`, with `invalidateToken`. -/
  | remove (deviceId : Nat)
  /-- `sweep`: `listActiveDevices`, and what follows. -/
  | listDevices
  | listed (devices : List Device)
  | touch (deviceId seenAt : Nat) (rest : Sweep)
  | reap (deviceId : Nat) (rest : Sweep)
  | sweeping (rest : Sweep)
  deriving DecidableEq, Repr

/-- What comes of a flow. -/
inductive Outcome
  | notConfigured
  | locked (lockedUntil : Nat)
  | wrongPassword
  | loggedIn (deviceId : Nat) (token : Token)
  | limitExceeded
  | valid (deviceId : Nat) (token : Token)
  | invalid (token : Nat)
  /-- The session of a device is over: it has expired, was logged out or removed. -/
  | invalidated (deviceId : Nat) (token : Token)
  | notFound
  /-- The reaper has deactivated a device. -/
  | reaped (deviceId : Nat)
  | swept (reaped : List Nat)
  deriving DecidableEq, Repr

structure Server where
  auth : Option AuthRow
  devices : List Device
  flows : List Flow
  now : Nat
  /-- The random numbers drawn so far. -/
  drawn : List Nat
  /-- The devices with a live socket. -/
  connected : List Nat
  orchestrator : Orchestrator
  outcomes : List Outcome
  wrongAttempts : Nat

/-- `getActiveDeviceIds` of the orchestrator. -/
def getActiveDeviceIds (s : Orchestrator) : List String :=
  s.activeCalls.entries.filterMap fun e => if e.2.ended then none else e.2.answeredByDevice

inductive Event
  | login (password deviceName : String)
  | validateSession (token : Nat)
  | logout (token : Nat)
  | removeDevice (deviceId : Nat)
  | sweep
  /-- The next operation of a flow, with what it draws. -/
  | run (i : Nat) (random : Nat)
  | wait (milliseconds : Nat)
  | connect (deviceId : Nat)
  | disconnect (deviceId : Nat)
  | updatePasswordHash (newHash : String)
  | calls (e : CallsEvent)
  deriving DecidableEq, Repr

namespace Server

/-- A new server, with a password or without. -/
def init (passwordHash : Option String) (now : Nat) : Server :=
  ⟨passwordHash.map fun hash => ⟨hash, 0, none⟩, [], [], now, [], [], .init, [], 0⟩

def setAuth (s : Server) (f : AuthRow → AuthRow) : Server := { s with auth := s.auth.map f }

def setDevice (s : Server) (deviceId : Nat) (f : Device → Device) : Server :=
  { s with devices := s.devices.modify deviceId f }

def emit (s : Server) (o : Outcome) : Server := { s with outcomes := s.outcomes ++ [o] }

def draw (s : Server) (random : Nat) : Server := { s with drawn := random :: s.drawn }

/-- How many devices are active. -/
def getActiveDeviceCount (s : Server) : Nat := s.devices.countP (·.isActive)

/-- A new row. -/
def insert (s : Server) (deviceName : String) (token : Token) : Server :=
  { s with devices := s.devices ++ [⟨s.devices.length, deviceName, s.now, s.now, token, true⟩] }

/-- The token of a row is replaced, and the device is deactivated. -/
def invalidate (s : Server) (d : Device) (token : Token) : Server :=
  (s.setDevice d.deviceId fun d => { d with isActive := false, sessionToken := token }).emit
    (.invalidated d.deviceId d.sessionToken)

/-- The loop of `sweep` up to its next query. -/
def sweepOn (C : Config) (s : Server) (activeCallDeviceIds : List String) (now : Nat)
    (reaped : List Nat) : List Device → Option Flow
  | [] => none
  | d :: devices =>
    if ¬ d.isWebDevice then sweepOn C s activeCallDeviceIds now reaped devices
    else if d.deviceId ∈ s.connected then
      some (.touch d.deviceId s.now ⟨devices, activeCallDeviceIds, now, reaped⟩)
    else if now < d.lastSeenAt + C.stalenessMs then sweepOn C s activeCallDeviceIds now reaped devices
    else if C.uuid d.deviceId ∈ activeCallDeviceIds then
      sweepOn C s activeCallDeviceIds now reaped devices
    else some (.reap d.deviceId ⟨devices, activeCallDeviceIds, now, reaped⟩)

/-- The pass goes on, or ends. -/
def resume (C : Config) (s : Server) (sweep : Sweep) : Server × Option Flow :=
  match sweepOn C s sweep.activeCallDeviceIds sweep.now sweep.reaped sweep.devices with
  | some flow => (s, some flow)
  | none => (s.emit (.swept sweep.reaped), none)

/-- One operation of a flow, and where the flow goes on. -/
def proceed (C : Config) (s : Server) (random : Nat) : Flow → Server × Option Flow
  | .readAuth password deviceName =>
    match s.auth with
    | none => (s.emit .notConfigured, none)
    | some auth => (s, some (.checkLock auth password deviceName))
  | .checkLock auth password deviceName =>
    match auth.lockedUntil with
    | none => (s, some (.comparePassword auth password deviceName))
    | some lockedUntil =>
      if s.now < lockedUntil then (s.emit (.locked lockedUntil), none)
      else (s, some (.resetLock auth password deviceName))
  | .resetLock auth password deviceName =>
    ({ s.setAuth fun auth => { auth with failedAttempts := 0, lockedUntil := none } with
        wrongAttempts := 0 },
      some (.comparePassword auth password deviceName))
  | .comparePassword auth password deviceName =>
    if C.compare password auth.passwordHash then (s, some (.resetFailures deviceName))
    else
      let newAttempts := auth.failedAttempts + 1
      ({ s with wrongAttempts := s.wrongAttempts + 1 }, some (.recordFailure newAttempts
        (if C.maxFailedAttempts ≤ newAttempts then some (s.now + C.lockoutDuration) else none)))
  | .recordFailure newAttempts (some lockedUntil) =>
    ((s.setAuth fun auth =>
        { auth with failedAttempts := newAttempts, lockedUntil := some lockedUntil }).emit
      (.locked lockedUntil), none)
  | .recordFailure newAttempts none =>
    ((s.setAuth fun auth => { auth with failedAttempts := newAttempts }).emit .wrongPassword, none)
  | .resetFailures deviceName =>
    ({ s.setAuth fun auth => { auth with failedAttempts := 0, lockedUntil := none } with
        wrongAttempts := 0 },
      some (if deviceName = webBrowserDeviceName then .insertDevice deviceName
        else .countDevices deviceName))
  | .countDevices deviceName =>
    if maxActiveDevices ≤ s.getActiveDeviceCount then (s.emit .limitExceeded, none)
    else (s, some (.insertDevice deviceName))
  | .insertDevice deviceName =>
    (((s.insert deviceName (.session random)).draw random).emit
      (.loggedIn s.devices.length (.session random)), none)
  | .readDevice token =>
    match s.devices.find? (·.sessionToken = .session token) with
    | none => (s.emit (.invalid token), none)
    | some d => (s, some (.checkExpiry d))
  | .checkExpiry d =>
    if C.expiresAt d.registeredAt < s.now then (s, some (.expire d))
    else (s, some (.refresh d s.now))
  | .expire d =>
    ((s.setDevice d.deviceId fun d => { d with isActive := false }).emit
      (.invalidated d.deviceId d.sessionToken), none)
  | .refresh d seenAt =>
    ((s.setDevice d.deviceId fun d => { d with lastSeenAt := seenAt, isActive := true }).emit
      (.valid d.deviceId d.sessionToken), none)
  | .logout token =>
    match s.devices.find? (·.sessionToken = .session token) with
    | none => (s.emit .notFound, none)
    | some d => ((s.invalidate d (.loggedOut random)).draw random, none)
  | .remove deviceId =>
    match s.devices[deviceId]? with
    | none => (s.emit .notFound, none)
    | some d => ((s.invalidate d (.removed random)).draw random, none)
  | .listDevices => (s, some (.listed ((s.devices.filter (·.isActive)).mergeSort
      fun d d' => d'.registeredAt ≤ d.registeredAt)))
  | .listed devices => s.resume C ⟨devices, getActiveDeviceIds s.orchestrator, s.now, []⟩
  | .touch deviceId seenAt rest =>
    (s.setDevice deviceId fun d => if d.isActive then { d with lastSeenAt := seenAt } else d,
      some (.sweeping rest))
  | .reap deviceId rest =>
    match s.devices[deviceId]? with
    | none => (s, some (.sweeping rest))
    | some d =>
      if d.isActive then
        ((s.setDevice deviceId fun d => { d with isActive := false }).emit (.reaped deviceId),
          some (.sweeping { rest with reaped := rest.reaped ++ [deviceId] }))
      else (s, some (.sweeping rest))
  | .sweeping rest => s.resume C rest

def start (s : Server) (flow : Flow) : Server := { s with flows := s.flows ++ [flow] }

/-- One event. -/
def step (C : Config) (s : Server) : Event → Option Server
  | .login password deviceName => some (s.start (.readAuth password deviceName))
  | .validateSession token => some (s.start (.readDevice token))
  | .logout token => some (s.start (.logout token))
  | .removeDevice deviceId => some (s.start (.remove deviceId))
  | .sweep => some (s.start .listDevices)
  | .run i random =>
    match s.flows[i]? with
    | none => none
    | some flow =>
      if random ∈ s.drawn then none
      else
        let r := s.proceed C random flow
        some { r.1 with flows := advance s.flows i r.2 }
  | .wait milliseconds =>
    some { s with
      now := s.now + milliseconds
      orchestrator := { s.orchestrator with now := s.orchestrator.now + milliseconds } }
  | .connect deviceId => some { s with connected := deviceId :: s.connected }
  | .disconnect deviceId => some { s with connected := s.connected.filter (· ≠ deviceId) }
  | .updatePasswordHash newHash => some (s.setAuth fun auth => { auth with passwordHash := newHash })
  | .calls e => (callsStep s.orchestrator e).map fun orchestrator => { s with orchestrator }

/-- A flow goes on. -/
theorem step_run {C : Config} {s t : Server} {i random : Nat}
    (h : s.step C (.run i random) = some t) :
    ∃ flow, s.flows[i]? = some flow ∧ random ∉ s.drawn ∧
      t = { (s.proceed C random flow).1 with
        flows := advance s.flows i (s.proceed C random flow).2 } := by
  simp only [step] at h
  split at h
  · cases h
  · next flow hflow =>
    split at h
    · cases h
    · next hrandom =>
      cases h
      exact ⟨flow, hflow, hrandom, rfl⟩

/-- The reaper goes on, or has ended its pass. -/
theorem resume_cases (C : Config) (s : Server) (sweep : Sweep) :
    (∃ flow, sweepOn C s sweep.activeCallDeviceIds sweep.now sweep.reaped sweep.devices = some flow ∧
        s.resume C sweep = (s, some flow)) ∨
      sweepOn C s sweep.activeCallDeviceIds sweep.now sweep.reaped sweep.devices = none ∧
        s.resume C sweep = (s.emit (.swept sweep.reaped), none) := by
  unfold resume
  cases h : sweepOn C s sweep.activeCallDeviceIds sweep.now sweep.reaped sweep.devices with
  | none => exact .inr ⟨rfl, rfl⟩
  | some flow => exact .inl ⟨flow, rfl, rfl⟩

/-- Where the loop of a pass stops. -/
theorem sweepOn_cases {C : Config} {s : Server} {activeCallDeviceIds : List String} {now : Nat}
    {reaped : List Nat} {devices : List Device} {flow : Flow}
    (h : sweepOn C s activeCallDeviceIds now reaped devices = some flow) :
    ∃ d rest, d :: rest <:+ devices ∧ d.isWebDevice = true ∧
      (flow = .touch d.deviceId s.now ⟨rest, activeCallDeviceIds, now, reaped⟩ ∨
        flow = .reap d.deviceId ⟨rest, activeCallDeviceIds, now, reaped⟩ ∧
          d.lastSeenAt + C.stalenessMs ≤ now ∧ C.uuid d.deviceId ∉ activeCallDeviceIds) := by
  induction devices with
  | nil => cases h
  | cons d devices ih =>
    have hrest : sweepOn C s activeCallDeviceIds now reaped devices = some flow →
        ∃ d' rest, d' :: rest <:+ d :: devices ∧ d'.isWebDevice = true ∧
          (flow = .touch d'.deviceId s.now ⟨rest, activeCallDeviceIds, now, reaped⟩ ∨
            flow = .reap d'.deviceId ⟨rest, activeCallDeviceIds, now, reaped⟩ ∧
              d'.lastSeenAt + C.stalenessMs ≤ now ∧ C.uuid d'.deviceId ∉ activeCallDeviceIds) := by
      intro h
      obtain ⟨d', rest, hsuffix, hd'⟩ := ih h
      exact ⟨d', rest, hsuffix.trans (List.suffix_cons ..), hd'⟩
    rw [sweepOn] at h
    split at h
    · exact hrest h
    · next hweb =>
      have hweb : d.isWebDevice = true := not_not.mp hweb
      split at h
      · cases h
        exact ⟨d, devices, List.suffix_rfl, hweb, .inl rfl⟩
      · split at h
        · exact hrest h
        · next hstale =>
          split at h
          · exact hrest h
          · next hactive =>
            cases h
            exact ⟨d, devices, List.suffix_rfl, hweb, .inr ⟨rfl, not_lt.mp hstale, hactive⟩⟩

end Server

end Svarla.Sessions
