import Mathlib
import Svarla.Lib.Run
import Svarla.Sessions.AuthService

/-!
# The sockets of the broadcaster

`WebSocketBroadcaster` validates the session of a new socket across three awaits, and registers the socket
when they are over, whatever has become of it meanwhile: it listens for the close from then on only. And a
session that ends later, by a logout, a removal or in time, leaves the socket where it is.

So the map is that of the live sockets of valid sessions in exactly the runs in which no socket closes, and
no session ends, before its validation is over, and no session ends that has an open socket
(`spares_iff_live`).
-/

namespace Svarla.Sessions

open Svarla.Lib

/-- `readyState`. -/
inductive ReadyState
  | opened
  | closing
  | closed
  deriving DecidableEq, Repr

/-- Where `authenticateAndRegister` waits. -/
inductive Validation
  /-- `validateSession`: the query for the row, what follows it, and the updates. -/
  | read (token : Nat)
  | check (row : Option Device)
  | expire (device : Device)
  | refresh (device : Device)
  /-- The result is there. -/
  | settled (deviceId : Option Nat)
  | done
  deriving DecidableEq, Repr

structure Socket where
  readyState : ReadyState
  /-- The session token it came with, in a header, in its address or by a ticket. -/
  session : Option Nat
  validation : Validation
  /-- The device that the listeners for `close` and `error` were attached for. -/
  listening : Option Nat
  deriving DecidableEq, Repr

/-- The broadcaster, its sockets by number, and the rows of the devices. -/
structure Broadcaster where
  devices : List Device
  now : Nat
  sockets : List Socket
  /-- The pairs of `connections`; a device without sockets is not in the map. -/
  connections : List (Nat × Nat)
  aliveSet : List Nat
  /-- The sockets that events were sent on, with whether the session was valid. -/
  sent : List (Nat × Bool)

inductive BroadcasterEvent
  /-- A connection, with a session token or without a usable one. -/
  | connect (token : Option Nat)
  /-- The validation of a socket goes on. -/
  | run (i : Nat)
  /-- A query of it fails. -/
  | fail (i : Nat)
  /-- The other side begins to close a socket; a socket is closed; it has an error. -/
  | closing (i : Nat)
  | close (i : Nat)
  | error (i : Nat)
  | pong (i : Nat)
  | ping
  | broadcast
  | broadcastToDevice (deviceId : Nat)
  | broadcastExcept (deviceId : Nat)
  /-- `closeAll`. -/
  | closeAll
  | login (deviceName : String) (random : Nat)
  | logout (token random : Nat)
  | remove (deviceId random : Nat)
  /-- `deactivateDevice` by the reaper. -/
  | reap (deviceId : Nat)
  | wait (milliseconds : Nat)
  deriving DecidableEq, Repr

namespace Broadcaster

variable (expiresAt : Nat → Nat)

/-- The row of a device has the token, and the session has not expired. -/
def sessionValid (s : Broadcaster) (deviceId : Nat) (sock : Socket) : Bool :=
  match s.devices[deviceId]?, sock.session with
  | some row, some token => row.sessionToken = .session token ∧ ¬ expiresAt row.registeredAt < s.now
  | _, _ => false

def setSocket (s : Broadcaster) (i : Nat) (f : Socket → Socket) : Broadcaster :=
  { s with sockets := s.sockets.modify i f }

def setDevice (s : Broadcaster) (deviceId : Nat) (f : Device → Device) : Broadcaster :=
  { s with devices := s.devices.modify deviceId f }

/-- `socket.close`. -/
def startClosing (sock : Socket) : Socket :=
  match sock.readyState with
  | .opened => { sock with readyState := .closing }
  | _ => sock

/-- A socket is in the map for a device. -/
def register (s : Broadcaster) (deviceId i : Nat) : Broadcaster :=
  { s.setSocket i fun sock => { sock with listening := some deviceId, validation := .done } with
    connections := if s.connections.contains (deviceId, i) then s.connections
      else s.connections ++ [(deviceId, i)]
    aliveSet := i :: s.aliveSet }

/-- The listeners for `close` and `error`, where they are attached. -/
def unregister (s : Broadcaster) (i : Nat) (sock : Socket) : Broadcaster :=
  match sock.listening with
  | some deviceId => { s with connections := s.connections.filter (· ≠ (deviceId, i)) }
  | none => s

/-- The validation of a socket goes on. -/
def proceed (s : Broadcaster) (i : Nat) : Validation → Option Broadcaster
  | .read token =>
    some (s.setSocket i fun sock =>
      { sock with validation := .check (s.devices.find? (·.sessionToken = .session token)) })
  | .check none => some (s.setSocket i fun sock => { sock with validation := .settled none })
  | .check (some d) =>
    some (s.setSocket i fun sock =>
      { sock with validation := if expiresAt d.registeredAt < s.now then .expire d else .refresh d })
  | .expire d =>
    some ((s.setDevice d.deviceId fun row => { row with isActive := false }).setSocket i fun sock =>
      { sock with validation := .settled none })
  | .refresh d =>
    some ((s.setDevice d.deviceId fun row => { row with lastSeenAt := s.now, isActive := true }).setSocket i
      fun sock => { sock with validation := .settled (some d.deviceId) })
  | .settled none => some (s.setSocket i fun sock => { startClosing sock with validation := .done })
  | .settled (some deviceId) => some (s.register deviceId i)
  | .done => none

/-- The sockets of a part of the map that an event is sent on. -/
def send (s : Broadcaster) (audience : Nat → Bool) : Broadcaster :=
  { s with
    sent := s.sent ++ (s.connections.filter fun p => audience p.1).filterMap fun p =>
      match s.sockets[p.2]? with
      | some sock => if sock.readyState = .opened then some (p.2, s.sessionValid expiresAt p.1 sock) else none
      | none => none }

/-- `isDeviceConnected`. -/
def isDeviceConnected (s : Broadcaster) (deviceId : Nat) : Bool :=
  s.connections.any fun p => p.1 = deviceId ∧ (s.sockets[p.2]?.any fun sock => sock.readyState = .opened)

def step (s : Broadcaster) : BroadcasterEvent → Option Broadcaster
  | .connect token =>
    some { s with sockets := s.sockets ++ [match token with
      | some token => ⟨.opened, some token, .read token, none⟩
      | none => ⟨.closing, none, .done, none⟩] }
  | .run i => s.sockets[i]?.bind fun sock => s.proceed expiresAt i sock.validation
  | .fail i =>
    s.sockets[i]?.bind fun sock =>
      match sock.validation with
      | .settled _ | .done => none
      | _ => some (s.setSocket i fun sock => { startClosing sock with validation := .done })
  | .closing i =>
    s.sockets[i]?.bind fun sock =>
      if sock.readyState = .opened then some (s.setSocket i startClosing) else none
  | .close i =>
    s.sockets[i]?.bind fun sock =>
      if sock.readyState = .closed then none
      else some ((s.setSocket i fun sock => { sock with readyState := .closed }).unregister i sock)
  | .error i => s.sockets[i]?.map fun sock => s.unregister i sock
  | .pong i => s.sockets[i]?.bind fun sock =>
      if sock.listening.isSome then some { s with aliveSet := i :: s.aliveSet } else none
  | .ping =>
    some { s with
      sockets := s.sockets.zipIdx.map fun p =>
        if p.2 ∈ s.connections.map (·.2) ∧ p.2 ∉ s.aliveSet then startClosing p.1 else p.1
      connections := s.connections.filter fun p => p.2 ∈ s.aliveSet
      aliveSet := s.aliveSet.filter (· ∉ s.connections.map (·.2)) }
  | .broadcast => some (s.send expiresAt fun _ => true)
  | .broadcastToDevice deviceId => some (s.send expiresAt (· = deviceId))
  | .broadcastExcept deviceId => some (s.send expiresAt (· ≠ deviceId))
  | .closeAll =>
    some { s with
      sockets := s.sockets.zipIdx.map fun p =>
        if p.2 ∈ s.connections.map (·.2) then startClosing p.1 else p.1
      connections := [] }
  | .login deviceName random =>
    some { s with devices := s.devices ++
      [⟨s.devices.length, deviceName, s.now, s.now, .session random, true⟩] }
  | .logout token random =>
    some { s with devices := s.devices.map fun row =>
      if row.sessionToken = .session token then
        { row with isActive := false, sessionToken := .loggedOut random }
      else row }
  | .remove deviceId random =>
    some (s.setDevice deviceId fun row => { row with isActive := false, sessionToken := .removed random })
  | .reap deviceId => some (s.setDevice deviceId fun row => { row with isActive := false })
  | .wait milliseconds => some { s with now := s.now + milliseconds }

/-- The map is that of the live sockets, and events go to valid sessions only. -/
structure Live (s : Broadcaster) : Prop where
  registered : ∀ deviceId i, (deviceId, i) ∈ s.connections → ∃ sock, s.sockets[i]? = some sock ∧
    sock.readyState ≠ .closed ∧ (sock.readyState = .opened → s.sessionValid expiresAt deviceId sock = true)
  sent : ∀ p ∈ s.sent, p.2 = true
  connected : ∀ deviceId, s.isDeviceConnected deviceId = true → ∃ i sock, (deviceId, i) ∈ s.connections ∧
    s.sockets[i]? = some sock ∧ sock.readyState = .opened ∧ s.sessionValid expiresAt deviceId sock = true

/-- The open sockets in the map have a property. -/
def EachOpen (s : Broadcaster) (P : Nat → Socket → Prop) : Prop :=
  ∀ deviceId i sock, (deviceId, i) ∈ s.connections → s.sockets[i]? = some sock → sock.readyState = .opened →
    P deviceId sock

/-- A validation that accepts the session finds the socket not closed, and the session still valid where it
is open; and no session ends that has an open socket in the map. -/
def Spares (s : Broadcaster) : BroadcasterEvent → Prop
  | .run i => ∀ sock, s.sockets[i]? = some sock → ∀ deviceId, sock.validation = .settled (some deviceId) →
    sock.readyState ≠ .closed ∧ (sock.readyState = .opened → s.sessionValid expiresAt deviceId sock = true)
  | .logout token _ => s.EachOpen fun _ sock => sock.session ≠ some token
  | .remove deviceId _ => s.EachOpen fun id _ => id ≠ deviceId
  | .wait milliseconds => s.EachOpen fun id _ => ∀ row, s.devices[id]? = some row →
    ¬ expiresAt row.registeredAt < s.now + milliseconds
  | _ => True

/-! ## What stays -/

variable {expiresAt} {s t : Broadcaster}

/-- The sockets in the map have their listeners. -/
def Listens (s : Broadcaster) : Prop :=
  ∀ deviceId i, (deviceId, i) ∈ s.connections → ∀ sock, s.sockets[i]? = some sock →
    sock.listening = some deviceId ∧ sock.validation = .done

/-- A socket in the map that is open is in the map for a device that is connected. -/
theorem Live.of (hregistered : ∀ deviceId i, (deviceId, i) ∈ t.connections →
      ∃ sock, t.sockets[i]? = some sock ∧
      sock.readyState ≠ .closed ∧ (sock.readyState = .opened → t.sessionValid expiresAt deviceId sock = true))
    (hsent : ∀ p ∈ t.sent, p.2 = true) : t.Live expiresAt where
  registered := hregistered
  sent := hsent
  connected deviceId h := by
    obtain ⟨⟨id, i⟩, hmem, hopen⟩ := List.any_eq_true.mp h
    simp only [decide_eq_true_eq, Bool.decide_and, Bool.and_eq_true, Option.any_eq_true] at hopen
    obtain ⟨rfl, sock, hsock, hopened⟩ := hopen
    obtain ⟨sock', hsock', -, hvalid⟩ := hregistered _ i hmem
    obtain rfl : sock = sock' := Option.some.inj (hsock.symm.trans hsock')
    exact ⟨i, sock, hmem, hsock, hopened, hvalid hopened⟩

/-- What a socket in the map may become: it goes on to close, and keeps its session. -/
def Ages (sock sock' : Socket) : Prop :=
  sock'.session = sock.session ∧ sock'.listening = sock.listening ∧
    (sock.validation = .done → sock'.validation = .done) ∧
    (sock'.readyState = sock.readyState ∨ sock.readyState = .opened ∧ sock'.readyState = .closing)

theorem Ages.refl (sock : Socket) : Ages sock sock := ⟨rfl, rfl, id, .inl rfl⟩

theorem ages_startClosing (sock : Socket) : Ages sock (startClosing sock) := by
  unfold startClosing
  split
  · next hopened => exact ⟨rfl, rfl, id, .inr ⟨hopened, rfl⟩⟩
  · exact .refl sock

/-- Fewer pairs, older sockets, and the sessions of the open ones still valid. -/
theorem Live.mono (h : s.Live expiresAt) (hconn : ∀ p ∈ t.connections, p ∈ s.connections)
    (hsock : ∀ p ∈ t.connections, ∀ sock, s.sockets[p.2]? = some sock →
      ∃ sock', t.sockets[p.2]? = some sock' ∧ Ages sock sock')
    (hvalid : s.EachOpen fun deviceId sock =>
      s.sessionValid expiresAt deviceId sock = true → t.sessionValid expiresAt deviceId sock = true)
    (hsent : ∀ p ∈ t.sent, p.2 = true) : t.Live expiresAt := by
  refine .of (fun deviceId i hmem => ?_) hsent
  obtain ⟨sock, hget, hnot, hopen⟩ := h.registered deviceId i (hconn _ hmem)
  obtain ⟨sock', hget', hsession, -, -, hstate⟩ := hsock _ hmem sock hget
  have hsame : t.sessionValid expiresAt deviceId sock' = t.sessionValid expiresAt deviceId sock := by
    unfold sessionValid
    rw [hsession]
  refine ⟨sock', hget', ?_, fun hopened => ?_⟩
  · rcases hstate with heq | ⟨-, hclosing⟩
    · rwa [heq]
    · rw [hclosing]
      nofun
  · rcases hstate with heq | ⟨-, hclosing⟩
    · rw [heq] at hopened
      rw [hsame]
      exact hvalid deviceId i sock (hconn _ hmem) hget hopened (hopen hopened)
    · rw [hclosing] at hopened
      cases hopened

theorem Listens.mono (h : s.Listens) (hlive : s.Live expiresAt)
    (hconn : ∀ p ∈ t.connections, p ∈ s.connections)
    (hsock : ∀ p ∈ t.connections, ∀ sock, s.sockets[p.2]? = some sock →
      ∃ sock', t.sockets[p.2]? = some sock' ∧ Ages sock sock') : t.Listens := by
  intro deviceId i hmem sock' hget'
  obtain ⟨sock, hget, -⟩ := hlive.registered deviceId i (hconn _ hmem)
  obtain ⟨sock'', hget'', -, hlistening, hdone, -⟩ := hsock _ hmem sock hget
  obtain rfl : sock' = sock'' := Option.some.inj (hget'.symm.trans hget'')
  obtain ⟨hlistens, hvalidated⟩ := h deviceId i (hconn _ hmem) sock hget
  exact ⟨hlistening.trans hlistens, hdone hvalidated⟩

/-- A change to one socket, or to none. -/
theorem ages_modify {i : Nat} {f : Socket → Socket}
    (hf : ∀ sock, s.sockets[i]? = some sock → Ages sock (f sock))
    (j : Nat) (sock : Socket) (hget : s.sockets[j]? = some sock) :
    ∃ sock', (s.sockets.modify i f)[j]? = some sock' ∧ Ages sock sock' := by
  rw [List.getElem?_modify, hget]
  refine ⟨_, rfl, ?_⟩
  split
  · next heq =>
    subst heq
    exact hf sock hget
  · exact .refl sock

theorem ages_mapIdx {f : Socket × Nat → Socket} (hf : ∀ sock j, Ages sock (f (sock, j))) (j : Nat)
    (sock : Socket)
    (hget : s.sockets[j]? = some sock) :
    ∃ sock', (s.sockets.zipIdx.map f)[j]? = some sock' ∧ Ages sock sock' := by
  rw [List.getElem?_map, List.getElem?_zipIdx, hget]
  exact ⟨_, rfl, hf sock _⟩

/-- A row that keeps its token keeps its session. -/
theorem sessionValid_setDevice (s : Broadcaster) (id deviceId : Nat) {f : Device → Device} (sock : Socket)
    (hf : ∀ row, (f row).sessionToken = row.sessionToken ∧ (f row).registeredAt = row.registeredAt) :
    (s.setDevice id f).sessionValid expiresAt deviceId sock = s.sessionValid expiresAt deviceId sock := by
  unfold sessionValid setDevice
  dsimp only
  rw [List.getElem?_modify]
  cases s.devices[deviceId]? with
  | none => rfl
  | some row =>
    simp only [Option.map_eq_map, Option.map_some]
    cases sock.session with
    | none => rfl
    | some token =>
      by_cases heq : id = deviceId
      · simp only [if_pos heq, hf row]
      · simp only [if_neg heq]

theorem sessionValid_iff (s : Broadcaster) (deviceId : Nat) (sock : Socket) :
    s.sessionValid expiresAt deviceId sock = true ↔ ∃ row token, s.devices[deviceId]? = some row ∧
      sock.session = some token ∧ row.sessionToken = .session token ∧
        ¬ expiresAt row.registeredAt < s.now := by
  unfold sessionValid
  cases s.devices[deviceId]? with
  | none => simp
  | some row =>
    cases sock.session with
    | none => simp
    | some token => simp

/-- Events go to the open sockets of the map. -/
theorem sent_send (h : s.Live expiresAt) (audience : Nat → Bool) :
    ∀ p ∈ (s.send expiresAt audience).sent, p.2 = true := by
  intro p hp
  rcases List.mem_append.mp hp with hp | hp
  · exact h.sent p hp
  · obtain ⟨⟨deviceId, i⟩, hmem, hsent⟩ := List.mem_filterMap.mp hp
    obtain ⟨sock, hget, -, hopen⟩ := h.registered deviceId i (List.mem_filter.mp hmem).1
    rw [hget] at hsent
    dsimp only at hsent
    split at hsent
    · next hopened =>
      obtain rfl := Option.some.inj hsent
      exact hopen hopened
    · cases hsent

theorem unregister_spec (s : Broadcaster) (i : Nat) (sock : Socket) :
    ∃ connections, s.unregister i sock = { s with connections } ∧ ∀ p,
      p ∈ connections ↔ p ∈ s.connections ∧ sock.listening.all fun deviceId => p ≠ (deviceId, i) := by
  unfold unregister
  split
  · next deviceId hlistening =>
    refine ⟨_, rfl, fun p => ?_⟩
    rw [hlistening, List.mem_filter]
    rfl
  · next hlistening =>
    refine ⟨_, rfl, fun p => ?_⟩
    rw [hlistening]
    exact (and_iff_left rfl).symm

/-! ## Each step -/

/-- A step that takes nothing away but pairs of the map. -/
theorem keeps (hlistens : s.Listens) (hlive : s.Live expiresAt)
    (hconn : ∀ p ∈ t.connections, p ∈ s.connections)
    (hsock : ∀ p ∈ t.connections, ∀ sock, s.sockets[p.2]? = some sock →
      ∃ sock', t.sockets[p.2]? = some sock' ∧ Ages sock sock')
    (hvalid : ∀ deviceId sock,
      s.sessionValid expiresAt deviceId sock = true → t.sessionValid expiresAt deviceId sock = true)
    (hsent : ∀ p ∈ t.sent, p.2 = true) : t.Listens ∧ t.Live expiresAt :=
  ⟨hlistens.mono hlive hconn hsock, hlive.mono hconn hsock (fun _ _ _ _ _ _ => hvalid _ _) hsent⟩

/-- A change to a socket that only ages it. -/
theorem keeps_setSocket (hlistens : s.Listens) (hlive : s.Live expiresAt) {i : Nat} {f : Socket → Socket}
    (hf : ∀ sock, s.sockets[i]? = some sock → Ages sock (f sock)) :
    (s.setSocket i f).Listens ∧ (s.setSocket i f).Live expiresAt :=
  keeps hlistens hlive (fun _ hp => hp) (fun p _ => ages_modify hf p.2) (fun _ _ h => h) hlive.sent

/-- A change to a row that keeps its session. -/
theorem keeps_setDevice (hlistens : s.Listens) (hlive : s.Live expiresAt) {id : Nat} {f : Device → Device}
    (hf : ∀ row, (f row).sessionToken = row.sessionToken ∧ (f row).registeredAt = row.registeredAt) :
    (s.setDevice id f).Listens ∧ (s.setDevice id f).Live expiresAt :=
  keeps hlistens hlive (fun _ hp => hp) (fun _ _ sock hget => ⟨sock, hget, .refl sock⟩)
    (fun deviceId sock h => (sessionValid_setDevice s id deviceId sock hf).trans h) hlive.sent

/-- The registration of a socket. -/
theorem register_live_iff (hlistens : s.Listens) (hlive : s.Live expiresAt) {i deviceId : Nat} {sock : Socket}
    (hget : s.sockets[i]? = some sock) (hsettled : sock.validation = .settled (some deviceId)) :
    (s.register deviceId i).Listens ∧ ((s.register deviceId i).Live expiresAt ↔
      sock.readyState ≠ .closed ∧
        (sock.readyState = .opened → s.sessionValid expiresAt deviceId sock = true)) := by
  have hmem : ∀ p, p ∈ (s.register deviceId i).connections ↔ p ∈ s.connections ∨ p = (deviceId, i) := by
    intro p
    unfold register
    dsimp only
    split
    · next hin => exact ⟨.inl, fun h => h.elim id fun heq => heq ▸ List.contains_iff_mem.mp hin⟩
    · rw [List.mem_append, List.mem_singleton]
  have hnew : (s.register deviceId i).sockets[i]? =
      some { sock with listening := some deviceId, validation := .done } := by
    change (s.sockets.modify i _)[i]? = _
    rw [List.getElem?_modify, hget]
    simp
  have hold : ∀ j, j ≠ i → (s.register deviceId i).sockets[j]? = s.sockets[j]? := by
    intro j hj
    change (s.sockets.modify i _)[j]? = _
    rw [List.getElem?_modify]
    simp [hj.symm]
  -- a socket that is validated is not in the map
  have hfresh : ∀ id, (id, i) ∉ s.connections := by
    intro id hin
    have := (hlistens id i hin sock hget).2
    rw [hsettled] at this
    cases this
  refine ⟨fun id j hj sock' hget' => ?_, fun h => ?_, fun ⟨hnot, hopen⟩ => .of (fun id j hj => ?_) hlive.sent⟩
  · rcases (hmem _).mp hj with hj | heq
    · have hne : j ≠ i := fun heq => hfresh id (heq ▸ hj)
      rw [hold j hne] at hget'
      exact hlistens id j hj sock' hget'
    · cases heq
      obtain rfl := Option.some.inj (hnew.symm.trans hget')
      exact ⟨rfl, rfl⟩
  · obtain ⟨sock', hget', hnot, hopen⟩ := h.registered deviceId i ((hmem _).mpr (.inr rfl))
    obtain rfl := Option.some.inj (hnew.symm.trans hget')
    exact ⟨hnot, hopen⟩
  · rcases (hmem _).mp hj with hj | heq
    · have hne : j ≠ i := fun heq => hfresh id (heq ▸ hj)
      obtain ⟨sock', hget', hrest⟩ := hlive.registered id j hj
      exact ⟨sock', (hold j hne).trans hget', hrest⟩
    · cases heq
      exact ⟨_, hnew, hnot, hopen⟩

/-- One step of a validation. -/
theorem proceed_live_iff (hlistens : s.Listens) (hlive : s.Live expiresAt) {i : Nat} {sock : Socket}
    (hget : s.sockets[i]? = some sock) (hstep : s.proceed expiresAt i sock.validation = some t) :
    t.Listens ∧ (t.Live expiresAt ↔ s.Spares expiresAt (.run i)) := by
  have hquiet : (∀ id, sock.validation ≠ .settled (some id)) → t.Listens ∧ t.Live expiresAt →
      t.Listens ∧ (t.Live expiresAt ↔ s.Spares expiresAt (.run i)) := by
    intro hnot ht
    refine ⟨ht.1, iff_of_true ht.2 fun sock' hget' id hid => absurd hid ?_⟩
    obtain rfl := Option.some.inj (hget.symm.trans hget')
    exact hnot id
  have hset : ∀ (s' : Broadcaster) (f : Socket → Socket), s'.sockets = s.sockets → s'.Listens →
      s'.Live expiresAt → sock.validation ≠ .done → (∀ sock, (f sock).session = sock.session ∧
        (f sock).listening = sock.listening ∧ ((f sock).readyState = sock.readyState ∨
          sock.readyState = .opened ∧ (f sock).readyState = .closing)) →
      (s'.setSocket i f).Listens ∧ (s'.setSocket i f).Live expiresAt := by
    intro s' f hsockets hlistens' hlive' hdone hf
    refine keeps_setSocket hlistens' hlive' fun sock' hget' => ?_
    rw [hsockets] at hget'
    obtain rfl := Option.some.inj (hget.symm.trans hget')
    exact ⟨(hf sock).1, (hf sock).2.1, fun h => absurd h hdone, (hf sock).2.2⟩
  cases hval : sock.validation with
  | read token =>
    rw [hval] at hstep
    cases hstep
    exact hquiet (by rw [hval]; nofun) (hset s _ rfl hlistens hlive (by rw [hval]; nofun)
      fun _ => ⟨rfl, rfl, .inl rfl⟩)
  | check row =>
    rw [hval] at hstep
    cases row with
    | none =>
      cases hstep
      exact hquiet (by rw [hval]; nofun) (hset s _ rfl hlistens hlive (by rw [hval]; nofun)
        fun _ => ⟨rfl, rfl, .inl rfl⟩)
    | some d =>
      cases hstep
      exact hquiet (by rw [hval]; nofun) (hset s _ rfl hlistens hlive (by rw [hval]; nofun)
        fun _ => ⟨rfl, rfl, .inl rfl⟩)
  | expire d =>
    rw [hval] at hstep
    cases hstep
    obtain ⟨hlistens', hlive'⟩ := @keeps_setDevice expiresAt s hlistens hlive d.deviceId
      (fun row => { row with isActive := false }) fun _ => ⟨rfl, rfl⟩
    exact hquiet (by rw [hval]; nofun) (hset _ _ rfl hlistens' hlive' (by rw [hval]; nofun)
      fun _ => ⟨rfl, rfl, .inl rfl⟩)
  | refresh d =>
    rw [hval] at hstep
    cases hstep
    obtain ⟨hlistens', hlive'⟩ := @keeps_setDevice expiresAt s hlistens hlive d.deviceId
      (fun row => { row with lastSeenAt := s.now, isActive := true }) fun _ => ⟨rfl, rfl⟩
    exact hquiet (by rw [hval]; nofun) (hset _ _ rfl hlistens' hlive' (by rw [hval]; nofun)
      fun _ => ⟨rfl, rfl, .inl rfl⟩)
  | settled result =>
    rw [hval] at hstep
    cases result with
    | none =>
      cases hstep
      refine hquiet (by rw [hval]; nofun) (hset s _ rfl hlistens hlive (by rw [hval]; nofun) fun sock => ?_)
      obtain ⟨hsession, hlistening, -, hstate⟩ := ages_startClosing sock
      exact ⟨hsession, hlistening, hstate⟩
    | some deviceId =>
      cases hstep
      obtain ⟨hlistens', hiff⟩ := register_live_iff hlistens hlive hget hval
      refine ⟨hlistens', hiff.trans ⟨fun h sock' hget' id hid => ?_, fun h => h sock hget deviceId hval⟩⟩
      obtain rfl := Option.some.inj (hget.symm.trans hget')
      rw [hval] at hid
      cases hid
      exact h
  | done =>
    rw [hval] at hstep
    cases hstep

/-- A change to the rows or to the time, after which the sessions of some sockets are over. -/
theorem ends_live_iff (hlistens : s.Listens) (hlive : s.Live expiresAt) (hsockets : t.sockets = s.sockets)
    (hconnections : t.connections = s.connections) (hsent : t.sent = s.sent) {P : Nat → Socket → Prop}
    (hP : ∀ deviceId sock, s.sessionValid expiresAt deviceId sock = true →
      (t.sessionValid expiresAt deviceId sock = true ↔ P deviceId sock)) :
    t.Listens ∧ (t.Live expiresAt ↔ s.EachOpen P) := by
  have hages : ∀ p ∈ t.connections, ∀ sock, s.sockets[p.2]? = some sock →
      ∃ sock', t.sockets[p.2]? = some sock' ∧ Ages sock sock' :=
    fun p _ sock hget => ⟨sock, hsockets ▸ hget, .refl sock⟩
  have hconn : ∀ p ∈ t.connections, p ∈ s.connections := fun p hp => hconnections ▸ hp
  refine ⟨hlistens.mono hlive hconn hages, fun h deviceId i sock hmem hget hopened => ?_, fun h => ?_⟩
  · obtain ⟨sock', hget', -, hvalid⟩ := h.registered deviceId i (hconnections ▸ hmem)
    obtain ⟨sock'', hget'', -, hvalid'⟩ := hlive.registered deviceId i hmem
    rw [hsockets] at hget'
    obtain rfl := Option.some.inj (hget.symm.trans hget')
    obtain rfl := Option.some.inj (hget.symm.trans hget'')
    exact (hP deviceId sock (hvalid' hopened)).mp (hvalid hopened)
  · refine hlive.mono hconn hages (fun deviceId i sock hmem hget hopened hvalid => ?_) (hsent ▸ hlive.sent)
    exact (hP deviceId sock hvalid).mpr (h deviceId i sock hmem hget hopened)

theorem step_live_iff (hlistens : s.Listens) (hlive : s.Live expiresAt) {e : BroadcasterEvent}
    (hstep : s.step expiresAt e = some t) : t.Listens ∧ (t.Live expiresAt ↔ s.Spares expiresAt e) := by
  have hquiet : s.Spares expiresAt e → t.Listens ∧ t.Live expiresAt →
      t.Listens ∧ (t.Live expiresAt ↔ s.Spares expiresAt e) :=
    fun hspares ht => ⟨ht.1, iff_of_true ht.2 hspares⟩
  have hsame : ∀ p ∈ s.connections, ∀ sock, s.sockets[p.2]? = some sock →
      ∃ sock', s.sockets[p.2]? = some sock' ∧ Ages sock sock' := fun p _ sock hget => ⟨sock, hget, .refl sock⟩
  cases e with
  | connect token =>
    cases hstep
    refine hquiet trivial (keeps hlistens hlive (fun _ hp => hp) (fun p _ sock hget => ⟨sock, ?_, .refl sock⟩)
      (fun _ _ h => h) hlive.sent)
    exact (List.getElem?_append_left (List.getElem?_eq_some_iff.mp hget).1).trans hget
  | run i =>
    obtain ⟨sock, hget, hproceed⟩ := Option.bind_eq_some_iff.mp hstep
    exact proceed_live_iff hlistens hlive hget hproceed
  | fail i =>
    obtain ⟨sock, hget, hfail⟩ := Option.bind_eq_some_iff.mp hstep
    have hf : t = s.setSocket i fun sock => { startClosing sock with validation := .done } := by
      split at hfail <;> cases hfail
      rfl
    subst hf
    refine hquiet trivial (keeps_setSocket hlistens hlive fun sock _ => ?_)
    obtain ⟨hsession, hlistening, -, hstate⟩ := ages_startClosing sock
    exact ⟨hsession, hlistening, fun _ => rfl, hstate⟩
  | closing i =>
    obtain ⟨sock, hget, hclosing⟩ := Option.bind_eq_some_iff.mp hstep
    split at hclosing <;> cases hclosing
    exact hquiet trivial (keeps_setSocket hlistens hlive fun sock _ => ages_startClosing sock)
  | close i =>
    obtain ⟨sock, hget, hclose⟩ := Option.bind_eq_some_iff.mp hstep
    obtain ⟨connections, hunregister, hmem⟩ := unregister_spec
      (s.setSocket i fun sock => { sock with readyState := .closed }) i sock
    have ht : t = { s.setSocket i fun sock => { sock with readyState := .closed } with connections } := by
      split at hclose <;> cases hclose
      exact hunregister
    subst ht
    refine hquiet trivial (keeps hlistens hlive (fun p hp => ((hmem p).mp hp).1) (fun p hp sock' hget' => ?_)
      (fun _ _ h => h) hlive.sent)
    -- the pair of the socket is gone
    have hne : i ≠ p.2 := by
      rintro rfl
      obtain ⟨hin, hall⟩ := (hmem p).mp hp
      rw [(hlistens p.1 p.2 hin sock hget).1] at hall
      simp at hall
    refine ⟨sock', ?_, .refl sock'⟩
    change (s.sockets.modify i _)[p.2]? = _
    simp [hne, hget']
  | error i =>
    obtain ⟨sock, hget, herror⟩ := Option.map_eq_some_iff.mp hstep
    obtain ⟨connections, hunregister, hmem⟩ := unregister_spec s i sock
    have ht := herror.symm.trans hunregister
    subst ht
    exact hquiet trivial (keeps hlistens hlive (fun p hp => ((hmem p).mp hp).1)
      (fun p hp => hsame p ((hmem p).mp hp).1) (fun _ _ h => h) hlive.sent)
  | pong i =>
    obtain ⟨sock, hget, hpong⟩ := Option.bind_eq_some_iff.mp hstep
    split at hpong <;> cases hpong
    exact hquiet trivial (keeps hlistens hlive (fun _ hp => hp) hsame (fun _ _ h => h) hlive.sent)
  | ping =>
    cases hstep
    refine hquiet trivial (keeps hlistens hlive (fun p hp => (List.mem_filter.mp hp).1)
      (fun p _ => ages_mapIdx (fun sock j => ?_) p.2) (fun _ _ h => h) hlive.sent)
    dsimp only
    split
    · exact ages_startClosing sock
    · exact .refl sock
  | broadcast | broadcastToDevice _ | broadcastExcept _ =>
    cases hstep
    exact hquiet trivial (keeps hlistens hlive (fun _ hp => hp) hsame (fun _ _ h => h) (sent_send hlive _))
  | closeAll =>
    cases hstep
    exact hquiet trivial (keeps hlistens hlive nofun nofun (fun _ _ h => h) hlive.sent)
  | login deviceName random =>
    cases hstep
    refine hquiet trivial (keeps hlistens hlive (fun _ hp => hp) hsame (fun deviceId sock h => ?_) hlive.sent)
    obtain ⟨row, token, hrow, hrest⟩ := (sessionValid_iff s deviceId sock).mp h
    refine (sessionValid_iff _ deviceId sock).mpr ⟨row, token, ?_, hrest⟩
    exact (List.getElem?_append_left (List.getElem?_eq_some_iff.mp hrow).1).trans hrow
  | reap deviceId =>
    cases hstep
    exact hquiet trivial (keeps_setDevice hlistens hlive fun _ => ⟨rfl, rfl⟩)
  | logout token random =>
    cases hstep
    refine ends_live_iff hlistens hlive (by rfl) (by rfl) (by rfl) fun deviceId sock h => ?_
    obtain ⟨row, token', hrow, hsession, htoken, hexpires⟩ := (sessionValid_iff s deviceId sock).mp h
    rw [sessionValid_iff]
    simp only [List.getElem?_map, hrow, Option.map_some, Option.some.injEq, hsession]
    by_cases heq : token' = token
    · subst heq
      simp [htoken]
    · refine iff_of_true ⟨row, token', ?_, rfl, htoken, hexpires⟩ fun h => heq (Option.some.inj h)
      rw [htoken, if_neg fun h => heq (Token.session.inj h)]
  | remove id random =>
    cases hstep
    refine ends_live_iff hlistens hlive (by rfl) (by rfl) (by rfl) fun deviceId sock h => ?_
    obtain ⟨row, token', hrow, hsession, htoken, hexpires⟩ := (sessionValid_iff s deviceId sock).mp h
    rw [sessionValid_iff]
    simp only [setDevice, List.getElem?_modify, hrow, Option.map_eq_map, Option.map_some, Option.some.injEq,
      hsession]
    by_cases heq : id = deviceId
    · simp [heq]
    · refine iff_of_true ⟨row, token', ?_, rfl, htoken, hexpires⟩ (Ne.symm heq)
      rw [if_neg heq]
  | wait milliseconds =>
    cases hstep
    refine ends_live_iff hlistens hlive (by rfl) (by rfl) (by rfl) fun deviceId sock h => ?_
    obtain ⟨row, token', hrow, hsession, htoken, hexpires⟩ := (sessionValid_iff s deviceId sock).mp h
    rw [sessionValid_iff]
    simp only [hrow, hsession, Option.some.injEq]
    constructor
    · rintro ⟨row', token'', rfl, rfl, -, hlater⟩ row'' rfl
      exact hlater
    · exact fun hlater => ⟨row, token', rfl, rfl, htoken, hlater row rfl⟩

/-! ## Runs -/

/-- A server that has just been started, with its devices. -/
def start (devices : List Device) (now : Nat) : Broadcaster := ⟨devices, now, [], [], [], []⟩

/-- **The map is that of the live sockets** of valid sessions, and events go to these only, in exactly the runs
in which no socket closes or loses its session before it is registered, and no session ends that has an open
socket in the map. -/
theorem spares_iff_live (expiresAt : Nat → Nat) (devices : List Device) (now : Nat)
    (events : List BroadcasterEvent) :
    Guarded (step expiresAt) (Spares expiresAt) (start devices now) events ↔
      ∀ before after s, events = before ++ after →
        exec (step expiresAt) (start devices now) before = some s → s.Live expiresAt := by
  have hlistens : (start devices now).Listens := fun _ _ h => absurd h List.not_mem_nil
  have hlive : (start devices now).Live expiresAt :=
    .of (fun _ _ h => absurd h List.not_mem_nil) fun _ h => absurd h List.not_mem_nil
  refine guarded_iff_invariant (J := Listens)
    (fun s e t hlistens hlive hstep => step_live_iff hlistens hlive hstep)
    (fun s e hrefused => ?_) hlistens hlive events
  cases e with
  | run i =>
    intro sock hget deviceId hsettled
    have hproceed : s.proceed expiresAt i sock.validation = none := by
      rw [step, hget] at hrefused
      exact hrefused
    rw [hsettled] at hproceed
    cases hproceed
  | logout _ _ | remove _ _ | wait _ => cases hrefused
  | _ => trivial

/-- **A closed socket in the map, and an event on a session that is over.** A socket closes while its session is
validated, and is registered for good; and a device that has logged out goes on to receive what is
broadcast. -/
theorem closed_and_revoked :
    (∃ s, exec (step (· + 100)) (start [⟨0, "Web Browser", 0, 0, .session 7, true⟩] 0)
        [.connect (some 7), .run 0, .run 0, .close 0, .run 0, .run 0] = some s ∧
      s.connections = [(0, 0)] ∧ ¬ s.Live (· + 100)) ∧
    ∃ s, exec (step (· + 100)) (start [⟨0, "Web Browser", 0, 0, .session 7, true⟩] 0)
        [.connect (some 7), .run 0, .run 0, .run 0, .run 0, .logout 7 8, .broadcast] = some s ∧
      s.sent = [(0, false)] ∧ s.isDeviceConnected 0 = true ∧ ¬ s.Live (· + 100) := by
  refine ⟨⟨_, rfl, rfl, fun h => ?_⟩, _, rfl, by decide, by decide, fun h => ?_⟩
  · obtain ⟨sock, hget, hnot, -⟩ := h.registered 0 0 (by decide)
    cases hget
    exact hnot rfl
  · exact absurd (h.sent (0, false) (by decide)) (by decide)

end Broadcaster

end Svarla.Sessions
