import Svarla.Lib.Run
import Svarla.Lib.Threads
import Mathlib.Data.List.Pairwise
import Mathlib.Data.List.Sort
import Mathlib.Tactic.Common

/-!
# The event socket

The events of the MediaBridge wait in a bounded buffer until a writer of the event socket takes them.
Each connection has a writer, and a writer that finds its connection replaced, or whose write fails,
puts the event it holds back at the end of the buffer. Where something was emitted since, that is out
of order (`overtaken`).

An event is numbered when it enters the buffer. Every number is at one place (`Counted`), and in a run
where an event is only put back while it is the newest one (`Orderly`), what the connections get, one
after the other, is what was emitted and is neither dropped nor under way (`events_in_order`).

`Shutdown` is left out.
-/

namespace Svarla.MediaBridge

open Svarla.Lib

variable {ε : Type*}

/-- `BufferSize` of the configuration; `DefaultBufferSize` where it is not positive. -/
def bufferSize (configured : Int) : Nat := if configured ≤ 0 then 256 else configured.toNat

theorem bufferSize_pos (configured : Int) : 0 < bufferSize configured := by
  rw [bufferSize]
  split <;> omega

/-- An event of a session, or the health of the MediaBridge. -/
structure Event where
  type : String
  sessionID : String
  eventName : String
  reason : String
  digit : String
  activeSessions : Option Int
  uptime : Option Int
  deriving DecidableEq, Repr

/-- The event of `EmitSessionEvent`. -/
def sessionEvent (sessionID event reason : String) : Event :=
  ⟨"session_event", sessionID, event, reason, "", none, none⟩

/-- An event in the buffer, with its number. -/
structure Entry (ε : Type*) where
  number : Nat
  event : ε
  deriving DecidableEq, Repr

/-- A call of `Emit` that found the buffer full. -/
inductive Emitter (ε : Type*)
  /-- Before it drops the oldest event. -/
  | full (event : ε)
  /-- Before it tries again. -/
  | dropped (event : ε)
  deriving DecidableEq, Repr

/-- The `writeLoop` of a connection. -/
inductive Writer (ε : Type*)
  | waiting
  /-- It has an event, and has not checked that its connection is the active one. -/
  | holding (entry : Entry ε)
  | writing (entry : Entry ε)
  | ended
  deriving DecidableEq, Repr

def Writer.held : Writer ε → Option (Entry ε)
  | waiting | ended => none
  | holding entry | writing entry => some entry

structure Server (ε : Type*) where
  /-- The active connection; connections are numbered as they come. -/
  conn : Option Nat
  buffer : List (Entry ε)
  emitters : List (Emitter ε)
  /-- The writer of each connection that there was. -/
  writers : List (Writer ε)
  /-- The events that have entered the buffer. -/
  log : List ε
  /-- The writes that succeeded, with their connections. -/
  written : List (Nat × Entry ε)
  /-- The oldest events, dropped from the full buffer. -/
  dropped : List Nat
  /-- The other events that were taken from the buffer and not written or put back. -/
  lost : List Nat
  /-- The events that did not enter the buffer. -/
  missed : List ε

inductive ServerEvent (ε : Type*)
  | emit (event : ε)
  /-- The next `select` of a call of `Emit`. -/
  | emitter (i : Nat)
  | connect
  /-- The read loop of a connection has ended. -/
  | disconnect (conn : Nat)
  /-- The next step of a connection's writer; does its write succeed? -/
  | writer (conn : Nat) (ok : Bool)
  deriving DecidableEq, Repr

namespace Server

def init : Server ε := ⟨none, [], [], [], [], [], [], [], []⟩

/-- An event enters the buffer. -/
def enter (s : Server ε) (event : ε) : Server ε :=
  { s with
    buffer := s.buffer ++ [⟨s.log.length, event⟩]
    log := s.log ++ [event] }

/-- The event of a writer is put back, if there is room. -/
def putBack (size : Nat) (s : Server ε) (entry : Entry ε) : Server ε :=
  if s.buffer.length < size then { s with buffer := s.buffer ++ [entry] }
  else { s with lost := s.lost ++ [entry.number] }

/-- `Emit`, up to its second `select`. -/
def emit (size : Nat) (s : Server ε) (event : ε) : Server ε :=
  if s.buffer.length < size then s.enter event
  else { s with emitters := s.emitters ++ [.full event] }

/-- The next `select` of `Emit`, and the emitter that is left. -/
def emitterStep (size : Nat) (s : Server ε) : Emitter ε → Server ε × Option (Emitter ε)
  | .full event =>
    match s.buffer with
    | [] => (s, some (.dropped event))
    | oldest :: buffer =>
      (if s.buffer.length = size then
          { s with buffer, dropped := s.dropped ++ [oldest.number] }
        else { s with buffer, lost := s.lost ++ [oldest.number] }, some (.dropped event))
  | .dropped event =>
    (if s.buffer.length < size then s.enter event
      else { s with missed := s.missed ++ [event] }, none)

/-- `ServeHTTP`, up to its read loop. -/
def connect (s : Server ε) : Server ε :=
  { s with conn := some s.writers.length, writers := s.writers ++ [.waiting] }

/-- The next step of the `writeLoop` of connection `k`; none where there is no event or no loop. -/
def writerStep (size : Nat) (s : Server ε) (k : Nat) (ok : Bool) :
    Writer ε → Option (Server ε × Writer ε)
  | .waiting =>
    match s.buffer with
    | [] => none
    | entry :: buffer => some ({ s with buffer }, .holding entry)
  | .holding entry =>
    if s.conn = some k then some (s, .writing entry) else some (s.putBack size entry, .ended)
  | .writing entry =>
    if ok then some ({ s with written := s.written ++ [(k, entry)] }, .waiting)
    else some (s.putBack size entry, .ended)
  | .ended => none

/-- One event. -/
def step (size : Nat) (s : Server ε) : ServerEvent ε → Option (Server ε)
  | .emit event => some (s.emit size event)
  | .emitter i => s.emitters[i]?.map fun emitter =>
    let r := s.emitterStep size emitter
    { r.1 with emitters := advance r.1.emitters i r.2 }
  | .connect => some s.connect
  | .disconnect k =>
    if k < s.writers.length then some (if s.conn = some k then { s with conn := none } else s)
    else none
  | .writer k ok => s.writers[k]?.bind fun writer =>
    (s.writerStep size k ok writer).map fun r => { r.1 with writers := r.1.writers.set k r.2 }

/-! ## What the connections get -/

/-- What a connection got. -/
def writtenOn (s : Server ε) (k : Nat) : List (Entry ε) :=
  (s.written.filter (·.1 = k)).map (·.2)

/-- What the connections got, one after the other. -/
def stream (s : Server ε) : List (Entry ε) := (List.range s.writers.length).flatMap s.writtenOn

/-- What was emitted, with the numbers. -/
def numbered (s : Server ε) : List (Entry ε) :=
  s.log.zipIdx.map fun p => ⟨p.2, p.1⟩

/-- The numbers in the buffer and with the writers. -/
def pending (s : Server ε) : List Nat :=
  s.buffer.map (·.number) ++ (s.writers.filterMap Writer.held).map (·.number)

/-- Nothing is lost, and what is neither dropped nor under way was written, in order. -/
structure InOrder (s : Server ε) : Prop where
  stream : s.stream = s.numbered.filter fun e => e.number ∉ s.dropped ∧ e.number ∉ s.pending
  lost : s.lost = []
  missed : s.missed = []

/-! ## One place for each number -/

end Server

/-- How often a writer holds the number. -/
def Writer.holds (n : Nat) (writer : Writer ε) : Nat := (writer.held.toList.map (·.number)).count n

namespace Server

variable {s t : Server ε} {size : Nat}

/-- In how many places the number is. -/
def places (s : Server ε) (n : Nat) : Nat :=
  (s.written.map (·.2.number)).count n + s.dropped.count n + s.lost.count n +
    (s.buffer.map (·.number)).count n + owed (Writer.holds n) s.writers

/-- Every number that was given is in one place. -/
def Counted (s : Server ε) : Prop :=
  ∀ n, s.places n = if n < s.log.length then 1 else 0

theorem counted_init : (init : Server ε).Counted := fun _ => rfl

theorem Counted.enter (h : s.Counted) (event : ε) : (s.enter event).Counted := by
  intro n
  have hn := h n
  simp only [places, Server.enter, List.map_append, List.map_singleton, List.count_append,
    List.count_singleton, List.length_append, List.length_singleton, beq_iff_eq] at hn ⊢
  split_ifs at hn ⊢ <;> omega

/-- A number that is put back is where it was not. -/
theorem places_putBack (entry : Entry ε) (n : Nat) :
    (s.putBack size entry).places n = s.places n + [entry.number].count n := by
  rw [putBack]
  split <;> simp only [places, List.map_append, List.map_singleton, List.count_append] <;> omega

theorem putBack_log (entry : Entry ε) : (s.putBack size entry).log = s.log := by
  rw [putBack]
  split <;> rfl

theorem putBack_writers (entry : Entry ε) : (s.putBack size entry).writers = s.writers := by
  rw [putBack]
  split <;> rfl

theorem Counted.emitterStep (h : s.Counted) (emitter : Emitter ε) :
    (s.emitterStep size emitter).1.Counted := by
  cases emitter with
  | full event =>
    rw [Server.emitterStep]
    split
    · exact h
    · next oldest buffer hbuffer =>
      intro n
      have hn := h n
      dsimp only
      split <;>
        simp only [places, hbuffer, List.map_cons, List.count_cons, List.count_append,
          List.count_nil] at hn ⊢ <;>
        omega
  | dropped event =>
    rw [Server.emitterStep]
    dsimp only
    split
    · exact h.enter event
    · exact h

/-- What a writer's step does with the numbers. -/
theorem places_writerStep {k : Nat} {ok : Bool} {writer : Writer ε} {r : Server ε × Writer ε}
    (hr : s.writerStep size k ok writer = some r) (n : Nat) :
    r.1.places n + r.2.holds n = s.places n + writer.holds n ∧ r.1.log = s.log ∧
      r.1.writers = s.writers := by
  revert hr
  fun_cases writerStep size s k ok writer <;> intro hr <;> cases hr
  case case2 entry buffer hbuffer =>
    refine ⟨?_, rfl, rfl⟩
    simp only [places, hbuffer, Writer.holds, Writer.held, Option.toList_some, Option.toList_none,
      List.map_cons, List.map_nil, List.count_cons, List.count_nil]
    omega
  case case3 => exact ⟨rfl, rfl, rfl⟩
  case case4 entry _ => exact ⟨places_putBack entry n, putBack_log entry, putBack_writers entry⟩
  case case5 =>
    refine ⟨?_, rfl, rfl⟩
    simp only [places, Writer.holds, Writer.held, Option.toList_some, Option.toList_none,
      List.map_cons, List.map_nil, List.map_append, List.count_append, List.count_nil]
    omega
  case case6 entry _ => exact ⟨places_putBack entry n, putBack_log entry, putBack_writers entry⟩

/-- No number is duplicated. -/
theorem Counted.step {e : ServerEvent ε} (h : s.Counted) (ht : s.step size e = some t) :
    t.Counted := by
  cases e with
  | emit event =>
    cases ht
    rw [emit]
    split
    · exact h.enter event
    · exact h
  | emitter i =>
    obtain ⟨emitter, -, rfl⟩ := Option.map_eq_some_iff.mp ht
    exact h.emitterStep emitter
  | connect =>
    cases ht
    intro n
    rw [← show s.places n = s.connect.places n by
      simp [places, connect, Writer.holds, Writer.held]]
    exact h n
  | disconnect k =>
    rw [Server.step] at ht
    split_ifs at ht <;> cases ht <;> exact h
  | writer k ok =>
    obtain ⟨writer, hk, ht⟩ := Option.bind_eq_some_iff.mp ht
    obtain ⟨r, hr, rfl⟩ := Option.map_eq_some_iff.mp ht
    intro n
    obtain ⟨hplaces, hlog, hwriters⟩ := places_writerStep hr n
    have howed := owed_advance hk (Writer.holds n) (some r.2)
    have hn := h n
    simp only [places, hlog, hwriters, advance, Option.elim_some] at hplaces hn howed ⊢
    omega

/-! ## The events of the numbers -/

/-- The event of an entry is the one that entered the buffer with its number. -/
def Known (s : Server ε) (entry : Entry ε) : Prop := s.log[entry.number]? = some entry.event

structure Genuine (s : Server ε) : Prop where
  written : ∀ p ∈ s.written, s.Known p.2
  buffer : ∀ e ∈ s.buffer, s.Known e
  held : ∀ w ∈ s.writers, ∀ e ∈ w.held, s.Known e

theorem Known.lt {entry : Entry ε} (h : s.Known entry) : entry.number < s.log.length :=
  (List.getElem?_eq_some_iff.mp h).1

theorem Known.enter {entry : Entry ε} (h : s.Known entry) (event : ε) :
    (s.enter event).Known entry :=
  (List.getElem?_append_left h.lt).trans h

theorem genuine_init : (init : Server ε).Genuine := ⟨nofun, nofun, nofun⟩

theorem Genuine.enter (h : s.Genuine) (event : ε) : (s.enter event).Genuine where
  written p hp := (h.written p hp).enter event
  buffer e he := by
    rcases List.mem_append.mp he with he | he
    · exact (h.buffer e he).enter event
    · cases List.mem_singleton.mp he
      exact List.getElem?_concat_length
  held w hw e he := (h.held w hw e he).enter event

theorem Genuine.putBack (h : s.Genuine) {entry : Entry ε} (hentry : s.Known entry) :
    (s.putBack size entry).Genuine := by
  rw [Server.putBack]
  split
  · refine { h with buffer := fun e he => ?_ }
    rcases List.mem_append.mp he with he | he
    · exact h.buffer e he
    · exact List.mem_singleton.mp he ▸ hentry
  · exact { h with }

theorem Genuine.emitterStep (h : s.Genuine) (emitter : Emitter ε) :
    (s.emitterStep size emitter).1.Genuine := by
  cases emitter with
  | full event =>
    rw [Server.emitterStep]
    split
    · exact h
    · next oldest buffer hbuffer =>
      have hrest : ∀ e ∈ buffer, s.Known e := fun e he =>
        h.buffer e (hbuffer ▸ List.mem_cons_of_mem oldest he)
      dsimp only
      split
      · exact { h with buffer := hrest }
      · exact { h with buffer := hrest }
  | dropped event =>
    rw [Server.emitterStep]
    dsimp only
    split
    · exact h.enter event
    · exact { h with }

/-- The writer's event is one of those that entered the buffer, too. -/
theorem Genuine.writerStep (h : s.Genuine) {k : Nat} {ok : Bool} {writer : Writer ε}
    (hwriter : ∀ e ∈ writer.held, s.Known e) {r : Server ε × Writer ε}
    (hr : s.writerStep size k ok writer = some r) :
    r.1.Genuine ∧ ∀ e ∈ r.2.held, r.1.Known e := by
  revert hr
  fun_cases Server.writerStep size s k ok writer <;> intro hr <;> cases hr
  case case2 entry buffer hbuffer =>
    refine ⟨{ h with buffer := fun e he => ?_ }, fun e he => ?_⟩
    · exact h.buffer e (hbuffer ▸ List.mem_cons_of_mem entry he)
    · cases he
      exact h.buffer entry (hbuffer ▸ List.mem_cons_self)
  case case3 => exact ⟨h, hwriter⟩
  case case4 entry _ => exact ⟨h.putBack (hwriter entry rfl), nofun⟩
  case case5 entry _ =>
    refine ⟨{ h with written := fun p hp => ?_ }, nofun⟩
    rcases List.mem_append.mp hp with hp | hp
    · exact h.written p hp
    · cases List.mem_singleton.mp hp
      exact hwriter entry rfl
  case case6 entry _ => exact ⟨h.putBack (hwriter entry rfl), nofun⟩

theorem Genuine.step {e : ServerEvent ε} (h : s.Genuine) (ht : s.step size e = some t) :
    t.Genuine := by
  cases e with
  | emit event =>
    cases ht
    rw [emit]
    split
    · exact h.enter event
    · exact { h with }
  | emitter i =>
    obtain ⟨emitter, -, rfl⟩ := Option.map_eq_some_iff.mp ht
    exact { h.emitterStep emitter with }
  | connect =>
    cases ht
    refine { h with held := fun w hw e he => ?_ }
    rcases List.mem_append.mp hw with hw | hw
    · exact h.held w hw e he
    · rw [List.mem_singleton.mp hw] at he
      cases he
  | disconnect k =>
    rw [Server.step] at ht
    split_ifs at ht <;> cases ht
    · exact { h with }
    · exact h
  | writer k ok =>
    obtain ⟨writer, hk, ht⟩ := Option.bind_eq_some_iff.mp ht
    obtain ⟨r, hr, rfl⟩ := Option.map_eq_some_iff.mp ht
    obtain ⟨hgenuine, hheld⟩ := h.writerStep (h.held writer (List.mem_of_getElem? hk)) hr
    refine { hgenuine with held := fun w hw e he => ?_ }
    rcases List.mem_or_eq_of_mem_set hw with hw | rfl
    · exact hgenuine.held w hw e he
    · exact hheld e he

/-! ## The order -/

/-- Two writes: the one on the later connection, or else the later one, has the later event. -/
def Ranked (p q : Nat × Entry ε) : Prop :=
  (p.1 ≤ q.1 → p.2.number < q.2.number) ∧ (q.1 < p.1 → q.2.number < p.2.number)

/-- The events are in order: written ones, those with the writers, and those in the buffer. -/
structure Ordered (s : Server ε) : Prop where
  active : ∀ k, s.conn = some k → k + 1 = s.writers.length
  written_lt : ∀ p ∈ s.written, p.1 < s.writers.length
  buffer : s.buffer.Pairwise (·.number < ·.number)
  held : ∀ w ∈ s.writers, ∀ e ∈ w.held, ∀ b ∈ s.buffer, e.number < b.number
  gone : ∀ p ∈ s.written, ∀ b ∈ s.buffer, p.2.number < b.number
  /-- An event that is written has been overtaken by none of a later connection. -/
  writing : ∀ (j : Nat) (e : Entry ε), s.writers[j]? = some (.writing e) → ∀ (k : Nat) (w : Writer ε),
    s.writers[k]? = some w → ∀ f ∈ w.held, j < k → e.number < f.number
  since : ∀ p ∈ s.written, ∀ (k : Nat) (w : Writer ε), s.writers[k]? = some w → ∀ f ∈ w.held,
    p.1 ≤ k → p.2.number < f.number
  before : ∀ p ∈ s.written, ∀ (j : Nat) (e : Entry ε), s.writers[j]? = some (.writing e) → j < p.1 →
    e.number < p.2.number
  written : s.written.Pairwise Ranked

theorem ordered_init : (init : Server ε).Ordered :=
  ⟨nofun, nofun, .nil, nofun, nofun, nofun, nofun, nofun, .nil⟩

theorem Ordered.enter (h : s.Ordered) (hgenuine : s.Genuine) (event : ε) :
    (s.enter event).Ordered where
  active := h.active
  written_lt := h.written_lt
  buffer := by
    refine List.pairwise_append.mpr ⟨h.buffer, List.pairwise_singleton .., fun e he _ hb => ?_⟩
    cases List.mem_singleton.mp hb
    exact (hgenuine.buffer e he).lt
  held w hw e he b hb := by
    rcases List.mem_append.mp hb with hb | hb
    · exact h.held w hw e he b hb
    · cases List.mem_singleton.mp hb
      exact (hgenuine.held w hw e he).lt
  gone p hp b hb := by
    rcases List.mem_append.mp hb with hb | hb
    · exact h.gone p hp b hb
    · cases List.mem_singleton.mp hb
      exact (hgenuine.written p hp).lt
  writing := h.writing
  since := h.since
  before := h.before
  written := h.written

/-- The oldest event is dropped. -/
theorem Ordered.drop (h : s.Ordered) {oldest : Entry ε} {buffer : List (Entry ε)}
    (hbuffer : s.buffer = oldest :: buffer) (dropped lost : List Nat) :
    ({ s with buffer, dropped, lost } : Server ε).Ordered :=
  have hrest : ∀ b ∈ buffer, b ∈ s.buffer := fun _ hb => hbuffer ▸ List.mem_cons_of_mem oldest hb
  { h with
    buffer := (List.pairwise_cons.mp (hbuffer ▸ h.buffer)).2
    held := fun w hw e he b hb => h.held w hw e he b (hrest b hb)
    gone := fun p hp b hb => h.gone p hp b (hrest b hb) }

theorem Ordered.connect (h : s.Ordered) : s.connect.Ordered where
  active k hk := by
    cases hk
    rw [Server.connect, List.length_append, List.length_singleton]
  written_lt p hp := by
    have := h.written_lt p hp
    rw [Server.connect, List.length_append]
    omega
  buffer := h.buffer
  held w hw e he b hb := by
    rcases List.mem_append.mp hw with hw | hw
    · exact h.held w hw e he b hb
    · rw [List.mem_singleton.mp hw] at he
      cases he
  gone := h.gone
  writing j e hj k w hk f hf hjk := by
    rcases of_getElem?_concat hk with hk | ⟨-, rfl⟩
    · rcases of_getElem?_concat hj with hj | ⟨-, he⟩
      · exact h.writing j e hj k w hk f hf hjk
      · cases he
    · cases hf
  since p hp k w hk f hf hpk := by
    rcases of_getElem?_concat hk with hk | ⟨-, rfl⟩
    · exact h.since p hp k w hk f hf hpk
    · cases hf
  before p hp j e hj hjp := by
    rcases of_getElem?_concat hj with hj | ⟨-, he⟩
    · exact h.before p hp j e hj hjp
    · cases he
  written := h.written

/-- The oldest event is taken by a writer. -/
theorem Ordered.take (h : s.Ordered) {k : Nat} {entry : Entry ε} {buffer : List (Entry ε)}
    (hbuffer : s.buffer = entry :: buffer) :
    ({ s with buffer, writers := s.writers.set k (.holding entry) } : Server ε).Ordered where
  active j hj := by
    rw [List.length_set]
    exact h.active j hj
  written_lt p hp := by
    rw [List.length_set]
    exact h.written_lt p hp
  buffer := (List.pairwise_cons.mp (hbuffer ▸ h.buffer)).2
  held w hw e he b hb := by
    rcases List.mem_or_eq_of_mem_set hw with hw | rfl
    · exact h.held w hw e he b (hbuffer ▸ List.mem_cons_of_mem entry hb)
    · cases he
      exact (List.pairwise_cons.mp (hbuffer ▸ h.buffer)).1 b hb
  gone p hp b hb := h.gone p hp b (hbuffer ▸ List.mem_cons_of_mem entry hb)
  writing i e hi j w hj f hf hij := by
    rcases of_getElem?_set hi with ⟨-, he⟩ | ⟨-, hi⟩
    · cases he
    · rcases of_getElem?_set hj with ⟨-, rfl⟩ | ⟨-, hj⟩
      · cases hf
        exact h.held _ (List.mem_of_getElem? hi) e rfl entry (hbuffer ▸ List.mem_cons_self)
      · exact h.writing i e hi j w hj f hf hij
  since p hp j w hj f hf hpj := by
    rcases of_getElem?_set hj with ⟨-, rfl⟩ | ⟨-, hj⟩
    · cases hf
      exact h.gone p hp entry (hbuffer ▸ List.mem_cons_self)
    · exact h.since p hp j w hj f hf hpj
  before p hp j e hj hjp := by
    rcases of_getElem?_set hj with ⟨-, he⟩ | ⟨-, hj⟩
    · cases he
    · exact h.before p hp j e hj hjp
  written := h.written

/-- A writer finds its connection active: there is no later one. -/
theorem Ordered.check (h : s.Ordered) {k : Nat} {entry : Entry ε}
    (hk : s.writers[k]? = some (.holding entry)) (hconn : s.conn = some k) :
    ({ s with writers := s.writers.set k (.writing entry) } : Server ε).Ordered where
  active j hj := by
    rw [List.length_set]
    exact h.active j hj
  written_lt p hp := by
    rw [List.length_set]
    exact h.written_lt p hp
  buffer := h.buffer
  held w hw e he b hb := by
    rcases List.mem_or_eq_of_mem_set hw with hw | rfl
    · exact h.held w hw e he b hb
    · cases he
      exact h.held _ (List.mem_of_getElem? hk) entry rfl b hb
  gone := h.gone
  writing i e hi j w hj f hf hij := by
    rcases of_getElem?_set hi with ⟨rfl, -⟩ | ⟨-, he⟩
    · have hlast := h.active i hconn
      have hlt := (List.getElem?_eq_some_iff.mp hj).1
      rw [List.length_set] at hlt
      omega
    · rcases of_getElem?_set hj with ⟨rfl, rfl⟩ | ⟨-, hj⟩
      · cases hf
        exact h.writing i e he j _ hk entry rfl hij
      · exact h.writing i e he j w hj f hf hij
  since p hp j w hj f hf hpj := by
    rcases of_getElem?_set hj with ⟨rfl, rfl⟩ | ⟨-, hj⟩
    · cases hf
      exact h.since p hp j _ hk entry rfl hpj
    · exact h.since p hp j w hj f hf hpj
  before p hp j e hj hjp := by
    rcases of_getElem?_set hj with ⟨rfl, -⟩ | ⟨-, hj⟩
    · have hlast := h.active j hconn
      have hlt := h.written_lt p hp
      omega
    · exact h.before p hp j e hj hjp
  written := h.written

/-- A write succeeds. -/
theorem Ordered.write (h : s.Ordered) {k : Nat} {entry : Entry ε}
    (hk : s.writers[k]? = some (.writing entry)) :
    ({ s with
      written := s.written ++ [(k, entry)]
      writers := s.writers.set k .waiting } : Server ε).Ordered where
  active j hj := by
    rw [List.length_set]
    exact h.active j hj
  written_lt p hp := by
    rw [List.length_set]
    rcases List.mem_append.mp hp with hp | hp
    · exact h.written_lt p hp
    · cases List.mem_singleton.mp hp
      exact (List.getElem?_eq_some_iff.mp hk).1
  buffer := h.buffer
  held w hw e he b hb := by
    rcases List.mem_or_eq_of_mem_set hw with hw | rfl
    · exact h.held w hw e he b hb
    · cases he
  gone p hp b hb := by
    rcases List.mem_append.mp hp with hp | hp
    · exact h.gone p hp b hb
    · cases List.mem_singleton.mp hp
      exact h.held _ (List.mem_of_getElem? hk) entry rfl b hb
  writing i e hi j w hj f hf hij := by
    rcases of_getElem?_set hi with ⟨-, he⟩ | ⟨-, hi⟩
    · cases he
    · rcases of_getElem?_set hj with ⟨-, rfl⟩ | ⟨-, hj⟩
      · cases hf
      · exact h.writing i e hi j w hj f hf hij
  since p hp j w hj f hf hpj := by
    rcases of_getElem?_set hj with ⟨-, rfl⟩ | ⟨hjk, hj⟩
    · cases hf
    · rcases List.mem_append.mp hp with hp | hp
      · exact h.since p hp j w hj f hf hpj
      · cases List.mem_singleton.mp hp
        exact h.writing k entry hk j w hj f hf (lt_of_le_of_ne hpj hjk.symm)
  before p hp j e hj hjp := by
    rcases of_getElem?_set hj with ⟨-, he⟩ | ⟨-, hj⟩
    · cases he
    · rcases List.mem_append.mp hp with hp | hp
      · exact h.before p hp j e hj hjp
      · cases List.mem_singleton.mp hp
        exact h.writing j e hj k _ hk entry rfl hjp
  written := by
    refine List.pairwise_append.mpr ⟨h.written, List.pairwise_singleton .., fun p hp q hq => ?_⟩
    cases List.mem_singleton.mp hq
    exact ⟨h.since p hp k _ hk entry rfl, h.before p hp k entry hk⟩

/-- A writer ends, and the event it has is the newest: nothing waits behind it. -/
theorem Ordered.buffer_nil (h : s.Ordered) (hgenuine : s.Genuine) {writer : Writer ε}
    (hwriter : writer ∈ s.writers) {entry : Entry ε} (hheld : writer.held = some entry)
    (hnewest : entry.number + 1 = s.log.length) : s.buffer = [] := by
  refine List.eq_nil_iff_forall_not_mem.mpr fun b hb => ?_
  have hlt := (hgenuine.buffer b hb).lt
  have := h.held writer hwriter entry hheld b hb
  omega

/-- A number in the buffer is with no writer, and is not written. -/
theorem Counted.apart (h : s.Counted) {entry : Entry ε} (hentry : entry ∈ s.buffer) :
    (∀ w ∈ s.writers, ∀ e ∈ w.held, e.number ≠ entry.number) ∧
      ∀ p ∈ s.written, p.2.number ≠ entry.number := by
  have hplaces := h entry.number
  have hbuffer : 0 < (s.buffer.map (·.number)).count entry.number :=
    List.count_pos_iff.mpr (List.mem_map_of_mem hentry)
  have hone : s.places entry.number ≤ 1 := by
    rw [hplaces]
    split <;> omega
  rw [places] at hone
  refine ⟨fun w hw e he hne => ?_, fun p hp hne => ?_⟩
  · have hle := le_owed_of_mem hw (Writer.holds entry.number)
    have hw : Writer.holds entry.number w = 1 := by
      rw [Writer.holds, he, ← hne]
      exact List.count_singleton_self
    omega
  · have : 0 < (s.written.map (·.2.number)).count entry.number :=
      List.count_pos_iff.mpr (List.mem_map.mpr ⟨p, hp, hne⟩)
    omega

/-- A writer puts the newest event back. -/
theorem Ordered.putBack (h : s.Ordered) (hsize : 0 < size) (hgenuine : s.Genuine) {k : Nat}
    {writer : Writer ε} (hk : s.writers[k]? = some writer) {entry : Entry ε}
    (hheld : writer.held = some entry) (hnewest : entry.number + 1 = s.log.length)
    (hcounted : Counted { s.putBack size entry with
      writers := (s.putBack size entry).writers.set k .ended }) :
    ({ s.putBack size entry with
      writers := (s.putBack size entry).writers.set k .ended } : Server ε).Ordered ∧
      (s.putBack size entry).lost = s.lost ∧ (s.putBack size entry).missed = s.missed := by
  have hnil := h.buffer_nil hgenuine (List.mem_of_getElem? hk) hheld hnewest
  have hput : s.putBack size entry = { s with buffer := [entry] } := by
    rw [Server.putBack, hnil, List.length_nil, if_pos hsize, List.nil_append]
  rw [hput] at hcounted ⊢
  obtain ⟨hwriters, hwritten⟩ := hcounted.apart (List.mem_singleton.mpr rfl)
  refine ⟨{
    active := fun j hj => ?_
    written_lt := fun p hp => ?_
    buffer := List.pairwise_singleton ..
    held := fun w hw e he b hb => ?_
    gone := fun p hp b hb => ?_
    writing := fun i e hi j w hj f hf hij => ?_
    since := fun p hp j w hj f hf hpj => ?_
    before := fun p hp j e hj hjp => ?_
    written := h.written }, rfl, rfl⟩
  · rw [List.length_set]
    exact h.active j hj
  · rw [List.length_set]
    exact h.written_lt p hp
  · cases List.mem_singleton.mp hb
    have hne := hwriters w hw e he
    rcases List.mem_or_eq_of_mem_set hw with hw | rfl
    · have := (hgenuine.held w hw e he).lt
      omega
    · cases he
  · cases List.mem_singleton.mp hb
    have hne := hwritten p hp
    have := (hgenuine.written p hp).lt
    omega
  · rcases of_getElem?_set hi with ⟨-, he⟩ | ⟨-, hi⟩
    · cases he
    · rcases of_getElem?_set hj with ⟨-, rfl⟩ | ⟨-, hj⟩
      · cases hf
      · exact h.writing i e hi j w hj f hf hij
  · rcases of_getElem?_set hj with ⟨-, rfl⟩ | ⟨-, hj⟩
    · cases hf
    · exact h.since p hp j w hj f hf hpj
  · rcases of_getElem?_set hj with ⟨-, he⟩ | ⟨-, hj⟩
    · cases he
    · exact h.before p hp j e hj hjp

/-! ## Runs -/

/-- An `Emit` that found the buffer full drops nothing, or finds it full still, and then has room. -/
def Undisturbed (size : Nat) (s : Server ε) : Emitter ε → Prop
  | .full _ => s.buffer = [] ∨ s.buffer.length = size
  | .dropped _ => s.buffer.length < size

/-- A writer only puts back what is the newest event. -/
def PutsBackNewest (s : Server ε) (k : Nat) (ok : Bool) : Writer ε → Prop
  | .holding entry => s.conn ≠ some k → entry.number + 1 = s.log.length
  | .writing entry => ok = false → entry.number + 1 = s.log.length
  | .waiting | .ended => True

def Orderly (size : Nat) (s : Server ε) : ServerEvent ε → Prop
  | .emitter i => ∀ emitter ∈ s.emitters[i]?, s.Undisturbed size emitter
  | .writer k ok => ∀ writer ∈ s.writers[k]?, s.PutsBackNewest k ok writer
  | .emit _ | .connect | .disconnect _ => True

instance (s : Server ε) : (emitter : Emitter ε) → Decidable (s.Undisturbed size emitter)
  | .full _ => inferInstanceAs (Decidable (_ ∨ _))
  | .dropped _ => inferInstanceAs (Decidable (_ < _))

instance (s : Server ε) (k : Nat) (ok : Bool) :
    (writer : Writer ε) → Decidable (s.PutsBackNewest k ok writer)
  | .holding _ | .writing _ => inferInstanceAs (Decidable (_ → _))
  | .waiting | .ended => .isTrue trivial

instance (s : Server ε) : (e : ServerEvent ε) → Decidable (s.Orderly size e)
  | .emitter i => inferInstanceAs (Decidable (∀ emitter ∈ s.emitters[i]?, _))
  | .writer k _ => inferInstanceAs (Decidable (∀ writer ∈ s.writers[k]?, _))
  | .emit _ | .connect | .disconnect _ => .isTrue trivial

/-- What a run keeps. -/
structure Kept (s : Server ε) : Prop where
  counted : s.Counted
  genuine : s.Genuine
  ordered : s.Ordered
  lost : s.lost = []
  missed : s.missed = []

theorem kept_init : (init : Server ε).Kept :=
  ⟨counted_init, genuine_init, ordered_init, rfl, rfl⟩

theorem Kept.emitter (h : s.Kept) {emitter : Emitter ε}
    (horderly : s.Undisturbed size emitter) :
    (s.emitterStep size emitter).1.Ordered ∧ (s.emitterStep size emitter).1.lost = [] ∧
      (s.emitterStep size emitter).1.missed = [] := by
  cases emitter with
  | full event =>
    rw [emitterStep]
    split
    · exact ⟨h.ordered, h.lost, h.missed⟩
    · next oldest buffer hbuffer =>
      have hfull : s.buffer.length = size := horderly.resolve_left (by simp [hbuffer])
      rw [if_pos (hbuffer ▸ hfull)]
      exact ⟨h.ordered.drop hbuffer _ _, h.lost, h.missed⟩
  | dropped event =>
    rw [emitterStep, if_pos (show s.buffer.length < size from horderly)]
    exact ⟨h.ordered.enter h.genuine event, h.lost, h.missed⟩

theorem Kept.writer (h : s.Kept) (hsize : 0 < size) {k : Nat} {ok : Bool}
    (horderly : s.Orderly size (.writer k ok)) (ht : s.step size (.writer k ok) = some t) :
    t.Ordered ∧ t.lost = [] ∧ t.missed = [] := by
  have hcounted := h.counted.step ht
  obtain ⟨writer, hk, hstep⟩ := Option.bind_eq_some_iff.mp ht
  obtain ⟨r, hr, rfl⟩ := Option.map_eq_some_iff.mp hstep
  have hguard := horderly writer hk
  clear ht hstep
  revert hr hcounted hguard hk
  fun_cases writerStep size s k ok writer <;> intro hk hr hcounted hguard <;> cases hr
  case case2 entry buffer hbuffer => exact ⟨h.ordered.take hbuffer, h.lost, h.missed⟩
  case case3 entry hconn => exact ⟨h.ordered.check hk hconn, h.lost, h.missed⟩
  case case4 entry hconn =>
    obtain ⟨hordered, hlost, hmissed⟩ :=
      h.ordered.putBack hsize h.genuine hk rfl (hguard hconn) hcounted
    exact ⟨hordered, hlost.trans h.lost, hmissed.trans h.missed⟩
  case case5 => exact ⟨h.ordered.write hk, h.lost, h.missed⟩
  case case6 entry hok =>
    obtain ⟨hordered, hlost, hmissed⟩ :=
      h.ordered.putBack hsize h.genuine hk rfl (hguard (Bool.eq_false_iff.mpr hok)) hcounted
    exact ⟨hordered, hlost.trans h.lost, hmissed.trans h.missed⟩

theorem Kept.step (h : s.Kept) (hsize : 0 < size) {e : ServerEvent ε} (horderly : s.Orderly size e)
    (ht : s.step size e = some t) : t.Kept := by
  suffices hrest : t.Ordered ∧ t.lost = [] ∧ t.missed = [] from
    ⟨h.counted.step ht, h.genuine.step ht, hrest.1, hrest.2.1, hrest.2.2⟩
  cases e with
  | emit event =>
    cases ht
    rw [emit]
    split
    · exact ⟨h.ordered.enter h.genuine event, h.lost, h.missed⟩
    · exact ⟨{ h.ordered with }, h.lost, h.missed⟩
  | emitter i =>
    obtain ⟨emitter, hi, rfl⟩ := Option.map_eq_some_iff.mp ht
    obtain ⟨hordered, hlost, hmissed⟩ := h.emitter (horderly emitter hi)
    exact ⟨{ hordered with }, hlost, hmissed⟩
  | connect =>
    cases ht
    exact ⟨h.ordered.connect, h.lost, h.missed⟩
  | disconnect k =>
    rw [Server.step] at ht
    split_ifs at ht <;> cases ht
    · exact ⟨{ h.ordered with active := nofun }, h.lost, h.missed⟩
    · exact ⟨h.ordered, h.lost, h.missed⟩
  | writer k ok => exact h.writer hsize horderly ht

/-! ## The stream -/

theorem mem_writtenOn {k : Nat} {e : Entry ε} : e ∈ s.writtenOn k ↔ (k, e) ∈ s.written := by
  simp [writtenOn]

theorem mem_numbered {e : Entry ε} : e ∈ s.numbered ↔ s.Known e := by
  rw [numbered, List.mem_map, Known]
  constructor
  · rintro ⟨⟨event, n⟩, hn, rfl⟩
    exact List.mem_zipIdx_iff_getElem?.mp hn
  · intro he
    exact ⟨(e.event, e.number), List.mem_zipIdx_iff_getElem?.mpr he, rfl⟩

theorem numbered_pairwise : s.numbered.Pairwise (·.number < ·.number) := by
  rw [numbered, List.pairwise_map]
  have hrange : (s.log.zipIdx.map Prod.snd).Pairwise (· < ·) := by
    rw [List.zipIdx_map_snd]
    exact List.pairwise_lt_range'
  exact List.pairwise_map.mp hrange

/-- The writes of two connections are in the order of the connections. -/
theorem Ordered.written_of_lt (h : s.Ordered) {p q : Nat × Entry ε} (hp : p ∈ s.written)
    (hq : q ∈ s.written) (hlt : p.1 < q.1) : p.2.number < q.2.number := by
  have hsymm : Std.Symm fun p q : Nat × Entry ε =>
      (p.1 < q.1 → p.2.number < q.2.number) ∧ (q.1 < p.1 → q.2.number < p.2.number) :=
    ⟨fun _ _ h => h.symm⟩
  have hranked : s.written.Pairwise fun p q =>
      (p.1 < q.1 → p.2.number < q.2.number) ∧ (q.1 < p.1 → q.2.number < p.2.number) :=
    h.written.imp fun hpq => ⟨fun hlt => hpq.1 hlt.le, hpq.2⟩
  exact (hranked.forall_of_forall (fun p _ => ⟨fun h => absurd h (lt_irrefl _),
    fun h => absurd h (lt_irrefl _)⟩) hp hq).1 hlt

theorem Ordered.stream_pairwise (h : s.Ordered) : s.stream.Pairwise (·.number < ·.number) := by
  refine List.pairwise_flatMap.mpr ⟨fun k _ => ?_, List.pairwise_lt_range.imp ?_⟩
  · refine List.pairwise_map.mpr (List.pairwise_filter.mpr (h.written.imp ?_))
    intro p q hpq hp hq
    exact hpq.1 ((of_decide_eq_true hp).trans (of_decide_eq_true hq).symm).le
  · intro j k hjk e he f hf
    exact h.written_of_lt (mem_writtenOn.mp he) (mem_writtenOn.mp hf) hjk

theorem Ordered.mem_stream (h : s.Ordered) {e : Entry ε} :
    e ∈ s.stream ↔ ∃ k, (k, e) ∈ s.written := by
  rw [stream, List.mem_flatMap]
  constructor
  · rintro ⟨k, -, he⟩
    exact ⟨k, mem_writtenOn.mp he⟩
  · rintro ⟨k, he⟩
    exact ⟨k, List.mem_range.mpr (h.written_lt _ he), mem_writtenOn.mpr he⟩

theorem count_pending (s : Server ε) (n : Nat) :
    s.pending.count n =
      (s.buffer.map (·.number)).count n + owed (Writer.holds n) s.writers := by
  rw [pending, List.count_append]
  congr 1
  induction s.writers with
  | nil => rfl
  | cons w ws ih =>
    rw [owed_cons, ← ih, Writer.holds]
    cases hw : w.held <;> simp [hw, List.count_cons, Nat.add_comm]

/-- A number that was given, and is not written, is dropped or under way. -/
theorem Kept.mem_stream (h : s.Kept) {e : Entry ε} (he : s.Known e) :
    e ∈ s.stream ↔ e.number ∉ s.dropped ∧ e.number ∉ s.pending := by
  have hplaces := h.counted e.number
  rw [if_pos he.lt, places, h.lost, List.count_nil, Nat.add_assoc, ← count_pending] at hplaces
  rw [← List.count_eq_zero, ← List.count_eq_zero, h.ordered.mem_stream]
  constructor
  · rintro ⟨k, hk⟩
    have : 0 < (s.written.map (·.2.number)).count e.number :=
      List.count_pos_iff.mpr (List.mem_map.mpr ⟨_, hk, rfl⟩)
    omega
  · intro hnone
    have hwritten : 0 < (s.written.map (·.2.number)).count e.number := by omega
    obtain ⟨⟨k, f⟩, hf, hnumber⟩ := List.mem_map.mp (List.count_pos_iff.mp hwritten)
    have hknown : s.log[e.number]? = some f.event := hnumber ▸ h.genuine.written _ hf
    have hevent : f.event = e.event := Option.some.inj (hknown.symm.trans he)
    have : f = e := by
      cases f
      cases e
      cases hnumber
      cases hevent
      rfl
    exact ⟨k, this ▸ hf⟩

theorem Kept.inOrder (h : s.Kept) : s.InOrder := by
  have hirrefl : Std.Irrefl fun e f : Entry ε => e.number < f.number := ⟨fun e => lt_irrefl _⟩
  have hantisymm : Std.Antisymm fun e f : Entry ε => e.number < f.number :=
    ⟨fun e f hef hfe => absurd hef hfe.not_gt⟩
  refine ⟨?_, h.lost, h.missed⟩
  refine h.ordered.stream_pairwise.eq_of_mem_iff (numbered_pairwise.filter _) fun e => ?_
  rw [List.mem_filter, mem_numbered, decide_eq_true_eq]
  constructor
  · intro he
    obtain ⟨k, hk⟩ := h.ordered.mem_stream.mp he
    have hknown := h.genuine.written _ hk
    exact ⟨hknown, (h.mem_stream hknown).mp he⟩
  · rintro ⟨hknown, he⟩
    exact (h.mem_stream hknown).mpr he

/-- **The server gets the events in order, and none is lost.** In a run where an event is only put
back while it is the newest one, what the connections get, one after the other, is what was emitted,
but for the oldest events dropped from a full buffer, and for those still under way. -/
theorem events_in_order (configured : Int) (s : Server ε) (es : List (ServerEvent ε))
    (hrun : exec (step (bufferSize configured)) init es = some s)
    (horderly : Guarded (step (bufferSize configured)) (Orderly (bufferSize configured)) init es) :
    s.InOrder :=
  (horderly.invariant (I := Kept)
    (fun _ _ _ h hguard ht => h.step (bufferSize_pos configured) hguard ht) kept_init hrun).inOrder

/-- The connection that has the first event is replaced; the event is the newest, and is put back. -/
def replaced : List (ServerEvent Event) :=
  [.connect, .emit (sessionEvent "s" "provider_connected" ""), .writer 0 true, .connect,
    .writer 0 true, .emit (sessionEvent "s" "provider_disconnected" ""), .writer 1 true,
    .writer 1 true, .writer 1 true, .writer 1 true]

theorem events_in_order_replaced :
    ∃ s, exec (step (bufferSize 0)) init replaced = some s ∧ s.InOrder :=
  ⟨_, rfl, events_in_order 0 _ replaced rfl (by decide)⟩

/-- **The order is lost.** The write of the first event fails when the second one waits: it is put
back behind it, and the next connection gets the two the other way round. -/
theorem overtaken :
    ¬ ∀ (configured : Int) (s : Server Event) (es : List (ServerEvent Event)),
      exec (step (bufferSize configured)) init es = some s → s.InOrder := by
  intro h
  have hinOrder := h 0 _
    [.connect, .emit (sessionEvent "s" "provider_connected" ""), .writer 0 true, .writer 0 true,
      .emit (sessionEvent "s" "provider_disconnected" ""), .writer 0 false, .connect,
      .writer 1 true, .writer 1 true, .writer 1 true, .writer 1 true, .writer 1 true,
      .writer 1 true] rfl
  have hnumbers := congrArg (List.map (·.number)) hinOrder.stream
  revert hnumbers
  decide

end Server

end Svarla.MediaBridge
