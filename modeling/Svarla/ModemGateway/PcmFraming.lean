import Svarla.Lib.Run

/-!
# The frames of the PCM port

The capture loop reads into a buffer of one frame, and puts the frame on the capture channel as soon as
it is full. The reads may cut the stream anywhere: what was put on the channel, and the frame that waits
for it, are the blocks of the stream (`IsBlocks`), and what is left over is in the buffer
(`CaptureLoop.Inv`). The playback loop writes a frame on until the port has taken all of it.

A read that fails delivers nothing, as those of the serial port do. What is counted and logged is left
out.
-/

namespace Svarla.ModemGateway

open Svarla.Lib

/-- `Pipeline.frameSize`, in bytes. -/
def frameSize (sampleRate : Nat) : Nat := if sampleRate = 16000 then 640 else 320

theorem frameSize_pos (sampleRate : Nat) : 0 < frameSize sampleRate := by
  unfold frameSize
  split <;> decide

/-- The frames are the consecutive blocks of `k` bytes of the stream, as far as it goes. -/
structure IsBlocks (k : Nat) (stream : List UInt8) (frames : List (List UInt8)) : Prop where
  size : ∀ frame ∈ frames, frame.length = k
  consecutive : ∃ rest, stream = frames.flatten ++ rest ∧ rest.length < k

/-- A stream has its blocks only. -/
theorem IsBlocks.unique {k : Nat} {stream : List UInt8} {frames frames' : List (List UInt8)}
    (h : IsBlocks k stream frames) (h' : IsBlocks k stream frames') : frames = frames' := by
  obtain ⟨hsize, rest, rfl, hrest⟩ := h
  obtain ⟨hsize', rest', hstream, hrest'⟩ := h'
  induction frames generalizing frames' with
  | nil =>
    cases frames' with
    | nil => rfl
    | cons frame' frames' =>
      have hlength := congrArg List.length hstream
      rw [List.forall_mem_cons] at hsize'
      simp only [List.flatten_nil, List.nil_append, List.flatten_cons, List.length_append] at hlength
      omega
  | cons frame frames ih =>
    rw [List.forall_mem_cons] at hsize
    cases frames' with
    | nil =>
      have hlength := congrArg List.length hstream
      simp only [List.flatten_nil, List.nil_append, List.flatten_cons, List.length_append] at hlength
      omega
    | cons frame' frames' =>
      rw [List.forall_mem_cons] at hsize'
      rw [List.flatten_cons, List.flatten_cons, List.append_assoc, List.append_assoc] at hstream
      obtain ⟨rfl, htail⟩ := List.append_inj hstream (hsize.1.trans hsize'.1.symm)
      rw [ih hsize.2 hsize'.2 htail]

/-! ### Capture -/

structure CaptureLoop where
  buf : List UInt8
  offset : Nat
  /-- The frame that waits for the channel. -/
  frame : Option (List UInt8)
  ended : Bool
  /-- Is `stopCh` closed? -/
  stopped : Bool
  /-- What the reads have returned. -/
  delivered : List UInt8
  /-- What was put on the channel. -/
  captured : List (List UInt8)
  deriving DecidableEq, Repr

inductive CaptureEvent
  | reads (data : List UInt8)
  | readFails (eof : Bool)
  /-- The channel takes the frame. -/
  | sends
  | stop
  /-- The loop sees that it is stopped. -/
  | quits
  deriving DecidableEq, Repr

namespace CaptureLoop

def init (k : Nat) : CaptureLoop := ⟨.replicate k 0, 0, none, false, false, [], []⟩

/-- The loop that emits complete frames, up to the next send. -/
def emit (k : Nat) (s : CaptureLoop) : CaptureLoop :=
  if k ≤ s.offset then
    let remaining := s.offset - k
    { s with
      frame := some (s.buf.take k)
      buf := (s.buf.drop k).take remaining ++ s.buf.drop remaining
      offset := remaining }
  else { s with frame := none }

def step (k : Nat) (s : CaptureLoop) : CaptureEvent → Option CaptureLoop
  | .reads data =>
    if s.ended = false ∧ s.frame = none ∧ data.length ≤ s.buf.length - s.offset then
      if data = [] then some s
      else
        some (emit k { s with
          buf := s.buf.take s.offset ++ data ++ s.buf.drop (s.offset + data.length)
          offset := s.offset + data.length
          delivered := s.delivered ++ data })
    else none
  | .readFails eof =>
    if s.ended = false ∧ s.frame = none then some { s with ended := s.stopped || eof } else none
  | .sends =>
    match s.frame with
    | some frame =>
      if s.ended then none else some (emit k { s with captured := s.captured ++ [frame] })
    | none => none
  | .stop => some { s with stopped := true }
  | .quits => if s.stopped then some { s with ended := true } else none

/-- What was delivered was put on the channel, waits for it, or is in the buffer. -/
structure Inv (k : Nat) (s : CaptureLoop) : Prop where
  buffer : s.buf.length = k
  room : s.offset < k
  size : ∀ frame ∈ s.captured ++ s.frame.toList, frame.length = k
  stream : s.delivered = (s.captured ++ s.frame.toList).flatten ++ s.buf.take s.offset
  unsent : s.frame.isSome → s.ended → s.stopped

theorem inv_init {k : Nat} (hk : 0 < k) : Inv k (init k) :=
  ⟨List.length_replicate, hk, nofun, rfl, nofun⟩

/-- A full buffer becomes a frame, and another one waits to be filled. -/
theorem emit_inv {k : Nat} (hk : 0 < k) {s : CaptureLoop} (hbuffer : s.buf.length = k)
    (hroom : s.offset ≤ k) (hsize : ∀ frame ∈ s.captured, frame.length = k)
    (hstream : s.delivered = s.captured.flatten ++ s.buf.take s.offset) (hended : s.ended = false) :
    Inv k (emit k s) := by
  rw [emit]
  split
  · rename_i hfull
    have hoffset : s.offset = k := Nat.le_antisymm hroom hfull
    have hframe : (s.buf.take k).length = k := by rw [List.length_take, hbuffer, Nat.min_self]
    simp only [hoffset, Nat.sub_self]
    constructor
    · simpa using hbuffer
    · exact hk
    · intro frame hmem
      rcases List.mem_append.mp hmem with hmem | hmem
      · exact hsize frame hmem
      · rw [Option.toList_some, List.mem_singleton] at hmem
        rw [hmem, hframe]
    · rw [hoffset] at hstream
      simpa using hstream
    · intro _ h
      rw [hended] at h
      cases h
  · rename_i hpart
    exact ⟨hbuffer, Nat.lt_of_not_le hpart, by simpa using hsize, by simpa using hstream, nofun⟩

/-- A read goes behind what is in the buffer. -/
theorem Inv.reads {k : Nat} (hk : 0 < k) {s t : CaptureLoop} (h : Inv k s) {data : List UInt8}
    (hstep : s.step k (.reads data) = some t) : Inv k t := by
  rw [step] at hstep
  split at hstep
  · rename_i hreads
    obtain ⟨hended, hframe, hfits⟩ := hreads
    have hroom := h.room
    have hbuffer := h.buffer
    split at hstep
    · cases hstep
      exact h
    · cases hstep
      have hstream := h.stream
      have hsize := h.size
      simp only [hframe, Option.toList_none, List.append_nil] at hstream hsize
      have htake : (s.buf.take s.offset).length = s.offset := by rw [List.length_take]; omega
      have hcopied : (s.buf.take s.offset ++ data ++ s.buf.drop (s.offset + data.length)).take
          (s.offset + data.length) = s.buf.take s.offset ++ data :=
        List.take_left' (by rw [List.length_append, htake])
      refine emit_inv hk ?_ (by simp only; omega) hsize ?_ hended
      · simp only [List.length_append, List.length_drop, htake]
        omega
      · simp only
        rw [hcopied, hstream, List.append_assoc]
  · cases hstep

/-- **One step.** -/
theorem Inv.step {k : Nat} (hk : 0 < k) {s t : CaptureLoop} {e : CaptureEvent} (h : Inv k s)
    (hstep : s.step k e = some t) : Inv k t := by
  cases e with
  | reads data => exact h.reads hk hstep
  | readFails eof =>
    rw [CaptureLoop.step] at hstep
    split at hstep
    · rename_i hreads
      cases hstep
      exact ⟨h.buffer, h.room, h.size, h.stream, by simp [hreads.2]⟩
    · cases hstep
  | sends =>
    rcases hframe : s.frame with _ | frame
    · simp [CaptureLoop.step, hframe] at hstep
    · rcases hended : s.ended with _ | _
      · simp only [CaptureLoop.step, hframe, hended, Bool.false_eq_true, if_false,
          Option.some.injEq] at hstep
        subst hstep
        have hsize := h.size
        have hstream := h.stream
        rw [hframe, Option.toList_some] at hsize hstream
        rw [← hframe, ← hended]
        exact emit_inv (s := { s with captured := s.captured ++ [frame] }) hk h.buffer
          (Nat.le_of_lt h.room) hsize hstream hended
      · simp [CaptureLoop.step, hframe, hended] at hstep
  | stop =>
    cases hstep
    exact ⟨h.buffer, h.room, h.size, h.stream, fun _ _ => rfl⟩
  | quits =>
    rw [CaptureLoop.step] at hstep
    split at hstep
    · rename_i hstopped
      cases hstep
      exact ⟨h.buffer, h.room, h.size, h.stream, fun _ _ => hstopped⟩
    · cases hstep

theorem Inv.isBlocks {k : Nat} {s : CaptureLoop} (h : Inv k s) :
    IsBlocks k s.delivered (s.captured ++ s.frame.toList) where
  size := h.size
  consecutive := by
    refine ⟨_, h.stream, ?_⟩
    rw [List.length_take, h.buffer]
    exact Nat.lt_of_le_of_lt (Nat.min_le_left _ _) h.room

end CaptureLoop

/-! ### Playback -/

structure PlaybackLoop where
  /-- The frame that is written, and how much of it the port has taken. -/
  current : Option (List UInt8 × Nat)
  ended : Bool
  stopped : Bool
  /-- The frames that were taken from the playback channel. -/
  played : List (List UInt8)
  /-- What was written to the port. -/
  port : List UInt8
  deriving DecidableEq, Repr

inductive PlaybackEvent
  | takes (frame : List UInt8)
  /-- The port takes the next `n` bytes of the frame. -/
  | writes (n : Nat)
  | writeFails
  | stop
  /-- The loop sees that it is stopped, or that the channel is closed. -/
  | quits (closed : Bool)
  deriving DecidableEq, Repr

namespace PlaybackLoop

def init : PlaybackLoop := ⟨none, false, false, [], []⟩

/-- The frame is written on, if the port has not taken all of it. -/
def proceed (s : PlaybackLoop) (frame : List UInt8) (written : Nat) : PlaybackLoop :=
  { s with current := if written < frame.length then some (frame, written) else none }

def step (s : PlaybackLoop) : PlaybackEvent → Option PlaybackLoop
  | .takes frame =>
    if s.ended = false ∧ s.current = none then
      some ({ s with played := s.played ++ [frame] }.proceed frame 0)
    else none
  | .writes n =>
    match s.current with
    | some (frame, written) =>
      if n ≤ frame.length - written then
        some ({ s with port := s.port ++ (frame.drop written).take n }.proceed frame (written + n))
      else none
    | none => none
  | .writeFails =>
    match s.current with
    | some _ => some { s with current := none, ended := s.stopped }
    | none => none
  | .stop => some { s with stopped := true }
  | .quits closed =>
    if s.current = none ∧ (s.stopped || closed) then some { s with ended := true } else none

/-- What is left of the frame that is written. -/
def left (s : PlaybackLoop) : List UInt8 :=
  match s.current with
  | some (frame, written) => frame.drop written
  | none => []

/-- What was written, and what is left to write, are the frames. -/
def Inv (s : PlaybackLoop) : Prop := s.port ++ s.left = s.played.flatten

/-- A frame is done when nothing of it is left. -/
theorem left_proceed (s : PlaybackLoop) (frame : List UInt8) (written : Nat) :
    (s.proceed frame written).left = frame.drop written := by
  rw [proceed, left]
  split
  · rename_i hcurrent
    split at hcurrent
    · cases hcurrent
      rfl
    · cases hcurrent
  · rename_i hcurrent
    split at hcurrent
    · cases hcurrent
    · rename_i hwritten
      rw [List.drop_eq_nil_of_le (Nat.le_of_not_lt hwritten)]

/-- **One step** that is no error of the port. -/
theorem Inv.step {s t : PlaybackLoop} {e : PlaybackEvent} (h : s.Inv) (he : e ≠ .writeFails)
    (hstep : s.step e = some t) : t.Inv := by
  unfold Inv at h ⊢
  cases e with
  | takes frame =>
    rw [PlaybackLoop.step] at hstep
    split at hstep
    · rename_i hidle
      cases hstep
      rw [left, hidle.2, List.append_nil] at h
      rw [left_proceed]
      simp [proceed, h]
    · cases hstep
  | writes n =>
    rcases hcurrent : s.current with _ | ⟨frame, written⟩
    · simp [PlaybackLoop.step, hcurrent] at hstep
    · simp only [PlaybackLoop.step, hcurrent] at hstep
      split at hstep
      · cases hstep
        have hrest : (frame.drop written).take n ++ frame.drop (written + n) = frame.drop written := by
          rw [← List.drop_drop, List.take_append_drop]
        rw [left, hcurrent] at h
        rw [left_proceed]
        simpa [proceed, List.append_assoc, hrest] using h
      · cases hstep
  | writeFails => exact absurd rfl he
  | stop =>
    cases hstep
    exact h
  | quits closed =>
    rw [PlaybackLoop.step] at hstep
    split at hstep
    · cases hstep
      exact h
    · cases hstep

theorem inv_run {es : List PlaybackEvent} {t : PlaybackLoop} (hes : ∀ e ∈ es, e ≠ .writeFails)
    (hrun : exec step init es = some t) : t.Inv := by
  have hguard : ∀ (s : PlaybackLoop) (es : List PlaybackEvent), (∀ e ∈ es, e ≠ .writeFails) →
      Guarded step (fun _ e => e ≠ .writeFails) s es := by
    intro s es
    induction es generalizing s with
    | nil => exact fun _ => trivial
    | cons e es ih =>
      intro h
      rw [List.forall_mem_cons] at h
      exact ⟨h.1, fun t _ => ih t h.2⟩
  exact (hguard init es hes).invariant (fun _ _ _ h he hstep => h.step he hstep) rfl hrun

end PlaybackLoop

end Svarla.ModemGateway
