import Svarla.Lib.Run

/-!
# The hand-over of the client's track

The track of the client comes in with `OnTrack`, and the handler for it with `SetOnTrackHandler`. The one
that comes second hands the track over: `OnTrack` calls the handler that it finds, and stores the track
where it finds none, and `SetOnTrackHandler` calls its handler with the stored track.

`OnTrack` looks for the handler in one locked section, and stores the track in another. A handler that is
set between them is never called (`set_between_never_called`). And a stored track is handed over to
every handler that is set from then on, so that two of them read from it. The track is handed over once
if and only if neither happens (`handed_over_iff`).

A locked section is a step, with the call of the handler that follows from it. What a handler does with
the packets that it reads is left out.
-/

namespace Svarla.MediaBridge

open Svarla.Lib

/-- The callback of `OnTrack`. -/
inductive OnTrackPhase
  | waiting
  /-- It has found no handler, and is about to store the track. -/
  | storing
  | returned
  deriving DecidableEq, Repr

/-- `webrtc.PeerSession`, as far as the track is concerned. A handler is a number. -/
structure TrackSession where
  onTrackHandler : Option Nat
  /-- Is `remoteTrack` there? -/
  remoteTrack : Bool
  onTrack : OnTrackPhase
  /-- The handlers that were called with the track. -/
  called : List Nat
  /-- Those whose goroutine reads from the track. -/
  reading : List Nat
  deriving DecidableEq, Repr

inductive TrackEvent
  /-- `OnTrack` fires, and looks for a handler. -/
  | getOnTrackHandler
  | setRemoteTrack
  | setOnTrackHandler (handler : Option Nat)
  /-- A read fails, and the goroutine of the handler ends. -/
  | readFails (handler : Nat)
  deriving DecidableEq, Repr

namespace TrackSession

def init : TrackSession := ⟨none, false, .waiting, [], []⟩

/-- A handler is called, and starts to read. -/
def call (s : TrackSession) (handler : Nat) : TrackSession :=
  { s with called := s.called ++ [handler], reading := s.reading ++ [handler] }

def step (s : TrackSession) : TrackEvent → Option TrackSession
  | .getOnTrackHandler =>
    if s.onTrack = .waiting then
      match s.onTrackHandler with
      | some handler => some ({ s with onTrack := .returned }.call handler)
      | none => some { s with onTrack := .storing }
    else none
  | .setRemoteTrack =>
    if s.onTrack = .storing then some { s with remoteTrack := true, onTrack := .returned } else none
  | .setOnTrackHandler none => some { s with onTrackHandler := none }
  | .setOnTrackHandler (some handler) =>
    let s := { s with onTrackHandler := some handler }
    some (if s.remoteTrack then s.call handler else s)
  | .readFails handler =>
    if handler ∈ s.reading then some { s with reading := s.reading.erase handler } else none

/-- The track is handed over once: to no second handler, and to one where `OnTrack` has returned and a
handler is set. -/
structure HandedOver (s : TrackSession) : Prop where
  once : s.called.length ≤ 1
  oneReader : s.reading.length ≤ 1
  handed : s.onTrack = .returned → s.onTrackHandler.isSome → s.called.length = 1

/-- No handler was set since `OnTrack` has looked for one, and none is set after the stored track was
handed over. -/
def Undivided (s : TrackSession) : TrackEvent → Prop
  | .setRemoteTrack => s.onTrack = .storing → s.onTrackHandler = none
  | .setOnTrackHandler (some _) => s.remoteTrack → s.called = []
  | _ => True

instance (s : TrackSession) (e : TrackEvent) : Decidable (s.Undivided e) := by
  cases e with
  | setOnTrackHandler handler => cases handler <;> unfold Undivided <;> infer_instance
  | _ => unfold Undivided; infer_instance

/-- Before the callback returns there is no track to hand over. After it the track is stored, or was
handed over. -/
structure Consistent (s : TrackSession) : Prop where
  early : s.onTrack ≠ .returned → s.called = [] ∧ s.remoteTrack = false
  late : s.onTrack = .returned → s.remoteTrack = false → s.called.length = 1
  readers : s.reading.length ≤ s.called.length

theorem consistent_init : Consistent init := ⟨fun _ => ⟨rfl, rfl⟩, nofun, Nat.le_refl 0⟩

theorem handedOver_init : HandedOver init := ⟨Nat.zero_le 1, Nat.zero_le 1, nofun⟩

/-- The callback looks for a handler. -/
theorem Consistent.get {s t : TrackSession} (h : Consistent s)
    (hstep : s.step .getOnTrackHandler = some t) : Consistent t ∧ HandedOver t := by
  rw [step] at hstep
  split at hstep
  · rename_i hwaiting
    obtain ⟨hcalled, hremote⟩ := h.early (by rw [hwaiting]; nofun)
    have hreading : s.reading = [] := by simpa [hcalled] using h.readers
    rcases hhandler : s.onTrackHandler with _ | handler <;>
    · simp only [hhandler, Option.some.injEq] at hstep
      subst hstep
      constructor <;> constructor <;> simp [call, hcalled, hreading, hremote]
  · cases hstep

/-- The callback stores the track, where no handler was set since. -/
theorem Consistent.store {s t : TrackSession} (h : Consistent s)
    (hstep : s.step .setRemoteTrack = some t) :
    Consistent t ∧ (HandedOver t ↔ s.Undivided .setRemoteTrack) := by
  rw [step] at hstep
  split at hstep
  · rename_i hstoring
    obtain ⟨hcalled, -⟩ := h.early (by rw [hstoring]; nofun)
    have hreading : s.reading = [] := by simpa [hcalled] using h.readers
    cases hstep
    refine ⟨⟨by simp, by simp, by simp [hreading]⟩, fun hhanded _ => ?_, fun hundivided => ?_⟩
    · -- nobody calls the handler that was set
      rcases hhandler : s.onTrackHandler with _ | handler
      · rfl
      · have := hhanded.handed rfl (by simp [hhandler])
        simp [hcalled] at this
    · exact ⟨by simp [hcalled], by simp [hreading], by simp [hundivided hstoring]⟩
  · cases hstep

/-- A handler is set, and called with the track that was stored. -/
theorem Consistent.set {s t : TrackSession} (h : Consistent s) (hhanded : HandedOver s)
    {handler : Option Nat} (hstep : s.step (.setOnTrackHandler handler) = some t) :
    Consistent t ∧ (HandedOver t ↔ s.Undivided (.setOnTrackHandler handler)) := by
  rcases handler with _ | handler
  · cases hstep
    exact ⟨⟨h.early, h.late, h.readers⟩, iff_of_true ⟨hhanded.once, hhanded.oneReader, nofun⟩ trivial⟩
  · rcases hremote : s.remoteTrack with _ | _
    · -- nothing is stored: the track has not come, or was handed over
      simp only [step, hremote, Bool.false_eq_true, if_false, Option.some.injEq] at hstep
      subst hstep
      rw [← hremote]
      refine ⟨⟨h.early, h.late, h.readers⟩, iff_of_true ?_ (by simp [Undivided, hremote])⟩
      exact ⟨hhanded.once, hhanded.oneReader, fun hreturned _ => h.late hreturned hremote⟩
    · have hreturned : s.onTrack = .returned := by
        by_contra hne
        simp [(h.early hne).2] at hremote
      simp only [step, hremote, if_true, Option.some.injEq] at hstep
      subst hstep
      refine ⟨⟨fun hne => absurd hreturned hne, by simp [call], ?_⟩, ?_, ?_⟩
      · simpa [call] using h.readers
      · intro hafter _
        simpa [call] using hafter.once
      · intro hundivided
        have hcalled := hundivided hremote
        have hreading : s.reading = [] := by simpa [hcalled] using h.readers
        constructor <;> simp [call, hcalled, hreading]

/-- A goroutine ends. -/
theorem Consistent.fails {s t : TrackSession} (h : Consistent s) (hhanded : HandedOver s)
    {handler : Nat} (hstep : s.step (.readFails handler) = some t) : Consistent t ∧ HandedOver t := by
  rw [step] at hstep
  split at hstep
  · cases hstep
    have hle : (s.reading.erase handler).length ≤ s.reading.length := List.length_erase_le
    exact ⟨⟨h.early, h.late, Nat.le_trans hle h.readers⟩,
      hhanded.once, Nat.le_trans hle hhanded.oneReader, hhanded.handed⟩
  · cases hstep

/-- **One step.** -/
theorem Consistent.step {s t : TrackSession} {e : TrackEvent} (h : Consistent s)
    (hhanded : HandedOver s) (hstep : s.step e = some t) :
    Consistent t ∧ (HandedOver t ↔ s.Undivided e) := by
  cases e with
  | getOnTrackHandler => exact (h.get hstep).imp_right fun hafter => iff_of_true hafter trivial
  | setRemoteTrack => exact h.store hstep
  | setOnTrackHandler handler => exact h.set hhanded hstep
  | readFails handler =>
    exact (h.fails hhanded hstep).imp_right fun hafter => iff_of_true hafter trivial

theorem undivided_of_refused {s : TrackSession} {e : TrackEvent} (h : s.step e = none) :
    s.Undivided e := by
  cases e with
  | setRemoteTrack =>
    intro hstoring
    rw [TrackSession.step, if_pos hstoring] at h
    cases h
  | setOnTrackHandler handler => cases handler <;> cases h
  | _ => trivial

/-- **Handed over once.** The track is handed over once, in every state of a run, if and only if no
handler is set between the two steps of the callback, or after the stored track was handed over. -/
theorem handed_over_iff (es : List TrackEvent) :
    Guarded step Undivided init es ↔
      ∀ es₁ es₂ t, es = es₁ ++ es₂ → exec step init es₁ = some t → HandedOver t :=
  guarded_iff_invariant (fun _ _ _ hJ hI hstep => hJ.step hI hstep)
    (fun _ _ hrefused => undivided_of_refused hrefused) consistent_init handedOver_init es

/-- A handler that is set between the two steps is not called. And where two handlers are set after the
track was stored, both of them read from it. -/
theorem set_between_never_called :
    (∃ t, exec step init [.getOnTrackHandler, .setOnTrackHandler (some 0), .setRemoteTrack] = some t ∧
      t.onTrack = .returned ∧ t.onTrackHandler = some 0 ∧ t.called = [] ∧ ¬ HandedOver t) ∧
    (∃ t, exec step init [.getOnTrackHandler, .setRemoteTrack, .setOnTrackHandler (some 0),
        .setOnTrackHandler (some 1)] = some t ∧ t.reading = [0, 1] ∧ ¬ HandedOver t) := by
  refine ⟨⟨_, rfl, rfl, rfl, rfl, fun h => ?_⟩, ⟨_, rfl, rfl, fun h => ?_⟩⟩
  · exact absurd (h.handed rfl rfl) (by decide)
  · exact absurd h.oneReader (by decide)

end TrackSession
end Svarla.MediaBridge
