import Svarla.Lib.Handlers

/-!
# The audio of the gateway

The two ends of a call's audio: the `AudioBridge` of a call, which streams to and from the MediaBridge,
and the `Pipeline` of the modem's PCM port, which all calls share. They are connected by the channels of
the pipeline: every `AudioBridge` that streams takes frames from the one capture channel, and puts frames
in the one playback channel.

`Start` holds the lock of the pipeline while it sets up the modem. `Stop` gives it up before it closes
the port and waits for the loops. What is said to the modem, and the frames, are left out.
-/

namespace Svarla.ModemGateway

open Svarla.Lib

/-- `bridge.AudioBridge`. `stopCh` is closed, and the connection too, when it is no longer connected. -/
structure AudioBridge where
  connected : Bool
  streaming : Bool
  /-- Is the goroutine of `sendLoop` there, and that of `receiveLoop`? -/
  sending : Bool
  receiving : Bool
  deriving DecidableEq, Repr

/-- One of the loops of the pipeline. -/
structure PcmLoop where
  /-- The `Start` that it is from. -/
  startedBy : Nat
  port : Option Nat
  deriving DecidableEq, Repr

/-- `audio.Pipeline`. -/
structure Pipeline where
  /-- Is the lock held by a `Start`? -/
  locked : Bool
  running : Bool
  pcmPort : Option Nat
  /-- The ports that were opened, which are numbered as they are opened. -/
  opened : Nat
  /-- How often the pipeline was started. -/
  starts : Nat
  /-- The loops that `wg` counts. -/
  loops : List PcmLoop
  deriving DecidableEq, Repr

structure Audio where
  bridges : List AudioBridge
  pipeline : Pipeline
  deriving DecidableEq, Repr

/-- An operation on the audio. -/
inductive AudioOp
  /-- `Close` of an `AudioBridge`, up to its wait for the loops. -/
  | closeBridge (b : Nat)
  | joinBridge (b : Nat)
  /-- `Start` of the pipeline for a call, up to the commands for the modem. -/
  | start (callID : String)
  /-- The rest of `Start`, once the modem has answered. -/
  | enable (callID : String)
  /-- `Stop` of the pipeline, as far as it holds the lock. -/
  | stop
  /-- The port is closed, after the pipeline was stopped that was started as the `n`-th. -/
  | closePort (n : Nat)
  | joinLoops (n : Nat)
  deriving DecidableEq, Repr

namespace Audio

/-- There is no bridge yet, and the pipeline was never started. -/
def init : Audio := ⟨[], ⟨false, false, none, 0, 0, []⟩⟩

/-- The channels are not used by an `AudioBridge`: neither of its loops is there. -/
def Idle (s : Audio) (b : Nat) : Prop :=
  ∀ bridge ∈ s.bridges[b]?, bridge.sending = false ∧ bridge.receiving = false

instance (s : Audio) (b : Nat) : Decidable (s.Idle b) :=
  match h : s.bridges[b]? with
  | none => .isTrue (by simp [Idle, h])
  | some bridge => decidable_of_iff (bridge.sending = false ∧ bridge.receiving = false)
      (by simp [Idle, h])

/-- One operation, if it is not blocked; does what may fail succeed? -/
def run (s : Audio) (ok : Bool) : AudioOp → Option (Audio × List AudioOp)
  | .closeBridge b =>
    match s.bridges[b]? with
    | none => some (s, [])
    | some bridge =>
      if bridge.connected then
        some ({ s with
          bridges := s.bridges.set b { bridge with connected := false, streaming := false } },
          [.joinBridge b])
      else some (s, [])
  | .joinBridge b => if s.Idle b then some (s, []) else none
  | .start callID =>
    if s.pipeline.locked then none
    else if s.pipeline.running then some (s, [])
    else
      match s.pipeline.pcmPort with
      | some _ => some ({ s with pipeline.locked := true }, [.enable callID])
      | none =>
        if ok then
          some ({ s with
            pipeline.locked := true
            pipeline.pcmPort := some s.pipeline.opened
            pipeline.opened := s.pipeline.opened + 1 }, [.enable callID])
        else some (s, [])
  | .enable _ =>
    if ok then
      let loop : PcmLoop := ⟨s.pipeline.starts + 1, s.pipeline.pcmPort⟩
      some ({ s with
        pipeline.locked := false
        pipeline.running := true
        pipeline.starts := s.pipeline.starts + 1
        pipeline.loops := s.pipeline.loops ++ [loop, loop] }, [])
    else some ({ s with pipeline.locked := false }, [])
  | .stop =>
    if s.pipeline.locked then none
    else if s.pipeline.running then
      some ({ s with pipeline.running := false },
        [.closePort s.pipeline.starts, .joinLoops s.pipeline.starts])
    else some (s, [])
  | .closePort _ => some ({ s with pipeline.pcmPort := none }, [])
  | .joinLoops _ => if s.pipeline.loops = [] then some (s, []) else none

/-- A bridge that has just connected. -/
def connect (s : Audio) : Audio :=
  { s with bridges := s.bridges ++ [⟨true, false, false, false⟩] }

/-- `StartStreaming`, if the bridge is connected and does not stream. -/
def startStreaming (s : Audio) (b : Nat) : Option Audio :=
  s.bridges[b]?.bind fun bridge =>
    if bridge.connected ∧ ¬ bridge.streaming then
      some { s with bridges := s.bridges.set b ⟨true, true, true, true⟩ }
    else none

/-- A loop of a bridge ends, as the bridge is closed or the connection has failed. -/
def loopEnds (s : Audio) (b : Nat) (sendLoop : Bool) : Option Audio :=
  s.bridges[b]?.bind fun bridge =>
    if sendLoop ∧ bridge.sending then
      some { s with bridges := s.bridges.set b { bridge with sending := false } }
    else if ¬ sendLoop ∧ bridge.receiving then
      some { s with bridges := s.bridges.set b { bridge with receiving := false } }
    else none

/-- A loop of the pipeline ends. -/
def pcmLoopEnds (s : Audio) (i : Nat) : Option Audio :=
  if i < s.pipeline.loops.length then
    some { s with pipeline.loops := s.pipeline.loops.eraseIdx i }
  else none

end Audio

end Svarla.ModemGateway
