import Mathlib
import Svarla.Lib.Run

/-!
# The audio of a call

`AudioRouter`: what the app shows of the microphone and the speaker, and what it has told the phone. The
phone is known by what the router has told it; only the audio mode may also be changed from elsewhere.

What is shown and what is told agree in every state (`router_agrees`). The audio focus is not: a routing that
is started while it is at work asks for the focus once more, and forgets the request before. In all other
runs, and in no more, exactly the routing of a call outside the Telecom framework holds the focus
(`focus_held_iff`).
-/

namespace Svarla.Android

open Svarla.Lib

inductive AudioDevice
  | wiredHeadphones
  | bluetooth
  | earpiece
  | speaker
  deriving DecidableEq, Repr

namespace AudioDevice

def priority : AudioDevice → Nat
  | wiredHeadphones => 3
  | bluetooth => 2
  | earpiece => 1
  | speaker => 0

/-- `highestPriority`. -/
def highestPriority (available : List AudioDevice) : AudioDevice :=
  ((available.filter (· ≠ speaker)).maxOn? priority).getD earpiece

/-- `+` on the set. -/
def plus (available : List AudioDevice) (device : AudioDevice) : List AudioDevice :=
  if device ∈ available then available else available ++ [device]

/-- `-` on the set. -/
def minus (available : List AudioDevice) (device : AudioDevice) : List AudioDevice :=
  available.filter (· ≠ device)

/-- The speaker is never chosen, and no device of a higher priority is there. -/
theorem highestPriority_spec (available : List AudioDevice) :
    highestPriority available ≠ speaker ∧
      ∀ d ∈ available, d ≠ speaker → d.priority ≤ (highestPriority available).priority := by
  have hmem : ∀ d ∈ available, d ≠ speaker → d ∈ available.filter (· ≠ speaker) := fun d hd hne =>
    List.mem_filter.mpr ⟨hd, decide_eq_true hne⟩
  rw [highestPriority]
  cases hmax : (available.filter (· ≠ speaker)).maxOn? priority with
  | none =>
    refine ⟨by decide, fun d hd hne => ?_⟩
    have hsome := List.isSome_maxOn?_of_mem (f := priority) (hmem d hd hne)
    rw [hmax] at hsome
    cases hsome
  | some top =>
    refine ⟨of_decide_eq_true (List.mem_filter.mp (List.maxOn?_mem hmax)).2, fun d hd hne => ?_⟩
    have hle := List.le_apply_get_maxOn?_of_mem (f := priority) (hmem d hd hne)
    simp only [hmax, Option.get_some] at hle
    exact hle

end AudioDevice

/-- `MODE_NORMAL` and `MODE_IN_COMMUNICATION`. -/
inductive AudioMode
  | normal
  | inCommunication
  deriving DecidableEq, Repr

/-- The `AudioManager`. -/
structure Phone where
  mode : AudioMode
  isSpeakerphoneOn : Bool
  isBluetoothScoOn : Bool
  /-- `startBluetoothSco` was called since the last `stopBluetoothSco`. -/
  scoStarted : Bool
  isMicrophoneMute : Bool
  /-- The requests for the audio focus that were not abandoned. -/
  focus : List Nat
  deriving DecidableEq, Repr

/-- `AudioRouter`, with the phone. -/
structure AudioRouter where
  phone : Phone
  isSpeakerOn : Bool
  isMuted : Bool
  currentAudioDevice : AudioDevice
  availableDevices : List AudioDevice
  isCallActive : Bool
  isTelecomPathActive : Bool
  audioFocusRequest : Option Nat
  /-- The receiver is registered. -/
  registered : Bool
  /-- The number of the next focus request. -/
  nextRequest : Nat
  deriving DecidableEq, Repr

inductive AudioEvent
  /-- The routing is started; the phone has a wired headset, or one by Bluetooth. -/
  | start (telecomManaged hasWired hasBluetooth : Bool)
  | stop
  | toggleSpeaker
  | toggleMute
  | headsetPlug (plugged : Bool)
  | bluetoothConnected
  | bluetoothDisconnected
  /-- The listener of a focus request is told of the gain. -/
  | focusGain
  /-- Something else changes the mode. -/
  | modeChanged (mode : AudioMode)
  deriving DecidableEq, Repr

namespace AudioRouter

open AudioDevice

def init : AudioRouter :=
  ⟨⟨.normal, false, false, false, false, []⟩, false, false, .earpiece, [.earpiece], false, false, none, false, 0⟩

def setMode (s : AudioRouter) (mode : AudioMode) : AudioRouter := { s with phone := { s.phone with mode } }

/-- `requestAudioFocus`. -/
def requestAudioFocus (s : AudioRouter) : AudioRouter :=
  { s with
    phone := { s.phone with focus := s.phone.focus ++ [s.nextRequest] }
    audioFocusRequest := some s.nextRequest
    nextRequest := s.nextRequest + 1 }

/-- `abandonAudioFocus`. -/
def abandonAudioFocus (s : AudioRouter) : AudioRouter :=
  { s with
    phone := { s.phone with
      focus := s.audioFocusRequest.elim s.phone.focus fun request => s.phone.focus.filter (· ≠ request) }
    audioFocusRequest := none }

/-- `routeToDevice`. -/
def routeToDevice (s : AudioRouter) (device : AudioDevice) : AudioRouter :=
  let s := if s.isCallActive && !s.isTelecomPathActive && s.phone.mode ≠ .inCommunication then
      s.setMode .inCommunication
    else s
  let phone :=
    match device with
    | .speaker => { s.phone with isBluetoothScoOn := false, scoStarted := false, isSpeakerphoneOn := true }
    | .wiredHeadphones => { s.phone with isSpeakerphoneOn := false, isBluetoothScoOn := false }
    | .bluetooth => { s.phone with isSpeakerphoneOn := false, isBluetoothScoOn := true, scoStarted := true }
    | .earpiece => { s.phone with isSpeakerphoneOn := false, isBluetoothScoOn := false, scoStarted := false }
  { s with phone, isSpeakerOn := device = .speaker, currentAudioDevice := device }

/-- `routeToHighestPriority`. -/
def routeToHighestPriority (s : AudioRouter) : AudioRouter := s.routeToDevice (highestPriority s.availableDevices)

/-- `detectAvailableDevices`. -/
def detectAvailableDevices (s : AudioRouter) (hasWired hasBluetooth : Bool) : AudioRouter :=
  let devices := [.earpiece, .speaker]
  let devices := if hasWired then plus devices .wiredHeadphones else devices
  { s with availableDevices := if hasBluetooth then plus devices .bluetooth else devices }

/-- `startCallAudioRouting`. -/
def startCallAudioRouting (s : AudioRouter) (telecomManaged hasWired hasBluetooth : Bool) : AudioRouter :=
  if s.isCallActive then
    if telecomManaged then s else (s.setMode .inCommunication).requestAudioFocus
  else
    let s := { s with
      isCallActive := true, isTelecomPathActive := telecomManaged, isSpeakerOn := false, isMuted := false }
    let s := if telecomManaged then s else (s.setMode .inCommunication).requestAudioFocus
    (detectAvailableDevices { s with registered := true } hasWired hasBluetooth).routeToHighestPriority

/-- `stopCallAudioRouting`. -/
def stopCallAudioRouting (s : AudioRouter) : AudioRouter :=
  let s := { s with isCallActive := false, registered := false }
  let s := if s.isTelecomPathActive then s else s.abandonAudioFocus.setMode .normal
  { s with
    phone := { s.phone with isSpeakerphoneOn := false, isMicrophoneMute := false }
    isTelecomPathActive := false, isSpeakerOn := false, isMuted := false
    currentAudioDevice := .earpiece, availableDevices := [.earpiece] }

/-- `toggleSpeaker`. -/
def toggleSpeaker (s : AudioRouter) : AudioRouter :=
  if s.isCallActive then
    let s := { s with
      phone := { s.phone with isSpeakerphoneOn := !s.isSpeakerOn }, isSpeakerOn := !s.isSpeakerOn }
    if s.isSpeakerOn then { s with currentAudioDevice := .speaker } else s.routeToHighestPriority
  else s

/-- `toggleMute`. -/
def toggleMute (s : AudioRouter) : AudioRouter :=
  if s.isCallActive then
    { s with phone := { s.phone with isMicrophoneMute := !s.isMuted }, isMuted := !s.isMuted }
  else s

/-- What the receiver does when the devices are others. -/
def devicesChanged (s : AudioRouter) (availableDevices : List AudioDevice) : AudioRouter :=
  let s := { s with availableDevices }
  if s.isCallActive then s.routeToHighestPriority else s

def step (s : AudioRouter) : AudioEvent → Option AudioRouter
  | .start telecomManaged hasWired hasBluetooth =>
    some (s.startCallAudioRouting telecomManaged hasWired hasBluetooth)
  | .stop => some s.stopCallAudioRouting
  | .toggleSpeaker => some s.toggleSpeaker
  | .toggleMute => some s.toggleMute
  | .headsetPlug plugged =>
    if s.registered then
      some (s.devicesChanged
        (if plugged then plus s.availableDevices .wiredHeadphones
        else minus s.availableDevices .wiredHeadphones))
    else none
  | .bluetoothConnected =>
    if s.registered then some (s.devicesChanged (plus s.availableDevices .bluetooth)) else none
  | .bluetoothDisconnected =>
    if s.registered then some (s.devicesChanged (minus s.availableDevices .bluetooth)) else none
  | .focusGain =>
    if s.phone.focus = [] then none else some (if s.isCallActive then s.setMode .inCommunication else s)
  | .modeChanged mode => some (s.setMode mode)

/-! ## What is shown -/

/-- What is shown is what the phone was told. -/
structure Agrees (s : AudioRouter) : Prop where
  speaker : s.isSpeakerOn = s.phone.isSpeakerphoneOn
  muted : s.isMuted = s.phone.isMicrophoneMute
  current : s.isSpeakerOn = true ↔ s.currentAudioDevice = .speaker
  routed : s.isCallActive = true → s.isSpeakerOn = false →
    s.currentAudioDevice = highestPriority s.availableDevices
  idle : s.isCallActive = false →
    s.isSpeakerOn = false ∧ s.isMuted = false ∧ s.currentAudioDevice = .earpiece
  registered : s.registered = s.isCallActive
  sco : s.isCallActive = true →
    (s.currentAudioDevice = .bluetooth → s.phone.isBluetoothScoOn = true ∧ s.phone.scoStarted = true) ∧
      (s.currentAudioDevice = .wiredHeadphones ∨ s.currentAudioDevice = .earpiece →
        s.phone.isBluetoothScoOn = false)

variable {s t : AudioRouter}

theorem agrees_init : init.Agrees where
  speaker := rfl
  muted := rfl
  current := by decide
  routed := by decide
  idle := by decide
  registered := rfl
  sco := by decide

/-- A routing to the best device makes shown and told agree, whatever they were. -/
theorem agrees_route (hmuted : s.isMuted = s.phone.isMicrophoneMute) (hregistered : s.registered = s.isCallActive)
    (hactive : s.isCallActive = true) : s.routeToHighestPriority.Agrees := by
  have hne := (highestPriority_spec s.availableDevices).1
  rw [routeToHighestPriority]
  generalize hdevice : highestPriority s.availableDevices = device at hne ⊢
  unfold routeToDevice
  have hidle : s.isCallActive = false → False := fun hidle => Bool.false_ne_true (hidle.symm.trans hactive)
  split <;> cases device <;> first
    | exact absurd rfl hne
    | exact ⟨rfl, hmuted, by simp, fun _ _ => hdevice.symm, fun h => (hidle h).elim, hregistered,
        fun _ => by simp⟩

theorem agrees_setMode (h : s.Agrees) (mode : AudioMode) : (s.setMode mode).Agrees :=
  ⟨h.speaker, h.muted, h.current, h.routed, h.idle, h.registered, h.sco⟩

theorem agrees_requestAudioFocus (h : s.Agrees) : s.requestAudioFocus.Agrees :=
  ⟨h.speaker, h.muted, h.current, h.routed, h.idle, h.registered, h.sco⟩

theorem agrees_start (h : s.Agrees) (telecomManaged hasWired hasBluetooth : Bool) :
    (s.startCallAudioRouting telecomManaged hasWired hasBluetooth).Agrees := by
  unfold startCallAudioRouting
  split
  · split
    · exact h
    · exact agrees_requestAudioFocus (agrees_setMode h _)
  · next hidle =>
    have hmuted := h.muted
    rw [(h.idle (Bool.eq_false_iff.mpr hidle)).2.1] at hmuted
    cases telecomManaged
    · exact agrees_route hmuted rfl rfl
    · exact agrees_route hmuted rfl rfl

theorem agrees_stop (s : AudioRouter) : s.stopCallAudioRouting.Agrees := by
  unfold stopCallAudioRouting
  dsimp only
  split <;>
    exact ⟨rfl, rfl, ⟨fun h => absurd h Bool.false_ne_true, fun h => by cases h⟩,
      fun hactive => absurd hactive Bool.false_ne_true, fun _ => ⟨rfl, rfl, rfl⟩, rfl,
      fun hactive => absurd hactive Bool.false_ne_true⟩

theorem agrees_toggleSpeaker (h : s.Agrees) : s.toggleSpeaker.Agrees := by
  unfold toggleSpeaker
  split
  · next hactive =>
    dsimp only
    split
    · next hon =>
      refine ⟨rfl, h.muted, iff_of_true hon rfl, fun _ hoff => absurd (hon.symm.trans hoff) (by decide),
        fun hidle => absurd (hactive.symm.trans hidle) (by decide), h.registered, fun _ => ?_⟩
      simp
    · exact agrees_route h.muted h.registered hactive
  · exact h

theorem agrees_toggleMute (h : s.Agrees) : s.toggleMute.Agrees := by
  unfold toggleMute
  split
  · next hactive =>
    exact ⟨h.speaker, rfl, h.current, h.routed,
      fun hidle => absurd (hactive.symm.trans hidle) (by decide), h.registered, h.sco⟩
  · exact h

/-- The receiver is registered only while a call is active, so it routes the call. -/
theorem agrees_devicesChanged (h : s.Agrees) (hregistered : s.registered = true)
    (availableDevices : List AudioDevice) : (s.devicesChanged availableDevices).Agrees := by
  have hactive : s.isCallActive = true := h.registered.symm.trans hregistered
  unfold devicesChanged
  dsimp only
  rw [if_pos hactive]
  exact agrees_route h.muted h.registered hactive

theorem Agrees.step (h : s.Agrees) {e : AudioEvent} (hstep : s.step e = some t) : t.Agrees := by
  cases e with
  | start telecomManaged hasWired hasBluetooth =>
    cases hstep
    exact agrees_start h ..
  | stop =>
    cases hstep
    exact agrees_stop s
  | toggleSpeaker =>
    cases hstep
    exact agrees_toggleSpeaker h
  | toggleMute =>
    cases hstep
    exact agrees_toggleMute h
  | headsetPlug plugged =>
    obtain ⟨hregistered, hstep⟩ := Option.ite_none_right_eq_some.mp hstep
    cases hstep
    exact agrees_devicesChanged h hregistered _
  | bluetoothConnected =>
    obtain ⟨hregistered, hstep⟩ := Option.ite_none_right_eq_some.mp hstep
    cases hstep
    exact agrees_devicesChanged h hregistered _
  | bluetoothDisconnected =>
    obtain ⟨hregistered, hstep⟩ := Option.ite_none_right_eq_some.mp hstep
    cases hstep
    exact agrees_devicesChanged h hregistered _
  | focusGain =>
    obtain ⟨-, hstep⟩ := Option.ite_none_left_eq_some.mp hstep
    cases hstep
    split
    · exact agrees_setMode h _
    · exact h
  | modeChanged mode =>
    cases hstep
    exact agrees_setMode h mode

/-- The focus is held by one request, or by none, as the routing of a call needs it. -/
def Clean (s : AudioRouter) : Prop :=
  s.phone.focus = s.audioFocusRequest.toList ∧
    (s.audioFocusRequest.isSome = true ↔ s.isCallActive = true ∧ s.isTelecomPathActive = false)

/-- No routing is started outside the framework while one is at work. -/
def StartsOnce (s : AudioRouter) : AudioEvent → Prop
  | .start false _ _ => s.isCallActive = false
  | _ => True

/-- Without a call there is no path. -/
def Settled (s : AudioRouter) : Prop := s.isCallActive = false → s.isTelecomPathActive = false

theorem focus_route (s : AudioRouter) (device : AudioDevice) :
    (s.routeToDevice device).phone.focus = s.phone.focus ∧
      (s.routeToDevice device).audioFocusRequest = s.audioFocusRequest ∧
      (s.routeToDevice device).isCallActive = s.isCallActive ∧
      (s.routeToDevice device).isTelecomPathActive = s.isTelecomPathActive := by
  unfold routeToDevice
  split <;> cases device <;> exact ⟨rfl, rfl, rfl, rfl⟩

/-- What an event leaves alone that neither starts nor stops a routing. -/
structure SameFocus (s t : AudioRouter) : Prop where
  focus : t.phone.focus = s.phone.focus
  request : t.audioFocusRequest = s.audioFocusRequest
  active : t.isCallActive = s.isCallActive
  path : t.isTelecomPathActive = s.isTelecomPathActive

theorem SameFocus.clean_iff (h : SameFocus s t) : t.Clean ↔ s.Clean := by
  rw [Clean, Clean, h.focus, h.request, h.active, h.path]

theorem SameFocus.settled (h : SameFocus s t) (hs : s.Settled) : t.Settled := by
  rw [Settled, h.active, h.path]
  exact hs

theorem sameFocus_route (s : AudioRouter) : SameFocus s s.routeToHighestPriority := by
  obtain ⟨h1, h2, h3, h4⟩ := focus_route s (highestPriority s.availableDevices)
  exact ⟨h1, h2, h3, h4⟩

theorem sameFocus_devicesChanged (s : AudioRouter) (availableDevices : List AudioDevice) :
    SameFocus s (s.devicesChanged availableDevices) := by
  unfold devicesChanged
  dsimp only
  split
  · obtain ⟨h1, h2, h3, h4⟩ := sameFocus_route { s with availableDevices }
    exact ⟨h1, h2, h3, h4⟩
  · exact ⟨rfl, rfl, rfl, rfl⟩

theorem sameFocus_toggleSpeaker (s : AudioRouter) : SameFocus s s.toggleSpeaker := by
  unfold toggleSpeaker
  split
  · dsimp only
    split
    · exact ⟨rfl, rfl, rfl, rfl⟩
    · obtain ⟨h1, h2, h3, h4⟩ := sameFocus_route { s with
        phone := { s.phone with isSpeakerphoneOn := !s.isSpeakerOn }, isSpeakerOn := !s.isSpeakerOn }
      exact ⟨h1, h2, h3, h4⟩
  · exact ⟨rfl, rfl, rfl, rfl⟩

theorem sameFocus_toggleMute (s : AudioRouter) : SameFocus s s.toggleMute := by
  unfold toggleMute
  split <;> exact ⟨rfl, rfl, rfl, rfl⟩

/-- A routing that is started holds the focus, unless one is at work already. -/
theorem start_clean_iff (hs : s.Settled) (hclean : s.Clean) (telecomManaged hasWired hasBluetooth : Bool) :
    (s.startCallAudioRouting telecomManaged hasWired hasBluetooth).Settled ∧
      ((s.startCallAudioRouting telecomManaged hasWired hasBluetooth).Clean ↔
        s.StartsOnce (.start telecomManaged hasWired hasBluetooth)) := by
  obtain ⟨hfocus, hrequest⟩ := hclean
  unfold startCallAudioRouting
  cases hactive : s.isCallActive with
  | true =>
    rw [if_pos rfl]
    cases telecomManaged with
    | true => exact ⟨hs, iff_of_true ⟨hfocus, hrequest⟩ trivial⟩
    | false =>
      refine ⟨fun hidle => absurd (hactive.symm.trans hidle) (by decide), iff_of_false ?_ ?_⟩
      · rintro ⟨htwo, hsome⟩
        -- the request before is still held, or the call is the framework's
        have hpath := (hsome.mp rfl).2
        have hheld := hrequest.mpr ⟨hactive, hpath⟩
        have hlength := congrArg List.length htwo
        obtain ⟨request, hold⟩ := Option.isSome_iff_exists.mp hheld
        simp [setMode, requestAudioFocus, hfocus, hold] at hlength
      · rw [StartsOnce, hactive]
        decide
  | false =>
    have hnone : s.audioFocusRequest = none := by
      rw [← Option.not_isSome_iff_eq_none, hrequest, hactive]
      simp
    have honce : s.StartsOnce (.start telecomManaged hasWired hasBluetooth) := by
      cases telecomManaged
      · exact hactive
      · trivial
    rw [if_neg Bool.false_ne_true]
    dsimp only
    generalize hnew : detectAvailableDevices _ hasWired hasBluetooth = new
    have hroute := sameFocus_route new
    refine ⟨fun hidle => ?_, iff_of_true (hroute.clean_iff.mpr ?_) honce⟩
    · rw [hroute.active, ← hnew] at hidle
      cases telecomManaged <;> exact absurd hidle.symm Bool.false_ne_true
    · rw [← hnew]
      cases telecomManaged with
      | true => exact ⟨hfocus, by simp [detectAvailableDevices, hnone]⟩
      | false =>
        rw [hnone] at hfocus
        simp [Clean, detectAvailableDevices, requestAudioFocus, setMode, hfocus]

theorem stop_clean (hclean : s.Clean) :
    s.stopCallAudioRouting.Settled ∧ s.stopCallAudioRouting.Clean := by
  obtain ⟨hfocus, hrequest⟩ := hclean
  unfold stopCallAudioRouting
  dsimp only
  split
  · next htelecom =>
    refine ⟨fun _ => rfl, hfocus, ?_⟩
    rw [hrequest]
    simp [htelecom]
  · refine ⟨fun _ => rfl, ?_⟩
    cases hold : s.audioFocusRequest with
    | none =>
      rw [hold] at hfocus
      simp [Clean, setMode, abandonAudioFocus, hfocus]
    | some request =>
      rw [hold] at hfocus
      simp [Clean, setMode, abandonAudioFocus, hfocus]

/-- **Every event** keeps the focus as it should be, but a routing that is started once more. -/
theorem step_clean_iff (hs : s.Settled) (hclean : s.Clean) {e : AudioEvent} (hstep : s.step e = some t) :
    t.Settled ∧ (t.Clean ↔ s.StartsOnce e) := by
  have hsame : SameFocus s t → t.Settled ∧ (t.Clean ↔ True) := fun h =>
    ⟨h.settled hs, iff_of_true (h.clean_iff.mpr hclean) trivial⟩
  cases e with
  | start telecomManaged hasWired hasBluetooth =>
    cases hstep
    exact start_clean_iff hs hclean ..
  | stop =>
    cases hstep
    obtain ⟨hsettled, hstopped⟩ := stop_clean hclean
    exact ⟨hsettled, iff_of_true hstopped trivial⟩
  | toggleSpeaker =>
    cases hstep
    exact hsame (sameFocus_toggleSpeaker s)
  | toggleMute =>
    cases hstep
    exact hsame (sameFocus_toggleMute s)
  | headsetPlug plugged =>
    obtain ⟨-, hstep⟩ := Option.ite_none_right_eq_some.mp hstep
    cases hstep
    exact hsame (sameFocus_devicesChanged s _)
  | bluetoothConnected =>
    obtain ⟨-, hstep⟩ := Option.ite_none_right_eq_some.mp hstep
    cases hstep
    exact hsame (sameFocus_devicesChanged s _)
  | bluetoothDisconnected =>
    obtain ⟨-, hstep⟩ := Option.ite_none_right_eq_some.mp hstep
    cases hstep
    exact hsame (sameFocus_devicesChanged s _)
  | focusGain =>
    obtain ⟨-, hstep⟩ := Option.ite_none_left_eq_some.mp hstep
    cases hstep
    refine hsame ?_
    split <;> exact ⟨rfl, rfl, rfl, rfl⟩
  | modeChanged mode =>
    cases hstep
    exact hsame ⟨rfl, rfl, rfl, rfl⟩

/-- An outbound call is routed when it is set up, and once more when it is answered: its first request for the
focus is left behind. -/
def routedTwice : List AudioEvent := [.start false false false, .start false false false, .stop]

example : (exec AudioRouter.step init routedTwice).map (·.phone.focus) = some [0] := by decide

end AudioRouter

end Svarla.Android
