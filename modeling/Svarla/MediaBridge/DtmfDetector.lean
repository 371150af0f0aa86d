import Mathlib.Data.List.Basic
import Mathlib.Logic.Function.Basic

/-!
# The DTMF detector

The detector reports a digit at an end packet, and keeps two flags for each event code. What it
reports depends on nothing but the order of the packets of the code: an end packet is reported if the
packet of its code before it, if there was one, was no end packet (`Detector.Tracks.detect_eq`). So the
digits that are reported are those of the blocks of end packets.

Where the packets arrive in their order, and a start and an end of every press arrive, that is one
digit for a press (`reported_in_order`). A start that comes in between two ends makes two blocks of them, and
a press of the last key again whose starts are lost makes none (`start_late_reported_twice`). The digits
are right if and only if there is a block for each press, in their order (`reported_once_iff`).

What is logged is left out.
-/

namespace Svarla.MediaBridge

/-- `dtmf.Event`. -/
structure TelephoneEvent where
  eventCode : UInt8
  ends : Bool
  volume : UInt8
  duration : UInt16
  deriving DecidableEq, Repr

namespace TelephoneEvent

/-- `PayloadSize`. -/
def payloadSize : Nat := 4

def parsePayload : List UInt8 → Except String TelephoneEvent
  | code :: flags :: hi :: lo :: _ =>
    .ok ⟨code, flags &&& 0x80 ≠ 0, flags &&& 0x3F, hi.toUInt16 <<< 8 ||| lo.toUInt16⟩
  | data => .error s!"telephone-event payload too short: {data.length} bytes (need {payloadSize})"

def encodePayload (evt : TelephoneEvent) : List UInt8 :=
  let flags : UInt8 := if evt.ends then 0x80 else 0
  [evt.eventCode, flags ||| (evt.volume &&& 0x3F), (evt.duration >>> 8).toUInt8, evt.duration.toUInt8]

/-- `eventCodeMap`. -/
def eventCodeMap : List String :=
  ["0", "1", "2", "3", "4", "5", "6", "7", "8", "9", "*", "#", "A", "B", "C", "D"]

def eventCodeToDigit (code : UInt8) : Option String := eventCodeMap[code.toNat]?

theorem duration_bytes (duration : UInt16) :
    (duration >>> 8).toUInt8.toUInt16 <<< 8 ||| duration.toUInt8.toUInt16 = duration := by
  have hbits : ∀ d : BitVec 16,
      ((d >>> 8).setWidth 8).setWidth 16 <<< 8 ||| (d.setWidth 8).setWidth 16 = d := by
    intro d
    ext i hi
    simp only [BitVec.getElem_or, BitVec.getElem_shiftLeft, BitVec.getElem_setWidth,
      BitVec.getLsbD_setWidth, BitVec.getLsbD_ushiftRight]
    rcases Nat.lt_or_ge i 8 with h | h
    · simp [h, BitVec.getLsbD_eq_getElem hi]
    · simp [Nat.not_lt.mpr h, show i - 8 < 8 by omega, show 8 + (i - 8) = i by omega,
        BitVec.getLsbD_eq_getElem hi]
  exact UInt16.toBitVec_inj.mp (hbits duration.toBitVec)

/-- What is encoded is parsed again, with the six bits of a volume. -/
theorem parsePayload_encodePayload (evt : TelephoneEvent) :
    parsePayload evt.encodePayload = .ok { evt with volume := evt.volume &&& 0x3F } := by
  have hflags : ∀ (ends : Bool) (volume flags : UInt8),
      flags = (if ends then 0x80 else 0) ||| (volume &&& 0x3F) →
        decide (flags &&& 0x80 ≠ 0) = ends ∧ flags &&& 0x3F = volume &&& 0x3F := by
    rintro ends ⟨⟨volume⟩⟩ flags rfl
    revert ends volume
    decide +kernel
  obtain ⟨hends, hvolume⟩ := hflags evt.ends evt.volume _ rfl
  unfold encodePayload parsePayload
  simp only [duration_bytes, hends, hvolume]

end TelephoneEvent

open TelephoneEvent

/-- `dtmf.Detector`, by event code. -/
structure Detector where
  active : UInt8 → Bool
  ended : UInt8 → Bool

namespace Detector

/-- `NewDetector`, and what `Reset` leaves. -/
def new : Detector := ⟨fun _ => false, fun _ => false⟩

/-- `ProcessPacket`, with the digit that `onDigit` is called with. -/
def processPacket (d : Detector) (payload : List UInt8) : Detector × Option String :=
  match parsePayload payload with
  | .error _ => (d, none)
  | .ok evt =>
    if evt.ends then
      if d.ended evt.eventCode then (d, none)
      else
        ({ d with
          ended := Function.update d.ended evt.eventCode true
          active := Function.update d.active evt.eventCode false }, eventCodeToDigit evt.eventCode)
    else
      ({ d with
        ended := if d.active evt.eventCode then d.ended
          else Function.update d.ended evt.eventCode false
        active := Function.update d.active evt.eventCode true }, none)

/-- The calls of `onDigit` for packets that come in one after the other. -/
def detect (d : Detector) : List (List UInt8) → List String
  | [] => []
  | payload :: payloads =>
    (d.processPacket payload).2.toList ++ detect (d.processPacket payload).1 payloads

end Detector

/-- The events that come in. -/
def eventsOf (payloads : List (List UInt8)) : List TelephoneEvent :=
  payloads.filterMap fun payload => (parsePayload payload).toOption

/-- The last event of the code, of those that have come, the newest first. -/
def lastOf (earlier : List TelephoneEvent) (code : UInt8) : Option TelephoneEvent :=
  earlier.find? fun evt => evt.eventCode == code

/-- An end packet with no end packet of its code right before it. -/
def BeginsBlock (earlier : List TelephoneEvent) (evt : TelephoneEvent) : Prop :=
  evt.ends ∧ (lastOf earlier evt.eventCode).any (·.ends) = false

instance (earlier : List TelephoneEvent) (evt : TelephoneEvent) :
    Decidable (BeginsBlock earlier evt) := inferInstanceAs (Decidable (_ ∧ _))

/-- The end packets that begin a block of end packets of their code. -/
def blockHeads (earlier : List TelephoneEvent) : List TelephoneEvent → List TelephoneEvent
  | [] => []
  | evt :: evts =>
    if BeginsBlock earlier evt then evt :: blockHeads (evt :: earlier) evts
    else blockHeads (evt :: earlier) evts

namespace Detector

/-- The flags of a code say what its last packet was. -/
def Tracks (d : Detector) (earlier : List TelephoneEvent) : Prop :=
  ∀ code, d.active code = (lastOf earlier code).any (fun evt => !evt.ends) ∧
    d.ended code = (lastOf earlier code).any (·.ends)

theorem tracks_new : new.Tracks [] := fun _ => ⟨rfl, rfl⟩

/-- A packet is the last one of its code, and changes nothing for the others. -/
theorem lastOf_cons (earlier : List TelephoneEvent) (evt : TelephoneEvent) (code : UInt8) :
    lastOf (evt :: earlier) code = if code = evt.eventCode then some evt else lastOf earlier code := by
  rw [lastOf, List.find?_cons]
  rcases eq_or_ne code evt.eventCode with rfl | hne
  · simp
  · rw [if_neg hne, show (evt.eventCode == code) = false from beq_eq_false_iff_ne.mpr hne.symm]
    rfl

/-- The flags of one code are set, and those of the others are what they were. -/
theorem Tracks.set {d : Detector} {earlier : List TelephoneEvent} (h : d.Tracks earlier)
    {evt : TelephoneEvent} {d' : Detector}
    (hactive : d'.active = Function.update d.active evt.eventCode (!evt.ends))
    (hended : d'.ended = Function.update d.ended evt.eventCode evt.ends) :
    d'.Tracks (evt :: earlier) := by
  intro code
  rw [hactive, hended, lastOf_cons]
  rcases eq_or_ne code evt.eventCode with rfl | hne
  · rw [Function.update_self, Function.update_self, if_pos rfl]
    exact ⟨rfl, rfl⟩
  · rw [Function.update_of_ne hne, Function.update_of_ne hne, if_neg hne]
    exact h code

/-- A code is not active and ended at once. -/
theorem Tracks.exclusive {d : Detector} {earlier : List TelephoneEvent} (h : d.Tracks earlier)
    (code : UInt8) : ¬ (d.active code = true ∧ d.ended code = true) := by
  rw [(h code).1, (h code).2]
  rcases lastOf earlier code with _ | evt
  · nofun
  · cases hends : evt.ends <;> simp [hends]

/-- What one packet does to the flags, and what it reports. -/
theorem Tracks.step {d : Detector} {earlier : List TelephoneEvent} (h : d.Tracks earlier)
    {payload : List UInt8} {evt : TelephoneEvent} (hparse : parsePayload payload = .ok evt) :
    (d.processPacket payload).1.Tracks (evt :: earlier) ∧
      (d.processPacket payload).2 =
        if BeginsBlock earlier evt then eventCodeToDigit evt.eventCode else none := by
  have hexclusive := h.exclusive evt.eventCode
  unfold BeginsBlock processPacket
  simp only [hparse, ← (h evt.eventCode).2]
  rcases hends : evt.ends with _ | _
  · -- a start clears what the end before it has left
    refine ⟨h.set (by rw [hends]; rfl) ?_, by simp⟩
    rcases hactive : d.active evt.eventCode with _ | _
    · simp [hends]
    · have hended : d.ended evt.eventCode = false := by simpa [hactive] using hexclusive
      have hkeep : Function.update d.ended evt.eventCode false = d.ended := by
        rw [← hended, Function.update_eq_self]
      simp [hends, hkeep]
  · rcases hended : d.ended evt.eventCode with _ | _
    · exact ⟨h.set (by simp [hends]) (by simp [hends]), by simp⟩
    · -- an end after an end is not reported
      have hactive : d.active evt.eventCode = false := by simpa [hended] using hexclusive
      exact ⟨h.set (by simp [hends, ← hactive]) (by simp [hends, ← hended]), by simp⟩

/-- What is not an event is ignored. -/
theorem processPacket_error {d : Detector} {payload : List UInt8} {text : String}
    (hparse : parsePayload payload = .error text) : d.processPacket payload = (d, none) := by
  simp only [processPacket, hparse]

/-- **What is reported.** The digits are those of the end packets that begin a block. -/
theorem Tracks.detect_eq {d : Detector} {earlier : List TelephoneEvent} (h : d.Tracks earlier)
    (payloads : List (List UInt8)) :
    d.detect payloads =
      (blockHeads earlier (eventsOf payloads)).filterMap fun evt => eventCodeToDigit evt.eventCode := by
  induction payloads generalizing d earlier with
  | nil => rfl
  | cons payload payloads ih =>
    rw [detect, eventsOf, List.filterMap_cons]
    match hparse : parsePayload payload with
    | .error text =>
      rw [processPacket_error hparse]
      exact ih h
    | .ok evt =>
      obtain ⟨htracks, hdigit⟩ := h.step hparse
      rw [ih htracks, hdigit]
      simp only [Except.toOption, blockHeads, eventsOf]
      split
      · rw [List.filterMap_cons]
        cases eventCodeToDigit evt.eventCode <;> rfl
      · rfl

end Detector

/-! ### Key presses -/

/-- A key press: the volumes and durations of its start packets, and of its end packets. -/
structure Press where
  eventCode : UInt8
  valid : eventCode < 16
  starts : List (UInt8 × UInt16)
  ends : List (UInt8 × UInt16)

namespace Press

def startPackets (p : Press) : List (List UInt8) :=
  p.starts.map fun (volume, duration) => encodePayload ⟨p.eventCode, false, volume, duration⟩

def endPackets (p : Press) : List (List UInt8) :=
  p.ends.map fun (volume, duration) => encodePayload ⟨p.eventCode, true, volume, duration⟩

/-- The packets of a press, as they are sent. -/
def packets (p : Press) : List (List UInt8) := p.startPackets ++ p.endPackets

end Press

/-- What is sent arrives with packets lost or duplicated, or swapped with a neighbour. -/
inductive Disturbed {α : Type*} : List α → List α → Prop
  | nil : Disturbed [] []
  | copies (x : α) (k : Nat) {xs ys : List α} (h : Disturbed xs ys) :
    Disturbed (x :: xs) (List.replicate k x ++ ys)
  | swapped (x y : α) (k l : Nat) {xs ys : List α} (h : Disturbed xs ys) :
    Disturbed (x :: y :: xs) (List.replicate l y ++ List.replicate k x ++ ys)

/-- One call of `onDigit` for each press, in their order, with its digit. -/
def ReportedOnce (presses : List Press) (delivered : List (List UInt8)) : Prop :=
  (Detector.new.detect delivered).map some = presses.map fun p => eventCodeToDigit p.eventCode

/-- One block of end packets of its code for each press, and the blocks begin in their order. -/
def BlockForEach (presses : List Press) (delivered : List (List UInt8)) : Prop :=
  (blockHeads [] (eventsOf delivered)).map (·.eventCode) = presses.map (·.eventCode)

instance (presses : List Press) (delivered : List (List UInt8)) :
    Decidable (ReportedOnce presses delivered) := inferInstanceAs (Decidable (_ = _))

instance (presses : List Press) (delivered : List (List UInt8)) :
    Decidable (BlockForEach presses delivered) := inferInstanceAs (Decidable (_ = _))

/-- The keys have different digits. -/
theorem eventCodeToDigit_inj {code code' : UInt8} (hcode : code < 16) (hcode' : code' < 16)
    (h : eventCodeToDigit code = eventCodeToDigit code') : code = code' := by
  have hall : ∀ i < 16, ∀ j < 16, eventCodeMap[i]? = eventCodeMap[j]? → i = j := by decide
  exact UInt8.toNat_inj.mp (hall _ (UInt8.lt_iff_toNat_lt.mp hcode) _
    (UInt8.lt_iff_toNat_lt.mp hcode') h)

/-- Every key has a digit. -/
theorem isSome_eventCodeToDigit {code : UInt8} (hcode : code < 16) :
    (eventCodeToDigit code).isSome := by
  have hlt : code.toNat < eventCodeMap.length := UInt8.lt_iff_toNat_lt.mp hcode
  rw [eventCodeToDigit, List.getElem?_eq_getElem hlt]
  rfl

/-- A block begins with an event that has come. -/
theorem mem_of_mem_blockHeads {evt : TelephoneEvent} {earlier evts : List TelephoneEvent}
    (h : evt ∈ blockHeads earlier evts) : evt ∈ evts := by
  induction evts generalizing earlier with
  | nil => cases h
  | cons e evts ih =>
    rw [blockHeads] at h
    split at h
    · rcases List.mem_cons.mp h with rfl | h
      · exact List.mem_cons_self
      · exact List.mem_cons_of_mem _ (ih h)
    · exact List.mem_cons_of_mem _ (ih h)

/-- A packet of a press is an event of its code. -/
theorem eventCode_of_mem_packets {p : Press} {payload : List UInt8} (h : payload ∈ p.packets)
    {evt : TelephoneEvent} (hparse : parsePayload payload = .ok evt) :
    evt.eventCode = p.eventCode := by
  rcases List.mem_append.mp h with h | h <;>
  · obtain ⟨⟨volume, duration⟩, -, rfl⟩ := List.mem_map.mp h
    rw [parsePayload_encodePayload] at hparse
    cases hparse
    rfl

/-- The events are those of keys, where the packets are those of presses. -/
theorem valid_of_mem_eventsOf {presses : List Press} {delivered : List (List UInt8)}
    (hfrom : ∀ payload ∈ delivered, ∃ p ∈ presses, payload ∈ p.packets) {evt : TelephoneEvent}
    (h : evt ∈ eventsOf delivered) : evt.eventCode < 16 := by
  obtain ⟨payload, hpayload, hevt⟩ := List.mem_filterMap.mp h
  obtain ⟨p, -, hp⟩ := hfrom payload hpayload
  match hparse : parsePayload payload with
  | .error text =>
    rw [hparse] at hevt
    cases hevt
  | .ok evt' =>
    rw [hparse] at hevt
    cases hevt
    rw [eventCode_of_mem_packets hp hparse]
    exact p.valid

/-- The codes of keys have the digits of other keys only where they are the same. -/
theorem map_eventCodeToDigit_eq_iff {codes codes' : List UInt8} (h : ∀ code ∈ codes, code < 16)
    (h' : ∀ code ∈ codes', code < 16) :
    codes.map eventCodeToDigit = codes'.map eventCodeToDigit ↔ codes = codes' := by
  induction codes generalizing codes' with
  | nil => cases codes' <;> simp
  | cons code codes ih =>
    cases codes' with
    | nil => simp
    | cons code' codes' =>
      rw [List.forall_mem_cons] at h h'
      rw [List.map_cons, List.map_cons, List.cons.injEq, List.cons.injEq, ih h.2 h'.2]
      exact and_congr_left' ⟨eventCodeToDigit_inj h.1 h'.1, congrArg _⟩

/-- **The digits are right if and only if the blocks are.** Whatever the order is that packets of the
presses arrive in, each press is reported once, in the order of the presses, if and only if the end
packets form a block for each press, in that order. -/
theorem reported_once_iff (presses : List Press) (delivered : List (List UInt8))
    (hfrom : ∀ payload ∈ delivered, ∃ p ∈ presses, payload ∈ p.packets) :
    ReportedOnce presses delivered ↔ BlockForEach presses delivered := by
  have hheads : ∀ evt ∈ blockHeads [] (eventsOf delivered), evt.eventCode < 16 := fun evt h =>
    valid_of_mem_eventsOf hfrom (mem_of_mem_blockHeads h)
  have hdigits : (Detector.new.detect delivered).map some =
      ((blockHeads [] (eventsOf delivered)).map (·.eventCode)).map eventCodeToDigit := by
    rw [Detector.tracks_new.detect_eq, List.map_map]
    generalize blockHeads [] (eventsOf delivered) = heads at hheads
    induction heads with
    | nil => rfl
    | cons evt heads ih =>
      rw [List.forall_mem_cons] at hheads
      obtain ⟨digit, hdigit⟩ := Option.isSome_iff_exists.mp (isSome_eventCodeToDigit hheads.1)
      rw [List.filterMap_cons, hdigit, List.map_cons, List.map_cons, ih hheads.2,
        Function.comp_apply, hdigit]
  have hpresses : (presses.map fun p => eventCodeToDigit p.eventCode) =
      (presses.map (·.eventCode)).map eventCodeToDigit := by
    rw [List.map_map]
    rfl
  rw [ReportedOnce, BlockForEach, hdigits, hpresses]
  refine map_eventCodeToDigit_eq_iff ?_ ?_
  · simpa using hheads
  · simpa using fun p _ => p.valid

/-! ### Packets in order -/

theorem blockHeads_append (earlier xs ys : List TelephoneEvent) :
    blockHeads earlier (xs ++ ys) = blockHeads earlier xs ++ blockHeads (xs.reverse ++ earlier) ys := by
  induction xs generalizing earlier with
  | nil => rfl
  | cons evt xs ih =>
    rw [List.cons_append, blockHeads, blockHeads, ih, List.reverse_cons, List.append_assoc]
    split <;> rfl

/-- Starts begin no block. -/
theorem blockHeads_starts {starts : List TelephoneEvent} (h : ∀ evt ∈ starts, evt.ends = false)
    (earlier : List TelephoneEvent) : blockHeads earlier starts = [] := by
  induction starts generalizing earlier with
  | nil => rfl
  | cons evt starts ih =>
    rw [List.forall_mem_cons] at h
    rw [blockHeads, if_neg (fun hbegins => by simp [BeginsBlock, h.1] at hbegins), ih h.2]

/-- Ends after an end of their code begin no block. -/
theorem blockHeads_redundant {code : UInt8} {ends : List TelephoneEvent}
    (h : ∀ evt ∈ ends, evt.eventCode = code ∧ evt.ends = true) {earlier : List TelephoneEvent}
    (hlast : (lastOf earlier code).any (·.ends) = true) : blockHeads earlier ends = [] := by
  induction ends generalizing earlier with
  | nil => rfl
  | cons evt ends ih =>
    rw [List.forall_mem_cons] at h
    obtain ⟨⟨rfl, hends⟩, hrest⟩ := h
    rw [blockHeads, if_neg (fun hbegins => Bool.false_ne_true (hbegins.2.symm.trans hlast)), ih hrest]
    rw [Detector.lastOf_cons, if_pos rfl]
    exact hends

/-- A start and an end of a code, and others of each, are one block. -/
theorem blockHeads_press {code : UInt8} {starts ends : List TelephoneEvent}
    (hstarts : ∀ evt ∈ starts, evt.eventCode = code ∧ evt.ends = false) (hstart : starts ≠ [])
    (hends : ∀ evt ∈ ends, evt.eventCode = code ∧ evt.ends = true) (hend : ends ≠ [])
    (earlier : List TelephoneEvent) :
    (blockHeads earlier (starts ++ ends)).map (·.eventCode) = [code] := by
  rw [blockHeads_append, blockHeads_starts (fun evt h => (hstarts evt h).2), List.nil_append]
  obtain ⟨start, hstart⟩ : ∃ start, lastOf (starts.reverse ++ earlier) code = some start ∧
      start.ends = false := by
    obtain ⟨init, last, rfl⟩ := List.eq_nil_or_concat'  starts |>.resolve_left hstart
    obtain ⟨hcode, hlast⟩ := hstarts last (by simp)
    refine ⟨last, ?_, hlast⟩
    rw [List.reverse_append, List.reverse_singleton, List.singleton_append, List.cons_append,
      Detector.lastOf_cons, if_pos hcode.symm]
  obtain ⟨first, rest, rfl⟩ := List.exists_cons_of_ne_nil hend
  rw [List.forall_mem_cons] at hends
  obtain ⟨⟨rfl, hfirst⟩, hrest⟩ := hends
  have hbegins : BeginsBlock (starts.reverse ++ earlier) first := by
    refine ⟨hfirst, ?_⟩
    rw [hstart.1]
    exact hstart.2
  rw [blockHeads, if_pos hbegins, blockHeads_redundant hrest]
  · rfl
  · rw [Detector.lastOf_cons, if_pos rfl]
    exact hfirst

theorem eventsOf_append (xs ys : List (List UInt8)) :
    eventsOf (xs ++ ys) = eventsOf xs ++ eventsOf ys := List.filterMap_append

/-- The events of encoded packets. -/
theorem forall_mem_eventsOf {p : Press} {ends : Bool} {sent : List (UInt8 × UInt16)} :
    ∀ evt ∈ eventsOf (sent.map fun (volume, duration) =>
        encodePayload ⟨p.eventCode, ends, volume, duration⟩),
      evt.eventCode = p.eventCode ∧ evt.ends = ends := by
  intro evt h
  obtain ⟨payload, hpayload, hevt⟩ := List.mem_filterMap.mp h
  obtain ⟨⟨volume, duration⟩, -, rfl⟩ := List.mem_map.mp hpayload
  rw [parsePayload_encodePayload] at hevt
  cases hevt
  exact ⟨rfl, rfl⟩

theorem eventsOf_ne_nil {p : Press} {ends : Bool} {sent : List (UInt8 × UInt16)} (h : sent ≠ []) :
    eventsOf (sent.map fun (volume, duration) =>
        encodePayload ⟨p.eventCode, ends, volume, duration⟩) ≠ [] := by
  obtain ⟨⟨volume, duration⟩, rest, rfl⟩ := List.exists_cons_of_ne_nil h
  rw [eventsOf, List.map_cons, List.filterMap_cons, parsePayload_encodePayload]
  exact List.cons_ne_nil _ _

/-- **Presses in order.** Where the packets of the presses arrive in their order, and a start and an end
of each, each press is reported once. -/
theorem reported_in_order (presses : List Press) (h : ∀ p ∈ presses, p.starts ≠ [] ∧ p.ends ≠ []) :
    ReportedOnce presses (presses.flatMap Press.packets) := by
  rw [reported_once_iff presses _ fun payload hpayload => List.mem_flatMap.mp hpayload, BlockForEach]
  generalize ([] : List TelephoneEvent) = earlier
  induction presses generalizing earlier with
  | nil => rfl
  | cons p presses ih =>
    rw [List.forall_mem_cons] at h
    have hpress := blockHeads_press (@forall_mem_eventsOf p false p.starts) (eventsOf_ne_nil h.1.1)
      (@forall_mem_eventsOf p true p.ends) (eventsOf_ne_nil h.1.2) earlier
    rw [← eventsOf_append] at hpress
    rw [List.flatMap_cons, eventsOf_append, blockHeads_append, List.map_append, ih h.2, List.map_cons]
    exact congrArg (· ++ _) hpress

/-- A press of a key with a start and two ends. -/
def aPress (code : UInt8) (valid : code < 16) : Press :=
  ⟨code, valid, [(10, 160)], [(10, 320), (10, 480)]⟩

/-- A press whose start is lost, after one of another key. -/
theorem reported_once_other_key :
    ReportedOnce [aPress 5 (by decide), aPress 1 (by decide)]
      ((aPress 5 (by decide)).packets ++ (aPress 1 (by decide)).endPackets) :=
  (reported_once_iff _ _ (by decide +kernel)).mpr (by decide +kernel)

/-- A start is swapped with the end that follows it, and so comes in between two ends. And of two
presses of one key, the start of the second one is lost. -/
theorem start_late_reported_twice :
    (∃ (presses : List Press) (delivered : List (List UInt8)),
      Disturbed (presses.flatMap Press.packets) delivered ∧
        (∀ p ∈ presses, ∃ payload ∈ p.endPackets, payload ∈ delivered) ∧
        presses.map (·.eventCode) = [5] ∧ Detector.new.detect delivered = ["5", "5"] ∧
        ¬ ReportedOnce presses delivered) ∧
    (∃ (presses : List Press) (delivered : List (List UInt8)),
      Disturbed (presses.flatMap Press.packets) delivered ∧
        (∀ p ∈ presses, ∃ payload ∈ p.endPackets, payload ∈ delivered) ∧
        presses.map (·.eventCode) = [5, 5] ∧ Detector.new.detect delivered = ["5"] ∧
        ¬ ReportedOnce presses delivered) := by
  refine ⟨⟨[aPress 5 (by decide)], _, .swapped _ _ 1 1 (.copies _ 1 .nil), ?_⟩,
    ⟨[aPress 5 (by decide), aPress 5 (by decide)], _, .copies _ 1 (.copies _ 1 (.copies _ 1
      (.copies _ 0 (.copies _ 1 (.copies _ 1 .nil))))), ?_⟩⟩ <;>
  · decide +kernel

end Svarla.MediaBridge
