import Mathlib
import Svarla.Sms.PduParse

/-!
# No octet past the end

The parsers once more, with each access to the octets of a slice as the source makes it: an index or a
slice beyond the end is a fault (`Fault.outOfRange`), and so is a loop over the elements of a header that
takes more steps than there are octets (`Fault.endless`). Each is then found to be the parser of
`Svarla.Sms.PduParse`, which has no faults (`pdu_in_bounds`).
-/

namespace Svarla.Sms

open Svarla.Lib

/-- `pduMTI`: the type of a message, -1 where there is none. -/
def pduMTI (hexPDU : List UInt8) : Int :=
  let fo : Except String UInt8 := do
    let data ← hexToBytes hexPDU
    let (smscLen, r) ← (PduReader.ofData data).u8
    let (_, r) ← r.bytes smscLen.toNat
    let (fo, _) ← r.u8
    .ok fo
  match fo with
  | .ok fo => (fo &&& 0x03).toNat
  | .error _ => -1

structure DeliveryReport where
  messageRef : Nat
  status : String
  deriving DecidableEq, Repr

/-- `statusFromTPST`. -/
def statusFromTPST (st : UInt8) : String :=
  if st = 0x00 then "DELIVERED"
  else if st < 0x20 then "DELIVERED"
  else if st < 0x40 then "UNKNOWN"
  else "FAILED"

/-- `parseStatusReportPDU`. -/
def parseStatusReportPDU (hexPDU : List UInt8) : Except String DeliveryReport := do
  let data ← hexToBytes hexPDU
  let (smscLen, r) ← (PduReader.ofData data).u8
  let (_, r) ← r.bytes smscLen.toNat
  let (fo, r) ← r.u8
  if fo &&& 0x03 ≠ 0x02 then
    .error s!"sms: not a status-report PDU (MTI={(fo &&& 0x03).toNat})"
  else
    let (mr, r) ← r.u8
    let (_, r) ← parseAddress r
    let (_, r) ← r.bytes 7
    let (_, r) ← r.bytes 7
    let (st, _) ← r.u8
    .ok { messageRef := mr.toNat, status := statusFromTPST st }

/-! ## Accesses -/

/-- What ends a function: an error that it returns, or a fault. -/
inductive Fault
  | error (message : String)
  | outOfRange
  | endless
  deriving DecidableEq, Repr

/-- A function that has no faults. -/
def lift {α : Type} : Except String α → Except Fault α
  | .ok a => .ok a
  | .error message => .error (.error message)

def InBounds {α : Type} (x : Except Fault α) : Prop := x ≠ .error .outOfRange ∧ x ≠ .error .endless

theorem inBounds_lift {α : Type} (x : Except String α) : InBounds (lift x) := by
  cases x with
  | ok a => exact ⟨nofun, nofun⟩
  | error message => exact ⟨nofun, nofun⟩

theorem ok_bind {ε α β : Type} (a : α) (f : α → Except ε β) : (Except.ok a >>= f) = f a := rfl

/-- Step by step without faults. -/
theorem bind_lift {α β : Type} {x : Except Fault α} {y : Except String α} {f : α → Except Fault β}
    {g : α → Except String β} (hx : x = lift y) (hf : ∀ a, f a = lift (g a)) :
    (x >>= f) = lift (y >>= g) := by
  subst hx
  cases y with
  | ok a => exact hf a
  | error message => rfl

/-- `s[i]`. -/
def index {α : Type} (s : List α) (i : Nat) : Except Fault α :=
  match s[i]? with
  | some x => .ok x
  | none => .error .outOfRange

/-- `s[i] = x`. -/
def store {α : Type} (s : List α) (i : Nat) (x : α) : Except Fault (List α) :=
  if i < s.length then .ok (s.set i x) else .error .outOfRange

/-- `s[lo:hi]`. -/
def slice {α : Type} (s : List α) (lo hi : Nat) : Except Fault (List α) :=
  if lo ≤ hi ∧ hi ≤ s.length then .ok ((s.take hi).drop lo) else .error .outOfRange

theorem index_of_lt {α : Type} {s : List α} {i : Nat} (h : i < s.length) : index s i = .ok s[i] := by
  rw [index, List.getElem?_eq_getElem h]

theorem index_getD {α : Type} {s : List α} {i : Nat} (h : i < s.length) (d : α) :
    index s i = .ok (s.getD i d) := by
  rw [index_of_lt h, List.getD_eq_getElem _ _ h]

theorem slice_of_le {α : Type} {s : List α} {lo hi : Nat} (hlo : lo ≤ hi) (hhi : hi ≤ s.length) :
    slice s lo hi = .ok ((s.take hi).drop lo) := if_pos ⟨hlo, hhi⟩

namespace Indexed

/-! ## The parsers, access by access -/

/-- The loop of `hexToBytes`. -/
def hexLoop (clean : List UInt8) (out : List UInt8) (i : Nat) : Except Fault (List UInt8) :=
  if i < clean.length then do
    let hi ← index clean i
    let lo ← index clean (i + 1)
    match hexNibble hi, hexNibble lo with
    | some h, some l =>
      let out ← store out (i / 2) (h <<< 4 ||| l)
      hexLoop clean out (i + 2)
    | _, _ =>
      let _ ← slice clean i (i + 2)
      .error (.error "sms: invalid hex byte")
  else .ok out
termination_by clean.length - i

/-- `hexToBytes`. -/
def hexToBytes (s : List UInt8) : Except Fault (List UInt8) :=
  let clean := s.filter fun c => ¬ (c = 32 ∨ c = 9 ∨ c = 13 ∨ c = 10)
  if clean.length % 2 ≠ 0 then .error (.error s!"sms: odd-length hex PDU ({clean.length})")
  else hexLoop clean (List.replicate (clean.length / 2) 0) 0

/-- `u8`. -/
def u8 (r : PduReader) : Except Fault (UInt8 × PduReader) :=
  if h : r.data.length ≤ r.pos then .error (.error s!"sms: PDU truncated at offset {r.pos}")
  else do
    let b ← index r.data r.pos
    .ok (b, ⟨r.data, r.pos + 1, Nat.not_le.mp h⟩)

/-- `bytes`. -/
def bytes (r : PduReader) (n : Nat) : Except Fault (List UInt8 × PduReader) :=
  if h : r.data.length < r.pos + n then
    .error (.error s!"sms: PDU wants {n} bytes at offset {r.pos}, only {r.remaining} left")
  else do
    let b ← slice r.data r.pos (r.pos + n)
    .ok (b, ⟨r.data, r.pos + n, Nat.not_lt.mp h⟩)

/-- `unpackSeptets`. -/
def unpackSeptets (data : List UInt8) : Nat → Nat → Except Fault (List UInt8)
  | 0, _ => .ok []
  | n + 1, bitPos =>
    let octetIdx := bitPos / 8
    let bitInOctet := bitPos % 8
    if data.length ≤ octetIdx then .ok []
    else do
      let low ← index data octetIdx
      let val := low.toNat >>> bitInOctet
      let val ←
        if 1 < bitInOctet ∧ octetIdx + 1 < data.length then do
          let high ← index data (octetIdx + 1)
          .ok (val ||| high.toNat <<< (8 - bitInOctet))
        else if bitInOctet = 1 ∧ octetIdx + 1 < data.length then do
          let high ← index data (octetIdx + 1)
          .ok (val ||| high.toNat <<< 7)
        else .ok val
      let rest ← unpackSeptets data n (bitPos + 7)
      .ok (UInt8.ofNat (val &&& 0x7F) :: rest)

/-- `decodeGSM7`, from the `i`-th septet on. -/
def decodeGSM7 (septets : List UInt8) (i : Nat) : Except Fault (List Char) :=
  if i < septets.length then do
    let s ← index septets i
    if s = gsm7Escape then
      if septets.length ≤ i + 1 then .ok [' ']
      else do
        let code ← index septets (i + 1)
        let rest ← decodeGSM7 septets (i + 2)
        .ok ((gsm7ExtensionReverse code).getD ' ' :: rest)
    else if s.toNat < gsm7DefaultAlphabet.length then do
      let r ← index gsm7DefaultAlphabet s.toNat
      let rest ← decodeGSM7 septets (i + 1)
      .ok (r :: rest)
    else decodeGSM7 septets (i + 1)
  else .ok []
termination_by septets.length - i

/-- The units of `DecodeUCS2`, from the `i`-th on. -/
def ucs2Units (data : List UInt8) (n i : Nat) : Except Fault (List UInt16) :=
  if i < n then do
    let pair ← slice data (i * 2) data.length
    let low ← index pair 1
    let high ← index pair 0
    let rest ← ucs2Units data n (i + 1)
    .ok (UInt16.ofNat (high.toNat * 256 + low.toNat) :: rest)
  else .ok []
termination_by n - i

/-- `DecodeUCS2`. -/
def decodeUCS2 (data : List UInt8) : Except Fault String :=
  if data.length < 2 then .ok ""
  else do
    let units ← ucs2Units data (data.length / 2) 0
    .ok (String.ofList (Utf16.decode units))

/-- One step of the loop of `parseConcatFromUDH`: it ends, or goes on at an element further on. -/
def concatStep (udh : List UInt8) (i : Nat) : Except Fault (Option ConcatInfo ⊕ Nat) :=
  if i + 2 ≤ udh.length then do
    let iei ← index udh i
    let iedl ← index udh (i + 1)
    if udh.length < i + 2 + iedl.toNat then .ok (.inl none)
    else do
      let ie ← slice udh (i + 2) (i + 2 + iedl.toNat)
      if iei = 0x00 ∧ ie.length = 3 then do
        let ref ← index ie 0
        let total ← index ie 1
        let seq ← index ie 2
        .ok (.inl (some ⟨ref.toNat, seq.toNat, total.toNat⟩))
      else if iei = 0x08 ∧ ie.length = 4 then do
        let refHi ← index ie 0
        let refLo ← index ie 1
        let total ← index ie 2
        let seq ← index ie 3
        .ok (.inl (some ⟨refHi.toNat <<< 8 ||| refLo.toNat, seq.toNat, total.toNat⟩))
      else .ok (.inr (i + 2 + iedl.toNat))
  else .ok (.inl none)

/-- `parseConcatFromUDH`, in at most so many steps. -/
def concatLoop (udh : List UInt8) : Nat → Nat → Except Fault (Option ConcatInfo)
  | 0, _ => .error .endless
  | steps + 1, i => do
    match ← concatStep udh i with
    | .inl concat => .ok concat
    | .inr i => concatLoop udh steps i

/-- The header in `decodeUserData`: its octets, and the concatenation found in it. -/
def userDataHeader (hasUDH : Bool) (ud : List UInt8) : Except Fault (Nat × Option ConcatInfo) :=
  if hasUDH then
    if ud.length = 0 then .error (.error "sms: UDHI set but user data empty")
    else do
      let udhl ← index ud 0
      if ud.length < udhl.toNat + 1 then
        .error (.error s!"sms: UDH length {udhl.toNat + 1} exceeds user data {ud.length}")
      else do
        let udh ← slice ud 1 (udhl.toNat + 1)
        let concat ← concatLoop udh (udh.length + 1) 0
        .ok (udhl.toNat + 1, concat)
  else .ok (0, none)

/-- The septets in `decodeUserData` that are behind those of the header. -/
def septetsBehind (hasUDH : Bool) (septets : List UInt8) (udhSeptets : Nat) : Except Fault (List UInt8) :=
  if hasUDH then
    if udhSeptets ≤ septets.length then slice septets udhSeptets septets.length else .ok []
  else .ok septets

/-- The octets in `decodeUserData` that are behind the header. -/
def octetsBehind (hasUDH : Bool) (ud : List UInt8) (udhLenOctets : Nat) : Except Fault (List UInt8) :=
  if hasUDH then slice ud udhLenOctets ud.length else .ok ud

/-- `decodeUserData`. -/
def decodeUserData (dcs : UInt8) (udl : Nat) (hasUDH : Bool) (ud : List UInt8) :
    Except Fault (String × Option ConcatInfo) := do
  let gsm7 := isGSM7DCS dcs
  let (udhLenOctets, concat) ← userDataHeader hasUDH ud
  if gsm7 then do
    let septets ← unpackSeptets ud udl 0
    let udhSeptets := (udhLenOctets * 8 + 6) / 7
    let septets ← septetsBehind hasUDH septets udhSeptets
    let text ← decodeGSM7 septets 0
    .ok (String.ofList text, concat)
  else do
    let msgBytes ← octetsBehind hasUDH ud udhLenOctets
    let text ← decodeUCS2 msgBytes
    .ok (text, concat)

/-- `parseAddress`. -/
def parseAddress (r : PduReader) : Except Fault (String × PduReader) := do
  let (addrLen, r) ← u8 r
  let (toa, r) ← u8 r
  if addrLen = 0 then
    .ok ("", r)
  else
    let (octets, r) ← bytes r ((addrLen.toNat + 1) / 2)
    if toa &&& 0x70 = 0x50 then do
      let septets ← unpackSeptets octets (addrLen.toNat * 4 / 7) 0
      let text ← decodeGSM7 septets 0
      .ok (String.ofList text, r)
    else
      let num := addressDigits octets
      .ok (String.ofList (if toa &&& 0x70 = 0x10 then '+' :: num else num), r)

/-- `parseSCTS`. -/
def parseSCTS (b : List UInt8) : Except Fault Int :=
  if b.length < 7 then .ok zeroTimeUnixNano
  else do
    let year ← index b 0
    let month ← index b 1
    let day ← index b 2
    let hour ← index b 3
    let minute ← index b 4
    let second ← index b 5
    let tzByte ← index b 6
    .ok (Sms.parseSCTS [year, month, day, hour, minute, second, tzByte])

/-- `pduMTI`. -/
def pduMTI (hexPDU : List UInt8) : Except Fault Int :=
  let fo : Except Fault UInt8 := do
    let data ← hexToBytes hexPDU
    let (smscLen, r) ← u8 (.ofData data)
    let (_, r) ← bytes r smscLen.toNat
    let (fo, _) ← u8 r
    .ok fo
  match fo with
  | .ok fo => .ok (fo &&& 0x03).toNat
  | .error (.error _) => .ok (-1)
  | .error fault => .error fault

/-- `parseDeliverPDU`. -/
def parseDeliverPDU (hexPDU : List UInt8) : Except Fault ParsedMessage := do
  let data ← hexToBytes hexPDU
  let (smscLen, r) ← u8 (.ofData data)
  let (_, r) ← bytes r smscLen.toNat
  let (fo, r) ← u8 r
  if fo &&& 0x03 ≠ 0x00 then
    .error (.error s!"sms: not an SMS-DELIVER PDU (MTI={(fo &&& 0x03).toNat})")
  else
    let hasUDH : Bool := fo &&& 0x40 ≠ 0
    let (sender, r) ← parseAddress r
    let (_, r) ← u8 r
    let (dcs, r) ← u8 r
    let (scts, r) ← bytes r 7
    let timestamp ← parseSCTS scts
    let (udl, r) ← u8 r
    let ud ← slice r.data r.pos r.data.length
    let (body, concat) ← decodeUserData dcs udl.toNat hasUDH ud
    .ok { sender, body, timestamp, concat }

/-- `parseStatusReportPDU`. -/
def parseStatusReportPDU (hexPDU : List UInt8) : Except Fault DeliveryReport := do
  let data ← hexToBytes hexPDU
  let (smscLen, r) ← u8 (.ofData data)
  let (_, r) ← bytes r smscLen.toNat
  let (fo, r) ← u8 r
  if fo &&& 0x03 ≠ 0x02 then
    .error (.error s!"sms: not a status-report PDU (MTI={(fo &&& 0x03).toNat})")
  else
    let (mr, r) ← u8 r
    let (_, r) ← parseAddress r
    let (_, r) ← bytes r 7
    let (_, r) ← bytes r 7
    let (st, _) ← u8 r
    .ok { messageRef := mr.toNat, status := statusFromTPST st }

/-! ## They are the parsers -/

theorem hexLoop_eq (done todo : List UInt8) (out : List UInt8) (hdone : done.length = 2 * out.length)
    (heven : todo.length % 2 = 0) :
    hexLoop (done ++ todo) (out ++ List.replicate (todo.length / 2) 0) done.length =
      lift ((hexPairs todo).map (out ++ ·)) := by
  match todo, heven with
  | [], _ =>
    rw [hexLoop, if_neg (by simp)]
    simp [hexPairs, Except.map, lift]
  | hi :: lo :: rest, heven =>
    have hhi : index (done ++ hi :: lo :: rest) done.length = .ok hi := by
      rw [index, List.getElem?_append_right le_rfl, Nat.sub_self]
      rfl
    have hlo : index (done ++ hi :: lo :: rest) (done.length + 1) = .ok lo := by
      rw [index, List.getElem?_append_right (Nat.le_add_right _ 1), Nat.add_sub_self_left]
      rfl
    have hlen : (hi :: lo :: rest).length / 2 = rest.length / 2 + 1 := by
      simp only [List.length_cons]
      omega
    rw [hexLoop, if_pos (by simp), hhi, ok_bind, hlo, ok_bind, hexPairs, hlen, List.replicate_succ]
    have hfail : ∀ message, (slice (done ++ hi :: lo :: rest) done.length (done.length + 2) >>= fun _ =>
        (Except.error (.error message) : Except Fault (List UInt8))) = .error (.error message) := by
      intro message
      rw [slice_of_le (Nat.le_add_right _ _) (by simp)]
      rfl
    generalize hexNibble hi = high, hexNibble lo = low
    match high, low with
    | none, _ => exact hfail _
    | some _, none => exact hfail _
    | some h, some l =>
      have hstore : store (out ++ 0 :: List.replicate (rest.length / 2) 0) (done.length / 2) (h <<< 4 ||| l) =
          .ok (out ++ [h <<< 4 ||| l] ++ List.replicate (rest.length / 2) 0) := by
        rw [store, hdone, Nat.mul_div_cancel_left _ Nat.two_pos, if_pos (by simp)]
        simp
      have ih := hexLoop_eq (done ++ [hi, lo]) rest (out ++ [h <<< 4 ||| l]) (by simp; omega)
        (by simp only [List.length_cons] at heven; omega)
      rw [List.append_assoc, List.length_append] at ih
      dsimp only
      rw [hstore, ok_bind]
      refine ih.trans ?_
      cases hexPairs rest <;> simp [Except.map]

theorem hexToBytes_eq (s : List UInt8) : hexToBytes s = lift (Sms.hexToBytes s) := by
  unfold hexToBytes Sms.hexToBytes
  dsimp only
  generalize s.filter _ = clean
  split
  · rfl
  · rename_i heven
    have hloop := hexLoop_eq [] clean [] rfl (by omega)
    simp only [List.nil_append, List.length_nil] at hloop
    rw [hloop]
    cases hexPairs clean <;> rfl

theorem u8_eq (r : PduReader) : u8 r = lift r.u8 := by
  unfold u8 PduReader.u8
  by_cases h : r.pos < r.data.length
  · rw [dif_neg (Nat.not_le.mpr h), dif_pos h, index_of_lt h]
    rfl
  · rw [dif_pos (Nat.not_lt.mp h), dif_neg h]
    rfl

theorem bytes_eq (r : PduReader) (n : Nat) : bytes r n = lift (r.bytes n) := by
  unfold bytes PduReader.bytes
  by_cases h : r.pos + n ≤ r.data.length
  · rw [dif_neg (Nat.not_lt.mpr h), dif_pos h, slice_of_le (Nat.le_add_right _ _) h,
      List.drop_take, Nat.add_sub_cancel_left]
    rfl
  · rw [dif_pos (Nat.not_le.mp h), dif_neg h]
    rfl

theorem unpackSeptets_eq (data : List UInt8) (n pos : Nat) :
    unpackSeptets data n pos = .ok (Sms.unpackSeptets data n pos) := by
  change _ = Except.ok (unpackLoop data n pos)
  induction n generalizing pos with
  | zero => rfl
  | succ n ih =>
    rw [unpackSeptets, unpackLoop]
    by_cases hend : data.length ≤ pos / 8
    · rw [if_pos hend, if_pos hend]
    · rw [if_neg hend, if_neg hend, index_getD (Nat.not_le.mp hend) 0, ih]
      unfold unpackVal
      dsimp only
      by_cases hmid : 1 < pos % 8 ∧ pos / 8 + 1 < data.length
      · rw [ok_bind, if_pos hmid, if_pos hmid, index_getD hmid.2 0]
        rfl
      · rw [ok_bind, if_neg hmid, if_neg hmid]
        by_cases hone : pos % 8 = 1 ∧ pos / 8 + 1 < data.length
        · rw [if_pos hone, if_pos hone, index_getD hone.2 0]
          rfl
        · rw [if_neg hone, if_neg hone]
          rfl

theorem decodeGSM7_eq (septets : List UInt8) (i : Nat) :
    decodeGSM7 septets i = .ok (decodeGSM7Loop (septets.drop i)) := by
  fun_induction decodeGSM7 septets i with
  | case2 i hge =>
    rw [List.drop_eq_nil_of_le (Nat.not_lt.mp hge)]
    rfl
  | case1 i hlt ih2 ih1 =>
    rw [index_of_lt hlt, ok_bind, List.drop_eq_getElem_cons hlt, decodeGSM7Loop.eq_def]
    dsimp only
    by_cases hesc : septets[i] = gsm7Escape
    · rw [if_pos hesc, if_pos hesc]
      by_cases hend : septets.length ≤ i + 1
      · rw [if_pos hend, List.drop_eq_nil_of_le hend]
      · have hnext : i + 1 < septets.length := Nat.not_le.mp hend
        rw [if_neg hend, index_of_lt hnext, ok_bind, ih2 hend, List.drop_eq_getElem_cons hnext]
        rfl
    · rw [if_neg hesc, if_neg hesc]
      by_cases hval : septets[i].toNat < gsm7DefaultAlphabet.length
      · rw [if_pos hval, index_of_lt hval, ok_bind, ih1, List.getElem?_eq_getElem hval]
        rfl
      · rw [if_neg hval, ih1, List.getElem?_eq_none (Nat.not_lt.mp hval)]

theorem ucs2Units_eq (data : List UInt8) (i : Nat) :
    ucs2Units data (data.length / 2) i = .ok (Sms.ucs2Units (data.drop (2 * i))) := by
  fun_induction ucs2Units data (data.length / 2) i with
  | case2 i hge =>
    have hshort : (data.drop (2 * i)).length < 2 := by
      rw [List.length_drop]
      omega
    match data.drop (2 * i), hshort with
    | [], _ => rfl
    | [_], _ => rfl
  | case1 i hlt ih =>
    have hpair : 2 * i + 1 < data.length := by omega
    rw [slice_of_le (by omega) le_rfl, ok_bind, List.take_length, Nat.mul_comm i 2,
      List.drop_eq_getElem_cons (by omega), List.drop_eq_getElem_cons hpair, ih]
    rfl

theorem decodeUCS2_eq (data : List UInt8) : decodeUCS2 data = .ok (Sms.decodeUCS2 data) := by
  unfold decodeUCS2 Sms.decodeUCS2
  split
  · rfl
  · rw [ucs2Units_eq]
    rfl

/-- What one element of a header says of the concatenation. -/
def concatOf (iei : UInt8) (ie : List UInt8) : Option ConcatInfo :=
  match iei, ie with
  | 0x00, [ref, total, seq] => some ⟨ref.toNat, seq.toNat, total.toNat⟩
  | 0x08, [refHi, refLo, total, seq] => some ⟨refHi.toNat <<< 8 ||| refLo.toNat, seq.toNat, total.toNat⟩
  | _, _ => none

theorem parseConcatFromUDH_cons (iei iedl : UInt8) (rest : List UInt8) :
    parseConcatFromUDH (iei :: iedl :: rest) =
      if rest.length < iedl.toNat then none
      else (concatOf iei (rest.take iedl.toNat)).or (parseConcatFromUDH (rest.drop iedl.toNat)) := by
  conv => lhs; unfold parseConcatFromUDH
  split
  · rfl
  · unfold concatOf
    split <;> simp [*]

/-- The accesses to an element, of the kinds that are looked at. -/
theorem concatOf_accesses (iei : UInt8) (ie : List UInt8) (next : Nat) :
    (if iei = 0x00 ∧ ie.length = 3 then do
        let ref ← index ie 0
        let total ← index ie 1
        let seq ← index ie 2
        .ok (.inl (some ⟨ref.toNat, seq.toNat, total.toNat⟩))
      else if iei = 0x08 ∧ ie.length = 4 then do
        let refHi ← index ie 0
        let refLo ← index ie 1
        let total ← index ie 2
        let seq ← index ie 3
        .ok (.inl (some ⟨refHi.toNat <<< 8 ||| refLo.toNat, seq.toNat, total.toNat⟩))
      else .ok (.inr next) : Except Fault (Option ConcatInfo ⊕ Nat)) =
      .ok ((concatOf iei ie).elim (.inr next) fun concat => .inl (some concat)) := by
  by_cases hshort : iei = 0x00 ∧ ie.length = 3
  · rw [if_pos hshort]
    obtain ⟨rfl, hlen⟩ := hshort
    obtain ⟨ref, total, seq, rfl⟩ := List.length_eq_three.mp hlen
    rfl
  · rw [if_neg hshort]
    by_cases hlong : iei = 0x08 ∧ ie.length = 4
    · rw [if_pos hlong]
      obtain ⟨rfl, hlen⟩ := hlong
      match ie, hlen with
      | [refHi, refLo, total, seq], _ => rfl
    · rw [if_neg hlong]
      unfold concatOf
      split
      · exact absurd ⟨rfl, rfl⟩ hshort
      · exact absurd ⟨rfl, rfl⟩ hlong
      · rfl

theorem concatStep_eq {udh : List UInt8} {i : Nat} (h : i + 2 ≤ udh.length) :
    concatStep udh i =
      if udh.length < i + 2 + (udh[i + 1]).toNat then .ok (.inl none)
      else .ok ((concatOf udh[i] ((udh.drop (i + 2)).take (udh[i + 1]).toNat)).elim
        (.inr (i + 2 + (udh[i + 1]).toNat)) fun concat => .inl (some concat)) := by
  rw [concatStep, if_pos h, index_of_lt (by omega), ok_bind, index_of_lt (by omega), ok_bind]
  split
  · rfl
  · rename_i hroom
    rw [slice_of_le (Nat.le_add_right _ _) (Nat.not_lt.mp hroom), ok_bind, List.drop_take,
      Nat.add_sub_cancel_left]
    exact concatOf_accesses _ _ _

/-- A step that goes on is at an element further on, still inside the header. -/
theorem concatStep_advances {udh : List UInt8} {i i' : Nat} (h : concatStep udh i = .ok (.inr i')) :
    i < i' ∧ i' ≤ udh.length := by
  by_cases hroom : i + 2 ≤ udh.length
  · rw [concatStep_eq hroom] at h
    split at h
    · exact absurd h nofun
    · rename_i hfits
      cases hconcat : concatOf udh[i] ((udh.drop (i + 2)).take (udh[i + 1]).toNat) with
      | some concat => rw [hconcat] at h; exact absurd h nofun
      | none =>
        rw [hconcat] at h
        have hi' : i + 2 + (udh[i + 1]).toNat = i' := Sum.inr.inj (Except.ok.inj h)
        omega
  · rw [concatStep, if_neg hroom] at h
    exact absurd h nofun

theorem concatLoop_eq (udh : List UInt8) (steps i : Nat) (hsteps : udh.length < steps + i)
    (hi : i ≤ udh.length) :
    concatLoop udh steps i = .ok (parseConcatFromUDH (udh.drop i)) := by
  induction steps generalizing i with
  | zero => omega
  | succ steps ih =>
    rw [concatLoop]
    by_cases hroom : i + 2 ≤ udh.length
    · have hiei : i < udh.length := Nat.lt_of_succ_lt hroom
      rw [concatStep_eq hroom, List.drop_eq_getElem_cons hiei, List.drop_eq_getElem_cons hroom,
        parseConcatFromUDH_cons, List.length_drop]
      by_cases hfits : udh.length < i + 2 + (udh[i + 1]).toNat
      · rw [if_pos hfits, if_pos (by omega)]
        rfl
      · rw [if_neg hfits, if_neg (by omega), ok_bind, List.drop_drop]
        cases concatOf udh[i] ((udh.drop (i + 2)).take (udh[i + 1]).toNat) with
        | some concat => rfl
        | none => exact ih _ (by omega) (by omega)
    · rw [concatStep, if_neg hroom, ok_bind]
      have hshort : (udh.drop i).length < 2 := by
        rw [List.length_drop]
        omega
      rcases hrest : udh.drop i with _ | ⟨iei, _ | ⟨length, rest⟩⟩
      · rw [parseConcatFromUDH]
        rintro _ _ _ ⟨⟩
      · rw [parseConcatFromUDH]
        rintro _ _ _ ⟨⟩
      · rw [hrest, List.length_cons, List.length_cons] at hshort
        omega

theorem septetsBehind_eq (hasUDH : Bool) (septets : List UInt8) (udhSeptets : Nat) :
    septetsBehind hasUDH septets udhSeptets =
      .ok (if hasUDH then (if udhSeptets ≤ septets.length then septets.drop udhSeptets else [])
        else septets) := by
  unfold septetsBehind
  split
  · split
    · rename_i hle
      rw [slice_of_le hle le_rfl, List.take_length]
    · rfl
  · rfl

/-- The text, where the header is inside the user data. -/
theorem decodeUserData_header {dcs : UInt8} {udl : Nat} {hasUDH : Bool} {ud : List UInt8} {udhLenOctets : Nat}
    {concat : Option ConcatInfo} (hheader : userDataHeader hasUDH ud = .ok (udhLenOctets, concat))
    (hle : udhLenOctets ≤ ud.length) :
    decodeUserData dcs udl hasUDH ud =
      .ok (if isGSM7DCS dcs then
          (Sms.decodeGSM7 (if hasUDH then
            (if (udhLenOctets * 8 + 6) / 7 ≤ (Sms.unpackSeptets ud udl 0).length then
              (Sms.unpackSeptets ud udl 0).drop ((udhLenOctets * 8 + 6) / 7) else [])
            else Sms.unpackSeptets ud udl 0), concat)
        else (Sms.decodeUCS2 (if hasUDH then ud.drop udhLenOctets else ud), concat)) := by
  have hoctets : octetsBehind hasUDH ud udhLenOctets = .ok (if hasUDH then ud.drop udhLenOctets else ud) := by
    unfold octetsBehind
    split
    · rw [slice_of_le hle le_rfl, List.take_length]
    · rfl
  unfold decodeUserData
  dsimp only
  rw [hheader, ok_bind]
  dsimp only
  split
  · rw [unpackSeptets_eq, ok_bind, septetsBehind_eq, ok_bind, decodeGSM7_eq]
    rfl
  · rw [hoctets, ok_bind, decodeUCS2_eq]
    rfl

theorem decodeUserData_eq (dcs : UInt8) (udl : Nat) (hasUDH : Bool) (ud : List UInt8) :
    decodeUserData dcs udl hasUDH ud = lift (Sms.decodeUserData dcs udl hasUDH ud) := by
  cases hasUDH with
  | false =>
    rw [decodeUserData_header rfl (Nat.zero_le _)]
    unfold Sms.decodeUserData
    cases isGSM7DCS dcs <;> rfl
  | true =>
    match ud with
    | [] => rfl
    | udhl :: rest =>
      by_cases hlong : (udhl :: rest).length < udhl.toNat + 1
      · have hheader : userDataHeader true (udhl :: rest) =
            .error (.error s!"sms: UDH length {udhl.toNat + 1} exceeds user data {(udhl :: rest).length}") :=
          if_pos hlong
        unfold decodeUserData Sms.decodeUserData
        dsimp only
        rw [hheader, if_pos rfl, if_pos hlong]
        rfl
      · have hle := Nat.not_lt.mp hlong
        have hheader : userDataHeader true (udhl :: rest) =
            .ok (udhl.toNat + 1, parseConcatFromUDH (rest.take udhl.toNat)) := by
          refine (if_neg hlong).trans ?_
          rw [slice_of_le (Nat.le_add_left 1 _) hle, ok_bind, concatLoop_eq _ _ _ (by omega) (Nat.zero_le _)]
          rfl
        rw [decodeUserData_header hheader hle]
        unfold Sms.decodeUserData
        dsimp only
        rw [if_pos rfl, if_neg hlong]
        cases isGSM7DCS dcs <;> rfl

theorem parseAddress_eq (r : PduReader) : parseAddress r = lift (Sms.parseAddress r) := by
  unfold parseAddress Sms.parseAddress
  refine bind_lift (u8_eq r) fun ⟨addrLen, r⟩ => bind_lift (u8_eq r) fun ⟨toa, r⟩ => ?_
  dsimp only
  split
  · rfl
  · refine bind_lift (bytes_eq r _) fun ⟨octets, r⟩ => ?_
    dsimp only
    split
    · rw [unpackSeptets_eq, ok_bind, decodeGSM7_eq]
      rfl
    · rfl

theorem parseSCTS_eq (b : List UInt8) : parseSCTS b = .ok (Sms.parseSCTS b) := by
  match b with
  | [] | [_] | [_, _] | [_, _, _] | [_, _, _, _] | [_, _, _, _, _] | [_, _, _, _, _, _] => rfl
  | _ :: _ :: _ :: _ :: _ :: _ :: _ :: _ =>
    rw [parseSCTS, if_neg (by simp)]
    rfl

theorem pduMTI_eq (hexPDU : List UInt8) : pduMTI hexPDU = .ok (Sms.pduMTI hexPDU) := by
  have hfo : (do
      let data ← hexToBytes hexPDU
      let (smscLen, r) ← u8 (.ofData data)
      let (_, r) ← bytes r smscLen.toNat
      let (fo, _) ← u8 r
      .ok fo : Except Fault UInt8) =
      lift (do
        let data ← Sms.hexToBytes hexPDU
        let (smscLen, r) ← (PduReader.ofData data).u8
        let (_, r) ← r.bytes smscLen.toNat
        let (fo, _) ← r.u8
        .ok fo) := by
    refine bind_lift (hexToBytes_eq hexPDU) fun data => bind_lift (u8_eq _) fun ⟨smscLen, r⟩ => ?_
    exact bind_lift (bytes_eq r _) fun ⟨_, r⟩ => bind_lift (u8_eq r) fun ⟨fo, r⟩ => rfl
  unfold pduMTI Sms.pduMTI
  dsimp only
  rw [hfo]
  generalize (Sms.hexToBytes hexPDU >>= _ : Except String UInt8) = fo
  cases fo <;> rfl

theorem parseDeliverPDU_eq (hexPDU : List UInt8) :
    parseDeliverPDU hexPDU = lift (Sms.parseDeliverPDU hexPDU) := by
  unfold parseDeliverPDU Sms.parseDeliverPDU
  refine bind_lift (hexToBytes_eq hexPDU) fun data => bind_lift (u8_eq _) fun ⟨smscLen, r⟩ =>
    bind_lift (bytes_eq r _) fun ⟨_, r⟩ => bind_lift (u8_eq r) fun ⟨fo, r⟩ => ?_
  dsimp only
  split
  · rfl
  · refine bind_lift (parseAddress_eq r) fun ⟨sender, r⟩ => bind_lift (u8_eq r) fun ⟨_, r⟩ =>
      bind_lift (u8_eq r) fun ⟨dcs, r⟩ => bind_lift (bytes_eq r 7) fun ⟨scts, r⟩ => ?_
    rw [parseSCTS_eq, ok_bind]
    refine bind_lift (u8_eq r) fun ⟨udl, r⟩ => ?_
    rw [slice_of_le r.pos_le le_rfl, ok_bind, List.take_length]
    exact bind_lift (decodeUserData_eq _ _ _ _) fun ⟨body, concat⟩ => rfl

theorem parseStatusReportPDU_eq (hexPDU : List UInt8) :
    parseStatusReportPDU hexPDU = lift (Sms.parseStatusReportPDU hexPDU) := by
  unfold parseStatusReportPDU Sms.parseStatusReportPDU
  refine bind_lift (hexToBytes_eq hexPDU) fun data => bind_lift (u8_eq _) fun ⟨smscLen, r⟩ =>
    bind_lift (bytes_eq r _) fun ⟨_, r⟩ => bind_lift (u8_eq r) fun ⟨fo, r⟩ => ?_
  dsimp only
  split
  · rfl
  · exact bind_lift (u8_eq r) fun ⟨mr, r⟩ => bind_lift (parseAddress_eq r) fun ⟨_, r⟩ =>
      bind_lift (bytes_eq r 7) fun ⟨_, r⟩ => bind_lift (bytes_eq r 7) fun ⟨_, r⟩ =>
        bind_lift (u8_eq r) fun ⟨st, _⟩ => rfl

end Indexed

/-- **In bounds, and total**: whatever the text, no parser reads past the end of a slice, and each step of
the loop over a user-data header goes on further on in it. -/
theorem pdu_in_bounds (hexPDU : List UInt8) :
    InBounds (Indexed.pduMTI hexPDU) ∧
      InBounds (Indexed.parseDeliverPDU hexPDU) ∧
      InBounds (Indexed.parseStatusReportPDU hexPDU) ∧
      ∀ udh i i', Indexed.concatStep udh i = .ok (.inr i') → i < i' ∧ i' ≤ udh.length := by
  refine ⟨?_, ?_, ?_, fun udh i i' => Indexed.concatStep_advances⟩
  · rw [Indexed.pduMTI_eq]
    exact ⟨nofun, nofun⟩
  · rw [Indexed.parseDeliverPDU_eq]
    exact inBounds_lift _
  · rw [Indexed.parseStatusReportPDU_eq]
    exact inBounds_lift _

end Svarla.Sms
