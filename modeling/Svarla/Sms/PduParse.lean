import Mathlib
import Svarla.Sms.Pdu

/-!
# Parsing SMS-DELIVER PDUs

`modem-gateway/internal/sms/pdu_parse.go`: a cursor over the decoded octets (`PduReader`), the
address and user-data fields, and `parseDeliverPDU` over them. `decodeUserData` is the inverse of
what the SUBMIT builder puts into a part, which `Svarla.Sms.RoundTrip` proves.

A service-centre timestamp is kept as the instant `UnixNano` gives for it; `time.Date` normalises
fields beyond their range, so the calendar part is a day count (`daysFromCivil`).
-/

namespace Svarla.Sms

open Svarla.Lib

/-- `ConcatInfo`: the concatenation header of one part. -/
structure ConcatInfo where
  /-- The reference number shared by all parts. -/
  refNum : Nat
  /-- The 1-based sequence number of this part. -/
  seqNum : Nat
  /-- The number of parts. -/
  totalParts : Nat
  deriving DecidableEq, Repr

/-- `parsedMessage`: an inbound SMS-DELIVER. -/
structure ParsedMessage where
  sender : String
  body : String
  /-- The service-centre timestamp in nanoseconds since the Unix epoch. -/
  timestamp : Int
  /-- The concatenation header, if there is one. -/
  concat : Option ConcatInfo
  deriving DecidableEq, Repr

/-! ## The cursor -/

/-- `pduReader`: a cursor over the octets of a PDU, never past their end. -/
structure PduReader where
  data : List UInt8
  pos : Nat
  pos_le : pos ≤ data.length
  deriving DecidableEq, Repr

/-- A cursor at the front. -/
def PduReader.ofData (data : List UInt8) : PduReader := ⟨data, 0, Nat.zero_le _⟩

/-- `remaining`. -/
def PduReader.remaining (r : PduReader) : Nat := r.data.length - r.pos

/-- `u8`: the next octet. -/
def PduReader.u8 (r : PduReader) : Except String (UInt8 × PduReader) :=
  if h : r.pos < r.data.length then .ok (r.data[r.pos], ⟨r.data, r.pos + 1, h⟩)
  else .error s!"sms: PDU truncated at offset {r.pos}"

/-- `bytes`: the next `n` octets. -/
def PduReader.bytes (r : PduReader) (n : Nat) : Except String (List UInt8 × PduReader) :=
  if h : r.pos + n ≤ r.data.length then
    .ok ((r.data.drop r.pos).take n, ⟨r.data, r.pos + n, h⟩)
  else
    .error s!"sms: PDU wants {n} bytes at offset {r.pos}, only {r.remaining} left"

/-- What the cursor has still to read. -/
def PduReader.rest (r : PduReader) : List UInt8 := r.data.drop r.pos

@[simp] theorem PduReader.rest_ofData (data : List UInt8) : (PduReader.ofData data).rest = data :=
  rfl

theorem PduReader.length_rest (r : PduReader) : r.rest.length = r.data.length - r.pos :=
  List.length_drop

/-- `bytes` takes as many octets off the front of what is left. -/
theorem PduReader.bytes_rest {r : PduReader} (front : List UInt8) {back : List UInt8}
    (h : r.rest = front ++ back) : ∃ r', r.bytes front.length = .ok (front, r') ∧ r'.rest = back := by
  have hroom : r.pos + front.length ≤ r.data.length := by
    have hpos := r.pos_le
    have hlen := r.length_rest
    rw [h, List.length_append] at hlen
    omega
  unfold PduReader.rest at h
  refine ⟨⟨r.data, r.pos + front.length, hroom⟩, ?_, ?_⟩
  · rw [PduReader.bytes, dif_pos hroom, h, List.take_left]
  · rw [PduReader.rest, ← List.drop_drop, h, List.drop_left]

/-- `u8` takes the front of what is left. -/
theorem PduReader.u8_rest {r : PduReader} {b : UInt8} {back : List UInt8}
    (h : r.rest = b :: back) : ∃ r', r.u8 = .ok (b, r') ∧ r'.rest = back := by
  have hroom : r.pos < r.data.length := by
    have hlen := r.length_rest
    rw [h, List.length_cons] at hlen
    omega
  unfold PduReader.rest at h
  rw [List.drop_eq_getElem_cons hroom] at h
  obtain ⟨hb, hback⟩ := List.cons.inj h
  exact ⟨⟨r.data, r.pos + 1, hroom⟩, by rw [PduReader.u8, dif_pos hroom, hb], hback⟩

/-- `hexNibble`. -/
def hexNibble (c : UInt8) : Option UInt8 :=
  if 48 ≤ c.toNat ∧ c.toNat ≤ 57 then some (c - 48)
  else if 65 ≤ c.toNat ∧ c.toNat ≤ 70 then some (c - 65 + 10)
  else if 97 ≤ c.toNat ∧ c.toNat ≤ 102 then some (c - 97 + 10)
  else none

/-- The pairing loop of `hexToBytes`, on text of even length. The source's error quotes the pair. -/
def hexPairs : List UInt8 → Except String (List UInt8)
  | hi :: lo :: rest =>
    match hexNibble hi, hexNibble lo with
    | some h, some l => (hexPairs rest).map ((h <<< 4 ||| l) :: ·)
    | _, _ => .error "sms: invalid hex byte"
  | _ => .ok []

/-- `hexToBytes`: hex text as octets, whitespace ignored. -/
def hexToBytes (s : List UInt8) : Except String (List UInt8) :=
  let clean := s.filter fun c => ¬ (c = 32 ∨ c = 9 ∨ c = 13 ∨ c = 10)
  if clean.length % 2 ≠ 0 then .error s!"sms: odd-length hex PDU ({clean.length})"
  else hexPairs clean

/-! ## Fields -/

/-- `isGSM7DCS`: neither UCS-2 nor 8-bit data. -/
def isGSM7DCS (dcs : UInt8) : Bool :=
  !(dcs &&& 0x0C == 0x08) && !(dcs &&& 0x0C == 0x04)

/-- `parseConcatFromUDH`: the first concatenation element of a header, with an 8-bit or a 16-bit
reference. -/
def parseConcatFromUDH : List UInt8 → Option ConcatInfo
  | iei :: iedl :: rest =>
    if rest.length < iedl.toNat then none
    else
      match iei, rest.take iedl.toNat with
      | 0x00, [ref, total, seq] => some ⟨ref.toNat, seq.toNat, total.toNat⟩
      | 0x08, [refHi, refLo, total, seq] =>
        some ⟨refHi.toNat <<< 8 ||| refLo.toNat, seq.toNat, total.toNat⟩
      | _, _ => parseConcatFromUDH (rest.drop iedl.toNat)
  | _ => none
termination_by udh => udh.length

/-- `decodeUserData`: the text of a user-data field and the concatenation header found in it. -/
def decodeUserData (dcs : UInt8) (udl : Nat) (hasUDH : Bool) (ud : List UInt8) :
    Except String (String × Option ConcatInfo) := do
  let gsm7 := isGSM7DCS dcs
  let (udhLenOctets, concat) ←
    if hasUDH then
      match ud with
      | [] => .error "sms: UDHI set but user data empty"
      | udhl :: rest =>
        if ud.length < udhl.toNat + 1 then
          .error s!"sms: UDH length {udhl.toNat + 1} exceeds user data {ud.length}"
        else
          .ok (udhl.toNat + 1, parseConcatFromUDH (rest.take udhl.toNat))
    else .ok (0, none)
  if gsm7 then
    let septets := unpackSeptets ud udl 0
    let udhSeptets := (udhLenOctets * 8 + 6) / 7
    let septets :=
      if hasUDH then (if udhSeptets ≤ septets.length then septets.drop udhSeptets else [])
      else septets
    .ok (decodeGSM7 septets, concat)
  else
    let msgBytes := if hasUDH then ud.drop udhLenOctets else ud
    .ok (decodeUCS2 msgBytes, concat)

/-- `'0' + d`, a byte written as a character. -/
def digitChar (d : UInt8) : Char :=
  Char.ofNat (48 + d).toNat

/-- The digits of a numeric address, an 0xF filler left out. -/
def addressDigits (octets : List UInt8) : List Char :=
  octets.flatMap fun o =>
    digitChar (o &&& 0x0F) :: if o >>> 4 ≠ 0x0F then [digitChar (o >>> 4)] else []

/-- `parseAddress`: an address field, numeric or alphanumeric. -/
def parseAddress (r : PduReader) : Except String (String × PduReader) := do
  let (addrLen, r) ← r.u8
  let (toa, r) ← r.u8
  if addrLen = 0 then
    .ok ("", r)
  else
    let (octets, r) ← r.bytes ((addrLen.toNat + 1) / 2)
    if toa &&& 0x70 = 0x50 then
      .ok (decodeGSM7 (unpackSeptets octets (addrLen.toNat * 4 / 7) 0), r)
    else
      let num := addressDigits octets
      .ok (String.ofList (if toa &&& 0x70 = 0x10 then '+' :: num else num), r)

/-- Days from the Unix epoch to a civil date of the proleptic Gregorian calendar; a month or a day
beyond its range carries over, as `time.Date` normalises it. -/
def daysFromCivil (year month day : Int) : Int :=
  let y := if month ≤ 2 then year - 1 else year
  let era := y / 400
  let yoe := y - era * 400
  let doy := (153 * (if 2 < month then month - 3 else month + 9) + 2) / 5 + day - 1
  era * 146097 + yoe * 365 + yoe / 4 - yoe / 100 + doy - 719468

/-- `time.Time{}.UnixNano()`: what a timestamp that is no date reads as. -/
def zeroTimeUnixNano : Int := -6795364578871345152

/-- A swapped semi-octet, `dec` in `parseSCTS`. -/
def sctsDec (o : UInt8) : Int :=
  (o &&& 0x0F).toNat * 10 + (o >>> 4).toNat

/-- `parseSCTS`: a service-centre timestamp as `UnixNano`. -/
def parseSCTS : List UInt8 → Int
  | year :: month :: day :: hour :: minute :: second :: tzByte :: _ =>
    let quarters := sctsDec (tzByte &&& 0xF7)
    let offsetSeconds := quarters * 15 * 60
    let offsetSeconds := if tzByte &&& 0x08 ≠ 0 then -offsetSeconds else offsetSeconds
    if sctsDec month < 1 ∨ 12 < sctsDec month ∨ sctsDec day < 1 ∨ 31 < sctsDec day then
      zeroTimeUnixNano
    else
      let days := daysFromCivil (sctsDec year + 2000) (sctsDec month) (sctsDec day)
      (days * 86400 + sctsDec hour * 3600 + sctsDec minute * 60 + sctsDec second -
        offsetSeconds) * 1000000000
  | _ => zeroTimeUnixNano

/-- `parseDeliverPDU`: a received text message. -/
def parseDeliverPDU (hexPDU : List UInt8) : Except String ParsedMessage := do
  let data ← hexToBytes hexPDU
  let r := PduReader.ofData data
  let (smscLen, r) ← r.u8
  let (_, r) ← r.bytes smscLen.toNat
  let (fo, r) ← r.u8
  if fo &&& 0x03 ≠ 0x00 then
    .error s!"sms: not an SMS-DELIVER PDU (MTI={(fo &&& 0x03).toNat})"
  else
    let hasUDH : Bool := fo &&& 0x40 ≠ 0
    let (sender, r) ← parseAddress r
    let (_, r) ← r.u8
    let (dcs, r) ← r.u8
    let (scts, r) ← r.bytes 7
    let timestamp := parseSCTS scts
    let (udl, r) ← r.u8
    let ud := r.rest
    let (body, concat) ← decodeUserData dcs udl.toNat hasUDH ud
    .ok { sender, body, timestamp, concat }

end Svarla.Sms
