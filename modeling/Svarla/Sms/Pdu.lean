import Svarla.Sms.Gsm7
import Svarla.Sms.Encoding

/-!
# Building SMS-SUBMIT PDUs

`modem-gateway/internal/sms/pdu.go`: `encodeMessage` chooses the alphabet, splits a body that does
not fit one part, and builds one PDU per part. A PDU is text for the modem, hex digits of one byte
each, so it is a list of bytes here. `fmt.Sprintf("%02X", n)` prints an `int` in full, whatever its
size; a number above 255 therefore takes more than two digits (`fmt02X`).

The splitters are specified here, next to their loops: `splitGSM7_spec` and `splitUCS2_spec` say
that the chunks are whole characters, that they spell the body, and how long they get.
-/

namespace Svarla.Sms

open Svarla.Lib

/-- The bytes of an ASCII text. -/
def ascii (s : String) : List UInt8 :=
  s.toList.map fun c => UInt8.ofNat c.toNat

/-! ## Constants -/

/-- `dcsGSM7`: the GSM 7-bit default alphabet. -/
def dcsGSM7 : UInt8 := 0x00

/-- `dcsUCS2`: UCS-2. -/
def dcsUCS2 : UInt8 := 0x08

/-- `maxGSM7Septets`: the septets of a single part. -/
def maxGSM7Septets : Nat := 160

/-- `maxUCS2CodeUnits`: the UTF-16 units of a single part. -/
def maxUCS2CodeUnits : Nat := 70

/-- `maxGSM7SeptetsConcat`: the septets of a concatenated part, next to its header. -/
def maxGSM7SeptetsConcat : Nat := 153

/-- `maxUCS2UnitsConcat`: the UTF-16 units of a concatenated part, next to its header. -/
def maxUCS2UnitsConcat : Nat := 67

/-- `concatUDHLen`: the octets of a concatenation header. -/
def concatUDHLen : Nat := 6

/-! ## The PDU text -/

/-- An upper-case hexadecimal digit. -/
def hexDigit (d : Nat) : UInt8 :=
  UInt8.ofNat (if d < 10 then 48 + d else 55 + d)

/-- `fmt.Sprintf("%02X", n)`. -/
def fmt02X (n : Nat) : List UInt8 :=
  if n < 256 then [hexDigit (n / 16), hexDigit (n % 16)]
  else (Nat.toDigits 16 n).map fun c => UInt8.ofNat c.toUpper.toNat

/-- `strings.ToUpper` on ASCII text. -/
def toUpper (text : List UInt8) : List UInt8 :=
  text.map fun b => if 97 ≤ b.toNat ∧ b.toNat ≤ 122 then b - 32 else b

/-- `encodedPart`: a PDU for AT+CMGS, with the length argument of the command. -/
structure EncodedPart where
  /-- The hex digits of the PDU, the SMSC octet included. -/
  pdu : List UInt8
  /-- The octets of the PDU, the SMSC octet excluded. -/
  tpduLen : Nat
  deriving DecidableEq, Repr

/-- The digit pairs of a padded number, each swapped. -/
def swapPairs : List Char → List Char
  | a :: b :: rest => b :: a :: swapPairs rest
  | _ => []

/-- What `encodeAddress` returns: the type of address, the swapped digits and their count. -/
structure Address where
  toa : UInt8
  digits : List UInt8
  digitCount : Nat
  deriving DecidableEq, Repr

/-- The digits `encodeAddress` keeps of a number. -/
def cleanDigits (number : String) : List Char :=
  number.toList.filter fun r => '0' ≤ r ∧ r ≤ '9'

/-- `encodeAddress`: a destination number as a PDU address field, its length octet excluded. -/
def encodeAddress (number : String) : Address :=
  let international := number.toList.head? = some '+'
  let clean := cleanDigits number
  let padded := if clean.length % 2 ≠ 0 then clean ++ ['F'] else clean
  { toa := if international then 0x91 else 0x81
    digits := (swapPairs padded).map fun c => UInt8.ofNat c.toNat
    digitCount := clean.length }

/-- `smsSubmitParams`: what one SMS-SUBMIT PDU is built from. -/
structure SmsSubmitParams where
  /-- The destination number. -/
  toNumber : String
  /-- The data coding scheme. -/
  dcs : UInt8
  /-- The user data octets. -/
  ud : List UInt8
  /-- The user data length: septets for GSM-7, octets for UCS-2, the header included. -/
  udl : Nat
  /-- The user data begins with a header. -/
  hasUDH : Bool
  /-- A status report is requested. -/
  requestSR : Bool
  deriving DecidableEq, Repr

/-- `buildSubmitPDU`: the PDU of one part. -/
def buildSubmitPDU (p : SmsSubmitParams) : EncodedPart :=
  let fo : UInt8 := 0x01 ||| 0x10
  let fo := if p.hasUDH then fo ||| 0x40 else fo
  let fo := if p.requestSR then fo ||| 0x20 else fo
  let addr := encodeAddress p.toNumber
  let tpduHex :=
    fmt02X fo.toNat ++ ascii "00" ++ fmt02X addr.digitCount ++ fmt02X addr.toa.toNat ++
      toUpper addr.digits ++ ascii "00" ++ fmt02X p.dcs.toNat ++ ascii "AA" ++ fmt02X p.udl ++
      p.ud.flatMap fun o => fmt02X o.toNat
  { pdu := toUpper (ascii "00" ++ tpduHex)
    tpduLen := tpduHex.length / 2 }

/-- `concatUDH`: the header of a concatenated part; `byte(total)` and `byte(seq)` truncate. -/
def concatUDH (ref : UInt8) (total seq : Nat) : List UInt8 :=
  [0x05, 0x00, 0x03, ref, UInt8.ofNat total, UInt8.ofNat seq]

/-! ## Splitting -/

/-- The state of `splitGSM7`'s loop. -/
structure SplitState where
  chunks : List String
  cur : String
  curSeptets : Nat

/-- The septets a rune takes, as `splitGSM7` counts them. -/
def septetCost (r : Char) : Nat :=
  if (gsm7ExtensionLookup r).isSome then 2 else 1

/-- One iteration of `splitGSM7`. -/
def splitGSM7Step (maxSeptets : Nat) (st : SplitState) (r : Char) : SplitState :=
  let cost := septetCost r
  let st := if maxSeptets < st.curSeptets + cost then ⟨st.chunks ++ [st.cur], "", 0⟩ else st
  ⟨st.chunks, st.cur.push r, st.curSeptets + cost⟩

/-- `splitGSM7`: chunks of at most `maxSeptets` septets, cut between runes. -/
def splitGSM7 (text : String) (maxSeptets : Nat) : List String :=
  let st := text.toList.foldl (splitGSM7Step maxSeptets) ⟨[], "", 0⟩
  if st.cur ≠ "" then st.chunks ++ [st.cur] else st.chunks

/-- `isHighSurrogate`. -/
def isHighSurrogate (u : UInt16) : Bool :=
  0xD800 ≤ u.toNat && u.toNat ≤ 0xDBFF

/-- Where `splitUCS2` ends the chunk at the front of `rest`: after `maxUnits` units, one earlier
where that would separate a surrogate pair. -/
def chunkEnd (maxUnits : Nat) (rest : List UInt16) : Nat :=
  let e := min maxUnits rest.length
  if e < rest.length ∧ (rest[e - 1]?).any isHighSurrogate then e - 1 else e

/-- `splitUCS2`: chunks of at most `maxUnits` units, no surrogate pair separated. The callers pass
`maxUnits = 67`. Below 2 the source's loop need not advance, and the model stops there instead. -/
def splitUCS2 (maxUnits : Nat) (units : List UInt16) : List (List UInt16) :=
  if _h : units ≠ [] ∧ 0 < chunkEnd maxUnits units then
    units.take (chunkEnd maxUnits units) ::
      splitUCS2 maxUnits (units.drop (chunkEnd maxUnits units))
  else []
termination_by units.length
decreasing_by
  have := List.length_pos_iff.mpr _h.1
  simp only [List.length_drop]
  omega

/-! ## What the splitters guarantee -/

/-- `chunk` encodes to at most `maxSeptets` septets. -/
def FitsGSM7 (maxSeptets : Nat) (chunk : String) : Prop :=
  ∃ septets, gsm7Septets chunk = some septets ∧ septets.length ≤ maxSeptets

/-- What `splitGSM7`'s loop keeps, having read the runes `done`. -/
structure SplitInv (maxSeptets : Nat) (done : List Char) (st : SplitState) : Prop where
  /-- The chunks and the current one spell what was read. -/
  spells : st.chunks.flatMap String.toList ++ st.cur.toList = done
  /-- The finished chunks fit. -/
  chunks_fit : ∀ chunk ∈ st.chunks, FitsGSM7 maxSeptets chunk
  /-- The count is an upper bound on the current chunk's septets. -/
  cur_fits : FitsGSM7 st.curSeptets st.cur
  /-- The count stays within the limit. -/
  count_le : st.curSeptets ≤ maxSeptets

/-- A rune of either table encodes within its cost. -/
theorem gsm7SeptetsLoop_singleton {r : Char}
    (hr : (gsm7DefaultReverse r).isSome || (gsm7ExtensionLookup r).isSome) :
    ∃ septets, gsm7SeptetsLoop [r] = some septets ∧ septets.length ≤ septetCost r := by
  unfold septetCost
  cases hd : gsm7DefaultReverse r with
  | some code =>
    refine ⟨[code], by simp [gsm7SeptetsLoop, hd], ?_⟩
    split <;> simp
  | none =>
    rw [hd, Option.isSome_none, Bool.false_or] at hr
    obtain ⟨code, he⟩ := Option.isSome_iff_exists.mp hr
    exact ⟨[gsm7Escape, code], by simp [gsm7SeptetsLoop, hd, he], by simp [he]⟩

/-- Writing a rune to a chunk adds at most its cost. -/
theorem FitsGSM7.push {n : Nat} {chunk : String} (h : FitsGSM7 n chunk) {r : Char}
    (hr : (gsm7DefaultReverse r).isSome || (gsm7ExtensionLookup r).isSome) :
    FitsGSM7 (n + septetCost r) (chunk.push r) := by
  obtain ⟨ss, hss, hlen⟩ := h
  obtain ⟨sr, hsr, hcost⟩ := gsm7SeptetsLoop_singleton hr
  refine ⟨ss ++ sr, ?_, by rw [List.length_append]; omega⟩
  rw [gsm7Septets, String.toList_push]
  exact gsm7SeptetsLoop_append hss hsr

/-- A rune costs at most two septets. -/
theorem septetCost_le (r : Char) : septetCost r ≤ 2 := by
  unfold septetCost
  split <;> omega

/-- The empty chunk fits. -/
theorem fitsGSM7_empty (n : Nat) : FitsGSM7 n "" :=
  ⟨[], by simp [gsm7Septets, gsm7SeptetsLoop], Nat.zero_le n⟩

/-- One iteration keeps the invariant. -/
theorem SplitInv.step {maxSeptets : Nat} (hmax : 2 ≤ maxSeptets) {done : List Char}
    {st : SplitState} (h : SplitInv maxSeptets done st) {r : Char}
    (hr : (gsm7DefaultReverse r).isSome || (gsm7ExtensionLookup r).isSome) :
    SplitInv maxSeptets (done ++ [r]) (splitGSM7Step maxSeptets st r) := by
  have hcost := septetCost_le r
  unfold splitGSM7Step
  dsimp only
  split
  · next hfull =>
    -- the current chunk is flushed and the rune starts the next one
    refine ⟨?_, ?_, ?_, ?_⟩
    · simp [← h.spells]
    · obtain ⟨ss, hss, hlen⟩ := h.cur_fits
      intro chunk hmem
      rcases List.mem_append.mp hmem with hmem | hmem
      · exact h.chunks_fit chunk hmem
      · rw [List.mem_singleton.mp hmem]
        exact ⟨ss, hss, hlen.trans h.count_le⟩
    · exact (fitsGSM7_empty 0).push hr
    · dsimp only
      omega
  · next hroom =>
    refine ⟨?_, h.chunks_fit, h.cur_fits.push hr, by dsimp only; omega⟩
    rw [← h.spells, String.toList_push, List.append_assoc]

/-- The loop keeps the invariant. -/
theorem SplitInv.foldl {maxSeptets : Nat} (hmax : 2 ≤ maxSeptets) {done text : List Char}
    {st : SplitState} (h : SplitInv maxSeptets done st)
    (htext : text.all fun r => (gsm7DefaultReverse r).isSome || (gsm7ExtensionLookup r).isSome) :
    SplitInv maxSeptets (done ++ text) (text.foldl (splitGSM7Step maxSeptets) st) := by
  induction text generalizing done st with
  | nil => simpa using h
  | cons r rest ih =>
    rw [List.all_cons, Bool.and_eq_true] at htext
    have hrest := ih (h.step hmax htext.1) htext.2
    rwa [List.append_assoc, List.singleton_append] at hrest

/-- **What `splitGSM7` returns.** Chunks of whole runes that spell the text and fit. -/
theorem splitGSM7_spec {text : String} {maxSeptets : Nat} (hmax : 2 ≤ maxSeptets)
    (htext : canEncodeGSM7 text) :
    String.join (splitGSM7 text maxSeptets) = text ∧
      ∀ chunk ∈ splitGSM7 text maxSeptets, FitsGSM7 maxSeptets chunk := by
  have hstart : SplitInv maxSeptets [] ⟨[], "", 0⟩ :=
    ⟨rfl, by simp, fitsGSM7_empty 0, Nat.zero_le _⟩
  have hinv := hstart.foldl hmax htext
  rw [List.nil_append] at hinv
  unfold splitGSM7
  dsimp only
  constructor
  · apply String.toList_inj.mp
    refine Eq.trans ?_ hinv.spells
    rw [String.toList_join]
    split
    · simp
    · next hempty => simp [Classical.not_not.mp hempty]
  · obtain ⟨ss, hss, hlen⟩ := hinv.cur_fits
    intro chunk hmem
    split at hmem
    · rcases List.mem_append.mp hmem with hmem | hmem
      · exact hinv.chunks_fit chunk hmem
      · rw [List.mem_singleton.mp hmem]
        exact ⟨ss, hss, hlen.trans hinv.count_le⟩
    · exact hinv.chunks_fit chunk hmem

/-- `isHighSurrogate` in the terms of the UTF-16 library. -/
theorem isHighSurrogate_iff (u : UInt16) : isHighSurrogate u = true ↔ Utf16.IsHigh u := by
  simp [isHighSurrogate, Utf16.IsHigh]

/-- The chunk at the front is nonempty and within the limit. -/
theorem chunkEnd_bounds {maxUnits : Nat} (hmax : 2 ≤ maxUnits) {rest : List UInt16}
    (hrest : rest ≠ []) : 0 < chunkEnd maxUnits rest ∧ chunkEnd maxUnits rest ≤ maxUnits := by
  have hpos := List.length_pos_iff.mpr hrest
  unfold chunkEnd
  dsimp only
  split <;> omega

/-- `splitUCS2` cuts between runes. -/
theorem chunkEnd_split (maxUnits : Nat) (runes : List Char) :
    ∃ front back, runes = front ++ back ∧
      (Utf16.encode runes).take (chunkEnd maxUnits (Utf16.encode runes)) = Utf16.encode front ∧
      (Utf16.encode runes).drop (chunkEnd maxUnits (Utf16.encode runes)) = Utf16.encode back := by
  unfold chunkEnd
  dsimp only
  split
  · next hhigh =>
    -- the unit the cut precedes is the high surrogate the source backs off from
    obtain ⟨hlt, hany⟩ := hhigh
    obtain ⟨u, hu, hu'⟩ := (Option.any_eq_true _ _).mp hany
    exact Utf16.encode_split (.inr ⟨u, hu, (isHighSurrogate_iff u).mp hu'⟩)
  · next hlow =>
    by_cases hend : min maxUnits (Utf16.encode runes).length < (Utf16.encode runes).length
    · refine Utf16.encode_split (.inl fun u _ hu hhigh => hlow ⟨hend, ?_⟩)
      rw [hu]
      exact (isHighSurrogate_iff u).mpr hhigh
    · rw [show min maxUnits (Utf16.encode runes).length = (Utf16.encode runes).length by omega]
      exact ⟨runes, [], by simp, by simp, by simp⟩

/-- **What `splitUCS2` returns.** The encodings of runs of whole runes that spell the text and
fit. -/
theorem splitUCS2_spec {maxUnits : Nat} (hmax : 2 ≤ maxUnits) (runes : List Char) :
    ∃ runs : List (List Char), splitUCS2 maxUnits (Utf16.encode runes) = runs.map Utf16.encode ∧
      runs.flatten = runes ∧ ∀ run ∈ runs, (Utf16.encode run).length ≤ maxUnits := by
  -- the units left shrink, and stay the encoding of the runes left
  induction hn : (Utf16.encode runes).length using Nat.strong_induction_on generalizing runes with
  | _ n ih =>
    rw [splitUCS2]
    split
    · next hmore =>
      obtain ⟨front, back, hruns, htake, hdrop⟩ :=
        chunkEnd_split maxUnits runes
      obtain ⟨hpos, hle⟩ := chunkEnd_bounds hmax hmore.1
      have hlt : (Utf16.encode back).length < n := by
        have := List.length_pos_iff.mpr hmore.1
        rw [← hdrop, List.length_drop]
        omega
      obtain ⟨runs, hsplit, hflat, hfit⟩ := ih _ hlt back rfl
      refine ⟨front :: runs, ?_, ?_, ?_⟩
      · rw [htake, hdrop, hsplit, List.map_cons]
      · rw [List.flatten_cons, hflat, hruns]
      · intro run hmem
        rcases List.mem_cons.mp hmem with rfl | hmem
        · rw [← htake, List.length_take]
          omega
        · exact hfit run hmem
    · next hdone =>
      -- the loop stops only at the end of the units
      have hnil : Utf16.encode runes = [] := by
        by_contra hne
        exact hdone ⟨hne, (chunkEnd_bounds hmax hne).1⟩
      have hrunes : runes = [] := by rw [← Utf16.decode_encode runes, hnil]; rfl
      exact ⟨[], rfl, by simp [hrunes], by simp⟩

/-! ## Messages -/

/-- The parameters of a GSM-7 part that is the whole message. -/
def gsm7Single (toNumber : String) (septets : List UInt8) (requestSR : Bool) : SmsSubmitParams :=
  { toNumber, dcs := dcsGSM7, ud := packSeptets septets 0, udl := septets.length, hasUDH := false,
    requestSR }

/-- The parameters of GSM-7 part `seq` of `total`, one iteration of `encodeGSM7Message`. A chunk
that fails to encode has no septets, as `chunkSeptets, _ := gsm7Septets(chunk)` leaves it. -/
def gsm7Part (toNumber : String) (ref : UInt8) (requestSR : Bool) (total seq : Nat) (chunk : String) :
    SmsSubmitParams :=
  let fillBits := 1
  let chunkSeptets := (gsm7Septets chunk).getD []
  let udhSeptets := (concatUDHLen * 8 + fillBits) / 7
  { toNumber, dcs := dcsGSM7, ud := concatUDH ref total seq ++ packSeptets chunkSeptets fillBits,
    udl := udhSeptets + chunkSeptets.length, hasUDH := true, requestSR }

/-- `encodeGSM7Message`: one or more GSM-7 parts. -/
def encodeGSM7Message (toNumber body : String) (ref : UInt8) (requestSR : Bool) :
    Except String (List EncodedPart) :=
  match gsm7Septets body with
  | none => .error "sms: body not GSM-7 encodable"
  | some septets =>
    if septets.length ≤ maxGSM7Septets then
      .ok [buildSubmitPDU (gsm7Single toNumber septets requestSR)]
    else
      let chunks := splitGSM7 body maxGSM7SeptetsConcat
      .ok (chunks.mapIdx fun i chunk =>
        buildSubmitPDU (gsm7Part toNumber ref requestSR chunks.length (i + 1) chunk))

/-- The parameters of a UCS-2 part that is the whole message. -/
def ucs2Single (toNumber : String) (units : List UInt16) (requestSR : Bool) : SmsSubmitParams :=
  { toNumber, dcs := dcsUCS2, ud := ucs2Bytes units, udl := (ucs2Bytes units).length, hasUDH := false,
    requestSR }

/-- The parameters of UCS-2 part `seq` of `total`, one iteration of `encodeUCS2Message`. -/
def ucs2Part (toNumber : String) (ref : UInt8) (requestSR : Bool) (total seq : Nat)
    (chunkUnits : List UInt16) : SmsSubmitParams :=
  let msgBytes := ucs2Bytes chunkUnits
  { toNumber, dcs := dcsUCS2, ud := concatUDH ref total seq ++ msgBytes,
    udl := concatUDHLen + msgBytes.length, hasUDH := true, requestSR }

/-- `encodeUCS2Message`: one or more UCS-2 parts. -/
def encodeUCS2Message (toNumber body : String) (ref : UInt8) (requestSR : Bool) :
    Except String (List EncodedPart) :=
  let units := utf16Units body
  if units.length ≤ maxUCS2CodeUnits then
    .ok [buildSubmitPDU (ucs2Single toNumber units requestSR)]
  else
    let chunks := splitUCS2 maxUCS2UnitsConcat units
    .ok (chunks.mapIdx fun i chunkUnits =>
      buildSubmitPDU (ucs2Part toNumber ref requestSR chunks.length (i + 1) chunkUnits))

/-- `encodeMessage`: the PDUs of a body, GSM-7 where it can be. -/
def encodeMessage (toNumber body : String) (ref : UInt8) (requestSR : Bool) :
    Except String (List EncodedPart) :=
  if canEncodeGSM7 body then encodeGSM7Message toNumber body ref requestSR
  else encodeUCS2Message toNumber body ref requestSR

end Svarla.Sms
