import Svarla.Sms.Pdu
import Svarla.Sms.PduParse

/-!
# The round trip of an outgoing message

`encodeMessage` and `decodeUserData` were written apart, the one for what the gateway sends and the
other for what it receives. `submitUserData` reads the fields of an SMS-SUBMIT PDU where 3GPP TS
23.040 puts them, and stands between the two: `encodeMessage_roundTrip` says that every part's user
data decodes to its own whole characters, with the header of its place in the message.

The proof goes field by field. `hexToBytes_hexText` takes a PDU back to octets,
`submitUserData_build` reads the built fields off them, and one lemma per alphabet and header
(`decodeUserData_gsm7Single` and its three siblings) decodes what the parts carry.
-/

namespace Svarla.Sms

open Svarla.Lib

/-! ## Reading a SUBMIT PDU -/

/-- The user data of a PDU, with the fields that say how to read it. -/
structure SubmitUserData where
  /-- TP-DCS. -/
  dcs : UInt8
  /-- TP-UDL. -/
  udl : Nat
  /-- TP-UDHI. -/
  hasUDH : Bool
  /-- TP-UD. -/
  ud : List UInt8
  deriving DecidableEq, Repr

/-- The layout of an SMS-SUBMIT: SMSC, first octet, TP-MR, TP-DA, TP-PID, TP-DCS, a validity period
of one octet if the first octet announces a relative one, TP-UDL, TP-UD. -/
def submitUserData (pdu : List UInt8) : Except String SubmitUserData := do
  let data ← hexToBytes pdu
  let r := PduReader.ofData data
  let (smscLen, r) ← r.u8
  let (_, r) ← r.bytes smscLen.toNat
  let (fo, r) ← r.u8
  let (_, r) ← r.u8
  let (addrLen, r) ← r.u8
  let (_, r) ← r.u8
  let (_, r) ← r.bytes ((addrLen.toNat + 1) / 2)
  let (_, r) ← r.u8
  let (dcs, r) ← r.u8
  let (_, r) ← r.bytes (if fo &&& 0x18 = 0x10 then 1 else 0)
  let (udl, r) ← r.u8
  .ok { dcs, udl := udl.toNat, hasUDH := fo &&& 0x40 ≠ 0, ud := r.rest }

/-- The septets of the text in a GSM-7 part, a concatenation header left out. -/
def SubmitUserData.septets (u : SubmitUserData) : List UInt8 :=
  (unpackSeptets u.ud u.udl 0).drop (if u.hasUDH then 7 else 0)

/-- The code units of the text in a UCS-2 part, a concatenation header left out. -/
def SubmitUserData.units (u : SubmitUserData) : List UInt16 :=
  ucs2Units (u.ud.drop (if u.hasUDH then concatUDHLen else 0))

/-- The part carries exactly the characters of `chunk`: neither an escape pair nor a surrogate pair
is cut at either end. -/
def SubmitUserData.Carries (u : SubmitUserData) (chunk : String) : Prop :=
  (u.dcs = dcsGSM7 ∧ gsm7Septets chunk = some u.septets) ∨
    (u.dcs = dcsUCS2 ∧ utf16Units chunk = u.units)

/-- Part `i` of `n` of a message with reference `ref` decodes to `chunk`. -/
def PartDecodes (ref : UInt8) (n i : Nat) (part : EncodedPart) (chunk : String) : Prop :=
  ∃ u, submitUserData part.pdu = .ok u ∧ u.Carries chunk ∧
    decodeUserData u.dcs u.udl u.hasUDH u.ud =
      .ok (chunk, if n = 1 then none else some ⟨ref.toNat, i, n⟩)

/-! ## Hex text -/

/-- Octets as the hex digits `buildSubmitPDU` prints. -/
def hexText (octets : List UInt8) : List UInt8 :=
  octets.flatMap fun o => fmt02X o.toNat

@[simp] theorem hexText_nil : hexText [] = [] := rfl

@[simp] theorem hexText_append (a b : List UInt8) : hexText (a ++ b) = hexText a ++ hexText b :=
  List.flatMap_append

/-- An octet is two digits. -/
theorem fmt02X_octet (o : UInt8) :
    fmt02X o.toNat = [hexDigit (o.toNat / 16), hexDigit (o.toNat % 16)] :=
  if_pos (UInt8.toNat_lt o)

theorem hexText_cons (o : UInt8) (rest : List UInt8) : hexText (o :: rest) =
    hexDigit (o.toNat / 16) :: hexDigit (o.toNat % 16) :: hexText rest := by
  simp [hexText, fmt02X_octet]

/-- A digit is read back, is no white space, and is in upper case. -/
theorem hexDigit_spec {d : Nat} (hd : d < 16) : hexNibble (hexDigit d) = some (UInt8.ofNat d) ∧
    ¬ (hexDigit d = 32 ∨ hexDigit d = 9 ∨ hexDigit d = 13 ∨ hexDigit d = 10) ∧
    ¬ (97 ≤ (hexDigit d).toNat ∧ (hexDigit d).toNat ≤ 122) := by
  have hall : ∀ d : Fin 16, hexNibble (hexDigit d) = some (UInt8.ofNat d) ∧
      ¬ (hexDigit d = 32 ∨ hexDigit d = 9 ∨ hexDigit d = 13 ∨ hexDigit d = 10) ∧
      ¬ (97 ≤ (hexDigit d).toNat ∧ (hexDigit d).toNat ≤ 122) := by decide
  exact hall ⟨d, hd⟩

/-- `hi<<4 | lo` puts an octet together. -/
theorem nibbles_octet (o : UInt8) :
    UInt8.ofNat (o.toNat / 16) <<< 4 ||| UInt8.ofNat (o.toNat % 16) = o := by
  have ho := UInt8.toNat_lt o
  apply UInt8.toNat_inj.mp
  rw [UInt8.toNat_or, UInt8.toNat_shiftLeft, UInt8.toNat_ofNat', UInt8.toNat_ofNat',
    show (4 : UInt8).toNat % 8 = 4 from rfl, Nat.mod_eq_of_lt (a := o.toNat / 16) (by omega),
    Nat.mod_eq_of_lt (a := o.toNat % 16) (by omega)]
  have hshift : (o.toNat / 16) <<< 4 % 2 ^ 8 = (o.toNat / 16) <<< 4 := by
    rw [Nat.shiftLeft_eq]
    exact Nat.mod_eq_of_lt (by omega)
  rw [hshift, ← Nat.shiftLeft_add_eq_or_of_lt (show o.toNat % 16 < 2 ^ 4 by omega),
    Nat.shiftLeft_eq]
  omega

/-- Hex text is already in upper case. -/
@[simp] theorem toUpper_hexText (octets : List UInt8) : toUpper (hexText octets) = hexText octets := by
  induction octets with
  | nil => rfl
  | cons o rest ih =>
    have ho := UInt8.toNat_lt o
    unfold toUpper at ih ⊢
    rw [hexText_cons, List.map_cons, List.map_cons, ih,
      if_neg (hexDigit_spec (show o.toNat / 16 < 16 by omega)).2.2,
      if_neg (hexDigit_spec (show o.toNat % 16 < 16 by omega)).2.2]

/-- Nothing in hex text is white space. -/
theorem filter_hexText (octets : List UInt8) :
    (hexText octets).filter (fun c => ¬ (c = 32 ∨ c = 9 ∨ c = 13 ∨ c = 10)) = hexText octets := by
  rw [List.filter_eq_self]
  intro c hc
  obtain ⟨o, -, ho⟩ := List.mem_flatMap.mp hc
  have hlt := UInt8.toNat_lt o
  rw [fmt02X_octet] at ho
  rcases List.mem_cons.mp ho with rfl | ho
  · simpa using (hexDigit_spec (show o.toNat / 16 < 16 by omega)).2.1
  · rw [List.mem_singleton.mp ho]
    simpa using (hexDigit_spec (show o.toNat % 16 < 16 by omega)).2.1

theorem hexPairs_hexText (octets : List UInt8) : hexPairs (hexText octets) = .ok octets := by
  induction octets with
  | nil => rfl
  | cons o rest ih =>
    have ho := UInt8.toNat_lt o
    rw [hexText_cons, hexPairs, (hexDigit_spec (show o.toNat / 16 < 16 by omega)).1,
      (hexDigit_spec (show o.toNat % 16 < 16 by omega)).1]
    simp only [ih, Except.map, nibbles_octet]

theorem length_hexText (octets : List UInt8) : (hexText octets).length = 2 * octets.length := by
  induction octets with
  | nil => rfl
  | cons o rest ih => rw [hexText_cons]; simp only [List.length_cons, ih]; omega

/-- **Hex text is read back.** -/
theorem hexToBytes_hexText (octets : List UInt8) : hexToBytes (hexText octets) = .ok octets := by
  unfold hexToBytes
  dsimp only
  rw [filter_hexText, length_hexText, if_neg (by omega), hexPairs_hexText]

/-! ## The address field -/

/-- A character of a padded number is a hex digit. -/
theorem isDigit_hexDigit {c : Char} (h : ('0' ≤ c ∧ c ≤ '9') ∨ c = 'F') :
    ∃ d < 16, UInt8.ofNat c.toNat = hexDigit d := by
  rcases h with ⟨h0, h9⟩ | rfl
  · have h0' : 48 ≤ c.toNat := h0
    have h9' : c.toNat ≤ 57 := h9
    refine ⟨c.toNat - 48, by omega, ?_⟩
    rw [hexDigit, if_pos (by omega), show 48 + (c.toNat - 48) = c.toNat by omega]
  · exact ⟨15, by decide, by decide⟩

/-- Two digits are an octet's hex text. -/
theorem hexText_pair {d e : Nat} (hd : d < 16) (he : e < 16) :
    ∃ o : UInt8, o.toNat = 16 * d + e ∧ hexText [o] = [hexDigit d, hexDigit e] := by
  have ho : (UInt8.ofNat (16 * d + e)).toNat = 16 * d + e := by
    rw [UInt8.toNat_ofNat']
    exact Nat.mod_eq_of_lt (by omega)
  refine ⟨UInt8.ofNat (16 * d + e), ho, ?_⟩
  rw [hexText_cons, ho, show (16 * d + e) / 16 = d by omega, show (16 * d + e) % 16 = e by omega,
    hexText_nil]

/-- Swapped digit pairs are hex text, an octet a pair. -/
theorem swapPairs_hexText : ∀ padded : List Char, padded.length % 2 = 0 →
    (∀ c ∈ padded, ('0' ≤ c ∧ c ≤ '9') ∨ c = 'F') →
    ∃ octets, (swapPairs padded).map (fun c => UInt8.ofNat c.toNat) = hexText octets ∧
      octets.length = padded.length / 2
  | [], _, _ => ⟨[], rfl, rfl⟩
  | [_], hlen, _ => by simp at hlen
  | a :: b :: rest, hlen, hdigits => by
    obtain ⟨octets, hrest, hcount⟩ := swapPairs_hexText rest
      (by simp only [List.length_cons] at hlen; omega) (fun c hc => hdigits c (by simp [hc]))
    obtain ⟨d, hd, hda⟩ := isDigit_hexDigit (hdigits a (by simp))
    obtain ⟨e, he, heb⟩ := isDigit_hexDigit (hdigits b (by simp))
    obtain ⟨o, -, ho⟩ := hexText_pair he hd
    refine ⟨o :: octets, ?_, by simp only [List.length_cons, hcount]; omega⟩
    rw [← List.singleton_append (l := octets), hexText_append, ho, swapPairs, List.map_cons,
      List.map_cons, hda, heb, hrest]
    rfl

/-- The digits of an address are hex text of the octets its count announces. -/
theorem encodeAddress_octets (number : String) :
    ∃ octets, (encodeAddress number).digits = hexText octets ∧
      octets.length = ((encodeAddress number).digitCount + 1) / 2 := by
  have hclean : ∀ c ∈ cleanDigits number, '0' ≤ c ∧ c ≤ '9' := fun c hc => by
    simpa using (List.mem_filter.mp hc).2
  unfold encodeAddress
  dsimp only
  split
  · next hodd =>
    obtain ⟨octets, htext, hlen⟩ := swapPairs_hexText (cleanDigits number ++ ['F'])
      (by rw [List.length_append, List.length_singleton]; omega) (by
        intro c hc
        rcases List.mem_append.mp hc with hc | hc
        · exact .inl (hclean c hc)
        · exact .inr (List.mem_singleton.mp hc))
    refine ⟨octets, htext, ?_⟩
    rw [hlen, List.length_append, List.length_singleton]
  · next heven =>
    obtain ⟨octets, htext, hlen⟩ := swapPairs_hexText (cleanDigits number)
      (by omega) (fun c hc => .inl (hclean c hc))
    exact ⟨octets, htext, by rw [hlen]; omega⟩

/-! ## The fields of a built PDU -/

/-- The first octet of a part. -/
def firstOctet (p : SmsSubmitParams) : UInt8 :=
  let fo : UInt8 := 0x01 ||| 0x10
  let fo := if p.hasUDH then fo ||| 0x40 else fo
  if p.requestSR then fo ||| 0x20 else fo

/-- The octets a part is the hex text of. -/
def submitOctets (p : SmsSubmitParams) (addrOctets : List UInt8) : List UInt8 :=
  0x00 :: firstOctet p :: 0x00 :: UInt8.ofNat (encodeAddress p.toNumber).digitCount ::
    (encodeAddress p.toNumber).toa :: (addrOctets ++ 0x00 :: p.dcs :: 0xAA :: UInt8.ofNat p.udl ::
      p.ud)

theorem buildSubmitPDU_pdu {p : SmsSubmitParams} (hto : (encodeAddress p.toNumber).digitCount < 256)
    (hudl : p.udl < 256) {addrOctets : List UInt8}
    (haddr : (encodeAddress p.toNumber).digits = hexText addrOctets) :
    (buildSubmitPDU p).pdu = hexText (submitOctets p addrOctets) := by
  have h00 : ascii "00" = hexText [0x00] := by decide
  have hAA : ascii "AA" = hexText [0xAA] := by decide
  have hbyte : ∀ o : UInt8, fmt02X o.toNat = hexText [o] := fun o => by simp [hexText]
  have hnum : ∀ n < 256, fmt02X n = hexText [UInt8.ofNat n] := fun n hn => by
    rw [← hbyte, UInt8.toNat_ofNat', Nat.mod_eq_of_lt (by omega)]
  unfold buildSubmitPDU submitOctets
  dsimp only
  rw [show (p.ud.flatMap fun o => fmt02X o.toNat) = hexText p.ud from rfl, h00, hAA, haddr,
    hnum _ hto, hnum _ hudl, hbyte, hbyte, hbyte, toUpper_hexText]
  simp only [← hexText_append, toUpper_hexText]
  congr 1
  simp [firstOctet]

/-- The first octet announces a relative validity period, and says whether there is a header. -/
theorem firstOctet_spec (p : SmsSubmitParams) :
    firstOctet p &&& 0x18 = 0x10 ∧ decide (firstOctet p &&& 0x40 ≠ 0) = p.hasUDH := by
  unfold firstOctet
  cases p.hasUDH <;> cases p.requestSR <;> decide

/-- **A built PDU is read back**, whatever it carries. -/
theorem submitUserData_build {p : SmsSubmitParams}
    (hto : (encodeAddress p.toNumber).digitCount < 256) (hudl : p.udl < 256) :
    submitUserData (buildSubmitPDU p).pdu =
      .ok { dcs := p.dcs, udl := p.udl, hasUDH := p.hasUDH, ud := p.ud } := by
  obtain ⟨addrOctets, haddr, hlen⟩ := encodeAddress_octets p.toNumber
  obtain ⟨hvpf, hudhi⟩ := firstOctet_spec p
  have hcount : ((UInt8.ofNat (encodeAddress p.toNumber).digitCount).toNat + 1) / 2 =
      addrOctets.length := by
    rw [UInt8.toNat_ofNat', Nat.mod_eq_of_lt hto, hlen]
  have hudl' : (UInt8.ofNat p.udl).toNat = p.udl := by
    rw [UInt8.toNat_ofNat', Nat.mod_eq_of_lt hudl]
  -- the cursor after each field of the layout
  obtain ⟨r₁, hsmscLen, h₁⟩ := PduReader.u8_rest
    (PduReader.rest_ofData (submitOctets p addrOctets))
  obtain ⟨r₂, hsmsc, h₂⟩ := PduReader.bytes_rest [] h₁
  obtain ⟨r₃, hfo, h₃⟩ := PduReader.u8_rest h₂
  obtain ⟨r₄, hmr, h₄⟩ := PduReader.u8_rest h₃
  obtain ⟨r₅, haddrLen, h₅⟩ := PduReader.u8_rest h₄
  obtain ⟨r₆, htoa, h₆⟩ := PduReader.u8_rest h₅
  obtain ⟨r₇, hda, h₇⟩ := PduReader.bytes_rest addrOctets h₆
  obtain ⟨r₈, hpid, h₈⟩ := PduReader.u8_rest h₇
  obtain ⟨r₉, hdcs, h₉⟩ := PduReader.u8_rest h₈
  obtain ⟨r₁₀, hvp, h₁₀⟩ := PduReader.bytes_rest [0xAA] h₉
  obtain ⟨r₁₁, hudlOctet, h₁₁⟩ := PduReader.u8_rest h₁₀
  unfold submitUserData
  rw [buildSubmitPDU_pdu hto hudl haddr, hexToBytes_hexText]
  simp only [bind, Except.bind, hsmscLen]
  rw [show (0x00 : UInt8).toNat = ([] : List UInt8).length from rfl]
  simp only [hsmsc, hfo, hmr, haddrLen, htoa, hcount, hda, hpid, hdcs, hvpf, if_true]
  rw [show 1 = [(0xAA : UInt8)].length from rfl]
  simp only [hvp, hudlOctet, hudl', hudhi, h₁₁]

/-! ## Decoding what a part carries -/

/-- A GSM-7 message of one part. -/
theorem partDecodes_gsm7Single {toNumber body : String} {septets : List UInt8} {requestSR : Bool}
    (hto : (encodeAddress toNumber).digitCount < 256) (hbody : gsm7Septets body = some septets)
    (hlen : septets.length ≤ maxGSM7Septets) (ref : UInt8) :
    PartDecodes ref 1 1 (buildSubmitPDU (gsm7Single toNumber septets requestSR)) body := by
  have hround := unpackSeptets_packSeptets (gsm7SeptetsLoop_lt hbody) 0
  refine ⟨_, submitUserData_build (p := gsm7Single toNumber septets requestSR) hto ?_,
    .inl ⟨rfl, ?_⟩, ?_⟩
  · unfold maxGSM7Septets at hlen
    simp only [gsm7Single]
    omega
  · simpa [SubmitUserData.septets, gsm7Single, hround] using hbody
  · have hdcs : isGSM7DCS dcsGSM7 = true := by decide
    simp [decodeUserData, gsm7Single, hdcs, hround, decodeGSM7_septets hbody, bind, Except.bind]

/-- The header of a part, scanned. -/
theorem parseConcatFromUDH_concatUDH (ref : UInt8) {total seq : Nat} (htotal : total ≤ 255)
    (hseq : seq ≤ 255) : parseConcatFromUDH [0x00, 0x03, ref, UInt8.ofNat total, UInt8.ofNat seq] =
      some ⟨ref.toNat, seq, total⟩ := by
  have hbyte : ∀ n ≤ 255, (UInt8.ofNat n).toNat = n := fun n hn => by
    rw [UInt8.toNat_ofNat', Nat.mod_eq_of_lt (by omega)]
  have htake : [ref, UInt8.ofNat total, UInt8.ofNat seq].take (0x03 : UInt8).toNat =
      [ref, UInt8.ofNat total, UInt8.ofNat seq] := rfl
  have hroom : ¬ [ref, UInt8.ofNat total, UInt8.ofNat seq].length < (0x03 : UInt8).toNat :=
    Nat.lt_irrefl 3
  unfold parseConcatFromUDH
  simp only [if_neg hroom, htake, hbyte total htotal, hbyte seq hseq]

/-- What `decodeUserData` makes of user data behind a header: it skips seven septets of a GSM-7
text, six octets of any other. -/
theorem decodeUserData_concatUDH (dcs : UInt8) (udl : Nat) (ref : UInt8) {total seq : Nat}
    (htotal : total ≤ 255) (hseq : seq ≤ 255) (payload : List UInt8) :
    decodeUserData dcs udl true (concatUDH ref total seq ++ payload) =
      .ok (if isGSM7DCS dcs then
          decodeGSM7 ((unpackSeptets (concatUDH ref total seq ++ payload) udl 0).drop 7)
        else decodeUCS2 payload,
        some ⟨ref.toNat, seq, total⟩) := by
  have hscan : parseConcatFromUDH
      (List.take 5 (0 :: 3 :: ref :: UInt8.ofNat total :: UInt8.ofNat seq :: payload)) =
      some ⟨ref.toNat, seq, total⟩ := parseConcatFromUDH_concatUDH ref htotal hseq
  have hskip : ∀ septets : List UInt8,
      (if 7 ≤ septets.length then septets.drop 7 else []) = septets.drop 7 := by
    intro septets
    split
    · rfl
    · exact (List.drop_eq_nil_of_le (by omega)).symm
  have hroom : ¬ (5 :: 0 :: 3 :: ref :: UInt8.ofNat total :: UInt8.ofNat seq :: payload).length <
      5 + 1 := by
    simp only [List.length_cons]
    omega
  unfold decodeUserData
  simp only [concatUDH, List.cons_append, List.nil_append, if_true, bind, Except.bind,
    show (0x05 : UInt8).toNat = 5 from rfl, if_neg hroom, hscan]
  split
  · rw [show ((5 + 1) * 8 + 6) / 7 = 7 from rfl, hskip]
  · rfl

/-- Behind the header and its fill bit, the septets start at position seven. -/
theorem unpackSeptets_gsm7Part {septets : List UInt8} (hss : ∀ s ∈ septets, s.toNat < 128)
    {header : List UInt8} (hheader : header.length = concatUDHLen) :
    (unpackSeptets (header ++ packSeptets septets 1) (7 + septets.length) 0).drop 7 = septets := by
  have hroom := fill_add_le_packSeptets septets (show 1 ≤ 8 by omega)
  have hlen : (header ++ packSeptets septets 1).length = 6 + (packSeptets septets 1).length := by
    rw [List.length_append, hheader, concatUDHLen]
  have hfront : (unpackLoop (header ++ packSeptets septets 1) 7 0).length = 7 :=
    length_unpackLoop (by omega)
  rw [unpackSeptets, unpackLoop_add (by omega), List.drop_left' hfront]
  apply unpackLoop_eq hss
  · omega
  · intro j _
    have hbit := bitAt_append_right (w := 8) (by omega) header (packSeptets septets 1) (1 + j)
    rw [hheader, concatUDHLen, bitAt_packSeptets hss 1 j] at hbit
    rw [← hbit]
    congr 1
    omega

/-- A part of a GSM-7 message of several. -/
theorem partDecodes_gsm7Part {toNumber chunk : String} {requestSR : Bool}
    (hto : (encodeAddress toNumber).digitCount < 256) (hchunk : FitsGSM7 maxGSM7SeptetsConcat chunk)
    (ref : UInt8) {total seq : Nat} (htotal : total ≤ 255) (hmany : total ≠ 1) (hseq : seq ≤ 255) :
    PartDecodes ref total seq
      (buildSubmitPDU (gsm7Part toNumber ref requestSR total seq chunk)) chunk := by
  obtain ⟨septets, hss, hlen⟩ := hchunk
  have hheader : (concatUDH ref total seq).length = concatUDHLen := rfl
  have hround := unpackSeptets_gsm7Part (gsm7SeptetsLoop_lt hss) hheader
  have hparts : gsm7Part toNumber ref requestSR total seq chunk =
      { toNumber, dcs := dcsGSM7, ud := concatUDH ref total seq ++ packSeptets septets 1,
        udl := 7 + septets.length, hasUDH := true, requestSR } := by
    simp [gsm7Part, hss, concatUDHLen]
  rw [hparts]
  refine ⟨_, submitUserData_build hto ?_, .inl ⟨rfl, ?_⟩, ?_⟩
  · unfold maxGSM7SeptetsConcat at hlen
    dsimp only
    omega
  · simpa [SubmitUserData.septets, hround] using hss
  · have hdcs : isGSM7DCS dcsGSM7 = true := by decide
    dsimp only
    rw [decodeUserData_concatUDH _ _ _ htotal hseq, if_neg hmany, hround, if_pos hdcs,
      decodeGSM7_septets hss]

/-- A UCS-2 message of one part. -/
theorem partDecodes_ucs2Single {toNumber body : String} {requestSR : Bool}
    (hto : (encodeAddress toNumber).digitCount < 256)
    (hlen : (utf16Units body).length ≤ maxUCS2CodeUnits) (ref : UInt8) :
    PartDecodes ref 1 1 (buildSubmitPDU (ucs2Single toNumber (utf16Units body) requestSR)) body := by
  have hround : decodeUCS2 (ucs2Bytes (utf16Units body)) = body := by
    rw [utf16Units, decodeUCS2_ucs2Bytes, String.ofList_toList]
  refine ⟨_, submitUserData_build (p := ucs2Single toNumber (utf16Units body) requestSR) hto ?_,
    .inr ⟨rfl, ?_⟩, ?_⟩
  · unfold maxUCS2CodeUnits at hlen
    simp only [ucs2Single, length_ucs2Bytes]
    omega
  · simp [SubmitUserData.units, ucs2Single, ucs2Units_ucs2Bytes]
  · have hdcs : isGSM7DCS dcsUCS2 = false := by decide
    simp [decodeUserData, ucs2Single, hdcs, hround, bind, Except.bind]

/-- A part of a UCS-2 message of several. -/
theorem partDecodes_ucs2Part {toNumber : String} {run : List Char} {requestSR : Bool}
    (hto : (encodeAddress toNumber).digitCount < 256)
    (hrun : (Utf16.encode run).length ≤ maxUCS2UnitsConcat)
    (ref : UInt8) {total seq : Nat} (htotal : total ≤ 255) (hmany : total ≠ 1) (hseq : seq ≤ 255) :
    PartDecodes ref total seq
      (buildSubmitPDU (ucs2Part toNumber ref requestSR total seq (Utf16.encode run)))
      (String.ofList run) := by
  refine ⟨_, submitUserData_build
    (p := ucs2Part toNumber ref requestSR total seq (Utf16.encode run)) hto ?_, .inr ⟨rfl, ?_⟩, ?_⟩
  · unfold maxUCS2UnitsConcat at hrun
    simp only [ucs2Part, length_ucs2Bytes, concatUDHLen]
    omega
  · simp [SubmitUserData.units, ucs2Part, concatUDHLen, concatUDH, utf16Units, ucs2Units_ucs2Bytes]
  · have hdcs : ¬ isGSM7DCS dcsUCS2 = true := by decide
    simp only [ucs2Part]
    rw [decodeUserData_concatUDH _ _ _ htotal hseq, if_neg hmany, if_neg hdcs,
      decodeUCS2_ucs2Bytes]

/-! ## The message -/

/-- The parts decode, one by one and in order, to chunks that spell the body. -/
def DecodesTo (ref : UInt8) (body : String) (parts : List EncodedPart) : Prop :=
  ∃ chunks : List String, chunks.length = parts.length ∧ String.join chunks = body ∧
    ∀ (i : Nat) (hi : i < parts.length) (hc : i < chunks.length),
      PartDecodes ref parts.length (i + 1) parts[i] chunks[i]

/-- One part decodes to the body. -/
theorem decodesTo_single {ref : UInt8} {body : String} {part : EncodedPart}
    (h : PartDecodes ref 1 1 part body) : DecodesTo ref body [part] := by
  refine ⟨[body], rfl, by simp [String.join], ?_⟩
  intro i hi _
  obtain rfl : i = 0 := by simpa using hi
  exact h

/-- Several parts, built one for each chunk. -/
theorem decodesTo_mapIdx {α : Type} {ref : UInt8} {body : String} {pieces : List α}
    {build : Nat → α → EncodedPart} (spell : α → String)
    (hspell : String.join (pieces.map spell) = body)
    (hparts : ∀ i (hi : i < pieces.length),
      PartDecodes ref pieces.length (i + 1) (build i pieces[i]) (spell pieces[i])) :
    DecodesTo ref body (pieces.mapIdx build) := by
  refine ⟨pieces.map spell, by simp, hspell, ?_⟩
  intro i hi hc
  have hi' : i < pieces.length := by simpa using hi
  simpa using hparts i hi'

/-- A body that needs more than one part is not spelled by one chunk that fits. -/
theorem splitGSM7_length_ne_one {body : String} {septets : List UInt8}
    (hbody : gsm7Septets body = some septets) (hlong : maxGSM7Septets < septets.length) :
    (splitGSM7 body maxGSM7SeptetsConcat).length ≠ 1 := by
  have hcan : canEncodeGSM7 body := by rw [← gsm7Septets_isSome, hbody]; rfl
  obtain ⟨hjoin, hfit⟩ := splitGSM7_spec (show 2 ≤ maxGSM7SeptetsConcat by decide) hcan
  intro hone
  obtain ⟨chunk, hchunk⟩ := List.length_eq_one_iff.mp hone
  rw [hchunk] at hjoin hfit
  obtain ⟨ss, hss, hlen⟩ := hfit chunk (by simp)
  obtain rfl : chunk = body := by simpa [String.join] using hjoin
  rw [hbody] at hss
  cases hss
  unfold maxGSM7Septets at hlong
  unfold maxGSM7SeptetsConcat at hlen
  omega

/-- **Round trip of an outgoing message.** Whatever the body, encoding succeeds, and at up to 255
parts each part's user data decodes to whole characters of the body, in order, with the reference,
its number and the number of parts in its header. -/
theorem encodeMessage_roundTrip (toNumber body : String) (ref : UInt8) (requestSR : Bool)
    (hto : (encodeAddress toNumber).digitCount < 256) :
    ∃ parts, encodeMessage toNumber body ref requestSR = .ok parts ∧
      (parts.length ≤ 255 → DecodesTo ref body parts) := by
  unfold encodeMessage
  split
  · next hcan =>
    obtain ⟨septets, hbody⟩ := Option.isSome_iff_exists.mp ((gsm7Septets_isSome body).trans hcan)
    unfold encodeGSM7Message
    rw [hbody]
    dsimp only
    split
    · next hshort =>
      exact ⟨_, rfl, fun _ => decodesTo_single (partDecodes_gsm7Single hto hbody hshort ref)⟩
    · next hlong =>
      obtain ⟨hjoin, hfit⟩ := splitGSM7_spec (show 2 ≤ maxGSM7SeptetsConcat by decide) hcan
      have hmany := splitGSM7_length_ne_one hbody (by omega)
      refine ⟨_, rfl, fun hcount => decodesTo_mapIdx id (by simpa using hjoin) ?_⟩
      intro i hi
      rw [List.length_mapIdx] at hcount
      exact partDecodes_gsm7Part hto (hfit _ (List.getElem_mem hi)) ref hcount hmany (by omega)
  · unfold encodeUCS2Message
    dsimp only
    split
    · next hshort =>
      exact ⟨_, rfl, fun _ => decodesTo_single (partDecodes_ucs2Single hto hshort ref)⟩
    · next hlong =>
      obtain ⟨runs, hsplit, hflat, hfit⟩ :=
        splitUCS2_spec (show 2 ≤ maxUCS2UnitsConcat by decide) body.toList
      have hmany : runs.length ≠ 1 := by
        intro hone
        obtain ⟨run, rfl⟩ := List.length_eq_one_iff.mp hone
        have hlen := hfit run (by simp)
        rw [show run = body.toList by simpa using hflat] at hlen
        unfold maxUCS2CodeUnits utf16Units at hlong
        unfold maxUCS2UnitsConcat at hlen
        omega
      rw [show utf16Units body = Utf16.encode body.toList from rfl, hsplit]
      refine ⟨_, rfl, fun hcount =>
        decodesTo_mapIdx (fun units => String.ofList (Utf16.decode units)) ?_ ?_⟩
      · apply String.toList_inj.mp
        rw [String.toList_join, ← hflat]
        simp [List.flatMap_map, Function.comp_def, Utf16.decode_encode, List.flatMap_id']
      · intro i hi
        have hi' : i < runs.length := by simpa using hi
        rw [List.length_mapIdx, List.length_map] at hcount
        simp only [List.getElem_map, Utf16.decode_encode, List.length_map]
        exact partDecodes_ucs2Part hto (hfit _ (List.getElem_mem hi')) ref hcount hmany (by omega)

/-- The round trip of 161 characters in two parts. -/
theorem encodeMessage_roundTrip_twoParts :
    (encodeAddress "+447785016005").digitCount < 256 ∧
      ∃ parts, encodeMessage "+447785016005" (String.ofList (List.replicate 161 'a')) 0x2A true =
          .ok parts ∧
        (parts.length ≤ 255 →
          DecodesTo 0x2A (String.ofList (List.replicate 161 'a')) parts) :=
  ⟨by decide, encodeMessage_roundTrip _ _ _ _ (by decide)⟩

end Svarla.Sms
