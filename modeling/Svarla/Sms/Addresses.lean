import Svarla.Sms.RoundTrip

/-!
# Address fields

The SUBMIT encoder writes the digits of a number in pairs, each swapped, with a filler after an odd
one; `parseAddress` reads them back (`parseAddress_number`). A sender that is text comes as packed
septets, and the length of its field counts semi-octets: their number rounded up, from which that of the
septets follows without a remainder (`parseAddress_text`).
-/

namespace Svarla.Sms

open Svarla.Lib

/-- The address field of `buildSubmitPDU`. -/
def addressField (number : String) : List UInt8 :=
  let addr := encodeAddress number
  fmt02X addr.digitCount ++ fmt02X addr.toa.toNat ++ toUpper addr.digits

/-- The field is behind the first octet and TP-MR. -/
theorem addressField_infix (p : SmsSubmitParams) :
    ∃ front back, (buildSubmitPDU p).pdu = toUpper (front ++ addressField p.toNumber ++ back) ∧
      front = ascii "00" ++ fmt02X (firstOctet p).toNat ++ ascii "00" := by
  refine ⟨_, ascii "00" ++ fmt02X p.dcs.toNat ++ ascii "AA" ++ fmt02X p.udl ++
    p.ud.flatMap fun o => fmt02X o.toNat, ?_, rfl⟩
  simp only [buildSubmitPDU, addressField, firstOctet, List.append_assoc]

/-- An optional plus, and 1 to 20 digits. -/
def IsNumber (number : String) (digits : List Char) : Prop :=
  (number.toList = '+' :: digits ∨ number.toList = digits) ∧ 1 ≤ digits.length ∧ digits.length ≤ 20 ∧
    ∀ c ∈ digits, '0' ≤ c ∧ c ≤ '9'

instance (number : String) (digits : List Char) : Decidable (IsNumber number digits) :=
  have : Decidable (∀ c ∈ digits, '0' ≤ c ∧ c ≤ '9') := List.decidableBAll _ digits
  inferInstanceAs (Decidable (_ ∧ _))

/-! ## Digits -/

/-- A digit and its value. -/
theorem digit_cases {c : Char} (h : '0' ≤ c ∧ c ≤ '9') :
    ∃ d < 10, c = Char.ofNat (48 + d) ∧ UInt8.ofNat c.toNat = hexDigit d := by
  have hlow : 48 ≤ c.toNat := h.1
  have hhigh : c.toNat ≤ 57 := h.2
  refine ⟨c.toNat - 48, by omega, ?_, ?_⟩
  · rw [show 48 + (c.toNat - 48) = c.toNat by omega, Char.ofNat_toNat]
  · rw [hexDigit, if_pos (by omega), show 48 + (c.toNat - 48) = c.toNat by omega]

/-- The two digits of an octet. -/
theorem addressDigits_pair {o : UInt8} {d e : Nat} (hd : d < 10) (he : e < 10)
    (ho : o.toNat = 16 * e + d) : addressDigits [o] = [Char.ofNat (48 + d), Char.ofNat (48 + e)] := by
  have hall : ∀ d e : Fin 10, addressDigits [UInt8.ofNat (16 * e.val + d.val)] =
      [Char.ofNat (48 + d.val), Char.ofNat (48 + e.val)] := by decide +kernel
  rw [show o = UInt8.ofNat (16 * e + d) by rw [← ho, UInt8.ofNat_toNat]]
  exact hall ⟨d, hd⟩ ⟨e, he⟩

/-- The last digit, before the filler. -/
theorem addressDigits_filler {o : UInt8} {d : Nat} (hd : d < 10) (ho : o.toNat = 16 * 15 + d) :
    addressDigits [o] = [Char.ofNat (48 + d)] := by
  have hall : ∀ d : Fin 10, addressDigits [UInt8.ofNat (16 * 15 + d.val)] = [Char.ofNat (48 + d.val)] := by
    decide +kernel
  rw [show o = UInt8.ofNat (16 * 15 + d) by rw [← ho, UInt8.ofNat_toNat]]
  exact hall ⟨d, hd⟩

theorem addressDigits_cons (o : UInt8) (octets : List UInt8) :
    addressDigits (o :: octets) = addressDigits [o] ++ addressDigits octets := by
  rw [addressDigits, List.flatMap_cons]
  simp only [addressDigits, List.flatMap_cons, List.flatMap_nil, List.append_nil]

/-- Swapped digits are the hex text of octets that are read as these digits. -/
theorem swapPairs_digits : ∀ digits : List Char, (∀ c ∈ digits, '0' ≤ c ∧ c ≤ '9') →
    ∃ octets, (swapPairs (if digits.length % 2 ≠ 0 then digits ++ ['F'] else digits)).map
        (fun c => UInt8.ofNat c.toNat) = hexText octets ∧
      octets.length = (digits.length + 1) / 2 ∧ addressDigits octets = digits
  | [], _ => ⟨[], rfl, rfl, rfl⟩
  | [a], hdigits => by
    obtain ⟨d, hd, rfl, hhex⟩ := digit_cases (hdigits a List.mem_cons_self)
    obtain ⟨o, ho, htext⟩ := hexText_pair (d := 15) (e := d) (by omega) (by omega)
    refine ⟨[o], ?_, by rw [List.length_singleton, List.length_singleton], addressDigits_filler hd ho⟩
    rw [htext, ← hhex]
    rfl
  | a :: b :: rest, hdigits => by
    obtain ⟨octets, htext, hlength, hread⟩ :=
      swapPairs_digits rest fun c hc => hdigits c (List.mem_cons_of_mem _ (List.mem_cons_of_mem _ hc))
    obtain ⟨d, hd, rfl, hda⟩ := digit_cases (hdigits a List.mem_cons_self)
    obtain ⟨e, he, rfl, heb⟩ := digit_cases (hdigits b (List.mem_cons_of_mem _ List.mem_cons_self))
    obtain ⟨o, ho, hpair⟩ := hexText_pair (d := e) (e := d) (by omega) (by omega)
    refine ⟨o :: octets, ?_, ?_, ?_⟩
    · have hpadded : (if (Char.ofNat (48 + d) :: Char.ofNat (48 + e) :: rest).length % 2 ≠ 0 then
          Char.ofNat (48 + d) :: Char.ofNat (48 + e) :: rest ++ ['F']
          else Char.ofNat (48 + d) :: Char.ofNat (48 + e) :: rest) =
          Char.ofNat (48 + d) :: Char.ofNat (48 + e) ::
            (if rest.length % 2 ≠ 0 then rest ++ ['F'] else rest) := by
        rw [List.length_cons, List.length_cons, show (rest.length + 1 + 1) % 2 = rest.length % 2 by omega]
        split <;> rfl
      rw [hpadded, swapPairs, List.map_cons, List.map_cons, htext, hda, heb,
        ← List.singleton_append (l := octets), hexText_append, hpair]
      rfl
    · simp only [List.length_cons, hlength]
      omega
    · rw [addressDigits_cons, addressDigits_pair hd he ho, hread]
      rfl

/-! ## Round trips -/

/-- The octets of a field that the encoder writes. -/
theorem addressField_octets {number : String} {digits : List Char} (h : IsNumber number digits) :
    ∃ octets, hexToBytes (addressField number) =
        .ok (UInt8.ofNat digits.length :: (encodeAddress number).toa :: octets) ∧
      octets.length = (digits.length + 1) / 2 ∧ addressDigits octets = digits := by
  obtain ⟨hnumber, -, hle, hdigits⟩ := h
  have hfilter : digits.filter (fun r => '0' ≤ r ∧ r ≤ '9') = digits :=
    List.filter_eq_self.mpr fun c hc => decide_eq_true (hdigits c hc)
  have hclean : cleanDigits number = digits := by
    obtain hplus | hplain := hnumber
    · rw [cleanDigits, hplus, List.filter_cons_of_neg (by decide), hfilter]
    · rw [cleanDigits, hplain, hfilter]
  obtain ⟨octets, htext, hlength, hread⟩ := swapPairs_digits digits hdigits
  refine ⟨octets, ?_, hlength, hread⟩
  have hcount : (UInt8.ofNat digits.length).toNat = digits.length := by
    rw [UInt8.toNat_ofNat']
    omega
  have hfield : addressField number =
      hexText (UInt8.ofNat digits.length :: (encodeAddress number).toa :: octets) := by
    have hencoded : (encodeAddress number).digits = hexText octets := by
      rw [← htext, ← hclean]
      rfl
    rw [addressField, hencoded, toUpper_hexText, show (encodeAddress number).digitCount = digits.length by
      rw [← hclean]; rfl, ← hcount]
    simp only [hexText, List.flatMap_cons, List.append_assoc, hcount]
  rw [hfield, hexToBytes_hexText]

/-- **Numbers.** -/
theorem parseAddress_number {number : String} {digits : List Char} (h : IsNumber number digits) :
    ∃ field, hexToBytes (addressField number) = .ok field ∧
      ∀ (r : PduReader) (back : List UInt8), r.rest = field ++ back →
        ∃ r', parseAddress r = .ok (number, r') ∧ r'.rest = back := by
  obtain ⟨octets, hfield, hlength, hread⟩ := addressField_octets h
  obtain ⟨hnumber, hpos, hle, hdigits⟩ := h
  refine ⟨_, hfield, fun r back hrest => ?_⟩
  obtain ⟨r₁, hlen, h₁⟩ := PduReader.u8_rest hrest
  obtain ⟨r₂, htoa, h₂⟩ := PduReader.u8_rest h₁
  obtain ⟨r₃, hvalue, h₃⟩ := PduReader.bytes_rest octets h₂
  have hcount : (UInt8.ofNat digits.length).toNat = digits.length := by
    rw [UInt8.toNat_ofNat']
    omega
  have hne : UInt8.ofNat digits.length ≠ 0 := by
    intro hzero
    rw [hzero] at hcount
    exact absurd hcount.symm (by simpa using Nat.ne_of_gt hpos)
  rw [hlength] at hvalue
  refine ⟨r₃, ?_, h₃⟩
  simp only [parseAddress, bind, Except.bind, hlen, htoa, hne, if_false, hcount, hvalue, hread]
  obtain hplus | hplain := hnumber
  · have hinternational : (encodeAddress number).toa = 0x91 := by
      simp [encodeAddress, hplus]
    rw [hinternational, if_neg (by decide), if_pos (by decide), ← hplus, String.ofList_toList]
  · have hnational : (encodeAddress number).toa = 0x81 := by
      have hhead : number.toList.head? ≠ some '+' := by
        intro hhead
        rw [hplain] at hhead
        have hdigit := hdigits '+' (List.mem_of_mem_head? hhead)
        exact absurd hdigit (by decide)
      simp [encodeAddress, hhead]
    rw [hnational, if_neg (by decide), if_neg (by decide), ← hplain, String.ofList_toList]

/-- **Text.** -/
theorem parseAddress_text {sender : String} {septets : List UInt8} (h : gsm7Septets sender = some septets)
    {addrLen toa : UInt8} (hlen : addrLen.toNat = (7 * septets.length + 3) / 4) (htoa : toa &&& 0x70 = 0x50)
    {r : PduReader} {back : List UInt8} (hrest : r.rest = addrLen :: toa :: (packSeptets septets 0 ++ back)) :
    ∃ r', parseAddress r = .ok (sender, r') ∧ r'.rest = back := by
  obtain ⟨r₁, hlen', h₁⟩ := PduReader.u8_rest hrest
  obtain ⟨r₂, htoa', h₂⟩ := PduReader.u8_rest h₁
  obtain ⟨r₃, hvalue, h₃⟩ := PduReader.bytes_rest (packSeptets septets 0) h₂
  by_cases hnil : septets = []
  · subst hnil
    have hzero : addrLen = 0 := UInt8.toNat_inj.mp hlen
    have hempty : sender = "" := by rw [← decodeGSM7_septets h]; rfl
    refine ⟨r₂, ?_, h₂⟩
    simp only [parseAddress, bind, Except.bind, hlen', htoa', hzero, if_true, hempty]
  · have hpos := List.length_pos_iff.mpr hnil
    have hne : addrLen ≠ 0 := by
      rintro rfl
      have hzero : (0 : UInt8).toNat = 0 := rfl
      omega
    -- the octets that the septets fill, and their number from the semi-octets
    have hoctets : (addrLen.toNat + 1) / 2 = (packSeptets septets 0).length := by
      rw [length_packSeptets hnil, hlen]
      omega
    have hcount : addrLen.toNat * 4 / 7 = septets.length := by omega
    rw [← hoctets] at hvalue
    refine ⟨r₃, ?_, h₃⟩
    simp only [parseAddress, bind, Except.bind, hlen', htoa', hne, if_false, hvalue, htoa, if_true, hcount,
      unpackSeptets_packSeptets (gsm7SeptetsLoop_lt h) 0, decodeGSM7_septets h]

/-- **Round trip of an address field.** Any number is read back from the field that the encoder writes,
and any text from its septets; in each case the field is consumed, and no more. -/
theorem address_roundTrip :
    (∀ (number : String) (digits : List Char), IsNumber number digits →
      ∃ field, hexToBytes (addressField number) = .ok field ∧
        ∀ (r : PduReader) (back : List UInt8), r.rest = field ++ back →
          ∃ r', parseAddress r = .ok (number, r') ∧ r'.rest = back) ∧
    ∀ (sender : String) (septets : List UInt8) (addrLen toa : UInt8), gsm7Septets sender = some septets →
      addrLen.toNat = (7 * septets.length + 3) / 4 → toa &&& 0x70 = 0x50 →
        ∀ (r : PduReader) (back : List UInt8),
          r.rest = addrLen :: toa :: (packSeptets septets 0 ++ back) →
            ∃ r', parseAddress r = .ok (sender, r') ∧ r'.rest = back :=
  ⟨fun _ _ h => parseAddress_number h,
    fun _ _ _ _ h hlen htoa _ _ hrest => parseAddress_text h hlen htoa hrest⟩

/-- A number with an odd number of digits, and a name of seven letters. -/
theorem address_roundTrip_seven :
    (∃ field, hexToBytes (addressField "+46701234567") = .ok field ∧
      ∀ (r : PduReader) (back : List UInt8), r.rest = field ++ back →
        ∃ r', parseAddress r = .ok ("+46701234567", r') ∧ r'.rest = back) ∧
    ∃ r', parseAddress (.ofData (13 :: 0xD0 :: (packSeptets ((gsm7Septets "Svarlan").getD []) 0 ++ [0]))) =
      .ok ("Svarlan", r') ∧ r'.rest = [0] :=
  ⟨address_roundTrip.1 _ "46701234567".toList (by decide +kernel),
    address_roundTrip.2 "Svarlan" _ 13 0xD0 rfl (by decide) (by decide) _ [0] rfl⟩

end Svarla.Sms
