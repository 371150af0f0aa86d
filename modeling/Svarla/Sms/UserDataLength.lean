import Svarla.Sms.RoundTrip

/-!
# The length of the user data

TP-UDL counts septets or octets, and `decodeUserData` heeds it only for the GSM-7 alphabet, and there
takes what there is if that is less. Any other user data are decoded to the end of the PDU. So the
length governs the text of an accepted PDU exactly if there is as much as it says, and what follows is
less than a code unit (`udl_governs_iff`).
-/

namespace Svarla.Sms

open Svarla.Lib

/-! ## The fields before the text -/

/-- The fields that say how the user data are read. -/
structure DeliverHeader where
  sender : String
  timestamp : Int
  dcs : UInt8
  udl : Nat
  hasUDH : Bool
  ud : List UInt8
  deriving DecidableEq, Repr

/-- `parseDeliverPDU`, up to the user data. -/
def deliverHeader (hexPDU : List UInt8) : Except String DeliverHeader := do
  let data ← hexToBytes hexPDU
  let r := PduReader.ofData data
  let (smscLen, r) ← r.u8
  let (_, r) ← r.bytes smscLen.toNat
  let (fo, r) ← r.u8
  if fo &&& 0x03 ≠ 0x00 then
    .error s!"sms: not an SMS-DELIVER PDU (MTI={(fo &&& 0x03).toNat})"
  else
    let hasUDH : Bool := fo &&& 0x40 ≠ 0
    let (sender, r) ← parseAddress r
    let (_, r) ← r.u8
    let (dcs, r) ← r.u8
    let (scts, r) ← r.bytes 7
    let (udl, r) ← r.u8
    .ok { sender, timestamp := parseSCTS scts, dcs, udl := udl.toNat, hasUDH, ud := r.rest }

namespace DeliverHeader

/-- The outcome for these fields. -/
def decode (h : DeliverHeader) : Except String (String × Option ConcatInfo) :=
  decodeUserData h.dcs h.udl h.hasUDH h.ud

/-- There is as much user data as TP-UDL says. -/
def Complete (h : DeliverHeader) : Prop :=
  if isGSM7DCS h.dcs then 7 * h.udl ≤ 8 * h.ud.length else h.udl ≤ h.ud.length

instance (h : DeliverHeader) : Decidable h.Complete := by
  unfold Complete
  infer_instance

/-- The user data as far as TP-UDL goes: its septets or octets, and nothing else. -/
def first (h : DeliverHeader) : List UInt8 :=
  if isGSM7DCS h.dcs then packSeptets (unpackSeptets h.ud h.udl 0) 0 else h.ud.take h.udl

end DeliverHeader

/-- The PDU is its fields, and the text of these. -/
theorem parseDeliverPDU_eq (hexPDU : List UInt8) :
    parseDeliverPDU hexPDU = (deliverHeader hexPDU).bind fun h => h.decode.map fun text =>
      { sender := h.sender, body := text.1, timestamp := h.timestamp, concat := text.2 } := by
  unfold parseDeliverPDU deliverHeader DeliverHeader.decode
  simp only [bind, Except.bind]
  repeat' split
  all_goals simp_all [Except.map]

/-- The text of an outcome: that of an error is empty. -/
def textOf : Except String (String × Option ConcatInfo) → String
  | .ok (text, _) => text
  | .error _ => ""

/-- The length governs the text: a PDU that is accepted is complete, and its text is that of its first
septets or octets. -/
def UdlGoverns (hexPDU : List UInt8) : Prop :=
  ∀ h m, deliverHeader hexPDU = .ok h → parseDeliverPDU hexPDU = .ok m →
    h.Complete ∧ m.body = textOf (decodeUserData h.dcs h.udl h.hasUDH h.first)

/-! ## The text -/

/-- The octets of the header. -/
def headerOctets (hasUDH : Bool) (ud : List UInt8) : Nat :=
  if hasUDH then (ud.headD 0).toNat + 1 else 0

/-- The text behind the header. -/
def userText (dcs : UInt8) (udl : Nat) (hasUDH : Bool) (ud : List UInt8) : String :=
  if isGSM7DCS dcs then decodeGSM7 ((unpackSeptets ud udl 0).drop ((headerOctets hasUDH ud * 8 + 6) / 7))
  else decodeUCS2 (ud.drop (headerOctets hasUDH ud))

/-- User data with their whole header are accepted. -/
theorem decodeUserData_ok {dcs : UInt8} {udl : Nat} {hasUDH : Bool} {ud : List UInt8}
    (hheader : headerOctets hasUDH ud ≤ ud.length) :
    ∃ concat, decodeUserData dcs udl hasUDH ud = .ok (userText dcs udl hasUDH ud, concat) := by
  cases hasUDH with
  | false =>
    refine ⟨none, ?_⟩
    simp only [decodeUserData, userText, headerOctets, bind, Except.bind, Bool.false_eq_true, if_false]
    split <;> rfl
  | true =>
    cases ud with
    | nil => exact absurd hheader (by simp [headerOctets])
    | cons udhl rest =>
      have hoctets : headerOctets true (udhl :: rest) = udhl.toNat + 1 := rfl
      rw [hoctets] at hheader
      refine ⟨parseConcatFromUDH (rest.take udhl.toNat), ?_⟩
      have hskip : ∀ (k : Nat) (septets : List UInt8),
          (if k ≤ septets.length then septets.drop k else []) = septets.drop k := by
        intro k septets
        split
        · rfl
        · exact (List.drop_eq_nil_of_le (by omega)).symm
      simp only [decodeUserData, userText, hoctets, bind, Except.bind, if_true,
          if_neg (Nat.not_lt.mpr hheader),
        hskip]
      split <;> rfl

/-- A header that is longer than the user data is an error. -/
theorem decodeUserData_error {dcs : UInt8} {udl : Nat} {hasUDH : Bool} {ud : List UInt8}
    (hheader : ¬ headerOctets hasUDH ud ≤ ud.length) : ∃ e, decodeUserData dcs udl hasUDH ud = .error e := by
  cases hasUDH with
  | false => exact absurd (Nat.zero_le _) hheader
  | true =>
    cases ud with
    | nil => exact ⟨_, rfl⟩
    | cons udhl rest =>
      have hlt : (udhl :: rest).length < udhl.toNat + 1 := Nat.not_le.mp hheader
      exact ⟨_, by simp only [decodeUserData, bind, Except.bind, if_true, if_pos hlt]; rfl⟩

theorem textOf_decodeUserData (dcs : UInt8) (udl : Nat) (hasUDH : Bool) (ud : List UInt8) :
    textOf (decodeUserData dcs udl hasUDH ud) =
      if headerOctets hasUDH ud ≤ ud.length then userText dcs udl hasUDH ud else "" := by
  split
  · next h =>
    obtain ⟨concat, hok⟩ := @decodeUserData_ok dcs udl hasUDH ud h
    rw [hok]
    rfl
  · next h =>
    obtain ⟨e, herror⟩ := @decodeUserData_error dcs udl hasUDH ud h
    rw [herror]
    rfl

/-! ## GSM-7 -/

/-- Packed octets are as many as the septets need. -/
theorem length_packSeptets_zero (septets : List UInt8) :
    (packSeptets septets 0).length = (7 * septets.length + 7) / 8 := by
  by_cases hnil : septets = []
  · subst hnil
    rfl
  · rw [length_packSeptets hnil, Nat.zero_add]

/-- The first octet is within the first two septets. -/
theorem headerOctets_first {ud : List UInt8} {udl : Nat} (hcomplete : 7 * udl ≤ 8 * ud.length)
    (hudl : 2 ≤ udl) (hasUDH : Bool) :
    headerOctets hasUDH (packSeptets (unpackSeptets ud udl 0) 0) = headerOctets hasUDH ud := by
  have hlength : (unpackSeptets ud udl 0).length = udl := length_unpackLoop (by omega)
  have hoctet : (packSeptets (unpackSeptets ud udl 0) 0).headD 0 = ud.headD 0 := by
    refine eq_of_testBit_lt (w := 8) (UInt8.toNat_lt _) (UInt8.toNat_lt _) fun k hk => ?_
    have hhead : ∀ l : List UInt8, l.getD 0 0 = l.headD 0 := fun l => by cases l <;> rfl
    have hpacked := bitAt_packSeptets (unpackLoop_lt ud udl 0) 0 k
    have hbits : bitAt 7 (unpackLoop ud udl 0) k = bitAt 8 ud (0 + k) :=
      bitAt_unpackLoop (by omega) (by omega)
    rw [Nat.zero_add] at hpacked hbits
    have hstream := hpacked.trans hbits
    have hword : ∀ l : List UInt8, bitAt 8 l k = (l.headD 0).toNat.testBit k := fun l => by
      rw [← hhead, ← bitAt_word hk, Nat.mul_zero, Nat.zero_add]
    rw [hword, hword] at hstream
    exact hstream
  unfold headerOctets
  rw [hoctet]

/-- **GSM-7.** Of complete user data the septets alone make the text. -/
theorem userText_gsm7 {dcs : UInt8} (hdcs : isGSM7DCS dcs = true) {ud : List UInt8} {udl : Nat}
    (hcomplete : 7 * udl ≤ 8 * ud.length) (hasUDH : Bool) :
    userText dcs udl hasUDH ud =
      textOf (decodeUserData dcs udl hasUDH (packSeptets (unpackSeptets ud udl 0) 0)) := by
  have hlength : (unpackSeptets ud udl 0).length = udl := length_unpackLoop (by omega)
  have hround := unpackSeptets_packSeptets (unpackLoop_lt ud udl 0) 0
  rw [show unpackLoop ud udl 0 = unpackSeptets ud udl 0 from rfl, hlength] at hround
  have hempty : ∀ {k}, udl ≤ k → decodeGSM7 ((unpackSeptets ud udl 0).drop k) = "" := fun hk => by
    rw [List.drop_eq_nil_of_le (by omega)]
    rfl
  rw [textOf_decodeUserData, length_packSeptets_zero, hlength, userText, userText, if_pos hdcs, if_pos hdcs,
    hround]
  cases hasUDH with
  | false =>
    refine Eq.trans ?_ (if_pos (Nat.zero_le _)).symm
    rfl
  | true =>
    by_cases hudl : 2 ≤ udl
    · rw [headerOctets_first hcomplete hudl]
      split
      · rfl
      · exact hempty (by omega)
    · -- not even the length of the header is there
      have hpos : ∀ ud, 1 ≤ headerOctets true ud := fun ud => Nat.le_add_left ..
      have hheader := hpos ud
      have hheader' := hpos (packSeptets (unpackSeptets ud udl 0) 0)
      rw [hempty (by omega), hempty (by omega)]
      split <;> rfl

/-! ## Octets -/

theorem length_ucs2Units : ∀ data : List UInt8, (ucs2Units data).length = data.length / 2
  | [] => rfl
  | [_] => by simp [ucs2Units]
  | a :: b :: rest => by
    rw [ucs2Units, List.length_cons, length_ucs2Units rest, List.length_cons, List.length_cons]
    omega

theorem decodeUCS2_eq (data : List UInt8) :
    decodeUCS2 data = String.ofList (Utf16.decode (ucs2Units data)) := by
  unfold decodeUCS2
  split
  · next hshort =>
    have hnil : ucs2Units data = [] := List.eq_nil_of_length_eq_zero (by rw [length_ucs2Units]; omega)
    rw [hnil]
    rfl
  · rfl

/-- The units of the front are units of the whole. -/
theorem ucs2Units_take : ∀ (data : List UInt8) (k : Nat),
    ∃ more, ucs2Units data = ucs2Units (data.take k) ++ more
  | [], _ => ⟨[], by simp [ucs2Units]⟩
  | [a], k => ⟨[], by cases k <;> simp [ucs2Units]⟩
  | a :: b :: rest, 0 => ⟨_, rfl⟩
  | a :: b :: rest, 1 => ⟨_, rfl⟩
  | a :: b :: rest, k + 2 => by
    obtain ⟨more, hmore⟩ := ucs2Units_take rest k
    refine ⟨more, ?_⟩
    rw [List.take_succ_cons, List.take_succ_cons, ucs2Units, ucs2Units, hmore, List.cons_append]

/-- Two texts are one exactly if they have as many units. -/
theorem decodeUCS2_take_eq_iff (data : List UInt8) (k : Nat) :
    decodeUCS2 data = decodeUCS2 (data.take k) ↔ data.length / 2 = (data.take k).length / 2 := by
  obtain ⟨more, hmore⟩ := ucs2Units_take data k
  have hlength := congrArg List.length hmore
  rw [List.length_append, length_ucs2Units, length_ucs2Units] at hlength
  rw [decodeUCS2_eq, decodeUCS2_eq, hmore]
  constructor
  · intro heq
    by_contra hne
    refine Utf16.decode_append_ne (fun hnil => ?_) (String.ofList_injective heq)
    rw [hnil] at hlength
    exact hne hlength
  · intro heq
    rw [List.eq_nil_of_length_eq_zero (show more.length = 0 by omega), List.append_nil]

/-- **Octets.** They are decoded to the end, so what follows must not be a unit more. -/
theorem userText_octets_iff {dcs : UInt8} (hdcs : isGSM7DCS dcs = false) {ud : List UInt8} {udl : Nat}
    (hcomplete : udl ≤ ud.length) {hasUDH : Bool} (hheader : headerOctets hasUDH ud ≤ ud.length) :
    userText dcs udl hasUDH ud = textOf (decodeUserData dcs udl hasUDH (ud.take udl)) ↔
      (ud.length - headerOctets hasUDH ud) / 2 = (udl - headerOctets hasUDH ud) / 2 := by
  have hnot : ¬ isGSM7DCS dcs = true := by
    rw [hdcs]
    exact Bool.false_ne_true
  have htake : (ud.take udl).length = udl := by rw [List.length_take, Nat.min_eq_left hcomplete]
  rw [textOf_decodeUserData, htake, userText, userText, if_neg hnot, if_neg hnot]
  by_cases hwhole : headerOctets hasUDH (ud.take udl) ≤ udl
  · have hsame : headerOctets hasUDH (ud.take udl) = headerOctets hasUDH ud := by
      cases hasUDH with
      | false => rfl
      | true =>
        cases ud with
        | nil => rw [List.take_nil]
        | cons udhl rest =>
          cases udl with
          | zero => exact absurd hwhole (by simp [headerOctets])
          | succ udl => rfl
    have hdrop := decodeUCS2_take_eq_iff (ud.drop (headerOctets hasUDH ud)) (udl - headerOctets hasUDH ud)
    rw [List.length_take, List.length_drop, Nat.min_eq_left (by omega)] at hdrop
    rw [if_pos hwhole, hsame, List.drop_take, hdrop]
  · have hshort : udl ≤ headerOctets hasUDH ud := by
      cases hasUDH with
      | false => exact absurd (Nat.zero_le _) hwhole
      | true =>
        cases ud with
        | nil =>
          rw [List.take_nil] at hwhole
          omega
        | cons udhl rest =>
          cases udl with
          | zero => exact Nat.zero_le _
          | succ udl => exact Nat.le_of_lt (Nat.not_le.mp hwhole)
    have hdrop := decodeUCS2_take_eq_iff (ud.drop (headerOctets hasUDH ud)) 0
    rw [List.take_zero, List.length_nil, List.length_drop] at hdrop
    rw [if_neg hwhole, Nat.sub_eq_zero_of_le hshort]
    exact hdrop

/-! ## What the length governs -/

/-- **The length of the user data.** It governs the text of a PDU exactly if the header of the user data
is too long, or they are complete, and outside of GSM-7 what follows makes no code unit. -/
theorem udl_governs_iff (hexPDU : List UInt8) :
    UdlGoverns hexPDU ↔ ∀ h, deliverHeader hexPDU = .ok h → headerOctets h.hasUDH h.ud ≤ h.ud.length →
      h.Complete ∧ (isGSM7DCS h.dcs = false →
        (h.ud.length - headerOctets h.hasUDH h.ud) / 2 = (h.udl - headerOctets h.hasUDH h.ud) / 2) := by
  unfold UdlGoverns
  refine forall_congr' fun h => ?_
  rw [forall_comm]
  refine forall_congr' fun hfields => ?_
  rw [parseDeliverPDU_eq, hfields]
  by_cases hheader : headerOctets h.hasUDH h.ud ≤ h.ud.length
  · obtain ⟨concat, hok⟩ := @decodeUserData_ok h.dcs h.udl h.hasUDH h.ud hheader
    -- the text does not depend on the header's elements
    have hgoverns : (∀ m, (Except.ok h : Except String DeliverHeader).bind (fun h => h.decode.map fun text =>
          ({ sender := h.sender, body := text.1, timestamp := h.timestamp,
             concat := text.2 } : ParsedMessage)) =
            .ok m → h.Complete ∧ m.body = textOf (decodeUserData h.dcs h.udl h.hasUDH h.first)) ↔
        h.Complete ∧ userText h.dcs h.udl h.hasUDH h.ud =
          textOf (decodeUserData h.dcs h.udl h.hasUDH h.first) := by
      rw [Except.bind, DeliverHeader.decode, hok]
      refine ⟨fun hall => hall _ rfl, fun hboth m hm => ?_⟩
      cases hm
      exact hboth
    rw [hgoverns]
    refine ⟨fun ⟨hcomplete, htext⟩ _ => ⟨hcomplete, fun hdcs => ?_⟩, fun hcondition => ?_⟩
    · have hnot : ¬ isGSM7DCS h.dcs = true := by
        rw [hdcs]
        exact Bool.false_ne_true
      rw [DeliverHeader.Complete, if_neg hnot] at hcomplete
      rw [DeliverHeader.first, if_neg hnot] at htext
      exact (userText_octets_iff hdcs hcomplete hheader).mp htext
    · obtain ⟨hcomplete, hunits⟩ := hcondition hheader
      refine ⟨hcomplete, ?_⟩
      cases hdcs : isGSM7DCS h.dcs with
      | true =>
        rw [DeliverHeader.Complete, if_pos hdcs] at hcomplete
        rw [DeliverHeader.first, if_pos hdcs]
        exact userText_gsm7 hdcs hcomplete h.hasUDH
      | false =>
        have hnot : ¬ isGSM7DCS h.dcs = true := by
          rw [hdcs]
          exact Bool.false_ne_true
        rw [DeliverHeader.Complete, if_neg hnot] at hcomplete
        rw [DeliverHeader.first, if_neg hnot]
        exact (userText_octets_iff hdcs hcomplete hheader).mpr (hunits hdcs)
  · obtain ⟨e, herror⟩ := @decodeUserData_error h.dcs h.udl h.hasUDH h.ud hheader
    refine iff_of_true (fun m hm => ?_) fun hfits => absurd hfits hheader
    rw [Except.bind, DeliverHeader.decode, herror] at hm
    cases hm

theorem UdlGoverns.complete {hexPDU : List UInt8} (h : UdlGoverns hexPDU) {fields : DeliverHeader}
    (hfields : deliverHeader hexPDU = .ok fields)
    (hheader : headerOctets fields.hasUDH fields.ud ≤ fields.ud.length) : fields.Complete := by
  obtain ⟨concat, hok⟩ := @decodeUserData_ok fields.dcs fields.udl fields.hasUDH fields.ud hheader
  have hparse : parseDeliverPDU hexPDU = .ok
      { sender := fields.sender, body := userText fields.dcs fields.udl fields.hasUDH fields.ud
        timestamp := fields.timestamp, concat } := by
    rw [parseDeliverPDU_eq, hfields, Except.bind, DeliverHeader.decode, hok]
    rfl
  exact (h fields _ hfields hparse).1

/-- A message in UCS-2 of two octets, with two more behind them; and one of four septets, of which there is
one. -/
theorem trailing_and_missing :
    ¬ UdlGoverns (ascii "000000810008000000000000000200410042") ∧
      ¬ UdlGoverns (ascii "000000810000000000000000000461") := by
  constructor
  · intro h
    have hgoverns := h ⟨"", zeroTimeUnixNano, 0x08, 2, false, [0x00, 0x41, 0x00, 0x42]⟩
      ⟨"", "AB", zeroTimeUnixNano, none⟩ (by decide +kernel) (by decide +kernel)
    exact absurd hgoverns.2 (by decide +kernel)
  · intro h
    have hcomplete := @UdlGoverns.complete _ h ⟨"", zeroTimeUnixNano, 0x00, 4, false, [0x61]⟩
      (by decide +kernel) (Nat.zero_le _)
    exact absurd hcomplete (by decide)

end Svarla.Sms
