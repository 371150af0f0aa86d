import Svarla.Lib.BitStream

/-!
# The GSM 03.38 codec

`modem-gateway/internal/sms/gsm7.go`: the 7-bit default alphabet with its extension table
(`gsm7Septets`, `decodeGSM7`), and the packing of septets into octets behind an optional number of
fill bits (`packSeptets`, `unpackSeptets`).

Both directions are stated without a length bound. On characters, `decodeGSM7_septets` undoes
`gsm7Septets`. On septets, the two loops are specified by the bit stream they write and read
(`bitAt_packSeptets`, `bitAt_unpackSeptets`), which makes `unpackSeptets_packSeptets` an equality
of streams. The stream form is the one `decodeUserData` needs: it unpacks from bit 0 of user data
that begins with a header, so the septets it wants are not at the front of what was packed.
-/

namespace Svarla.Sms

open Svarla.Lib

/-! ## The alphabet -/

/-- `gsm7Escape`: the septet that introduces an extension-table character. -/
def gsm7Escape : UInt8 := 0x1B

/-- `gsm7DefaultAlphabet`: the rune of each septet value, with a sentinel at the escape. -/
def gsm7DefaultAlphabet : List Char :=
  [ '@', '£', '$', '¥', 'è', 'é', 'ù', 'ì',
    'ò', 'Ç', '\n', 'Ø', 'ø', '\r', 'Å', 'å',
    'Δ', '_', 'Φ', 'Γ', 'Λ', 'Ω', 'Π', 'Ψ',
    'Σ', 'Θ', 'Ξ', Char.ofNat 0x1B, 'Æ', 'æ', 'ß', 'É',
    ' ', '!', Char.ofNat 0x22, '#', '¤', '%', '&', Char.ofNat 0x27,
    '(', ')', '*', '+', ',', '-', '.', '/',
    '0', '1', '2', '3', '4', '5', '6', '7',
    '8', '9', ':', ';', '<', '=', '>', '?',
    '¡', 'A', 'B', 'C', 'D', 'E', 'F', 'G',
    'H', 'I', 'J', 'K', 'L', 'M', 'N', 'O',
    'P', 'Q', 'R', 'S', 'T', 'U', 'V', 'W',
    'X', 'Y', 'Z', 'Ä', 'Ö', 'Ñ', 'Ü', '§',
    '¿', 'a', 'b', 'c', 'd', 'e', 'f', 'g',
    'h', 'i', 'j', 'k', 'l', 'm', 'n', 'o',
    'p', 'q', 'r', 's', 't', 'u', 'v', 'w',
    'x', 'y', 'z', 'ä', 'ö', 'ñ', 'ü', 'à' ]

/-- `gsm7Extension`: the runes reached through the escape, with the septet that follows it. -/
def gsm7Extension : List (Char × UInt8) :=
  [ (Char.ofNat 0x0C, 0x0A), ('^', 0x14), (Char.ofNat 0x7B, 0x28), (Char.ofNat 0x7D, 0x29),
    (Char.ofNat 0x5C, 0x2F), ('[', 0x3C), ('~', 0x3D), (']', 0x3E), ('|', 0x40), ('€', 0x65) ]

/-- `gsm7DefaultReverse`: the first septet of the default alphabet with this rune, the escape slot
excluded. -/
def gsm7DefaultReverse (r : Char) : Option UInt8 :=
  (gsm7DefaultAlphabet.zipIdx.find? fun p => p.2 != gsm7Escape.toNat && p.1 == r).map
    fun p => UInt8.ofNat p.2

/-- A lookup in `gsm7Extension`. -/
def gsm7ExtensionLookup (r : Char) : Option UInt8 :=
  gsm7Extension.lookup r

/-- `gsm7ExtensionReverse`: the rune of an extension septet. -/
def gsm7ExtensionReverse (code : UInt8) : Option Char :=
  (gsm7Extension.find? fun p => p.2 == code).map (·.1)

/-- `CanEncodeGSM7`: every rune is in the default alphabet or the extension table. -/
def canEncodeGSM7 (text : String) : Bool :=
  text.toList.all fun r => (gsm7DefaultReverse r).isSome || (gsm7ExtensionLookup r).isSome

/-- The loop of `gsm7Septets`, which gives up at the first rune outside both tables. -/
def gsm7SeptetsLoop : List Char → Option (List UInt8)
  | [] => some []
  | r :: rest =>
    match gsm7DefaultReverse r with
    | some code => (gsm7SeptetsLoop rest).map (code :: ·)
    | none =>
      match gsm7ExtensionLookup r with
      | some code => (gsm7SeptetsLoop rest).map (gsm7Escape :: code :: ·)
      | none => none

/-- `gsm7Septets`: the septets of a string, two for a rune of the extension table. -/
def gsm7Septets (text : String) : Option (List UInt8) :=
  gsm7SeptetsLoop text.toList

/-- The loop of `decodeGSM7`. A dangling or unknown escape becomes a space. -/
def decodeGSM7Loop : List UInt8 → List Char
  | [] => []
  | s :: rest =>
    if s = gsm7Escape then
      match rest with
      | [] => [' ']
      | code :: rest' => (gsm7ExtensionReverse code).getD ' ' :: decodeGSM7Loop rest'
    else
      match gsm7DefaultAlphabet[s.toNat]? with
      | some r => r :: decodeGSM7Loop rest
      | none => decodeGSM7Loop rest

/-- `decodeGSM7`: the string of a list of septets. -/
def decodeGSM7 (septets : List UInt8) : String :=
  String.ofList (decodeGSM7Loop septets)

/-- A septet the reverse table gives is a septet, is not the escape, and holds the rune. -/
theorem gsm7DefaultReverse_spec {r : Char} {c : UInt8} (h : gsm7DefaultReverse r = some c) :
    c.toNat < 128 ∧ c ≠ gsm7Escape ∧ gsm7DefaultAlphabet[c.toNat]? = some r := by
  unfold gsm7DefaultReverse at h
  rw [Option.map_eq_some_iff] at h
  obtain ⟨⟨r', i⟩, hfind, rfl⟩ := h
  have hmem := List.mem_of_find?_eq_some hfind
  have hsome := List.find?_some hfind
  obtain ⟨hi, hget⟩ := List.mem_zipIdx' hmem
  simp only [Bool.and_eq_true, bne_iff_ne, ne_eq, beq_iff_eq] at hsome
  obtain ⟨hesc, rfl⟩ := hsome
  have hlen : gsm7DefaultAlphabet.length = 128 := rfl
  have hto : (UInt8.ofNat i).toNat = i := by
    rw [UInt8.toNat_ofNat']
    exact Nat.mod_eq_of_lt (by omega)
  refine ⟨by dsimp only; omega, fun he => hesc (by rw [← he, hto]), ?_⟩
  rw [hto, List.getElem?_eq_getElem (by omega), hget]

/-- The extension table is injective on septets, and its septets are septets. -/
theorem gsm7Extension_spec {r : Char} {c : UInt8} (h : gsm7ExtensionLookup r = some c) :
    c.toNat < 128 ∧ gsm7ExtensionReverse c = some r := by
  have hall : ∀ p ∈ gsm7Extension, p.2.toNat < 128 ∧ gsm7ExtensionReverse p.2 = some p.1 := by
    decide
  have hmem : (r, c) ∈ gsm7Extension := by
    unfold gsm7ExtensionLookup at h
    obtain ⟨l₁, l₂, heq, -⟩ := List.lookup_eq_some_iff.mp h
    rw [heq]
    simp
  exact hall (r, c) hmem

/-- The escape is a septet. -/
theorem gsm7Escape_lt : gsm7Escape.toNat < 128 := by decide

/-- What the septet loop puts out is septets. -/
theorem gsm7SeptetsLoop_lt {text : List Char} {ss : List UInt8}
    (h : gsm7SeptetsLoop text = some ss) : ∀ s ∈ ss, s.toNat < 128 := by
  induction text generalizing ss with
  | nil => cases h; simp
  | cons r rest ih =>
    unfold gsm7SeptetsLoop at h
    split at h
    · next code hd =>
      obtain ⟨tl, htl, rfl⟩ := Option.map_eq_some_iff.mp h
      simpa using ⟨(gsm7DefaultReverse_spec hd).1, ih htl⟩
    · split at h
      · next code he =>
        obtain ⟨tl, htl, rfl⟩ := Option.map_eq_some_iff.mp h
        simpa using ⟨gsm7Escape_lt, (gsm7Extension_spec he).1, ih htl⟩
      · cases h

/-- Decoding undoes the septet loop, escape pairs included. -/
theorem decodeGSM7Loop_septets {text : List Char} {ss : List UInt8}
    (h : gsm7SeptetsLoop text = some ss) : decodeGSM7Loop ss = text := by
  induction text generalizing ss with
  | nil => cases h; rfl
  | cons r rest ih =>
    unfold gsm7SeptetsLoop at h
    split at h
    · next code hd =>
      obtain ⟨tl, htl, rfl⟩ := Option.map_eq_some_iff.mp h
      obtain ⟨-, hne, hget⟩ := gsm7DefaultReverse_spec hd
      unfold decodeGSM7Loop
      simp [hne, hget, ih htl]
    · split at h
      · next code he =>
        obtain ⟨tl, htl, rfl⟩ := Option.map_eq_some_iff.mp h
        unfold decodeGSM7Loop
        simp [(gsm7Extension_spec he).2, ih htl]
      · cases h

/-- **Characters round trip.** `decodeGSM7` undoes `gsm7Septets`. -/
theorem decodeGSM7_septets {text : String} {ss : List UInt8} (h : gsm7Septets text = some ss) :
    decodeGSM7 ss = text := by
  unfold decodeGSM7
  rw [decodeGSM7Loop_septets h, String.ofList_toList]

/-- `CanEncodeGSM7` decides whether `gsm7Septets` succeeds. -/
theorem gsm7SeptetsLoop_isSome (text : List Char) : (gsm7SeptetsLoop text).isSome =
    text.all fun r => (gsm7DefaultReverse r).isSome || (gsm7ExtensionLookup r).isSome := by
  induction text with
  | nil => rfl
  | cons r rest ih =>
    unfold gsm7SeptetsLoop
    rw [List.all_cons, ← ih]
    split
    · next hd => simp [hd]
    · next hd =>
      split
      · next he => simp [hd, he]
      · next he => simp [hd, he]

/-- `CanEncodeGSM7` decides whether `gsm7Septets` succeeds. -/
theorem gsm7Septets_isSome (text : String) :
    (gsm7Septets text).isSome = canEncodeGSM7 text :=
  gsm7SeptetsLoop_isSome text.toList

/-- The septets of an append are the appended septets. -/
theorem gsm7SeptetsLoop_append {a b : List Char} {sa sb : List UInt8}
    (ha : gsm7SeptetsLoop a = some sa) (hb : gsm7SeptetsLoop b = some sb) :
    gsm7SeptetsLoop (a ++ b) = some (sa ++ sb) := by
  induction a generalizing sa with
  | nil => cases ha; simpa using hb
  | cons r rest ih =>
    unfold gsm7SeptetsLoop at ha
    rw [List.cons_append]
    unfold gsm7SeptetsLoop
    split at ha
    · obtain ⟨tl, htl, rfl⟩ := Option.map_eq_some_iff.mp ha
      simp [*, ih htl]
    · split at ha
      · obtain ⟨tl, htl, rfl⟩ := Option.map_eq_some_iff.mp ha
        simp [*, ih htl]
      · cases ha

/-! ## Packing -/

/-- One iteration of `packSeptets`: the septet's low bits go into the current octet, what does not
fit spills into the next. -/
def packStep (numOctets : Nat) (st : List UInt8 × Nat) (septet : UInt8) : List UInt8 × Nat :=
  let s := septet &&& 0x7F
  let octetIdx := st.2 / 8
  let bitInOctet := st.2 % 8
  let out := orAt st.1 octetIdx (s <<< UInt8.ofNat bitInOctet)
  let out :=
    if 1 < bitInOctet ∧ octetIdx + 1 < numOctets then
      orAt out (octetIdx + 1) (s >>> UInt8.ofNat (8 - bitInOctet))
    else if bitInOctet = 1 ∧ octetIdx + 1 < numOctets then
      orAt out (octetIdx + 1) (s >>> 7)
    else out
  (out, st.2 + 7)

/-- `packSeptets`: septets into octets, behind `fillBits` padding bits. -/
def packSeptets (septets : List UInt8) (fillBits : Nat) : List UInt8 :=
  if septets = [] then
    if 0 < fillBits then [0x00] else []
  else
    let totalBits := fillBits + septets.length * 7
    let numOctets := (totalBits + 7) / 8
    (septets.foldl (packStep numOctets) (List.replicate numOctets 0, fillBits)).1

/-- The septet `unpackSeptets` reads at a bit position, before the mask. -/
def unpackVal (data : List UInt8) (bitPos : Nat) : Nat :=
  let octetIdx := bitPos / 8
  let bitInOctet := bitPos % 8
  let val := (data.getD octetIdx 0).toNat >>> bitInOctet
  if 1 < bitInOctet ∧ octetIdx + 1 < data.length then
    val ||| (data.getD (octetIdx + 1) 0).toNat <<< (8 - bitInOctet)
  else if bitInOctet = 1 ∧ octetIdx + 1 < data.length then
    val ||| (data.getD (octetIdx + 1) 0).toNat <<< 7
  else val

/-- The loop of `unpackSeptets`, which stops early when the octets run out. -/
def unpackLoop (data : List UInt8) : Nat → Nat → List UInt8
  | 0, _ => []
  | n + 1, bitPos =>
    if data.length ≤ bitPos / 8 then []
    else UInt8.ofNat (unpackVal data bitPos &&& 0x7F) :: unpackLoop data n (bitPos + 7)

/-- `unpackSeptets`: at most `septetCount` septets out of packed octets. -/
def unpackSeptets (data : List UInt8) (septetCount fillBits : Nat) : List UInt8 :=
  unpackLoop data septetCount fillBits

/-- The mask `s &= 0x7F` keeps a septet. -/
theorem mask_septet {s : UInt8} (hs : s.toNat < 128) : s &&& 0x7F = s := by
  apply UInt8.toNat_inj.mp
  rw [UInt8.toNat_and]
  exact (Nat.and_two_pow_sub_one_eq_mod s.toNat 7).trans (Nat.mod_eq_of_lt hs)

@[simp] theorem length_packStep (n : Nat) (st : List UInt8 × Nat) (s : UInt8) :
    (packStep n st s).1.length = st.1.length := by
  unfold packStep
  dsimp only
  split
  · simp
  · split <;> simp

/-- One iteration sets exactly the septet's bits, at the current position of the stream. -/
theorem bitAt_packStep (out : List UInt8) (pos : Nat) {s : UInt8} (hs : s.toNat < 128)
    (hpos : pos + 7 ≤ 8 * out.length) (j : Nat) :
    bitAt 8 (packStep out.length (out, pos) s).1 j =
      (bitAt 8 out j || (decide (pos ≤ j ∧ j < pos + 7) && s.toNat.testBit (j - pos))) := by
  have hs7 : ∀ k, 7 ≤ k → s.toNat.testBit k = false := fun k hk =>
    testBit_of_lt (w := 7) hs hk
  have hi : pos / 8 < out.length := by omega
  -- the bit `s << b` contributes to octet `pos / 8`
  have hlow : (decide (j / 8 = pos / 8) && (s <<< UInt8.ofNat (pos % 8)).toNat.testBit (j % 8)) =
      (decide (j / 8 = pos / 8 ∧ pos ≤ j) && s.toNat.testBit (j - pos)) := by
    rw [testBit_shiftUp s (by omega) (by omega)]
    by_cases hj : j / 8 = pos / 8
    · have hsub : j % 8 - pos % 8 = j - pos := by omega
      have hle : (pos % 8 ≤ j % 8) ↔ pos ≤ j := by omega
      simp [hj, hsub, hle]
    · simp [hj]
  -- the bit `s >> (8 - b)` contributes to the octet after it
  have hhigh : 1 ≤ pos % 8 →
      (decide (j / 8 = pos / 8 + 1) &&
        (s >>> UInt8.ofNat (8 - pos % 8)).toNat.testBit (j % 8)) =
      (decide (j / 8 = pos / 8 + 1) && s.toNat.testBit (j - pos)) := by
    intro hb
    rw [testBit_shiftDown s (by omega)]
    by_cases hj : j / 8 = pos / 8 + 1
    · have hsub : 8 - pos % 8 + j % 8 = j - pos := by omega
      simp [hj, hsub]
    · simp [hj]
  -- past the septet's seven bits neither octet gets anything
  have hwindow : ∀ p : Prop, [Decidable p] → (p → pos ≤ j) →
      (pos ≤ j → j < pos + 7 → p) →
      (decide p && s.toNat.testBit (j - pos)) =
        (decide (pos ≤ j ∧ j < pos + 7) && s.toNat.testBit (j - pos)) := by
    intro p _ h1 h2
    by_cases hw : pos ≤ j ∧ j < pos + 7
    · simp [hw, h2 hw.1 hw.2]
    · by_cases hp : p
      · have := hs7 (j - pos) (by have := h1 hp; omega)
        simp [this]
      · simp [hp, hw]
  unfold packStep
  simp only [mask_septet hs]
  by_cases hspill : 1 < pos % 8 ∧ pos / 8 + 1 < out.length
  · rw [if_pos hspill, bitAt_orAt _ (by simpa using hspill.2), bitAt_orAt _ hi, hlow,
      hhigh (by omega), Bool.or_assoc, ← Bool.and_or_distrib_right, ← Bool.decide_or]
    congr 1
    exact hwindow _ (by omega) (by omega)
  · have hfit : bitAt 8 (orAt out (pos / 8) (s <<< UInt8.ofNat (pos % 8))) j =
        (bitAt 8 out j || (decide (pos ≤ j ∧ j < pos + 7) && s.toNat.testBit (j - pos))) := by
      rw [bitAt_orAt _ hi, hlow]
      congr 1
      exact hwindow _ (by omega) (by omega)
    rw [if_neg hspill]
    split
    · next hone =>
      -- `s >> 7` has no bit left
      have hzero : (s >>> 7).toNat.testBit (j % 8) = false := by
        rw [show (7 : UInt8) = UInt8.ofNat 7 from rfl, testBit_shiftDown s (by omega)]
        exact hs7 _ (by omega)
      rw [bitAt_orAt _ (by simpa using hone.2), hfit, hzero, Bool.and_false, Bool.or_false]
    · exact hfit

/-- The loop of `packSeptets` writes the septets' stream at the position it starts from. -/
theorem bitAt_foldl_packStep (ss out : List UInt8) (pos : Nat) (hss : ∀ s ∈ ss, s.toNat < 128)
    (hpos : pos + 7 * ss.length ≤ 8 * out.length) (j : Nat) :
    bitAt 8 (ss.foldl (packStep out.length) (out, pos)).1 j =
      (bitAt 8 out j || (decide (pos ≤ j) && bitAt 7 ss (j - pos))) := by
  induction ss generalizing out pos with
  | nil => simp [bitAt]
  | cons s rest ih =>
    rw [List.length_cons] at hpos
    have hstep := bitAt_packStep out pos (hss s List.mem_cons_self) (by omega) j
    have hlen := length_packStep out.length (out, pos) s
    have hrest := ih (packStep out.length (out, pos) s).1 (pos + 7)
      (fun x hx => hss x (List.mem_cons_of_mem _ hx)) (by rw [hlen]; dsimp only; omega)
    rw [hlen] at hrest
    rw [List.foldl_cons]
    refine (hrest.trans ?_)
    rw [hstep, Bool.or_assoc]
    congr 1
    -- the first septet owns seven places, the rest of the stream follows
    by_cases hlt : j < pos
    · simp [show ¬ pos ≤ j by omega, show ¬ pos + 7 ≤ j by omega]
    · by_cases hin : j < pos + 7
      · have hword : bitAt 7 (s :: rest) (j - pos) = s.toNat.testBit (j - pos) := by
          have := bitAt_word (w := 7) (k := j - pos) (by omega) (s :: rest) 0
          simpa using this
        simp [show pos ≤ j by omega, hin, show ¬ pos + 7 ≤ j by omega, hword]
      · have hshift : bitAt 7 (s :: rest) (j - pos) = bitAt 7 rest (j - (pos + 7)) := by
          have := bitAt_append_right (w := 7) (by decide) [s] rest (j - (pos + 7))
          rw [List.length_singleton, show 7 * 1 + (j - (pos + 7)) = j - pos by omega] at this
          exact this
        simp [show pos ≤ j by omega, hin, show pos + 7 ≤ j by omega, hshift]

/-- The octets `packSeptets` produces hold the fill bits and every septet. -/
theorem length_packSeptets {ss : List UInt8} (hss : ss ≠ []) (fill : Nat) :
    (packSeptets ss fill).length = (fill + 7 * ss.length + 7) / 8 := by
  unfold packSeptets
  have hfold : ∀ (n : Nat) (l : List UInt8) (st : List UInt8 × Nat),
      (l.foldl (packStep n) st).1.length = st.1.length := by
    intro n l
    induction l with
    | nil => intro st; rfl
    | cons s rest ih => intro st; rw [List.foldl_cons, ih, length_packStep]
  rw [if_neg hss]
  simp [hfold, Nat.mul_comm]

/-- **What `packSeptets` writes**: behind the fill bits, the septets' stream. -/
theorem bitAt_packSeptets {ss : List UInt8} (hss : ∀ s ∈ ss, s.toNat < 128) (fill j : Nat) :
    bitAt 8 (packSeptets ss fill) (fill + j) = bitAt 7 ss j := by
  by_cases hnil : ss = []
  · subst hnil
    have hzero : ∀ n k, bitAt 8 (List.replicate n 0) k = false := bitAt_replicate_zero 8
    have hnone : bitAt 7 [] j = false := by simp [bitAt]
    unfold packSeptets
    rw [if_pos rfl, hnone]
    split
    · exact hzero 1 _
    · exact hzero 0 _
  · unfold packSeptets
    rw [if_neg hnil]
    have hfold := bitAt_foldl_packStep ss
      (List.replicate ((fill + ss.length * 7 + 7) / 8) 0) fill hss
      (by rw [List.length_replicate]; omega) (fill + j)
    rw [List.length_replicate] at hfold
    simpa using hfold

/-- The bits of the septet read at a position are the stream's next seven. -/
theorem testBit_unpackVal (data : List UInt8) (pos : Nat) {k : Nat} (hk : k < 7) :
    (unpackVal data pos).testBit k = bitAt 8 data (pos + k) := by
  have hlow : ((data.getD (pos / 8) 0).toNat >>> (pos % 8)).testBit k =
      (data.getD (pos / 8) 0).toNat.testBit (pos % 8 + k) := Nat.testBit_shiftRight _
  -- a bit read past the current octet's eighth comes from the next octet
  by_cases hin : pos % 8 + k < 8
  · have hcur : bitAt 8 data (pos + k) = (data.getD (pos / 8) 0).toNat.testBit (pos % 8 + k) := by
      have := bitAt_word hin data (pos / 8)
      rwa [show 8 * (pos / 8) + (pos % 8 + k) = pos + k by omega] at this
    unfold unpackVal
    dsimp only
    rw [hcur]
    split
    · rw [Nat.testBit_or, hlow, Nat.testBit_shiftLeft]
      simp [show ¬ 8 - pos % 8 ≤ k by omega]
    · split
      · rw [Nat.testBit_or, hlow, Nat.testBit_shiftLeft]
        simp [show ¬ 7 ≤ k by omega]
      · exact hlow
  · have hnext : bitAt 8 data (pos + k) =
        (data.getD (pos / 8 + 1) 0).toNat.testBit (pos % 8 + k - 8) := by
      have := bitAt_word (w := 8) (k := pos % 8 + k - 8) (by omega) data (pos / 8 + 1)
      rwa [show 8 * (pos / 8 + 1) + (pos % 8 + k - 8) = pos + k by omega] at this
    have hnone : (data.getD (pos / 8) 0).toNat.testBit (pos % 8 + k) = false :=
      testBit_of_lt (w := 8) (UInt8.toNat_lt _) (by omega)
    unfold unpackVal
    dsimp only
    rw [hnext]
    split
    · rw [Nat.testBit_or, hlow, hnone, Nat.testBit_shiftLeft]
      simp [show 8 - pos % 8 ≤ k by omega, show k - (8 - pos % 8) = pos % 8 + k - 8 by omega]
    · next hspill =>
      rw [if_neg (by omega), hlow, hnone]
      rw [List.getD_eq_default _ _ (by omega)]
      simp

/-- What the mask leaves is a septet with the same low bits. -/
theorem testBit_masked (v : Nat) {k : Nat} (hk : k < 7) :
    (UInt8.ofNat (v &&& 0x7F)).toNat.testBit k = v.testBit k := by
  have hand : v &&& 0x7F = v % 2 ^ 7 := Nat.and_two_pow_sub_one_eq_mod v 7
  rw [UInt8.toNat_ofNat', hand, Nat.mod_eq_of_lt (by omega), Nat.testBit_mod_two_pow]
  simp [hk]

/-- The septets `unpackSeptets` gives are septets. -/
theorem unpackLoop_lt (data : List UInt8) (n pos : Nat) :
    ∀ s ∈ unpackLoop data n pos, s.toNat < 128 := by
  induction n generalizing pos with
  | zero => simp [unpackLoop]
  | succ n ih =>
    unfold unpackLoop
    split
    · simp
    · have hand : unpackVal data pos &&& 0x7F < 128 := Nat.and_lt_two_pow (n := 7) _ (by decide)
      intro s hs
      rcases List.mem_cons.mp hs with rfl | hs
      · rw [UInt8.toNat_ofNat', Nat.mod_eq_of_lt (by omega)]
        exact hand
      · exact ih _ s hs

/-- With enough octets, as many septets come out as are asked for. -/
theorem length_unpackLoop {data : List UInt8} {n pos : Nat} (h : pos + 7 * n ≤ 8 * data.length) :
    (unpackLoop data n pos).length = n := by
  induction n generalizing pos with
  | zero => rfl
  | succ n ih =>
    unfold unpackLoop
    rw [if_neg (by omega), List.length_cons, ih (by omega)]

/-- Unpacking asks for more septets by asking for the first ones and then for the rest. -/
theorem unpackLoop_add {data : List UInt8} {m n pos : Nat} (h : pos + 7 * m ≤ 8 * data.length) :
    unpackLoop data (m + n) pos = unpackLoop data m pos ++ unpackLoop data n (pos + 7 * m) := by
  induction m generalizing pos with
  | zero => simp [unpackLoop]
  | succ m ih =>
    rw [show m + 1 + n = (m + n) + 1 by omega]
    unfold unpackLoop
    rw [if_neg (by omega), if_neg (by omega), List.cons_append, ih (by omega),
      show pos + 7 + 7 * m = pos + 7 * (m + 1) by omega]
    cases n <;> rfl

/-- **What `unpackSeptets` reads**: the stream from the position it starts at. -/
theorem bitAt_unpackLoop {data : List UInt8} {n pos : Nat} (h : pos + 7 * n ≤ 8 * data.length)
    {j : Nat} (hj : j < 7 * n) : bitAt 7 (unpackLoop data n pos) j = bitAt 8 data (pos + j) := by
  induction n generalizing pos j with
  | zero => omega
  | succ n ih =>
    unfold unpackLoop
    rw [if_neg (by omega)]
    by_cases hk : j < 7
    · have hword := bitAt_word hk
        (UInt8.ofNat (unpackVal data pos &&& 0x7F) :: unpackLoop data n (pos + 7)) 0
      rw [Nat.mul_zero, Nat.zero_add] at hword
      rw [hword, List.getD_cons_zero, testBit_masked _ hk, testBit_unpackVal data pos hk]
    · have hrest := bitAt_append_right (w := 7) (by decide)
        [UInt8.ofNat (unpackVal data pos &&& 0x7F)] (unpackLoop data n (pos + 7)) (j - 7)
      rw [List.length_singleton, show 7 * 1 + (j - 7) = j by omega] at hrest
      rw [List.singleton_append] at hrest
      rw [hrest, ih (by omega) (by omega), show pos + 7 + (j - 7) = pos + j by omega]

/-- Septets whose stream stands in the octets at a position are what unpacking there gives. -/
theorem unpackLoop_eq {data ss : List UInt8} {pos : Nat} (hss : ∀ s ∈ ss, s.toNat < 128)
    (hlen : pos + 7 * ss.length ≤ 8 * data.length)
    (h : ∀ j < 7 * ss.length, bitAt 8 data (pos + j) = bitAt 7 ss j) :
    unpackLoop data ss.length pos = ss := by
  apply ext_of_bitAt (w := 7) (length_unpackLoop hlen) (unpackLoop_lt data _ _) hss
  intro j hj
  rw [length_unpackLoop hlen] at hj
  rw [bitAt_unpackLoop hlen hj, h j hj]

/-- Packed octets hold the fill bits and the septets. -/
theorem fill_add_le_packSeptets (ss : List UInt8) {fill : Nat} (hfill : fill ≤ 8) :
    fill + 7 * ss.length ≤ 8 * (packSeptets ss fill).length := by
  by_cases hnil : ss = []
  · subst hnil
    unfold packSeptets
    rw [if_pos rfl]
    split <;> simp <;> omega
  · rw [length_packSeptets hnil]
    omega

/-- **Septets round trip**, at any number of fill bits. -/
theorem unpackSeptets_packSeptets {ss : List UInt8} (hss : ∀ s ∈ ss, s.toNat < 128) (fill : Nat) :
    unpackSeptets (packSeptets ss fill) ss.length fill = ss := by
  by_cases hnil : ss = []
  · subst hnil; rfl
  · apply unpackLoop_eq hss
    · rw [length_packSeptets hnil]
      omega
    · intro j _
      exact bitAt_packSeptets hss fill j

/-- **The codec is invertible**: the septets behind their fill bits, and the text behind its septets. -/
theorem codec_invertible :
    (∀ septets : List UInt8, (∀ s ∈ septets, s < 128) → ∀ fillBits ≤ 6,
      unpackSeptets (packSeptets septets fillBits) septets.length fillBits = septets) ∧
    ∀ text, canEncodeGSM7 text = true → (gsm7Septets text).map decodeGSM7 = some text := by
  constructor
  · intro septets hseptets fillBits _
    exact unpackSeptets_packSeptets (fun s hs => UInt8.lt_iff_toNat_lt.mp (hseptets s hs)) fillBits
  · intro text htext
    rw [← gsm7Septets_isSome, Option.isSome_iff_exists] at htext
    obtain ⟨septets, hseptets⟩ := htext
    rw [hseptets, Option.map_some, decodeGSM7_septets hseptets]

theorem codec_invertible_euro :
    unpackSeptets (packSeptets [0x1B, 0x65] 3) 2 3 = [0x1B, 0x65] ∧
      (gsm7Septets (String.ofList ['€'])).map decodeGSM7 = some (String.ofList ['€']) :=
  ⟨codec_invertible.1 [0x1B, 0x65]
      (fun s hs => by
        rcases List.mem_cons.mp hs with rfl | hs
        · decide
        · rw [List.mem_singleton.mp hs]
          decide)
      3 (by decide),
    codec_invertible.2 (String.ofList ['€']) (by decide)⟩

end Svarla.Sms
