import Svarla.Lib.Pieces
import Svarla.Sms.RoundTrip

/-!
# How many parts a message has

`concatUDH` writes the number of parts and the place of a part into an octet each, and nobody bounds
them. Both splitters take pieces as long as they get, so a body needs more than 255 parts exactly if its
characters cannot be cut into 255 pieces that fit (`length_parts_le_iff`), and then the headers are wrong
(`numbered_iff`). What a part carries is right for any body.
-/

namespace Svarla.Sms

open Svarla.Lib

/-! ## The splitters are greedy -/

/-- What `splitGSM7`'s loop keeps of its pieces. -/
structure SplitCost (maxSeptets : Nat) (done : List Char) (st : SplitState) : Prop where
  spells : (st.chunks.map String.toList).flatten ++ st.cur.toList = done
  count : st.curSeptets = pieceCost septetCost st.cur.toList
  count_le : st.curSeptets ≤ maxSeptets
  chunks_le : ∀ chunk ∈ st.chunks, pieceCost septetCost chunk.toList ≤ maxSeptets

theorem SplitCost.step {maxSeptets : Nat} (hmax : 2 ≤ maxSeptets) {done : List Char} {st : SplitState}
    (h : SplitCost maxSeptets done st) (r : Char) :
    SplitCost maxSeptets (done ++ [r]) (splitGSM7Step maxSeptets st r) := by
  have hcost := septetCost_le r
  unfold splitGSM7Step
  dsimp only
  split
  · refine ⟨?_, by simp, by dsimp only; omega, fun chunk hmem => ?_⟩
    · simp [← h.spells]
    · obtain hmem | hmem := List.mem_append.mp hmem
      · exact h.chunks_le chunk hmem
      · rw [List.mem_singleton.mp hmem, ← h.count]
        exact h.count_le
  · refine ⟨?_, by simp [h.count], by dsimp only; omega, h.chunks_le⟩
    rw [← h.spells, String.toList_push, List.append_assoc]

/-- The chunks at the end of the loop. -/
def SplitState.all (st : SplitState) : List String :=
  if st.cur ≠ "" then st.chunks ++ [st.cur] else st.chunks

/-- As many chunks as a cut of what is left has pieces. -/
theorem SplitCost.length_le {maxSeptets : Nat} (hmax : 2 ≤ maxSeptets) {done text : List Char} {n : Nat}
    {st : SplitState} (h : SplitCost maxSeptets done st)
    (hcuts : Cuts septetCost maxSeptets n (st.cur.toList ++ text)) :
    (text.foldl (splitGSM7Step maxSeptets) st).all.length ≤ st.chunks.length + n := by
  induction text generalizing st done n with
  | nil =>
    rw [List.foldl_nil, SplitState.all]
    split
    · next hne =>
      have hpos := hcuts.pos (by simpa using hne)
      rw [List.length_append, List.length_singleton]
      omega
    · exact Nat.le_add_right ..
  | cons r text ih =>
    rw [List.foldl_cons]
    have hnext := ih (h.step hmax r) (n := if maxSeptets < st.curSeptets + septetCost r then n - 1 else n)
    have hpos := hcuts.pos (by simp)
    unfold splitGSM7Step at hnext ⊢
    dsimp only at hnext ⊢
    by_cases hfull : maxSeptets < st.curSeptets + septetCost r
    · -- the current chunk cannot be longer
      rw [if_pos hfull, if_pos hfull] at hnext
      rw [if_pos hfull]
      refine (hnext ?_).trans ?_
      · have hrest := hcuts.of_full fun x rest heq => by
          cases heq
          rw [← h.count]
          exact hfull
        simpa using hrest
      · rw [List.length_append, List.length_singleton]
        omega
    · rw [if_neg hfull, if_neg hfull] at hnext
      rw [if_neg hfull]
      exact hnext (by simpa using hcuts)

theorem SplitCost.foldl {maxSeptets : Nat} (hmax : 2 ≤ maxSeptets) {done : List Char}
    {st : SplitState} (h : SplitCost maxSeptets done st) (text : List Char) :
    SplitCost maxSeptets (done ++ text) (text.foldl (splitGSM7Step maxSeptets) st) := by
  induction text generalizing done st with
  | nil => simpa using h
  | cons r text ih =>
    have hrest := ih (h.step hmax r)
    rwa [List.append_assoc, List.singleton_append] at hrest

/-- **GSM-7.** -/
theorem length_splitGSM7_le_iff {text : String} {maxSeptets n : Nat} (hmax : 2 ≤ maxSeptets) :
    (splitGSM7 text maxSeptets).length ≤ n ↔ Cuts septetCost maxSeptets n text.toList := by
  have hstart : SplitCost maxSeptets [] ⟨[], "", 0⟩ := ⟨rfl, rfl, Nat.zero_le _, nofun⟩
  have hall : splitGSM7 text maxSeptets =
      (text.toList.foldl (splitGSM7Step maxSeptets) ⟨[], "", 0⟩).all := rfl
  constructor
  · intro hlength
    have hend := hstart.foldl hmax text.toList
    refine ⟨(splitGSM7 text maxSeptets).map String.toList, ?_, by rwa [List.length_map], ?_⟩
    · rw [hall, SplitState.all]
      have hspells := hend.spells
      rw [List.nil_append] at hspells
      refine Eq.trans ?_ hspells
      split
      · simp
      · next hempty => simp [Classical.not_not.mp hempty]
    · intro piece hmem
      obtain ⟨chunk, hchunk, rfl⟩ := List.mem_map.mp hmem
      rw [hall, SplitState.all] at hchunk
      split at hchunk
      · obtain hchunk | hchunk := List.mem_append.mp hchunk
        · exact hend.chunks_le chunk hchunk
        · rw [List.mem_singleton.mp hchunk, ← hend.count]
          exact hend.count_le
      · exact hend.chunks_le chunk hchunk
  · intro hcuts
    rw [hall]
    exact (hstart.length_le hmax hcuts).trans (by simp)

/-- The units of a rune. -/
def unitCost (r : Char) : Nat := (Utf16.encodeRune r).length

theorem unitCost_pos (r : Char) : 0 < unitCost r := by
  unfold unitCost Utf16.encodeRune
  split <;> simp

theorem pieceCost_unitCost (runes : List Char) :
    pieceCost unitCost runes = (Utf16.encode runes).length := by
  induction runes with
  | nil => rfl
  | cons r runes ih => rw [pieceCost_cons, Utf16.encode_cons, List.length_append, ih, unitCost]

/-- **UCS-2.** -/
theorem length_splitUCS2_le_iff {maxUnits n : Nat} (hmax : 2 ≤ maxUnits) (runes : List Char) :
    (splitUCS2 maxUnits (Utf16.encode runes)).length ≤ n ↔ Cuts unitCost maxUnits n runes := by
  constructor
  · intro hlength
    obtain ⟨runs, hsplit, hflat, hfit⟩ := splitUCS2_spec hmax runes
    rw [hsplit, List.length_map] at hlength
    exact ⟨runs, hflat, hlength, fun run hrun => (pieceCost_unitCost run).trans_le (hfit run hrun)⟩
  · intro hcuts
    induction hn : (Utf16.encode runes).length using Nat.strong_induction_on generalizing runes n with
    | _ k ih =>
      rw [splitUCS2]
      split
      · next hmore =>
        obtain ⟨front, back, rfl, htake, hdrop⟩ := chunkEnd_split maxUnits runes
        obtain ⟨hpos, hle⟩ := chunkEnd_bounds hmax hmore.1
        have hfront : pieceCost unitCost front = chunkEnd maxUnits (Utf16.encode (front ++ back)) := by
          have hend : chunkEnd maxUnits (Utf16.encode (front ++ back)) ≤
              (Utf16.encode (front ++ back)).length := by
            unfold chunkEnd
            dsimp only
            split <;> omega
          rw [pieceCost_unitCost, ← htake, List.length_take, Nat.min_eq_left hend]
        -- the next rune does not fit, or it is a pair of which only the first unit would
        have hfull : ∀ x rest, back = x :: rest → maxUnits < pieceCost unitCost front + unitCost x := by
          rintro x rest rfl
          have hunit := unitCost_pos x
          have hlength : (Utf16.encode (front ++ x :: rest)).length =
              pieceCost unitCost front + unitCost x + (Utf16.encode rest).length := by
            rw [← pieceCost_unitCost, pieceCost_append, pieceCost_cons, pieceCost_unitCost rest,
              Nat.add_assoc]
          have hchunk := hfront
          unfold chunkEnd at hchunk
          dsimp only at hchunk
          split at hchunk
          · next hhigh =>
            obtain ⟨hlt, hany⟩ := hhigh
            obtain ⟨u, hu, hu'⟩ := (Option.any_eq_true _ _).mp hany
            have hpair : unitCost x = 2 := by
              obtain ⟨v, hv, hnot, -⟩ | ⟨v, w, hvw, -⟩ := Utf16.encodeRune_cases x
              · have hhead : (Utf16.encode (front ++ x :: rest)).drop (pieceCost unitCost front) =
                    v :: Utf16.encode rest := by
                  rw [hfront, hdrop, Utf16.encode_cons, hv, List.singleton_append]
                rw [← hchunk] at hu
                have hget : (Utf16.encode (front ++ x :: rest))[pieceCost unitCost front]? = some v := by
                  rw [← Nat.add_zero (pieceCost unitCost front), ← List.getElem?_drop, hhead]
                  rfl
                rw [hget] at hu
                cases hu
                exact absurd ((isHighSurrogate_iff _).mp hu') hnot
              · rw [unitCost, hvw]
                rfl
            omega
          · next hlow =>
            omega
        have hshort : (Utf16.encode back).length < k := by
          have hsome := List.length_pos_iff.mpr hmore.1
          rw [← hdrop, List.length_drop]
          omega
        have hn0 := hcuts.pos (by
          rintro hnil
          rw [hnil] at hmore
          exact hmore.1 rfl)
        have hrest := ih _ hshort back (hcuts.of_full hfull) rfl
        rw [List.length_cons, hdrop]
        omega
      · exact Nat.zero_le _

/-! ## Numbered parts -/

/-- The fields of the user data. -/
def SmsSubmitParams.userData (p : SmsSubmitParams) : SubmitUserData :=
  { dcs := p.dcs, udl := p.udl, hasUDH := p.hasUDH, ud := p.ud }

/-- Part `i` of `n` carries its text and says how long it is and which part it is. -/
structure Numbered (n i : Nat) (u : SubmitUserData) (text : String) : Prop where
  carries : u.Carries text
  octets : u.ud.length ≤ 140
  septets : u.dcs = dcsGSM7 → u.udl = (if u.hasUDH then 7 else 0) + u.septets.length ∧
    u.ud.length = (7 * u.udl + 7) / 8
  bytes : u.dcs = dcsUCS2 → u.udl = u.ud.length
  alone : u.hasUDH = false → n = 1
  header : u.hasUDH = true → ∃ ref total seq : UInt8, ∃ payload,
    u.ud = [0x05, 0x00, 0x03, ref, total, seq] ++ payload ∧ total.toNat = n ∧ seq.toNat = i

/-- The parts of a message are numbered, and are the message. -/
def AllNumbered (toNumber body : String) (parts : List EncodedPart) : Prop :=
  ∃ (params : List SmsSubmitParams) (texts : List String), parts = params.map buildSubmitPDU ∧
    texts.length = params.length ∧ String.join texts = body ∧
      ∀ (i : Nat) (p : SmsSubmitParams) (text : String), params[i]? = some p → texts[i]? = some text →
        p.toNumber = toNumber ∧ Numbered params.length (i + 1) p.userData text

/-- The body fits one part, or its characters can be cut into 255 pieces that fit. -/
def FitsParts (body : String) : Prop :=
  if canEncodeGSM7 body then
    (∃ septets, gsm7Septets body = some septets ∧ septets.length ≤ maxGSM7Septets) ∨
      Cuts septetCost maxGSM7SeptetsConcat 255 body.toList
  else
    (utf16Units body).length ≤ maxUCS2CodeUnits ∨ Cuts unitCost maxUCS2UnitsConcat 255 body.toList

/-- A header of several parts has their number in an octet. -/
theorem AllNumbered.length_le {toNumber body : String} {parts : List EncodedPart}
    (h : AllNumbered toNumber body parts) : parts.length ≤ 255 := by
  obtain ⟨params, texts, rfl, hlength, -, hall⟩ := h
  rw [List.length_map]
  cases params with
  | nil => exact Nat.zero_le _
  | cons p params =>
    cases texts with
    | nil => cases hlength
    | cons text texts =>
      obtain ⟨-, hnumbered⟩ := hall 0 p text rfl rfl
      cases hudh : p.hasUDH with
      | false =>
        rw [hnumbered.alone hudh]
        decide
      | true =>
        obtain ⟨ref, total, seq, payload, -, htotal, -⟩ := hnumbered.header hudh
        have hlt := UInt8.toNat_lt total
        omega

theorem allNumbered_single {toNumber body : String} {p : SmsSubmitParams} (hto : p.toNumber = toNumber)
    (h : Numbered 1 1 p.userData body) : AllNumbered toNumber body [buildSubmitPDU p] := by
  refine ⟨[p], [body], rfl, rfl, by simp [String.join], fun i q text hq htext => ?_⟩
  obtain ⟨hi, rfl⟩ := List.getElem?_eq_some_iff.mp hq
  obtain rfl : i = 0 := by simpa using hi
  cases htext
  exact ⟨hto, h⟩

theorem allNumbered_mapIdx {α : Type} {toNumber body : String} {pieces : List α}
    {build : Nat → α → SmsSubmitParams} (spell : α → String)
    (hspell : String.join (pieces.map spell) = body)
    (hparts : ∀ i (hi : i < pieces.length), (build i pieces[i]).toNumber = toNumber ∧
      Numbered pieces.length (i + 1) (build i pieces[i]).userData (spell pieces[i])) :
    AllNumbered toNumber body (pieces.mapIdx fun i piece => buildSubmitPDU (build i piece)) := by
  refine ⟨pieces.mapIdx build, pieces.map spell, ?_, by simp, hspell, fun i p text hp htext => ?_⟩
  · refine List.ext_getElem? fun i => ?_
    rw [List.getElem?_map, List.getElem?_mapIdx, List.getElem?_mapIdx, Option.map_map]
    rfl
  · rw [List.getElem?_map] at htext
    obtain ⟨piece, hpiece, rfl⟩ := Option.map_eq_some_iff.mp htext
    obtain ⟨hi, rfl⟩ := List.getElem?_eq_some_iff.mp hpiece
    rw [List.getElem?_mapIdx, hpiece] at hp
    cases hp
    rw [List.length_mapIdx]
    exact hparts i hi

/-- A GSM-7 message of one part. -/
theorem numbered_gsm7Single {toNumber body : String} {septets : List UInt8} {requestSR : Bool}
    (hbody : gsm7Septets body = some septets) (hlen : septets.length ≤ maxGSM7Septets) :
    Numbered 1 1 (gsm7Single toNumber septets requestSR).userData body := by
  have hround := unpackSeptets_packSeptets (gsm7SeptetsLoop_lt hbody) 0
  have hseptets : (gsm7Single toNumber septets requestSR).userData.septets = septets := by
    simp [SubmitUserData.septets, SmsSubmitParams.userData, gsm7Single, hround]
  have hoctets : (packSeptets septets 0).length = (7 * septets.length + 7) / 8 := by
    by_cases hnil : septets = []
    · subst hnil
      rfl
    · rw [length_packSeptets hnil, Nat.zero_add]
  unfold maxGSM7Septets at hlen
  refine ⟨.inl ⟨rfl, by rw [hseptets]; exact hbody⟩, ?_, fun _ => ⟨?_, hoctets⟩, fun h => ?_, fun _ => rfl,
    fun h => ?_⟩
  · simp only [SmsSubmitParams.userData, gsm7Single, hoctets]
    omega
  · rw [hseptets]
    simp [SmsSubmitParams.userData, gsm7Single]
  · cases h
  · cases h

/-- A part of a GSM-7 message of several. -/
theorem numbered_gsm7Part {toNumber chunk : String} {requestSR : Bool}
    (hchunk : FitsGSM7 maxGSM7SeptetsConcat chunk) (ref : UInt8) {total seq : Nat} (htotal : total ≤ 255)
    (hseq : seq ≤ 255) :
    Numbered total seq (gsm7Part toNumber ref requestSR total seq chunk).userData chunk := by
  obtain ⟨septets, hss, hlen⟩ := hchunk
  have hheader : (concatUDH ref total seq).length = concatUDHLen := rfl
  have hround := unpackSeptets_gsm7Part (gsm7SeptetsLoop_lt hss) hheader
  have hparts : (gsm7Part toNumber ref requestSR total seq chunk).userData =
      { dcs := dcsGSM7, ud := concatUDH ref total seq ++ packSeptets septets 1, udl := 7 + septets.length,
        hasUDH := true } := by
    simp [SmsSubmitParams.userData, gsm7Part, hss, concatUDHLen]
  have hoctets : (packSeptets septets 1).length = (1 + 7 * septets.length + 7) / 8 := by
    by_cases hnil : septets = []
    · subst hnil
      rfl
    · exact length_packSeptets hnil 1
  have hud : (concatUDH ref total seq ++ packSeptets septets 1).length =
      6 + (1 + 7 * septets.length + 7) / 8 := by
    rw [List.length_append, hoctets, hheader, concatUDHLen]
  unfold maxGSM7SeptetsConcat at hlen
  rw [hparts]
  have hseptets : (SubmitUserData.mk dcsGSM7 (7 + septets.length) true
      (concatUDH ref total seq ++ packSeptets septets 1)).septets = septets := hround
  refine ⟨.inl ⟨rfl, by rw [hseptets]; exact hss⟩, ?_, fun _ => ⟨by rw [hseptets]; rfl, ?_⟩, fun h => ?_,
    fun h => ?_, fun _ => ⟨ref, _, _, _, rfl, ?_, ?_⟩⟩
  · dsimp only
    omega
  · dsimp only
    omega
  · cases h
  · cases h
  · rw [UInt8.toNat_ofNat']
    omega
  · rw [UInt8.toNat_ofNat']
    omega

/-- A UCS-2 message of one part. -/
theorem numbered_ucs2Single {toNumber body : String} {requestSR : Bool}
    (hlen : (utf16Units body).length ≤ maxUCS2CodeUnits) :
    Numbered 1 1 (ucs2Single toNumber (utf16Units body) requestSR).userData body := by
  unfold maxUCS2CodeUnits at hlen
  refine ⟨.inr ⟨rfl, ?_⟩, ?_, fun h => ?_, fun _ => rfl, fun _ => rfl, fun h => ?_⟩
  · simp [SubmitUserData.units, SmsSubmitParams.userData, ucs2Single, ucs2Units_ucs2Bytes]
  · simp only [SmsSubmitParams.userData, ucs2Single, length_ucs2Bytes]
    omega
  · cases h
  · cases h

/-- A part of a UCS-2 message of several. -/
theorem numbered_ucs2Part {toNumber : String} {run : List Char} {requestSR : Bool}
    (hrun : (Utf16.encode run).length ≤ maxUCS2UnitsConcat) (ref : UInt8) {total seq : Nat}
    (htotal : total ≤ 255) (hseq : seq ≤ 255) :
    Numbered total seq (ucs2Part toNumber ref requestSR total seq (Utf16.encode run)).userData
      (String.ofList run) := by
  unfold maxUCS2UnitsConcat at hrun
  refine ⟨.inr ⟨rfl, ?_⟩, ?_, fun h => ?_, fun _ => ?_, fun h => ?_, fun _ => ⟨ref, _, _, _, rfl, ?_, ?_⟩⟩
  · simp [SubmitUserData.units, SmsSubmitParams.userData, ucs2Part, concatUDHLen, concatUDH, utf16Units,
      ucs2Units_ucs2Bytes]
  · simp only [SmsSubmitParams.userData, ucs2Part, List.length_append, length_ucs2Bytes, concatUDH,
      List.length_cons, List.length_nil]
    omega
  · cases h
  · simp only [SmsSubmitParams.userData, ucs2Part, concatUDHLen, concatUDH, List.length_append,
      List.length_cons, List.length_nil]
  · cases h
  · rw [UInt8.toNat_ofNat']
    omega
  · rw [UInt8.toNat_ofNat']
    omega

/-- **Encoding.** It succeeds, with at most 255 parts exactly if the body fits, and then they are
numbered. -/
theorem encodeMessage_parts (toNumber body : String) (ref : UInt8) (requestSR : Bool) :
    ∃ parts, encodeMessage toNumber body ref requestSR = .ok parts ∧
      (parts.length ≤ 255 ↔ FitsParts body) ∧ (parts.length ≤ 255 → AllNumbered toNumber body parts) := by
  unfold encodeMessage FitsParts
  split
  · next hcan =>
    obtain ⟨septets, hbody⟩ := Option.isSome_iff_exists.mp ((gsm7Septets_isSome body).trans hcan)
    unfold encodeGSM7Message
    rw [hbody]
    dsimp only
    split
    · next hshort =>
      exact ⟨_, rfl, iff_of_true (by simp) (.inl ⟨septets, rfl, hshort⟩),
        fun _ => allNumbered_single rfl (numbered_gsm7Single hbody hshort)⟩
    · next hlong =>
      obtain ⟨hjoin, hfit⟩ := splitGSM7_spec (show 2 ≤ maxGSM7SeptetsConcat by decide) hcan
      refine ⟨_, rfl, ?_, fun hcount => ?_⟩
      · rw [List.length_mapIdx, length_splitGSM7_le_iff (by decide)]
        refine (or_iff_right ?_).symm
        rintro ⟨septets', heq, hshort⟩
        cases heq
        exact hlong hshort
      · rw [List.length_mapIdx] at hcount
        refine allNumbered_mapIdx id (by simpa using hjoin) fun i hi => ⟨rfl, ?_⟩
        exact numbered_gsm7Part (hfit _ (List.getElem_mem hi)) ref hcount (by omega)
  · unfold encodeUCS2Message
    dsimp only
    split
    · next hshort =>
      exact ⟨_, rfl, iff_of_true (by simp) (.inl hshort),
        fun _ => allNumbered_single rfl (numbered_ucs2Single hshort)⟩
    · next hlong =>
      have hunits : utf16Units body = Utf16.encode body.toList := rfl
      obtain ⟨runs, hsplit, hflat, hfit⟩ :=
        splitUCS2_spec (show 2 ≤ maxUCS2UnitsConcat by decide) body.toList
      refine ⟨_, rfl, ?_, fun hcount => ?_⟩
      · rw [List.length_mapIdx, hunits, length_splitUCS2_le_iff (by decide)]
        exact (or_iff_right hlong).symm
      · rw [hunits, hsplit] at hcount ⊢
        rw [List.length_mapIdx, List.length_map] at hcount
        refine allNumbered_mapIdx (fun units => String.ofList (Utf16.decode units)) ?_ fun i hi => ⟨rfl, ?_⟩
        · apply String.toList_inj.mp
          rw [String.toList_join, ← hflat]
          simp [List.flatMap_map, Function.comp_def, Utf16.decode_encode, List.flatMap_id']
        · have hi' : i < runs.length := by simpa using hi
          simp only [List.getElem_map, Utf16.decode_encode, List.length_map]
          exact numbered_ucs2Part (hfit _ (List.getElem_mem hi')) ref hcount (by omega)

/-- **The numbers in the headers.** They are right exactly if the body can be cut into 255 parts. -/
theorem numbered_iff (toNumber body : String) (ref : UInt8) (requestSR : Bool) :
    (∀ parts, encodeMessage toNumber body ref requestSR = .ok parts → AllNumbered toNumber body parts) ↔
      FitsParts body := by
  obtain ⟨parts, hparts, hcount, hnumbered⟩ := encodeMessage_parts toNumber body ref requestSR
  rw [hparts, ← hcount]
  refine ⟨fun h => (h parts rfl).length_le, fun h parts' heq => ?_⟩
  cases heq
  exact hnumbered h

/-- More letters than 255 parts hold. -/
theorem not_fitsParts_replicate {n : Nat} (hn : 255 * maxGSM7SeptetsConcat < n) :
    ¬ FitsParts (String.ofList (List.replicate n 'a')) := by
  have hcost : pieceCost septetCost (List.replicate n 'a') = n := by
    rw [pieceCost, List.map_replicate, List.sum_replicate, show septetCost 'a' = 1 by decide]
    exact Nat.mul_one n
  have hcan : canEncodeGSM7 (String.ofList (List.replicate n 'a')) = true := by
    rw [canEncodeGSM7, String.toList_ofList, List.all_eq_true]
    intro r hr
    rw [List.eq_of_mem_replicate hr]
    decide
  have hlength : ∀ n (ss : List UInt8), gsm7SeptetsLoop (List.replicate n 'a') = some ss → ss.length = n := by
    intro n
    induction n with
    | zero =>
      intro ss hss
      cases hss
      rfl
    | succ n ih =>
      intro ss hss
      rw [List.replicate_succ, gsm7SeptetsLoop, show gsm7DefaultReverse 'a' = some 0x61 by decide] at hss
      obtain ⟨rest, hrest, rfl⟩ := Option.map_eq_some_iff.mp hss
      rw [List.length_cons, ih rest hrest]
  unfold maxGSM7SeptetsConcat at hn
  rw [FitsParts, if_pos hcan]
  rintro (⟨septets, hseptets, hshort⟩ | hcuts)
  · rw [gsm7Septets, String.toList_ofList] at hseptets
    rw [hlength n septets hseptets, maxGSM7Septets] at hshort
    omega
  · have hle := hcuts.cost_le
    rw [String.toList_ofList, hcost, maxGSM7SeptetsConcat] at hle
    omega

theorem exists_parts_not_numbered (toNumber : String) (ref : UInt8) (requestSR : Bool) {body : String}
    (h : ¬ FitsParts body) : ∃ parts, encodeMessage toNumber body ref requestSR = .ok parts ∧
      ¬ AllNumbered toNumber body parts := by
  obtain ⟨parts, hparts, hcount, -⟩ := encodeMessage_parts toNumber body ref requestSR
  exact ⟨parts, hparts, fun hnumbered => h (hcount.mp hnumbered.length_le)⟩

/-- A body of 39016 letters is encoded, and its headers are wrong. -/
theorem headers_wrap :
    ∃ parts, encodeMessage "+46701234567" (String.ofList (List.replicate 39016 'a')) 1 false =
      .ok parts ∧ ¬ AllNumbered "+46701234567" (String.ofList (List.replicate 39016 'a')) parts :=
  exists_parts_not_numbered _ _ _ (not_fitsParts_replicate (by decide))

end Svarla.Sms
