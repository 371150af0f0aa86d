import Svarla.Sip.Uas

/-!
# The dialogs by session and by Call-ID

`Add` overwrites what the two maps have for the session and for the Call-ID of the new dialog, each by
itself. An INVITE for the session of a dialog, under another Call-ID, so leaves the old dialog in one of
the maps, and a BYE for it takes the session's current dialog from the store. The maps stay paired
(`Bijective`) in exactly the runs that add no dialog whose session and Call-ID are those of different
dialogs (`Fits`).
-/

namespace Svarla.Sip.Uas

open Svarla.Lib

variable {config : UasConfig} {sdp : Sdp} {s : Uas}

/-- The session and the Call-ID of a dialog. -/
def keysAt (s : Uas) (i : Nat) : Option (String × String) :=
  s.dialogs[i]?.map fun d => (d.sessionID, d.callID)

/-- The dialog is in one of the maps. -/
def Held (s : Uas) (i : Nat) : Prop :=
  (∃ x, s.bySession.lookup x = some i) ∨ ∃ c, s.byCallID.lookup c = some i

/-- The two maps hold the same dialogs, one for a session and one for a Call-ID, and a BYE under another
Call-ID leaves the current dialog of a session alone. -/
structure Bijective (s : Uas) : Prop where
  same : ∀ i, (∃ x, s.bySession.lookup x = some i) ↔ ∃ c, s.byCallID.lookup c = some i
  session : ∀ x i, s.bySession.lookup x = some i → ∃ c, s.keysAt i = some (x, c)
  callID : ∀ c i, s.byCallID.lookup c = some i → ∃ x, s.keysAt i = some (x, c)
  one_of_session : ∀ i j x c c', s.Held i → s.Held j → s.keysAt i = some (x, c) →
    s.keysAt j = some (x, c') → i = j
  one_of_callID : ∀ i j x x' c, s.Held i → s.Held j → s.keysAt i = some (x, c) →
    s.keysAt j = some (x', c) → i = j
  bye : ∀ x i d msg remoteAddr transport reason clock, s.bySession.lookup x = some i →
    s.dialogs[i]? = some d → msg.callID ≠ d.callID →
      let t := s.handleEnd msg remoteAddr transport reason clock
      t.bySession.lookup x = some i ∧ t.byCallID.lookup d.callID = some i ∧ t.dialogs[i]? = some d ∧
        (t.events = s.events ∨ ∃ y, y ≠ x ∧ t.events = s.events ++ [.providerDisconnected y reason])

/-- Every entry of a map has its entry in the other one. -/
structure Paired (s : Uas) : Prop where
  session : ∀ x i, s.bySession.lookup x = some i →
    ∃ c, s.keysAt i = some (x, c) ∧ s.byCallID.lookup c = some i
  callID : ∀ c i, s.byCallID.lookup c = some i →
    ∃ x, s.keysAt i = some (x, c) ∧ s.bySession.lookup x = some i

/-- What is done with the store: by the UAS, or by itself. -/
inductive StoreInput
  | uas (input : UasInput)
  | add (d : Dialog)
  | remove (sessionID : String)

def storeStep (config : UasConfig) (sdp : Sdp) (s : Uas) : StoreInput → Option Uas
  | .uas input => s.step config sdp input
  | .add d => some (s.add d)
  | .remove sessionID => some (s.remove sessionID)

/-- The dialog that an input adds to the store. -/
def added (sdp : Sdp) (s : Uas) : StoreInput → Option Dialog
  | .add d => some d
  | .uas (.message msg remoteAddr transport known clock) =>
    if msg.method = "INVITE" ∧ extractSessionID msg.requestURI ≠ "" ∧
        s.confirmedDialog msg.callID = none then
      match accept sdp msg known clock with
      | .error _ => none
      | .ok (offer, codec, srtp) =>
        some (inviteDialog msg remoteAddr transport offer codec srtp clock)
    else none
  | .uas (.sendBye _) => none
  | .uas (.shutdown _) => none
  | .remove _ => none

/-- The session of a dialog that is added has no other dialog than the Call-ID has. -/
def Fits (sdp : Sdp) (s : Uas) (input : StoreInput) : Prop :=
  ∀ d ∈ s.added sdp input, s.bySession.lookup d.sessionID = s.byCallID.lookup d.callID

/-! ## What the operations do with the maps -/

/-- The maps are those of another state, and so are the keys of the dialogs. -/
structure SameStore (s t : Uas) : Prop where
  bySession : t.bySession = s.bySession
  byCallID : t.byCallID = s.byCallID
  keys : ∀ i, t.keysAt i = s.keysAt i
  length : t.dialogs.length = s.dialogs.length

theorem SameStore.refl (s : Uas) : SameStore s s := ⟨rfl, rfl, fun _ => rfl, rfl⟩

theorem SameStore.trans {s t u : Uas} (h : SameStore s t) (h' : SameStore t u) : SameStore s u :=
  ⟨h'.bySession.trans h.bySession, h'.byCallID.trans h.byCallID,
    fun i => (h'.keys i).trans (h.keys i), h'.length.trans h.length⟩

theorem SameStore.respond (dialog : Option Nat) (response : Response) (remoteAddr transport : String) :
    SameStore s (s.respond dialog response remoteAddr transport) := ⟨rfl, rfl, fun _ => rfl, rfl⟩

theorem SameStore.emit (event : UasEvent) : SameStore s (s.emit event) := ⟨rfl, rfl, fun _ => rfl, rfl⟩

/-- A dialog that changes keeps its session and its Call-ID. -/
theorem SameStore.modify (i : Nat) {f : Dialog → Dialog}
    (hf : ∀ d, (f d).sessionID = d.sessionID ∧ (f d).callID = d.callID) :
    SameStore s (s.modify i f) := by
  refine ⟨rfl, rfl, fun j => ?_, List.length_modify ..⟩
  simp only [keysAt, Uas.modify, List.getElem?_modify]
  split
  · simp [Option.map_map, Function.comp_def, hf]
  · simp

theorem SameStore.setTerminated (i : Nat) : SameStore s (s.setTerminated i) :=
  SameStore.modify i fun _ => ⟨rfl, rfl⟩

theorem SameStore.bye (i : Nat) (d : Dialog) : SameStore s (s.bye i d) :=
  (SameStore.modify (s := s) i (f := ({ · with localCSeq := d.localCSeq + 1 })) fun _ => ⟨rfl, rfl⟩).trans
    ⟨rfl, rfl, fun _ => rfl, rfl⟩

theorem SameStore.handleReInvite (msg : Request) (i : Nat) (d : Dialog) (remoteAddr transport : String)
    (clock : Clock) : SameStore s (s.handleReInvite config sdp msg i d remoteAddr transport clock) := by
  unfold Uas.handleReInvite
  split
  · exact .respond ..
  · split
    · exact .respond ..
    · split
      · exact .respond ..
      · refine SameStore.trans ?_ (.respond ..)
        exact .modify i fun _ => ⟨rfl, rfl⟩

theorem SameStore.acceptInvite (msg : Request) (remoteAddr transport : String) (offer : SdpOffer)
    (codec : Codec) (srtp : Option (SrtpSession × String)) (clock : Clock) :
    SameStore
      ((s.respond none (buildResponse msg 100 "Trying" [] [] (clock 2)) remoteAddr
        transport).add (inviteDialog msg remoteAddr transport offer codec srtp clock))
      (s.acceptInvite config sdp msg remoteAddr transport offer codec srtp clock) := by
  unfold Uas.acceptInvite
  refine SameStore.trans (SameStore.trans ?_ (SameStore.modify _ ?_)) (.emit _)
  · exact .respond ..
  · exact fun _ => ⟨rfl, rfl⟩

theorem SameStore.shutdownDialog (i : Nat) (d : Dialog) : SameStore s (s.shutdownDialog i d) := by
  unfold Uas.shutdownDialog
  split
  · exact (SameStore.bye ..).trans (.setTerminated _)
  · exact .setTerminated _

theorem SameStore.paired {t : Uas} (h : SameStore s t) (hs : s.Paired) : t.Paired := by
  refine ⟨fun x i hi => ?_, fun c i hi => ?_⟩
  · rw [h.bySession] at hi
    rw [h.keys, h.byCallID]
    exact hs.session x i hi
  · rw [h.byCallID] at hi
    rw [h.keys, h.bySession]
    exact hs.callID c i hi

theorem SameStore.symm {t : Uas} (h : SameStore s t) : SameStore t s :=
  ⟨h.bySession.symm, h.byCallID.symm, fun i => (h.keys i).symm, h.length.symm⟩

theorem SameStore.paired_iff {t : Uas} (h : SameStore s t) : t.Paired ↔ s.Paired :=
  ⟨h.symm.paired, h.paired⟩

/-! ## Adding and removing -/

theorem keysAt_lt {i : Nat} {k : String × String} (h : s.keysAt i = some k) : i < s.dialogs.length := by
  obtain ⟨d, hd, -⟩ := Option.map_eq_some_iff.mp h
  exact (List.getElem?_eq_some_iff.mp hd).1

theorem keysAt_add (d : Dialog) (i : Nat) :
    (s.add d).keysAt i =
      if i = s.dialogs.length then some (d.sessionID, d.callID) else s.keysAt i := by
  simp only [keysAt, Uas.add]
  split
  · next h => simp [h]
  · next h =>
    by_cases hi : i < s.dialogs.length
    · rw [List.getElem?_append_left hi]
    · rw [List.getElem?_eq_none (by simp; omega), List.getElem?_eq_none (by omega)]

theorem lookup_bySession_add (d : Dialog) (x : String) :
    (s.add d).bySession.lookup x =
      if x = d.sessionID then some s.dialogs.length else s.bySession.lookup x :=
  Map.lookup_insert ..

theorem lookup_byCallID_add (d : Dialog) (c : String) :
    (s.add d).byCallID.lookup c =
      if c = d.callID then some s.dialogs.length else s.byCallID.lookup c :=
  Map.lookup_insert ..

/-- A new dialog keeps the maps paired where its session and its Call-ID were those of one dialog, or of
none, and not otherwise: the entry of the old dialog is overwritten in one map only. -/
theorem Paired.add_iff (h : s.Paired) (d : Dialog) :
    (s.add d).Paired ↔ s.bySession.lookup d.sessionID = s.byCallID.lookup d.callID := by
  constructor
  · intro ht
    refine Option.ext fun i => ⟨fun hi => ?_, fun hi => ?_⟩
    · obtain ⟨c, hkeys, hc⟩ := h.session _ _ hi
      by_cases hcd : c = d.callID
      · exact hcd ▸ hc
      have hlt := keysAt_lt hkeys
      obtain ⟨x, hx, hx'⟩ := ht.callID c i (by rw [lookup_byCallID_add, if_neg hcd, hc])
      rw [keysAt_add, if_neg (by omega), hkeys] at hx
      obtain ⟨rfl, -⟩ := Prod.mk.inj (Option.some.inj hx)
      rw [lookup_bySession_add, if_pos rfl] at hx'
      exact absurd (Option.some.inj hx') (by omega)
    · obtain ⟨x, hkeys, hx⟩ := h.callID _ _ hi
      by_cases hxd : x = d.sessionID
      · exact hxd ▸ hx
      have hlt := keysAt_lt hkeys
      obtain ⟨c, hc, hc'⟩ := ht.session x i (by rw [lookup_bySession_add, if_neg hxd, hx])
      rw [keysAt_add, if_neg (by omega), hkeys] at hc
      obtain ⟨-, rfl⟩ := Prod.mk.inj (Option.some.inj hc)
      rw [lookup_byCallID_add, if_pos rfl] at hc'
      exact absurd (Option.some.inj hc') (by omega)
  · intro hfits
    refine ⟨fun x i hi => ?_, fun c i hi => ?_⟩
    · rw [lookup_bySession_add] at hi
      split at hi
      · next hx =>
        cases hi
        exact ⟨d.callID, by rw [keysAt_add, if_pos rfl, hx], by rw [lookup_byCallID_add, if_pos rfl]⟩
      · next hx =>
        obtain ⟨c, hkeys, hc⟩ := h.session x i hi
        have hlt := keysAt_lt hkeys
        refine ⟨c, by rw [keysAt_add, if_neg (by omega), hkeys], ?_⟩
        rw [lookup_byCallID_add, if_neg, hc]
        -- an old dialog under the new Call-ID is one of the new session
        rintro rfl
        obtain ⟨c, hc', -⟩ := h.session _ _ (hfits.trans hc)
        rw [hkeys] at hc'
        exact hx (Prod.mk.inj (Option.some.inj hc')).1
    · rw [lookup_byCallID_add] at hi
      split at hi
      · next hc =>
        cases hi
        exact ⟨d.sessionID, by rw [keysAt_add, if_pos rfl, hc], by rw [lookup_bySession_add, if_pos rfl]⟩
      · next hc =>
        obtain ⟨x, hkeys, hx⟩ := h.callID c i hi
        have hlt := keysAt_lt hkeys
        refine ⟨x, by rw [keysAt_add, if_neg (by omega), hkeys], ?_⟩
        rw [lookup_bySession_add, if_neg, hx]
        rintro rfl
        obtain ⟨x, hx', -⟩ := h.callID _ _ (hfits.symm.trans hx)
        rw [hkeys] at hx'
        exact hc (Prod.mk.inj (Option.some.inj hx')).2

/-- `Remove` takes the entry of the session and that of its dialog's Call-ID. -/
theorem remove_eq {x c : String} {i : Nat} (hi : s.bySession.lookup x = some i)
    (hkeys : s.keysAt i = some (x, c)) :
    s.remove x = { s with bySession := s.bySession.erase x, byCallID := s.byCallID.erase c } := by
  obtain ⟨d, hd, hdk⟩ := Option.map_eq_some_iff.mp hkeys
  obtain ⟨-, rfl⟩ := Prod.mk.inj hdk
  simp only [Uas.remove, hi, Option.bind_some, hd]

theorem remove_of_none {x : String} (hx : s.bySession.lookup x = none) : s.remove x = s := by
  simp only [Uas.remove, hx, Option.bind_none]

theorem Paired.remove (h : s.Paired) (x : String) : (s.remove x).Paired := by
  match hx : s.bySession.lookup x with
  | none => rwa [remove_of_none hx]
  | some i =>
    obtain ⟨c, hkeys, hc⟩ := h.session x i hx
    rw [remove_eq hx hkeys]
    refine ⟨fun y j hj => ?_, fun e j hj => ?_⟩
    · rw [Map.lookup_erase] at hj
      split at hj
      · cases hj
      · next hy =>
        obtain ⟨e, hjkeys, he⟩ := h.session y j hj
        refine ⟨e, hjkeys, ?_⟩
        rw [Map.lookup_erase, if_neg, he]
        rintro rfl
        cases he.symm.trans hc
        rw [hkeys] at hjkeys
        exact hy (Prod.mk.inj (Option.some.inj hjkeys)).1.symm
    · rw [Map.lookup_erase] at hj
      split at hj
      · cases hj
      · next he =>
        obtain ⟨y, hjkeys, hy⟩ := h.callID e j hj
        refine ⟨y, hjkeys, ?_⟩
        rw [Map.lookup_erase, if_neg, hy]
        rintro rfl
        cases hy.symm.trans hx
        rw [hkeys] at hjkeys
        exact he (Prod.mk.inj (Option.some.inj hjkeys)).2.symm

/-! ## The handling of a message -/

/-- The dialog of a Call-ID is that of its session. -/
theorem Paired.of_getByCallID (h : s.Paired) {c : String} {i : Nat} {d : Dialog}
    (hd : s.getByCallID c = some (i, d)) :
    d.callID = c ∧ s.bySession.lookup d.sessionID = some i ∧ s.keysAt i = some (d.sessionID, c) := by
  obtain ⟨hi, hdi⟩ := getByCallID_eq_some.mp hd
  obtain ⟨x, hkeys, hx⟩ := h.callID c i hi
  have hk := hkeys
  rw [keysAt, hdi] at hk
  obtain ⟨rfl, rfl⟩ := Prod.mk.inj (Option.some.inj hk)
  exact ⟨rfl, hx, hkeys⟩

theorem Paired.handleEnd (h : s.Paired) (msg : Request) (remoteAddr transport reason : String)
    (clock : Clock) : (s.handleEnd msg remoteAddr transport reason clock).Paired := by
  unfold Uas.handleEnd
  split
  · exact (SameStore.respond ..).paired h
  · exact (SameStore.emit _).paired
      (((SameStore.respond ..).trans (.setTerminated _)).paired h |>.remove _)

/-- A message adds a dialog where it is an INVITE that makes one and is accepted. -/
theorem added_message {msg : Request} {remoteAddr transport : String} {known : Bool} {clock : Clock}
    {d : Dialog} :
    s.added sdp (.uas (.message msg remoteAddr transport known clock)) = some d ↔
      msg.method = "INVITE" ∧ extractSessionID msg.requestURI ≠ "" ∧
        s.confirmedDialog msg.callID = none ∧ ∃ offer codec srtp,
          accept sdp msg known clock = .ok (offer, codec, srtp) ∧
            inviteDialog msg remoteAddr transport offer codec srtp clock = d := by
  simp only [added]
  split
  · next h =>
    simp only [h, ne_eq, not_false_eq_true, true_and]
    split
    · next hacc => simp [hacc]
    · next hacc => simp [hacc]
  · next h =>
    refine iff_of_false nofun fun hd => h ⟨hd.1, hd.2.1, hd.2.2.1⟩

/-- An INVITE keeps the maps paired where the dialog that it adds fits. -/
theorem Paired.handleInvite_iff (h : s.Paired) {msg : Request} (hmsg : msg.method = "INVITE")
    (remoteAddr transport : String) (known : Bool) (clock : Clock) :
    (s.handleInvite config sdp msg remoteAddr transport known clock).Paired ↔
      s.Fits sdp (.uas (.message msg remoteAddr transport known clock)) := by
  unfold Uas.handleInvite
  split
  · next hx =>
    exact iff_of_true ((SameStore.respond ..).paired h) fun d hd => absurd hx (added_message.mp hd).2.1
  · next hx =>
    split
    · next i d hd =>
      refine iff_of_true ((SameStore.handleReInvite ..).paired h) fun e he => ?_
      cases hd.symm.trans (added_message.mp he).2.2.1
    · next hd =>
      split
      · next hacc =>
        refine iff_of_true ((SameStore.respond ..).paired h) fun e he => ?_
        obtain ⟨-, -, -, offer, codec, srtp, hok, -⟩ := added_message.mp he
        cases hacc.symm.trans hok
      · next offer codec srtp hacc =>
        have hadded : s.added sdp (.uas (.message msg remoteAddr transport known clock)) =
            some (inviteDialog msg remoteAddr transport offer codec srtp clock) :=
          added_message.mpr ⟨hmsg, hx, hd, offer, codec, srtp, hacc, rfl⟩
        have htried : (s.respond none (buildResponse msg 100 "Trying" [] [] (clock 2)) remoteAddr
            transport).Paired :=
          (SameStore.respond ..).paired h
        refine Iff.trans ?_ ((htried.add_iff
          (inviteDialog msg remoteAddr transport offer codec srtp clock)).trans ?_)
        · exact (SameStore.acceptInvite ..).paired_iff
        · refine ⟨fun hfits d hd => ?_, fun hfits => hfits _ hadded⟩
          cases hadded.symm.trans hd
          exact hfits

/-- **Every step.** From paired maps, a step leads to paired maps if and only if the dialog that it adds
fits. -/
theorem Paired.step_iff (h : s.Paired) {input : StoreInput} {t : Uas}
    (hstep : s.storeStep config sdp input = some t) : t.Paired ↔ s.Fits sdp input := by
  match input with
  | .add d =>
    cases hstep
    exact (h.add_iff d).trans ⟨fun hfits e he => by cases he; exact hfits, fun hfits => hfits d rfl⟩
  | .remove x =>
    cases hstep
    exact iff_of_true (h.remove x) nofun
  | .uas (.shutdown i) =>
    refine iff_of_true ?_ nofun
    obtain ⟨d, -, rfl⟩ := Option.map_eq_some_iff.mp hstep
    exact (SameStore.shutdownDialog i d).paired h
  | .uas (.sendBye x) =>
    refine iff_of_true ?_ nofun
    cases hstep
    unfold Uas.sendBye
    split
    · exact h
    · exact (((SameStore.bye ..).trans (.setTerminated _)).paired h).remove x
  | .uas (.message msg remoteAddr transport known clock) =>
    cases hstep
    by_cases hmsg : msg.method = "INVITE"
    · unfold Uas.handleMessage
      simp only [hmsg]
      exact h.handleInvite_iff hmsg ..
    · refine iff_of_true ?_ fun d hd => ?_
      · unfold Uas.handleMessage
        split
        · contradiction
        · exact h.handleEnd ..
        · exact h
        · exact h.handleEnd ..
        · exact (SameStore.respond ..).paired h
      · exact absurd (added_message.mp hd).1 hmsg

/-! ## The maps are bijective -/

/-- A BYE under another Call-ID than that of the session's current dialog is for another session. -/
theorem Paired.bye_other (h : s.Paired) {x : String} {i : Nat} {d : Dialog} {msg : Request}
    (hx : s.bySession.lookup x = some i) (hd : s.dialogs[i]? = some d) (hne : msg.callID ≠ d.callID)
    (remoteAddr transport reason : String) (clock : Clock) :
    let t := s.handleEnd msg remoteAddr transport reason clock
    t.bySession.lookup x = some i ∧ t.byCallID.lookup d.callID = some i ∧ t.dialogs[i]? = some d ∧
      (t.events = s.events ∨ ∃ y, y ≠ x ∧ t.events = s.events ++ [.providerDisconnected y reason]) := by
  obtain ⟨c, hkeys, hc⟩ := h.session x i hx
  have hk := hkeys
  rw [keysAt, hd] at hk
  obtain ⟨rfl, rfl⟩ := Prod.mk.inj (Option.some.inj hk)
  unfold Uas.handleEnd
  match hj : s.getByCallID msg.callID with
  | none => exact ⟨hx, hc, hd, .inl rfl⟩
  | some (j, e) =>
    obtain ⟨hej, hej'⟩ := getByCallID_eq_some.mp hj
    obtain ⟨heq, hy, hjkeys⟩ := h.of_getByCallID hj
    have hij : j ≠ i := by
      rintro rfl
      rw [hd] at hej'
      cases hej'
      exact hne heq.symm
    have hyx : e.sessionID ≠ d.sessionID := by
      intro hyx
      rw [hyx, hx] at hy
      exact hij (Option.some.inj hy).symm
    -- what is removed is the entry of the other session
    have hkept : SameStore s ((s.respond (some j) (buildResponse msg 200 "OK" [] [] (clock 2))
        remoteAddr transport).setTerminated j) := (SameStore.respond ..).trans (.setTerminated _)
    have hremove := remove_eq (s := (s.respond (some j) (buildResponse msg 200 "OK" [] [] (clock 2))
      remoteAddr transport).setTerminated j) (by rw [hkept.bySession]; exact hy)
      (by rw [hkept.keys]; exact hjkeys)
    simp only [hremove]
    refine ⟨?_, ?_, ?_, .inr ⟨e.sessionID, hyx, rfl⟩⟩
    · exact (Map.lookup_erase ..).trans (by rw [if_neg (Ne.symm hyx)]; exact hx)
    · exact (Map.lookup_erase ..).trans (by rw [if_neg (Ne.symm hne)]; exact hc)
    · exact (List.getElem?_modify_ne _ _ hij).trans hd

theorem Paired.bijective (h : s.Paired) : s.Bijective := by
  have hheld : ∀ i x c, s.Held i → s.keysAt i = some (x, c) →
      s.bySession.lookup x = some i ∧ s.byCallID.lookup c = some i := by
    rintro i x c (⟨y, hy⟩ | ⟨e, he⟩) hkeys
    · obtain ⟨e, hk, he⟩ := h.session y i hy
      cases hkeys.symm.trans hk
      exact ⟨hy, he⟩
    · obtain ⟨y, hk, hy⟩ := h.callID e i he
      cases hkeys.symm.trans hk
      exact ⟨hy, he⟩
  refine {
    same := fun i => ⟨fun ⟨x, hx⟩ => ?_, fun ⟨c, hc⟩ => ?_⟩
    session := fun x i hx => ?_
    callID := fun c i hc => ?_
    one_of_session := fun i j x c c' hi hj hik hjk => ?_
    one_of_callID := fun i j x x' c hi hj hik hjk => ?_
    bye := fun x i d msg remoteAddr transport reason clock hx hd hne => h.bye_other hx hd hne .. }
  · obtain ⟨c, -, hc⟩ := h.session x i hx
    exact ⟨c, hc⟩
  · obtain ⟨x, -, hx⟩ := h.callID c i hc
    exact ⟨x, hx⟩
  · obtain ⟨c, hk, -⟩ := h.session x i hx
    exact ⟨c, hk⟩
  · obtain ⟨x, hk, -⟩ := h.callID c i hc
    exact ⟨x, hk⟩
  · exact Option.some.inj ((hheld i x c hi hik).1.symm.trans (hheld j x c' hj hjk).1)
  · exact Option.some.inj ((hheld i x c hi hik).2.symm.trans (hheld j x' c hj hjk).2)

theorem Bijective.paired (h : s.Bijective) : s.Paired := by
  refine ⟨fun x i hx => ?_, fun c i hc => ?_⟩
  · obtain ⟨c, hk⟩ := h.session x i hx
    obtain ⟨c', hc'⟩ := (h.same i).mp ⟨x, hx⟩
    obtain ⟨x', hk'⟩ := h.callID c' i hc'
    obtain ⟨-, rfl⟩ := Prod.mk.inj (Option.some.inj (hk.symm.trans hk'))
    exact ⟨c, hk, hc'⟩
  · obtain ⟨x, hk⟩ := h.callID c i hc
    obtain ⟨x', hx'⟩ := (h.same i).mpr ⟨c, hc⟩
    obtain ⟨c', hk'⟩ := h.session x' i hx'
    obtain ⟨rfl, -⟩ := Prod.mk.inj (Option.some.inj (hk.symm.trans hk'))
    exact ⟨x, hk, hx'⟩

/-- **The runs with bijective maps** are those that add no dialog whose session and Call-ID belong to
different dialogs. -/
theorem fits_iff_bijective (config : UasConfig) (sdp : Sdp) (inputs : List StoreInput) :
    Guarded (storeStep config sdp) (Fits sdp) init inputs ↔
      ∀ before after s, inputs = before ++ after → exec (storeStep config sdp) init before = some s →
        s.Bijective := by
  have hinit : init.Bijective := (Paired.mk nofun nofun : init.Paired).bijective
  refine guarded_iff_invariant (J := fun _ => True) (fun s input t _ hs hstep => ⟨trivial, ?_⟩)
    (fun s input hrefused => ?_) trivial hinit inputs
  · rw [← hs.paired.step_iff hstep]
    exact ⟨Bijective.paired, Paired.bijective⟩
  · -- only the shutdown of a dialog that there is not is refused
    match input with
    | .uas (.shutdown _) => exact nofun

/-! ## A second INVITE for a session -/

/-- An SDP handling that takes every offer, without encryption. -/
def plainSdp : Sdp where
  parseSDP _ := some ⟨"192.0.2.1", 4000, [⟨"PCMU", 0, 8000, 1⟩]⟩
  negotiateCodec offer := offer.codecs.head?
  negotiateSDES _ _ := .plain
  generateSDPAnswer _ := []

/-- A request for the session `s1` under a Call-ID. -/
def requestFor (method callID : String) : Request where
  method
  requestURI := "sip:s1@203.0.113.1"
  callID
  sender := "<sip:provider@192.0.2.1>;tag=p"
  recipient := "<sip:s1@203.0.113.1>"
  via := []
  cseq := "1 " ++ method
  contact := "<sip:provider@192.0.2.1:5060>"
  body := [0]

/-- The session's dialog is replaced by one under the Call-ID `b`, and a BYE for the first takes the
second from the store and disconnects the provider. -/
theorem bye_takes_current :
    ∃ s t, exec (storeStep ⟨5060, 7000, "203.0.113.1"⟩ plainSdp) init
        [.uas (.message (requestFor "INVITE" "a") "192.0.2.1:5060" "udp" true id),
          .uas (.message (requestFor "INVITE" "b") "192.0.2.1:5060" "udp" true id)] = some s ∧
      s.bySession.lookup "s1" = some 1 ∧ s.byCallID.lookup "a" = some 0 ∧
      s.byCallID.lookup "b" = some 1 ∧ ¬ s.Bijective ∧
      step ⟨5060, 7000, "203.0.113.1"⟩ plainSdp s
        (.message (requestFor "BYE" "a") "192.0.2.1:5060" "udp" true id) = some t ∧
      t.bySession.lookup "s1" = none ∧ t.byCallID.lookup "a" = some 0 ∧
      UasEvent.providerDisconnected "s1" "bye" ∈ t.events := by
  refine ⟨_, _, rfl, by decide +kernel, by decide +kernel, by decide +kernel, fun h => ?_, rfl,
    by decide +kernel, by decide +kernel, by decide +kernel⟩
  -- the first dialog is in one of the maps only
  obtain ⟨x, hk, hx⟩ := h.paired.callID "a" 0 (by decide +kernel)
  obtain ⟨rfl, -⟩ : x = "s1" ∧ "a" = "a" := by
    have hk0 := Option.some.inj (hk.symm.trans (show _ = some ("s1", "a") by decide +kernel))
    exact Prod.mk.inj hk0
  cases hx.symm.trans (show _ = some 1 by decide +kernel)

end Svarla.Sip.Uas
