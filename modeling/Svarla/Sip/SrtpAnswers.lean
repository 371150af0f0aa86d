import Svarla.Sip.DialogStore

/-!
# The answers of an encrypted dialog

An INVITE with crypto attributes is answered with RTP/SAVP and a crypto line, and its dialog keeps the
SRTP session. A re-INVITE, or a retransmission of the INVITE, is answered with the codec alone: every
offer that is accepted within an encrypted dialog takes the encryption from its answer (`Refuses`).
-/

namespace Svarla.Sip

open Svarla.Lib

/-! ## The text of an answer -/

/-- The bytes of a text. -/
def utf8 (text : String) : List UInt8 := text.toList.flatMap String.utf8EncodeChar

/-- `GenerateSDPAnswer`. -/
def generateSDPAnswer (answer : SdpAnswer) : List UInt8 :=
  let codec := answer.codec
  utf8 "v=0\r\n" ++ utf8 ("o=mediabridge 0 0 IN IP4 " ++ answer.localIP ++ "\r\n") ++
    utf8 "s=MediaBridge\r\n" ++ utf8 ("c=IN IP4 " ++ answer.localIP ++ "\r\n") ++ utf8 "t=0 0\r\n" ++
    utf8 ("m=audio " ++ toString answer.localPort) ++
    utf8 (if answer.useSRTP then " RTP/SAVP " else " RTP/AVP ") ++
    utf8 (toString codec.payloadType) ++ utf8 "\r\n" ++
    (if 96 ≤ codec.payloadType ∨ codec.name ≠ "PCMU" then
      utf8 ("a=rtpmap:" ++ toString codec.payloadType ++ " " ++ codec.name ++ "/" ++
        toString codec.clockRate ++ if 1 < codec.channels then "/" ++ toString codec.channels else "") ++
        utf8 "\r\n"
    else []) ++
    (if answer.useSRTP ∧ answer.cryptoLine ≠ "" then utf8 answer.cryptoLine ++ utf8 "\r\n" else []) ++
    utf8 "a=sendrecv\r\n" ++ utf8 "a=ptime:20\r\n"

/-- `SDESResult`, with the tag and the suite that were selected. -/
structure SdesResult where
  tag : Int
  suite : String
  localKey : List UInt8
  localKeyB64 : String
  remoteKey : List UInt8

/-- `FormatCryptoAnswer`. -/
def formatCryptoAnswer (result : SdesResult) : String :=
  "a=crypto:" ++ (toString result.tag ++ " " ++ result.suite ++ " inline:" ++ result.localKeyB64)

/-- What the offers are read by; an offer without crypto attributes has no result of `NegotiateSDES`. -/
structure Offers where
  parseSDP : List UInt8 → Option SdpOffer
  negotiateCodec : SdpOffer → Option Codec
  negotiateSDES : List UInt8 → Nat → Option (Except Sdes SdesResult)

/-- The handling of SDP, with the answers that are generated. -/
def Offers.sdp (offers : Offers) : Sdp where
  parseSDP := offers.parseSDP
  negotiateCodec := offers.negotiateCodec
  negotiateSDES body now :=
    match offers.negotiateSDES body now with
    | none => .plain
    | some (.error .failed) => .failed
    | some (.error _) => .notAcceptable
    | some (.ok result) =>
      .negotiated ⟨result.localKey, result.remoteKey⟩ (formatCryptoAnswer result)
  generateSDPAnswer := generateSDPAnswer

/-- An answer is RTP/SAVP, with a crypto line. -/
def Savp (body : List UInt8) : Prop :=
  utf8 " RTP/SAVP " <:+: body ∧ utf8 "\r\na=crypto:" <:+: body

instance (body : List UInt8) : Decidable (Savp body) := inferInstanceAs (Decidable (_ ∧ _))

theorem utf8_append (text text' : String) : utf8 (text ++ text') = utf8 text ++ utf8 text' := by
  rw [utf8, String.toList_append, List.flatMap_append]
  rfl

/-- What is answered with an SRTP session has a crypto line. -/
theorem savp_generateSDPAnswer (codec : Codec) (localIP : String) (localPort : Nat)
    (result : SdesResult) :
    Savp (generateSDPAnswer ⟨codec, localIP, localPort, true, formatCryptoAnswer result⟩) := by
  have hcrypto : utf8 (formatCryptoAnswer result) = utf8 "a=crypto:" ++ utf8 (toString result.tag ++
      " " ++ result.suite ++ " inline:" ++ result.localKeyB64) := utf8_append ..
  have hne : formatCryptoAnswer result ≠ "" := by
    intro h
    have hlist := congrArg String.toList h
    simp [formatCryptoAnswer] at hlist
  have hline : utf8 "\r\na=crypto:" = utf8 "\r\n" ++ utf8 "a=crypto:" := by decide
  simp only [generateSDPAnswer, if_true, true_and, ne_eq, hne, not_false_eq_true, hcrypto]
  constructor
  · simp only [List.append_assoc]
    iterate 6 apply List.infix_append_of_infix_right
    exact (List.prefix_append ..).isInfix
  · -- the line before it ends, be it that of the codec or of the media
    rw [hline]
    split
    · simp only [List.append_assoc]
      iterate 10 apply List.infix_append_of_infix_right
      rw [← List.append_assoc]
      exact (List.prefix_append ..).isInfix
    · simp only [List.append_assoc, List.nil_append]
      iterate 8 apply List.infix_append_of_infix_right
      rw [← List.append_assoc]
      exact (List.prefix_append ..).isInfix

namespace Uas

variable {config : UasConfig} {s t u : Uas} {input : UasInput}

/-- The dialogs that a session has. -/
def live (s : Uas) (sessionID : String) : List Dialog :=
  s.dialogs.filter fun d => d.sessionID = sessionID ∧ d.state ≠ .terminated

/-- The SRTP sessions of these dialogs. -/
def keys (s : Uas) (sessionID : String) : List SrtpSession :=
  (s.live sessionID).filterMap (·.srtpSession)

/-- Every SDP answer for an encrypted dialog is RTP/SAVP, with a crypto line. -/
def Encrypted (s : Uas) : Prop := ∀ (i : Nat) r remoteAddr transport,
  Sent.response (some i) r remoteAddr transport ∈ s.sent → ∀ d, s.dialogs[i]? = some d →
    d.srtpSession ≠ none → r.body ≠ [] → Savp r.body

/-- A response for a dialog, if it has SDP, is RTP/SAVP, with a crypto line. -/
def SavpFor (i : Nat) : Sent → Prop
  | .response dialog r _ _ => dialog = some i → r.body ≠ [] → Savp r.body
  | .bye .. => True

instance (i : Nat) : (sent : Sent) → Decidable (SavpFor i sent)
  | .response dialog r _ _ =>
    inferInstanceAs (Decidable (dialog = some i → r.body ≠ [] → Savp r.body))
  | .bye .. => .isTrue trivial

theorem Encrypted.savpFor (h : s.Encrypted) {i : Nat} {d : Dialog} (hd : s.dialogs[i]? = some d)
    (hsrtp : d.srtpSession ≠ none) : ∀ x ∈ s.sent, SavpFor i x := by
  intro x hx
  match x with
  | .response dialog r a tr =>
    rintro rfl hbody
    exact h i r a tr hx d hd hsrtp hbody
  | .bye .. => trivial

/-- No offer is accepted within an encrypted dialog. -/
def Refuses (sdp : Sdp) (s : Uas) : UasInput → Prop
  | .message msg _ _ _ _ =>
    msg.method = "INVITE" → extractSessionID msg.requestURI ≠ "" →
      ∀ d ∈ s.confirmedDialog msg.callID, d.2.srtpSession ≠ none →
        msg.body = [] ∨ (sdp.parseSDP msg.body).bind sdp.negotiateCodec = none
  | .sendBye _ => True
  | .shutdown _ => True

instance (sdp : Sdp) (s : Uas) : (input : UasInput) → Decidable (Refuses sdp s input)
  | .message msg _ _ _ _ => inferInstanceAs (Decidable (msg.method = "INVITE" →
      extractSessionID msg.requestURI ≠ "" → ∀ d ∈ s.confirmedDialog msg.callID,
        d.2.srtpSession ≠ none →
          msg.body = [] ∨ (sdp.parseSDP msg.body).bind sdp.negotiateCodec = none))
  | .sendBye _ => .isTrue trivial
  | .shutdown _ => .isTrue trivial

/-! ## What a step does with the dialogs -/

/-- An offer is accepted within a dialog. -/
def Reoffers (sdp : Sdp) (s : Uas) : UasInput → Nat → SdpOffer → Codec → Prop
  | .message msg _ _ _ _, i, offer, codec =>
    msg.method = "INVITE" ∧ extractSessionID msg.requestURI ≠ "" ∧
      (∃ d, s.confirmedDialog msg.callID = some (i, d)) ∧ msg.body ≠ [] ∧
      sdp.parseSDP msg.body = some offer ∧ sdp.negotiateCodec offer = some codec
  | .sendBye _, _, _, _ => False
  | .shutdown _, _, _, _ => False

/-- A dialog as it was, or terminated, or with an offer that was accepted. -/
structure Follows (accepted : SdpOffer → Codec → Prop) (d d' : Dialog) : Prop where
  sessionID : d'.sessionID = d.sessionID
  srtpSession : d'.srtpSession = d.srtpSession
  state : d'.state = .terminated ∨ d'.state = d.state
  offer : d'.negotiatedCodec = d.negotiatedCodec ∧ d'.remoteIP = d.remoteIP ∧
      d'.remotePort = d.remotePort ∨
    ∃ offer codec, accepted offer codec ∧ d'.negotiatedCodec = some codec ∧ d'.remoteIP = offer.ip ∧
      d'.remotePort = offer.port

section

variable {accepted : SdpOffer → Codec → Prop}

theorem Follows.refl (d : Dialog) : Follows accepted d d := ⟨rfl, rfl, .inr rfl, .inl ⟨rfl, rfl, rfl⟩⟩

theorem Follows.trans {d d' d'' : Dialog} (h : Follows accepted d d') (h' : Follows accepted d' d'') :
    Follows accepted d d'' := by
  refine ⟨h'.sessionID.trans h.sessionID, h'.srtpSession.trans h.srtpSession, ?_, ?_⟩
  · rcases h'.state with hstate | hstate
    · exact .inl hstate
    · exact hstate ▸ h.state
  · rcases h'.offer with ⟨hcodec, hip, hport⟩ | hoffer
    · rw [hcodec, hip, hport]
      exact h.offer
    · exact .inr hoffer

end

/-- The dialogs follow those of another state, and a response with SDP that is sent besides is the
answer of an offer that was accepted. -/
structure Kept (accepted : Nat → SdpOffer → Codec → Prop) (s t : Uas) : Prop where
  length : t.dialogs.length = s.dialogs.length
  dialog : ∀ (i : Nat) (d' : Dialog), t.dialogs[i]? = some d' →
    ∃ d, s.dialogs[i]? = some d ∧ Follows (accepted i) d d'
  sent : ∀ (i : Nat) r remoteAddr transport, Sent.response (some i) r remoteAddr transport ∈ t.sent →
    Sent.response (some i) r remoteAddr transport ∈ s.sent ∨
      i < s.dialogs.length ∧ (r.body = [] ∨ ∃ offer codec, accepted i offer codec)

variable {accepted : Nat → SdpOffer → Codec → Prop}

theorem Kept.of_eq (hdialogs : t.dialogs = s.dialogs) (hsent : t.sent = s.sent) : Kept accepted s t :=
  ⟨by rw [hdialogs], fun i d hd => ⟨d, hdialogs ▸ hd, .refl d⟩, fun i r a tr h => .inl (hsent ▸ h)⟩

theorem Kept.trans (h : Kept accepted s t) (h' : Kept accepted t u) : Kept accepted s u := by
  refine ⟨h'.length.trans h.length, fun i d'' hd'' => ?_, fun i r a tr hr => ?_⟩
  · obtain ⟨d', hd', hfollows'⟩ := h'.dialog i d'' hd''
    obtain ⟨d, hd, hfollows⟩ := h.dialog i d' hd'
    exact ⟨d, hd, hfollows.trans hfollows'⟩
  · rcases h'.sent i r a tr hr with hr | ⟨hi, hbody⟩
    · exact h.sent i r a tr hr
    · exact .inr ⟨h.length ▸ hi, hbody⟩

theorem Kept.modify (i : Nat) {f : Dialog → Dialog} (hf : ∀ d, Follows (accepted i) d (f d)) :
    Kept accepted s (s.modify i f) := by
  refine ⟨List.length_modify .., fun j d' hd' => ?_, fun j r a tr hr => .inl hr⟩
  rw [Uas.modify, List.getElem?_modify] at hd'
  obtain ⟨d, hd, rfl⟩ := Option.map_eq_some_iff.mp hd'
  refine ⟨d, hd, ?_⟩
  split
  · next hij => exact hij ▸ hf d
  · exact .refl d

theorem Kept.setTerminated (i : Nat) : Kept accepted s (s.setTerminated i) :=
  .modify i fun _ => ⟨rfl, rfl, .inl rfl, .inl ⟨rfl, rfl, rfl⟩⟩

/-- A response for no dialog, or for one that it may be sent for. -/
theorem Kept.respond {dialog : Option Nat} {r : Response}
    (hr : ∀ i ∈ dialog, i < s.dialogs.length ∧ (r.body = [] ∨ ∃ offer codec, accepted i offer codec))
    (remoteAddr transport : String) : Kept accepted s (s.respond dialog r remoteAddr transport) := by
  refine ⟨rfl, fun i d hd => ⟨d, hd, .refl d⟩, fun i r' a tr hr' => ?_⟩
  rcases List.mem_append.mp hr' with hr' | hr'
  · exact .inl hr'
  · cases List.mem_singleton.mp hr'
    exact .inr (hr i rfl)

theorem Kept.respond_none {r : Response} (remoteAddr transport : String) :
    Kept accepted s (s.respond none r remoteAddr transport) := .respond (fun i hi => by cases hi) ..

theorem Kept.emit (event : UasEvent) : Kept accepted s (s.emit event) := .of_eq rfl rfl

theorem Kept.remove (sessionID : String) : Kept accepted s (s.remove sessionID) := by
  unfold Uas.remove
  split
  · exact .of_eq rfl rfl
  · exact .of_eq rfl rfl

theorem Kept.bye (i : Nat) (d : Dialog) : Kept accepted s (s.bye i d) := by
  refine (Kept.modify i (f := ({ · with localCSeq := d.localCSeq + 1 })) fun _ =>
    ⟨rfl, rfl, .inr rfl, .inl ⟨rfl, rfl, rfl⟩⟩).trans
      ⟨rfl, fun j e he => ⟨e, he, .refl e⟩, fun j r a tr hr => ?_⟩
  rcases List.mem_append.mp hr with hr | hr
  · exact .inl hr
  · cases List.mem_singleton.mp hr

variable {sdp : Sdp}

theorem Kept.handleReInvite {msg : Request} {i : Nat} {d : Dialog} (hi : i < s.dialogs.length)
    (haccepted : ∀ offer codec, msg.body ≠ [] → sdp.parseSDP msg.body = some offer →
      sdp.negotiateCodec offer = some codec → accepted i offer codec)
    (remoteAddr transport : String) (clock : Clock) :
    Kept accepted s (s.handleReInvite config sdp msg i d remoteAddr transport clock) := by
  have herror : ∀ statusCode reason now, Kept accepted s (s.respond (some i)
      (buildResponse msg statusCode reason [] [] now) remoteAddr transport) :=
    fun _ _ _ => .respond (fun j hj => by cases hj; exact ⟨hi, .inl rfl⟩) ..
  unfold Uas.handleReInvite
  split
  · exact herror ..
  · next hbody =>
    split
    · exact herror ..
    · next offer hoffer =>
      split
      · exact herror ..
      · next codec hcodec =>
        have hmodify : Kept accepted s (s.modify i ({ · with
            negotiatedCodec := some codec, remoteIP := offer.ip, remotePort := offer.port })) :=
          .modify i fun _ => ⟨rfl, rfl, .inr rfl,
            .inr ⟨offer, codec, haccepted offer codec hbody hoffer hcodec, rfl, rfl, rfl⟩⟩
        refine hmodify.trans (.respond (fun j hj => ?_) ..)
        cases hj
        exact ⟨hmodify.length ▸ hi, .inr ⟨offer, codec, haccepted offer codec hbody hoffer hcodec⟩⟩

theorem Kept.handleEnd (msg : Request) (remoteAddr transport reason : String) (clock : Clock) :
    Kept accepted s (s.handleEnd msg remoteAddr transport reason clock) := by
  unfold Uas.handleEnd
  split
  · exact .respond_none ..
  · next i d hd =>
    refine Kept.trans ?_ ((Kept.setTerminated i).trans ((Kept.remove _).trans (.emit _)))
    refine .respond (fun j hj => ?_) ..
    cases hj
    exact ⟨(List.getElem?_eq_some_iff.mp (getByCallID_eq_some.mp hd).2).1, .inl rfl⟩

/-- A dialog is added, and confirmed, and its first answer is encrypted with it. -/
structure Added (s t : Uas) (d : Dialog) : Prop where
  dialogs : t.dialogs = s.dialogs ++ [{ d with state := .confirmed }]
  sent : ∀ (i : Nat) r remoteAddr transport, Sent.response (some i) r remoteAddr transport ∈ t.sent →
    Sent.response (some i) r remoteAddr transport ∈ s.sent ∨
      i = s.dialogs.length ∧ (d.srtpSession ≠ none → Savp r.body)

/-- The crypto line of an INVITE that is accepted is made of its result. -/
theorem cryptoLine_of_accept {offers : Offers} {msg : Request} {known : Bool} {clock : Clock}
    {offer : SdpOffer} {codec : Codec} {session : SrtpSession} {cryptoLine : String}
    (haccept : accept offers.sdp msg known clock = .ok (offer, codec, some (session, cryptoLine))) :
    ∃ result, cryptoLine = formatCryptoAnswer result := by
  unfold accept at haccept
  split at haccept
  · cases haccept
  · split at haccept
    · cases haccept
    · split at haccept
      · cases haccept
      · split at haccept
        · cases haccept
        · split at haccept
          · cases haccept
          · cases haccept
          · cases haccept
          · next hsdes =>
            cases haccept
            simp only [Offers.sdp] at hsdes
            split at hsdes
            · cases hsdes
            · cases hsdes
            · cases hsdes
            · cases hsdes
              exact ⟨_, rfl⟩

theorem modify_concat {α : Type*} (l : List α) (a : α) (f : α → α) :
    (l ++ [a]).modify l.length f = l ++ [f a] := by
  induction l with
  | nil => rfl
  | cons b l ih => simp [List.modify_succ_cons, ih]

theorem Added.acceptInvite (offers : Offers) {msg : Request} {known : Bool} {clock : Clock}
    {offer : SdpOffer} {codec : Codec} {srtp : Option (SrtpSession × String)}
    (haccept : accept offers.sdp msg known clock = .ok (offer, codec, srtp))
    (remoteAddr transport : String) :
    Added s (s.acceptInvite config offers.sdp msg remoteAddr transport offer codec srtp clock)
      (inviteDialog msg remoteAddr transport offer codec srtp clock) := by
  refine ⟨?_, fun i r a tr hr => ?_⟩
  · simp [Uas.acceptInvite, Uas.emit, Uas.modify, Uas.respond, Uas.add, modify_concat]
  · obtain ⟨trying, answer, hbody, hsent⟩ : ∃ trying answer : Response,
        answer.body = generateSDPAnswer ⟨codec, config.publicIP, config.mediaPort, srtp.isSome,
          (srtp.map Prod.snd).getD ""⟩ ∧
        (s.acceptInvite config offers.sdp msg remoteAddr transport offer codec srtp clock).sent =
          s.sent ++ [.response none trying remoteAddr transport] ++
            [.response (some s.dialogs.length) answer remoteAddr transport] := ⟨_, _, rfl, rfl⟩
    rw [hsent] at hr
    rcases List.mem_append.mp hr with hr | hr
    · rcases List.mem_append.mp hr with hr | hr
      · exact .inl hr
      · cases List.mem_singleton.mp hr
    · cases List.mem_singleton.mp hr
      refine .inr ⟨rfl, fun hsrtp => ?_⟩
      cases srtp with
      | none => exact (hsrtp rfl).elim
      | some srtp =>
        obtain ⟨result, hline⟩ := cryptoLine_of_accept haccept
        rw [hbody, Option.map_some, Option.getD_some, Option.isSome_some, hline]
        exact savp_generateSDPAnswer ..

/-- **Every step** keeps the dialogs, or adds one. -/
theorem step_kept_or_added {offers : Offers} (hstep : s.step config offers.sdp input = some t) :
    Kept (s.Reoffers offers.sdp input) s t ∨
      ∃ d, s.added offers.sdp (.uas input) = some d ∧ Added s t d := by
  match input with
  | .shutdown i =>
    obtain ⟨d, -, rfl⟩ := Option.map_eq_some_iff.mp hstep
    refine .inl ?_
    unfold Uas.shutdownDialog
    split
    · exact (Kept.bye ..).trans (.setTerminated _)
    · exact .setTerminated _
  | .sendBye x =>
    cases hstep
    refine .inl ?_
    unfold Uas.sendBye
    split
    · exact .of_eq rfl rfl
    · exact (Kept.bye ..).trans ((Kept.setTerminated _).trans (.remove _))
  | .message msg remoteAddr transport known clock =>
    cases hstep
    unfold Uas.handleMessage
    split
    · next hmethod =>
      unfold Uas.handleInvite
      split
      · exact .inl (.respond_none ..)
      · next hx =>
        split
        · next i d hd =>
          exact .inl (.handleReInvite (List.getElem?_eq_some_iff.mp (dialog_of_confirmedDialog hd)).1
            (fun offer codec hbody hoffer hcodec =>
              ⟨hmethod, hx, ⟨d, hd⟩, hbody, hoffer, hcodec⟩) ..)
        · next hd =>
          split
          · exact .inl (.respond_none ..)
          · next offer codec srtp haccept =>
            exact .inr ⟨_, added_message.mpr ⟨hmethod, hx, hd, offer, codec, srtp, haccept, rfl⟩,
              .acceptInvite offers haccept ..⟩
    · exact .inl (.handleEnd ..)
    · exact .inl (.of_eq rfl rfl)
    · exact .inl (.handleEnd ..)
    · exact .inl (.respond_none ..)

/-- The dialog of an offer that is accepted within it. -/
theorem Reoffers.dialog {i : Nat} {offer : SdpOffer} {codec : Codec}
    (h : s.Reoffers sdp input i offer codec) : ∃ d, s.dialogs[i]? = some d := by
  match input with
  | .message msg _ _ _ _ =>
    obtain ⟨-, -, ⟨d, hd⟩, -⟩ := h
    exact ⟨d, dialog_of_confirmedDialog hd⟩

/-- An encrypted dialog that refuses its offers accepts none. -/
theorem Refuses.not_reoffers (h : s.Refuses sdp input) {i : Nat} {d : Dialog}
    (hd : s.dialogs[i]? = some d) (hsrtp : d.srtpSession ≠ none) (offer : SdpOffer) (codec : Codec) :
    ¬ s.Reoffers sdp input i offer codec := by
  match input with
  | .message msg _ _ _ _ =>
    rintro ⟨hmethod, hx, ⟨e, he⟩, hbody, hoffer, hcodec⟩
    cases hd.symm.trans (dialog_of_confirmedDialog he)
    rcases h hmethod hx (i, d) he hsrtp with h | h
    · exact hbody h
    · rw [hoffer, Option.bind_some, hcodec] at h
      cases h
  | .sendBye _ => exact id
  | .shutdown _ => exact id

/-! ## What a run keeps -/

/-- What is sent for a dialog is sent once there is one, and is encrypted as it is. -/
structure Answered (s : Uas) : Prop where
  known : ∀ (i : Nat) r remoteAddr transport,
    Sent.response (some i) r remoteAddr transport ∈ s.sent → i < s.dialogs.length
  encrypted : s.Encrypted

theorem Answered.kept (h : s.Answered) (hrefuses : s.Refuses sdp input)
    (hkept : Kept (s.Reoffers sdp input) s t) : t.Answered := by
  refine ⟨fun i r a tr hr => ?_, fun i r a tr hr d' hd' hsrtp hbody => ?_⟩
  · rw [hkept.length]
    rcases hkept.sent i r a tr hr with hr | ⟨hi, -⟩
    · exact h.known i r a tr hr
    · exact hi
  · obtain ⟨d, hd, hfollows⟩ := hkept.dialog i d' hd'
    rw [hfollows.srtpSession] at hsrtp
    rcases hkept.sent i r a tr hr with hr | ⟨-, hempty | ⟨offer, codec, hoffer⟩⟩
    · exact h.encrypted i r a tr hr d hd hsrtp hbody
    · exact absurd hempty hbody
    · exact absurd hoffer (hrefuses.not_reoffers hd hsrtp offer codec)

theorem Answered.added {d : Dialog} (h : s.Answered) (hadded : Added s t d) : t.Answered := by
  refine ⟨fun i r a tr hr => ?_, fun i r a tr hr d' hd' hsrtp hbody => ?_⟩
  · rw [hadded.dialogs, List.length_append, List.length_singleton]
    rcases hadded.sent i r a tr hr with hr | ⟨rfl, -⟩
    · exact Nat.lt_succ_of_lt (h.known i r a tr hr)
    · exact Nat.lt_succ_self _
  · rw [hadded.dialogs] at hd'
    rcases hadded.sent i r a tr hr with hr | ⟨rfl, hsavp⟩
    · rw [List.getElem?_append_left (h.known i r a tr hr)] at hd'
      exact h.encrypted i r a tr hr d' hd' hsrtp hbody
    · rw [List.getElem?_concat_length] at hd'
      cases hd'
      exact hsavp hsrtp

theorem mem_live {x : String} {d : Dialog} : d ∈ s.live x ↔
    (∃ i : Nat, s.dialogs[i]? = some d) ∧ d.sessionID = x ∧ d.state ≠ .terminated := by
  rw [live, List.mem_filter, decide_eq_true_eq, List.mem_iff_getElem?]

theorem mem_keys {x : String} {k : SrtpSession} :
    k ∈ s.keys x ↔ ∃ d ∈ s.live x, d.srtpSession = some k := List.mem_filterMap

/-- No session gets a new dialog where the dialogs are kept. -/
theorem Kept.live (h : Kept accepted s t) {x : String} {d' : Dialog} (hd' : d' ∈ t.live x) :
    ∃ i, ∃ d ∈ s.live x, s.dialogs[i]? = some d ∧ Follows (accepted i) d d' := by
  obtain ⟨⟨i, hi⟩, hx, hlive⟩ := mem_live.mp hd'
  obtain ⟨d, hd, hfollows⟩ := h.dialog i d' hi
  refine ⟨i, d, mem_live.mpr ⟨⟨i, hd⟩, hfollows.sessionID ▸ hx, fun hterminated => ?_⟩, hd, hfollows⟩
  rcases hfollows.state with hstate | hstate
  · exact hlive hstate
  · exact hlive (hstate.trans hterminated)

/-- A dialog that is added is one of its session. -/
theorem Added.live {d : Dialog} (h : Added s t d) {x : String} {d' : Dialog} (hd' : d' ∈ t.live x) :
    d' ∈ s.live x ∨ d.sessionID = x ∧ d' = { d with state := .confirmed } := by
  obtain ⟨⟨i, hi⟩, hx, hlive⟩ := mem_live.mp hd'
  rw [h.dialogs] at hi
  rcases List.mem_append.mp (List.mem_iff_getElem?.mpr ⟨i, hi⟩) with hmem | hmem
  · exact .inl (mem_live.mpr ⟨List.mem_iff_getElem?.mp hmem, hx, hlive⟩)
  · cases List.mem_singleton.mp hmem
    exact .inr ⟨hx, rfl⟩

theorem Kept.keys (h : Kept accepted s t) {x : String} {k : SrtpSession} (hk : k ∈ t.keys x) :
    k ∈ s.keys x := by
  obtain ⟨d', hd', hsrtp⟩ := mem_keys.mp hk
  obtain ⟨i, d, hd, -, hfollows⟩ := h.live hd'
  exact mem_keys.mpr ⟨d, hd, hfollows.srtpSession ▸ hsrtp⟩

/-- A dialog that is added brings its keys to its session. -/
theorem Added.keys {d : Dialog} (h : Added s t d) {x : String} {k : SrtpSession}
    (hk : k ∈ t.keys x) : k ∈ s.keys x ∨ d.sessionID = x ∧ d.srtpSession = some k := by
  obtain ⟨d', hd', hsrtp⟩ := mem_keys.mp hk
  rcases h.live hd' with hd' | ⟨hx, rfl⟩
  · exact .inl (mem_keys.mpr ⟨d', hd', hsrtp⟩)
  · exact .inr ⟨hx, hsrtp⟩

end Uas

end Svarla.Sip
