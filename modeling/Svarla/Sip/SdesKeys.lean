import Mathlib
import Svarla.Sip.SdpOffers
import Svarla.Sip.SrtpAnswers

/-!
# The crypto lines of an offer

`ParseCryptoAttributes` reads the crypto lines of all sections, and `NegotiateSDES` selects the first one
by its suite alone. The key is decoded after that, and together with the lifetime and the MKI that may
follow it: where these are, there is no key (`remoteKey_usable`). So an INVITE gets the first usable key of
its audio section exactly if the line that is selected gives it (`takes_first_usable_iff`).
-/

namespace Svarla.Sip.SdesKeys

open Svarla.Sip.Stream Svarla.Sip.OfferLines

/-! ## Base64 -/

/-- The value of a letter of the standard alphabet. -/
def digit64 (c : UInt8) : Option Nat :=
  if 65 ≤ c ∧ c ≤ 90 then some (c.toNat - 65)
  else if 97 ≤ c ∧ c ≤ 122 then some (c.toNat - 71)
  else if isDigit c then some (c.toNat + 4)
  else if c = 43 then some 62
  else if c = 47 then some 63
  else none

/-- The letter of a value. -/
def letter64 (n : Nat) : Char :=
  if n < 26 then Char.ofNat (n + 65)
  else if n < 52 then Char.ofNat (n + 71)
  else if n < 62 then Char.ofNat (n - 4)
  else if n = 62 then '+'
  else '/'

/-- `base64.StdEncoding.DecodeString`, of a text without line breaks. -/
def decode64 : Bytes → Option Bytes
  | [] => some []
  | a :: b :: c :: d :: text =>
    (digit64 a).bind fun a => (digit64 b).bind fun b =>
      let first := UInt8.ofNat (a * 4 + b / 16)
      if c = 61 then if d = 61 ∧ text = [] then some [first] else none
      else
        (digit64 c).bind fun c =>
          let second := UInt8.ofNat (b % 16 * 16 + c / 4)
          if d = 61 then if text = [] then some [first, second] else none
          else
            (digit64 d).bind fun d =>
              (decode64 text).map fun bytes => first :: second :: UInt8.ofNat (c % 4 * 64 + d) :: bytes
  | _ => none

/-- `base64.StdEncoding.EncodeToString`. -/
def encode64 : Bytes → List Char
  | [] => []
  | [a] => [letter64 (a.toNat / 4), letter64 (a.toNat % 4 * 16), '=', '=']
  | [a, b] =>
    [letter64 (a.toNat / 4), letter64 (a.toNat % 4 * 16 + b.toNat / 16), letter64 (b.toNat % 16 * 4), '=']
  | a :: b :: c :: bytes =>
    letter64 (a.toNat / 4) :: letter64 (a.toNat % 4 * 16 + b.toNat / 16) ::
      letter64 (b.toNat % 16 * 4 + c.toNat / 64) :: letter64 (c.toNat % 64) :: encode64 bytes

/-! ## Negotiation -/

/-- `CryptoAttribute`. -/
structure CryptoAttribute where
  tag : Int
  suite : Bytes
  keyParams : Bytes
  deriving DecidableEq, Repr

/-- The lines of an offer, without white space at their ends. -/
def textLines (body : Bytes) : List Bytes := (body.splitOn 10).map Stream.trimSpace

def isCrypto (line : Bytes) : Bool := (ascii "a=crypto:").isPrefixOf line

/-- `strings.Fields` of a crypto line, without its beginning. -/
def cryptoFields (line : Bytes) : List Bytes := fields line.length (line.drop 9)

/-- `parseCryptoLine`. -/
def parseCryptoLine (line : Bytes) : Option CryptoAttribute :=
  match cryptoFields line with
  | tag :: suite :: keyParams :: _ => (atoi tag).map fun tag => ⟨tag, suite, keyParams⟩
  | _ => none

/-- `ParseCryptoAttributes`. -/
def parseCryptoAttributes (body : Bytes) : List CryptoAttribute :=
  ((textLines body).filter isCrypto).filterMap parseCryptoLine

/-- `supportedSuite`. -/
def supportedSuite : Bytes := ascii "AES_CM_128_HMAC_SHA1_80"

/-- `strings.EqualFold` with the supported suite. -/
def isSupported (c : CryptoAttribute) : Bool := fold c.suite = fold supportedSuite

/-- The key parameters, decoded. -/
def remoteKey (c : CryptoAttribute) : Option Bytes :=
  decode64 (if (ascii "inline:").isPrefixOf c.keyParams then c.keyParams.drop 7 else c.keyParams)

/-- The text of a suite that is supported. -/
def suiteText : Bytes → List Char
  | [] => []
  | 0xC5 :: 0xBF :: s => Char.ofNat 0x17F :: suiteText s
  | 0xE2 :: 0x84 :: 0xAA :: s => Char.ofNat 0x212A :: suiteText s
  | c :: s => Char.ofNat c.toNat :: suiteText s

/-- The local keys, which are new at every time. -/
abbrev LocalKeys := Nat → Vector UInt8 30

/-- `NegotiateSDES`: no result at all is an error, and no suite is supported where there is none of them. -/
def negotiateSDES (localKeys : LocalKeys) (offered : List CryptoAttribute) (now : Nat) :
    Option (Option SdesResult) :=
  match offered.find? isSupported with
  | none => some none
  | some selected =>
    let localKey := (localKeys now).toList
    (remoteKey selected).map fun remoteKey => some
      { tag := selected.tag
        suite := .ofList (suiteText selected.suite)
        localKey
        localKeyB64 := .ofList (encode64 localKey)
        remoteKey }

/-- What an INVITE does with its crypto attributes; `NewSRTPSession` fails for keys of another length. -/
def inviteSDES (localKeys : LocalKeys) (body : Bytes) (now : Nat) : Option (Except Sdes SdesResult) :=
  let cryptoAttrs := parseCryptoAttributes body
  if cryptoAttrs = [] then none
  else
    match negotiateSDES localKeys cryptoAttrs now with
    | none => some (.error .notAcceptable)
    | some none => some (.error .notAcceptable)
    | some (some result) =>
      if result.localKey.length = 30 ∧ result.remoteKey.length = 30 then some (.ok result)
      else some (.error .failed)

/-- The handling of offers, with this negotiation. -/
def offers (parseSDP : Bytes → Option SdpOffer) (negotiateCodec : SdpOffer → Option Sip.Codec)
    (localKeys : LocalKeys) : Offers where
  parseSDP
  negotiateCodec
  negotiateSDES := inviteSDES localKeys

/-! ## Usable lines -/

/-- The lines of the audio section. -/
def audioLines (body : Bytes) : List Bytes :=
  (((textLines body).dropWhile fun line => !(ascii "m=audio ").isPrefixOf line).drop 1).takeWhile
    fun line => !(ascii "m=").isPrefixOf line

def isNumber (s : Bytes) : Bool := s ≠ [] ∧ s.all isDigit

/-- The lifetime of a key: a number, or a power of two. -/
def isLifetime (s : Bytes) : Bool := isNumber (if (ascii "2^").isPrefixOf s then s.drop 2 else s)

/-- `MKI:length`. -/
def isMki (s : Bytes) : Bool :=
  match s.splitOn 58 with
  | [value, length] => isNumber value ∧ isNumber length ∧ length.length ≤ 3
  | _ => false

/-- What may follow a key. -/
def keyOptions : List Bytes → Bool
  | [] => true
  | [part] => isLifetime part ∨ isMki part
  | [lifetime, mki] => isLifetime lifetime ∧ isMki mki
  | _ => false

/-- A tag has at most nine digits. -/
def isTag (s : Bytes) : Bool := isNumber s ∧ s.length ≤ 9

/-- The parts of a key: the key, and its options. -/
def keyParts (keyParams : Bytes) : List Bytes := (keyParams.drop 7).splitOn 124

/-- The tag and the key of a crypto line that is usable: of a tag, the suite, `inline:`, a key of 30 bytes
and its options. -/
def usable (line : Bytes) : Option (Int × Bytes) :=
  match isCrypto line, cryptoFields line with
  | true, [tag, suite, keyParams] =>
    if isTag tag ∧ suite.map toLower = supportedSuite.map toLower ∧
        (ascii "inline:").isPrefixOf keyParams then
      match keyParts keyParams with
      | key :: options =>
        if keyOptions options then
          ((decode64 key).filter (·.length = 30)).map fun key => ((number tag : Int), key)
        else none
      | [] => none
    else none
  | _, _ => none

/-- The first usable line of the audio section, by its tag and key. -/
def firstUsable (body : Bytes) : Option (Int × Bytes) := (audioLines body).findSome? usable

/-- The audio section has crypto lines. -/
def OffersCrypto (body : Bytes) : Prop := ∃ line ∈ audioLines body, isCrypto line = true

/-- What is selected: the first line of the supported suite that is read, in whatever section. -/
def selected (body : Bytes) : Option CryptoAttribute := (parseCryptoAttributes body).find? isSupported

/-- What is selected has the tag and the key of the first usable line. Where the audio section has crypto
lines, but none that is usable, a crypto line is read, and no key is decoded. -/
def SelectsUsable (body : Bytes) : Prop :=
  match firstUsable body with
  | some (tag, key) => ∃ c ∈ selected body, c.tag = tag ∧ remoteKey c = some key
  | none => OffersCrypto body → parseCryptoAttributes body ≠ [] ∧ ∀ c ∈ selected body, remoteKey c = none

/-! ## What is read of a usable line -/

section
variable {line tagText suite keyParams : Bytes} {tag : Int} {key : Bytes}

/-- A letter of a text that is decoded is of the alphabet, or pads. -/
theorem decode64_letters {text bytes : Bytes} (h : decode64 text = some bytes) :
    ∀ c ∈ text, (digit64 c).isSome ∨ c = 61 := by
  induction text using decode64.induct generalizing bytes with
  | case1 => intro c hc; cases hc
  | case2 a b c d text ih =>
    rw [decode64, Option.bind_eq_some_iff] at h
    obtain ⟨a', ha, h⟩ := h
    obtain ⟨b', hb, h⟩ := Option.bind_eq_some_iff.mp h
    rw [List.forall_mem_cons, List.forall_mem_cons, List.forall_mem_cons, List.forall_mem_cons]
    refine ⟨.inl (by rw [ha]; rfl), .inl (by rw [hb]; rfl), ?_⟩
    dsimp only at h
    split at h
    · next hc =>
      split at h
      · next hend => exact ⟨.inr hc, .inr hend.1, by rw [hend.2]; exact List.forall_mem_nil _⟩
      · cases h
    · obtain ⟨c', hc, h⟩ := Option.bind_eq_some_iff.mp h
      refine ⟨.inl (by rw [hc]; rfl), ?_⟩
      split at h
      · next hd =>
        split at h
        · next hend => exact ⟨.inr hd, by rw [hend]; exact List.forall_mem_nil _⟩
        · cases h
      · obtain ⟨d', hd, h⟩ := Option.bind_eq_some_iff.mp h
        obtain ⟨more, hmore, -⟩ := Option.map_eq_some_iff.mp h
        exact ⟨.inl (by rw [hd]; rfl), ih hmore⟩
  | case3 text hnil hcons =>
    match text, hnil, hcons, h with
    | [a], _, _, h => cases h
    | [a, b], _, _, h => cases h
    | [a, b, c], _, _, h => cases h
    | a :: b :: c :: d :: text, _, hcons, _ => exact absurd rfl (hcons a b c d text)

/-- The parts of a key are not decoded together. -/
theorem decode64_parts {text : Bytes} (h : 124 ∈ text) : decode64 text = none := by
  by_contra hsome
  obtain ⟨bytes, hbytes⟩ := Option.ne_none_iff_exists'.mp hsome
  rcases decode64_letters hbytes 124 h with hdigit | heq
  · exact absurd hdigit (by decide)
  · exact absurd heq (by decide)

theorem number_lt (digits : Bytes) (hdigits : digits.all isDigit = true) :
    number digits < 10 ^ digits.length := by
  have hfrom : ∀ (digits : Bytes) (n : Nat), digits.all isDigit = true →
      digits.foldl (fun n c => 10 * n + (c.toNat - 48)) n < (n + 1) * 10 ^ digits.length := by
    intro digits
    induction digits with
    | nil => intro n _; simp
    | cons c digits ih =>
      intro n hall
      rw [List.all_cons, Bool.and_eq_true] at hall
      have hc : c ≤ 57 := by
        have := hall.1
        simp only [isDigit, Bool.decide_and, Bool.and_eq_true, decide_eq_true_eq] at this
        exact this.2
      have hc' : c.toNat ≤ 57 := UInt8.le_iff_toNat_le.mp hc
      have hrest := ih (10 * n + (c.toNat - 48)) hall.2
      rw [List.foldl_cons, List.length_cons, Nat.pow_succ]
      calc _ < (10 * n + (c.toNat - 48) + 1) * 10 ^ digits.length := hrest
        _ ≤ (10 * (n + 1)) * 10 ^ digits.length := Nat.mul_le_mul_right _ (by omega)
        _ = (n + 1) * (10 ^ digits.length * 10) := by
          rw [Nat.mul_comm 10, Nat.mul_assoc, Nat.mul_comm 10]
  have hzero := hfrom digits 0 hdigits
  rwa [Nat.zero_add, Nat.one_mul] at hzero

/-- A tag is a number. -/
theorem atoi_tag (h : isTag tagText = true) : atoi tagText = some (number tagText : Int) := by
  simp only [isTag, isNumber, Bool.decide_and, Bool.and_eq_true, decide_eq_true_eq] at h
  obtain ⟨⟨hne, hdigits⟩, hlength⟩ := h
  have hlt : number tagText < 2 ^ 63 :=
    calc number tagText < 10 ^ tagText.length := number_lt tagText hdigits
      _ ≤ 10 ^ 9 := Nat.pow_le_pow_right (by decide) hlength
      _ < 2 ^ 63 := by decide
  match tagText, hne with
  | c :: digits, _ =>
    have hc : isDigit c = true := by
      rw [List.all_cons, Bool.and_eq_true] at hdigits
      exact hdigits.1
    have hminus : c ≠ 45 := by
      rintro rfl
      cases hc
    have hplus : c ≠ 43 := by
      rintro rfl
      cases hc
    have hhead : (c :: digits).head? ≠ some 43 := by
      rw [List.head?_cons]
      exact fun heq => hplus (Option.some.inj heq)
    unfold atoi
    split
    · next heq => exact absurd (List.cons.inj heq).1 hminus
    · dsimp only
      rw [if_neg hhead, if_pos ⟨List.cons_ne_nil _ _, hdigits, hlt⟩]

/-- The letters of ASCII are folded one by one. -/
theorem fold_ascii {s : Bytes} (h : ∀ c ∈ s, toLower c < 128) : fold s = s.map toLower := by
  induction s using fold.induct with
  | case1 => rfl
  | case2 s ih => exact absurd (h _ (.head _)) (by decide)
  | case3 s ih => exact absurd (h _ (.head _)) (by decide)
  | case4 c s h1 h2 ih =>
    rw [fold, ih fun x hx => h x (.tail _ hx)]
    · rfl
    · exact h1
    · exact h2

theorem fold_suite (h : suite.map toLower = supportedSuite.map toLower) :
    fold suite = fold supportedSuite := by
  have hletters : (supportedSuite.map toLower).all (· < 128) = true := by decide
  have hall : ∀ c ∈ supportedSuite.map toLower, c < 128 := fun c hc =>
    of_decide_eq_true (List.all_eq_true.mp hletters c hc)
  rw [fold_ascii fun c hc => hall _ (by rw [← h]; exact List.mem_map_of_mem hc), h]
  exact (fold_ascii fun c hc => hall _ (List.mem_map_of_mem hc)).symm

/-- A usable line, by its fields. -/
structure UsableFields (line tagText suite keyParams : Bytes) (tag : Int) (key : Bytes) : Prop where
  crypto : isCrypto line = true
  fields : cryptoFields line = [tagText, suite, keyParams]
  numbered : isTag tagText = true
  tag : tag = number tagText
  suite : suite.map toLower = supportedSuite.map toLower
  inline : (ascii "inline:").isPrefixOf keyParams = true
  decoded : ∃ keyText options, keyParts keyParams = keyText :: options ∧ decode64 keyText = some key
  sized : key.length = 30

theorem usable_fields (h : usable line = some (tag, key)) :
    ∃ tagText suite keyParams, UsableFields line tagText suite keyParams tag key := by
  unfold usable at h
  split at h
  · next tagText suite keyParams hcrypto hfields =>
    split at h
    · next hform =>
      split at h
      · next keyText options hparts =>
        split at h
        · obtain ⟨decoded, hdecoded, heq⟩ := Option.map_eq_some_iff.mp h
          cases heq
          obtain ⟨hkey, hlength⟩ := Option.filter_eq_some_iff.mp hdecoded
          exact ⟨tagText, suite, keyParams, hcrypto, hfields, hform.1, rfl, hform.2.1, hform.2.2,
            ⟨keyText, options, hparts, hkey⟩, of_decide_eq_true hlength⟩
        · cases h
      · cases h
    · cases h
  · cases h

/-- A usable line is read, and its suite is supported. -/
theorem UsableFields.parsed (h : UsableFields line tagText suite keyParams tag key) :
    parseCryptoLine line = some ⟨tag, suite, keyParams⟩ ∧ isSupported ⟨tag, suite, keyParams⟩ = true := by
  refine ⟨?_, decide_eq_true (fold_suite h.suite)⟩
  unfold parseCryptoLine
  rw [h.fields]
  dsimp only
  rw [atoi_tag h.numbered, Option.map_some, ← h.tag]

/-- The key is alone in its parameters. -/
def Bare (line : Bytes) : Prop := ∀ keyParams ∈ (cryptoFields line)[2]?, 124 ∉ keyParams

/-- **A usable key is decoded if there are no options**, and else not. -/
theorem remoteKey_usable (h : UsableFields line tagText suite keyParams tag key) :
    (Bare line → remoteKey ⟨tag, suite, keyParams⟩ = some key) ∧
      (¬ Bare line → remoteKey ⟨tag, suite, keyParams⟩ = none) := by
  have hbare : Bare line ↔ 124 ∉ keyParams := by
    unfold Bare
    rw [h.fields]
    simp
  have hremote : remoteKey ⟨tag, suite, keyParams⟩ = decode64 (keyParams.drop 7) := by
    rw [remoteKey]
    exact congrArg decode64 (if_pos h.inline)
  obtain ⟨pad, hpad⟩ := List.isPrefixOf_iff_prefix.mp h.inline
  have hsplit : keyParams = ascii "inline:" ++ keyParams.drop 7 := by
    rw [← hpad]
    rfl
  have hmem : 124 ∈ keyParams ↔ 124 ∈ keyParams.drop 7 := by
    refine ⟨fun hmem => ?_, List.mem_of_mem_drop⟩
    rw [hsplit] at hmem
    exact (List.mem_append.mp hmem).resolve_left (by decide)
  rw [hbare, hremote, hmem]
  refine ⟨fun hnot => ?_, fun hmem => decode64_parts (not_not.mp hmem)⟩
  obtain ⟨keyText, options, hparts, hkey⟩ := h.decoded
  rw [keyParts, List.splitOn_eq_singleton hnot] at hparts
  cases hparts
  exact hkey

end

/-! ## Handling an INVITE -/

/-- What the UAS handles offers with. -/
structure Env where
  config : UasConfig
  parseSDP : Bytes → Option SdpOffer
  negotiateCodec : SdpOffer → Option Sip.Codec
  localKeys : LocalKeys

def Env.sdp (env : Env) : Sdp := (offers env.parseSDP env.negotiateCodec env.localKeys).sdp

/-- A request, as it comes. -/
structure Incoming where
  msg : Request
  remoteAddr : String
  transport : String
  known : Bool
  clock : Clock

def Env.handle (env : Env) (s : Uas) (i : Incoming) : Uas :=
  s.handleMessage env.config env.sdp i.msg i.remoteAddr i.transport i.known i.clock

/-- An INVITE for a new dialog of a known session, with an offer that has a codec. -/
structure Invites (env : Env) (s : Uas) (i : Incoming) (offer : SdpOffer) (codec : Sip.Codec) : Prop where
  method : i.msg.method = "INVITE"
  session : extractSessionID i.msg.requestURI ≠ ""
  fresh : s.confirmedDialog i.msg.callID = none
  known : i.known = true
  body : i.msg.body ≠ []
  parsed : env.parseSDP i.msg.body = some offer
  negotiated : env.negotiateCodec offer = some codec

/-- The INVITE is answered with a tag, and its dialog has a key. -/
def Negotiates (env : Env) (s : Uas) (i : Incoming) (codec : Sip.Codec) (tag : Int) (key : Bytes) : Prop :=
  ∃ result, inviteSDES env.localKeys i.msg.body (i.clock 0) = some (.ok result) ∧ result.tag = tag ∧
    ∃ d answer, (env.handle s i).dialogs = s.dialogs ++ [d] ∧ d.srtpSession = some ⟨result.localKey, key⟩ ∧
      .response (some s.dialogs.length) answer i.remoteAddr i.transport ∈ (env.handle s i).sent ∧
      answer.statusCode = 200 ∧
      answer.body = generateSDPAnswer
        ⟨codec, env.config.publicIP, env.config.mediaPort, true, formatCryptoAnswer result⟩

/-- The INVITE is answered with 488 alone, and makes no dialog. -/
def Rejects (env : Env) (s : Uas) (i : Incoming) : Prop :=
  (env.handle s i).dialogs = s.dialogs ∧
    (env.handle s i).sent = s.sent ++ [.response none
      (buildResponse i.msg 488 "Not Acceptable Here" [] [] (i.clock 2)) i.remoteAddr i.transport]

/-- The first usable line of the audio section is taken, and crypto lines of which none is usable are
refused. -/
def TakesFirstUsable (env : Env) (s : Uas) (i : Incoming) (codec : Sip.Codec) : Prop :=
  (∀ tag key, firstUsable i.msg.body = some (tag, key) → Negotiates env s i codec tag key) ∧
    (firstUsable i.msg.body = none → OffersCrypto i.msg.body → Rejects env s i)

section
variable {env : Env} {s : Uas} {i : Incoming} {offer : SdpOffer} {codec : Sip.Codec}

/-- What an INVITE is answered with is up to its crypto attributes. -/
theorem Invites.accept (h : Invites env s i offer codec) :
    Uas.accept env.sdp i.msg i.known i.clock =
      match inviteSDES env.localKeys i.msg.body (i.clock 0) with
      | none => .ok (offer, codec, none)
      | some (.error .failed) => .error (500, "Internal Server Error")
      | some (.error _) => .error (488, "Not Acceptable Here")
      | some (.ok result) =>
        .ok (offer, codec, some (⟨result.localKey, result.remoteKey⟩, formatCryptoAnswer result)) := by
  have hparsed : env.sdp.parseSDP i.msg.body = some offer := h.parsed
  have hcodec : env.sdp.negotiateCodec offer = some codec := h.negotiated
  have hsdes : env.sdp.negotiateSDES i.msg.body (i.clock 0) =
      match inviteSDES env.localKeys i.msg.body (i.clock 0) with
      | none => .plain
      | some (.error .failed) => .failed
      | some (.error _) => .notAcceptable
      | some (.ok result) =>
        .negotiated ⟨result.localKey, result.remoteKey⟩ (formatCryptoAnswer result) := rfl
  unfold Uas.accept
  rw [if_neg (by rw [h.known]; decide), if_neg h.body, hparsed]
  dsimp only
  rw [hcodec]
  dsimp only
  rw [hsdes]
  generalize inviteSDES env.localKeys i.msg.body (i.clock 0) = negotiation
  match negotiation with
  | none => rfl
  | some (.error .plain) => rfl
  | some (.error .notAcceptable) => rfl
  | some (.error .failed) => rfl
  | some (.error (.negotiated _ _)) => rfl
  | some (.ok _) => rfl

/-- The INVITE is handled as one that is not within a dialog. -/
theorem Invites.handle (h : Invites env s i offer codec) :
    env.handle s i =
      match Uas.accept env.sdp i.msg i.known i.clock with
      | .error (statusCode, reason) =>
        s.respond none (buildResponse i.msg statusCode reason [] [] (i.clock 2)) i.remoteAddr i.transport
      | .ok (offer, codec, srtp) =>
        s.acceptInvite env.config env.sdp i.msg i.remoteAddr i.transport offer codec srtp i.clock := by
  unfold Env.handle Uas.handleMessage
  rw [h.method]
  unfold Uas.handleInvite
  rw [if_neg h.session, h.fresh]
  rfl

/-- The dialog of an INVITE that is accepted has its SRTP session. -/
theorem Invites.accepted (h : Invites env s i offer codec) {srtp : Option (SrtpSession × String)}
    (haccept : Uas.accept env.sdp i.msg i.known i.clock = .ok (offer, codec, srtp)) :
    ∃ d answer, (env.handle s i).dialogs = s.dialogs ++ [d] ∧ d.srtpSession = srtp.map Prod.fst ∧
      .response (some s.dialogs.length) answer i.remoteAddr i.transport ∈ (env.handle s i).sent ∧
      answer.statusCode = 200 ∧
      answer.body = generateSDPAnswer ⟨codec, env.config.publicIP, env.config.mediaPort, srtp.isSome,
        (srtp.map Prod.snd).getD ""⟩ := by
  have hhandle : env.handle s i =
      s.acceptInvite env.config env.sdp i.msg i.remoteAddr i.transport offer codec srtp i.clock := by
    rw [h.handle, haccept]
  have hadded : Uas.Added s (env.handle s i)
      (Uas.inviteDialog i.msg i.remoteAddr i.transport offer codec srtp i.clock) := by
    rw [hhandle]
    exact .acceptInvite _ haccept i.remoteAddr i.transport
  rw [hhandle] at hadded ⊢
  exact ⟨_, _, hadded.dialogs, rfl, List.mem_append_right _ (.head _), rfl, rfl⟩

/-- An INVITE that is not accepted makes no dialog. -/
theorem Invites.refused (h : Invites env s i offer codec) {statusCode : Nat} {reason : String}
    (haccept : Uas.accept env.sdp i.msg i.known i.clock = .error (statusCode, reason)) :
    (env.handle s i).dialogs = s.dialogs ∧
      (env.handle s i).sent = s.sent ++ [.response none
        (buildResponse i.msg statusCode reason [] [] (i.clock 2)) i.remoteAddr i.transport] := by
  rw [h.handle, haccept]
  exact ⟨rfl, rfl⟩

/-! ## What is negotiated -/

variable {localKeys : LocalKeys} {body : Bytes} {now : Nat} {c : CryptoAttribute} {key : Bytes}

theorem parsed_of_selected (hc : selected body = some c) : parseCryptoAttributes body ≠ [] :=
  List.ne_nil_of_mem (List.mem_of_find?_eq_some hc)

/-- A key that is decoded is negotiated, if it has 30 bytes. -/
theorem inviteSDES_of_key (localKeys : LocalKeys) (now : Nat) (hc : selected body = some c) (hkey : remoteKey c = some key) :
    ∃ result : SdesResult, result.tag = c.tag ∧ result.remoteKey = key ∧
      inviteSDES localKeys body now =
        if key.length = 30 then some (.ok result) else some (.error .failed) := by
  refine ⟨⟨c.tag, .ofList (suiteText c.suite), (localKeys now).toList,
    .ofList (encode64 (localKeys now).toList), key⟩, rfl, rfl, ?_⟩
  have hfind : (parseCryptoAttributes body).find? isSupported = some c := hc
  unfold inviteSDES negotiateSDES
  dsimp only
  rw [if_neg (parsed_of_selected hc), hfind]
  dsimp only
  rw [hkey, Option.map_some]
  simp only [Vector.length_toList, true_and]

/-- Crypto attributes without a key that is decoded are refused. -/
theorem inviteSDES_refused (hparsed : parseCryptoAttributes body ≠ [])
    (hnone : ∀ c ∈ selected body, remoteKey c = none) :
    inviteSDES localKeys body now = some (.error .notAcceptable) := by
  unfold inviteSDES negotiateSDES
  dsimp only
  rw [if_neg hparsed]
  cases hc : selected body with
  | none =>
    have hfind : (parseCryptoAttributes body).find? isSupported = none := hc
    rw [hfind]
  | some c =>
    have hfind : (parseCryptoAttributes body).find? isSupported = some c := hc
    rw [hfind]
    dsimp only
    rw [hnone c hc, Option.map_none]

/-- What is negotiated is of the line that is selected. -/
theorem selected_of_ok {result : SdesResult} (h : inviteSDES localKeys body now = some (.ok result)) :
    ∃ c ∈ selected body, c.tag = result.tag ∧ remoteKey c = some result.remoteKey := by
  by_cases hparsed : parseCryptoAttributes body = []
  · rw [inviteSDES, if_pos hparsed] at h
    cases h
  by_cases hnone : ∀ c ∈ selected body, remoteKey c = none
  · rw [inviteSDES_refused hparsed hnone] at h
    cases h
  · obtain ⟨c, hc⟩ := not_forall.mp hnone
    obtain ⟨hc, hkey⟩ := Classical.not_imp.mp hc
    obtain ⟨key, hkey⟩ := Option.ne_none_iff_exists'.mp hkey
    obtain ⟨result', htag, hremote, heq⟩ := inviteSDES_of_key localKeys now hc hkey
    rw [heq] at h
    split at h
    · cases h
      exact ⟨c, hc, htag.symm, by rw [hremote]; exact hkey⟩
    · cases h

theorem length_firstUsable {tag : Int} (h : firstUsable body = some (tag, key)) : key.length = 30 := by
  obtain ⟨line, -, husable⟩ := List.exists_of_findSome?_eq_some h
  obtain ⟨_, _, _, hfields⟩ := usable_fields husable
  exact hfields.sized

/-- **The first usable key** of the audio section is taken exactly if its line is selected. -/
theorem takes_first_usable_iff (h : Invites env s i offer codec) :
    TakesFirstUsable env s i codec ↔ SelectsUsable i.msg.body := by
  unfold TakesFirstUsable SelectsUsable
  have haccept := h.accept
  cases hfirst : firstUsable i.msg.body with
  | some first =>
    obtain ⟨tag, key⟩ := first
    dsimp only
    constructor
    · intro htakes
      obtain ⟨result, hok, htag, d, -, hdialogs, hkey, -⟩ := htakes.1 tag key rfl
      rw [hok] at haccept
      obtain ⟨d', -, hdialogs', hkey', -⟩ := h.accepted haccept
      rw [hdialogs] at hdialogs'
      cases List.append_cancel_left hdialogs'
      rw [hkey, Option.map_some, Option.some_inj] at hkey'
      obtain ⟨c, hc, hctag, hcremote⟩ := selected_of_ok hok
      refine ⟨c, hc, hctag.trans htag, ?_⟩
      rw [hcremote, (SrtpSession.mk.inj hkey').2]
    · rintro ⟨c, hc, rfl, hremote⟩
      refine ⟨fun tag key' heq => ?_, fun hnone => (by cases hnone)⟩
      cases heq
      obtain ⟨result, htag, hkey, hok⟩ :=
        inviteSDES_of_key env.localKeys (i.clock 0) hc hremote
      rw [if_pos (length_firstUsable hfirst)] at hok
      rw [hok] at haccept
      obtain ⟨d, answer, hdialogs, hsrtp, hsent, hstatus, hbody⟩ := h.accepted haccept
      exact ⟨result, hok, htag, d, answer, hdialogs, hkey ▸ hsrtp, hsent, hstatus, hbody⟩
  | none =>
    dsimp only
    constructor
    · rintro ⟨-, hrejects⟩ hcrypto
      obtain ⟨hdialogs, hsent⟩ := hrejects rfl hcrypto
      have hrefused : ∀ srtp, Uas.accept env.sdp i.msg i.known i.clock ≠ .ok (offer, codec, srtp) := by
        intro srtp hok
        obtain ⟨d, -, hadded, -⟩ := h.accepted hok
        rw [hdialogs] at hadded
        exact List.cons_ne_nil d [] (List.append_cancel_left ((List.append_nil _).trans hadded)).symm
      refine ⟨fun hempty => ?_, fun c hc => ?_⟩
      · have hplain : inviteSDES env.localKeys i.msg.body (i.clock 0) = none := if_pos hempty
        rw [hplain] at haccept
        exact hrefused none haccept
      · by_contra hkey
        obtain ⟨key, hkey⟩ := Option.ne_none_iff_exists'.mp hkey
        obtain ⟨result, -, -, hresult⟩ :=
          inviteSDES_of_key env.localKeys (i.clock 0) hc hkey
        by_cases hlength : key.length = 30
        · rw [if_pos hlength] at hresult
          rw [hresult] at haccept
          exact hrefused _ haccept
        · rw [if_neg hlength] at hresult
          rw [hresult] at haccept
          have hfailed := (h.refused haccept).2
          rw [hsent] at hfailed
          have hsame := List.append_cancel_left hfailed
          simp only [List.cons.injEq, Sent.response.injEq, and_true, true_and] at hsame
          exact absurd (congrArg Response.statusCode hsame) (by decide : (488 : Nat) ≠ 500)
    · intro hselects
      refine ⟨fun tag key heq => (by cases heq), fun _ hcrypto => ?_⟩
      obtain ⟨hparsed, hnone⟩ := hselects hcrypto
      rw [inviteSDES_refused hparsed hnone] at haccept
      exact h.refused haccept

/-- **Where the first supported line of the offer is the first usable one of the audio section**, its key
is taken if it has no options. -/
theorem selectsUsable_iff_bare {before after : List Bytes} {line : Bytes} {tag : Int}
    (hlines : (textLines body).filter isCrypto = before ++ line :: after)
    (hbefore : ∀ l ∈ before, ∀ c ∈ parseCryptoLine l, ¬ isSupported c)
    (husable : usable line = some (tag, key)) (hfirst : firstUsable body = some (tag, key)) :
    SelectsUsable body ↔ Bare line := by
  obtain ⟨tagText, suite, keyParams, hfields⟩ := usable_fields husable
  obtain ⟨hparsed, hsupported⟩ := hfields.parsed
  have hselected : selected body = some ⟨tag, suite, keyParams⟩ := by
    have hnone : (before.filterMap parseCryptoLine).find? isSupported = none := by
      rw [List.find?_eq_none]
      intro c hc
      obtain ⟨l, hl, hparsed⟩ := List.mem_filterMap.mp hc
      exact hbefore l hl c hparsed
    rw [selected, parseCryptoAttributes, hlines, List.filterMap_append, List.find?_append, hnone,
      Option.none_or, List.filterMap_cons_some hparsed, List.find?_cons_of_pos hsupported]
  have hselects : SelectsUsable body ↔ ∃ c ∈ selected body, c.tag = tag ∧ remoteKey c = some key := by
    rw [SelectsUsable, hfirst]
  rw [hselects, hselected]
  constructor
  · rintro ⟨c, hc, -, hkey⟩
    cases hc
    by_contra hoptions
    rw [(remoteKey_usable hfields).2 hoptions] at hkey
    cases hkey
  · exact fun hbare => ⟨_, rfl, rfl, (remoteKey_usable hfields).1 hbare⟩

end

/-! ## Two offers -/

/-- An offer of one crypto line with a key, and what follows it. -/
def cryptoOffer (options : String) : Bytes :=
  ascii ("v=0\r\nc=IN IP4 192.0.2.9\r\nm=audio 4000 RTP/SAVP 0\r\na=crypto:1 AES_CM_128_HMAC_SHA1_80 " ++
    "inline:AAAAAAAAAAAAAAAAAAAAAAAAAAAAAAAAAAAAAAAA" ++ options ++ "\r\n")

def cryptoEnv : Env where
  config := ⟨5060, 10000, "192.0.2.1"⟩
  parseSDP _ := some ⟨"192.0.2.9", 4000, [⟨"", 0, 0, 0⟩]⟩
  negotiateCodec _ := some ⟨"PCMU", 0, 8000, 1⟩
  localKeys _ := .replicate 30 7

def cryptoInvite (options : String) : Incoming where
  msg := ⟨"INVITE", "sip:call@192.0.2.1", "c1", "<sip:a@b>;tag=1", "<sip:call@192.0.2.1>", [], "1 INVITE", "",
    cryptoOffer options⟩
  remoteAddr := "192.0.2.9:5060"
  transport := "tls"
  known := true
  clock n := n

theorem body_cryptoInvite (options : String) : (cryptoInvite options).msg.body = cryptoOffer options := rfl

theorem firstUsable_options :
    firstUsable (cryptoOffer "|2^20|1:32") = some (1, .replicate 30 0) := by decide +kernel

theorem refused_options : parseCryptoAttributes (cryptoOffer "|2^20|1:32") ≠ [] ∧
    (selected (cryptoOffer "|2^20|1:32")).bind remoteKey = none := by decide +kernel

/-- A key with a lifetime and an MKI is refused. -/
theorem not_takes_options :
    ¬ TakesFirstUsable cryptoEnv .init (cryptoInvite "|2^20|1:32") ⟨"PCMU", 0, 8000, 1⟩ := by
  intro htakes
  have hnegotiates := htakes.1 1 (.replicate 30 0)
  rw [body_cryptoInvite] at hnegotiates
  obtain ⟨result, hok, -⟩ := hnegotiates firstUsable_options
  rw [body_cryptoInvite] at hok
  obtain ⟨c, hc, -, hkey⟩ := selected_of_ok hok
  have hnone := refused_options.2
  rw [hc, Option.bind_some, hkey] at hnone
  cases hnone

theorem takes_first_usable_bare :
    TakesFirstUsable cryptoEnv .init (cryptoInvite "") ⟨"PCMU", 0, 8000, 1⟩ := by
  have hfirst : firstUsable (cryptoOffer "") = some (1, .replicate 30 0) := by decide +kernel
  have hkey : (selected (cryptoOffer "")).map (fun c => (c.tag, remoteKey c)) =
      some (1, some (.replicate 30 0)) := by decide +kernel
  have hinvites : Invites cryptoEnv .init (cryptoInvite "") ⟨"192.0.2.9", 4000, [⟨"", 0, 0, 0⟩]⟩
      ⟨"PCMU", 0, 8000, 1⟩ := ⟨rfl, by decide +kernel, rfl, rfl, by decide +kernel, rfl, rfl⟩
  refine (takes_first_usable_iff hinvites).mpr ?_
  rw [body_cryptoInvite]
  have hselects : SelectsUsable (cryptoOffer "") ↔
      ∃ c ∈ selected (cryptoOffer ""), c.tag = 1 ∧ remoteKey c = some (.replicate 30 0) := by
    rw [SelectsUsable, hfirst]
  rw [hselects]
  obtain ⟨c, hc, heq⟩ := Option.map_eq_some_iff.mp hkey
  exact ⟨c, hc, (Prod.mk.inj heq).1, (Prod.mk.inj heq).2⟩

end Svarla.Sip.SdesKeys
