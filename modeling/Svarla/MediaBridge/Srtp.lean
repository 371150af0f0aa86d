import Svarla.MediaBridge.SipLegs

/-!
# The packets of an encrypted dialog

The ringback of a session is written as it is, and its media session is configured without an SRTP
session: no packet of an encrypted dialog is encrypted, and none that comes is decrypted.

A dialog is not downgraded in the runs in which its offers are refused, once it is encrypted, and
nothing is sent for its session (`Keeps`, `not_downgraded`).
-/

namespace Svarla.MediaBridge.SipLegs

open Svarla.Lib Svarla.Sip

/-- The SRTP sessions of the dialogs that a packet's session had. -/
def sessionKeys (p : LegPacket) : List SrtpSession := p.dialogs.filterMap (·.srtpSession)

/-- No dialog is downgraded: the answers of an encrypted dialog are encrypted, and so are the packets of
its session. -/
structure Secure (s : SipLegs) : Prop where
  answers : s.uas.Encrypted
  packets : ∀ p ∈ s.packets, ∀ k ∈ sessionKeys p, p.srtp = some k

/-! ## The condition -/

/-- Nothing is sent for a session. -/
def Quiet (s : SipLegs) (sessionID : String) : Prop :=
  (∀ r ∈ s.senders, r.sessionID = sessionID → r.stopped = true) ∧
    ∀ m ∈ s.media, m.config.sessionID = sessionID → m.stage = .stopped

instance (s : SipLegs) (sessionID : String) : Decidable (s.Quiet sessionID) :=
  inferInstanceAs (Decidable (_ ∧ _))

variable (offers : Offers) in
/-- An encrypted dialog refuses its offers, and is added where nothing is sent for its session; a
ringback or a media session starts where the session has no encrypted dialog. -/
def Keeps (s : SipLegs) : SipLegsEvent → Prop
  | .uas input => s.uas.Refuses offers.sdp input ∧
    ∀ d ∈ s.uas.added offers.sdp (.uas input), d.srtpSession ≠ none → s.Quiet d.sessionID
  | .startRingback n => ∀ c ∈ s.waiting n, s.uas.keys c.1 = []
  | .configure sessionID => s.ready sessionID ≠ none → s.uas.keys sessionID = []
  | _ => True

/-- What the condition keeps. -/
structure Sealed (s : SipLegs) : Prop where
  answered : s.uas.Answered
  quiet : ∀ x, s.uas.keys x ≠ [] → s.Quiet x
  packets : ∀ p ∈ s.packets, ∀ k ∈ sessionKeys p, p.srtp = some k

variable {config : UasConfig} {offers : Offers} {cipher : SrtpCipher} {s t : SipLegs} {x y : String}

/-! ## What each operation keeps -/

theorem Quiet.of_subset (h : s.Quiet x)
    (hsenders : ∀ r ∈ t.senders, r.sessionID = x → r.stopped = true ∨ r ∈ s.senders)
    (hmedia : ∀ m ∈ t.media, m.config.sessionID = x → m.stage = .stopped ∨ m ∈ s.media) :
    t.Quiet x := by
  refine ⟨fun r hr hx => ?_, fun m hm hx => ?_⟩
  · exact (hsenders r hr hx).elim id fun hr => h.1 r hr hx
  · exact (hmedia m hm hx).elim id fun hm => h.2 m hm hx

theorem Quiet.stopRingback (h : s.Quiet x) (y : String) : (s.stopRingback y).Quiet x := by
  unfold SipLegs.stopRingback
  split
  · exact h
  · refine h.of_subset (fun r hr _ => ?_) fun m hm _ => .inr hm
    obtain ⟨i, hi⟩ := List.mem_iff_getElem?.mp hr
    rw [List.getElem?_modify] at hi
    obtain ⟨r, hsender, rfl⟩ := Option.map_eq_some_iff.mp hi
    split
    · exact .inl rfl
    · exact .inr (List.mem_iff_getElem?.mpr ⟨i, hsender⟩)

theorem Quiet.stopMedia (h : s.Quiet x) (n : Nat) : (s.stopMedia n).Quiet x := by
  unfold SipLegs.stopMedia
  split
  · exact h
  · refine h.of_subset (fun r hr _ => .inr hr) fun m hm _ => ?_
    rcases List.mem_or_eq_of_mem_set hm with hm | rfl
    · exact .inr hm
    · exact .inl rfl

/-- An operation that leaves the dialogs and the packets, and sends nothing for an encrypted dialog. -/
theorem Sealed.of_quiet (h : s.Sealed) (huas : t.uas = s.uas) (hpackets : t.packets = s.packets)
    (hquiet : ∀ x, s.uas.keys x ≠ [] → s.Quiet x → t.Quiet x) :
    t.Sealed where
  answered := huas ▸ h.answered
  quiet x hx := by
    rw [huas] at hx
    exact hquiet x hx (h.quiet x hx)
  packets := hpackets ▸ h.packets

theorem Sealed.keys_of_sending (h : s.Sealed) {r : SipRingback} (hr : r ∈ s.senders)
    (hsending : r.stopped ≠ true) : s.uas.keys r.sessionID = [] := by
  by_contra hkeys
  exact hsending ((h.quiet _ hkeys).1 r hr rfl)

theorem Sealed.keys_of_media (h : s.Sealed) {m : SipMedia} (hm : m ∈ s.media)
    (hstage : m.stage ≠ .stopped) : s.uas.keys m.config.sessionID = [] := by
  by_contra hkeys
  exact hstage ((h.quiet _ hkeys).2 m hm rfl)

/-- A packet for a session without an encrypted dialog. -/
theorem Sealed.packet (h : s.Sealed) (hkeys : s.uas.keys x = []) (huas : t.uas = s.uas)
    (hsenders : t.senders = s.senders) (hmedia : t.media = s.media)
    (hpackets : ∀ p ∈ t.packets, p ∈ s.packets ∨ p.dialogs = s.uas.live x) : t.Sealed where
  answered := huas ▸ h.answered
  quiet y hy := by
    rw [huas] at hy
    unfold Quiet
    rw [hsenders, hmedia]
    exact h.quiet y hy
  packets p hp k hk := by
    rcases hpackets p hp with hp | hdialogs
    · exact h.packets p hp k hk
    · rw [sessionKeys, hdialogs] at hk
      rw [Uas.keys] at hkeys
      rw [hkeys] at hk
      cases hk

theorem Sealed.send (h : s.Sealed) (hkeys : s.uas.keys x = []) (bytes : List UInt8)
    (srtp : Option SrtpSession) (remote : UdpAddr) (payloadType : UInt8) :
    (s.send x bytes srtp remote payloadType).Sealed := by
  refine h.packet hkeys rfl rfl rfl fun p hp => ?_
  simp only [SipLegs.packets, SipLegs.send, List.map_append, List.map_cons, List.map_nil, List.mem_append,
    List.mem_singleton] at hp ⊢
  rcases hp with (hp | rfl) | hp
  · exact .inl (.inl hp)
  · exact .inr rfl
  · exact .inl (.inr hp)

theorem Sealed.handleProviderRTP (h : s.Sealed) (hkeys : s.uas.keys x = []) (bytes : List UInt8)
    (srtp : Option SrtpSession) : (s.handleProviderRTP x bytes srtp).Sealed := by
  refine h.packet hkeys rfl rfl rfl fun p hp => ?_
  simp only [SipLegs.packets, SipLegs.handleProviderRTP, List.mem_append, List.mem_singleton] at hp ⊢
  rcases hp with hp | hp | rfl
  · exact .inl (.inl hp)
  · exact .inl (.inr hp)
  · exact .inr rfl

/-- A step of the UAS. -/
theorem Sealed.uas (h : s.Sealed) {input : UasInput} (hkeeps : s.Keeps offers (.uas input)) {u : Uas}
    (hstep : s.uas.step config offers.sdp input = some u) : { s with uas := u }.Sealed := by
  obtain ⟨hrefuses, hadds⟩ := hkeeps
  rcases Uas.step_kept_or_added hstep with hkept | ⟨d, hd, hadded⟩
  · refine ⟨h.answered.kept hrefuses hkept, fun x hx => ?_, h.packets⟩
    obtain ⟨k, hk⟩ := List.exists_mem_of_ne_nil _ hx
    exact h.quiet x (List.ne_nil_of_mem (hkept.keys hk))
  · refine ⟨h.answered.added hadded, fun x hx => ?_, h.packets⟩
    obtain ⟨k, hk⟩ := List.exists_mem_of_ne_nil _ hx
    rcases hadded.keys hk with hk | ⟨rfl, hsrtp⟩
    · exact h.quiet x (List.ne_nil_of_mem hk)
    · exact hadds d hd (by rw [hsrtp]; exact Option.some_ne_none k)

/-- A media session that is created goes on to another stage. -/
theorem Sealed.setStage (h : s.Sealed) {n : Nat} {m : SipMedia}
    (hm : s.media[n]?.filter (·.stage = .created) = some m) (stage : MediaStage)
    (mediaSessions : Map String (Option Nat)) (listener : Map UdpAddr RtpSession) :
    { s with media := s.media.set n { m with stage }, mediaSessions, listener }.Sealed := by
  obtain ⟨hmedia, hcreated⟩ := stage_of_filter hm
  have hkeys := h.keys_of_media (List.mem_iff_getElem?.mpr ⟨n, hmedia⟩) (by rw [hcreated]; decide)
  refine h.of_quiet rfl rfl fun x hx hquiet => ?_
  refine hquiet.of_subset (fun r hr _ => .inr hr) fun m' hm' hx' => ?_
  rcases List.mem_or_eq_of_mem_set hm' with hm' | rfl
  · exact .inr hm'
  · exact absurd (hx' ▸ hkeys) hx

theorem Sealed.stopMedia (h : s.Sealed) (n : Nat) : (s.stopMedia n).Sealed := by
  refine h.of_quiet ?_ ?_ fun _ _ hquiet => hquiet.stopMedia n
  · unfold SipLegs.stopMedia
    split <;> rfl
  · unfold SipLegs.stopMedia
    split <;> rfl

/-- **Every step** that meets the condition. -/
theorem Sealed.step {e : SipLegsEvent} (h : s.Sealed) (hkeeps : s.Keeps offers e)
    (hstep : s.step config offers cipher e = some t) : t.Sealed := by
  match e with
  | .uas input =>
    simp only [SipLegs.step] at hstep
    split at hstep
    · obtain ⟨u, hu, rfl⟩ := Option.map_eq_some_iff.mp hstep
      exact h.uas hkeeps hu
    · cases hstep
  | .createSession _ _ | .clientConnected _ | .setRingback _ _ | .deleteSession _ =>
    cases hstep
    exact h.of_quiet rfl rfl fun _ _ hquiet => hquiet
  | .setProviderRTP n =>
    obtain ⟨c, -, rfl⟩ := Option.map_eq_some_iff.mp hstep
    exact h.of_quiet rfl rfl fun _ _ hquiet => hquiet
  | .startRingback n =>
    obtain ⟨c, hc, rfl⟩ := Option.map_eq_some_iff.mp hstep
    refine h.of_quiet rfl rfl fun x hx hquiet => ?_
    refine hquiet.of_subset (fun r hr hx' => ?_) fun m hm _ => .inr hm
    rcases List.mem_append.mp hr with hr | hr
    · exact .inr hr
    · cases List.mem_singleton.mp hr
      exact absurd (hx' ▸ hkeeps c hc) hx
  | .configure y =>
    obtain ⟨provider, hready, rfl⟩ := Option.map_eq_some_iff.mp hstep
    have hkeys : s.uas.keys y = [] := hkeeps (by rw [hready]; exact Option.some_ne_none _)
    refine h.of_quiet (uas_stopRingback ..) (packets_stopRingback ..)
      fun x hx hquiet => ?_
    refine (hquiet.stopRingback y).of_subset (fun r hr _ => .inr hr) fun m hm hx' => ?_
    rcases List.mem_append.mp hm with hm | hm
    · exact .inr (by rwa [media_stopRingback])
    · cases List.mem_singleton.mp hm
      exact absurd (hx' ▸ hkeys) hx
  | .start n =>
    obtain ⟨m, hm, rfl⟩ := Option.map_eq_some_iff.mp hstep
    exact h.setStage hm ..
  | .startFails n =>
    obtain ⟨m, hm, rfl⟩ := Option.map_eq_some_iff.mp hstep
    exact h.setStage hm ..
  | .stopMediaSession y =>
    cases hstep
    dsimp only
    split
    · exact h.of_quiet (uas_stopRingback ..) (packets_stopRingback ..)
        fun _ _ hquiet => hquiet.stopRingback y
    · next n _ =>
      have hstopped : { s.stopRingback y with mediaSessions := s.mediaSessions.erase y }.Sealed :=
        h.of_quiet (uas_stopRingback ..) (packets_stopRingback ..) fun _ _ hquiet =>
          hquiet.stopRingback y
      exact hstopped.stopMedia n
  | .playRingback k packet =>
    obtain ⟨r, hr, rfl⟩ := Option.map_eq_some_iff.mp hstep
    obtain ⟨hr, hsending⟩ := Option.filter_eq_some_iff.mp hr
    exact h.send (h.keys_of_sending (List.mem_iff_getElem?.mpr ⟨k, hr⟩)
      (of_decide_eq_true hsending)) ..
  | .writeSIP n packet =>
    obtain ⟨m, hm, rfl⟩ := Option.map_eq_some_iff.mp hstep
    obtain ⟨hmedia, hrunning⟩ := stage_of_filter hm
    have hkeys := h.keys_of_media (List.mem_iff_getElem?.mpr ⟨n, hmedia⟩) (by rw [hrunning]; decide)
    split
    · split
      · exact h.send hkeys ..
      · exact h
    · exact h.send hkeys ..
  | .readRTP source packet place =>
    cases hstep
    have hread : { s with listener := (s.dispatch source place).1 }.Sealed :=
      h.of_quiet rfl rfl fun _ _ hquiet => hquiet
    split
    · exact hread
    · next m hm =>
      obtain ⟨n, -, hm⟩ := Option.bind_eq_some_iff.mp hm
      obtain ⟨hmedia, hrunning⟩ := stage_of_filter hm
      have hkeys := h.keys_of_media (List.mem_iff_getElem?.mpr ⟨n, hmedia⟩) (by rw [hrunning]; decide)
      unfold onRTP
      split
      · split
        · exact hread.handleProviderRTP hkeys ..
        · exact hread
      · exact hread.handleProviderRTP hkeys ..

/-- **No dialog is downgraded** in the runs that meet the condition. -/
theorem not_downgraded (config : UasConfig) (offers : Offers) (cipher : SrtpCipher)
    {events : List SipLegsEvent}
    (hkeeps : Guarded (SipLegs.step config offers cipher) (Keeps offers) init events)
    (hrun : exec (SipLegs.step config offers cipher) init events = some s) : s.Secure := by
  have hinit : init.Sealed := ⟨⟨nofun, nofun⟩, fun _ hx => absurd rfl hx, nofun⟩
  have hsealed := hkeeps.invariant (fun s e t hs hk ht => hs.step hk ht) hinit hrun
  exact ⟨hsealed.answered.encrypted, hsealed.packets⟩

instance (s : SipLegs) : (e : SipLegsEvent) → Decidable (s.Keeps offers e)
  | .uas input => inferInstanceAs (Decidable (s.uas.Refuses offers.sdp input ∧
      ∀ d ∈ s.uas.added offers.sdp (.uas input), d.srtpSession ≠ none → s.Quiet d.sessionID))
  | .startRingback n => inferInstanceAs (Decidable (∀ c ∈ s.waiting n, s.uas.keys c.1 = []))
  | .configure sessionID => inferInstanceAs
      (Decidable (s.ready sessionID ≠ none → s.uas.keys sessionID = []))
  | .createSession _ _ | .clientConnected _ | .setRingback _ _ | .deleteSession _
  | .setProviderRTP _ | .start _ | .startFails _ | .stopMediaSession _ | .playRingback _ _
  | .writeSIP _ _ | .readRTP _ _ _ => .isTrue trivial

/-! ## An encrypted call -/

/-- Offers that are encrypted where their first byte is 1, malformed where it is 2, and from another
address where it is 3. -/
def someOffers : Offers where
  parseSDP body :=
    if body.head? = some 2 then none
    else some ⟨if body.head? = some 3 then "198.51.100.1" else "192.0.2.1", 4000, [⟨"PCMU", 0, 8000, 1⟩]⟩
  negotiateCodec offer := offer.codecs.head?
  negotiateSDES body _ :=
    if body.head? = some 1 then
      some (.ok ⟨1, "AES_CM_128_HMAC_SHA1_80", [1, 2, 3], "AQID", [4, 5, 6]⟩)
    else none

/-- A cipher that puts a byte of the key before the packet. -/
def someCipher : SrtpCipher where
  encryptRTP srtp packet := some (srtp.localKey.take 1 ++ packet)
  decryptRTP srtp packet := if srtp.remoteKey.take 1 <+: packet then some (packet.drop 1) else none

def legsConfig : UasConfig := ⟨5060, 7000, "203.0.113.1"⟩

/-- An INVITE for a session that there is, in a call of its own. -/
def inviteTo (sessionID : String) (body : List UInt8) : SipLegsEvent :=
  .uas (.message ⟨"INVITE", "sip:" ++ sessionID ++ "@203.0.113.1", sessionID,
    "<sip:provider@192.0.2.1>;tag=p", "<sip:bridge@203.0.113.1>", [], "1 INVITE",
    "<sip:provider@192.0.2.1:5060>", body⟩ "192.0.2.1:5060" "tls" true id)

/-- An encrypted dialog that refuses an offer, and a plain call with media. -/
def keptCalls : List SipLegsEvent :=
  [.createSession "s1" false, inviteTo "s1" [1], inviteTo "s1" [2], .createSession "s2" true,
    inviteTo "s2" [0], .setProviderRTP 1, .startRingback 1, .playRingback 0 [128],
    .clientConnected "s2", .configure "s2", .start 0, .writeSIP 0 [128],
    .readRTP ⟨"192.0.2.1", 4000⟩ [128] 0,
    inviteTo "s2" [0]]

theorem not_downgraded_keptCalls :
    ∃ s, exec (SipLegs.step legsConfig someOffers someCipher) init keptCalls = some s ∧ s.Secure :=
  ⟨_, rfl, not_downgraded legsConfig someOffers someCipher
    (show Guarded _ (Keeps someOffers) init keptCalls by decide +kernel) rfl⟩

/-- **The encryption is lost**: the INVITE is sent again, and is answered without it, and the packets of
the call are plain on both ways. -/
theorem downgraded : ∃ s, exec (SipLegs.step legsConfig someOffers someCipher) init
      [.createSession "s1" false, inviteTo "s1" [1], .setProviderRTP 0, .clientConnected "s1",
        .configure "s1", .start 0, .writeSIP 0 [128], .readRTP ⟨"192.0.2.1", 4000⟩ [128] 0,
        inviteTo "s1" [1]] = some s ∧
    ¬ s.uas.Encrypted ∧ (∃ p ∈ s.sent, ∃ k ∈ sessionKeys p.toLegPacket, p.srtp ≠ some k) ∧
    (∃ p ∈ s.bridged, ∃ k ∈ sessionKeys p, p.srtp ≠ some k) ∧ ¬ s.Secure := by
  refine ⟨_, rfl, fun h => ?_, by decide +kernel, by decide +kernel, fun h => ?_⟩
  · exact absurd (h.savpFor (i := 0) rfl nofun) (by decide +kernel)
  · exact absurd h.packets (by decide +kernel)

end Svarla.MediaBridge.SipLegs
