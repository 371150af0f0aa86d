import Svarla.MediaBridge.Srtp

/-!
# Media and the latest offer

A dialog has the address and the codec of the latest offer that was accepted within it. The record of its
session has those of the INVITE, the ringback and the media session have what they were started with, and
their transports go on sending there when the listener has learned another address.

The packets of a session go where its dialogs' latest offers say in the runs in which nothing is sent
with another offer than the latest (`Follow`, `follows_offers`).
-/

namespace Svarla.MediaBridge.SipLegs

open Svarla.Lib Svarla.Sip

/-- The address and the payload type of an offer with its codec. -/
def offered (offer : SdpOffer) (codec : Codec) : UdpAddr × UInt8 :=
  (⟨offer.ip, offer.port⟩, .ofNat codec.payloadType)

/-- Those of the latest offer of a dialog. -/
def latestOffer (d : Dialog) : UdpAddr × UInt8 :=
  (⟨d.remoteIP, d.remotePort⟩, .ofNat ((d.negotiatedCodec.map (·.payloadType)).getD 0))

/-- Those that a ringback sends with, a media session, and one that is configured with a record. -/
def ringbackOffer (r : SipRingback) : UdpAddr × UInt8 := (⟨r.remoteIP, r.remotePort⟩, r.payloadType)

def mediaOffer (m : SipMedia) : UdpAddr × UInt8 := (m.config.remote, m.config.sipPayloadType)

def recordedOffer (info : ProviderRTPInfo) : UdpAddr × UInt8 := (info.remote, info.payloadType)

/-- The packets went where the latest offers said; a packet from there is for the media session that
runs, and an INVITE that is refused changes nothing but what is sent by the UAS. -/
structure FollowsOffers (config : UasConfig) (offers : Offers) (cipher : SrtpCipher) (s : SipLegs) :
    Prop where
  sent : ∀ p ∈ s.sent, ∀ d ∈ p.dialogs, (p.remote, p.payloadType) = latestOffer d
  received : ∀ (n : Nat) m, s.media[n]? = some m → m.stage = .running →
    ∀ d ∈ s.uas.live m.config.sessionID, ∀ place,
      s.dispatch (latestOffer d).1 place = (s.listener, some n)
  refused : ∀ (msg : Request) remoteAddr transport known clock t, msg.method = "INVITE" →
    step config offers cipher s (.uas (.message msg remoteAddr transport known clock)) = some t →
    (∀ dialog r a tr, Sent.response dialog r a tr ∈ t.uas.sent.drop s.uas.sent.length →
      r.statusCode ≠ 200) → t = { s with uas := { s.uas with sent := t.uas.sent } }

/-! ## The condition -/

/-- What is sent for a session is sent with this offer. -/
def Uses (s : SipLegs) (sessionID : String) (offer : UdpAddr × UInt8) : Prop :=
  (∀ r ∈ s.senders, r.sessionID = sessionID → r.stopped = false → ringbackOffer r = offer) ∧
    ∀ m ∈ s.media, m.config.sessionID = sessionID → m.stage ≠ .stopped → mediaOffer m = offer

/-- No media session runs with an address. -/
def Free (s : SipLegs) (a : UdpAddr) : Prop := ∀ m ∈ s.media, m.stage = .running → m.config.remote ≠ a

instance (s : SipLegs) (sessionID : String) (offer : UdpAddr × UInt8) :
    Decidable (s.Uses sessionID offer) := inferInstanceAs (Decidable (_ ∧ _))

instance (s : SipLegs) (a : UdpAddr) : Decidable (s.Free a) :=
  inferInstanceAs (Decidable (∀ m ∈ s.media, _))

variable (offers : Offers) in
/-- An offer is accepted where nothing is sent for its session with another one; a ringback and a media
session start with the latest offer, at an address that no media session runs with; and no address is
learned for one that is in use. -/
def Follow (s : SipLegs) : SipLegsEvent → Prop
  | .uas (.message msg remoteAddr transport known clock) =>
    (msg.method = "INVITE" → extractSessionID msg.requestURI ≠ "" → msg.body ≠ [] →
      ∀ d ∈ s.uas.confirmedDialog msg.callID, ∀ offer ∈ offers.parseSDP msg.body,
        ∀ codec ∈ offers.negotiateCodec offer, s.Uses d.2.sessionID (offered offer codec)) ∧
      ∀ d ∈ s.uas.added offers.sdp (.uas (.message msg remoteAddr transport known clock)),
        s.Uses d.sessionID (latestOffer d)
  | .startRingback n => ∀ c ∈ s.waiting n,
    (∀ d ∈ s.uas.live c.1, latestOffer d = recordedOffer c.2) ∧ s.Free c.2.remote
  | .configure sessionID => ∀ info ∈ s.ready sessionID,
    ∀ d ∈ s.uas.live sessionID, latestOffer d = recordedOffer info
  | .start n => ∀ m ∈ s.media[n]?, m.stage = .created → s.Free m.config.remote
  | .readRTP source _ _ =>
    ((s.listener.lookup source).bind (·.onRTP)).isSome ∨
      ∀ e ∈ s.listener.entries, e.2.remoteAddr.ip = source.ip → e.1 ≠ source →
        s.Free e.1 ∧ ∀ r ∈ s.senders, r.stopped = false → (ringbackOffer r).1 ≠ e.1
  | _ => True

/-- What the condition keeps. -/
structure Current (s : SipLegs) : Prop where
  uses : ∀ x, ∀ d ∈ s.uas.live x, s.Uses x (latestOffer d)
  listed : ∀ (n : Nat) m, s.media[n]? = some m → m.stage = .running →
    (s.listener.lookup m.config.remote).bind (·.onRTP) = some n
  sent : ∀ p ∈ s.sent, ∀ d ∈ p.dialogs, (p.remote, p.payloadType) = latestOffer d

variable {config : UasConfig} {offers : Offers} {cipher : SrtpCipher} {s t : SipLegs} {x y : String}
  {o : UdpAddr × UInt8}

/-! ## The listener -/

/-- A packet from an address with a callback. -/
theorem dispatch_of_callback {a : UdpAddr} {n : Nat}
    (h : (s.listener.lookup a).bind (·.onRTP) = some n) (place : Nat) :
    s.dispatch a place = (s.listener, some n) := by
  unfold SipLegs.dispatch RtpListener.dispatch
  rw [h]

/-- The listener is as it was, or has learned the address of a session with the same IP address. -/
theorem dispatch_cases (s : SipLegs) (source : UdpAddr) (place : Nat) :
    (s.dispatch source place).1 = s.listener ∨
      (s.listener.lookup source).bind (·.onRTP) = none ∧ ∃ e ∈ s.listener.entries,
        e.2.remoteAddr.ip = source.ip ∧ e.1 ≠ source ∧
        (s.dispatch source place).1 =
          (s.listener.erase e.1).insert source { e.2 with remoteAddr := source } := by
  unfold SipLegs.dispatch RtpListener.dispatch
  split
  · exact .inl rfl
  · next hnone =>
    split
    · exact .inl rfl
    · next oldKey matched hget =>
      split
      · exact .inl rfl
      · next hne =>
        refine .inr ⟨hnone, ⟨oldKey, matched⟩, ?_, ?_, hne, rfl⟩
        · have hmem := List.mem_of_getElem? hget
          simp only [RtpListener.sameIP, List.mem_filter, List.mem_map] at hmem
          obtain ⟨⟨e, he, heq⟩, -⟩ := hmem
          cases heq
          exact he
        · have hmem := List.mem_of_getElem? hget
          simp only [RtpListener.sameIP, List.mem_filter, decide_eq_true_eq] at hmem
          exact hmem.2

/-! ## What each operation keeps -/

theorem Uses.of_subset (h : s.Uses x o)
    (hsenders : ∀ r ∈ t.senders, r.sessionID = x → r.stopped = false →
      r ∈ s.senders ∨ ringbackOffer r = o)
    (hmedia : ∀ m ∈ t.media, m.config.sessionID = x → m.stage ≠ .stopped →
      (∃ stage, stage ≠ .stopped ∧ { m with stage } ∈ s.media) ∨ mediaOffer m = o) : t.Uses x o := by
  refine ⟨fun r hr hx hsending => ?_, fun m hm hx hstage => ?_⟩
  · exact (hsenders r hr hx hsending).elim (fun hr => h.1 r hr hx hsending) id
  · rcases hmedia m hm hx hstage with ⟨stage, hstage, hmem⟩ | hoffer
    · exact h.2 { m with stage } hmem hx hstage
    · exact hoffer

theorem Uses.stopRingback (h : s.Uses x o) (y : String) : (s.stopRingback y).Uses x o := by
  refine h.of_subset (fun r hr _ hsending => .inl ?_) fun m hm _ hstage => .inl ⟨m.stage, hstage, ?_⟩
  · unfold SipLegs.stopRingback at hr
    split at hr
    · exact hr
    · obtain ⟨i, hi⟩ := List.mem_iff_getElem?.mp hr
      rw [List.getElem?_modify] at hi
      obtain ⟨r, hsender, rfl⟩ := Option.map_eq_some_iff.mp hi
      split
      · next hk =>
        rw [if_pos hk] at hsending
        cases hsending
      · exact List.mem_iff_getElem?.mpr ⟨i, hsender⟩
  · rwa [media_stopRingback] at hm

/-- An operation that leaves the dialogs and what was sent. -/
theorem Current.of_uses (h : s.Current) (huas : t.uas = s.uas) (hsent : t.sent = s.sent)
    (huses : ∀ x, ∀ d ∈ s.uas.live x, s.Uses x (latestOffer d) → t.Uses x (latestOffer d))
    (hlisted : ∀ (n : Nat) m, t.media[n]? = some m → m.stage = .running →
      (t.listener.lookup m.config.remote).bind (·.onRTP) = some n) : t.Current where
  uses x d hd := by
    rw [huas] at hd
    exact huses x d hd (h.uses x d hd)
  listed := hlisted
  sent := hsent ▸ h.sent

/-- A step of the UAS. -/
theorem Current.uas (h : s.Current) {input : UasInput} (hfollow : s.Follow offers (.uas input)) {u : Uas}
    (hstep : s.uas.step config offers.sdp input = some u) : { s with uas := u }.Current := by
  refine ⟨fun x d' hd' => ?_, h.listed, h.sent⟩
  rcases Uas.step_kept_or_added hstep with hkept | ⟨d, hd, hadded⟩
  · obtain ⟨i, d, hd, hdi, hfollows⟩ := hkept.live hd'
    rcases hfollows.offer with ⟨hcodec, hip, hport⟩ | ⟨offer, codec, haccepted, hcodec, hip, hport⟩
    · have hsame : latestOffer d' = latestOffer d := by
        rw [latestOffer, latestOffer, hcodec, hip, hport]
      exact hsame ▸ h.uses x d hd
    · have hlatest : latestOffer d' = offered offer codec := by
        rw [latestOffer, hcodec, hip, hport]
        rfl
      match input with
      | .message msg remoteAddr transport known clock =>
        obtain ⟨hmethod, hsession, ⟨e, he⟩, hbody, hoffer, hcodec⟩ := haccepted
        cases hdi.symm.trans (Uas.dialog_of_confirmedDialog he)
        obtain ⟨-, hx, -⟩ := Uas.mem_live.mp hd
        exact hlatest ▸ hx ▸ hfollow.1 hmethod hsession hbody _ he _ hoffer _ hcodec
  · rcases hadded.live hd' with hd' | ⟨hx, rfl⟩
    · exact h.uses x d' hd'
    · match input with
      | .message msg remoteAddr transport known clock => exact hx ▸ hfollow.2 d hd

/-- A media session that goes on to a stage sends with the same offer. -/
theorem Uses.setStage (h : s.Uses x o) {n : Nat} {m : SipMedia} (hm : s.media[n]? = some m)
    (hstage : m.stage ≠ .stopped) (stage : MediaStage) (hsenders : t.senders = s.senders)
    (hmedia : t.media = s.media.set n { m with stage }) : t.Uses x o := by
  refine h.of_subset (fun r hr _ _ => .inl (hsenders ▸ hr)) fun m' hm' _ hstage' => .inl ?_
  rw [hmedia] at hm'
  rcases List.mem_or_eq_of_mem_set hm' with hm' | rfl
  · exact ⟨m'.stage, hstage', hm'⟩
  · exact ⟨m.stage, hstage, List.mem_iff_getElem?.mpr ⟨n, hm⟩⟩

/-- The media sessions but the one that goes on are as they were. -/
theorem getElem?_setStage {n n' : Nat} {m m' : SipMedia} {stage : MediaStage}
    (hm' : (s.media.set n { m with stage })[n']? = some m') :
    n' = n ∧ m' = { m with stage } ∨ n' ≠ n ∧ s.media[n']? = some m' := by
  by_cases hn : n' = n
  · subst hn
    obtain ⟨hlt, hget⟩ := List.getElem?_eq_some_iff.mp hm'
    rw [List.getElem_set_self] at hget
    exact .inl ⟨rfl, hget.symm⟩
  · rw [List.getElem?_set_ne (Ne.symm hn)] at hm'
    exact .inr ⟨hn, hm'⟩

/-- A media session stops. -/
theorem Current.stopMedia (h : s.Current) (n : Nat) : (s.stopMedia n).Current := by
  unfold SipLegs.stopMedia
  split
  · exact h
  · next m hm =>
    obtain ⟨hmedia, hrunning⟩ := stage_of_filter hm
    refine h.of_uses rfl rfl (fun x d _ huses => ?_) fun n' m' hm' hrunning' => ?_
    · exact huses.setStage hmedia (by rw [hrunning]; decide) .stopped rfl rfl
    · rcases getElem?_setStage hm' with ⟨rfl, rfl⟩ | ⟨hne, hm'⟩
      · cases hrunning'
      · -- what is erased is the address of the one that stops, and no other has it
        have hlisted := h.listed n' m' hm' hrunning'
        rw [Map.lookup_erase, if_neg, hlisted]
        intro hsame
        rw [hsame, h.listed n m hmedia hrunning] at hlisted
        exact hne (Option.some.inj hlisted).symm

/-- A packet that is sent with the latest offers. -/
theorem Current.send (h : s.Current) {remote : UdpAddr} {payloadType : UInt8}
    (hlatest : ∀ d ∈ s.uas.live x, (remote, payloadType) = latestOffer d) (bytes : List UInt8)
    (srtp : Option SrtpSession) : (s.send x bytes srtp remote payloadType).Current := by
  refine ⟨h.uses, h.listed, fun p hp d hd => ?_⟩
  rcases List.mem_append.mp hp with hp | hp
  · exact h.sent p hp d hd
  · cases List.mem_singleton.mp hp
    exact hlatest d hd

/-- A packet that is read. -/
theorem Current.readRTP (h : s.Current) {source : UdpAddr} {packet : List UInt8} {place : Nat}
    (hfollow : s.Follow offers (.readRTP source packet place)) :
    { s with listener := (s.dispatch source place).1 }.Current := by
  refine h.of_uses rfl rfl (fun _ _ _ huses => huses) fun n m hm hrunning => ?_
  have hlisted := h.listed n m hm hrunning
  rcases dispatch_cases s source place with hsame | ⟨hnone, e, he, hip, hne, hlearned⟩
  · rw [hsame]
    exact hlisted
  · rcases hfollow with hcallback | hidle
    · rw [hnone] at hcallback
      cases hcallback
    · rw [hlearned, Map.lookup_insert, if_neg, Map.lookup_erase, if_neg, hlisted]
      · exact (hidle e he hip hne).1 m (List.mem_iff_getElem?.mpr ⟨n, hm⟩) hrunning
      · intro hsource
        rw [hsource, hnone] at hlisted
        cases hlisted

/-- **Every step** that meets the condition. -/
theorem Current.step {e : SipLegsEvent} (h : s.Current) (hfollow : s.Follow offers e)
    (hstep : s.step config offers cipher e = some t) : t.Current := by
  match e with
  | .uas input =>
    simp only [SipLegs.step] at hstep
    split at hstep
    · obtain ⟨u, hu, rfl⟩ := Option.map_eq_some_iff.mp hstep
      exact h.uas hfollow hu
    · cases hstep
  | .createSession _ _ | .clientConnected _ | .setRingback _ _ | .deleteSession _ =>
    cases hstep
    exact h.of_uses rfl rfl (fun _ _ _ huses => huses) h.listed
  | .setProviderRTP n =>
    obtain ⟨c, -, rfl⟩ := Option.map_eq_some_iff.mp hstep
    exact h.of_uses rfl rfl (fun _ _ _ huses => huses) h.listed
  | .startRingback n =>
    obtain ⟨c, hc, rfl⟩ := Option.map_eq_some_iff.mp hstep
    obtain ⟨hlatest, hfree⟩ := hfollow c hc
    refine h.of_uses rfl rfl (fun x d hd huses => ?_) fun n m hm hrunning => ?_
    · refine huses.of_subset (fun r hr hx _ => ?_) fun m hm _ hstage => .inl ⟨m.stage, hstage, hm⟩
      rcases List.mem_append.mp hr with hr | hr
      · exact .inl hr
      · cases List.mem_singleton.mp hr
        cases hx
        exact .inr (hlatest d hd).symm
    · rw [Map.lookup_insert, if_neg (hfree m (List.mem_iff_getElem?.mpr ⟨n, hm⟩) hrunning)]
      exact h.listed n m hm hrunning
  | .configure y =>
    obtain ⟨info, hready, rfl⟩ := Option.map_eq_some_iff.mp hstep
    have hlatest := hfollow info hready
    refine h.of_uses (uas_stopRingback ..) (sent_stopRingback ..) (fun x d hd huses => ?_)
      fun n m hm hrunning => ?_
    · refine (huses.stopRingback y).of_subset (fun r hr _ _ => .inl hr) fun m hm hx hstage => ?_
      rcases List.mem_append.mp hm with hm | hm
      · exact .inl ⟨m.stage, hstage, by rwa [media_stopRingback]⟩
      · cases List.mem_singleton.mp hm
        cases hx
        exact .inr (hlatest d hd).symm
    · rw [List.getElem?_append] at hm
      split at hm
      · rw [listener_stopRingback]
        exact h.listed n m hm hrunning
      · -- the new one does not run yet
        cases List.mem_singleton.mp (List.mem_of_getElem? hm)
        cases hrunning
  | .start n =>
    obtain ⟨m, hm, rfl⟩ := Option.map_eq_some_iff.mp hstep
    obtain ⟨hmedia, hcreated⟩ := stage_of_filter hm
    have hfree := hfollow m hmedia hcreated
    refine h.of_uses rfl rfl (fun x d _ huses => ?_) fun n' m' hm' hrunning => ?_
    · exact huses.setStage hmedia (by rw [hcreated]; decide) .running rfl rfl
    · rw [Map.lookup_insert]
      rcases getElem?_setStage hm' with ⟨rfl, rfl⟩ | ⟨-, hm'⟩
      · rw [if_pos rfl, Option.bind_some]
      · rw [if_neg (hfree m' (List.mem_iff_getElem?.mpr ⟨n', hm'⟩) hrunning)]
        exact h.listed n' m' hm' hrunning
  | .startFails n =>
    obtain ⟨m, hm, rfl⟩ := Option.map_eq_some_iff.mp hstep
    obtain ⟨hmedia, hcreated⟩ := stage_of_filter hm
    refine h.of_uses rfl rfl (fun x d _ huses => ?_) fun n' m' hm' hrunning => ?_
    · exact huses.setStage hmedia (by rw [hcreated]; decide) .stopped rfl rfl
    · rcases getElem?_setStage hm' with ⟨rfl, rfl⟩ | ⟨-, hm'⟩
      · cases hrunning
      · exact h.listed n' m' hm' hrunning
  | .stopMediaSession y =>
    cases hstep
    have hstopped : { s.stopRingback y with mediaSessions := s.mediaSessions.erase y }.Current := by
      refine h.of_uses (uas_stopRingback ..) (sent_stopRingback ..)
        (fun _ _ _ huses => huses.stopRingback y) fun n m hm hrunning => ?_
      rw [listener_stopRingback]
      rw [media_stopRingback] at hm
      exact h.listed n m hm hrunning
    dsimp only
    split
    · exact hstopped
    · exact hstopped.stopMedia _
  | .playRingback k packet =>
    obtain ⟨r, hr, rfl⟩ := Option.map_eq_some_iff.mp hstep
    obtain ⟨hr, hsending⟩ := Option.filter_eq_some_iff.mp hr
    refine h.send (fun d hd => ?_) ..
    exact (h.uses _ d hd).1 r (List.mem_iff_getElem?.mpr ⟨k, hr⟩) rfl
      (Bool.eq_false_iff.mpr (of_decide_eq_true hsending))
  | .writeSIP n packet =>
    obtain ⟨m, hm, rfl⟩ := Option.map_eq_some_iff.mp hstep
    obtain ⟨hmedia, hrunning⟩ := stage_of_filter hm
    have hlatest : ∀ d ∈ s.uas.live m.config.sessionID,
        (m.config.remote, m.config.sipPayloadType) = latestOffer d := fun d hd =>
      (h.uses _ d hd).2 m (List.mem_iff_getElem?.mpr ⟨n, hmedia⟩) rfl (by rw [hrunning]; decide)
    split
    · split
      · exact h.send hlatest ..
      · exact h
    · exact h.send hlatest ..
  | .readRTP source packet place =>
    cases hstep
    have hread := h.readRTP hfollow
    split
    · exact hread
    · unfold onRTP
      split
      · split
        · exact ⟨hread.uses, hread.listed, hread.sent⟩
        · exact hread
      · exact ⟨hread.uses, hread.listed, hread.sent⟩

/-! ## An INVITE that is refused -/

/-- What is sent at an INVITE that is not refused has a 200. -/
theorem refused_or_answered (config : UasConfig) (sdp : Sdp) (s : Uas) (msg : Request)
    (remoteAddr transport : String) (known : Bool) (clock : Clock) :
    let t := s.handleInvite config sdp msg remoteAddr transport known clock
    t = { s with sent := t.sent } ∨ ∃ sent dialog r, t.sent = s.sent ++ sent ∧
      Sent.response dialog r remoteAddr transport ∈ sent ∧ r.statusCode = 200 := by
  intro t
  simp only [t]
  unfold Uas.handleInvite
  split
  · exact .inl rfl
  · split
    · next i d hd =>
      unfold Uas.handleReInvite
      split
      · exact .inl rfl
      · split
        · exact .inl rfl
        · split
          · exact .inl rfl
          · exact .inr ⟨_, _, _, rfl, List.mem_singleton.mpr rfl, rfl⟩
    · split
      · exact .inl rfl
      · refine .inr ⟨_, _, _, List.append_assoc ..,
          List.mem_append_right _ (List.mem_singleton.mpr rfl), ?_⟩
        rfl

theorem Current.followsOffers (h : s.Current) (config : UasConfig) (offers : Offers)
    (cipher : SrtpCipher) : s.FollowsOffers config offers cipher where
  sent := h.sent
  received n m hm hrunning d hd place := by
    have hoffer := (h.uses _ d hd).2 m (List.mem_iff_getElem?.mpr ⟨n, hm⟩) rfl
      (by rw [hrunning]; decide)
    refine dispatch_of_callback ?_ place
    rw [← hoffer]
    exact h.listed n m hm hrunning
  refused msg remoteAddr transport known clock t hmethod hstep hno := by
    simp only [SipLegs.step] at hstep
    split at hstep
    · obtain ⟨u, hu, rfl⟩ := Option.map_eq_some_iff.mp hstep
      cases hu
      unfold Uas.handleMessage at hno ⊢
      simp only [hmethod] at hno ⊢
      rcases refused_or_answered config offers.sdp s.uas msg remoteAddr transport known clock with
        heq | ⟨sent, dialog, r, hsent, hmem, hok⟩
      · rw [← heq]
      · refine absurd hok (hno dialog r remoteAddr transport ?_)
        rw [hsent, List.drop_left]
        exact hmem
    · cases hstep

/-- **Media follows the latest offer** in the runs that meet the condition. -/
theorem follows_offers (config : UasConfig) (offers : Offers) (cipher : SrtpCipher)
    {events : List SipLegsEvent}
    (hfollow : Guarded (SipLegs.step config offers cipher) (Follow offers) init events)
    (hrun : exec (SipLegs.step config offers cipher) init events = some s) :
    s.FollowsOffers config offers cipher := by
  have hinit : init.Current := ⟨nofun, nofun, nofun⟩
  have hcurrent := hfollow.invariant (fun s e t hs hg ht => hs.step hg ht) hinit hrun
  exact hcurrent.followsOffers ..

instance (s : SipLegs) : (e : SipLegsEvent) → Decidable (s.Follow offers e)
  | .uas (.message msg remoteAddr transport known clock) => inferInstanceAs (Decidable
      ((msg.method = "INVITE" → extractSessionID msg.requestURI ≠ "" → msg.body ≠ [] →
        ∀ d ∈ s.uas.confirmedDialog msg.callID, ∀ offer ∈ offers.parseSDP msg.body,
          ∀ codec ∈ offers.negotiateCodec offer, s.Uses d.2.sessionID (offered offer codec)) ∧
        ∀ d ∈ s.uas.added offers.sdp (.uas (.message msg remoteAddr transport known clock)),
          s.Uses d.sessionID (latestOffer d)))
  | .startRingback n => inferInstanceAs (Decidable (∀ c ∈ s.waiting n,
      (∀ d ∈ s.uas.live c.1, latestOffer d = recordedOffer c.2) ∧ s.Free c.2.remote))
  | .configure sessionID => inferInstanceAs (Decidable (∀ info ∈ s.ready sessionID,
      ∀ d ∈ s.uas.live sessionID, latestOffer d = recordedOffer info))
  | .start n => inferInstanceAs (Decidable (∀ m ∈ s.media[n]?, m.stage = .created →
      s.Free m.config.remote))
  | .readRTP source _ _ => inferInstanceAs (Decidable
      (((s.listener.lookup source).bind (·.onRTP)).isSome ∨
        ∀ e ∈ s.listener.entries, e.2.remoteAddr.ip = source.ip → e.1 ≠ source →
          s.Free e.1 ∧ ∀ r ∈ s.senders, r.stopped = false → (ringbackOffer r).1 ≠ e.1))
  | .uas (.sendBye _) | .uas (.shutdown _) | .createSession _ _ | .clientConnected _ | .setRingback _ _
  | .deleteSession _ | .setProviderRTP _ | .startFails _ | .stopMediaSession _ | .playRingback _ _
  | .writeSIP _ _ => .isTrue trivial

theorem follows_offers_keptCalls :
    ∃ s, exec (SipLegs.step legsConfig someOffers someCipher) init keptCalls = some s ∧
      s.FollowsOffers legsConfig someOffers someCipher :=
  ⟨_, rfl, follows_offers legsConfig someOffers someCipher
    (show Guarded _ (Follow someOffers) init keptCalls by decide +kernel) rfl⟩

/-- **The provider moves, and the media stays.** The address of a re-INVITE is answered, but packets go
on to the old one, and those from the new one are for no session. -/
theorem media_stays : ∃ s, exec (SipLegs.step legsConfig someOffers someCipher) init
      [.createSession "s1" false, inviteTo "s1" [0], .setProviderRTP 0, .clientConnected "s1",
        .configure "s1", .start 0, inviteTo "s1" [3], .writeSIP 0 [128]] = some s ∧
    (s.uas.live "s1").map latestOffer = [(⟨"198.51.100.1", 4000⟩, 0)] ∧
    s.sent.map (·.remote) = [⟨"192.0.2.1", 4000⟩] ∧
    (s.dispatch ⟨"198.51.100.1", 4000⟩ 0).2 = none ∧
    ¬ s.FollowsOffers legsConfig someOffers someCipher := by
  refine ⟨_, rfl, by decide +kernel, by decide +kernel, by decide +kernel, fun h => ?_⟩
  exact absurd h.sent (by decide +kernel)

end Svarla.MediaBridge.SipLegs
