import Mathlib
import Svarla.MediaBridge.Bridging

/-!
# The end of a session

DELETE removes a session from the store, and then closes its peer session, says BYE, and stops its
ringback and its media session. But the registration that a ringback has made is given up by a media
session only, and here there may be none (`registration_left_behind`). Other things are left, too: a
bridge that was not started by its media session is stopped by none, an offer makes a peer session also
when the session is gone, and a start that was under way puts its media session into the slot that a stop
has emptied.

In a run where no operation leaves what no handler will remove any more (`MayHappen`), nothing is left
of a deleted session when all handlers have finished, and no later event says that it goes on
(`teardown_complete`). The account (`Accounted`) says who removes what: an operation first does what it
is there for (`work`), or leaves it to those that follow (`settled`), and is then not needed any more
(`Accounted.settle`).
-/

namespace Svarla.MediaBridge

open Svarla.Lib

namespace Op

/-- Does the operation lead to a `takeSlot`? -/
def takesSlot : Op → Bool
  | removeDialog _ | stopMediaSession | takeSlot | removePeer | sendBye => true
  | _ => false

/-- Does the operation lead to a `stopRingback`? -/
def stopsRingback : Op → Bool
  | removeDialog _ | stopMediaSession | stopRingback | startTimer | ringTimer | removePeer
  | sendBye => true
  | _ => false

/-- Is the reservation removed, if there is no peer session? -/
def releases : Op → Bool
  | getProviderRTP | getPeer _ | getPeerWs | getPeerEcho | release => true
  | _ => false

/-- May a handler that is started after the session was deleted have to do it? -/
def Late : Op → Prop
  | emit event _ => event ≠ "provider_connected" ∧ event ≠ "bridging_active"
  | removeDialog _ | tryStartMediaSession | stopRingback | stopSender _ | stopMediaSession
  | takeSlot | stopMedia _ | stopWatchdog _ | stopBridge _ | unregister _ | removeSocket _
  | tryStartWs | clientConnected | checkGenericSocket | checkElks46Socket | offer | answer _
  | patch _ _ | deleteSession => True
  | _ => False

end Op

/-- The session is in the store, or a handler has still to take what is in the slot. -/
def InReach (stored : Bool) (ops : List Op) : Prop := stored ∨ ∃ op ∈ ops, op.takesSlot

/-- A media session that is yet to be stopped will give the address up. -/
def Holdings.Undone (held : Holdings) (ops : List Op) (remote : UdpAddr) : Prop :=
  .unregister remote ∈ ops ∨
    ∃ n < held.media.length, ∃ m ∈ held.media[n]?,
      m.remote = some remote ∧ (m.running ∨ .startBridge n ∈ ops)

instance (stored : Bool) (ops : List Op) : Decidable (InReach stored ops) :=
  inferInstanceAs (Decidable (_ ∨ ∃ op ∈ ops, _))

instance (held : Holdings) (ops : List Op) (remote : UdpAddr) :
    Decidable (held.Undone ops remote) :=
  inferInstanceAs (Decidable (_ ∨ ∃ n < held.media.length, ∃ m ∈ held.media[n]?, _))

namespace Bridging

/-- Nothing is left of the session but the session's own record. -/
structure NothingLeft (s : Bridging) : Prop where
  bridges : ∀ m ∈ s.held.media, ¬ m.bridge
  slot : s.held.slot = none
  sender : s.held.sender = none
  senders : ∀ r ∈ s.held.senders, ¬ r.sending
  peer : s.held.peer = none
  listener : ∀ e ∈ s.held.listener.entries, e.2 = .other

/-- The events that say that the session goes on. -/
def successes (s : Bridging) : List (String × String) :=
  s.emitted.filter fun e => e.1 = "provider_connected" ∨ e.1 = "bridging_active"

/-! ## The condition -/

/-- An operation, while the handlers have still to do the others, leaves nothing that none of them will
remove. -/
def MayRun (s : Bridging) (others : List Op) (ok : Bool) : Op → Prop
  | .offer => ok → s.held.peer = none → s.stored ∨ .removePeer ∈ others
  | .startWs | .startEcho => False
  | .publish _ => s.held.slot.join = none ∧ InReach s.stored others
  | .release => s.held.slot.join = none
  | .putSender => s.held.sender = none ∧ (s.stored ∨ ∃ op ∈ others, op.stopsRingback)
  | .registerRingback remote => ok → InReach s.stored others ∨ s.held.Undone others remote
  | .takeSlot =>
    InReach s.stored others ∨
      ∀ e ∈ s.held.listener.entries, e.2 = .other ∨ s.held.Undone others e.1
  | _ => True

/-- The condition of a step. -/
def MayHappen (s : Bridging) : BridgingEvent → Prop
  | .relearn old new =>
    s.held.listener.lookup old = some .other ∨ InReach s.stored s.pending ∨
      s.held.Undone s.pending new
  | .run i ok =>
    match s.threads[i]? with
    | none | some [] => True
    | some (op :: rest) => s.MayRun (s.threads.set i rest).flatten ok op
  | _ => True

instance (s : Bridging) (others : List Op) (ok : Bool) (op : Op) :
    Decidable (s.MayRun others ok op) := by
  cases op <;> dsimp only [MayRun] <;> infer_instance

instance (s : Bridging) (e : BridgingEvent) : Decidable (s.MayHappen e) := by
  cases e with
  | relearn old new => exact inferInstanceAs (Decidable (_ ∨ _))
  | run i ok =>
    dsimp only [MayHappen]
    cases s.threads[i]? with
    | none => exact .isTrue trivial
    | some thread => cases thread <;> dsimp only <;> infer_instance
  | _ => exact .isTrue trivial

/-! ## The invariant -/

end Bridging

/-- Everything that is held will be removed, by the DELETE or by a handler that has still to do so. -/
structure Accounted (stored : Bool) (held : Holdings) (ops : List Op) : Prop where
  peer : held.peer ≠ none → stored ∨ .removePeer ∈ ops
  reserved : held.slot = some none → InReach stored ops ∨ ∃ op ∈ ops, op.releases
  published : ∀ n, held.slot = some (some n) → InReach stored ops
  running : ∀ n m, held.media[n]? = some m → m.running →
    held.slot = some (some n) ∨ .publish n ∈ ops ∨ .stopMedia n ∈ ops
  bridge : ∀ n m, held.media[n]? = some m → m.bridge → m.running ∨ .stopBridge n ∈ ops
  sender : held.sender ≠ none → stored ∨ ∃ op ∈ ops, op.stopsRingback
  senders : ∀ k r, held.senders[k]? = some r →
    r.stopped ∨ held.sender = some k ∨ .stopSender k ∈ ops
  sending : ∀ r ∈ held.senders, r.sending → ¬ r.stopped
  listener : ∀ remote registration, held.listener.lookup remote = some registration →
    registration = .other ∨ InReach stored ops ∨ held.Undone ops remote

section Accounted

variable {stored : Bool} {held : Holdings} {ops ops' : List Op} {remote : UdpAddr}

theorem InReach.mono (h : InReach stored ops) (hsub : ops ⊆ ops') : InReach stored ops' :=
  h.imp_right fun ⟨op, hop, htakes⟩ => ⟨op, hsub hop, htakes⟩

theorem Holdings.Undone.mono (h : held.Undone ops remote) (hsub : ops ⊆ ops') :
    held.Undone ops' remote :=
  h.imp (@hsub _) fun ⟨n, hn, m, hm, hremote, hrest⟩ =>
    ⟨n, hn, m, hm, hremote, hrest.imp_right (@hsub _)⟩

/-- What is accounted for stays so, with more to do. -/
theorem Accounted.mono (h : Accounted stored held ops) (hsub : ops ⊆ ops') :
    Accounted stored held ops' where
  peer hpeer := (h.peer hpeer).imp_right (@hsub _)
  reserved hslot := (h.reserved hslot).imp (·.mono hsub) fun ⟨op, hop, hrest⟩ =>
    ⟨op, hsub hop, hrest⟩
  published n hslot := (h.published n hslot).mono hsub
  running n m hm hrunning := (h.running n m hm hrunning).imp_right (Or.imp (@hsub _) (@hsub _))
  bridge n m hm hbridge := (h.bridge n m hm hbridge).imp_right (@hsub _)
  sender hsender := (h.sender hsender).imp_right fun ⟨op, hop, hrest⟩ => ⟨op, hsub hop, hrest⟩
  senders k r hr := (h.senders k r hr).imp_right (Or.imp_right (@hsub _))
  sending := h.sending
  listener a r hr := (h.listener a r hr).imp_right (Or.imp (·.mono hsub) (·.mono hsub))

end Accounted

/-- What the operation was there for is done, or is left to others. -/
def Settled (stored : Bool) (held : Holdings) (ops : List Op) : Op → Prop
  | .removePeer => held.peer = none ∧ .sendBye ∈ ops
  | .removeDialog _ | .sendBye => .stopMediaSession ∈ ops
  | .stopMediaSession => .stopRingback ∈ ops ∧ .takeSlot ∈ ops
  | .takeSlot => held.slot = none ∧
    (InReach stored ops ∨ ∀ remote registration,
      held.listener.lookup remote = some registration →
        registration = .other ∨ held.Undone ops remote)
  | .stopRingback => held.sender = none
  | .startTimer => .ringTimer ∈ ops
  | .ringTimer => .stopRingback ∈ ops
  | .stopSender k => ∀ r ∈ held.senders[k]?, r.stopped
  | .getProviderRTP | .getPeer _ | .getPeerWs | .getPeerEcho =>
    InReach stored ops ∨ ∃ op ∈ ops, op.releases
  | .release => held.slot = none
  | .startBridge n => ∀ m ∈ held.media[n]?, m.running
  | .publish n => held.slot = some (some n)
  | .stopMedia n => ∀ m ∈ held.media[n]?, ¬ m.running
  | .stopBridge n => ∀ m ∈ held.media[n]?, ¬ m.bridge
  | .unregister remote => held.listener.lookup remote = none
  | _ => True

section Settled

variable {stored : Bool} {held : Holdings} {ops : List Op} {op : Op} {remote : UdpAddr}

theorem InReach.settle (h : InReach stored (op :: ops)) (hop : Settled stored held ops op)
    (hne : op ≠ .takeSlot) : InReach stored ops := by
  obtain hstored | ⟨x, hx, htakes⟩ := h
  · exact .inl hstored
  obtain rfl | hx := List.mem_cons.mp hx
  · cases x with
    | takeSlot => exact absurd rfl hne
    | removePeer => exact .inr ⟨_, hop.2, rfl⟩
    | stopMediaSession => exact .inr ⟨_, hop.2, rfl⟩
    | removeDialog | sendBye => exact .inr ⟨_, hop, rfl⟩
    | _ => cases htakes
  · exact .inr ⟨x, hx, htakes⟩

/-- Who would stop the ringback has done it, or leaves it to others. -/
theorem rings_settle (h : ∃ x ∈ op :: ops, x.stopsRingback) (hop : Settled stored held ops op)
    (hsender : held.sender ≠ none) : ∃ x ∈ ops, x.stopsRingback := by
  obtain ⟨x, hx, hrings⟩ := h
  obtain rfl | hx := List.mem_cons.mp hx
  · cases x with
    | stopRingback => exact absurd hop hsender
    | removePeer => exact ⟨_, hop.2, rfl⟩
    | stopMediaSession => exact ⟨_, hop.1, rfl⟩
    | removeDialog | sendBye | startTimer | ringTimer => exact ⟨_, hop, rfl⟩
    | _ => cases hrings
  · exact ⟨x, hx, hrings⟩

theorem Holdings.Undone.settle (h : held.Undone (op :: ops) remote)
    (hop : Settled stored held ops op) (hlookup : held.listener.lookup remote ≠ none) :
    held.Undone ops remote := by
  obtain hunregister | ⟨n, hn, m, hm, hremote, hrest⟩ := h
  · obtain rfl | hx := List.mem_cons.mp hunregister
    · exact absurd hop hlookup
    · exact .inl hx
  · refine .inr ⟨n, hn, m, hm, hremote, ?_⟩
    obtain hrunning | hstart := hrest
    · exact .inl hrunning
    obtain rfl | hx := List.mem_cons.mp hstart
    · exact .inl (hop m hm)
    · exact .inr hx

/-- **An operation that is settled is not needed any more.** -/
theorem Accounted.settle (h : Accounted stored held (op :: ops))
    (hop : Settled stored held ops op) : Accounted stored held ops := by
  constructor
  case peer =>
    intro hpeer
    refine (h.peer hpeer).imp_right fun hx => (List.mem_cons.mp hx).resolve_left ?_
    rintro rfl
    exact hpeer hop.1
  case reserved =>
    intro hslot
    have hne : op ≠ .takeSlot := by
      rintro rfl
      cases hop.1.symm.trans hslot
    obtain hreach | ⟨x, hx, hreleases⟩ := h.reserved hslot
    · exact .inl (hreach.settle hop hne)
    obtain rfl | hx := List.mem_cons.mp hx
    · cases x with
      | getProviderRTP | getPeer | getPeerWs | getPeerEcho => exact hop
      | release => cases hop.symm.trans hslot
      | _ => cases hreleases
    · exact .inr ⟨x, hx, hreleases⟩
  case published =>
    intro n hslot
    refine (h.published n hslot).settle hop ?_
    rintro rfl
    cases hop.1.symm.trans hslot
  case running =>
    intro n m hm hrunning
    obtain hslot | hpublish | hmedia := h.running n m hm hrunning
    · exact .inl hslot
    · obtain rfl | hx := List.mem_cons.mp hpublish
      · exact .inl hop
      · exact .inr (.inl hx)
    · obtain rfl | hx := List.mem_cons.mp hmedia
      · exact absurd hrunning (hop m hm)
      · exact .inr (.inr hx)
  case bridge =>
    intro n m hm hbridge
    refine (h.bridge n m hm hbridge).imp_right fun hx => (List.mem_cons.mp hx).resolve_left ?_
    rintro rfl
    exact hop m hm hbridge
  case sender =>
    exact fun hsender => (h.sender hsender).imp_right (rings_settle · hop hsender)
  case senders =>
    intro k r hr
    obtain hstopped | hsender | hx := h.senders k r hr
    · exact .inl hstopped
    · exact .inr (.inl hsender)
    · obtain rfl | hx := List.mem_cons.mp hx
      · exact .inl (hop r hr)
      · exact .inr (.inr hx)
  case sending => exact h.sending
  case listener =>
    intro a r hr
    have hlookup : held.listener.lookup a ≠ none := by rw [hr]; nofun
    obtain hother | hreach | hundone := h.listener a r hr
    · exact .inl hother
    · by_cases htake : op = .takeSlot
      · subst htake
        exact hop.2.elim (fun hreach => .inr (.inl hreach)) fun hall =>
          (hall a r hr).imp_right .inr
      · exact .inr (.inl (hreach.settle hop htake))
    · exact .inr (.inr (hundone.settle hop hlookup))

end Settled

/-! ### What is done to the holdings -/

section Accounted

variable {stored : Bool} {held : Holdings} {ops : List Op} (h : Accounted stored held ops)

include h

theorem Accounted.deleted (hpeer : .removePeer ∈ ops) : Accounted false held ops :=
  { h with
    peer := fun _ => .inr hpeer
    reserved := fun _ => .inl (.inr ⟨_, hpeer, rfl⟩)
    published := fun _ _ => .inr ⟨_, hpeer, rfl⟩
    sender := fun _ => .inr ⟨_, hpeer, rfl⟩
    listener := fun _ _ _ => .inr (.inl (.inr ⟨_, hpeer, rfl⟩)) }

theorem Accounted.removePeer : Accounted stored { held with peer := none } ops :=
  { h with peer := absurd rfl }

theorem Accounted.offer (hpeer : stored ∨ .removePeer ∈ ops) (p : Nat) :
    Accounted stored { held with peer := some p } ops :=
  { h with peer := fun _ => hpeer }

theorem Accounted.emptySlot (hslot : ∀ n, held.slot = some (some n) → .stopMedia n ∈ ops) :
    Accounted stored { held with slot := none } ops :=
  { h with
    reserved := nofun
    published := nofun
    running := fun n m hm hrunning =>
      .inr ((h.running n m hm hrunning).elim (fun hn => .inr (hslot n hn)) id) }

theorem Accounted.reserve (hslot : held.slot = none) (hreleases : ∃ op ∈ ops, op.releases) :
    Accounted stored { held with slot := some none } ops :=
  { h with
    reserved := fun _ => .inr hreleases
    published := nofun
    running := fun n m hm hrunning =>
      .inr ((h.running n m hm hrunning).resolve_left (by rw [hslot]; nofun)) }

theorem Accounted.publish (hslot : held.slot.join = none) (hreach : InReach stored ops) (n : Nat) :
    Accounted stored { held with slot := some (some n) } ops :=
  { h with
    reserved := nofun
    published := fun _ _ => hreach
    running := fun k m hm hrunning =>
      .inr ((h.running k m hm hrunning).resolve_left fun hk => by rw [hk] at hslot; cases hslot) }

theorem Accounted.takeSender (hsender : ∀ k ∈ held.sender, .stopSender k ∈ ops) :
    Accounted stored { held with sender := none } ops :=
  { h with
    sender := absurd rfl
    senders := fun k r hr =>
      (h.senders k r hr).imp_right fun hk => .inr (hk.elim (hsender k) id) }

theorem Accounted.putSender (hnone : held.sender = none)
    (hrings : stored ∨ ∃ op ∈ ops, op.stopsRingback) :
    Accounted stored
      { held with
        sender := some held.senders.length
        senders := held.senders ++ [⟨false, false⟩] } ops :=
  { h with
    sender := fun _ => hrings
    senders := fun k r hr => by
      obtain hr | ⟨rfl, rfl⟩ := of_getElem?_concat hr
      · obtain hstopped | hsender | hstop := h.senders k r hr
        · exact .inl hstopped
        · rw [hnone] at hsender
          cases hsender
        · exact .inr (.inr hstop)
      · exact .inr (.inl rfl)
    sending := fun r hr => by
      obtain hr | hr := List.mem_append.mp hr
      · exact h.sending r hr
      · cases List.mem_singleton.mp hr
        nofun }

theorem Accounted.modifySender (k : Nat) {f : Ringback → Ringback}
    (hstopped : ∀ r, r.stopped → (f r).stopped)
    (hsending : ∀ r, (r.sending → ¬ r.stopped) → (f r).sending → ¬ (f r).stopped) :
    Accounted stored { held with senders := held.senders.modify k f } ops :=
  { h with
    senders := fun j r hr => by
      obtain ⟨r, hj, rfl⟩ := Option.map_eq_some_iff.mp ((List.getElem?_modify ..).symm.trans hr)
      refine (h.senders j r hj).imp_left fun hr => ?_
      split
      · exact hstopped r hr
      · exact hr
    sending := fun r hr => by
      obtain ⟨j, hj⟩ := List.mem_iff_getElem?.mp hr
      obtain ⟨r, hk, rfl⟩ := Option.map_eq_some_iff.mp ((List.getElem?_modify ..).symm.trans hj)
      have hr := h.sending r (List.mem_of_getElem? hk)
      split
      · exact hsending r hr
      · exact hr }

theorem Accounted.register {remote : UdpAddr} {registration : Registration}
    (hcovered : registration = .other ∨ InReach stored ops ∨ held.Undone ops remote) :
    Accounted stored
      { held with listener := AList.insert remote registration held.listener } ops :=
  { h with
    listener := fun a r hr => by
      rw [Map.lookup_insert] at hr
      split at hr
      · next ha =>
        cases hr
        rw [ha]
        exact hcovered
      · exact h.listener a r hr }

theorem Accounted.unregister (remote : UdpAddr) :
    Accounted stored { held with listener := AList.erase remote held.listener } ops :=
  { h with
    listener := fun a r hr => by
      rw [Map.lookup_erase] at hr
      split at hr
      · cases hr
      · exact h.listener a r hr }

/-- A media session is new. -/
theorem Accounted.newMedia (remote : Option UdpAddr) :
    Accounted stored
      { held with media := held.media ++ [⟨remote, false, false, false⟩] } ops :=
  { h with
    running := fun n m hm => by
      obtain hm | ⟨rfl, rfl⟩ := of_getElem?_concat hm
      · exact h.running n m hm
      · nofun
    bridge := fun n m hm => by
      obtain hm | ⟨rfl, rfl⟩ := of_getElem?_concat hm
      · exact h.bridge n m hm
      · nofun
    listener := fun a r hr => (h.listener a r hr).imp_right <| Or.imp_right <| Or.imp_right
      fun ⟨n, hn, m, hm, hrest⟩ =>
        ⟨n, by rw [List.length_append]; omega, m, (List.getElem?_append_left hn).trans hm, hrest⟩ }

theorem Accounted.setMedia {n : Nat} {f : MediaSession → MediaSession}
    (hremote : ∀ m, (f m).remote = m.remote)
    (hrunning : ∀ m ∈ held.media[n]?, (f m).running → m.running ∨ .publish n ∈ ops)
    (hbridge : ∀ m ∈ held.media[n]?, (f m).bridge → (f m).running ∨ .stopBridge n ∈ ops)
    (hundone : ∀ m ∈ held.media[n]?, m.running →
      (f m).running ∨ ∀ remote ∈ m.remote, .unregister remote ∈ ops) :
    Accounted stored { held with media := held.media.modify n f } ops :=
  { h with
    running := fun k m hm hm' => by
      obtain ⟨m, hk, rfl⟩ := Option.map_eq_some_iff.mp ((List.getElem?_modify ..).symm.trans hm)
      split at hm'
      · next hnk =>
        subst hnk
        exact (hrunning m hk hm').elim (h.running n m hk) fun hpublish => .inr (.inl hpublish)
      · exact h.running k m hk hm'
    bridge := fun k m hm hm' => by
      obtain ⟨m, hk, rfl⟩ := Option.map_eq_some_iff.mp ((List.getElem?_modify ..).symm.trans hm)
      split at hm' <;> split
      all_goals first
        | contradiction
        | exact h.bridge k m hk hm'
        | next hnk _ =>
          subst hnk
          exact hbridge m hk hm'
    listener := fun a r hr => by
      refine (h.listener a r hr).imp_right (Or.imp_right fun hundone' => ?_)
      obtain hunregister | ⟨k, hk, m, hm, ha, hrest⟩ := hundone'
      · exact .inl hunregister
      by_cases hnk : n = k
      · subst hnk
        have hm' : (held.media.modify n f)[n]? = some (f m) := by simp [Option.mem_def.mp hm]
        obtain hm'' | hstart := hrest
        · obtain hm'' | hunregister := hundone m hm hm''
          · exact .inr ⟨n, by simpa using hk, _, hm', (hremote m).trans ha, .inl hm''⟩
          · exact .inl (hunregister a ha)
        · exact .inr ⟨n, by simpa using hk, _, hm', (hremote m).trans ha, .inr hstart⟩
      · exact .inr ⟨k, by simpa using hk, m, by simp [hnk, Option.mem_def.mp hm], ha, hrest⟩ }

end Accounted

/-! ## An operation -/

namespace Bridging

variable {s : Bridging} {others ops : List Op} {ok : Bool} {op : Op}

/-- What an operation does to the holdings. -/
theorem work (h : Accounted s.stored s.held (op :: ops)) (hguard : s.MayRun others ok op)
    (hothers : others ⊆ ops) (hnext : (s.run ok op).2 ⊆ ops) :
    Accounted (s.run ok op).1.stored (s.run ok op).1.held (op :: ops) := by
  have hsub : ∀ x ∈ (s.run ok op).2, x ∈ op :: ops := fun x hx => List.mem_cons_of_mem _ (hnext hx)
  have hothers' : others ⊆ op :: ops := fun x hx => List.mem_cons_of_mem _ (hothers hx)
  cases op with
  | registerRingback remote =>
    cases ok with
    | false => exact h
    | true =>
      exact h.register (.inr ((hguard rfl).imp (·.mono hothers') (·.mono hothers')))
  | putSender =>
    obtain ⟨hnone, hrings⟩ := hguard
    exact h.putSender hnone (hrings.imp_right (Exists.imp fun _ hx => ⟨hothers' hx.1, hx.2⟩))
  | startSender k =>
    refine h.modifySender k (fun r hr => ?_) fun r hr => ?_
    · rw [if_pos hr]
      exact hr
    · split
      · exact hr
      · next hstopped => exact fun _ => hstopped
  | stopSender k => exact h.modifySender k (fun _ _ => rfl) (fun _ _ => by intros; contradiction)
  | stopRingback =>
    refine h.takeSender fun k hk => hsub _ (List.mem_map.mpr ⟨k, ?_, rfl⟩)
    rw [Option.mem_def.mp hk]
    exact List.mem_singleton_self k
  | reserve | reserveWs | reserveEcho =>
    simp only [run, Bridging.reserve] at hsub ⊢
    cases hslot : s.held.slot with
    | some _ => exact h
    | none =>
      rw [hslot] at hsub
      refine h.reserve hslot ?_
      first
        | exact ⟨.getProviderRTP, hsub _ (.tail _ (.head _)), rfl⟩
        | exact ⟨_, hsub _ (.head _), rfl⟩
  | getPeer | getPeerWs | getPeerEcho =>
    simp only [run, withPeer]
    cases s.held.peer <;> exact h
  | getProviderRTP =>
    simp only [run]
    cases s.sess.providerRTP <;> exact h
  | release =>
    refine h.emptySlot fun n hn => ?_
    have hslot : s.held.slot.join = none := hguard
    rw [hn] at hslot
    cases hslot
  | startMedia remote =>
    cases ok with
    | false => exact h
    | true =>
      refine (h.newMedia (some remote)).register (.inr (.inr (.inr
        ⟨s.held.media.length, by simp, ⟨some remote, false, false, false⟩, by simp, rfl, .inr ?_⟩)))
      exact hsub _ (.head _)
  | startBridge n =>
    exact h.setMedia (fun _ => rfl) (fun _ _ _ => .inr (hsub _ (.head _))) (fun _ _ _ => .inl rfl)
      fun _ _ _ => .inl rfl
  | publish n => exact h.publish hguard.1 (hguard.2.mono hothers') n
  | takeSlot =>
    refine h.emptySlot fun n hn => hsub _ (List.mem_map.mpr ⟨n, ?_, rfl⟩)
    rw [hn]
    exact List.mem_singleton_self n
  | stopMedia n =>
    simp only [run] at hsub ⊢
    cases hm : s.held.media[n]? with
    | none => exact h
    | some m =>
      rw [hm] at hsub
      simp only at hsub ⊢
      split at hsub
      · next hrunning =>
        rw [if_pos hrunning]
        refine h.setMedia (fun _ => rfl) (fun _ _ => by intros; contradiction)
          (fun _ _ _ => .inr (hsub _ (.tail _ (.head _)))) fun m' hm' _ => .inr fun remote hr => ?_
        cases hm.symm.trans hm'
        refine hsub _ (List.mem_append_right _ (List.mem_map.mpr ⟨remote, ?_, rfl⟩))
        rw [Option.mem_def.mp hr]
        exact List.mem_singleton_self remote
      · next hrunning =>
        rw [if_neg hrunning]
        exact h
  | stopWatchdog n =>
    exact h.setMedia (fun _ => rfl) (fun _ _ => .inl) (fun m hm => h.bridge n m hm)
      fun _ _ => .inl
  | stopBridge n =>
    exact h.setMedia (fun _ => rfl) (fun _ _ => .inl) (fun _ _ => by intros; contradiction)
      fun _ _ => .inl
  | unregister remote => exact h.unregister remote
  | startWs | startEcho => exact hguard.elim
  | offer =>
    simp only [run]
    cases hpeer : s.held.peer with
    | some _ => exact h
    | none =>
      cases ok with
      | false => exact h
      | true => exact h.offer ((hguard rfl hpeer).imp_right (@hothers' _)) _
  | answer p =>
    simp only [run]
    split
    · exact h
    · split <;> exact h
  | deleteSession =>
    simp only [run] at hsub ⊢
    split at hsub
    · next hstored =>
      rw [if_pos hstored]
      exact h.deleted (hsub _ (.head _))
    · next hstored =>
      rw [if_neg hstored]
      exact h
  | removePeer => exact h.removePeer
  | closePeer p => cases ok <;> exact h
  | _ => exact h

/-- Where there is a peer session, the DELETE has still to take the slot. -/
theorem withPeer_settled (h : Accounted s.stored s.held (op :: ops)) {next : List Op}
    (hnext : (s.withPeer next).2 ⊆ ops) (hop : op ≠ .removePeer) :
    InReach s.stored ops ∨ ∃ x ∈ ops, x.releases := by
  simp only [withPeer] at hnext
  cases hpeer : s.held.peer with
  | none =>
    rw [hpeer] at hnext
    exact .inr ⟨_, hnext (List.mem_singleton_self _), rfl⟩
  | some p =>
    obtain hstored | hremove := h.peer (by rw [hpeer]; exact Option.some_ne_none p)
    · exact .inl (.inl hstored)
    · exact .inl (.inr ⟨_, (List.mem_cons.mp hremove).resolve_left hop.symm, rfl⟩)

/-- Each operation does what it is there for, or leaves it to those that follow. -/
theorem settled (h : Accounted s.stored s.held (op :: ops)) (hguard : s.MayRun others ok op)
    (hothers : others ⊆ ops) (hnext : (s.run ok op).2 ⊆ ops)
    (htimer : op = .startTimer → .ringTimer ∈ ops) :
    Settled (s.run ok op).1.stored (s.run ok op).1.held ops op := by
  cases op with
  | removePeer => exact ⟨rfl, hnext (List.mem_append_right _ (.head _))⟩
  | removeDialog | sendBye | ringTimer => exact hnext (.head _)
  | stopMediaSession => exact ⟨hnext (.head _), hnext (.tail _ (.head _))⟩
  | takeSlot =>
    refine ⟨rfl, Or.imp (·.mono hothers) (fun hall remote registration hr => ?_) hguard⟩
    obtain hother | hundone := hall ⟨remote, registration⟩ (AList.mem_lookup_iff.mp hr)
    · exact .inl hother
    · exact .inr (hundone.mono hothers)
  | stopRingback | release | publish => rfl
  | startTimer => exact htimer rfl
  | stopSender k =>
    intro r hr
    obtain ⟨_, _, rfl⟩ := Option.map_eq_some_iff.mp ((List.getElem?_modify ..).symm.trans hr)
    rw [if_pos rfl]
  | getProviderRTP =>
    simp only [run] at hnext ⊢
    cases hremote : s.sess.providerRTP with
    | none =>
      rw [hremote] at hnext
      exact .inr ⟨_, hnext (.head _), rfl⟩
    | some remote =>
      rw [hremote] at hnext
      exact .inr ⟨_, hnext (.head _), rfl⟩
  | getPeer | getPeerWs | getPeerEcho =>
    have hpeer := withPeer_settled h hnext (by simp)
    simp only [run, withPeer]
    cases s.held.peer <;> exact hpeer
  | startBridge n =>
    intro m hm
    obtain ⟨_, _, rfl⟩ := Option.map_eq_some_iff.mp ((List.getElem?_modify ..).symm.trans hm)
    rw [if_pos rfl]
  | stopMedia n =>
    simp only [run]
    cases hm : s.held.media[n]? with
    | none => simp [Settled, hm]
    | some m =>
      cases hrunning : m.running with
      | false => simp [Settled, hm, hrunning]
      | true => simp [Settled, setMedia, hm, hrunning]
  | stopBridge n =>
    intro m hm
    obtain ⟨_, _, rfl⟩ := Option.map_eq_some_iff.mp ((List.getElem?_modify ..).symm.trans hm)
    rw [if_pos rfl]
    exact Bool.false_ne_true
  | unregister remote => exact AList.lookup_erase remote s.held.listener
  | _ => trivial

/-! ## The runs -/

variable {t : Bridging} {e : BridgingEvent}

theorem accounted_init (providerLeg : ProviderLegType) (ringback : Bool) :
    Accounted (init providerLeg ringback).stored (init providerLeg ringback).held
      (init providerLeg ringback).pending where
  peer := absurd rfl
  reserved := nofun
  published := nofun
  running := nofun
  bridge := nofun
  sender := absurd rfl
  senders := nofun
  sending := nofun
  listener _ _ := nofun

/-- A handler that is started takes nothing away. -/
theorem accounted_spawn (h : Accounted s.stored s.held s.pending) (thread : List Op) :
    Accounted (s.spawn thread).stored (s.spawn thread).held (s.spawn thread).pending := by
  rw [pending_spawn]
  exact h.mono (List.subset_append_left _ _)

/-- **Every step keeps the account.** -/
theorem accounted_step (h : Accounted s.stored s.held s.pending) (hguard : s.MayHappen e)
    (hstep : s.step e = some t) : Accounted t.stored t.held t.pending := by
  cases e with
  | invite | bye | connectSocket =>
    cases hstep
    split
    · first | exact h | exact accounted_spawn h _
    · first | exact h | exact accounted_spawn h _
  | endSocket | peerLost =>
    obtain ⟨_, _, rfl⟩ := Option.map_eq_some_iff.mp hstep
    exact accounted_spawn h _
  | offer | patch | delete =>
    cases hstep
    exact accounted_spawn h _
  | peerConnected =>
    obtain ⟨_, _, hstep⟩ := Option.bind_eq_some_iff.mp hstep
    split at hstep
    · cases hstep
    · cases hstep
      exact accounted_spawn h _
    · cases hstep
      exact h
  | rtpTimeout n =>
    obtain ⟨m, hm, hstep⟩ := Option.bind_eq_some_iff.mp hstep
    split at hstep
    · cases hstep
      refine accounted_spawn ?_ _
      exact h.setMedia (fun _ => rfl) (fun _ _ => .inl) (fun m hm => h.bridge n m hm)
        fun _ _ => .inl
    · cases hstep
  | otherRegisters remote =>
    cases hstep
    exact h.register (.inl rfl)
  | otherUnregisters remote =>
    cases hstep
    exact h.unregister remote
  | relearn old new =>
    obtain ⟨registration, hold, hstep⟩ := Option.bind_eq_some_iff.mp hstep
    split at hstep
    · cases hstep
      refine (h.unregister old).register ?_
      refine hguard.imp_left fun hother => ?_
      exact Option.some.inj (hold.symm.trans hother)
    · cases hstep
  | run i ok =>
    obtain ⟨op, rest, hthread, rfl⟩ := of_step_run hstep
    have hmay : s.MayRun (s.threads.set i rest).flatten ok op := by
      simpa [MayHappen, hthread] using hguard
    have hothers : (s.threads.set i rest).flatten ⊆ (s.after i ok op rest).pending := fun x hx => by
      rw [pending_after]
      exact List.mem_append_left _ (mem_flatten_set_append hx _)
    have htimer : op = .startTimer → .ringTimer ∈ (s.after i ok op rest).pending := by
      rintro rfl
      rw [pending_after]
      exact List.mem_append_right _ (.head _)
    have hops : Accounted s.stored s.held (op :: (s.after i ok op rest).pending) :=
      h.mono fun x hx => by
        by_cases hne : x = op
        · exact hne ▸ .head _
        · exact .tail _ (mem_pending_after hthread hx hne)
    have hnext : (s.run ok op).2 ⊆ (s.after i ok op rest).pending := next_subset_pending hthread
    exact (work hops hmay hothers hnext).settle (settled hops hmay hothers hnext htimer)

/-- Where no handler is left, and the session is not in the store, nothing is held. -/
theorem nothingLeft (h : Accounted s.stored s.held s.pending) (hdeleted : ¬ s.stored)
    (hfinished : s.Finished) : s.NothingLeft := by
  rw [hfinished] at h
  have hreach : ¬ InReach s.stored [] := fun hreach => hreach.elim hdeleted nofun
  have hslot : s.held.slot = none := by
    cases hs : s.held.slot with
    | none => rfl
    | some entry =>
      cases entry with
      | none => exact ((h.reserved hs).elim hreach nofun).elim
      | some n => exact (hreach (h.published n hs)).elim
  have hsender : s.held.sender = none := by
    by_contra hs
    exact (h.sender hs).elim hdeleted nofun
  have hrunning : ∀ (n : Nat) (m : MediaSession), s.held.media[n]? = some m → ¬ m.running := by
    intro n m hm hm'
    obtain hn | hn | hn := h.running n m hm hm'
    · rw [hslot] at hn
      cases hn
    · cases hn
    · cases hn
  constructor
  case bridges =>
    intro m hm hbridge
    obtain ⟨n, hn⟩ := List.mem_iff_getElem?.mp hm
    exact (h.bridge n m hn hbridge).elim (hrunning n m hn) nofun
  case slot => exact hslot
  case sender => exact hsender
  case senders =>
    intro r hr hsending
    obtain ⟨k, hk⟩ := List.mem_iff_getElem?.mp hr
    obtain hstopped | hk' | hk' := h.senders k r hk
    · exact h.sending r hr hsending hstopped
    · rw [hsender] at hk'
      cases hk'
    · cases hk'
  case peer =>
    by_contra hpeer
    exact (h.peer hpeer).elim hdeleted nofun
  case listener =>
    intro e he
    obtain hother | hr | hundone := h.listener e.1 e.2 (AList.mem_lookup_iff.mpr he)
    · exact hother
    · exact (hreach hr).elim
    · obtain hx | ⟨n, _, m, hm, _, hm' | hx⟩ := hundone
      · cases hx
      · exact (hrunning n m hm hm').elim
      · cases hx

/-! ### After the end -/

/-- The session is over: there is nothing to do that would start it again. -/
structure Over (s : Bridging) (successes : List (String × String)) : Prop where
  deleted : ¬ s.stored
  late : ∀ op ∈ s.pending, op.Late
  successes : s.successes = successes

variable {successes : List (String × String)}

theorem Over.spawn (h : s.Over successes) {thread : List Op} (hlate : ∀ op ∈ thread, op.Late) :
    (s.spawn thread).Over successes where
  deleted := h.deleted
  late op hop := by
    rw [pending_spawn] at hop
    exact (List.mem_append.mp hop).elim (h.late op) (hlate op)
  successes := h.successes

/-- A late operation is followed by late ones, and reports nothing. -/
theorem late_run (ok : Bool) (hdeleted : ¬ s.stored) (hlate : op.Late) :
    (s.run ok op).1.stored = s.stored ∧ (s.run ok op).1.successes = s.successes ∧
      ∀ x ∈ (s.run ok op).2, x.Late := by
  cases op with
  | emit event reason =>
    refine ⟨rfl, ?_, List.forall_mem_nil _⟩
    simp [run, Bridging.successes, hlate.1, hlate.2]
  | removeDialog reason =>
    refine ⟨rfl, rfl, fun x hx => ?_⟩
    simp only [run, List.mem_cons, List.not_mem_nil, or_false] at hx
    obtain rfl | rfl := hx <;> simp [Op.Late]
  | stopMedia n =>
    simp only [run]
    split
    · exact ⟨rfl, rfl, List.forall_mem_nil _⟩
    · split
      · refine ⟨rfl, rfl, fun x hx => ?_⟩
        simp only [List.mem_append, List.mem_cons, List.not_mem_nil, or_false, List.mem_map] at hx
        obtain (rfl | rfl) | ⟨remote, _, rfl⟩ := hx <;> trivial
      · exact ⟨rfl, rfl, List.forall_mem_nil _⟩
  | stopRingback | takeSlot =>
    refine ⟨rfl, rfl, fun x hx => ?_⟩
    obtain ⟨_, _, rfl⟩ := List.mem_map.mp hx
    trivial
  | tryStartMediaSession | tryStartWs | patch | deleteSession | clientConnected =>
    simp [run, hdeleted, Op.Late]
  | stopMediaSession => simp [run, Op.Late]
  | checkGenericSocket | checkElks46Socket =>
    refine ⟨rfl, rfl, fun x hx => ?_⟩
    simp only [run] at hx
    split at hx
    · cases List.mem_singleton.mp hx
      trivial
    · first
        | cases List.mem_singleton.mp hx; trivial
        | cases hx
  | offer =>
    simp only [run]
    split
    · exact ⟨rfl, rfl, fun x hx => by cases List.mem_singleton.mp hx; trivial⟩
    · split
      · exact ⟨rfl, rfl, fun x hx => by cases List.mem_singleton.mp hx; trivial⟩
      · exact ⟨rfl, rfl, List.forall_mem_nil _⟩
  | answer p =>
    simp only [run]
    split
    · exact ⟨rfl, rfl, List.forall_mem_nil _⟩
    · split
      · exact ⟨rfl, rfl, fun x hx => by cases List.mem_singleton.mp hx; simp [Op.Late]⟩
      · exact ⟨rfl, rfl, List.forall_mem_nil _⟩
  | stopSender | stopWatchdog | stopBridge | unregister | removeSocket =>
    exact ⟨rfl, rfl, List.forall_mem_nil _⟩
  | _ => exact hlate.elim

theorem Over.step (h : s.Over successes) (hstep : s.step e = some t) : t.Over successes := by
  cases e with
  | invite callID remote =>
    cases hstep
    rw [if_pos (.inr h.deleted)]
    exact h
  | bye callID reason =>
    cases hstep
    split
    · refine h.spawn ?_
      simp [Op.Late]
    · exact h
  | connectSocket handler =>
    cases hstep
    rw [if_neg h.deleted]
    exact h
  | endSocket i =>
    obtain ⟨handler, _, rfl⟩ := Option.map_eq_some_iff.mp hstep
    refine Over.spawn ?_ ?_
    · exact ⟨h.deleted, h.late, h.successes⟩
    · simp [Op.Late]
  | offer | patch | delete =>
    cases hstep
    refine h.spawn ?_
    simp [Op.Late]
  | peerConnected p =>
    obtain ⟨peer, _, hstep⟩ := Option.bind_eq_some_iff.mp hstep
    split at hstep
    · cases hstep
    · cases hstep
      refine Over.spawn ?_ ?_
      · exact ⟨h.deleted, h.late, h.successes⟩
      · simp [Op.Late]
    · cases hstep
      exact ⟨h.deleted, h.late, h.successes⟩
  | peerLost p reason =>
    obtain ⟨peer, _, rfl⟩ := Option.map_eq_some_iff.mp hstep
    refine Over.spawn ?_ ?_
    · exact ⟨h.deleted, h.late, h.successes⟩
    · simp [Op.Late]
  | rtpTimeout n =>
    obtain ⟨m, _, hstep⟩ := Option.bind_eq_some_iff.mp hstep
    split at hstep
    · cases hstep
      refine Over.spawn ?_ ?_
      · exact ⟨h.deleted, h.late, h.successes⟩
      · simp [Op.Late]
    · cases hstep
  | otherRegisters | otherUnregisters =>
    cases hstep
    exact ⟨h.deleted, h.late, h.successes⟩
  | relearn old new =>
    obtain ⟨registration, _, hstep⟩ := Option.bind_eq_some_iff.mp hstep
    split at hstep
    · cases hstep
      exact ⟨h.deleted, h.late, h.successes⟩
    · cases hstep
  | run i ok =>
    obtain ⟨op, rest, hthread, rfl⟩ := of_step_run hstep
    have hlate := h.late op (List.mem_flatten.mpr ⟨_, List.mem_of_getElem? hthread, .head _⟩)
    obtain ⟨hstored, hsuccesses, hnext⟩ := late_run ok h.deleted hlate
    constructor
    · change ¬ (s.run ok op).1.stored
      rw [hstored]
      exact h.deleted
    · intro x hx
      obtain hx | hx | hx := of_mem_pending_after hthread hx
      · exact hnext x hx
      · cases op <;> first | exact hlate.elim | exact absurd hx List.not_mem_nil
      · exact h.late x hx
    · exact hsuccesses.trans h.successes

/-- **The teardown is complete.** In a run where nothing is left that nobody will remove, nothing is left
of a session that was deleted when all handlers have finished, and none reports that it goes on. -/
theorem teardown_complete (providerLeg : ProviderLegType) (ringback : Bool)
    (es : List BridgingEvent) (hguard : Guarded step MayHappen (init providerLeg ringback) es)
    (hrun : exec step (init providerLeg ringback) es = some s) (hdeleted : ¬ s.stored)
    (hfinished : s.Finished) :
    s.NothingLeft ∧ ∀ fs t, exec step s fs = some t → t.successes = s.successes := by
  have haccounted : Accounted s.stored s.held s.pending :=
    hguard.invariant (fun _ _ _ => accounted_step) (accounted_init providerLeg ringback) hrun
  refine ⟨nothingLeft haccounted hdeleted hfinished, fun fs t hrest => ?_⟩
  have hover : s.Over s.successes := ⟨hdeleted, by rw [hfinished]; nofun, rfl⟩
  exact (exec_invariant (fun _ _ _ => Over.step) hover hrest).successes

/-- A caller waits, the client connects, and the session is deleted. -/
def answered : List BridgingEvent :=
  [.invite "call" ⟨"192.0.2.1", 4000⟩] ++ List.replicate 11 (.run 0 true) ++
    [.offer] ++ List.replicate 3 (.run 1 true) ++
    [.peerConnected 0] ++ List.replicate 18 (.run 2 true) ++
    [.delete] ++ List.replicate 11 (.run 3 true)

theorem teardown_complete_answered :
    ∃ s, exec step (init .sip true) answered = some s ∧ s.NothingLeft :=
  ⟨_, rfl, (teardown_complete .sip true answered (by decide +kernel) rfl nofun
    (by decide +kernel)).1⟩

/-- A caller waits, and the session is deleted. -/
def abandoned : List BridgingEvent :=
  [.invite "call" ⟨"192.0.2.1", 4000⟩] ++ List.replicate 11 (.run 0 true) ++
    [.delete] ++ List.replicate 7 (.run 1 true)

/-- **A registration is left.** That of the ringback is given up by a media session only, and here there
is none. -/
theorem registration_left_behind :
    ¬ ∀ (providerLeg : ProviderLegType) (ringback : Bool) (es : List BridgingEvent) (s : Bridging),
      exec step (init providerLeg ringback) es = some s → ¬ s.stored → s.Finished →
        s.NothingLeft ∧ ∀ fs t, exec step s fs = some t → t.successes = s.successes := by
  intro h
  have hleft := (h .sip true abandoned _ rfl nofun (by decide +kernel)).1
  cases hleft.listener _ (.head _)

end Bridging

end Svarla.MediaBridge
