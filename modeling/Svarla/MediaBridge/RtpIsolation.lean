import Svarla.MediaBridge.RtpListener

/-!
# Sessions behind one RTP listener

A packet is for the session that is registered under its source. Where there is none, or one without a
callback, as for the ringback, the listener takes any session with the same IP address, and registers it
under the source. `UnregisterSession` removes what is registered under the negotiated address.

Two sessions with one IP address are told apart (`Isolated`) as long as no packet makes the listener
search by this address, and a session is gone after `UnregisterSession` if it is registered under its
negotiated address still (`Keeps`, `isolated`).
-/

namespace Svarla.MediaBridge

open Svarla.Lib

/-- An `RTPSession`, of some session; does it have a callback? -/
structure RtpEntry where
  session : Nat
  remoteAddr : UdpAddr
  onRTP : Bool
  deriving DecidableEq, Repr

/-- The addresses that a session has negotiated, and those it has learned. -/
structure Addresses where
  negotiated : List UdpAddr
  learned : List UdpAddr
  deriving DecidableEq, Repr

def Addresses.all (a : Addresses) : List UdpAddr := a.negotiated ++ a.learned

/-- The map of the listener, with the addresses of the sessions that are registered. -/
structure RtpLegs where
  sessions : Map UdpAddr RtpEntry
  registered : Map Nat Addresses

inductive RtpLegsEvent
  /-- `RegisterSession`. -/
  | register (session : Nat) (remote : UdpAddr) (onRTP : Bool)
  /-- A packet, that goes to the session at this place when it is searched by its IP address. -/
  | packet (source : UdpAddr) (place : Nat)
  /-- `UnregisterSession`, of an address that the session has negotiated. -/
  | unregister (session : Nat) (remote : UdpAddr)
  deriving DecidableEq, Repr

namespace RtpLegs

def init : RtpLegs := ⟨∅, ∅⟩

/-- The addresses of a session that is registered. -/
def addresses (s : RtpLegs) (session : Nat) : Addresses := (s.registered.lookup session).getD ⟨[], []⟩

/-- The sessions with the IP address of a source, in some order. -/
def sameIP (s : RtpLegs) (source : UdpAddr) : List (UdpAddr × RtpEntry) :=
  (s.sessions.entries.map fun e => (e.1, e.2)).filter fun e => e.2.remoteAddr.ip = source.ip

/-- The dispatch of `readLoop`: the session that gets the packet, and the map then. -/
def dispatch (s : RtpLegs) (source : UdpAddr) (place : Nat) : RtpLegs × Option Nat :=
  match (s.sessions.lookup source).filter (·.onRTP) with
  | some leg => (s, some leg.session)
  | none =>
    match (s.sameIP source)[place % (s.sameIP source).length]? with
    | none => (s, none)
    | some (oldKey, matched) =>
      let delivered := if matched.onRTP then some matched.session else none
      if oldKey = source then (s, delivered)
      else
        ({ sessions := (s.sessions.erase oldKey).insert source { matched with remoteAddr := source }
           registered := s.registered.modify matched.session fun addresses =>
             { addresses with learned := source :: addresses.learned } },
          delivered)

def step (s : RtpLegs) : RtpLegsEvent → Option RtpLegs
  | .register session remote onRTP =>
    let addresses := s.addresses session
    some
      { sessions := s.sessions.insert remote ⟨session, remote, onRTP⟩
        registered := s.registered.insert session
          { addresses with negotiated := remote :: addresses.negotiated } }
  | .packet source place => some (s.dispatch source place).1
  | .unregister session remote =>
    if remote ∈ (s.addresses session).negotiated then
      some { sessions := s.sessions.erase remote, registered := s.registered.erase session }
    else none

/-- A packet from an address of a registered session is for this session, and leaves those of others as
they are; a session that is not registered has no entry and gets no packet. -/
structure Isolated (s : RtpLegs) : Prop where
  packet : ∀ session a, a ∈ (s.addresses session).all → ∀ place,
    (∀ x ∈ (s.dispatch a place).2, x = session) ∧
      ∀ key leg, leg.session ≠ session →
        ((s.dispatch a place).1.sessions.lookup key = some leg ↔ s.sessions.lookup key = some leg)
  gone : ∀ session, s.registered.lookup session = none →
    (∀ key leg, s.sessions.lookup key = some leg → leg.session ≠ session) ∧
      ∀ source place, (s.dispatch source place).2 ≠ some session

/-! ## The condition -/

/-- All entries with an IP address are those of one session. -/
def Alone (s : RtpLegs) (session : Nat) (ip : String) : Prop :=
  ∀ e ∈ s.sessions.entries, e.1.ip = ip → e.2.session = session

/-- The packets from an address find their session under it. -/
def Exact (s : RtpLegs) (session : Nat) (a : UdpAddr) : Prop :=
  ∃ leg ∈ s.sessions.lookup a, leg.session = session ∧ leg.onRTP = true

instance (s : RtpLegs) (session : Nat) (ip : String) : Decidable (s.Alone session ip) :=
  inferInstanceAs (Decidable (∀ e ∈ s.sessions.entries, _))

instance (s : RtpLegs) (session : Nat) (a : UdpAddr) : Decidable (s.Exact session a) :=
  match h : s.sessions.lookup a with
  | none => .isFalse fun ⟨_, hleg, _⟩ => by cases h.symm.trans hleg
  | some leg => decidable_of_iff (leg.session = session ∧ leg.onRTP = true)
      ⟨fun hleg => ⟨leg, h, hleg⟩, fun ⟨_, hleg, hspec⟩ => by cases h.symm.trans hleg; exact hspec⟩

/-- A session registers under an address of its own, and shares an IP address only where every address is
found as it is; a packet is searched by its IP address only where one session has it; and a session is
unregistered under the only address it is found under. -/
def Keeps (s : RtpLegs) : RtpLegsEvent → Prop
  | .register session remote onRTP =>
    (∀ e ∈ s.registered.entries, remote ∈ e.2.all → e.1 = session) ∧
      (s.Alone session remote.ip ∨ onRTP = true ∧ ∀ e ∈ s.registered.entries, ∀ a ∈ e.2.all,
        a.ip = remote.ip → a = remote ∨ s.Exact e.1 a)
  | .packet source _ =>
    (∃ leg ∈ s.sessions.lookup source, leg.onRTP = true) ∨
      ∀ e ∈ s.sessions.entries, e.1.ip = source.ip → s.Alone e.2.session source.ip
  | .unregister session remote =>
    ∀ e ∈ s.sessions.entries, e.2.session = session → e.1 = remote

/-! ## What the condition keeps -/

variable {s : RtpLegs}

theorem alone_iff {session : Nat} {ip : String} : s.Alone session ip ↔
    ∀ key leg, s.sessions.lookup key = some leg → key.ip = ip → leg.session = session := by
  constructor
  · intro h key leg hleg hip
    exact h ⟨key, leg⟩ (AList.mem_lookup_iff.mp hleg) hip
  · intro h e he hip
    exact h e.1 e.2 (AList.mem_lookup_iff.mpr he) hip

theorem mem_sameIP {source key : UdpAddr} {leg : RtpEntry} : (key, leg) ∈ s.sameIP source ↔
    s.sessions.lookup key = some leg ∧ leg.remoteAddr.ip = source.ip := by
  simp only [sameIP, List.mem_filter, List.mem_map, decide_eq_true_eq]
  rw [← Option.mem_def, AList.mem_lookup_iff]
  constructor
  · rintro ⟨⟨e, he, heq⟩, hip⟩
    cases heq
    exact ⟨he, hip⟩
  · rintro ⟨he, hip⟩
    exact ⟨⟨_, he, rfl⟩, hip⟩

/-- A session has an address. -/
def Has (s : RtpLegs) (session : Nat) (a : UdpAddr) : Prop := a ∈ (s.addresses session).all

/-- Every entry is that of a registered session under an address it has, and a session's address is
found as it is, or by its IP address, which then no other session has. -/
structure Sound (s : RtpLegs) : Prop where
  entry : ∀ key leg, s.sessions.lookup key = some leg → leg.remoteAddr = key ∧ s.Has leg.session key
  found : ∀ session a, s.Has session a → s.Exact session a ∨
    (∀ leg ∈ s.sessions.lookup a, leg.onRTP = false) ∧ s.Alone session a.ip
  reached : ∀ session a, s.Has session a →
    ∃ key leg, s.sessions.lookup key = some leg ∧ leg.session = session ∧ key.ip = a.ip

theorem Has.registered {session : Nat} {a : UdpAddr} (h : s.Has session a) :
    ∃ addresses, s.registered.lookup session = some addresses ∧ a ∈ addresses.all := by
  unfold Has RtpLegs.addresses at h
  match hr : s.registered.lookup session with
  | none =>
    rw [hr] at h
    cases h
  | some addresses => exact ⟨addresses, rfl, by rw [hr] at h; exact h⟩

/-- Two sessions that have one address where one of them is alone are the same. -/
theorem Sound.eq_of_alone (h : s.Sound) {session other : Nat} {a : UdpAddr} (ha : s.Has other a)
    (halone : s.Alone session a.ip) : other = session := by
  obtain ⟨key, leg, hleg, rfl, hip⟩ := h.reached other a ha
  exact alone_iff.mp halone key leg hleg hip

/-- An address is that of one session. -/
theorem Sound.unique (h : s.Sound) {session other : Nat} {a : UdpAddr} (ha : s.Has session a)
    (ha' : s.Has other a) : other = session := by
  obtain ⟨leg, hleg, hsession, honRTP⟩ | ⟨-, halone⟩ := h.found session a ha
  · obtain ⟨leg', hleg', hsession', -⟩ | ⟨hnone, -⟩ := h.found other a ha'
    · cases hleg.symm.trans hleg'
      exact hsession'.symm.trans hsession
    · rw [hnone leg hleg] at honRTP
      cases honRTP
  · exact h.eq_of_alone ha' halone

/-- What a packet does: nothing, or the session that alone has the IP address is registered under its
source. -/
theorem dispatch_cases (s : RtpLegs) (source : UdpAddr) (place : Nat) :
    (∃ leg, s.sessions.lookup source = some leg ∧ leg.onRTP = true ∧
      s.dispatch source place = (s, some leg.session)) ∨
    (∀ leg ∈ s.sessions.lookup source, leg.onRTP = false) ∧
      ((s.sameIP source = [] ∧ s.dispatch source place = (s, none)) ∨
        ∃ oldKey matched, (oldKey, matched) ∈ s.sameIP source ∧
          (s.dispatch source place).2 = (if matched.onRTP then some matched.session else none) ∧
          (oldKey = source ∧ (s.dispatch source place).1 = s ∨
            oldKey ≠ source ∧ (s.dispatch source place).1 =
              { sessions := (s.sessions.erase oldKey).insert source { matched with remoteAddr := source }
                registered := s.registered.modify matched.session fun addresses =>
                  { addresses with learned := source :: addresses.learned } })) := by
  match hfound : (s.sessions.lookup source).filter (·.onRTP) with
  | some leg =>
    obtain ⟨hleg, honRTP⟩ := Option.filter_eq_some_iff.mp hfound
    exact .inl ⟨leg, hleg, honRTP, by simp only [dispatch, hfound]⟩
  | none =>
    refine .inr ⟨fun leg hleg => ?_, ?_⟩
    · rw [Option.mem_def.mp hleg] at hfound
      simpa using hfound
    match hsame : s.sameIP source with
    | [] => exact .inl ⟨rfl, by simp [dispatch, hfound, hsame]⟩
    | first :: more =>
      have hlt : place % (s.sameIP source).length < (s.sameIP source).length :=
        Nat.mod_lt _ (by rw [hsame]; exact Nat.succ_pos _)
      match hm : (s.sameIP source)[place % (s.sameIP source).length] with
      | (oldKey, matched) =>
        have hget : (s.sameIP source)[place % (s.sameIP source).length]? = some (oldKey, matched) := by
          rw [List.getElem?_eq_getElem hlt, hm]
        have hmem : (oldKey, matched) ∈ s.sameIP source := hm ▸ List.getElem_mem hlt
        refine .inr ⟨oldKey, matched, hsame ▸ hmem, ?_, ?_⟩
        · simp only [dispatch, hfound, hget]
          split <;> rfl
        · simp only [dispatch, hfound, hget]
          split
          · next hkey => exact .inl ⟨hkey, rfl⟩
          · next hkey => exact .inr ⟨hkey, rfl⟩

/-- What a session gets to have. -/
theorem has_register (s : RtpLegs) (sessions : Map UdpAddr RtpEntry) (session : Nat) (remote : UdpAddr)
    (other : Nat) (a : UdpAddr) :
    (RtpLegs.mk sessions (s.registered.insert session { s.addresses session with
      negotiated := remote :: (s.addresses session).negotiated })).Has other a ↔
      s.Has other a ∨ other = session ∧ a = remote := by
  simp only [Has, addresses, Map.lookup_insert, Addresses.all]
  by_cases h : other = session
  · subst h
    simp only [↓reduceIte, Option.getD_some, List.cons_append, List.mem_cons, true_and]
    exact or_comm
  · simp only [h, ↓reduceIte, false_and, or_false]

theorem has_learn (s : RtpLegs) (sessions : Map UdpAddr RtpEntry) {session : Nat} {key : UdpAddr}
    (hkey : s.Has session key) (source : UdpAddr) (other : Nat) (a : UdpAddr) :
    (RtpLegs.mk sessions (s.registered.modify session fun addresses =>
      { addresses with learned := source :: addresses.learned })).Has other a ↔
      s.Has other a ∨ other = session ∧ a = source := by
  obtain ⟨old, hold, -⟩ := hkey.registered
  simp only [Has, addresses, Map.lookup_modify, Addresses.all]
  by_cases h : other = session
  · subst h
    simp only [↓reduceIte, hold, Option.map_some, Option.getD_some, List.mem_append, List.mem_cons,
      true_and]
    tauto
  · simp only [h, ↓reduceIte, false_and, or_false]

theorem has_unregister (s : RtpLegs) (sessions : Map UdpAddr RtpEntry) (session other : Nat)
    (a : UdpAddr) :
    (RtpLegs.mk sessions (s.registered.erase session)).Has other a ↔ other ≠ session ∧ s.Has other a := by
  simp only [Has, addresses, Map.lookup_erase]
  by_cases h : other = session
  · simp [h, Addresses.all]
  · simp [h]

/-- A session that registers under an address of its own, where what shares its IP address is exact. -/
theorem Sound.register (h : s.Sound) {session : Nat} {remote : UdpAddr} {onRTP : Bool}
    (hkeeps : s.Keeps (.register session remote onRTP)) :
    (RtpLegs.mk (s.sessions.insert remote ⟨session, remote, onRTP⟩)
      (s.registered.insert session { s.addresses session with
        negotiated := remote :: (s.addresses session).negotiated })).Sound := by
  obtain ⟨hown, hshared⟩ := hkeeps
  have hown' : ∀ other, s.Has other remote → other = session := by
    intro other hother
    obtain ⟨addresses, hr, ha⟩ := hother.registered
    exact hown ⟨other, addresses⟩ (AList.mem_lookup_iff.mp hr) ha
  have hexact : ∀ other a, s.Has other a → a.ip = remote.ip → ¬ s.Alone session remote.ip → onRTP = true ∧
      (a = remote ∨ s.Exact other a) := by
    intro other a ha hip halone
    obtain ⟨honRTP, hall⟩ := hshared.resolve_left halone
    obtain ⟨addresses, hr, ha⟩ := ha.registered
    exact ⟨honRTP, hall ⟨other, addresses⟩ (AList.mem_lookup_iff.mp hr) a ha hip⟩
  refine ⟨fun key leg hleg => ?_, fun other a ha => ?_, fun other a ha => ?_⟩
  · rw [Map.lookup_insert] at hleg
    rw [has_register]
    split at hleg
    · next hkey =>
      cases hleg
      exact ⟨hkey.symm, .inr ⟨rfl, hkey⟩⟩
    · exact ⟨(h.entry key leg hleg).1, .inl (h.entry key leg hleg).2⟩
  · rw [has_register] at ha
    have hkept : ∀ {b}, b ≠ remote → s.Exact other b →
        (RtpLegs.mk (s.sessions.insert remote ⟨session, remote, onRTP⟩)
          (s.registered.insert session { s.addresses session with
            negotiated := remote :: (s.addresses session).negotiated })).Exact other b := by
      rintro b hb ⟨leg, hleg, hspec⟩
      exact ⟨leg, by rw [Option.mem_def, Map.lookup_insert, if_neg hb]; exact hleg, hspec⟩
    have halone : ∀ {ip}, s.Alone session ip →
        (RtpLegs.mk (s.sessions.insert remote ⟨session, remote, onRTP⟩)
          (s.registered.insert session { s.addresses session with
            negotiated := remote :: (s.addresses session).negotiated })).Alone session ip := by
      intro ip hall
      refine alone_iff.mpr fun key leg hleg hip => ?_
      rw [Map.lookup_insert] at hleg
      split at hleg
      · cases hleg
        rfl
      · exact alone_iff.mp hall key leg hleg hip
    by_cases har : a = remote
    · -- the address that is registered
      subst har
      obtain rfl : other = session := ha.elim (hown' other) And.left
      cases onRTP with
      | true => exact .inl ⟨_, by rw [Option.mem_def, Map.lookup_insert, if_pos rfl], rfl, rfl⟩
      | false =>
        refine .inr ⟨fun leg hleg => ?_, ?_⟩
        · rw [Option.mem_def, Map.lookup_insert, if_pos rfl] at hleg
          cases hleg
          rfl
        · exact halone (hshared.resolve_right fun hright => absurd hright.1 Bool.false_ne_true)
    · replace ha := ha.resolve_right fun hright => har hright.2
      obtain hexact' | ⟨hnone, halone'⟩ := h.found other a ha
      · exact .inl (hkept har hexact')
      by_cases hip : a.ip = remote.ip
      · by_cases hsame : s.Alone session remote.ip
        · obtain rfl := h.eq_of_alone ha (hip ▸ hsame)
          refine .inr ⟨fun leg hleg => ?_, halone halone'⟩
          rw [Option.mem_def, Map.lookup_insert, if_neg har] at hleg
          exact hnone leg hleg
        · exact .inl (hkept har ((hexact other a ha hip hsame).2.resolve_left har))
      · refine .inr ⟨fun leg hleg => ?_, alone_iff.mpr fun key leg hleg hkey => ?_⟩
        · rw [Option.mem_def, Map.lookup_insert, if_neg har] at hleg
          exact hnone leg hleg
        · rw [Map.lookup_insert] at hleg
          split at hleg
          · next heq => exact absurd (heq ▸ hkey).symm hip
          · exact alone_iff.mp halone' key leg hleg hkey
  · rw [has_register] at ha
    by_cases hs : other = session ∧ a = remote
    · exact ⟨remote, ⟨session, remote, onRTP⟩, by rw [Map.lookup_insert, if_pos rfl], hs.1.symm,
        by rw [hs.2]⟩
    · obtain ⟨key, leg, hleg, hsession, hip⟩ := h.reached other a (ha.resolve_right hs)
      by_cases hkey : key = remote
      · -- its entry is replaced by one of the same session
        subst hkey
        have hother := hown' other (hsession ▸ (h.entry _ leg hleg).2)
        exact ⟨key, ⟨session, key, onRTP⟩, by rw [Map.lookup_insert, if_pos rfl], hother.symm, hip⟩
      · exact ⟨key, leg, by rw [Map.lookup_insert, if_neg hkey, hleg], hsession, hip⟩

/-- A session that alone has the IP address is registered under the source. -/
theorem Sound.learn (h : s.Sound) {source oldKey : UdpAddr} {matched : RtpEntry}
    (hold : s.sessions.lookup oldKey = some matched) (hip : oldKey.ip = source.ip)
    (halone : s.Alone matched.session source.ip) :
    (RtpLegs.mk ((s.sessions.erase oldKey).insert source { matched with remoteAddr := source })
      (s.registered.modify matched.session fun addresses =>
        { addresses with learned := source :: addresses.learned })).Sound := by
  have hhas := has_learn s ((s.sessions.erase oldKey).insert source { matched with remoteAddr := source })
    (h.entry oldKey matched hold).2 source
  have hlookup : ∀ key, (AList.insert source { matched with remoteAddr := source }
      (AList.erase oldKey s.sessions)).lookup key = if key = source then
        some { matched with remoteAddr := source } else if key = oldKey then none
          else s.sessions.lookup key := by
    intro key
    rw [Map.lookup_insert, Map.lookup_erase]
  -- other IP addresses are left as they are
  have hother : ∀ key, key.ip ≠ source.ip → (AList.insert source { matched with remoteAddr := source }
      (AList.erase oldKey s.sessions)).lookup key = s.sessions.lookup key := by
    intro key hkey
    rw [hlookup, if_neg, if_neg]
    · rintro rfl
      exact hkey hip
    · rintro rfl
      exact hkey rfl
  refine ⟨fun key leg hleg => ?_, fun other a ha => ?_, fun other a ha => ?_⟩
  · rw [hlookup] at hleg
    rw [hhas]
    split at hleg
    · next hkey =>
      cases hleg
      exact ⟨hkey.symm, .inr ⟨rfl, hkey⟩⟩
    · split at hleg
      · cases hleg
      · exact ⟨(h.entry key leg hleg).1, .inl (h.entry key leg hleg).2⟩
  · rw [hhas] at ha
    by_cases hsame : a.ip = source.ip
    · -- the session has the IP address by itself
      have hsession : other = matched.session :=
        ha.elim (fun ha => h.eq_of_alone ha (hsame ▸ halone)) And.left
      subst hsession
      have halone' : (RtpLegs.mk ((s.sessions.erase oldKey).insert source
          { matched with remoteAddr := source }) (s.registered.modify matched.session fun addresses =>
            { addresses with learned := source :: addresses.learned })).Alone matched.session a.ip := by
        refine alone_iff.mpr fun key leg hleg hkey => ?_
        rw [hlookup] at hleg
        split at hleg
        · cases hleg
          rfl
        · split at hleg
          · cases hleg
          · exact alone_iff.mp halone key leg hleg (hkey.trans hsame)
      match hleg : (AList.insert source { matched with remoteAddr := source }
          (AList.erase oldKey s.sessions)).lookup a with
      | none =>
        refine .inr ⟨fun leg hleg' => ?_, halone'⟩
        cases hleg.symm.trans hleg'
      | some leg =>
        cases honRTP : leg.onRTP with
        | true => exact .inl ⟨leg, hleg, alone_iff.mp halone' a leg hleg rfl, honRTP⟩
        | false =>
          refine .inr ⟨fun leg' hleg' => ?_, halone'⟩
          cases hleg.symm.trans hleg'
          exact honRTP
    · replace ha := ha.resolve_right fun hright => hsame (hright.2 ▸ rfl)
      obtain ⟨leg, hleg, hspec⟩ | ⟨hnone, halone'⟩ := h.found other a ha
      · exact .inl ⟨leg, by rw [Option.mem_def, hother a hsame]; exact hleg, hspec⟩
      · refine .inr ⟨fun leg hleg => ?_, alone_iff.mpr fun key leg hleg hkey => ?_⟩
        · rw [Option.mem_def, hother a hsame] at hleg
          exact hnone leg hleg
        · rw [hother key (hkey ▸ hsame)] at hleg
          exact alone_iff.mp halone' key leg hleg hkey
  · rw [hhas] at ha
    by_cases hsame : a.ip = source.ip
    · have hsession : other = matched.session :=
        ha.elim (fun ha => h.eq_of_alone ha (hsame ▸ halone)) And.left
      exact ⟨source, { matched with remoteAddr := source }, by rw [hlookup, if_pos rfl], hsession.symm,
        hsame.symm⟩
    · obtain ⟨key, leg, hleg, hsession, hkey⟩ :=
        h.reached other a (ha.resolve_right fun hright => hsame (hright.2 ▸ rfl))
      exact ⟨key, leg, by rw [hother key (hkey ▸ hsame), hleg], hsession, hkey⟩

/-- A session that is found under one address only is gone with it. -/
theorem Sound.unregister (h : s.Sound) {session : Nat} {remote : UdpAddr}
    (hremote : remote ∈ (s.addresses session).negotiated)
    (hkeeps : s.Keeps (.unregister session remote)) :
    (RtpLegs.mk (s.sessions.erase remote) (s.registered.erase session)).Sound := by
  have hhas : s.Has session remote := List.mem_append_left _ hremote
  have hgone : ∀ key leg, s.sessions.lookup key = some leg → key ≠ remote → leg.session ≠ session :=
    fun key leg hleg hkey hsession => hkey (hkeeps ⟨key, leg⟩ (AList.mem_lookup_iff.mp hleg) hsession)
  have hfree : ∀ other, other ≠ session → ¬ s.Has other remote :=
    fun other hne hother => hne (h.unique hhas hother)
  refine ⟨fun key leg hleg => ?_, fun other a ha => ?_, fun other a ha => ?_⟩
  · rw [Map.lookup_erase] at hleg
    split at hleg
    · cases hleg
    · next hkey =>
      rw [has_unregister]
      exact ⟨(h.entry key leg hleg).1, hgone key leg hleg hkey, (h.entry key leg hleg).2⟩
  · rw [has_unregister] at ha
    have har : a ≠ remote := by
      rintro rfl
      exact hfree other ha.1 ha.2
    obtain ⟨leg, hleg, hspec⟩ | ⟨hnone, halone⟩ := h.found other a ha.2
    · exact .inl ⟨leg, by rw [Option.mem_def, Map.lookup_erase, if_neg har]; exact hleg, hspec⟩
    · refine .inr ⟨fun leg hleg => ?_, alone_iff.mpr fun key leg hleg hkey => ?_⟩
      · rw [Option.mem_def, Map.lookup_erase, if_neg har] at hleg
        exact hnone leg hleg
      · rw [Map.lookup_erase] at hleg
        split at hleg
        · cases hleg
        · exact alone_iff.mp halone key leg hleg hkey
  · rw [has_unregister] at ha
    obtain ⟨key, leg, hleg, rfl, hip⟩ := h.reached other a ha.2
    refine ⟨key, leg, ?_, rfl, hip⟩
    rw [Map.lookup_erase, if_neg, hleg]
    rintro rfl
    exact hfree leg.session ha.1 (h.entry key leg hleg).2

/-- **Every step.** -/
theorem Sound.step (h : s.Sound) {e : RtpLegsEvent} (hkeeps : s.Keeps e) {t : RtpLegs}
    (hstep : s.step e = some t) : t.Sound := by
  match e with
  | .register session remote onRTP =>
    cases hstep
    exact h.register hkeeps
  | .unregister session remote =>
    simp only [RtpLegs.step] at hstep
    split at hstep
    · next hremote =>
      cases hstep
      exact h.unregister hremote hkeeps
    · cases hstep
  | .packet source place =>
    cases hstep
    obtain ⟨leg, -, -, heq⟩ | ⟨hnone, hrest⟩ := dispatch_cases s source place
    · rw [heq]
      exact h
    obtain ⟨-, heq⟩ | ⟨oldKey, matched, hmem, -, ⟨-, heq⟩ | ⟨-, heq⟩⟩ := hrest
    · rw [heq]
      exact h
    · rw [heq]
      exact h
    · rw [heq]
      obtain ⟨hold, hip⟩ := mem_sameIP.mp hmem
      rw [(h.entry oldKey matched hold).1] at hip
      refine h.learn hold hip ?_
      obtain ⟨leg, hleg, honRTP⟩ | hall := hkeeps
      · rw [hnone leg hleg] at honRTP
        cases honRTP
      · exact hall ⟨oldKey, matched⟩ (AList.mem_lookup_iff.mp hold) hip

/-- Only a session with an entry gets a packet. -/
theorem Sound.delivered (h : s.Sound) {source : UdpAddr} {place session : Nat}
    (hdelivered : (s.dispatch source place).2 = some session) :
    ∃ key leg, s.sessions.lookup key = some leg ∧ leg.session = session ∧ key.ip = source.ip := by
  obtain ⟨leg, hleg, -, heq⟩ | ⟨-, hrest⟩ := dispatch_cases s source place
  · rw [heq] at hdelivered
    cases hdelivered
    exact ⟨source, leg, hleg, rfl, rfl⟩
  obtain ⟨-, heq⟩ | ⟨oldKey, matched, hmem, heq, -⟩ := hrest
  · rw [heq] at hdelivered
    cases hdelivered
  · obtain ⟨hold, hip⟩ := mem_sameIP.mp hmem
    rw [heq] at hdelivered
    split at hdelivered
    · cases hdelivered
      exact ⟨oldKey, matched, hold, rfl, (h.entry oldKey matched hold).1 ▸ hip⟩
    · cases hdelivered

theorem Sound.apart (h : s.Sound) : s.Isolated := by
  refine ⟨fun session a ha place => ?_, fun session hsession => ?_⟩
  · obtain ⟨leg, hleg, honRTP, heq⟩ | ⟨hnone, hrest⟩ := dispatch_cases s a place
    · -- the address is found as it is
      have hown : leg.session = session := h.unique ha (h.entry a leg hleg).2
      rw [heq]
      refine ⟨fun x hx => ?_, fun key leg' _ => Iff.rfl⟩
      cases hx
      exact hown
    · have halone : s.Alone session a.ip := by
        obtain ⟨leg, hleg, -, honRTP⟩ | ⟨-, halone⟩ := h.found session a ha
        · rw [hnone leg hleg] at honRTP
          cases honRTP
        · exact halone
      obtain ⟨-, heq⟩ | ⟨oldKey, matched, hmem, hdelivered, hmap⟩ := hrest
      · rw [heq]
        exact ⟨nofun, fun key leg' _ => Iff.rfl⟩
      · obtain ⟨hold, hip⟩ := mem_sameIP.mp hmem
        have hown : matched.session = session :=
          alone_iff.mp halone oldKey matched hold ((h.entry oldKey matched hold).1 ▸ hip)
        refine ⟨fun x hx => ?_, fun key leg' hother => ?_⟩
        · rw [hdelivered] at hx
          split at hx
          · cases hx
            exact hown
          · cases hx
        · obtain ⟨-, heq⟩ | ⟨-, heq⟩ := hmap
          · rw [heq]
          · rw [heq]
            dsimp only
            rw [Map.lookup_insert, Map.lookup_erase]
            split
            · next hkey =>
              -- neither the new entry nor one under this address is another session's
              refine iff_of_false (fun heq => ?_) fun hleg => ?_
              · cases heq
                exact hother hown
              · exact hother (alone_iff.mp halone key leg' hleg (hkey ▸ rfl))
            · split
              · next hkey =>
                refine iff_of_false nofun fun hleg => ?_
                subst hkey
                cases hold.symm.trans hleg
                exact hother hown
              · exact Iff.rfl
  · have hgone : ∀ key leg, s.sessions.lookup key = some leg → leg.session ≠ session := by
      rintro key leg hleg rfl
      obtain ⟨addresses, hr, -⟩ := (h.entry key leg hleg).2.registered
      cases hsession.symm.trans hr
    refine ⟨hgone, fun source place hdelivered => ?_⟩
    obtain ⟨key, leg, hleg, heq, -⟩ := h.delivered hdelivered
    exact hgone key leg hleg heq

/-- **Sessions are isolated** in every run that keeps the condition. -/
theorem isolated {events : List RtpLegsEvent} (hkeeps : Guarded step Keeps init events) {s : RtpLegs}
    (hrun : exec step init events = some s) : s.Isolated := by
  have hinit : init.Sound := ⟨nofun, nofun, nofun⟩
  exact (hkeeps.invariant (fun s e t hs hk ht => hs.step hk ht) hinit hrun).apart

instance (s : RtpLegs) : (e : RtpLegsEvent) → Decidable (s.Keeps e)
  | .register session remote onRTP => inferInstanceAs (Decidable
      ((∀ e ∈ s.registered.entries, remote ∈ e.2.all → e.1 = session) ∧
        (s.Alone session remote.ip ∨ onRTP = true ∧ ∀ e ∈ s.registered.entries, ∀ a ∈ e.2.all,
          a.ip = remote.ip → a = remote ∨ s.Exact e.1 a)))
  | .packet source _ =>
    have : Decidable (∃ leg ∈ s.sessions.lookup source, leg.onRTP = true) :=
      decidable_of_iff ((s.sessions.lookup source).any (·.onRTP) = true) (by
        cases s.sessions.lookup source <;> simp)
    inferInstanceAs (Decidable ((∃ leg ∈ s.sessions.lookup source, leg.onRTP = true) ∨
      ∀ e ∈ s.sessions.entries, e.1.ip = source.ip → s.Alone e.2.session source.ip))
  | .unregister session remote =>
    inferInstanceAs (Decidable (∀ e ∈ s.sessions.entries, e.2.session = session → e.1 = remote))

/-- Two calls behind one IP address, with a packet for each, of which one ends. -/
def twoCalls : List RtpLegsEvent :=
  [.register 1 ⟨"192.0.2.1", 4000⟩ true, .register 2 ⟨"192.0.2.1", 5000⟩ true,
    .packet ⟨"192.0.2.1", 5000⟩ 0, .packet ⟨"192.0.2.1", 4000⟩ 0, .unregister 1 ⟨"192.0.2.1", 4000⟩]

theorem isolated_twoCalls : ∃ s, exec step init twoCalls = some s ∧ s.Isolated :=
  ⟨_, rfl, isolated (show Guarded step Keeps init twoCalls by decide +kernel) rfl⟩

/-- **The ringback of a call, and a port that is learned.** The packet for the first session, which has
no callback yet, goes to the second one, and takes its address; a session that has learned its port gets
packets after `UnregisterSession`. -/
theorem not_isolated :
    (∃ s, exec step init [.register 1 ⟨"192.0.2.1", 4000⟩ false,
        .register 2 ⟨"192.0.2.1", 5000⟩ true] = some s ∧
      (s.dispatch ⟨"192.0.2.1", 4000⟩ 0).2 = some 2 ∧ ¬ s.Isolated) ∧
    ∃ s, exec step init [.register 1 ⟨"192.0.2.1", 4000⟩ true, .packet ⟨"192.0.2.1", 4002⟩ 0,
        .unregister 1 ⟨"192.0.2.1", 4000⟩] = some s ∧
      (s.dispatch ⟨"192.0.2.1", 4002⟩ 0).2 = some 1 ∧ ¬ s.Isolated := by
  refine ⟨⟨_, rfl, by decide +kernel, fun h => ?_⟩, ⟨_, rfl, by decide +kernel, fun h => ?_⟩⟩
  · have hown := (h.packet 1 ⟨"192.0.2.1", 4000⟩ (by decide +kernel) 0).1 2 (by decide +kernel)
    exact absurd hown (by decide)
  · exact (h.gone 1 (by decide +kernel)).2 ⟨"192.0.2.1", 4002⟩ 0 (by decide +kernel)

end RtpLegs

end Svarla.MediaBridge
