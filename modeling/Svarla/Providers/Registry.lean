import Svarla.Lib.Map
import Svarla.Providers.ConfigEncryption

/-!
# The provider registry and its database

The registry keeps the providers in memory and in the database, with their configs encrypted there.
After a restart, `loadAll` fills the registry from the database: only from the rows that are enabled,
and up to the first of them whose config is not decrypted. The registry lists the same providers as
before (`SameAfterRestart`) exactly where all of them are enabled and have storable secrets
(`restart_iff`), and loads every provider that it can (`OthersLoad`) exactly where all rows are
decrypted or none is.

Whether a config is valid, whether the database takes a change, and whether an instance starts are what
the calls meet. The instances themselves, their health and the numbers of a provider are left out.
-/

namespace Svarla.Providers

open Svarla.Lib

variable {Key α : Type}

inductive ProviderStatus
  | active
  | unavailable
  | disabled
  deriving DecidableEq, Repr

/-- `ProviderRegistryEntry`. -/
structure ProviderEntry (α : Type) where
  id : String
  type : String
  displayName : String
  config : Config α
  enabled : Bool
  status : ProviderStatus

/-- A row of `providers`, without its id. -/
structure ProviderRow (α : Type) where
  type : String
  displayName : String
  config : Config α
  enabled : Bool

/-- The memory and the database. -/
structure ProviderRegistry (α : Type) where
  providers : Map String (ProviderEntry α)
  rows : Map String (ProviderRow α)

/-- What `updateProvider` is to change. -/
structure ProviderUpdates (α : Type) where
  displayName : Option String
  config : Option (Config α)
  enabled : Option Bool

/-- The random vectors, one for a field. -/
abbrev Ivs := String → { iv : List UInt8 // iv.length = 12 }

/-- A call, with the random values it makes; does the database take its change, and does the instance
start? -/
inductive RegistryCall (α : Type)
  | addProvider (type displayName : String) (config : Config α) (id : String) (ivs : Ivs)
      (stored starts : Bool)
  | updateProvider (id : String) (updates : ProviderUpdates α) (ivs : Ivs) (stored starts : Bool)
  | removeProvider (id : String) (stored : Bool)

namespace ProviderRegistry

def init : ProviderRegistry α := ⟨∅, ∅⟩

def statusOf (starts : Bool) : ProviderStatus := if starts then .active else .unavailable

/-- The new values over the old ones. -/
def mergeConfig (old new : Config α) : Config α := fun field => (new field).or (old field)

/-- An entry after an update. -/
def updateEntry (updates : ProviderUpdates α) (merged : Option (Config α)) (starts : Bool)
    (e : ProviderEntry α) : ProviderEntry α :=
  { e with
    displayName := updates.displayName.getD e.displayName
    config := merged.getD e.config
    enabled := updates.enabled.getD e.enabled
    status :=
      if merged.isSome ∨ updates.enabled.isSome then
        if updates.enabled.getD e.enabled then statusOf starts else .disabled
      else e.status }

variable (C : Crypto Key) (valid : String → Config α → Bool) (encryptionKey : Option JsString)

/-- A row after an update of its provider. -/
def updateRow (type : String) (updates : ProviderUpdates α) (merged : Option (Config α)) (ivs : Ivs)
    (row : ProviderRow α) : ProviderRow α :=
  { row with
    displayName := updates.displayName.getD row.displayName
    config := (merged.map fun c => encryptConfig C (fun f => (ivs f).1) type c encryptionKey).getD
      row.config
    enabled := updates.enabled.getD row.enabled }

/-- One call; where it throws, nothing has changed. -/
def call (s : ProviderRegistry α) : RegistryCall α → ProviderRegistry α
  | .addProvider type displayName config id ivs stored starts =>
    if valid type config = false ∨ stored = false ∨ (s.rows.lookup id).isSome then s
    else
      { rows := s.rows.insert id
          ⟨type, displayName, encryptConfig C (fun f => (ivs f).1) type config encryptionKey, true⟩
        providers := s.providers.insert id ⟨id, type, displayName, config, true, statusOf starts⟩ }
  | .updateProvider id updates ivs stored starts =>
    match s.providers.lookup id with
    | none => s
    | some entry =>
      let merged := updates.config.map (mergeConfig entry.config)
      if merged.any (fun c => valid entry.type c = false) ∨ stored = false then s
      else
        { rows := s.rows.modify id (updateRow C encryptionKey entry.type updates merged ivs)
          providers := s.providers.modify id (updateEntry updates merged starts) }
  | .removeProvider id stored =>
    if (s.providers.lookup id).isNone ∨ stored = false then s
    else { rows := s.rows.erase id, providers := s.providers.erase id }

/-- The entry of a row that is loaded. -/
def loadedEntry (starts : String → Bool) (id : String) (row : ProviderRow α) (config : Config α) :
    ProviderEntry α :=
  ⟨id, row.type, row.displayName, config, row.enabled, statusOf (starts id)⟩

/-- The loop of `loadAll`; a config that is not decrypted ends it. -/
def loadRows (starts : String → Bool) :
    List (String × ProviderRow α) → Map String (ProviderEntry α) → Map String (ProviderEntry α)
  | [], providers => providers
  | (id, row) :: rest, providers =>
    match decryptConfig C row.type row.config encryptionKey with
    | .error _ => providers
    | .ok config => loadRows starts rest (providers.insert id (loadedEntry starts id row config))

/-- The rows that `loadAll` selects. -/
def enabledRows (rows : Map String (ProviderRow α)) : List (String × ProviderRow α) :=
  (rows.entries.map fun e => (e.1, e.2)).filter (·.2.enabled)

/-- `loadAll` of a fresh registry, with the rows in the order that the database returns. -/
def loadAll (starts : String → Bool) (order : List (String × ProviderRow α)) :
    Map String (ProviderEntry α) := loadRows C encryptionKey starts order ∅

/-- What a list of the providers tells about one. -/
def listed (e : ProviderEntry α) : String × String × String × Config α × Bool :=
  (e.id, e.type, e.displayName, e.config, e.enabled)

/-- A fresh registry lists what this one lists. -/
def SameAfterRestart (s : ProviderRegistry α) : Prop :=
  ∀ order starts, order.Perm (enabledRows s.rows) → ∀ id,
    ((loadAll C encryptionKey starts order).lookup id).map listed = (s.providers.lookup id).map listed

/-- The config of a row is decrypted. -/
def Decrypts (row : ProviderRow α) : Prop :=
  ∃ config, decryptConfig C row.type row.config encryptionKey = .ok config

/-- Every provider whose config is decrypted is loaded, whatever the others are. -/
def OthersLoad (rows : Map String (ProviderRow α)) : Prop :=
  ∀ order starts, order.Perm (enabledRows rows) → ∀ id row, (id, row) ∈ enabledRows rows →
    Decrypts C encryptionKey row → ((loadAll C encryptionKey starts order).lookup id).isSome

/-- All providers are enabled, with secrets that come back. -/
def AllLoad (s : ProviderRegistry α) : Prop :=
  ∀ id e, s.providers.lookup id = some e → e.enabled = true ∧ StorableConfig e.type e.config encryptionKey

/-! ## The database has what the memory has -/

/-- The row of an entry. -/
structure RowOf (id : String) (e : ProviderEntry α) (row : ProviderRow α) : Prop where
  id : e.id = id
  type : row.type = e.type
  displayName : row.displayName = e.displayName
  enabled : row.enabled = e.enabled
  config : ∃ ivs : Ivs, row.config = encryptConfig C (fun f => (ivs f).1) e.type e.config encryptionKey

/-- Every provider has its row, and every row its provider. -/
structure Stored (s : ProviderRegistry α) : Prop where
  row : ∀ id e, s.providers.lookup id = some e →
    ∃ row, s.rows.lookup id = some row ∧ RowOf C encryptionKey id e row
  entry : ∀ id row, s.rows.lookup id = some row → ∃ e, s.providers.lookup id = some e

variable {C valid encryptionKey} {s : ProviderRegistry α}

theorem Stored.insert (h : s.Stored C encryptionKey) {id : String} {e : ProviderEntry α}
    {row : ProviderRow α} (hrow : RowOf C encryptionKey id e row) :
    (ProviderRegistry.mk (s.providers.insert id e) (s.rows.insert id row)).Stored C encryptionKey := by
  refine ⟨fun id' e' he' => ?_, fun id' row' hrow' => ?_⟩
  · rw [Map.lookup_insert] at he' ⊢
    split at he'
    · next hid =>
      cases he'
      rw [if_pos hid]
      exact ⟨row, rfl, hid ▸ hrow⟩
    · next hid =>
      rw [if_neg hid]
      exact h.row id' e' he'
  · rw [Map.lookup_insert] at hrow' ⊢
    split at hrow'
    · next hid => exact ⟨e, if_pos hid⟩
    · next hid =>
      rw [if_neg hid]
      exact h.entry id' row' hrow'

theorem Stored.erase (h : s.Stored C encryptionKey) (id : String) :
    (ProviderRegistry.mk (s.providers.erase id) (s.rows.erase id)).Stored C encryptionKey := by
  refine ⟨fun id' e' he' => ?_, fun id' row' hrow' => ?_⟩
  · rw [Map.lookup_erase] at he' ⊢
    split at he'
    · cases he'
    · next hid =>
      rw [if_neg hid]
      exact h.row id' e' he'
  · rw [Map.lookup_erase] at hrow' ⊢
    split at hrow'
    · cases hrow'
    · next hid =>
      rw [if_neg hid]
      exact h.entry id' row' hrow'

/-- An update changes an entry and its row in the same way. -/
theorem RowOf.update {id : String} {e : ProviderEntry α} {row : ProviderRow α}
    (h : RowOf C encryptionKey id e row) (updates : ProviderUpdates α) (merged : Option (Config α))
    (ivs : Ivs) (starts : Bool) :
    RowOf C encryptionKey id (updateEntry updates merged starts e)
      (updateRow C encryptionKey e.type updates merged ivs row) := by
  refine ⟨h.id, h.type, ?_, ?_, ?_⟩
  · simp only [updateRow, updateEntry, h.displayName]
  · simp only [updateRow, updateEntry, h.enabled]
  · match merged with
    | none => exact h.config
    | some config => exact ⟨ivs, rfl⟩

theorem Stored.update (h : s.Stored C encryptionKey) {id : String} {e : ProviderEntry α}
    (he : s.providers.lookup id = some e) (updates : ProviderUpdates α) (merged : Option (Config α))
    (ivs : Ivs) (starts : Bool) :
    (ProviderRegistry.mk (s.providers.modify id (updateEntry updates merged starts))
      (s.rows.modify id (updateRow C encryptionKey e.type updates merged ivs))).Stored C
        encryptionKey := by
  refine ⟨fun id' e' he' => ?_, fun id' row' hrow' => ?_⟩
  · rw [Map.lookup_modify] at he' ⊢
    split at he'
    · next hid =>
      subst hid
      rw [he] at he'
      cases he'
      obtain ⟨row, hrow, hrowOf⟩ := h.row id' e he
      rw [if_pos rfl, hrow]
      exact ⟨_, rfl, hrowOf.update updates merged ivs starts⟩
    · next hid =>
      rw [if_neg hid]
      exact h.row id' e' he'
  · rw [Map.lookup_modify] at hrow' ⊢
    split at hrow'
    · next hid =>
      rw [if_pos hid, hid, he]
      exact ⟨_, rfl⟩
    · next hid =>
      rw [if_neg hid]
      exact h.entry id' row' hrow'

/-- **Every call.** -/
theorem Stored.call (h : s.Stored C encryptionKey) (c : RegistryCall α) :
    (s.call C valid encryptionKey c).Stored C encryptionKey := by
  match c with
  | .addProvider type displayName config id ivs stored starts =>
    simp only [ProviderRegistry.call]
    split
    · exact h
    · exact h.insert ⟨rfl, rfl, rfl, rfl, ivs, rfl⟩
  | .updateProvider id updates ivs stored starts =>
    simp only [ProviderRegistry.call]
    split
    · exact h
    · next e he =>
      split
      · exact h
      · exact h.update he ..
  | .removeProvider id stored =>
    simp only [ProviderRegistry.call]
    split
    · exact h
    · exact h.erase id

theorem stored_foldl (calls : List (RegistryCall α)) (h : s.Stored C encryptionKey) :
    (calls.foldl (ProviderRegistry.call C valid encryptionKey) s).Stored C encryptionKey := by
  induction calls generalizing s with
  | nil => exact h
  | cons c calls ih => exact ih (h.call c)

/-! ## The rows that are loaded -/

variable {starts : String → Bool}

theorem mem_enabledRows {rows : Map String (ProviderRow α)} {id : String} {row : ProviderRow α} :
    (id, row) ∈ enabledRows rows ↔ rows.lookup id = some row ∧ row.enabled = true := by
  simp only [enabledRows, List.mem_filter, List.mem_map]
  rw [← Option.mem_def, AList.mem_lookup_iff]
  constructor
  · rintro ⟨⟨e, he, heq⟩, hen⟩
    cases heq
    exact ⟨he, hen⟩
  · rintro ⟨he, hen⟩
    exact ⟨⟨_, he, rfl⟩, hen⟩

theorem nodup_enabledRows (rows : Map String (ProviderRow α)) :
    ((enabledRows rows).map Prod.fst).Nodup := by
  refine List.Nodup.sublist (List.Sublist.map _ List.filter_sublist) ?_
  rw [List.map_map]
  exact rows.nodupKeys

/-- A row that is not there changes no entry. -/
theorem lookup_loadRows_of_notMem {order : List (String × ProviderRow α)} {id : String}
    (hid : id ∉ order.map Prod.fst) (providers : Map String (ProviderEntry α)) :
    (loadRows C encryptionKey starts order providers).lookup id = providers.lookup id := by
  induction order generalizing providers with
  | nil => rfl
  | cons r order ih =>
    obtain ⟨hne, hrest⟩ := not_or.mp (List.mem_cons.not.mp hid)
    simp only [loadRows]
    split
    · rfl
    · rw [ih hrest, Map.lookup_insert, if_neg hne]

variable (starts) in
/-- Where every row is decrypted, every row is loaded. -/
theorem lookup_loadRows {order : List (String × ProviderRow α)}
    (hall : ∀ r ∈ order, Decrypts C encryptionKey r.2) (hnodup : (order.map Prod.fst).Nodup)
    {id : String} {row : ProviderRow α} (hrow : (id, row) ∈ order)
    (providers : Map String (ProviderEntry α)) :
    ∃ config, decryptConfig C row.type row.config encryptionKey = .ok config ∧
      (loadRows C encryptionKey starts order providers).lookup id =
        some (loadedEntry starts id row config) := by
  induction order generalizing providers with
  | nil => cases hrow
  | cons r order ih =>
    obtain ⟨hfresh, hnodup⟩ := List.nodup_cons.mp hnodup
    obtain ⟨config, hconfig⟩ := hall r (.head _)
    simp only [loadRows, hconfig]
    rcases List.mem_cons.mp hrow with rfl | hrow
    · refine ⟨config, hconfig, ?_⟩
      rw [lookup_loadRows_of_notMem hfresh, Map.lookup_insert, if_pos rfl]
    · exact ih (fun r hr => hall r (List.mem_cons_of_mem _ hr)) hnodup hrow _

/-- What is loaded is in a row that is decrypted. -/
theorem of_lookup_loadRows {order : List (String × ProviderRow α)} {id : String}
    {e : ProviderEntry α} {providers : Map String (ProviderEntry α)}
    (he : (loadRows C encryptionKey starts order providers).lookup id = some e) :
    providers.lookup id = some e ∨ ∃ row config, (id, row) ∈ order ∧
      decryptConfig C row.type row.config encryptionKey = .ok config ∧
        e = loadedEntry starts id row config := by
  induction order generalizing providers with
  | nil => exact .inl he
  | cons r order ih =>
    simp only [loadRows] at he
    split at he
    · exact .inl he
    · next config hconfig =>
      obtain hp | ⟨row, config', hrow, hdecrypts, rfl⟩ := ih he
      · rw [Map.lookup_insert] at hp
        split at hp
        · next hid =>
          cases hp
          exact .inr ⟨r.2, config, by rw [hid]; exact .head _, hconfig, by rw [hid]⟩
        · exact .inl hp
      · exact .inr ⟨row, config', List.mem_cons_of_mem _ hrow, hdecrypts, rfl⟩

/-! ## After a restart -/

/-- **The list after a restart.** -/
theorem Stored.sameAfterRestart_iff (h : s.Stored C encryptionKey) (hC : C.Lawful) :
    s.SameAfterRestart C encryptionKey ↔ s.AllLoad encryptionKey := by
  have hback := fun (ivs : Ivs) => decryptConfig_encryptConfig (α := α) hC (fun f => (ivs f).1)
    fun f => (ivs f).2
  constructor
  · intro hsame id e he
    obtain ⟨row, hrow, hrowOf⟩ := h.row id e he
    obtain ⟨ivs, hconfig⟩ := hrowOf.config
    have hlisted := hsame (enabledRows s.rows) (fun _ => true) (List.Perm.refl _) id
    rw [he] at hlisted
    obtain ⟨e', he', heq⟩ := Option.map_eq_some_iff.mp hlisted
    -- the entry that was loaded is that of the same row
    obtain hnone | ⟨row', config, hrow', hdecrypts, rfl⟩ := of_lookup_loadRows he'
    · cases hnone
    obtain ⟨hlookup, hen⟩ := mem_enabledRows.mp hrow'
    cases hrow.symm.trans hlookup
    have hsameConfig : config = e.config := congrArg (fun l => l.2.2.2.1) heq
    rw [hconfig, hrowOf.type, hsameConfig, hback] at hdecrypts
    exact ⟨hrowOf.enabled ▸ hen, hdecrypts⟩
  · intro hall order starts hperm id
    have hdecrypts : ∀ r ∈ order, Decrypts C encryptionKey r.2 := by
      intro r hr
      obtain ⟨hlookup, -⟩ := mem_enabledRows.mp (hperm.mem_iff.mp hr)
      obtain ⟨e, he⟩ := h.entry r.1 r.2 hlookup
      obtain ⟨row, hrow, hrowOf⟩ := h.row r.1 e he
      cases hlookup.symm.trans hrow
      obtain ⟨ivs, hconfig⟩ := hrowOf.config
      refine ⟨e.config, ?_⟩
      rw [hconfig, hrowOf.type, hback]
      exact (hall r.1 e he).2
    have hnodup : (order.map Prod.fst).Nodup :=
      (hperm.map Prod.fst).nodup_iff.mpr (nodup_enabledRows s.rows)
    match he : s.providers.lookup id with
    | none =>
      have hid : id ∉ order.map Prod.fst := by
        intro hmem
        obtain ⟨r, hr, rfl⟩ := List.mem_map.mp hmem
        obtain ⟨e, he'⟩ := h.entry r.1 r.2 (mem_enabledRows.mp (hperm.mem_iff.mp hr)).1
        cases he.symm.trans he'
      rw [loadAll, lookup_loadRows_of_notMem hid]
      rfl
    | some e =>
      obtain ⟨row, hrow, hrowOf⟩ := h.row id e he
      obtain ⟨hen, hstorable⟩ := hall id e he
      obtain ⟨ivs, hivs⟩ := hrowOf.config
      have hmem : (id, row) ∈ order :=
        hperm.mem_iff.mpr (mem_enabledRows.mpr ⟨hrow, hrowOf.enabled.trans hen⟩)
      obtain ⟨config, hconfig, hloaded⟩ := lookup_loadRows starts hdecrypts hnodup hmem ∅
      rw [hivs, hrowOf.type, (hback ivs ..).mpr hstorable] at hconfig
      cases hconfig
      rw [loadAll, hloaded]
      simp only [Option.map_some, listed, loadedEntry, hrowOf.id, hrowOf.type, hrowOf.displayName,
        hrowOf.enabled]

/-- A row that is not decrypted keeps the others from being loaded when it comes first. -/
theorem othersLoad_iff (C : Crypto Key) (encryptionKey : Option JsString)
    (rows : Map String (ProviderRow α)) : OthersLoad C encryptionKey rows ↔
      (∀ r ∈ enabledRows rows, Decrypts C encryptionKey r.2) ∨
        ∀ r ∈ enabledRows rows, ¬ Decrypts C encryptionKey r.2 := by
  constructor
  · intro hload
    refine Classical.or_iff_not_imp_left.mpr fun hbad r hr hdecrypts => ?_
    push Not at hbad
    obtain ⟨bad, hmem, hbad⟩ := hbad
    obtain ⟨front, back, hsplit⟩ := List.append_of_mem hmem
    have hperm : (bad :: (front ++ back)).Perm (enabledRows rows) := hsplit ▸ List.perm_middle.symm
    have hloaded := hload _ (fun _ => true) hperm r.1 r.2 hr hdecrypts
    obtain ⟨id, row⟩ := bad
    rw [loadAll, loadRows] at hloaded
    split at hloaded
    · cases hloaded
    · next config hconfig => exact hbad ⟨config, hconfig⟩
  · rintro (hall | hnone) order starts hperm id row hrow hdecrypts
    · obtain ⟨config, -, hloaded⟩ := lookup_loadRows starts
        (fun r hr => hall r (hperm.mem_iff.mp hr))
        ((hperm.map Prod.fst).nodup_iff.mpr (nodup_enabledRows rows)) (hperm.mem_iff.mpr hrow) ∅
      rw [loadAll, hloaded]
      rfl
    · exact absurd hdecrypts (hnone _ hrow)

/-- **After a restart**, the same providers are listed where all are enabled and have storable secrets,
and the others load where there is no row that is not decrypted among such that are. -/
theorem restart_iff (hC : C.Lawful) (valid : String → Config α → Bool) (encryptionKey : Option JsString)
    (calls : List (RegistryCall α)) (rows : Map String (ProviderRow α)) :
    let s := calls.foldl (ProviderRegistry.call C valid encryptionKey) init
    (s.SameAfterRestart C encryptionKey ↔ s.AllLoad encryptionKey) ∧
      (OthersLoad C encryptionKey rows ↔
        (∀ r ∈ enabledRows rows, Decrypts C encryptionKey r.2) ∨
          ∀ r ∈ enabledRows rows, ¬ Decrypts C encryptionKey r.2) :=
  ⟨(stored_foldl calls (s := init) ⟨nofun, nofun⟩).sameAfterRestart_iff hC,
    othersLoad_iff C encryptionKey rows⟩

/-! ## A provider that is disabled, and one with a secret like ciphertext -/

/-- A provider of 46elks is added, with a password. -/
def addElks (password : String) : RegistryCall Nat :=
  .addProvider "46elks" "elks" (elksConfig password) "a" (fun _ => ⟨List.replicate 12 7, rfl⟩) true true

/-- The registry after some calls. -/
def after (calls : List (RegistryCall Nat)) : ProviderRegistry Nat :=
  calls.foldl (ProviderRegistry.call plainCrypto (fun _ _ => true) (some (units "key"))) init

theorem restart_elks : (after [addElks "hemligt"]).SameAfterRestart plainCrypto (some (units "key")) := by
  refine (restart_iff lawful_plainCrypto (fun _ _ => true) (some (units "key")) [addElks "hemligt"]
    ∅).1.mpr fun id e he => ?_
  have hproviders : (after [addElks "hemligt"]).providers = AList.insert "a"
      ⟨"a", "46elks", "elks", elksConfig "hemligt", true, .active⟩ ∅ := rfl
  rw [after] at hproviders
  rw [hproviders, Map.lookup_insert] at he
  split at he
  · cases he
    refine ⟨rfl, .inr (.inr ?_)⟩
    simp only [getSensitiveFields, List.forall_mem_singleton]
    intro value hvalue
    cases hvalue
    decide +kernel
  · cases he

/-- **A provider that is disabled is gone after a restart**, and one whose secret begins like ciphertext
keeps the next one from being loaded. -/
theorem lost_after_restart :
    (¬ (after [addElks "hemligt", .updateProvider "a" ⟨none, none, some false⟩
        (fun _ => ⟨List.replicate 12 9, rfl⟩) true true]).SameAfterRestart plainCrypto
          (some (units "key"))) ∧
      ¬ OthersLoad plainCrypto (some (units "key")) (after [addElks "enc:v1:x",
        .addProvider "dummy" "test" (fun _ => none) "b" (fun _ => ⟨List.replicate 12 8, rfl⟩) true
          true]).rows := by
  refine ⟨fun h => ?_, fun h => ?_⟩
  · have hlost := congrArg Option.isSome (h _ (fun _ => true) (List.Perm.refl _) "a")
    revert hlost
    decide +kernel
  · obtain ⟨row, hrow⟩ := Option.isSome_iff_exists.mp (show ((after [addElks "enc:v1:x",
      .addProvider "dummy" "test" (fun _ => none) "b" (fun _ => ⟨List.replicate 12 8, rfl⟩) true
        true]).rows.lookup "b").isSome = true by decide +kernel)
    have hfields : ((after [addElks "enc:v1:x", .addProvider "dummy" "test" (fun _ => none) "b"
        (fun _ => ⟨List.replicate 12 8, rfl⟩) true true]).rows.lookup "b").map
          (fun row => (row.type, row.enabled)) = some ("dummy", true) := by decide +kernel
    rw [hrow] at hfields
    obtain ⟨htype, henabled⟩ := Prod.mk.inj (Option.some.inj hfields)
    have hdecrypts : Decrypts plainCrypto (some (units "key")) row := by
      refine ⟨row.config, ?_⟩
      rw [htype]
      rfl
    -- the row with the secret comes first
    have hlost := h _ (fun _ => true) (List.reverse_perm _) "b" row
      (mem_enabledRows.mpr ⟨hrow, henabled⟩) hdecrypts
    revert hlost
    decide +kernel

end ProviderRegistry

end Svarla.Providers
