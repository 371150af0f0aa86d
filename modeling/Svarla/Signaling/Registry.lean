import Svarla.Delivery.Server
import Svarla.Lib.Run
import Svarla.Lib.Threads
import Svarla.Signaling.SocketBinding

/-!
# Who writes a gateway's configuration

The configuration of a modem gateway in the database has two kinds of writers. The flows of the
signaling handlers read the row as a whole and write it as a whole
(`src/providers/modem-gateway-persistence.ts`). `ProviderRegistry.updateProvider` writes what it merges
from the request and the copy it keeps in memory, which it took when the server started or at its own
last write. The copy does not learn of a pairing, so an edit after a pairing takes the pairing back
(`edit_unpairs`); `pairing_kept` says what the writes have to meet for a pairing to stand.

A modem gateway has no encrypted fields and its validation refuses nothing, so both are left out, and
so is the display name, which is not part of the configuration.
-/

namespace Svarla.Signaling

open Svarla.Lib Svarla.Delivery

/-! ## The registry -/

/-- The configuration of an update, in the fields that pairing uses: one that is left out is `none`,
one that is null is `some none`. -/
structure ConfigUpdate where
  publicKey : Option (Option String)
  pairingSecret : Option (Option String)
  pairingSecretCreatedAt : Option (Option Int)
  deriving DecidableEq, Repr

/-- `{ ...config, ...updates }`. -/
def ConfigUpdate.spread (config : PairingConfig) (updates : ConfigUpdate) : PairingConfig where
  publicKey := updates.publicKey.getD config.publicKey
  pairingSecret := updates.pairingSecret.getD config.pairingSecret
  pairingSecretCreatedAt := updates.pairingSecretCreatedAt.getD config.pairingSecretCreatedAt

/-- The fields of `updates` in `updateProvider`. -/
structure ProviderUpdate where
  config : Option ConfigUpdate
  enabled : Option Bool
  deriving DecidableEq, Repr

/-- What is at work on the row, at its database call. -/
inductive Work
  /-- A flow of a handler. -/
  | handler (stage : AuthStage)
  /-- The reset route, in `resetPairing` of the handler. -/
  | reset (secret : String) (stage : AuthStage)
  /-- `updateProvider`, with `mergedConfig`. -/
  | update (mergedConfig : Option PairingConfig) (enabled : Option Bool)
  deriving DecidableEq, Repr

/-- The configuration that is written. -/
def Work.writes : Work → Option PairingConfig
  | .handler stage | .reset _ stage => stage.writes
  | .update mergedConfig _ => mergedConfig

/-- Work with the answer of the database, once it has come; none inside if the call threw. -/
structure WorkTask where
  work : Work
  answer : Option (Option PairingConfig)
  deriving DecidableEq, Repr

/-- A pairing: the key it stored, and the secret it was stored for. -/
structure Pairing where
  publicKey : String
  secret : String
  deriving DecidableEq, Repr

structure Registry where
  /-- The provider's row. -/
  config : PairingConfig
  enabled : Bool
  /-- `entry.config`, where there is an entry. -/
  entry : Option PairingConfig
  tasks : List WorkTask
  /-- The pairings that have stored their key since the last request to pair again. -/
  keyed : List Pairing
  /-- Those of them that have cleared the secret too. -/
  paired : List Pairing
  deriving DecidableEq, Repr

namespace Registry

/-- Work begins. -/
def start (s : Registry) (work : Work) : Registry :=
  { s with tasks := s.tasks ++ [⟨work, none⟩] }

/-- `loadAll`, when the server starts; what was at work is gone. -/
def loadAll (s : Registry) : Registry :=
  { s with entry := if s.enabled then some s.config else none, tasks := [] }

/-- `updateProvider`, up to its `await`; without an entry it throws. -/
def updateProvider (s : Registry) (updates : ProviderUpdate) : Option Work :=
  s.entry.map fun config => .update (updates.config.map (·.spread config)) updates.enabled

/-- What the reset route gives to `updateProvider`. -/
def resetUpdate (secret : String) (now : Int) : ProviderUpdate where
  config := some ⟨some none, some (some secret), some (some now)⟩
  enabled := none

/-- The reset route: `resetPairing` if a handler is attached, and `updateProvider`. -/
def reset (s : Registry) (secret : String) (attached : Bool) (now : Int) : Registry :=
  match s.entry with
  | none => s
  | some _ =>
    let s := { s with keyed := [], paired := [] }
    if attached then s.start (.reset secret (.loadForDelete secret))
    else (s.updateProvider (resetUpdate secret now)).elim s s.start

/-- The database has executed a write of `work`. -/
def noted (s : Registry) : Work → Registry
  | .handler (.saveKey req stored _) => { s with keyed := s.keyed ++ [⟨req.publicKey, stored⟩] }
  | .handler (.saveCleared req stored _) =>
    if ⟨req.publicKey, stored⟩ ∈ s.keyed then
      { s with paired := s.paired ++ [⟨req.publicKey, stored⟩] }
    else s
  | .update _ enabled => { s with enabled := enabled.getD s.enabled }
  | _ => s

/-- The database executes the call of the `i`-th task. -/
def storage (s : Registry) (i : Nat) (t : WorkTask) (call : DbCall) : Registry :=
  let s' := if call = .fails then s
    else { s.noted t.work with config := t.work.writes.getD s.config }
  { s' with
    tasks := s.tasks.set i ⟨t.work, some (if call = .done then some s.config else none)⟩ }

/-- What a task does after its `await`, and the `await` it comes to next. -/
def proceed (P : Platform) (s : Registry) (now : Int) (config : PairingConfig) :
    Work → Registry × Option Work
  | .handler stage =>
    match stage.resume P now config with
    | .goOn stage => (s, some (.handler stage))
    | _ => (s, none)
  | .reset secret stage =>
    match stage.resume P now config with
    | .goOn stage => (s, some (.reset secret stage))
    | _ => (s, s.updateProvider (resetUpdate secret now))
  | .update mergedConfig _ => ({ s with entry := mergedConfig.or s.entry }, none)

/-- The task goes on; if its call threw, it ends. -/
def resume (P : Platform) (s : Registry) (i : Nat) (answer : Option PairingConfig) (now : Int)
    (work : Work) : Registry :=
  let next := answer.elim (s, none) (s.proceed P now · work)
  { next.1 with tasks := advance s.tasks i (next.2.map fun work => ⟨work, none⟩) }

end Registry

/-- What can happen next. -/
inductive RegistryEvent
  | restart
  /-- An `auth_pair` that a handler of the provider starts a flow for. -/
  | authPair (req : PairRequest)
  /-- A request to update the provider. -/
  | update (updates : ProviderUpdate)
  /-- A request to pair again. -/
  | reset (secret : String) (attached : Bool) (now : Int)
  /-- The database executes the call of the `i`-th task, and the task goes on. -/
  | storage (i : Nat) (call : DbCall)
  | resume (i : Nat) (now : Int)
  deriving DecidableEq

/-- One event. -/
def registryStep (P : Platform) (s : Registry) : RegistryEvent → Option Registry
  | .restart => some s.loadAll
  | .authPair req => some (s.start (.handler (.existingKey req)))
  | .update updates => (s.updateProvider updates).map s.start
  | .reset secret attached now => some (s.reset secret attached now)
  | .storage i call =>
    match s.tasks[i]? with
    | none => none
    | some t => if t.answer.isSome then none else some (s.storage i t call)
  | .resume i now =>
    match s.tasks[i]? with
    | none => none
    | some t => t.answer.map fun answer => s.resume P i answer now t.work

/-- The server has started over a provider's row. -/
def Registry.init (config : PairingConfig) (enabled : Bool) : Registry :=
  loadAll ⟨config, enabled, none, [], [], []⟩

/-! ## When a pairing stands -/

namespace Registry

/-- The configuration has the key of every pairing that stored one, and no secret that was
consumed. -/
structure Carries (s : Registry) (config : PairingConfig) : Prop where
  publicKey : ∀ p ∈ s.keyed, config.publicKey = some p.publicKey
  pairingSecret : ∀ p ∈ s.paired, config.pairingSecret ≠ some p.secret

/-- The condition on a write, by what the writer has read or merged: nothing was paired in the
meantime that it does not know of. -/
def Spares (s : Registry) : Work → Prop
  | .handler (.saveKey req _ config) =>
    (∀ p ∈ s.keyed, p.publicKey = req.publicKey) ∧
      ∀ p ∈ s.paired, config.pairingSecret ≠ some p.secret
  | .handler (.saveCleared _ _ config) => ∀ p ∈ s.keyed, config.publicKey = some p.publicKey
  | .reset _ (.saveDeleted _ _) => s.keyed = []
  | .reset _ (.saveSecret config) => s.Carries config
  | .update (some mergedConfig) _ => s.Carries mergedConfig
  | _ => True

instance (s : Registry) (config : PairingConfig) : Decidable (s.Carries config) :=
  decidable_of_iff ((∀ p ∈ s.keyed, config.publicKey = some p.publicKey) ∧
    ∀ p ∈ s.paired, config.pairingSecret ≠ some p.secret) ⟨fun h => ⟨h.1, h.2⟩, fun h => ⟨h.1, h.2⟩⟩

instance (s : Registry) (work : Work) : Decidable (s.Spares work) := by
  unfold Spares
  split <;> infer_instance

end Registry

open Registry

/-- The condition on an event. -/
def WriteSpares (s : Registry) : RegistryEvent → Prop
  | .storage i call =>
    call = .fails ∨ ∀ t ∈ s.tasks[i]?, t.answer = none → s.Spares t.work
  | _ => True

instance (s : Registry) (e : RegistryEvent) : Decidable (WriteSpares s e) := by
  unfold WriteSpares
  split <;> infer_instance

/-- A stage of a pairing; what it is about to write has its own change in it. -/
def AuthStage.OfPairing : AuthStage → Prop
  | .existingKey _ | .storedSecret _ | .createdAt _ _ | .loadForKey _ _ | .loadForClear _ _ => True
  | .saveKey req _ config => config.publicKey = some req.publicKey
  | .saveCleared _ _ config => config.pairingSecret = none
  | _ => False

/-- A stage of `resetPairing`. -/
def AuthStage.OfReset : AuthStage → Prop
  | .loadForDelete _ | .saveDeleted _ _ | .loadForSecret _ _ | .saveSecret _ => True
  | _ => False

/-- A pairing goes on as a pairing. -/
theorem AuthStage.OfPairing.resume {P : Platform} {stage next : AuthStage} (h : stage.OfPairing)
    {now : Int} {config : PairingConfig} (hnext : stage.resume P now config = .goOn next) :
    next.OfPairing := by
  cases stage with
  | existingKey req =>
    simp only [AuthStage.resume] at hnext
    split at hnext <;> cases hnext
    trivial
  | storedSecret req =>
    simp only [AuthStage.resume] at hnext
    split at hnext
    · cases hnext
    · split at hnext <;> cases hnext
      trivial
  | createdAt req stored =>
    simp only [AuthStage.resume] at hnext
    split at hnext
    · cases hnext
    · split at hnext <;> cases hnext
      trivial
  | loadForKey req stored => cases hnext; rfl
  | saveKey req stored written => cases hnext; trivial
  | loadForClear req stored => cases hnext; rfl
  | saveCleared req stored written => cases hnext
  | _ => exact h.elim

/-- `resetPairing` goes on as `resetPairing`. -/
theorem AuthStage.OfReset.resume {P : Platform} {stage next : AuthStage} (h : stage.OfReset)
    {now : Int} {config : PairingConfig} (hnext : stage.resume P now config = .goOn next) :
    next.OfReset := by
  cases stage with
  | loadForDelete secret => cases hnext; trivial
  | saveDeleted secret written => cases hnext; trivial
  | loadForSecret secret time => cases hnext; trivial
  | saveSecret written => cases hnext
  | _ => exact h.elim

namespace Registry

variable {P : Platform}

/-- Work at a stage of its own kind. -/
def Formed : Work → Prop
  | .handler stage => stage.OfPairing
  | .reset _ stage => stage.OfReset
  | .update _ _ => True

/-- What a run keeps. -/
structure Kept (s : Registry) : Prop where
  carries : s.Carries s.config
  paired : ∀ p ∈ s.paired, p ∈ s.keyed
  formed : ∀ t ∈ s.tasks, Formed t.work

/-- Nothing of the pairings has changed. -/
theorem Kept.congr {s s' : Registry} (h : s.Kept) (hconfig : s'.config = s.config)
    (hkeyed : s'.keyed = s.keyed) (hpaired : s'.paired = s.paired)
    (htasks : ∀ t ∈ s'.tasks, Formed t.work) : s'.Kept where
  carries := ⟨by rw [hkeyed, hconfig]; exact h.carries.publicKey,
    by rw [hpaired, hconfig]; exact h.carries.pairingSecret⟩
  paired := by rw [hkeyed, hpaired]; exact h.paired
  formed := htasks

/-- Work begins. -/
theorem Kept.start {s : Registry} (h : s.Kept) {work : Work} (hwork : Formed work) :
    (s.start work).Kept := by
  refine h.congr rfl rfl rfl fun t ht => ?_
  rcases List.mem_append.mp ht with ht | ht
  · exact h.formed t ht
  · rw [List.mem_singleton.mp ht]
    exact hwork

/-- `updateProvider` begins. -/
theorem formed_updateProvider {s : Registry} {updates : ProviderUpdate} {work : Work}
    (hwork : s.updateProvider updates = some work) : Formed work := by
  obtain ⟨_, -, rfl⟩ := Option.map_eq_some_iff.mp hwork
  trivial

/-- A request to pair again. -/
theorem Kept.reset {s : Registry} (h : s.Kept) (secret : String) (attached : Bool) (now : Int) :
    (s.reset secret attached now).Kept := by
  unfold Registry.reset
  split
  · exact h
  · have hforgotten : Kept { s with keyed := [], paired := [] } :=
      ⟨⟨nofun, nofun⟩, nofun, h.formed⟩
    dsimp only
    split
    · exact hforgotten.start trivial
    · cases hwork : updateProvider { s with keyed := [], paired := [] } (resetUpdate secret now) with
      | none => exact hforgotten
      | some work => exact hforgotten.start (formed_updateProvider hwork)

/-- **The database executes a call.** -/
theorem Kept.storage {s : Registry} (h : s.Kept) {i : Nat} {t : WorkTask} (ht : t ∈ s.tasks)
    {call : DbCall} (hspares : call = .fails ∨ s.Spares t.work) : (s.storage i t call).Kept := by
  have hformed : Formed t.work := h.formed t ht
  have htasks : ∀ u ∈ s.tasks.set i ⟨t.work, some (if call = .done then some s.config else none)⟩,
      Formed u.work := by
    intro u hu
    rcases List.mem_or_eq_of_mem_set hu with hu | rfl
    · exact h.formed u hu
    · exact hformed
  unfold Registry.storage
  dsimp only
  split
  · exact h.congr rfl rfl rfl htasks
  · next hcall =>
    replace hspares := hspares.resolve_left hcall
    obtain ⟨work, answer⟩ := t
    cases work with
    | handler stage =>
      cases stage with
      | saveKey req stored config =>
        refine ⟨⟨fun p hp => ?_, hspares.2⟩, fun p hp => ?_, htasks⟩
        · rcases List.mem_append.mp hp with hp | hp
          · rw [hspares.1 p hp]
            exact hformed
          · rw [List.mem_singleton.mp hp]
            exact hformed
        · exact List.mem_append_left _ (h.paired p hp)
      | saveCleared req stored config =>
        have hsecret : ∀ secret, config.pairingSecret ≠ some secret := fun _ hsecret =>
          nomatch hformed.symm.trans hsecret
        simp only [noted]
        split
        · next hkeyed =>
          refine ⟨⟨hspares, fun p _ => hsecret _⟩, fun p hp => ?_, htasks⟩
          rcases List.mem_append.mp hp with hp | hp
          · exact h.paired p hp
          · rw [List.mem_singleton.mp hp]
            exact hkeyed
        · exact ⟨⟨hspares, fun p _ => hsecret _⟩, h.paired, htasks⟩
      | saveDeleted => exact hformed.elim
      | saveSecret => exact hformed.elim
      | _ => exact h.congr rfl rfl rfl htasks
    | reset secret stage =>
      cases stage with
      | saveKey => exact hformed.elim
      | saveCleared => exact hformed.elim
      | saveDeleted secret config =>
        have hnone : ∀ p, p ∉ s.keyed := by
          rw [show s.keyed = [] from hspares]
          exact fun _ => List.not_mem_nil
        exact ⟨⟨fun p hp => absurd hp (hnone p), fun p hp => absurd (h.paired p hp) (hnone p)⟩,
          h.paired, htasks⟩
      | saveSecret config =>
        exact ⟨⟨hspares.publicKey, hspares.pairingSecret⟩, h.paired, htasks⟩
      | _ => exact h.congr rfl rfl rfl htasks
    | update mergedConfig enabled =>
      cases mergedConfig with
      | none => exact h.congr rfl rfl rfl htasks
      | some merged => exact ⟨⟨hspares.publicKey, hspares.pairingSecret⟩, h.paired, htasks⟩

/-- What a task goes on as is formed. -/
theorem formed_proceed {s : Registry} {now : Int} {config : PairingConfig} {work next : Work}
    (hwork : Formed work) (hnext : (s.proceed P now config work).2 = some next) : Formed next := by
  cases work with
  | handler stage =>
    simp only [proceed] at hnext
    split at hnext
    · next stage' hstage =>
      cases hnext
      exact AuthStage.OfPairing.resume hwork hstage
    · cases hnext
  | reset secret stage =>
    simp only [proceed] at hnext
    split at hnext
    · next stage' hstage =>
      cases hnext
      exact AuthStage.OfReset.resume hwork hstage
    · exact formed_updateProvider hnext
  | update mergedConfig enabled => cases hnext

/-- Going on writes nothing to the row. -/
theorem proceed_frame (s : Registry) (now : Int) (config : PairingConfig) (work : Work) :
    (s.proceed P now config work).1.config = s.config ∧
      (s.proceed P now config work).1.keyed = s.keyed ∧
      (s.proceed P now config work).1.paired = s.paired := by
  cases work with
  | handler stage =>
    simp only [proceed]
    split <;> exact ⟨rfl, rfl, rfl⟩
  | reset secret stage =>
    simp only [proceed]
    split <;> exact ⟨rfl, rfl, rfl⟩
  | update mergedConfig enabled => exact ⟨rfl, rfl, rfl⟩

/-- A task goes on. -/
theorem Kept.resume {s : Registry} (h : s.Kept) {i : Nat} {t : WorkTask} (ht : t ∈ s.tasks)
    (answer : Option PairingConfig) (now : Int) : (s.resume P i answer now t.work).Kept := by
  have htasks : ∀ next : Option Work, (∀ work, next = some work → Formed work) →
      ∀ u ∈ advance s.tasks i (next.map fun work => ⟨work, none⟩), Formed u.work := by
    intro next hnext u hu
    rcases mem_advance hu with hu | hu
    · exact h.formed u hu
    · obtain ⟨work, hwork, rfl⟩ := Option.map_eq_some_iff.mp hu
      exact hnext work hwork
  cases answer with
  | none => exact h.congr rfl rfl rfl (htasks none nofun)
  | some config =>
    obtain ⟨hconfig, hkeyed, hpaired⟩ := proceed_frame (P := P) s now config t.work
    exact h.congr hconfig hkeyed hpaired
      (htasks _ fun work hwork => formed_proceed (h.formed t ht) hwork)

/-- **Every event that spares the pairings.** -/
theorem Kept.step {s s' : Registry} (h : s.Kept) {e : RegistryEvent} (he : WriteSpares s e)
    (hstep : registryStep P s e = some s') : s'.Kept := by
  cases e with
  | restart => cases hstep; exact h.congr rfl rfl rfl fun _ ht => absurd ht List.not_mem_nil
  | authPair req => cases hstep; exact h.start trivial
  | update updates =>
    obtain ⟨work, hwork, rfl⟩ := Option.map_eq_some_iff.mp hstep
    exact h.start (formed_updateProvider hwork)
  | reset secret attached now => cases hstep; exact h.reset secret attached now
  | storage i call =>
    simp only [registryStep] at hstep
    split at hstep
    · cases hstep
    · next t ht =>
      split at hstep <;> cases hstep
      next hanswer =>
      exact h.storage (List.mem_of_getElem? ht)
        (he.imp_right fun hspares => hspares t ht (by simpa using hanswer))
  | resume i now =>
    simp only [registryStep] at hstep
    split at hstep
    · cases hstep
    · next t ht =>
      obtain ⟨answer, -, rfl⟩ := Option.map_eq_some_iff.mp hstep
      exact h.resume (List.mem_of_getElem? ht) answer now

/-- The server starts with nothing at work. -/
theorem kept_init (config : PairingConfig) (enabled : Bool) : (init config enabled).Kept :=
  ⟨⟨fun _ hp => absurd hp List.not_mem_nil, fun _ hp => absurd hp List.not_mem_nil⟩,
    fun _ hp => absurd hp List.not_mem_nil, fun _ ht => absurd ht List.not_mem_nil⟩

end Registry

/-- The database answers the first task, and it goes on, `n` times. -/
def workOn (n : Nat) : List RegistryEvent :=
  (List.replicate n [RegistryEvent.storage 0 .done, .resume 0 5000]).flatten

/-- A gateway pairs with a server that has started over a row with the secret `abc123`. -/
def pairRun : List RegistryEvent := .authPair ⟨zeroKey, "ABC123"⟩ :: workOn 7

/-- An edit of the provider that changes neither field. -/
def edit : ProviderUpdate := ⟨some ⟨none, none, none⟩, none⟩

/-- The same edit, when the server has started again in between. -/
def editRun : List RegistryEvent :=
  pairRun ++ .restart :: .update edit :: workOn 1

theorem guarded_editRun :
    Guarded (registryStep oneKey) WriteSpares (init ⟨none, some "abc123", some 0⟩ true) editRun := by
  decide +kernel

end Svarla.Signaling
