import Svarla.Sessions.AuthService

/-!
# The lock-out

The wrong attempts are counted in the row, where `login` reads the count, awaits, and writes it. Logins
that overlap read the same count, so attempts are lost. Where a lock-out has expired, `login` resets the row,
but goes on with the count that it has read, so one wrong attempt is enough for the next lock-out
(`miscounted`).

In the runs where no login reads the row while another one is at work with it, and none with a wrong
password is the first after a lock-out (`Orderly`), the row counts the wrong attempts, and is locked
exactly after the full number (`lockout_counts`).
-/

namespace Svarla.Sessions

open Svarla.Lib

/-- The login has read the row, and has not written it for the last time. -/
def Flow.InLogin : Flow → Bool
  | checkLock .. | resetLock .. | comparePassword .. | recordFailure .. | resetFailures .. => true
  | _ => false

namespace Server

/-- No login reads the row while another one is at work with it, and one that finds a lock-out that has
expired has the right password. -/
def Orderly (C : Config) (s : Server) : Event → Prop
  | .run i _ =>
    match s.flows[i]? with
    | some (.readAuth ..) => ∀ flow ∈ s.flows, flow.InLogin = false
    | some (.checkLock auth password _) =>
      auth.lockedUntil = none ∨ (∃ l ∈ auth.lockedUntil, s.now < l) ∨
        C.compare password auth.passwordHash = true
    | _ => True
  | _ => True

instance (C : Config) (s : Server) (e : Event) : Decidable (s.Orderly C e) := by
  unfold Orderly
  rcases e with _ | _ | _ | _ | _ | ⟨i, random⟩ | _ | _ | _ | _ | e
  case run =>
    dsimp only
    generalize s.flows[i]? = found
    rcases found with _ | flow
    · exact .isTrue trivial
    · rcases flow with _ | _ | _ | _ | _ | _ | _ | _ | _ | _ | _ | _ | _ | _ | _ | _ | _ | _ | _ <;>
        infer_instance
  all_goals exact .isTrue trivial

/-- At most the full number of wrong attempts is evaluated; where no login is at work with the row, it
has the count of them, and where it is locked, it is after the full number. -/
structure CountsCorrectly (C : Config) (s : Server) : Prop where
  bounded : s.wrongAttempts ≤ C.maxFailedAttempts
  counted : (∀ flow ∈ s.flows, flow.InLogin = false) →
    ∀ auth ∈ s.auth, auth.failedAttempts = s.wrongAttempts
  full : (∀ flow ∈ s.flows, flow.InLogin = false) →
    ∀ auth ∈ s.auth, auth.lockedUntil ≠ none → s.wrongAttempts = C.maxFailedAttempts

/-! ## Logins, one at a time -/

/-- Between two logins. -/
structure Settled (C : Config) (s : Server) : Prop where
  bounded : s.wrongAttempts ≤ C.maxFailedAttempts
  counted : ∀ auth ∈ s.auth, auth.failedAttempts = s.wrongAttempts
  locked : ∀ auth ∈ s.auth, auth.lockedUntil = none ↔ s.wrongAttempts < C.maxFailedAttempts

/-- What a login at work with the row knows of it. -/
def Knows (C : Config) (s : Server) : Flow → Prop
  | .checkLock auth _ _ => s.Settled C ∧ s.auth ≠ none ∧
      auth.failedAttempts = s.wrongAttempts ∧
        (auth.lockedUntil = none ↔ s.wrongAttempts < C.maxFailedAttempts)
  | .resetLock auth password _ => s.wrongAttempts ≤ C.maxFailedAttempts ∧ s.auth ≠ none ∧
      C.compare password auth.passwordHash = true
  | .comparePassword auth password _ => s.Settled C ∧ s.auth ≠ none ∧
      s.wrongAttempts < C.maxFailedAttempts ∧
        (C.compare password auth.passwordHash = true ∨ auth.failedAttempts = s.wrongAttempts)
  | .recordFailure newAttempts lockedUntil => s.wrongAttempts ≤ C.maxFailedAttempts ∧
      newAttempts = s.wrongAttempts ∧ (∀ auth ∈ s.auth, auth.lockedUntil = none) ∧
        (lockedUntil = none ↔ s.wrongAttempts < C.maxFailedAttempts)
  | .resetFailures _ => s.wrongAttempts ≤ C.maxFailedAttempts
  | _ => True

/-- One login at most is at work with the row. -/
structure OneLogin (C : Config) (s : Server) : Prop where
  one : owed (fun flow => flow.InLogin.toNat) s.flows ≤ 1
  idle : (∀ flow ∈ s.flows, flow.InLogin = false) → s.Settled C
  busy : ∀ flow ∈ s.flows, flow.InLogin = true → s.Knows C flow

/-- What is not about the row leaves it, and no login begins with it. -/
theorem proceed_of_not_inLogin {C : Config} {s : Server} {random : Nat} {flow : Flow}
    (hlogin : flow.InLogin = false) (hread : ∀ password deviceName, flow ≠ .readAuth password deviceName) :
    (s.proceed C random flow).1.auth = s.auth ∧
      (s.proceed C random flow).1.wrongAttempts = s.wrongAttempts ∧
        ∀ next, (s.proceed C random flow).2 = some next → next.InLogin = false := by
  have hresume : ∀ sweep, (s.resume C sweep).1.auth = s.auth ∧
      (s.resume C sweep).1.wrongAttempts = s.wrongAttempts ∧
        ∀ next, (s.resume C sweep).2 = some next → next.InLogin = false := by
    intro sweep
    obtain ⟨flow, hflow, hresume⟩ | ⟨-, hresume⟩ := resume_cases C s sweep <;> rw [hresume]
    · refine ⟨rfl, rfl, fun next hnext => ?_⟩
      cases hnext
      obtain ⟨d, rest, -, -, rfl | ⟨rfl, -⟩⟩ := sweepOn_cases hflow <;> rfl
    · exact ⟨rfl, rfl, fun next hnext => nomatch hnext⟩
  cases flow with
  | checkLock | resetLock | comparePassword | recordFailure | resetFailures => cases hlogin
  | readAuth password deviceName => exact absurd rfl (hread password deviceName)
  | listed devices => exact hresume _
  | sweeping rest => exact hresume _
  | insertDevice deviceName => exact ⟨rfl, rfl, fun next hnext => nomatch hnext⟩
  | expire d => exact ⟨rfl, rfl, fun next hnext => nomatch hnext⟩
  | refresh d seenAt => exact ⟨rfl, rfl, fun next hnext => nomatch hnext⟩
  | listDevices => exact ⟨rfl, rfl, fun next hnext => by cases hnext; rfl⟩
  | touch deviceId seenAt rest => exact ⟨rfl, rfl, fun next hnext => by cases hnext; rfl⟩
  | countDevices deviceName =>
    simp only [proceed]
    split
    · exact ⟨rfl, rfl, fun next hnext => nomatch hnext⟩
    · exact ⟨rfl, rfl, fun next hnext => by cases hnext; rfl⟩
  | readDevice token =>
    simp only [proceed]
    split
    · exact ⟨rfl, rfl, fun next hnext => nomatch hnext⟩
    · exact ⟨rfl, rfl, fun next hnext => by cases hnext; rfl⟩
  | checkExpiry d =>
    simp only [proceed]
    split <;> exact ⟨rfl, rfl, fun next hnext => by cases hnext; rfl⟩
  | logout token =>
    simp only [proceed]
    split <;> exact ⟨rfl, rfl, fun next hnext => nomatch hnext⟩
  | remove deviceId =>
    simp only [proceed]
    split <;> exact ⟨rfl, rfl, fun next hnext => nomatch hnext⟩
  | reap deviceId rest =>
    simp only [proceed]
    split
    · exact ⟨rfl, rfl, fun next hnext => by cases hnext; rfl⟩
    · split <;> exact ⟨rfl, rfl, fun next hnext => by cases hnext; rfl⟩

/-! ## One step -/

/-- What a login reads of the row, but for the password. -/
def counts (s : Server) : Option (Nat × Option Nat) :=
  s.auth.map fun auth => (auth.failedAttempts, auth.lockedUntil)

section
variable {C : Config} {s t : Server}

/-- Only what is read of the row matters. -/
theorem Settled.congr (h : s.Settled C) (hauth : t.counts = s.counts)
    (hwrong : t.wrongAttempts = s.wrongAttempts) : t.Settled C := by
  have hrow : ∀ auth ∈ t.auth, ∃ old ∈ s.auth, old.failedAttempts = auth.failedAttempts ∧
      old.lockedUntil = auth.lockedUntil := by
    intro auth hmem
    have hsome : s.counts = some (auth.failedAttempts, auth.lockedUntil) := by
      rw [← hauth, counts, Option.mem_def.mp hmem, Option.map_some]
    obtain ⟨old, hold, heq⟩ := Option.map_eq_some_iff.mp hsome
    exact ⟨old, hold, (Prod.mk.inj heq).1, (Prod.mk.inj heq).2⟩
  constructor
  · rw [hwrong]
    exact h.bounded
  · intro auth hmem
    obtain ⟨old, hold, hfailed, -⟩ := hrow auth hmem
    rw [← hfailed, hwrong, h.counted old hold]
  · intro auth hmem
    obtain ⟨old, hold, -, hlocked⟩ := hrow auth hmem
    rw [← hlocked, hwrong, h.locked old hold]

theorem Knows.congr {flow : Flow} (h : s.Knows C flow) (hauth : t.counts = s.counts)
    (hwrong : t.wrongAttempts = s.wrongAttempts) : t.Knows C flow := by
  have hnone : s.auth ≠ none → t.auth ≠ none := by
    intro hs ht
    rw [counts, counts, ht, Option.map_none, eq_comm, Option.map_eq_none_iff] at hauth
    exact hs hauth
  have hlocked : (∀ auth ∈ s.auth, auth.lockedUntil = none) → ∀ auth ∈ t.auth, auth.lockedUntil = none := by
    intro hs auth hmem
    have hsome : s.counts = some (auth.failedAttempts, auth.lockedUntil) := by
      rw [← hauth, counts, Option.mem_def.mp hmem, Option.map_some]
    obtain ⟨old, hold, heq⟩ := Option.map_eq_some_iff.mp hsome
    exact (Prod.mk.inj heq).2 ▸ hs old hold
  cases flow with
  | checkLock auth password deviceName =>
    obtain ⟨hsettled, hauth', hrest⟩ := h
    exact ⟨hsettled.congr hauth hwrong, hnone hauth', by rwa [hwrong]⟩
  | resetLock auth password deviceName =>
    obtain ⟨hle, hauth', hright⟩ := h
    exact ⟨by rwa [hwrong], hnone hauth', hright⟩
  | comparePassword auth password deviceName =>
    obtain ⟨hsettled, hauth', hrest⟩ := h
    exact ⟨hsettled.congr hauth hwrong, hnone hauth', by rwa [hwrong]⟩
  | recordFailure newAttempts lockedUntil =>
    obtain ⟨hle, hnew, hrow, hlock⟩ := h
    exact ⟨by rwa [hwrong], by rwa [hwrong], hlocked hrow, by rwa [hwrong]⟩
  | resetFailures deviceName => exact le_trans hwrong.le h
  | _ => trivial

/-- A login at work with the row goes on with it, or leaves it in order. -/
theorem proceed_of_inLogin (hmax : 0 < C.maxFailedAttempts) {random : Nat} {flow : Flow}
    (hlogin : flow.InLogin = true) (h : s.Knows C flow)
    (hright : ∀ auth password deviceName, flow = .checkLock auth password deviceName →
      auth.lockedUntil = none ∨ (∃ l ∈ auth.lockedUntil, s.now < l) ∨
        C.compare password auth.passwordHash = true) :
    (∃ next, (s.proceed C random flow).2 = some next ∧ next.InLogin = true ∧
        (s.proceed C random flow).1.Knows C next) ∨
      (∀ next, (s.proceed C random flow).2 = some next → next.InLogin = false) ∧
        (s.proceed C random flow).1.Settled C := by
  have hreset : ∀ auth : Option AuthRow,
      Settled C { s with
        auth := auth.map fun auth => { auth with failedAttempts := 0, lockedUntil := none }
        wrongAttempts := 0 } := by
    intro auth
    refine ⟨Nat.zero_le _, fun a ha => ?_, fun a ha => ?_⟩ <;>
      obtain ⟨old, -, rfl⟩ := Option.map_eq_some_iff.mp ha
    · rfl
    · exact iff_of_true rfl hmax
  cases flow with
  | checkLock auth password deviceName =>
    obtain ⟨hsettled, hnone, hfailed, hlocked⟩ := h
    simp only [proceed]
    cases hlock : auth.lockedUntil with
    | none =>
      exact .inl ⟨_, rfl, rfl, hsettled, hnone, hlocked.mp hlock, .inr hfailed⟩
    | some l =>
      by_cases hnow : s.now < l
      · simp only [if_pos hnow]
        exact .inr ⟨fun next hnext => (nomatch hnext), hsettled.congr rfl rfl⟩
      · simp only [if_neg hnow]
        refine .inl ⟨_, rfl, rfl, hsettled.bounded, hnone, ?_⟩
        obtain hnever | ⟨l', hl', hlt⟩ | hcompare := hright auth password deviceName rfl
        · cases hlock.symm.trans hnever
        · cases hlock.symm.trans hl'
          exact absurd hlt hnow
        · exact hcompare
  | resetLock auth password deviceName =>
    obtain ⟨-, hnone, hcompare⟩ := h
    exact .inl ⟨_, rfl, rfl, hreset s.auth, by simpa [proceed, setAuth] using hnone, hmax, .inl hcompare⟩
  | comparePassword auth password deviceName =>
    obtain ⟨hsettled, hnone, hlt, hcompare⟩ := h
    simp only [proceed]
    by_cases hright' : C.compare password auth.passwordHash = true
    · simp only [if_pos hright']
      exact .inl ⟨_, rfl, rfl, hsettled.bounded⟩
    · have hfailed := hcompare.resolve_left hright'
      simp only [if_neg hright']
      refine .inl ⟨_, rfl, rfl, hlt, by rw [hfailed], fun a ha => (hsettled.locked a ha).mpr hlt, ?_⟩
      rw [hfailed]
      split
      · next hle => exact iff_of_false (fun hnone' => nomatch hnone') (not_lt.mpr hle)
      · next hle => exact iff_of_true rfl (not_le.mp hle)
  | recordFailure newAttempts lockedUntil =>
    obtain ⟨hle, rfl, hrow, hlock⟩ := h
    refine .inr ?_
    cases lockedUntil with
    | none =>
      refine ⟨fun next hnext => (nomatch hnext), hle, fun a ha => ?_, fun a ha => ?_⟩ <;>
        obtain ⟨old, hold, rfl⟩ := Option.map_eq_some_iff.mp ha
      · rfl
      · exact iff_of_true (hrow old hold) (hlock.mp rfl)
    | some l =>
      refine ⟨fun next hnext => (nomatch hnext), hle, fun a ha => ?_, fun a ha => ?_⟩ <;>
        obtain ⟨old, hold, rfl⟩ := Option.map_eq_some_iff.mp ha
      · rfl
      · exact iff_of_false (fun hnone => nomatch hnone) fun hlt => nomatch hlock.mpr hlt
  | resetFailures deviceName =>
    refine .inr ⟨fun next hnext => ?_, hreset s.auth⟩
    cases hnext
    split <;> rfl
  | _ => cases hlogin

/-- A login that reads the row, alone. -/
theorem proceed_readAuth {random : Nat} {password deviceName : String} (h : s.Settled C) :
    (∃ auth, s.proceed C random (.readAuth password deviceName) =
        (s, some (.checkLock auth password deviceName)) ∧
          s.Knows C (.checkLock auth password deviceName)) ∨
      s.proceed C random (.readAuth password deviceName) = (s.emit .notConfigured, none) := by
  simp only [proceed]
  cases hauth : s.auth with
  | none => exact .inr rfl
  | some auth =>
    exact .inl ⟨auth, rfl, h, by rw [hauth]; exact Option.some_ne_none auth, h.counted auth hauth,
      h.locked auth hauth⟩

/-- Nothing that is not about the row, or the flows, matters. -/
theorem OneLogin.congr (h : s.OneLogin C) (hflows : t.flows = s.flows) (hauth : t.counts = s.counts)
    (hwrong : t.wrongAttempts = s.wrongAttempts) : t.OneLogin C where
  one := hflows ▸ h.one
  idle hidle := (h.idle (hflows ▸ hidle)).congr hauth hwrong
  busy flow hmem hlogin := (h.busy flow (hflows ▸ hmem) hlogin).congr hauth hwrong

/-- A flow is started. -/
theorem OneLogin.start (h : s.OneLogin C) {flow : Flow} (hflow : flow.InLogin = false) :
    (s.start flow).OneLogin C where
  one := by
    rw [Server.start, owed_concat, hflow]
    exact h.one
  idle hidle := (h.idle fun f hf => hidle f (List.mem_append_left _ hf)).congr rfl rfl
  busy f hf hlogin := by
    obtain hf | hf := List.mem_append.mp hf
    · exact (h.busy f hf hlogin).congr rfl rfl
    · cases List.mem_singleton.mp hf
      cases hflow.symm.trans hlogin

/-- A flow that goes on leaves one login at most at work with the row. -/
theorem OneLogin.run (hmax : 0 < C.maxFailedAttempts) (h : s.OneLogin C) {i random : Nat}
    (hguard : s.Orderly C (.run i random)) (hstep : s.step C (.run i random) = some t) :
    t.OneLogin C := by
  obtain ⟨flow, hflow, -, rfl⟩ := step_run hstep
  have howed := owed_advance hflow (fun flow => flow.InLogin.toNat) (s.proceed C random flow).2
  -- The other flows, where this one is the login at work, or reads the row.
  have hothers : (∀ g ∈ s.flows.eraseIdx i, g.InLogin = false) →
      (∃ next, (s.proceed C random flow).2 = some next ∧ next.InLogin = true ∧
          (s.proceed C random flow).1.Knows C next) ∨
        (∀ next, (s.proceed C random flow).2 = some next → next.InLogin = false) ∧
          (s.proceed C random flow).1.Settled C →
      owed (fun flow => flow.InLogin.toNat) s.flows ≤ flow.InLogin.toNat →
      OneLogin C { (s.proceed C random flow).1 with
        flows := advance s.flows i (s.proceed C random flow).2 } := by
    intro hrest hnext hall
    have hle : (s.proceed C random flow).2.elim 0 (fun flow => flow.InLogin.toNat) ≤ 1 := by
      cases (s.proceed C random flow).2 with
      | none => exact Nat.zero_le _
      | some next => exact Bool.toNat_le _
    refine ⟨by show owed _ (advance ..) ≤ 1; omega, fun hidle => ?_, fun g hg hlogin => ?_⟩
    · obtain ⟨next, hsome, hlogin, -⟩ | ⟨-, hsettled⟩ := hnext
      · rw [hsome] at hidle
        cases (hidle next (mem_advance_next hflow)).symm.trans hlogin
      · exact hsettled.congr rfl rfl
    · obtain hg | hg := mem_others_of_mem_advance hg
      · obtain ⟨next, hsome, -, hknows⟩ | ⟨hnone, -⟩ := hnext
        · cases hsome.symm.trans hg
          exact hknows.congr rfl rfl
        · cases (hnone g hg).symm.trans hlogin
      · cases (hrest g hg).symm.trans hlogin
  by_cases hlogin : flow.InLogin = true
  · have hall : owed (fun flow => flow.InLogin.toNat) s.flows ≤ flow.InLogin.toNat := by
      rw [hlogin]
      exact h.one
    refine hothers (fun g hg => ?_) (proceed_of_inLogin hmax hlogin
      (h.busy flow (List.mem_of_getElem? hflow) hlogin) fun auth password deviceName heq => ?_) hall
    · have hdebt : (fun flow : Flow => flow.InLogin.toNat) g = 0 :=
        @debt_eq_zero_of_mem_others _ s.flows i flow g (fun flow => flow.InLogin.toNat) hflow hall hg
      exact Bool.toNat_eq_zero.mp hdebt
    · simpa only [Orderly, hflow, heq] using hguard
  · have hlogin : flow.InLogin = false := Bool.eq_false_iff.mpr hlogin
    by_cases hread : ∃ password deviceName, flow = .readAuth password deviceName
    · obtain ⟨password, deviceName, rfl⟩ := hread
      have hidle : ∀ flow ∈ s.flows, flow.InLogin = false := by
        simpa only [Orderly, hflow] using hguard
      have hzero : owed (fun flow => flow.InLogin.toNat) s.flows = 0 :=
        List.sum_eq_zero fun n hn => by
          obtain ⟨flow, hmem, rfl⟩ := List.mem_map.mp hn
          rw [hidle flow hmem]
          rfl
      have hsettled := h.idle hidle
      refine hothers (fun g hg => hidle g (List.mem_of_mem_eraseIdx hg)) ?_ (hzero ▸ Nat.zero_le _)
      obtain ⟨auth, hproceed, hknows⟩ | hproceed := proceed_readAuth hsettled <;> rw [hproceed]
      · exact .inl ⟨_, rfl, rfl, hknows⟩
      · exact .inr ⟨fun next hnext => (nomatch hnext), hsettled.congr rfl rfl⟩
    · push Not at hread
      obtain ⟨hauth, hwrong, hnext⟩ := proceed_of_not_inLogin hlogin hread
      have hcounts : (s.proceed C random flow).1.counts = s.counts := by rw [counts, hauth, counts]
      refine ⟨?_, fun hidle => ?_, fun g hg hglogin => ?_⟩
      · show owed _ (advance ..) ≤ 1
        have hone := h.one
        cases hsome : (s.proceed C random flow).2 with
        | none =>
          rw [hsome, Option.elim_none] at howed
          omega
        | some next =>
          rw [hsome, Option.elim_some, hnext next hsome, Bool.toNat_false] at howed
          omega
      · refine (h.idle fun g hg => ?_).congr hcounts hwrong
        by_cases hg' : g = flow
        · rw [hg', hlogin]
        · exact hidle g (mem_advance_of_ne hflow _ hg hg')
      · obtain hg | hg := mem_advance hg
        · exact (h.busy g hg hglogin).congr hcounts hwrong
        · cases (hnext g hg).symm.trans hglogin

/-- **One login at a time.** -/
theorem OneLogin.step (hmax : 0 < C.maxFailedAttempts) (h : s.OneLogin C) {e : Event}
    (hguard : s.Orderly C e) (hstep : s.step C e = some t) : t.OneLogin C := by
  cases e with
  | run i random => exact h.run hmax hguard hstep
  | login | validateSession | logout | removeDevice | sweep =>
    cases hstep
    exact h.start rfl
  | wait | connect | disconnect =>
    cases hstep
    exact h.congr rfl rfl rfl
  | updatePasswordHash newHash =>
    cases hstep
    refine h.congr rfl ?_ rfl
    simp only [counts, setAuth, Option.map_map]
    rfl
  | calls e =>
    obtain ⟨orchestrator, -, rfl⟩ := Option.map_eq_some_iff.mp hstep
    exact h.congr rfl rfl rfl

/-- Where one login at most is at work, the attempts are counted. -/
theorem OneLogin.countsCorrectly (h : s.OneLogin C) : s.CountsCorrectly C where
  bounded := by
    by_cases hidle : ∀ flow ∈ s.flows, flow.InLogin = false
    · exact (h.idle hidle).bounded
    · push Not at hidle
      obtain ⟨flow, hmem, hlogin⟩ := hidle
      have hlogin : flow.InLogin = true := Bool.not_eq_false _ ▸ hlogin
      have hknows := h.busy flow hmem hlogin
      cases flow with
      | checkLock | comparePassword => exact hknows.1.bounded
      | resetLock | recordFailure => exact hknows.1
      | resetFailures => exact hknows
      | _ => cases hlogin
  counted hidle := (h.idle hidle).counted
  full hidle auth hauth hlocked := by
    have hsettled := h.idle hidle
    have hnot := mt (hsettled.locked auth hauth).mpr hlocked
    exact le_antisymm hsettled.bounded (not_lt.mp hnot)

end

theorem OneLogin.init {C : Config} (hash : Option String) (now : Nat) (hmax : 0 < C.maxFailedAttempts) :
    (Server.init hash now).OneLogin C where
  one := Nat.zero_le _
  idle _ := by
    refine ⟨Nat.zero_le _, fun a ha => ?_, fun a ha => ?_⟩ <;>
      obtain ⟨old, -, rfl⟩ := Option.map_eq_some_iff.mp ha
    · rfl
    · exact iff_of_true rfl hmax
  busy flow hmem := nomatch hmem

/-- **The lock-out.** -/
theorem lockout_counts {C : Config} {hash : Option String} {now : Nat} {es : List Event} {t : Server}
    (hmax : 0 < C.maxFailedAttempts) (hguard : Guarded (step C) (Orderly C) (init hash now) es)
    (hrun : exec (step C) (init hash now) es = some t) : t.CountsCorrectly C :=
  (hguard.invariant (fun _ _ _ h hg hs => h.step hmax hg hs) (OneLogin.init hash now hmax)
    hrun).countsCorrectly

/-! ## Runs -/

/-- The default configuration, with the password itself for its hash. -/
def exampleConfig : Config where
  maxFailedAttempts := 5
  lockoutDuration := 15 * 60 * 1000
  stalenessMs := 90000
  expiresAt registeredAt := registeredAt + 30 * 24 * 60 * 60 * 1000
  compare password hash := password == hash
  uuid := toString

/-- A login that goes on to its answer. -/
def loginWith (password : String) (steps : Nat) : List Event :=
  .login password "Phone" :: List.replicate steps (.run 0 0)

/-- A wrong attempt, and a login. -/
theorem lockout_counts_login :
    ∃ t, exec (step exampleConfig) (init (some "secret") 0)
        (loginWith "guess" 4 ++ loginWith "secret" 6) = some t ∧ t.CountsCorrectly exampleConfig :=
  (Option.isSome_iff_exists.mp (by decide +kernel)).imp fun _ hrun =>
    ⟨hrun, lockout_counts (by decide) (by decide +kernel) hrun⟩

/-- A row that nobody is at work with, and that has not the count. -/
theorem not_countsCorrectly {C : Config} {t : Server} {n wrong : Nat} {hash : String}
    {lockedUntil : Option Nat} (hfields : (t.flows, t.wrongAttempts, t.auth) =
      ([], wrong, some ⟨hash, n, lockedUntil⟩)) (hne : n ≠ wrong) : ¬ t.CountsCorrectly C := by
  intro h
  obtain ⟨hflows, hwrong, hauth⟩ : t.flows = [] ∧ t.wrongAttempts = wrong ∧ t.auth = _ := by
    simpa only [Prod.mk.injEq] using hfields
  have hcounted := h.counted (by simp [hflows]) _ hauth
  exact hne (hcounted.trans hwrong)

/-- After a lock-out that has expired, one wrong attempt is enough for the next one; and of two wrong
attempts that overlap, one is not counted. -/
theorem miscounted :
    (∃ t, exec (step exampleConfig) (init (some "secret") 0)
        ((List.replicate 5 (loginWith "guess" 4)).flatten ++ [.wait (15 * 60 * 1000)] ++
          loginWith "guess" 5) = some t ∧ t.wrongAttempts = 1 ∧ ¬ t.CountsCorrectly exampleConfig) ∧
      ∃ t, exec (step exampleConfig) (init (some "secret") 0)
        [.login "guess" "Phone", .login "guess" "Phone", .run 0 0, .run 1 0, .run 0 0, .run 1 0, .run 0 0,
          .run 1 0, .run 0 0, .run 0 0] = some t ∧ ¬ t.CountsCorrectly exampleConfig := by
  have hexpired : (exec (step exampleConfig) (init (some "secret") 0)
      ((List.replicate 5 (loginWith "guess" 4)).flatten ++ [.wait (15 * 60 * 1000)] ++
        loginWith "guess" 5)).map (fun t => (t.flows, t.wrongAttempts, t.auth)) =
      some ([], 1, some ⟨"secret", 6, some (2 * (15 * 60 * 1000))⟩) := by
    decide +kernel
  have hlost : (exec (step exampleConfig) (init (some "secret") 0)
      [.login "guess" "Phone", .login "guess" "Phone", .run 0 0, .run 1 0, .run 0 0, .run 1 0, .run 0 0,
        .run 1 0, .run 0 0, .run 0 0]).map (fun t => (t.flows, t.wrongAttempts, t.auth)) =
      some ([], 2, some ⟨"secret", 1, none⟩) := by
    decide +kernel
  obtain ⟨t, ht, hfields⟩ := Option.map_eq_some_iff.mp hexpired
  obtain ⟨u, hu, hfields'⟩ := Option.map_eq_some_iff.mp hlost
  exact ⟨⟨t, ht, congrArg (fun p => p.2.1) hfields, not_countsCorrectly hfields (by decide)⟩,
    u, hu, not_countsCorrectly hfields' (by decide)⟩

end Server

end Svarla.Sessions
