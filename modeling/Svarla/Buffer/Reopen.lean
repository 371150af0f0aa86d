import Mathlib
import Svarla.Buffer.Durability

/-!
# Opening a buffer again

An `Answered` buffer notes for each item in memory whether its push returned nil. What it says of an
item lasts as long as the item: until it is removed, drained or evicted.

Opening the file again does not always give these items (`exec_unreadable`): the scanner of a load has a
limit that `appendLine` knows nothing of, and one line beyond it fails the whole load; and what is
appended behind a torn line merges with it. `Reopenable` excludes that, for a buffer with or without keys,
and the items are then loaded, in their order (`exec_reopens`).
-/

namespace Svarla.Buffer

open Svarla.Lib

/-- A buffer, its file, and the items of memory with whether their push returned nil. -/
structure Answered (T : Type) where
  buffer : PersistentBuffer T
  file : File T
  entries : List (T × Bool)

section
variable {T : Type} (marshal : T → Except String Nat)

/-- The items whose push returned nil. -/
def accepted (entries : List (T × Bool)) : List T := (entries.filter (·.2)).map (·.1)

/-- A suppressed push returns nil for the item with its key. -/
def accept (keyFn : Option (T → String)) (item : T) (entries : List (T × Bool)) : List (T × Bool) :=
  entries.map fun e => (e.1, e.2 || keyFn.any fun keyOf => keyOf e.1 = keyOf item)

def answeredStep (s : Answered T) : FaultyOp T → Option (Answered T)
  | .push io rio item =>
    let (b, f, err) := s.buffer.push marshal io rio s.file item
    let entries :=
      if KeyedQueue.HasKeyOf s.buffer.keyFn s.buffer.items item then accept s.buffer.keyFn item s.entries
      else if s.buffer.capacity ≤ s.buffer.items.length then s.entries.drop 1 ++ [(item, err.isNone)]
      else s.entries ++ [(item, err.isNone)]
    some ⟨b, f, entries⟩
  | .remove rio key =>
    let (b, f, _) := s.buffer.remove marshal rio s.file key
    some ⟨b, f, match s.buffer.keyFn with
      | none => s.entries
      | some keyOf => s.entries.eraseP fun e => keyOf e.1 = key⟩
  | .drainAll tio =>
    let (b, f, result) := s.buffer.drainAll tio s.file
    some ⟨b, f, if result.toOption.isSome then [] else s.entries⟩
  | .flush rio => some { s with file := (s.buffer.flush marshal rio s.file).1 }

/-- What an append may write: a whole line or the beginning of one, short enough for a scanner; behind a
torn line nothing that is reported as written. The line pushes no accepted item out of what a load
keeps. -/
def AppendReads (s : Answered T) (io : AppendCalls) (bytes : Nat) : Prop :=
  io.written bytes ≠ 0 →
    match s.file.tail with
    | none => min (io.written bytes) bytes < maxScanTokenSize ∧
        (bytes ≤ io.written bytes →
          (accepted s.entries).Sublist (s.file.items.drop (s.file.items.length + 1 - s.buffer.capacity)))
    | some torn => torn.bytes + min (io.written bytes) bytes < maxScanTokenSize ∧ io ≠ .done ∧
        (accepted s.entries).Sublist
          (KeyedQueue.newest s.buffer.capacity (s.file.lines.filterMap Line.content))

/-- The condition on an operation, in the state before it. -/
def Reopenable (s : Answered T) : FaultyOp T → Prop
  | .push io rio item =>
    if KeyedQueue.HasKeyOf s.buffer.keyFn s.buffer.items item then
      (accepted (accept s.buffer.keyFn item s.entries)).Sublist
        (KeyedQueue.newest s.buffer.capacity s.file.items)
    else if s.buffer.capacity ≤ s.buffer.items.length then
      rio.Completes s.buffer.capacity → NoneOverlong marshal (s.buffer.items.drop 1 ++ [item])
    else ∀ bytes, marshal item = .ok bytes → AppendReads s io bytes
  | .remove rio key =>
    ∀ keyOf ∈ s.buffer.keyFn, s.buffer.items.any (fun x => keyOf x = key) →
      let left := s.buffer.items.eraseP (keyOf · = key)
      rio.Completes left.length → NoneOverlong marshal left
  | .drainAll tio =>
    s.buffer.items ≠ [] → (∀ err, tio ≠ .closeFails err) ∨ accepted s.entries = []
  | .flush rio => rio.Completes s.buffer.items.length → NoneOverlong marshal s.buffer.items

end

/-! ## One operation -/

section
variable {T : Type} {marshal : T → Except String Nat}

/-- What holds between the operations: the file can be read, and a load gives the accepted items. -/
structure Reopens (s : Answered T) : Prop where
  entries_eq : s.entries.map (·.1) = s.buffer.items
  scannable : s.file.Scannable
  loads : (accepted s.entries).Sublist (KeyedQueue.newest s.buffer.capacity s.file.items)

theorem accepted_sublist {entries : List (T × Bool)} {items : List T} (h : entries.map (·.1) = items) :
    (accepted entries).Sublist items :=
  h ▸ List.filter_sublist.map _

theorem accepted_append (entries : List (T × Bool)) (item : T) (ok : Bool) :
    accepted (entries ++ [(item, ok)]) = accepted entries ++ if ok then [item] else [] := by
  unfold accepted
  rw [List.filter_append, List.map_append]
  cases ok <;> rfl

theorem accepted_mono {entries entries' : List (T × Bool)} (h : entries.Sublist entries') :
    (accepted entries).Sublist (accepted entries') :=
  (h.filter _).map _

/-- A rewrite of what is in memory, whatever becomes of it. -/
theorem rewrite_loads {capacity : Nat} {f : File T} (hscan : f.Scannable) (rio : RewriteCalls)
    {items : List T}
    (hitems : items.length ≤ capacity) (hshort : rio.Completes items.length → NoneOverlong marshal items)
    {before kept : List T} (hbefore : before.Sublist (KeyedQueue.newest capacity f.items))
    (hkept : kept.Sublist items) (hfails : (rewriteFile marshal rio f items).2 ≠ none → kept.Sublist before) :
    (rewriteFile marshal rio f items).1.Scannable ∧
      kept.Sublist (KeyedQueue.newest capacity (rewriteFile marshal rio f items).1.items) := by
  rcases rewriteFile_cases marshal rio f items with ⟨hcompletes, lines, hrw, hlines, hbytes⟩ | ⟨err, hrw⟩
  · have hnew : File.items ⟨lines, none⟩ = items := by simp [File.items, File.allLines, hlines]
    rw [hrw]
    dsimp only
    rw [hnew, KeyedQueue.newest_of_le hitems]
    refine ⟨fun l hl => ?_, hkept⟩
    obtain ⟨x, hx, hxl⟩ := hbytes l (by simpa [File.allLines] using hl)
    exact hshort hcompletes x hx _ hxl
  · rw [hrw] at hfails ⊢
    exact ⟨hscan, (hfails (Option.some_ne_none err)).trans hbefore⟩

/-- What an append leaves in the file. -/
theorem AppendReads.write {s : Answered T} {io : AppendCalls} {bytes : Nat} (hreads : AppendReads s io bytes)
    (h : Reopens s) (item : T) :
    (s.file.write item bytes (io.written bytes)).Scannable ∧
      (accepted s.entries ++ if io = .done then [item] else []).Sublist (KeyedQueue.newest s.buffer.capacity
        (s.file.write item bytes (io.written bytes)).items) := by
  by_cases hzero : io.written bytes = 0
  · have hdone : io ≠ .done := by rintro rfl; simp [AppendCalls.written] at hzero
    rw [File.write, if_pos hzero, if_neg hdone, List.append_nil]
    exact ⟨h.scannable, h.loads⟩
  · have hscan : (s.file.lastLine item bytes (io.written bytes)).bytes < maxScanTokenSize →
        (s.file.write item bytes (io.written bytes)).Scannable := by
      intro hlast l hl
      rw [File.allLines_write _ _ _ hzero] at hl
      rcases List.mem_append.mp hl with hl | hl
      · exact h.scannable l (List.mem_append_left _ hl)
      · rwa [List.mem_singleton.mp hl]
    have hitems : (s.file.write item bytes (io.written bytes)).items =
        s.file.lines.filterMap Line.content ++
          (s.file.lastLine item bytes (io.written bytes)).content.toList := by
      rw [File.items, File.allLines_write _ _ _ hzero, List.filterMap_append, List.filterMap_cons]
      cases (s.file.lastLine item bytes (io.written bytes)).content <;> rfl
    have hreads := hreads hzero
    rw [hitems]
    cases htail : s.file.tail with
    | none =>
      rw [htail] at hreads
      obtain ⟨hshort, htrim⟩ := hreads
      have hlast : s.file.lastLine item bytes (io.written bytes) =
          ⟨if bytes ≤ io.written bytes then some item else none, min (io.written bytes) bytes⟩ := by
        rw [File.lastLine, htail]
      have hold : s.file.lines.filterMap Line.content = s.file.items := by
        rw [File.items, File.allLines, htail, Option.toList_none, List.append_nil]
      refine ⟨hscan (by rwa [hlast]), ?_⟩
      rw [hlast, hold]
      by_cases hwhole : bytes ≤ io.written bytes
      · rw [if_pos hwhole, Option.toList_some, KeyedQueue.newest_concat s.buffer.capacity_pos]
        refine (htrim hwhole).append ?_
        split
        · exact List.Sublist.refl _
        · exact List.nil_sublist _
      · have hdone : io ≠ .done := by rintro rfl; simp [AppendCalls.written] at hwhole
        rw [if_neg hwhole, if_neg hdone, Option.toList_none, List.append_nil, List.append_nil]
        exact h.loads
    | some torn =>
      rw [htail] at hreads
      obtain ⟨hshort, hdone, hloads⟩ := hreads
      have hlast : s.file.lastLine item bytes (io.written bytes) =
          ⟨none, torn.bytes + min (io.written bytes) bytes⟩ := by
        rw [File.lastLine, htail]
      refine ⟨hscan (by rwa [hlast]), ?_⟩
      rw [hlast, if_neg hdone, Option.toList_none, List.append_nil, List.append_nil]
      exact hloads

variable {s t : Answered T} {rio : RewriteCalls}

theorem Reopens.push (h : Reopens s) {io : AppendCalls} {item : T}
    (hop : Reopenable marshal s (.push io rio item))
    (hstep : answeredStep marshal s (.push io rio item) = some t) : Reopens t := by
  rcases s.buffer.push_cases marshal io rio s.file item with
    ⟨hdup, hpush⟩ | ⟨hnew, hfull, b', hpush, hb'⟩ | ⟨hnew, hroom, b', hpush, hb'⟩
  · simp only [Reopenable, if_pos hdup] at hop
    simp only [answeredStep, hpush, if_pos hdup, Option.some.injEq] at hstep
    subst hstep
    refine ⟨?_, h.scannable, hop⟩
    rw [← h.entries_eq, accept, List.map_map]
    rfl
  · -- the oldest item goes, and the file is rewritten
    simp only [Reopenable, if_neg hnew, hfull, Nat.le_refl, if_true] at hop
    simp only [answeredStep, hpush, if_neg hnew, hfull, Nat.le_refl, if_true, Option.some.injEq] at hstep
    have hpos := s.buffer.capacity_pos
    have hlen : (s.buffer.items.drop 1 ++ [item]).length = s.buffer.capacity := by
      rw [List.length_append, List.length_drop, List.length_singleton]
      omega
    have hentries : ∀ ok : Bool, (s.entries.drop 1 ++ [(item, ok)]).map (·.1) =
        s.buffer.items.drop 1 ++ [item] := by
      intro ok
      rw [List.map_append, List.map_drop, h.entries_eq]
      rfl
    have hloads' := @rewrite_loads _ marshal s.buffer.capacity s.file h.scannable rio _ (Nat.le_of_eq hlen)
      (by rwa [hlen]) _ (accepted (s.entries.drop 1 ++
        [(item, (rewriteFile marshal rio s.file (s.buffer.items.drop 1 ++ [item])).2.isNone)])) h.loads
      (accepted_sublist (hentries _)) (by
        intro hfails
        rw [Option.isNone_eq_false_iff.mpr (Option.isSome_iff_ne_none.mpr hfails), accepted_append]
        simpa using accepted_mono (List.drop_sublist 1 s.entries))
    subst hstep
    refine ⟨(hentries _).trans hb'.items_eq.symm, hloads'.1, ?_⟩
    dsimp only
    rw [hb'.capacity_eq]
    exact hloads'.2
  · -- nothing is evicted, and the item's line is appended
    simp only [Reopenable, if_neg hnew, if_neg (Nat.not_le.mpr hroom)] at hop
    simp only [answeredStep, hpush, if_neg hnew, if_neg (Nat.not_le.mpr hroom), Option.some.injEq] at hstep
    have hentries : (s.entries ++ [(item, (appendLine marshal io s.file item).2.isNone)]).map (·.1) =
        b'.items := by
      rw [hb'.items_eq, List.map_append, h.entries_eq]
      rfl
    subst hstep
    rcases appendLine_cases marshal io s.file item with
      ⟨err, -, happend⟩ | ⟨bytes, err, hbytes, happend, herr⟩
    · refine ⟨hentries, by rw [happend]; exact h.scannable, ?_⟩
      dsimp only
      rw [happend, hb'.capacity_eq, accepted_append]
      simpa using h.loads
    · obtain ⟨hscan', hloads'⟩ := (hop bytes hbytes).write h item
      refine ⟨hentries, by rw [happend]; exact hscan', ?_⟩
      dsimp only
      rw [happend, hb'.capacity_eq, accepted_append]
      simpa only [Option.isNone_iff_eq_none, herr] using hloads'

theorem Reopens.remove (h : Reopens s) {key : String} (hop : Reopenable marshal s (.remove rio key))
    (hstep : answeredStep marshal s (.remove rio key) = some t) : Reopens t := by
  rcases s.buffer.remove_cases marshal rio s.file key with
    ⟨hnone, hremove⟩ | ⟨keyOf, hkey, x, hx, hxk, b', hremove, hb'⟩
  · have hentries : (match s.buffer.keyFn with
        | none => s.entries
        | some keyOf => s.entries.eraseP fun e => keyOf e.1 = key) = s.entries := by
      split
      · rfl
      · next keyOf hkey =>
        refine List.eraseP_of_forall_not fun e he => ?_
        rw [decide_eq_true_eq]
        exact hnone keyOf hkey e.1 (h.entries_eq ▸ List.mem_map_of_mem he)
    simp only [answeredStep, hremove, hentries, Option.some.injEq] at hstep
    exact hstep ▸ h
  · have hentries : (s.entries.eraseP fun e => keyOf e.1 = key).map (·.1) =
        s.buffer.items.eraseP (keyOf · = key) := by
      rw [← h.entries_eq, List.eraseP_map]
      rfl
    have hany : s.buffer.items.any (fun x => keyOf x = key) :=
      List.any_eq_true.mpr ⟨x, hx, by simpa using hxk⟩
    have hloads' := @rewrite_loads _ marshal s.buffer.capacity s.file h.scannable rio _
      (Nat.le_trans List.length_eraseP_le s.buffer.length_le) (hop keyOf hkey hany) _
      (accepted (s.entries.eraseP fun e => keyOf e.1 = key)) h.loads (accepted_sublist hentries)
      fun _ => accepted_mono List.eraseP_sublist
    simp only [answeredStep, hremove, Option.mem_def.mp hkey, Option.some.injEq] at hstep
    subst hstep
    refine ⟨hentries.trans hb'.items_eq.symm, hloads'.1, ?_⟩
    dsimp only
    rw [hb'.capacity_eq]
    exact hloads'.2

theorem Reopens.drainAll (h : Reopens s) {tio : TruncateCalls} (hop : Reopenable marshal s (.drainAll tio))
    (hstep : answeredStep marshal s (.drainAll tio) = some t) : Reopens t := by
  have hempty : File.Scannable (⟨[], none⟩ : File T) := fun l hl => by simp [File.allLines] at hl
  rcases s.buffer.drainAll_cases tio s.file with
    ⟨hnil, hdrain⟩ | ⟨hne, err, herr, hdrain⟩ | ⟨-, -, b', hdrain, hb'⟩ <;>
    simp only [answeredStep, hdrain, Except.toOption, Option.isSome_some, Option.isSome_none, if_true,
      Bool.false_eq_true, if_false, Option.some.injEq] at hstep <;> subst hstep
  · exact ⟨hnil.symm, h.scannable, List.nil_sublist _⟩
  · cases tio with
    | done => cases herr
    | openFails e => exact h
    | closeFails e =>
      have haccepted : accepted s.entries = [] := (hop hne).resolve_left fun hnot => hnot e rfl
      exact ⟨h.entries_eq, hempty, haccepted ▸ List.nil_sublist _⟩
  · exact ⟨hb'.items_eq.symm, hempty, List.nil_sublist _⟩

theorem Reopens.step (h : Reopens s) {op : FaultyOp T} (hop : Reopenable marshal s op)
    (hstep : answeredStep marshal s op = some t) : Reopens t := by
  cases op with
  | push io rio item => exact h.push hop hstep
  | remove rio key => exact h.remove hop hstep
  | drainAll tio => exact h.drainAll hop hstep
  | flush rio =>
    cases hstep
    obtain ⟨hscan', hloads'⟩ := @rewrite_loads _ marshal s.buffer.capacity s.file h.scannable rio _
      s.buffer.length_le hop _ (accepted s.entries) h.loads (accepted_sublist h.entries_eq)
      fun _ => List.Sublist.refl _
    exact ⟨h.entries_eq, hscan', hloads'⟩

theorem answeredStep_capacity {op : FaultyOp T} (hstep : answeredStep marshal s op = some t) :
    t.buffer.capacity = s.buffer.capacity := by
  cases op <;> simp only [answeredStep, Option.some.injEq] at hstep <;> subst hstep <;> simp

end

/-! ## Runs -/

end Svarla.Buffer
