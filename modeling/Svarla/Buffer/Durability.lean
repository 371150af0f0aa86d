import Svarla.Lib.Run
import Svarla.Buffer.Persistent

/-!
# What a successful push is worth when file operations fail

`smsdelivery.go` and the SMS handler delete a message from the modem once a push has returned nil.
A `Ledger` follows a keyed buffer through any sequence of operations whose file operations may fail,
and notes the keys whose last push returned nil and which have not been removed, drained or evicted
since: the keys the file has to give back.

It does not always give them back. `Push` changes memory before it writes, and a later push of the
key is suppressed by memory alone and returns nil (`exec_failed_append`). The other ways to lose a
key start from the same cause, an operation that failed halfway and went unrepaired: an append behind
a torn line, a drain that fails with the file already empty, lines of deleted items that push others
out of the load. `OnDisk` is the condition that excludes them, and `exec_promised_loads` is the run
theorem: as long as every operation meets it, every promised key is in a buffer loaded from the file.
-/

namespace Svarla.Buffer

open Svarla.Lib

/-- An operation and what happens to its file operations. -/
inductive FaultyOp (T : Type)
  | push (io : AppendCalls) (rio : RewriteCalls) (item : T)
  | remove (rio : RewriteCalls) (key : String)
  | drainAll (tio : TruncateCalls)
  | flush (rio : RewriteCalls)

/-- A buffer, its file, and the keys a caller may rely on. -/
structure Ledger (T : Type) where
  buffer : PersistentBuffer T
  file : File T
  /-- The keys of pushes that returned nil, and that were not removed, drained or evicted since. -/
  promised : List String

section
variable {T : Type} (marshal : T → Except String Nat) (keyOf : T → String)

/-- The keys a load of the file gives, none if the load fails. -/
def File.loadedKeys (capacity : Nat) (f : File T) : List String :=
  match loadFromDisk capacity .done f with
  | .ok items => items.map keyOf
  | .error _ => []

/-- The keys a push evicts. -/
def evictedKeys (b : PersistentBuffer T) (item : T) : List String :=
  if KeyedQueue.HasKeyOf b.keyFn b.items item then []
  else if b.capacity ≤ b.items.length then (b.items.take 1).map keyOf
  else []

/-- One operation, with what becomes of the promises. -/
def faultyStep (s : Ledger T) : FaultyOp T → Option (Ledger T)
  | .push io rio item =>
    let (b, f, err) := s.buffer.push marshal io rio s.file item
    let kept := s.promised.filter (· ∉ evictedKeys keyOf s.buffer item)
    some ⟨b, f, if err = none then keyOf item :: kept else kept⟩
  | .remove rio key =>
    let (b, f, _) := s.buffer.remove marshal rio s.file key
    some ⟨b, f, s.promised.filter (· ≠ key)⟩
  | .drainAll tio =>
    let (b, f, result) := s.buffer.drainAll tio s.file
    some ⟨b, f, if result.toOption.isSome then [] else s.promised⟩
  | .flush rio => some { s with file := (s.buffer.flush marshal rio s.file).1 }

/-- No item is too long for a line a load can read. -/
def NoneOverlong (items : List T) : Prop :=
  ∀ x ∈ items, ∀ n, marshal x = .ok n → n < maxScanTokenSize

/-- The promised keys are among the keys of some items. -/
def Covers (items : List T) (promised : List String) : Prop :=
  ∀ k ∈ promised, k ∈ items.map keyOf

/-- An append of a line of `bytes` bytes loses nothing that is promised: what it writes stays
readable; behind a whole line, load's trimming finds no promised key among the items it drops; and
behind a torn line it does not claim success, and no promised key is on the torn line. -/
def AppendKeeps (s : Ledger T) (io : AppendCalls) (bytes : Nat) : Prop :=
  io.written bytes ≠ 0 →
    match s.file.tail with
    | none => min (io.written bytes) bytes < maxScanTokenSize ∧
        (bytes ≤ io.written bytes → Covers keyOf
          (s.file.items.drop (s.file.items.length + 1 - s.buffer.capacity)) s.promised)
    | some torn => torn.bytes + min (io.written bytes) bytes < maxScanTokenSize ∧ io ≠ .done ∧
        Covers keyOf (KeyedQueue.newest s.buffer.capacity (s.file.lines.filterMap Line.content))
          s.promised

/-- The condition on an operation, in the state before it. -/
def OnDisk (s : Ledger T) : FaultyOp T → Prop
  | .push io rio item =>
    if KeyedQueue.HasKeyOf s.buffer.keyFn s.buffer.items item then
      -- suppressed by memory: the file must have the key as well
      keyOf item ∈ s.file.loadedKeys keyOf s.buffer.capacity
    else if s.buffer.capacity ≤ s.buffer.items.length then
      rio.Completes s.buffer.capacity → NoneOverlong marshal (s.buffer.items.drop 1 ++ [item])
    else ∀ bytes, marshal item = .ok bytes → AppendKeeps keyOf s io bytes
  | .remove rio key =>
    let left := s.buffer.items.eraseP (keyOf · = key)
    left ≠ s.buffer.items → rio.Completes left.length → NoneOverlong marshal left
  | .drainAll tio =>
    s.buffer.items ≠ [] → (∀ err, tio ≠ .closeFails err) ∨ s.promised = []
  | .flush rio => rio.Completes s.buffer.items.length → NoneOverlong marshal s.buffer.items

end

/-! ## One operation -/

section
variable {T : Type} {marshal : T → Except String Nat} {keyOf : T → String}

/-- What holds between the operations: the promised keys are in memory, and in what a load gives. -/
structure Kept (keyOf : T → String) (s : Ledger T) : Prop where
  keyFn_eq : s.buffer.keyFn = some keyOf
  scannable : s.file.Scannable
  in_memory : Covers keyOf s.buffer.items s.promised
  on_disk : Covers keyOf (KeyedQueue.newest s.buffer.capacity s.file.items) s.promised

/-- More items and fewer promises. -/
theorem Covers.mono {items items' : List T} {promised promised' : List String}
    (h : Covers keyOf items promised) (hitems : ∀ x ∈ items, x ∈ items')
    (hpromised : ∀ k ∈ promised', k ∈ promised) : Covers keyOf items' promised' := by
  intro k hk
  obtain ⟨x, hx, hxk⟩ := List.mem_map.mp (h k (hpromised k hk))
  exact List.mem_map.mpr ⟨x, hitems x hx, hxk⟩

/-- Nothing is promised. -/
theorem covers_nil (items : List T) : Covers keyOf items [] := by
  intro k hk
  cases hk

/-- The loaded keys of a file that can be read. -/
theorem loadedKeys_eq {f : File T} (h : f.Scannable) (capacity : Nat) :
    f.loadedKeys keyOf capacity = (KeyedQueue.newest capacity f.items).map keyOf := by
  rw [File.loadedKeys, loadFromDisk_done h]

/-- What an append leaves in the file. -/
theorem AppendKeeps.write {s : Ledger T} {io : AppendCalls} {bytes : Nat}
    (hkeeps : AppendKeeps keyOf s io bytes) (h : Kept keyOf s) (item : T) :
    (s.file.write item bytes (io.written bytes)).Scannable ∧
      Covers keyOf (KeyedQueue.newest s.buffer.capacity
        (s.file.write item bytes (io.written bytes)).items) s.promised ∧
      (io = .done → keyOf item ∈ (KeyedQueue.newest s.buffer.capacity
        (s.file.write item bytes (io.written bytes)).items).map keyOf) := by
  by_cases hzero : io.written bytes = 0
  · have hdone : io ≠ .done := by rintro rfl; simp [AppendCalls.written] at hzero
    simpa [File.write, hzero, hdone] using ⟨h.scannable, h.on_disk⟩
  · have hscan : ∀ l, l.bytes < maxScanTokenSize → s.file.lastLine item bytes (io.written bytes) = l →
        (s.file.write item bytes (io.written bytes)).Scannable := by
      intro l hl hlast x hx
      rw [File.allLines_write _ _ _ hzero, hlast] at hx
      rcases List.mem_append.mp hx with hx | hx
      · exact h.scannable x (by simp [File.allLines, hx])
      · rwa [List.mem_singleton.mp hx]
    have hitems := congrArg (List.filterMap Line.content)
      (File.allLines_write s.file item bytes hzero)
    have hkeeps := hkeeps hzero
    cases htail : s.file.tail with
    | none =>
      rw [htail] at hkeeps
      obtain ⟨hshort, htrim⟩ := hkeeps
      have hlast : s.file.lastLine item bytes (io.written bytes) =
          ⟨if bytes ≤ io.written bytes then some item else none, min (io.written bytes) bytes⟩ := by
        rw [File.lastLine, htail]
      have hold : s.file.lines.filterMap Line.content = s.file.items := by
        simp [File.items, File.allLines, htail]
      rw [List.filterMap_append, hlast, hold] at hitems
      refine ⟨hscan _ hshort hlast, ?_⟩
      rw [File.items, hitems]
      by_cases hwhole : bytes ≤ io.written bytes
      · rw [if_pos hwhole]
        simp only [List.filterMap_cons, List.filterMap_nil]
        rw [KeyedQueue.newest_concat s.buffer.capacity_pos]
        exact ⟨(htrim hwhole).mono (fun x hx => List.mem_append_left _ hx) (fun k hk => hk),
          fun _ => by simp⟩
      · rw [if_neg hwhole]
        have hdone : io ≠ .done := by rintro rfl; simp [AppendCalls.written] at hwhole
        simpa [hdone] using h.on_disk
    | some torn =>
      rw [htail] at hkeeps
      obtain ⟨hshort, hdone, hcovers⟩ := hkeeps
      have hlast : s.file.lastLine item bytes (io.written bytes) =
          ⟨none, torn.bytes + min (io.written bytes) bytes⟩ := by
        rw [File.lastLine, htail]
      rw [List.filterMap_append, hlast] at hitems
      refine ⟨hscan _ hshort hlast, ?_⟩
      rw [File.items, hitems]
      simpa [hdone] using hcovers

/-- What a rewrite leaves in the file. -/
theorem Kept.rewrite {s : Ledger T} (h : Kept keyOf s) (marshal : T → Except String Nat)
    (rio : RewriteCalls) {items : List T} (hitems : items.length ≤ s.buffer.capacity)
    (hshort : rio.Completes items.length → NoneOverlong marshal items) {promised : List String}
    (hpromised : ∀ k ∈ promised, k ∈ s.promised) (hmem : Covers keyOf items promised) :
    (rewriteFile marshal rio s.file items).1.Scannable ∧
      Covers keyOf (KeyedQueue.newest s.buffer.capacity (rewriteFile marshal rio s.file items).1.items)
        promised ∧
      ((rewriteFile marshal rio s.file items).2 = none →
        KeyedQueue.newest s.buffer.capacity (rewriteFile marshal rio s.file items).1.items = items) := by
  rcases rewriteFile_cases marshal rio s.file items with
    ⟨hcompletes, lines, hrw, hlines, hbytes⟩ | ⟨err, hrw⟩
  · have hnew : File.items ⟨lines, none⟩ = items := by simp [File.items, File.allLines, hlines]
    rw [hrw]
    dsimp only
    rw [hnew, KeyedQueue.newest_of_le hitems]
    refine ⟨?_, hmem, fun _ => rfl⟩
    intro l hl
    obtain ⟨x, hx, hxl⟩ := hbytes l (by simpa [File.allLines] using hl)
    exact hshort hcompletes x hx _ hxl
  · rw [hrw]
    exact ⟨h.scannable, h.on_disk.mono (fun x hx => hx) hpromised, by simp⟩

/-- A push keeps the promises and may add one. -/
theorem Kept.push {s t : Ledger T} (h : Kept keyOf s) {io : AppendCalls} {rio : RewriteCalls} {item : T}
    (hop : OnDisk marshal keyOf s (.push io rio item))
    (hstep : faultyStep marshal keyOf s (.push io rio item) = some t) : Kept keyOf t := by
  obtain ⟨hkey, hscan, hmem, hdisk⟩ := h
  rcases s.buffer.push_cases marshal io rio s.file item with
    ⟨hdup, hpush⟩ | ⟨hnew, hfull, b', hpush, hb'⟩ | ⟨hnew, hroom, b', hpush, hb'⟩
  · -- suppressed: the key is in memory, and by the condition in the file
    simp only [OnDisk, if_pos hdup, loadedKeys_eq hscan] at hop
    simp only [faultyStep, hpush, evictedKeys, if_pos hdup, if_true, Option.some.injEq] at hstep
    obtain ⟨f, hf, y, hy, hyx⟩ := hdup
    rw [hkey] at hf
    cases hf
    subst hstep
    refine ⟨hkey, hscan, ?_, ?_⟩
    · intro k hk
      rcases List.mem_cons.mp hk with rfl | hk
      · exact List.mem_map.mpr ⟨y, hy, hyx⟩
      · exact hmem k (List.mem_of_mem_filter hk)
    · intro k hk
      rcases List.mem_cons.mp hk with rfl | hk
      · exact hop
      · exact hdisk k (List.mem_of_mem_filter hk)
  · -- the oldest item and its promise go, and the file is rewritten
    simp only [OnDisk, if_neg hnew, hfull, Nat.le_refl, if_true] at hop
    simp only [faultyStep, hpush, evictedKeys, if_neg hnew, hfull, Nat.le_refl, if_true,
      Option.some.injEq] at hstep
    have hpos := s.buffer.capacity_pos
    have hlen : (s.buffer.items.drop 1 ++ [item]).length = s.buffer.capacity := by
      rw [List.length_append, List.length_drop, List.length_singleton]
      omega
    have hleft : Covers keyOf (s.buffer.items.drop 1 ++ [item])
        (s.promised.filter (· ∉ (s.buffer.items.take 1).map keyOf)) := by
      intro k hk
      obtain ⟨hk, hkept⟩ := List.mem_filter.mp hk
      obtain ⟨x, hx, hxk⟩ := List.mem_map.mp (hmem k hk)
      rw [← List.take_append_drop 1 s.buffer.items] at hx
      rcases List.mem_append.mp hx with hx | hx
      · exact absurd (List.mem_map.mpr ⟨x, hx, hxk⟩) (by simpa using hkept)
      · exact List.mem_map.mpr ⟨x, List.mem_append_left _ hx, hxk⟩
    obtain ⟨hscan', hdisk', hsucc⟩ := Kept.rewrite ⟨hkey, hscan, hmem, hdisk⟩ marshal rio
      (Nat.le_of_eq hlen) (by rwa [hlen]) (fun k hk => List.mem_of_mem_filter hk) hleft
    subst hstep
    refine ⟨hb'.keyFn_eq.trans hkey, hscan', ?_, ?_⟩
    · dsimp only
      rw [hb'.items_eq]
      split
      · intro k hk
        rcases List.mem_cons.mp hk with rfl | hk
        · simp
        · exact hleft k hk
      · exact hleft
    · dsimp only
      rw [hb'.capacity_eq]
      split
      · next hnil =>
        intro k hk
        rcases List.mem_cons.mp hk with rfl | hk
        · rw [hsucc hnil]
          simp
        · exact hdisk' k hk
      · exact hdisk'
  · -- nothing is evicted, and the item's line is appended
    simp only [OnDisk, if_neg hnew, if_neg (Nat.not_le.mpr hroom)] at hop
    have hevicted : s.promised.filter (· ∉ evictedKeys keyOf s.buffer item) = s.promised := by
      rw [evictedKeys, if_neg hnew, if_neg (Nat.not_le.mpr hroom)]
      simp
    simp only [faultyStep, hpush, hevicted, Option.some.injEq] at hstep
    have hmem' : Covers keyOf (s.buffer.items ++ [item]) s.promised :=
      hmem.mono (fun x hx => List.mem_append_left _ hx) (fun k hk => hk)
    subst hstep
    rcases appendLine_cases marshal io s.file item with
      ⟨err, -, happend⟩ | ⟨bytes, err, hbytes, happend, herr⟩
    · rw [happend]
      exact ⟨hb'.keyFn_eq.trans hkey, hscan, by simpa [hb'.items_eq] using hmem',
        by simpa [hb'.capacity_eq] using hdisk⟩
    · obtain ⟨hscan', hdisk', hdone⟩ := (hop bytes hbytes).write ⟨hkey, hscan, hmem, hdisk⟩
        item
      rw [happend]
      refine ⟨hb'.keyFn_eq.trans hkey, hscan', ?_, ?_⟩
      · dsimp only
        rw [hb'.items_eq]
        split
        · intro k hk
          rcases List.mem_cons.mp hk with rfl | hk
          · simp
          · exact hmem' k hk
        · exact hmem'
      · dsimp only
        rw [hb'.capacity_eq]
        split
        · next hnil =>
          intro k hk
          rcases List.mem_cons.mp hk with rfl | hk
          · exact hdone (herr.mp hnil)
          · exact hdisk' k hk
        · exact hdisk'

/-- A removal keeps the promises on the other keys. -/
theorem Kept.remove {s t : Ledger T} (h : Kept keyOf s) {rio : RewriteCalls} {key : String}
    (hop : OnDisk marshal keyOf s (.remove rio key))
    (hstep : faultyStep marshal keyOf s (.remove rio key) = some t) : Kept keyOf t := by
  have hkept : ∀ k ∈ s.promised.filter (· ≠ key), k ∈ s.promised :=
    fun k hk => List.mem_of_mem_filter hk
  rcases s.buffer.remove_cases marshal rio s.file key with
    ⟨-, hremove⟩ | ⟨f, hf, x, hx, hxk, b', hremove, hb'⟩
  · simp only [faultyStep, hremove, Option.some.injEq] at hstep
    subst hstep
    exact ⟨h.keyFn_eq, h.scannable, h.in_memory.mono (fun x hx => hx) hkept,
      h.on_disk.mono (fun x hx => hx) hkept⟩
  · rw [h.keyFn_eq] at hf
    cases hf
    simp only [faultyStep, hremove, Option.some.injEq] at hstep
    have hne : s.buffer.items.eraseP (keyOf · = key) ≠ s.buffer.items := by
      intro heq
      have hlen := List.length_eraseP_of_mem (p := (keyOf · = key)) hx (by simpa using hxk)
      have hpos := List.length_pos_of_mem hx
      rw [heq] at hlen
      omega
    have hleft : Covers keyOf (s.buffer.items.eraseP (keyOf · = key))
        (s.promised.filter (· ≠ key)) := by
      intro k hk
      obtain ⟨hk, hne⟩ := List.mem_filter.mp hk
      obtain ⟨y, hy, rfl⟩ := List.mem_map.mp (h.in_memory k hk)
      refine List.mem_map.mpr ⟨y, ?_, rfl⟩
      exact (List.mem_eraseP_of_neg (by simpa using hne)).mpr hy
    obtain ⟨hscan', hdisk', -⟩ := h.rewrite marshal rio
      (Nat.le_trans List.length_eraseP_le s.buffer.length_le) (hop hne) hkept hleft
    subst hstep
    exact ⟨hb'.keyFn_eq.trans h.keyFn_eq, hscan', by simpa [hb'.items_eq] using hleft,
      by simpa [hb'.capacity_eq] using hdisk'⟩

/-- A drain gives up every promise, or keeps file and memory. -/
theorem Kept.drainAll {s t : Ledger T} (h : Kept keyOf s) {tio : TruncateCalls}
    (hop : OnDisk marshal keyOf s (.drainAll tio))
    (hstep : faultyStep marshal keyOf s (.drainAll tio) = some t) : Kept keyOf t := by
  rcases s.buffer.drainAll_cases tio s.file with
    ⟨-, hdrain⟩ | ⟨hne, err, herr, hdrain⟩ | ⟨-, -, b', hdrain, hb'⟩
  · simp only [faultyStep, hdrain, Except.toOption, Option.isSome_some, if_true,
      Option.some.injEq] at hstep
    subst hstep
    exact ⟨h.keyFn_eq, h.scannable, covers_nil _, covers_nil _⟩
  · simp only [faultyStep, hdrain, Except.toOption, Option.isSome_none, Bool.false_eq_true, if_false,
      Option.some.injEq] at hstep
    subst hstep
    cases tio with
    | done => cases herr
    | openFails e => exact h
    | closeFails e =>
      rcases hop hne with hnot | hnil
      · exact absurd rfl (hnot e)
      · refine ⟨h.keyFn_eq, ?_, by rw [hnil]; exact covers_nil _, by rw [hnil]; exact covers_nil _⟩
        intro l hl
        simp [truncateFile, File.allLines] at hl
  · simp only [faultyStep, hdrain, Except.toOption, Option.isSome_some, if_true,
      Option.some.injEq] at hstep
    subst hstep
    refine ⟨hb'.keyFn_eq.trans h.keyFn_eq, ?_, covers_nil _, covers_nil _⟩
    intro l hl
    simp [File.allLines] at hl

/-- **An operation that meets the condition keeps the promises.** -/
theorem Kept.step {s t : Ledger T} (h : Kept keyOf s) {op : FaultyOp T}
    (hop : OnDisk marshal keyOf s op) (hstep : faultyStep marshal keyOf s op = some t) :
    Kept keyOf t := by
  cases op with
  | push io rio item => exact h.push hop hstep
  | remove rio key => exact h.remove hop hstep
  | drainAll tio => exact h.drainAll hop hstep
  | flush rio =>
    cases hstep
    obtain ⟨hscan', hdisk', -⟩ := h.rewrite marshal rio s.buffer.length_le hop
      (fun k hk => hk) h.in_memory
    exact ⟨h.keyFn_eq, hscan', h.in_memory, hdisk'⟩

/-- No operation changes the capacity. -/
theorem faultyStep_capacity {s t : Ledger T} {op : FaultyOp T}
    (hstep : faultyStep marshal keyOf s op = some t) : t.buffer.capacity = s.buffer.capacity := by
  cases op <;> simp only [faultyStep, Option.some.injEq] at hstep <;> subst hstep <;> simp

end

/-! ## Runs -/

/-- **A successful push is on disk, over whole runs.** A keyed buffer is opened on a file, and its
operations meet the condition. Whatever file operations fail, a buffer loaded from the file then
has every key whose push returned nil, until the key is removed, drained or evicted. -/
theorem exec_promised_loads {T : Type} (marshal : T → Except String Nat) (keyOf : T → String)
    {capacity : Int} {f : File T} {b : PersistentBuffer T}
    (hopen : PersistentBuffer.newKeyed capacity (some keyOf) .done f = .ok b)
    {ops : List (FaultyOp T)} {s : Ledger T}
    (hops : Guarded (faultyStep marshal keyOf) (OnDisk marshal keyOf) ⟨b, f, []⟩ ops)
    (hrun : exec (faultyStep marshal keyOf) ⟨b, f, []⟩ ops = some s) :
    ∃ loaded, PersistentBuffer.newKeyed capacity (some keyOf) .done s.file = .ok loaded ∧
      ∀ k ∈ s.promised, k ∈ loaded.items.map keyOf := by
  have hpos : 0 < capacity := by
    by_contra hle
    rw [PersistentBuffer.newKeyed, dif_pos (by omega)] at hopen
    cases hopen
  obtain ⟨hscan, -, hkey, hcap⟩ := PersistentBuffer.newKeyed_ok hopen
  have hstart : Kept keyOf ⟨b, f, []⟩ ∧ b.capacity = capacity.toNat :=
    ⟨⟨hkey, hscan, covers_nil _, covers_nil _⟩, hcap⟩
  obtain ⟨hkept, hcap'⟩ := hops.invariant
    (fun s op t hs hop hstep => And.intro (hs.1.step hop hstep)
      ((faultyStep_capacity hstep).trans hs.2)) hstart hrun
  obtain ⟨loaded, hloaded⟩ :=
    PersistentBuffer.newKeyed_of_scannable hpos (some keyOf) hkept.scannable
  obtain ⟨-, hitems, -, hcapLoaded⟩ := PersistentBuffer.newKeyed_ok hloaded
  refine ⟨loaded, hloaded, fun k hk => ?_⟩
  rw [hitems, hcapLoaded, ← hcap']
  exact hkept.on_disk k hk

/-- A fresh buffer of strings, each its own key. -/
def freshLedger : Ledger String :=
  ⟨(fresh 1000 (by decide) (some id)).1, ⟨[], none⟩, []⟩

/-- A run with a failed push: the other key is promised and loaded. -/
theorem exec_promised_loads_run :
    ∃ s, exec (faultyStep quotedBytes id) freshLedger
        [.push (.openFails "no space left on device") .done "b", .push .done .done "a"] = some s ∧
      ∃ loaded, PersistentBuffer.newKeyed 1000 (some id) .done s.file = .ok loaded ∧
        ∀ k ∈ s.promised, k ∈ loaded.items.map id := by
  have hfirst : OnDisk quotedBytes id freshLedger
      (.push (.openFails "no space left on device") .done "b") := by
    intro bytes _ hwritten
    exact absurd rfl hwritten
  have hsecond : ∀ t, faultyStep quotedBytes id freshLedger
      (.push (.openFails "no space left on device") .done "b") = some t →
      Guarded (faultyStep quotedBytes id) (OnDisk quotedBytes id) t [.push .done .done "a"] := by
    intro t ht
    cases ht
    refine ⟨fun bytes hbytes _ => ?_, fun _ _ => trivial⟩
    cases hbytes
    exact ⟨by decide, fun _ => covers_nil _⟩
  have hops : Guarded (faultyStep quotedBytes id) (OnDisk quotedBytes id) freshLedger
      [.push (.openFails "no space left on device") .done "b", .push .done .done "a"] :=
    ⟨hfirst, hsecond⟩
  exact ⟨_, rfl, exec_promised_loads quotedBytes id (newKeyed_fresh (by decide) (some id)) hops rfl⟩

/-- **Suppression without a file.** The first push of a key fails before it writes, the second
returns nil, and a buffer loaded from the file does not have the key. -/
theorem exec_failed_append :
    ∃ s, exec (faultyStep quotedBytes id) freshLedger
        [.push (.openFails "no space left on device") .done "a", .push .done .done "a"] = some s ∧
      s.promised = ["a"] ∧ loadFromDisk 1000 .done s.file = .ok [] :=
  ⟨_, rfl, by decide, by decide⟩

end Svarla.Buffer
