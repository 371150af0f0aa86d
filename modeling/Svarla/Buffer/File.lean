import Svarla.Lib.KeyedQueue

/-!
# The backing file of a persistent buffer

`modem-gateway/internal/buffer/buffer.go`, its file operations: `appendLine`, `rewriteFile`,
the truncation of `DrainAll` and `loadFromDisk`. Every one of them takes the outcome of its system
calls as an argument, so that a fault can be placed anywhere.

The file is its lines, and what stands after the last newline: an append that is cut short leaves a
torn line there, and the next append goes on behind it. A line is kept as what `json.Unmarshal`
makes of it, with its length. An item marshals to one JSON object, so a proper beginning of its
line is no item, and neither is anything written behind a torn line.
-/

namespace Svarla.Buffer

open Svarla.Lib

/-- A line of the file: the item it holds, if it is well formed, and its bytes without the
newline. -/
structure Line (T : Type) where
  content : Option T
  bytes : Nat
  deriving DecidableEq, Repr

/-- The backing file; one that does not exist holds nothing. -/
structure File (T : Type) where
  /-- The lines that end in a newline. -/
  lines : List (Line T)
  /-- What follows the last newline. -/
  tail : Option (Line T)
  deriving DecidableEq, Repr

/-! ## Outcomes of system calls -/

/-- What happens to the calls of `appendLine`. -/
inductive AppendCalls
  /-- Everything succeeds. -/
  | done
  /-- `os.OpenFile` fails. -/
  | openFails (err : String)
  /-- `f.Write` stops after `n` bytes. -/
  | writeFails (n : Nat) (err : String)
  /-- `f.Sync` fails. -/
  | syncFails (err : String)
  deriving DecidableEq, Repr

/-- What happens to the calls of `rewriteFile`. -/
inductive RewriteCalls
  /-- Everything succeeds. -/
  | done
  /-- `os.OpenFile` fails. -/
  | createFails (err : String)
  /-- `writer.Write` fails at item `i`. -/
  | writeFails (i : Nat) (err : String)
  /-- `writer.Flush` fails. -/
  | flushFails (err : String)
  /-- `f.Sync` fails. -/
  | syncFails (err : String)
  /-- `f.Close` fails. -/
  | closeFails (err : String)
  /-- `os.Rename` fails. -/
  | renameFails (err : String)
  deriving DecidableEq, Repr

/-- The error of `writer.Write` at item `i`. -/
def RewriteCalls.writeErr (i : Nat) : RewriteCalls → Option String
  | .writeFails j err => if i = j then some err else none
  | _ => none

/-- What happens to `os.WriteFile(b.path, nil, 0644)`. -/
inductive TruncateCalls
  /-- Everything succeeds. -/
  | done
  /-- Opening with `O_TRUNC` fails. -/
  | openFails (err : String)
  /-- Closing fails, the file truncated. -/
  | closeFails (err : String)
  deriving DecidableEq, Repr

/-- What happens to the calls of `loadFromDisk`. -/
inductive LoadCalls
  /-- Everything succeeds, or the file does not exist. -/
  | done
  /-- `os.Open` fails otherwise. -/
  | openFails (err : String)
  /-- A read fails. -/
  | readFails (err : String)
  deriving DecidableEq, Repr

/-! ## The operations -/

section
variable {T : Type} (marshal : T → Except String Nat)

/-- The line that stands last when the first `n` bytes of an item's line were written. Behind a torn
line it is no item. -/
def File.lastLine (f : File T) (item : T) (bytes n : Nat) : Line T :=
  match f.tail with
  | none => ⟨if bytes ≤ n then some item else none, min n bytes⟩
  | some torn => ⟨none, torn.bytes + min n bytes⟩

/-- The first `n` bytes of an item's line, newline included, reach the end of the file. -/
def File.write (f : File T) (item : T) (bytes n : Nat) : File T :=
  if n = 0 then f
  else if bytes < n then ⟨f.lines ++ [f.lastLine item bytes n], none⟩
  else ⟨f.lines, some (f.lastLine item bytes n)⟩

/-- `appendLine`, with its error. -/
def appendLine (io : AppendCalls) (f : File T) (item : T) : File T × Option String :=
  match io with
  | .openFails err => (f, some s!"buffer: failed to open file for append: {err}")
  | io =>
    match marshal item with
    | .error err => (f, some s!"buffer: failed to marshal item: {err}")
    | .ok bytes =>
      match io with
      | .writeFails n err =>
        (f.write item bytes (min n bytes), some s!"buffer: failed to write to file: {err}")
      | .syncFails err => (f.write item bytes (bytes + 1), some err)
      | _ => (f.write item bytes (bytes + 1), none)

/-- The loop of `rewriteFile`: the lines of the temporary file, from item `i` on. -/
def rewriteLines (io : RewriteCalls) : Nat → List T → Except String (List (Line T))
  | _, [] => .ok []
  | i, item :: rest =>
    match marshal item with
    | .error err => .error s!"buffer: failed to marshal item: {err}"
    | .ok bytes =>
      match io.writeErr i with
      | some err => .error s!"buffer: failed to write to temp file: {err}"
      | none => (rewriteLines io (i + 1) rest).map (⟨some item, bytes⟩ :: ·)

/-- `rewriteFile`, with its error: the temporary file takes the place of the old one in the end, or
the old one stays. -/
def rewriteFile (io : RewriteCalls) (f : File T) (items : List T) : File T × Option String :=
  match io with
  | .createFails err => (f, some s!"buffer: failed to create temp file: {err}")
  | io =>
    match rewriteLines marshal io 0 items with
    | .error err => (f, some err)
    | .ok lines =>
      match io with
      | .flushFails err => (f, some s!"buffer: failed to flush temp file: {err}")
      | .syncFails err => (f, some s!"buffer: failed to sync temp file: {err}")
      | .closeFails err => (f, some s!"buffer: failed to close temp file: {err}")
      | .renameFails err => (f, some s!"buffer: failed to rename temp file: {err}")
      | _ => (⟨lines, none⟩, none)

end

section
variable {T : Type}

/-- `os.WriteFile(b.path, nil, 0644)`, with its error. -/
def truncateFile (io : TruncateCalls) (f : File T) : File T × Option String :=
  match io with
  | .done => (⟨[], none⟩, none)
  | .openFails err => (f, some s!"buffer: failed to truncate file: {err}")
  | .closeFails err => (⟨[], none⟩, some s!"buffer: failed to truncate file: {err}")

/-- The lines a scanner sees, the last one with or without its newline. -/
def File.allLines (f : File T) : List (Line T) := f.lines ++ f.tail.toList

/-- The items on the well-formed lines. -/
def File.items (f : File T) : List T := f.allLines.filterMap Line.content

/-- `bufio.MaxScanTokenSize`: the line that no longer fits a scanner's buffer. -/
def maxScanTokenSize : Nat := 65536

/-- Every line fits a scanner's buffer. -/
def File.Scannable (f : File T) : Prop := ∀ l ∈ f.allLines, l.bytes < maxScanTokenSize

instance (f : File T) : Decidable f.Scannable :=
  inferInstanceAs (Decidable (∀ l ∈ f.allLines, l.bytes < maxScanTokenSize))

/-- `loadFromDisk`: the items of the file, trimmed to the newest `capacity`. -/
def loadFromDisk (capacity : Nat) (io : LoadCalls) (f : File T) : Except String (List T) :=
  match io with
  | .openFails err => .error s!"buffer: failed to open file: {err}"
  | .readFails err => .error s!"buffer: error reading file: {err}"
  | .done =>
    if f.Scannable then
      .ok (if capacity < f.items.length then f.items.drop (f.items.length - capacity) else f.items)
    else .error "buffer: error reading file: bufio.Scanner: token too long"

/-! ## What the operations leave behind -/

/-- A file that can be scanned loads as its newest items. -/
theorem loadFromDisk_done {capacity : Nat} {f : File T} (h : f.Scannable) :
    loadFromDisk capacity .done f = .ok (KeyedQueue.newest capacity f.items) := by
  unfold loadFromDisk KeyedQueue.newest
  simp only [if_pos h]
  split
  · rfl
  · next hle => rw [Nat.sub_eq_zero_of_le (by omega), List.drop_zero]

/-- A load without an I/O error fails only on an overlong line. -/
theorem loadFromDisk_ok {capacity : Nat} {f : File T} {items : List T}
    (h : loadFromDisk capacity .done f = .ok items) :
    f.Scannable ∧ items = KeyedQueue.newest capacity f.items := by
  by_cases hscan : f.Scannable
  · rw [loadFromDisk_done hscan] at h
    exact ⟨hscan, (Except.ok.inj h).symm⟩
  · simp [loadFromDisk, hscan] at h

/-- Whether the outcome lets a rewrite of `n` items take place. -/
def RewriteCalls.Completes (n : Nat) : RewriteCalls → Prop
  | .done => True
  | .writeFails i _ => n ≤ i
  | _ => False

/-- The bytes of a line of `bytes` bytes that an append writes. -/
def AppendCalls.written (bytes : Nat) : AppendCalls → Nat
  | .done | .syncFails _ => bytes + 1
  | .openFails _ => 0
  | .writeFails n _ => min n bytes

end

section
variable {T : Type} {marshal : T → Except String Nat}

/-- An item whose line a scanner can read. -/
def Fits (marshal : T → Except String Nat) (item : T) : Prop :=
  ∃ n, marshal item = .ok n ∧ n < maxScanTokenSize

/-- The loop of a rewrite puts out one line for each item. -/
theorem rewriteLines_ok {io : RewriteCalls} {i : Nat} {items : List T} {lines : List (Line T)}
    (h : rewriteLines marshal io i items = .ok lines) :
    lines.filterMap Line.content = items ∧
      ∀ l ∈ lines, ∃ item ∈ items, marshal item = .ok l.bytes := by
  induction items generalizing i lines with
  | nil => cases h; simp
  | cons item rest ih =>
    unfold rewriteLines at h
    split at h
    · cases h
    · next bytes hbytes =>
      split at h
      · cases h
      · cases hrest : rewriteLines marshal io (i + 1) rest with
        | error err => rw [hrest] at h; cases h
        | ok tl =>
          rw [hrest] at h
          cases h
          obtain ⟨hitems, hlines⟩ := ih hrest
          refine ⟨by simp [hitems], ?_⟩
          intro l hl
          rcases List.mem_cons.mp hl with rfl | hl
          · exact ⟨item, List.mem_cons_self, hbytes⟩
          · obtain ⟨x, hx, hxl⟩ := hlines l hl
            exact ⟨x, List.mem_cons_of_mem _ hx, hxl⟩

/-- Without an I/O error, items that marshal are all put out. -/
theorem rewriteLines_done (marshal : T → Except String Nat) {items : List T}
    (h : ∀ x ∈ items, ∃ n, marshal x = .ok n) (i : Nat) :
    ∃ lines, rewriteLines marshal .done i items = .ok lines := by
  induction items generalizing i with
  | nil => exact ⟨[], rfl⟩
  | cons item rest ih =>
    obtain ⟨bytes, hbytes⟩ := h item List.mem_cons_self
    obtain ⟨tl, htl⟩ := ih (fun x hx => h x (List.mem_cons_of_mem _ hx)) (i + 1)
    exact ⟨⟨some item, bytes⟩ :: tl, by
      simp [rewriteLines, hbytes, htl, Except.map, RewriteCalls.writeErr]⟩

/-- A rewrite that fails at an item within the list does not get through its loop. -/
theorem rewriteLines_writeFails {items : List T} {i j : Nat} (err : String) (hij : i ≤ j)
    (hj : j < i + items.length) (lines : List (Line T)) :
    rewriteLines marshal (.writeFails j err) i items ≠ .ok lines := by
  induction items generalizing i lines with
  | nil => simp only [List.length_nil] at hj; omega
  | cons item rest ih =>
    simp only [List.length_cons] at hj
    unfold rewriteLines
    split
    · simp
    · split
      · simp
      · next hnone =>
        have hne : i ≠ j := by
          rintro rfl
          simp [RewriteCalls.writeErr] at hnone
        cases hrest : rewriteLines marshal (.writeFails j err) (i + 1) rest with
        | error e => simp [Except.map]
        | ok tl => exact absurd hrest (ih (by omega) (by omega) tl)

/-- **What `rewriteFile` does.** It replaces the file by the items' lines, or fails and leaves the
file alone. -/
theorem rewriteFile_cases (marshal : T → Except String Nat) (io : RewriteCalls) (f : File T)
    (items : List T) :
    (io.Completes items.length ∧ ∃ lines, rewriteFile marshal io f items = (⟨lines, none⟩, none) ∧
        lines.filterMap Line.content = items ∧
        ∀ l ∈ lines, ∃ item ∈ items, marshal item = .ok l.bytes) ∨
      ∃ err, rewriteFile marshal io f items = (f, some err) := by
  cases hlines : rewriteLines marshal io 0 items with
  | error err =>
    right
    cases io <;> simp [rewriteFile, hlines]
  | ok lines =>
    obtain ⟨hitems, hmem⟩ := rewriteLines_ok hlines
    cases io with
    | done => exact .inl ⟨trivial, lines, by simp [rewriteFile, hlines], hitems, hmem⟩
    | writeFails j err =>
      by_cases hj : j < items.length
      · exact absurd hlines (rewriteLines_writeFails err (Nat.zero_le j) (by omega) lines)
      · exact .inl ⟨Nat.le_of_not_lt hj, lines, by simp [rewriteFile, hlines], hitems, hmem⟩
    | createFails err => exact .inr ⟨_, rfl⟩
    | flushFails err => right; simp [rewriteFile, hlines]
    | syncFails err => right; simp [rewriteFile, hlines]
    | closeFails err => right; simp [rewriteFile, hlines]
    | renameFails err => right; simp [rewriteFile, hlines]

/-- **What `appendLine` does.** It writes some of the item's line, and reports success only if the
line reached the disk. -/
theorem appendLine_cases (marshal : T → Except String Nat) (io : AppendCalls) (f : File T)
    (item : T) :
    (∃ err, (∀ bytes, marshal item = .ok bytes → io.written bytes = 0) ∧
        appendLine marshal io f item = (f, some err)) ∨
      ∃ bytes err, marshal item = .ok bytes ∧
        appendLine marshal io f item = (f.write item bytes (io.written bytes), err) ∧
        (err = none ↔ io = .done) := by
  cases hm : marshal item with
  | error err => left; cases io <;> simp [appendLine, hm]
  | ok bytes =>
    cases io with
    | done => exact .inr ⟨bytes, none, rfl, by simp [appendLine, hm, AppendCalls.written], by simp⟩
    | openFails err => left; simp [appendLine, AppendCalls.written]
    | writeFails n err =>
      refine .inr ⟨bytes, some s!"buffer: failed to write to file: {err}", rfl, ?_, by simp⟩
      simp only [appendLine, hm, AppendCalls.written]
    | syncFails err =>
      refine .inr ⟨bytes, some err, rfl, ?_, by simp⟩
      simp only [appendLine, hm, AppendCalls.written]

/-- A whole line behind a whole line. -/
theorem File.write_line {f : File T} (htail : f.tail = none) (item : T) (bytes : Nat) :
    f.write item bytes (bytes + 1) = ⟨f.lines ++ [⟨some item, bytes⟩], none⟩ := by
  simp [File.write, File.lastLine, htail]

/-- The lines a load sees after a write. -/
theorem File.allLines_write (f : File T) (item : T) (bytes : Nat) {n : Nat} (hn : n ≠ 0) :
    (f.write item bytes n).allLines = f.lines ++ [f.lastLine item bytes n] := by
  unfold File.write
  rw [if_neg hn]
  split <;> simp [File.allLines]

/-- An append adds no item but its own. -/
theorem mem_items_appendLine {io : AppendCalls} {f : File T} {item x : T}
    (h : x ∈ (appendLine marshal io f item).1.items) : x = item ∨ x ∈ f.items := by
  rcases appendLine_cases marshal io f item with ⟨err, -, happend⟩ | ⟨bytes, err, -, happend, -⟩
  · rw [happend] at h
    exact .inr h
  · rw [happend] at h
    by_cases hzero : io.written bytes = 0
    · exact .inr (by simpa [File.write, hzero] using h)
    · have hitems := congrArg (List.filterMap Line.content) (f.allLines_write item bytes hzero)
      rw [File.items, hitems, List.filterMap_append] at h
      rcases List.mem_append.mp h with h | h
      · exact .inr (by simp [File.items, File.allLines, h])
      · obtain ⟨l, hl, hx⟩ := List.mem_filterMap.mp h
        rw [List.mem_singleton.mp hl] at hx
        unfold File.lastLine at hx
        split at hx
        · split at hx <;> simp_all
        · cases hx

/-- A rewrite adds no items but those in memory. -/
theorem mem_items_rewriteFile {io : RewriteCalls} {f : File T} {items : List T} {x : T}
    (h : x ∈ (rewriteFile marshal io f items).1.items) : x ∈ items ∨ x ∈ f.items := by
  rcases rewriteFile_cases marshal io f items with ⟨-, lines, hrw, hitems, -⟩ | ⟨err, hrw⟩
  · rw [hrw] at h
    exact .inl (by simpa [File.items, File.allLines, hitems] using h)
  · rw [hrw] at h
    exact .inr h

/-- Scannable lines with a scannable one behind them. -/
theorem File.scannable_concat {f : File T} {lines : List (Line T)} {l : Line T} {tail : Option (Line T)}
    (hf : f.Scannable) (hlines : lines = f.lines) (hl : l.bytes < maxScanTokenSize)
    (htail : tail = none) : File.Scannable ⟨lines ++ [l], tail⟩ := by
  subst hlines htail
  intro x hx
  simp only [File.allLines, Option.toList_none, List.append_nil, List.mem_append,
    List.mem_singleton] at hx
  rcases hx with hx | rfl
  · exact hf x (by simp [File.allLines, hx])
  · exact hl

end

end Svarla.Buffer
