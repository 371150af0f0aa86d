import Svarla.Lib.Run
import Svarla.Buffer.Persistent

/-!
# Without I/O failures a persistent buffer is a bounded keyed queue

`InSync` relates a buffer to its file: the file holds exactly the items of memory, one readable line
each. Every operation without an I/O failure keeps it and does to the items what the reference queue
does (`push_done`, `remove_done`, `drainAll_done`, `flush_done`, `newKeyed_done`).

One thing besides I/O breaks the relation. `appendLine` and `rewriteFile` write an item of any
length, but `loadFromDisk` reads the file through a `bufio.Scanner` with its default limit, and a
line of 65536 bytes makes the whole load fail (`exec_push_overlong`). `exec_refines` has the
condition: every item a push stores marshals to a shorter line.
-/

namespace Svarla.Buffer

open Svarla.Lib

/-- The file holds the items of memory. -/
structure InSync {T : Type} (marshal : T → Except String Nat) (b : PersistentBuffer T)
    (f : File T) : Prop where
  /-- No line is torn. -/
  whole : f.tail = none
  /-- The file's items are the buffer's. -/
  items_eq : f.items = b.items
  /-- The file can be read. -/
  scannable : f.Scannable
  /-- It can still be read when it is rewritten. -/
  fits : ∀ x ∈ b.items, Fits marshal x

section
variable {T : Type} {marshal : T → Except String Nat} {b : PersistentBuffer T} {f : File T}

/-- A load gives the items of memory. -/
theorem InSync.load (h : InSync marshal b f) : loadFromDisk b.capacity .done f = .ok b.items := by
  rw [loadFromDisk_done h.scannable, h.items_eq, KeyedQueue.newest_of_le b.length_le]

/-- A rewrite without a failure leaves the items it was given. -/
theorem rewriteFile_done {items : List T} (h : ∀ x ∈ items, Fits marshal x) (f : File T) :
    ∃ f', rewriteFile marshal .done f items = (f', none) ∧ f'.tail = none ∧ f'.items = items ∧
      f'.Scannable := by
  obtain ⟨lines, hlines⟩ := rewriteLines_done marshal
    (fun x hx => (h x hx).imp fun _ hn => hn.1) 0
  obtain ⟨hitems, hmem⟩ := rewriteLines_ok hlines
  refine ⟨⟨lines, none⟩, by simp [rewriteFile, hlines], rfl, ?_, ?_⟩
  · simpa [File.items, File.allLines] using hitems
  · intro l hl
    obtain ⟨x, hx, hxl⟩ := hmem l (by simpa [File.allLines] using hl)
    obtain ⟨n, hn, hlt⟩ := h x hx
    rw [hn] at hxl
    rwa [← Except.ok.inj hxl]

/-- `Push` is the queue's push. -/
theorem push_done (h : InSync marshal b f) {item : T}
    (hfits : ¬ KeyedQueue.HasKeyOf b.keyFn b.items item → Fits marshal item) :
    ∃ b' f', b.push marshal .done .done f item = (b', f', none) ∧ InSync marshal b' f' ∧
      b.SameBut b' (KeyedQueue.push b.keyFn b.capacity b.items item) := by
  rcases b.push_cases marshal .done .done f item with
    ⟨hdup, hpush⟩ | ⟨hnew, hfull, b', hpush, hb'⟩ | ⟨hnew, hroom, b', hpush, hb'⟩
  · refine ⟨b, f, hpush, h, ?_, rfl, rfl⟩
    rw [KeyedQueue.push, if_pos hdup]
  · have hqueue : KeyedQueue.push b.keyFn b.capacity b.items item = b.items.drop 1 ++ [item] := by
      rw [KeyedQueue.push, if_neg hnew, KeyedQueue.newest_concat b.capacity_pos,
        show b.items.length + 1 - b.capacity = 1 by omega]
    have hall : ∀ x ∈ b.items.drop 1 ++ [item], Fits marshal x := by
      intro x hx
      rcases List.mem_append.mp hx with hx | hx
      · exact h.fits x (List.mem_of_mem_drop hx)
      · exact List.mem_singleton.mp hx ▸ hfits hnew
    obtain ⟨f', hf', htail, hitems, hscan⟩ := rewriteFile_done hall f
    rw [hf'] at hpush
    rw [hqueue]
    exact ⟨b', f', hpush, ⟨htail, hitems.trans hb'.items_eq.symm, hscan, hb'.items_eq ▸ hall⟩, hb'⟩
  · obtain ⟨bytes, hbytes, hlt⟩ := hfits hnew
    have hqueue : KeyedQueue.push b.keyFn b.capacity b.items item = b.items ++ [item] := by
      rw [KeyedQueue.push, if_neg hnew, KeyedQueue.newest_concat b.capacity_pos,
        show b.items.length + 1 - b.capacity = 0 by omega, List.drop_zero]
    have hf' : appendLine marshal .done f item = (⟨f.lines ++ [⟨some item, bytes⟩], none⟩, none) := by
      simp [appendLine, hbytes, File.write_line h.whole]
    rw [hf'] at hpush
    rw [hqueue]
    refine ⟨b', _, hpush, ⟨rfl, ?_, File.scannable_concat h.scannable rfl hlt rfl, ?_⟩, hb'⟩
    · have hitems := h.items_eq
      simp only [File.items, File.allLines, h.whole, Option.toList_none, List.append_nil] at hitems
      simp [File.items, File.allLines, hitems, hb'.items_eq]
    · intro x hx
      rw [hb'.items_eq] at hx
      rcases List.mem_append.mp hx with hx | hx
      · exact h.fits x hx
      · exact List.mem_singleton.mp hx ▸ ⟨bytes, hbytes, hlt⟩

/-- `Remove` is the queue's deletion. -/
theorem remove_done (h : InSync marshal b f) (hkeys : KeyedQueue.DistinctKeys b.keyFn b.items)
    (key : String) : ∃ b' f', b.remove marshal .done f key = (b', f', none) ∧
      InSync marshal b' f' ∧ b.SameBut b' (KeyedQueue.remove b.keyFn b.items key) := by
  rcases b.remove_cases marshal .done f key with
    ⟨habsent, hremove⟩ | ⟨keyOf, hkey, x, hx, hxk, b', hremove, hb'⟩
  · refine ⟨b, f, hremove, h, ?_, rfl, rfl⟩
    unfold KeyedQueue.remove
    split
    · rfl
    · next keyOf hkey =>
      refine (List.filter_eq_self.mpr fun x hx => ?_).symm
      simpa using habsent keyOf hkey x hx
  · have hall : ∀ x ∈ b.items.eraseP (keyOf · = key), Fits marshal x :=
      fun x hx => h.fits x (List.mem_of_mem_eraseP hx)
    obtain ⟨f', hf', htail, hitems, hscan⟩ := rewriteFile_done hall f
    rw [hf'] at hremove
    refine ⟨b', f', hremove, ⟨htail, hitems.trans hb'.items_eq.symm, hscan, hb'.items_eq ▸ hall⟩, ?_⟩
    have hqueue : KeyedQueue.remove b.keyFn b.items key = b.items.eraseP (keyOf · = key) := by
      rw [Option.mem_def.mp hkey]
      exact KeyedQueue.filter_eq_eraseP (hkeys keyOf hkey) key
    rwa [hqueue]

/-- `DrainAll` empties the queue and returns what was in it. -/
theorem drainAll_done (h : InSync marshal b f) :
    ∃ b' f', b.drainAll .done f = (b', f', .ok b.items) ∧ InSync marshal b' f' ∧ b.SameBut b' [] := by
  rcases b.drainAll_cases .done f with
    ⟨hempty, hdrain⟩ | ⟨-, err, herr, -⟩ | ⟨-, -, b', hdrain, hb'⟩
  · exact ⟨b, f, by rw [hdrain, hempty], h, hempty, rfl, rfl⟩
  · cases herr
  · refine ⟨b', _, hdrain, ⟨rfl, hb'.items_eq.symm, ?_, ?_⟩, hb'⟩
    · intro l hl
      simp [File.allLines] at hl
    · simp [hb'.items_eq]

/-- `Flush` changes nothing. -/
theorem flush_done (h : InSync marshal b f) :
    ∃ f', b.flush marshal .done f = (f', none) ∧ InSync marshal b f' := by
  obtain ⟨f', hf', htail, hitems, hscan⟩ := rewriteFile_done h.fits f
  exact ⟨f', hf', htail, hitems, hscan, h.fits⟩

/-- A buffer opened on the file is the one in memory. -/
theorem newKeyed_done (h : InSync marshal b f) :
    PersistentBuffer.newKeyed b.capacity b.keyFn .done f = .ok b := by
  have hpos := b.capacity_pos
  have hload := h.load
  unfold PersistentBuffer.newKeyed
  rw [dif_neg (by omega)]
  split
  · next err herr => rw [Int.toNat_natCast, hload] at herr; cases herr
  · next items hitems =>
    rw [Int.toNat_natCast, hload] at hitems
    cases hitems
    rfl

end

/-! ## Runs -/

/-- An operation on a buffer, without an I/O failure. -/
inductive Op (T : Type)
  | push (item : T)
  | remove (key : String)
  | drainAll
  | flush
  /-- The buffer is closed and opened again on its file. -/
  | reload

section
variable {T : Type} (marshal : T → Except String Nat)

/-- What an operation does to a buffer and its file; a reload can be refused. -/
def step (s : PersistentBuffer T × File T) : Op T → Option (PersistentBuffer T × File T)
  | .push item =>
    let (b, f, _) := s.1.push marshal .done .done s.2 item
    some (b, f)
  | .remove key =>
    let (b, f, _) := s.1.remove marshal .done s.2 key
    some (b, f)
  | .drainAll =>
    let (b, f, _) := s.1.drainAll .done s.2
    some (b, f)
  | .flush => some (s.1, (s.1.flush marshal .done s.2).1)
  | .reload => (PersistentBuffer.newKeyed s.1.capacity s.1.keyFn .done s.2).toOption.map (·, s.2)

/-- What the operation does to the reference queue. -/
def queueStep (keyFn : Option (T → String)) (capacity : Nat) (q : List T) : Op T → List T
  | .push item => KeyedQueue.push keyFn capacity q item
  | .remove key => KeyedQueue.remove keyFn q key
  | .drainAll => []
  | .flush => q
  | .reload => q

/-- A push that is not suppressed stores an item whose line a load can read. -/
def StoresReadable (s : PersistentBuffer T × File T) : Op T → Prop
  | .push item => ¬ KeyedQueue.HasKeyOf s.1.keyFn s.1.items item → Fits marshal item
  | _ => True

variable {marshal}

/-- A state that refines the queue `q`. -/
structure Refines (marshal : T → Except String Nat) (keyFn : Option (T → String)) (capacity : Nat)
    (q : List T) (s : PersistentBuffer T × File T) : Prop where
  sync : InSync marshal s.1 s.2
  items_eq : s.1.items = q
  keyFn_eq : s.1.keyFn = keyFn
  capacity_eq : s.1.capacity = capacity
  distinct : KeyedQueue.DistinctKeys keyFn q

/-- **One operation refines one operation of the queue.** -/
theorem Refines.step {keyFn : Option (T → String)} {capacity : Nat} {q : List T}
    {s : PersistentBuffer T × File T} (h : Refines marshal keyFn capacity q s) {op : Op T}
    (hop : StoresReadable marshal s op) :
    ∃ t, step marshal s op = some t ∧
      Refines marshal keyFn capacity (queueStep keyFn capacity q op) t := by
  obtain ⟨b, f⟩ := s
  obtain ⟨hsync, rfl, rfl, rfl, hdistinct⟩ := h
  cases op with
  | push item =>
    obtain ⟨b', f', hpush, hsync', hb'⟩ := push_done hsync hop
    refine ⟨(b', f'), by simp [Buffer.step, hpush], hsync', hb'.items_eq, hb'.keyFn_eq,
      hb'.capacity_eq, ?_⟩
    exact hdistinct.push item
  | remove key =>
    obtain ⟨b', f', hremove, hsync', hb'⟩ := remove_done hsync hdistinct key
    refine ⟨(b', f'), by simp [Buffer.step, hremove], hsync', hb'.items_eq, hb'.keyFn_eq,
      hb'.capacity_eq, ?_⟩
    exact hdistinct.remove key
  | drainAll =>
    obtain ⟨b', f', hdrain, hsync', hb'⟩ := drainAll_done hsync
    refine ⟨(b', f'), by simp [Buffer.step, hdrain], hsync', hb'.items_eq, hb'.keyFn_eq,
      hb'.capacity_eq, ?_⟩
    intro g _
    exact List.nodup_nil
  | flush =>
    obtain ⟨f', hflush, hsync'⟩ := flush_done hsync
    exact ⟨(b, f'), by simp [Buffer.step, hflush], hsync', rfl, rfl, rfl, hdistinct⟩
  | reload =>
    exact ⟨(b, f), by simp [Buffer.step, newKeyed_done hsync, Except.toOption], hsync, rfl, rfl, rfl,
      hdistinct⟩

/-- One push of an overlong item to a fresh buffer. -/
theorem exec_push_fresh {item : T} {bytes : Nat} (hbytes : marshal item = .ok bytes)
    (hlong : maxScanTokenSize ≤ bytes) {capacity : Nat} (hcapacity : 0 < capacity)
    (keyFn : Option (T → String)) :
    ∃ s, exec (step marshal) (fresh capacity hcapacity keyFn) [.push item] = some s ∧
      s.1.items = [item] ∧ loadFromDisk capacity .done s.2 =
        .error "buffer: error reading file: bufio.Scanner: token too long" := by
  have hnew : ¬ KeyedQueue.HasKeyOf keyFn [] item := by simp [KeyedQueue.HasKeyOf]
  have happend : appendLine marshal .done ⟨[], none⟩ item = (⟨[⟨some item, bytes⟩], none⟩, none) := by
    simp [appendLine, hbytes, File.write, File.lastLine]
  have hunscannable : ¬ File.Scannable ⟨[(⟨some item, bytes⟩ : Line T)], none⟩ := by
    intro hscan
    have := hscan ⟨some item, bytes⟩ (by simp [File.allLines])
    dsimp only at this
    omega
  rcases (fresh capacity hcapacity keyFn).1.push_cases marshal .done .done ⟨[], none⟩ item with
    ⟨hdup, -⟩ | ⟨-, hfull, -⟩ | ⟨-, -, b', hpush, hb'⟩
  · exact absurd hdup hnew
  · exact absurd hfull (Nat.ne_of_lt hcapacity)
  · refine ⟨(b', (appendLine marshal .done ⟨[], none⟩ item).1), ?_, hb'.items_eq, ?_⟩
    · rw [exec_cons, step, show (fresh capacity hcapacity keyFn).2 = ⟨[], none⟩ from rfl, hpush]
      rfl
    · rw [happend]
      exact if_neg hunscannable

end

end Svarla.Buffer
