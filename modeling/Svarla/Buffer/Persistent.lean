import Svarla.Buffer.File

/-!
# Persistent buffers

`modem-gateway/internal/buffer/buffer.go`: a bounded list of items in memory, over its backing file.
Every operation takes the file and the outcome of its file operations, and returns the buffer and
the file it leaves. Memory changes before the file does, whatever becomes of the file; only
`drainAll` puts its items back.

That the list stays within the capacity is part of the type. What an operation does to the items is
said by the lemmas beside it, what it does to the file by `rewriteFile_cases` and
`appendLine_cases`.
-/

namespace Svarla.Buffer

open Svarla.Lib

/-- `DefaultCapacity`. -/
def defaultCapacity : Nat := 1000

theorem defaultCapacity_pos : 0 < defaultCapacity := by decide

/-- `PersistentBuffer`: the part of it that is in memory. -/
structure PersistentBuffer (T : Type) where
  items : List T
  capacity : Nat
  /-- The key of an item; without one the buffer is a plain FIFO. -/
  keyFn : Option (T → String)
  capacity_pos : 0 < capacity
  length_le : items.length ≤ capacity

namespace PersistentBuffer

variable {T : Type} (marshal : T → Except String Nat)

/-- `NewKeyed`: a buffer over the file. -/
def newKeyed (capacity : Int) (keyFn : Option (T → String)) (io : LoadCalls) (f : File T) :
    Except String (PersistentBuffer T) :=
  if h : capacity ≤ 0 then .error s!"buffer: capacity must be positive, got {capacity}"
  else
    match hload : loadFromDisk capacity.toNat io f with
    | .error err => .error err
    | .ok items => .ok
      { items, capacity := capacity.toNat, keyFn
        capacity_pos := by omega
        length_le := by
          cases io with
          | done => rw [(loadFromDisk_ok hload).2]; exact KeyedQueue.length_newest_le _ _
          | openFails => cases hload
          | readFails => cases hload }

/-- `Push`. -/
def push (b : PersistentBuffer T) (io : AppendCalls) (rio : RewriteCalls) (f : File T) (item : T) :
    PersistentBuffer T × File T × Option String :=
  if KeyedQueue.HasKeyOf b.keyFn b.items item then (b, f, none)
  else if h : b.capacity ≤ b.items.length then
    -- the oldest item is evicted
    let items := b.items.drop 1 ++ [item]
    ({ b with
        items
        length_le := by
          have := b.length_le
          have := b.capacity_pos
          simp only [items, List.length_append, List.length_drop, List.length_singleton]
          omega },
      rewriteFile marshal rio f items)
  else
    ({ b with
        items := b.items ++ [item]
        length_le := by rw [List.length_append, List.length_singleton]; omega },
      appendLine marshal io f item)

/-- `Remove`. -/
def remove (b : PersistentBuffer T) (rio : RewriteCalls) (f : File T) (key : String) :
    PersistentBuffer T × File T × Option String :=
  match b.keyFn with
  | none => (b, f, none)
  | some keyOf =>
    if b.items.any (keyOf · == key) then
      let items := b.items.eraseP (keyOf · = key)
      ({ b with items, length_le := Nat.le_trans List.length_eraseP_le b.length_le },
        rewriteFile marshal rio f items)
    else (b, f, none)

/-- `Snapshot`. -/
def snapshot (b : PersistentBuffer T) : List T := b.items

/-- `DrainAll`: on failure the items are restored. -/
def drainAll (b : PersistentBuffer T) (tio : TruncateCalls) (f : File T) :
    PersistentBuffer T × File T × Except String (List T) :=
  if b.items = [] then (b, f, .ok [])
  else
    match truncateFile tio f with
    | (f', some err) => (b, f', .error err)
    | (f', none) => ({ b with items := [], length_le := Nat.zero_le _ }, f', .ok b.items)

/-- `Flush`. -/
def flush (b : PersistentBuffer T) (rio : RewriteCalls) (f : File T) : File T × Option String :=
  rewriteFile marshal rio f b.items

/-! ## What an operation does, case by case -/

/-- A file that can be scanned opens. -/
theorem newKeyed_of_scannable {capacity : Int} (hcapacity : 0 < capacity)
    (keyFn : Option (T → String)) {f : File T} (h : f.Scannable) :
    ∃ b, newKeyed capacity keyFn .done f = .ok b := by
  unfold newKeyed
  rw [dif_neg (by omega)]
  split
  · next err herr => rw [loadFromDisk_done h] at herr; cases herr
  · exact ⟨_, rfl⟩

/-- The key function of a buffer that opens. -/
theorem newKeyed_keyFn {capacity : Int} {keyFn : Option (T → String)} {io : LoadCalls} {f : File T}
    {b : PersistentBuffer T} (h : newKeyed capacity keyFn io f = .ok b) : b.keyFn = keyFn := by
  unfold newKeyed at h
  split at h
  · cases h
  · split at h <;> cases h
    rfl

/-- A buffer that opens holds the newest items of its file. -/
theorem newKeyed_ok {capacity : Int} {keyFn : Option (T → String)} {f : File T}
    {b : PersistentBuffer T} (h : newKeyed capacity keyFn .done f = .ok b) :
    f.Scannable ∧ b.items = KeyedQueue.newest b.capacity f.items ∧ b.keyFn = keyFn ∧
      b.capacity = capacity.toNat := by
  unfold newKeyed at h
  split at h
  · cases h
  · split at h
    · cases h
    · next items hload =>
      cases h
      obtain ⟨hscan, hitems⟩ := loadFromDisk_ok hload
      exact ⟨hscan, hitems, rfl, rfl⟩

@[simp] theorem push_capacity (b : PersistentBuffer T) (io : AppendCalls) (rio : RewriteCalls) (f : File T)
    (item : T) : (b.push marshal io rio f item).1.capacity = b.capacity := by
  unfold push
  split
  · rfl
  · split <;> rfl

@[simp] theorem remove_capacity (b : PersistentBuffer T) (rio : RewriteCalls) (f : File T)
    (key : String) : (b.remove marshal rio f key).1.capacity = b.capacity := by
  unfold remove
  split
  · rfl
  · split <;> rfl

@[simp] theorem drainAll_capacity (b : PersistentBuffer T) (tio : TruncateCalls) (f : File T) :
    (b.drainAll tio f).1.capacity = b.capacity := by
  unfold drainAll
  split
  · rfl
  · split <;> rfl

@[simp] theorem push_keyFn (b : PersistentBuffer T) (io : AppendCalls) (rio : RewriteCalls) (f : File T)
    (item : T) : (b.push marshal io rio f item).1.keyFn = b.keyFn := by
  unfold push
  split
  · rfl
  · split <;> rfl

@[simp] theorem remove_keyFn (b : PersistentBuffer T) (rio : RewriteCalls) (f : File T)
    (key : String) : (b.remove marshal rio f key).1.keyFn = b.keyFn := by
  unfold remove
  split
  · rfl
  · split <;> rfl

/-- `b'` is `b` with other items. -/
structure SameBut (b b' : PersistentBuffer T) (items : List T) : Prop where
  items_eq : b'.items = items
  keyFn_eq : b'.keyFn = b.keyFn
  capacity_eq : b'.capacity = b.capacity

/-- A push is suppressed, evicts and rewrites, or appends. -/
theorem push_cases (b : PersistentBuffer T) (io : AppendCalls) (rio : RewriteCalls) (f : File T)
    (item : T) :
    (KeyedQueue.HasKeyOf b.keyFn b.items item ∧ b.push marshal io rio f item = (b, f, none)) ∨
    (¬ KeyedQueue.HasKeyOf b.keyFn b.items item ∧ b.items.length = b.capacity ∧
      ∃ b', b.push marshal io rio f item =
          (b', rewriteFile marshal rio f (b.items.drop 1 ++ [item])) ∧
        b.SameBut b' (b.items.drop 1 ++ [item])) ∨
    (¬ KeyedQueue.HasKeyOf b.keyFn b.items item ∧ b.items.length < b.capacity ∧
      ∃ b', b.push marshal io rio f item = (b', appendLine marshal io f item) ∧
        b.SameBut b' (b.items ++ [item])) := by
  unfold push
  split
  · next hdup => exact .inl ⟨hdup, rfl⟩
  · next hnew =>
    split
    · next hfull => exact .inr (.inl ⟨hnew, Nat.le_antisymm b.length_le hfull, _, rfl, rfl, rfl, rfl⟩)
    · next hroom => exact .inr (.inr ⟨hnew, Nat.lt_of_not_le hroom, _, rfl, rfl, rfl, rfl⟩)

/-- A removal finds nothing, or deletes the first item with the key and rewrites. -/
theorem remove_cases (b : PersistentBuffer T) (rio : RewriteCalls) (f : File T) (key : String) :
    ((∀ keyOf ∈ b.keyFn, ∀ x ∈ b.items, keyOf x ≠ key) ∧
      b.remove marshal rio f key = (b, f, none)) ∨
    ∃ keyOf ∈ b.keyFn, ∃ x ∈ b.items, keyOf x = key ∧
      ∃ b', b.remove marshal rio f key =
          (b', rewriteFile marshal rio f (b.items.eraseP (keyOf · = key))) ∧
        b.SameBut b' (b.items.eraseP (keyOf · = key)) := by
  unfold remove
  split
  · next hnone => exact .inl ⟨by simp [hnone], rfl⟩
  · next keyOf hkey =>
    split
    · next hany =>
      obtain ⟨x, hx, hxk⟩ := List.any_eq_true.mp hany
      exact .inr ⟨keyOf, hkey, x, hx, by simpa using hxk, _, rfl, rfl, rfl, rfl⟩
    · next hnone =>
      refine .inl ⟨fun g hg x hx hxk => hnone ?_, rfl⟩
      rw [hkey] at hg
      cases hg
      exact List.any_eq_true.mpr ⟨x, hx, by simpa using hxk⟩

/-- A drain finds nothing, fails and keeps the items, or returns them. -/
theorem drainAll_cases (b : PersistentBuffer T) (tio : TruncateCalls) (f : File T) :
    (b.items = [] ∧ b.drainAll tio f = (b, f, .ok [])) ∨
    (b.items ≠ [] ∧ ∃ err, (truncateFile tio f).2 = some err ∧
      b.drainAll tio f = (b, (truncateFile tio f).1, .error err)) ∨
    (b.items ≠ [] ∧ tio = .done ∧ ∃ b', b.drainAll tio f = (b', ⟨[], none⟩, .ok b.items) ∧
      b.SameBut b' []) := by
  unfold drainAll
  split
  · next hempty => exact .inl ⟨hempty, rfl⟩
  · next hne =>
    cases tio with
    | done => exact .inr (.inr ⟨hne, rfl, _, rfl, rfl, rfl, rfl⟩)
    | openFails err => exact .inr (.inl ⟨hne, _, rfl, rfl⟩)
    | closeFails err => exact .inr (.inl ⟨hne, _, rfl, rfl⟩)

/-! ## Where the items come from -/

variable {marshal} {b : PersistentBuffer T} {f : File T}

/-- A push brings in its own item only. -/
theorem mem_push {io : AppendCalls} {rio : RewriteCalls} {item x : T}
    (h : x ∈ (b.push marshal io rio f item).1.items ∨
      x ∈ (b.push marshal io rio f item).2.1.items) :
    x = item ∨ x ∈ b.items ∨ x ∈ f.items := by
  rcases b.push_cases marshal io rio f item with
    ⟨-, hpush⟩ | ⟨-, -, b', hpush, hb'⟩ | ⟨-, -, b', hpush, hb'⟩ <;> rw [hpush] at h
  · exact .inr h
  · have hmem : ∀ y ∈ b.items.drop 1 ++ [item], y = item ∨ y ∈ b.items := by
      intro y hy
      rcases List.mem_append.mp hy with hy | hy
      · exact .inr (List.mem_of_mem_drop hy)
      · exact .inl (List.mem_singleton.mp hy)
    rcases h with h | h
    · exact (hmem x (hb'.items_eq ▸ h)).imp_right .inl
    · rcases mem_items_rewriteFile h with h | h
      · exact (hmem x h).imp_right .inl
      · exact .inr (.inr h)
  · rcases h with h | h
    · rcases List.mem_append.mp (hb'.items_eq ▸ h) with h | h
      · exact .inr (.inl h)
      · exact .inl (List.mem_singleton.mp h)
    · exact (mem_items_appendLine h).imp_right .inr

/-- A removal brings in nothing. -/
theorem mem_remove {rio : RewriteCalls} {key : String} {x : T}
    (h : x ∈ (b.remove marshal rio f key).1.items ∨ x ∈ (b.remove marshal rio f key).2.1.items) :
    x ∈ b.items ∨ x ∈ f.items := by
  rcases b.remove_cases marshal rio f key with ⟨-, hremove⟩ | ⟨_, -, _, -, -, b', hremove, hb'⟩ <;>
    rw [hremove] at h
  · exact h
  · rcases h with h | h
    · exact .inl (List.mem_of_mem_eraseP (hb'.items_eq ▸ h))
    · exact (mem_items_rewriteFile h).imp_left List.mem_of_mem_eraseP

/-- A removal takes out an item with the key only. -/
theorem key_of_count_remove_lt [BEq T] [LawfulBEq T] {rio : RewriteCalls} {key : String} {x : T}
    (h : (b.remove marshal rio f key).1.items.count x < b.items.count x) :
    ∃ keyOf ∈ b.keyFn, keyOf x = key := by
  rcases b.remove_cases marshal rio f key with
    ⟨-, hremove⟩ | ⟨keyOf, hkey, _, -, -, b', hremove, hb'⟩ <;> rw [hremove] at h
  · exact absurd h (Nat.lt_irrefl _)
  · refine ⟨keyOf, hkey, ?_⟩
    rw [hb'.items_eq] at h
    rcases List.exists_or_eq_self_of_eraseP (keyOf · = key) b.items with
      heq | ⟨y, l₁, l₂, -, hy, hitems, herase⟩
    · rw [heq] at h
      exact absurd h (Nat.lt_irrefl _)
    · rw [herase, hitems, List.count_append, List.count_append, List.count_cons] at h
      by_contra hne
      have hyx : ¬ (y == x) = true := by
        rintro hbeq
        rw [beq_iff_eq] at hbeq
        exact hne (hbeq ▸ of_decide_eq_true hy)
      rw [if_neg hyx] at h
      omega

/-- A buffer opens with items of its file. -/
theorem mem_newKeyed {capacity : Int} {keyFn : Option (T → String)} {io : LoadCalls}
    (hopen : newKeyed capacity keyFn io f = .ok b) {x : T} (h : x ∈ b.items) : x ∈ f.items := by
  cases io with
  | done =>
    rw [(newKeyed_ok hopen).2.1] at h
    exact (KeyedQueue.newest_sublist _ _).subset h
  | openFails err => unfold newKeyed at hopen; split at hopen <;> cases hopen
  | readFails err => unfold newKeyed at hopen; split at hopen <;> cases hopen

end PersistentBuffer

/-- The bytes of `json.Marshal` of a string of plain ASCII characters. -/
def quotedBytes (text : String) : Except String Nat := .ok (text.length + 2)

/-- A fresh buffer and its file, which does not exist yet. -/
def fresh {T : Type} (capacity : Nat) (hcapacity : 0 < capacity) (keyFn : Option (T → String)) :
    PersistentBuffer T × File T :=
  ({ items := [], capacity, keyFn, capacity_pos := hcapacity, length_le := Nat.zero_le _ },
    ⟨[], none⟩)

/-- Without a file the buffer is a fresh one. -/
theorem newKeyed_fresh {T : Type} {capacity : Nat} (hcapacity : 0 < capacity)
    (keyFn : Option (T → String)) :
    PersistentBuffer.newKeyed capacity keyFn .done ⟨[], none⟩ =
      .ok (fresh capacity hcapacity keyFn).1 := by
  have hload : loadFromDisk (capacity : Int).toNat .done (⟨[], none⟩ : File T) = .ok [] := by
    rw [loadFromDisk_done (by intro l hl; simp [File.allLines] at hl)]
    exact congrArg Except.ok List.drop_nil
  unfold PersistentBuffer.newKeyed
  rw [dif_neg (by omega)]
  split
  · next err herr => rw [hload] at herr; cases herr
  · next items hitems => rw [hload] at hitems; cases hitems; rfl

end Svarla.Buffer
