import Svarla.Buffer.Persistent

/-!
# Items a caller relies on

A caller that deletes its own copy of an item after a push relies on the buffer for it: the item has
to be in memory, where the next rewrite takes it from, and in what a load of the file gives
(`Held`). A push by somebody else can take it away in three ways, none of which needs an error: it
evicts the item, it adds a line that load's trimming drops the item for, or it goes on behind a torn
line. `PushSpares` excludes them for the items relied on, and `PushStores` is when a push itself
stores its item.
-/

namespace Svarla.Buffer

open Svarla.Lib

section
variable {T : Type}

/-- The item is in memory and in what a load gives. -/
structure Held (b : PersistentBuffer T) (f : File T) (x : T) : Prop where
  memory : x ∈ b.items
  disk : x ∈ KeyedQueue.newest b.capacity f.items

/-- A load of the file gives the item. -/
def OnFile (capacity : Nat) (f : File T) (x : T) : Prop :=
  ∃ items, loadFromDisk capacity .done f = .ok items ∧ x ∈ items

/-- The file can be read, and every item in memory makes a line that can be. -/
structure Readable (marshal : T → Except String Nat) (b : PersistentBuffer T) (f : File T) :
    Prop where
  scannable : f.Scannable
  fits : ∀ x ∈ b.items, Fits marshal x

/-- An append loses no item relied on: what it writes can be read, load's trimming drops none for
it, and none is on the torn line it goes on behind. -/
def AppendSpares (Relied : T → Prop) (b : PersistentBuffer T) (f : File T) (io : AppendCalls)
    (bytes : Nat) : Prop :=
  io.written bytes ≠ 0 →
    match f.tail with
    | none => bytes ≤ io.written bytes → ∀ x, Relied x → Held b f x →
        x ∈ f.items.drop (f.items.length + 1 - b.capacity)
    | some torn => torn.bytes + min (io.written bytes) bytes < maxScanTokenSize ∧
        ∀ x, Relied x → Held b f x →
          x ∈ KeyedQueue.newest b.capacity (f.lines.filterMap Line.content)

/-- A push loses no item relied on. -/
def PushSpares (marshal : T → Except String Nat) (Relied : T → Prop) (b : PersistentBuffer T)
    (f : File T) (io : AppendCalls) (item : T) : Prop :=
  KeyedQueue.HasKeyOf b.keyFn b.items item ∨
    Fits marshal item ∧
      if b.capacity ≤ b.items.length then ∀ x, Relied x → Held b f x → x ∈ b.items.drop 1
      else ∀ bytes, marshal item = .ok bytes → AppendSpares Relied b f io bytes

/-- A push that is not suppressed stores its item: nothing fails, and an append goes behind a whole
line. -/
def PushStores (b : PersistentBuffer T) (f : File T) (io : AppendCalls) (rio : RewriteCalls) :
    Prop :=
  if b.capacity ≤ b.items.length then rio = .done else io = .done ∧ f.tail = none

end

section
variable {T : Type} {marshal : T → Except String Nat} {Relied : T → Prop} {b : PersistentBuffer T}
  {f : File T} {x : T}

/-- **An item that is held survives a restart.** -/
theorem Held.onFile (h : Held b f x) (hread : Readable marshal b f) : OnFile b.capacity f x :=
  ⟨_, loadFromDisk_done hread.scannable, h.disk⟩

/-- An append of a line that fits leaves a file that can be read. -/
theorem AppendSpares.scannable {io : AppendCalls} {bytes : Nat} (hf : f.Scannable)
    (hbytes : bytes < maxScanTokenSize) (h : AppendSpares Relied b f io bytes) (item : T) :
    (f.write item bytes (io.written bytes)).Scannable := by
  by_cases hzero : io.written bytes = 0
  · rwa [hzero, File.write, if_pos rfl]
  · have hspares := h hzero
    intro l hl
    rw [File.allLines_write f item bytes hzero] at hl
    rcases List.mem_append.mp hl with hl | hl
    · exact hf l (by simp [File.allLines, hl])
    · rw [List.mem_singleton.mp hl, File.lastLine]
      cases htail : f.tail with
      | none =>
        dsimp only
        omega
      | some torn =>
        rw [htail] at hspares
        exact hspares.1

/-- An append keeps the items relied on in the file. -/
theorem AppendSpares.disk {io : AppendCalls} {bytes : Nat} (h : AppendSpares Relied b f io bytes)
    (hx : Relied x) (hheld : Held b f x) (item : T) :
    x ∈ KeyedQueue.newest b.capacity (f.write item bytes (io.written bytes)).items := by
  by_cases hzero : io.written bytes = 0
  · rw [hzero, File.write, if_pos rfl]
    exact hheld.disk
  · have hspares := h hzero
    have hitems := congrArg (List.filterMap Line.content) (File.allLines_write f item bytes hzero)
    rw [List.filterMap_append, File.lastLine] at hitems
    rw [File.items, hitems]
    cases htail : f.tail with
    | none =>
      rw [htail] at hspares
      have hold : f.lines.filterMap Line.content = f.items := by
        simp [File.items, File.allLines, htail]
      rw [hold]
      by_cases hwhole : bytes ≤ io.written bytes
      · simp only [if_pos hwhole, List.filterMap_cons, List.filterMap_nil]
        rw [KeyedQueue.newest_concat b.capacity_pos]
        exact List.mem_append_left _ (hspares hwhole x hx hheld)
      · simpa [if_neg hwhole] using hheld.disk
    | some torn =>
      rw [htail] at hspares
      simpa using hspares.2 x hx hheld

/-- A rewrite leaves a file that can be read, with an item that was there before and is again. -/
theorem Readable.rewrite (h : Readable marshal b f) (rio : RewriteCalls) {items : List T}
    (hfits : ∀ y ∈ items, Fits marshal y) :
    (rewriteFile marshal rio f items).1.Scannable ∧
      (items.length ≤ b.capacity → x ∈ items → Held b f x →
        x ∈ KeyedQueue.newest b.capacity (rewriteFile marshal rio f items).1.items) := by
  rcases rewriteFile_cases marshal rio f items with ⟨-, lines, hrw, hlines, hbytes⟩ | ⟨err, hrw⟩
  · rw [hrw]
    refine ⟨fun l hl => ?_, fun hlen hx _ => ?_⟩
    · obtain ⟨y, hy, hyl⟩ := hbytes l (by simpa [File.allLines] using hl)
      obtain ⟨n, hn, hlt⟩ := hfits y hy
      rw [hn] at hyl
      rwa [← Except.ok.inj hyl]
    · have hitems : File.items ⟨lines, none⟩ = items := by simp [File.items, File.allLines, hlines]
      rwa [hitems, KeyedQueue.newest_of_le hlen]
  · rw [hrw]
    exact ⟨h.scannable, fun _ _ hheld => hheld.disk⟩

/-- A push that spares them leaves the buffer readable. -/
theorem Readable.push (h : Readable marshal b f) {io : AppendCalls} {item : T}
    (hspares : PushSpares marshal Relied b f io item) (rio : RewriteCalls) :
    Readable marshal (b.push marshal io rio f item).1 (b.push marshal io rio f item).2.1 := by
  rcases b.push_cases marshal io rio f item with
    ⟨-, hpush⟩ | ⟨hnew, hfull, b', hpush, hb'⟩ | ⟨hnew, hroom, b', hpush, hb'⟩ <;> rw [hpush]
  · exact h
  · obtain ⟨hfits, -⟩ := hspares.resolve_left hnew
    have hall : ∀ y ∈ b.items.drop 1 ++ [item], Fits marshal y := by
      intro y hy
      rcases List.mem_append.mp hy with hy | hy
      · exact h.fits y (List.mem_of_mem_drop hy)
      · exact List.mem_singleton.mp hy ▸ hfits
    exact ⟨(h.rewrite (x := item) rio hall).1, hb'.items_eq ▸ hall⟩
  · obtain ⟨⟨n, hn, hlt⟩, happends⟩ := hspares.resolve_left hnew
    rw [if_neg (Nat.not_le.mpr hroom)] at happends
    have hall : ∀ y ∈ b.items ++ [item], Fits marshal y := by
      intro y hy
      rcases List.mem_append.mp hy with hy | hy
      · exact h.fits y hy
      · exact List.mem_singleton.mp hy ▸ ⟨n, hn, hlt⟩
    refine ⟨?_, hb'.items_eq ▸ hall⟩
    rcases appendLine_cases marshal io f item with ⟨err, -, happend⟩ | ⟨bytes, err, hbytes, happend, -⟩
    · rw [happend]
      exact h.scannable
    · rw [happend]
      rw [hn] at hbytes
      cases hbytes
      exact (happends n hn).scannable h.scannable hlt item

/-- **A push that spares the items relied on keeps them.** -/
theorem Held.push (h : Held b f x) (hread : Readable marshal b f) {io : AppendCalls} {item : T}
    (hspares : PushSpares marshal Relied b f io item) (hx : Relied x) (rio : RewriteCalls) :
    Held (b.push marshal io rio f item).1 (b.push marshal io rio f item).2.1 x := by
  rcases b.push_cases marshal io rio f item with
    ⟨-, hpush⟩ | ⟨hnew, hfull, b', hpush, hb'⟩ | ⟨hnew, hroom, b', hpush, hb'⟩ <;> rw [hpush]
  · exact h
  · obtain ⟨hfits, hleft⟩ := hspares.resolve_left hnew
    rw [if_pos (Nat.le_of_eq hfull.symm)] at hleft
    have hmem : x ∈ b.items.drop 1 ++ [item] := List.mem_append_left _ (hleft x hx h)
    have hall : ∀ y ∈ b.items.drop 1 ++ [item], Fits marshal y := by
      intro y hy
      rcases List.mem_append.mp hy with hy | hy
      · exact hread.fits y (List.mem_of_mem_drop hy)
      · exact List.mem_singleton.mp hy ▸ hfits
    have hlen : (b.items.drop 1 ++ [item]).length ≤ b.capacity := by
      have hpos := b.capacity_pos
      rw [List.length_append, List.length_drop, List.length_singleton]
      omega
    exact ⟨hb'.items_eq ▸ hmem, hb'.capacity_eq ▸ (hread.rewrite rio hall).2 hlen hmem h⟩
  · obtain ⟨-, happends⟩ := hspares.resolve_left hnew
    rw [if_neg (Nat.not_le.mpr hroom)] at happends
    refine ⟨hb'.items_eq ▸ List.mem_append_left _ h.memory, ?_⟩
    rw [hb'.capacity_eq]
    rcases appendLine_cases marshal io f item with ⟨err, -, happend⟩ | ⟨bytes, err, hbytes, happend, -⟩
    · rw [happend]
      exact h.disk
    · rw [happend]
      exact (happends bytes hbytes).disk hx h item

/-- **A push stores its item**, if it is not suppressed and returns nil, an append behind a whole
line. -/
theorem held_of_push {io : AppendCalls} {rio : RewriteCalls} {item : T}
    (hnew : ¬ KeyedQueue.HasKeyOf b.keyFn b.items item)
    (hnil : (b.push marshal io rio f item).2.2 = none)
    (hwhole : b.items.length < b.capacity → f.tail = none) :
    Held (b.push marshal io rio f item).1 (b.push marshal io rio f item).2.1 item := by
  rcases b.push_cases marshal io rio f item with
    ⟨hdup, -⟩ | ⟨-, hfull, b', hpush, hb'⟩ | ⟨-, hroom, b', hpush, hb'⟩
  · exact absurd hdup hnew
  · rw [hpush] at hnil ⊢
    refine ⟨by rw [hb'.items_eq]; exact List.mem_append_right _ (List.mem_singleton_self item), ?_⟩
    rcases rewriteFile_cases marshal rio f (b.items.drop 1 ++ [item]) with
      ⟨-, lines, hrw, hlines, -⟩ | ⟨err, hrw⟩
    · have hitems : File.items ⟨lines, none⟩ = b.items.drop 1 ++ [item] := by
        simp [File.items, File.allLines, hlines]
      have hpos := b.capacity_pos
      rw [hrw, hitems, hb'.capacity_eq, KeyedQueue.newest_of_le]
      · exact List.mem_append_right _ (List.mem_singleton_self item)
      · rw [List.length_append, List.length_drop, List.length_singleton]
        omega
    · rw [hrw] at hnil
      cases hnil
  · rw [hpush] at hnil ⊢
    refine ⟨hb'.items_eq ▸ List.mem_append_right _ (List.mem_singleton_self item), ?_⟩
    rw [hb'.capacity_eq]
    rcases appendLine_cases marshal io f item with
      ⟨err, -, happend⟩ | ⟨bytes, err, hbytes, happend, herr⟩
    · rw [happend] at hnil
      cases hnil
    · rw [happend] at hnil ⊢
      cases herr.mp hnil
      dsimp only
      rw [AppendCalls.written, File.write_line (hwhole hroom), File.items, File.allLines]
      simp only [Option.toList_none, List.append_nil, List.filterMap_append, List.filterMap_cons,
        List.filterMap_nil]
      rw [KeyedQueue.newest_concat b.capacity_pos]
      exact List.mem_append_right _ (List.mem_singleton_self item)

/-- An append that returns nil met no failure. -/
theorem append_done_of_push {io : AppendCalls} {rio : RewriteCalls} {item : T}
    (hnew : ¬ KeyedQueue.HasKeyOf b.keyFn b.items item) (hroom : b.items.length < b.capacity)
    (hnil : (b.push marshal io rio f item).2.2 = none) : io = .done := by
  rcases b.push_cases marshal io rio f item with
    ⟨hdup, -⟩ | ⟨-, hfull, -⟩ | ⟨-, -, b', hpush, -⟩
  · exact absurd hdup hnew
  · exact absurd hfull (Nat.ne_of_lt hroom)
  · rw [hpush] at hnil
    rcases appendLine_cases marshal io f item with
      ⟨err, -, happend⟩ | ⟨bytes, err, -, happend, herr⟩
    · rw [happend] at hnil
      cases hnil
    · rw [happend] at hnil
      exact herr.mp hnil

/-- A push whose file operations succeed returns nil. -/
theorem PushStores.nil {io : AppendCalls} {rio : RewriteCalls} {item : T}
    (h : PushStores b f io rio) (hread : Readable marshal b f) (hfits : Fits marshal item) :
    (b.push marshal io rio f item).2.2 = none ∧ (b.items.length < b.capacity → f.tail = none) := by
  unfold PushStores at h
  refine ⟨?_, fun hroom => ?_⟩
  · rcases b.push_cases marshal io rio f item with
      ⟨-, hpush⟩ | ⟨-, hfull, b', hpush, -⟩ | ⟨-, hroom, b', hpush, -⟩ <;> rw [hpush]
    · rw [if_pos (Nat.le_of_eq hfull.symm)] at h
      have hmarshal : ∀ y ∈ b.items.drop 1 ++ [item], ∃ n, marshal y = .ok n := by
        intro y hy
        rcases List.mem_append.mp hy with hy | hy
        · exact (hread.fits y (List.mem_of_mem_drop hy)).imp fun _ hn => hn.1
        · exact List.mem_singleton.mp hy ▸ hfits.imp fun _ hn => hn.1
      obtain ⟨lines, hlines⟩ := rewriteLines_done marshal hmarshal 0
      simp only [h, rewriteFile, hlines]
    · rw [if_neg (Nat.not_le.mpr hroom)] at h
      obtain ⟨n, hn, -⟩ := hfits
      simp [h.1, appendLine, hn]
  · rw [if_neg (Nat.not_le.mpr hroom)] at h
    exact h.2

/-- A removal leaves the buffer readable, and keeps the items with other keys. -/
theorem Readable.remove (h : Readable marshal b f) (rio : RewriteCalls) (key : String) :
    Readable marshal (b.remove marshal rio f key).1 (b.remove marshal rio f key).2.1 ∧
      ((∀ keyOf ∈ b.keyFn, keyOf x ≠ key) → Held b f x →
        Held (b.remove marshal rio f key).1 (b.remove marshal rio f key).2.1 x) := by
  rcases b.remove_cases marshal rio f key with
    ⟨-, hremove⟩ | ⟨keyOf, hkey, y, hy, hyk, b', hremove, hb'⟩ <;> rw [hremove]
  · exact ⟨h, fun _ hheld => hheld⟩
  · have hall : ∀ y ∈ b.items.eraseP (keyOf · = key), Fits marshal y :=
      fun y hy => h.fits y (List.mem_of_mem_eraseP hy)
    refine ⟨⟨(h.rewrite (x := y) rio hall).1, hb'.items_eq ▸ hall⟩, fun hne hheld => ?_⟩
    have hmem : x ∈ b.items.eraseP (keyOf · = key) :=
      (List.mem_eraseP_of_neg (by simpa using hne keyOf hkey)).mpr hheld.memory
    have hlen := Nat.le_trans (List.length_eraseP_le (p := (keyOf · = key)) (l := b.items))
      b.length_le
    exact ⟨hb'.items_eq ▸ hmem, hb'.capacity_eq ▸ (h.rewrite rio hall).2 hlen hmem hheld⟩

/-- A buffer that opens on a file whose items make readable lines. -/
theorem readable_of_newKeyed {capacity : Int} {keyFn : Option (T → String)} {io : LoadCalls}
    (hopen : PersistentBuffer.newKeyed capacity keyFn io f = .ok b)
    (hfits : ∀ y ∈ f.items, Fits marshal y) :
    Readable marshal b f ∧ b.keyFn = keyFn ∧ b.capacity = capacity.toNat := by
  have hitems := fun y hy => hfits y (PersistentBuffer.mem_newKeyed hopen hy)
  cases io with
  | done =>
    obtain ⟨hscan, -, hkey, hcapacity⟩ := PersistentBuffer.newKeyed_ok hopen
    exact ⟨⟨hscan, hitems⟩, hkey, hcapacity⟩
  | openFails err => unfold PersistentBuffer.newKeyed at hopen; split at hopen <;> cases hopen
  | readFails err => unfold PersistentBuffer.newKeyed at hopen; split at hopen <;> cases hopen

end

end Svarla.Buffer
