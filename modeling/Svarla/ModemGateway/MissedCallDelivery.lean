import Mathlib
import Svarla.ModemGateway.MissedCalls
import Svarla.Buffer.Refinement

/-!
# Delivering the missed calls

`DeliverAll` takes the calls out of the buffer before there is a message, and puts them back one by one
where `Send` fails. `Add` locks the buffer for its own push only, so it comes in anywhere between: while
the message is built and sent, and between the calls that are put back (`Schedule`).

What is in the buffer afterwards is every call, oldest first, in exactly the cases of `Keeps`
(`deliverAll_keeps_iff`): a message that cannot be built takes the calls with it, a call that is added
before the others are back stands before them, and what the buffer has no room for, or does not get to its
file, is lost.
-/

namespace Svarla.ModemGateway

open Svarla.Lib Svarla.Buffer

/-- A push of a call, and what happens to its file operations. -/
structure Put where
  call : MissedCall
  io : AppendCalls
  rio : RewriteCalls
  deriving DecidableEq, Repr

/-- What happens while `DeliverAll` runs. -/
structure Schedule where
  tio : TruncateCalls
  /-- The error of `NewMessage`. -/
  build : Option String
  /-- The error of `Send`. -/
  send : Option String
  /-- The calls that are added before `Send` returns. -/
  during : List Put
  /-- What happens to the push that puts the `i`-th call back, and the calls that are added after it. -/
  back : Nat → AppendCalls × RewriteCalls × List Put

namespace MissedCalls

variable (marshal : MissedCall → Except String Nat)

/-- `Push`, the error dropped. -/
def put (s : PersistentBuffer MissedCall × File MissedCall) (p : Put) :
    PersistentBuffer MissedCall × File MissedCall :=
  ((s.1.push marshal p.io p.rio s.2 p.call).1, (s.1.push marshal p.io p.rio s.2 p.call).2.1)

/-- The pushes while the calls are put back, from the `i`-th on. -/
def putsBack (sch : Schedule) : Nat → List MissedCall → List Put
  | _, [] => []
  | i, call :: calls =>
    ⟨call, (sch.back i).1, (sch.back i).2.1⟩ :: (sch.back i).2.2 ++ putsBack sch (i + 1) calls

/-- The calls that are added meanwhile. -/
def addedBack (sch : Schedule) : Nat → List MissedCall → List MissedCall
  | _, [] => []
  | i, _ :: calls => (sch.back i).2.2.map (·.call) ++ addedBack sch (i + 1) calls

/-- How `DeliverAll` ends: the buffer and its file, the error, and the calls that were added. -/
structure Delivery where
  buffer : PersistentBuffer MissedCall
  file : File MissedCall
  error : Option String
  added : List MissedCall

/-- `DeliverAll`. -/
def deliverAll (sch : Schedule) (b : PersistentBuffer MissedCall) (f : File MissedCall) : Delivery :=
  match b.drainAll sch.tio f with
  | (b, f, .error err) => ⟨b, f, some s!"missed calls: failed to drain buffer: {err}", []⟩
  | (b, f, .ok []) => ⟨b, f, none, []⟩
  | (b, f, .ok calls) =>
    let (b, f) := sch.during.foldl (put marshal) (b, f)
    match sch.build with
    | some err =>
      ⟨b, f, some s!"missed calls: failed to create message: {err}", sch.during.map (·.call)⟩
    | none =>
      match sch.send with
      | some err =>
        let (b, f) := (putsBack sch 0 calls).foldl (put marshal) (b, f)
        ⟨b, f, some s!"missed calls: failed to send message: {err}",
          sch.during.map (·.call) ++ addedBack sch 0 calls⟩
      | none => ⟨b, f, none, sch.during.map (·.call)⟩

/-- The buffer holds just these calls, in memory and on disk. -/
def Holds (b : PersistentBuffer MissedCall) (f : File MissedCall) (calls : List MissedCall) : Prop :=
  b.items = calls ∧ loadFromDisk b.capacity .done f = .ok calls

/-- Nothing is lost or reordered: after an error the calls from before and those added, otherwise those
added. -/
def Delivered (before : List MissedCall) (d : Delivery) : Prop :=
  Holds d.buffer d.file (if d.error.isSome then before ++ d.added else d.added)

/-- Every push gets its line to the file: whole and short enough for a load, and with its newline where
another follows. -/
def Landed : List Put → Prop
  | [] => True
  | p :: ps =>
    (∃ bytes, marshal p.call = .ok bytes ∧ bytes < maxScanTokenSize ∧ 0 < p.io.written bytes ∧
      bytes ≤ p.io.written bytes ∧ (ps = [] ∨ p.io.written bytes = bytes + 1)) ∧ Landed ps

/-- The pushes after the drain. -/
def puts (sch : Schedule) (calls : List MissedCall) : List Put :=
  sch.during ++ if sch.send.isSome then putsBack sch 0 calls else []

/-- The condition: a drain that fails has not truncated the file, and one that succeeds has nothing to
drain, or the message is built, the pushes come in the order of the calls, the buffer has room for them,
and they get to the file. -/
def Keeps (sch : Schedule) (b : PersistentBuffer MissedCall) : Prop :=
  b.items = [] ∨ (∃ err, sch.tio = .openFails err) ∨
    sch.tio = .done ∧ sch.build = none ∧
      (∀ err, sch.send = some err → (puts sch b.items).map (·.call) =
        b.items ++ (sch.during.map (·.call) ++ addedBack sch 0 b.items)) ∧
      (puts sch b.items).length ≤ b.capacity ∧ Landed marshal (puts sch b.items)

/-! ## Pushes to a drained buffer -/

variable {marshal}

theorem put_spec {b : PersistentBuffer MissedCall} {f : File MissedCall} (hkey : b.keyFn = none)
    (hroom : b.items.length < b.capacity) (p : Put) :
    ∃ b', put marshal (b, f) p = (b', (appendLine marshal p.io f p.call).1) ∧
      b.SameBut b' (b.items ++ [p.call]) := by
  unfold put
  rcases b.push_cases marshal p.io p.rio f p.call with ⟨hdup, -⟩ | ⟨-, hfull, -⟩ | ⟨-, -, b', hpush, hsame⟩
  · rw [hkey] at hdup
    exact absurd hdup (by simp [KeyedQueue.HasKeyOf])
  · omega
  · exact ⟨b', by rw [hpush], hsame⟩

/-- Pushes that the buffer has room for. -/
theorem foldl_put {b : PersistentBuffer MissedCall} {f : File MissedCall} (hkey : b.keyFn = none)
    {ps : List Put} (hroom : b.items.length + ps.length ≤ b.capacity) :
    ∃ b', ps.foldl (put marshal) (b, f) = (b', ps.foldl (fun f p => (appendLine marshal p.io f p.call).1) f) ∧
      b.SameBut b' (b.items ++ ps.map (·.call)) := by
  induction ps generalizing b f with
  | nil => exact ⟨b, rfl, (List.append_nil _).symm, rfl, rfl⟩
  | cons p ps ih =>
    rw [List.length_cons] at hroom
    obtain ⟨b', hput, hsame⟩ := @put_spec marshal b f hkey (by omega) p
    obtain ⟨b'', hputs, hsame'⟩ := @ih b' (appendLine marshal p.io f p.call).1 (hsame.keyFn_eq.trans hkey) (by
      rw [hsame.items_eq, hsame.capacity_eq, List.length_append, List.length_singleton]
      omega)
    refine ⟨b'', ?_, ?_, hsame'.keyFn_eq.trans hsame.keyFn_eq, hsame'.capacity_eq.trans hsame.capacity_eq⟩
    · rw [List.foldl_cons, hput]
      exact hputs
    · rw [hsame'.items_eq, hsame.items_eq, List.append_assoc]
      rfl

theorem capacity_foldl_put (ps : List Put) (s : PersistentBuffer MissedCall × File MissedCall) :
    (ps.foldl (put marshal) s).1.capacity = s.1.capacity := by
  induction ps generalizing s with
  | nil => rfl
  | cons p ps ih => exact (ih _).trans (PersistentBuffer.push_capacity _ _ _ _ _ _)

theorem length_foldl_put (ps : List Put) (s : PersistentBuffer MissedCall × File MissedCall) :
    (ps.foldl (put marshal) s).1.items.length ≤ s.1.items.length + ps.length := by
  induction ps generalizing s with
  | nil => exact le_rfl
  | cons p ps ih =>
    have hfirst : (put marshal s p).1.items.length ≤ s.1.items.length + 1 := by
      unfold put
      rcases s.1.push_cases marshal p.io p.rio s.2 p.call with
        ⟨-, hpush⟩ | ⟨-, -, b', hpush, hsame⟩ | ⟨-, -, b', hpush, hsame⟩ <;> rw [hpush]
      · exact Nat.le_succ _
      · rw [hsame.items_eq, List.length_append, List.length_drop, List.length_singleton]
        omega
      · rw [hsame.items_eq, List.length_append, List.length_singleton]
    have hrest := ih (put marshal s p)
    rw [List.foldl_cons, List.length_cons]
    omega

/-! ## What gets to the file -/

variable (marshal) in
/-- The file after a list of appends. -/
def appendAll (f : File MissedCall) (ps : List Put) : File MissedCall :=
  ps.foldl (fun f p => (appendLine marshal p.io f p.call).1) f

/-- The items after a write: those on the whole lines, and that of the last line. -/
theorem items_write (f : File MissedCall) (call : MissedCall) (bytes : Nat) {n : Nat} (hn : n ≠ 0) :
    (f.write call bytes n).items =
      f.lines.filterMap Line.content ++ (f.lastLine call bytes n).content.toList := by
  rw [File.items, File.allLines_write _ _ _ hn, List.filterMap_append, List.filterMap_cons]
  cases (f.lastLine call bytes n).content <;> rfl

theorem items_whole {f : File MissedCall} (htail : f.tail = none) :
    f.lines.filterMap Line.content = f.items := by
  rw [File.items, File.allLines, htail, Option.toList_none, List.append_nil]

/-- An append adds an item at most, and none behind a torn line. -/
theorem length_items_append (f : File MissedCall) (p : Put) :
    (appendLine marshal p.io f p.call).1.items.length ≤ f.items.length + if f.tail.isNone then 1 else 0 := by
  rcases appendLine_cases marshal p.io f p.call with ⟨err, -, happend⟩ | ⟨bytes, err, -, happend, -⟩
  · rw [happend]
    exact Nat.le_add_right _ _
  · rw [happend]
    by_cases hzero : p.io.written bytes = 0
    · rw [File.write, if_pos hzero]
      exact Nat.le_add_right _ _
    · rw [items_write _ _ _ hzero, List.length_append]
      cases htail : f.tail with
      | none =>
        rw [items_whole htail]
        exact Nat.add_le_add_left (by cases (File.lastLine f p.call bytes _).content <;> simp) _
      | some torn =>
        have hlast : (f.lastLine p.call bytes (p.io.written bytes)).content = none := by
          rw [File.lastLine, htail]
        rw [hlast, Option.toList_none, List.length_nil, File.items, File.allLines, List.filterMap_append,
          List.length_append]
        exact Nat.add_le_add_left (Nat.zero_le _) _

theorem length_items_appendAll (f : File MissedCall) (ps : List Put) :
    (appendAll marshal f ps).items.length ≤ f.items.length + ps.length := by
  induction ps generalizing f with
  | nil => exact le_rfl
  | cons p ps ih =>
    have hfirst := @length_items_append marshal f p
    have hrest := ih (appendLine marshal p.io f p.call).1
    rw [List.length_cons]
    refine hrest.trans ?_
    split at hfirst <;> omega

/-- Whole lines stay. -/
theorem lines_appendAll (f : File MissedCall) (ps : List Put) :
    ∀ l ∈ f.lines, l ∈ (appendAll marshal f ps).lines := by
  induction ps generalizing f with
  | nil => exact fun l hl => hl
  | cons p ps ih =>
    intro l hl
    refine ih (appendLine marshal p.io f p.call).1 l ?_
    rcases appendLine_cases marshal p.io f p.call with ⟨err, -, happend⟩ | ⟨bytes, err, -, happend, -⟩
    · rwa [happend]
    · rw [happend]
      unfold File.write
      split
      · exact hl
      · split
        · exact List.mem_append_left _ hl
        · exact hl

/-- The file after an append that wrote something behind whole lines. -/
theorem append_whole {f : File MissedCall} (htail : f.tail = none) {p : Put} {bytes : Nat}
    (hbytes : marshal p.call = .ok bytes) (hwritten : bytes ≤ p.io.written bytes)
    (hpos : 0 < p.io.written bytes) :
    (appendLine marshal p.io f p.call).1 =
      if p.io.written bytes = bytes + 1 then ⟨f.lines ++ [⟨some p.call, bytes⟩], none⟩
      else ⟨f.lines, some ⟨some p.call, bytes⟩⟩ := by
  rcases appendLine_cases marshal p.io f p.call with ⟨err, hnothing, -⟩ | ⟨bytes', err, hbytes', happend, -⟩
  · have := hnothing bytes hbytes
    omega
  · obtain rfl : bytes = bytes' := Except.ok.inj (hbytes.symm.trans hbytes')
    have hmax : p.io.written bytes ≤ bytes + 1 := by
      unfold AppendCalls.written
      split <;> omega
    have hlast : f.lastLine p.call bytes (p.io.written bytes) = ⟨some p.call, bytes⟩ := by
      rw [File.lastLine, htail]
      dsimp only
      rw [if_pos hwritten, Nat.min_eq_right hwritten]
    rw [happend, File.write, if_neg (by omega), hlast]
    dsimp only
    split
    · rw [if_pos (by omega)]
    · rw [if_neg (by omega)]

/-- **What lands is loaded**, in its order. -/
theorem Landed.loads {ps : List Put} (h : Landed marshal ps) {f : File MissedCall} (htail : f.tail = none)
    (hscan : f.Scannable) :
    (appendAll marshal f ps).Scannable ∧ (appendAll marshal f ps).items = f.items ++ ps.map (·.call) := by
  induction ps generalizing f with
  | nil => exact ⟨hscan, (List.append_nil _).symm⟩
  | cons p ps ih =>
    obtain ⟨⟨bytes, hbytes, hshort, hpos, hwritten, hnext⟩, hrest⟩ := h
    have hfile := append_whole htail hbytes hwritten hpos
    have hscan' : ∀ g : File MissedCall, g.allLines = f.lines ++ [⟨some p.call, bytes⟩] → g.Scannable := by
      intro g hg l hl
      rw [hg] at hl
      rcases List.mem_append.mp hl with hl | hl
      · exact hscan l (List.mem_append_left _ hl)
      · rwa [List.mem_singleton.mp hl]
    have hitems : ∀ g : File MissedCall, g.allLines = f.lines ++ [⟨some p.call, bytes⟩] →
        g.items = f.items ++ [p.call] := by
      intro g hg
      rw [File.items, hg, List.filterMap_append, items_whole htail]
      rfl
    change (appendAll marshal (appendLine marshal p.io f p.call).1 ps).Scannable ∧
      (appendAll marshal (appendLine marshal p.io f p.call).1 ps).items = _
    rw [hfile]
    split
    · have hlines : File.allLines ⟨f.lines ++ [⟨some p.call, bytes⟩], none⟩ =
          f.lines ++ [⟨some p.call, bytes⟩] :=
        List.append_nil _
      obtain ⟨hscan'', hitems''⟩ := @ih hrest ⟨f.lines ++ [⟨some p.call, bytes⟩], none⟩ rfl (hscan' _ hlines)
      refine ⟨hscan'', hitems''.trans ?_⟩
      rw [hitems _ hlines, List.append_assoc]
      rfl
    · next hpart =>
      obtain rfl := hnext.resolve_right hpart
      exact ⟨hscan' _ rfl, hitems _ rfl⟩

/-- **What is loaded has landed.** -/
theorem landed_of_loads {ps : List Put} {f : File MissedCall} (htail : f.tail = none)
    (hscan : (appendAll marshal f ps).Scannable)
    (hlength : f.items.length + ps.length ≤ (appendAll marshal f ps).items.length) : Landed marshal ps := by
  induction ps generalizing f with
  | nil => trivial
  | cons p ps ih =>
    change File.Scannable (appendAll marshal (appendLine marshal p.io f p.call).1 ps) at hscan
    change _ ≤ (appendAll marshal (appendLine marshal p.io f p.call).1 ps).items.length at hlength
    have hrest := @length_items_appendAll marshal (appendLine marshal p.io f p.call).1 ps
    rw [List.length_cons] at hlength
    -- the call is among the items, so its line was written
    have hline : ∃ bytes, marshal p.call = .ok bytes ∧ 0 < p.io.written bytes ∧
        bytes ≤ p.io.written bytes := by
      rcases appendLine_cases marshal p.io f p.call with ⟨err, -, happend⟩ | ⟨bytes, err, hbytes, happend, -⟩
      · rw [happend] at hrest hlength
        dsimp only at hrest hlength
        omega
      · rw [happend] at hrest hlength
        dsimp only at hrest hlength
        by_cases hzero : p.io.written bytes = 0
        · rw [File.write, if_pos hzero] at hrest hlength
          omega
        · refine ⟨bytes, hbytes, Nat.pos_of_ne_zero hzero, ?_⟩
          by_contra hpart
          have hlast : (f.lastLine p.call bytes (p.io.written bytes)).content = none := by
            rw [File.lastLine, htail]
            exact if_neg hpart
          rw [items_write _ _ _ hzero, hlast, Option.toList_none, List.append_nil, items_whole htail] at hrest
          omega
    obtain ⟨bytes, hbytes, hpos, hwritten⟩ := hline
    have hfile := append_whole htail hbytes hwritten hpos
    split at hfile
    · next hwhole =>
      have hitems : (appendLine marshal p.io f p.call).1.items.length = f.items.length + 1 := by
        rw [hfile, File.items, File.allLines, Option.toList_none, List.append_nil, List.filterMap_append,
          items_whole htail, List.length_append]
        rfl
      have hmem : (⟨some p.call, bytes⟩ : Line MissedCall) ∈
          (appendAll marshal (appendLine marshal p.io f p.call).1 ps).lines := by
        refine lines_appendAll _ ps _ ?_
        rw [hfile]
        exact List.mem_append_right _ (.head _)
      exact ⟨⟨bytes, hbytes, hscan _ (List.mem_append_left _ hmem), hpos, hwritten, .inr hwhole⟩,
        ih (by rw [hfile]) hscan (by omega)⟩
    · next hpart =>
      have hitems : (appendLine marshal p.io f p.call).1.items.length = f.items.length + 1 := by
        rw [hfile, File.items, File.allLines, List.filterMap_append, items_whole htail, List.length_append]
        rfl
      cases ps with
      | nil =>
        have hmem : (⟨some p.call, bytes⟩ : Line MissedCall) ∈
            (appendLine marshal p.io f p.call).1.allLines := by
          rw [hfile]
          exact List.mem_append_right _ (.head _)
        exact ⟨⟨bytes, hbytes, hscan _ hmem, hpos, hwritten, .inl rfl⟩, trivial⟩
      | cons q qs =>
        -- the next append goes on behind the torn line
        have hnext := @length_items_append marshal (appendLine marshal p.io f p.call).1 q
        rw [if_neg (by rw [hfile]; exact Bool.false_ne_true)] at hnext
        have hqs := @length_items_appendAll marshal
          (appendLine marshal q.io (appendLine marshal p.io f p.call).1 q.call).1 qs
        change _ ≤ (appendAll marshal
          (appendLine marshal q.io (appendLine marshal p.io f p.call).1 q.call).1 qs).items.length at hlength
        rw [List.length_cons] at hlength
        omega

/-- What is pushed to a drained buffer is held, just where the buffer has room and each line lands. -/
theorem holds_puts_iff {b : PersistentBuffer MissedCall} (hkey : b.keyFn = none) (hempty : b.items = [])
    {ps : List Put} {calls : List MissedCall} (hlength : calls.length = ps.length) :
    Holds (ps.foldl (put marshal) (b, ⟨[], none⟩)).1 (ps.foldl (put marshal) (b, ⟨[], none⟩)).2 calls ↔
      ps.map (·.call) = calls ∧ ps.length ≤ b.capacity ∧ Landed marshal ps := by
  have hscan : File.Scannable (⟨[], none⟩ : File MissedCall) := fun l hl => by simp [File.allLines] at hl
  by_cases hroom : ps.length ≤ b.capacity
  · obtain ⟨b', hputs, hsame⟩ := @foldl_put marshal b ⟨[], none⟩ hkey ps (by
      rw [hempty, List.length_nil]
      omega)
    rw [hempty, List.nil_append] at hsame
    rw [hputs, Holds, hsame.items_eq, hsame.capacity_eq]
    change _ ∧ loadFromDisk b.capacity .done (appendAll marshal ⟨[], none⟩ ps) = _ ↔ _
    constructor
    · rintro ⟨hcalls, hload⟩
      obtain ⟨hscan', hitems⟩ := loadFromDisk_ok hload
      refine ⟨hcalls, hroom, landed_of_loads rfl hscan' ?_⟩
      have hnewest := congrArg List.length hitems
      have hall := @length_items_appendAll marshal ⟨[], none⟩ ps
      rw [KeyedQueue.newest, List.length_drop] at hnewest
      change 0 + ps.length ≤ _
      omega
    · rintro ⟨hcalls, -, hlanded⟩
      obtain ⟨hscan', hitems⟩ := hlanded.loads rfl hscan
      refine ⟨hcalls, ?_⟩
      rw [loadFromDisk_done hscan', hitems, ← hcalls,
        show File.items (⟨[], none⟩ : File MissedCall) = [] from rfl,
        List.nil_append, KeyedQueue.newest_of_le (by rwa [List.length_map])]
  · refine iff_of_false ?_ fun h => hroom h.2.1
    rintro ⟨hcalls, -⟩
    have hle := (ps.foldl (put marshal) (b, ⟨[], none⟩)).1.length_le
    rw [hcalls, hlength, capacity_foldl_put] at hle
    exact hroom hle

/-! ## Delivery -/

theorem length_putsBack (sch : Schedule) (i : Nat) (calls : List MissedCall) :
    (putsBack sch i calls).length = calls.length + (addedBack sch i calls).length := by
  induction calls generalizing i with
  | nil => rfl
  | cons call calls ih =>
    simp only [putsBack, addedBack, List.length_append, List.length_cons, List.length_map, ih]
    omega

/-- **Nothing is lost or reordered**, whatever happens while the calls are delivered, just where the
condition is met. -/
theorem deliverAll_keeps_iff (marshal : MissedCall → Except String Nat) (sch : Schedule)
    (b : PersistentBuffer MissedCall) (f : File MissedCall) (hkey : b.keyFn = none)
    (hload : loadFromDisk b.capacity .done f = .ok b.items) :
    Delivered b.items (deliverAll marshal sch b f) ↔ Keeps marshal sch b := by
  rcases b.drainAll_cases sch.tio f with
    ⟨hempty, hdrain⟩ | ⟨hne, err, herr, hdrain⟩ | ⟨hne, htio, b', hdrain, hsame⟩
  · refine iff_of_true ?_ (.inl hempty)
    rw [hempty] at hload
    rw [deliverAll, hdrain]
    exact ⟨hempty, hload⟩
  · rw [deliverAll, hdrain]
    cases htio : sch.tio with
    | done =>
      rw [htio] at herr
      cases herr
    | openFails e =>
      refine iff_of_true ⟨(List.append_nil _).symm, ?_⟩ (.inr (.inl ⟨e, htio⟩))
      exact hload.trans (congrArg Except.ok (List.append_nil _).symm)
    | closeFails e =>
      refine iff_of_false ?_ ?_
      · rintro ⟨-, hheld⟩
        exact hne (by
          simpa [truncateFile, loadFromDisk, File.Scannable, File.items, File.allLines] using hheld)
      · rintro (hempty | ⟨e', he'⟩ | ⟨hdone, -⟩)
        · exact hne hempty
        · rw [htio] at he'
          cases he'
        · rw [htio] at hdone
          cases hdone
  · obtain ⟨call, calls, hcalls⟩ := List.exists_cons_of_ne_nil hne
    have hkey' := hsame.keyFn_eq.trans hkey
    have hkeeps : Keeps marshal sch b ↔ sch.build = none ∧
        (∀ err, sch.send = some err → (puts sch b.items).map (·.call) =
          b.items ++ (sch.during.map (·.call) ++ addedBack sch 0 b.items)) ∧
        (puts sch b.items).length ≤ b.capacity ∧ Landed marshal (puts sch b.items) := by
      constructor
      · rintro (hempty | ⟨e, he⟩ | ⟨-, h⟩)
        · exact absurd hempty hne
        · rw [htio] at he
          cases he
        · exact h
      · exact fun h => .inr (.inr ⟨htio, h⟩)
    rw [hkeeps]
    cases hbuild : sch.build with
    | some e =>
      -- the calls are gone with the message
      have hdelivery : deliverAll marshal sch b f =
          ⟨(sch.during.foldl (put marshal) (b', ⟨[], none⟩)).1,
            (sch.during.foldl (put marshal) (b', ⟨[], none⟩)).2,
            some s!"missed calls: failed to create message: {e}", sch.during.map (·.call)⟩ := by
        rw [deliverAll, hdrain, hcalls]
        dsimp only
        rw [hbuild]
      rw [hdelivery]
      refine iff_of_false ?_ (fun h => by cases h.1)
      rintro ⟨hitems, -⟩
      have hlength := @length_foldl_put marshal sch.during (b', ⟨[], none⟩)
      have hpos := List.length_pos_of_ne_nil hne
      rw [hsame.items_eq, List.length_nil] at hlength
      have hheld := congrArg List.length hitems
      simp only [Option.isSome_some, if_true, List.length_append, List.length_map] at hheld
      omega
    | none =>
      cases hsend : sch.send with
      | none =>
        have hdelivery : deliverAll marshal sch b f =
            ⟨(sch.during.foldl (put marshal) (b', ⟨[], none⟩)).1,
              (sch.during.foldl (put marshal) (b', ⟨[], none⟩)).2, none, sch.during.map (·.call)⟩ := by
          rw [deliverAll, hdrain, hcalls]
          dsimp only
          rw [hbuild]
          dsimp only
          rw [hsend]
        rw [hdelivery]
        have hputs : puts sch b.items = sch.during := by
          rw [puts, hsend]
          exact List.append_nil _
        refine (holds_puts_iff hkey' hsame.items_eq (List.length_map _)).trans ?_
        rw [hputs, hsame.capacity_eq]
        exact ⟨fun h => ⟨rfl, by intros; contradiction, h.2⟩, fun h => ⟨rfl, h.2.2⟩⟩
      | some e =>
        have hdelivery : deliverAll marshal sch b f =
            ⟨((sch.during ++ putsBack sch 0 b.items).foldl (put marshal) (b', ⟨[], none⟩)).1,
              ((sch.during ++ putsBack sch 0 b.items).foldl (put marshal) (b', ⟨[], none⟩)).2,
              some s!"missed calls: failed to send message: {e}",
              sch.during.map (·.call) ++ addedBack sch 0 b.items⟩ := by
          rw [deliverAll, hdrain, hcalls, List.foldl_append]
          dsimp only
          rw [hbuild]
          dsimp only
          rw [hsend]
        rw [hdelivery]
        have hputs : puts sch b.items = sch.during ++ putsBack sch 0 b.items := by
          rw [puts, hsend]
          rfl
        refine (holds_puts_iff hkey' hsame.items_eq ?_).trans ?_
        · simp only [Option.isSome_some, if_true, List.length_append, List.length_map, length_putsBack]
          omega
        · rw [hputs, hsame.capacity_eq]
          exact ⟨fun h => ⟨rfl, fun _ _ => h.1, h.2⟩, fun h => ⟨h.2.1 e rfl, h.2.2⟩⟩

/-- A delivery that succeeds, with a call added meanwhile. -/
theorem deliverAll_keeps_added :
    Delivered [⟨"+46700000001", 5⟩] (deliverAll (fun _ => .ok 40)
        ⟨.done, none, none, [⟨⟨"+46700000002", 6⟩, .done, .done⟩], fun _ => (.done, .done, [])⟩
        ⟨[⟨"+46700000001", 5⟩], 1000, none, by decide, by decide⟩ ⟨[⟨some ⟨"+46700000001", 5⟩, 40⟩], none⟩) ↔
      Keeps (fun _ => .ok 40)
        ⟨.done, none, none, [⟨⟨"+46700000002", 6⟩, .done, .done⟩], fun _ => (.done, .done, [])⟩
        ⟨[⟨"+46700000001", 5⟩], 1000, none, by decide, by decide⟩ :=
  deliverAll_keeps_iff (fun _ => .ok 40) _ ⟨[⟨"+46700000001", 5⟩], 1000, none, by decide, by decide⟩
    ⟨[⟨some ⟨"+46700000001", 5⟩, 40⟩], none⟩ rfl (by decide)

/-- **A call that is added meanwhile stands first.** `Send` fails, and the call from before is put back behind
one that was added while the message was sent; and where the call's line does not get to the file, it is in
memory alone. -/
theorem deliverAll_reorders :
    ¬ Delivered [⟨"+46700000001", 5⟩] (deliverAll (fun _ => .ok 40)
        ⟨.done, none, some "websocket: close sent", [⟨⟨"+46700000002", 6⟩, .done, .done⟩],
          fun _ => (.done, .done, [])⟩
        ⟨[⟨"+46700000001", 5⟩], 1000, none, by decide, by decide⟩ ⟨[⟨some ⟨"+46700000001", 5⟩, 40⟩], none⟩) ∧
    ¬ Delivered [⟨"+46700000001", 5⟩] (deliverAll (fun _ => .ok 40)
        ⟨.done, none, some "websocket: close sent", [],
          fun _ => (.openFails "no space left on device", .done, [])⟩
        ⟨[⟨"+46700000001", 5⟩], 1000, none, by decide, by decide⟩
        ⟨[⟨some ⟨"+46700000001", 5⟩, 40⟩], none⟩) := by
  refine ⟨fun h => absurd h.1 (by decide), fun h => absurd h.2 (by decide)⟩

end MissedCalls

end Svarla.ModemGateway
