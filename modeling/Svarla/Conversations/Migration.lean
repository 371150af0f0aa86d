import Mathlib
import Svarla.Conversations.Store

/-!
# The identity of a conversation

Migration 014: a conversation was known by its phone number, and is known by the number of the provider too.
`up` gives every conversation the provider of its newest message, and adds a row for every other provider that
has messages with the same phone number; `down` keeps one row of each phone number.

A statement reads `messages` in an order of the database's own, its scan, and where two messages are of one
time, the scan decides which is the newer. Texts are compared by their characters, for a collation of the
database's.
-/

namespace Svarla.Conversations

open Svarla.Notifications (Thread)
open Svarla.Notifications.Store (threadKey)

namespace Migration

/-- What a row of `conversations` has beside its key. -/
structure Details where
  lastMessagePreview : Option String
  lastMessageTimestamp : Option Int
  removed : Bool
  createdAt : Int
  deriving DecidableEq, Repr

/-- A row of `conversations` before the migration. -/
structure LegacyRow where
  phoneNumber : String
  details : Details
  deriving DecidableEq, Repr

/-- A row of `conversations` after it. -/
structure Row where
  thread : Thread
  details : Details
  deriving DecidableEq, Repr

inductive ItemType
  | missedCalls
  | messages
  deriving DecidableEq, Repr

/-- A row of `read_state`. -/
structure ReadRow where
  itemType : ItemType
  itemKey : String
  readAt : Int
  deriving DecidableEq, Repr

/-- The tables before the migration, with the primary key and the foreign key. -/
structure Legacy where
  messages : List Message
  conversations : List LegacyRow
  readState : List ReadRow
  keys : (conversations.map (·.phoneNumber)).Nodup
  references : ∀ m ∈ messages, m.conversationNumber ∈ conversations.map (·.phoneNumber)

/-- The tables after it, with the primary key. -/
structure Migrated where
  messages : List Message
  conversations : List Row
  readState : List ReadRow
  keys : (conversations.map (·.thread)).Nodup

/-! ## Up -/

/-- `DISTINCT ON`, with the newest first. -/
def newest (scan : List Message) (p : Message → Bool) : Option Message :=
  (scan.filter p).maxOn? (·.timestamp)

/-- The provider of the newest message that has one. -/
def providerOf (scan : List Message) (phoneNumber : String) : Option String :=
  (newest scan fun m => m.providerNumber.isSome && m.conversationNumber = phoneNumber).bind (·.providerNumber)

/-- The row with its provider, or with the sentinel. -/
def backfill (scan : List Message) (row : LegacyRow) : Row :=
  ⟨⟨(providerOf scan row.phoneNumber).getD "", row.phoneNumber⟩, row.details⟩

/-- The threads that have messages. -/
def threads (scan : List Message) : List Thread :=
  (scan.filterMap fun m => m.providerNumber.map fun p => ⟨p, m.conversationNumber⟩).dedup

/-- The newest message of a thread. -/
def newestOf (scan : List Message) (thread : Thread) : Option Message :=
  newest scan fun m => m.providerNumber = some thread.providerNumber && m.conversationNumber = thread.phoneNumber

/-- The rows to insert: one for each row of the recipient that a thread without a row of its own joins. -/
def split (scan : List Message) (rows : List Row) : List Row :=
  ((threads scan).filter fun thread => !rows.any fun existing => existing.thread = thread).flatMap fun thread =>
    (newestOf scan thread).toList.flatMap fun m =>
      (rows.filter fun orig => orig.thread.phoneNumber = thread.phoneNumber).map fun orig =>
        ⟨thread, ⟨some (.ofList (m.body.toList.take 50)), some m.timestamp, orig.details.removed,
          orig.details.createdAt⟩⟩

/-- The composite form of a key. -/
def compose (scan : List Message) (row : ReadRow) : ReadRow :=
  if row.itemType = .messages ∧ '|' ∉ row.itemKey.toList then
    { row with itemKey := threadKey ⟨(providerOf scan row.itemKey).getD "", row.itemKey⟩ }
  else row

/-- `up`, with the scans of the backfill, the split and the read markers; none is a violated key. -/
def up (s : Legacy) (scan splitScan readScan : List Message) : Option Migrated :=
  let rows := s.conversations.map (backfill scan)
  if (rows.map (·.thread)).Nodup then
    let all := rows ++ split splitScan rows
    if keys : (all.map (·.thread)).Nodup then
      some ⟨s.messages, all, s.readState.map (compose readScan), keys⟩
    else none
  else none

/-! ## Down -/

/-- `split_part` of the second part. -/
def splitPart (key : String) : String :=
  .ofList (((key.toList.dropWhile (· ≠ '|')).drop 1).takeWhile (· ≠ '|'))

/-- The key of the recipient alone. -/
def revert (row : ReadRow) : ReadRow :=
  if row.itemType = .messages ∧ '|' ∈ row.itemKey.toList then { row with itemKey := splitPart row.itemKey } else row

/-- The rows that no newer row of one key is there for. -/
def dedupe (rows : List ReadRow) : List ReadRow :=
  rows.filter fun a => !rows.any fun b =>
    a.itemType = .messages && a.itemType = b.itemType && a.itemKey = b.itemKey && a.readAt < b.readAt

/-- When a conversation was last active, for the comparison. -/
def Row.activity (row : Row) : Int := row.details.lastMessageTimestamp.getD 0

/-- A row gives way to a newer one of its recipient. -/
def Row.yields (a b : Row) : Bool :=
  a.thread.phoneNumber = b.thread.phoneNumber && a.thread.providerNumber ≠ b.thread.providerNumber &&
    (a.activity < b.activity ||
      (a.activity = b.activity && decide (a.thread.providerNumber < b.thread.providerNumber)))

/-- One row of each recipient. -/
def collapse (rows : List Row) : List LegacyRow :=
  (rows.filter fun a => !rows.any a.yields).map fun row => ⟨row.thread.phoneNumber, row.details⟩

/-- `down`; none is a violated key. -/
def down (s : Migrated) : Option Legacy :=
  let rows := collapse s.conversations
  if keys : (rows.map (·.phoneNumber)).Nodup then
    if references : ∀ m ∈ s.messages, m.conversationNumber ∈ rows.map (·.phoneNumber) then
      some ⟨s.messages, rows, dedupe (s.readState.map revert), keys, references⟩
    else none
  else none

/-! ## The newest message -/

variable {scan : List Message} {p : Message → Bool} {m : Message} {thread : Thread} {phoneNumber : String}

theorem newest_eq_some (h : newest scan p = some m) :
    m ∈ scan ∧ p m = true ∧ ∀ m' ∈ scan, p m' = true → m'.timestamp ≤ m.timestamp := by
  rw [newest] at h
  obtain ⟨hmem, hp⟩ := List.mem_filter.mp (List.maxOn?_mem h)
  refine ⟨hmem, hp, fun m' hm' hp' => ?_⟩
  have hle := List.le_apply_get_maxOn?_of_mem (f := Message.timestamp) (List.mem_filter.mpr ⟨hm', hp'⟩)
  simp only [h, Option.get_some] at hle
  exact hle

theorem newest_eq_none : newest scan p = none ↔ ∀ m ∈ scan, p m = false := by
  rw [newest, ← Option.not_isSome_iff_eq_none, List.isSome_maxOn?_iff, not_not, List.filter_eq_nil_iff]
  simp

theorem providerOf_eq_some {provider : String} (h : providerOf scan phoneNumber = some provider) :
    ∃ m ∈ scan, m.conversationNumber = phoneNumber ∧ m.providerNumber = some provider ∧
      ∀ m' ∈ scan, m'.conversationNumber = phoneNumber → m'.providerNumber.isSome = true →
        m'.timestamp ≤ m.timestamp := by
  obtain ⟨m, hnewest, hprovider⟩ := Option.bind_eq_some_iff.mp h
  obtain ⟨hmem, hp, hle⟩ := newest_eq_some hnewest
  simp only [Bool.and_eq_true, decide_eq_true_eq] at hp hle
  exact ⟨m, hmem, hp.2, hprovider, fun m' hm' hphone hsome => hle m' hm' ⟨hsome, hphone⟩⟩

theorem providerOf_eq_none (h : providerOf scan phoneNumber = none) :
    ∀ m ∈ scan, m.conversationNumber = phoneNumber → m.providerNumber = none := by
  cases hnewest : newest scan fun m => m.providerNumber.isSome && m.conversationNumber = phoneNumber with
  | none =>
    intro m hm hphone
    have := newest_eq_none.mp hnewest m hm
    simpa [hphone] using this
  | some m =>
    obtain ⟨-, hp, -⟩ := newest_eq_some hnewest
    rw [providerOf, hnewest, Option.bind_some] at h
    simp [h] at hp

theorem mem_threads : thread ∈ threads scan ↔
    ∃ m ∈ scan, m.providerNumber = some thread.providerNumber ∧ m.conversationNumber = thread.phoneNumber := by
  rw [threads, List.mem_dedup, List.mem_filterMap]
  refine exists_congr fun m => and_congr_right fun _ => ?_
  obtain ⟨provider, phone⟩ := thread
  cases m.providerNumber <;> simp

theorem newestOf_of_mem (h : thread ∈ threads scan) : ∃ m ∈ scan, newestOf scan thread = some m ∧
    m.providerNumber = some thread.providerNumber ∧ m.conversationNumber = thread.phoneNumber := by
  obtain ⟨m, hm, hprovider, hphone⟩ := mem_threads.mp h
  cases hnewest : newestOf scan thread with
  | none =>
    have := newest_eq_none.mp hnewest m hm
    simp [hprovider, hphone] at this
  | some m' =>
    obtain ⟨hmem, hp, -⟩ := newest_eq_some hnewest
    simp only [Bool.and_eq_true, decide_eq_true_eq] at hp
    exact ⟨m', hmem, rfl, hp⟩

/-! ## The rows -/

/-- The one element with a key. -/
theorem filter_eq_singleton {α β : Type*} [DecidableEq β] {f : α → β} {xs : List α} (h : (xs.map f).Nodup)
    {x : α} (hx : x ∈ xs) : xs.filter (fun y => f y = f x) = [x] := by
  induction xs with
  | nil => cases hx
  | cons y xs ih =>
    rw [List.map_cons, List.nodup_cons] at h
    obtain rfl | hx := List.mem_cons.mp hx
    · rw [List.filter_cons_of_pos (by simp), List.filter_eq_nil_iff.mpr]
      intro z hz hzx
      exact h.1 (List.mem_map.mpr ⟨z, hz, of_decide_eq_true hzx⟩)
    · rw [List.filter_cons_of_neg, ih h.2 hx]
      intro heq
      exact h.1 (List.mem_map.mpr ⟨x, hx, (of_decide_eq_true heq).symm⟩)

theorem map_flatMap_eq_self {α β : Type*} {f : α → List β} {g : β → α} {xs : List α}
    (h : ∀ x ∈ xs, (f x).map g = [x]) : (xs.flatMap f).map g = xs := by
  induction xs with
  | nil => rfl
  | cons x xs ih =>
    rw [List.flatMap_cons, List.map_append, h x List.mem_cons_self,
      ih fun y hy => h y (List.mem_cons_of_mem _ hy), List.singleton_append]

/-! ## Up -/

variable {s : Legacy} {rows : List Row} {row : Row} {splitScan readScan : List Message}

theorem phones_backfill (scan : List Message) (rows : List LegacyRow) :
    (rows.map (backfill scan)).map (·.thread.phoneNumber) = rows.map (·.phoneNumber) := by
  rw [List.map_map]
  rfl

/-- A row that is inserted, and the one it is taken from. -/
theorem mem_split (h : row ∈ split scan rows) : row.thread ∈ threads scan ∧
    (∀ existing ∈ rows, existing.thread ≠ row.thread) ∧
      (∃ m ∈ scan, newestOf scan row.thread = some m ∧ m.providerNumber = some row.thread.providerNumber ∧
        m.conversationNumber = row.thread.phoneNumber ∧ row.details.lastMessageTimestamp = some m.timestamp) ∧
      ∃ orig ∈ rows, orig.thread.phoneNumber = row.thread.phoneNumber ∧
        row.details.removed = orig.details.removed ∧ row.details.createdAt = orig.details.createdAt := by
  obtain ⟨thread, hthread, h⟩ := List.mem_flatMap.mp h
  obtain ⟨hmem, hnew⟩ := List.mem_filter.mp hthread
  obtain ⟨m, hm, h⟩ := List.mem_flatMap.mp h
  obtain ⟨orig, horig, rfl⟩ := List.mem_map.mp h
  obtain ⟨horig, hphone⟩ := List.mem_filter.mp horig
  obtain ⟨m', hm', hnewest, hprovider, hconversation⟩ := newestOf_of_mem hmem
  rw [hnewest] at hm
  obtain rfl := List.mem_singleton.mp hm
  refine ⟨hmem, ?_, ⟨m, hm', hnewest, hprovider, hconversation, rfl⟩,
    orig, horig, of_decide_eq_true hphone, rfl, rfl⟩
  simpa using hnew

/-- **The split** inserts one row for each thread without one. -/
theorem threads_split (hkeys : (rows.map (·.thread.phoneNumber)).Nodup)
    (hreferences : ∀ m ∈ scan, m.conversationNumber ∈ rows.map (·.thread.phoneNumber)) :
    (split scan rows).map (·.thread) =
      (threads scan).filter fun thread => !rows.any fun existing => existing.thread = thread := by
  refine map_flatMap_eq_self fun thread hthread => ?_
  obtain ⟨m, hm, hnewest, -, hphone⟩ := newestOf_of_mem (List.mem_filter.mp hthread).1
  obtain ⟨orig, horig, hsame⟩ := List.mem_map.mp (hreferences m hm)
  have hone : rows.filter (fun orig => orig.thread.phoneNumber = thread.phoneNumber) = [orig] := by
    rw [← hphone, ← hsame]
    exact filter_eq_singleton (f := fun row : Row => row.thread.phoneNumber) hkeys horig
  rw [hnewest, Option.toList_some, List.flatMap_singleton, hone]
  rfl

/-- The rows after `up`. -/
def migrate (s : Legacy) (scan splitScan : List Message) : List Row :=
  s.conversations.map (backfill scan) ++ split splitScan (s.conversations.map (backfill scan))

theorem references_backfill (s : Legacy) (scan : List Message) (hsplit : splitScan.Perm s.messages) :
    ∀ m ∈ splitScan, m.conversationNumber ∈
      (s.conversations.map (backfill scan)).map (·.thread.phoneNumber) := by
  intro m hm
  rw [phones_backfill]
  exact s.references m (hsplit.mem_iff.mp hm)

theorem nodup_migrate (s : Legacy) (scan : List Message) (hsplit : splitScan.Perm s.messages) :
    ((s.conversations.map (backfill scan)).map (·.thread)).Nodup ∧
      ((migrate s scan splitScan).map (·.thread)).Nodup := by
  have hphones : ((s.conversations.map (backfill scan)).map (·.thread.phoneNumber)).Nodup := by
    rw [phones_backfill]
    exact s.keys
  have hrows : ((s.conversations.map (backfill scan)).map (·.thread)).Nodup := by
    refine List.Nodup.of_map Thread.phoneNumber ?_
    rw [List.map_map]
    exact hphones
  refine ⟨hrows, ?_⟩
  rw [migrate, List.map_append, threads_split hphones (references_backfill s scan hsplit)]
  refine hrows.append ((List.nodup_dedup _).filter _) ?_
  intro thread hthread hnew
  obtain ⟨row, hrow, rfl⟩ := List.mem_map.mp hthread
  have := (List.mem_filter.mp hnew).2
  simp only [Bool.not_eq_true', List.any_eq_false, decide_eq_true_eq] at this
  exact this row hrow rfl

/-- **The migration never violates a key.** -/
theorem up_eq (s : Legacy) (scan readScan : List Message) (hsplit : splitScan.Perm s.messages) :
    up s scan splitScan readScan = some ⟨s.messages, migrate s scan splitScan,
      s.readState.map (compose readScan), (nodup_migrate s scan hsplit).2⟩ := by
  obtain ⟨hrows, hall⟩ := nodup_migrate s scan hsplit
  exact (if_pos hrows).trans (dif_pos hall)

/-- The threads after the migration. -/
theorem mem_migrate_threads (hscan : scan.Perm s.messages) (hsplit : splitScan.Perm s.messages) :
    thread ∈ (migrate s scan splitScan).map (·.thread) ↔
      (∃ m ∈ s.messages, m.providerNumber = some thread.providerNumber ∧
        m.conversationNumber = thread.phoneNumber) ∨
      thread.providerNumber = "" ∧ thread.phoneNumber ∈ s.conversations.map (·.phoneNumber) ∧
        ∀ m ∈ s.messages, m.conversationNumber = thread.phoneNumber → m.providerNumber = none := by
  have hphones : ((s.conversations.map (backfill scan)).map (·.thread.phoneNumber)).Nodup := by
    rw [phones_backfill]
    exact s.keys
  rw [migrate, List.map_append, List.mem_append,
    threads_split hphones (references_backfill s scan hsplit), List.mem_filter, mem_threads]
  constructor
  · rintro (hold | ⟨⟨m, hm, hthread⟩, -⟩)
    · obtain ⟨row, hrow, rfl⟩ := List.mem_map.mp hold
      obtain ⟨legacy, hlegacy, rfl⟩ := List.mem_map.mp hrow
      cases hprovider : providerOf scan legacy.phoneNumber with
      | none =>
        refine .inr ⟨by rw [backfill, hprovider]; rfl, List.mem_map_of_mem hlegacy, fun m hm hphone => ?_⟩
        exact providerOf_eq_none hprovider m (hscan.mem_iff.mpr hm) hphone
      | some provider =>
        obtain ⟨m, hm, hphone, hsome, -⟩ := providerOf_eq_some hprovider
        exact .inl ⟨m, hscan.mem_iff.mp hm, by rw [backfill, hprovider]; exact hsome, hphone⟩
    · exact .inl ⟨m, hsplit.mem_iff.mp hm, hthread⟩
  · intro h
    by_cases hold : thread ∈ (s.conversations.map (backfill scan)).map (·.thread)
    · exact .inl hold
    · obtain ⟨m, hm, hthread⟩ | ⟨hnone, hphone, hmessages⟩ := h
      · refine .inr ⟨⟨m, hsplit.mem_iff.mpr hm, hthread⟩, ?_⟩
        simp only [Bool.not_eq_true', List.any_eq_false, decide_eq_true_eq]
        rintro row hrow rfl
        exact hold (List.mem_map_of_mem hrow)
      · refine absurd ?_ hold
        obtain ⟨legacy, hlegacy, hsame⟩ := List.mem_map.mp hphone
        refine List.mem_map.mpr ⟨backfill scan legacy, List.mem_map_of_mem hlegacy, ?_⟩
        obtain ⟨provider, phone⟩ := thread
        obtain rfl : "" = provider := hnone.symm
        obtain rfl : legacy.phoneNumber = phone := hsame
        have hnoProvider : providerOf scan legacy.phoneNumber = none := by
          cases hprovider : providerOf scan legacy.phoneNumber with
          | none => rfl
          | some provider =>
            obtain ⟨m, hm, hphone, hsome, -⟩ := providerOf_eq_some hprovider
            rw [hmessages m (hscan.mem_iff.mp hm) hphone] at hsome
            cases hsome
        rw [backfill, hnoProvider]
        rfl

/-- **No thread is lost.** The migration succeeds whatever the order in which the database reads the messages;
afterwards the threads of the conversations are those that have a message with a provider, and, under the
sentinel, the recipients that have none. A read marker of a recipient becomes one of its threads'. -/
theorem up_threads (s : Legacy) (hscan : scan.Perm s.messages) (hsplit : splitScan.Perm s.messages)
    (hread : readScan.Perm s.messages) :
    ∃ t, up s scan splitScan readScan = some t ∧ t.messages = s.messages ∧
      (∀ thread, thread ∈ t.conversations.map (·.thread) ↔
        (∃ m ∈ s.messages, m.providerNumber = some thread.providerNumber ∧
          m.conversationNumber = thread.phoneNumber) ∨
        thread.providerNumber = "" ∧ thread.phoneNumber ∈ s.conversations.map (·.phoneNumber) ∧
          ∀ m ∈ s.messages, m.conversationNumber = thread.phoneNumber → m.providerNumber = none) ∧
      t.readState = s.readState.map (compose readScan) ∧
      ∀ marker ∈ s.readState, marker.itemType = .messages → '|' ∉ marker.itemKey.toList →
        marker.itemKey ∈ s.conversations.map (·.phoneNumber) →
          ∃ thread ∈ t.conversations.map (·.thread), thread.phoneNumber = marker.itemKey ∧
            (compose readScan marker).itemKey = threadKey thread := by
  refine ⟨_, up_eq s scan readScan hsplit, rfl, fun thread => mem_migrate_threads hscan hsplit, rfl, ?_⟩
  intro marker _ htype hbar hphone
  refine ⟨⟨(providerOf readScan marker.itemKey).getD "", marker.itemKey⟩,
    (mem_migrate_threads hscan hsplit).mpr ?_, rfl, by rw [compose, if_pos ⟨htype, hbar⟩]⟩
  cases hprovider : providerOf readScan marker.itemKey with
  | none =>
    exact .inr ⟨rfl, hphone, fun m hm hconversation =>
      providerOf_eq_none hprovider m (hread.mem_iff.mpr hm) hconversation⟩
  | some provider =>
    obtain ⟨m, hm, hconversation, hsome, -⟩ := providerOf_eq_some hprovider
    exact .inl ⟨m, hread.mem_iff.mp hm, hsome, hconversation⟩

/-! ## Down -/

variable {a b : Row}

/-- What rows of one recipient are compared by. -/
def Row.rank (row : Row) : Lex (Int × String) := toLex (row.activity, row.thread.providerNumber)

theorem eq_of_thread {α β : Type*} {f : α → β} {xs : List α} (h : (xs.map f).Nodup) {x y : α} (hx : x ∈ xs)
    (hy : y ∈ xs) (heq : f x = f y) : x = y :=
  List.inj_on_of_nodup_map h hx hy heq

/-- A row yields to those of a higher rank. -/
theorem yields_iff (hkeys : (rows.map (·.thread)).Nodup) (ha : a ∈ rows) (hb : b ∈ rows) :
    a.yields b = true ↔ a.thread.phoneNumber = b.thread.phoneNumber ∧ a.rank < b.rank := by
  rw [Row.yields, Row.rank, Row.rank, Prod.Lex.toLex_lt_toLex]
  simp only [Bool.and_eq_true, Bool.or_eq_true, decide_eq_true_eq, ne_eq, and_assoc]
  refine and_congr_right fun hphone => ?_
  constructor
  · exact And.right
  · intro hlt
    refine ⟨fun hprovider => ?_, hlt⟩
    have hthread : a.thread = b.thread := by
      obtain ⟨⟨_, _⟩, _⟩ := a
      obtain ⟨⟨_, _⟩, _⟩ := b
      exact congrArg₂ Thread.mk hprovider hphone
    obtain rfl := eq_of_thread hkeys ha hb hthread
    exact hlt.elim (lt_irrefl _) fun h => lt_irrefl _ h.2

/-- The rows that are kept are those of the highest rank. -/
theorem mem_collapse (hkeys : (rows.map (·.thread)).Nodup) {c : LegacyRow} :
    c ∈ collapse rows ↔ ∃ row ∈ rows, c = ⟨row.thread.phoneNumber, row.details⟩ ∧
      ∀ other ∈ rows, other.thread.phoneNumber = row.thread.phoneNumber → other.rank ≤ row.rank := by
  rw [collapse, List.mem_map]
  refine exists_congr fun row => ?_
  rw [List.mem_filter, and_assoc]
  refine and_congr_right fun hrow => ?_
  rw [and_comm, eq_comm]
  refine and_congr_right fun _ => ?_
  rw [Bool.not_eq_true', List.any_eq_false]
  refine forall₂_congr fun other hother => ?_
  rw [yields_iff hkeys hrow hother, not_and, not_lt]
  exact ⟨fun h heq => h heq.symm, fun h heq => h heq.symm⟩

/-- Every recipient keeps a row. -/
theorem phone_mem_collapse (hkeys : (rows.map (·.thread)).Nodup) :
    phoneNumber ∈ (collapse rows).map (·.phoneNumber) ↔ phoneNumber ∈ rows.map (·.thread.phoneNumber) := by
  constructor
  · intro h
    obtain ⟨c, hc, rfl⟩ := List.mem_map.mp h
    obtain ⟨row, hrow, rfl, -⟩ := (mem_collapse hkeys).mp hc
    exact List.mem_map_of_mem hrow
  · intro h
    obtain ⟨row, hrow, rfl⟩ := List.mem_map.mp h
    -- a row of the highest rank among those of the recipient
    obtain ⟨top, htop, hmax⟩ := Finset.exists_max_image
      (rows.toFinset.filter fun other => other.thread.phoneNumber = row.thread.phoneNumber) Row.rank
      ⟨row, Finset.mem_filter.mpr ⟨List.mem_toFinset.mpr hrow, rfl⟩⟩
    obtain ⟨hmem, hphone⟩ := Finset.mem_filter.mp htop
    rw [List.mem_toFinset] at hmem
    refine List.mem_map.mpr ⟨⟨top.thread.phoneNumber, top.details⟩,
      (mem_collapse hkeys).mpr ⟨top, hmem, rfl, fun other hother hsame => ?_⟩, hphone⟩
    exact hmax other (Finset.mem_filter.mpr ⟨List.mem_toFinset.mpr hother, hsame.trans hphone⟩)

/-- No recipient keeps two. -/
theorem nodup_collapse (hkeys : (rows.map (·.thread)).Nodup) :
    ((collapse rows).map (·.phoneNumber)).Nodup := by
  rw [collapse, List.map_map]
  refine List.Nodup.map_on ?_ ((List.Nodup.of_map _ hkeys).filter _)
  intro a ha b hb hphone
  obtain ⟨hamem, hakept⟩ := List.mem_filter.mp ha
  obtain ⟨hbmem, hbkept⟩ := List.mem_filter.mp hb
  simp only [Bool.not_eq_true', List.any_eq_false, Bool.not_eq_true] at hakept hbkept
  have hphone : a.thread.phoneNumber = b.thread.phoneNumber := hphone
  have hab : ¬ a.rank < b.rank := fun hlt =>
    absurd ((yields_iff hkeys hamem hbmem).mpr ⟨hphone, hlt⟩) (by simp [hakept b hbmem])
  have hba : ¬ b.rank < a.rank := fun hlt =>
    absurd ((yields_iff hkeys hbmem hamem).mpr ⟨hphone.symm, hlt⟩) (by simp [hbkept a hamem])
  have hrank : a.rank = b.rank := le_antisymm (not_lt.mp hba) (not_lt.mp hab)
  have hprovider : a.thread.providerNumber = b.thread.providerNumber :=
    (Prod.mk.inj (toLex_inj.mp hrank)).2
  refine eq_of_thread hkeys hamem hbmem ?_
  obtain ⟨⟨_, _⟩, _⟩ := a
  obtain ⟨⟨_, _⟩, _⟩ := b
  exact congrArg₂ Thread.mk hprovider hphone

/-- **What `down` keeps**: it fails just where a message has no conversation any more, for a recipient without
a row; else every recipient keeps one row, the one that was last active, and of those that were last active at
one time the one with the greatest provider. -/
theorem down_keeps_newest (t : Migrated) :
    ((∃ s, down t = some s) ↔
      ∀ m ∈ t.messages, m.conversationNumber ∈ t.conversations.map (·.thread.phoneNumber)) ∧
    ∀ s, down t = some s →
      (∀ phoneNumber, phoneNumber ∈ s.conversations.map (·.phoneNumber) ↔
        phoneNumber ∈ t.conversations.map (·.thread.phoneNumber)) ∧
      ∀ c, c ∈ s.conversations ↔ ∃ row ∈ t.conversations, c = ⟨row.thread.phoneNumber, row.details⟩ ∧
        ∀ other ∈ t.conversations, other.thread.phoneNumber = row.thread.phoneNumber →
          other.rank ≤ row.rank := by
  have hkeys := nodup_collapse t.keys
  have hphones (phoneNumber : String) : phoneNumber ∈ (collapse t.conversations).map (·.phoneNumber) ↔
      phoneNumber ∈ t.conversations.map (·.thread.phoneNumber) := phone_mem_collapse t.keys
  constructor
  · rw [down, dif_pos hkeys]
    constructor
    · rintro ⟨s, hs⟩ m hm
      split at hs
      · next references => exact (hphones _).mp (references m hm)
      · cases hs
    · intro hreferences
      exact ⟨_, dif_pos fun m hm => (hphones _).mpr (hreferences m hm)⟩
  · intro s hs
    rw [down, dif_pos hkeys] at hs
    split at hs <;> cases hs
    exact ⟨hphones, fun c => mem_collapse t.keys⟩

theorem down_eq_some {t : Migrated} {s : Legacy} (hmessages : t.messages = s.messages)
    (hrows : collapse t.conversations = s.conversations)
    (hread : dedupe (t.readState.map revert) = s.readState) : down t = some s := by
  obtain ⟨messages, conversations, readState, keys, references⟩ := s
  subst hmessages hrows hread
  exact (dif_pos keys).trans (dif_pos references)

/-! ## Up and down -/

/-- A row after the migration has its recipient's. -/
theorem mem_migrate (h : row ∈ migrate s scan splitScan) : ∃ c ∈ s.conversations,
    c.phoneNumber = row.thread.phoneNumber ∧ c.details.removed = row.details.removed ∧
      c.details.createdAt = row.details.createdAt := by
  obtain hold | hnew := List.mem_append.mp h
  · obtain ⟨c, hc, rfl⟩ := List.mem_map.mp hold
    exact ⟨c, hc, rfl, rfl, rfl⟩
  · obtain ⟨-, -, -, orig, horig, hphone, hremoved, hcreated⟩ := mem_split hnew
    obtain ⟨c, hc, rfl⟩ := List.mem_map.mp horig
    exact ⟨c, hc, hphone, hremoved.symm, hcreated.symm⟩

theorem phone_mem_migrate (s : Legacy) (scan splitScan : List Message) :
    phoneNumber ∈ (migrate s scan splitScan).map (·.thread.phoneNumber) ↔
      phoneNumber ∈ s.conversations.map (·.phoneNumber) := by
  constructor
  · intro h
    obtain ⟨row, hrow, rfl⟩ := List.mem_map.mp h
    obtain ⟨c, hc, hphone, -⟩ := mem_migrate hrow
    exact List.mem_map.mpr ⟨c, hc, hphone⟩
  · intro h
    rw [migrate, List.map_append, phones_backfill]
    exact List.mem_append_left _ h

/-- What a recipient is shown by. -/
def LegacyRow.shown (c : LegacyRow) : String × Bool × Int :=
  (c.phoneNumber, c.details.removed, c.details.createdAt)

/-- **A rollback keeps every recipient**: after `up`, `down` succeeds, and leaves the same recipients, hidden or
not as they were, whatever the messages. -/
theorem rollback_keeps (s : Legacy) (scan readScan : List Message) (hsplit : splitScan.Perm s.messages) :
    ∃ t s', up s scan splitScan readScan = some t ∧ down t = some s' ∧ s'.messages = s.messages ∧
      (s'.conversations.map LegacyRow.shown).Perm (s.conversations.map LegacyRow.shown) := by
  have hup := up_eq s scan readScan hsplit
  obtain ⟨hfails, hkeeps⟩ := down_keeps_newest ⟨s.messages, migrate s scan splitScan,
    s.readState.map (compose readScan), (nodup_migrate s scan hsplit).2⟩
  obtain ⟨s', hdown⟩ := hfails.mpr fun m hm => (phone_mem_migrate s scan splitScan).mpr (s.references m hm)
  obtain ⟨hphones, hrows⟩ := hkeeps s' hdown
  have hmessages : s'.messages = s.messages := by
    rw [down] at hdown
    split at hdown
    · split at hdown <;> cases hdown
      rfl
    · cases hdown
  have hnodup : ∀ s : Legacy, (s.conversations.map LegacyRow.shown).Nodup := by
    intro s
    refine List.Nodup.of_map Prod.fst ?_
    rw [List.map_map]
    exact s.keys
  -- the row that is left of a recipient is shown as its first one was
  have hshown : ∀ c' ∈ s'.conversations, ∃ c ∈ s.conversations, c'.shown = c.shown := by
    intro c' hc'
    obtain ⟨row, hrow, rfl, -⟩ := (hrows c').mp hc'
    obtain ⟨c, hc, hphone, hremoved, hcreated⟩ := mem_migrate hrow
    exact ⟨c, hc, by rw [LegacyRow.shown, LegacyRow.shown, hphone, hremoved, hcreated]⟩
  refine ⟨_, s', hup, hdown, hmessages, (List.perm_ext_iff_of_nodup (hnodup s') (hnodup s)).mpr fun shown => ?_⟩
  constructor
  · intro h
    obtain ⟨c', hc', rfl⟩ := List.mem_map.mp h
    obtain ⟨c, hc, heq⟩ := hshown c' hc'
    exact List.mem_map.mpr ⟨c, hc, heq.symm⟩
  · intro h
    obtain ⟨c, hc, rfl⟩ := List.mem_map.mp h
    have hphone := (hphones c.phoneNumber).mpr
      ((phone_mem_migrate s scan splitScan).mpr (List.mem_map_of_mem hc))
    obtain ⟨c', hc', hsame⟩ := List.mem_map.mp hphone
    obtain ⟨c₀, hc₀, heq⟩ := hshown c' hc'
    obtain rfl := eq_of_thread s.keys hc₀ hc ((Prod.mk.inj heq).1.symm.trans hsame)
    exact List.mem_map.mpr ⟨c', hc', heq⟩

/-- A marker's key comes back, where neither number has a bar. -/
theorem splitPart_threadKey (hprovider : '|' ∉ thread.providerNumber.toList)
    (hphone : '|' ∉ thread.phoneNumber.toList) : splitPart (threadKey thread) = thread.phoneNumber := by
  have hdrop : ∀ xs : List Char, '|' ∉ xs →
      (xs ++ '|' :: thread.phoneNumber.toList).dropWhile (· ≠ '|') = '|' :: thread.phoneNumber.toList := by
    intro xs hxs
    induction xs with
    | nil => simp
    | cons x xs ih =>
      rw [List.mem_cons, not_or] at hxs
      obtain ⟨hx, hxs⟩ := hxs
      rw [List.cons_append, List.dropWhile_cons_of_pos (by simpa using Ne.symm hx), ih hxs]
  have htake : thread.phoneNumber.toList.takeWhile (· ≠ '|') = thread.phoneNumber.toList := by
    rw [List.takeWhile_eq_self_iff]
    intro x hx
    refine decide_eq_true ?_
    rintro rfl
    exact hphone hx
  have hlist : (threadKey thread).toList =
      thread.providerNumber.toList ++ '|' :: thread.phoneNumber.toList := by
    simp [threadKey]
  rw [splitPart, hlist, hdrop _ hprovider, List.drop_one, List.tail_cons, htake, String.ofList_toList]

theorem revert_compose (hbar : ∀ m ∈ scan, ∀ p, m.providerNumber = some p → '|' ∉ p.toList) {marker : ReadRow}
    (hkey : marker.itemType = .messages → '|' ∉ marker.itemKey.toList) :
    revert (compose scan marker) = marker := by
  obtain ⟨itemType, itemKey, readAt⟩ := marker
  cases itemType with
  | missedCalls => rfl
  | messages =>
    have hkey := hkey rfl
    have hprovider : '|' ∉ ((providerOf scan itemKey).getD "").toList := by
      cases hsome : providerOf scan itemKey with
      | none => exact List.not_mem_nil
      | some p =>
        obtain ⟨m, hm, -, hp, -⟩ := providerOf_eq_some hsome
        exact hbar m hm p hp
    have hin : '|' ∈ (threadKey ⟨(providerOf scan itemKey).getD "", itemKey⟩).toList := by simp [threadKey]
    rw [compose, if_pos ⟨rfl, hkey⟩, revert, if_pos ⟨rfl, hin⟩, splitPart_threadKey hprovider hkey]

/-- The conversation is as active as its newest message with a provider says. -/
def Legacy.Current (s : Legacy) : Prop :=
  ∀ c ∈ s.conversations, ∀ m ∈ s.messages, m.conversationNumber = c.phoneNumber →
    m.providerNumber.isSome = true → m.timestamp ≤ c.details.lastMessageTimestamp.getD 0

/-- Messages of two threads of one recipient are of different times. -/
def Legacy.Untied (s : Legacy) : Prop :=
  ∀ m ∈ s.messages, ∀ m' ∈ s.messages, m.conversationNumber = m'.conversationNumber →
    m.providerNumber.isSome = true → m'.providerNumber.isSome = true → m.timestamp = m'.timestamp →
      m.providerNumber = m'.providerNumber

/-- The read markers of the threads have no bar, and no thread has two of different times. -/
structure Legacy.PlainMarkers (s : Legacy) : Prop where
  bar : ∀ r ∈ s.readState, r.itemType = .messages → '|' ∉ r.itemKey.toList
  one : ∀ a ∈ s.readState, ∀ b ∈ s.readState, a.itemType = .messages → a.itemType = b.itemType →
    a.itemKey = b.itemKey → b.readAt ≤ a.readAt

/-- A row that the split inserts gives way to the one it joined. -/
theorem split_yields (hcurrent : s.Current) (huntied : s.Untied) (hscan : scan.Perm s.messages)
    (hsplit : splitScan.Perm s.messages)
    (hrow : row ∈ split splitScan (s.conversations.map (backfill scan))) {c : LegacyRow}
    (hc : c ∈ s.conversations) (hphone : c.phoneNumber = row.thread.phoneNumber) :
    row.rank < (backfill scan c).rank := by
  obtain ⟨-, hnew, ⟨m, hm, -, hprovider, hconversation, htimestamp⟩, -⟩ := mem_split hrow
  have hmem := hsplit.mem_iff.mp hm
  have hconversation' : m.conversationNumber = c.phoneNumber := hconversation.trans hphone.symm
  have hsome : m.providerNumber.isSome = true := by rw [hprovider]; rfl
  cases hnewest : providerOf scan c.phoneNumber with
  | none =>
    rw [providerOf_eq_none hnewest m (hscan.mem_iff.mpr hmem) hconversation'] at hsome
    cases hsome
  | some provider =>
    obtain ⟨top, htop, htopPhone, htopProvider, hle⟩ := providerOf_eq_some hnewest
    have htopMem := hscan.mem_iff.mp htop
    have hle := hle m (hscan.mem_iff.mpr hmem) hconversation' hsome
    have hne : m.timestamp ≠ top.timestamp := by
      intro heq
      have hsame := huntied m hmem top htopMem (hconversation'.trans htopPhone.symm) hsome
        (by rw [htopProvider]; rfl) heq
      rw [hprovider, htopProvider] at hsame
      refine hnew _ (List.mem_map_of_mem hc) ?_
      obtain ⟨⟨_, _⟩, _⟩ := row
      rw [backfill, hnewest]
      exact congrArg₂ Thread.mk (Option.some.inj hsame).symm hphone
    have hactive := hcurrent c hc top htopMem htopPhone (by rw [htopProvider]; rfl)
    refine Prod.Lex.toLex_lt_toLex.mpr (.inl ?_)
    change row.details.lastMessageTimestamp.getD 0 < c.details.lastMessageTimestamp.getD 0
    rw [htimestamp, Option.getD_some]
    omega

/-- Two providers have messages with one recipient, and one recipient has none. -/
def twoProviders : Legacy where
  messages :=
    [⟨"1", none, "+31", some "+46 1", "Hello", .received, .delivered, 10, 0, false⟩,
      ⟨"2", none, "+31", some "+46 2", "Hello again", .sent, .sent, 20, 0, false⟩]
  conversations := [⟨"+31", some "Hello again", some 20, true, 5⟩, ⟨"+32", none, none, false, 6⟩]
  readState := [⟨.messages, "+31", 15⟩, ⟨.missedCalls, "all", 16⟩]
  keys := by decide
  references := by decide

theorem up_threads_twoProviders : ∃ t, up twoProviders twoProviders.messages twoProviders.messages.reverse
    twoProviders.messages = some t ∧ ⟨"+46 1", "+31"⟩ ∈ t.conversations.map (·.thread) := by
  obtain ⟨t, hup, -, hthreads, -⟩ := up_threads twoProviders (.refl twoProviders.messages)
    (List.reverse_perm twoProviders.messages) (.refl twoProviders.messages)
  refine ⟨t, hup, (hthreads _).mpr (.inl ⟨_, .head _, rfl, rfl⟩)⟩

theorem rollback_keeps_twoProviders : ∃ t s', up twoProviders twoProviders.messages
    twoProviders.messages.reverse twoProviders.messages = some t ∧ down t = some s' ∧
      (s'.conversations.map LegacyRow.shown).Perm [("+31", true, 5), ("+32", false, 6)] := by
  obtain ⟨t, s', hup, hdown, -, hperm⟩ := rollback_keeps twoProviders twoProviders.messages
    twoProviders.messages (List.reverse_perm twoProviders.messages)
  exact ⟨t, s', hup, hdown, hperm⟩

end Migration

end Svarla.Conversations
