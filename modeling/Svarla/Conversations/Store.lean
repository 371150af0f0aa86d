import Svarla.Notifications.ReadState
import Svarla.Numbers.Normalize

/-!
# Conversations

The tables of the conversation service: `messages`, `conversations` and the part of `read_state` about
messages. Times are those of the database. What the service does to a table in one statement is a function
here; the runs of its operations are in the modules that follow.
-/

namespace Svarla.Conversations

open Svarla.Lib
open Svarla.Notifications (Direction Thread)

inductive MessageStatus
  | pending
  | sent
  | delivered
  | failed
  | queued
  deriving DecidableEq, Repr

/-- A row of `messages`. -/
structure Message where
  /-- A UUID. -/
  id : String
  providerMessageId : Option String
  conversationNumber : String
  providerNumber : Option String
  body : String
  direction : Direction
  status : MessageStatus
  timestamp : Int
  retryCount : Nat
  removed : Bool
  deriving DecidableEq, Repr

/-- A row of `conversations`. -/
structure Conversation where
  thread : Thread
  lastMessagePreview : Option String
  lastMessageTimestamp : Option Int
  removed : Bool
  deriving DecidableEq, Repr

structure Store where
  messages : List Message
  conversations : List Conversation
  /-- The thread keys that were read, and when. -/
  readState : List (String × Int)
  deriving DecidableEq, Repr

/-! ## Texts -/

/-- `truncate`. -/
def truncate (message : String) (maxLength : Nat) : String :=
  let units := Utf16.encode message.toList
  if units.length ≤ maxLength then message
  else .ofList (Utf16.decode (units.take (maxLength - 1))) ++ "…"

/-- `threadListPreview`. -/
def threadListPreview (message : String) : String := truncate message 50

/-- `validateMessage`. -/
def validateMessage (body : String) : Except String Unit :=
  if body = "" then .error "Message body is required"
  else if Numbers.trim body.toList = [] then .error "Message body must not be whitespace-only"
  else if 1600 < (Utf16.encode body.toList).length then
    .error "Message body must not exceed 1600 characters"
  else .ok ()

namespace Store

def init : Store := ⟨[], [], []⟩

/-! ## Statements -/

/-- A new row: nothing, where its ID is in use. -/
def insertMessage (s : Store) (m : Message) : Option Store :=
  if ∃ m' ∈ s.messages, m'.id = m.id then none else some { s with messages := s.messages ++ [m] }

/-- `upsertConversation`. -/
def upsertConversation (s : Store) (thread : Thread) : Store :=
  if ∃ c ∈ s.conversations, c.thread = thread then
    { s with
      conversations := s.conversations.map fun c =>
        if c.thread = thread then { c with removed := false } else c }
  else { s with conversations := s.conversations ++ [⟨thread, none, none, false⟩] }

/-- `updateConversationMetadata`. -/
def updateConversationMetadata (s : Store) (thread : Thread) (body : String) (timestamp : Int) : Store :=
  { s with
    conversations := s.conversations.map fun c =>
      if c.thread = thread then
        { c with
          lastMessagePreview := some (threadListPreview body)
          lastMessageTimestamp := some timestamp }
      else c }

/-- The status of a message, and the provider's ID of it, unless that is another message's. -/
def updateStatus (s : Store) (id : String) (status : MessageStatus) (providerMessageId : Option String) :
    Store :=
  { s with
    messages := s.messages.map fun m =>
      if m.id = id then
        { m with
          status
          providerMessageId :=
            if providerMessageId = none ∨
                ∃ m' ∈ s.messages, m'.id ≠ id ∧ m'.providerMessageId = providerMessageId then
              m.providerMessageId
            else providerMessageId }
      else m }

/-! ## Threads -/

variable {s : Store} {thread other : Thread} {c : Conversation}

@[simp] theorem messages_upsert : (s.upsertConversation thread).messages = s.messages := by
  unfold upsertConversation
  split <;> rfl

@[simp] theorem readState_upsert : (s.upsertConversation thread).readState = s.readState := by
  unfold upsertConversation
  split <;> rfl

/-- Only the row of the thread changes. -/
theorem mem_upsert_of_ne (hne : c.thread ≠ thread) :
    c ∈ (s.upsertConversation thread).conversations ↔ c ∈ s.conversations := by
  unfold upsertConversation
  split
  · constructor
    · intro hc
      obtain ⟨c', hc', rfl⟩ := List.mem_map.mp hc
      by_cases heq : c'.thread = thread
      · rw [if_pos heq] at hne
        exact absurd heq hne
      · rwa [if_neg heq]
    · exact fun hc => List.mem_map.mpr ⟨c, hc, if_neg hne⟩
  · rw [List.mem_append, List.mem_singleton]
    refine or_iff_left fun heq => hne ?_
    rw [heq]

/-- The thread has a row. -/
theorem exists_upsert : ∃ c ∈ (s.upsertConversation thread).conversations, c.thread = thread := by
  unfold upsertConversation
  split
  · next h =>
    obtain ⟨c, hc, rfl⟩ := h
    exact ⟨_, List.mem_map.mpr ⟨c, hc, if_pos rfl⟩, rfl⟩
  · exact ⟨_, List.mem_append_right _ (List.mem_singleton_self _), rfl⟩

/-- A row stays the row of its thread. -/
theorem exists_upsert_of (h : ∃ c ∈ s.conversations, c.thread = other) :
    ∃ c ∈ (s.upsertConversation thread).conversations, c.thread = other := by
  obtain ⟨c, hc, rfl⟩ := h
  by_cases hthread : c.thread = thread
  · rw [hthread]
    exact exists_upsert
  · exact ⟨c, (mem_upsert_of_ne hthread).mpr hc, rfl⟩

/-- The thread is not removed any more. -/
theorem removed_upsert (hc : c ∈ (s.upsertConversation c.thread).conversations) : c.removed = false := by
  unfold upsertConversation at hc
  split at hc
  · obtain ⟨c', -, heq⟩ := List.mem_map.mp hc
    split at heq
    · rw [← heq]
    · next hne =>
      rw [heq] at hne
      exact absurd rfl hne
  · next hnone =>
    obtain hc | hc := List.mem_append.mp hc
    · exact absurd ⟨c, hc, rfl⟩ hnone
    · rw [List.mem_singleton.mp hc]

end Store

end Svarla.Conversations
