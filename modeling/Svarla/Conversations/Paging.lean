import Mathlib
import Svarla.Conversations.Store
import Svarla.Lib.Pages

/-!
# The pages of the conversations

`getConversations` sorts the rows by the time of the last message, and cuts out a page; rows of one time are in
an order of the database's own, and in another one for the next page. So a client that goes through the pages
sees every conversation once, if no two conversations of one time are on two pages (`pages_exact_iff`).

Times are compared as the database does it, with NULL above all of them. The numbers of a request have been
rounded down.
-/

namespace Svarla.Conversations

open Svarla.Lib

/-- `PaginatedConversations`. -/
structure PaginatedConversations where
  conversations : List Conversation
  page : Nat
  pageSize : Nat
  total : Nat
  totalPages : Nat
  deriving DecidableEq, Repr

namespace Store

/-- The rows of the query, in the order of the table. -/
def visible (s : Store) (providerNumber : Option String) : List Conversation :=
  s.conversations.filter fun c => !c.removed &&
    match providerNumber with
    | none => true
    | some providerNumber => providerNumber = "" || c.thread.providerNumber = providerNumber

/-- What the rows are sorted by. -/
def recency (c : Conversation) : WithTop Int :=
  match c.lastMessageTimestamp with
  | none => ⊤
  | some timestamp => timestamp

/-- The page sizes that are allowed. -/
def safePageSize (pageSize : Int) : Nat := (max 1 (min 100 pageSize)).toNat

/-- `getConversations`, where the rows of the query come in the given order. -/
def getConversations (s : Store) (rows : List Conversation) (page pageSize : Int)
    (providerNumber : Option String) : PaginatedConversations :=
  let safePage := (max 1 page).toNat
  let total := (s.visible providerNumber).length
  { conversations := (rows.drop ((safePage - 1) * safePageSize pageSize)).take (safePageSize pageSize)
    page := safePage
    pageSize := safePageSize pageSize
    total
    totalPages := (total + safePageSize pageSize - 1) / safePageSize pageSize }

/-- An order that the database may give the rows. -/
def Sorted (s : Store) (providerNumber : Option String) (rows : List Conversation) : Prop :=
  rows.Perm (s.visible providerNumber) ∧ Descending recency rows

theorem safePageSize_pos (pageSize : Int) : 0 < safePageSize pageSize := by
  unfold safePageSize
  omega

/-- A page of the service is one of the rows. -/
theorem getConversations_page (s : Store) (rows : List Conversation) (k : Nat) (pageSize : Int)
    (providerNumber : Option String) :
    (s.getConversations rows (k + 1) pageSize providerNumber).conversations =
      Lib.page (safePageSize pageSize) k rows := by
  have hpage : (max 1 ((k : Int) + 1)).toNat - 1 = k := by omega
  rw [getConversations]
  dsimp only
  rw [hpage, Lib.page]

/-- **The pages have every conversation once**, whatever the order of the rows is at each of them, if and only if
no two conversations of one time are on the two sides of a cut. -/
theorem pages_exact_iff (s : Store) (hkeys : (s.conversations.map (·.thread)).Nodup) (pageSize : Int)
    (providerNumber : Option String) :
    (∀ rows : Nat → List Conversation, (∀ k, s.Sorted providerNumber (rows k)) →
      ((List.range (s.getConversations (rows 0) 1 pageSize providerNumber).totalPages).flatMap fun k =>
        (s.getConversations (rows k) (k + 1) pageSize providerNumber).conversations).Perm
          (s.visible providerNumber)) ↔
      Untied recency (safePageSize pageSize) (s.visible providerNumber) := by
  have hnodup : (s.visible providerNumber).Nodup := (List.Nodup.of_map _ hkeys).filter _
  rw [← pages_perm_iff (safePageSize_pos pageSize) hnodup]
  simp only [getConversations_page]
  exact Iff.rfl

/-- Two conversations that have no message. -/
def neverUsed : Store := ⟨[], [⟨⟨"", "+31"⟩, none, none, false⟩, ⟨⟨"", "+32"⟩, none, none, false⟩], []⟩

/-- With one of them on a page, the pages may have the one twice. -/
theorem pages_exact_iff_neverUsed :
    ¬ ∀ rows : Nat → List Conversation, (∀ k, neverUsed.Sorted none (rows k)) →
      ((List.range (neverUsed.getConversations (rows 0) 1 1 none).totalPages).flatMap fun k =>
        (neverUsed.getConversations (rows k) (k + 1) 1 none).conversations).Perm (neverUsed.visible none) := by
  rw [pages_exact_iff neverUsed (by decide)]
  intro huntied
  exact huntied _ (.refl _) (by simp [Descending, neverUsed, visible, recency]) 1 Nat.one_pos _ _ rfl rfl rfl

end Store

end Svarla.Conversations
