import Mathlib
import Svarla.Sip.Uas

/-!
# The tags of a dialog

The tag of a dialog on the UAS's side stands in the `To` of the responses and in the `From` of a BYE.
The dialog has one from its constructor (`localTag`), which only the BYE carries; a response has the tag
of the request's `To`, or one that is generated for it. All of them come from the clock, each at its own
time. The messages of a dialog agree (`Consistent`) in exactly the runs where every request within a
dialog comes with the tag of the first response, and where a BYE is only sent for a dialog whose
constructor met that tag (`Agrees`).
-/

namespace Svarla.Sip

open Svarla.Lib

/-! ## The tag in a header -/

theorem not_isSpace_digitChar {n : Nat} (hn : n < 16) :
    isSpace n.digitChar = false ∧ n.digitChar ≠ ';' := by
  revert n
  decide

/-- A tag that is generated has no white space and no semicolon. -/
theorem mem_toDigits {c : Char} (n : Nat) (hc : c ∈ Nat.toDigits 16 n) :
    isSpace c = false ∧ c ≠ ';' := by
  induction n using Nat.strongRecOn with
  | ind n ih =>
    rw [Nat.toDigits_eq_if (by omega)] at hc
    split at hc
    · next hn =>
      rw [List.mem_singleton.mp hc]
      exact not_isSpace_digitChar hn
    · next hn =>
      rcases List.mem_append.mp hc with hc | hc
      · exact ih (n / 16) (by omega) hc
      · rw [List.mem_singleton.mp hc]
        exact not_isSpace_digitChar (Nat.mod_lt _ (by omega))

theorem infix_trimSpace (l : List Char) : trimSpace l <:+: l := by
  unfold trimSpace
  have h : (l.dropWhile isSpace).reverse.dropWhile isSpace <:+ (l.dropWhile isSpace).reverse :=
    List.dropWhile_suffix _
  have h' : ((l.dropWhile isSpace).reverse.dropWhile isSpace).reverse <+: l.dropWhile isSpace := by
    rw [← List.reverse_reverse (l.dropWhile isSpace), List.reverse_prefix, List.reverse_reverse]
    exact h
  exact h'.isInfix.trans (List.dropWhile_suffix _).isInfix

theorem trimSpace_eq_self {l : List Char} (hl : ∀ c ∈ l, isSpace c = false) : trimSpace l = l := by
  have hdrop : ∀ l : List Char, (∀ c ∈ l, isSpace c = false) → l.dropWhile isSpace = l := by
    intro l hl
    match l with
    | [] => rfl
    | c :: l => rw [List.dropWhile_cons_of_neg (by rw [hl c (.head _)]; decide)]
  unfold trimSpace
  rw [hdrop l hl, hdrop l.reverse fun c hc => hl c (List.mem_reverse.mp hc), List.reverse_reverse]

theorem infix_of_mem_splitOn {l part : List Char} {c : Char} (h : part ∈ l.splitOn c) : part <:+: l := by
  have hmem : ∀ parts : List (List Char), part ∈ parts → part <:+: [c].intercalate parts := by
    intro parts
    induction parts with
    | nil => nofun
    | cons first parts ih =>
      intro hpart
      match parts with
      | [] =>
        have hone : [c].intercalate [first] = part := by
          rw [List.intercalate_singleton, List.mem_singleton.mp hpart]
        exact hone ▸ List.infix_rfl
      | second :: parts =>
        rw [List.intercalate_cons_cons]
        rcases List.mem_cons.mp hpart with rfl | hpart
        · exact ((List.prefix_append ..).trans (List.prefix_append ..)).isInfix
        · exact (ih hpart).trans (List.suffix_append ..).isInfix
  have hinfix := hmem _ h
  rwa [List.intercalate_splitOn] at hinfix

/-- The tag that is put behind a header without one. -/
theorem extractTag_append {header : String} (hnone : ¬ "tag=".toList <:+: header.toList) (now : Nat) :
    extractTag (header ++ ";tag=mb-" ++ generateTag now) = "mb-" ++ generateTag now := by
  have hdigits : ∀ c ∈ "tag=mb-".toList ++ Nat.toDigits 16 (now % 2 ^ 32),
      isSpace c = false ∧ c ≠ ';' := by
    intro c hc
    have hletters : ("tag=mb-".toList.all fun c => isSpace c = false ∧ c ≠ ';') = true := by
      decide +kernel
    rcases List.mem_append.mp hc with hc | hc
    · exact of_decide_eq_true (List.all_eq_true.mp hletters c hc)
    · exact mem_toDigits _ hc
  have hlist : (header ++ ";tag=mb-" ++ generateTag now).toList =
      header.toList ++ ';' :: ("tag=mb-".toList ++ Nat.toDigits 16 (now % 2 ^ 32)) := by
    simp [generateTag]
  have hnot : (header.toList.splitOn ';').findSome?
      (fun part => afterPrefix "tag=".toList (trimSpace part)) = none := by
    refine List.findSome?_eq_none_iff.mpr fun part hpart => ?_
    unfold afterPrefix
    rw [if_neg]
    intro hprefix
    exact hnone ((List.IsPrefix.isInfix hprefix).trans (infix_trimSpace part) |>.trans
      (infix_of_mem_splitOn hpart))
  unfold extractTag
  rw [hlist, List.splitOn_append_cons_self, List.findSome?_append, hnot, Option.none_or,
    List.splitOn_eq_singleton fun h => (hdigits _ h).2 rfl, List.findSome?_singleton,
    trimSpace_eq_self fun c hc => (hdigits c hc).1]
  refine String.toList_injective ?_
  simp [afterPrefix, generateTag]

/-- The tag of the UAS in a final response to a request, at a time. -/
def responseTag (msg : Request) (now : Nat) : String :=
  if "tag=".toList <:+: msg.recipient.toList then extractTag msg.recipient else "mb-" ++ generateTag now

theorem extractTag_buildResponse (msg : Request) {statusCode : Nat} (hfinal : 200 ≤ statusCode)
    (reasonPhrase : String) (body : List UInt8) (extraHeaders : List (String × String)) (now : Nat) :
    extractTag (buildResponse msg statusCode reasonPhrase body extraHeaders now).recipient =
      responseTag msg now := by
  simp only [buildResponse, responseTag, hfinal, true_and, ite_not]
  split
  · rfl
  · next hnone => exact extractTag_append hnone now

namespace Uas

variable {config : UasConfig} {sdp : Sdp} {s : Uas}

/-! ## What is sent for a dialog -/

def responses (s : Uas) (i : Nat) : List Response := s.sent.filterMap fun
  | .response dialog r _ _ => if dialog = some i then some r else none
  | .bye .. => none

def byes (s : Uas) (i : Nat) : List Bye := s.sent.filterMap fun
  | .response .. => none
  | .bye j b _ _ => if j = i then some b else none

/-- What is sent for a dialog has the tags of the first response to its INVITE, and its requests are
numbered. -/
structure Agreed (s : Uas) (i : Nat) (first : Response) : Prop where
  responses : ∀ r ∈ s.responses i, extractTag r.recipient = extractTag first.recipient
  byes : ∀ b ∈ s.byes i, b.fromTag = extractTag first.recipient ∧ b.toTag = extractTag first.sender
  cseq : (s.byes i).Pairwise fun b b' => b.cseq < b'.cseq

/-- The tags of every dialog agree. -/
def Consistent (s : Uas) : Prop := ∀ i first, (s.responses i).head? = some first → s.Agreed i first

/-- The tag in the first response for a dialog. -/
def dialogTag (s : Uas) (i : Nat) : Option String :=
  (s.responses i).head?.map fun r => extractTag r.recipient

/-- The dialog that a request is handled in. -/
def within (s : Uas) (msg : Request) : Option (Nat × Dialog) :=
  match msg.method with
  | "INVITE" => if extractSessionID msg.requestURI = "" then none else s.confirmedDialog msg.callID
  | "BYE" => s.getByCallID msg.callID
  | "CANCEL" => s.getByCallID msg.callID
  | _ => none

/-- A request within a dialog comes with the dialog's tag, or its tag is generated at the same time; a
BYE is sent for a dialog that was made with that tag. -/
def Agrees (s : Uas) : UasInput → Prop
  | .message msg _ _ _ clock =>
    ∀ i d, s.within msg = some (i, d) → ∀ tag ∈ s.dialogTag i, responseTag msg (clock 2) = tag
  | .sendBye sessionID =>
    ∀ i d, s.getBySession sessionID = some (i, d) → d.state = .confirmed →
      ∀ tag ∈ s.dialogTag i, d.localTag = tag
  | .shutdown i =>
    ∀ d, s.dialogs[i]? = some d → d.state = .confirmed → ∀ tag ∈ s.dialogTag i, d.localTag = tag

/-! ## The record of a dialog -/

/-- What a dialog keeps for its requests. -/
def tagsAt (s : Uas) (i : Nat) : Option (String × String × Nat) :=
  s.dialogs[i]?.map fun d => (d.localTag, d.remoteTag, d.localCSeq)

/-- A dialog's messages, by what it keeps: this needs no agreement of the tags. -/
structure Known (s : Uas) : Prop where
  unused : ∀ i, s.dialogs.length ≤ i → s.responses i = [] ∧ s.byes i = []
  first : ∀ i l r n, s.tagsAt i = some (l, r, n) →
    ∃ first, (s.responses i).head? = some first ∧ extractTag first.sender = r
  byes : ∀ i l r n, s.tagsAt i = some (l, r, n) →
    ∀ b ∈ s.byes i, b.fromTag = l ∧ b.toTag = r ∧ b.cseq ≤ n
  cseq : ∀ i, (s.byes i).Pairwise fun b b' => b.cseq < b'.cseq

/-- The UAS's own tag is the same in all messages of a dialog. -/
def OneTag (s : Uas) : Prop := ∀ i first, (s.responses i).head? = some first →
  (∀ r ∈ s.responses i, extractTag r.recipient = extractTag first.recipient) ∧
    ∀ b ∈ s.byes i, b.fromTag = extractTag first.recipient

theorem Known.consistent_iff (h : s.Known) : s.Consistent ↔ s.OneTag := by
  constructor
  · intro hc i first hfirst
    exact ⟨(hc i first hfirst).responses, fun b hb => ((hc i first hfirst).byes b hb).1⟩
  · intro htag i first hfirst
    refine ⟨(htag i first hfirst).1, fun b hb => ⟨(htag i first hfirst).2 b hb, ?_⟩, h.cseq i⟩
    match hd : s.tagsAt i with
    | none =>
      -- there is no such dialog
      have hlen : s.dialogs.length ≤ i := by
        rw [tagsAt, Option.map_eq_none_iff] at hd
        exact List.getElem?_eq_none_iff.mp hd
      rw [(h.unused i hlen).1] at hfirst
      cases hfirst
    | some (l, r, n) =>
      obtain ⟨first', hfirst', hr⟩ := h.first i l r n hd
      cases hfirst.symm.trans hfirst'
      rw [hr]
      exact (h.byes i l r n hd b hb).2.1

/-! ## What the operations send -/

theorem responses_respond (dialog : Option Nat) (response : Response) (remoteAddr transport : String)
    (i : Nat) : (s.respond dialog response remoteAddr transport).responses i =
      s.responses i ++ if dialog = some i then [response] else [] := by
  simp only [responses, respond, List.filterMap_append, List.filterMap_cons, List.filterMap_nil]
  split <;> simp_all

theorem byes_respond (dialog : Option Nat) (response : Response) (remoteAddr transport : String)
    (i : Nat) : (s.respond dialog response remoteAddr transport).byes i = s.byes i := by
  simp [byes, respond, List.filterMap_append]

/-- Nothing changes for the tags. -/
structure Neutral (s t : Uas) : Prop where
  responses : ∀ i, t.responses i = s.responses i
  byes : ∀ i, t.byes i = s.byes i
  tags : ∀ i, t.tagsAt i = s.tagsAt i
  length : t.dialogs.length = s.dialogs.length

theorem Neutral.refl (s : Uas) : Neutral s s := ⟨fun _ => rfl, fun _ => rfl, fun _ => rfl, rfl⟩

theorem Neutral.trans {s t u : Uas} (h : Neutral s t) (h' : Neutral t u) : Neutral s u :=
  ⟨fun i => (h'.responses i).trans (h.responses i), fun i => (h'.byes i).trans (h.byes i),
    fun i => (h'.tags i).trans (h.tags i), h'.length.trans h.length⟩

theorem Neutral.known {t : Uas} (h : Neutral s t) (hs : s.Known) : t.Known := by
  refine ⟨fun i hi => ?_, fun i l r n hd => ?_, fun i l r n hd => ?_, fun i => ?_⟩
  · rw [h.responses, h.byes]
    exact hs.unused i (h.length ▸ hi)
  · rw [h.responses]
    exact hs.first i l r n (h.tags i ▸ hd)
  · rw [h.byes]
    exact hs.byes i l r n (h.tags i ▸ hd)
  · rw [h.byes]
    exact hs.cseq i

theorem Neutral.oneTag_iff {t : Uas} (h : Neutral s t) : t.OneTag ↔ s.OneTag := by
  simp only [OneTag, h.responses, h.byes]

theorem Neutral.respond_none (response : Response) (remoteAddr transport : String) :
    Neutral s (s.respond none response remoteAddr transport) :=
  ⟨fun i => by rw [responses_respond]; simp, fun i => byes_respond .., fun _ => rfl, rfl⟩

theorem Neutral.emit (event : UasEvent) : Neutral s (s.emit event) :=
  ⟨fun _ => rfl, fun _ => rfl, fun _ => rfl, rfl⟩

theorem Neutral.remove (sessionID : String) : Neutral s (s.remove sessionID) := by
  unfold Uas.remove
  split
  · exact ⟨fun _ => rfl, fun _ => rfl, fun _ => rfl, rfl⟩
  · exact .refl s

theorem Neutral.modify (i : Nat) {f : Dialog → Dialog}
    (hf : ∀ d, (f d).localTag = d.localTag ∧ (f d).remoteTag = d.remoteTag ∧
      (f d).localCSeq = d.localCSeq) : Neutral s (s.modify i f) := by
  refine ⟨fun _ => rfl, fun _ => rfl, fun j => ?_, List.length_modify ..⟩
  simp only [tagsAt, Uas.modify, List.getElem?_modify]
  split
  · simp [Option.map_map, Function.comp_def, hf]
  · simp

theorem Neutral.setTerminated (i : Nat) : Neutral s (s.setTerminated i) :=
  Neutral.modify i fun _ => ⟨rfl, rfl, rfl⟩

/-! ## A response, a BYE and a new dialog -/

theorem tagsAt_of_getElem? {i : Nat} {d : Dialog} (hd : s.dialogs[i]? = some d) :
    s.tagsAt i = some (d.localTag, d.remoteTag, d.localCSeq) := by
  rw [tagsAt, hd, Option.map_some]

/-- Another response for a dialog. -/
theorem Known.respond (h : s.Known) {i : Nat} {d : Dialog} (hd : s.dialogs[i]? = some d)
    (response : Response) (remoteAddr transport : String) :
    (s.respond (some i) response remoteAddr transport).Known := by
  obtain ⟨first, hfirst, -⟩ := h.first i _ _ _ (tagsAt_of_getElem? hd)
  have hi := (List.getElem?_eq_some_iff.mp hd).1
  refine ⟨fun j hj => ?_, fun j l r n hj => ?_, fun j l r n hj => ?_, fun j => ?_⟩
  · have hji : i ≠ j := by
      rintro rfl
      exact absurd hi (Nat.not_lt.mpr hj)
    rw [responses_respond, byes_respond, if_neg (by simpa using hji), List.append_nil]
    exact h.unused j hj
  · obtain ⟨first, hfirst, hr⟩ := h.first j l r n hj
    refine ⟨first, ?_, hr⟩
    rw [responses_respond, List.head?_append, hfirst, Option.some_or]
  · rw [byes_respond]
    exact h.byes j l r n hj
  · rw [byes_respond]
    exact h.cseq j

theorem Known.oneTag_respond_iff (h : s.Known) (htag : s.OneTag) {i : Nat} {d : Dialog}
    (hd : s.dialogs[i]? = some d) (response : Response) (remoteAddr transport : String) :
    (s.respond (some i) response remoteAddr transport).OneTag ↔
      ∀ tag ∈ s.dialogTag i, extractTag response.recipient = tag := by
  obtain ⟨first, hfirst, -⟩ := h.first i _ _ _ (tagsAt_of_getElem? hd)
  have htagi : s.dialogTag i = some (extractTag first.recipient) := by
    rw [dialogTag, hfirst, Option.map_some]
  have hhead : ∀ j first', (s.responses j).head? = some first' →
      ((s.respond (some i) response remoteAddr transport).responses j).head? = some first' := by
    intro j first' hj
    rw [responses_respond, List.head?_append, hj, Option.some_or]
  rw [htagi]
  simp only [Option.mem_def, Option.some.injEq, forall_eq']
  constructor
  · intro ht
    refine (ht i first (hhead i first hfirst)).1 response ?_
    rw [responses_respond, if_pos rfl]
    exact List.mem_append_right _ (.head _)
  · intro hresponse j first' hj
    rw [responses_respond, byes_respond] at *
    by_cases hji : i = j
    · subst hji
      rw [List.head?_append, hfirst, Option.some_or] at hj
      cases hj
      refine ⟨fun r hr => ?_, (htag i first hfirst).2⟩
      rcases List.mem_append.mp hr with hr | hr
      · exact (htag i first hfirst).1 r hr
      · rw [if_pos rfl] at hr
        rw [List.mem_singleton.mp hr]
        exact hresponse
    · rw [if_neg (by simpa using hji), List.append_nil] at *
      exact htag j first' hj

theorem responses_bye (i : Nat) (d : Dialog) (j : Nat) : (s.bye i d).responses j = s.responses j := by
  simp [responses, bye, Uas.modify, List.filterMap_append]

theorem byes_bye (i : Nat) (d : Dialog) (j : Nat) :
    (s.bye i d).byes j = s.byes j ++ if i = j then [byeRequest d] else [] := by
  simp only [byes, bye, Uas.modify, List.filterMap_append, List.filterMap_cons, List.filterMap_nil]
  split <;> simp_all

theorem tagsAt_bye {i : Nat} {d : Dialog} (hd : s.dialogs[i]? = some d) (j : Nat) :
    (s.bye i d).tagsAt j =
      if i = j then some (d.localTag, d.remoteTag, d.localCSeq + 1) else s.tagsAt j := by
  simp only [tagsAt, bye, Uas.modify, List.getElem?_modify]
  split
  · next hij =>
    subst hij
    simp [hd]
  · simp

theorem Known.bye (h : s.Known) {i : Nat} {d : Dialog} (hd : s.dialogs[i]? = some d) :
    (s.bye i d).Known := by
  have hi := (List.getElem?_eq_some_iff.mp hd).1
  have hold := h.byes i _ _ _ (tagsAt_of_getElem? hd)
  have hlen : (s.bye i d).dialogs.length = s.dialogs.length := List.length_modify ..
  refine ⟨fun j hj => ?_, fun j l r n hj => ?_, fun j l r n hj => ?_, fun j => ?_⟩
  · have hji : i ≠ j := by omega
    rw [responses_bye, byes_bye, if_neg hji, List.append_nil]
    exact h.unused j (hlen ▸ hj)
  · rw [responses_bye]
    rw [tagsAt_bye hd] at hj
    split at hj
    · next hij =>
      obtain ⟨-, rfl, -⟩ : d.localTag = l ∧ d.remoteTag = r ∧ d.localCSeq + 1 = n := by simpa using hj
      exact h.first j _ _ _ (hij ▸ tagsAt_of_getElem? hd)
    · exact h.first j l r n hj
  · rw [tagsAt_bye hd] at hj
    rw [byes_bye]
    split at hj
    · next hij =>
      subst hij
      obtain ⟨rfl, rfl, rfl⟩ : d.localTag = l ∧ d.remoteTag = r ∧ d.localCSeq + 1 = n := by
        simpa using hj
      intro b' hb'
      rcases List.mem_append.mp hb' with hb' | hb'
      · obtain ⟨hl, hr, hn⟩ := hold b' hb'
        exact ⟨hl, hr, by omega⟩
      · rw [if_pos rfl] at hb'
        rw [List.mem_singleton.mp hb']
        exact ⟨rfl, rfl, le_rfl⟩
    · next hij =>
      rw [if_neg hij, List.append_nil]
      exact h.byes j l r n hj
  · rw [byes_bye]
    split
    · next hij =>
      subst hij
      refine List.pairwise_append.mpr ⟨h.cseq i, List.pairwise_singleton .., fun b' hb' c hc => ?_⟩
      rw [List.mem_singleton.mp hc]
      exact Nat.lt_succ_of_le (hold b' hb').2.2
    · rw [List.append_nil]
      exact h.cseq j

theorem Known.oneTag_bye_iff (h : s.Known) (htag : s.OneTag) {i : Nat} {d : Dialog}
    (hd : s.dialogs[i]? = some d) : (s.bye i d).OneTag ↔ ∀ tag ∈ s.dialogTag i, d.localTag = tag := by
  obtain ⟨first, hfirst, -⟩ := h.first i _ _ _ (tagsAt_of_getElem? hd)
  have htagi : s.dialogTag i = some (extractTag first.recipient) := by
    rw [dialogTag, hfirst, Option.map_some]
  rw [htagi]
  simp only [Option.mem_def, Option.some.injEq, forall_eq']
  constructor
  · intro ht
    refine (ht i first (by rw [responses_bye, hfirst])).2 (byeRequest d) ?_
    rw [byes_bye, if_pos rfl]
    exact List.mem_append_right _ (.head _)
  · intro hlocal j first' hj
    rw [responses_bye] at *
    refine ⟨(htag j first' hj).1, fun b' hb' => ?_⟩
    rw [byes_bye] at hb'
    rcases List.mem_append.mp hb' with hb' | hb'
    · exact (htag j first' hj).2 b' hb'
    · by_cases hij : i = j
      · subst hij
        rw [if_pos rfl] at hb'
        cases hfirst.symm.trans hj
        rw [List.mem_singleton.mp hb']
        exact hlocal
      · rw [if_neg hij] at hb'
        cases hb'

/-- A new dialog starts with the response to its INVITE. -/
theorem Known.opened (h : s.Known) (d : Dialog) (first : Response)
    (hsender : extractTag first.sender = d.remoteTag) (remoteAddr transport : String) :
    ((s.add d).respond (some s.dialogs.length) first remoteAddr transport).Known ∧ (s.OneTag →
      ((s.add d).respond (some s.dialogs.length) first remoteAddr transport).OneTag) := by
  have hresponses : ∀ j, ((s.add d).respond (some s.dialogs.length) first remoteAddr
      transport).responses j = s.responses j ++ if s.dialogs.length = j then [first] else [] := by
    intro j
    rw [responses_respond]
    simp only [Option.some.injEq]
    rfl
  have hbyes : ∀ j, ((s.add d).respond (some s.dialogs.length) first remoteAddr transport).byes j =
      s.byes j := fun j => byes_respond ..
  have htags : ∀ j, ((s.add d).respond (some s.dialogs.length) first remoteAddr transport).tagsAt j =
      if j = s.dialogs.length then some (d.localTag, d.remoteTag, d.localCSeq) else s.tagsAt j := by
    intro j
    simp only [tagsAt, Uas.respond, add]
    split
    · next hj => simp [hj]
    · next hj =>
      by_cases hlt : j < s.dialogs.length
      · rw [List.getElem?_append_left hlt]
      · rw [List.getElem?_eq_none (by simp; omega), List.getElem?_eq_none (by omega)]
  obtain ⟨hnone, hnobyes⟩ := h.unused s.dialogs.length le_rfl
  refine ⟨⟨fun j hj => ?_, fun j l r n hj => ?_, fun j l r n hj => ?_, fun j => ?_⟩,
    fun htag j first' hj => ?_⟩
  · have hlt : s.dialogs.length < j := Nat.lt_of_succ_le (by simpa [Uas.respond, add] using hj)
    rw [hresponses, hbyes, if_neg (Nat.ne_of_lt hlt), List.append_nil]
    exact h.unused j (Nat.le_of_lt hlt)
  · rw [htags] at hj
    rw [hresponses]
    split at hj
    · next hjl =>
      obtain ⟨-, rfl, -⟩ : d.localTag = l ∧ d.remoteTag = r ∧ d.localCSeq = n := by simpa using hj
      rw [hjl, hnone, if_pos rfl]
      exact ⟨first, rfl, hsender⟩
    · next hjl =>
      rw [if_neg (Ne.symm hjl), List.append_nil]
      exact h.first j l r n hj
  · rw [htags] at hj
    rw [hbyes]
    split at hj
    · next hjl =>
      rw [hjl, hnobyes]
      exact nofun
    · exact h.byes j l r n hj
  · rw [hbyes]
    exact h.cseq j
  · rw [hresponses] at hj ⊢
    rw [hbyes]
    by_cases hjl : s.dialogs.length = j
    · subst hjl
      rw [hnone, if_pos rfl] at *
      cases hj
      rw [hnobyes]
      exact ⟨fun r hr => by rw [List.mem_singleton.mp hr], nofun⟩
    · rw [if_neg hjl, List.append_nil] at *
      exact htag j first' hj

variable (config sdp) in
theorem Known.acceptInvite (h : s.Known) (msg : Request) (remoteAddr transport : String)
    (offer : SdpOffer) (codec : Codec) (srtp : Option (SrtpSession × String)) (clock : Clock) :
    (s.acceptInvite config sdp msg remoteAddr transport offer codec srtp clock).Known ∧
      (s.OneTag →
        (s.acceptInvite config sdp msg remoteAddr transport offer codec srtp clock).OneTag) := by
  have htrying : Neutral s (s.respond none (buildResponse msg 100 "Trying" [] [] (clock 2)) remoteAddr
    transport) := .respond_none ..
  obtain ⟨hknown, htag⟩ := (htrying.known h).opened
    (inviteDialog msg remoteAddr transport offer codec srtp clock)
    (buildResponse msg 200 "OK" (sdp.generateSDPAnswer ⟨codec, config.publicIP, config.mediaPort,
      srtp.isSome, (srtp.map Prod.snd).getD ""⟩) (contactHeaders config
      (extractSessionID msg.requestURI) transport) (clock 2)) rfl remoteAddr transport
  have hrest : Neutral _ (s.acceptInvite config sdp msg remoteAddr transport offer codec srtp clock) :=
    (Neutral.modify s.dialogs.length (f := ({ · with state := .confirmed })) fun _ =>
      ⟨rfl, rfl, rfl⟩).trans (.emit _)
  exact ⟨hrest.known hknown, fun ht => hrest.oneTag_iff.mpr (htag (htrying.oneTag_iff.mpr ht))⟩

/-! ## Every step -/

variable (config sdp) in
/-- A request within a dialog gets one response for it. -/
theorem Known.handleReInvite_iff (h : s.Known) (htag : s.OneTag) {i : Nat} {d : Dialog}
    (hd : s.dialogs[i]? = some d) (msg : Request) (remoteAddr transport : String) (clock : Clock) :
    let t := s.handleReInvite config sdp msg i d remoteAddr transport clock
    t.Known ∧ (t.OneTag ↔ ∀ tag ∈ s.dialogTag i, responseTag msg (clock 2) = tag) := by
  have hrespond : ∀ (u : Uas), Neutral s u → ∀ statusCode reason body headers, 200 ≤ statusCode →
      let t := u.respond (some i) (buildResponse msg statusCode reason body headers (clock 2)) remoteAddr
        transport
      t.Known ∧ (t.OneTag ↔ ∀ tag ∈ s.dialogTag i, responseTag msg (clock 2) = tag) := by
    intro u hu statusCode reason body headers hfinal
    have hi : i < u.dialogs.length := hu.length ▸ (List.getElem?_eq_some_iff.mp hd).1
    have hud : u.dialogs[i]? = some u.dialogs[i] := List.getElem?_eq_getElem hi
    refine ⟨(hu.known h).respond hud .., ?_⟩
    rw [(hu.known h).oneTag_respond_iff (hu.oneTag_iff.mpr htag) hud,
      extractTag_buildResponse msg hfinal, dialogTag, hu.responses, dialogTag]
  unfold Uas.handleReInvite
  split
  · exact hrespond s (.refl s) _ _ _ _ (by decide)
  · split
    · exact hrespond s (.refl s) _ _ _ _ (by decide)
    · split
      · exact hrespond s (.refl s) _ _ _ _ (by decide)
      · refine hrespond _ ?_ 200 _ _ _ (by decide)
        exact .modify i fun _ => ⟨rfl, rfl, rfl⟩

theorem Known.handleEnd_iff (h : s.Known) (htag : s.OneTag) (msg : Request)
    (remoteAddr transport reason : String) (clock : Clock) :
    let t := s.handleEnd msg remoteAddr transport reason clock
    t.Known ∧ (t.OneTag ↔ ∀ i d, s.getByCallID msg.callID = some (i, d) →
      ∀ tag ∈ s.dialogTag i, responseTag msg (clock 2) = tag) := by
  unfold Uas.handleEnd
  match hd : s.getByCallID msg.callID with
  | none =>
    have hnone : Neutral s (s.respond none (buildResponse msg 481 "Call/Transaction Does Not Exist" [] []
      (clock 2)) remoteAddr transport) := .respond_none ..
    exact ⟨hnone.known h, iff_of_true (hnone.oneTag_iff.mpr htag) nofun⟩
  | some (i, d) =>
    have hdi : s.dialogs[i]? = some d := (getByCallID_eq_some.mp hd).2
    have hrest : Neutral (s.respond (some i) (buildResponse msg 200 "OK" [] [] (clock 2)) remoteAddr
        transport) ((((s.respond (some i) (buildResponse msg 200 "OK" [] [] (clock 2)) remoteAddr
        transport).setTerminated i).remove d.sessionID).emit (.providerDisconnected d.sessionID reason)) :=
      ((Neutral.setTerminated i).trans (.remove _)).trans (.emit _)
    refine ⟨hrest.known (h.respond hdi ..), ?_⟩
    rw [hrest.oneTag_iff, h.oneTag_respond_iff htag hdi, extractTag_buildResponse msg (by decide)]
    constructor
    · intro hall j e hje
      cases hje
      exact hall
    · exact fun hall => hall i d rfl

variable (config sdp) in
theorem Known.handleInvite_iff (h : s.Known) (htag : s.OneTag) (msg : Request)
    (remoteAddr transport : String) (known : Bool) (clock : Clock) :
    let t := s.handleInvite config sdp msg remoteAddr transport known clock
    t.Known ∧ (t.OneTag ↔ ∀ i d,
      (if extractSessionID msg.requestURI = "" then none else s.confirmedDialog msg.callID) =
        some (i, d) → ∀ tag ∈ s.dialogTag i, responseTag msg (clock 2) = tag) := by
  have hneutral : ∀ {u : Uas}, Neutral s u → u.Known ∧ u.OneTag := fun hu =>
    ⟨hu.known h, hu.oneTag_iff.mpr htag⟩
  unfold Uas.handleInvite
  split
  · obtain ⟨hknown, ht⟩ := hneutral (.respond_none ..)
    exact ⟨hknown, iff_of_true ht nofun⟩
  · split
    · next i d hd =>
      have hdi : s.dialogs[i]? = some d := dialog_of_confirmedDialog hd
      obtain ⟨hknown, ht⟩ := h.handleReInvite_iff config sdp htag hdi msg
        remoteAddr transport clock
      refine ⟨hknown, ht.trans ⟨fun hall j e he => ?_, fun hall => hall i d hd⟩⟩
      cases hd.symm.trans he
      exact hall
    · next hd =>
      rw [hd]
      split
      · obtain ⟨hknown, ht⟩ := hneutral (.respond_none ..)
        exact ⟨hknown, iff_of_true ht nofun⟩
      · next offer codec srtp hacc =>
        obtain ⟨hknown, ht⟩ := h.acceptInvite config sdp msg remoteAddr transport
          offer codec srtp clock
        exact ⟨hknown, iff_of_true (ht htag) nofun⟩

/-- **Every step.** The tags still agree after a step if and only if its tag is that of the dialog. -/
theorem Known.step_iff (h : s.Known) (htag : s.OneTag) {input : UasInput} {t : Uas}
    (hstep : s.step config sdp input = some t) : t.Known ∧ (t.OneTag ↔ s.Agrees input) := by
  have hneutral : ∀ {u : Uas}, Neutral s u → u.Known ∧ u.OneTag := fun hu =>
    ⟨hu.known h, hu.oneTag_iff.mpr htag⟩
  match input with
  | .shutdown i =>
    obtain ⟨d, hd, rfl⟩ := Option.map_eq_some_iff.mp hstep
    unfold Uas.shutdownDialog
    split
    · next hstate =>
      refine ⟨(Neutral.setTerminated i).known (h.bye hd), ?_⟩
      rw [(Neutral.setTerminated i).oneTag_iff, h.oneTag_bye_iff htag hd]
      refine ⟨fun hall e he _ => ?_, fun hall => hall d hd hstate⟩
      cases hd.symm.trans he
      exact hall
    · next hstate =>
      obtain ⟨hknown, ht⟩ := hneutral (.setTerminated i)
      refine ⟨hknown, iff_of_true ht fun e he hconfirmed => ?_⟩
      cases hd.symm.trans he
      exact absurd hconfirmed hstate
  | .sendBye x =>
    cases hstep
    unfold Uas.sendBye
    split
    · next hfind =>
      refine ⟨h, iff_of_true htag fun i d hd hconfirmed => ?_⟩
      rw [hd, Option.filter_some_pos (by simpa using hconfirmed)] at hfind
      cases hfind
    · next i d hfind =>
      obtain ⟨hget, hconfirmed⟩ := Option.filter_eq_some_iff.mp hfind
      have hdi : s.dialogs[i]? = some d := dialog_of_getBySession hget
      have hrest : Neutral (s.bye i d) (((s.bye i d).setTerminated i).remove x) :=
        (Neutral.setTerminated i).trans (.remove _)
      refine ⟨hrest.known (h.bye hdi), ?_⟩
      rw [hrest.oneTag_iff, h.oneTag_bye_iff htag hdi]
      refine ⟨fun hall j e he _ => ?_, fun hall => hall i d hget (by simpa using hconfirmed)⟩
      cases hget.symm.trans he
      exact hall
  | .message msg remoteAddr transport known clock =>
    cases hstep
    unfold Uas.handleMessage
    split
    · next hmethod =>
      obtain ⟨hknown, ht⟩ := h.handleInvite_iff config sdp htag msg remoteAddr
        transport known clock
      refine ⟨hknown, ht.trans ?_⟩
      simp only [Agrees, within, hmethod]
    · next hmethod =>
      obtain ⟨hknown, ht⟩ := h.handleEnd_iff htag msg remoteAddr transport "bye" clock
      refine ⟨hknown, ht.trans ?_⟩
      simp only [Agrees, within, hmethod]
    · next hmethod =>
      exact ⟨h, iff_of_true htag fun i d hd => by simp [within, hmethod] at hd⟩
    · next hmethod =>
      obtain ⟨hknown, ht⟩ := h.handleEnd_iff htag msg remoteAddr transport "cancelled" clock
      refine ⟨hknown, ht.trans ?_⟩
      simp only [Agrees, within, hmethod]
    · next hinvite hbye hack hcancel =>
      obtain ⟨hknown, ht⟩ := hneutral (.respond_none ..)
      refine ⟨hknown, iff_of_true ht fun i d hd => ?_⟩
      simp [within] at hd

/-- **The runs in which the tags agree** are those where every request within a dialog, and every BYE for
one, has the tag of its first response. -/
theorem agrees_iff_consistent (config : UasConfig) (sdp : Sdp) (inputs : List UasInput) :
    Guarded (step config sdp) Agrees init inputs ↔
      ∀ before after s, inputs = before ++ after → exec (step config sdp) init before = some s →
        s.Consistent := by
  have hinit : init.Known := ⟨fun _ _ => ⟨rfl, rfl⟩, nofun, nofun, fun _ => .nil⟩
  have hrefused : ∀ (s : Uas) input, s.step config sdp input = none → s.Agrees input := by
    intro s input hnone
    match input with
    | .shutdown i =>
      intro d hd
      rw [Uas.step, hd] at hnone
      cases hnone
  refine guarded_iff_invariant (J := Known) (fun s input t hknown hs hstep => ?_) hrefused hinit
    (hinit.consistent_iff.mpr nofun) inputs
  obtain ⟨hknown', ht⟩ := hknown.step_iff (hknown.consistent_iff.mp hs) hstep
  exact ⟨hknown', hknown'.consistent_iff.trans ht⟩

/-! ## A call that the UAS ends -/

/-- An SDP handling that takes every offer, without encryption. -/
def anySdp : Sdp where
  parseSDP _ := some ⟨"192.0.2.1", 4000, [⟨"PCMU", 0, 8000, 1⟩]⟩
  negotiateCodec offer := offer.codecs.head?
  negotiateSDES _ _ := .plain
  generateSDPAnswer _ := []

/-- An INVITE as a provider sends it, with no tag in its `To`. -/
def providerInvite : Request where
  method := "INVITE"
  requestURI := "sip:s1@203.0.113.1"
  callID := "a"
  sender := "<sip:provider@192.0.2.1>;tag=p"
  recipient := "<sip:s1@203.0.113.1>"
  via := []
  cseq := "1 INVITE"
  contact := "<sip:provider@192.0.2.1:5060>"
  body := [0]

/-- The tag of the 200 to an INVITE and that of the BYE for its dialog are made at two times. -/
theorem bye_of_another_tag :
    ∃ s r b, exec (step ⟨5060, 7000, "203.0.113.1"⟩ anySdp) init
        [.message providerInvite "192.0.2.1:5060" "udp" true fun n => 1000 + n, .sendBye "s1"] = some s ∧
      s.responses 0 = [r] ∧ s.byes 0 = [b] ∧ extractTag r.recipient = "mb-3ea" ∧
      b.fromTag = "mb-3e8" ∧ ¬ s.Consistent := by
  refine ⟨_, _, _, rfl, rfl, rfl, by decide +kernel, by decide +kernel, fun h => ?_⟩
  have hfrom := ((h 0 _ rfl).byes _ (.head _)).1
  revert hfrom
  decide +kernel

end Uas

end Svarla.Sip
