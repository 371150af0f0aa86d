import Svarla.Lib.Separated
import Svarla.Sms.PduParse

/-!
# Identity of inbound messages

`deterministicMessageID` in `modem-gateway/internal/sms/sms.go` names an inbound message by a digest,
and the server ignores a message whose name it has a row for. The names of the readings of one
message agree. Two messages get one name where the hashed texts agree (`hashedText_eq_iff`): the
text of a concatenated message has nothing but sender, reference and number of parts in it, so a
sender that uses a reference again names a new message like an old one
(`messageID_reuses_reference`), and a sender with a bar in its name can shadow another.

SHA-256 is a parameter; what is assumed of it is that no two of the texts hashed agree on the
sixteen bytes that are kept.
-/

namespace Svarla.Sms

open Svarla.Lib

/-! ## The name of a message -/

/-- A lower-case hexadecimal digit. -/
def lowerHexDigit (d : Nat) : Char :=
  Char.ofNat (if d < 10 then 48 + d else 87 + d)

/-- `hex.EncodeToString`. -/
def encodeToString (bytes : List UInt8) : String :=
  String.ofList (bytes.flatMap fun b => [lowerHexDigit (b.toNat / 16), lowerHexDigit (b.toNat % 16)])

/-- What `deterministicMessageID` writes to the hash. -/
def hashedText (p : ParsedMessage) : String :=
  match p.concat with
  | some c => s!"concat|{p.sender}|{c.refNum}|{c.totalParts}"
  | none => s!"single|{p.sender}|{p.timestamp}|{p.body}"

/-- `deterministicMessageID`, over the digest of a text. -/
def deterministicMessageID (sha256 : String → List UInt8) (p : ParsedMessage) : String :=
  "in-" ++ encodeToString ((sha256 (hashedText p)).take 16)

theorem lowerHexDigit_inj : ∀ d < 16, ∀ e < 16, lowerHexDigit d = lowerHexDigit e → d = e := by
  decide

/-- Hexadecimal text determines the bytes. -/
theorem encodeToString_injective : Function.Injective encodeToString := by
  intro x y h
  have hlist := String.ofList_injective h
  clear h
  induction x generalizing y with
  | nil =>
    cases y with
    | nil => rfl
    | cons b y => simp at hlist
  | cons a x ih =>
    cases y with
    | nil => simp at hlist
    | cons b y =>
      simp only [List.flatMap_cons, List.cons_append, List.nil_append, List.cons.injEq] at hlist
      obtain ⟨hhi, hlo, hrest⟩ := hlist
      have ha := a.toNat_lt
      have hb := b.toNat_lt
      have hquot := lowerHexDigit_inj _ (by omega) _ (by omega) hhi
      have hrem := lowerHexDigit_inj _ (by omega) _ (by omega) hlo
      have hab : a = b := UInt8.toNat_inj.mp (by omega)
      rw [hab, ih hrest]

/-- Names agree where the kept bytes of the digests do. -/
theorem deterministicMessageID_eq_iff {sha256 : String → List UInt8} {p q : ParsedMessage} :
    deterministicMessageID sha256 p = deterministicMessageID sha256 q ↔
      (sha256 (hashedText p)).take 16 = (sha256 (hashedText q)).take 16 := by
  unfold deterministicMessageID
  rw [String.append_right_inj, encodeToString_injective.eq_iff]

/-! ## Messages and their readings -/

/-- An inbound message, as it was sent. -/
inductive InboundMessage
  | single (sender : String) (timestamp : Int) (body : String)
  /-- The parts in order, each with its own timestamp and text. -/
  | concat (sender : String) (refNum : Nat) (parts : List (Int × String))
  deriving DecidableEq

/-- What the gateway can read of a message: the one PDU, or any of the parts. -/
def InboundMessage.readings : InboundMessage → List ParsedMessage
  | .single sender timestamp body => [⟨sender, body, timestamp, none⟩]
  | .concat sender refNum parts =>
    parts.mapIdx fun i part => ⟨sender, part.2, part.1, some ⟨refNum, i + 1, parts.length⟩⟩

/-- Two messages of one sender in as many parts under one reference. -/
def SharesReference : InboundMessage → InboundMessage → Prop
  | .concat sender refNum parts, .concat sender' refNum' parts' =>
    sender = sender' ∧ refNum = refNum' ∧ parts.length = parts'.length
  | _, _ => False

/-- The second message's sender goes on where the first one's ends, with the first one's timestamp
and the front of its text. -/
def Shadows : InboundMessage → InboundMessage → Prop
  | .single sender timestamp body, .single sender₂ timestamp₂ body₂ =>
    (sender₂ = s!"{sender}|{timestamp}" ∧ body = s!"{timestamp₂}|{body₂}") ∨
      ∃ mid : String, sender₂ = s!"{sender}|{timestamp}|{mid}" ∧
        body = s!"{mid}|{timestamp₂}|{body₂}"
  | _, _ => False

/-- Two messages the hashed texts do not tell apart. -/
def Confused (m m' : InboundMessage) : Prop :=
  SharesReference m m' ∨ Shadows m m' ∨ Shadows m' m

/-! ## What the hashed text tells -/

/-- The text hashed for a message. -/
def InboundMessage.hashed : InboundMessage → String
  | .single sender timestamp body => s!"single|{sender}|{timestamp}|{body}"
  | .concat sender refNum parts => s!"concat|{sender}|{refNum}|{parts.length}"

/-- **Every reading of a message hashes the same text.** -/
theorem InboundMessage.hashedText_reading {m : InboundMessage} {p : ParsedMessage}
    (h : p ∈ m.readings) : hashedText p = m.hashed := by
  cases m with
  | single sender timestamp body =>
    cases List.mem_singleton.mp h
    rfl
  | concat sender refNum parts =>
    obtain ⟨i, hi, rfl⟩ := List.mem_mapIdx.mp h
    rfl

/-- The characters hashed for a single message. -/
theorem toList_hashed_single (sender : String) (timestamp : Int) (body : String) :
    (InboundMessage.single sender timestamp body).hashed.toList =
      "single|".toList ++ (sender.toList ++ '|' :: (timestamp.repr.toList ++ '|' :: body.toList)) := by
  have hnumber : ∀ n : Int, toString n = n.repr := fun _ => rfl
  have htext : ∀ s : String, toString s = s := fun _ => rfl
  simp [InboundMessage.hashed, String.toList_append, hnumber, htext]

/-- The characters hashed for a concatenated message. -/
theorem toList_hashed_concat (sender : String) (refNum : Nat) (parts : List (Int × String)) :
    (InboundMessage.concat sender refNum parts).hashed.toList =
      "concat|".toList ++ ((sender.toList ++ '|' :: (refNum : Int).repr.toList) ++
        '|' :: (parts.length : Int).repr.toList) := by
  have hnumber : ∀ n : Nat, toString n = (n : Int).repr := fun _ => rfl
  have htext : ∀ s : String, toString s = s := fun _ => rfl
  simp [InboundMessage.hashed, String.toList_append, hnumber, htext]

/-- A shadowed message, by characters. -/
theorem shadows_single_iff {sender sender' body body' : String} {timestamp timestamp' : Int} :
    Shadows (.single sender timestamp body) (.single sender' timestamp' body') ↔
      ∃ mid, sender'.toList = sender.toList ++ '|' :: mid ∧
        timestamp.repr.toList ++ '|' :: body.toList =
          mid ++ '|' :: (timestamp'.repr.toList ++ '|' :: body'.toList) := by
  have hnumber : ∀ n : Int, toString n = n.repr := fun _ => rfl
  have htext : ∀ s : String, toString s = s := fun _ => rfl
  rw [Separated.exists_mid_iff (Separated.notMem_repr '|' (by decide) (by decide) _)]
  simp only [Shadows, ← String.toList_inj, String.toList_append, hnumber, htext]
  refine or_congr (by simp) ⟨?_, ?_⟩
  · rintro ⟨mid, hsender, hbody⟩
    exact ⟨mid.toList, by simpa using hsender, by simpa using hbody⟩
  · rintro ⟨mid, hsender, hbody⟩
    exact ⟨String.ofList mid, by simpa using hsender, by simpa using hbody⟩

/-- **What the hashed text tells apart**: all but messages that share a reference, and messages one
of which shadows the other. -/
theorem hashed_eq_iff {m m' : InboundMessage} : m.hashed = m'.hashed ↔ m = m' ∨ Confused m m' := by
  have hbar := fun n => Separated.notMem_repr '|' (by decide) (by decide) n
  have hnum : ∀ {m n : Int}, m.repr.toList = n.repr.toList ↔ m = n :=
    fun {m n} => by rw [String.toList_inj, Int.repr_inj]
  rw [← String.toList_inj]
  cases m with
  | single sender timestamp body =>
    cases m' with
    | single sender' timestamp' body' =>
      rw [toList_hashed_single, toList_hashed_single, List.append_right_inj,
        Separated.append_cons_eq_append_cons_iff, Confused, shadows_single_iff, shadows_single_iff]
      have hsame : sender.toList = sender'.toList ∧
          timestamp.repr.toList ++ '|' :: body.toList =
            timestamp'.repr.toList ++ '|' :: body'.toList ↔
          InboundMessage.single sender timestamp body = .single sender' timestamp' body' := by
        rw [InboundMessage.single.injEq, String.toList_inj]
        refine and_congr_right fun _ => ⟨fun h => ?_, ?_⟩
        · obtain ⟨htime, hbody⟩ := Separated.append_cons_inj_left (hbar _) (hbar _) h
          exact ⟨hnum.mp htime, String.toList_inj.mp hbody⟩
        · rintro ⟨rfl, rfl⟩
          rfl
      simp only [hsame, SharesReference, false_or]
    | concat sender' refNum' parts' =>
      rw [toList_hashed_single, toList_hashed_concat]
      simp [Confused, SharesReference, Shadows]
  | concat sender refNum parts =>
    cases m' with
    | single sender' timestamp' body' =>
      rw [toList_hashed_single, toList_hashed_concat]
      simp [Confused, SharesReference, Shadows]
    | concat sender' refNum' parts' =>
      rw [toList_hashed_concat, toList_hashed_concat, List.append_right_inj]
      simp only [Confused, SharesReference, Shadows, or_false, InboundMessage.concat.injEq]
      constructor
      · intro h
        obtain ⟨hfront, htotal⟩ := Separated.append_cons_inj_right (hbar _) (hbar _) h
        obtain ⟨hsender, href⟩ := Separated.append_cons_inj_right (hbar _) (hbar _) hfront
        exact .inr ⟨String.toList_inj.mp hsender, Int.ofNat_inj.mp (hnum.mp href),
          Int.ofNat_inj.mp (hnum.mp htotal)⟩
      · rintro (⟨rfl, rfl, rfl⟩ | ⟨rfl, rfl, hlen⟩)
        · rfl
        · rw [hlen]

/-! ## The server's table -/

/-- A message that arrives, as it was read. -/
structure Arrival where
  message : InboundMessage
  reading : ParsedMessage

section
variable (sha256 : String → List UInt8)

/-- The dedup of `receiveMessage`: a message whose name has a row is ignored. -/
def receiveOnce (rows : List (String × InboundMessage)) (a : Arrival) :
    List (String × InboundMessage) :=
  let providerMessageId := deterministicMessageID sha256 a.reading
  if rows.any (·.1 == providerMessageId) then rows else rows ++ [(providerMessageId, a.message)]

/-- The texts hashed for a set of messages. -/
def hashedTexts (handled : Set InboundMessage) : Set String :=
  {text | ∃ m ∈ handled, ∃ p ∈ m.readings, hashedText p = text}

/-- Redeliveries keep their name. -/
def StableIDs (handled : Set InboundMessage) : Prop :=
  ∀ m ∈ handled, ∀ p ∈ m.readings, ∀ q ∈ m.readings,
    deterministicMessageID sha256 p = deterministicMessageID sha256 q

/-- Different messages have different names. -/
def DistinctIDs (handled : Set InboundMessage) : Prop :=
  ∀ m ∈ handled, ∀ m' ∈ handled, m ≠ m' → ∀ p ∈ m.readings, ∀ q ∈ m'.readings,
    deterministicMessageID sha256 p ≠ deterministicMessageID sha256 q

/-- Whatever arrives, in any order and any number of times, has a row in the end. -/
def NoneDropped (handled : Set InboundMessage) : Prop :=
  ∀ arrivals : List Arrival, (∀ a ∈ arrivals, a.message ∈ handled ∧ a.reading ∈ a.message.readings) →
    ∀ a ∈ arrivals, ∃ row ∈ arrivals.foldl (receiveOnce sha256) [], row.2 = a.message

variable {sha256}

/-- Every row is that of a message that arrived, under its name. -/
def Rows (sha256 : String → List UInt8) (arrived : List Arrival)
    (rows : List (String × InboundMessage)) : Prop :=
  (∀ row ∈ rows, ∃ a ∈ arrived, row = (deterministicMessageID sha256 a.reading, a.message)) ∧
    ∀ a ∈ arrived, ∃ row ∈ rows, row.2 = a.message

/-- One arrival. -/
theorem Rows.receiveOnce {handled : Set InboundMessage} (hdistinct : DistinctIDs sha256 handled)
    {arrived : List Arrival} {rows : List (String × InboundMessage)}
    (h : Rows sha256 arrived rows)
    (harrived : ∀ a ∈ arrived, a.message ∈ handled ∧ a.reading ∈ a.message.readings) {a : Arrival}
    (ha : a.message ∈ handled ∧ a.reading ∈ a.message.readings) :
    Rows sha256 (arrived ++ [a]) (receiveOnce sha256 rows a) := by
  obtain ⟨hrows, hkept⟩ := h
  simp only [Sms.receiveOnce]
  split
  · next hany =>
    refine ⟨fun row hrow => ?_, fun b hb => ?_⟩
    · obtain ⟨b, hb, heq⟩ := hrows row hrow
      exact ⟨b, List.mem_append_left _ hb, heq⟩
    · rcases List.mem_append.mp hb with hb | hb
      · exact hkept b hb
      · -- the row with its name is its own
        obtain ⟨row, hrow, hname⟩ := List.any_eq_true.mp hany
        obtain ⟨c, hc, rfl⟩ := hrows row hrow
        refine ⟨_, hrow, Classical.byContradiction fun hne => ?_⟩
        rw [List.mem_singleton.mp hb] at hne
        exact hdistinct _ (harrived c hc).1 _ ha.1 hne _ (harrived c hc).2 _ ha.2
          (beq_iff_eq.mp hname)
  · refine ⟨fun row hrow => ?_, fun b hb => ?_⟩
    · rcases List.mem_append.mp hrow with hrow | hrow
      · obtain ⟨b, hb, heq⟩ := hrows row hrow
        exact ⟨b, List.mem_append_left _ hb, heq⟩
      · exact ⟨a, List.mem_append_right _ (List.mem_singleton_self a), List.mem_singleton.mp hrow⟩
    · rcases List.mem_append.mp hb with hb | hb
      · obtain ⟨row, hrow, heq⟩ := hkept b hb
        exact ⟨row, List.mem_append_left _ hrow, heq⟩
      · rw [List.mem_singleton.mp hb]
        exact ⟨_, List.mem_append_right _ (List.mem_singleton_self _), rfl⟩

/-- Where names are distinct the dedup drops no message. -/
theorem DistinctIDs.noneDropped {handled : Set InboundMessage}
    (hdistinct : DistinctIDs sha256 handled) : NoneDropped sha256 handled := by
  intro arrivals harrivals
  have hrows : Rows sha256 arrivals (arrivals.foldl (receiveOnce sha256) []) := by
    induction arrivals using List.reverseRecOn with
    | nil => exact ⟨by simp, by simp⟩
    | append_singleton arrivals a ih =>
      have hbefore : ∀ b ∈ arrivals, b.message ∈ handled ∧ b.reading ∈ b.message.readings :=
        fun b hb => harrivals b (List.mem_append_left _ hb)
      rw [List.foldl_append, List.foldl_cons, List.foldl_nil]
      exact (ih hbefore).receiveOnce hdistinct hbefore
        (harrivals a (List.mem_append_right _ (List.mem_singleton_self a)))
  exact hrows.2

/-- Two messages that are confused and different have readings. -/
theorem Confused.exists_readings {m m' : InboundMessage} (h : Confused m m') (hne : m ≠ m') :
    (∃ p, p ∈ m.readings) ∧ ∃ q, q ∈ m'.readings := by
  cases m with
  | single sender timestamp body =>
    cases m' with
    | single sender' timestamp' body' =>
      exact ⟨⟨_, List.mem_singleton_self _⟩, ⟨_, List.mem_singleton_self _⟩⟩
    | concat sender' refNum' parts' => simp [Confused, SharesReference, Shadows] at h
  | concat sender refNum parts =>
    cases m' with
    | single sender' timestamp' body' => simp [Confused, SharesReference, Shadows] at h
    | concat sender' refNum' parts' =>
      simp only [Confused, SharesReference, Shadows, or_false] at h
      obtain ⟨rfl, rfl, hlen⟩ := h
      have hlen' : 0 < parts.length := by
        rw [List.length_pos_iff]
        rintro rfl
        exact hne (by rw [List.length_eq_zero_iff.mp hlen.symm])
      exact ⟨⟨_, List.mem_mapIdx.mpr ⟨0, hlen', rfl⟩⟩, ⟨_, List.mem_mapIdx.mpr ⟨0, hlen ▸ hlen', rfl⟩⟩⟩

/-- **When names identify messages.** For any set of messages whose hashed texts have no collision:
redeliveries keep their name, different messages have different names and the server drops none of
them, if and only if no two different messages are confused. -/
theorem messageID_identifies_iff (sha256 : String → List UInt8) (handled : Set InboundMessage)
    (hsha256 : Set.InjOn (fun text => (sha256 text).take 16) (hashedTexts handled)) :
    (StableIDs sha256 handled ∧ DistinctIDs sha256 handled ∧ NoneDropped sha256 handled) ↔
      ∀ m ∈ handled, ∀ m' ∈ handled, m ≠ m' → ¬ Confused m m' := by
  have hsame : ∀ m ∈ handled, ∀ m' ∈ handled, ∀ p ∈ m.readings, ∀ q ∈ m'.readings,
      (deterministicMessageID sha256 p = deterministicMessageID sha256 q ↔ m = m' ∨ Confused m m') := by
    intro m hm m' hm' p hp q hq
    rw [deterministicMessageID_eq_iff, ← hashed_eq_iff, ← InboundMessage.hashedText_reading hp,
      ← InboundMessage.hashedText_reading hq]
    exact hsha256.eq_iff ⟨m, hm, p, hp, rfl⟩ ⟨m', hm', q, hq, rfl⟩
  constructor
  · rintro ⟨-, hdistinct, -⟩ m hm m' hm' hne hconfused
    obtain ⟨⟨p, hp⟩, ⟨q, hq⟩⟩ := hconfused.exists_readings hne
    exact hdistinct m hm m' hm' hne p hp q hq ((hsame m hm m' hm' p hp q hq).mpr (.inr hconfused))
  · intro hclear
    have hdistinct : DistinctIDs sha256 handled := fun m hm m' hm' hne p hp q hq heq =>
      ((hsame m hm m' hm' p hp q hq).mp heq).elim hne (hclear m hm m' hm' hne)
    exact ⟨fun m hm p hp q hq => (hsame m hm m hm p hp q hq).mpr (.inl rfl), hdistinct,
      hdistinct.noneDropped⟩

end

/-- The first sixteen bytes of the SHA-256 of two texts. -/
def sha256OfTwo (text : String) : List UInt8 :=
  if text = "single|+1|1700000000000000000|hi" then
    [0x98, 0x59, 0x38, 0xe5, 0xa0, 0x57, 0xc2, 0xc4, 0x2d, 0xce, 0xa8, 0x91, 0xdb, 0xbe, 0xd3, 0x7f]
  else if text = "concat|+1|7|2" then
    [0x68, 0x7c, 0x4e, 0xc7, 0x16, 0x94, 0x58, 0x93, 0xd7, 0xe7, 0x7e, 0x50, 0x87, 0x28, 0xd1, 0xce]
  else []

/-- A text message and one in two parts. -/
def twoMessages : Set InboundMessage :=
  {.single "+1" 1700000000000000000 "hi", .concat "+1" 7 [(0, "A"), (1, "B")]}

/-- Two messages the names tell apart. -/
theorem messageID_identifies_two :
    StableIDs sha256OfTwo twoMessages ∧ DistinctIDs sha256OfTwo twoMessages ∧
      NoneDropped sha256OfTwo twoMessages := by
  have htexts : ∀ text ∈ hashedTexts twoMessages,
      text = "single|+1|1700000000000000000|hi" ∨ text = "concat|+1|7|2" := by
    rintro text ⟨m, hm, p, hp, rfl⟩
    rw [InboundMessage.hashedText_reading hp]
    rcases hm with rfl | rfl
    · exact .inl (by decide)
    · exact .inr (by decide)
  refine (messageID_identifies_iff sha256OfTwo twoMessages ?_).mpr ?_
  · intro text htext text' htext' heq
    rcases htexts text htext with rfl | rfl <;> rcases htexts text' htext' with rfl | rfl
    · rfl
    · exact absurd heq (by decide)
    · exact absurd heq (by decide)
    · rfl
  · rintro m (rfl | rfl) m' (rfl | rfl) hne
    · exact absurd rfl hne
    · simp [Confused, SharesReference, Shadows]
    · simp [Confused, SharesReference, Shadows]
    · exact absurd rfl hne

/-- **A reference used again.** The two messages have other texts and were sent at other times, but
they are two parts each under one reference of one sender: whatever the hash, they have one name,
and the server drops the second. -/
theorem messageID_reuses_reference :
    ¬ ∃ sha256 : String → List UInt8,
      DistinctIDs sha256
        {.concat "+1" 7 [(0, "A"), (1, "B")], .concat "+1" 7 [(90, "C"), (91, "D")]} ∨
      [Arrival.mk (.concat "+1" 7 [(0, "A"), (1, "B")]) ⟨"+1", "B", 1, some ⟨7, 2, 2⟩⟩,
          ⟨.concat "+1" 7 [(90, "C"), (91, "D")], ⟨"+1", "D", 91, some ⟨7, 2, 2⟩⟩⟩].foldl
        (receiveOnce sha256) [] ≠
          [(deterministicMessageID sha256 ⟨"+1", "B", 1, some ⟨7, 2, 2⟩⟩,
            .concat "+1" 7 [(0, "A"), (1, "B")])] := by
  rintro ⟨sha256, hwrong⟩
  have hname : deterministicMessageID sha256 ⟨"+1", "B", 1, some ⟨7, 2, 2⟩⟩ =
      deterministicMessageID sha256 ⟨"+1", "D", 91, some ⟨7, 2, 2⟩⟩ := rfl
  rcases hwrong with hdistinct | hstored
  · exact hdistinct _ (.inl rfl) _ (.inr rfl) (by decide) ⟨"+1", "B", 1, some ⟨7, 2, 2⟩⟩ (by decide)
      ⟨"+1", "D", 91, some ⟨7, 2, 2⟩⟩ (by decide) hname
  · exact hstored (by simp [receiveOnce, hname])

end Svarla.Sms
