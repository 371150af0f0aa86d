import Mathlib.Data.List.Perm.Basic
import Mathlib.Tactic.Common
import Svarla.Lib.Run

/-!
# The history of an inbound call

The record of an inbound call is written by statements that nobody waits for: `handleInbound` adds it,
`answerCall` writes the device when the provider has answered, and `endCall` writes what became of a call,
by whether it is answered. `answered` is set while the provider is still asked. So a call that ends
meanwhile is neither missed nor declined, and stays so if the provider then fails; and a report of the
provider that comes after the end goes past the orchestrator and takes a call for missed whose device is not
written yet. Otherwise the record tells what happened (`history_tells`).
-/

namespace Svarla.Calls

open Svarla.Lib

/-! ## The record -/

/-- The `call_type` of an inbound call. -/
inductive CallType
  | incoming
  | missed
  | declined
  deriving DecidableEq, Repr

/-- What a row of `call_history` says of a call. -/
structure HistoryRow where
  callType : CallType
  answeredByDevice : Option String
  durationSeconds : Option Int
  deriving DecidableEq, Repr

/-- `updateCallTypeByProviderCallId` changes it. -/
def HistoryRow.isOpen (row : HistoryRow) : Bool :=
  row.callType = .incoming && row.answeredByDevice.isNone

/-- A statement about the record. -/
inductive HistoryWrite
  | recordCall
  | markAnswered (deviceId : String)
  | updateCallType (callType : CallType)
  | updateDuration (durationSeconds : Int)
  /-- A report that a call has ended which the orchestrator does not know, with its duration if completed. -/
  | reportedEnd (durationSeconds : Option Int)
  deriving DecidableEq, Repr

namespace HistoryWrite

/-- What a statement makes of the record, if there is one. -/
def run : HistoryWrite → Option HistoryRow → Option HistoryRow
  | recordCall, none => some ⟨.incoming, none, none⟩
  | recordCall, some row => some row
  | markAnswered deviceId, row => row.map fun row => { row with answeredByDevice := some deviceId }
  | updateCallType callType, row => row.map fun row => if row.isOpen then { row with callType } else row
  | updateDuration seconds, row => row.map fun row => { row with durationSeconds := some seconds }
  | reportedEnd _, row => row.map fun row => if row.isOpen then { row with callType := .missed } else row

/-- What follows a statement. -/
def next : HistoryWrite → Option HistoryRow → List HistoryWrite
  | reportedEnd (some seconds), row =>
    if row.any (·.isOpen) then [] else if 0 < seconds then [updateDuration seconds] else []
  | _, _ => []

def isReport : HistoryWrite → Bool
  | reportedEnd _ => true
  | _ => false

end HistoryWrite

/-! ## The call -/

/-- What `answerCall` waits for. -/
inductive AnswerStage
  | updateSession
  | answer
  deriving DecidableEq, Repr

/-- An inbound call, with its record and the statements about it that are under way. -/
structure RecordedCall where
  usesWebSocketAudio : Bool
  /-- It is in `activeCalls`. -/
  tracked : Bool
  answered : Bool
  answeredAt : Option Int
  answering : Option (String × AnswerStage)
  writes : List HistoryWrite
  row : Option HistoryRow
  /-- The device whose answer succeeded. -/
  succeeded : Option String
  /-- What triggered the end. -/
  trigger : Option String
  deriving DecidableEq, Repr

inductive HistoryEvent
  | answer (deviceId : String) (now : Int)
  | patched (ok : Bool)
  | replied (ok : Bool)
  | endCall (trigger : Option String) (now : Int)
  /-- The provider reports the end of a call that is not tracked anymore. -/
  | reported (durationSeconds : Option Int)
  | write (i : Nat) (ok : Bool)
  deriving DecidableEq, Repr

namespace RecordedCall

/-- `handleInbound` has recorded the call. -/
def start (usesWebSocketAudio : Bool) : RecordedCall :=
  ⟨usesWebSocketAudio, true, false, none, none, [.recordCall], none, none, none⟩

/-- The answer failed. -/
def resetAnswer (s : RecordedCall) : RecordedCall :=
  { s with answered := false, answeredAt := none, answering := none }

/-- `durationSeconds`, rounded to the next second. -/
def duration (s : RecordedCall) (now : Int) : Option Int :=
  s.answeredAt.map fun answeredAt => (now - answeredAt + 500) / 1000

/-- What `endCall` makes of a call that is not answered. -/
def endType (trigger : Option String) : CallType :=
  if trigger = some "declined" then .declined else .missed

/-- What `endCall` writes. -/
def endWrites (s : RecordedCall) (trigger : Option String) (now : Int) : List HistoryWrite :=
  if s.answered then if 0 < (s.duration now).getD 0 then [.updateDuration ((s.duration now).getD 0)] else []
  else [.updateCallType (endType trigger)]

def step (s : RecordedCall) : HistoryEvent → Option RecordedCall
  | .answer deviceId now =>
    if s.tracked ∧ ¬ s.answered then
      some { s with
        answered := true
        answeredAt := some now
        answering := some (deviceId, if s.usesWebSocketAudio then .updateSession else .answer) }
    else some s
  | .patched ok =>
    match s.answering with
    | some (deviceId, .updateSession) =>
      some (if ok then { s with answering := some (deviceId, .answer) } else s.resetAnswer)
    | _ => none
  | .replied ok =>
    match s.answering with
    | some (deviceId, .answer) =>
      some (if ok then
          { s with
            answering := none
            writes := s.writes ++ [.markAnswered deviceId]
            succeeded := some deviceId }
        else s.resetAnswer)
    | _ => none
  | .endCall trigger now =>
    if s.tracked then
      some { s with tracked := false, writes := s.writes ++ s.endWrites trigger now, trigger }
    else some s
  | .reported seconds =>
    if s.tracked then none else some { s with writes := s.writes ++ [.reportedEnd seconds] }
  | .write i ok =>
    match s.writes[i]? with
    | none => none
    | some w =>
      some (if ok then { s with row := w.run s.row, writes := s.writes.eraseIdx i ++ w.next s.row }
        else { s with writes := s.writes.eraseIdx i })

/-! ## What the record is to tell -/

/-- The call has ended, and nothing about it is under way. -/
def Settled (s : RecordedCall) : Prop := s.tracked = false ∧ s.answering = none ∧ s.writes = []

/-- It was answered by the device whose answer succeeded, for some time, or else declined or missed. -/
def Tells (s : RecordedCall) : Prop :=
  ∃ row, s.row = some row ∧
    match s.succeeded with
    | some deviceId =>
      row.callType = .incoming ∧ row.answeredByDevice = some deviceId ∧ row.durationSeconds.isSome = true
    | none => row.callType = endType s.trigger ∧ row.answeredByDevice = none

/-- A statement does not fail and finds the record, and a report of the end finds one that is missed, or not
open. An answer that fails does so before the end, and an answered call ends after half a second. -/
def Undisturbed (s : RecordedCall) : HistoryEvent → Prop
  | .patched ok | .replied ok => ok = false → s.tracked = true
  | .endCall _ now => s.tracked = true → s.answered = true → 0 < (s.duration now).getD 0
  | .write i ok => ok = true ∧ ∀ w ∈ s.writes[i]?, (w = .recordCall ∨ s.row.isSome = true) ∧
      (w.isReport = true → s.row.any (·.isOpen) = true →
        s.answered = false ∧ endType s.trigger = .missed)
  | .answer .. | .reported _ => True

instance (s : RecordedCall) : (e : HistoryEvent) → Decidable (s.Undisturbed e)
  | .patched _ | .replied _ => inferInstanceAs (Decidable (_ → _))
  | .endCall .. => inferInstanceAs (Decidable (_ → _))
  | .write i ok => inferInstanceAs (Decidable (ok = true ∧ ∀ w ∈ s.writes[i]?, _))
  | .answer .. | .reported _ => inferInstanceAs (Decidable True)

/-! ## The invariant -/

/-- What is written, or under way, by how far the call is. -/
structure Inv (s : RecordedCall) : Prop where
  recorded : s.row = none → .recordCall ∈ s.writes
  answering : s.answering ≠ none → s.answered = true ∧ s.succeeded = none
  answered : s.answered = true → s.answering = none → s.succeeded ≠ none
  succeeded : s.succeeded ≠ none → s.answered = true
  /-- The device is written, or will be. -/
  marked : ∀ deviceId, s.succeeded = some deviceId →
    .markAnswered deviceId ∈ s.writes ∨ ∃ row, s.row = some row ∧ row.answeredByDevice = some deviceId
  device : ∀ row deviceId, s.row = some row → row.answeredByDevice = some deviceId →
    s.succeeded = some deviceId
  marks : ∀ deviceId, .markAnswered deviceId ∈ s.writes → s.succeeded = some deviceId
  /-- A call that goes on, or is answered, is recorded as incoming. -/
  incoming : s.tracked = true ∨ s.answered = true →
    (∀ row, s.row = some row → row.callType = .incoming) ∧ ∀ callType, .updateCallType callType ∉ s.writes
  /-- The end of a call that was not answered is written, or will be. -/
  ended : s.tracked = false → s.answered = false → (.updateCallType (endType s.trigger) ∈ s.writes ∨
      ∃ row, s.row = some row ∧ row.callType = endType s.trigger) ∧
    (∀ row, s.row = some row → row.callType = .incoming ∨ row.callType = endType s.trigger) ∧
    ∀ callType, .updateCallType callType ∈ s.writes → callType = endType s.trigger
  timed : s.tracked = false → s.answered = true → (∃ seconds, .updateDuration seconds ∈ s.writes) ∨
    ∃ row, s.row = some row ∧ row.durationSeconds.isSome = true
  reports : ∀ seconds, .reportedEnd seconds ∈ s.writes → s.tracked = false

variable {s : RecordedCall}

theorem inv_start (usesWebSocketAudio : Bool) : (start usesWebSocketAudio).Inv := by
  refine ⟨fun _ => .head _, ?_, ?_, ?_, ?_, ?_, ?_, ?_, ?_, ?_, ?_⟩ <;> simp [start]

/-- An answer begins. -/
theorem Inv.answer (h : s.Inv) (htracked : s.tracked = true) (hanswered : s.answered = false)
    (now : Int) (answer : String × AnswerStage) :
    Inv { s with answered := true, answeredAt := some now, answering := some answer } where
  recorded := h.recorded
  answering _ := by
    refine ⟨rfl, ?_⟩
    by_contra hsome
    exact Bool.false_ne_true (hanswered.symm.trans (h.succeeded hsome))
  answered _ hnone := absurd hnone (Option.some_ne_none _)
  succeeded _ := rfl
  marked := h.marked
  device := h.device
  marks := h.marks
  incoming _ := h.incoming (.inl htracked)
  ended _ hfalse := absurd hfalse Bool.false_ne_true.symm
  timed huntracked := absurd (htracked.symm.trans huntracked) Bool.false_ne_true.symm
  reports := h.reports

/-- An answer goes on. -/
theorem Inv.patched (h : s.Inv) (hanswering : s.answering ≠ none) (answer : String × AnswerStage) :
    Inv { s with answering := some answer } where
  recorded := h.recorded
  answering _ := h.answering hanswering
  answered _ hnone := absurd hnone (Option.some_ne_none _)
  succeeded := h.succeeded
  marked := h.marked
  device := h.device
  marks := h.marks
  incoming := h.incoming
  ended := h.ended
  timed := h.timed
  reports := h.reports

/-- An answer fails before the end. -/
theorem Inv.resetAnswer (h : s.Inv) (hanswering : s.answering ≠ none) (htracked : s.tracked = true) :
    s.resetAnswer.Inv where
  recorded := h.recorded
  answering hne := absurd rfl hne
  answered hfalse := absurd hfalse Bool.false_ne_true
  succeeded hne := absurd (h.answering hanswering).2 hne
  marked := h.marked
  device := h.device
  marks := h.marks
  incoming _ := h.incoming (.inl htracked)
  ended huntracked := absurd (htracked.symm.trans huntracked) Bool.false_ne_true.symm
  timed huntracked := absurd (htracked.symm.trans huntracked) Bool.false_ne_true.symm
  reports := h.reports

/-- The provider has answered. -/
theorem Inv.succeed (h : s.Inv) (hanswering : s.answering ≠ none) (deviceId : String) :
    Inv { s with
      answering := none
      writes := s.writes ++ [.markAnswered deviceId]
      succeeded := some deviceId } := by
  obtain ⟨hanswered, hnone⟩ := h.answering hanswering
  refine ⟨fun hrow => List.mem_append_left _ (h.recorded hrow), fun hne => absurd rfl hne,
    fun _ _ => Option.some_ne_none _, fun _ => hanswered, ?_, ?_, ?_, fun _ => ?_, ?_, fun huntracked _ => ?_,
    fun seconds hmem => h.reports seconds (by simpa using hmem)⟩
  · rintro _ ⟨⟩
    exact .inl (List.mem_append_right _ (.head _))
  · intro row device hrow hdevice
    have hsome := h.device row device hrow hdevice
    rw [hnone] at hsome
    cases hsome
  · intro device hmem
    obtain hmem | hmem := List.mem_append.mp hmem
    · have hsome := h.marks device hmem
      rw [hnone] at hsome
      cases hsome
    · cases List.mem_singleton.mp hmem
      rfl
  · obtain ⟨hincoming, hno⟩ := h.incoming (.inr hanswered)
    exact ⟨hincoming, fun callType => by simpa using hno callType⟩
  · intro _ hfalse
    exact absurd (hanswered.symm.trans hfalse) Bool.false_ne_true.symm
  · obtain ⟨seconds, hmem⟩ | hrow := h.timed huntracked hanswered
    · exact .inl ⟨seconds, List.mem_append_left _ hmem⟩
    · exact .inr hrow

/-- The call ends. -/
theorem Inv.endCall (h : s.Inv) (htracked : s.tracked = true) {trigger : Option String} {now : Int}
    (hlong : s.answered = true → 0 < (s.duration now).getD 0) :
    Inv { s with tracked := false, writes := s.writes ++ s.endWrites trigger now, trigger } := by
  obtain ⟨hincoming, hno⟩ := h.incoming (.inl htracked)
  have hmarks : ∀ deviceId, .markAnswered deviceId ∉ s.endWrites trigger now := by
    intro deviceId
    unfold endWrites
    split
    · split <;> simp
    · simp
  refine ⟨fun hrow => List.mem_append_left _ (h.recorded hrow), h.answering, h.answered, h.succeeded,
    fun deviceId hsome => ?_, h.device, fun deviceId hmem => ?_, fun hanswered => ⟨hincoming, ?_⟩,
    fun _ hunanswered => ?_, fun _ hanswered => .inl ?_, fun _ _ => rfl⟩
  · exact (h.marked deviceId hsome).imp_left (List.mem_append_left _)
  · exact h.marks deviceId ((List.mem_append.mp hmem).resolve_right (hmarks deviceId))
  · intro callType hmem
    have hanswered : s.answered = true := hanswered.resolve_left Bool.false_ne_true
    rw [endWrites, if_pos hanswered, if_pos (hlong hanswered)] at hmem
    simp [hno] at hmem
  · have hwrites : s.endWrites trigger now = [.updateCallType (endType trigger)] :=
      if_neg (by rw [hunanswered]; exact Bool.false_ne_true)
    rw [hwrites]
    refine ⟨.inl (List.mem_append_right _ (.head _)), fun row hrow => .inl (hincoming row hrow), ?_⟩
    intro callType hmem
    simpa [hno] using hmem
  · have hwrites : s.endWrites trigger now = [.updateDuration ((s.duration now).getD 0)] := by
      rw [endWrites, if_pos hanswered, if_pos (hlong hanswered)]
    rw [hwrites]
    exact ⟨_, List.mem_append_right _ (.head _)⟩

/-- A report of the end comes in. -/
theorem Inv.reported (h : s.Inv) (huntracked : s.tracked = false) (seconds : Option Int) :
    Inv { s with writes := s.writes ++ [.reportedEnd seconds] } := by
  have hmem : ∀ w : HistoryWrite, (∀ seconds, w ≠ .reportedEnd seconds) →
      (w ∈ s.writes ++ [.reportedEnd seconds] ↔ w ∈ s.writes) := fun w hw => by
    rw [List.mem_append, List.mem_singleton, or_iff_left (hw seconds)]
  refine ⟨fun hrow => List.mem_append_left _ (h.recorded hrow), h.answering, h.answered, h.succeeded,
    fun deviceId hsome => ?_, h.device, fun deviceId hmark => ?_, fun hor => ?_, fun _ hanswered => ?_,
    fun _ hanswered => ?_, fun _ _ => huntracked⟩
  · exact (h.marked deviceId hsome).imp_left (List.mem_append_left _)
  · exact h.marks deviceId ((hmem (.markAnswered deviceId) nofun).mp hmark)
  · obtain ⟨hincoming, hno⟩ := h.incoming hor
    refine ⟨hincoming, fun callType hupdate => hno callType ?_⟩
    exact (hmem (.updateCallType callType) nofun).mp hupdate
  · obtain ⟨hwritten, htype, hupdates⟩ := h.ended huntracked hanswered
    exact ⟨hwritten.imp_left (List.mem_append_left _), htype,
      fun callType hupdate => hupdates callType ((hmem (.updateCallType callType) nofun).mp hupdate)⟩
  · exact (h.timed huntracked hanswered).imp_left fun ⟨seconds, hupdate⟩ =>
      ⟨seconds, List.mem_append_left _ hupdate⟩

/-- The record is added. -/
theorem Inv.recordCall (h : s.Inv) (hnone : s.row = none) {writes : List HistoryWrite}
    (hmem : ∀ w, w ∈ s.writes ↔ w = .recordCall ∨ w ∈ writes) :
    Inv { s with row := some ⟨.incoming, none, none⟩, writes } := by
  have hno : ∀ row, s.row ≠ some row := fun row hrow => Option.some_ne_none _ (hrow.symm.trans hnone)
  have hkept : ∀ {w}, w ∈ s.writes → w ≠ .recordCall → w ∈ writes := fun hw hne =>
    ((hmem _).mp hw).resolve_left hne
  have hold : ∀ {w}, w ∈ writes → w ∈ s.writes := fun hw => (hmem _).mpr (.inr hw)
  refine ⟨fun hrow => absurd hrow (Option.some_ne_none _), h.answering, h.answered, h.succeeded,
    fun deviceId hsome => ?_, ?_, fun deviceId hmark => ?_, fun hor => ⟨?_, fun callType hupdate => ?_⟩,
    fun huntracked hanswered => ⟨?_, ?_, fun callType hupdate => ?_⟩, fun huntracked hanswered => ?_,
    fun seconds hreport => ?_⟩
  · obtain hmark | ⟨row, hrow, -⟩ := h.marked deviceId hsome
    · exact .inl (hkept hmark nofun)
    · exact absurd hrow (hno row)
  · rintro row deviceId ⟨⟩ ⟨⟩
  · exact h.marks deviceId (hold hmark)
  · rintro row ⟨⟩
    rfl
  · exact (h.incoming hor).2 callType (hold hupdate)
  · obtain hupdate | ⟨row, hrow, -⟩ := (h.ended huntracked hanswered).1
    · exact .inl (hkept hupdate nofun)
    · exact absurd hrow (hno row)
  · rintro row ⟨⟩
    exact .inl rfl
  · exact (h.ended huntracked hanswered).2.2 callType (hold hupdate)
  · obtain ⟨seconds, hupdate⟩ | ⟨row, hrow, -⟩ := h.timed huntracked hanswered
    · exact .inl ⟨seconds, hkept hupdate nofun⟩
    · exact absurd hrow (hno row)
  · exact h.reports seconds (hold hreport)

/-- What a statement may do to the record. -/
structure Writes (s : RecordedCall) (w : HistoryWrite) (row row' : HistoryRow) : Prop where
  device : row'.answeredByDevice = row.answeredByDevice ∧ (∀ deviceId, w ≠ .markAnswered deviceId) ∨
    ∃ deviceId, w = .markAnswered deviceId ∧ row'.answeredByDevice = some deviceId
  callType : row'.callType = row.callType ∨
    s.tracked = false ∧ s.answered = false ∧ row'.callType = endType s.trigger
  update : ∀ callType, w = .updateCallType callType → row'.callType = endType s.trigger
  duration : row.durationSeconds.isSome = true ∨ (∃ seconds, w = .updateDuration seconds) →
    row'.durationSeconds.isSome = true

/-- A statement changes the record. -/
theorem Inv.changed (h : s.Inv) {w : HistoryWrite} {row row' : HistoryRow} (hrow : s.row = some row)
    (hw : w ∈ s.writes) (hwrites : s.Writes w row row') {writes : List HistoryWrite}
    (hkeep : ∀ w' ∈ s.writes, w' = w ∨ w' ∈ writes)
    (hnew : ∀ w' ∈ writes, w' ∈ s.writes ∨ ∃ seconds, w' = .updateDuration seconds) :
    Inv { s with row := some row', writes } := by
  have hold : ∀ {w'}, w' ∈ writes → (∀ seconds, w' ≠ .updateDuration seconds) → w' ∈ s.writes :=
    fun hmem hne => (hnew _ hmem).resolve_right fun ⟨seconds, heq⟩ => hne seconds heq
  have hrow' : ∀ row'', s.row = some row'' → row'' = row := fun row'' hrow'' =>
    Option.some.inj (hrow''.symm.trans hrow)
  refine ⟨fun hnone => absurd hnone (Option.some_ne_none _), h.answering, h.answered, h.succeeded,
    fun deviceId hsome => ?_, ?_, fun deviceId hmark => ?_, fun hor => ⟨?_, fun callType hupdate => ?_⟩,
    fun huntracked hanswered => ⟨?_, ?_, fun callType hupdate => ?_⟩, fun huntracked hanswered => ?_,
    fun seconds hreport => ?_⟩
  · obtain ⟨hsame, hnot⟩ | ⟨deviceId', rfl, hdevice⟩ := hwrites.device
    · obtain hmark | ⟨row'', hrow'', hdevice⟩ := h.marked deviceId hsome
      · exact .inl ((hkeep _ hmark).resolve_left fun heq => hnot deviceId heq.symm)
      · rw [hrow' row'' hrow''] at hdevice
        exact .inr ⟨row', rfl, hsame.trans hdevice⟩
    · have hsame := h.marks deviceId' hw
      rw [hsome] at hsame
      exact .inr ⟨row', rfl, hdevice.trans hsame.symm⟩
  · rintro _ deviceId ⟨⟩ hdevice'
    obtain ⟨hsame, -⟩ | ⟨deviceId', rfl, hdevice⟩ := hwrites.device
    · exact h.device row deviceId hrow (hsame.symm.trans hdevice')
    · rw [hdevice'] at hdevice
      cases hdevice
      exact h.marks deviceId hw
  · exact h.marks deviceId (hold hmark nofun)
  · rintro _ ⟨⟩
    obtain hsame | ⟨huntracked, hanswered, -⟩ := hwrites.callType
    · rw [hsame]
      exact (h.incoming hor).1 row hrow
    · rw [huntracked, hanswered] at hor
      exact absurd hor (by simp)
  · exact (h.incoming hor).2 callType (hold hupdate nofun)
  · obtain hupdate | ⟨row'', hrow'', htype⟩ := (h.ended huntracked hanswered).1
    · refine (hkeep _ hupdate).symm.imp id fun heq => ⟨row', rfl, ?_⟩
      exact hwrites.update _ heq.symm
    · rw [hrow' row'' hrow''] at htype
      refine .inr ⟨row', rfl, ?_⟩
      exact hwrites.callType.elim (fun hsame => hsame.trans htype) fun hended => hended.2.2
  · rintro _ ⟨⟩
    obtain hsame | hended := hwrites.callType
    · rw [hsame]
      exact (h.ended huntracked hanswered).2.1 row hrow
    · exact .inr hended.2.2
  · exact (h.ended huntracked hanswered).2.2 callType (hold hupdate nofun)
  · obtain ⟨seconds, hupdate⟩ | ⟨row'', hrow'', htimed⟩ := h.timed huntracked hanswered
    · obtain rfl | hmem := hkeep _ hupdate
      · exact .inr ⟨row', rfl, hwrites.duration (.inr ⟨seconds, rfl⟩)⟩
      · exact .inl ⟨seconds, hmem⟩
    · rw [hrow' row'' hrow''] at htimed
      exact .inr ⟨row', rfl, hwrites.duration (.inl htimed)⟩
  · exact h.reports seconds (hold hreport nofun)

/-- The record of a call that ended without an answer has no device. -/
theorem Inv.device_none (h : s.Inv) {row : HistoryRow} (hrow : s.row = some row)
    (hanswered : s.answered = false) : row.answeredByDevice = none := by
  by_contra hsome
  obtain ⟨deviceId, hdevice⟩ := Option.ne_none_iff_exists'.mp hsome
  have hanswer := h.succeeded (by rw [h.device row deviceId hrow hdevice]; exact Option.some_ne_none _)
  exact Bool.false_ne_true (hanswered.symm.trans hanswer)

/-- What a statement does to the record that it finds. -/
theorem Inv.writes (h : s.Inv) {w : HistoryWrite} {row : HistoryRow} (hrow : s.row = some row)
    (hw : w ∈ s.writes) (hreport : w.isReport = true → row.isOpen = true →
      s.answered = false ∧ endType s.trigger = .missed) :
    ∃ row', w.run (some row) = some row' ∧ s.Writes w row row' := by
  cases w with
  | recordCall => exact ⟨row, rfl, .inl ⟨rfl, nofun⟩, .inl rfl, nofun, by simp⟩
  | markAnswered deviceId => exact ⟨_, rfl, .inr ⟨deviceId, rfl, rfl⟩, .inl rfl, nofun, by simp⟩
  | updateDuration seconds => exact ⟨_, rfl, .inl ⟨rfl, nofun⟩, .inl rfl, nofun, fun _ => rfl⟩
  | updateCallType callType =>
    have hunanswered : s.tracked = false ∧ s.answered = false := by
      refine ⟨?_, ?_⟩ <;> rw [← Bool.not_eq_true] <;> intro htrue
      · exact (h.incoming (.inl htrue)).2 callType hw
      · exact (h.incoming (.inr htrue)).2 callType hw
    obtain ⟨-, htype, hupdates⟩ := h.ended hunanswered.1 hunanswered.2
    obtain rfl := hupdates callType hw
    by_cases hopen : row.isOpen = true
    · exact ⟨_, congrArg some (if_pos hopen), .inl ⟨rfl, nofun⟩, .inr ⟨hunanswered.1, hunanswered.2, rfl⟩,
        fun _ _ => rfl, by simp⟩
    · -- it has its type already
      have hended : row.callType = endType s.trigger := (htype row hrow).resolve_left fun hincoming => by
        refine hopen ?_
        simp [HistoryRow.isOpen, hincoming, h.device_none hrow hunanswered.2]
      exact ⟨row, congrArg some (if_neg hopen), .inl ⟨rfl, nofun⟩, .inl rfl, fun _ _ => hended, by simp⟩
  | reportedEnd seconds =>
    by_cases hopen : row.isOpen = true
    · obtain ⟨hanswered, hmissed⟩ := hreport rfl hopen
      exact ⟨_, congrArg some (if_pos hopen), .inl ⟨rfl, nofun⟩,
        .inr ⟨h.reports seconds hw, hanswered, hmissed.symm⟩, nofun, by simp⟩
    · exact ⟨row, congrArg some (if_neg hopen), .inl ⟨rfl, nofun⟩, .inl rfl, nofun, by simp⟩

/-- What follows a statement is a duration. -/
theorem next_eq {w w' : HistoryWrite} {row : Option HistoryRow} (hw' : w' ∈ w.next row) :
    ∃ seconds, w' = .updateDuration seconds := by
  unfold HistoryWrite.next at hw'
  split at hw'
  · split at hw'
    · cases hw'
    · split at hw'
      · exact ⟨_, List.mem_singleton.mp hw'⟩
      · cases hw'
  · cases hw'

/-- A statement takes effect. -/
theorem Inv.write (h : s.Inv) {w : HistoryWrite} (hfound : w = .recordCall ∨ s.row.isSome = true)
    {rest : List HistoryWrite} (hmem : ∀ w', w' ∈ s.writes ↔ w' = w ∨ w' ∈ rest)
    (hreport : w.isReport = true → s.row.any (·.isOpen) = true →
      s.answered = false ∧ endType s.trigger = .missed) :
    Inv { s with row := w.run s.row, writes := rest ++ w.next s.row } := by
  cases hrow : s.row with
  | none =>
    obtain rfl := hfound.resolve_right (by rw [hrow]; exact Bool.false_ne_true)
    have hnext : rest ++ HistoryWrite.next .recordCall none = rest := List.append_nil _
    exact h.recordCall hrow fun w' => by rw [hmem, hnext]
  | some row =>
    have hw : w ∈ s.writes := (hmem w).mpr (.inl rfl)
    obtain ⟨row', hrun, hwrites⟩ := h.writes hrow hw fun hw hopen => hreport hw (by rwa [hrow])
    rw [hrun]
    refine h.changed hrow hw hwrites (fun w' hw' => ?_) fun w' hw' => ?_
    · exact ((hmem w').mp hw').imp_right (List.mem_append_left _)
    · obtain hw' | hw' := List.mem_append.mp hw'
      · exact .inl ((hmem w').mpr (.inr hw'))
      · exact .inr (next_eq hw')

theorem Inv.step (h : s.Inv) {e : HistoryEvent} (hguard : s.Undisturbed e) {t : RecordedCall}
    (hstep : s.step e = some t) : t.Inv := by
  cases e with
  | answer deviceId now =>
    simp only [RecordedCall.step] at hstep
    split at hstep
    · next hfree =>
      cases hstep
      exact h.answer hfree.1 (by simpa using hfree.2) now _
    · cases hstep
      exact h
  | patched ok =>
    simp only [RecordedCall.step] at hstep
    split at hstep
    · next deviceId hanswering =>
      have hne : s.answering ≠ none := by rw [hanswering]; exact Option.some_ne_none _
      cases hstep
      split
      · exact h.patched hne _
      · next hfails => exact h.resetAnswer hne (hguard (by simpa using hfails))
    · cases hstep
  | replied ok =>
    simp only [RecordedCall.step] at hstep
    split at hstep
    · next deviceId hanswering =>
      have hne : s.answering ≠ none := by rw [hanswering]; exact Option.some_ne_none _
      cases hstep
      split
      · exact h.succeed hne deviceId
      · next hfails => exact h.resetAnswer hne (hguard (by simpa using hfails))
    · cases hstep
  | endCall trigger now =>
    simp only [RecordedCall.step] at hstep
    split at hstep
    · next htracked =>
      cases hstep
      exact h.endCall htracked (hguard htracked)
    · cases hstep
      exact h
  | reported seconds =>
    simp only [RecordedCall.step] at hstep
    split at hstep
    · cases hstep
    · next huntracked =>
      cases hstep
      exact h.reported (by simpa using huntracked) seconds
  | write i ok =>
    obtain ⟨rfl, hfound⟩ := hguard
    simp only [RecordedCall.step] at hstep
    split at hstep
    · cases hstep
    · next w hw =>
      cases hstep
      obtain ⟨hi, hget⟩ := List.getElem?_eq_some_iff.mp hw
      have hperm := List.getElem_cons_eraseIdx_perm hi
      rw [hget] at hperm
      exact h.write (hfound w hw).1 (fun w' => by rw [← hperm.mem_iff, List.mem_cons]) (hfound w hw).2

/-- When all is settled, what is to be written is written. -/
theorem Inv.tells (h : s.Inv) (hsettled : s.Settled) : s.Tells := by
  obtain ⟨huntracked, hanswering, hwrites⟩ := hsettled
  have hnone : ∀ w, w ∉ s.writes := fun w hw => by
    rw [hwrites] at hw
    cases hw
  obtain ⟨row, hrow⟩ := Option.ne_none_iff_exists'.mp fun hrow => hnone _ (h.recorded hrow)
  refine ⟨row, hrow, ?_⟩
  cases hsucceeded : s.succeeded with
  | none =>
    have hunanswered : s.answered = false := by
      rw [← Bool.not_eq_true]
      exact fun htrue => h.answered htrue hanswering hsucceeded
    refine ⟨?_, ?_⟩
    · obtain hmem | ⟨row', hrow', htype⟩ := (h.ended huntracked hunanswered).1
      · exact absurd hmem (hnone _)
      · rw [hrow] at hrow'
        cases hrow'
        exact htype
    · by_contra hdevice
      obtain ⟨deviceId, hdevice⟩ := Option.ne_none_iff_exists'.mp hdevice
      have hsome := h.device row deviceId hrow hdevice
      rw [hsucceeded] at hsome
      cases hsome
  | some deviceId =>
    have hanswered := h.succeeded (by rw [hsucceeded]; exact Option.some_ne_none _)
    refine ⟨(h.incoming (.inr hanswered)).1 row hrow, ?_, ?_⟩
    · obtain hmem | ⟨row', hrow', hdevice⟩ := h.marked deviceId hsucceeded
      · exact absurd hmem (hnone _)
      · rw [hrow] at hrow'
        cases hrow'
        exact hdevice
    · obtain ⟨seconds, hmem⟩ | ⟨row', hrow', htimed⟩ := h.timed huntracked hanswered
      · exact absurd hmem (hnone _)
      · rw [hrow] at hrow'
        cases hrow'
        exact htimed

/-- **The record tells what happened** when a call has ended and all is settled, in every run in which no
statement fails or comes too early, and no answer fails after the end. -/
theorem history_tells (usesWebSocketAudio : Bool) {es : List HistoryEvent}
    (hundisturbed : Guarded step Undisturbed (start usesWebSocketAudio) es)
    (hrun : exec step (start usesWebSocketAudio) es = some s) (hsettled : s.Settled) : s.Tells := by
  have hinv := hundisturbed.invariant (fun _ _ _ h hguard hstep => h.step hguard hstep)
    (inv_start usesWebSocketAudio) hrun
  exact hinv.tells hsettled

/-- One device fails to answer, another one declines. -/
theorem history_tells_declined : ∃ s, exec step (start true)
    [.answer "phone" 0, .write 0 true, .patched true, .replied false, .endCall (some "declined") 3000,
      .reported none, .write 0 true, .write 0 true] = some s ∧ s.Settled ∧ s.Tells := by
  have hundisturbed : Guarded step Undisturbed (start true)
      [.answer "phone" 0, .write 0 true, .patched true, .replied false, .endCall (some "declined") 3000,
        .reported none, .write 0 true, .write 0 true] := by
    decide +kernel
  exact ⟨_, rfl, ⟨rfl, rfl, rfl⟩, history_tells true hundisturbed rfl ⟨rfl, rfl, rfl⟩⟩

/-- The caller hangs up while the provider is asked, which then fails; and a report that comes after the end
takes an answered call for missed, whose device is written after it. -/
theorem history_silent :
    (∃ s, exec step (start false)
        [.write 0 true, .answer "phone" 0, .endCall none 5000, .replied false, .write 0 true] = some s ∧
      s.Settled ∧ ¬ s.Tells) ∧
    ∃ s, exec step (start false)
        [.write 0 true, .answer "phone" 0, .replied true, .endCall none 5000, .reported none, .write 2 true,
          .write 0 true, .write 0 true] = some s ∧
      s.Settled ∧ ¬ s.Tells := by
  refine ⟨⟨_, rfl, ⟨rfl, rfl, rfl⟩, ?_⟩, ⟨_, rfl, ⟨rfl, rfl, rfl⟩, ?_⟩⟩
  · rintro ⟨row, hrow, htype, -⟩
    cases hrow
    cases htype
  · rintro ⟨row, hrow, htype, -⟩
    cases hrow
    cases htype

end RecordedCall

end Svarla.Calls
