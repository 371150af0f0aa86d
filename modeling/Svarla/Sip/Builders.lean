import Mathlib
import Svarla.Sip.Stream

/-!
# Messages that are built and parsed

What `BuildRequest` and `BuildResponse` write is read by `ParseMessage` over a buffered reader, which
reads ahead: when the headers have been read, some of the body is in the buffer. The body is taken from
one `Read`, which returns what is in the buffer, if there is anything. So a message comes back as it was
built when nothing of its body has been read ahead, or all of it, and otherwise it loses the end of its
body (`round_trip_iff`).
-/

namespace Svarla.Sip.Builders

open Svarla.Sip.Stream

/-! ## Builders -/

/-- The headers of a `Message` that its responses repeat. -/
structure Request where
  via : List Bytes
  sender : Bytes
  recipient : Bytes
  callID : Bytes
  cseq : Bytes
  deriving DecidableEq, Repr

/-- `%d`. -/
def formatInt (n : Int) : Bytes := if n < 0 then 45 :: decimal n.natAbs else decimal n.natAbs

/-- What stands in front of the body of either message. -/
def lines (startLine : Bytes) (headers : Headers) (body : Bytes) : Bytes :=
  startLine ++ [13, 10] ++ headers.flatMap SipMessage.headerLine ++
    SipMessage.headerLine (ascii "Content-Length", decimal body.length) ++ [13, 10]

/-- `BuildRequest`; the headers are those of the map in the order of its iteration. -/
def buildRequest (method requestURI : Bytes) (headers : Headers) (body : Bytes) : Bytes :=
  lines (method ++ 32 :: requestURI ++ 32 :: ascii "SIP/2.0") headers body ++ body

/-- The `To` of a response, with a tag for the dialog. -/
def taggedRecipient (req : Request) (statusCode : Int) (tag : Bytes) : Bytes :=
  if 200 ≤ statusCode ∧ ¬ ascii "tag=" <:+: req.recipient then
    req.recipient ++ ascii ";tag=mb-" ++ tag
  else req.recipient

/-- The headers of `BuildResponse` before the `Content-Length`. -/
def responseHeaders (req : Request) (statusCode : Int) (body : Bytes) (extraHeaders : Headers)
    (tag : Bytes) : Headers :=
  req.via.map (ascii "Via", ·) ++
    [(ascii "From", req.sender), (ascii "To", taggedRecipient req statusCode tag),
      (ascii "Call-ID", req.callID), (ascii "CSeq", req.cseq)] ++
    extraHeaders ++
    if body = [] then []
    else [(ascii "Content-Type",
      (extraHeaders.lookup (ascii "Content-Type")).getD (ascii "application/sdp"))]

/-- `BuildResponse`; the tag is the one that is generated. -/
def buildResponse (req : Request) (statusCode : Int) (reasonPhrase body : Bytes) (extraHeaders : Headers)
    (tag : Bytes) : Bytes :=
  lines (ascii "SIP/2.0" ++ 32 :: formatInt statusCode ++ 32 :: reasonPhrase)
    (responseHeaders req statusCode body extraHeaders tag) body ++ body

/-! ## What is built -/

/-- A call of one of the builders. -/
inductive Built
  | request (method requestURI : Bytes) (headers : Headers) (body : Bytes)
  | response (req : Request) (statusCode : Int) (reasonPhrase body : Bytes) (extraHeaders : Headers)
      (tag : Bytes)
  deriving DecidableEq, Repr

namespace Built

def bytes : Built → Bytes
  | request method requestURI headers body => buildRequest method requestURI headers body
  | response req statusCode reasonPhrase body extraHeaders tag =>
    buildResponse req statusCode reasonPhrase body extraHeaders tag

def startLine : Built → Bytes
  | request method requestURI _ _ => method ++ 32 :: requestURI ++ 32 :: ascii "SIP/2.0"
  | response _ statusCode reasonPhrase _ _ _ =>
    ascii "SIP/2.0" ++ 32 :: formatInt statusCode ++ 32 :: reasonPhrase

def start : Built → StartLine
  | request method requestURI _ _ => .request method requestURI
  | response _ statusCode reasonPhrase _ _ _ => .response statusCode reasonPhrase

def headers : Built → Headers
  | request _ _ headers _ => headers
  | response req statusCode _ body extraHeaders tag =>
    responseHeaders req statusCode body extraHeaders tag

def body : Built → Bytes
  | request _ _ _ body => body
  | response _ _ _ body _ _ => body

/-- With the length of the body. -/
def allHeaders (b : Built) : Headers :=
  b.headers ++ [(ascii "Content-Length", decimal b.body.length)]

/-- The message that was built. -/
def message (b : Built) : Message :=
  ⟨b.start, b.allHeaders.map fun h => (canonicalKey true h.1, h.2), b.body⟩

/-- The start line has its parts, and the headers are headers; the length is written by the builder. -/
structure WellFormed (b : Built) : Prop where
  start : match b with
    | request method requestURI _ _ => ¬ ascii "SIP/" <+: method ∧ 32 ∉ method ++ requestURI ∧
      ∀ c ∈ method ++ requestURI, c ≠ 10 ∧ c ≠ 13
    | response _ statusCode reasonPhrase _ _ _ =>
      (-2 ^ 63 ≤ statusCode ∧ statusCode < 2 ^ 63) ∧ ∀ c ∈ reasonPhrase, c ≠ 10 ∧ c ≠ 13
  headers : ∀ h ∈ b.headers, WellFormedHeader h ∧ h.1.map toLower ≠ ascii "content-length"
  length : b.body.length < 2 ^ 63

end Built

/-! ## Reading ahead -/

/-- The bytes that are in the buffer behind a line that did not end in it, when it is full otherwise.
The `CR` of a line that ends just behind the buffer stays in it. -/
def refilled (line : Nat) : Nat :=
  if line ≤ bufSize then bufSize - line
  else if line = bufSize + 1 then bufSize - 2
  else refilled (line - bufSize)
termination_by line
decreasing_by
  simp only [bufSize] at *
  omega

/-- What has been read ahead of a line is behind it less its bytes, unless it did not end there. -/
def afterLine (ahead line : Nat) : Nat := if line ≤ ahead then ahead - line else refilled line

/-- What has been read ahead of the body, where a line is this long with its end. -/
def readAhead (lines : List Nat) : Nat := lines.foldl afterLine 0

/-- The lengths of the lines of a message before its body. -/
def lineLengths (startLine : Bytes) (headers : Headers) : List Nat :=
  (startLine.length + 2) :: headers.map (fun h => (SipMessage.headerLine h).length) ++ [2]

/-- What has been read ahead of the body of a message. -/
def Built.readAhead (b : Built) : Nat := Builders.readAhead (lineLengths b.startLine b.allHeaders)

/-- A reader that has read so far ahead in a stream, if it does not end before. -/
structure Ahead (r : Reader) (ahead : Nat) (stream : Bytes) : Prop where
  append : r.buffered ++ r.rest = stream
  buffered : r.buffered.length = min ahead stream.length
  ahead_le : ahead ≤ bufSize

/-! ## Lines -/

@[simp] theorem afterLine_bufSize (line : Nat) : afterLine bufSize line = refilled line := by
  unfold afterLine
  split
  · next h => rw [refilled, if_pos h]
  · rfl

theorem refilled_le (line : Nat) : refilled line ≤ bufSize := by
  induction line using refilled.induct with
  | case1 line h =>
    rw [refilled, if_pos h]
    exact Nat.sub_le ..
  | case2 h =>
    rw [refilled, if_neg h, if_pos rfl]
    exact Nat.sub_le ..
  | case3 line h h' ih => rwa [refilled, if_neg h, if_neg h']

theorem refilled_add {line : Nat} (h : 1 < line) : refilled (line + bufSize) = refilled line := by
  rw [refilled, if_neg (by omega), if_neg (by omega), Nat.add_sub_cancel]

theorem afterLine_le {ahead : Nat} (h : ahead ≤ bufSize) (line : Nat) :
    afterLine ahead line ≤ bufSize := by
  unfold afterLine
  split
  · omega
  · exact refilled_le line

namespace Ahead

variable {r : Reader} {ahead : Nat} {stream : Bytes}

theorem fill (h : Ahead r ahead stream) : Ahead r.fill bufSize stream := by
  have hlength := congrArg List.length h.append
  have hbuffered := h.buffered
  have hle := h.ahead_le
  refine ⟨?_, ?_, Nat.le_refl _⟩
  · rw [Reader.fill, List.append_assoc, List.take_append_drop, h.append]
  · simp only [Reader.fill, List.length_append, List.length_take] at *
    omega

theorem size (h : Ahead r ahead stream) : r.size = stream.length := by
  rw [← h.append, List.length_append, Reader.size]

end Ahead

/-- Where the buffer ends, of a stream whose first line is this one. -/
theorem buffered_cases {buffered rest line more : Bytes} (hline : ∀ c ∈ line, c ≠ 10 ∧ c ≠ 13)
    (h : buffered ++ rest = line ++ 13 :: 10 :: more) :
    (∃ behind, buffered = line ++ 13 :: 10 :: behind ∧ behind ++ rest = more) ∨
      10 ∉ buffered ∧ (buffered = line ++ [13] ∧ rest = 10 :: more ∨
        ∃ line', line = buffered ++ line' ∧ rest = line' ++ 13 :: 10 :: more) := by
  have h10 : 10 ∉ line := fun h => (hline 10 h).1 rfl
  rcases List.append_eq_append_iff.mp h with ⟨line', rfl, hrest⟩ | ⟨behind, rfl, hbehind⟩
  · exact .inr ⟨fun h => h10 (List.mem_append_left _ h), .inr ⟨line', rfl, hrest⟩⟩
  · match behind with
    | [] => exact .inr ⟨by simpa using h10, .inr ⟨[], by simp, hbehind.symm⟩⟩
    | [c] =>
      obtain ⟨rfl, hrest⟩ := List.cons.inj hbehind
      exact .inr ⟨by simp [h10], .inl ⟨rfl, hrest.symm⟩⟩
    | c :: d :: behind =>
      simp only [List.cons_append, List.cons.injEq] at hbehind
      obtain ⟨rfl, rfl, hmore⟩ := hbehind
      exact .inl ⟨behind, rfl, hmore.symm⟩

/-- **One line**, wherever the buffer ends. -/
theorem readLine_ahead (parts : Bytes) {r : Reader} {ahead : Nat} {line more : Bytes}
    (h : Ahead r ahead (line ++ 13 :: 10 :: more)) (hline : ∀ c ∈ line, c ≠ 10 ∧ c ≠ 13) :
    ∃ r', readLine parts r = some (parts ++ line, r') ∧
      Ahead r' (afterLine ahead (line.length + 2)) more := by
  induction parts, r using readLine.induct generalizing ahead line with
  | case1 parts r hmem =>
    obtain ⟨behind, hbuffered, hmore⟩ | ⟨hnot, -⟩ := buffered_cases hline h.append
    · refine ⟨⟨behind, r.rest⟩, ?_, hmore, ?_, afterLine_le h.ahead_le _⟩
      · rw [← readLine_crlf (fun h => (hline 10 h).1 rfl) parts behind r.rest, ← hbuffered]
      · have hlength := h.buffered
        have hmoreLength := congrArg List.length hmore
        rw [hbuffered] at hlength
        simp only [List.length_append, List.length_cons] at hlength hmoreLength
        rw [afterLine, if_pos (by omega)]
        dsimp only
        omega
    · exact absurd hmem hnot
  | case2 parts r hmem hfull hlast ih =>
    have hlength := h.buffered
    have hle := h.ahead_le
    rw [readLine, if_neg hmem, if_pos hfull, if_pos hlast]
    obtain ⟨behind, hbuffered, -⟩ | ⟨-, ⟨hbuffered, hrest⟩ | ⟨line', rfl, -⟩⟩ :=
      buffered_cases hline h.append
    · exact absurd (by simp [hbuffered]) hmem
    · -- the line ends behind the buffer
      have hline4095 : ahead = bufSize ∧ line.length + 2 = bufSize + 1 := by
        rw [hbuffered] at hlength hfull
        simp only [List.length_append, List.length_cons, List.length_nil] at hlength hfull
        omega
      rw [hbuffered, List.dropLast_concat] at ih ⊢
      obtain ⟨r', hread, hr'⟩ := @ih 1 [] ⟨by rw [hrest]; rfl, by simp, by decide⟩ (by intros; contradiction)
      refine ⟨r', by rw [hread, List.append_nil], ?_⟩
      have hafter : afterLine ahead (line.length + 2) = afterLine 1 2 := by
        rw [hline4095.1, hline4095.2, afterLine_bufSize]
        simp [afterLine, refilled, bufSize]
      rwa [hafter]
    · exact absurd rfl (hline 13 (List.mem_append_left _ (List.mem_of_getLast? hlast))).2
  | case3 parts r hmem hfull hlast ih =>
    have hlength := h.buffered
    have hle := h.ahead_le
    rw [readLine, if_neg hmem, if_pos hfull, if_neg hlast]
    obtain ⟨behind, hbuffered, -⟩ | ⟨-, ⟨hbuffered, -⟩ | ⟨line', hline', hrest⟩⟩ :=
      buffered_cases hline h.append
    · exact absurd (by simp [hbuffered]) hmem
    · exact absurd (by simp [hbuffered]) hlast
    · obtain ⟨r', hread, hr'⟩ := @ih 0 line' ⟨hrest, by simp, Nat.zero_le _⟩ fun c hc =>
        hline c (by rw [hline']; exact List.mem_append_right _ hc)
      refine ⟨r', by rw [hread, hline', List.append_assoc], ?_⟩
      have hbuffered : ahead = bufSize ∧ line.length + 2 = line'.length + 2 + bufSize := by
        have := congrArg List.length hline'
        rw [List.length_append] at this
        omega
      have hafter : afterLine ahead (line.length + 2) = afterLine 0 (line'.length + 2) := by
        rw [hbuffered.1, hbuffered.2, afterLine_bufSize, refilled_add (by omega), afterLine,
          if_neg (by omega)]
      rwa [hafter]
  | case4 parts r hmem hfull hrest hbuffered =>
    have hempty := h.append
    rw [hrest, hbuffered] at hempty
    exact absurd hempty.symm (by simp)
  | case5 parts r hmem hfull hrest hbuffered =>
    have hall := h.append
    rw [hrest, List.append_nil] at hall
    exact absurd (by simp [hall]) hmem
  | case6 parts r hmem hfull hrest ih =>
    rw [readLine, if_neg hmem, if_neg hfull, if_neg hrest]
    obtain ⟨r', hread, hr'⟩ := ih h.fill hline
    refine ⟨r', hread, ?_⟩
    -- the line does not end in the buffer
    have hlength : ahead < line.length + 2 := by
      have hlength := h.buffered
      obtain ⟨behind, hbuffered, -⟩ | ⟨-, ⟨hbuffered, -⟩ | ⟨line', hline', -⟩⟩ :=
        buffered_cases hline h.append
      · exact absurd (by simp [hbuffered]) hmem
      · rw [hbuffered] at hlength
        simp only [List.length_append, List.length_cons, List.length_nil] at hlength
        omega
      · have hprefix := congrArg List.length hline'
        simp only [List.length_append, List.length_cons] at hlength hprefix
        omega
    rw [afterLine_bufSize] at hr'
    rwa [afterLine, if_neg (by omega)]

/-! ## Header lines -/

/-- An empty buffer that is filled before the next line makes no difference to it. -/
def SameAhead (ahead ahead' : Nat) : Prop := ahead' = ahead ∨ ahead = 0 ∧ ahead' = bufSize

theorem SameAhead.afterLine {ahead ahead' : Nat} (h : SameAhead ahead ahead') {line : Nat}
    (hline : 0 < line) : afterLine ahead' line = afterLine ahead line := by
  rcases h with rfl | ⟨rfl, rfl⟩
  · rfl
  · rw [afterLine_bufSize, Builders.afterLine, if_neg (by omega)]

/-- A fill of an empty buffer. -/
theorem Ahead.fill_if {r : Reader} {ahead : Nat} {stream : Bytes} (h : Ahead r ahead stream)
    (hstream : stream ≠ []) : ∃ ahead', SameAhead ahead ahead' ∧
      Ahead (if r.buffered = [] then r.fill else r) ahead' stream := by
  split
  · next hempty =>
    have hzero : ahead = 0 := by
      have hlength := h.buffered
      have hpos := List.length_pos_iff.mpr hstream
      rw [hempty, List.length_nil] at hlength
      omega
    exact ⟨bufSize, .inr ⟨hzero, rfl⟩, h.fill⟩
  · exact ⟨ahead, .inl rfl, h⟩

/-- A buffer begins with what the stream begins with. -/
theorem Ahead.head {r : Reader} {ahead : Nat} {c d : UInt8} {more buffered : Bytes}
    (h : Ahead r ahead (c :: more)) (hr : r.buffered = d :: buffered) : d = c := by
  have happend := h.append
  rw [hr] at happend
  exact (List.cons.inj happend).1

/-- No byte of a name or a value ends a line. -/
theorem clean_of_valid (c : UInt8) :
    (validHeaderFieldByte c = true → c ≠ 10 ∧ c ≠ 13) ∧
      (validHeaderValueByte c = true → c ≠ 10 ∧ c ≠ 13) := by
  obtain ⟨⟨c⟩⟩ := c
  revert c
  decide +kernel

theorem headerLine_pos (h : Bytes × Bytes) : 0 < (SipMessage.headerLine h).length :=
  List.length_pos_iff.mpr (List.append_ne_nil_of_right_ne_nil _ (List.cons_ne_nil _ _))

theorem skipSpace_ahead {r : Reader} {ahead : Nat} {c : UInt8} {more : Bytes}
    (h : Ahead r ahead (c :: more)) (hc : isBlank c = false) (n : Nat) :
    ∃ ahead', SameAhead ahead ahead' ∧ Ahead (skipSpace n r) ahead' (c :: more) := by
  match n with
  | 0 => exact ⟨ahead, .inl rfl, h⟩
  | n + 1 =>
    obtain ⟨ahead', hsame, hfill⟩ := h.fill_if (List.cons_ne_nil _ _)
    refine ⟨ahead', hsame, ?_⟩
    rw [skipSpace]
    split
    · next d buffered hd => rwa [hfill.head hd, hc, if_neg Bool.false_ne_true]
    · exact hfill

/-- A line is not continued where the next one does not begin with a blank. -/
theorem continuation_ahead {r : Reader} {ahead : Nat} {c : UInt8} {more : Bytes}
    (h : Ahead r ahead (c :: more)) (hc : isBlank c = false) (line : Bytes) :
    continuation r.size line r = (line, skipSpace r.size r) := by
  obtain ⟨ahead', -, hskip⟩ := skipSpace_ahead h hc r.size
  obtain ⟨n, hn⟩ : ∃ n, r.size = n + 1 := ⟨more.length, h.size⟩
  have hcontinuation : ∀ n, continuation (n + 1) line r = (line, skipSpace r.size r) := fun n => by
    rw [continuation, if_neg]
    rw [hskip.size, h.size]
    exact Nat.lt_irrefl _
  rw [← hcontinuation n, ← hn]

/-- **One header line**, wherever the buffer ends. -/
theorem readContinuedLine_ahead {r : Reader} {ahead : Nat} {h : Bytes × Bytes} (hh : WellFormedHeader h)
    {c : UInt8} (hc : isBlank c = false) {more : Bytes}
    (hr : Ahead r ahead (SipMessage.headerLine h ++ c :: more)) :
    ∃ r' ahead', readContinuedLine r = some (trim (h.1 ++ 58 :: 32 :: h.2), r') ∧
      SameAhead (afterLine ahead (SipMessage.headerLine h).length) ahead' ∧
      Ahead r' ahead' (c :: more) := by
  have hclean : ∀ d ∈ h.1 ++ 58 :: 32 :: h.2, d ≠ 10 ∧ d ≠ 13 := by
    simp only [List.forall_mem_append, List.forall_mem_cons]
    exact ⟨fun d hd => (clean_of_valid d).1 (hh.name d hd), by decide, by decide,
      fun d hd => (clean_of_valid d).2 (hh.value d hd)⟩
  have hline : SipMessage.headerLine h ++ c :: more =
      (h.1 ++ 58 :: 32 :: h.2) ++ 13 :: 10 :: (c :: more) := by
    simp [SipMessage.headerLine]
  have hlength : (SipMessage.headerLine h).length = (h.1 ++ 58 :: 32 :: h.2).length + 2 := by
    simp only [SipMessage.headerLine, List.length_append, List.length_cons, List.length_nil]
  rw [hline] at hr
  obtain ⟨r', hread, hr'⟩ := readLine_ahead [] hr hclean
  obtain ⟨ahead', hsame, hskip⟩ := skipSpace_ahead hr' hc r'.size
  refine ⟨skipSpace r'.size r', ahead', ?_, by rwa [hlength], hskip⟩
  rw [readContinuedLine, hread]
  dsimp only
  rw [List.nil_append, if_neg (by simp), if_pos (by simp), continuation_ahead hr' hc]

/-- **All header lines**, up to the empty one. -/
theorem readHeaders_ahead {lines : Headers} (hlines : ∀ h ∈ lines, WellFormedHeader h) {body : Bytes}
    {r : Reader} {ahead ahead' : Nat} (hsame : SameAhead ahead ahead') (headers : Headers) {n : Nat}
    (hn : lines.length < n)
    (hr : Ahead r ahead' (lines.flatMap SipMessage.headerLine ++ 13 :: 10 :: body)) :
    ∃ r', readHeaders n headers r =
        some (headers ++ lines.map fun h => (canonicalKey true h.1, h.2), r') ∧
      Ahead r' ((lines.map (fun h => (SipMessage.headerLine h).length) ++ [2]).foldl afterLine ahead)
        body := by
  induction lines generalizing n headers r ahead ahead' with
  | nil =>
    cases n with
    | zero => exact absurd hn (Nat.not_lt_zero _)
    | succ n =>
      have hr : Ahead r ahead' ([] ++ 13 :: 10 :: body) := hr
      obtain ⟨r', hread, hr'⟩ := readLine_ahead [] hr (by intros; contradiction)
      refine ⟨r', ?_, ?_⟩
      · rw [readHeaders, readContinuedLine, hread]
        simp
      · rwa [List.length_nil, Nat.zero_add, hsame.afterLine (by decide)] at hr'
  | cons h lines ih =>
    cases n with
    | zero => exact absurd hn (Nat.not_lt_zero _)
    | succ n =>
      obtain ⟨hh, hlines⟩ := List.forall_mem_cons.mp hlines
      obtain ⟨c, more, hmore, hc⟩ := head_lines hlines body
      rw [List.flatMap_cons, List.append_assoc, hmore] at hr
      obtain ⟨r', ahead'', hread, hsame', hr'⟩ := readContinuedLine_ahead hh hc hr
      rw [hsame.afterLine (headerLine_pos h)] at hsame'
      rw [← hmore] at hr'
      obtain ⟨r'', hread', hr''⟩ := ih hlines hsame' (headers ++ [(canonicalKey true h.1, h.2)])
        (by simpa using hn) hr'
      refine ⟨r'', ?_, hr''⟩
      rw [readHeaders_header hh hread, hread']
      simp

theorem readMIMEHeader_ahead {lines : Headers} (hlines : ∀ h ∈ lines, WellFormedHeader h) {body : Bytes}
    {r : Reader} {ahead : Nat}
    (hr : Ahead r ahead (lines.flatMap SipMessage.headerLine ++ 13 :: 10 :: body)) :
    ∃ r', readMIMEHeader r = some (lines.map fun h => (canonicalKey true h.1, h.2), r') ∧
      Ahead r' ((lines.map (fun h => (SipMessage.headerLine h).length) ++ [2]).foldl afterLine ahead)
        body := by
  obtain ⟨c, more, hmore, hc⟩ := head_lines hlines body
  obtain ⟨ahead', hsame, hfill⟩ := hr.fill_if (by rw [hmore]; exact List.cons_ne_nil _ _)
  have hsize : lines.length < (if r.buffered = [] then r.fill else r).size + 1 := by
    have hle := length_le_flatMap lines
    rw [hfill.size, List.length_append]
    omega
  obtain ⟨r', hread, hr'⟩ := readHeaders_ahead hlines hsame [] hsize hfill
  refine ⟨r', ?_, hr'⟩
  rw [readMIMEHeader, if_neg, hread, List.nil_append]
  -- the first line begins with a name, or is the empty one
  rw [hmore] at hfill
  intro hblank
  obtain ⟨d, hd, hd'⟩ := (Option.any_eq_true _ _).mp hblank
  obtain ⟨buffered, hbuffered⟩ := List.head?_eq_some_iff.mp hd
  rw [hfill.head hbuffered, hc] at hd'
  cases hd'

/-- The one `Read` of the body returns what has been read ahead of it, if there is anything. -/
theorem readBody_ahead {r : Reader} {ahead : Nat} {body : Bytes} (hr : Ahead r ahead body) :
    readBody r body.length = if ahead = 0 then body else body.take ahead := by
  have happend := hr.append
  have hlength := hr.buffered
  unfold readBody
  by_cases hbuffered : r.buffered = []
  · rw [hbuffered, List.nil_append] at happend
    rw [hbuffered, List.length_nil] at hlength
    have hall : (if bufSize ≤ body.length then r.rest.take body.length
        else r.fill.buffered.take body.length) = body := by
      simp only [Reader.fill, hbuffered, happend, List.nil_append, List.length_nil, Nat.sub_zero,
        List.take_length, ite_eq_left_iff]
      intro hshort
      rw [List.take_of_length_le (i := bufSize) (by omega), List.take_length]
    rw [if_pos hbuffered, hall]
    split
    · rfl
    · have hnil : body = [] := List.length_eq_zero_iff.mp (by omega)
      rw [hnil, List.take_nil]
  · have hpos := List.length_pos_iff.mpr hbuffered
    have hprefix : r.buffered = body.take ahead := by
      have hleft : (r.buffered ++ r.rest).take (min ahead body.length) = r.buffered :=
        List.take_left' hlength
      rw [← hleft, happend, List.take_eq_take_iff]
      omega
    rw [if_neg hbuffered, if_neg (by omega), hprefix, List.take_take, List.take_eq_take_iff]
    omega

/-! ## Start lines -/

theorem atoi_formatInt {n : Int} (hn : -2 ^ 63 ≤ n ∧ n < 2 ^ 63) : atoi (formatInt n) = some n := by
  unfold formatInt
  split
  · obtain ⟨hne, hdigits, hnumber⟩ := decimal_spec n.natAbs
    rw [atoi, if_pos, hnumber]
    · congr 1
      omega
    · exact ⟨hne, List.all_eq_true.mpr hdigits, by rw [hnumber]; omega⟩
  · rw [atoi_decimal (by omega)]
    congr 1
    omega

/-- A number has no byte that separates parts or ends a line. -/
theorem formatInt_clean (n : Int) : ∀ c ∈ formatInt n, c ≠ 32 ∧ c ≠ 10 ∧ c ≠ 13 := by
  have hdigits : ∀ c ∈ decimal n.natAbs, c ≠ 32 ∧ c ≠ 10 ∧ c ≠ 13 := by
    intro c hc
    have hdigit := (decimal_spec n.natAbs).2.1 c hc
    refine ⟨?_, ?_, ?_⟩ <;> rintro rfl <;> exact absurd hdigit (by decide)
  unfold formatInt
  split
  · exact List.forall_mem_cons.mpr ⟨by decide, hdigits⟩
  · exact hdigits

/-- What begins a line stands before its first space. -/
theorem prefix_of_prefix_append {start word more : Bytes} (hstart : 32 ∉ start)
    (h : start <+: word ++ 32 :: more) : start <+: word := by
  induction start generalizing word with
  | nil => exact List.nil_prefix
  | cons c start ih =>
    obtain ⟨hc, hstart⟩ := List.ne_and_not_mem_of_not_mem_cons hstart
    match word with
    | [] => exact absurd (List.cons_prefix_cons.mp h).1.symm hc
    | d :: word =>
      obtain ⟨rfl, hmore⟩ := List.cons_prefix_cons.mp h
      exact List.cons_prefix_cons.mpr ⟨rfl, ih hstart hmore⟩

namespace Built

variable {b : Built}

theorem parseStartLine_startLine (hb : b.WellFormed) : parseStartLine b.startLine = some b.start := by
  match b, hb.start with
  | request method requestURI headers body, ⟨hsip, hspace, _⟩ =>
    rw [List.mem_append, not_or] at hspace
    obtain ⟨hmethod, hrequestURI⟩ := hspace
    rw [parseStartLine, if_neg, parseRequestLine, startLine, List.append_assoc, List.cons_append,
      List.splitOn_append_cons_self_of_not_mem hmethod,
      List.splitOn_append_cons_self_of_not_mem hrequestURI, List.splitOn_eq_singleton (by decide)]
    · rfl
    · intro h
      rw [startLine, List.append_assoc] at h
      exact hsip (prefix_of_prefix_append (by decide) (List.isPrefixOf_iff_prefix.mp h))
  | response req statusCode reasonPhrase body extraHeaders tag, ⟨hrange, _⟩ =>
    have hstatus : 32 ∉ formatInt statusCode := fun h => (formatInt_clean statusCode 32 h).1 rfl
    rw [parseStartLine, if_pos, parseResponseLine, startLine, List.append_assoc, List.cons_append,
      List.splitOn_append_cons_self_of_not_mem (by decide),
      List.splitOn_append_cons_self_of_not_mem hstatus]
    · dsimp only
      rw [atoi_formatInt hrange, List.intercalate_splitOn]
      rfl
    · rfl

theorem startLine_clean (hb : b.WellFormed) : ∀ c ∈ b.startLine, c ≠ 10 ∧ c ≠ 13 := by
  match b, hb.start with
  | request method requestURI headers body, ⟨_, _, hclean⟩ =>
    obtain ⟨hmethod, hrequestURI⟩ := List.forall_mem_append.mp hclean
    rw [startLine]
    simp only [List.forall_mem_append, List.forall_mem_cons]
    exact ⟨⟨hmethod, by decide, hrequestURI⟩, by decide, by decide +kernel⟩
  | response req statusCode reasonPhrase body extraHeaders tag, ⟨_, hclean⟩ =>
    rw [startLine]
    simp only [List.forall_mem_append, List.forall_mem_cons]
    exact ⟨⟨by decide +kernel, by decide, fun c hc => (formatInt_clean statusCode c hc).2⟩, by decide,
      hclean⟩

theorem bytes_eq (b : Built) : b.bytes =
    b.startLine ++ 13 :: 10 :: (b.allHeaders.flatMap SipMessage.headerLine ++ 13 :: 10 :: b.body) := by
  cases b <;>
    simp [bytes, buildRequest, buildResponse, lines, startLine, allHeaders, headers, body]

/-- A built message as one of the stream. -/
def sipMessage (b : Built) (hb : b.WellFormed) : SipMessage where
  startLine := b.startLine
  start := b.start
  before := b.headers
  after := []
  body := b.body
  parseStartLine_startLine := parseStartLine_startLine hb
  startLine_clean h := (startLine_clean hb 10 h).1 rfl
  headers h hh := hb.headers h (by rwa [List.append_nil] at hh)

/-- **What is parsed of a built message**: all of it but what has not been read ahead of its body. -/
theorem parseMessage_bytes (hb : b.WellFormed) : parseMessage b.bytes =
    some { b.message with body := if b.readAhead = 0 then b.body else b.body.take b.readAhead } := by
  have hlines : ∀ h ∈ b.allHeaders, WellFormedHeader h := (b.sipMessage hb).wellFormed_allHeaders
  have hlength : contentLength (b.allHeaders.map fun h => (canonicalKey true h.1, h.2)) =
      decimal b.body.length := (b.sipMessage hb).contentLength_message
  have hstart : Ahead ⟨[], b.bytes⟩ 0 b.bytes := ⟨rfl, by simp, Nat.zero_le _⟩
  rw [bytes_eq] at hstart ⊢
  obtain ⟨r, hread, hr⟩ := readLine_ahead [] hstart (startLine_clean hb)
  obtain ⟨r', hread', hr'⟩ := readMIMEHeader_ahead hlines hr
  have hahead : ((b.allHeaders.map fun h => (SipMessage.headerLine h).length) ++ [2]).foldl afterLine
      (afterLine 0 (b.startLine.length + 2)) = b.readAhead := rfl
  rw [hahead] at hr'
  rw [parseMessage, hread]
  dsimp only
  rw [List.nil_append, parseStartLine_startLine hb]
  dsimp only
  rw [hread']
  dsimp only
  rw [hlength, trimSpace_decimal, atoi_decimal hb.length]
  dsimp only
  split
  · rw [Int.toNat_natCast, readBody_ahead hr']
    rfl
  · next hpos =>
    have hnil : b.body = [] := List.length_eq_zero_iff.mp (by omega)
    simp [message, hnil]

end Built

/-- Lines that fit into the buffer are read at once. -/
theorem readAhead_of_fits {line : Nat} {lines : List Nat} (hline : 0 < line)
    (h : line + lines.sum ≤ bufSize) :
    readAhead (line :: lines) = bufSize - (line + lines.sum) := by
  have hfold : ∀ (lines : List Nat) (ahead : Nat), lines.sum ≤ ahead →
      lines.foldl afterLine ahead = ahead - lines.sum := by
    intro lines
    induction lines with
    | nil => intro ahead _; rfl
    | cons line lines ih =>
      intro ahead hsum
      rw [List.sum_cons] at hsum ⊢
      rw [List.foldl_cons, afterLine, if_pos (by omega), ih _ (by omega)]
      omega
  rw [readAhead, List.foldl_cons, afterLine, if_neg (by omega), refilled, if_pos (by omega),
    hfold _ _ (by omega)]
  omega

/-- **Headers that fit into the buffer** leave the rest of it for the body. -/
theorem Built.readAhead_of_fits {b : Built} (h : b.bytes.length ≤ bufSize + b.body.length) :
    b.readAhead = bufSize + b.body.length - b.bytes.length := by
  have hbytes : b.bytes.length = b.startLine.length + 2 +
      (b.allHeaders.map (fun h => (SipMessage.headerLine h).length) ++ [2]).sum + b.body.length := by
    rw [bytes_eq]
    simp only [List.length_append, List.length_cons, List.length_flatMap, List.sum_append,
      List.sum_singleton]
    omega
  rw [Built.readAhead, lineLengths, List.cons_append, Builders.readAhead_of_fits (Nat.succ_pos _)]
  · omega
  · omega

/-! ## The round trip -/

/-- **Built messages come back** as they were built exactly if nothing of the body has been read ahead
with the headers, or all of it. -/
theorem round_trip_iff {b : Built} (hb : b.WellFormed) :
    parseMessage b.bytes = some b.message ↔ b.readAhead = 0 ∨ b.body.length ≤ b.readAhead := by
  have hbody : parseMessage b.bytes = some b.message ↔
      (if b.readAhead = 0 then b.body else b.body.take b.readAhead) = b.body := by
    rw [Built.parseMessage_bytes hb, Option.some_inj]
    exact ⟨fun h => congrArg Message.body h, fun h => by rw [h]; rfl⟩
  rw [hbody]
  split
  · next hzero => exact iff_of_true rfl (.inl hzero)
  · next hzero =>
    rw [or_iff_right hzero]
    refine ⟨fun h => ?_, List.take_of_length_le⟩
    have hlength := congrArg List.length h
    rw [List.length_take] at hlength
    omega

/-- The bytes are looked through one by one, and not all bytes that there are. -/
instance (h : Bytes × Bytes) : Decidable (WellFormedHeader h) :=
  decidable_of_iff (h.1 ≠ [] ∧ h.1.all validHeaderFieldByte = true ∧ h.2.all validHeaderValueByte = true ∧
    (h.2.head?.all fun c => !isBlank c) = true ∧ (h.2.getLast?.all fun c => !isBlank c) = true)
    ⟨fun ⟨hne, hname, hvalue, hhead, hlast⟩ =>
      ⟨hne, List.all_eq_true.mp hname, List.all_eq_true.mp hvalue,
        fun c hc => by simpa using (Option.all_eq_true _ _).mp hhead c hc,
        fun c hc => by simpa using (Option.all_eq_true _ _).mp hlast c hc⟩,
      fun h => ⟨h.name_ne_nil, List.all_eq_true.mpr h.name, List.all_eq_true.mpr h.value,
        (Option.all_eq_true _ _).mpr fun c hc => by simpa using h.head c hc,
        (Option.all_eq_true _ _).mpr fun c hc => by simpa using h.last c hc⟩⟩

/-- The answer to an INVITE that came over two hops, with a body. -/
def answer (body : Bytes) : Built :=
  .response ⟨[ascii "SIP/2.0/UDP a;branch=z1", ascii "SIP/2.0/UDP b;branch=z2"], ascii "<sip:a>;tag=1",
    ascii "<sip:b>", ascii "c1", ascii "1 INVITE"⟩ 200 (ascii "OK") body
    [(ascii "Record-Route", ascii "<sip:a;lr>"), (ascii "Contact", ascii "<sip:b@203.0.113.1>")]
    (ascii "5f")

/-- Its headers are the same for every body, up to the length. -/
theorem answer_headers {body : Bytes} (hne : body ≠ []) :
    (answer body).headers = (answer [120]).headers := by
  simp [answer, Built.headers, responseHeaders, hne]

theorem answer_wellFormed {body : Bytes} (hne : body ≠ []) (hbody : body.length < 2 ^ 63) :
    (answer body).WellFormed := by
  have hheaders : ∀ h ∈ (answer [120]).headers,
      WellFormedHeader h ∧ h.1.map toLower ≠ ascii "content-length" := by decide +kernel
  exact ⟨⟨by decide, by decide +kernel⟩, by rwa [answer_headers hne], hbody⟩

/-- A body with line breaks. -/
theorem round_trip_iff_answer :
    parseMessage (answer (ascii "v=0\r\n\r\ns=-\r\n")).bytes =
      some (answer (ascii "v=0\r\n\r\ns=-\r\n")).message :=
  (round_trip_iff (answer_wellFormed (by decide) (by decide))).mpr (by decide +kernel)

/-- **A long body** loses what has not been read ahead. -/
theorem long_truncated : (answer (.replicate 5000 120)).WellFormed ∧
    parseMessage (answer (.replicate 5000 120)).bytes ≠ some (answer (.replicate 5000 120)).message := by
  have hne : List.replicate 5000 (120 : UInt8) ≠ [] :=
    List.ne_nil_of_length_pos (by rw [List.length_replicate]; decide)
  have hlength : (answer (.replicate 5000 120)).body.length = 5000 := List.length_replicate
  have hwell := answer_wellFormed hne (by rw [List.length_replicate]; decide)
  have hahead : (answer (.replicate 5000 120)).readAhead = 3836 := by
    rw [Built.readAhead, Built.allHeaders, answer_headers hne, hlength]
    decide +kernel
  refine ⟨hwell, fun h => ?_⟩
  rw [Built.parseMessage_bytes hwell, hahead, if_neg (by decide)] at h
  have htake := congrArg (fun m => m.map fun m => m.body.length) h
  simp only [Option.map_some, Built.message, List.length_take, hlength] at htake
  cases htake

end Svarla.Sip.Builders
