import Mathlib

/-!
# SIP messages over a stream

The UAS takes what one `Read` of a TCP or TLS connection returns for one message. A stream of messages is
handled as if each had arrived alone when the reads are the messages, and no message is larger than the
buffer that it is parsed from, but not for every way it may be cut, unless there is no message
(`stream_iff`).

Bytes are parsed by the readers of Go's `bufio` and `net/textproto`, of which what matters here is
modelled: a buffer of 4096 bytes that is filled when a line does not end in it, and header lines that
may be continued.
-/

namespace Svarla.Sip.Stream

abbrev Bytes := List UInt8

def ascii (s : String) : Bytes := s.toList.map fun c => UInt8.ofNat c.toNat

/-! ## The reader -/

/-- A `bufio.Reader` of bytes: what is in its buffer, and what it has not read yet. -/
structure Reader where
  buffered : Bytes
  rest : Bytes
  deriving DecidableEq, Repr

def bufSize : Nat := 4096

def Reader.size (r : Reader) : Nat := r.buffered.length + r.rest.length

/-- `fill`. -/
def Reader.fill (r : Reader) : Reader :=
  ⟨r.buffered ++ r.rest.take (bufSize - r.buffered.length), r.rest.drop (bufSize - r.buffered.length)⟩

/-- A line without its end. -/
def dropCR (line : Bytes) : Bytes := if line.getLast? = some 13 then line.dropLast else line

/-- `ReadLine`, with the parts of the line that have been read. -/
def readLine (parts : Bytes) (r : Reader) : Option (Bytes × Reader) :=
  if 10 ∈ r.buffered then
    some (parts ++ dropCR (r.buffered.takeWhile (· ≠ 10)),
      ⟨(r.buffered.dropWhile (· ≠ 10)).drop 1, r.rest⟩)
  else if bufSize ≤ r.buffered.length then
    -- the buffer is full; a CR at its end stays there
    if r.buffered.getLast? = some 13 then readLine (parts ++ r.buffered.dropLast) ⟨[13], r.rest⟩
    else readLine (parts ++ r.buffered) ⟨[], r.rest⟩
  else if r.rest = [] then
    if r.buffered = [] then none else some (parts ++ r.buffered, ⟨[], []⟩)
  else readLine parts r.fill
termination_by r.buffered.length + 2 * r.rest.length
decreasing_by
  · simp only [bufSize] at *
    simp only [List.length_singleton]
    omega
  · simp only [bufSize] at *
    simp only [List.length_nil]
    omega
  · next hfull hrest =>
    have hpos := List.length_pos_iff.mpr hrest
    simp only [Reader.fill, List.length_append, List.length_take, List.length_drop]
    omega

/-- `isSpace` of `net/textproto`. -/
def isBlank (c : UInt8) : Bool := c = 32 ∨ c = 9

/-- `trim`. -/
def trim (line : Bytes) : Bytes := ((line.dropWhile isBlank).reverse.dropWhile isBlank).reverse

/-- `skipSpace`, of at most so many bytes. -/
def skipSpace : Nat → Reader → Reader
  | 0, r => r
  | n + 1, r =>
    let r := if r.buffered = [] then r.fill else r
    match r.buffered with
    | c :: more => if isBlank c then skipSpace n ⟨more, r.rest⟩ else r
    | [] => r

/-- The lines that continue a header, of at most so many. -/
def continuation : Nat → Bytes → Reader → Bytes × Reader
  | 0, line, r => (line, r)
  | n + 1, line, r =>
    let r' := skipSpace r.size r
    if r'.size < r.size then
      match readLine [] r' with
      | none => (line, r')
      | some (more, r'') => continuation n (line ++ 32 :: trim more) r''
    else (line, r')

/-- `readContinuedLineSlice`, of a line with a colon. -/
def readContinuedLine (r : Reader) : Option (Bytes × Reader) :=
  match readLine [] r with
  | none => none
  | some (line, r) =>
    if line = [] then some ([], r)
    else if 58 ∈ line then some (continuation r.size (trim line) r)
    else none

/-! ## Headers -/

def isLetter (c : UInt8) : Bool := (65 ≤ c ∧ c ≤ 90) ∨ (97 ≤ c ∧ c ≤ 122)

/-- `validHeaderFieldByte`: the bytes of a token. -/
def validHeaderFieldByte (c : UInt8) : Bool :=
  isLetter c ∨ (48 ≤ c ∧ c ≤ 57) ∨ c ∈ ascii "!#$%&'*+-.^_|~" ∨ c = 96

/-- `validHeaderValueByte`. -/
def validHeaderValueByte (c : UInt8) : Bool := c = 9 ∨ (32 ≤ c ∧ c ≠ 127)

def toLower (c : UInt8) : UInt8 := if 65 ≤ c ∧ c ≤ 90 then c + 32 else c

def toUpper (c : UInt8) : UInt8 := if 97 ≤ c ∧ c ≤ 122 then c - 32 else c

/-- The letters of a key: large at the beginning and after a hyphen. -/
def canonicalKey : Bool → Bytes → Bytes
  | _, [] => []
  | upper, c :: key => (if upper then toUpper c else toLower c) :: canonicalKey (c = 45) key

/-- `canonicalMIMEHeaderKey`. -/
def canonicalMIMEHeaderKey (key : Bytes) : Option Bytes :=
  if key.all fun c => validHeaderFieldByte c ∨ c = 32 then
    some (if 32 ∈ key then key else canonicalKey true key)
  else none

abbrev Headers := List (Bytes × Bytes)

/-- The lines of `ReadMIMEHeader`, of at most so many. -/
def readHeaders : Nat → Headers → Reader → Option (Headers × Reader)
  | 0, _, _ => none
  | n + 1, headers, r =>
    match readContinuedLine r with
    | none => none
    | some (kv, r) =>
      if kv = [] then some (headers, r)
      else
        match canonicalMIMEHeaderKey (kv.takeWhile (· ≠ 58)) with
        | none => none
        | some key =>
          let value := (kv.dropWhile (· ≠ 58)).drop 1
          if value.all validHeaderValueByte then
            if key = [] then readHeaders n headers r
            else readHeaders n (headers ++ [(key, value.dropWhile isBlank)]) r
          else none

/-- `ReadMIMEHeader`; every line takes a byte. -/
def readMIMEHeader (r : Reader) : Option (Headers × Reader) :=
  let r := if r.buffered = [] then r.fill else r
  if r.buffered.head?.any isBlank then none else readHeaders (r.size + 1) [] r

/-- `GetHeader`, by the name in small letters. -/
def getHeader (headers : Headers) (name : Bytes) : Bytes :=
  ((headers.find? fun h => h.1.map toLower = name).map (·.2)).getD []

/-! ## Messages -/

inductive StartLine
  | request (method requestURI : Bytes)
  | response (statusCode : Int) (reasonPhrase : Bytes)
  deriving DecidableEq, Repr

/-- `Message`, whose other fields are headers. -/
structure Message where
  start : StartLine
  headers : Headers
  body : Bytes
  deriving DecidableEq, Repr

/-- The white space of Unicode, in UTF-8. -/
def spaces : List Bytes :=
  [[9], [10], [11], [12], [13], [32], [0xC2, 0x85], [0xC2, 0xA0], [0xE1, 0x9A, 0x80], [0xE2, 0x80, 0x80],
    [0xE2, 0x80, 0x81], [0xE2, 0x80, 0x82], [0xE2, 0x80, 0x83], [0xE2, 0x80, 0x84], [0xE2, 0x80, 0x85],
    [0xE2, 0x80, 0x86], [0xE2, 0x80, 0x87], [0xE2, 0x80, 0x88], [0xE2, 0x80, 0x89], [0xE2, 0x80, 0x8A],
    [0xE2, 0x80, 0xA8], [0xE2, 0x80, 0xA9], [0xE2, 0x80, 0xAF], [0xE2, 0x81, 0x9F], [0xE3, 0x80, 0x80]]

def trimSpaces (spaces : List Bytes) : Nat → Bytes → Bytes
  | 0, s => s
  | n + 1, s =>
    match spaces.find? (·.isPrefixOf s) with
    | some space => trimSpaces spaces n (s.drop space.length)
    | none => s

/-- `strings.TrimSpace`. -/
def trimSpace (s : Bytes) : Bytes :=
  let s := trimSpaces spaces s.length s
  (trimSpaces (spaces.map List.reverse) s.length s.reverse).reverse

def isDigit (c : UInt8) : Bool := 48 ≤ c ∧ c ≤ 57

/-- The number of some digits. -/
def number (digits : Bytes) : Nat := digits.foldl (fun n c => 10 * n + (c.toNat - 48)) 0

/-- `strconv.Atoi`, of 64 bits. -/
def atoi : Bytes → Option Int
  | 45 :: digits =>
    if digits ≠ [] ∧ digits.all isDigit ∧ number digits ≤ 2 ^ 63 then some (-(number digits)) else none
  | s =>
    let digits := if s.head? = some 43 then s.drop 1 else s
    if digits ≠ [] ∧ digits.all isDigit ∧ number digits < 2 ^ 63 then some (number digits) else none

/-- `parseRequestLine`. -/
def parseRequestLine (line : Bytes) : Option StartLine :=
  match line.splitOn 32 with
  | method :: requestURI :: _ :: _ => some (.request method requestURI)
  | _ => none

/-- `parseResponseLine`. -/
def parseResponseLine (line : Bytes) : Option StartLine :=
  match line.splitOn 32 with
  | _ :: code :: reason =>
    (atoi code).map fun statusCode => .response statusCode ([32].intercalate reason)
  | _ => none

def parseStartLine (line : Bytes) : Option StartLine :=
  if (ascii "SIP/").isPrefixOf line then parseResponseLine line else parseRequestLine line

/-- One `Read` of the reader, into a body of some length. -/
def readBody (r : Reader) (length : Nat) : Bytes :=
  if r.buffered = [] then
    if bufSize ≤ length then r.rest.take length else r.fill.buffered.take length
  else r.buffered.take length

/-- The value of `Content-Length`, if there is one. -/
def contentLength (headers : Headers) : Bytes :=
  let value := getHeader headers (ascii "content-length")
  if value = [] then getHeader headers (ascii "l") else value

/-- `ParseMessage`. -/
def parseMessage (data : Bytes) : Option Message :=
  match readLine [] ⟨[], data⟩ with
  | none => none
  | some (line, r) =>
    match parseStartLine line with
    | none => none
    | some start =>
      match readMIMEHeader r with
      | none => none
      | some (headers, r) =>
        let body :=
          match atoi (trimSpace (contentLength headers)) with
          | some length => if 0 < length then readBody r length.toNat else []
          | none => []
        some ⟨start, headers, body⟩

/-- What is handled of a connection: every `Read` is parsed for one message. -/
def handled (reads : List Bytes) : List Message := reads.filterMap parseMessage

/-! ## Well-formed messages -/

/-- A name and a value that are sent in a line of their own. -/
structure WellFormedHeader (h : Bytes × Bytes) : Prop where
  name_ne_nil : h.1 ≠ []
  name : ∀ c ∈ h.1, validHeaderFieldByte c = true
  value : ∀ c ∈ h.2, validHeaderValueByte c = true
  head : ∀ c ∈ h.2.head?, isBlank c = false
  last : ∀ c ∈ h.2.getLast?, isBlank c = false

/-- A number in decimal digits. -/
def decimal (n : Nat) : Bytes := (Nat.toDigits 10 n).map fun c => UInt8.ofNat c.toNat

/-- A message with its `Content-Length`, which stands somewhere among the other headers. -/
structure SipMessage where
  startLine : Bytes
  start : StartLine
  before : Headers
  after : Headers
  body : Bytes
  parseStartLine_startLine : parseStartLine startLine = some start
  startLine_clean : 10 ∉ startLine
  headers : ∀ h ∈ before ++ after, WellFormedHeader h ∧ h.1.map toLower ≠ ascii "content-length"

namespace SipMessage

def lengthHeader (m : SipMessage) : Bytes × Bytes := (ascii "Content-Length", decimal m.body.length)

def allHeaders (m : SipMessage) : Headers := m.before ++ m.lengthHeader :: m.after

def headerLine (h : Bytes × Bytes) : Bytes := h.1 ++ 58 :: 32 :: h.2 ++ [13, 10]

/-- The octets of a message. -/
def wire (m : SipMessage) : Bytes :=
  m.startLine ++ 13 :: 10 :: (m.allHeaders.flatMap headerLine ++ 13 :: 10 :: m.body)

/-- What the message says. -/
def message (m : SipMessage) : Message :=
  ⟨m.start, m.allHeaders.map fun h => (canonicalKey true h.1, h.2), m.body⟩

end SipMessage

/-- The reads that a stream may come in. -/
structure IsCut (reads : List Bytes) (stream : Bytes) : Prop where
  flatten : reads.flatten = stream
  read : ∀ r ∈ reads, r ≠ [] ∧ r.length ≤ 65535

/-! ## Lines -/

theorem readLine_crlf {line : Bytes} (h10 : 10 ∉ line) (parts more rest : Bytes) :
    readLine parts ⟨line ++ 13 :: 10 :: more, rest⟩ = some (parts ++ line, ⟨more, rest⟩) := by
  have hline : ∀ c ∈ line, (decide (c ≠ 10)) = true := fun c hc => by
    simpa using fun heq : c = 10 => h10 (heq ▸ hc)
  have htake : (line ++ 13 :: 10 :: more).takeWhile (· ≠ 10) = line ++ [13] := by
    rw [List.takeWhile_append_of_pos hline]
    rfl
  have hdrop : (line ++ 13 :: 10 :: more).dropWhile (· ≠ 10) = 10 :: more := by
    rw [List.dropWhile_append_of_pos hline]
    rfl
  rw [readLine, if_pos (by simp)]
  dsimp only
  rw [htake, hdrop]
  simp [dropCR]

/-- What fits into the buffer is read into it at once. -/
theorem readLine_fill {data : Bytes} (hne : data ≠ []) (hfits : data.length ≤ bufSize) (parts : Bytes) :
    readLine parts ⟨[], data⟩ = readLine parts ⟨data, []⟩ := by
  rw [readLine, if_neg (by simp), if_neg (by simp [bufSize]), if_neg (by simpa using hne)]
  simp only [Reader.fill, List.nil_append, List.length_nil, Nat.sub_zero]
  rw [List.take_of_length_le hfits, List.drop_of_length_le hfits]

theorem skipSpace_of_not {c : UInt8} (hc : isBlank c = false) (n : Nat) (more rest : Bytes) :
    skipSpace n ⟨c :: more, rest⟩ = ⟨c :: more, rest⟩ := by
  match n with
  | 0 => rfl
  | n + 1 => simp [skipSpace, hc]

/-- A line is not continued where the next one does not begin with a blank. -/
theorem continuation_of_not {c : UInt8} (hc : isBlank c = false) (n : Nat) (line more rest : Bytes) :
    continuation n line ⟨c :: more, rest⟩ = (line, ⟨c :: more, rest⟩) := by
  match n with
  | 0 => rfl
  | n + 1 =>
    simp only [continuation]
    rw [skipSpace_of_not hc]
    simp

/-! ## Header lines -/

theorem validHeaderFieldByte_spec {c : UInt8} (hc : validHeaderFieldByte c = true) :
    isBlank c = false ∧ c ≠ 58 ∧ c ≠ 32 ∧ c ≠ 10 := by
  obtain ⟨⟨c⟩⟩ := c
  revert c
  decide +kernel

theorem validHeaderValueByte_spec {c : UInt8} (hc : validHeaderValueByte c = true) : c ≠ 10 := by
  obtain ⟨⟨c⟩⟩ := c
  revert c
  decide +kernel

theorem toLower_canonicalKey (upper : Bool) (key : Bytes) :
    (canonicalKey upper key).map toLower = key.map toLower := by
  have hcase : ∀ c : UInt8, toLower (toUpper c) = toLower c ∧ toLower (toLower c) = toLower c := by
    rintro ⟨⟨c⟩⟩
    revert c
    decide +kernel
  induction key generalizing upper with
  | nil => rfl
  | cons c key ih =>
    rw [canonicalKey, List.map_cons, List.map_cons, ih]
    cases upper
    · rw [if_neg Bool.false_ne_true, (hcase c).2]
    · rw [if_pos rfl, (hcase c).1]

/-- The blanks at the ends of a header line are those of an empty value. -/
theorem trim_header {h : Bytes × Bytes} (hh : WellFormedHeader h) :
    ∃ value, trim (h.1 ++ 58 :: 32 :: h.2) = h.1 ++ 58 :: value ∧ value.dropWhile isBlank = h.2 ∧
      value.all validHeaderValueByte = true := by
  obtain ⟨name, value⟩ := h
  have hstart : (name ++ 58 :: 32 :: value).dropWhile isBlank = name ++ 58 :: 32 :: value := by
    match name, hh.name_ne_nil with
    | c :: name, _ =>
      exact List.dropWhile_cons_of_neg (by rw [(validHeaderFieldByte_spec (hh.name c (.head _))).1]; decide)
  unfold trim
  rw [hstart]
  cases hvalue : value.getLast? with
  | none =>
    rw [List.getLast?_eq_none_iff] at hvalue
    subst hvalue
    refine ⟨[], ?_, rfl, rfl⟩
    simp [isBlank]
  | some z =>
    obtain ⟨front, rfl⟩ := List.getLast?_eq_some_iff.mp hvalue
    have hz : isBlank z = false := hh.last z (by simp)
    refine ⟨32 :: (front ++ [z]), ?_, ?_, ?_⟩
    · simp [hz]
    · rw [List.dropWhile_cons_of_pos (by decide)]
      match hfront : front ++ [z] with
      | [] => rfl
      | c :: more =>
        exact List.dropWhile_cons_of_neg (by rw [hh.head c (by simp [hfront])]; decide)
    · rw [List.all_cons, List.all_eq_true.mpr hh.value]
      rfl

/-- **One header line.** -/
theorem readContinuedLine_header {h : Bytes × Bytes} (hh : WellFormedHeader h) {c : UInt8}
    (hc : isBlank c = false) (more rest : Bytes) :
    readContinuedLine ⟨SipMessage.headerLine h ++ c :: more, rest⟩ =
      some (trim (h.1 ++ 58 :: 32 :: h.2), ⟨c :: more, rest⟩) := by
  have h10 : 10 ∉ h.1 ++ 58 :: 32 :: h.2 := by
    simp only [List.mem_append, List.mem_cons, not_or]
    exact ⟨fun hc => (validHeaderFieldByte_spec (hh.name _ hc)).2.2.2 rfl, by decide, by decide,
      fun hc => validHeaderValueByte_spec (hh.value _ hc) rfl⟩
  have hline : SipMessage.headerLine h ++ c :: more =
      (h.1 ++ 58 :: 32 :: h.2) ++ 13 :: 10 :: (c :: more) := by
    simp [SipMessage.headerLine]
  unfold readContinuedLine
  rw [hline, readLine_crlf h10]
  dsimp only
  rw [List.nil_append, if_neg (by simp), if_pos (by simp), continuation_of_not hc]

/-- The next line begins with a name, or is the empty one. -/
theorem head_lines {lines : Headers} (hlines : ∀ h ∈ lines, WellFormedHeader h) (body : Bytes) :
    ∃ c more, lines.flatMap SipMessage.headerLine ++ 13 :: 10 :: body = c :: more ∧
      isBlank c = false := by
  match lines, hlines with
  | [], _ => exact ⟨13, 10 :: body, rfl, by decide⟩
  | h :: lines, hlines =>
    have hh := hlines h (.head _)
    match hname : h.1, hh.name_ne_nil with
    | c :: name, _ =>
      refine ⟨c, _, by rw [List.flatMap_cons, SipMessage.headerLine, hname]; rfl, ?_⟩
      exact (validHeaderFieldByte_spec (hh.name c (by rw [hname]; exact .head _))).1

theorem length_le_flatMap (lines : Headers) :
    lines.length ≤ (lines.flatMap SipMessage.headerLine).length := by
  induction lines with
  | nil => exact Nat.le_refl _
  | cons h lines ih =>
    simp only [List.flatMap_cons, List.length_append, List.length_cons, SipMessage.headerLine]
    omega

/-- What is kept of a header line. -/
theorem readHeaders_header {h : Bytes × Bytes} (hh : WellFormedHeader h) {r r' : Reader}
    (hread : readContinuedLine r = some (trim (h.1 ++ 58 :: 32 :: h.2), r')) (n : Nat) (headers : Headers) :
    readHeaders (n + 1) headers r = readHeaders n (headers ++ [(canonicalKey true h.1, h.2)]) r' := by
  obtain ⟨value, htrim, hvalue, hvalid⟩ := trim_header hh
  have hname : ∀ c ∈ h.1, (decide (c ≠ 58)) = true := fun c hc => by
    simpa using (validHeaderFieldByte_spec (hh.name c hc)).2.1
  have hkey : canonicalMIMEHeaderKey h.1 = some (canonicalKey true h.1) := by
    rw [canonicalMIMEHeaderKey, if_pos, if_neg]
    · exact fun h32 => (validHeaderFieldByte_spec (hh.name _ h32)).2.2.1 rfl
    · simpa using fun c hc => .inl (hh.name c hc)
  have hcanonical : canonicalKey true h.1 ≠ [] := by
    match hname : h.1, hh.name_ne_nil with
    | c :: name, _ => simp [canonicalKey]
  rw [readHeaders, hread, htrim]
  dsimp only
  rw [if_neg (by simp), List.takeWhile_append_of_pos hname, List.dropWhile_append_of_pos hname]
  simp only [List.takeWhile_cons, List.dropWhile_cons, ne_eq, not_true_eq_false, decide_false,
    Bool.false_eq_true, ↓reduceIte, List.append_nil, hkey, List.drop_one, List.tail_cons, hvalid,
    hcanonical, hvalue]

/-- **All header lines**, up to the empty one. -/
theorem readHeaders_lines {lines : Headers} (hlines : ∀ h ∈ lines, WellFormedHeader h) (body rest : Bytes)
    (headers : Headers) {n : Nat} (hn : lines.length < n) :
    readHeaders n headers ⟨lines.flatMap SipMessage.headerLine ++ 13 :: 10 :: body, rest⟩ =
      some (headers ++ lines.map fun h => (canonicalKey true h.1, h.2), ⟨body, rest⟩) := by
  induction lines generalizing n headers with
  | nil =>
    match n with
    | n + 1 =>
      have hblank : readContinuedLine ⟨13 :: 10 :: body, rest⟩ = some ([], ⟨body, rest⟩) := by
        unfold readContinuedLine
        rw [show (13 :: 10 :: body : Bytes) = [] ++ 13 :: 10 :: body from rfl,
          readLine_crlf (by simp)]
        rfl
      rw [List.flatMap_nil, List.nil_append, readHeaders, hblank]
      simp
  | cons h lines ih =>
    match n with
    | n + 1 =>
      obtain ⟨hh, hlines⟩ := List.forall_mem_cons.mp hlines
      obtain ⟨c, more, hmore, hc⟩ := head_lines hlines body
      rw [List.flatMap_cons, List.append_assoc, hmore,
        readHeaders_header hh (readContinuedLine_header hh hc more rest)]
      rw [← hmore, ih hlines _ (by simpa using hn)]
      simp

/-! ## The content length -/

theorem decimal_spec (n : Nat) :
    decimal n ≠ [] ∧ (∀ c ∈ decimal n, isDigit c = true) ∧ number (decimal n) = n := by
  have hdigit : ∀ d < 10, isDigit (UInt8.ofNat d.digitChar.toNat) = true ∧
      (UInt8.ofNat d.digitChar.toNat).toNat - 48 = d := by decide
  unfold decimal
  induction n using Nat.strongRecOn with
  | ind n ih =>
    rw [Nat.toDigits_eq_if (by omega)]
    split
    · next hn =>
      simp only [List.map_cons, List.map_nil, ne_eq, reduceCtorEq, not_false_eq_true,
        List.mem_singleton, forall_eq, true_and, number, List.foldl_cons, List.foldl_nil]
      exact ⟨(hdigit n hn).1, by rw [(hdigit n hn).2]; omega⟩
    · next hn =>
      obtain ⟨-, hdigits, hnumber⟩ := ih (n / 10) (by omega)
      have hlast := hdigit (n % 10) (Nat.mod_lt _ (by omega))
      rw [List.map_append]
      refine ⟨by simp, fun c hc => ?_, ?_⟩
      · rcases List.mem_append.mp hc with hc | hc
        · exact hdigits c hc
        · rw [List.map_singleton, List.mem_singleton] at hc
          rw [hc]
          exact hlast.1
      · rw [number, List.foldl_append, ← number, hnumber]
        simp only [List.map_cons, List.map_nil, List.foldl_cons, List.foldl_nil, hlast.2]
        omega

/-- No digit begins or ends a white space. -/
theorem trimSpaces_of_digit {s : Bytes} (hs : ∀ c ∈ s.head?, isDigit c = true) (n : Nat) :
    trimSpaces spaces n s = s ∧ trimSpaces (spaces.map List.reverse) n s = s := by
  have hnone : ∀ list : List Bytes, (∀ w ∈ list, ∃ c more, w = c :: more ∧ isDigit c = false) →
      trimSpaces list n s = s := by
    intro list hlist
    match n with
    | 0 => rfl
    | n + 1 =>
      have hfind : list.find? (·.isPrefixOf s) = none := by
        refine List.find?_eq_none.mpr fun w hw hprefix => ?_
        obtain ⟨c, more, rfl, hc⟩ := hlist w hw
        obtain ⟨tail, htail⟩ := List.isPrefixOf_iff_prefix.mp hprefix
        have := hs c (by rw [← htail]; rfl)
        rw [hc] at this
        cases this
      rw [trimSpaces, hfind]
  refine ⟨hnone _ ?_, hnone _ ?_⟩
  · simp only [spaces, List.forall_mem_cons]
    simp [isDigit]
  · simp only [spaces, List.map_cons, List.map_nil, List.forall_mem_cons]
    simp [isDigit]

theorem trimSpace_decimal (n : Nat) : trimSpace (decimal n) = decimal n := by
  obtain ⟨-, hdigits, -⟩ := decimal_spec n
  unfold trimSpace
  rw [(trimSpaces_of_digit (fun c hc => hdigits c (List.mem_of_mem_head? hc)) _).1]
  dsimp only
  rw [(trimSpaces_of_digit (fun c hc => hdigits c ?_) _).2, List.reverse_reverse]
  exact List.mem_reverse.mp (List.mem_of_mem_head? hc)

theorem atoi_decimal {n : Nat} (hn : n < 2 ^ 63) : atoi (decimal n) = some (n : Int) := by
  obtain ⟨hne, hdigits, hnumber⟩ := decimal_spec n
  match hd : decimal n, hne with
  | c :: digits, _ =>
    have hc : isDigit c = true := hdigits c (by rw [hd]; exact .head _)
    unfold atoi
    split
    · next heq =>
      cases heq
      exact absurd hc (by decide)
    · have hsign : (c :: digits).head? ≠ some 43 := by
        intro heq
        cases heq
        exact absurd hc (by decide)
      dsimp only
      rw [if_neg hsign, if_pos, ← hd, hnumber]
      rw [← hd, hnumber]
      exact ⟨hne, List.all_eq_true.mpr hdigits, hn⟩

namespace SipMessage

theorem wellFormed_allHeaders (m : SipMessage) : ∀ h ∈ m.allHeaders, WellFormedHeader h := by
  intro h hh
  rcases List.mem_append.mp hh with hbefore | hafter
  · exact (m.headers h (List.mem_append_left _ hbefore)).1
  · rcases List.mem_cons.mp hafter with rfl | hafter
    · obtain ⟨hne, hdigits, -⟩ := decimal_spec m.body.length
      have hdigit : ∀ c, isDigit c = true → validHeaderValueByte c = true ∧ isBlank c = false := by
        intro c hc
        obtain ⟨hlow, hhigh⟩ : 48 ≤ c ∧ c ≤ 57 := of_decide_eq_true hc
        refine ⟨decide_eq_true (.inr ⟨UInt8.le_trans (by decide) hlow, ?_⟩), decide_eq_false ?_⟩
        · rintro rfl
          exact absurd hhigh (by decide)
        · rintro (rfl | rfl)
          · exact absurd hlow (by decide)
          · exact absurd hlow (by decide)
      have hname : ascii "Content-Length" ≠ [] ∧
          ∀ c ∈ ascii "Content-Length", validHeaderFieldByte c = true := by decide +kernel
      refine ⟨hname.1, hname.2, fun c hc => (hdigit c (hdigits c hc)).1, fun c hc => ?_,
        fun c hc => ?_⟩
      · exact (hdigit c (hdigits c (List.mem_of_mem_head? hc))).2
      · exact (hdigit c (hdigits c (List.mem_of_mem_getLast? hc))).2
    · exact (m.headers h (List.mem_append_right _ hafter)).1

/-- The only header with that name. -/
theorem contentLength_message (m : SipMessage) :
    contentLength m.message.headers = decimal m.body.length := by
  have hget : getHeader m.message.headers (ascii "content-length") = decimal m.body.length := by
    have hbefore : (m.before.map fun h => (canonicalKey true h.1, h.2)).find?
        (fun h => h.1.map toLower = ascii "content-length") = none := by
      refine List.find?_eq_none.mpr fun h' hh' => ?_
      obtain ⟨h, hh, rfl⟩ := List.mem_map.mp hh'
      rw [toLower_canonicalKey]
      simpa using (m.headers h (List.mem_append_left _ hh)).2
    have hname : (ascii "Content-Length").map toLower = ascii "content-length" := by decide
    rw [getHeader, message, allHeaders, List.map_append, List.find?_append, hbefore, Option.none_or,
      List.map_cons, List.find?_cons_of_pos (by
        rw [toLower_canonicalKey]
        exact decide_eq_true hname)]
    rfl
  rw [contentLength, hget]
  exact if_neg (decimal_spec m.body.length).1

/-- **A message that arrives alone** is handled with its full body, if it fits into the buffer. -/
theorem parseMessage_wire (m : SipMessage) (hfits : m.wire.length ≤ bufSize) :
    parseMessage m.wire = some m.message := by
  have hne : m.wire ≠ [] := by simp [wire]
  have hbody : m.body.length ≤ bufSize := by
    have hlength : m.body.length ≤ m.wire.length := by
      simp only [wire, List.length_append, List.length_cons]
      omega
    omega
  -- the line after the start line begins with a name, or is the empty one
  obtain ⟨c, more, hmore, hc⟩ : ∃ c more, m.allHeaders.flatMap headerLine ++ 13 :: 10 :: m.body =
      c :: more ∧ isBlank c = false := head_lines m.wellFormed_allHeaders m.body
  have hheaders : readMIMEHeader ⟨m.allHeaders.flatMap headerLine ++ 13 :: 10 :: m.body, []⟩ =
      some (m.message.headers, ⟨m.body, []⟩) := by
    have hne : m.allHeaders.flatMap headerLine ++ 13 :: 10 :: m.body ≠ [] := by
      rw [hmore]
      exact List.cons_ne_nil _ _
    have hblank : ¬ (m.allHeaders.flatMap headerLine ++ 13 :: 10 :: m.body).head?.any isBlank = true := by
      rw [hmore, List.head?_cons, Option.any_some, hc]
      exact Bool.false_ne_true
    simp only [readMIMEHeader, if_neg hne, if_neg hblank]
    rw [readHeaders_lines m.wellFormed_allHeaders]
    · rfl
    · have hlines := length_le_flatMap m.allHeaders
      simp only [Reader.size, List.length_append]
      omega
  unfold parseMessage
  rw [readLine_fill hne hfits, wire, readLine_crlf m.startLine_clean, List.nil_append]
  dsimp only
  rw [m.parseStartLine_startLine]
  dsimp only
  rw [hheaders]
  dsimp only
  rw [m.contentLength_message, trimSpace_decimal, atoi_decimal (Nat.lt_of_le_of_lt hbody (by decide))]
  dsimp only
  split
  · next hpos =>
    have hbodyNe : m.body ≠ [] := fun h => by simp [h] at hpos
    rw [readBody, if_neg hbodyNe, Int.toNat_natCast, List.take_length]
    rfl
  · next hpos =>
    have hbodyNil : m.body = [] := by simpa using hpos
    rw [← hbodyNil]
    rfl

end SipMessage

/-! ## Streams -/

/-- A single octet is no message. -/
theorem parseMessage_singleton (c : UInt8) : parseMessage [c] = none := by
  -- a line of one byte has no three parts
  have hstart : parseStartLine [c] = none := by
    have hprefix : ¬ (ascii "SIP/").isPrefixOf [c] = true := by
      intro h
      have hlength : 4 ≤ 1 := (List.isPrefixOf_iff_prefix.mp h).length_le
      omega
    rw [parseStartLine, if_neg hprefix, parseRequestLine]
    by_cases hc : c = 32
    · subst hc
      rfl
    · rw [List.splitOn_eq_singleton (by simpa using Ne.symm hc)]
  unfold parseMessage
  rw [readLine_fill (by simp) (by simp [bufSize]), readLine]
  by_cases hc : c = 10
  · subst hc
    rfl
  · rw [if_neg (by simpa using Ne.symm hc), if_neg (by simp [bufSize]), if_pos rfl, if_neg (by simp)]
    dsimp only
    rw [List.nil_append, hstart]

/-- **Streams of messages.** They are handled where the reads are the messages and these fit into the
buffer, but not in every cut of the stream, unless there are none. -/
theorem stream_iff (msgs : List SipMessage) :
    ((∀ m ∈ msgs, m.wire.length ≤ bufSize) →
        handled (msgs.map SipMessage.wire) = msgs.map SipMessage.message) ∧
      ((∀ reads, IsCut reads (msgs.flatMap SipMessage.wire) →
        handled reads = msgs.map SipMessage.message) ↔ msgs = []) := by
  refine ⟨fun hfits => ?_, fun hall => ?_, ?_⟩
  · induction msgs with
    | nil => rfl
    | cons m msgs ih =>
      obtain ⟨hm, hmsgs⟩ := List.forall_mem_cons.mp hfits
      rw [List.map_cons, handled, List.filterMap_cons, m.parseMessage_wire hm, ← handled, ih hmsgs]
      rfl
  · -- every octet comes by itself
    have hcut : IsCut ((msgs.flatMap SipMessage.wire).map fun c => [c])
        (msgs.flatMap SipMessage.wire) := by
      refine ⟨by rw [← List.flatMap_def, List.flatMap_singleton'], fun r hr => ?_⟩
      obtain ⟨c, -, rfl⟩ := List.mem_map.mp hr
      exact ⟨List.cons_ne_nil c [], by rw [List.length_singleton]; decide⟩
    have hnone : handled ((msgs.flatMap SipMessage.wire).map fun c => [c]) = [] := by
      rw [handled, List.filterMap_eq_nil_iff]
      intro r hr
      obtain ⟨c, -, rfl⟩ := List.mem_map.mp hr
      exact parseMessage_singleton c
    exact List.map_eq_nil_iff.mp ((hall _ hcut).symm.trans hnone)
  · rintro rfl reads hcut
    have hreads : reads = [] := by
      refine List.eq_nil_iff_forall_not_mem.mpr fun r hr => (hcut.read r hr).1 ?_
      exact List.flatten_eq_nil_iff.mp hcut.flatten r hr
    rw [hreads]
    rfl

/-- An `ACK`. -/
def ack : SipMessage where
  startLine := ascii "ACK sip:s1@203.0.113.1 SIP/2.0"
  start := .request (ascii "ACK") (ascii "sip:s1@203.0.113.1")
  before := [(ascii "Call-ID", ascii "a")]
  after := []
  body := []
  parseStartLine_startLine := by decide
  startLine_clean := by decide
  headers h hh := by
    cases List.mem_singleton.mp hh
    exact ⟨⟨by decide +kernel, by decide +kernel, by decide +kernel, by decide +kernel,
      by decide +kernel⟩, by decide⟩

/-- **Two messages in one read** are handled as one. -/
theorem coalesced : IsCut [ack.wire ++ ack.wire] ([ack, ack].flatMap SipMessage.wire) ∧
    handled [ack.wire ++ ack.wire] ≠ [ack, ack].map SipMessage.message := by
  refine ⟨⟨by simp, fun r hr => ?_⟩, fun h => ?_⟩
  · cases List.mem_singleton.mp hr
    exact ⟨by decide +kernel, by decide +kernel⟩
  · have hlength := congrArg List.length h
    have hone : (handled [ack.wire ++ ack.wire]).length ≤ 1 := List.length_filterMap_le ..
    simp only [List.length_map, List.length_cons, List.length_nil] at hlength
    omega

end Svarla.Sip.Stream
