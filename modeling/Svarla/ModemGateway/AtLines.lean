import Mathlib.Data.List.Basic

/-!
# The lines of the modem

`scanATLines` cuts what the modem sends at every CR, LF or CRLF. The prompt for the text of a message comes
without a line end, and is handed on as soon as it is all there is. So a read that ends behind what looks like
the prompt cuts the line in two, and a line of 65536 bytes ends the scan. Otherwise the lines do not depend on
how the reads cut them (`lines_of_reads`).
-/

namespace Svarla.ModemGateway

/-! ## The scanner -/

def lf : UInt8 := 10
def cr : UInt8 := 13

def isBreak (c : UInt8) : Bool := c = cr || c = lf

/-- The prompt for the text of a message, `> `, or its first character. -/
def prompts : List (List UInt8) := [[62, 32], [62]]

/-- `scanATLines`: how far to go on, and the line, or nothing where more is needed. -/
def scanATLines (data : List UInt8) (atEOF : Bool) : Option (Nat × List UInt8) :=
  if atEOF ∧ data = [] then none
  else
    let line := data.takeWhile (!isBreak ·)
    match data.drop line.length with
    | [] => if data ∈ prompts ∨ atEOF then some (data.length, data) else none
    | c :: rest =>
      if c = lf then some (line.length + 1, line)
      else
        match rest with
        | c' :: _ => some (if c' = lf then line.length + 2 else line.length + 1, line)
        -- a CR, which an LF may follow
        | [] => if atEOF then some (data.length, line) else none

/-- The tokens in what was read, and the rest. -/
def scanTokens (atEOF : Bool) : Nat → List UInt8 → List (List UInt8) × List UInt8
  | 0, data => ([], data)
  | fuel + 1, data =>
    match scanATLines data atEOF with
    | none => ([], data)
    | some (advance, token) =>
      let (tokens, rest) := scanTokens atEOF fuel (data.drop advance)
      (token :: tokens, rest)

/-- `bufio.MaxScanTokenSize`. -/
def maxScanTokenSize : Nat := 65536

/-- The tokens of a `bufio.Scanner`, by what the reads give until the port is closed. A full buffer without a
token ends the scan. -/
def scan (rest : List UInt8) : List (List UInt8) → List (List UInt8)
  | [] => if maxScanTokenSize ≤ rest.length then [] else (scanTokens true rest.length rest).1
  | chunk :: reads =>
    if maxScanTokenSize ≤ rest.length then []
    else
      let (tokens, rest) := scanTokens false (rest ++ chunk).length (rest ++ chunk)
      tokens ++ scan rest reads

/-- `strings.TrimSpace` leaves nothing of the line. -/
def isBlank : List UInt8 → Bool
  | [] => true
  | 0xC2 :: c :: line => (c = 0x85 || c = 0xA0) && isBlank line
  | 0xE1 :: c :: c' :: line => c = 0x9A && c' = 0x80 && isBlank line
  | 0xE2 :: c :: c' :: line =>
    ((c = 0x80 && (0x80 ≤ c' && c' ≤ 0x8A || c' = 0xA8 || c' = 0xA9 || c' = 0xAF)) ||
      (c = 0x81 && c' = 0x9F)) && isBlank line
  | 0xE3 :: c :: c' :: line => c = 0x80 && c' = 0x80 && isBlank line
  | c :: line => (9 ≤ c && c ≤ 13 || c = 32) && isBlank line

/-- The lines that are not skipped. -/
def nonBlank (lines : List (List UInt8)) : List (List UInt8) := lines.filter (!isBlank ·)

/-- What `readLoop` gets of the tokens. -/
def atTokens (reads : List (List UInt8)) : List (List UInt8) := nonBlank (scan [] reads)

/-! ## Lines -/

/-- The runs between the line ends. -/
def atLines (stream : List UInt8) : List (List UInt8) := stream.splitOnP isBreak

/-- A line ends here, or the stream does. -/
def AtLineEnd (stream : List UInt8) : Prop := stream.head?.all isBreak = true

/-- Where a read ends behind what looks like the prompt, the line ends as well. -/
def PromptsWhole (rest : List UInt8) (reads : List (List UInt8)) : Prop :=
  ∀ before after, reads = before ++ after →
    (∃ prompt ∈ prompts, (atLines (rest ++ before.flatten)).getLast? = some prompt) → AtLineEnd after.flatten

/-- Part of a line, or a line with a CR, which an LF may follow. -/
def Pending (data : List UInt8) : Prop :=
  (∀ x ∈ data, isBreak x = false) ∨ ∃ line, (∀ x ∈ line, isBreak x = false) ∧ data = line ++ [cr]

/-- No part of a line fills the buffer. -/
def Fits (stream : List UInt8) : Prop :=
  ∀ data, Pending data → data <:+: stream → data.length < maxScanTokenSize

/-! ## Tokens -/

/-- A token is a line, or all there is. -/
inductive Cut (atEOF : Bool) (data : List UInt8) : List UInt8 → List UInt8 → Prop
  | line {token rest : List UInt8} {c : UInt8} (hbreak : isBreak c = true)
      (htoken : ∀ x ∈ token, isBreak x = false) (hdata : data = token ++ c :: rest) :
      Cut atEOF data token rest
  | crlf {token rest : List UInt8} (htoken : ∀ x ∈ token, isBreak x = false)
      (hdata : data = token ++ cr :: lf :: rest) : Cut atEOF data token rest
  | whole (hdata : ∀ x ∈ data, isBreak x = false) (hne : data ≠ [])
      (hprompt : atEOF = false → data ∈ prompts) : Cut atEOF data data []

/-- The first line end. -/
theorem takeWhile_cases (data : List UInt8) :
    ((∀ x ∈ data, isBreak x = false) ∧ data.takeWhile (!isBreak ·) = data) ∨
      ∃ line c rest, (∀ x ∈ line, isBreak x = false) ∧ isBreak c = true ∧ data = line ++ c :: rest ∧
        data.takeWhile (!isBreak ·) = line := by
  induction data with
  | nil => exact .inl ⟨nofun, rfl⟩
  | cons x data ih =>
    cases hx : isBreak x with
    | true => exact .inr ⟨[], x, data, nofun, hx, rfl, by simp [hx]⟩
    | false =>
      obtain ⟨hnone, htake⟩ | ⟨line, c, rest, hline, hc, hdata, htake⟩ := ih
      · exact .inl ⟨List.forall_mem_cons.mpr ⟨hx, hnone⟩, by simp [hx, htake]⟩
      · exact .inr ⟨x :: line, c, rest, List.forall_mem_cons.mpr ⟨hx, hline⟩, hc, by rw [hdata]; rfl,
          by simp [hx, htake]⟩

/-- What a token is cut from. -/
theorem cut_of_scan {data token : List UInt8} {atEOF : Bool} {advance : Nat}
    (h : scanATLines data atEOF = some (advance, token)) : Cut atEOF data token (data.drop advance) := by
  unfold scanATLines at h
  split at h
  · cases h
  · next hopen =>
    obtain ⟨hnone, htake⟩ | ⟨line, c, rest, hline, hc, rfl, htake⟩ := takeWhile_cases data
    · simp only [htake, List.drop_length] at h
      split at h
      · next hwhole =>
        cases h
        rw [List.drop_length]
        refine .whole hnone (fun hempty => ?_) fun heof => ?_
        · subst hempty
          obtain hprompt | heof := hwhole
          · exact absurd hprompt (by decide)
          · exact hopen ⟨heof, rfl⟩
        · subst heof
          exact hwhole.resolve_right Bool.false_ne_true
      · cases h
    · simp only [htake, List.drop_left] at h
      split at h
      · cases h
        rw [List.drop_append]
        refine .line hc hline ?_
        simp
      · next hnot =>
        have hcr : c = cr := by simpa [isBreak, hnot] using hc
        subst hcr
        match rest with
        | c' :: rest =>
          dsimp only at h
          cases h
          split
          · next hlf =>
            subst hlf
            refine .crlf hline ?_
            simp
          · refine .line hc hline ?_
            simp
        | [] =>
          dsimp only at h
          split at h
          · cases h
            refine .line hc hline ?_
            simp
          · cases h

/-- What waits for more. -/
theorem pending_of_scan {data : List UInt8} (h : scanATLines data false = none) : Pending data := by
  unfold scanATLines at h
  split at h
  · next hopen => exact absurd hopen.1 Bool.false_ne_true
  · obtain ⟨hnone, -⟩ | ⟨line, c, rest, hline, hc, rfl, htake⟩ := takeWhile_cases data
    · exact .inl hnone
    · simp only [htake, List.drop_left] at h
      split at h
      · cases h
      · next hnot =>
        have hcr : c = cr := by simpa [isBreak, hnot] using hc
        subst hcr
        match rest with
        | _ :: _ => cases h
        | [] => exact .inr ⟨line, hline, rfl⟩

/-- At the end, nothing waits. -/
theorem empty_of_scan {data : List UInt8} (h : scanATLines data true = none) : data = [] := by
  unfold scanATLines at h
  split at h
  · next hempty => exact hempty.2
  · dsimp only at h
    split at h
    · rw [if_pos (.inr rfl)] at h
      cases h
    · split at h
      · cases h
      · split at h <;> cases h

section
variable {atEOF : Bool} {data token rest stream : List UInt8} {reads : List (List UInt8)}

theorem Cut.length_lt (h : Cut atEOF data token rest) : rest.length < data.length := by
  cases h with
  | line hbreak htoken hdata =>
    rw [hdata, List.length_append, List.length_cons]
    omega
  | crlf htoken hdata =>
    rw [hdata, List.length_append, List.length_cons, List.length_cons]
    omega
  | whole hdata hne hprompt => exact List.length_pos_of_ne_nil hne

theorem atLines_break (line : List UInt8) {c : UInt8} (hbreak : isBreak c = true) (stream : List UInt8) :
    atLines (line ++ c :: stream) = atLines line ++ atLines stream :=
  List.splitOnP_append_cons line stream hbreak

theorem atLines_ne_nil (stream : List UInt8) : atLines stream ≠ [] := List.splitOnP_ne_nil isBreak stream

theorem atLines_line {line : List UInt8} (hline : ∀ x ∈ line, isBreak x = false) : atLines line = [line] :=
  List.splitOnP_eq_singleton hline

theorem getLast?_atLines_break (line : List UInt8) {c : UInt8} (hbreak : isBreak c = true)
    (stream : List UInt8) : (atLines (line ++ c :: stream)).getLast? = (atLines stream).getLast? := by
  rw [atLines_break line hbreak]
  exact List.getLast?_append_of_ne_nil _ (atLines_ne_nil stream)

theorem atLines_crlf (hdata : data = token ++ cr :: lf :: rest) :
    atLines (data ++ stream) = atLines token ++ ([[]] ++ atLines (rest ++ stream)) := by
  have hsplit : data ++ stream = token ++ cr :: ([] ++ lf :: (rest ++ stream)) := by
    rw [hdata]
    simp
  rw [hsplit, atLines_break _ (by decide), atLines_break _ (by decide)]
  rfl

theorem nonBlank_append (lines lines' : List (List UInt8)) :
    nonBlank (lines ++ lines') = nonBlank lines ++ nonBlank lines' :=
  List.filter_append ..

/-- A line without an end is no token. -/
theorem none_of_long (hdata : ∀ x ∈ data, isBreak x = false) (hlong : 2 < data.length) :
    scanATLines data false = none := by
  cases hscan : scanATLines data false with
  | none => rfl
  | some cut =>
    have hbreak : ∀ {token rest : List UInt8} {c : UInt8}, data = token ++ c :: rest → isBreak c = false :=
      fun h => hdata _ (h ▸ List.mem_append_right _ (.head _))
    obtain ⟨advance, token⟩ := cut
    have hcut := cut_of_scan hscan
    generalize data.drop advance = rest at hcut
    cases hcut with
    | line hc htoken hsplit => exact absurd (hbreak hsplit) (by rw [hc]; decide)
    | crlf htoken hsplit => exact absurd (hbreak hsplit) (by decide)
    | whole hall hne hprompt =>
      have hshort : ∀ prompt ∈ prompts, prompt.length ≤ 2 := by decide
      exact absurd (hshort data (hprompt rfl)) (Nat.not_le_of_lt hlong)

theorem scanTokens_none (h : scanATLines data atEOF = none) (fuel : Nat) :
    scanTokens atEOF fuel data = ([], data) := by
  cases fuel with
  | zero => rfl
  | succ fuel => rw [scanTokens, h]

/-- A token is the next line, and the rest has the other ones. -/
theorem Cut.nonBlank_eq (h : Cut atEOF data token rest)
    (hend : data ∈ prompts ∨ atEOF = true → AtLineEnd stream) :
    nonBlank (atLines (data ++ stream)) = nonBlank [token] ++ nonBlank (atLines (rest ++ stream)) := by
  cases h with
  | line hbreak htoken hdata =>
    rw [hdata, List.append_assoc, List.cons_append, atLines_break _ hbreak, atLines_line htoken,
      nonBlank_append]
  | crlf htoken hdata =>
    rw [atLines_crlf hdata, atLines_line htoken, nonBlank_append, nonBlank_append]
    rfl
  | whole hdata hne hprompt =>
    have hend := hend (by cases atEOF with
      | true => exact .inr rfl
      | false => exact .inl (hprompt rfl))
    match stream with
    | [] =>
      rw [List.append_nil, atLines_line hdata]
      exact (List.append_nil _).symm
    | c :: stream =>
      have hbreak : isBreak c = true := hend
      have hempty : atLines ([] ++ c :: stream) = [[]] ++ atLines stream := atLines_break [] hbreak stream
      rw [atLines_break _ hbreak, atLines_line hdata, hempty, nonBlank_append, nonBlank_append]
      rfl

theorem Cut.suffix (h : Cut atEOF data token rest) : rest <:+ data := by
  cases h with
  | line hbreak htoken hdata => exact ⟨token ++ [_], by rw [hdata, List.append_assoc]; rfl⟩
  | crlf htoken hdata => exact ⟨token ++ [cr, lf], by rw [hdata, List.append_assoc]; rfl⟩
  | whole hdata hne hprompt => exact List.nil_suffix

theorem Cut.fits (h : Cut atEOF data token rest) (hfits : Fits (data ++ stream)) : Fits (rest ++ stream) := by
  obtain ⟨front, hfront⟩ := h.suffix
  intro pending hpending hpart
  refine hfits pending hpending (hpart.trans ?_)
  rw [← hfront, List.append_assoc]
  exact (List.suffix_append front _).isInfix

/-- A read that ends behind a prompt of the rest ends behind one of the whole. -/
theorem Cut.promptsWhole (h : Cut false data token rest) (hwhole : PromptsWhole data reads) :
    PromptsWhole rest reads := by
  intro before after hreads hlast
  refine hwhole before after hreads ?_
  cases h with
  | line hbreak htoken hdata =>
    rwa [hdata, List.append_assoc, List.cons_append, getLast?_atLines_break _ hbreak]
  | crlf htoken hdata =>
    rwa [atLines_crlf hdata, List.getLast?_append_of_ne_nil _ (by simp),
      List.getLast?_append_of_ne_nil _ (atLines_ne_nil _)]
  | whole hdata hne hprompt =>
    have hend := hwhole [] reads rfl ⟨data, hprompt rfl, by
      rw [List.flatten_nil, List.append_nil, atLines_line hdata]
      rfl⟩
    match hbefore : before.flatten with
    | [] =>
      rw [hbefore] at hlast
      obtain ⟨prompt, hmem, hnil⟩ := hlast
      cases hnil
      exact absurd hmem (by decide)
    | c :: stream =>
      rw [hbefore] at hlast
      rw [AtLineEnd, hreads, List.flatten_append, hbefore] at hend
      have hbreak : isBreak c = true := hend
      rw [getLast?_atLines_break _ hbreak] at hlast ⊢
      exact hlast

/-! ## Reads -/

/-- What a read gives, while the port is open. -/
theorem scanTokens_spec {fuel : Nat} (hfuel : data.length ≤ fuel) (hfits : Fits (data ++ reads.flatten))
    (hwhole : PromptsWhole data reads) :
    scanATLines (scanTokens false fuel data).2 false = none ∧
      Fits ((scanTokens false fuel data).2 ++ reads.flatten) ∧
        PromptsWhole (scanTokens false fuel data).2 reads ∧
          nonBlank (atLines (data ++ reads.flatten)) = nonBlank (scanTokens false fuel data).1 ++
            nonBlank (atLines ((scanTokens false fuel data).2 ++ reads.flatten)) := by
  induction fuel generalizing data with
  | zero =>
    have hempty : data = [] := List.length_eq_zero_iff.mp (Nat.le_zero.mp hfuel)
    subst hempty
    exact ⟨rfl, hfits, hwhole, rfl⟩
  | succ fuel ih =>
    rw [scanTokens]
    cases hscan : scanATLines data false with
    | none => exact ⟨hscan, hfits, hwhole, rfl⟩
    | some cut =>
      obtain ⟨advance, token⟩ := cut
      have hcut := cut_of_scan hscan
      have hend : data ∈ prompts ∨ false = true → AtLineEnd reads.flatten := by
        rintro (hprompt | hfalse)
        · refine hwhole [] reads rfl ⟨data, hprompt, ?_⟩
          rw [List.flatten_nil, List.append_nil]
          revert hprompt
          unfold prompts
          simp only [List.mem_cons, List.not_mem_nil, or_false]
          rintro (rfl | rfl) <;> decide
        · cases hfalse
      have hshorter := hcut.length_lt
      obtain ⟨hpending, hfits', hwhole', hlines⟩ :=
        ih (by omega) (hcut.fits hfits) (hcut.promptsWhole hwhole)
      refine ⟨hpending, hfits', hwhole', ?_⟩
      rw [hcut.nonBlank_eq hend, hlines, ← List.append_assoc, ← nonBlank_append]
      rfl

/-- What is left when the port is closed. -/
theorem scanTokens_eof {fuel : Nat} (hfuel : data.length ≤ fuel) :
    nonBlank (scanTokens true fuel data).1 = nonBlank (atLines data) := by
  induction fuel generalizing data with
  | zero =>
    have hempty : data = [] := List.length_eq_zero_iff.mp (Nat.le_zero.mp hfuel)
    subst hempty
    rfl
  | succ fuel ih =>
    rw [scanTokens]
    cases hscan : scanATLines data true with
    | none =>
      rw [empty_of_scan hscan]
      rfl
    | some cut =>
      obtain ⟨advance, token⟩ := cut
      have hcut := cut_of_scan hscan
      have hshorter := hcut.length_lt
      have hlines : nonBlank (atLines (data ++ [])) =
          nonBlank [token] ++ nonBlank (atLines (data.drop advance ++ [])) := hcut.nonBlank_eq fun _ => rfl
      rw [List.append_nil, List.append_nil] at hlines
      rw [hlines, ← ih (by omega), ← nonBlank_append]
      rfl

/-- What waits does not fill the buffer. -/
theorem length_lt_of_pending (hpending : scanATLines data false = none) (hfits : Fits (data ++ stream)) :
    data.length < maxScanTokenSize :=
  hfits data (pending_of_scan hpending) (List.prefix_append data stream).isInfix

theorem scan_eq (hpending : scanATLines rest false = none) (hfits : Fits (rest ++ reads.flatten))
    (hwhole : PromptsWhole rest reads) :
    nonBlank (scan rest reads) = nonBlank (atLines (rest ++ reads.flatten)) := by
  induction reads generalizing rest with
  | nil =>
    rw [scan, if_neg (Nat.not_le_of_lt (length_lt_of_pending hpending hfits)), List.flatten_nil,
      List.append_nil]
    exact scanTokens_eof (Nat.le_refl _)
  | cons chunk reads ih =>
    have hflatten : rest ++ (chunk :: reads).flatten = (rest ++ chunk) ++ reads.flatten := by
      rw [List.flatten_cons, List.append_assoc]
    have hwhole : PromptsWhole (rest ++ chunk) reads := fun before after hreads hlast => by
      refine hwhole (chunk :: before) after (by rw [hreads]; rfl) ?_
      rwa [List.flatten_cons, ← List.append_assoc]
    rw [scan, if_neg (Nat.not_le_of_lt (length_lt_of_pending hpending hfits)), hflatten]
    rw [hflatten] at hfits
    obtain ⟨hpending, hfits, hwhole, hlines⟩ := scanTokens_spec (Nat.le_refl _) hfits hwhole
    rw [hlines, ← ih hpending hfits hwhole, ← nonBlank_append]

/-- **The tokens are the lines**, however the reads cut them, where no line is too long and no read ends in
the middle of a line behind what looks like the prompt. -/
theorem lines_of_reads (hfits : Fits reads.flatten) (hwhole : PromptsWhole [] reads) :
    atTokens reads = nonBlank (atLines reads.flatten) :=
  scan_eq rfl hfits hwhole

/-- Read by read. -/
theorem promptsWhole_of_take (h : ∀ n ≤ reads.length,
    (∃ prompt ∈ prompts, (atLines (reads.take n).flatten).getLast? = some prompt) →
      AtLineEnd (reads.drop n).flatten) : PromptsWhole [] reads := by
  rintro before after rfl hlast
  have hlength : before.length ≤ (before ++ after).length := by
    rw [List.length_append]
    omega
  have hend := h before.length hlength
  rw [List.take_left, List.drop_left] at hend
  exact hend hlast

/-- A CRLF that is cut, a prompt, and the answer to the text. -/
def smsReads : List (List UInt8) :=
  ["\r".toUTF8.toList, "\n> ".toUTF8.toList, "\r\n+CMGS: 1\r".toUTF8.toList, "\nOK\r".toUTF8.toList]

theorem lines_of_reads_sms : atTokens smsReads = nonBlank (atLines smsReads.flatten) := by
  have hfits : Fits smsReads.flatten := fun data _ hpart =>
    Nat.lt_of_le_of_lt hpart.length_le (by decide +kernel)
  exact lines_of_reads hfits (promptsWhole_of_take (by unfold AtLineEnd; decide +kernel))

/-- **A read that ends behind a `>`** cuts the line, and a line that fills the buffer is no token. -/
theorem tokens_differ :
    (¬ ∀ reads reads' : List (List UInt8), reads.flatten = reads'.flatten →
      atTokens reads = atTokens reads') ∧
    atTokens [List.replicate 65536 97, [10]] ≠
      nonBlank (atLines [List.replicate 65536 97, [10]].flatten) := by
  refine ⟨fun hall => ?_, fun heq => ?_⟩
  · have heq := hall [[62, 97, 98, 99, 10]] [[62], [97, 98, 99, 10]] rfl
    exact absurd heq (by decide +kernel)
  · have hline : ∀ x ∈ List.replicate 65536 (97 : UInt8), isBreak x = false := fun x hx => by
      rw [List.eq_of_mem_replicate hx]
      rfl
    have hnone : scanATLines (List.replicate 65536 97) false = none :=
      none_of_long hline (by rw [List.length_replicate]; decide)
    have hscan : scan [] [List.replicate 65536 97, [10]] = [] := by
      rw [scan, if_neg (by decide), List.nil_append, scanTokens_none hnone]
      dsimp only
      rw [scan, if_pos (by rw [List.length_replicate]; decide), List.nil_append]
    have hlines : atLines (List.replicate 65536 97 ++ lf :: []) = [List.replicate 65536 97, []] := by
      rw [atLines_break _ (by decide), atLines_line hline]
      rfl
    have hshown : isBlank (List.replicate 65536 97) = false := by
      rw [List.replicate_succ]
      rfl
    have hflatten : [List.replicate 65536 97, [10]].flatten = List.replicate 65536 97 ++ lf :: [] := rfl
    rw [atTokens, hscan, hflatten, hlines, nonBlank, nonBlank, List.filter_nil,
      List.filter_cons_of_pos (by rw [hshown]; rfl)] at heq
    cases heq

end

end Svarla.ModemGateway
