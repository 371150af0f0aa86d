import Mathlib

/-!
# Phone numbers in one form

A thread is named by the number of the provider and that of the other party, and the latter is
brought into one form in four places: on the server, and on Android where a message is sent
(`SmsManager`), where conversations are kept (`ConversationRepository`), and where a call is made
(`VoiceCallManager`). The country is taken from the number of the provider. What a provider delivers
is normalized on the server too, but without the country (`normalizeInboundNumber`).

The four agree on what is written without blanks, for a local number with its 0 in exactly the
countries for which the two ways to find the country code do, and for one without a 0 if it is too
short or too long for a national number (`same_number_iff`). What comes in from a number has the key
of what is sent to it exactly if it comes with its country, and not as short as a short code
(`same_thread_iff`).
-/

namespace Svarla.Numbers

/-! ## The server -/

/-- `E164_REGEX`. -/
def isE164 : List Char → Bool
  | '+' :: d :: rest =>
    d.isDigit && d ≠ '0' && rest.all Char.isDigit && 1 ≤ rest.length && rest.length ≤ 14
  | _ => false

/-- `LOCAL_NUMBER_REGEX`. -/
def isLocalNumber (s : List Char) : Bool := s.all Char.isDigit && 3 ≤ s.length && s.length ≤ 15

/-- The blanks that both languages know. -/
def isSpace (c : Char) : Bool :=
  c.toNat ∈ [9, 10, 11, 12, 13, 32, 0xA0, 0x1680, 0x2028, 0x2029, 0x202F, 0x205F, 0x3000] ∨
    (0x2000 ≤ c.toNat ∧ c.toNat ≤ 0x200A)

/-- A text without such characters at its ends. -/
def trimBy (blank : Char → Bool) (s : List Char) : List Char :=
  ((s.dropWhile blank).reverse.dropWhile blank).reverse

/-- What `trim` of JavaScript takes away. -/
def isBlank (c : Char) : Bool := isSpace c || c.toNat = 0xFEFF

/-- `trim`. -/
def trim : List Char → List Char := trimBy isBlank

/-- `validatePhoneNumber`. -/
def validatePhoneNumber (phone : List Char) : Except String Unit :=
  if phone = [] then .error "Phone number is required"
  else if isE164 (trim phone) || isLocalNumber (trim phone) then .ok ()
  else .error
    "Phone number must be in E.164 format (e.g., +14155552671) or local format (e.g., 0701234567)"

def twoDigitCodes : List (List Char) :=
  ["20", "27", "30", "31", "32", "33", "34", "36", "39",
    "40", "41", "43", "44", "45", "46", "47", "48", "49",
    "51", "52", "53", "54", "55", "56", "57", "58",
    "60", "61", "62", "63", "64", "65", "66",
    "70", "71", "72", "73", "74", "75", "76", "77", "78", "79",
    "81", "82", "84", "86",
    "90", "91", "92", "93", "94", "95", "98"].map String.toList

/-- `extractCountryCode`. -/
def extractCountryCode (e164 : List Char) : Option (List Char) :=
  if e164.head? ≠ some '+' ∨ e164.length < 3 then none
  else
    let digits := e164.drop 1
    if digits.head? = some '1' ∨ digits.head? = some '7' then some (digits.take 1)
    else if digits.take 2 ∈ twoDigitCodes then some (digits.take 2)
    else some (digits.take 3)

/-- `normalizeToE164`, of a destination and the number of the provider. -/
def normalizeToE164 (dest src : List Char) : List Char :=
  let dest := trim dest
  if isE164 dest then dest
  else if ¬ isE164 src then dest
  else
    match extractCountryCode src with
    | none => dest
    | some countryCode =>
      if dest.head? = some '0' then '+' :: countryCode ++ dest.drop 1 else dest

/-- `normalizeInboundNumber`. -/
def normalizeInboundNumber (value : List Char) : List Char :=
  if value = [] then value
  else if value.head? = some '+' then value
  else if ¬ value.all Char.isDigit then value
  else if value.head? ≠ some '0' ∧ value.length ≤ 6 then value
  else '+' :: value

/-! ## Android -/

namespace Android

/-- What `trim` of Kotlin takes away. -/
def isBlank (c : Char) : Bool := isSpace c || (0x1C ≤ c.toNat && c.toNat ≤ 0x1F)

def trim : List Char → List Char := trimBy isBlank

/-- The first digits of the decimal systems. -/
def zeros : List Nat :=
  [0x30, 0x660, 0x6F0, 0x7C0, 0x966, 0x9E6, 0xA66, 0xAE6, 0xB66, 0xBE6, 0xC66, 0xCE6, 0xD66, 0xDE6,
    0xE50, 0xED0, 0xF20, 0x1040, 0x1090, 0x17E0, 0x1810, 0x1946, 0x19D0, 0x1A80, 0x1A90, 0x1B50,
    0x1BB0, 0x1C40, 0x1C50, 0xA620, 0xA8D0, 0xA900, 0xA9D0, 0xA9F0, 0xAA50, 0xABF0, 0xFF10]

/-- `isDigit` of Kotlin. -/
def isDigit (c : Char) : Bool := zeros.any fun z => z ≤ c.toNat && c.toNat ≤ z + 9

def twoDigitCodes : List (List Char) :=
  ["20", "27", "30", "31", "32", "33", "34", "36", "39",
    "40", "41", "43", "44", "45", "46", "47", "48", "49",
    "51", "52", "53", "54", "55", "56", "57", "58",
    "60", "61", "62", "63", "64", "65", "66",
    "81", "82", "84", "86", "90", "91", "92", "93", "94", "95", "98"].map String.toList

/-- The country code, from the digits of the number of the provider. -/
def countryCode (digits : List Char) : List Char :=
  if digits.head? = some '1' ∨ digits.head? = some '7' then digits.take 1
  else if digits.take 2 ∈ twoDigitCodes then digits.take 2
  else digits.take 3

/-- `SmsManager.normalizeToE164`. -/
def SmsManager.normalizeToE164 (dest src : List Char) : List Char :=
  let trimmed := trim dest
  if trimmed.head? = some '+' then trimmed
  else if src.head? ≠ some '+' ∨ src.length < 3 then trimmed
  else if trimmed.head? = some '0' then '+' :: countryCode (src.drop 1) ++ trimmed.drop 1
  else trimmed

/-- Do two digits make a number from 20 to 69? -/
def isCommonPrefix : List Char → Bool
  | [a, b] => a.isDigit && b.isDigit && 20 ≤ 10 * (a.toNat - 48) + (b.toNat - 48) &&
      10 * (a.toNat - 48) + (b.toNat - 48) ≤ 69
  | _ => false

/-- `ConversationRepository.extractCountryPrefix`. -/
def ConversationRepository.extractCountryPrefix (e164 : List Char) : Option (List Char) :=
  if e164.head? ≠ some '+' ∨ e164.length < 4 then none
  else
    let digits := e164.drop 1
    if digits.head? = some '1' ∨ digits.head? = some '7' then some (digits.take 1)
    else if 2 ≤ digits.length ∧ isCommonPrefix (digits.take 2) then some (digits.take 2)
    else if 3 ≤ digits.length then some (digits.take 3)
    else none

/-- `ConversationRepository.normalizePhoneNumber`. -/
def ConversationRepository.normalizePhoneNumber (phone provider : List Char) : List Char :=
  if phone.head? = some '+' then phone
  else if provider = [] ∨ provider.head? ≠ some '+' then phone
  else
    match extractCountryPrefix provider with
    | none => phone
    | some countryPrefix =>
      if phone.head? = some '0' ∧ 1 < phone.length then '+' :: countryPrefix ++ phone.drop 1
      else phone

/-- The lengths of a national number. -/
def isPlausibleNationalNumber (countryCode : List Char) (length : Nat) : Bool :=
  match String.ofList countryCode with
  | "1" => length = 10
  | "7" => length = 10
  | "44" => 9 ≤ length && length ≤ 10
  | "61" => length = 9
  | "33" => length = 9
  | "49" => 10 ≤ length && length ≤ 11
  | "46" => 7 ≤ length && length ≤ 9
  | _ => 7 ≤ length && length ≤ 12

/-- `VoiceCallManager.normalizeToE164`. -/
def VoiceCallManager.normalizeToE164 (dest src : List Char) : List Char :=
  let trimmed := trim dest
  if trimmed.head? = some '+' then trimmed
  else if src.head? ≠ some '+' ∨ src.length < 3 then trimmed
  else
    let countryCode := countryCode (src.drop 1)
    if trimmed.head? = some '0' ∧ 1 < trimmed.length then '+' :: countryCode ++ trimmed.drop 1
    else
      let digitsOnly := trimmed.filter isDigit
      if isPlausibleNationalNumber countryCode digitsOnly.length then '+' :: countryCode ++ digitsOnly
      else trimmed

end Android

/-! ## Blanks -/

theorem dropWhile_eq_self {p : Char → Bool} {s : List Char} (h : ∀ c ∈ s, p c = false) :
    s.dropWhile p = s := by
  cases s with
  | nil => rfl
  | cons c s => rw [List.dropWhile_cons_of_neg (by simp [h c])]

theorem trimBy_eq_self {blank : Char → Bool} {s : List Char} (h : ∀ c ∈ s, blank c = false) :
    trimBy blank s = s := by
  rw [trimBy, dropWhile_eq_self h, dropWhile_eq_self fun c hc => h c (List.mem_reverse.mp hc),
    List.reverse_reverse]

/-- What a number is written with. -/
def IsNumeral (c : Char) : Prop := c = '+' ∨ c.isDigit = true

theorem toNat_of_isDigit {c : Char} (h : c.isDigit = true) : 0x30 ≤ c.toNat ∧ c.toNat ≤ 0x39 := by
  simp only [Char.isDigit, Bool.and_eq_true, decide_eq_true_eq, ge_iff_le,
    UInt32.le_iff_toNat_le] at h
  exact h

theorem not_isSpace {c : Char} (h : IsNumeral c) : isSpace c = false := by
  have hrange : 0x2B ≤ c.toNat ∧ c.toNat ≤ 0x39 := by
    obtain rfl | h := h
    · decide
    · exact ⟨by have := (toNat_of_isDigit h).1; omega, (toNat_of_isDigit h).2⟩
  simp only [isSpace, List.mem_cons, List.not_mem_nil, or_false, decide_eq_false_iff_not]
  omega

theorem not_isBlank {c : Char} (h : IsNumeral c) : isBlank c = false := by
  have hne : c.toNat ≠ 0xFEFF := by
    obtain rfl | h := h
    · decide
    · have := (toNat_of_isDigit h).2
      omega
  simp [isBlank, not_isSpace h, hne]

theorem Android.not_isBlank {c : Char} (h : IsNumeral c) : Android.isBlank c = false := by
  have hne : 0x1F < c.toNat := by
    obtain rfl | h := h
    · decide
    · have := (toNat_of_isDigit h).1
      omega
  simp only [Android.isBlank, not_isSpace h, Bool.false_or, Bool.and_eq_false_iff,
    decide_eq_false_iff_not, not_le]
  exact .inr hne

theorem Android.isDigit_of {c : Char} (h : c.isDigit = true) : Android.isDigit c = true := by
  have hrange := toNat_of_isDigit h
  refine List.any_eq_true.mpr ⟨0x30, by decide, ?_⟩
  simp only [Bool.and_eq_true, decide_eq_true_eq]
  omega

/-- A text without blanks is left as it is, in both languages. -/
theorem trim_eq_self {s : List Char} (h : ∀ c ∈ s, IsNumeral c) : trim s = s :=
  trimBy_eq_self fun c hc => not_isBlank (h c hc)

theorem Android.trim_eq_self {s : List Char} (h : ∀ c ∈ s, IsNumeral c) : Android.trim s = s :=
  trimBy_eq_self fun c hc => Android.not_isBlank (h c hc)

/-! ## What is accepted -/

theorem isE164_iff {s : List Char} :
    isE164 s = true ↔ ∃ digits, s = '+' :: digits ∧ (∀ c ∈ digits, c.isDigit = true) ∧
      digits.head? ≠ some '0' ∧ 2 ≤ digits.length ∧ digits.length ≤ 15 := by
  constructor
  · intro h
    unfold isE164 at h
    split at h
    · next d rest =>
      simp only [Bool.and_eq_true, decide_eq_true_eq, List.all_eq_true] at h
      obtain ⟨⟨⟨⟨hd, hne⟩, hrest⟩, hpos⟩, hle⟩ := h
      refine ⟨d :: rest, rfl, List.forall_mem_cons.mpr ⟨hd, hrest⟩, ?_, ?_, ?_⟩
      · simpa using hne
      · rw [List.length_cons]
        omega
      · rw [List.length_cons]
        omega
    · cases h
  · rintro ⟨digits, rfl, hdigits, hne, hpos, hle⟩
    match digits, hpos with
    | d :: rest, hpos =>
      obtain ⟨hd, hrest⟩ := List.forall_mem_cons.mp hdigits
      simp only [List.length_cons] at hpos hle
      simp only [isE164, Bool.and_eq_true, decide_eq_true_eq, List.all_eq_true]
      exact ⟨⟨⟨⟨hd, by simpa using hne⟩, hrest⟩, by omega⟩, by omega⟩

theorem isLocalNumber_iff {s : List Char} :
    isLocalNumber s = true ↔ (∀ c ∈ s, c.isDigit = true) ∧ 3 ≤ s.length ∧ s.length ≤ 15 := by
  simp only [isLocalNumber, Bool.and_eq_true, List.all_eq_true, decide_eq_true_eq, and_assoc]

theorem accepted_iff {phone : List Char} :
    validatePhoneNumber phone = .ok () ↔
      isE164 (trim phone) = true ∨ isLocalNumber (trim phone) = true := by
  by_cases hempty : phone = []
  · subst hempty
    exact iff_of_false (fun h => nomatch h) (by decide)
  · rw [validatePhoneNumber, if_neg hempty, ← Bool.or_eq_true]
    split
    · next h => exact iff_of_true rfl h
    · next h => exact iff_of_false (fun h => nomatch h) h

theorem isNumeral_of_isE164 {s : List Char} (h : isE164 s = true) : ∀ c ∈ s, IsNumeral c := by
  obtain ⟨digits, rfl, hdigits, -⟩ := isE164_iff.mp h
  exact List.forall_mem_cons.mpr ⟨.inl rfl, fun c hc => .inr (hdigits c hc)⟩

theorem isNumeral_of_isLocal {s : List Char} (h : isLocalNumber s = true) : ∀ c ∈ s, IsNumeral c :=
  fun c hc => .inr ((isLocalNumber_iff.mp h).1 c hc)

theorem head_ne_of_isLocal {s : List Char} (h : isLocalNumber s = true) : s.head? ≠ some '+' := by
  intro hhead
  exact absurd ((isLocalNumber_iff.mp h).1 '+' (List.mem_of_head? hhead)) (by decide)

theorem not_isE164_of_isLocal {s : List Char} (h : isLocalNumber s = true) : isE164 s = false := by
  refine Bool.eq_false_iff.mpr fun he => ?_
  obtain ⟨digits, rfl, -⟩ := isE164_iff.mp he
  exact head_ne_of_isLocal h rfl

/-! ## Country codes -/

/-- Without the codes of the server that begin with a 7, which it does not come to. -/
theorem mem_twoDigitCodes {code : List Char} (h : code.head? ≠ some '7') :
    code ∈ twoDigitCodes ↔ code ∈ Android.twoDigitCodes := by
  have hperm : twoDigitCodes.Perm (Android.twoDigitCodes ++ ["70", "71", "72", "73", "74", "75",
      "76", "77", "78", "79"].map String.toList) := by decide
  have hsevens : ∀ code ∈ ["70", "71", "72", "73", "74", "75", "76", "77", "78", "79"].map
      String.toList, code.head? = some '7' := by decide
  rw [hperm.mem_iff, List.mem_append]
  exact or_iff_left fun hmem => h (hsevens code hmem)

/-- The server and Android have the same country codes, where Android has a table. -/
theorem extractCountryCode_eq {digits : List Char} (h : 2 ≤ digits.length) :
    extractCountryCode ('+' :: digits) = some (Android.countryCode digits) := by
  have hhead : (digits.take 2).head? = digits.head? := by
    match digits, h with
    | _ :: _ :: _, _ => rfl
  rw [extractCountryCode, if_neg (by simp; omega), Android.countryCode]
  simp only [List.drop_one, List.tail_cons]
  by_cases hone : digits.head? = some '1' ∨ digits.head? = some '7'
  · rw [if_pos hone, if_pos hone]
  · rw [if_neg hone, if_neg hone]
    have htable : digits.take 2 ∈ twoDigitCodes ↔ digits.take 2 ∈ Android.twoDigitCodes :=
      mem_twoDigitCodes (by rw [hhead]; exact fun h7 => hone (.inr h7))
    simp only [htable]
    split <;> rfl

/-- Where the number of the provider is short, or its country code is found by its first digits, the
repository finds another one, or none. -/
def LeadingAgrees (src : List Char) : Prop :=
  4 ≤ src.length ∧ (src[1]? = some '1' ∨ src[1]? = some '7' ∨
    ((src.drop 1).take 2 ∈ Android.twoDigitCodes ↔ Android.isCommonPrefix ((src.drop 1).take 2) = true))

theorem extractCountryPrefix_eq_iff {digits : List Char} :
    Android.ConversationRepository.extractCountryPrefix ('+' :: digits) =
        some (Android.countryCode digits) ↔ LeadingAgrees ('+' :: digits) := by
  have hget : ('+' :: digits)[1]? = digits.head? := by
    rw [List.getElem?_cons_succ, List.head?_eq_getElem?]
  simp only [LeadingAgrees, Android.ConversationRepository.extractCountryPrefix, hget, List.length_cons,
    List.drop_one, List.tail_cons, List.head?_cons, ne_eq, not_true_eq_false, false_or]
  by_cases hlong : 3 ≤ digits.length
  · rw [if_neg (by omega), Android.countryCode]
    by_cases hone : digits.head? = some '1' ∨ digits.head? = some '7'
    · rw [if_pos hone, if_pos hone]
      exact iff_of_true rfl ⟨by omega, by tauto⟩
    · have htwo : (digits.take 2).length ≠ (digits.take 3).length := by
        simp only [List.length_take]
        omega
      have hne : digits.take 2 ≠ digits.take 3 := fun h => htwo (congrArg List.length h)
      rw [if_neg hone, if_neg hone]
      by_cases htable : digits.take 2 ∈ Android.twoDigitCodes <;>
        by_cases hrange : Android.isCommonPrefix (digits.take 2) = true <;>
          simp [htable, hrange, hlong, hne, hne.symm, hone] <;> omega
  · rw [if_pos (by omega)]
    exact iff_of_false (fun h => nomatch h) (fun h => hlong (by omega))

/-! ## One number -/

theorem normalizeToE164_of_isE164 {dest src : List Char} (h : isE164 (trim dest) = true) :
    normalizeToE164 dest src = trim dest := by
  simp only [normalizeToE164, if_pos h]

theorem normalizeToE164_of_isLocal {dest digits : List Char} (h : isLocalNumber (trim dest) = true)
    (hsrc : isE164 ('+' :: digits) = true) (hlength : 2 ≤ digits.length) :
    normalizeToE164 dest ('+' :: digits) =
      if (trim dest).head? = some '0' then '+' :: Android.countryCode digits ++ (trim dest).drop 1
      else trim dest := by
  simp only [normalizeToE164, not_isE164_of_isLocal h, hsrc, extractCountryCode_eq hlength,
    Bool.false_eq_true, not_true_eq_false, if_false]

/-- The number of the provider is taken apart. -/
theorem digits_of_isE164 {src : List Char} (h : isE164 src = true) :
    ∃ digits, src = '+' :: digits ∧ 2 ≤ digits.length ∧ ∀ c ∈ digits, c.isDigit = true := by
  obtain ⟨digits, rfl, hdigits, -, hlength, -⟩ := isE164_iff.mp h
  exact ⟨digits, rfl, hlength, hdigits⟩

theorem isDigit_countryCode {digits : List Char} (h : ∀ c ∈ digits, c.isDigit = true) :
    ∀ c ∈ Android.countryCode digits, c.isDigit = true := by
  intro c hc
  unfold Android.countryCode at hc
  split at hc
  · exact h c (List.mem_of_mem_take hc)
  · split at hc <;> exact h c (List.mem_of_mem_take hc)

/-- What the server makes of a number has no blanks. -/
theorem isNumeral_normalizeToE164 {dest src : List Char} (hdest : validatePhoneNumber dest = .ok ())
    (hsrc : isE164 src = true) : ∀ c ∈ normalizeToE164 dest src, IsNumeral c := by
  obtain ⟨digits, rfl, hlength, hdigits⟩ := digits_of_isE164 hsrc
  obtain he164 | hlocal := accepted_iff.mp hdest
  · rw [normalizeToE164_of_isE164 he164]
    exact isNumeral_of_isE164 he164
  · rw [normalizeToE164_of_isLocal hlocal hsrc hlength]
    split
    · rw [List.cons_append, List.forall_mem_cons]
      refine ⟨.inl rfl, fun c hc => ?_⟩
      obtain hc | hc := List.mem_append.mp hc
      · exact .inr (isDigit_countryCode hdigits c hc)
      · exact isNumeral_of_isLocal hlocal c (List.mem_of_mem_drop hc)
    · exact isNumeral_of_isLocal hlocal

/-- What the repository makes of a text keeps all but a 0. -/
theorem mem_normalizePhoneNumber {phone provider : List Char} {c : Char} (hc : c ∈ phone)
    (hne : c ≠ '0') : c ∈ Android.ConversationRepository.normalizePhoneNumber phone provider := by
  unfold Android.ConversationRepository.normalizePhoneNumber
  split
  · exact hc
  · split
    · exact hc
    · split
      · exact hc
      · split
        · next hzero =>
          match phone, hzero.1, hc with
          | d :: rest, hzero, hc =>
            cases Option.some.inj hzero
            exact List.mem_append_right _ ((List.mem_cons.mp hc).resolve_left hne)
        · exact hc

/-- The number is written without blanks; if it is local and has its 0, the country codes agree, and if
it has none, it is no national number of the provider's country. -/
structure Agreeing (dest src : List Char) : Prop where
  written : trim dest = dest
  trunk : dest.head? = some '0' → LeadingAgrees src
  short : dest.head? ≠ some '0' → dest.head? ≠ some '+' →
    Android.isPlausibleNationalNumber (Android.countryCode (src.drop 1)) dest.length = false

/-- All four make the same of a destination. -/
def SameNumber (dest src : List Char) : Prop :=
  Android.SmsManager.normalizeToE164 dest src = normalizeToE164 dest src ∧
    Android.ConversationRepository.normalizePhoneNumber dest src = normalizeToE164 dest src ∧
      Android.VoiceCallManager.normalizeToE164 dest src = normalizeToE164 dest src

theorem not_sameNumber_of_blank {dest src : List Char} (hdest : validatePhoneNumber dest = .ok ())
    (hsrc : isE164 src = true) (htrim : trim dest ≠ dest) : ¬ SameNumber dest src := by
  rintro ⟨-, hrepository, -⟩
  obtain ⟨c, hc, hnot⟩ : ∃ c ∈ dest, ¬ IsNumeral c := by
    by_contra hall
    push Not at hall
    exact htrim (trim_eq_self hall)
  have hkept : c ∈ Android.ConversationRepository.normalizePhoneNumber dest src :=
    mem_normalizePhoneNumber hc fun h => hnot (.inr (h ▸ rfl))
  rw [hrepository] at hkept
  exact hnot (isNumeral_normalizeToE164 hdest hsrc c hkept)

theorem sameNumber_of_isE164 {dest src : List Char} (htrim : trim dest = dest)
    (h : isE164 dest = true) : SameNumber dest src ∧ Agreeing dest src := by
  have hserver : normalizeToE164 dest src = dest := by
    rw [normalizeToE164_of_isE164 (by rwa [htrim]), htrim]
  have hblank := Android.trim_eq_self (isNumeral_of_isE164 h)
  obtain ⟨digits, rfl, -⟩ := isE164_iff.mp h
  refine ⟨⟨?_, ?_, ?_⟩, ⟨htrim, fun hzero => absurd hzero (by simp), fun _ hplus => absurd rfl hplus⟩⟩
  · rw [hserver, Android.SmsManager.normalizeToE164, hblank]
    exact if_pos rfl
  · rw [hserver, Android.ConversationRepository.normalizePhoneNumber]
    exact if_pos rfl
  · rw [hserver, Android.VoiceCallManager.normalizeToE164, hblank]
    exact if_pos rfl

section
variable {dest digits : List Char}

/-- A local number with its 0. -/
theorem sameNumber_of_trunk (htrim : trim dest = dest) (hlocal : isLocalNumber dest = true)
    (hsrc : isE164 ('+' :: digits) = true) (hlength : 2 ≤ digits.length)
    (hzero : dest.head? = some '0') :
    SameNumber dest ('+' :: digits) ↔ LeadingAgrees ('+' :: digits) := by
  have hserver : normalizeToE164 dest ('+' :: digits) =
      '+' :: Android.countryCode digits ++ dest.drop 1 := by
    rw [normalizeToE164_of_isLocal (by rwa [htrim]) hsrc hlength, htrim, if_pos hzero]
  have hblank := Android.trim_eq_self (isNumeral_of_isLocal hlocal)
  have hplus := head_ne_of_isLocal hlocal
  have hlong : 1 < dest.length := by
    have := (isLocalNumber_iff.mp hlocal).2.1
    omega
  have hsms : Android.SmsManager.normalizeToE164 dest ('+' :: digits) =
      normalizeToE164 dest ('+' :: digits) := by
    rw [hserver, Android.SmsManager.normalizeToE164, hblank, if_neg hplus,
      if_neg (by simp; omega), if_pos hzero]
    rfl
  have hvoice : Android.VoiceCallManager.normalizeToE164 dest ('+' :: digits) =
      normalizeToE164 dest ('+' :: digits) := by
    rw [hserver, Android.VoiceCallManager.normalizeToE164, hblank, if_neg hplus,
      if_neg (by simp; omega), if_pos ⟨hzero, hlong⟩]
    rfl
  have hrepository : Android.ConversationRepository.normalizePhoneNumber dest ('+' :: digits) =
      normalizeToE164 dest ('+' :: digits) ↔ LeadingAgrees ('+' :: digits) := by
    rw [← extractCountryPrefix_eq_iff, hserver, Android.ConversationRepository.normalizePhoneNumber,
      if_neg hplus, if_neg (by simp)]
    cases hprefix : Android.ConversationRepository.extractCountryPrefix ('+' :: digits) with
    | none =>
      refine iff_of_false (fun h => hplus ?_) (fun h => nomatch h)
      simp only at h
      rw [h]
      rfl
    | some code =>
      simp only [if_pos (And.intro hzero hlong), Option.some.injEq, List.cons_append,
        List.cons.injEq, true_and, List.append_cancel_right_eq]
  exact ⟨fun h => hrepository.mp h.2.1, fun h => ⟨hsms, hrepository.mpr h, hvoice⟩⟩

/-- A local number without a 0 is left as it is, but where a call is made. -/
theorem sameNumber_of_short (htrim : trim dest = dest) (hlocal : isLocalNumber dest = true)
    (hsrc : isE164 ('+' :: digits) = true) (hlength : 2 ≤ digits.length)
    (hzero : dest.head? ≠ some '0') :
    SameNumber dest ('+' :: digits) ↔
      Android.isPlausibleNationalNumber (Android.countryCode digits) dest.length = false := by
  have hserver : normalizeToE164 dest ('+' :: digits) = dest := by
    rw [normalizeToE164_of_isLocal (by rwa [htrim]) hsrc hlength, htrim, if_neg hzero]
  have hblank := Android.trim_eq_self (isNumeral_of_isLocal hlocal)
  have hplus := head_ne_of_isLocal hlocal
  have hdigits : dest.filter Android.isDigit = dest :=
    List.filter_eq_self.mpr fun c hc => Android.isDigit_of ((isLocalNumber_iff.mp hlocal).1 c hc)
  have hsms : Android.SmsManager.normalizeToE164 dest ('+' :: digits) =
      normalizeToE164 dest ('+' :: digits) := by
    rw [hserver, Android.SmsManager.normalizeToE164, hblank, if_neg hplus,
      if_neg (by simp; omega), if_neg hzero]
  have hrepository : Android.ConversationRepository.normalizePhoneNumber dest ('+' :: digits) =
      normalizeToE164 dest ('+' :: digits) := by
    rw [hserver, Android.ConversationRepository.normalizePhoneNumber, if_neg hplus, if_neg (by simp)]
    split
    · rfl
    · exact if_neg fun h => hzero h.1
  have hvoice : Android.VoiceCallManager.normalizeToE164 dest ('+' :: digits) =
      normalizeToE164 dest ('+' :: digits) ↔
        Android.isPlausibleNationalNumber (Android.countryCode digits) dest.length = false := by
    rw [hserver, Android.VoiceCallManager.normalizeToE164, hblank, if_neg hplus,
      if_neg (by simp; omega), if_neg fun h => hzero h.1, hdigits]
    simp only [List.drop_one, List.tail_cons]
    cases Android.isPlausibleNationalNumber (Android.countryCode digits) dest.length with
    | false => simp
    | true =>
      refine iff_of_false (fun h => hplus ?_) (by simp)
      rw [← h]
      rfl
  exact ⟨fun h => hvoice.mp h.2.2, fun h => ⟨hsms, hrepository, hvoice.mpr h⟩⟩

end

/-- **One number.** -/
theorem same_number_iff {dest src : List Char} (hdest : validatePhoneNumber dest = .ok ())
    (hsrc : isE164 src = true) : SameNumber dest src ↔ Agreeing dest src := by
  by_cases htrim : trim dest = dest
  · obtain ⟨digits, rfl, hlength, -⟩ := digits_of_isE164 hsrc
    obtain he164 | hlocal := accepted_iff.mp hdest
    · rw [htrim] at he164
      exact iff_of_true (sameNumber_of_isE164 htrim he164).1 (sameNumber_of_isE164 htrim he164).2
    · rw [htrim] at hlocal
      by_cases hzero : dest.head? = some '0'
      · rw [sameNumber_of_trunk htrim hlocal hsrc hlength hzero]
        exact ⟨fun h => ⟨htrim, fun _ => h, fun hne => absurd hzero hne⟩, fun h => h.trunk hzero⟩
      · rw [sameNumber_of_short htrim hlocal hsrc hlength hzero]
        exact ⟨fun h => ⟨htrim, fun h => absurd h hzero, fun _ _ => h⟩,
          fun h => h.short hzero (head_ne_of_isLocal hlocal)⟩
  · exact iff_of_false (not_sameNumber_of_blank hdest hsrc htrim) fun h => htrim h.written

/-- A Swedish number with its 0, and one that is dialled with the 10 digits of a country code of one. -/
theorem same_number_iff_swedish :
    SameNumber "0701234567".toList "+46700000000".toList ↔
      Agreeing "0701234567".toList "+46700000000".toList :=
  same_number_iff (by decide +kernel) (by decide +kernel)

/-- A Finnish number gets the country code 358, and 35 in the repository. -/
theorem two_threads :
    validatePhoneNumber "0401234567".toList = .ok () ∧ isE164 "+358401111111".toList = true ∧
      ¬ SameNumber "0401234567".toList "+358401111111".toList := by
  refine ⟨by decide +kernel, by decide +kernel, fun h => ?_⟩
  exact absurd h.2.1 (by decide +kernel)

/-! ## One thread -/

/-- The forms in which a number may be written. -/
inductive Form
  /-- E.164. -/
  | international
  /-- Without the plus. -/
  | bare
  /-- With a 0 instead of the country code of a provider's number. -/
  | national
  deriving DecidableEq, Repr

/-- A number, as it is written beside the number of a provider. -/
def Form.write (number provider : List Char) : Form → Option (List Char)
  | international => some number
  | bare => some (number.drop 1)
  | national => do
    let code ← extractCountryCode provider
    if code <+: number.drop 1 then some ('0' :: (number.drop 1).drop code.length) else none

/-- What is sent to a number has that number as its key. -/
theorem normalizeToE164_write {number provider dest : List Char} {f : Form}
    (hnumber : isE164 number = true) (hprovider : isE164 provider = true) (hform : f ≠ .bare)
    (hwrite : f.write number provider = some dest) : normalizeToE164 dest provider = number := by
  obtain ⟨digits, rfl, hdigits, -⟩ := isE164_iff.mp hnumber
  cases f with
  | international =>
    cases hwrite
    have htrim := trim_eq_self (isNumeral_of_isE164 hnumber)
    rw [normalizeToE164_of_isE164 (by rwa [htrim]), htrim]
  | bare => exact absurd rfl hform
  | national =>
    obtain ⟨src, rfl, hlength, -⟩ := digits_of_isE164 hprovider
    simp only [Form.write, extractCountryCode_eq hlength, List.drop_one, List.tail_cons,
      Option.bind_eq_bind, Option.bind_some, Option.ite_none_right_eq_some, Option.some.injEq] at hwrite
    obtain ⟨⟨rest, rfl⟩, rfl⟩ := hwrite
    rw [List.drop_left]
    have hrest : ∀ c ∈ '0' :: rest, IsNumeral c :=
      List.forall_mem_cons.mpr
        ⟨.inr rfl, fun c hc => .inr (hdigits c (List.mem_append_right _ hc))⟩
    have hnot : isE164 ('0' :: rest) = false := rfl
    simp only [normalizeToE164, trim_eq_self hrest, hnot, hprovider, extractCountryCode_eq hlength,
      Bool.false_eq_true, not_true_eq_false, if_false, List.head?_cons, if_true, List.drop_one,
      List.tail_cons, List.cons_append]

/-- What comes in from a number has it as its key exactly with its country, and not as short as a short
code. -/
theorem normalizeInboundNumber_write_iff {number provider value : List Char} {f : Form}
    (hnumber : isE164 number = true) (hprovider : isE164 provider = true)
    (hwrite : f.write number provider = some value) :
    normalizeInboundNumber value = number ↔
      f = .international ∨ (f = .bare ∧ 8 ≤ number.length) := by
  obtain ⟨digits, rfl, hdigits, hzero, hlength, -⟩ := isE164_iff.mp hnumber
  cases f with
  | international =>
    cases hwrite
    exact iff_of_true rfl (.inl rfl)
  | bare =>
    cases hwrite
    have hall : digits.all Char.isDigit = true := List.all_eq_true.mpr hdigits
    have hplus : digits.head? ≠ some '+' := fun h =>
      absurd (hdigits '+' (List.mem_of_head? h)) (by decide)
    have hne : digits ≠ [] := fun h => by simp [h] at hlength
    simp only [List.drop_one, List.tail_cons, List.length_cons, normalizeInboundNumber, if_neg hne,
      if_neg hplus, hall, not_true_eq_false, if_false, hzero, ne_eq, not_false_eq_true, true_and,
      reduceCtorEq, false_or]
    by_cases hshort : digits.length ≤ 6
    · rw [if_pos hshort]
      refine iff_of_false (fun h => hplus ?_) (by omega)
      rw [h]
      rfl
    · rw [if_neg hshort]
      exact iff_of_true rfl (by omega)
  | national =>
    obtain ⟨src, rfl, hsrc, -⟩ := digits_of_isE164 hprovider
    simp only [Form.write, extractCountryCode_eq hsrc, List.drop_one, List.tail_cons,
      Option.bind_eq_bind, Option.bind_some, Option.ite_none_right_eq_some, Option.some.injEq] at hwrite
    obtain ⟨⟨rest, rfl⟩, rfl⟩ := hwrite
    rw [List.drop_left]
    have hall : ('0' :: rest).all Char.isDigit = true :=
      List.all_eq_true.mpr (List.forall_mem_cons.mpr
        ⟨rfl, fun c hc => hdigits c (List.mem_append_right _ hc)⟩)
    refine iff_of_false (fun h => hzero ?_) (by simp)
    simp only [normalizeInboundNumber, hall, not_true_eq_false, if_false, List.head?_cons] at h
    rw [← (List.cons.inj h).2]
    rfl

/-- **One thread.** A message from a number, and a reply to it. -/
theorem same_thread_iff {number provider value dest : List Char} {inbound outbound : Form}
    (hnumber : isE164 number = true) (hprovider : isE164 provider = true)
    (hvalue : inbound.write number provider = some value) (hform : outbound ≠ .bare)
    (hdest : outbound.write number provider = some dest) :
    normalizeInboundNumber value = normalizeToE164 dest provider ↔
      inbound = .international ∨ (inbound = .bare ∧ 8 ≤ number.length) := by
  rw [normalizeToE164_write hnumber hprovider hform hdest]
  exact normalizeInboundNumber_write_iff hnumber hprovider hvalue

theorem same_thread_iff_swedish :
    normalizeInboundNumber "46701234567".toList =
        normalizeToE164 "0701234567".toList "+46700000000".toList ↔
      Form.bare = .international ∨ (Form.bare = .bare ∧ 8 ≤ "+46701234567".toList.length) :=
  @same_thread_iff _ _ _ _ .bare .national (by decide +kernel) (by decide +kernel) (by decide +kernel)
    (by decide) (by decide +kernel)

/-- A national number is stored with a plus, but without its country. -/
theorem reply_elsewhere :
    Form.national.write "+46701234567".toList "+46700000000".toList = some "0701234567".toList ∧
      normalizeInboundNumber "0701234567".toList = "+0701234567".toList ∧
        normalizeToE164 "0701234567".toList "+46700000000".toList = "+46701234567".toList := by
  decide +kernel

end Svarla.Numbers
