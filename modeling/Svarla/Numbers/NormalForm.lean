import Mathlib
import Svarla.Numbers.Normalize

/-!
# The form of a normalized number

What `normalizeToE164` makes of an accepted number is accepted again, is left as it is, and is in E.164 if the
number has its trunk digit, except where the country code and the national number have more than 15 digits
together (`normalized_iff`).
-/

namespace Svarla.Numbers

/-- The country code of the provider and the national number do not fit. -/
def Overlong (dest src : List Char) : Prop :=
  isE164 src = true ∧ (trim dest).head? = some '0' ∧
    ∃ countryCode, extractCountryCode src = some countryCode ∧
      15 < countryCode.length + ((trim dest).length - 1)

/-- What a normalized number should be. -/
structure Sound (dest src : List Char) : Prop where
  accepted : validatePhoneNumber (normalizeToE164 dest src) = .ok ()
  stable : normalizeToE164 (normalizeToE164 dest src) src = normalizeToE164 dest src
  international : isE164 src = true → dest.head? = some '0' → isE164 (normalizeToE164 dest src) = true

/-! ## Texts without blanks -/

theorem trim_isE164 {s : List Char} (h : isE164 s = true) : trim s = s :=
  trim_eq_self (isNumeral_of_isE164 h)

theorem trim_isLocal {s : List Char} (h : isLocalNumber s = true) : trim s = s :=
  trim_eq_self (isNumeral_of_isLocal h)

theorem accepted_of_isE164 {s : List Char} (h : isE164 s = true) : validatePhoneNumber s = .ok () :=
  accepted_iff.mpr (.inl (by rwa [trim_isE164 h]))

theorem accepted_of_isLocal {s : List Char} (h : isLocalNumber s = true) :
    validatePhoneNumber s = .ok () :=
  accepted_iff.mpr (.inr (by rwa [trim_isLocal h]))

/-- A trunk digit is no blank. -/
theorem head_trim {dest : List Char} (h : dest.head? = some '0') (hne : trim dest ≠ []) :
    (trim dest).head? = some '0' := by
  cases dest with
  | nil => cases h
  | cons d rest =>
    cases Option.some.inj h
    have hprefix : trim ('0' :: rest) <+: '0' :: rest := by
      rw [trim, trimBy, List.dropWhile_cons_of_neg (by decide), ← List.reverse_suffix,
        List.reverse_reverse]
      exact List.dropWhile_suffix _
    obtain ⟨blanks, hblanks⟩ := hprefix
    cases htrim : trim ('0' :: rest) with
    | nil => exact absurd htrim hne
    | cons d more =>
      rw [htrim, List.cons_append, List.cons.injEq] at hblanks
      rw [hblanks.1]
      rfl

/-! ## Country codes -/

theorem countryCode_eq_take (digits : List Char) :
    ∃ n, 1 ≤ n ∧ Android.countryCode digits = digits.take n := by
  unfold Android.countryCode
  split
  · exact ⟨1, by omega, rfl⟩
  · split
    · exact ⟨2, by omega, rfl⟩
    · exact ⟨3, by omega, rfl⟩

/-- The country code of a number begins as the number does. -/
theorem head_countryCode (digits : List Char) : (Android.countryCode digits).head? = digits.head? := by
  obtain ⟨n, hn, htake⟩ := countryCode_eq_take digits
  rw [htake]
  match n, hn, digits with
  | _ + 1, _, [] => rfl
  | _ + 1, _, _ :: _ => rfl

/-! ## What a number is made of -/

section
variable {dest src : List Char}

/-- Without a country code, or without a trunk digit, a number is only trimmed. -/
theorem normalizeToE164_of_kept (h : isLocalNumber (trim dest) = true)
    (hkept : ¬ (isE164 src = true ∧ (trim dest).head? = some '0')) :
    normalizeToE164 dest src = trim dest := by
  by_cases hsrc : isE164 src = true
  · obtain ⟨digits, rfl, hlength, -⟩ := digits_of_isE164 hsrc
    rw [normalizeToE164_of_isLocal h hsrc hlength, if_neg fun hzero => hkept ⟨hsrc, hzero⟩]
  · simp only [normalizeToE164, not_isE164_of_isLocal h, hsrc, Bool.false_eq_true, not_false_eq_true,
      if_true, if_false]

/-- A country code before a national number. -/
theorem isE164_prefixed_iff {digits national : List Char} (hdigits : isE164 ('+' :: digits) = true)
    (hnational : ∀ c ∈ national, c.isDigit = true) (hlong : 2 ≤ national.length) :
    isE164 ('+' :: Android.countryCode digits ++ national) = true ↔
      (Android.countryCode digits).length + national.length ≤ 15 := by
  obtain ⟨_, heq, hall, hne, hlength, -⟩ := isE164_iff.mp hdigits
  cases heq
  have hhead := head_countryCode digits
  match hcode : Android.countryCode digits with
  | [] =>
    rw [hcode] at hhead
    rw [List.head?_eq_none_iff.mp hhead.symm] at hlength
    exact absurd hlength (by decide)
  | d :: code =>
    rw [hcode, List.head?_cons] at hhead
    rw [isE164_iff]
    constructor
    · rintro ⟨_, hcons, -, -, -, hle⟩
      cases hcons
      have hlength : (d :: code ++ national).length ≤ 15 := hle
      rwa [List.length_append] at hlength
    · intro hle
      refine ⟨d :: code ++ national, rfl, fun c hc => ?_, ?_, ?_, by rwa [List.length_append]⟩
      · obtain hc | hc := List.mem_append.mp hc
        · exact isDigit_countryCode hall c (hcode ▸ hc)
        · exact hnational c hc
      · rw [List.cons_append, List.head?_cons, hhead]
        exact hne
      · rw [List.length_append]
        omega

theorem not_isLocal_plus (s : List Char) : isLocalNumber ('+' :: s) = false :=
  Bool.eq_false_iff.mpr fun h => head_ne_of_isLocal h rfl

/-! ## Which numbers are in the form -/

/-- A number in E.164 does not begin with a 0. -/
theorem sound_of_isE164 (he164 : isE164 (trim dest) = true) : Sound dest src ∧ ¬ Overlong dest src := by
  have hnormal : normalizeToE164 dest src = trim dest := normalizeToE164_of_isE164 he164
  have htrim := trim_isE164 he164
  refine ⟨⟨?_, ?_, fun _ _ => ?_⟩, fun hover => ?_⟩
  · rw [hnormal]
    exact accepted_of_isE164 he164
  · rw [hnormal, normalizeToE164_of_isE164 (by rwa [htrim]), htrim]
  · rwa [hnormal]
  · obtain ⟨digits, hplus, -⟩ := isE164_iff.mp he164
    have hzero := hover.2.1
    rw [hplus] at hzero
    cases hzero

theorem sound_of_kept (hlocal : isLocalNumber (trim dest) = true)
    (hkept : ¬ (isE164 src = true ∧ (trim dest).head? = some '0')) :
    Sound dest src ∧ ¬ Overlong dest src := by
  have hnormal := normalizeToE164_of_kept hlocal hkept
  have htrim := trim_isLocal hlocal
  refine ⟨⟨?_, ?_, fun hsrc hzero => ?_⟩, fun hover => hkept ⟨hover.1, hover.2.1⟩⟩
  · rw [hnormal]
    exact accepted_of_isLocal hlocal
  · rw [hnormal, normalizeToE164_of_kept (by rwa [htrim]) (by rwa [htrim]), htrim]
  · refine absurd ⟨hsrc, head_trim hzero fun hnil => ?_⟩ hkept
    rw [hnil] at hlocal
    exact absurd hlocal (by decide)

/-- A number with a trunk digit is in the form if it is in E.164: it begins with a plus, and so is no local
number. -/
theorem sound_prefixed_iff (hlocal : isLocalNumber (trim dest) = true) (hsrc : isE164 src = true)
    (hzero : (trim dest).head? = some '0') : Sound dest src ↔ ¬ Overlong dest src := by
  have hdest := accepted_iff.mpr (.inr hlocal)
  obtain ⟨digits, rfl, hlength, -⟩ := digits_of_isE164 hsrc
  have hcode := extractCountryCode_eq hlength
  have hnational : ∀ c ∈ (trim dest).drop 1, c.isDigit = true := fun c hc =>
    (isLocalNumber_iff.mp hlocal).1 c (List.mem_of_mem_drop hc)
  have hlong : 2 ≤ ((trim dest).drop 1).length := by
    have := (isLocalNumber_iff.mp hlocal).2.1
    rw [List.length_drop]
    omega
  have hnormal := normalizeToE164_of_isLocal hlocal hsrc hlength
  rw [if_pos hzero] at hnormal
  have hiff := isE164_prefixed_iff hsrc hnational hlong
  rw [← hnormal, List.length_drop] at hiff
  constructor
  · rintro hsound ⟨-, -, countryCode, hsome, hlt⟩
    rw [hcode] at hsome
    cases hsome
    have htrim := trim_eq_self (isNumeral_normalizeToE164 hdest hsrc)
    obtain he164 | hlocal := accepted_iff.mp hsound.accepted
    · rw [htrim, hiff] at he164
      omega
    · rw [htrim, hnormal, List.cons_append, not_isLocal_plus] at hlocal
      cases hlocal
  · intro hfits
    have he164 : isE164 (normalizeToE164 dest ('+' :: digits)) = true :=
      hiff.mpr (Nat.le_of_not_lt fun hlt => hfits ⟨hsrc, hzero, _, hcode, hlt⟩)
    have htrim := trim_isE164 he164
    refine ⟨accepted_of_isE164 he164, ?_, fun _ _ => he164⟩
    rw [normalizeToE164_of_isE164 (by rwa [htrim]), htrim]

/-- **A normalized number is accepted, left as it is, and in E.164** if it had a trunk digit, exactly where it
is not too long. -/
theorem normalized_iff (hdest : validatePhoneNumber dest = .ok ()) :
    Sound dest src ↔ ¬ Overlong dest src := by
  obtain he164 | hlocal := accepted_iff.mp hdest
  · exact iff_of_true (sound_of_isE164 he164).1 (sound_of_isE164 he164).2
  · by_cases hprefixed : isE164 src = true ∧ (trim dest).head? = some '0'
    · exact sound_prefixed_iff hlocal hprefixed.1 hprefixed.2
    · exact iff_of_true (sound_of_kept hlocal hprefixed).1 (sound_of_kept hlocal hprefixed).2

/-- A Swedish number of the greatest length that fits. -/
theorem normalized_longest :
    ¬ Overlong " 01234567890123".toList "+46701234567".toList ∧
      (Sound " 01234567890123".toList "+46701234567".toList ↔
        ¬ Overlong " 01234567890123".toList "+46701234567".toList) := by
  refine ⟨?_, normalized_iff rfl⟩
  rintro ⟨-, -, countryCode, hcode, hlt⟩
  have hcountry : extractCountryCode "+46701234567".toList = some ['4', '6'] := by decide
  rw [hcountry] at hcode
  cases hcode
  exact absurd hlt (by decide)

/-- A local number of 15 digits gets 16 of them behind the plus, and is not accepted again. -/
theorem overlong_rejected :
    ¬ ∀ dest src : List Char, validatePhoneNumber dest = .ok () →
      validatePhoneNumber (normalizeToE164 dest src) = .ok () ∧
        normalizeToE164 (normalizeToE164 dest src) src = normalizeToE164 dest src ∧
          (isE164 src = true → dest.head? = some '0' → isE164 (normalizeToE164 dest src) = true) := by
  intro hall
  have haccepted := (hall "012345678901234".toList "+46701234567".toList (by rfl)).1
  exact absurd haccepted (by decide)

end

end Svarla.Numbers
