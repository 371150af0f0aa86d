import Mathlib.Data.List.Basic

/-!
# UTF-16 as Go's `unicode/utf16` computes it

`encode` turns runes into code units, two for a rune outside the Basic Multilingual Plane, and
`decode` turns units back, a lone surrogate into U+FFFD. `decode_encode` is the round trip on
scalar values. A receiver that decodes a text in pieces needs more: the pieces must be encodings
themselves. `encode_split` says where such a cut may fall: anywhere but inside a surrogate pair.
-/

namespace Svarla.Lib.Utf16

/-- A high (leading) surrogate. -/
def IsHigh (u : UInt16) : Prop := 0xD800 ≤ u.toNat ∧ u.toNat ≤ 0xDBFF

/-- A low (trailing) surrogate. -/
def IsLow (u : UInt16) : Prop := 0xDC00 ≤ u.toNat ∧ u.toNat ≤ 0xDFFF

instance (u : UInt16) : Decidable (IsHigh u) := inferInstanceAs (Decidable (_ ∧ _))

instance (u : UInt16) : Decidable (IsLow u) := inferInstanceAs (Decidable (_ ∧ _))

/-- The code units of one rune. -/
def encodeRune (c : Char) : List UInt16 :=
  if c.toNat < 0x10000 then [UInt16.ofNat c.toNat]
  else
    [UInt16.ofNat (0xD800 + (c.toNat - 0x10000) / 0x400),
      UInt16.ofNat (0xDC00 + (c.toNat - 0x10000) % 0x400)]

/-- The code units of a run of runes. -/
def encode (runes : List Char) : List UInt16 :=
  runes.flatMap encodeRune

/-- The rune of a surrogate pair. -/
def decodePair (u v : UInt16) : Char :=
  Char.ofNat ((u.toNat - 0xD800) * 0x400 + (v.toNat - 0xDC00) + 0x10000)

/-- The runes of a run of code units; a surrogate without its partner is U+FFFD. -/
def decode : List UInt16 → List Char
  | [] => []
  | [u] => [if ¬ IsHigh u ∧ ¬ IsLow u then Char.ofNat u.toNat else Char.ofNat 0xFFFD]
  | u :: v :: rest =>
    if ¬ IsHigh u ∧ ¬ IsLow u then Char.ofNat u.toNat :: decode (v :: rest)
    else if IsHigh u ∧ IsLow v then decodePair u v :: decode rest
    else Char.ofNat 0xFFFD :: decode (v :: rest)

@[simp] theorem encode_nil : encode [] = [] := rfl

@[simp] theorem encode_cons (c : Char) (cs : List Char) :
    encode (c :: cs) = encodeRune c ++ encode cs := rfl

@[simp] theorem encode_append (a b : List Char) : encode (a ++ b) = encode a ++ encode b :=
  List.flatMap_append

/-- A Unicode scalar value is no surrogate and below 0x110000. -/
theorem char_bounds (c : Char) :
    c.toNat < 0x110000 ∧ ¬ (0xD800 ≤ c.toNat ∧ c.toNat ≤ 0xDFFF) := by
  have h : c.toNat < 0xD800 ∨ (0xDFFF < c.toNat ∧ c.toNat < 0x110000) := c.valid
  omega

/-- A unit that is no surrogate decodes by itself. -/
theorem decode_cons_bmp {u : UInt16} (h : ¬ IsHigh u ∧ ¬ IsLow u) (rest : List UInt16) :
    decode (u :: rest) = Char.ofNat u.toNat :: decode rest := by
  cases rest <;> simp [decode, h]

/-- Decoding takes one encoded rune off the front. -/
theorem decode_encodeRune_append (c : Char) (rest : List UInt16) :
    decode (encodeRune c ++ rest) = c :: decode rest := by
  obtain ⟨hlt, hsurr⟩ := char_bounds c
  by_cases hbmp : c.toNat < 0x10000
  · have hto : (UInt16.ofNat c.toNat).toNat = c.toNat := by
      rw [UInt16.toNat_ofNat']
      exact Nat.mod_eq_of_lt (by omega)
    have hnone : ¬ IsHigh (UInt16.ofNat c.toNat) ∧ ¬ IsLow (UInt16.ofNat c.toNat) := by
      unfold IsHigh IsLow
      rw [hto]
      omega
    rw [encodeRune, if_pos hbmp, List.singleton_append, decode_cons_bmp hnone, hto,
      Char.ofNat_toNat]
  · have hhi : (UInt16.ofNat (0xD800 + (c.toNat - 0x10000) / 0x400)).toNat =
        0xD800 + (c.toNat - 0x10000) / 0x400 := by
      rw [UInt16.toNat_ofNat']
      exact Nat.mod_eq_of_lt (by omega)
    have hlo : (UInt16.ofNat (0xDC00 + (c.toNat - 0x10000) % 0x400)).toNat =
        0xDC00 + (c.toNat - 0x10000) % 0x400 := by
      rw [UInt16.toNat_ofNat']
      exact Nat.mod_eq_of_lt (by omega)
    have hpair : IsHigh (UInt16.ofNat (0xD800 + (c.toNat - 0x10000) / 0x400)) ∧
        IsLow (UInt16.ofNat (0xDC00 + (c.toNat - 0x10000) % 0x400)) := by
      unfold IsHigh IsLow
      rw [hhi, hlo]
      omega
    have hrune : decodePair (UInt16.ofNat (0xD800 + (c.toNat - 0x10000) / 0x400))
        (UInt16.ofNat (0xDC00 + (c.toNat - 0x10000) % 0x400)) = c := by
      unfold decodePair
      rw [hhi, hlo, show (0xD800 + (c.toNat - 0x10000) / 0x400 - 0xD800) * 0x400 +
        (0xDC00 + (c.toNat - 0x10000) % 0x400 - 0xDC00) + 0x10000 = c.toNat by omega,
        Char.ofNat_toNat]
    rw [encodeRune, if_neg hbmp, List.cons_append, List.singleton_append, decode,
      if_neg (fun h => h.1 hpair.1), if_pos hpair, hrune]

/-- **Round trip.** -/
theorem decode_encode (runes : List Char) : decode (encode runes) = runes := by
  induction runes with
  | nil => rfl
  | cons c cs ih => rw [encode_cons, decode_encodeRune_append, ih]

/-- A rune is one unit that is no surrogate, or a high surrogate and a low one. -/
theorem encodeRune_cases (c : Char) :
    (∃ u, encodeRune c = [u] ∧ ¬ IsHigh u ∧ ¬ IsLow u) ∨
      ∃ u v, encodeRune c = [u, v] ∧ IsHigh u ∧ IsLow v := by
  obtain ⟨hlt, hsurr⟩ := char_bounds c
  unfold encodeRune IsHigh IsLow
  split
  · refine .inl ⟨_, rfl, ?_⟩
    rw [UInt16.toNat_ofNat', Nat.mod_eq_of_lt (by omega)]
    omega
  · refine .inr ⟨_, _, rfl, ?_⟩
    rw [UInt16.toNat_ofNat', UInt16.toNat_ofNat', Nat.mod_eq_of_lt (by omega),
      Nat.mod_eq_of_lt (by omega)]
    omega

/-- No unit is both a high and a low surrogate. -/
theorem IsHigh.not_isLow {u : UInt16} (h : IsHigh u) : ¬ IsLow u := by
  unfold IsHigh at h
  unfold IsLow
  omega

/-- **Where an encoding may be cut.** A cut that does not follow a high surrogate, or that precedes
one, falls between two runes. -/
theorem encode_split {runes : List Char} {k : Nat}
    (hcut : (∀ u, 0 < k → (encode runes)[k - 1]? = some u → ¬ IsHigh u) ∨
      ∃ u, (encode runes)[k]? = some u ∧ IsHigh u) :
    ∃ front back, runes = front ++ back ∧ (encode runes).take k = encode front ∧
      (encode runes).drop k = encode back := by
  induction runes generalizing k with
  | nil => exact ⟨[], [], rfl, by simp, by simp⟩
  | cons c cs ih =>
    cases k with
    | zero => exact ⟨[], c :: cs, rfl, rfl, rfl⟩
    | succ k =>
      rcases encodeRune_cases c with ⟨u, hu, hnh, -⟩ | ⟨u, v, huv, hh, hl⟩
      · -- one unit: the cut lies `k` units into the rest
        obtain ⟨front, back, rfl, htake, hdrop⟩ := ih (k := k) (by
          rcases hcut with h | ⟨x, hx, hxh⟩
          · refine .inl fun x hk hx => h x (by omega) ?_
            rw [encode_cons, hu, Nat.add_sub_cancel, List.singleton_append,
              show k = (k - 1) + 1 by omega, List.getElem?_cons_succ]
            exact hx
          · refine .inr ⟨x, ?_, hxh⟩
            rw [encode_cons, hu, List.singleton_append, List.getElem?_cons_succ] at hx
            exact hx)
        refine ⟨c :: front, back, rfl, ?_, ?_⟩
        · rw [encode_cons, hu, List.singleton_append, List.take_succ_cons, htake, encode_cons, hu,
            List.singleton_append]
        · rw [encode_cons, hu, List.singleton_append, List.drop_succ_cons, hdrop]
      · cases k with
        | zero =>
          -- a cut inside the pair follows its high surrogate and precedes its low one
          exfalso
          rw [encode_cons, huv] at hcut
          rcases hcut with h | ⟨x, hx, hxh⟩
          · exact h u (by omega) rfl hh
          · cases hx
            exact hxh.not_isLow hl
        | succ k =>
          obtain ⟨front, back, rfl, htake, hdrop⟩ := ih (k := k) (by
            rcases hcut with h | ⟨x, hx, hxh⟩
            · refine .inl fun x hk hx => h x (by omega) ?_
              rw [encode_cons, huv, Nat.add_sub_cancel, List.cons_append, List.singleton_append,
                show k + 1 = (k - 1) + 1 + 1 by omega, List.getElem?_cons_succ,
                List.getElem?_cons_succ]
              exact hx
            · refine .inr ⟨x, ?_, hxh⟩
              rw [encode_cons, huv, List.cons_append, List.singleton_append,
                List.getElem?_cons_succ, List.getElem?_cons_succ] at hx
              exact hx)
          refine ⟨c :: front, back, rfl, ?_, ?_⟩
          · rw [encode_cons, huv, List.cons_append, List.singleton_append, List.take_succ_cons,
              List.take_succ_cons, htake, encode_cons, huv, List.cons_append,
              List.singleton_append]
          · rw [encode_cons, huv, List.cons_append, List.singleton_append, List.drop_succ_cons,
              List.drop_succ_cons, hdrop]

theorem decode_ne_nil {u : UInt16} {rest : List UInt16} : decode (u :: rest) ≠ [] := by
  cases rest with
  | nil => simp [decode]
  | cons v rest =>
    rw [decode]
    split
    · exact List.cons_ne_nil _ _
    · split <;> exact List.cons_ne_nil _ _

/-- A pair is no U+FFFD. -/
theorem decodePair_ne {u v : UInt16} (hu : IsHigh u) (hv : IsLow v) :
    decodePair u v ≠ Char.ofNat 0xFFFD := by
  intro heq
  have hlt : (u.toNat - 0xD800) * 0x400 + (v.toNat - 0xDC00) + 0x10000 < 0x110000 := by
    unfold IsHigh at hu
    unfold IsLow at hv
    omega
  have hvalid : ((u.toNat - 0xD800) * 0x400 + (v.toNat - 0xDC00) + 0x10000).isValidChar :=
    .inr ⟨by omega, hlt⟩
  have hnat := congrArg Char.toNat heq
  rw [decodePair, Char.ofNat, dif_pos hvalid] at hnat
  have hself : (u.toNat - 0xD800) * 0x400 + (v.toNat - 0xDC00) + 0x10000 = 0xFFFD := hnat
  omega

/-- **More units are another text.** -/
theorem decode_append_ne {units more : List UInt16} (hmore : more ≠ []) :
    decode (units ++ more) ≠ decode units := by
  induction units using decode.induct with
  | case1 =>
    obtain ⟨u, rest, rfl⟩ := List.exists_cons_of_ne_nil hmore
    exact decode_ne_nil
  | case2 u =>
    obtain ⟨v, rest, rfl⟩ := List.exists_cons_of_ne_nil hmore
    rw [List.singleton_append, decode, decode]
    split
    · exact fun heq => decode_ne_nil (List.cons.inj heq).2
    · split
      · next hpair => exact fun heq => decodePair_ne hpair.1 hpair.2 (List.cons.inj heq).1
      · exact fun heq => decode_ne_nil (List.cons.inj heq).2
  | case3 u v rest hnone ih =>
    rw [List.cons_append, List.cons_append, decode, decode, if_pos hnone, if_pos hnone]
    exact fun heq => ih (List.cons.inj heq).2
  | case4 u v rest hnone hpair ih =>
    rw [List.cons_append, List.cons_append, decode, decode, if_neg hnone, if_neg hnone, if_pos hpair,
      if_pos hpair]
    exact fun heq => ih (List.cons.inj heq).2
  | case5 u v rest hnone hpair ih =>
    rw [List.cons_append, List.cons_append, decode, decode, if_neg hnone, if_neg hnone, if_neg hpair,
      if_neg hpair]
    exact fun heq => ih (List.cons.inj heq).2

end Svarla.Lib.Utf16
