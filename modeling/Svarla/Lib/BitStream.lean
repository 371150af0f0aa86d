import Mathlib.Data.List.Basic
import Mathlib.Data.Nat.Bitwise

/-!
# Bit streams of octet lists

A list of octets carrying `w`-bit words is a stream of bits, the least significant bit of each
word first: bit `j` is bit `j % w` of word `j / w` (`bitAt`). Re-chunking a stream from one word
width to another, which is what septet packing does, keeps the stream, so a packing algorithm is
specified by the bits it writes and a round trip is an equality of streams (`ext_of_bitAt`).

`orAt` is the update such algorithms use, `out[i] |= x`, and `bitAt_orAt` is all that is ever said
about it.
-/

namespace Svarla.Lib

/-- Bit `j` of the stream of `w`-bit words in `l`, least significant bit first; `false` past the
end. -/
def bitAt (w : Nat) (l : List UInt8) (j : Nat) : Bool :=
  (l.getD (j / w) 0).toNat.testBit (j % w)

/-- `out[i] |= x`. -/
def orAt (l : List UInt8) (i : Nat) (x : UInt8) : List UInt8 :=
  l.modify i (· ||| x)

@[simp] theorem length_orAt (l : List UInt8) (i : Nat) (x : UInt8) :
    (orAt l i x).length = l.length := by
  simp [orAt]

/-- The word `getD` reads after an `orAt`. -/
theorem getD_orAt (l : List UInt8) {i : Nat} (hi : i < l.length) (x : UInt8) (k : Nat) :
    (orAt l i x).getD k 0 = if k = i then l.getD k 0 ||| x else l.getD k 0 := by
  simp only [orAt, List.getD_eq_getElem?_getD, List.getElem?_modify]
  by_cases hk : k = i
  · subst hk
    simp [List.getElem?_eq_getElem hi]
  · simp [hk, Ne.symm hk]

/-- An `orAt` adds the bits of the octet it writes, at that octet's place in the stream. -/
theorem bitAt_orAt (l : List UInt8) {i : Nat} (hi : i < l.length) (x : UInt8) (j : Nat) :
    bitAt 8 (orAt l i x) j =
      (bitAt 8 l j || (decide (j / 8 = i) && x.toNat.testBit (j % 8))) := by
  unfold bitAt
  rw [getD_orAt l hi]
  by_cases hk : j / 8 = i <;> simp [hk, UInt8.toNat_or, Nat.testBit_or]

/-- Nothing is set in a list of zero octets. -/
@[simp] theorem bitAt_replicate_zero (w n j : Nat) :
    bitAt w (List.replicate n 0) j = false := by
  unfold bitAt
  rw [List.getD_eq_getElem?_getD, List.getElem?_replicate]
  split <;> simp

/-- Past the first list, an append's stream is the second list's, shifted by the first's length. -/
theorem bitAt_append_right {w : Nat} (hw : 0 < w) (l m : List UInt8) (j : Nat) :
    bitAt w (l ++ m) (w * l.length + j) = bitAt w m j := by
  unfold bitAt
  have hdiv : (w * l.length + j) / w = l.length + j / w := Nat.mul_add_div hw _ _
  have hmod : (w * l.length + j) % w = j % w := Nat.mul_add_mod _ _ _
  rw [hdiv, hmod, List.getD_append_right l m 0 _ (Nat.le_add_right _ _)]
  simp

/-- Bit `k` of word `i` sits at place `w * i + k` of the stream. -/
theorem bitAt_word {w k : Nat} (hk : k < w) (l : List UInt8) (i : Nat) :
    bitAt w l (w * i + k) = (l.getD i 0).toNat.testBit k := by
  unfold bitAt
  rw [Nat.mul_add_div (by omega), Nat.mul_add_mod, Nat.div_eq_of_lt hk, Nat.mod_eq_of_lt hk,
    Nat.add_zero]

/-- The bits of a byte shifted up, `byte(s << b)`. -/
theorem testBit_shiftUp (s : UInt8) {b k : Nat} (hb : b < 8) (hk : k < 8) :
    (s <<< UInt8.ofNat b).toNat.testBit k = (decide (b ≤ k) && s.toNat.testBit (k - b)) := by
  have h : (UInt8.ofNat b).toNat % 8 = b := by
    rw [UInt8.toNat_ofNat']
    omega
  rw [UInt8.toNat_shiftLeft, h, Nat.testBit_mod_two_pow, Nat.testBit_shiftLeft]
  simp [hk]

/-- The bits of a byte shifted down, `byte(s >> b)`. -/
theorem testBit_shiftDown (s : UInt8) {b : Nat} (hb : b < 8) (k : Nat) :
    (s >>> UInt8.ofNat b).toNat.testBit k = s.toNat.testBit (b + k) := by
  have h : (UInt8.ofNat b).toNat % 8 = b := by
    rw [UInt8.toNat_ofNat']
    omega
  rw [UInt8.toNat_shiftRight, h, Nat.testBit_shiftRight]

/-- A `w`-bit word has no bit from `w` on. -/
theorem testBit_of_lt {w : Nat} {s : UInt8} (hs : s.toNat < 2 ^ w) {k : Nat} (hk : w ≤ k) :
    s.toNat.testBit k = false :=
  Nat.testBit_lt_two_pow (Nat.lt_of_lt_of_le hs (Nat.pow_le_pow_right (by decide) hk))

/-- Two `w`-bit words with the same bits are the same octet. -/
theorem eq_of_testBit_lt {w : Nat} {a b : UInt8} (ha : a.toNat < 2 ^ w) (hb : b.toNat < 2 ^ w)
    (h : ∀ k < w, a.toNat.testBit k = b.toNat.testBit k) : a = b := by
  apply UInt8.toNat_inj.mp
  apply Nat.eq_of_testBit_eq
  intro k
  rcases Nat.lt_or_ge k w with hk | hk
  · exact h k hk
  · rw [testBit_of_lt ha hk, testBit_of_lt hb hk]

/-- Two lists of `w`-bit words of one length with the same stream are equal. -/
theorem ext_of_bitAt {w : Nat} {l m : List UInt8} (hlen : l.length = m.length)
    (hl : ∀ x ∈ l, x.toNat < 2 ^ w) (hm : ∀ x ∈ m, x.toNat < 2 ^ w)
    (h : ∀ j < w * l.length, bitAt w l j = bitAt w m j) : l = m := by
  apply List.ext_getElem hlen
  intro i hil him
  apply eq_of_testBit_lt (hl _ (List.getElem_mem hil)) (hm _ (List.getElem_mem him))
  intro k hk
  have hj : w * i + k < w * l.length := by
    calc w * i + k < w * i + w := by omega
      _ = w * (i + 1) := (Nat.mul_succ w i).symm
      _ ≤ w * l.length := Nat.mul_le_mul_left _ hil
  have hbit := h (w * i + k) hj
  rwa [bitAt_word hk, bitAt_word hk, List.getD_eq_getElem l 0 hil,
    List.getD_eq_getElem m 0 him] at hbit

end Svarla.Lib
