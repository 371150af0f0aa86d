import Mathlib

/-!
# Pages

A list is read in pages, and every page is cut from the rows in an order of its own: each is sorted by a rank,
with the highest first, and rows of one rank are in any order. The pages make up the rows if and only if no two
rows of one rank are on the two sides of a cut (`pages_perm_iff`).
-/

namespace Svarla.Lib

variable {α β : Type*} [LinearOrder β] {rank : α → β}

/-- The highest rank first. -/
def Descending (rank : α → β) (xs : List α) : Prop := xs.Pairwise fun a b => rank b ≤ rank a

/-- The `k`-th page, from zero. -/
def page (size k : Nat) (xs : List α) : List α := (xs.drop (k * size)).take size

/-- How many pages there are. -/
def pageCount (size length : Nat) : Nat := (length + size - 1) / size

/-- In no order are two rows of one rank on the two sides of a cut. -/
def Untied (rank : α → β) (size : Nat) (xs : List α) : Prop :=
  ∀ ys, ys.Perm xs → Descending rank ys → ∀ k, 0 < k → ∀ a b, ys[k * size - 1]? = some a →
    ys[k * size]? = some b → rank a ≠ rank b

theorem flatMap_page (size n : Nat) (xs : List α) :
    ((List.range n).flatMap fun k => page size k xs) = xs.take (n * size) := by
  induction n with
  | zero => simp
  | succ n ih => rw [List.range_succ, List.flatMap_append, ih, List.flatMap_singleton, Nat.succ_mul,
      List.take_add, page]

theorem lt_pageCount {size length k : Nat} (hsize : 0 < size) (h : k * size < length) :
    k < pageCount size length := by
  rw [pageCount, Nat.lt_iff_add_one_le, Nat.le_div_iff_mul_le hsize, Nat.succ_mul]
  omega

theorem le_pageCount_mul {size : Nat} (hsize : 0 < size) (length : Nat) :
    length ≤ pageCount size length * size := by
  have := Nat.div_add_mod (length + size - 1) size
  have := Nat.mod_lt (length + size - 1) hsize
  rw [pageCount, Nat.mul_comm]
  omega

/-- The rows of a rank at least come first. -/
theorem Descending.filter_eq_take {xs : List α} (h : Descending rank xs) (r : β) :
    xs.filter (fun x => r ≤ rank x) = xs.take (xs.filter (fun x => r ≤ rank x)).length := by
  induction xs with
  | nil => rfl
  | cons x xs ih =>
    obtain ⟨hx, hxs⟩ := List.pairwise_cons.mp h
    by_cases hr : r ≤ rank x
    · rw [List.filter_cons_of_pos (by simpa using hr), List.length_cons, List.take_succ_cons, ← ih hxs]
    · have hnone : xs.filter (fun x => r ≤ rank x) = [] := by
        rw [List.filter_eq_nil_iff]
        intro y hy hry
        exact hr ((of_decide_eq_true hry).trans (hx y hy))
      rw [List.filter_cons_of_neg (by simpa using hr), hnone]
      rfl

/-- Up to a cut that no two rows of one rank are beside, every order has the same rows. -/
theorem take_perm {xs ys : List α} (hx : Descending rank xs) (hy : Descending rank ys) (hperm : ys.Perm xs)
    {i : Nat} (hgap : ∀ a b, xs[i - 1]? = some a → xs[i]? = some b → rank a ≠ rank b) :
    (ys.take i).Perm (xs.take i) := by
  obtain rfl | hpos := Nat.eq_zero_or_pos i
  · exact .refl _
  obtain hlt | hge := Nat.lt_or_ge i xs.length
  · have hbefore : i - 1 < xs.length := by omega
    have hne := hgap xs[i - 1] xs[i] (List.getElem?_eq_getElem hbefore) (List.getElem?_eq_getElem hlt)
    have hget := List.pairwise_iff_getElem.mp hx
    have hle := hget (i - 1) i hbefore hlt (by omega)
    generalize hr : rank xs[i - 1] = r at hne hle
    -- the rows before the cut are those of at least the rank of the last of them
    have hkeeps : ∀ x ∈ xs.take i, decide (r ≤ rank x) = true := by
      intro x hmem
      obtain ⟨j, hj, rfl⟩ := List.mem_iff_getElem.mp hmem
      rw [List.length_take] at hj
      rw [List.getElem_take, decide_eq_true_eq, ← hr]
      obtain hj' | hj' := Nat.lt_or_ge j (i - 1)
      · exact hget j (i - 1) (by omega) hbefore hj'
      · obtain rfl : j = i - 1 := by omega
        exact le_rfl
    have hdrops : ∀ x ∈ xs.drop i, ¬ decide (r ≤ rank x) = true := by
      intro x hmem
      obtain ⟨j, hj, rfl⟩ := List.mem_iff_getElem.mp hmem
      rw [List.length_drop] at hj
      rw [List.getElem_drop, decide_eq_true_eq, not_le]
      refine lt_of_le_of_lt ?_ (lt_of_le_of_ne hle hne.symm)
      obtain rfl | hj' := Nat.eq_zero_or_pos j
      · exact le_rfl
      · exact hget i (i + j) hlt (by omega) (by omega)
    have hfilter : xs.filter (fun x => r ≤ rank x) = xs.take i := by
      conv_lhs => rw [← List.take_append_drop i xs]
      rw [List.filter_append, List.filter_eq_self.mpr hkeeps, List.filter_eq_nil_iff.mpr hdrops,
        List.append_nil]
    have hsame := hperm.filter (fun x => decide (r ≤ rank x))
    have hlength : (xs.filter fun x => r ≤ rank x).length = i := by
      rw [hfilter, List.length_take]
      omega
    have htake := hy.filter_eq_take r
    rw [hsame.length_eq, hlength] at htake
    rw [← htake, ← hfilter]
    exact hsame
  · rw [List.take_of_length_le hge, List.take_of_length_le (hperm.length_eq.trans_le hge)]
    exact hperm

/-- A page has the same rows in every order, where no cut is tied. -/
theorem page_perm {xs ys : List α} (hx : Descending rank xs) (hy : Descending rank ys) (hperm : ys.Perm xs)
    {size : Nat} (huntied : Untied rank size xs) (k : Nat) : (page size k ys).Perm (page size k xs) := by
  have hcut : ∀ k, (ys.take (k * size)).Perm (xs.take (k * size)) := by
    intro k
    obtain rfl | hk := Nat.eq_zero_or_pos k
    · rw [Nat.zero_mul]
      exact .refl _
    · exact take_perm hx hy hperm fun a b ha hb => huntied xs (.refl _) hx k hk a b ha hb
  have hnext := hcut (k + 1)
  rw [Nat.succ_mul, List.take_add, List.take_add] at hnext
  exact (List.perm_append_left_iff _).mp (((hcut k).append_right _).symm.trans hnext)

/-- Two rows of one rank on the two sides of a cut, in either order. -/
theorem exists_swap {ys : List α} (hy : Descending rank ys) {i : Nat} {a b : α} (hi : 0 < i)
    (ha : ys[i - 1]? = some a) (hb : ys[i]? = some b) (htie : rank a = rank b) :
    ∃ zs, zs.Perm ys ∧ Descending rank zs ∧ zs[i]? = some a := by
  obtain ⟨hia, rfl⟩ := List.getElem?_eq_some_iff.mp ha
  obtain ⟨hib, rfl⟩ := List.getElem?_eq_some_iff.mp hb
  have hsplit : ys = ys.take (i - 1) ++ ys[i - 1] :: ys[i] :: ys.drop (i + 1) := by
    conv_lhs => rw [← List.take_append_drop (i - 1) ys, List.drop_eq_getElem_cons hia]
    congr 2
    have hnext : i - 1 + 1 = i := by omega
    simp only [hnext]
    exact List.drop_eq_getElem_cons hib
  generalize hu : ys.take (i - 1) = u at hsplit
  generalize ys[i - 1] = a at hsplit htie ⊢
  generalize ys[i] = b at hsplit htie
  generalize ys.drop (i + 1) = v at hsplit
  have hlength : u.length = i - 1 := by
    rw [← hu, List.length_take]
    omega
  rw [hsplit] at hy ⊢
  refine ⟨u ++ b :: a :: v, (List.Perm.swap a b v).append_left u, ?_, ?_⟩
  · simp only [Descending, List.pairwise_append, List.pairwise_cons, List.mem_cons] at hy ⊢
    grind
  · rw [List.getElem?_append_right (by omega), hlength]
    have hone : i - (i - 1) = 1 := by omega
    rw [hone]
    rfl

/-- **Pages**, each in an order of its own, make up the rows whatever the orders are, if and only if no cut is
tied. -/
theorem pages_perm_iff {size : Nat} (hsize : 0 < size) {xs : List α} (hnodup : xs.Nodup) :
    (∀ order : Nat → List α, (∀ k, (order k).Perm xs ∧ Descending rank (order k)) →
      ((List.range (pageCount size xs.length)).flatMap fun k => page size k (order k)).Perm xs) ↔
      Untied rank size xs := by
  constructor
  · intro hall ys hperm hy k hk a b ha hb htie
    have hpos : 0 < k * size := Nat.mul_pos hk hsize
    obtain ⟨zs, hzs, hz, hza⟩ := exists_swap hy hpos ha hb htie
    -- the page before the cut is read in the one order, and the page after it in the other
    have hnodup' := (hall (fun j => if j = k then zs else ys) fun j => by
      split
      · exact ⟨hzs.trans hperm, hz⟩
      · exact ⟨hperm, hy⟩).nodup_iff.mpr hnodup
    obtain ⟨hlt, -⟩ := List.getElem?_eq_some_iff.mp hb
    have hcount : k < pageCount size xs.length := lt_pageCount hsize (hperm.length_eq ▸ hlt)
    have hbefore : k - 1 < pageCount size xs.length := by omega
    have hdisjoint := List.pairwise_iff_getElem.mp (List.nodup_flatMap.mp hnodup').2 (k - 1) k
      (by simpa using hbefore) (by simpa using hcount) (by omega)
    simp only [List.getElem_range, Function.onFun] at hdisjoint
    refine hdisjoint (a := a) ?_ ?_
    · rw [if_neg (by omega)]
      refine List.mem_of_getElem? (i := size - 1) ?_
      rw [page, List.getElem?_take_of_lt (by omega), List.getElem?_drop, ← ha]
      congr 1
      have hsucc : k * size = (k - 1) * size + size := by
        rw [← Nat.succ_mul, Nat.succ_eq_add_one, Nat.sub_add_cancel hk]
      omega
    · rw [if_pos trivial]
      refine List.mem_of_getElem? (i := 0) ?_
      rw [page, List.getElem?_take_of_lt hsize, List.getElem?_drop, Nat.add_zero]
      exact hza
  · intro huntied order horder
    obtain ⟨hperm₀, h₀⟩ := horder 0
    have huntied₀ : Untied rank size (order 0) := fun ys hys => huntied ys (hys.trans hperm₀)
    have hpages : ((List.range (pageCount size xs.length)).flatMap fun k => page size k (order k)).Perm
        ((List.range (pageCount size xs.length)).flatMap fun k => page size k (order 0)) :=
      List.Perm.flatMap_left _ fun k _ =>
        page_perm h₀ (horder k).2 ((horder k).1.trans hperm₀.symm) huntied₀ k
    rw [flatMap_page, List.take_of_length_le] at hpages
    · exact hpages.trans hperm₀
    · rw [hperm₀.length_eq]
      exact le_pageCount_mul hsize _

end Svarla.Lib
