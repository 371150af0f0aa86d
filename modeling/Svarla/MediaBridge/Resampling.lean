import Svarla.Lib.Checked
import Svarla.MediaBridge.ProviderPcm

/-!
# Resampling

`Downsample48to8` and `Upsample8to48` of `resample.go`, `downsample16to8` and `upsample8to16` of
`bridge.go`. Samples have 16 bits, and what is computed of them has 32. The operations are a parameter: the
code's wrap around, and those that fail at an overflow never do (`resampling_in_range`). An index that is
not one of its buffer fails either way.
-/

namespace Svarla.MediaBridge.Resampling

open Svarla.Lib

/-- `ResampleRatio`. -/
def resampleRatio : Nat := 6

variable (m : Arith)

/-- `int16((int32(a) + int32(b)*2 + int32(c)) / 4)`. -/
def smooth (a b c : Int16) : Option Int16 := do
  let sum ← m.add (← m.add a.toInt32 (← m.mul b.toInt32 2)) c.toInt32
  m.narrow (← m.div sum 4)

/-- `Downsample48to8`. -/
def downsample48to8 (input : List Int16) : Option (List Int16) :=
  let outputLen := input.length / resampleRatio
  forLoop outputLen (.replicate outputLen 0) fun output i => do
    let idx := i * resampleRatio
    if 0 < idx ∧ idx + 1 < input.length then
      write output i (← smooth m (← input[idx - 1]?) (← input[idx]?) (← input[idx + 1]?))
    else write output i (← input[idx]?)

/-- `current + (next-current)*int32(j)/int32(ResampleRatio)`. -/
def interpolate (current next : Int32) (j : Nat) : Option Int16 := do
  let product ← m.mul (← m.sub next current) (.ofNat j)
  m.narrow (← m.add current (← m.div product (.ofNat resampleRatio)))

/-- The sample to interpolate to: at the end, the last one again. -/
def nextSample (input : List Int16) (i : Nat) (current : Int32) : Option Int32 :=
  if i + 1 < input.length then input[i + 1]?.map Int16.toInt32 else some current

/-- `Upsample8to48`. -/
def upsample8to48 (input : List Int16) : Option (List Int16) :=
  forLoop input.length (.replicate (input.length * resampleRatio) 0) fun output i => do
    let baseIdx := i * resampleRatio
    let current := (← input[i]?).toInt32
    let next ← nextSample input i current
    forLoop resampleRatio output fun output j => do
      write output (baseIdx + j) (← interpolate m current next j)

/-- `int16((int32(a) + int32(b)) / 2)`. -/
def average (a b : Int16) : Option Int16 := do
  m.narrow (← m.div (← m.add a.toInt32 b.toInt32) 2)

/-- `downsample16to8`. -/
def downsample16to8 (input : List Int16) : Option (List Int16) :=
  let outputLen := input.length / 2
  forLoop outputLen (.replicate outputLen 0) fun output i => do
    let idx := i * 2
    if idx + 1 < input.length then write output i (← average m (← input[idx]?) (← input[idx + 1]?))
    else write output i (← input[idx]?)

/-- `upsample8to16`. -/
def upsample8to16 (input : List Int16) : Option (List Int16) :=
  let outputLen := input.length * 2
  forLoop input.length (.replicate outputLen 0) fun output i => do
    let output ← write output (i * 2) (← input[i]?)
    if i + 1 < input.length then
      write output (i * 2 + 1) (← average m (← input[i]?) (← input[i + 1]?))
    else write output (i * 2 + 1) (← input[i]?)

/-! ## What the samples are computed from -/

/-- The samples that one of `Downsample48to8` is computed from. -/
def neighbors48 (input : List Int16) (i : Nat) : List Int16 :=
  if i = 0 then input.take 1 else (input.drop (resampleRatio * i - 1)).take 3

/-- The samples that one of `Upsample8to48` is computed from. -/
def neighbors8 (input : List Int16) (i : Nat) : List Int16 := (input.drop (i / resampleRatio)).take 2

/-- The samples that one of `downsample16to8` is computed from. -/
def pair16 (input : List Int16) (i : Nat) : List Int16 := (input.drop (2 * i)).take 2

/-- The samples that one of `upsample8to16` is computed from. -/
def pair8 (input : List Int16) (i : Nat) : List Int16 :=
  (input.drop (i / 2)).take (if i % 2 = 0 then 1 else 2)

/-- A sample is not less than the least of some samples, and not greater than the greatest. -/
def Between (sample : Int16) (samples : List Int16) : Prop :=
  (∃ low ∈ samples, low ≤ sample) ∧ ∃ high ∈ samples, sample ≤ high

/-- A resampler stays in range: with the operations that fail at an overflow it has the output that it has
with those of the code, of so many samples, each between those that it is computed from. -/
def InRange (resample : Arith → List Int16 → Option (List Int16)) (length : Nat → Nat)
    (neighbors : List Int16 → Nat → List Int16) : Prop :=
  ∀ input, ∃ output, resample .checked input = some output ∧ resample .wrapping input = some output ∧
    output.length = length input.length ∧
    ∀ i sample, output[i]? = some sample → Between sample (neighbors input i)

/-! ## The samples -/

section
variable {m}

theorem toInt_ofInt {n : Int} (h : Fits 16 n) : (Int16.ofInt n).toInt = n := by
  obtain ⟨hlow, hhigh⟩ := h
  rw [Int16.toInt_ofInt, show Int16.size = 2 ^ 16 from rfl]
  exact Int.bmod_eq_of_le (by omega) (by omega)

/-- A quotient that has 16 bits. -/
theorem div_narrow (hm : m.Exact) {a b : Int32} {n k : Int} (ha : a.toInt = n) (hb : b.toInt = k)
    (hk : 0 < k) (hlow : -2 ^ 15 * k ≤ n) (hhigh : n ≤ (2 ^ 15 - 1) * k) :
    ∃ quotient, m.div a b = some quotient ∧ m.narrow quotient = some (.ofInt (n.tdiv k)) := by
  have hbounds := tdiv_bounds hk hlow hhigh
  have hne : b ≠ 0 := by
    rintro rfl
    exact hk.ne hb
  obtain ⟨quotient, hquotient, hexact⟩ := hm.div (a := a) hne (by
    rw [ha, hb, Fits]
    omega)
  obtain ⟨sample, hsample, hsame⟩ := hm.narrow (a := quotient) (by
    rw [hexact, ha, hb, Fits]
    omega)
  refine ⟨quotient, hquotient, ?_⟩
  rw [hsample, ← ha, ← hb, ← hexact, ← hsame, Int16.ofInt_toInt]

/-- The average of two samples. -/
theorem average_eq (hm : m.Exact) (a b : Int16) :
    average m a b = some (.ofInt ((a.toInt + b.toInt).tdiv 2)) := by
  have ha := a.le_toInt
  have ha' := a.toInt_lt
  have hb := b.le_toInt
  have hb' := b.toInt_lt
  obtain ⟨sum, hsum, hexact⟩ := hm.add (a := a.toInt32) (b := b.toInt32) (by
    simp only [Int16.toInt_toInt32, Fits]
    omega)
  rw [Int16.toInt_toInt32, Int16.toInt_toInt32] at hexact
  obtain ⟨quotient, hquotient, hsample⟩ := div_narrow hm (b := 2) (k := 2) hexact rfl (by decide)
    (by omega) (by omega)
  unfold average
  simp only [hsum, hquotient, hsample, Option.bind_eq_bind, Option.bind_some]

/-- A step from one sample to the next, of six. -/
theorem step_bounds (current next : Int16) {j : Nat} (hj : j < resampleRatio) :
    min 0 (next.toInt - current.toInt) * 6 ≤ (next.toInt - current.toInt) * j ∧
      (next.toInt - current.toInt) * j ≤ max 0 (next.toInt - current.toInt) * 6 := by
  have hsix : j < 6 := hj
  interval_cases j <;> omega

/-- A sample between two, and not beyond them. -/
theorem interpolate_eq (hm : m.Exact) (current next : Int16) {j : Nat} (hj : j < resampleRatio) :
    interpolate m current.toInt32 next.toInt32 j =
      some (.ofInt (current.toInt + ((next.toInt - current.toInt) * j).tdiv 6)) := by
  have hc := current.le_toInt
  have hc' := current.toInt_lt
  have hn := next.le_toInt
  have hn' := next.toInt_lt
  have hsix : j < 6 := hj
  have hstep := step_bounds current next hj
  have hquotient := tdiv_bounds (by decide : (0 : Int) < 6) hstep.1 hstep.2
  have hofNat : (Int32.ofNat j).toInt = j := by interval_cases j <;> rfl
  obtain ⟨difference, hdifference, hexact⟩ := hm.sub (a := next.toInt32) (b := current.toInt32) (by
    simp only [Int16.toInt_toInt32, Fits]
    omega)
  rw [Int16.toInt_toInt32, Int16.toInt_toInt32] at hexact
  obtain ⟨product, hproduct, hexact'⟩ := hm.mul (a := difference) (b := .ofNat j) (by
    rw [hexact, hofNat, Fits]
    omega)
  rw [hexact, hofNat] at hexact'
  obtain ⟨step, hstep', hexact''⟩ := hm.div (a := product) (b := .ofNat resampleRatio) (by decide) (by
    rw [hexact', show (Int32.ofNat resampleRatio).toInt = 6 from rfl, Fits]
    omega)
  rw [hexact', show (Int32.ofNat resampleRatio).toInt = 6 from rfl] at hexact''
  obtain ⟨sum, hsum, hsame⟩ := hm.add (a := current.toInt32) (b := step) (by
    rw [hexact'', Int16.toInt_toInt32, Fits]
    omega)
  rw [hexact'', Int16.toInt_toInt32] at hsame
  obtain ⟨sample, hsample, hsame'⟩ := hm.narrow (a := sum) (by
    rw [hsame, Fits]
    omega)
  unfold interpolate
  simp only [hdifference, hproduct, hstep', hsum, hsample, Option.bind_eq_bind, Option.bind_some]
  rw [← hsame, ← hsame', Int16.ofInt_toInt]

/-- The average of a sample, counted twice, and of its neighbors. -/
theorem smooth_eq (hm : m.Exact) (a b c : Int16) :
    smooth m a b c = some (.ofInt ((a.toInt + b.toInt * 2 + c.toInt).tdiv 4)) := by
  have ha := a.le_toInt
  have ha' := a.toInt_lt
  have hb := b.le_toInt
  have hb' := b.toInt_lt
  have hc := c.le_toInt
  have hc' := c.toInt_lt
  obtain ⟨doubled, hdoubled, hexact⟩ := hm.mul (a := b.toInt32) (b := 2) (by
    rw [Int16.toInt_toInt32, show (2 : Int32).toInt = 2 from rfl, Fits]
    omega)
  rw [Int16.toInt_toInt32, show (2 : Int32).toInt = 2 from rfl] at hexact
  obtain ⟨half, hhalf, hexact'⟩ := hm.add (a := a.toInt32) (b := doubled) (by
    rw [hexact, Int16.toInt_toInt32, Fits]
    omega)
  rw [hexact, Int16.toInt_toInt32] at hexact'
  obtain ⟨sum, hsum, hexact''⟩ := hm.add (a := half) (b := c.toInt32) (by
    rw [hexact', Int16.toInt_toInt32, Fits]
    omega)
  rw [hexact', Int16.toInt_toInt32] at hexact''
  obtain ⟨quotient, hquotient, hsample⟩ := div_narrow hm (b := 4) (k := 4) hexact'' rfl (by decide)
    (by omega) (by omega)
  unfold smooth
  simp only [hdoubled, hhalf, hsum, hquotient, hsample, Option.bind_eq_bind, Option.bind_some]

/-! ## The loops -/

/-- What `Downsample48to8` computes. -/
def decimated (input : List Int16) (i : Nat) : Int16 :=
  if i = 0 then input.getD 0 0
  else
    .ofInt (((input.getD (i * 6 - 1) 0).toInt + (input.getD (i * 6) 0).toInt * 2 +
      (input.getD (i * 6 + 1) 0).toInt).tdiv 4)

/-- What `Upsample8to48` computes. -/
def interpolated (input : List Int16) (i : Nat) : Int16 :=
  let current := input.getD (i / 6) 0
  .ofInt (current.toInt + (((input.getD (i / 6 + 1) current).toInt - current.toInt) * (i % 6 : Nat)).tdiv 6)

/-- What `downsample16to8` computes. -/
def halved (input : List Int16) (i : Nat) : Int16 :=
  .ofInt (((input.getD (i * 2) 0).toInt + (input.getD (i * 2 + 1) 0).toInt).tdiv 2)

/-- What `upsample8to16` computes. -/
def doubled (input : List Int16) (i : Nat) : Int16 :=
  let current := input.getD (i / 2) 0
  if i % 2 = 0 then current
  else if i / 2 + 1 < input.length then
    .ofInt ((current.toInt + (input.getD (i / 2 + 1) 0).toInt).tdiv 2)
  else current

variable {input : List Int16}

theorem getElem?_getD {i : Nat} (hi : i < input.length) (a : Int16) :
    input[i]? = some (input.getD i a) := by
  rw [List.getD_eq_getElem?_getD, List.getElem?_eq_getElem hi, Option.getD_some]

theorem downsample48to8_eq (hm : m.Exact) (input : List Int16) :
    downsample48to8 m input = some ((List.range (input.length / 6)).map (decimated input)) := by
  refine forLoop_values fun i (hi : i < input.length / 6) out => ?_
  have hidx : i * 6 + 1 < input.length := by omega
  simp only [resampleRatio, hidx, and_true]
  rcases Nat.eq_zero_or_pos i with rfl | hpos
  · rw [if_neg (by decide), getElem?_getD (by omega) 0]
    rfl
  · rw [if_pos (by omega), getElem?_getD (i := i * 6 - 1) (by omega) 0,
      getElem?_getD (i := i * 6) (by omega) 0, getElem?_getD hidx 0, decimated, if_neg hpos.ne']
    simp only [Option.bind_eq_bind, Option.bind_some, smooth_eq hm]

theorem downsample16to8_eq (hm : m.Exact) (input : List Int16) :
    downsample16to8 m input = some ((List.range (input.length / 2)).map (halved input)) := by
  refine forLoop_values fun i hi out => ?_
  have hidx : i * 2 + 1 < input.length := by omega
  dsimp only
  rw [if_pos hidx, getElem?_getD (by omega) 0, getElem?_getD hidx 0]
  simp only [Option.bind_eq_bind, Option.bind_some, average_eq hm]
  rfl

theorem upsample8to48_eq (hm : m.Exact) (input : List Int16) :
    upsample8to48 m input = some ((List.range (input.length * 6)).map (interpolated input)) := by
  refine forLoop_blocks fun i hi out hfilled => ?_
  have hcurrent := getElem?_getD hi 0
  have hnext : nextSample input i (input.getD i 0).toInt32 =
      some (input.getD (i + 1) (input.getD i 0)).toInt32 := by
    unfold nextSample
    split
    · next hlast => rw [getElem?_getD hlast (input.getD i 0), Option.map_some]
    · next hlast => rw [List.getD_eq_getElem?_getD (i := i + 1), List.getElem?_eq_none (by omega)]; rfl
  rw [hcurrent]
  simp only [Option.bind_eq_bind, Option.bind_some, hnext]
  have hloop := @forLoop_invariant _ resampleRatio out
    (fun output j => (interpolate m (input.getD i 0).toInt32
      (input.getD (i + 1) (input.getD i 0)).toInt32 j).bind fun sample =>
        write output (i * resampleRatio + j) sample)
    (fun j => Filled (interpolated input) (input.length * 6) (i * 6 + j)) hfilled fun j hj out hfilled => by
      have hsix : j < 6 := hj
      have hvalue := hfilled.write (by omega)
      rw [interpolate_eq hm _ _ hj, Option.bind_some]
      have hdiv : (i * 6 + j) / 6 = i := by omega
      have hmod : (i * 6 + j) % 6 = j := by omega
      rw [interpolated, hdiv, hmod] at hvalue
      exact hvalue
  obtain ⟨t, ht, hfilled'⟩ := hloop
  exact ⟨t, ht, by rwa [show (i + 1) * resampleRatio = i * 6 + resampleRatio by rw [resampleRatio]; omega]⟩

theorem upsample8to16_eq (hm : m.Exact) (input : List Int16) :
    upsample8to16 m input = some ((List.range (input.length * 2)).map (doubled input)) := by
  refine forLoop_blocks fun i hi out hfilled => ?_
  have hdiv : i * 2 / 2 = i := by omega
  have hmod : i * 2 % 2 = 0 := by omega
  have hdiv' : (i * 2 + 1) / 2 = i := by omega
  have hmod' : (i * 2 + 1) % 2 ≠ 0 := by omega
  obtain ⟨first, hfirst, hfilled⟩ := hfilled.write (by omega)
  obtain ⟨second, hsecond, hfilled⟩ := hfilled.write (by omega)
  refine ⟨second, ?_, by rwa [show (i + 1) * 2 = i * 2 + 1 + 1 by omega]⟩
  rw [doubled, hdiv, if_pos hmod] at hfirst
  rw [doubled, hdiv', if_neg hmod'] at hsecond
  rw [getElem?_getD hi 0]
  simp only [Option.bind_eq_bind, Option.bind_some, hfirst]
  split
  · next hlast =>
    rw [if_pos hlast] at hsecond
    rw [getElem?_getD hlast 0]
    simp only [Option.bind_some, average_eq hm, hsecond]
  · next hlast =>
    rw [if_neg hlast] at hsecond
    exact hsecond

/-! ## The range -/

theorem mem_window {k j n : Nat} (hj : j < n) (hk : k + j < input.length) (a : Int16) :
    input.getD (k + j) a ∈ (input.drop k).take n := by
  refine List.mem_iff_getElem?.mpr ⟨j, ?_⟩
  rw [List.getElem?_take_of_lt hj, List.getElem?_drop, getElem?_getD hk a]

theorem Between.self {a : Int16} {samples : List Int16} (ha : a ∈ samples) : Between a samples :=
  ⟨⟨a, ha, Int16.le_refl a⟩, a, ha, Int16.le_refl a⟩

/-- A number between samples is a sample between them. -/
theorem Between.ofInt {n : Int} {samples : List Int16} (hlow : ∃ low ∈ samples, low.toInt ≤ n)
    (hhigh : ∃ high ∈ samples, n ≤ high.toInt) : Between (.ofInt n) samples := by
  obtain ⟨low, hlowmem, hlow⟩ := hlow
  obtain ⟨high, hhighmem, hhigh⟩ := hhigh
  have hmin := low.le_toInt
  have hmax := high.toInt_lt
  have hn : (Int16.ofInt n).toInt = n := toInt_ofInt ⟨by omega, by omega⟩
  exact ⟨⟨low, hlowmem, Int16.le_iff_toInt_le.mpr (by rwa [hn])⟩,
    high, hhighmem, Int16.le_iff_toInt_le.mpr (by rwa [hn])⟩

/-- A number between two samples. -/
theorem Between.pair {n : Int} {a b : Int16} {samples : List Int16} (ha : a ∈ samples) (hb : b ∈ samples)
    (hlow : min a.toInt b.toInt ≤ n) (hhigh : n ≤ max a.toInt b.toInt) : Between (.ofInt n) samples := by
  refine .ofInt ?_ ?_
  · rcases min_le_iff.mp hlow with hlow | hlow
    · exact ⟨a, ha, hlow⟩
    · exact ⟨b, hb, hlow⟩
  · rcases le_max_iff.mp hhigh with hhigh | hhigh
    · exact ⟨a, ha, hhigh⟩
    · exact ⟨b, hb, hhigh⟩

/-- The average of two samples. -/
theorem Between.average {a b : Int16} {samples : List Int16} (ha : a ∈ samples) (hb : b ∈ samples) :
    Between (.ofInt ((a.toInt + b.toInt).tdiv 2)) samples := by
  have hlow : min a.toInt b.toInt * 2 ≤ a.toInt + b.toInt := by omega
  have hhigh : a.toInt + b.toInt ≤ max a.toInt b.toInt * 2 := by omega
  have hbounds := tdiv_bounds (by decide) hlow hhigh
  exact .pair ha hb hbounds.1 hbounds.2

theorem decimated_between {i : Nat} (hi : i < input.length / 6) :
    Between (decimated input i) (neighbors48 input i) := by
  unfold decimated neighbors48
  split
  · exact .self (mem_window (k := 0) (j := 0) (by decide) (by omega) 0)
  · next hne =>
    have hcenter : resampleRatio * i - 1 + 1 = i * 6 := by rw [resampleRatio]; omega
    have ha := @mem_window input (resampleRatio * i - 1) 0 3 (by decide)
      (by omega) 0
    have hb := @mem_window input (resampleRatio * i - 1) 1 3 (by decide)
      (by omega) 0
    have hc := @mem_window input (resampleRatio * i - 1) 2 3 (by decide)
      (by omega) 0
    rw [show resampleRatio * i - 1 + 0 = i * 6 - 1 by omega] at ha
    rw [hcenter] at hb
    rw [show resampleRatio * i - 1 + 2 = i * 6 + 1 by omega] at hc
    generalize input.getD (i * 6 - 1) 0 = a at *
    generalize input.getD (i * 6) 0 = b at *
    generalize input.getD (i * 6 + 1) 0 = c at *
    have hlow : min a.toInt (min b.toInt c.toInt) * 4 ≤ a.toInt + b.toInt * 2 + c.toInt := by omega
    have hhigh : a.toInt + b.toInt * 2 + c.toInt ≤ max a.toInt (max b.toInt c.toInt) * 4 := by omega
    have hbounds := tdiv_bounds (by decide) hlow hhigh
    refine .ofInt ?_ ?_
    · rcases min_le_iff.mp hbounds.1 with h | h
      · exact ⟨a, ha, h⟩
      · rcases min_le_iff.mp h with h | h
        · exact ⟨b, hb, h⟩
        · exact ⟨c, hc, h⟩
    · rcases le_max_iff.mp hbounds.2 with h | h
      · exact ⟨a, ha, h⟩
      · rcases le_max_iff.mp h with h | h
        · exact ⟨b, hb, h⟩
        · exact ⟨c, hc, h⟩

theorem interpolated_between {i : Nat} (hi : i < input.length * 6) :
    Between (interpolated input i) (neighbors8 input i) := by
  have hcurrent := @mem_window input (i / 6) 0 2 (by decide) (by omega) 0
  have hnext : input.getD (i / 6 + 1) (input.getD (i / 6) 0) ∈ (input.drop (i / 6)).take 2 := by
    rcases Nat.lt_or_ge (i / 6 + 1) input.length with hlast | hlast
    · exact mem_window (by decide) hlast _
    · rwa [List.getD_eq_getElem?_getD, List.getElem?_eq_none hlast]
  unfold interpolated neighbors8
  dsimp only
  rw [Nat.add_zero] at hcurrent
  generalize input.getD (i / 6 + 1) (input.getD (i / 6) 0) = next at *
  generalize input.getD (i / 6) 0 = current at *
  have hstep := step_bounds current next (j := i % 6) (Nat.mod_lt _ (by decide))
  have hbounds := tdiv_bounds (by decide : (0 : Int) < 6) hstep.1 hstep.2
  exact .pair hcurrent hnext (by omega) (by omega)

theorem halved_between {i : Nat} (hi : i < input.length / 2) :
    Between (halved input i) (pair16 input i) := by
  rw [halved, pair16, Nat.mul_comm i 2]
  exact .average (mem_window (k := 2 * i) (j := 0) (by decide) (by omega) 0)
    (mem_window (by decide) (by omega) 0)

theorem doubled_between {i : Nat} (hi : i < input.length * 2) :
    Between (doubled input i) (pair8 input i) := by
  have hcurrent : ∀ n, 0 < n → input.getD (i / 2) 0 ∈ (input.drop (i / 2)).take n :=
    fun n hn => mem_window (k := i / 2) (j := 0) hn (by omega) 0
  unfold doubled pair8
  dsimp only
  split
  · exact .self (hcurrent 1 (by decide))
  · split
    · next hlast => exact .average (hcurrent 2 (by decide)) (mem_window (by decide) hlast 0)
    · exact .self (hcurrent 2 (by decide))

/-- The samples of a WebSocket provider are those that `HandleProviderPCM16k` encodes. -/
theorem downsample16to8_pcm (input : List Int16) :
    downsample16to8 .wrapping input = some (Pcm.downsample16to8 input) := by
  rw [downsample16to8_eq Arith.exact_wrapping, Option.some_inj]
  refine List.ext_getElem? fun i => ?_
  rw [Pcm.getElem?_downsample16to8, List.getElem?_map]
  rcases Nat.lt_or_ge i (input.length / 2) with hi | hi
  · rw [List.getElem?_range hi, getElem?_getD (i := 2 * i) (by omega) 0,
      getElem?_getD (i := 2 * i + 1) (by omega) 0, Option.map_some, Option.bind_some, Option.map_some,
      Option.some_inj, halved, Nat.mul_comm i 2, ← Pcm.toInt_downsampled, Int16.ofInt_toInt]
  · rw [List.getElem?_eq_none (by simpa using hi), List.getElem?_eq_none (i := 2 * i + 1) (by omega)]
    cases input[2 * i]? <;> rfl

/-- A resampler with the same output for all operations that are exact where it fits. -/
theorem InRange.of_values {resample : Arith → List Int16 → Option (List Int16)} {length : Nat → Nat}
    {neighbors : List Int16 → Nat → List Int16} {value : List Int16 → Nat → Int16}
    (heq : ∀ {m : Arith}, m.Exact → ∀ input,
      resample m input = some ((List.range (length input.length)).map (value input)))
    (hbetween : ∀ {input : List Int16} {i : Nat}, i < length input.length →
      Between (value input i) (neighbors input i)) : InRange resample length neighbors := by
  intro input
  refine ⟨_, heq Arith.exact_checked input, heq Arith.exact_wrapping input, by simp, fun i sample hi => ?_⟩
  rw [List.getElem?_map, Option.map_eq_some_iff] at hi
  obtain ⟨j, hj, rfl⟩ := hi
  obtain ⟨hlt, rfl⟩ := List.getElem?_eq_some_iff.mp hj
  rw [List.length_range] at hlt
  rw [List.getElem_range]
  exact hbetween hlt

/-- **Resampling stays in range.** -/
theorem resampling_in_range :
    InRange upsample8to48 (6 * ·) neighbors8 ∧ InRange upsample8to16 (2 * ·) pair8 ∧
      InRange downsample48to8 (· / 6) neighbors48 ∧ InRange downsample16to8 (· / 2) pair16 := by
  have hinterpolated : InRange upsample8to48 (6 * ·) neighbors8 :=
    .of_values (fun hm input => by rw [upsample8to48_eq hm, Nat.mul_comm])
      fun hi => interpolated_between (by omega)
  have hdoubled : InRange upsample8to16 (2 * ·) pair8 :=
    .of_values (fun hm input => by rw [upsample8to16_eq hm, Nat.mul_comm])
      fun hi => doubled_between (by omega)
  exact ⟨hinterpolated, hdoubled, .of_values downsample48to8_eq decimated_between,
    .of_values downsample16to8_eq halved_between⟩

end

end Svarla.MediaBridge.Resampling
