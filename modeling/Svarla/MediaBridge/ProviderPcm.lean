import Mathlib.Algebra.Order.Field.Basic
import Mathlib.Algebra.Order.Group.Unbundled.Int
import Mathlib.Algebra.Order.Ring.Abs
import Mathlib.Algebra.Order.Ring.Rat
import Mathlib.Tactic.IntervalCases
import Mathlib.Tactic.Linarith
import Mathlib.Tactic.Ring
import Svarla.MediaBridge.RtpStreams

/-!
# PCM from a WebSocket provider

`HandleProviderPCM16k` reads 16-bit samples of 16 kHz from the bytes, averages each pair of them, and
writes the averages as G.711 µ-law to the client. The µ-law byte keeps the sign of a sample and the
quantisation step that its clipped magnitude falls in, and is decoded as the middle of that step
(`decode_linearToUlaw`).

`-32768` has no negative among the 16-bit integers. It stays what it is when its magnitude is taken,
so that the loudest sample is sent as silence (`decode_linearToUlaw_min`). Every other sample reaches
the client (`provider_pcm_undistorted_iff`).

The samples are fixed-width integers here, and bit vectors where the sessions count packets: the payload
is the same (`payload_toBitVec`). The tap for decoded audio, and a failure of the writer, which is only
logged, are left out.
-/

namespace Svarla.MediaBridge.Pcm

/-- The additive bias of the standard. -/
def ulawBias : Int16 := 0x84

/-- The largest magnitude that is not clipped. -/
def ulawClip : Int16 := 32635

/-- The segment of a biased magnitude, by its bits from the eighth on. -/
def expLut : List Nat :=
  .replicate 2 0 ++ .replicate 2 1 ++ .replicate 4 2 ++ .replicate 8 3 ++ .replicate 16 4 ++
    .replicate 32 5 ++ .replicate 64 6 ++ .replicate 128 7

/-- The sample without its sign, in 16 bits. -/
def ulawMagnitude (sample : Int16) : Int16 := if sample < 0 then -sample else sample

def ulawClipped (sample : Int16) : Int16 :=
  if ulawMagnitude sample > ulawClip then ulawClip else ulawMagnitude sample

def ulawBiased (sample : Int16) : Int16 := ulawClipped sample + ulawBias

/-- The byte with a sign bit, a segment and a mantissa, complemented. -/
def ulawByte (negative : Bool) (exponent mantissa : Nat) : UInt8 :=
  ~~~ UInt8.ofNat ((if negative then 0x80 else 0) ||| exponent <<< 4 ||| mantissa)

/-- `LinearToUlaw`. The shifts to the right are floor divisions, and a mask is a remainder, also of a
negative number. -/
def linearToUlaw (sample : Int16) : UInt8 :=
  let biased := (ulawBiased sample).toInt
  let exponent := expLut.getD (biased / 2 ^ 7 % 256).toNat 0
  let mantissa := (biased / 2 ^ (exponent + 3) % 16).toNat
  ulawByte (sample < 0) exponent mantissa

def ulawDecode (u : UInt8) : Int16 :=
  let u := ~~~ u
  let sign : Int16 := if u &&& 0x80 ≠ 0 then -1 else 1
  let u := if u &&& 0x80 ≠ 0 then u &&& 0x7F else u
  let exponent := ((u >>> 4) &&& 0x07).toNat
  let mantissa := (u &&& 0x0F).toNat
  let sample := Int16.ofInt ((((2 * mantissa + 33) <<< (exponent + 2) : Nat) : Int) - ulawBias.toInt)
  sign * sample

def encodeUlaw (pcm : List Int16) : List UInt8 := pcm.map linearToUlaw

def decodeUlaw (ulaw : List UInt8) : List Int16 := ulaw.map ulawDecode

/-- `BytesToPCM16`. An odd byte at the end is ignored. -/
def bytesToPCM16 : List UInt8 → List Int16
  | lo :: hi :: data => (lo.toUInt16.toInt16 ||| hi.toUInt16.toInt16 <<< 8) :: bytesToPCM16 data
  | _ => []

/-- What a pair of samples becomes. -/
def downsampled (a b : Int16) : Int16 := ((a.toInt32 + b.toInt32) / 2).toInt16

/-- `downsample16to8`. An odd sample at the end is ignored: the branch of the code for it is never
taken. -/
def downsample16to8 : List Int16 → List Int16
  | a :: b :: input => downsampled a b :: downsample16to8 input
  | _ => []

/-- What the bridge counts for the client, and whether it has a writer. -/
structure ClientLeg where
  webrtcWriter : Bool
  webrtcSeqNum : UInt16
  webrtcTimestamp : UInt32
  deriving DecidableEq, Repr

structure UlawPacket where
  payloadType : UInt8
  sequenceNumber : UInt16
  timestamp : UInt32
  ssrc : UInt32
  payload : List UInt8
  deriving DecidableEq, Repr

/-- `HandleProviderPCM16k`: the leg after it, and the packet for the writer. -/
def handleProviderPCM16k (b : ClientLeg) (pcm16k : List UInt8) : ClientLeg × Option UlawPacket :=
  let samples16k := bytesToPCM16 pcm16k
  let samples8k := downsample16to8 samples16k
  let g711Payload := encodeUlaw samples8k
  let b := { b with
    webrtcSeqNum := b.webrtcSeqNum + 1
    webrtcTimestamp := b.webrtcTimestamp + UInt32.ofNat samples8k.length }
  (b, if b.webrtcWriter then some ⟨0, b.webrtcSeqNum, b.webrtcTimestamp, 0x87654321, g711Payload⟩
    else none)

/-! ### What a sample becomes -/

/-- The segment of the standard that a magnitude is in. -/
def segment (x : Nat) : Nat := Nat.log2 (x + 132) - 7

/-- The quantisation step at a magnitude. -/
def quantStep (x : Nat) : Nat := 2 ^ (segment x + 3)

/-- The middle of the quantisation step that a magnitude is in. -/
def level (x : Nat) : Int := ((x + 132) / quantStep x * quantStep x + quantStep x / 2 : Nat) - 132

/-- The magnitude that is encoded: not above the clip. -/
def clippedTo (x : Nat) : Nat := min x 32635

/-- The segments begin at the powers of two. -/
theorem segment_spec {x : Nat} (hx : x ≤ 32635) :
    segment x < 8 ∧ 2 ^ (segment x + 7) ≤ x + 132 ∧ x + 132 < 2 ^ (segment x + 8) := by
  have hle : 2 ^ Nat.log2 (x + 132) ≤ x + 132 := Nat.log2_self_le (by omega)
  have hlt : x + 132 < 2 ^ (Nat.log2 (x + 132) + 1) := Nat.lt_log2_self
  have h7 : 7 ≤ Nat.log2 (x + 132) := (Nat.le_log2 (by omega)).mpr (by omega)
  have h15 : Nat.log2 (x + 132) < 15 := (Nat.log2_lt (by omega)).mpr (by omega)
  have hsegment : segment x + 7 = Nat.log2 (x + 132) := by unfold segment; omega
  refine ⟨by omega, by rwa [hsegment], ?_⟩
  rw [show segment x + 8 = Nat.log2 (x + 132) + 1 by omega]
  exact hlt

/-- The quotient by the step is what the code keeps as a mantissa, with the bit that every biased
magnitude of the segment has. -/
theorem div_quantStep {x : Nat} (hx : x ≤ 32635) :
    16 ≤ (x + 132) / quantStep x ∧ (x + 132) / quantStep x < 32 := by
  obtain ⟨_, hle, hlt⟩ := segment_spec hx
  have hpos : 0 < 2 ^ (segment x + 3) := by positivity
  constructor
  · rw [quantStep, Nat.le_div_iff_mul_le hpos]
    calc 16 * 2 ^ (segment x + 3) = 2 ^ (segment x + 7) := by ring
      _ ≤ x + 132 := hle
  · rw [quantStep, Nat.div_lt_iff_lt_mul hpos]
    calc x + 132 < 2 ^ (segment x + 8) := hlt
      _ = 32 * 2 ^ (segment x + 3) := by ring

theorem quantStep_even (x : Nat) : quantStep x / 2 * 2 = quantStep x := by
  rw [quantStep, pow_succ, Nat.mul_div_cancel _ (by omega)]

/-- The middle of the step is not farther than half of it, and that also from half a unit above the
magnitude. -/
theorem level_near (x : Nat) :
    (x : Int) - quantStep x / 2 + 1 ≤ level x ∧ level x ≤ x + quantStep x / 2 := by
  have hdiv := Nat.div_add_mod (x + 132) (quantStep x)
  have hmod := Nat.mod_lt (x + 132) (show 0 < quantStep x from by unfold quantStep; positivity)
  have heven := quantStep_even x
  rw [Nat.mul_comm] at hdiv
  unfold level
  omega

/-- The level of a magnitude is in the magnitude's segment. -/
theorem level_segment {x : Nat} (hx : x ≤ 32635) :
    (2 : Int) ^ (segment x + 7) + 2 ^ (segment x + 2) ≤ level x + 132 ∧
      level x + 132 < 2 ^ (segment x + 8) := by
  obtain ⟨h16, h32⟩ := div_quantStep hx
  have hstep : quantStep x = 2 * 2 ^ (segment x + 2) := by rw [quantStep]; ring
  have hhalf : quantStep x / 2 = 2 ^ (segment x + 2) := by omega
  have hlow := Nat.mul_le_mul_right (quantStep x) h16
  have hhigh := Nat.mul_le_mul_right (quantStep x) (Nat.le_of_lt_succ h32)
  have hpos : 0 < 2 ^ (segment x + 2) := by positivity
  have h7 : (2 : Int) ^ (segment x + 7) = 32 * (2 ^ (segment x + 2) : Nat) := by push_cast; ring
  have h8 : (2 : Int) ^ (segment x + 8) = 64 * (2 ^ (segment x + 2) : Nat) := by push_cast; ring
  have h2 : (2 : Int) ^ (segment x + 2) = (2 ^ (segment x + 2) : Nat) := by push_cast; ring
  rw [h7, h8, h2]
  unfold level
  omega

/-- A level is a magnitude of 16 bits. -/
theorem level_bounds {x : Nat} (hx : x ≤ 32635) : 0 ≤ level x ∧ level x < 2 ^ 15 := by
  obtain ⟨hlow, hhigh⟩ := level_segment hx
  have hsegment := (segment_spec hx).1
  have h7 : (2 : Int) ^ 7 ≤ 2 ^ (segment x + 7) := pow_le_pow_right₀ (by decide) (by omega)
  have h2 : (2 : Int) ^ 2 ≤ 2 ^ (segment x + 2) := pow_le_pow_right₀ (by decide) (by omega)
  have h8 : (2 : Int) ^ (segment x + 8) ≤ 2 ^ 15 := pow_le_pow_right₀ (by decide) (by omega)
  omega

/-- **Louder is not quieter.** -/
theorem level_mono {x y : Nat} (hxy : x ≤ y) (hy : y ≤ 32635) : level x ≤ level y := by
  have hsegments : segment x ≤ segment y := by
    by_contra hlt
    have hle := (segment_spec (hxy.trans hy)).2.1
    have hlt' := (segment_spec hy).2.2
    have hpow : 2 ^ (segment y + 8) ≤ 2 ^ (segment x + 7) := pow_le_pow_right₀ (by decide) (by omega)
    omega
  obtain heq | hlt := hsegments.eq_or_lt
  · -- in one segment there is one step
    have hsteps : quantStep x = quantStep y := by rw [quantStep, quantStep, heq]
    have hdiv := Nat.mul_le_mul_right (quantStep y)
      (Nat.div_le_div_right (c := quantStep y) (Nat.add_le_add_right hxy 132))
    unfold level
    rw [hsteps]
    omega
  · -- the segments are apart
    have hx := (level_segment (hxy.trans hy)).2
    have hy := (level_segment hy).1
    have hpow : (2 : Int) ^ (segment x + 8) ≤ 2 ^ (segment y + 7) :=
      pow_le_pow_right₀ (by decide) (by omega)
    have hpos : (0 : Int) < 2 ^ (segment y + 2) := by positivity
    omega

/-! ### What a sample is encoded as -/

/-- The table has the binary logarithms. -/
theorem expLut_getD_eq_log2 {i : Nat} (hi : i < 256) : expLut.getD i 0 = Nat.log2 i := by
  have hall : ∀ i < 256, expLut.getD i 0 = Nat.log2 i := by decide +kernel
  exact hall i hi

/-- The table gives the segment. -/
theorem expLut_segment {x : Nat} (hx : x ≤ 32635) :
    expLut.getD ((x + 132) / 2 ^ 7 % 256) 0 = segment x := by
  obtain ⟨hsegment, hle, hlt⟩ := segment_spec hx
  have hpos : 0 < 2 ^ 7 := by decide
  rw [Nat.mod_eq_of_lt (by omega), expLut_getD_eq_log2 (by omega), Nat.log2_eq_iff (by omega)]
  constructor
  · rw [Nat.le_div_iff_mul_le hpos, ← pow_add]
    exact hle
  · rw [Nat.div_lt_iff_lt_mul hpos, ← pow_add]
    exact hlt

/-- A byte is decoded as the middle of its step. -/
theorem ulawDecode_ulawByte (negative : Bool) {exponent mantissa : Nat} (he : exponent < 8)
    (hm : mantissa < 16) : (ulawDecode (ulawByte negative exponent mantissa)).toInt =
      (if negative then -1 else 1) * ((2 * mantissa + 33) * 2 ^ (exponent + 2) - 132) := by
  have hall : ∀ negative, ∀ e < 8, ∀ m < 16, (ulawDecode (ulawByte negative e m)).toInt =
      (if negative then -1 else 1) * ((2 * m + 33) * 2 ^ (e + 2) - 132) := by
    decide +kernel
  exact hall negative exponent he mantissa hm

/-- Only the least sample has no negative. -/
theorem toInt_ulawMagnitude {sample : Int16} (h : sample ≠ -32768) :
    (ulawMagnitude sample).toInt = sample.toInt.natAbs := by
  have hmin : sample.toInt ≠ -32768 := fun heq => h (Int16.toInt_inj.mp (heq.trans rfl))
  have hlow := sample.le_toInt
  have hhigh := sample.toInt_lt
  unfold ulawMagnitude
  split
  · rename_i hneg
    rw [Int16.lt_iff_toInt_lt] at hneg
    rw [Int16.toInt_neg, Int.bmod_eq_of_le (by omega) (by omega)]
    have : (0 : Int16).toInt = 0 := rfl
    omega
  · rename_i hneg
    rw [Int16.lt_iff_toInt_lt] at hneg
    have : (0 : Int16).toInt = 0 := rfl
    omega

theorem toInt_ulawClipped {sample : Int16} (h : sample ≠ -32768) :
    (ulawClipped sample).toInt = clippedTo sample.toInt.natAbs := by
  have hmagnitude := toInt_ulawMagnitude h
  have hclip : ulawClip.toInt = 32635 := rfl
  unfold ulawClipped clippedTo
  split
  · rename_i hgt
    rw [gt_iff_lt, Int16.lt_iff_toInt_lt, hclip, hmagnitude] at hgt
    omega
  · rename_i hgt
    rw [gt_iff_lt, Int16.lt_iff_toInt_lt, hclip, hmagnitude] at hgt
    omega

/-- The bias does not overflow. -/
theorem toInt_ulawBiased {sample : Int16} (h : sample ≠ -32768) :
    (ulawBiased sample).toInt = clippedTo sample.toInt.natAbs + 132 := by
  have hbias : ulawBias.toInt = 132 := rfl
  have hclipped : clippedTo sample.toInt.natAbs ≤ 32635 := Nat.min_le_right _ _
  rw [ulawBiased, Int16.toInt_add, toInt_ulawClipped h, hbias,
    Int.bmod_eq_of_le (by omega) (by omega)]

/-- **What is decoded.** The sign is kept, and the magnitude is the level of the clipped one. -/
theorem decode_linearToUlaw {sample : Int16} (h : sample ≠ -32768) :
    (ulawDecode (linearToUlaw sample)).toInt =
      (if sample < 0 then -1 else 1) * level (clippedTo sample.toInt.natAbs) := by
  have hx : clippedTo sample.toInt.natAbs ≤ 32635 := Nat.min_le_right _ _
  generalize hclipped : clippedTo sample.toInt.natAbs = x at hx ⊢
  have hbiased : (ulawBiased sample).toInt = ((x + 132 : Nat) : Int) := by
    rw [toInt_ulawBiased h, hclipped]
    rfl
  obtain ⟨h16, h32⟩ := div_quantStep hx
  obtain ⟨hsegment, -, -⟩ := segment_spec hx
  have hexponent : expLut.getD (((x + 132 : Nat) : Int) / 2 ^ 7 % 256).toNat 0 = segment x :=
    expLut_segment hx
  have hmantissa : (((x + 132 : Nat) : Int) / 2 ^ (segment x + 3) % 16).toNat =
      (x + 132) / quantStep x - 16 := by
    have : (((x + 132 : Nat) : Int) / 2 ^ (segment x + 3) % 16).toNat =
        (x + 132) / quantStep x % 16 := rfl
    omega
  unfold linearToUlaw
  simp only [hbiased, hexponent, hmantissa]
  rw [ulawDecode_ulawByte _ hsegment (by omega)]
  simp only [decide_eq_true_eq]
  refine congrArg (fun l : Int => (if sample < 0 then -1 else 1) * l) ?_
  -- the mantissa and the bit before it are the quotient again
  have hstep : quantStep x = 2 * 2 ^ (segment x + 2) := by rw [quantStep]; ring
  have hhalf : quantStep x / 2 = 2 ^ (segment x + 2) := by omega
  rw [level, hhalf]
  push_cast [Nat.cast_sub h16]
  rw [hstep]
  push_cast
  ring

/-- **The loudest sample is silence.** -/
theorem decode_linearToUlaw_min : (ulawDecode (linearToUlaw (-32768))).toInt = 0 := by decide +kernel

/-! ### What a buffer becomes -/

/-- The 16-bit values that the bytes stand for. -/
def littleEndianValues : List UInt8 → List Int
  | lo :: hi :: data =>
    ((lo.toNat + 256 * hi.toNat : Nat) : Int).bmod (2 ^ 16) :: littleEndianValues data
  | _ => []

/-- The average of two samples, which need not be an integer. -/
def average (a b : Int16) : ℚ := (a.toInt + b.toInt : Int) / 2

def clippedAverage (a b : Int16) : ℚ := max (-32635) (min 32635 (average a b))

/-- The quantisation step at the average. -/
def stepAt (a b : Int16) : Nat := quantStep (clippedTo ((a.toInt + b.toInt).natAbs / 2))

/-- `a` and `b` are a pair of samples of the buffer, and `d` is what the client decodes for it. -/
def Reaches (data payload : List UInt8) (a b d : Int16) : Prop :=
  ∃ i, (bytesToPCM16 data)[2 * i]? = some a ∧ (bytesToPCM16 data)[2 * i + 1]? = some b ∧
    (decodeUlaw payload)[i]? = some d

/-- No intermediate value of 16 bits is another one than that of unbounded integers. -/
structure Exact (a b : Int16) : Prop where
  pair : (downsampled a b).toInt = (a.toInt + b.toInt).tdiv 2
  magnitude : (ulawMagnitude (downsampled a b)).toInt = ((a.toInt + b.toInt).tdiv 2).natAbs
  biased : (ulawBiased (downsampled a b)).toInt =
    clippedTo ((a.toInt + b.toInt).tdiv 2).natAbs + 132

/-- The payload is the buffer, as far as µ-law can say it. -/
structure Undistorted (data payload : List UInt8) : Prop where
  samples : (bytesToPCM16 data).map Int16.toInt = littleEndianValues data
  length : payload.length = (bytesToPCM16 data).length / 2
  near : ∀ a b d, Reaches data payload a b d →
    |(d.toInt : ℚ) - clippedAverage a b| ≤ (stepAt a b : ℚ) / 2
  sign : ∀ a b d, Reaches data payload a b d →
    (0 ≤ average a b → 0 ≤ d.toInt) ∧ (average a b ≤ 0 → d.toInt ≤ 0)
  exact : ∀ a b d, Reaches data payload a b d → Exact a b
  louder : ∀ a b d a' b' d', Reaches data payload a b d → Reaches data payload a' b' d' →
    |average a b| ≤ |average a' b'| → |d.toInt| ≤ |d'.toInt|

/-- The `i`-th pair of samples is the least one twice. -/
def FullScaleAt (data : List UInt8) (i : Nat) : Prop :=
  (bytesToPCM16 data)[2 * i]? = some (-32768) ∧ (bytesToPCM16 data)[2 * i + 1]? = some (-32768)

theorem toInt_littleEndian (lo hi : UInt8) :
    (lo.toUInt16.toInt16 ||| hi.toUInt16.toInt16 <<< 8).toInt =
      ((lo.toNat + 256 * hi.toNat : Nat) : Int).bmod (2 ^ 16) := by
  have hlo := lo.toNat_lt
  have hhi := hi.toNat_lt
  have hvalue : (lo.toUInt16.toInt16 ||| hi.toUInt16.toInt16 <<< 8).toBitVec.toNat =
      lo.toNat + 256 * hi.toNat := by
    have hor := Nat.shiftLeft_add_eq_or_of_lt (show lo.toNat < 2 ^ 8 from hlo) hi.toNat
    rw [Nat.or_comm, Nat.shiftLeft_eq] at hor
    have hshift : hi.toNat <<< 8 % 2 ^ 16 = hi.toNat * 2 ^ 8 := by
      rw [Nat.shiftLeft_eq, Nat.mod_eq_of_lt (by omega)]
    have hplace : ((8 : Int16).toBitVec.smod 16).toNat = 8 := by decide
    rw [Int16.toBitVec_or, Int16.toBitVec_shiftLeft, UInt16.toBitVec_toInt16,
      UInt16.toBitVec_toInt16, UInt8.toBitVec_toUInt16, UInt8.toBitVec_toUInt16, BitVec.toNat_or,
      BitVec.shiftLeft_eq', hplace, BitVec.toNat_shiftLeft, BitVec.toNat_setWidth,
      BitVec.toNat_setWidth, UInt8.toNat_toBitVec, UInt8.toNat_toBitVec,
      Nat.mod_eq_of_lt (a := lo.toNat) (by omega), Nat.mod_eq_of_lt (a := hi.toNat) (by omega),
      hshift, ← hor]
    omega
  rw [← hvalue, Int16.toInt, BitVec.toInt_eq_toNat_bmod]

theorem bytesToPCM16_values (data : List UInt8) :
    (bytesToPCM16 data).map Int16.toInt = littleEndianValues data := by
  induction data using bytesToPCM16.induct with
  | case1 lo hi data ih =>
    rw [bytesToPCM16, littleEndianValues, List.map_cons, ih, toInt_littleEndian]
  | case2 data h => 
    rw [bytesToPCM16, littleEndianValues]
    · rfl
    · exact h
    · exact h

/-- `/` of the code rounds towards zero. -/
theorem tdiv_two (n : Int) : n.tdiv 2 = if 0 ≤ n then n / 2 else -(-n / 2) := by
  split
  · rename_i h
    exact Int.tdiv_eq_ediv_of_nonneg h
  · rename_i h
    rw [← Int.tdiv_eq_ediv_of_nonneg (by omega), Int.neg_tdiv, neg_neg]

/-- The average of two samples fits in 16 bits. -/
theorem toInt_downsampled (a b : Int16) :
    (downsampled a b).toInt = (a.toInt + b.toInt).tdiv 2 := by
  have ha := a.le_toInt
  have ha' := a.toInt_lt
  have hb := b.le_toInt
  have hb' := b.toInt_lt
  have h2 : (2 : Int32).toInt = 2 := rfl
  have hquotient := tdiv_two (a.toInt + b.toInt)
  rw [downsampled, Int32.toInt_toInt16, Int32.toInt_div_of_ne_right _ _ (by decide),
    Int32.toInt_add, Int16.toInt_toInt32, Int16.toInt_toInt32, h2]
  rw [Int.bmod_eq_of_le (n := a.toInt + b.toInt) (by omega) (by omega)]
  exact Int.bmod_eq_of_le (by omega) (by omega)

/-- Only two of the least samples have it as their average. -/
theorem downsampled_eq_min_iff (a b : Int16) :
    downsampled a b = -32768 ↔ a = -32768 ∧ b = -32768 := by
  have hmin : (-32768 : Int16).toInt = -32768 := rfl
  have ha := a.le_toInt
  have hb := b.le_toInt
  rw [← Int16.toInt_inj, ← Int16.toInt_inj, ← Int16.toInt_inj, toInt_downsampled, hmin, tdiv_two]
  omega

theorem getElem?_downsample16to8 (input : List Int16) (i : Nat) :
    (downsample16to8 input)[i]? =
      input[2 * i]?.bind fun a => input[2 * i + 1]?.map (downsampled a) := by
  induction input using downsample16to8.induct generalizing i with
  | case1 a b input ih =>
    cases i with
    | zero => rfl
    | succ i => 
      rw [downsample16to8, List.getElem?_cons_succ, ih]
      rfl
  | case2 input h =>
    match input, h with
    | [], _ => rfl
    | [a], _ => cases i <;> rfl
    | a :: b :: input, h => exact absurd rfl (h a b input)

theorem length_downsample16to8 (input : List Int16) :
    (downsample16to8 input).length = input.length / 2 := by
  induction input using downsample16to8.induct with
  | case1 a b input ih =>
    rw [downsample16to8, List.length_cons, ih, List.length_cons, List.length_cons]
    omega
  | case2 input h =>
    match input, h with
    | [], _ => rfl
    | [a], _ => simp [downsample16to8]
    | a :: b :: input, h => exact absurd rfl (h a b input)

/-- What reaches the client, pair by pair. -/
theorem reaches_iff {data : List UInt8} {a b d : Int16} :
    Reaches data (encodeUlaw (downsample16to8 (bytesToPCM16 data))) a b d ↔
      (∃ i, (bytesToPCM16 data)[2 * i]? = some a ∧ (bytesToPCM16 data)[2 * i + 1]? = some b) ∧
        d = ulawDecode (linearToUlaw (downsampled a b)) := by
  have hdecoded : ∀ i, (bytesToPCM16 data)[2 * i]? = some a →
      (bytesToPCM16 data)[2 * i + 1]? = some b →
      (decodeUlaw (encodeUlaw (downsample16to8 (bytesToPCM16 data))))[i]? =
        some (ulawDecode (linearToUlaw (downsampled a b))) := by
    intro i ha hb
    rw [decodeUlaw, encodeUlaw, List.getElem?_map, List.getElem?_map, getElem?_downsample16to8, ha,
      Option.bind_some, hb]
    rfl
  constructor
  · rintro ⟨i, ha, hb, hd⟩
    exact ⟨⟨i, ha, hb⟩, Option.some.inj (hd.symm.trans (hdecoded i ha hb))⟩
  · rintro ⟨⟨i, ha, hb⟩, rfl⟩
    exact ⟨i, ha, hb, hdecoded i ha hb⟩

theorem exact_of_ne_min {a b : Int16} (h : downsampled a b ≠ -32768) : Exact a b where
  pair := toInt_downsampled a b
  magnitude := by rw [toInt_ulawMagnitude h, toInt_downsampled]
  biased := by rw [toInt_ulawBiased h, toInt_downsampled]

/-- The clipped average in halves. -/
theorem clippedAverage_eq (a b : Int16) :
    clippedAverage a b = (max (-65270) (min 65270 (a.toInt + b.toInt)) : Int) / 2 := by
  unfold clippedAverage average
  generalize a.toInt + b.toInt = n
  push_cast
  have htwo : (0 : ℚ) ≤ 2 := by norm_num
  rw [← max_div_div_right htwo, ← min_div_div_right htwo]
  norm_num

/-- What is decoded for a pair, by the sum of its samples. -/
theorem decoded_eq {a b : Int16} (h : downsampled a b ≠ -32768) :
    (ulawDecode (linearToUlaw (downsampled a b))).toInt =
      (if a.toInt + b.toInt ≤ -2 then -1 else 1) *
        level (clippedTo ((a.toInt + b.toInt).natAbs / 2)) := by
  have hpair := tdiv_two (a.toInt + b.toInt)
  have hmagnitude : (downsampled a b).toInt.natAbs = (a.toInt + b.toInt).natAbs / 2 := by
    rw [toInt_downsampled]
    omega
  have hsign : downsampled a b < 0 ↔ a.toInt + b.toInt ≤ -2 := by
    have hzero : (0 : Int16).toInt = 0 := rfl
    rw [Int16.lt_iff_toInt_lt, toInt_downsampled, hzero]
    omega
  rw [decode_linearToUlaw h, hmagnitude]
  simp only [hsign]

theorem clippedTo_le (x : Nat) : clippedTo x ≤ 32635 := Nat.min_le_right _ _

/-- **Half a step at most.** -/
theorem near_of_ne_min {a b : Int16} (h : downsampled a b ≠ -32768) :
    |((ulawDecode (linearToUlaw (downsampled a b))).toInt : ℚ) - clippedAverage a b| ≤
      (stepAt a b : ℚ) / 2 := by
  have hdecoded := decoded_eq h
  rw [clippedAverage_eq, stepAt]
  generalize (ulawDecode (linearToUlaw (downsampled a b))).toInt = d at hdecoded ⊢
  generalize a.toInt + b.toInt = n at hdecoded ⊢
  generalize hx : clippedTo (n.natAbs / 2) = x at hdecoded ⊢
  have hnear := level_near x
  have heven := quantStep_even x
  have hzero : x = 0 → level x = 0 := by
    rintro rfl
    decide
  rw [clippedTo] at hx
  -- all of it doubled, in the integers
  have hdoubled : |2 * d - max (-65270) (min 65270 n)| ≤ quantStep x := by
    rw [hdecoded, abs_le]
    split <;> omega
  have hcast : |2 * (d : ℚ) - (max (-65270) (min 65270 n) : Int)| ≤ quantStep x := by
    exact_mod_cast hdoubled
  rw [abs_le] at hcast ⊢
  constructor <;> linarith [hcast.1, hcast.2]

theorem sign_of_ne_min {a b : Int16} (h : downsampled a b ≠ -32768) :
    (0 ≤ average a b → 0 ≤ (ulawDecode (linearToUlaw (downsampled a b))).toInt) ∧
      (average a b ≤ 0 → (ulawDecode (linearToUlaw (downsampled a b))).toInt ≤ 0) := by
  have hlevel := (level_bounds (clippedTo_le ((a.toInt + b.toInt).natAbs / 2))).1
  rw [decoded_eq h, average]
  constructor
  · intro hnonneg
    have hsum : 0 ≤ a.toInt + b.toInt := by
      have : (0 : ℚ) ≤ (a.toInt + b.toInt : Int) := by linarith
      exact_mod_cast this
    rw [if_neg (by omega)]
    omega
  · intro hnonpos
    have hsum : a.toInt + b.toInt ≤ 0 := by
      have : ((a.toInt + b.toInt : Int) : ℚ) ≤ 0 := by linarith
      exact_mod_cast this
    split
    · omega
    · have hsmall : clippedTo ((a.toInt + b.toInt).natAbs / 2) = 0 := by
        rw [clippedTo]
        omega
      rw [hsmall]
      decide

theorem louder_of_ne_min {a b a' b' : Int16} (h : downsampled a b ≠ -32768)
    (h' : downsampled a' b' ≠ -32768) (hle : |average a b| ≤ |average a' b'|) :
    |(ulawDecode (linearToUlaw (downsampled a b))).toInt| ≤
      |(ulawDecode (linearToUlaw (downsampled a' b'))).toInt| := by
  have hsums : (a.toInt + b.toInt).natAbs ≤ (a'.toInt + b'.toInt).natAbs := by
    rw [average, average, abs_div, abs_div] at hle
    have hcast : |((a.toInt + b.toInt : Int) : ℚ)| ≤ |((a'.toInt + b'.toInt : Int) : ℚ)| :=
      (div_le_div_iff_of_pos_right (by norm_num)).mp hle
    have habs : |a.toInt + b.toInt| ≤ |a'.toInt + b'.toInt| := by exact_mod_cast hcast
    rw [Int.abs_eq_natAbs, Int.abs_eq_natAbs] at habs
    exact_mod_cast habs
  have habs : ∀ (p : Prop) [Decidable p] (x : Nat), x ≤ 32635 →
      |(if p then -1 else 1) * level x| = level x := by
    intro p _ x hx
    have hlevel := (level_bounds hx).1
    split
    · rw [neg_one_mul, abs_neg, abs_of_nonneg hlevel]
    · rw [one_mul, abs_of_nonneg hlevel]
  rw [decoded_eq h, decoded_eq h', habs _ _ (clippedTo_le _), habs _ _ (clippedTo_le _)]
  refine level_mono ?_ (clippedTo_le _)
  rw [clippedTo, clippedTo]
  omega

/-- Two of the least samples are decoded as silence, which is far from their average. -/
theorem not_near_min : ¬ |((ulawDecode (linearToUlaw (-32768))).toInt : ℚ) -
    clippedAverage (-32768) (-32768)| ≤ (stepAt (-32768) (-32768) : ℚ) / 2 := by
  have haverage : clippedAverage (-32768) (-32768) = -32635 := by
    rw [clippedAverage_eq]
    norm_num [show (-32768 : Int16).toInt = -32768 from rfl]
  have hstep : stepAt (-32768) (-32768) = 1024 := by decide +kernel
  rw [decode_linearToUlaw_min, haverage, hstep]
  norm_num

/-- **PCM reaches the client undistorted, unless it is at full scale.** Where the client has a writer,
a packet is written for the buffer. It says what the buffer says if and only if no pair of samples is
the least one twice. -/
theorem provider_pcm_undistorted_iff (b : ClientLeg) (data : List UInt8) (hwriter : b.webrtcWriter) :
    (∃ pkt, (handleProviderPCM16k b data).2 = some pkt ∧ Undistorted data pkt.payload) ↔
      ∀ i, ¬ FullScaleAt data i := by
  have hout : (handleProviderPCM16k b data).2 = some ⟨0, b.webrtcSeqNum + 1,
      b.webrtcTimestamp + UInt32.ofNat (downsample16to8 (bytesToPCM16 data)).length, 0x87654321,
      encodeUlaw (downsample16to8 (bytesToPCM16 data))⟩ := if_pos hwriter
  constructor
  · rintro ⟨pkt, hpkt, hundistorted⟩ i ⟨ha, hb⟩
    obtain rfl := Option.some.inj (hout.symm.trans hpkt)
    exact not_near_min (hundistorted.near _ _ _ (reaches_iff.mpr ⟨⟨i, ha, hb⟩, rfl⟩))
  · intro hfull
    have hne : ∀ {a b d}, Reaches data (encodeUlaw (downsample16to8 (bytesToPCM16 data))) a b d →
        downsampled a b ≠ -32768 ∧ d = ulawDecode (linearToUlaw (downsampled a b)) := by
      intro a b d hreaches
      obtain ⟨⟨i, ha, hb⟩, hd⟩ := reaches_iff.mp hreaches
      refine ⟨fun hmin => ?_, hd⟩
      obtain ⟨rfl, rfl⟩ := (downsampled_eq_min_iff a b).mp hmin
      exact hfull i ⟨ha, hb⟩
    refine ⟨_, hout, ?_⟩
    constructor
    · exact bytesToPCM16_values data
    · rw [encodeUlaw, List.length_map, length_downsample16to8]
    · intro a b d hreaches
      obtain ⟨hmin, rfl⟩ := hne hreaches
      exact near_of_ne_min hmin
    · intro a b d hreaches
      obtain ⟨hmin, rfl⟩ := hne hreaches
      exact sign_of_ne_min hmin
    · intro a b d hreaches
      exact exact_of_ne_min (hne hreaches).1
    · intro a b d a' b' d' hreaches hreaches' hle
      obtain ⟨hmin, rfl⟩ := hne hreaches
      obtain ⟨hmin', rfl⟩ := hne hreaches'
      exact louder_of_ne_min hmin hmin' hle

/-- A buffer with a full-scale sample among others. -/
theorem provider_pcm_undistorted_quiet :
    ∃ pkt, (handleProviderPCM16k ⟨true, 0, 0⟩ [0x00, 0x80, 0x00, 0x7F, 0x07]).2 = some pkt ∧
      Undistorted [0x00, 0x80, 0x00, 0x7F, 0x07] pkt.payload :=
  (provider_pcm_undistorted_iff ⟨true, 0, 0⟩ [0x00, 0x80, 0x00, 0x7F, 0x07] rfl).mpr fun i => by
    rintro ⟨hfirst, hsecond⟩
    have hsamples : bytesToPCM16 [0x00, 0x80, 0x00, 0x7F, 0x07] = [-32768, 32512] := by decide +kernel
    rw [hsamples] at hsecond
    match i with
    | 0 => revert hsecond; decide
    | i + 1 => cases hsecond

/-- Two samples of `-32768` are sent as the byte that is decoded as silence. -/
theorem full_scale_silent :
    ∃ pkt, (handleProviderPCM16k ⟨true, 0, 0⟩ [0x00, 0x80, 0x00, 0x80]).2 = some pkt ∧
      (decodeUlaw pkt.payload).map Int16.toInt = [0] ∧
      ¬ Undistorted [0x00, 0x80, 0x00, 0x80] pkt.payload := by
  refine ⟨⟨0, 1, 1, 0x87654321, [0x7F]⟩, by decide +kernel, by decide +kernel, fun h => ?_⟩
  have hpayload : encodeUlaw (downsample16to8 (bytesToPCM16 [0x00, 0x80, 0x00, 0x80])) = [0x7F] := by
    decide +kernel
  refine not_near_min (h.near (-32768) (-32768) _ ?_)
  rw [← hpayload, reaches_iff]
  exact ⟨⟨0, by decide +kernel, by decide +kernel⟩, by decide +kernel⟩

/-! ### The payload in a session -/

/-- A mask is a remainder. -/
theorem toNat_and_mask (x : BitVec 16) {k : Nat} (hk : k ≤ 8) :
    ((x &&& BitVec.ofNat 16 (2 ^ k - 1)).toNat : Int) = x.toInt % 2 ^ k := by
  have hle : 2 ^ k ≤ 2 ^ 8 := Nat.pow_le_pow_right (by decide) hk
  have hmask : (2 ^ k - 1) % 2 ^ 16 = 2 ^ k - 1 := Nat.mod_eq_of_lt (by omega)
  have hdvd : (2 : Int) ^ k ∣ 65536 := ⟨2 ^ (16 - k), by
    rw [← pow_add, show k + (16 - k) = 16 by omega]
    norm_num⟩
  rw [BitVec.toNat_and, BitVec.toNat_ofNat, hmask, Nat.and_two_pow_sub_one_eq_mod]
  have hx : x.toInt % 2 ^ k = (x.toNat : Int) % 2 ^ k := by
    rw [BitVec.toInt_eq_toNat_bmod, ← Int.emod_emod_of_dvd _ hdvd,
      ← Int.emod_emod_of_dvd (x.toNat : Int) hdvd]
    exact congrArg (· % (2 : Int) ^ k) (Int.bmod_emod ..)
  rw [hx]
  push_cast
  rfl

theorem biased_toBitVec (sample : Int16) :
    let m := if sample.toBitVec.toInt < 0 then -sample.toBitVec else sample.toBitVec
    (if 32635 < m.toInt then 32635 else m) + 0x84 = (ulawBiased sample).toBitVec := by
  have hmagnitude : (if sample.toBitVec.toInt < 0 then -sample.toBitVec else sample.toBitVec) =
      (ulawMagnitude sample).toBitVec := by
    unfold ulawMagnitude
    have hiff : sample < 0 ↔ sample.toBitVec.toInt < 0 := Int16.lt_iff_toInt_lt
    by_cases hneg : sample < 0
    · rw [if_pos hneg, if_pos (hiff.mp hneg)]
      rfl
    · rw [if_neg hneg, if_neg fun h => hneg (hiff.mpr h)]
  intro m
  have hm : m = (ulawMagnitude sample).toBitVec := hmagnitude
  rw [hm, ulawBiased, ulawClipped]
  have hiff : ulawMagnitude sample > ulawClip ↔ 32635 < (ulawMagnitude sample).toBitVec.toInt :=
    Int16.lt_iff_toInt_lt
  by_cases hclip : ulawMagnitude sample > ulawClip
  · rw [if_pos hclip, if_pos (hiff.mp hclip)]
    rfl
  · rw [if_neg hclip, if_neg fun h => hclip (hiff.mpr h)]
    rfl

theorem littleEndian_toBitVec (lo hi : UInt8) :
    (lo.toUInt16.toInt16 ||| hi.toUInt16.toInt16 <<< 8).toBitVec = hi.toBitVec ++ lo.toBitVec := by
  ext i hi'
  rw [← BitVec.getLsbD_eq_getElem, ← BitVec.getLsbD_eq_getElem, BitVec.getLsbD_append]
  by_cases hlt : i < 8
  · simp [hlt, hi']
  · have hlo : lo.toBitVec.getLsbD i = false := BitVec.getLsbD_of_ge _ _ (Nat.le_of_not_lt hlt)
    simp [hlt, hi', hlo]

/-- The byte of a sample is that of the sessions. -/
theorem linearToUlaw_toBitVec (sample : Int16) :
    (linearToUlaw sample).toBitVec = MediaBridge.linearToUlaw sample.toBitVec := by
  have hbiased := biased_toBitVec sample
  simp only at hbiased
  unfold MediaBridge.linearToUlaw
  simp only [hbiased]
  -- the shifts and the masks, of the biased sample
  have hshift (n : Nat) {k : Nat} (hk : k ≤ 8) :
      (((ulawBiased sample).toBitVec.sshiftRight n) &&& BitVec.ofNat 16 (2 ^ k - 1)).toNat =
        ((ulawBiased sample).toInt / 2 ^ n % 2 ^ k).toNat := by
    have hmask := toNat_and_mask ((ulawBiased sample).toBitVec.sshiftRight n) hk
    rw [BitVec.toInt_sshiftRight, Int.shiftRight_eq_div_pow] at hmask
    have hcast : ((2 ^ n : Nat) : Int) = 2 ^ n := by push_cast; rfl
    rw [hcast] at hmask
    exact (congrArg Int.toNat hmask : _)
  have hbytes : ∀ negative : Bool, ∀ e < 8, ∀ m < 16, (ulawByte negative e m).toBitVec =
      ~~~((if negative then 0x80 else 0) ||| BitVec.ofNat 16 (e * 16) |||
        BitVec.ofNat 16 m).setWidth 8 := by
    decide +kernel
  have hindex : ((ulawBiased sample).toInt / 2 ^ 7 % 256).toNat < 256 := by omega
  have hlog := expLut_getD_eq_log2 hindex
  have hexponent : Nat.log2 (((ulawBiased sample).toBitVec.sshiftRight 7) &&& 0xFF).toNat =
      expLut.getD ((ulawBiased sample).toInt / 2 ^ 7 % 256).toNat 0 := by
    rw [hlog]
    exact congrArg Nat.log2 (hshift 7 (k := 8) (by decide))
  rw [hexponent, linearToUlaw]
  have hlt : expLut.getD ((ulawBiased sample).toInt / 2 ^ 7 % 256).toNat 0 < 8 := by
    rw [hlog]
    by_contra hge
    have hpos : ((ulawBiased sample).toInt / 2 ^ 7 % 256).toNat ≠ 0 := by
      intro hzero
      rw [hzero] at hge
      exact hge (by decide)
    have := (Nat.le_log2 hpos).mp (Nat.le_of_not_lt hge)
    omega
  generalize expLut.getD ((ulawBiased sample).toInt / 2 ^ 7 % 256).toNat 0 = e at hlt ⊢
  have hmantissa : ((ulawBiased sample).toBitVec.sshiftRight (e + 3)) &&& 0x0F =
      BitVec.ofNat 16 ((ulawBiased sample).toInt / 2 ^ (e + 3) % 16).toNat := by
    have hm := hshift (e + 3) (k := 4) (by decide)
    refine BitVec.eq_of_toNat_eq ?_
    rw [BitVec.toNat_ofNat, Nat.mod_eq_of_lt (by omega)]
    exact hm
  rw [hmantissa, hbytes (sample < 0) e hlt _ (by omega)]
  have hiff : sample < 0 ↔ sample.toBitVec.toInt < 0 := Int16.lt_iff_toInt_lt
  simp only [decide_eq_true_eq, hiff]

/-- **The payload is that of the sessions**, whose samples and bytes are bit vectors. -/
theorem payload_toBitVec (data : List UInt8) :
    (encodeUlaw (downsample16to8 (bytesToPCM16 data))).map UInt8.toBitVec =
      MediaBridge.encodeUlaw
        (MediaBridge.downsample16to8 (MediaBridge.bytesToPCM16 (data.map UInt8.toBitVec))) := by
  have hbytes : (bytesToPCM16 data).map Int16.toBitVec =
      MediaBridge.bytesToPCM16 (data.map UInt8.toBitVec) := by
    induction data using bytesToPCM16.induct with
    | case1 lo hi data ih =>
      rw [bytesToPCM16, List.map_cons, ih, littleEndian_toBitVec]
      rfl
    | case2 data h =>
      match data, h with
      | [], _ => rfl
      | [_], _ => rfl
      | lo :: hi :: data, h => exact absurd rfl (h lo hi data)
  rw [← hbytes]
  generalize bytesToPCM16 data = samples
  induction samples using downsample16to8.induct with
  | case1 a b samples ih =>
    have haverage : BitVec.ofInt 16 ((a.toBitVec.toInt + b.toBitVec.toInt).tdiv 2) =
        (downsampled a b).toBitVec :=
      (congrArg (BitVec.ofInt 16) (toInt_downsampled a b).symm).trans (BitVec.ofInt_toInt ..)
    rw [downsample16to8, List.map_cons, List.map_cons, MediaBridge.downsample16to8, haverage]
    exact congrArg₂ List.cons (linearToUlaw_toBitVec _) ih
  | case2 samples h =>
    match samples, h with
    | [], _ => rfl
    | [_], _ => rfl
    | a :: b :: samples, h => exact absurd rfl (h a b samples)

end Svarla.MediaBridge.Pcm
