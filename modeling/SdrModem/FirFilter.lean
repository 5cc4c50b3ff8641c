import Mathlib.Algebra.Module.Prod
import Mathlib.Data.UInt
import SdrModem.Convolution
import SdrModem.Memcpy

/-!
# The FIR filter

`fir_filter.c`: the working buffer holds the last samples but for those that are behind the
read position already, and the read position goes on in steps of the decimation.  At the end
of a call it may be behind the samples that there are.  The next call then has to have as
many samples as it is behind, and there have to be as many taps but one: otherwise an
unsigned subtraction wraps around and the filter leaves its buffer.

Every access is checked, and `none` is one that leaves its buffer or a division by zero.
`liquid-dsp` multiplies; memory is never short.
-/
namespace SdrModem
open Memcpy Convolution

/-! ## Samples -/

/-- `num_bytes` tells the samples apart. -/
inductive SampleType where
  | float
  | complex
deriving DecidableEq, Repr

namespace SampleType

/-- `sizeof(float)` and `sizeof(float complex)`. -/
def numBytes : SampleType → UInt64
  | .float => 4
  | .complex => 8

/-- Numbers in exact arithmetic; the real part and the imaginary part. -/
def Sample (K : Type) : SampleType → Type
  | .float => K
  | .complex => K × K

variable {K : Type} [CommRing K]

instance : (t : SampleType) → AddCommGroup (t.Sample K)
  | .float => inferInstanceAs (AddCommGroup K)
  | .complex => inferInstanceAs (AddCommGroup (K × K))

instance : (t : SampleType) → Module K (t.Sample K)
  | .float => inferInstanceAs (Module K K)
  | .complex => inferInstanceAs (Module K (K × K))

end SampleType

/-- How many elements there are in `num_bytes * n` bytes. -/
def elements (numBytes n : UInt64) : Nat := (numBytes * n).toNat / numBytes.toNat

/-- `dotprod_rrrf` and `dotprod_crcf`: `create_rev` turns the taps around. -/
structure Dotprod (K : Type) [CommRing K] where
  Coefficients : Type
  createRev : List K → Coefficients
  execute : (t : SampleType) → Coefficients → List (t.Sample K) → t.Sample K
  execute_createRev : ∀ t taps (window : List (t.Sample K)), window.length = taps.length →
    execute t (createRev taps) window = dot taps.reverse window

/-! ## The filter -/

variable {K : Type} [CommRing K]

/-- `struct fir_filter_t`.  The coefficients know how many there are. -/
structure FirFilter (dotprod : Dotprod K) (t : SampleType) where
  decimation : UInt8
  coefficients : dotprod.Coefficients
  coefficientsLen : UInt32
  tapsLen : UInt64
  workingBuffer : List (t.Sample K)
  historyOffset : UInt64
  maxInputBufferLength : UInt64
  output : List (t.Sample K)

variable (dotprod : Dotprod K) (t : SampleType)

/-- `fir_filter_create`.  The working buffer is cleared. -/
def firFilterCreate (decimation : UInt8) (taps : List K) (maxInputBufferLength : UInt64)
    (garbage : t.Sample K) : Option (FirFilter dotprod t) :=
  let tapsLen := UInt64.ofNat taps.length
  let historyOffset := tapsLen - 1
  let workingLenTotal := maxInputBufferLength + historyOffset
  -- `max_input_buffer_length / decimation + 1`
  if decimation = 0 then none
  else
    some
      { decimation := decimation
        coefficients := dotprod.createRev (taps.take tapsLen.toUInt32.toNat)
        coefficientsLen := tapsLen.toUInt32
        tapsLen := tapsLen
        workingBuffer := List.replicate (elements t.numBytes workingLenTotal) 0
        historyOffset := historyOffset
        maxInputBufferLength := maxInputBufferLength
        output := List.replicate (elements t.numBytes maxInputBufferLength) garbage }

namespace FirFilter
variable {dotprod : Dotprod K} {t : SampleType}

/-- The loop of `fir_filter_process_*`.  It goes on as long as `i` is below `maxIndex`, which
takes no more rounds than that. -/
def loop (f : FirFilter dotprod t) (workingBuffer : List (t.Sample K)) (maxIndex : Nat) :
    Nat → Nat → Nat → List (t.Sample K) → Option (Nat × Nat × List (t.Sample K))
  | 0, i, produced, output => some (i, produced, output)
  | rounds + 1, i, produced, output =>
    if i < maxIndex then do
      let window ← readAt workingBuffer i f.coefficientsLen.toNat
      let output ← memcpyAt output produced [dotprod.execute t f.coefficients window]
      loop f workingBuffer maxIndex rounds (i + f.decimation.toNat) (produced + 1) output
    else some (i, produced, output)

/-- `fir_filter_process_float` and `fir_filter_process_complex`. -/
def processSamples (f : FirFilter dotprod t) (input : List (t.Sample K)) :
    Option (FirFilter dotprod t × List (t.Sample K)) := do
  let workingBuffer ← memcpyAt f.workingBuffer f.historyOffset.toNat input
  let workingLen := f.historyOffset + UInt64.ofNat input.length
  let maxIndex := workingLen - (f.tapsLen - 1)
  let (i, produced, output) ← f.loop workingBuffer maxIndex.toNat maxIndex.toNat 0 0 f.output
  let historyOffset := workingLen - UInt64.ofNat i
  let moved :=
    if i > 0 then memmove workingBuffer 0 i (elements t.numBytes historyOffset)
    else some workingBuffer
  let workingBuffer ← moved
  let result ← readAt output 0 produced
  some ({ f with workingBuffer, historyOffset, output }, result)

/-- `fir_filter_process`; the output is `NULL` if the input is too long. -/
def process (f : FirFilter dotprod t) (input : List (t.Sample K)) :
    Option (FirFilter dotprod t × Option (List (t.Sample K))) :=
  if input.length > f.maxInputBufferLength.toNat then some (f, none)
  else (f.processSamples input).map fun (f, output) => (f, some output)

/-- One call after the other, with the outputs joined. -/
def calls (f : FirFilter dotprod t) :
    List (List (t.Sample K)) → Option (FirFilter dotprod t × List (t.Sample K))
  | [] => some (f, [])
  | input :: inputs => do
    let (f, output) ← f.process input
    let (f, rest) ← f.calls inputs
    some (f, output.getD [] ++ rest)

/-! ## Sizes in bytes -/

theorem numBytes_cases (t : SampleType) : t.numBytes.toNat = 4 ∨ t.numBytes.toNat = 8 := by
  cases t
  · exact Or.inl rfl
  · exact Or.inr rfl

theorem elements_eq (numBytes n : UInt64) :
    elements numBytes n = numBytes.toNat * n.toNat % 2 ^ 64 / numBytes.toNat := by
  rw [elements, UInt64.toNat_mul]

theorem elements_lt (t : SampleType) (n : UInt64) : elements t.numBytes n < 2 ^ 62 := by
  rw [elements_eq]
  rcases numBytes_cases t with h | h <;> rw [h] <;> omega

/-- The size does not wrap. -/
theorem elements_of_small {t : SampleType} {n : UInt64}
    (h : t.numBytes.toNat * n.toNat < 2 ^ 64) : elements t.numBytes n = n.toNat := by
  have hpos : 0 < t.numBytes.toNat := by rcases numBytes_cases t with ht | ht <;> rw [ht] <;> decide
  rw [elements_eq, Nat.mod_eq_of_lt h, Nat.mul_div_cancel_left _ hpos]

/-- As many as there are in a buffer. -/
theorem elements_of_le {t : SampleType} {n m : UInt64} (h : n.toNat ≤ elements t.numBytes m) :
    elements t.numBytes n = n.toNat := by
  rw [elements_eq] at h
  have hbytes := Nat.mul_le_of_le_div _ _ _ h
  refine elements_of_small ?_
  rw [Nat.mul_comm]
  exact lt_of_le_of_lt hbytes (Nat.mod_lt _ (by decide))

/-- A difference that wrapped around is more than there can be in a buffer. -/
theorem lt_elements_of_wrapped {t : SampleType} {n : UInt64} {d : Nat} (hd : d ≤ 2 ^ 8)
    (hn : n.toNat + d = 2 ^ 64) (hpos : 0 < d) (m : UInt64) :
    elements t.numBytes m < elements t.numBytes n + d := by
  rw [elements_eq, elements_eq]
  rcases numBytes_cases t with ht | ht <;> rw [ht] <;> omega

/-! ## The loop -/

/-- How many rounds there are from `i` on. -/
def roundsLeft (decimation maxIndex i : Nat) : Nat := (maxIndex - i + decimation - 1) / decimation

theorem roundsLeft_zero {decimation maxIndex i : Nat} (hpos : 0 < decimation) (h : maxIndex ≤ i) :
    roundsLeft decimation maxIndex i = 0 := by
  rw [roundsLeft, Nat.sub_eq_zero_of_le h, Nat.zero_add]
  exact Nat.div_eq_of_lt (by omega)

theorem roundsLeft_succ {decimation maxIndex i : Nat} (hpos : 0 < decimation) (h : i < maxIndex) :
    roundsLeft decimation maxIndex i = roundsLeft decimation maxIndex (i + decimation) + 1 := by
  have hfirst : roundsLeft decimation maxIndex i = (maxIndex - i - 1) / decimation + 1 := by
    have hsum : maxIndex - i + decimation - 1 = maxIndex - i - 1 + decimation := by omega
    rw [roundsLeft, hsum, Nat.add_div_right _ hpos]
  rw [hfirst, roundsLeft]
  congr 1
  rcases Nat.le_total decimation (maxIndex - i) with hle | hle
  · congr 1
    omega
  · rw [Nat.div_eq_of_lt (by omega), Nat.div_eq_of_lt (by omega)]

theorem le_roundsLeft_mul {decimation : Nat} (hpos : 0 < decimation) (maxIndex : Nat) :
    maxIndex ≤ roundsLeft decimation maxIndex 0 * decimation := by
  rw [roundsLeft, Nat.sub_zero, ceil_mul hpos]
  exact Nat.le_add_right _ _

/-- The rounds of a call end at the next multiple. -/
theorem overshoot_add {decimation passed n : Nat} (hpos : 0 < decimation)
    (h : overshoot decimation passed ≤ n) :
    n - overshoot decimation passed + overshoot decimation (passed + n) =
      roundsLeft decimation (n - overshoot decimation passed) 0 * decimation := by
  have hbefore := ceil_mul hpos passed
  have hafter := ceil_mul hpos (passed + n)
  rw [ceil_add hpos h, Nat.add_mul, hbefore] at hafter
  rw [roundsLeft, Nat.sub_zero]
  omega

/-- The window at some place. -/
def window (f : FirFilter dotprod t) (workingBuffer : List (t.Sample K)) (i : Nat) : t.Sample K :=
  dotprod.execute t f.coefficients ((workingBuffer.drop i).take f.coefficientsLen.toNat)

/-- **The loop stays in its buffers** if the windows and the output fit. -/
theorem loop_eq (f : FirFilter dotprod t) (workingBuffer : List (t.Sample K)) (maxIndex : Nat)
    (hpos : 0 < f.decimation.toNat)
    (hworking : maxIndex + f.coefficientsLen.toNat ≤ workingBuffer.length + 1)
    (rounds i produced : Nat) (output : List (t.Sample K)) (hrounds : maxIndex ≤ i + rounds)
    (houtput : produced + roundsLeft f.decimation.toNat maxIndex i ≤ output.length) :
    f.loop workingBuffer maxIndex rounds i produced output =
      some (i + roundsLeft f.decimation.toNat maxIndex i * f.decimation.toNat,
        produced + roundsLeft f.decimation.toNat maxIndex i,
        overwrite output produced
          ((List.range (roundsLeft f.decimation.toNat maxIndex i)).map fun k =>
            f.window workingBuffer (i + k * f.decimation.toNat))) := by
  induction rounds generalizing i produced output with
  | zero =>
    rw [loop, roundsLeft_zero hpos (Nat.add_zero i ▸ hrounds), List.range_zero, List.map_nil,
      overwrite_nil, Nat.zero_mul, Nat.add_zero, Nat.add_zero]
  | succ rounds ih =>
    by_cases hlt : i < maxIndex
    · have hsucc := roundsLeft_succ hpos hlt
      rw [hsucc] at houtput ⊢
      have hwrite : produced + [f.window workingBuffer i].length ≤ output.length := by
        rw [List.length_singleton]
        omega
      have hrest := ih (i + f.decimation.toNat) (produced + 1)
        (overwrite output produced [f.window workingBuffer i]) (by omega)
        (by rw [length_overwrite hwrite]; omega)
      have hread : readAt workingBuffer i f.coefficientsLen.toNat =
          some ((workingBuffer.drop i).take f.coefficientsLen.toNat) := if_pos (by omega)
      rw [loop, if_pos hlt, hread]
      change (memcpyAt output produced [f.window workingBuffer i]).bind _ = _
      rw [memcpyAt_eq hwrite, Option.bind_some]
      refine hrest.trans ?_
      have hjoin := overwrite_overwrite hwrite
      rw [List.length_singleton] at hjoin
      rw [hjoin, List.range_succ_eq_map, List.map_cons, List.map_map, Nat.zero_mul, Nat.add_zero,
        List.singleton_append]
      have hplaces : ∀ k, i + f.decimation.toNat + k * f.decimation.toNat =
          i + (k + 1) * f.decimation.toNat := by
        intro k
        rw [Nat.succ_mul]
        omega
      simp only [hplaces, Function.comp_def, Nat.succ_eq_add_one, Nat.add_right_comm produced 1]
      rfl
    · have hle := Nat.le_of_not_lt hlt
      rw [loop, if_neg hlt, roundsLeft_zero hpos hle, List.range_zero, List.map_nil,
        overwrite_nil, Nat.zero_mul, Nat.add_zero, Nat.add_zero]

/-- Where the loop can end, whatever it reads. -/
theorem loop_some {f : FirFilter dotprod t} {workingBuffer : List (t.Sample K)} {maxIndex : Nat}
    (hpos : 0 < f.decimation.toNat) {rounds i produced : Nat} {output : List (t.Sample K)}
    (hrounds : maxIndex ≤ i + rounds) {i' produced' : Nat} {output' : List (t.Sample K)}
    (h : f.loop workingBuffer maxIndex rounds i produced output =
      some (i', produced', output')) :
    i' = i + roundsLeft f.decimation.toNat maxIndex i * f.decimation.toNat ∧
      (i' = i ∨ i' + f.coefficientsLen.toNat ≤ workingBuffer.length + f.decimation.toNat ∧
        produced + roundsLeft f.decimation.toNat maxIndex i ≤ output.length) := by
  induction rounds generalizing i produced output with
  | zero =>
    rw [loop] at h
    rw [roundsLeft_zero hpos (Nat.add_zero i ▸ hrounds)]
    have hi : i = i' := congrArg Prod.fst (Option.some.inj h)
    omega
  | succ rounds ih =>
    rw [loop] at h
    by_cases hlt : i < maxIndex
    · rw [if_pos hlt] at h
      obtain ⟨window, hread, h⟩ := Option.bind_eq_some_iff.mp h
      obtain ⟨written, hwrite, h⟩ := Option.bind_eq_some_iff.mp h
      have hread := fits_of_readAt hread
      obtain ⟨hwrite, hwritten⟩ := fits_of_memcpyAt hwrite
      rw [List.length_singleton] at hwrite
      obtain ⟨hend, hfits⟩ := ih (by omega) h
      rw [roundsLeft_succ hpos hlt, Nat.succ_mul]
      refine ⟨by omega, Or.inr ?_⟩
      rcases hfits with hstop | ⟨hworking, houtput⟩
      · have hnone : roundsLeft f.decimation.toNat maxIndex (i + f.decimation.toNat) = 0 := by
          refine Nat.eq_zero_of_not_pos fun hsome => ?_
          have := Nat.mul_pos hsome hpos
          omega
        omega
      · omega
    · rw [if_neg hlt] at h
      rw [roundsLeft_zero hpos (Nat.le_of_not_lt hlt)]
      have hi : i = i' := congrArg Prod.fst (Option.some.inj h)
      omega

/-! ## The invariant -/

/-- **A call fits**: it reaches the read position, the taps reach back to it at the end, and
the buffers are large enough. -/
structure CallFits (t : SampleType) (decimation : UInt8) (tapsLen : Nat)
    (maxInputBufferLength : UInt64) (passed n : Nat) : Prop where
  continues : overshoot decimation.toNat passed ≤ n
  kept : overshoot decimation.toNat (passed + n) ≤ tapsLen - 1
  working : tapsLen - 1 - overshoot decimation.toNat passed + n ≤
    elements t.numBytes (maxInputBufferLength + (UInt64.ofNat tapsLen - 1))
  output : (n - overshoot decimation.toNat passed + decimation.toNat - 1) / decimation.toNat ≤
    elements t.numBytes maxInputBufferLength

/-- There is a tap to take off. -/
theorem toNat_sub_one {len : UInt64} {n : Nat} (hlen : len.toNat = n) (hpos : 0 < n) :
    (len - 1).toNat = n - 1 := by
  have hle : (1 : UInt64) ≤ len := UInt64.le_iff_toNat_le.mpr (by rw [hlen]; exact hpos)
  rw [UInt64.toNat_sub_of_le _ _ hle, hlen]
  rfl

/-- Calls are long enough if there are as many taps and samples as the decimation goes on. -/
theorem callFits_of_long {t : SampleType} {decimation : UInt8} (hdecimation : decimation ≠ 0)
    {tapsLen : Nat} (hone : 0 < tapsLen) {maxInputBufferLength : UInt64}
    (hsize : t.numBytes.toNat * (maxInputBufferLength.toNat + tapsLen) < 2 ^ 64)
    (htaps : decimation.toNat ≤ tapsLen) (passed : Nat) {n : Nat}
    (hn : n ≤ maxInputBufferLength.toNat) (hlong : decimation.toNat ≤ n + 1) :
    CallFits t decimation tapsLen maxInputBufferLength passed n := by
  have hpos : 0 < decimation.toNat :=
    Nat.pos_of_ne_zero fun hzero => hdecimation (UInt8.toNat_inj.mp hzero)
  have hbefore := overshoot_lt hpos passed
  have hafter := overshoot_lt hpos (passed + n)
  have hsmall : maxInputBufferLength.toNat + tapsLen < 2 ^ 62 := by
    rcases numBytes_cases t with ht | ht <;> rw [ht] at hsize <;> omega
  have hcast : (UInt64.ofNat tapsLen).toNat = tapsLen :=
    UInt64.toNat_ofNat_of_lt' (by change _ < 2 ^ 64; omega)
  have hoffset := toNat_sub_one hcast hone
  have htotal : (maxInputBufferLength + (UInt64.ofNat tapsLen - 1)).toNat =
      maxInputBufferLength.toNat + (tapsLen - 1) := by
    rw [UInt64.toNat_add, hoffset, Nat.mod_eq_of_lt (by omega)]
  have hworking : elements t.numBytes (maxInputBufferLength + (UInt64.ofNat tapsLen - 1)) =
      maxInputBufferLength.toNat + (tapsLen - 1) := by
    rw [elements_of_small (lt_of_le_of_lt (Nat.mul_le_mul_left _ ?_) hsize), htotal]
    rw [htotal]
    exact Nat.add_le_add_left (Nat.sub_le _ _) _
  have houtput : elements t.numBytes maxInputBufferLength = maxInputBufferLength.toNat :=
    elements_of_small (lt_of_le_of_lt (Nat.mul_le_mul_left _ (Nat.le_add_right _ _)) hsize)
  constructor
  · omega
  · omega
  · omega
  · rw [houtput]
    refine le_trans (Nat.div_le_of_le_mul ?_) hn
    rcases Nat.eq_zero_or_pos n with rfl | hsome
    · omega
    · have hrounds := Nat.le_mul_of_pos_right (decimation.toNat - 1) hsome
      have hsamples := Nat.le_mul_of_pos_left n hpos
      rw [Nat.sub_one_mul] at hrounds
      omega

/-- The working buffer holds the end of the stream, from the read position on. -/
structure Holds (decimation : UInt8) (taps : List K) (maxInputBufferLength : UInt64)
    (stream : List (t.Sample K)) (f : FirFilter dotprod t) : Prop where
  decimation_eq : f.decimation = decimation
  max_eq : f.maxInputBufferLength = maxInputBufferLength
  coefficients_eq : f.coefficients = dotprod.createRev taps
  coefficientsLen_eq : f.coefficientsLen.toNat = taps.length
  tapsLen_eq : f.tapsLen.toNat = taps.length
  working_length : f.workingBuffer.length =
    elements t.numBytes (maxInputBufferLength + (UInt64.ofNat taps.length - 1))
  output_length : f.output.length = elements t.numBytes maxInputBufferLength
  kept : overshoot decimation.toNat stream.length ≤ taps.length - 1
  offset_eq : f.historyOffset.toNat =
    taps.length - 1 - overshoot decimation.toNat stream.length
  working_eq : f.historyOffset.toNat ≤ f.workingBuffer.length →
    f.workingBuffer.take f.historyOffset.toNat =
      (padded taps stream).drop (stream.length + overshoot decimation.toNat stream.length)

section Call
variable {decimation : UInt8} {taps : List K} {maxInputBufferLength : UInt64}
  {stream input : List (t.Sample K)} {f : FirFilter dotprod t}

theorem length_padded (taps : List K) (stream : List (t.Sample K)) :
    (padded taps stream).length = taps.length - 1 + stream.length := by
  rw [padded, List.length_append, List.length_replicate]

/-- What a call has in its working buffer. -/
theorem Holds.copied (h : Holds decimation taps maxInputBufferLength stream f)
    (hworking : f.historyOffset.toNat + input.length ≤ f.workingBuffer.length) :
    (overwrite f.workingBuffer f.historyOffset.toNat input).take
        (f.historyOffset.toNat + input.length) =
      (padded taps (stream ++ input)).drop
        (stream.length + overshoot decimation.toNat stream.length) := by
  have hkept := h.kept
  rw [take_overwrite hworking, h.working_eq (by omega), padded, padded, ← List.append_assoc]
  refine (List.drop_append_of_le_length ?_).symm
  rw [List.length_append, List.length_replicate]
  omega

/-- The windows that are multiplied. -/
theorem Holds.window_eq (h : Holds decimation taps maxInputBufferLength stream f)
    (hworking : f.historyOffset.toNat + input.length ≤ f.workingBuffer.length) {i : Nat}
    (hi : overshoot decimation.toNat stream.length + i < input.length) :
    f.window (overwrite f.workingBuffer f.historyOffset.toNat input) i =
      valueAt taps (stream ++ input)
        (stream.length + overshoot decimation.toNat stream.length + i) := by
  have hkept := h.kept
  have hoffset := h.offset_eq
  have hwindow : ((overwrite f.workingBuffer f.historyOffset.toNat input).drop i).take
      taps.length = ((padded taps (stream ++ input)).drop
        (stream.length + overshoot decimation.toNat stream.length + i)).take taps.length := by
    have hread : readAt (overwrite f.workingBuffer f.historyOffset.toNat input) i taps.length = _ :=
      readAt_take (n := f.historyOffset.toNat + input.length)
      (by rw [length_overwrite hworking]; exact hworking) (by omega)
    rw [h.copied hworking, List.drop_drop, readAt,
      if_pos (by rw [length_overwrite hworking]; omega)] at hread
    exact Option.some.inj hread
  have hlength : (((padded taps (stream ++ input)).drop
      (stream.length + overshoot decimation.toNat stream.length + i)).take taps.length).length =
        taps.length := by
    rw [List.length_take, List.length_drop, length_padded, List.length_append]
    omega
  rw [window, h.coefficients_eq, h.coefficientsLen_eq, hwindow,
    dotprod.execute_createRev _ _ _ hlength]
  exact dot_reverse_window taps (by rw [List.length_append]; omega)

/-- The values that a call adds. -/
theorem decimated_append (taps : List K) {decimation : Nat} (hpos : 0 < decimation)
    {stream input : List (t.Sample K)} (h : overshoot decimation stream.length ≤ input.length) :
    decimated taps decimation (stream ++ input) = decimated taps decimation stream ++
      (List.range (roundsLeft decimation
        (input.length - overshoot decimation stream.length) 0)).map fun k =>
          valueAt taps (stream ++ input)
            (stream.length + overshoot decimation stream.length + k * decimation) := by
  rw [decimated, List.length_append, ceil_add hpos h, List.range_add, List.map_append,
    List.map_map, decimated]
  congr 1
  · refine List.map_congr_left fun k hk => ?_
    exact valueAt_append taps ((lt_ceil_iff hpos _ _).mp (List.mem_range.mp hk)) input
  · refine List.map_congr_left fun k _ => ?_
    rw [Function.comp_apply, Nat.add_mul, ceil_mul hpos]

/-- The length does not wrap around. -/
theorem Holds.workingLen (h : Holds decimation taps maxInputBufferLength stream f)
    (hworking : f.historyOffset.toNat + input.length ≤ f.workingBuffer.length) :
    (f.historyOffset + UInt64.ofNat input.length).toNat =
      f.historyOffset.toNat + input.length := by
  have hlt := elements_lt t (maxInputBufferLength + (UInt64.ofNat taps.length - 1))
  rw [← h.working_length] at hlt
  rw [UInt64.toNat_add, UInt64.toNat_ofNat_of_lt' (by change _ < 2 ^ 64; omega)]
  exact Nat.mod_eq_of_lt (by omega)

theorem Holds.tapsLen_sub_one (h : Holds decimation taps maxInputBufferLength stream f)
    (htaps : taps ≠ []) : (f.tapsLen - 1).toNat = taps.length - 1 :=
  toNat_sub_one h.tapsLen_eq (List.length_pos_iff.mpr htaps)

/-- The loop ends at the new samples that are behind the read position. -/
theorem Holds.maxIndex (h : Holds decimation taps maxInputBufferLength stream f)
    (htaps : taps ≠ [])
    (hinside : f.historyOffset.toNat + input.length ≤ f.workingBuffer.length)
    (hcontinues : overshoot decimation.toNat stream.length ≤ input.length) :
    (f.historyOffset + UInt64.ofNat input.length - (f.tapsLen - 1)).toNat =
      input.length - overshoot decimation.toNat stream.length := by
  have hkept := h.kept
  have hoffset := h.offset_eq
  have htapsLen := h.tapsLen_sub_one htaps
  have hworkingLen := h.workingLen hinside
  have hle : f.tapsLen - 1 ≤ f.historyOffset + UInt64.ofNat input.length :=
    UInt64.le_iff_toNat_le.mpr (by rw [htapsLen, hworkingLen]; omega)
  rw [UInt64.toNat_sub_of_le _ _ hle, htapsLen, hworkingLen]
  omega

/-- The values that a call adds, of which there are `m` from the read position `o` on. -/
def newValues (taps : List K) (decimation : UInt8) (stream input : List (t.Sample K)) (o m : Nat) :
    List (t.Sample K) :=
  (List.range m).map fun k =>
    valueAt taps (stream ++ input) (stream.length + o + k * decimation.toNat)

section Fits
variable {o m : Nat} (h : Holds decimation taps maxInputBufferLength stream f)
  (hpos : 0 < decimation.toNat)
  (hfits : CallFits t decimation taps.length maxInputBufferLength stream.length input.length)
  (ho : overshoot decimation.toNat stream.length = o)
  (hm : roundsLeft decimation.toNat (input.length - o) 0 = m)
include h hfits

theorem Holds.inside : f.historyOffset.toNat + input.length ≤ f.workingBuffer.length := by
  rw [h.working_length, h.offset_eq]
  exact hfits.working

include ho hm

theorem Holds.room : m ≤ f.output.length := by
  have houtput := hfits.output
  rw [ho] at houtput
  rw [h.output_length, ← hm, roundsLeft, Nat.sub_zero]
  exact houtput

include hpos

omit [CommRing K] h in
/-- Where the loop ends. -/
theorem CallFits.end_eq :
    input.length - o + overshoot decimation.toNat (stream.length + input.length) =
      m * decimation.toNat := by
  rw [← hm, ← ho]
  exact overshoot_add hpos hfits.continues

/-- The loop writes the new values. -/
theorem Holds.loop_run (htaps : taps ≠ []) :
    f.loop (overwrite f.workingBuffer f.historyOffset.toNat input) (input.length - o)
        (input.length - o) 0 0 f.output =
      some (m * decimation.toNat, m,
        overwrite f.output 0 (newValues taps decimation stream input o m)) := by
  have hone : 0 < taps.length := List.length_pos_iff.mpr htaps
  have hinside := h.inside hfits
  have hroom := h.room hfits ho hm
  have hkept := h.kept
  have hoffset := h.offset_eq
  have hcontinues := hfits.continues
  rw [ho] at hkept hoffset hcontinues
  have hloop := loop_eq f (overwrite f.workingBuffer f.historyOffset.toNat input)
    (input.length - o) (by rw [h.decimation_eq]; exact hpos)
    (by rw [h.coefficientsLen_eq, length_overwrite hinside]; omega) (input.length - o) 0 0 f.output
    (by omega) (by rw [h.decimation_eq, hm]; omega)
  rw [h.decimation_eq, hm, Nat.zero_add, Nat.zero_add] at hloop
  rw [hloop]
  congr 3
  refine congrArg (overwrite f.output 0) (List.map_congr_left fun k hk => ?_)
  have hk : k * decimation.toNat < input.length - o := by
    have hlt := List.mem_range.mp hk
    rw [← hm, roundsLeft, Nat.sub_zero] at hlt
    exact (lt_ceil_iff hpos _ _).mp hlt
  rw [Nat.zero_add, h.window_eq hinside (by rw [ho]; omega), ho]

/-- What is left behind the end of the loop is the history. -/
theorem Holds.history_toNat (htaps : taps ≠ []) :
    (f.historyOffset + UInt64.ofNat input.length -
        UInt64.ofNat (m * decimation.toNat)).toNat =
      taps.length - 1 - overshoot decimation.toNat (stream.length + input.length) ∧
    f.historyOffset.toNat + input.length - m * decimation.toNat =
      taps.length - 1 - overshoot decimation.toNat (stream.length + input.length) ∧
    m * decimation.toNat ≤ f.historyOffset.toNat + input.length := by
  have hone : 0 < taps.length := List.length_pos_iff.mpr htaps
  have hinside := h.inside hfits
  have hworkingLen := h.workingLen hinside
  have hend := hfits.end_eq hpos ho hm
  have hkept := h.kept
  have hkept' := hfits.kept
  have hoffset := h.offset_eq
  have hcontinues := hfits.continues
  rw [ho] at hkept hoffset hcontinues
  have hsmall := elements_lt t (maxInputBufferLength + (UInt64.ofNat taps.length - 1))
  rw [← h.working_length] at hsmall
  have hend_le : m * decimation.toNat ≤ f.historyOffset.toNat + input.length := by omega
  have hend_lt : m * decimation.toNat < 2 ^ 64 := by omega
  refine ⟨?_, by omega, hend_le⟩
  have hle : UInt64.ofNat (m * decimation.toNat) ≤ f.historyOffset + UInt64.ofNat input.length := by
    rw [UInt64.le_iff_toNat_le, UInt64.toNat_ofNat_of_lt' hend_lt, hworkingLen]
    exact hend_le
  rw [UInt64.toNat_sub_of_le _ _ hle, UInt64.toNat_ofNat_of_lt' hend_lt, hworkingLen]
  omega

/-- The history is moved to the front. -/
theorem Holds.move_run (htaps : taps ≠ []) {history : UInt64}
    (hhistory : f.historyOffset + UInt64.ofNat input.length -
      UInt64.ofNat (m * decimation.toNat) = history) :
    ∃ moved, (if m * decimation.toNat > 0 then
        memmove (overwrite f.workingBuffer f.historyOffset.toNat input) 0 (m * decimation.toNat)
          (elements t.numBytes history)
        else some (overwrite f.workingBuffer f.historyOffset.toNat input)) = some moved ∧
      moved.length = f.workingBuffer.length ∧ moved.take history.toNat =
        (padded taps (stream ++ input)).drop ((stream ++ input).length +
          overshoot decimation.toNat (stream ++ input).length) := by
  have hinside := h.inside hfits
  obtain ⟨hwrapped, hleft, hend_le⟩ := h.history_toNat hpos hfits ho hm htaps
  rw [hhistory] at hwrapped
  have hend := hfits.end_eq hpos ho hm
  have hcontinues := hfits.continues
  rw [ho] at hcontinues
  have hcopied := h.copied hinside
  rw [ho] at hcopied
  have hlength := length_overwrite hinside
  generalize overwrite f.workingBuffer f.historyOffset.toNat input = working at hcopied hlength ⊢
  have helements : elements t.numBytes history = history.toNat := by
    refine elements_of_le (m := maxInputBufferLength + (UInt64.ofNat taps.length - 1)) ?_
    rw [← h.working_length]
    omega
  have hdropped : (working.drop (m * decimation.toNat)).take history.toNat =
      (padded taps (stream ++ input)).drop ((stream ++ input).length +
        overshoot decimation.toNat (stream ++ input).length) := by
    have hplace : (stream ++ input).length +
        overshoot decimation.toNat (stream ++ input).length =
          stream.length + o + m * decimation.toNat := by
      rw [List.length_append]
      omega
    rw [hplace, ← List.drop_drop, ← hcopied, hwrapped, ← hleft, List.drop_take]
  rw [← hdropped, helements, ← hlength]
  by_cases hany : m * decimation.toNat > 0
  · rw [if_pos hany]
    exact memmove_front (by omega)
  · rw [if_neg hany, Nat.eq_zero_of_not_pos hany, List.drop_zero]
    exact ⟨working, rfl, rfl, rfl⟩

end Fits

/-- **A call that fits** adds the values of its samples, wraps nothing around, and keeps the
invariant. -/
theorem Holds.process_eq (h : Holds decimation taps maxInputBufferLength stream f)
    (hdecimation : decimation ≠ 0) (htaps : taps ≠ [])
    (hinput : input.length ≤ maxInputBufferLength.toNat)
    (hfits : CallFits t decimation taps.length maxInputBufferLength stream.length input.length) :
    ∃ f' output, f.process input = some (f', some output) ∧
      Holds decimation taps maxInputBufferLength (stream ++ input) f' ∧
      decimated taps decimation.toNat (stream ++ input) =
        decimated taps decimation.toNat stream ++ output ∧
      f.tapsLen.toNat - 1 ≤ f.historyOffset.toNat + input.length ∧
      f'.historyOffset.toNat ≤ f.historyOffset.toNat + input.length := by
  have hpos : 0 < decimation.toNat :=
    Nat.pos_of_ne_zero fun hzero => hdecimation (UInt8.toNat_inj.mp hzero)
  obtain ⟨o, ho⟩ : ∃ o, overshoot decimation.toNat stream.length = o := ⟨_, rfl⟩
  obtain ⟨m, hm⟩ : ∃ m, roundsLeft decimation.toNat (input.length - o) 0 = m := ⟨_, rfl⟩
  have hinside := h.inside hfits
  have hmaxIndex := h.maxIndex htaps hinside hfits.continues
  rw [ho] at hmaxIndex
  have hloop := h.loop_run hpos hfits ho hm htaps
  obtain ⟨hwrapped, hleft, hend_le⟩ := h.history_toNat hpos hfits ho hm htaps
  obtain ⟨history, hhistory⟩ : ∃ history, f.historyOffset + UInt64.ofNat input.length -
      UInt64.ofNat (m * decimation.toNat) = history := ⟨_, rfl⟩
  obtain ⟨moved, hmove, hmoved_length, hmoved⟩ := h.move_run hpos hfits ho hm htaps hhistory
  rw [hhistory] at hwrapped
  obtain ⟨output, houtput⟩ : ∃ output, newValues taps decimation stream input o m = output :=
    ⟨_, rfl⟩
  have houtput_length : output.length = m := by
    rw [← houtput, newValues, List.length_map, List.length_range]
  rw [houtput] at hloop
  have hwritten : 0 + output.length ≤ f.output.length := by
    rw [Nat.zero_add, houtput_length]
    exact h.room hfits ho hm
  have hread : readAt (overwrite f.output 0 output) 0 m = some output := by
    have htake := take_overwrite hwritten
    rw [Nat.zero_add, houtput_length, List.take_zero, List.nil_append] at htake
    rw [readAt, if_pos (by rw [length_overwrite hwritten]; omega), List.drop_zero, htake]
  have hlength' : (stream ++ input).length = stream.length + input.length := List.length_append
  refine ⟨{ f with
      workingBuffer := moved
      historyOffset := history
      output := overwrite f.output 0 output }, output, ?_, ?_, ?_, ?_, ?_⟩
  · have hsamples : f.processSamples input = some ({ f with
        workingBuffer := moved
        historyOffset := history
        output := overwrite f.output 0 output }, output) := by
      rw [processSamples, memcpyAt_eq hinside]
      change (f.loop _ _ _ 0 0 f.output).bind _ = _
      rw [hmaxIndex, hloop, Option.bind_some]
      change (if m * decimation.toNat > 0 then memmove _ 0 (m * decimation.toNat)
        (elements t.numBytes (f.historyOffset + UInt64.ofNat input.length -
          UInt64.ofNat (m * decimation.toNat))) else some _).bind _ = _
      rw [hhistory, hmove, Option.bind_some, hread]
      rfl
    rw [process, if_neg (by rw [h.max_eq]; omega), hsamples, Option.map_some]
  · constructor
    · exact h.decimation_eq
    · exact h.max_eq
    · exact h.coefficients_eq
    · exact h.coefficientsLen_eq
    · exact h.tapsLen_eq
    · rw [hmoved_length, h.working_length]
    · rw [length_overwrite hwritten, h.output_length]
    · rw [hlength']
      exact hfits.kept
    · rw [hlength', ← hwrapped]
    · exact fun _ => hmoved
  · rw [decimated_append taps hpos hfits.continues, ho, hm, ← houtput, newValues]
  · have hkept := h.kept
    have hoffset := h.offset_eq
    have hcontinues := hfits.continues
    rw [h.tapsLen_eq]
    omega
  · change history.toNat ≤ _
    omega

/-- **A call that does not leave its buffers fits.** -/
theorem Holds.callFits (h : Holds decimation taps maxInputBufferLength stream f)
    (hdecimation : decimation ≠ 0) (htaps : taps ≠ [])
    (hinput : input.length ≤ maxInputBufferLength.toNat)
    {result : FirFilter dotprod t × Option (List (t.Sample K))}
    (hcall : f.process input = some result) :
    CallFits t decimation taps.length maxInputBufferLength stream.length input.length := by
  have hpos : 0 < decimation.toNat :=
    Nat.pos_of_ne_zero fun hzero => hdecimation (UInt8.toNat_inj.mp hzero)
  have hone : 0 < taps.length := List.length_pos_iff.mpr htaps
  have hbyte := decimation.toNat_lt
  have hkept := h.kept
  have hoffset := h.offset_eq
  rw [process, if_neg (by rw [h.max_eq]; omega)] at hcall
  obtain ⟨samples, hcall, -⟩ := Option.map_eq_some_iff.mp hcall
  obtain ⟨working, hcopy, hcall⟩ := Option.bind_eq_some_iff.mp hcall
  obtain ⟨⟨i, produced, output⟩, hloop, hcall⟩ := Option.bind_eq_some_iff.mp hcall
  obtain ⟨moved, hmove, -⟩ := Option.bind_eq_some_iff.mp hcall
  obtain ⟨hinside, hlength⟩ := fits_of_memcpyAt hcopy
  have hworkingLen := h.workingLen hinside
  have hsmall := elements_lt t (maxInputBufferLength + (UInt64.ofNat taps.length - 1))
  rw [← h.working_length] at hsmall
  obtain ⟨o, ho⟩ : ∃ o, overshoot decimation.toNat stream.length = o := ⟨_, rfl⟩
  have ho_lt : o < decimation.toNat := ho ▸ overshoot_lt hpos _
  rw [ho] at hkept hoffset
  obtain ⟨hend, hreads⟩ := loop_some (by rw [h.decimation_eq]; exact hpos) (by omega) hloop
  rw [h.decimation_eq] at hend hreads
  rw [h.coefficientsLen_eq, hlength] at hreads
  have htapsLen : (f.tapsLen - 1).toNat = taps.length - 1 := h.tapsLen_sub_one htaps
  -- with too few samples for the read position, the loop would go on to the end of memory
  have hcontinues : o ≤ input.length := by
    by_contra hfew
    have hwrapped := UInt64.toNat_sub (f.historyOffset + UInt64.ofNat input.length) (f.tapsLen - 1)
    rw [htapsLen, hworkingLen, Nat.mod_eq_of_lt (by omega)] at hwrapped
    have hbeyond := le_roundsLeft_mul hpos
      (f.historyOffset + UInt64.ofNat input.length - (f.tapsLen - 1)).toNat
    omega
  have hmaxIndex := h.maxIndex htaps hinside (by rw [ho]; exact hcontinues)
  rw [ho] at hmaxIndex
  rw [hmaxIndex, Nat.zero_add] at hend hreads
  obtain ⟨m, hm⟩ : ∃ m, roundsLeft decimation.toNat (input.length - o) 0 = m := ⟨_, rfl⟩
  rw [hm] at hend hreads
  have hplace : input.length - o + overshoot decimation.toNat (stream.length + input.length) =
      m * decimation.toNat := by
    rw [← hm, ← ho]
    exact overshoot_add hpos (by rw [ho]; exact hcontinues)
  have hnone : m * decimation.toNat = 0 → m = 0 := fun hzero =>
    (Nat.mul_eq_zero.mp hzero).resolve_right hpos.ne'
  constructor
  · rw [ho]
    exact hcontinues
  · -- otherwise the number of samples to move wraps around
    by_contra hfar
    have hfar := Nat.lt_of_not_le hfar
    have hlast := overshoot_lt hpos (stream.length + input.length)
    have hi : (UInt64.ofNat i).toNat = i :=
      UInt64.toNat_ofNat_of_lt' (by change _ < 2 ^ 64; omega)
    have hmove : (if i > 0 then memmove working 0 i (elements t.numBytes
        (f.historyOffset + UInt64.ofNat input.length - UInt64.ofNat i)) else some working) =
          some moved := hmove
    rw [if_pos (by omega)] at hmove
    obtain ⟨source, hread, -⟩ := Option.bind_eq_some_iff.mp hmove
    have hread := fits_of_readAt hread
    have hwrapped : (f.historyOffset + UInt64.ofNat input.length - UInt64.ofNat i).toNat +
        (i - (f.historyOffset.toNat + input.length)) = 2 ^ 64 := by
      rw [UInt64.toNat_sub, hi, hworkingLen, Nat.mod_eq_of_lt (by omega)]
      omega
    have hmany := lt_elements_of_wrapped (t := t) (by omega) hwrapped (by omega)
      (maxInputBufferLength + (UInt64.ofNat taps.length - 1))
    rw [← h.working_length] at hmany
    omega
  · rw [ho, ← hoffset, ← h.working_length]
    exact hinside
  · have hm' : (input.length - o + decimation.toNat - 1) / decimation.toNat = m := by
      rw [← hm, roundsLeft, Nat.sub_zero]
    rw [ho, hm', ← h.output_length]
    omega

theorem holds_create (dotprod : Dotprod K) (hdecimation : decimation ≠ 0) (htaps : taps ≠ [])
    (hshort : taps.length < 2 ^ 32) (maxInputBufferLength : UInt64) (garbage : t.Sample K) :
    ∃ f, firFilterCreate dotprod t decimation taps maxInputBufferLength garbage = some f ∧
      Holds decimation taps maxInputBufferLength [] f := by
  have hone : 0 < taps.length := List.length_pos_iff.mpr htaps
  have hlength : (UInt64.ofNat taps.length).toNat = taps.length :=
    UInt64.toNat_ofNat_of_lt' (by change _ < 2 ^ 64; omega)
  have hcast : (UInt64.ofNat taps.length).toUInt32.toNat = taps.length := by
    rw [UInt64.toNat_toUInt32, hlength, Nat.mod_eq_of_lt hshort]
  have hstart : overshoot decimation.toNat ([] : List (t.Sample K)).length = 0 := by
    rw [List.length_nil, overshoot, Nat.zero_mod, Nat.sub_zero, Nat.mod_self]
  have hoffset := toNat_sub_one hlength hone
  refine ⟨_, if_neg hdecimation, ?_⟩
  constructor
  · rfl
  · rfl
  · change dotprod.createRev (taps.take (UInt64.ofNat taps.length).toUInt32.toNat) = _
    rw [hcast, List.take_length]
  · exact hcast
  · exact hlength
  · exact List.length_replicate
  · exact List.length_replicate
  · rw [hstart]
    exact Nat.zero_le _
  · rw [hstart]
    exact hoffset
  · intro hfits
    change (UInt64.ofNat taps.length - 1).toNat ≤ (List.replicate _ _).length at hfits
    change (List.replicate _ (0 : t.Sample K)).take (UInt64.ofNat taps.length - 1).toNat = _
    rw [List.length_replicate] at hfits
    rw [hstart, List.take_replicate, Nat.min_eq_left hfits, hoffset, padded, List.append_nil]
    rfl

end Call

/-! ## Runs -/

/-- **No subtraction wraps around**: neither the samples that are left to read nor those that
are kept are more than there are. -/
def NoWrap (f : FirFilter dotprod t) : List (List (t.Sample K)) → Prop
  | [] => True
  | input :: inputs =>
    f.tapsLen.toNat - 1 ≤ f.historyOffset.toNat + input.length ∧
    ∀ f' output, f.process input = some (f', output) →
      f'.historyOffset.toNat ≤ f.historyOffset.toNat + input.length ∧ NoWrap f' inputs

/-- Every call fits, by how many samples there were before. -/
def CallsFit (t : SampleType) (decimation : UInt8) (tapsLen : Nat)
    (maxInputBufferLength : UInt64) (passed : Nat) : List Nat → Prop
  | [] => True
  | n :: ns =>
    CallFits t decimation tapsLen maxInputBufferLength passed n ∧
    CallsFit t decimation tapsLen maxInputBufferLength (passed + n) ns

variable {decimation : UInt8} {taps : List K} {maxInputBufferLength : UInt64}
  {stream : List (t.Sample K)} {f : FirFilter dotprod t}

/-- **Calls that fit** give the values of their samples. -/
theorem Holds.calls_eq (h : Holds decimation taps maxInputBufferLength stream f)
    (hdecimation : decimation ≠ 0) (htaps : taps ≠ []) {inputs : List (List (t.Sample K))}
    (hinputs : ∀ input ∈ inputs, input.length ≤ maxInputBufferLength.toNat)
    (hfits : CallsFit t decimation taps.length maxInputBufferLength stream.length
      (inputs.map List.length)) :
    ∃ f' output, f.calls inputs = some (f', output) ∧
      decimated taps decimation.toNat (stream ++ inputs.flatten) =
        decimated taps decimation.toNat stream ++ output ∧
      f.NoWrap inputs := by
  induction inputs generalizing stream f with
  | nil =>
    refine ⟨f, [], rfl, ?_, trivial⟩
    rw [List.flatten_nil, List.append_nil, List.append_nil]
  | cons input inputs ih =>
    obtain ⟨hcall, hrest⟩ := hfits
    obtain ⟨f', output, hprocess, hholds, hvalues, hread, hkept⟩ :=
      h.process_eq hdecimation htaps (hinputs _ List.mem_cons_self) hcall
    rw [← List.length_append] at hrest
    obtain ⟨f'', outputs, hcalls, hlater, hnoWrap⟩ :=
      ih hholds (fun xs hxs => hinputs xs (List.mem_cons_of_mem _ hxs)) hrest
    refine ⟨f'', output ++ outputs, ?_, ?_, hread, ?_⟩
    · rw [calls, hprocess]
      change (f'.calls inputs).bind _ = _
      rw [hcalls]
      rfl
    · rw [List.flatten_cons, ← List.append_assoc, hlater, hvalues, List.append_assoc]
    · intro g result hg
      obtain ⟨rfl, -⟩ := Prod.mk.inj (Option.some.inj (hprocess.symm.trans hg))
      exact ⟨hkept, hnoWrap⟩

/-- **Calls that do not leave their buffers fit.** -/
theorem Holds.callsFit (h : Holds decimation taps maxInputBufferLength stream f)
    (hdecimation : decimation ≠ 0) (htaps : taps ≠ []) {inputs : List (List (t.Sample K))}
    (hinputs : ∀ input ∈ inputs, input.length ≤ maxInputBufferLength.toNat)
    {result : FirFilter dotprod t × List (t.Sample K)} (hcalls : f.calls inputs = some result) :
    CallsFit t decimation taps.length maxInputBufferLength stream.length
      (inputs.map List.length) := by
  induction inputs generalizing stream f result with
  | nil => trivial
  | cons input inputs ih =>
    obtain ⟨⟨g, output⟩, hprocess, hcalls⟩ := Option.bind_eq_some_iff.mp hcalls
    obtain ⟨rest, hrest, -⟩ := Option.bind_eq_some_iff.mp hcalls
    have hinput := hinputs _ List.mem_cons_self
    have hcall := h.callFits hdecimation htaps hinput hprocess
    obtain ⟨f', output', hprocess', hholds, -⟩ := h.process_eq hdecimation htaps hinput hcall
    obtain ⟨rfl, -⟩ := Prod.mk.inj (Option.some.inj (hprocess.symm.trans hprocess'))
    refine ⟨hcall, ?_⟩
    have hlater := ih hholds (fun xs hxs => hinputs xs (List.mem_cons_of_mem _ hxs)) hrest
    rwa [List.length_append] at hlater

end FirFilter

/-- **The filter computes a decimated convolution** of its samples, in whatever calls it gets
them, stays in its buffers, and wraps nothing around. -/
def Convolves (dotprod : Dotprod K) (t : SampleType) (decimation : UInt8) (taps : List K)
    (maxInputBufferLength : UInt64) (garbage : t.Sample K) (inputs : List (List (t.Sample K))) :
    Prop :=
  ∃ f f' output, firFilterCreate dotprod t decimation taps maxInputBufferLength garbage = some f ∧
    f.calls inputs = some (f', output) ∧
    output = decimated taps decimation.toNat inputs.flatten ∧ f.NoWrap inputs

/-- **When the filter computes a decimated convolution.** -/
theorem fir_filter_convolves_iff (dotprod : Dotprod K) (t : SampleType) (decimation : UInt8)
    (hdecimation : decimation ≠ 0) (taps : List K) (htaps : taps ≠ [])
    (hshort : taps.length < 2 ^ 32) (maxInputBufferLength : UInt64) (garbage : t.Sample K)
    (inputs : List (List (t.Sample K)))
    (hinputs : ∀ input ∈ inputs, input.length ≤ maxInputBufferLength.toNat) :
    Convolves dotprod t decimation taps maxInputBufferLength garbage inputs ↔
      FirFilter.CallsFit t decimation taps.length maxInputBufferLength 0
        (inputs.map List.length) := by
  obtain ⟨f, hcreate, hholds⟩ :=
    FirFilter.holds_create dotprod hdecimation htaps hshort maxInputBufferLength garbage
  constructor
  · rintro ⟨g, g', output, hcreate', hcalls, -⟩
    obtain rfl := Option.some.inj (hcreate.symm.trans hcreate')
    exact hholds.callsFit hdecimation htaps hinputs hcalls
  · intro hfits
    obtain ⟨f', output, hcalls, hvalues, hnoWrap⟩ :=
      hholds.calls_eq hdecimation htaps hinputs hfits
    have hempty : decimated taps decimation.toNat ([] : List (t.Sample K)) = [] := by
      have hpos : 0 < decimation.toNat :=
        Nat.pos_of_ne_zero fun hzero => hdecimation (UInt8.toNat_inj.mp hzero)
      rw [decimated, List.length_nil, Nat.zero_add, Nat.div_eq_of_lt (by omega)]
      rfl
    rw [hempty, List.nil_append, List.nil_append] at hvalues
    exact ⟨f, f', output, hcreate, hcalls, hvalues.symm, hnoWrap⟩

/-- `dotprod_rrrf` and `dotprod_crcf` themselves. -/
def Dotprod.exact (K : Type) [CommRing K] : Dotprod K where
  Coefficients := List K
  createRev := List.reverse
  execute _ := dot
  execute_createRev _ _ _ _ := rfl

/-- Five samples, and a call without samples before the last one. -/
def fiveSamples : List (List (SampleType.float.Sample ℤ)) :=
  ([[1, 2, 3], [4], [], [5]] : List (List ℤ))

theorem fir_filter_convolves_five :
    Convolves (Dotprod.exact ℤ) .float 2 [1, 2, 3] 8 0 fiveSamples := by
  refine (fir_filter_convolves_iff (Dotprod.exact ℤ) .float 2 (by decide) [1, 2, 3] (by decide)
    (by decide) 8 0 fiveSamples (by decide)).mpr ⟨?_, ?_, ?_, ?_, trivial⟩
  · exact ⟨by decide, by decide, by decide, by decide⟩
  · exact ⟨by decide, by decide, by decide, by decide⟩
  · exact ⟨by decide, by decide, by decide, by decide⟩
  · exact ⟨by decide, by decide, by decide, by decide⟩

/-- One tap, a decimation of 3 and one sample: the read position is 2 samples behind the end,
and `1 - 3` samples are moved. -/
theorem single_tap_overshoots :
    ¬ Convolves (Dotprod.exact ℤ) .float 3 [1] 8 0 ([[7]] : List (List ℤ)) := by
  rintro ⟨f, f', output, hcreate, hcalls, -⟩
  obtain rfl := Option.some.inj hcreate
  cases hcalls

end SdrModem
