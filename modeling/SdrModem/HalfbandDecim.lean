import SdrModem.Ieee754Round
import SdrModem.Modulator

/-!
# The half-band decimator

`halfband_decim.c`, and the part of `sdr_modem.c` that decides how many stages there are.  It
computes with `float`; `FloatArith` is either that or exact arithmetic.
A stage halves the sample rate, so that `n` stages take a block of `2 ^ n` samples to one
sample.  What is left of a call after the last whole block waits at the front of the
working buffer for the next call.
-/
namespace SdrModem
open Mealy

/-! ## Arithmetic -/

/-- What an integer is as a `float`, and the result of an operation whose exact result is
given; `none` is what is not finite. -/
structure FloatArith where
  ofNat : Nat → ℚ
  round : ℚ → Option ℚ

namespace FloatArith

/-- Rational numbers. -/
def exact : FloatArith := ⟨Nat.cast, some⟩

/-- `float`. -/
def binary32 : FloatArith := ⟨fun n => Ieee754.binary32.roundNat n, Ieee754.binary32.round⟩

end FloatArith

/-! ## The number of stages -/

/-- `MODEM_HALFBAND_MAX_STAGES`. -/
def modemHalfbandMaxStages : Nat := 6

/-- `sdr_modem_estimate_halfband_stages` in either arithmetic; twice a `float` is a `float`. -/
def estimateHalfbandStages (a : FloatArith) (sampleRate : UInt64) (bandwidth : UInt32) : Nat :=
  if bandwidth = 0 then 0
  else loop ⌈2 * a.ofNat bandwidth.toNat⌉₊ modemHalfbandMaxStages
where
  /-- The loop with this many stages to go. -/
  loop (requiredRate : Nat) : Nat → Nat
    | 0 => modemHalfbandMaxStages
    | left + 1 =>
      let numStages := modemHalfbandMaxStages - (left + 1)
      if sampleRate.toNat >>> (numStages + 1) ≥ requiredRate then loop requiredRate left
      else numStages

theorem estimateHalfbandStages_le (a : FloatArith) (sampleRate : UInt64) (bandwidth : UInt32) :
    estimateHalfbandStages a sampleRate bandwidth ≤ modemHalfbandMaxStages := by
  have hloop : ∀ requiredRate left,
      estimateHalfbandStages.loop sampleRate requiredRate left ≤ modemHalfbandMaxStages := by
    intro requiredRate left
    induction left with
    | zero => exact Nat.le_refl _
    | succ left ih =>
      rw [estimateHalfbandStages.loop]
      split
      · exact ih
      · exact Nat.sub_le _ _
  unfold estimateHalfbandStages
  split
  · exact Nat.zero_le _
  · exact hloop _ _

/-! ## The decimator -/

variable {α : Type}

/-- The number of stages, and the filters: a block becomes one sample. -/
structure HalfbandDecimConfig (α : Type) where
  numStages : Nat
  msresamp2 : Mealy (List α) α

/-- `struct halfband_decim_t`.  The working buffer is as long as was asked for in 32-bit
arithmetic, and `history` is what it holds before `history_offset`. -/
structure HalfbandDecim (α : Type) where
  decimation : UInt32
  workingBufferLen : UInt32
  history : List α
  maxInputBufferLength : Nat
  outputLen : Nat
  resampler : Object (List α) α

namespace HalfbandDecim

/-- `halfband_decim_create`. -/
def create (config : HalfbandDecimConfig α) (maxInputBufferLength : UInt32) : HalfbandDecim α :=
  let decimation : UInt32 := 1 <<< UInt32.ofNat config.numStages
  { decimation := decimation
    workingBufferLen := maxInputBufferLength + decimation
    history := []
    maxInputBufferLength := maxInputBufferLength.toNat
    outputLen := (maxInputBufferLength / decimation + 1).toNat
    resampler := .create config.msresamp2 }

theorem decimation_create (config : HalfbandDecimConfig α)
    (h : config.numStages ≤ modemHalfbandMaxStages) (bufferSize : UInt32) :
    (create config bufferSize).decimation.toNat = 2 ^ config.numStages := by
  have hshift : ∀ n < 7, (1 <<< UInt32.ofNat n : UInt32).toNat = 2 ^ n := by decide
  exact hshift _ (Nat.lt_succ_of_le h)

/-- The decimator of `sdr_modem_halfband_decim_create`, if there is one. -/
def forRate (msresamp2 : Mealy (List α) α) (sampleRate : UInt64) (bandwidth : UInt32)
    (maxInputBufferLength : UInt32) : Option (HalfbandDecim α) :=
  let halfbandStages := estimateHalfbandStages .binary32 sampleRate bandwidth
  if halfbandStages = 0 then none
  else some (create ⟨halfbandStages, msresamp2⟩ maxInputBufferLength)

/-- The first blocks of the working buffer. -/
def blocks (decimation : Nat) : Nat → List α → List (List α)
  | 0, _ => []
  | numBlocks + 1, samples =>
    samples.take decimation :: blocks decimation numBlocks (samples.drop decimation)

/-- `halfband_decim_process`. -/
def process (f : HalfbandDecim α) (input : List α) : HalfbandDecim α × Option (List α) :=
  if input.length > f.maxInputBufferLength then (f, none)
  else
    let working := f.history ++ input
    let numBlocks := min (working.length / f.decimation.toNat) f.outputLen
    let (resampler, output) := f.resampler.process (blocks f.decimation.toNat numBlocks working)
    ({ f with
        resampler := resampler
        history := working.drop (numBlocks * f.decimation.toNat) },
      some output)

end HalfbandDecim
end SdrModem
