import SdrModem.Ieee754Round

/-!
# The sync word correlator: `gfsk_correlator.c`

The correlator looks for the sync word in a stream of samples, and behind it, a fixed lag
later, a sampler reads one soft symbol every `sps` samples.  When the sync word is found,
the sampler is moved to its first symbol.  All positions are indexes into a buffer that
starts with samples of the calls before, so they are moved back at the end of every call.

Samples and positions are exact.  The functions return `none` where the code would leave
one of its buffers, where a difference of unsigned numbers would wrap around, and where
`sample_position` would get negative.  The end of a burst is a sum that may wrap around.
`NULL` as an output is `none`, too, one level further in.
-/
namespace SdrModem

/-- `a - b` of unsigned numbers, if it does not wrap around. -/
def checkedSub (a b : Nat) : Option Nat := if b ≤ a then some (a - b) else none

/-- `GFSK_CORRELATOR_PEAK_SEARCH_SYMBOLS`. -/
def gfskCorrelatorPeakSearchSymbols : UInt32 := 8

/-- `GFSK_CORRELATOR_MIN_AMPLITUDE`. -/
def gfskCorrelatorMinAmplitude : ℚ := 1 / 1000

/-! ## What is found in a window -/

/-- The result of `gfsk_correlator_correlate` and its two output parameters. -/
structure Correlation where
  /-- the normalized correlation, with the polarity as its sign -/
  value : ℚ
  correlation : ℚ
  mean : ℚ
deriving DecidableEq, Repr

/-- The loop and the formulas of `gfsk_correlator_correlate`.  `dotprod` is the dot product
with the template. -/
def gfskCorrelatorCorrelate (dotprod : List ℚ → ℚ) (sqrt : ℚ → ℚ) (templateEnergy : ℚ)
    (window : List ℚ) : Correlation :=
  let sum := window.sum
  let sumSquares := (window.map fun x => x * x).sum
  let dot := dotprod window
  let variance := sumSquares - sum * sum / window.length
  { value := if variance ≤ 1 / 10 ^ 9 then 0 else dot / sqrt (variance * templateEnergy)
    correlation := dot
    mean := sum / window.length }

/-- The fractional position of the peak, from the values around it. -/
def peakFraction (before peak after : ℚ) : ℚ :=
  let denominator := before - 2 * peak + after
  if denominator < 0 then
    let fraction := 1 / 2 * (before - after) / denominator
    if fraction > 1 / 2 then 1 / 2
    else if fraction < -1 / 2 then -1 / 2
    else fraction
  else 0

/-- `rintf`. -/
def rint (r : ℚ) : Int := Ieee754.roundInt r

/-- A soft symbol: full scale is the deviation. -/
def softSymbol (value dc gain : ℚ) : Int8 :=
  let r := (value - dc) * gain * 127
  if r > 127 then 127
  else if r < -128 then -128
  else Int8.ofInt (rint r)

/-! ## The correlator -/

/-- The parameters of `gfsk_correlator_create`, with what it makes of the template:
`correlate` is `gfsk_correlator_correlate` on the samples of a window. -/
structure CorrelatorConfig where
  sps : UInt32
  syncwordBits : Nat
  threshold : ℚ
  burstSymbols : UInt64
  maxInputBufferLength : Nat
  templateMean : ℚ
  templateEnergy : ℚ
  correlate : List ℚ → Correlation

namespace CorrelatorConfig
variable (config : CorrelatorConfig)

/-- `burst_len`: a product of 64 bits. -/
def burstLen : Nat := (config.burstSymbols * config.sps.toUInt64).toNat

def templateLen : Nat := config.syncwordBits * config.sps.toNat

/-- `peak_search_len`: a product of 32 bits. -/
def peakSearchLen : Nat := (gfskCorrelatorPeakSearchSymbols * config.sps).toNat

def samplerLag : Nat := config.templateLen + config.peakSearchLen + config.sps.toNat

/-- `history_len`, with another product of 32 bits. -/
def historyLen : Nat := config.samplerLag + (2 * config.sps).toNat

def outputLen : Nat := config.maxInputBufferLength / config.sps.toNat + 4

/-- The samples of the window that ends with a sample. -/
def window (samples : List ℚ) (stop : Nat) : List ℚ :=
  (samples.drop (stop + 1 - config.templateLen)).take config.templateLen

/-- Dc and gain of a burst, from the correlation at its peak. -/
def dcAndGain (gain : ℚ) (peak : Correlation) : ℚ × ℚ :=
  let amplitude := peak.correlation / config.templateEnergy
  (peak.mean - amplitude * config.templateMean,
    if |amplitude| > gfskCorrelatorMinAmplitude then 1 / |amplitude| else gain)

end CorrelatorConfig

/-- A soft symbol, and where it was sampled. -/
structure SoftSymbol where
  position : ℚ
  value : Int8
deriving DecidableEq, Repr

/-- `struct gfsk_correlator_t`.  Between calls there are `history_len` samples. -/
structure GfskCorrelator where
  config : CorrelatorConfig
  samples : List ℚ
  correlatorIndex : Nat
  holdoffIndex : Nat
  peakSearch : Bool
  peakIndex : Nat
  peakValue : ℚ
  burstPeak : ℚ
  burstEndIndex : Nat
  samplePosition : ℚ
  dc : ℚ
  gain : ℚ

namespace GfskCorrelator

/-- `gfsk_correlator_create`; `none` is `-EINVAL`. -/
def create (config : CorrelatorConfig) : Option GfskCorrelator :=
  if config.sps < 2 ∨ config.sps % 2 ≠ 0 then none
  else if config.syncwordBits = 0 then none
  else some
    { config := config
      samples := List.replicate config.historyLen 0
      correlatorIndex := config.historyLen
      holdoffIndex := 0
      peakSearch := false
      peakIndex := 0
      peakValue := 0
      burstPeak := 0
      burstEndIndex := 0
      samplePosition := config.historyLen
      dc := 0
      gain := 1 }

/-- `gfsk_correlator_correlate`. -/
def correlate (c : GfskCorrelator) (stop : Nat) : Option Correlation :=
  (checkedSub (stop + 1) c.config.templateLen).bind fun _ =>
    if stop < c.samples.length then some (c.config.correlate (c.config.window c.samples stop))
    else none

/-- `gfsk_correlator_sync`. -/
def sync (c : GfskCorrelator) : Option GfskCorrelator :=
  (c.correlate c.peakIndex).bind fun peak =>
  (checkedSub c.peakIndex 1).bind fun beforeIndex =>
  (c.correlate beforeIndex).bind fun before =>
  (c.correlate (c.peakIndex + 1)).bind fun after =>
    let fraction := peakFraction |before.value| |peak.value| |after.value|
    let (dc, gain) := c.config.dcAndGain c.gain peak
    -- restart sampling from the first symbol of the sync word
    let samplePosition : ℚ := c.peakIndex + fraction - ((c.config.templateLen : ℚ) - 1) +
      (c.config.sps.toNat / 2 : Nat)
    if samplePosition < 0 then none
    else some
      { c with
        dc := dc
        gain := gain
        samplePosition := samplePosition
        holdoffIndex := c.peakIndex + c.config.templateLen
        peakSearch := false
        burstPeak := c.peakValue
        -- the sum of two `size_t`
        burstEndIndex := (c.peakIndex + c.config.burstLen) % 2 ^ 64 }

/-- `gfsk_correlator_output_symbol`. -/
def outputSymbol (c : GfskCorrelator) : Option (GfskCorrelator × SoftSymbol) :=
  if c.samplePosition < 0 then none
  else
    let index := ⌊c.samplePosition⌋₊
    let mu := c.samplePosition - index
    c.samples[index]?.bind fun sample =>
    c.samples[index + 1]?.bind fun next =>
      some ({ c with samplePosition := c.samplePosition + c.config.sps.toNat },
        ⟨c.samplePosition, softSymbol (sample * (1 - mu) + next * mu) c.dc c.gain⟩)

/-- The loop around it, with this much room in the output. -/
def outputSymbols (index : Nat) : Nat → GfskCorrelator → Option (GfskCorrelator × List SoftSymbol)
  | 0, c => if c.samplePosition + c.config.samplerLag ≤ index then none else some (c, [])
  | room + 1, c =>
    if c.samplePosition + c.config.samplerLag ≤ index then
      c.outputSymbol.bind fun (c, symbol) =>
      (outputSymbols index room c).bind fun (c, symbols) => some (c, symbol :: symbols)
    else some (c, [])

/-- The search for the sync word at an index. -/
def search (c : GfskCorrelator) (index : Nat) : Option GfskCorrelator :=
  if index ≥ c.holdoffIndex then
    (c.correlate index).bind fun found =>
      let value := |found.value|
      let minValue := if index < c.burstEndIndex then c.burstPeak else 0
      if value ≥ c.config.threshold ∧ value > minValue ∧
          (c.peakSearch = false ∨ value > c.peakValue) then
        some { c with peakSearch := true, peakIndex := index, peakValue := value }
      else some c
  else some c

/-- The end of the search. -/
def settle (c : GfskCorrelator) (index : Nat) : Option GfskCorrelator :=
  if c.peakSearch then
    (checkedSub index c.peakIndex).bind fun distance =>
      if distance ≥ c.config.peakSearchLen then c.sync else some c
  else some c

/-- The loop of `gfsk_correlator_process` with this many samples to go, and the symbols that
were written before. -/
def loop : Nat → GfskCorrelator → List SoftSymbol → Option (GfskCorrelator × List SoftSymbol)
  | 0, c, output => some (c, output)
  | left + 1, c, output =>
    let index := c.correlatorIndex
    (c.search index).bind fun c =>
    (c.settle index).bind fun c =>
    (outputSymbols index (c.config.outputLen - output.length) c).bind fun (c, symbols) =>
    loop left { c with correlatorIndex := c.correlatorIndex + 1 } (output ++ symbols)

/-- The end of `gfsk_correlator_process`: keep the history for the next call. -/
def keepHistory (c : GfskCorrelator) : Option GfskCorrelator :=
  (checkedSub c.samples.length c.config.historyLen).bind fun shift =>
  (checkedSub c.correlatorIndex shift).bind fun correlatorIndex =>
  (if c.peakSearch then checkedSub c.peakIndex shift else some c.peakIndex).bind fun peakIndex =>
    if c.samplePosition - shift < 0 then none
    else some
      { c with
        samples := c.samples.drop shift
        correlatorIndex := correlatorIndex
        samplePosition := c.samplePosition - shift
        holdoffIndex := if c.holdoffIndex > shift then c.holdoffIndex - shift else 0
        burstEndIndex := if c.burstEndIndex > shift then c.burstEndIndex - shift else 0
        peakIndex := peakIndex }

/-- `gfsk_correlator_process`. -/
def process (c : GfskCorrelator) (input : List ℚ) :
    Option (GfskCorrelator × Option (List SoftSymbol)) :=
  if input.length > c.config.maxInputBufferLength then some (c, none)
  else
    let c := { c with samples := c.samples ++ input }
    (loop (c.samples.length - c.correlatorIndex) c []).bind fun (c, output) =>
    c.keepHistory.bind fun c => some (c, some output)

end GfskCorrelator
end SdrModem
