import SdrModem.Breakpoints
import SdrModem.Demodulator

/-!
# Frequency offset correction: `freq_offset.c`

A file says which frequency offset a signal has at which time.  Samples are mixed with the
offset of their time, in chunks with one frequency each.  The time is driven by the samples,
and a cursor in the table follows it: it is set on creation and moved forward after every
chunk.

Times and offsets are exact.  `none` is a read beyond the table or the division by a gap of the
table that is zero; where `sample_rate` is zero, `tick` and `mix` divide by it as rational numbers
do, which is 0.  A `MixedChunk` is written down for every chunk.
-/
namespace SdrModem

/-- `struct freq_offset_entry`. -/
structure OffsetEntry where
  timestamp : ℚ
  offsetHz : ℚ
deriving DecidableEq, Repr

/-- `M_PI`, as it is stored in 64 bits. -/
def mPi : ℚ := 884279719003555 / 281474976710656

/-- What the mixer uses of an `nco_crcf`: a sample at a time. -/
structure MixNco where
  State : Type
  init : State
  setFrequency : State → ℚ → State
  mixUp : State → Iq → State × Iq
  mixDown : State → Iq → State × Iq

namespace MixNco
variable {nco : MixNco}

/-- `nco_crcf_mix_block_up` or `nco_crcf_mix_block_down`. -/
def mixBlock (mix : nco.State → Iq → nco.State × Iq) : nco.State → List Iq → nco.State × List Iq
  | state, [] => (state, [])
  | state, x :: xs =>
    let (state, y) := mix state x
    let (state, ys) := mixBlock mix state xs
    (state, y :: ys)

end MixNco

/-- `struct freq_offset_t`.  `output` is the buffer with its `output_len` samples. -/
structure FreqOffset (nco : MixNco) where
  entries : List OffsetEntry
  currentIndex : Nat
  virtualTime : ℚ
  sampleRate : UInt64
  maxBatchSamples : Nat
  oscillator : nco.State
  output : List Iq

/-- A chunk that was mixed with one frequency: where the clock and the cursor were, the offset
and how many samples it had. -/
structure MixedChunk where
  virtualTime : ℚ
  currentIndex : Nat
  offsetHz : ℚ
  chunkLen : Nat
deriving DecidableEq, Repr

/-- The loop of `freq_offset_advance`, and the one of `freq_offset_create`: forward to the
last entry that is not after a time. -/
def freqOffsetSeek (entries : List OffsetEntry) (time : ℚ) : Nat → Nat → Nat
  | 0, index => index
  | fuel + 1, index =>
    match entries[index + 1]? with
    | none => index
    | some next => if next.timestamp ≤ time then freqOffsetSeek entries time fuel (index + 1)
      else index

/-- The smallest gap between two entries, from a gap that was found before; -1 is none. -/
def freqOffsetMinDt : ℚ → List OffsetEntry → ℚ
  | minDt, a :: b :: rest =>
    let dt := if b.timestamp - a.timestamp < 0 then 0 else b.timestamp - a.timestamp
    freqOffsetMinDt (if minDt < 0 ∨ dt < minDt then dt else minDt) (b :: rest)
  | minDt, _ => minDt

/-- `max_batch_samples`. -/
def freqOffsetMaxBatchSamples (entries : List OffsetEntry) (sampleRate : UInt64) : Nat :=
  if entries.length > 1 then
    let batch := ⌊freqOffsetMinDt (-1) entries * sampleRate.toNat⌋₊
    if batch = 0 then 1 else batch
  else 2 ^ 64 - 1

namespace FreqOffset
variable {nco : MixNco}

/-- `freq_offset_create` on the entries of the file, at a time; the error is `-EINVAL`.  The
output is not initialized. -/
def create (nco : MixNco) (entries : List OffsetEntry) (now : ℚ) (sampleRate : UInt64)
    (maxInputBufferLength : Nat) : Except Int (FreqOffset nco) :=
  let startAt (index : Nat) (time : ℚ) : FreqOffset nco :=
    { entries := entries
      currentIndex := index
      virtualTime := time
      sampleRate := sampleRate
      maxBatchSamples := freqOffsetMaxBatchSamples entries sampleRate
      oscillator := nco.init
      output := List.replicate maxInputBufferLength ⟨0, 0⟩ }
  match entries with
  | [] => .error (-22)
  | first :: _ =>
    if first.timestamp = 0 then .ok (startAt 0 0)
    else
      let index := freqOffsetSeek entries now entries.length 0
      match entries[index]? with
      | none => .error (-22)
      | some entry =>
        if index = entries.length - 1 ∧ entry.timestamp < now then .error (-22)
        else .ok (startAt index now)

/-- `freq_offset_interpolate`. -/
def interpolate (fo : FreqOffset nco) : Option ℚ :=
  fo.entries[0]?.bind fun first =>
  if fo.virtualTime ≤ first.timestamp then some first.offsetHz
  else if fo.currentIndex ≥ fo.entries.length - 1 then
    fo.entries[fo.entries.length - 1]?.map OffsetEntry.offsetHz
  else
    fo.entries[fo.currentIndex]?.bind fun entryFrom =>
    fo.entries[fo.currentIndex + 1]?.bind fun entryTo =>
      if entryTo.timestamp - entryFrom.timestamp = 0 then none
      else
        let fraction :=
          (fo.virtualTime - entryFrom.timestamp) / (entryTo.timestamp - entryFrom.timestamp)
        some (entryFrom.offsetHz + fraction * (entryTo.offsetHz - entryFrom.offsetHz))

/-- `freq_offset_advance`. -/
def advance (fo : FreqOffset nco) : FreqOffset nco :=
  { fo with
    currentIndex := freqOffsetSeek fo.entries fo.virtualTime fo.entries.length fo.currentIndex }

/-- Mix a chunk into the output.  The length of a block has 32 bits. -/
def mix (fo : FreqOffset nco) (offsetHz : ℚ) (processed : Nat) (chunk : List Iq) :
    FreqOffset nco :=
  let dtheta := 2 * mPi * |offsetHz| / fo.sampleRate.toNat
  let (oscillator, mixed) := MixNco.mixBlock (if offsetHz ≥ 0 then nco.mixUp else nco.mixDown)
    (nco.setFrequency fo.oscillator dtheta) (chunk.take (chunk.length % 2 ^ 32))
  { fo with
    oscillator := oscillator
    output := fo.output.take processed ++ mixed ++ fo.output.drop (processed + mixed.length) }

/-- The clock and the cursor go on. -/
def tick (fo : FreqOffset nco) (chunkLen : Nat) : FreqOffset nco :=
  advance { fo with virtualTime := fo.virtualTime + chunkLen / fo.sampleRate.toNat }

/-- The loop of `freq_offset_process`, with the samples that are left. -/
def loop : Nat → FreqOffset nco → Nat → List Iq → Option (FreqOffset nco × List MixedChunk)
  | _, fo, _, [] => some (fo, [])
  | 0, _, _, _ :: _ => none
  | fuel + 1, fo, processed, x :: xs =>
    let chunkLen := min (x :: xs).length fo.maxBatchSamples
    fo.interpolate.bind fun offsetHz =>
    let next := (fo.mix offsetHz processed ((x :: xs).take chunkLen)).tick chunkLen
    (loop fuel next (processed + chunkLen) ((x :: xs).drop chunkLen)).map fun (last, chunks) =>
      (last, ⟨fo.virtualTime, fo.currentIndex, offsetHz, chunkLen⟩ :: chunks)

/-- `freq_offset_process`, with the chunks it has mixed. -/
def process (fo : FreqOffset nco) (input : List Iq) :
    Option (FreqOffset nco × Option (List Iq) × List MixedChunk) :=
  if input.length > fo.output.length then some (fo, none, [])
  else (loop input.length fo 0 input).map fun (fo, chunks) =>
    (fo, some (fo.output.take input.length), chunks)

/-- Calls, one after the other, with the chunks of each. -/
def calls : FreqOffset nco → List (List Iq) → Option (FreqOffset nco × List (List MixedChunk))
  | fo, [] => some (fo, [])
  | fo, input :: inputs =>
    (fo.process input).bind fun (fo, _, chunks) =>
    (fo.calls inputs).map fun (fo, rest) => (fo, chunks :: rest)

/-- An oscillator that does nothing. -/
def stillNco : MixNco := ⟨Unit, (), fun _ _ => (), fun _ x => ((), x), fun _ x => ((), x)⟩

end FreqOffset
end SdrModem
