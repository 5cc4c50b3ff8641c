import SdrModem.TransmitBounds

/-!
# The rate of the transmit resampler

The buffer of the resampler is sized with the rate as a `double`, and the resampler is created
with the rate as a `float`.  Where the `float` is larger, a long block outgrows the buffer, and
how long a block has to be for that decides whether the buffers of a modem are large enough.
-/
namespace SdrModem
open Mealy

/-! ## Resamplers that count -/

/-- After `k` samples it has made `count k`. -/
def countingResampler (count : Nat → Nat) : Mealy Sample (List Sample) where
  State := Nat
  init := 0
  step k _ := (k + 1, List.replicate (count (k + 1) - count k) 0)

/-- A resampler that has got `k` samples. -/
def countingAt (count : Nat → Nat) (k : Nat) : Object Sample (List Sample) :=
  ⟨countingResampler count, k⟩

theorem emit_countingAt {count : Nat → Nat} (hmono : Monotone count) (k : Nat)
    (samples : List Sample) :
    ((countingAt count k).emit samples).1 = countingAt count (k + samples.length) ∧
    ((countingAt count k).emit samples).2.length = count (k + samples.length) - count k := by
  induction samples generalizing k with
  | nil => exact ⟨rfl, (Nat.sub_self _).symm⟩
  | cons sample samples ih =>
    obtain ⟨hstate, hlength⟩ := ih (k + 1)
    have hk : k + 1 + samples.length = k + (samples.length + 1) := by omega
    rw [hk] at hstate hlength
    refine ⟨hstate, ?_⟩
    have hfirst : count k ≤ count (k + 1) := hmono (Nat.le_succ k)
    have hrest := hmono (show k + 1 ≤ k + (samples.length + 1) by omega)
    have hcons : ((countingAt count k).emit (sample :: samples)).2 =
        List.replicate (count (k + 1) - count k) 0 ++
          ((countingAt count (k + 1)).emit samples).2 := rfl
    rw [hcons, List.length_append, List.length_replicate, hlength, List.length_cons]
    omega

/-- Objects of which only the resampler matters. -/
def TxObjects.counting (count : ℚ → Nat → Nat) : TxObjects where
  cpfskmod _ := ⟨Unit, (), fun _ _ => ((), .replicate _ 0)⟩
  mapper _ := .modemcf ⟨Unit, (), fun _ _ => ((), 0)⟩
  firinterp _ _ := ⟨Unit, (), fun _ _ => ((), .replicate _ 0)⟩
  nco _ := ⟨Unit, (), fun _ _ => ((), 0)⟩
  phaseModulate _ sample _ := sample
  msresamp rate := countingResampler (count rate)
  msresamp2 _ _ := ⟨Unit, (), fun _ _ => ((), .replicate _ 0)⟩

theorem TxObjects.bounded_counting {count : ℚ → Nat → Nat} (hmono : ∀ rate, Monotone (count rate))
    (hcount : ∀ rate k n, count rate (k + n) ≤ count rate k + (⌈(n : ℚ) * rate⌉₊ +
      resamplerOutputMargin)) : (counting count).Bounded := by
  intro rate state samples
  change ((countingAt (count rate) state).emit samples).2.length ≤ _
  rw [(emit_countingAt (hmono rate) state samples).2]
  exact Nat.sub_le_iff_le_add'.mpr (hcount rate state samples.length)

/-- The largest number of samples at a rate, all at once after `delay` samples. -/
def burstCount (delay : Nat) (rate : ℚ) (k : Nat) : Nat :=
  if k ≤ delay then 0 else ⌈((k - delay : ℕ) : ℚ) * rate⌉₊ + resamplerOutputMargin

theorem monotone_burstCount (delay : Nat) (rate : ℚ) : Monotone (burstCount delay rate) := by
  intro m n hmn
  unfold burstCount
  split
  · exact Nat.zero_le _
  · rw [if_neg (by omega)]
    exact Nat.add_le_add_right (ceil_mul_le (by omega) rate) _

theorem burstCount_add_le (delay : Nat) (rate : ℚ) (k n : Nat) : burstCount delay rate (k + n) ≤
    burstCount delay rate k + (⌈(n : ℚ) * rate⌉₊ + resamplerOutputMargin) := by
  unfold burstCount
  split
  · exact Nat.zero_le _
  · split
    · rw [Nat.zero_add]
      exact Nat.add_le_add_right (ceil_mul_le (by omega) rate) _
    · have hsum : ((k + n - delay : ℕ) : ℚ) * rate = ((k - delay : ℕ) : ℚ) * rate + n * rate := by
        rw [← add_mul, ← Nat.cast_add]
        congr 2
        omega
      have hceil := Nat.ceil_add_le (((k - delay : ℕ) : ℚ) * rate) (n * rate)
      rw [hsum]
      omega

theorem bounded_burst (delay : Nat) : (TxObjects.counting (burstCount delay)).Bounded :=
  TxObjects.bounded_counting (monotone_burstCount delay) (burstCount_add_le delay)

/-- A resampler that rounds down: none that works is ahead of its rate. -/
def steadyCount (rate : ℚ) (k : Nat) : Nat := ⌊(k : ℚ) * rate⌋₊

theorem floor_mul_le {m n : Nat} (h : m ≤ n) (rate : ℚ) :
    ⌊(m : ℚ) * rate⌋₊ ≤ ⌊(n : ℚ) * rate⌋₊ := by
  rcases le_total 0 rate with hrate | hrate
  · exact Nat.floor_mono (mul_le_mul_of_nonneg_right (Nat.cast_le.mpr h) hrate)
  · rw [Nat.floor_of_nonpos (mul_nonpos_of_nonneg_of_nonpos (Nat.cast_nonneg m) hrate)]
    exact Nat.zero_le _

theorem steadyCount_add_le (rate : ℚ) (k n : Nat) :
    steadyCount rate (k + n) ≤ steadyCount rate k + ⌈(n : ℚ) * rate⌉₊ := by
  have hlt : ((k + n : ℕ) : ℚ) * rate < steadyCount rate k + 1 + ⌈(n : ℚ) * rate⌉₊ := by
    have hfloor := Nat.lt_floor_add_one ((k : ℚ) * rate)
    have hceil := Nat.le_ceil ((n : ℚ) * rate)
    rw [Nat.cast_add, add_mul]
    unfold steadyCount
    linarith
  refine Nat.lt_succ_iff.mp ((Nat.floor_lt' (Nat.succ_ne_zero _)).mpr ?_)
  push_cast at hlt ⊢
  linarith

theorem bounded_steady : (TxObjects.counting steadyCount).Bounded :=
  TxObjects.bounded_counting (fun rate _ _ h => floor_mul_le h rate) fun rate k n =>
    (steadyCount_add_le rate k n).trans
      (Nat.add_le_add_left (Nat.le_add_right _ _) _)

/-! ## Room for a block -/

/-- **A rounded rate adds no more than the buffer has to spare**: neither to the data of a full
buffer, nor to the tail of a signal. -/
def RateFits (a : RateArith) (delays : Delays) (rates : TxRates) (bufferSize : UInt32) : Prop :=
  rates.needsResampling = true →
    ∀ ratio ∈ resampleRate a rates, ∀ rate ∈ a.float.round ratio,
    ∀ length ∈ a.double.round (a.double.ofNat
      (rates.bufferSamples bufferSize + resamplerTxFlushLen delays rate) * ratio),
      ⌈(rates.dataSamples bufferSize : ℚ) * rate⌉₊ ≤ ⌈length⌉₊ ∧
      (bufferSize ≠ 0 →
        ⌈((rates.tailSamples + resamplerTxFlushLen delays rate : ℕ) : ℚ) * rate⌉₊ ≤ ⌈length⌉₊)

theorem roomForAll_iff {a : RateArith} {delays : Delays} {rates : TxRates} {bufferSize : UInt32}
    {plan : Option ResamplerPlan}
    (hplan : resamplerTxPlan a delays rates (rates.bufferSamples bufferSize) = some plan) :
    TransmitModem.RoomForAll rates bufferSize plan ↔ RateFits a delays rates bufferSize := by
  unfold resamplerTxPlan at hplan
  split at hplan
  · rename_i hneeds
    obtain ⟨r, hr, rfl⟩ := Option.map_eq_some_iff.mp hplan
    obtain ⟨ratio, hratio, hr⟩ := Option.bind_eq_some_iff.mp hr
    obtain ⟨rate, hrate, hr⟩ := Option.bind_eq_some_iff.mp hr
    obtain ⟨length, hlength, hr⟩ := Option.bind_eq_some_iff.mp hr
    obtain rfl := Option.some.inj hr
    have hroom : ∀ samples, RoomFor (some ⟨rate, resamplerTxFlushLen delays rate,
        ⌈length⌉₊ + resamplerOutputMargin⟩) samples ↔ ⌈(samples : ℚ) * rate⌉₊ ≤ ⌈length⌉₊ := by
      intro samples
      unfold RoomFor
      simp only [Option.mem_some_iff, forall_eq', Nat.add_le_add_iff_right]
    unfold RateFits
    rw [hratio]
    simp only [hneeds, hrate, hlength, Option.mem_some_iff, forall_eq', forall_const]
    constructor
    · exact fun h => ⟨(hroom _).mp h.data, fun hne => (hroom _).mp (h.tail hne)⟩
    · exact fun h => ⟨(hroom _).mpr h.1, fun hne => (hroom _).mpr (h.2 hne)⟩
  · rename_i hneeds
    obtain rfl := Option.some.inj hplan
    exact iff_of_true ⟨by rintro _ ⟨⟩, by rintro - _ ⟨⟩⟩ fun h => absurd h hneeds

/-- With exact rates there is always room. -/
theorem rateFits_exact (delays : Delays) (rates : TxRates) (bufferSize : UInt32) :
    RateFits .exact delays rates bufferSize := by
  rintro - ratio - _ ⟨⟩ _ ⟨⟩
  refine ⟨ceil_mul_le ?_ ratio, fun _ => ceil_mul_le ?_ ratio⟩
  · unfold TxRates.dataSamples TxRates.bufferSamples
    rw [Nat.add_mul]
    omega
  · unfold TxRates.tailSamples TxRates.bufferSamples
    rw [Nat.add_mul]
    omega

/-! ## The longest blocks -/

namespace TransmitModem
variable {m₀ : TransmitModem} {objects : TxObjects} {rates : TxRates} {bufferSize : UInt32}
  {plan : Option ResamplerPlan}

/-- A full buffer makes the longest data. -/
theorem Built.full_buffer (hbuilt : m₀.Built objects rates bufferSize plan) :
    ∃ samples, samples.length = rates.dataSamples bufferSize ∧
      (m₀.writes (.modulate (List.replicate bufferSize.toNat 0))).resamplerTxOutput =
        resamplerWrites m₀.tx.modem.resamplerTx samples := by
  have hlt := bufferSize.toNat_lt
  have hbits : m₀.tx.modem.lengths.inputBits = bufferSize.toNat * 8 :=
    hbuilt.reached.inputBits hbuilt
  have hlength : (List.replicate bufferSize.toNat (0 : UInt8)).length = bufferSize.toNat :=
    List.length_replicate
  have hshort : ¬ (List.replicate bufferSize.toNat (0 : UInt8)).length * 8 >
      m₀.tx.modem.lengths.inputBits := by omega
  obtain ⟨samples, hsamples, hmoves, -⟩ := m₀.tx.modem.modulate_moves (by omega) hshort
  refine ⟨samples, ?_, congrArg TxBuffers.resamplerTxOutput hmoves.written⟩
  rw [hsamples, hlength, hbuilt.modem.lengths, TxRates.dataSamples]

theorem countable_full (bufferSize : UInt32) :
    (Call.modulate (List.replicate bufferSize.toNat 0)).Countable := by
  have hlt := bufferSize.toNat_lt
  rw [Call.Countable, List.length_replicate]
  omega

/-- A byte is enough to have a tail. -/
theorem Built.tail (hbuilt : m₀.Built objects rates bufferSize plan) (hne : bufferSize ≠ 0) :
    ∃ first samples, first.length = 8 * rates.samplesPerSymbol ∧
      samples.length = rates.tailSamples + plan.elim 0 ResamplerPlan.flushLen ∧
      ((m₀.after (.modulate [0])).writes .flush).resamplerTxOutput =
        resamplerWrites (resampleTx m₀.tx.modem.resamplerTx first).1 samples := by
  have hpos : 0 < bufferSize.toNat := Nat.pos_of_ne_zero fun h => hne (UInt32.toNat_inj.mp h)
  have hbits := hbuilt.reached.inputBits hbuilt
  have hshort : ¬ [(0 : UInt8)].length * 8 > m₀.tx.modem.lengths.inputBits := by
    rw [List.length_singleton]
    omega
  obtain ⟨first, hfirst, -, hstate⟩ := m₀.tx.modem.modulate_moves (by decide) hshort
  have hreached := hbuilt.reached.after hbuilt (.modulate [0])
  rw [← WrappedModem.maxModulationInputBits_eq] at hshort
  obtain ⟨hmodem, hpending, -⟩ := SdrModemTx.modulate_of_short hshort
  have hpending : (m₀.after (.modulate [0])).tx.txPending = true := by
    change (m₀.tx.modulate [0]).1.txPending = true
    rw [hpending]
    exact Bool.or_true _
  obtain ⟨samples, hsamples, hmoves⟩ :=
    WrappedModem.flush_moves (hreached.tidy.pending.trans hpending)
  have hresampler : (m₀.after (.modulate [0])).tx.modem.resamplerTx =
      (resampleTx m₀.tx.modem.resamplerTx first).1 := by
    rw [← hstate, ← hmodem]
    rfl
  have hzeros : (flushZeros (m₀.after (.modulate [0])).tx.modem.resamplerTx
      (plan.elim 0 ResamplerPlan.flushLen)).length = plan.elim 0 ResamplerPlan.flushLen := by
    rw [hresampler, hbuilt.modem.resamplerTx]
    cases plan with
    | none => rfl
    | some r => exact List.length_replicate
  refine ⟨first, samples, ?_, ?_, ?_⟩
  · rw [hfirst, hbuilt.modem.lengths, List.length_singleton, Nat.one_mul]
  · rw [hsamples, hreached.lengths, hbuilt.modem.lengths]
    exact congrArg (_ + ·) hzeros
  · have hwrites : (m₀.after (.modulate [0])).modemWrites .flush =
        (m₀.after (.modulate [0])).tx.modem.flushWrites := if_pos hpending
    rw [writes, hwrites, hmoves.written, ← hresampler]
    rfl

/-! ## When the buffers are large enough -/

theorem resamplerWrites_countingAt {count : Nat → Nat} (hmono : Monotone count) (k : Nat)
    {samples : List Sample} (h : samples.length < 2 ^ 32) :
    resamplerWrites (some (countingAt count k)) samples =
      count (k + samples.length) - count k := by
  rw [resamplerWrites, Option.elim_some, Nat.mod_eq_of_lt h, List.take_length,
    (emit_countingAt hmono k samples).2]

theorem resampleTx_countingAt {count : Nat → Nat} (hmono : Monotone count) (k : Nat)
    {samples : List Sample} (h : samples.length < 2 ^ 32) :
    (resampleTx (some (countingAt count k)) samples).1 =
      some (countingAt count (k + samples.length)) := by
  change some ((countingAt count k).emit (samples.take (samples.length % 2 ^ 32))).1 = _
  rw [Nat.mod_eq_of_lt h, List.take_length, (emit_countingAt hmono k samples).1]

/-- A burst at the end of a delay is as long as a block may get. -/
theorem burst_writes (delay : Nat) (rate : ℚ) {samples : List Sample}
    (h : samples.length < 2 ^ 32) (hne : samples ≠ []) :
    resamplerWrites (some (countingAt (burstCount delay rate) delay)) samples =
      ⌈(samples.length : ℚ) * rate⌉₊ + resamplerOutputMargin := by
  have hpos : 0 < samples.length := List.length_pos_iff.mpr hne
  rw [resamplerWrites_countingAt (monotone_burstCount delay rate) delay h, burstCount, burstCount,
    if_neg (by omega), if_pos (Nat.le_refl _), Nat.add_sub_cancel_left, Nat.sub_zero]

/-- The resampler writes no more than fits, if every call fits. -/
theorem Built.resampler_fits (hbuilt : m₀.Built objects rates bufferSize plan)
    (hsafe : Safe bufferSize m₀) (calls : List Call) (c : Call)
    (hcalls : ∀ c ∈ calls, c.Countable) (hcount : c.Countable) :
    ((m₀.afterCalls calls).writes c).resamplerTxOutput ≤ plan.elim 0 ResamplerPlan.outputLen := by
  have hfits := (hsafe calls hcalls c hcount).written.resamplerTxOutput
  rwa [allocated, WrappedModem.allocated_eq, hbuilt.modem.lengths] at hfits

/-- **Bursts need all the room there may be need for**: one at the start for the data, and one
behind a byte for the tail. -/
theorem roomForAll_of_safe
    (h : ∀ delay, ∃ m : TransmitModem,
      m.Built (.counting (burstCount delay)) rates bufferSize plan ∧ m.Below32 ∧ m.Safe bufferSize)
    (hmargin : ∀ r ∈ plan, resamplerOutputMargin ≤ r.outputLen) :
    RoomForAll rates bufferSize plan := by
  cases plan with
  | none => exact ⟨by rintro _ ⟨⟩, by rintro - _ ⟨⟩⟩
  | some r =>
    have hempty : ∀ n, n = 0 → RoomFor (some r) n := by
      rintro n rfl _ ⟨⟩
      rw [Nat.cast_zero, zero_mul, Nat.ceil_zero, Nat.zero_add]
      exact hmargin r rfl
    constructor
    · obtain ⟨m, hbuilt, hbelow, hsafe⟩ := h 0
      obtain ⟨samples, hsamples, hwrites⟩ := hbuilt.full_buffer
      have hfits := hbuilt.resampler_fits hsafe [] _ (by rintro _ ⟨⟩)
        (countable_full bufferSize)
      rcases Nat.eq_zero_or_pos (rates.dataSamples bufferSize) with hzero | hpos
      · exact hempty _ hzero
      · have hsmall := hbelow.bufferLength
        rw [hbuilt.bufferLength] at hsmall
        rintro _ ⟨⟩
        rw [← hsamples, ← burst_writes 0 r.rate (by omega)
          (List.length_pos_iff.mp (hsamples ▸ hpos))]
        rw [afterCalls, List.foldl_nil, hwrites, hbuilt.modem.resamplerTx] at hfits
        exact hfits
    · intro hne
      obtain ⟨m, hbuilt, hbelow, hsafe⟩ := h (8 * rates.samplesPerSymbol)
      obtain ⟨first, samples, hfirst, hsamples, hwrites⟩ := hbuilt.tail hne
      have hfits := hbuilt.resampler_fits hsafe [.modulate [0]] .flush
        (by simp [Call.Countable]) trivial
      rcases Nat.eq_zero_or_pos
        (rates.tailSamples + (some r).elim 0 ResamplerPlan.flushLen) with hzero | hpos
      · exact hempty _ hzero
      · have hsmall := hbelow.bufferLength
        rw [hbuilt.bufferLength] at hsmall
        have hfull : 8 * rates.samplesPerSymbol ≤ rates.dataSamples bufferSize := by
          have hbytes : 0 < bufferSize.toNat :=
            Nat.pos_of_ne_zero fun h => hne (UInt32.toNat_inj.mp h)
          exact Nat.mul_le_mul_right _ (by omega)
        have hstate : (resampleTx m.tx.modem.resamplerTx first).1 =
            some (countingAt (burstCount (8 * rates.samplesPerSymbol) r.rate)
              (8 * rates.samplesPerSymbol)) := by
          rw [hbuilt.modem.resamplerTx, ← hfirst]
          refine (resampleTx_countingAt (monotone_burstCount _ _) 0 (by omega)).trans ?_
          rw [Nat.zero_add]
        rintro _ ⟨⟩
        rw [← hsamples, ← burst_writes (8 * rates.samplesPerSymbol) r.rate (by omega)
          (List.length_pos_iff.mp (hsamples ▸ hpos))]
        change ((m.after (.modulate [0])).writes .flush).resamplerTxOutput ≤ _ at hfits
        rwa [hwrites, hstate] at hfits

end TransmitModem

/-- What "TX chain" creates if the rates are these. -/
theorem resamplerTxPlan_eq {a : RateArith} {delays : Delays} {rates : TxRates} {samples : Nat}
    {ratio rate length : ℚ} (hneeds : rates.needsResampling = true)
    (hratio : resampleRate a rates = some ratio) (hrate : a.float.round ratio = some rate)
    (hlength : a.double.round (a.double.ofNat (samples + resamplerTxFlushLen delays rate) * ratio) =
      some length) :
    resamplerTxPlan a delays rates samples = some (some ⟨rate, resamplerTxFlushLen delays rate,
      ⌈length⌉₊ + resamplerOutputMargin⟩) := by
  rw [resamplerTxPlan, if_pos hneeds, resamplerPlan, hratio]
  dsimp only [Option.bind_eq_bind, Option.bind_some]
  rw [hrate]
  dsimp only [Option.bind_some]
  rw [hlength]
  rfl

/-- What comes out of "TX chain" has the margin. -/
theorem resamplerTxPlan_margin {a : RateArith} {delays : Delays} {rates : TxRates} {samples : Nat}
    {plan : Option ResamplerPlan} (h : resamplerTxPlan a delays rates samples = some plan) :
    ∀ r ∈ plan, resamplerOutputMargin ≤ r.outputLen := by
  rintro r rfl
  unfold resamplerTxPlan at h
  split at h
  · obtain ⟨r', hr, heq⟩ := Option.map_eq_some_iff.mp h
    obtain rfl := Option.some.inj heq
    obtain ⟨_, -, hr⟩ := Option.bind_eq_some_iff.mp hr
    obtain ⟨_, -, hr⟩ := Option.bind_eq_some_iff.mp hr
    obtain ⟨length, -, hr⟩ := Option.bind_eq_some_iff.mp hr
    obtain rfl := Option.some.inj hr
    exact Nat.le_add_left _ _
  · cases h

/-! ## Modems without half-band filters -/

/-- GFSK without a low-pass filter, and so without half-band filters. -/
def gfskOfBaud (sampleRate : UInt64) (baudRate : UInt32) : GfskModemSettings where
  sampleRate := sampleRate
  baudRate := baudRate
  deviation := 5000
  bandwidth := 0
  bt := 0x3f000000
  useDcBlock := 1
  syncword := 0
  syncwordBits := 0

/-- Every filter is late by 15 samples. -/
def delaysOf15 : Delays := ⟨fun _ => 15, fun _ _ => 15⟩

/-- What is created then, as far as it transmits. -/
theorem create_gfskOfBaud {liquid : Liquid} (a : RateArith)
    {gfskObjects : GfskModemSettings → Bool} {delays : Delays} {sampleRate : UInt64}
    {baudRate : UInt32} (bufferSize : UInt32) {plan : Option ResamplerPlan} (objects : TxObjects)
    (haccepted : sdrModemCreate liquid a.float (modemAccepts liquid a gfskObjects)
      (.gfsk (gfskOfBaud sampleRate baudRate)) = some true)
    (hplan : resamplerTxPlan a delays (gfskTxRates (gfskOfBaud sampleRate baudRate))
      ((gfskTxRates (gfskOfBaud sampleRate baudRate)).bufferSamples bufferSize) = some plan) :
    ∃ m, TransmitModem.create liquid a gfskObjects delays objects
        (.gfsk (gfskOfBaud sampleRate baudRate)) bufferSize false = some m ∧
      m.allocated = ⟨(bufferSize.toNat * 8 + gfskModemTxTailSymbols) * gfskModemSps +
        plan.elim 0 ResamplerPlan.flushLen, plan.elim 0 ResamplerPlan.outputLen, 0, 0, 0⟩ := by
  have hmodem : ∃ m, GfskModem.forSettings a delays objects (gfskOfBaud sampleRate baudRate)
      bufferSize = some m ∧ m.maxModulationBufferLength =
        (bufferSize.toNat * 8 + gfskModemTxTailSymbols) * gfskModemSps +
          plan.elim 0 ResamplerPlan.flushLen ∧
      m.resamplerTxOutputLen = plan.elim 0 ResamplerPlan.outputLen := by
    unfold GfskModem.forSettings
    dsimp only
    rw [hplan]
    exact ⟨_, rfl, rfl, rfl⟩
  obtain ⟨m, hm, hbuffer, houtput⟩ := hmodem
  refine ⟨⟨⟨.gfsk m, none, false⟩, none⟩, ?_, ?_⟩
  · have hforSettings : WrappedModem.forSettings a delays objects bufferSize
        (SdrModemSettings.decimated a.float 0 (.gfsk (gfskOfBaud sampleRate baudRate))) =
          some (.gfsk m) := congrArg (Option.map WrappedModem.gfsk) hm
    rw [TransmitModem.create, if_pos haccepted]
    change (WrappedModem.forSettings a delays objects bufferSize
      (SdrModemSettings.decimated a.float 0 (.gfsk (gfskOfBaud sampleRate baudRate)))).bind _ = _
    rw [hforSettings]
    rfl
  · rw [← hbuffer, ← houtput]
    rfl

/-- **When the buffers of a transmission are large enough**: the rate of the resampler, rounded
to a `float`, adds no more than the buffer has to spare. -/
theorem transmit_buffers_fit_iff (liquid : Liquid) (a : RateArith)
    (gfskObjects : GfskModemSettings → Bool) (delays : Delays) (settings : SdrModemSettings)
    (bufferSize : UInt32) (freqOffsetFile : Bool)
    (hcreated : ∀ objects, ∃ m, TransmitModem.create liquid a gfskObjects delays objects settings
      bufferSize freqOffsetFile = some m ∧ m.Below32) :
    (∀ objects : TxObjects, objects.Bounded → ∀ m, TransmitModem.create liquid a gfskObjects delays
        objects settings bufferSize freqOffsetFile = some m → m.Safe bufferSize) ↔
      ∀ rates ∈ settings.basebandTxRates a, RateFits a delays rates bufferSize := by
  constructor
  · intro hsafe rates hrates
    obtain ⟨m₁, hm₁, -⟩ := hcreated (.counting (burstCount 0))
    obtain ⟨rates', plan, hrates', hplan, -⟩ := TransmitModem.built_create hm₁
    obtain rfl : rates' = rates := Option.some.inj (hrates'.symm.trans hrates)
    refine (roomForAll_iff hplan).mp ?_
    refine TransmitModem.roomForAll_of_safe (fun delay => ?_) (resamplerTxPlan_margin hplan)
    obtain ⟨m, hm, hbelow⟩ := hcreated (.counting (burstCount delay))
    obtain ⟨rates'', plan', hrates'', hplan', hbuilt⟩ := TransmitModem.built_create hm
    obtain rfl : rates'' = rates' := Option.some.inj (hrates''.symm.trans hrates')
    obtain rfl : plan' = plan := Option.some.inj (hplan'.symm.trans hplan)
    exact ⟨m, hbuilt, hbelow, hsafe _ (bounded_burst delay) m hm⟩
  · intro hfits objects hbounded m hm
    obtain ⟨rates, plan, hrates, hplan, hbuilt⟩ := TransmitModem.built_create hm
    obtain ⟨m', hm', hbelow⟩ := hcreated objects
    obtain rfl : m' = m := Option.some.inj (hm'.symm.trans hm)
    exact hbuilt.safe hbounded hbelow ((roomForAll_iff hplan).mpr (hfits rates hrates))

/-- At five samples per symbol the rate is a `float`, and 16 bytes fit. -/
theorem transmit_buffers_fit_sixteen :
    ∃ m, TransmitModem.create .documented .binary (fun _ => true) delaysOf15
      (.counting steadyCount) (.gfsk (gfskOfBaud 48000 9600)) 16 false = some m ∧ m.Safe 16 := by
  have haccepted : sdrModemCreate .documented RateArith.binary.float
      (modemAccepts .documented .binary fun _ => true) (.gfsk (gfskOfBaud 48000 9600)) =
        some true := by decide +kernel
  have hplan : resamplerTxPlan .binary delaysOf15 (gfskTxRates (gfskOfBaud 48000 9600))
      ((gfskTxRates (gfskOfBaud 48000 9600)).bufferSamples 16) = some (some ⟨5 / 2, 31, 764⟩) := by
    decide +kernel
  have hcreated : ∀ objects, ∃ m, TransmitModem.create .documented .binary (fun _ => true)
      delaysOf15 objects (.gfsk (gfskOfBaud 48000 9600)) 16 false = some m ∧ m.Below32 := by
    intro objects
    obtain ⟨m, hm, hallocated⟩ :=
      create_gfskOfBaud .binary 16 objects haccepted hplan
    refine ⟨m, hm, ?_, ?_, ?_, ?_⟩
    all_goals
      rw [hallocated]
      decide
  obtain ⟨m, hm, -⟩ := hcreated (.counting steadyCount)
  refine ⟨m, hm, (transmit_buffers_fit_iff .documented .binary (fun _ => true) delaysOf15
    (.gfsk (gfskOfBaud 48000 9600)) 16 false hcreated).mpr ?_ (.counting steadyCount)
    bounded_steady m hm⟩
  intro rates hrates
  obtain rfl : gfskTxRates (gfskOfBaud 48000 9600) = rates := Option.some.inj hrates
  refine (roomForAll_iff hplan).mp ⟨?_, fun _ => ?_⟩
  · rintro _ ⟨⟩
    decide +kernel
  · rintro _ ⟨⟩
    decide +kernel

/-- 4194303 baud at 16777213 Hz is 2 and a little more than `2 ^ -23` samples a sample, and a
`float` has `2 ^ -22` for that.  A full buffer of 100000000 bytes outgrows the one of the resampler
by 88 samples. -/
theorem rounded_rate_outgrows_buffer :
    (TxObjects.counting steadyCount).Bounded ∧
    ∃ m, TransmitModem.create .documented .binary (fun _ => true) delaysOf15
        (.counting steadyCount) (.gfsk (gfskOfBaud 16777213 4194303)) 100000000 false = some m ∧
      m.Below32 ∧ m.allocated.resamplerTxOutput = 3200000293 ∧
      (m.writes (.modulate (List.replicate 100000000 0))).resamplerTxOutput = 3200000381 ∧
      ¬ m.Safe 100000000 := by
  have haccepted : sdrModemCreate .documented RateArith.binary.float
      (modemAccepts .documented .binary fun _ => true) (.gfsk (gfskOfBaud 16777213 4194303)) =
        some true := by decide +kernel
  have hratio : resampleRate .binary (gfskTxRates (gfskOfBaud 16777213 4194303)) =
      some (70368748371969 / 35184372088832) := by decide +kernel
  have hrate : RateArith.binary.float.round (70368748371969 / 35184372088832) =
      some (8388609 / 4194304) := by decide +kernel
  have hflush : resamplerTxFlushLen delaysOf15 (8388609 / 4194304) = 31 := by decide +kernel
  have hlength : RateArith.binary.double.round (RateArith.binary.double.ofNat (1600000012 +
      resamplerTxFlushLen delaysOf15 (8388609 / 4194304)) *
        (70368748371969 / 35184372088832)) = some (3355443490177589 / 1048576) := by
    decide +kernel
  have hceil : ⌈(3355443490177589 / 1048576 : ℚ)⌉₊ = 3200000277 := by decide +kernel
  have hsamples : (gfskTxRates (gfskOfBaud 16777213 4194303)).bufferSamples 100000000 =
      1600000012 := by decide +kernel
  have hplan := resamplerTxPlan_eq rfl hratio hrate hlength
  rw [hflush, hceil, ← hsamples] at hplan
  refine ⟨bounded_steady, ?_⟩
  obtain ⟨m, hm, hallocated⟩ :=
    create_gfskOfBaud .binary 100000000 (.counting steadyCount) haccepted hplan
  have hroom : m.allocated.resamplerTxOutput = 3200000293 := by rw [hallocated]; rfl
  have hbelow : m.Below32 := by
    constructor
    all_goals
      rw [hallocated]
      decide
  obtain ⟨rates, plan, hrates, hplan', hbuilt⟩ := TransmitModem.built_create hm
  obtain rfl : gfskTxRates (gfskOfBaud 16777213 4194303) = rates := Option.some.inj hrates
  obtain rfl : some _ = plan := Option.some.inj (hplan.symm.trans hplan')
  obtain ⟨samples, hsamples, hwrites⟩ := hbuilt.full_buffer
  have hlength : samples.length = 1600000000 := hsamples
  rw [hbuilt.modem.resamplerTx] at hwrites
  have hwritten : (m.writes (.modulate (List.replicate 100000000 0))).resamplerTxOutput =
      3200000381 := by
    refine hwrites.trans ?_
    refine (TransmitModem.resamplerWrites_countingAt
      (fun _ _ h => floor_mul_le h (8388609 / 4194304)) 0 (by omega)).trans ?_
    rw [hlength]
    decide +kernel
  refine ⟨m, hm, hbelow, hroom, hwritten, fun hsafe => ?_⟩
  have hfits := (hsafe [] (by rintro _ ⟨⟩) _
    (TransmitModem.countable_full 100000000)).written.resamplerTxOutput
  rw [hroom] at hfits
  exact absurd (hwritten.symm.trans_le hfits) (by decide)

end SdrModem
