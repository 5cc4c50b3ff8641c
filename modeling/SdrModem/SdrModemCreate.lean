import SdrModem.HalfbandDecim

/-!
# Creating a modem

What `sdr_modem_create` and `bpsk_modem_create` decide from the settings: the bandwidth of the
signal, the number of half-band stages, the rate that the modem behind them is created for, and
whether it is created at all.

The arithmetic is that of `FloatArith`.  Which objects `liquid-dsp` creates is `Liquid`, with the
conditions that it documents.  Memory is never short, and there is no file with frequency offsets.
-/
namespace SdrModem

/-! ## Rates -/

/-- `(uint32_t) x`: it is defined only if the integer part has 32 bits. -/
def toUInt32 (x : Option ℚ) : Option UInt32 :=
  x.bind fun q => if -1 < q ∧ q < 2 ^ 32 then some (UInt32.ofNat ⌊q⌋₊) else none

/-- `(1 + rrc_beta) * baud_rate`. -/
def shapedBandwidth (a : FloatArith) (rrcBeta baudRate : UInt32) : Option ℚ := do
  let beta ← Ieee754.binary32.finite rrcBeta.toNat
  let sum ← a.round (1 + beta)
  a.round (sum * a.ofNat baudRate.toNat)

/-- `sdr_modem_get_bandwidth`; `none` is an undefined conversion. -/
def sdrModemGetBandwidth (a : FloatArith) : SdrModemSettings → Option UInt32
  | .gfsk settings => some settings.bandwidth
  | .psk _ settings => toUInt32 (shapedBandwidth a settings.rrcBeta settings.baudRate)
  | .pskPm settings =>
    (toUInt32 (shapedBandwidth a settings.rrcBeta settings.baudRate)).map fun shaped =>
      2 * (settings.subcarrierFrequency + shaped)

/-- `sdr_modem_get_sample_date`. -/
def SdrModemSettings.sampleRate : SdrModemSettings → UInt64
  | .gfsk settings => settings.sampleRate
  | .psk _ settings => settings.sampleRate
  | .pskPm settings => settings.sampleRate

/-- `decimated.sample_rate = ...` of a copy of the settings. -/
def SdrModemSettings.withSampleRate (rate : UInt64) : SdrModemSettings → SdrModemSettings
  | .gfsk settings => .gfsk { settings with sampleRate := rate }
  | .psk modemType settings => .psk modemType { settings with sampleRate := rate }
  | .pskPm settings => .pskPm { settings with sampleRate := rate }

/-- `baseband_sample_rate`, as `sdr_modem_halfband_decim_create` sets it. -/
def basebandSampleRate (a : FloatArith) (sampleRate : UInt64) (bandwidth : UInt32) : UInt64 :=
  let halfbandStages := estimateHalfbandStages a sampleRate bandwidth
  if halfbandStages = 0 then sampleRate else sampleRate >>> UInt64.ofNat halfbandStages

/-- The settings `decimated`, which the modem behind is created from for both directions. -/
def SdrModemSettings.decimated (a : FloatArith) (bandwidth : UInt32) (settings : SdrModemSettings) :
    SdrModemSettings :=
  settings.withSampleRate (basebandSampleRate a settings.sampleRate bandwidth)

/-- `sdr_modem_halfband_cutoff`. -/
def sdrModemHalfbandCutoff (a : FloatArith) (bandwidth : UInt32) (decimatedSampleRate : UInt64) :
    Option ℚ := do
  let half ← a.round (a.ofNat bandwidth.toNat / 2)
  let cutoff ← a.round (half / a.ofNat decimatedSampleRate.toNat)
  if cutoff < 5 / 100 then some (5 / 100) else if cutoff > 45 / 100 then some (45 / 100)
  else some cutoff

/-! ## The PSK modem -/

/-- `BPSK_MODEM_TARGET_SPS`. -/
def bpskModemTargetSps : UInt32 := 15

/-- What `bpsk_modem_create` decides about rates: the rates of the two resamplers are there if
it creates them. -/
structure BpskRatePlan where
  samplesPerSymbol : UInt32
  internalSampleRate : UInt64
  resamplerRx : Option ℚ
  resamplerTx : Option ℚ

/-- The rates of `bpsk_modem_create`; `none` is `-EINVAL`. -/
def bpskRatePlan (sampleRate : UInt64) (baudRate : UInt32) : Option BpskRatePlan :=
  if baudRate = 0 then none
  else
    let inputSps : UInt32 := (sampleRate / baudRate.toUInt64).toUInt32
    let (needsResampling, sps) :=
      if inputSps > bpskModemTargetSps then (true, bpskModemTargetSps)
      else if sampleRate % baudRate.toUInt64 ≠ 0 then (true, inputSps)
      else (false, inputSps)
    if sps < 2 then none
    else
      let internalSampleRate := sps.toUInt64 * baudRate.toUInt64
      let rate (x y : UInt64) : Option ℚ :=
        if needsResampling then some ((x.toNat : ℚ) / (y.toNat : ℚ)) else none
      some ⟨sps, internalSampleRate, rate internalSampleRate sampleRate,
        rate sampleRate internalSampleRate⟩

/-- Which objects `liquid-dsp` creates, by their arguments. -/
structure Liquid where
  msresamp2 : Nat → ℚ → Bool
  msresamp : ℚ → Bool
  firfiltKaiser : ℚ → Bool
  symsyncRnyquist : Nat → Nat → Option ℚ → Nat → Bool
  firinterpPrototype : Nat → Nat → Option ℚ → Bool
  msresamp2_iff : ∀ numStages fc, msresamp2 numStages fc = true ↔
    numStages ≤ 16 ∧ 0 < fc ∧ fc < 1 / 2
  msresamp_iff : ∀ rate, msresamp rate = true ↔ 0 < rate
  firfiltKaiser_iff : ∀ fc, firfiltKaiser fc = true ↔ 0 < fc ∧ fc < 1 / 2
  symsyncRnyquist_iff : ∀ k m beta numFilters,
    symsyncRnyquist k m (some beta) numFilters = true ↔
      2 ≤ k ∧ 0 < m ∧ (0 ≤ beta ∧ beta ≤ 1) ∧ 0 < numFilters
  firinterpPrototype_iff : ∀ k m beta, firinterpPrototype k m (some beta) = true ↔
    2 ≤ k ∧ 0 < m ∧ (0 ≤ beta ∧ beta ≤ 1)

/-- `bpsk_modem_create`: whether it returns 0. -/
def bpskModemCreate (liquid : Liquid) (a : FloatArith) (settings : BpskModemSettings) : Bool :=
  match bpskRatePlan settings.sampleRate settings.baudRate with
  | none => false
  | some plan =>
    let sps := plan.samplesPerSymbol.toNat
    let beta := Ieee754.binary32.finite settings.rrcBeta.toNat
    let lowpass :=
      settings.bandwidth = 0 ||
        (a.round (a.ofNat settings.bandwidth.toNat / a.ofNat plan.internalSampleRate.toNat)).any
          fun fc => !(fc ≤ 0 || fc ≥ 1 / 2) && liquid.firfiltKaiser fc
    plan.resamplerRx.all liquid.msresamp && lowpass &&
      liquid.symsyncRnyquist sps settings.rrcDelay.toNat beta
        settings.symsyncFilterBankSize.toNat &&
      liquid.firinterpPrototype sps settings.rrcDelay.toNat beta &&
      plan.resamplerTx.all liquid.msresamp

/-! ## The modem of the workers -/

/-- `sdr_modem_create`: whether it returns 0.  The modems behind it are created by
`wrappedCreate` from the settings with their own rate; `none` is undefined behaviour. -/
def sdrModemCreate (liquid : Liquid) (a : FloatArith) (wrappedCreate : SdrModemSettings → Bool)
    (settings : SdrModemSettings) : Option Bool := do
  let bandwidth ← sdrModemGetBandwidth a settings
  let sampleRate := settings.sampleRate
  let halfbandStages := estimateHalfbandStages a sampleRate bandwidth
  let rate := basebandSampleRate a sampleRate bandwidth
  let halfband := halfbandStages = 0 ||
    (sdrModemHalfbandCutoff a bandwidth rate).any (liquid.msresamp2 halfbandStages)
  -- the decimator, the modem, and the interpolator that mirrors the decimator
  some (halfband && wrappedCreate (settings.decimated a bandwidth) && halfband)

end SdrModem
