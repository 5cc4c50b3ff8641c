import SdrModem.Cli
import SdrModem.ModulatorChunks

/-!
# Transmitting a file

The frames that `input_file` is read in are the chunks of one transmission.  However the run
goes, the device has been given the beginning of the samples of the bytes that were read; and
all of them, with the tail, if the run returns 0, which it also does after a signal.
-/
namespace SdrModem
open Mealy

namespace SdrModemTx

/-- **The samples of a transmission**: what the chain without its buffers makes of the bytes, and
the flush behind them. -/
def transmission (config : SdrModemConfig) (bytes : List UInt8) : List Sample :=
  ((create config 0).feed (inputBits bytes)).2 ++
    ((create config 0).feed (inputBits bytes)).1.drain

/-- One more chunk. -/
theorem modulateChunks_concat (m : SdrModemTx) (input : List (List UInt8)) (chunk : List UInt8) :
    m.modulateChunks (input ++ [chunk]) =
      (((m.modulateChunks input).1.modulate chunk).1,
        (m.modulateChunks input).2 ++ ((m.modulateChunks input).1.modulate chunk).2.getD []) := by
  induction input generalizing m with
  | nil =>
    dsimp only [modulateChunks, List.nil_append, chunks]
    rw [List.append_nil]
  | cons first input ih =>
    have hrest := ih (m.modulate first).1
    dsimp only [modulateChunks] at hrest ⊢
    rw [List.cons_append, chunks, chunks, hrest]
    dsimp only
    rw [List.append_assoc]

variable {config : SdrModemConfig} {bufferSize : UInt32} {input : List (List UInt8)}

theorem transmit_eq_transmission (hsound : Sound config bufferSize input) :
    ((create config bufferSize).transmit input).2 = transmission config input.flatten := by
  obtain ⟨hdata, htail⟩ := feed_create_buffer config bufferSize 0 (inputBits input.flatten)
  rw [transmit_eq_feed hsound, transmission, hdata, htail]

/-- Without the flush it is the beginning. -/
theorem modulateChunks_prefix (hsound : Sound config bufferSize input) :
    ((create config bufferSize).modulateChunks input).2 <+: transmission config input.flatten := by
  rw [← transmit_eq_transmission hsound]
  exact List.prefix_append _ _

end SdrModemTx

namespace Cli

/-- **Nothing stops a run**: no signal comes, and `fread` can read something. -/
def Uninterrupted (maxFrameSize : UInt32) (turns : List TransmitTurn) : Prop :=
  ∀ turn ∈ turns, turn.doExit = false ∧ 0 < min turn.available maxFrameSize.toNat

section Run
variable {nco : MixNco} {D : Type} {config : SdrModemConfig} {maxFrameSize : UInt32}
variable {file : List UInt8} {sdrProcessTx : D → List Sample → Option (Int × D)}

/-- **The run is within the transmission**: the modem and the device have got what was read, in
frames. -/
structure Transmitter.Follows (config : SdrModemConfig) (maxFrameSize : UInt32) (file : List UInt8)
    (t : Transmitter nco D) : Prop where
  offset : t.modem.freqOffset = none
  modem : t.modem.modem = ((SdrModemTx.create config maxFrameSize).modulateChunks t.taken).1
  handed : t.handed.flatten = ((SdrModemTx.create config maxFrameSize).modulateChunks t.taken).2
  file : t.taken.flatten ++ t.inputFile = file
  short : ∀ chunk ∈ t.taken, chunk.length ≤ maxFrameSize.toNat

theorem follows_create (codec : SampleCodec) (config : SdrModemConfig) (maxFrameSize : UInt32)
    (device : D) (file : List UInt8) :
    (Transmitter.create (⟨codec, none, .create config maxFrameSize⟩ : ModemTx nco) device
      file).Follows config maxFrameSize file :=
  ⟨rfl, rfl, rfl, rfl, nofun⟩

/-- The state behind a turn in which a frame was read. -/
def Transmitter.next (t : Transmitter nco D) (frame : List UInt8) (device : D) :
    Transmitter nco D where
  device := device
  modem := { t.modem with modem := (t.modem.modem.modulate frame).1 }
  inputFile := t.inputFile.drop frame.length
  taken := t.taken ++ [frame]
  handed := t.handed ++ [(t.modem.modem.modulate frame).2.getD []]

/-- **One turn.** -/
theorem Transmitter.Follows.next {t : Transmitter nco D} (h : t.Follows config maxFrameSize file)
    {frame : List UInt8} (hframe : frame <+: t.inputFile) (hshort : frame.length ≤ maxFrameSize.toNat)
    (device : D) : (t.next frame device).Follows config maxFrameSize file := by
  have hchunks := SdrModemTx.modulateChunks_concat (.create config maxFrameSize) t.taken frame
  rw [← h.modem, ← h.handed] at hchunks
  constructor
  · exact h.offset
  · exact (congrArg Prod.fst hchunks).symm
  · rw [Transmitter.next, hchunks, List.flatten_append, List.flatten_singleton]
  · obtain ⟨rest, hrest⟩ := hframe
    rw [← h.file, Transmitter.next, List.flatten_append, List.flatten_singleton, ← hrest,
      List.drop_left, List.append_assoc]
  · intro chunk hchunk
    rcases List.mem_append.mp hchunk with hold | hnew
    · exact h.short chunk hold
    · rw [List.mem_singleton.mp hnew]
      exact hshort

theorem Transmitter.Follows.sound {t : Transmitter nco D} (h : t.Follows config maxFrameSize file)
    (hsmall : config.Small maxFrameSize) : SdrModemTx.Sound config maxFrameSize t.taken :=
  SdrModemTx.Sound.of_small hsmall h.short

/-- **A device that returns from its calls**, whatever it was given before. -/
def Serves (sdrProcessTx : D → List Sample → Option (Int × D)) (I : List (List Sample) → D → Prop) :
    Prop :=
  ∀ handed device samples, I handed device →
    ∃ code device', sdrProcessTx device samples = some (code, device') ∧
      I (handed ++ [samples]) device'

/-- One of its calls fails. -/
def Refuses (sdrProcessTx : D → List Sample → Option (Int × D))
    (I : List (List Sample) → D → Prop) : Prop :=
  ∃ handed device samples code device', I handed device ∧
    sdrProcessTx device samples = some (code, device') ∧ code ≠ 0

variable {I : List (List Sample) → D → Prop}

/-- **The loop ends**, at the latest with the file. -/
theorem transmitLoop_follows (hserves : Serves sdrProcessTx I) {turns : List TransmitTurn}
    {t : Transmitter nco D} (hturns : t.inputFile.length < turns.length)
    (ht : t.Follows config maxFrameSize file) (hdevice : I t.handed t.device) :
    ∃ ended, transmitLoop sdrProcessTx maxFrameSize turns t = some ended ∧
      ended.state.Follows config maxFrameSize file ∧ I ended.state.handed ended.state.device ∧
      (ended.returned = none ∨ ended.returned = some (-1) ∧ Refuses sdrProcessTx I) ∧
      (Uninterrupted maxFrameSize turns → ended.returned = none →
        ended.state.inputFile = []) := by
  induction turns generalizing t with
  | nil => cases hturns
  | cons turn turns ih =>
    by_cases hexit : turn.doExit = true
    · refine ⟨⟨none, t⟩, if_pos hexit, ht, hdevice, Or.inl rfl, fun h => ?_⟩
      exact absurd hexit (by rw [(h turn List.mem_cons_self).1]; exact Bool.false_ne_true)
    rw [transmitLoop, if_neg hexit]
    obtain ⟨frame, hframe⟩ : ∃ frame,
        t.inputFile.take (min turn.available maxFrameSize.toNat) = frame := ⟨_, rfl⟩
    rw [hframe]
    dsimp only
    have hlength : frame.length =
        min (min turn.available maxFrameSize.toNat) t.inputFile.length := by
      rw [← hframe, List.length_take]
    by_cases hnone : frame.length = 0
    · rw [if_pos hnone]
      refine ⟨⟨none, t⟩, rfl, ht, hdevice, Or.inl rfl, fun h _ => ?_⟩
      have hread := (h turn List.mem_cons_self).2
      exact List.length_eq_zero_iff.mp (by dsimp only; omega)
    · rw [if_neg hnone]
      obtain ⟨code, device', hcall, hdevice'⟩ :=
        hserves t.handed t.device ((t.modem.modem.modulate frame).2.getD []) hdevice
      have hnext := ht.next (hframe ▸ List.take_prefix _ _) (by omega) device'
      rw [ModemTx.modulate, ModemTx.txPostprocess_none ht.offset, Option.bind_some]
      dsimp only
      rw [Transmitter.handOver, hcall, Option.map_some, Option.bind_some]
      dsimp only
      by_cases hcode : code = 0
      · rw [if_neg (not_not.mpr hcode)]
        have hshorter : (t.next frame device').inputFile.length < turns.length := by
          rw [Transmitter.next, List.length_drop]
          rw [List.length_cons] at hturns
          omega
        obtain ⟨ended, hended, hfollows, hI, hreturned, hall⟩ := ih hshorter hnext hdevice'
        refine ⟨ended, hended, hfollows, hI, hreturned, fun h => hall fun turn' hturn' => ?_⟩
        exact h turn' (List.mem_cons_of_mem _ hturn')
      · rw [if_pos hcode]
        refine ⟨_, rfl, hnext, hdevice', Or.inr ⟨rfl, ?_⟩, fun _ h => by cases h⟩
        exact ⟨t.handed, t.device, _, code, device', hdevice, hcall, hcode⟩

/-- **A whole run.** -/
structure Transmits (config : SdrModemConfig) (file : List UInt8) (turns : List TransmitTurn)
    (maxFrameSize : UInt32) (code : Int) (t : Transmitter nco D) : Prop where
  taken : t.taken.flatten <+: file
  result : code = 0 ∨ code = -1
  complete : code = 0 → t.handed.flatten = SdrModemTx.transmission config t.taken.flatten
  cut : t.handed.flatten <+: SdrModemTx.transmission config t.taken.flatten
  all : Uninterrupted maxFrameSize turns → code = 0 → t.taken.flatten = file

theorem transmit_transmits (nco : MixNco) (codec : SampleCodec)
    (hserves : Serves sdrProcessTx I) (hsmall : config.Small maxFrameSize)
    (sdrFlushTx : Option (D → D)) {turns : List TransmitTurn} (hturns : file.length < turns.length)
    {device : D} (hdevice : I [] device) :
    ∃ code t, transmit sdrProcessTx sdrFlushTx maxFrameSize turns
        (.create (⟨codec, none, .create config maxFrameSize⟩ : ModemTx nco) device file) =
          some (code, t) ∧
      Transmits config file turns maxFrameSize code t ∧
      (code = 0 ∨ Refuses sdrProcessTx I) ∧
      (sdrFlushTx = none → I t.handed t.device) := by
  obtain ⟨⟨returned, t⟩, hloop, hfollows, hI, hreturned, hall⟩ :=
    transmitLoop_follows hserves hturns
      (@follows_create nco D codec config maxFrameSize device file) hdevice
  dsimp only at hfollows hI hreturned hall
  have htaken : t.taken.flatten <+: file := ⟨_, hfollows.file⟩
  have hcut : t.handed.flatten <+: SdrModemTx.transmission config t.taken.flatten := by
    rw [hfollows.handed]
    exact SdrModemTx.modulateChunks_prefix (hfollows.sound hsmall)
  have hwhole := SdrModemTx.transmit_eq_transmission (hfollows.sound hsmall)
  rw [SdrModemTx.transmit] at hwhole
  dsimp only at hwhole
  rw [← hfollows.handed, ← hfollows.modem] at hwhole
  have hfile : t.inputFile = [] → t.taken.flatten = file := by
    intro hnil
    rw [← hfollows.file, hnil, List.append_nil]
  have hfails : (-1 : Int) ≠ 0 := by decide
  rw [transmit, hloop, Option.bind_some]
  rcases hreturned with rfl | ⟨rfl, hrefuses⟩
  · dsimp only
    rw [ModemTx.modulateFlush, ModemTx.txPostprocess_none hfollows.offset, Option.bind_some]
    dsimp only
    have hall := fun h => hfile (hall h rfl)
    cases htail : t.modem.modem.modulateFlush.2 with
    | none =>
      rw [htail, Option.getD_none, List.append_nil] at hwhole
      refine ⟨_, _, rfl, ⟨htaken, Or.inl rfl, fun _ => hwhole, hcut, fun h _ => hall h⟩,
        Or.inl rfl, fun hnone => ?_⟩
      rw [hnone]
      exact hI
    | some tail =>
      rw [htail, Option.getD_some] at hwhole
      obtain ⟨code, device', hcall, hI'⟩ := hserves t.handed t.device tail hI
      have hhanded : (t.handed ++ [tail]).flatten =
          SdrModemTx.transmission config t.taken.flatten := by
        rw [List.flatten_append, List.flatten_singleton]
        exact hwhole
      dsimp only
      rw [Transmitter.handOver, hcall, Option.map_some, Option.map_some]
      dsimp only
      by_cases hcode : code = 0
      · rw [if_neg (not_not.mpr hcode)]
        refine ⟨_, _, rfl, ⟨htaken, Or.inl rfl, fun _ => hhanded, ?_, fun h _ => hall h⟩,
          Or.inl rfl, fun hnone => ?_⟩
        · exact hhanded ▸ List.prefix_refl _
        · rw [hnone]
          exact hI'
      · rw [if_pos hcode]
        refine ⟨_, _, rfl,
          ⟨htaken, Or.inr rfl, fun h => absurd h hfails, ?_, fun _ h => absurd h hfails⟩,
          Or.inr ⟨t.handed, t.device, tail, code, device', hI, hcall, hcode⟩, fun _ => hI'⟩
        exact hhanded ▸ List.prefix_refl _
  · exact ⟨_, _, rfl,
      ⟨htaken, Or.inr rfl, fun h => absurd h hfails, hcut, fun _ h => absurd h hfails⟩,
      Or.inr hrefuses, fun _ => hI⟩

end Run

/-- **The command line mode transmits the file as one transmission**, whatever `max_frame_size` is
and however `fread` cuts the file.  The run ends.  If it returns 0, the device has been given all
samples of the bytes that were read, which are the whole file unless a signal or `fread` stopped
the run before; if not, a call of the device has failed, and it has been given the beginning.
There is no file with frequency offsets, and the buffers of the modem have lengths of 32 bits. -/
theorem cli_transmits_file {nco : MixNco} {D : Type} {codec : SampleCodec}
    {config : SdrModemConfig} {sampleRate : UInt64} {maxFrameSize : UInt32} {n : Nat}
    {modem : ModemTx nco}
    (hmodem : ModemTx.create nco codec config sampleRate none n maxFrameSize = some modem)
    (hsmall : config.Small maxFrameSize) {sdrProcessTx : D → List Sample → Option (Int × D)}
    (hreturns : ∀ device samples, (sdrProcessTx device samples).isSome = true)
    (sdrFlushTx : Option (D → D)) (device : D) (file : List UInt8) {turns : List TransmitTurn}
    (hturns : file.length < turns.length) :
    ∃ code t, transmit sdrProcessTx sdrFlushTx maxFrameSize turns
        (.create modem device file) = some (code, t) ∧
      Transmits config file turns maxFrameSize code t ∧
      (code = 0 ∨
        ∃ device samples result, sdrProcessTx device samples = some result ∧ result.1 ≠ 0) := by
  have hserves : Serves sdrProcessTx fun _ _ => True := by
    intro _ device samples _
    obtain ⟨⟨code, device'⟩, hcall⟩ := Option.isSome_iff_exists.mp (hreturns device samples)
    exact ⟨code, device', hcall, trivial⟩
  have hdevice : (fun _ _ => True : List (List Sample) → D → Prop) [] device := trivial
  cases hmodem
  obtain ⟨code, t, hrun, htransmits, hcode, -⟩ :=
    transmit_transmits nco codec hserves hsmall sdrFlushTx hturns hdevice
  refine ⟨code, t, hrun, htransmits, hcode.imp_right ?_⟩
  rintro ⟨-, device, samples, code, device', -, hcall, hne⟩
  exact ⟨device, samples, (code, device'), hcall, hne⟩

/-- The samples are not looked at. -/
def blankCodec : SampleCodec := ⟨fun _ => ⟨0, 0⟩, fun _ => 0⟩

/-- Three bytes in frames of two, to a device that fails on its second call. -/
theorem cli_transmits_three_bytes :
    ∃ modem, ModemTx.create FreqOffset.stillNco blankCodec (gfskConfig none) 9600 none 0 2 =
        some modem ∧
      ∃ code t, transmit (fun calls _ => some (if calls = 1 then -5 else 0, calls + 1)) none 2
        (List.replicate 4 ⟨false, 100⟩) (.create modem 0 [1, 2, 3]) = some (code, t) ∧
      Transmits (gfskConfig none) [1, 2, 3] (List.replicate 4 ⟨false, 100⟩) 2 code t := by
  obtain ⟨modem, hmodem⟩ : ∃ modem, ModemTx.create FreqOffset.stillNco blankCodec
      (gfskConfig none) 9600 none 0 2 = some modem := ⟨_, rfl⟩
  have hsmall : (gfskConfig none).Small 2 := ⟨by decide, by decide, nofun⟩
  have hreturns : ∀ (calls : Nat) (_ : List Sample),
      (some ((if calls = 1 then -5 else 0 : Int), calls + 1)).isSome = true := fun _ _ => rfl
  have hturns : [1, 2, 3].length < (List.replicate 4 (⟨false, 100⟩ : TransmitTurn)).length := by
    decide
  obtain ⟨code, t, hrun, htransmits, -⟩ :=
    cli_transmits_file hmodem hsmall hreturns none 0 [1, 2, 3] hturns
  exact ⟨modem, hmodem, code, t, hrun, htransmits⟩

end Cli
end SdrModem
