import SdrModem.DemodulatorStream
import SdrModem.Memcpy

/-!
# The buffers of the half-band decimator

`halfband_decim.c` once more, with the memory that it writes to.  The remainder of a call is
moved to the front of the working buffer and the next call is copied behind it.  Every access
is checked here, and `none` is one that leaves its buffer; there is none
(`halfband_decim_accounts`).
-/
namespace SdrModem
open Mealy Memcpy

variable {α : Type}

/-- `struct halfband_decim_t`, with the contents of its buffers. -/
structure HalfbandBuffer (α : Type) where
  resampler : Object (List α) α
  decimation : UInt32
  workingBuffer : List α
  historyOffset : Nat
  maxInputBufferLength : Nat
  output : List α
  outputLen : Nat

namespace HalfbandBuffer

/-- `halfband_decim_create`.  The working buffer is cleared, and whatever was there stays in
the other one. -/
def create [Zero α] (config : HalfbandDecimConfig α) (maxInputBufferLength : UInt32)
    (garbage : α) : HalfbandBuffer α :=
  let decimation : UInt32 := 1 <<< UInt32.ofNat config.numStages
  let outputLen := (maxInputBufferLength / decimation + 1).toNat
  { resampler := .create config.msresamp2
    decimation := decimation
    workingBuffer := List.replicate (maxInputBufferLength + decimation).toNat 0
    historyOffset := 0
    maxInputBufferLength := maxInputBufferLength.toNat
    output := List.replicate outputLen garbage
    outputLen := outputLen }

/-- The loop of `halfband_decim_process` from block `i` on. -/
def executeBlocks (decimation : Nat) (workingBuffer : List α) :
    Nat → Nat → Object (List α) α → List α → Option (Object (List α) α × List α)
  | 0, _, resampler, output => some (resampler, output)
  | left + 1, i, resampler, output =>
    (readAt workingBuffer (i * decimation) decimation).bind fun block =>
      let (resampler, sample) := resampler.process [block]
      (memcpyAt output i sample).bind fun output =>
        executeBlocks decimation workingBuffer left (i + 1) resampler output

/-- `halfband_decim_process`. -/
def process (f : HalfbandBuffer α) (input : List α) :
    Option (HalfbandBuffer α × Option (List α)) :=
  if input.length > f.maxInputBufferLength then some (f, none)
  else
    (memcpyAt f.workingBuffer f.historyOffset input).bind fun workingBuffer =>
      let workingLen := f.historyOffset + input.length
      let numBlocks := workingLen / f.decimation.toNat
      let numBlocks := if numBlocks > f.outputLen then f.outputLen else numBlocks
      (executeBlocks f.decimation.toNat workingBuffer numBlocks 0 f.resampler f.output).bind
        fun (resampler, output) =>
          let consumed := numBlocks * f.decimation.toNat
          let historyOffset := workingLen - consumed
          let moved :=
            if consumed > 0 then memmove workingBuffer 0 consumed historyOffset
            else some workingBuffer
          moved.bind fun workingBuffer =>
            (readAt output 0 numBlocks).map fun result =>
              ({ f with
                  resampler := resampler
                  workingBuffer := workingBuffer
                  historyOffset := historyOffset
                  output := output },
                some result)

/-- One call after the other. -/
def calls (f : HalfbandBuffer α) :
    List (List α) → Option (HalfbandBuffer α × List (Option (List α)))
  | [] => some (f, [])
  | input :: inputs =>
    (f.process input).bind fun (f, output) =>
      (f.calls inputs).map fun (f, outputs) => (f, output :: outputs)

/-! ## Blocks -/

/-- What is behind the last block does not matter. -/
theorem blocks_append (decimation : Nat) {numBlocks : Nat} {samples : List α}
    (h : numBlocks * decimation ≤ samples.length) (more : List α) :
    HalfbandDecim.blocks decimation numBlocks (samples ++ more) =
      HalfbandDecim.blocks decimation numBlocks samples := by
  induction numBlocks generalizing samples with
  | zero => rfl
  | succ numBlocks ih =>
    rw [Nat.succ_mul] at h
    have hrest : numBlocks * decimation ≤ (samples.drop decimation).length := by
      rw [List.length_drop]
      omega
    rw [HalfbandDecim.blocks, HalfbandDecim.blocks, List.take_append_of_le_length (by omega),
      List.drop_append_of_le_length (by omega), ih hrest]

/-- **The loop stays in its buffers**, and hands over one block after the other. -/
theorem executeBlocks_eq (decimation : Nat) (workingBuffer : List α) (left i : Nat)
    (resampler : Object (List α) α) (output : List α)
    (hworking : (i + left) * decimation ≤ workingBuffer.length)
    (houtput : i + left ≤ output.length) :
    executeBlocks decimation workingBuffer left i resampler output =
      let result := resampler.process
        (HalfbandDecim.blocks decimation left (workingBuffer.drop (i * decimation)))
      some (result.1, overwrite output i result.2) := by
  induction left generalizing i resampler output with
  | zero =>
    change some (resampler, output) = some (resampler, overwrite output i [])
    rw [overwrite_nil]
  | succ left ih =>
    have hblock : i * decimation + decimation ≤ workingBuffer.length := by
      rw [← Nat.succ_mul]
      exact (Nat.mul_le_mul_right _ (by omega)).trans hworking
    obtain ⟨block, hblock_eq⟩ : ∃ block, (workingBuffer.drop (i * decimation)).take decimation =
        block := ⟨_, rfl⟩
    have hsample : (resampler.process [block]).2.length = 1 := Object.length_process _ _
    have hwrite : i + (resampler.process [block]).2.length ≤ output.length := by omega
    have hrest := ih (i + 1) (resampler.process [block]).1
      (overwrite output i (resampler.process [block]).2)
      (by rwa [Nat.add_right_comm, Nat.add_assoc])
      (by rw [length_overwrite hwrite]; omega)
    have hjoin := overwrite_overwrite hwrite
    rw [hsample] at hjoin
    rw [executeBlocks, readAt, if_pos hblock, Option.bind_some, hblock_eq]
    change (memcpyAt output i (resampler.process [block]).2).bind _ = _
    rw [memcpyAt_eq hwrite, Option.bind_some]
    refine Eq.trans hrest ?_
    dsimp only
    have hblocks := Object.process_append resampler [block]
      (HalfbandDecim.blocks decimation left (workingBuffer.drop ((i + 1) * decimation)))
    rw [List.singleton_append] at hblocks
    rw [hjoin, HalfbandDecim.blocks, hblock_eq, List.drop_drop, ← Nat.succ_mul, hblocks]

/-! ## The invariant -/

/-- The buffers are as long as they were made, and less than a block waits in the first. -/
structure Fits (numStages maxInputBufferLength : Nat) (f : HalfbandBuffer α) : Prop where
  decimation_eq : f.decimation.toNat = 2 ^ numStages
  max_eq : f.maxInputBufferLength = maxInputBufferLength
  working_length : f.workingBuffer.length = maxInputBufferLength + 2 ^ numStages
  outputLen_eq : f.outputLen = maxInputBufferLength / 2 ^ numStages + 1
  output_length : f.output.length = f.outputLen
  offset_lt : f.historyOffset < 2 ^ numStages

/-- The samples that wait for the rest of their block. -/
def pending (f : HalfbandBuffer α) : List α := f.workingBuffer.take f.historyOffset

variable {numStages maxInputBufferLength : Nat} {f : HalfbandBuffer α}

theorem Fits.length_pending (h : Fits numStages maxInputBufferLength f) :
    f.pending.length = f.historyOffset := by
  have := h.working_length
  have := h.offset_lt
  rw [pending, List.length_take]
  omega

theorem fits_create [Zero α] (config : HalfbandDecimConfig α) {maxInputBufferLength : UInt32}
    (h : maxInputBufferLength.toNat + 2 ^ config.numStages < 2 ^ 32) (garbage : α) :
    Fits config.numStages maxInputBufferLength.toNat
      (create config maxInputBufferLength garbage) := by
  have hstages : config.numStages < 32 :=
    (Nat.pow_lt_pow_iff_right Nat.one_lt_two).mp (by omega)
  have hshift : ∀ n < 32, (1 <<< UInt32.ofNat n : UInt32).toNat = 2 ^ n := by decide
  have hdecimation := hshift _ hstages
  have hpos := Nat.two_pow_pos config.numStages
  have hdiv := Nat.div_le_self maxInputBufferLength.toNat (2 ^ config.numStages)
  constructor
  · exact hdecimation
  · rfl
  · change (List.replicate _ _).length = _
    rw [List.length_replicate, UInt32.toNat_add, hdecimation, Nat.mod_eq_of_lt h]
  · change (maxInputBufferLength / (1 <<< UInt32.ofNat config.numStages) + 1).toNat = _
    rw [UInt32.toNat_add, UInt32.toNat_div, hdecimation]
    exact Nat.mod_eq_of_lt (by change _ / _ + 1 < _; omega)
  · exact List.length_replicate
  · exact hpos

/-- **There is room for every block.** -/
theorem Fits.clamp_inactive (h : Fits numStages maxInputBufferLength f) {inputLen : Nat}
    (hinput : inputLen ≤ maxInputBufferLength) :
    (f.historyOffset + inputLen) / f.decimation.toNat ≤ f.outputLen := by
  have := h.offset_lt
  rw [h.decimation_eq, h.outputLen_eq, ← Nat.add_div_right _ (Nat.two_pow_pos numStages)]
  exact Nat.div_le_div_right (by omega)

theorem process_rejected {input : List α} (h : f.maxInputBufferLength < input.length) :
    f.process input = some (f, none) := if_pos h

/-- **A call** stays in its buffers, keeps the invariant, and does what the decimator without
buffers does to what waits and to the resampler. -/
theorem Fits.process_eq (h : Fits numStages maxInputBufferLength f) {input : List α}
    (hinput : input.length ≤ maxInputBufferLength) :
    ∃ f' result, f.process input = some (f', some result) ∧
      Fits numStages maxInputBufferLength f' ∧
      steps (HalfbandDecim.blockStep (2 ^ numStages)) (f.pending, f.resampler) input =
        ((f'.pending, f'.resampler), result) := by
  have hpos := Nat.two_pow_pos numStages
  have hoffset := h.offset_lt
  have hworking := h.working_length
  have hpending := h.length_pending
  -- the copy behind what waits
  have hcopy : f.historyOffset + input.length ≤ f.workingBuffer.length := by omega
  obtain ⟨working, hworking_eq⟩ : ∃ working,
      overwrite f.workingBuffer f.historyOffset input = working := ⟨_, rfl⟩
  have hlength : working.length = f.workingBuffer.length := by
    rw [← hworking_eq, length_overwrite hcopy]
  have hfront : working.take (f.historyOffset + input.length) = f.pending ++ input := by
    rw [← hworking_eq, take_overwrite hcopy, pending]
  obtain ⟨workingLen, hworkingLen⟩ : ∃ n, f.historyOffset + input.length = n := ⟨_, rfl⟩
  have hjoined : (f.pending ++ input).length = workingLen := by
    rw [List.length_append, hpending, hworkingLen]
  obtain ⟨numBlocks, hnumBlocks⟩ : ∃ n, workingLen / 2 ^ numStages = n := ⟨_, rfl⟩
  have hroom := h.clamp_inactive hinput
  rw [h.decimation_eq, hworkingLen, hnumBlocks] at hroom
  have hconsumed : numBlocks * 2 ^ numStages ≤ workingLen :=
    hnumBlocks ▸ Nat.div_mul_le_self _ _
  have hrest : workingLen - numBlocks * 2 ^ numStages = workingLen % 2 ^ numStages := by
    rw [← hnumBlocks, ← Nat.mod_eq_sub_div_mul]
  -- the blocks
  have hblocks : HalfbandDecim.blocks (2 ^ numStages) numBlocks working =
      HalfbandDecim.blocks (2 ^ numStages) numBlocks (f.pending ++ input) := by
    conv_lhs => rw [← List.take_append_drop workingLen working]
    rw [← hworkingLen, hfront, blocks_append _ (by rw [hjoined]; exact hconsumed)]
  obtain ⟨result, hresult⟩ : ∃ result, f.resampler.process
      (HalfbandDecim.blocks (2 ^ numStages) numBlocks (f.pending ++ input)) = result := ⟨_, rfl⟩
  have hresult_length : result.2.length = numBlocks := by
    rw [← hresult, Object.length_process, HalfbandDecim.length_blocks]
  have hexecute : executeBlocks (2 ^ numStages) working numBlocks 0 f.resampler f.output =
      some (result.1, overwrite f.output 0 result.2) := by
    have heq := executeBlocks_eq (2 ^ numStages) working numBlocks 0 f.resampler f.output
      (by rw [Nat.zero_add]; omega) (by rw [h.output_length]; omega)
    rw [Nat.zero_mul, List.drop_zero, hblocks, hresult] at heq
    exact heq
  -- what is left is moved to the front
  obtain ⟨moved, hmove, hmoved_length, hmoved⟩ : ∃ moved,
      (if numBlocks * 2 ^ numStages > 0 then memmove working 0 (numBlocks * 2 ^ numStages)
        (workingLen - numBlocks * 2 ^ numStages) else some working) = some moved ∧
      moved.length = working.length ∧
      moved.take (workingLen - numBlocks * 2 ^ numStages) =
        (f.pending ++ input).drop (numBlocks * 2 ^ numStages) := by
    rw [← hfront, hworkingLen, List.drop_take]
    by_cases hany : numBlocks * 2 ^ numStages > 0
    · rw [if_pos hany]
      exact memmove_front (by omega)
    · rw [if_neg hany, Nat.eq_zero_of_not_pos hany, List.drop_zero]
      exact ⟨working, rfl, rfl, rfl⟩
  have hwritten : 0 + result.2.length ≤ f.output.length := by
    rw [h.output_length]
    omega
  have hread : readAt (overwrite f.output 0 result.2) 0 numBlocks = some result.2 := by
    have htake := take_overwrite hwritten
    rw [Nat.zero_add, hresult_length, List.take_zero, List.nil_append] at htake
    rw [readAt, if_pos (by rw [length_overwrite hwritten]; omega), List.drop_zero, htake]
  refine ⟨{ f with
      resampler := result.1
      workingBuffer := moved
      historyOffset := workingLen - numBlocks * 2 ^ numStages
      output := overwrite f.output 0 result.2 }, result.2, ?_, ?_, ?_⟩
  · rw [process, if_neg (by rw [h.max_eq]; omega), memcpyAt_eq hcopy, hworking_eq,
      Option.bind_some, hworkingLen, h.decimation_eq]
    dsimp only
    rw [hnumBlocks, if_neg (by omega : ¬ numBlocks > f.outputLen), hexecute, Option.bind_some]
    dsimp only
    rw [hmove, Option.bind_some, hread, Option.map_some]
  · constructor
    · exact h.decimation_eq
    · exact h.max_eq
    · rw [hmoved_length, hlength, hworking]
    · exact h.outputLen_eq
    · rw [length_overwrite hwritten]
      exact h.output_length
    · rw [hrest]
      exact Nat.mod_lt _ hpos
  · rw [HalfbandDecim.steps_blockStep (by rw [hpending]; exact hoffset)]
    dsimp only
    rw [hjoined, hnumBlocks, hresult]
    change ((_, result.1), result.2) = ((moved.take _, result.1), result.2)
    rw [hmoved]

/-! ## Runs -/

/-- The samples of the calls that are not too long. -/
def acceptedStream (maxInputBufferLength : Nat) (inputs : List (List α)) : List α :=
  (inputs.filter fun input => input.length ≤ maxInputBufferLength).flatten

theorem calls_cons {f' f'' : HalfbandBuffer α} {input : List α} {inputs : List (List α)}
    {output : Option (List α)} {outputs : List (Option (List α))}
    (hcall : f.process input = some (f', output)) (hcalls : f'.calls inputs = some (f'', outputs)) :
    f.calls (input :: inputs) = some (f'', output :: outputs) := by
  rw [calls, hcall, Option.bind_some]
  dsimp only
  rw [hcalls, Option.map_some]

theorem Fits.calls_eq (h : Fits numStages maxInputBufferLength f) (inputs : List (List α)) :
    ∃ f' outputs, f.calls inputs = some (f', outputs) ∧ Fits numStages maxInputBufferLength f' ∧
      steps (HalfbandDecim.blockStep (2 ^ numStages)) (f.pending, f.resampler)
          (acceptedStream maxInputBufferLength inputs) =
        ((f'.pending, f'.resampler), (outputs.filterMap id).flatten) := by
  induction inputs generalizing f with
  | nil => exact ⟨f, [], rfl, h, rfl⟩
  | cons input inputs ih =>
    by_cases hinput : input.length ≤ maxInputBufferLength
    · obtain ⟨f', result, hcall, hfits, hsteps⟩ := h.process_eq hinput
      obtain ⟨f'', outputs, hcalls, hfits', hrest⟩ := ih hfits
      have hstream : acceptedStream maxInputBufferLength (input :: inputs) =
          input ++ acceptedStream maxInputBufferLength inputs := by
        simp [acceptedStream, hinput]
      refine ⟨f'', some result :: outputs, ?_, hfits', ?_⟩
      · exact calls_cons hcall hcalls
      · rw [hstream, (streaming_steps _).append, hsteps]
        dsimp only
        rw [hrest]
        rfl
    · have hlong : f.maxInputBufferLength < input.length := by rw [h.max_eq]; omega
      obtain ⟨f'', outputs, hcalls, hfits', hrest⟩ := ih h
      have hstream : acceptedStream maxInputBufferLength (input :: inputs) =
          acceptedStream maxInputBufferLength inputs := by
        simp [acceptedStream, hinput]
      refine ⟨f'', none :: outputs, ?_, hfits', ?_⟩
      · exact calls_cons (process_rejected hlong) hcalls
      · rw [hstream]
        exact hrest

/-- **Every sample is accounted for** by a decimator that was called with these inputs. -/
structure Accounts (config : HalfbandDecimConfig α) (maxInputBufferLength : Nat)
    (inputs : List (List α)) (f : HalfbandBuffer α) (outputs : List (Option (List α))) :
    Prop where
  offset_lt : f.historyOffset < 2 ^ config.numStages
  pending_eq : f.workingBuffer.take f.historyOffset =
    (acceptedStream maxInputBufferLength inputs).drop
      ((acceptedStream maxInputBufferLength inputs).length / 2 ^ config.numStages *
        2 ^ config.numStages)
  clamp : ∀ input : List α, input.length ≤ maxInputBufferLength →
    (f.historyOffset + input.length) / f.decimation.toNat ≤ f.outputLen
  rejected : ∀ input : List α, maxInputBufferLength < input.length →
    f.process input = some (f, none)
  fed : (f.resampler, (outputs.filterMap id).flatten) =
    (Object.create config.msresamp2).process
      (HalfbandDecim.blocks (2 ^ config.numStages)
        ((acceptedStream maxInputBufferLength inputs).length / 2 ^ config.numStages)
        (acceptedStream maxInputBufferLength inputs))

/-- **The decimator accounts for every sample**, and no access leaves a buffer. -/
theorem halfband_decim_accounts [Zero α] (config : HalfbandDecimConfig α)
    (maxInputBufferLength : UInt32)
    (h : maxInputBufferLength.toNat + 2 ^ config.numStages < 2 ^ 32) (garbage : α)
    (inputs : List (List α)) :
    ∃ f outputs, (create config maxInputBufferLength garbage).calls inputs = some (f, outputs) ∧
      Accounts config maxInputBufferLength.toNat inputs f outputs := by
  have hfits := fits_create config h garbage
  obtain ⟨f, outputs, hcalls, hfits', hsteps⟩ := hfits.calls_eq inputs
  have hpos := Nat.two_pow_pos config.numStages
  have hstart : (create config maxInputBufferLength garbage).pending = [] := List.take_zero
  rw [hstart, HalfbandDecim.steps_blockStep hpos, List.nil_append] at hsteps
  refine ⟨f, outputs, hcalls, hfits'.offset_lt, ?_, fun input => hfits'.clamp_inactive, ?_, ?_⟩
  · exact (congrArg (fun r => r.1.1) hsteps).symm
  · intro input hinput
    exact process_rejected (by rw [hfits'.max_eq]; exact hinput)
  · exact Prod.ext (congrArg (fun r => r.1.2) hsteps).symm (congrArg Prod.snd hsteps).symm

/-- Four stages with a filter that keeps the first sample of a block: calls with 3, 17 and 15
samples where 16 are the most.  One block is full, and two samples stay. -/
theorem halfband_decim_accounts_four :
    ∃ f outputs, (create (α := ℚ) ⟨4, ⟨Unit, (), fun s block => (s, block.headD 0)⟩⟩ 16 0).calls
        [[1, 2, 3], List.replicate 17 4, List.replicate 15 5] = some (f, outputs) ∧
      Accounts ⟨4, ⟨Unit, (), fun s block => (s, block.headD 0)⟩⟩ 16
        [[1, 2, 3], List.replicate 17 4, List.replicate 15 5] f outputs :=
  halfband_decim_accounts ⟨4, ⟨Unit, (), fun s block => (s, block.headD 0)⟩⟩ 16 (by decide) 0 _

end HalfbandBuffer
end SdrModem
