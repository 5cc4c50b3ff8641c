import Mathlib.Tactic.Linarith
import Mathlib.Tactic.FieldSimp
import SdrModem.FreqOffset

/-!
# The frequency offset is that of the time

In every sequence of calls, a chunk is mixed with the offset that the curve through the
entries has at the beginning of the chunk: the cursor, which only goes forward, is always in
the interval of the time (`OnTime`).

A chunk has at most as many samples as the smallest gap between two entries, but it begins
where the chunk before it has ended.  So whether an entry lies within a chunk is a matter of
where the calls begin: it does not, if it is a whole number of batches behind the beginning
of its call, and it does otherwise.
-/
namespace SdrModem
open Breakpoints

/-- The curve through the entries of a file. -/
def offsetCurve (entries : List OffsetEntry) (time : ℚ) : ℚ :=
  curve OffsetEntry.timestamp OffsetEntry.offsetHz entries time

/-- **The clock and the cursor** after some samples. -/
structure FreqOffset.OnTime {nco : MixNco} (entries : List OffsetEntry) (start : ℚ)
    (sampleRate : UInt64) (samples : Nat) (fo : FreqOffset nco) : Prop where
  entries_eq : fo.entries = entries
  rate_eq : fo.sampleRate = sampleRate
  batch_eq : fo.maxBatchSamples = freqOffsetMaxBatchSamples entries sampleRate
  time : fo.virtualTime = start + samples / sampleRate.toNat
  contains : Contains OffsetEntry.timestamp entries fo.currentIndex fo.virtualTime

/-- **Chunks of samples**, one after the other: each is mixed with the offset of its time, and
the cursor is in the interval of this time. -/
def OnCurve (entries : List OffsetEntry) (start : ℚ) (sampleRate : UInt64) :
    Nat → List MixedChunk → Prop
  | _, [] => True
  | samples, chunk :: chunks =>
    chunk.virtualTime = start + samples / sampleRate.toNat ∧
    chunk.offsetHz = offsetCurve entries chunk.virtualTime ∧
    Contains OffsetEntry.timestamp entries chunk.currentIndex chunk.virtualTime ∧
    OnCurve entries start sampleRate (samples + chunk.chunkLen) chunks

/-- **The chunks of a call**: batches of the same length, and what is left. -/
inductive Batched (batch : Nat) (sampleRate : UInt64) : ℚ → Nat → List MixedChunk → Prop
  | nil (time : ℚ) : Batched batch sampleRate time 0 []
  | cons {time : ℚ} {left : Nat} {chunk : MixedChunk} {chunks : List MixedChunk} (hleft : 0 < left)
      (htime : chunk.virtualTime = time) (hlength : chunk.chunkLen = min left batch)
      (hrest : Batched batch sampleRate (time + (min left batch : Nat) / sampleRate.toNat)
        (left - min left batch) chunks) :
      Batched batch sampleRate time left (chunk :: chunks)

/-- The samples of chunks. -/
def consumed (chunks : List MixedChunk) : Nat := (chunks.map MixedChunk.chunkLen).sum

theorem Batched.consumed_eq {batch : Nat} {sampleRate : UInt64} {time : ℚ} {left : Nat}
    {chunks : List MixedChunk} (h : Batched batch sampleRate time left chunks) :
    consumed chunks = left := by
  induction h with
  | nil => rfl
  | cons hleft _ hlength _ ih =>
    rw [consumed, List.map_cons, List.sum_cons, hlength]
    rw [consumed] at ih
    omega

theorem OnCurve.append {entries : List OffsetEntry} {start : ℚ} {sampleRate : UInt64}
    {samples : Nat} {chunks more : List MixedChunk}
    (h : OnCurve entries start sampleRate samples chunks)
    (hmore : OnCurve entries start sampleRate (samples + consumed chunks) more) :
    OnCurve entries start sampleRate samples (chunks ++ more) := by
  induction chunks generalizing samples with
  | nil => exact hmore
  | cons chunk chunks ih =>
    obtain ⟨htime, hoffset, hindex, hrest⟩ := h
    refine ⟨htime, hoffset, hindex, ih hrest ?_⟩
    rw [consumed, List.map_cons, List.sum_cons, ← Nat.add_assoc] at hmore
    exact hmore

/-! ## The cursor -/

/-- **Where the loop ends.** -/
theorem contains_freqOffsetSeek {entries : List OffsetEntry} {time : ℚ} {fuel index : Nat}
    (hlt : index < entries.length) (hfuel : entries.length ≤ index + fuel)
    (hfrom : 0 < index → ∀ a, entries[index]? = some a → a.timestamp ≤ time) :
    Contains OffsetEntry.timestamp entries (freqOffsetSeek entries time fuel index) time := by
  induction fuel generalizing index with
  | zero => omega
  | succ fuel ih =>
    unfold freqOffsetSeek
    cases hnext : entries[index + 1]? with
    | none => exact ⟨hlt, hfrom, fun b hb => absurd (hnext.symm.trans hb) nofun⟩
    | some next =>
      dsimp only
      split
      · rename_i hle
        have hbound := (List.getElem?_eq_some_iff.mp hnext).1
        refine ih hbound (by omega) fun _ a ha => ?_
        obtain rfl := Option.some.inj (hnext.symm.trans ha)
        exact hle
      · rename_i hgt
        refine ⟨hlt, hfrom, fun b hb => ?_⟩
        obtain rfl := Option.some.inj (hnext.symm.trans hb)
        exact not_le.mp hgt

namespace FreqOffset
variable {nco : MixNco} {fo : FreqOffset nco} {entries : List OffsetEntry} {start now : ℚ}
  {sampleRate : UInt64} {samples : Nat}

/-- **The interpolation** gives the curve, and its divisor is not 0. -/
theorem interpolate_eq (hinc : Increasing OffsetEntry.timestamp fo.entries)
    (h : Contains OffsetEntry.timestamp fo.entries fo.currentIndex fo.virtualTime) :
    fo.interpolate = some (offsetCurve fo.entries fo.virtualTime) := by
  have hlt := h.lt
  have hfirst := List.getElem?_eq_getElem (l := fo.entries) (i := 0) (by omega)
  unfold interpolate offsetCurve
  rw [hfirst, Option.bind_some]
  split
  · rename_i hle
    rw [curve_of_le hfirst hle]
  · rename_i hafter
    split
    · rename_i hend
      -- the cursor is at the last entry, which the time has reached
      have hindex : fo.currentIndex = fo.entries.length - 1 := by omega
      have hlast := List.getElem?_eq_getElem (l := fo.entries) (i := fo.entries.length - 1)
        (by omega)
      rw [hlast, Option.map_some, curve_of_last hinc hlast]
      rcases Nat.eq_zero_or_pos fo.currentIndex with hzero | hpos
      · have hsame : fo.entries.length - 1 = 0 := by omega
        simp only [hsame]
        exact (not_le.mp hafter).le
      · rw [hindex] at hpos
        exact h.from_le (by omega) _ (by rw [hindex]; exact hlast)
    · rename_i hmiddle
      have hfrom := List.getElem?_eq_getElem (l := fo.entries) (i := fo.currentIndex) hlt
      have hto := List.getElem?_eq_getElem (l := fo.entries) (i := fo.currentIndex + 1) (by omega)
      rw [hfrom, Option.bind_some, hto, Option.bind_some]
      generalize fo.entries[fo.currentIndex] = a at hfrom
      generalize fo.entries[fo.currentIndex + 1] = b at hto
      have hat : a.timestamp ≤ fo.virtualTime := by
        rcases Nat.eq_zero_or_pos fo.currentIndex with hzero | hpos
        · rw [hzero, hfirst] at hfrom
          obtain rfl := Option.some.inj hfrom
          exact (not_le.mp hafter).le
        · exact h.from_le hpos a hfrom
      have hne : b.timestamp - a.timestamp ≠ 0 :=
        (sub_pos.mpr (hat.trans_lt (h.lt_next b hto))).ne'
      rw [if_neg hne, h.curve_eq hinc hfrom hto hat]
      rfl

/-- **The clock goes on** with a chunk. -/
theorem OnTime.tick (h : fo.OnTime entries start sampleRate samples) (offsetHz : ℚ)
    (processed : Nat) (chunk : List Iq) (chunkLen : Nat) :
    ((fo.mix offsetHz processed chunk).tick chunkLen).OnTime entries start sampleRate
      (samples + chunkLen) := by
  have hlt := h.contains.lt
  have hrate : ((fo.mix offsetHz processed chunk).sampleRate) = sampleRate := h.rate_eq
  refine ⟨h.entries_eq, h.rate_eq, h.batch_eq, ?_, ?_⟩
  · change fo.virtualTime + chunkLen / (fo.mix offsetHz processed chunk).sampleRate.toNat = _
    rw [hrate, h.time]
    push_cast
    ring
  · change Contains OffsetEntry.timestamp entries (freqOffsetSeek fo.entries
      (fo.virtualTime + chunkLen / (fo.mix offsetHz processed chunk).sampleRate.toNat)
      fo.entries.length fo.currentIndex) _
    rw [h.entries_eq]
    refine contains_freqOffsetSeek hlt (by omega) fun hpos a ha => ?_
    have hnonneg : (0 : ℚ) ≤
        chunkLen / (fo.mix offsetHz processed chunk).sampleRate.toNat := by positivity
    exact (h.contains.from_le hpos a ha).trans (by linarith)

theorem freqOffsetMaxBatchSamples_pos (entries : List OffsetEntry) (sampleRate : UInt64) :
    0 < freqOffsetMaxBatchSamples entries sampleRate := by
  unfold freqOffsetMaxBatchSamples
  dsimp only
  split
  · split
    · exact Nat.one_pos
    · omega
  · norm_num

/-! ## Calls -/

theorem length_mixBlock (f : nco.State → Iq → nco.State × Iq) (state : nco.State)
    (xs : List Iq) : (MixNco.mixBlock f state xs).2.length = xs.length := by
  induction xs generalizing state with
  | nil => rfl
  | cons x xs ih =>
    rw [MixNco.mixBlock, List.length_cons, ih, List.length_cons]

/-- A chunk stays within the output. -/
theorem length_output_mix (fo : FreqOffset nco) (offsetHz : ℚ) (processed : Nat) (chunk : List Iq)
    (h : processed + chunk.length ≤ fo.output.length) :
    (fo.mix offsetHz processed chunk).output.length = fo.output.length := by
  unfold mix
  dsimp only
  generalize hmixed : MixNco.mixBlock _ _ _ = mixed
  have hlength : mixed.2.length ≤ chunk.length := by
    rw [← hmixed, length_mixBlock, List.length_take]
    exact Nat.min_le_right _ _
  rw [List.length_append, List.length_append, List.length_take, List.length_drop]
  omega

/-- **The loop of a call.** -/
theorem OnTime.loop (hinc : Increasing OffsetEntry.timestamp entries)
    (h : fo.OnTime entries start sampleRate samples) {fuel processed : Nat} {input : List Iq}
    (hfuel : input.length ≤ fuel) (hroom : processed + input.length ≤ fo.output.length) :
    ∃ last chunks, FreqOffset.loop fuel fo processed input = some (last, chunks) ∧
      last.OnTime entries start sampleRate (samples + input.length) ∧
      last.output.length = fo.output.length ∧
      OnCurve entries start sampleRate samples chunks ∧
      Batched (freqOffsetMaxBatchSamples entries sampleRate) sampleRate fo.virtualTime
        input.length chunks := by
  induction fuel generalizing fo samples processed input with
  | zero =>
    obtain rfl := List.length_eq_zero_iff.mp (Nat.le_zero.mp hfuel)
    exact ⟨fo, [], by rw [FreqOffset.loop], h, rfl, trivial, .nil _⟩
  | succ fuel ih =>
    match input with
    | [] => exact ⟨fo, [], by rw [FreqOffset.loop], h, rfl, trivial, .nil _⟩
    | x :: xs =>
      have hpos := freqOffsetMaxBatchSamples_pos entries sampleRate
      have hinterpolate : fo.interpolate = some (offsetCurve entries fo.virtualTime) := by
        rw [← h.entries_eq]
        exact interpolate_eq (by rw [h.entries_eq]; exact hinc)
          (by rw [h.entries_eq]; exact h.contains)
      rw [FreqOffset.loop]
      dsimp only
      rw [hinterpolate, Option.bind_some, h.batch_eq]
      generalize hlen : min (x :: xs).length (freqOffsetMaxBatchSamples entries sampleRate) =
        chunkLen
      generalize hchunk : (x :: xs).take chunkLen = chunk
      have hlength : chunk.length = chunkLen := by
        rw [← hchunk, List.length_take]
        omega
      have hlive : 0 < chunkLen := by
        rw [← hlen]
        exact Nat.lt_min.mpr ⟨by simp, hpos⟩
      have hle : chunkLen ≤ (x :: xs).length := by
        rw [← hlen]
        exact Nat.min_le_left _ _
      have hnext := h.tick (offsetCurve entries fo.virtualTime) processed chunk chunkLen
      have houtput := fo.length_output_mix (offsetCurve entries fo.virtualTime) processed chunk
        (by omega)
      generalize hmixed : fo.mix (offsetCurve entries fo.virtualTime) processed chunk = mixed
        at hnext houtput ⊢
      have hdrop : ((x :: xs).drop chunkLen).length = (x :: xs).length - chunkLen :=
        List.length_drop
      have hroom' : processed + chunkLen + ((x :: xs).drop chunkLen).length ≤
          (mixed.tick chunkLen).output.length := by
        change _ ≤ mixed.output.length
        omega
      obtain ⟨last, chunks, hloop, hlast, hsame, hcurve, hbatched⟩ := ih hnext (by omega) hroom'
      refine ⟨last, ⟨fo.virtualTime, fo.currentIndex, offsetCurve entries fo.virtualTime,
        chunkLen⟩ :: chunks, ?_, ?_, hsame.trans houtput, ⟨h.time, rfl, h.contains, hcurve⟩, ?_⟩
      · rw [hloop, Option.map_some]
      · rw [hdrop] at hlast
        rw [show samples + (x :: xs).length =
          samples + chunkLen + ((x :: xs).length - chunkLen) by omega]
        exact hlast
      · refine .cons (by simp) rfl hlen.symm ?_
        rw [hlen]
        rw [hdrop, hnext.time] at hbatched
        rw [h.time]
        convert hbatched using 1
        push_cast
        ring

/-- The samples of a call that are mixed: all of them, unless there are too many. -/
def mixedLength (maxInputBufferLength : Nat) (input : List Iq) : Nat :=
  if input.length ≤ maxInputBufferLength then input.length else 0

/-- **A call**, also one that is too long. -/
theorem OnTime.process (hinc : Increasing OffsetEntry.timestamp entries)
    (h : fo.OnTime entries start sampleRate samples) (input : List Iq) :
    ∃ last output chunks, fo.process input = some (last, output, chunks) ∧
      last.OnTime entries start sampleRate (samples + consumed chunks) ∧
      last.output.length = fo.output.length ∧
      OnCurve entries start sampleRate samples chunks ∧
      (input.length ≤ fo.output.length →
        Batched (freqOffsetMaxBatchSamples entries sampleRate) sampleRate fo.virtualTime
          input.length chunks) ∧
      consumed chunks = mixedLength fo.output.length input := by
  unfold FreqOffset.process mixedLength
  by_cases hlong : input.length > fo.output.length
  · rw [if_pos hlong]
    exact ⟨fo, none, [], rfl, h, rfl, trivial, fun hle => absurd hlong (by omega),
      (if_neg (by omega)).symm⟩
  · obtain ⟨last, chunks, hloop, hlast, hsame, hcurve, hbatched⟩ :=
      h.loop hinc (le_refl input.length) (show 0 + input.length ≤ _ by omega)
    rw [if_neg hlong, hloop, Option.map_some]
    have hall := hbatched.consumed_eq
    rw [← hall] at hlast
    exact ⟨last, _, chunks, rfl, hlast, hsame, hcurve, fun _ => hbatched,
      hall.trans (if_pos (by omega)).symm⟩

/-- **A sequence of calls.** -/
theorem OnTime.calls (hinc : Increasing OffsetEntry.timestamp entries)
    (h : fo.OnTime entries start sampleRate samples) (inputs : List (List Iq)) :
    ∃ last chunks, fo.calls inputs = some (last, chunks) ∧
      OnCurve entries start sampleRate samples chunks.flatten ∧
      last.OnTime entries start sampleRate (samples + consumed chunks.flatten) ∧
      chunks.map consumed = inputs.map (mixedLength fo.output.length) := by
  induction inputs generalizing fo samples with
  | nil => exact ⟨fo, [], rfl, trivial, h, rfl⟩
  | cons input inputs ih =>
    obtain ⟨next, output, chunks, hprocess, hnext, hsame, hcurve, -, hmixed⟩ :=
      h.process hinc input
    obtain ⟨last, rest, hcalls, hrest, hlast, hall⟩ := ih hnext
    refine ⟨last, chunks :: rest, ?_, hcurve.append hrest, ?_, ?_⟩
    · rw [FreqOffset.calls, hprocess, Option.bind_some]
      dsimp only
      rw [hcalls, Option.map_some]
    · rw [List.flatten_cons, consumed, List.map_append, List.sum_append, ← Nat.add_assoc]
      exact hlast
    · rw [List.map_cons, List.map_cons, hmixed, hall, hsame]

/-! ## The start -/

/-- The time of the first sample: 0 for a recorded stream. -/
def startTime (entries : List OffsetEntry) (now : ℚ) : ℚ :=
  if ∃ first ∈ entries.head?, first.timestamp = 0 then 0 else now

theorem onTime_create (hinc : Increasing OffsetEntry.timestamp entries)
    {maxInputBufferLength : Nat}
    (h : create nco entries now sampleRate maxInputBufferLength = .ok fo) :
    fo.OnTime entries (startTime entries now) sampleRate 0 ∧
      fo.output.length = maxInputBufferLength := by
  have htime : ∀ start : ℚ, start = start + (0 : Nat) / (sampleRate.toNat : ℚ) := by
    intro start
    rw [Nat.cast_zero, zero_div, add_zero]
  unfold create at h
  match entries with
  | [] => cases h
  | first :: rest =>
    dsimp only at h
    split at h
    · rename_i hzero
      obtain rfl := Except.ok.inj h
      have hstart : startTime (first :: rest) now = 0 := if_pos ⟨first, rfl, hzero⟩
      rw [hstart]
      refine ⟨⟨rfl, rfl, rfl, htime 0, by simp, nofun, fun b hb => ?_⟩, List.length_replicate⟩
      rw [← hzero]
      exact List.rel_of_pairwise_cons hinc (List.mem_of_getElem? hb)
    · rename_i hne
      split at h
      · cases h
      · split at h
        · cases h
        · obtain rfl := Except.ok.inj h
          have hstart : startTime (first :: rest) now = now := by
            refine if_neg ?_
            rintro ⟨entry, hmem, hzero⟩
            obtain rfl := Option.some.inj hmem
            exact hne hzero
          rw [hstart]
          exact ⟨⟨rfl, rfl, rfl, htime now, contains_freqOffsetSeek (by simp) (by omega) nofun⟩,
            List.length_replicate⟩

/-- **When the creation fails.** -/
theorem create_error_iff (nco : MixNco) (hne : entries ≠ [])
    (hinc : Increasing OffsetEntry.timestamp entries) (now : ℚ) (sampleRate : UInt64)
    (maxInputBufferLength : Nat) :
    (∃ code, create nco entries now sampleRate maxInputBufferLength = .error code) ↔
      (∀ first ∈ entries.head?, first.timestamp ≠ 0) ∧ ∀ e ∈ entries, e.timestamp < now := by
  unfold create
  match entries with
  | [] => exact absurd rfl hne
  | first :: rest =>
    dsimp only
    have hhead : (∀ e ∈ (first :: rest).head?, e.timestamp ≠ 0) ↔ first.timestamp ≠ 0 := by
      simp
    rw [hhead]
    by_cases hzero : first.timestamp = 0
    · rw [if_pos hzero]
      exact ⟨fun ⟨_, hcode⟩ => (by cases hcode), fun hall => absurd hzero hall.1⟩
    · rw [if_neg hzero]
      have hcontains : Contains OffsetEntry.timestamp (first :: rest)
          (freqOffsetSeek (first :: rest) now (first :: rest).length 0) now :=
        contains_freqOffsetSeek (by simp) (by omega) nofun
      generalize freqOffsetSeek (first :: rest) now (first :: rest).length 0 = index at hcontains
      have hlt := hcontains.lt
      have hindex := List.getElem?_eq_getElem hlt
      rw [hindex]
      dsimp only
      have hlast : (index = (first :: rest).length - 1 ∧ (first :: rest)[index].timestamp < now) ↔
          ∀ e ∈ first :: rest, e.timestamp < now := by
        constructor
        · rintro ⟨hend, hbefore⟩ e he
          exact (hinc.le_of_mem_of_last he (by rw [← hend]; exact hindex)).trans_lt hbefore
        · intro hall
          refine ⟨?_, hall _ (List.getElem_mem _)⟩
          by_contra hnot
          have hnext := List.getElem?_eq_getElem (l := first :: rest) (i := index + 1) (by omega)
          exact absurd (hcontains.lt_next _ hnext) (hall _ (List.getElem_mem _)).not_gt
      rw [← hlast]
      split
      · rename_i hend
        exact ⟨fun _ => ⟨hzero, hend⟩, fun _ => ⟨_, rfl⟩⟩
      · rename_i hend
        exact ⟨fun ⟨_, hcode⟩ => (by cases hcode), fun hall => absurd hall.2 hend⟩

/-- **The offset used for mixing is the one of the time**, in every sequence of calls: at every
chunk the interpolation has a value, the one of the curve at the start time plus the samples
so far, and the cursor is in the interval of this time.  The chunks of a call are all of its
samples, if it is not too long.  The creation fails if and only if the clock is used and every
entry is in the past. -/
theorem mixes_with_offset_of_time (nco : MixNco) (hne : entries ≠ [])
    (hinc : Increasing OffsetEntry.timestamp entries) (now : ℚ) (sampleRate : UInt64)
    (maxInputBufferLength : Nat) :
    ((∃ code, create nco entries now sampleRate maxInputBufferLength = .error code) ↔
      (∀ first ∈ entries.head?, first.timestamp ≠ 0) ∧ ∀ e ∈ entries, e.timestamp < now) ∧
    ∀ fo, create nco entries now sampleRate maxInputBufferLength = .ok fo →
      ∀ inputs : List (List Iq), ∃ last chunks, fo.calls inputs = some (last, chunks) ∧
        OnCurve entries (startTime entries now) sampleRate 0 chunks.flatten ∧
        last.OnTime entries (startTime entries now) sampleRate (consumed chunks.flatten) ∧
        chunks.map consumed = inputs.map (mixedLength maxInputBufferLength) := by
  refine ⟨create_error_iff nco hne hinc now sampleRate maxInputBufferLength, ?_⟩
  intro fo hfo inputs
  obtain ⟨hstart, hlength⟩ := onTime_create hinc hfo
  obtain ⟨last, chunks, hcalls, hcurve, hlast, hmixed⟩ := hstart.calls hinc inputs
  rw [Nat.zero_add] at hlast
  rw [hlength] at hmixed
  exact ⟨last, chunks, hcalls, hcurve, hlast, hmixed⟩

/-- A recorded stream with three entries, four samples in a second. -/
theorem mixes_with_offset_of_time_recorded :
    ((∃ code, create stillNco [⟨0, 1⟩, ⟨2, 5⟩, ⟨3, -1⟩] 100 4 16 = .error code) ↔
      (∀ first ∈ [(⟨0, 1⟩ : OffsetEntry), ⟨2, 5⟩, ⟨3, -1⟩].head?, first.timestamp ≠ 0) ∧
        ∀ e ∈ [(⟨0, 1⟩ : OffsetEntry), ⟨2, 5⟩, ⟨3, -1⟩], e.timestamp < 100) ∧
    ∀ fo, create stillNco [⟨0, 1⟩, ⟨2, 5⟩, ⟨3, -1⟩] 100 4 16 = .ok fo →
      ∀ inputs : List (List Iq), ∃ last chunks, fo.calls inputs = some (last, chunks) ∧
        OnCurve [⟨0, 1⟩, ⟨2, 5⟩, ⟨3, -1⟩] (startTime [⟨0, 1⟩, ⟨2, 5⟩, ⟨3, -1⟩] 100) 4 0
          chunks.flatten ∧
        last.OnTime [⟨0, 1⟩, ⟨2, 5⟩, ⟨3, -1⟩] (startTime [⟨0, 1⟩, ⟨2, 5⟩, ⟨3, -1⟩] 100) 4
          (consumed chunks.flatten) ∧
        chunks.map consumed = inputs.map (mixedLength 16) :=
  mixes_with_offset_of_time stillNco (List.cons_ne_nil _ _)
    (by unfold Increasing; decide +kernel) 100 4 16

/-! ## Entries within a chunk -/

/-- **No entry lies strictly within a chunk.** -/
def KeepsFrequency (entries : List OffsetEntry) (sampleRate : UInt64) (chunk : MixedChunk) : Prop :=
  ∀ e ∈ entries, ¬ (chunk.virtualTime < e.timestamp ∧
    e.timestamp < chunk.virtualTime + chunk.chunkLen / sampleRate.toNat)

/-- Every entry that lies strictly within a call is a whole number of batches behind its
beginning. -/
def OnBatches (entries : List OffsetEntry) (sampleRate : UInt64) : ℚ → List (List Iq) → Prop
  | _, [] => True
  | time, input :: inputs =>
    (∀ e ∈ entries, time < e.timestamp →
      e.timestamp < time + input.length / sampleRate.toNat →
        ∃ k : Nat, e.timestamp =
          time + k * freqOffsetMaxBatchSamples entries sampleRate / sampleRate.toNat) ∧
    OnBatches entries sampleRate (time + input.length / sampleRate.toNat) inputs

end FreqOffset

/-- **One entry and one call**: the entry lies within none of the chunks if and only if it is
where a chunk begins. -/
theorem Batched.outside_iff {batch : Nat} (hbatch : 0 < batch) {sampleRate : UInt64}
    {time : ℚ} {left : Nat} {chunks : List MixedChunk}
    (h : Batched batch sampleRate time left chunks) (e : ℚ) :
    (∀ chunk ∈ chunks, ¬ (chunk.virtualTime < e ∧
      e < chunk.virtualTime + chunk.chunkLen / sampleRate.toNat)) ↔
    (time < e → e < time + left / sampleRate.toNat →
      ∃ k : Nat, e = time + k * batch / sampleRate.toNat) := by
  rcases Nat.eq_zero_or_pos sampleRate.toNat with hzero | hrate
  · -- no rate, no time within a chunk
    simp only [hzero, Nat.cast_zero, div_zero, add_zero]
    exact ⟨fun _ hafter hbefore => absurd hafter hbefore.not_gt,
      fun _ chunk _ hboth => absurd hboth.1 hboth.2.not_gt⟩
  have hpos : (0 : ℚ) < sampleRate.toNat := Nat.cast_pos.mpr hrate
  have hbatchTime : (0 : ℚ) < batch / sampleRate.toNat := div_pos (Nat.cast_pos.mpr hbatch) hpos
  induction h with
  | nil time =>
    refine ⟨fun _ hafter hbefore => ?_, fun _ => nofun⟩
    rw [Nat.cast_zero, zero_div, add_zero] at hbefore
    exact absurd hafter hbefore.not_gt
  | @cons time left chunk chunks hleft htime hlength hrest ih =>
    have hend : time + (min left batch : Nat) / sampleRate.toNat +
        (left - min left batch : Nat) / sampleRate.toNat = time + left / sampleRate.toNat := by
      rw [Nat.cast_sub (Nat.min_le_left _ _)]
      ring
    have hlater : (∀ chunk ∈ chunks, ¬ (chunk.virtualTime < e ∧
        e < chunk.virtualTime + chunk.chunkLen / sampleRate.toNat)) ↔
        (time + (min left batch : Nat) / sampleRate.toNat < e →
          e < time + left / sampleRate.toNat → ∃ k : Nat,
            e = time + (min left batch : Nat) / sampleRate.toNat +
              k * batch / sampleRate.toNat) := by
      rw [← hend]
      exact ih
    rw [List.forall_mem_cons, hlater, htime, hlength]
    -- where more than this chunk is left, the chunk is a whole batch
    have hwhole :
        time + (min left batch : Nat) / sampleRate.toNat < time + left / sampleRate.toNat →
        (min left batch : Nat) / (sampleRate.toNat : ℚ) = batch / sampleRate.toNat := by
      intro hlt
      have hne : min left batch ≠ left := by
        intro hsame
        rw [hsame] at hlt
        exact lt_irrefl _ hlt
      rw [show min left batch = batch by omega]
    have hshort : (min left batch : Nat) / (sampleRate.toNat : ℚ) ≤ batch / sampleRate.toNat :=
      div_le_div_of_nonneg_right (Nat.cast_le.mpr (Nat.min_le_right _ _)) hpos.le
    have hwithin : (min left batch : Nat) / (sampleRate.toNat : ℚ) ≤ left / sampleRate.toNat :=
      div_le_div_of_nonneg_right (Nat.cast_le.mpr (Nat.min_le_left _ _)) hpos.le
    have hnonneg : (0 : ℚ) ≤ (min left batch : Nat) / sampleRate.toNat := by positivity
    clear hlater ih hrest hend
    simp only [mul_div_assoc]
    generalize (min left batch : Nat) / (sampleRate.toNat : ℚ) = chunkTime at *
    generalize (left : ℚ) / sampleRate.toNat = leftTime at *
    generalize (batch : ℚ) / sampleRate.toNat = batchTime at *
    constructor
    · rintro ⟨hfirst, hlater⟩ hafter hbefore
      have hreached : time + chunkTime ≤ e := by
        by_contra hnot
        exact hfirst ⟨hafter, not_le.mp hnot⟩
      have hsame := hwhole (hreached.trans_lt hbefore)
      rcases hreached.lt_or_eq with hlt | rfl
      · obtain ⟨k, hk⟩ := hlater hlt hbefore
        refine ⟨k + 1, ?_⟩
        rw [hk, hsame]
        push_cast
        ring
      · exact ⟨1, by rw [hsame]; push_cast; ring⟩
    · intro hall
      refine ⟨?_, ?_⟩
      · rintro ⟨hafter, hbefore⟩
        obtain ⟨k, hk⟩ := hall hafter (by linarith)
        have hlow : (0 : ℚ) < k := by
          by_contra hnot
          nlinarith
        have hhigh : (k : ℚ) < 1 := by
          by_contra hnot
          nlinarith
        have hlow' : 0 < k := by exact_mod_cast hlow
        have hhigh' : k < 1 := by exact_mod_cast hhigh
        omega
      · intro hafter hbefore
        obtain ⟨k, hk⟩ := hall (by linarith) hbefore
        have hsame := hwhole (hafter.trans hbefore)
        have hk1 : 1 ≤ k := by
          by_contra hnot
          obtain rfl : k = 0 := by omega
          rw [Nat.cast_zero, zero_mul, add_zero] at hk
          linarith
        refine ⟨k - 1, ?_⟩
        rw [hk, hsame, Nat.cast_sub hk1]
        push_cast
        ring

namespace FreqOffset
variable {nco : MixNco} {fo : FreqOffset nco} {entries : List OffsetEntry} {start now : ℚ}
  {sampleRate : UInt64} {samples : Nat}

/-- **One call.** -/
theorem keepsFrequency_iff {time : ℚ} {left : Nat}
    {chunks : List MixedChunk}
    (h : Batched (freqOffsetMaxBatchSamples entries sampleRate) sampleRate time left chunks) :
    (∀ chunk ∈ chunks, KeepsFrequency entries sampleRate chunk) ↔
      ∀ e ∈ entries, time < e.timestamp → e.timestamp < time + left / sampleRate.toNat →
        ∃ k : Nat, e.timestamp =
          time + k * freqOffsetMaxBatchSamples entries sampleRate / sampleRate.toNat := by
  have hiff := fun e : OffsetEntry =>
    h.outside_iff (freqOffsetMaxBatchSamples_pos entries sampleRate) e.timestamp
  constructor
  · intro hall e he
    exact (hiff e).mp fun chunk hchunk => hall chunk hchunk e he
  · intro hall chunk hchunk e he
    exact (hiff e).mpr (hall e he) chunk hchunk

/-- **A sequence of calls.** -/
theorem OnTime.keepsFrequency_iff (hinc : Increasing OffsetEntry.timestamp entries)
    (h : fo.OnTime entries start sampleRate samples)
    {inputs : List (List Iq)} (hinputs : ∀ input ∈ inputs, input.length ≤ fo.output.length) :
    ∃ last chunks, fo.calls inputs = some (last, chunks) ∧
      ((∀ chunk ∈ chunks.flatten, KeepsFrequency entries sampleRate chunk) ↔
        OnBatches entries sampleRate fo.virtualTime inputs) := by
  induction inputs generalizing fo samples with
  | nil => exact ⟨fo, [], rfl, fun _ => trivial, fun _ => nofun⟩
  | cons input inputs ih =>
    obtain ⟨next, output, chunks, hprocess, hnext, hsame, -, hbatched, -⟩ :=
      h.process hinc input
    have hbatched := hbatched (hinputs input List.mem_cons_self)
    obtain ⟨last, rest, hcalls, hiff⟩ := ih hnext fun input hmem => by
      rw [hsame]
      exact hinputs input (List.mem_cons_of_mem _ hmem)
    have htime : next.virtualTime = fo.virtualTime + input.length / sampleRate.toNat := by
      rw [hnext.time, h.time, hbatched.consumed_eq]
      push_cast
      ring
    refine ⟨last, chunks :: rest, ?_, ?_⟩
    · rw [FreqOffset.calls, hprocess, Option.bind_some]
      dsimp only
      rw [hcalls, Option.map_some]
    · rw [List.flatten_cons, List.forall_mem_append, FreqOffset.keepsFrequency_iff hbatched,
        hiff, htime]
      rfl

/-- **When a chunk never lies across an entry**: every entry within a call has to be a whole
number of batches behind the beginning of the call. -/
theorem chunks_keep_frequency_iff (hinc : Increasing OffsetEntry.timestamp entries)
    {maxInputBufferLength : Nat}
    (hfo : create nco entries now sampleRate maxInputBufferLength = .ok fo)
    {inputs : List (List Iq)} (hinputs : ∀ input ∈ inputs, input.length ≤ maxInputBufferLength) :
    ∃ last chunks, fo.calls inputs = some (last, chunks) ∧
      ((∀ chunk ∈ chunks.flatten, KeepsFrequency entries sampleRate chunk) ↔
        OnBatches entries sampleRate (startTime entries now) inputs) := by
  obtain ⟨hstart, hlength⟩ := onTime_create hinc hfo
  obtain ⟨last, chunks, hcalls, hiff⟩ := hstart.keepsFrequency_iff hinc (by rwa [hlength])
  refine ⟨last, chunks, hcalls, ?_⟩
  rw [hiff, hstart.time, Nat.cast_zero, zero_div, add_zero]

/-- Calls of a batch each. -/
theorem chunks_keep_frequency_batches :
    (∃ fo, create stillNco [⟨0, 1⟩, ⟨2, 5⟩] 100 4 8 = .ok fo) ∧
    ∀ fo, create stillNco [⟨0, 1⟩, ⟨2, 5⟩] 100 4 8 = .ok fo →
      ∃ last chunks,
        fo.calls [List.replicate 8 ⟨1, 0⟩, List.replicate 8 ⟨1, 0⟩] = some (last, chunks) ∧
        ((∀ chunk ∈ chunks.flatten, KeepsFrequency [⟨0, 1⟩, ⟨2, 5⟩] 4 chunk) ↔
          OnBatches [⟨0, 1⟩, ⟨2, 5⟩] 4 (startTime [⟨0, 1⟩, ⟨2, 5⟩] 100)
            [List.replicate 8 ⟨1, 0⟩, List.replicate 8 ⟨1, 0⟩]) :=
  ⟨⟨_, rfl⟩, fun _ hfo => chunks_keep_frequency_iff (by unfold Increasing; decide +kernel) hfo
    (by decide)⟩

/-- The second entry is 8 samples behind the first one, and two calls have 6 samples each. -/
theorem chunk_across_entry :
    ¬ ∀ (entries : List OffsetEntry) (now : ℚ) (sampleRate : UInt64) (maxInputBufferLength : Nat)
      (fo last : FreqOffset stillNco) (inputs : List (List Iq)) (chunks : List (List MixedChunk)),
      Increasing OffsetEntry.timestamp entries →
      entries.IsChain (fun a b => 1 ≤ (b.timestamp - a.timestamp) * (sampleRate.toNat : ℚ)) →
      create stillNco entries now sampleRate maxInputBufferLength = .ok fo →
      (∀ input ∈ inputs, input.length ≤ maxInputBufferLength) →
      fo.calls inputs = some (last, chunks) →
      ∀ chunk ∈ chunks.flatten, KeepsFrequency entries sampleRate chunk := by
  intro hall
  have hinc : Increasing OffsetEntry.timestamp [⟨0, 1⟩, ⟨2, 5⟩] := by
    unfold Increasing
    decide +kernel
  obtain ⟨fo, hfo⟩ : ∃ fo, create stillNco [⟨0, 1⟩, ⟨2, 5⟩] 100 4 8 = .ok fo := ⟨_, rfl⟩
  obtain ⟨hstart, hlength⟩ := onTime_create hinc hfo
  have hinputs : ∀ input ∈ [List.replicate 6 (⟨1, 0⟩ : Iq), List.replicate 6 ⟨1, 0⟩],
      input.length ≤ 8 := by decide
  obtain ⟨last, chunks, hcalls, hiff⟩ := hstart.keepsFrequency_iff hinc (by rwa [hlength])
  have hbatch : freqOffsetMaxBatchSamples [⟨0, 1⟩, ⟨2, 5⟩] 4 = 8 := by decide +kernel
  have htime : startTime [⟨0, 1⟩, ⟨2, 5⟩] 100 = 0 := if_pos ⟨_, rfl, rfl⟩
  have hon := hiff.mp (hall _ 100 4 8 fo last _ chunks hinc (by decide +kernel) hfo hinputs hcalls)
  rw [hstart.time, htime] at hon
  have hrate : (UInt64.toNat 4 : ℚ) = 4 := rfl
  obtain ⟨k, hk⟩ := hon.2.1 ⟨2, 5⟩ (by decide) (by rw [hrate]; norm_num) (by rw [hrate]; norm_num)
  rw [hbatch, hrate] at hk
  norm_num at hk
  have hhalf : (4 * k : ℚ) = 1 := by linarith
  have hnat : 4 * k = 1 := by exact_mod_cast hhalf
  omega

end FreqOffset
end SdrModem
