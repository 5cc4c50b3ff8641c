import Mathlib.Tactic.Ring
import SdrModem.Config

/-!
# The file backend: `sdr_file.c`

Samples are written to a file, one block after the other, and read from it again.  A file
is the bytes that are in it, and a compressed one those that were compressed: `fwrite` and
`gzwrite` write what they are asked to, and `fread` and `gzread` read it, or up to the end.
They are asked for a number of samples or for a number of bytes, which is an `unsigned int`
for the compressed ones.  This is an idealisation from `2 ^ 31` bytes on: `zlib` refuses a request
that is not an `int`, and here it is met.

A `float complex` is the bits of its two floats, and the arithmetic is that of `Float32`.
-/
namespace SdrModem

/-- `float complex`. -/
structure Cf32 where
  re : UInt32
  im : UInt32
deriving DecidableEq, Repr

/-- Whether the name of a file ends in `.gz`. -/
inductive FileKind where
  | plain
  | gz
deriving DecidableEq, Repr

namespace SdrFile

/-! ## The formats -/

/-- `((float) raw[i] - 127.5f) / 127.5f`. -/
def u8ToFloat (raw : UInt8) : UInt32 := ((raw.toFloat32 - 127.5) / 127.5).toBits

/-- `(float) raw[i] / 32768.0f`. -/
def s16ToFloat (raw : Int16) : UInt32 := (raw.toFloat32 / 32768.0).toBits

/-- `clamp_u8`. -/
def clampU8 (value : Float32) : UInt8 :=
  if value < 0.0 then 0 else if value > 255.0 then 255 else value.toUInt8

/-- `clamp_s16`. -/
def clampS16 (value : Float32) : Int16 :=
  if value < -32768.0 then -32768 else if value > 32767.0 then 32767 else value.toInt16

/-- The component of a sample as one byte. -/
def floatToU8 (value : UInt32) : UInt8 :=
  clampU8 (Float32.ofBits value * 127.5 + 127.5).round

def floatToS16 (value : UInt32) : Int16 := clampS16 (Float32.ofBits value * 32768.0).round

/-- An `int16_t` in memory. -/
def int16Bytes (v : Int16) : List UInt8 := [v.toUInt16.toUInt8, (v.toUInt16 >>> 8).toUInt8]

/-- A `float` in memory. -/
def floatBytes (v : UInt32) : List UInt8 :=
  [v.toUInt8, (v >>> 8).toUInt8, (v >>> 16).toUInt8, (v >>> 24).toUInt8]

/-- The `int16_t` with this index. -/
def int16At (raw : List UInt8) (i : Nat) : Int16 :=
  ((raw.getD (2 * i) 0).toUInt16 ||| (raw.getD (2 * i + 1) 0).toUInt16 <<< 8).toInt16

/-- The `float` with this index. -/
def floatAt (raw : List UInt8) (i : Nat) : UInt32 :=
  (raw.getD (4 * i) 0).toUInt32 ||| (raw.getD (4 * i + 1) 0).toUInt32 <<< 8 |||
    (raw.getD (4 * i + 2) 0).toUInt32 <<< 16 ||| (raw.getD (4 * i + 3) 0).toUInt32 <<< 24

/-- `cf32_to_cu8`. -/
def cf32ToCu8 (input : List Cf32) : List UInt8 :=
  input.flatMap fun s => [floatToU8 s.re, floatToU8 s.im]

/-- `cf32_to_cs16`, as the bytes that it leaves. -/
def cf32ToCs16 (input : List Cf32) : List UInt8 :=
  input.flatMap fun s => int16Bytes (floatToS16 s.re) ++ int16Bytes (floatToS16 s.im)

/-- The samples in memory. -/
def cf32Bytes (input : List Cf32) : List UInt8 :=
  input.flatMap fun s => floatBytes s.re ++ floatBytes s.im

/-- `cu8_to_cf32`. -/
def cu8ToCf32 (raw : List UInt8) (nsamples : Nat) : List Cf32 :=
  (List.range nsamples).map fun i =>
    ⟨u8ToFloat (raw.getD (2 * i) 0), u8ToFloat (raw.getD (2 * i + 1) 0)⟩

/-- `cs16_to_cf32`. -/
def cs16ToCf32 (raw : List UInt8) (nsamples : Nat) : List Cf32 :=
  (List.range nsamples).map fun i =>
    ⟨s16ToFloat (int16At raw (2 * i)), s16ToFloat (int16At raw (2 * i + 1))⟩

/-- Bytes as samples in memory. -/
def cf32OfBytes (raw : List UInt8) (nsamples : Nat) : List Cf32 :=
  (List.range nsamples).map fun i => ⟨floatAt raw (2 * i), floatAt raw (2 * i + 1)⟩

/-- `bytes_per_sample`. -/
def bytesPerSample : SdrFileFormat → Nat
  | .cu8 => 2
  | .cs16 => 4
  | .cf32 | .guess | .invalid => 8

/-- What is written for a chunk of samples. -/
def encode : SdrFileFormat → List Cf32 → List UInt8
  | .cu8, chunk => cf32ToCu8 chunk
  | .cs16, chunk => cf32ToCs16 chunk
  | .cf32, chunk | .guess, chunk | .invalid, chunk => cf32Bytes chunk

/-- The samples of what was read. -/
def decode : SdrFileFormat → List UInt8 → Nat → List Cf32
  | .cu8, raw, nsamples => cu8ToCf32 raw nsamples
  | .cs16, raw, nsamples => cs16ToCf32 raw nsamples
  | .cf32, raw, nsamples | .guess, raw, nsamples | .invalid, raw, nsamples =>
    cf32OfBytes raw nsamples

/-! ## The device -/

/-- `struct file_device_t`: what is left of the file to read, and what is in the file to
write. -/
structure Device where
  rx : Option (FileKind × List UInt8)
  tx : Option (FileKind × List UInt8)
  rxFormat : SdrFileFormat
  txFormat : SdrFileFormat
  sdrBufferLen : UInt32

/-- The `int` that `gzread` returns for a number of bytes. -/
def gzreadResult (count : Nat) : Int := if count < 2 ^ 31 then count else count - 2 ^ 32

/-- `sdr_file_process_rx`, with `none` for -1. -/
def processRx (device : Device) : Option (List Cf32) × Device :=
  match device.rx with
  | none => (none, device)
  | some (.gz, file) =>
      let size := bytesPerSample device.rxFormat
      let count := min (UInt32.ofNat (size * device.sdrBufferLen.toNat)).toNat file.length
      let left := { device with rx := some (.gz, file.drop count) }
      let result := gzreadResult count
      if result ≤ 0 then (none, left)
      else (some (decode device.rxFormat (file.take count) (result.toNat / size)), left)
  | some (.plain, file) =>
      let size := bytesPerSample device.rxFormat
      let count := min (size * device.sdrBufferLen.toNat) file.length
      let left := { device with rx := some (.plain, file.drop count) }
      let actuallyRead := count / size
      if actuallyRead = 0 then (none, left)
      else (some (decode device.rxFormat (file.take count) actuallyRead), left)

/-- What `gzwrite` and `fwrite` add for a chunk. -/
def written (size chunk : Nat) (buffer : List UInt8) : FileKind → List UInt8
  | .gz => buffer.take (UInt32.ofNat (size * chunk)).toNat
  | .plain => buffer.take (size * chunk)

/-- The loop of `sdr_file_process_tx`, with what is left of the input. -/
def txLoop (kind : FileKind) (format : SdrFileFormat) (sdrBufferLen : Nat) :
    Nat → List Cf32 → List UInt8 → Option (List UInt8)
  | _, [], file => some file
  | 0, _ :: _, _ => none
  | fuel + 1, s :: input, file =>
      let chunk := min (s :: input).length sdrBufferLen
      txLoop kind format sdrBufferLen fuel ((s :: input).drop chunk)
        (file ++
          written (bytesPerSample format) chunk (encode format ((s :: input).take chunk)) kind)

/-- `sdr_file_process_tx`: `none` if it does not return. -/
def processTx (device : Device) (input : List Cf32) : Option (Int × Device) :=
  match device.tx with
  | none => some (-1, device)
  | some (kind, file) =>
      (txLoop kind device.txFormat device.sdrBufferLen.toNat input.length input file).map
        fun file => (0, { device with tx := some (kind, file) })

/-- One block after the other. -/
def processTxAll : Device → List (List Cf32) → Option Device
  | device, [] => some device
  | device, block :: blocks =>
      (processTx device block).bind fun r => processTxAll r.2 blocks

/-- The blocks that a number of calls return. -/
def replay : Nat → Device → List (List Cf32)
  | 0, _ => []
  | calls + 1, device =>
      let r := processRx device
      r.1.toList ++ replay calls r.2

/-! ## Samples and bytes -/

/-- The first sample. -/
def decodeSample : SdrFileFormat → List UInt8 → Cf32
  | .cu8, raw => ⟨u8ToFloat (raw.getD 0 0), u8ToFloat (raw.getD 1 0)⟩
  | .cs16, raw => ⟨s16ToFloat (int16At raw 0), s16ToFloat (int16At raw 1)⟩
  | .cf32, raw | .guess, raw | .invalid, raw => ⟨floatAt raw 0, floatAt raw 1⟩

theorem bytesPerSample_pos (format : SdrFileFormat) : 0 < bytesPerSample format := by
  cases format with
  | cu8 => decide
  | cs16 => decide
  | cf32 => decide
  | guess => decide
  | invalid => decide

/-- The bytes of a chunk are those of its samples. -/
theorem encode_eq (format : SdrFileFormat) (chunk : List Cf32) :
    encode format chunk = chunk.flatMap fun s => encode format [s] := by
  cases format with
  | cu8 => simp [encode, cf32ToCu8]
  | cs16 => simp [encode, cf32ToCs16]
  | cf32 => simp [encode, cf32Bytes]
  | guess => simp [encode, cf32Bytes]
  | invalid => simp [encode, cf32Bytes]

theorem encode_append (format : SdrFileFormat) (chunk more : List Cf32) :
    encode format (chunk ++ more) = encode format chunk ++ encode format more := by
  rw [encode_eq, encode_eq format chunk, encode_eq format more, List.flatMap_append]

theorem length_encode_one (format : SdrFileFormat) (s : Cf32) :
    (encode format [s]).length = bytesPerSample format := by
  cases format with
  | cu8 => rfl
  | cs16 => rfl
  | cf32 => rfl
  | guess => rfl
  | invalid => rfl

theorem length_encode (format : SdrFileFormat) (chunk : List Cf32) :
    (encode format chunk).length = bytesPerSample format * chunk.length := by
  induction chunk with
  | nil =>
    rw [encode_eq]
    rfl
  | cons s chunk ih =>
    rw [← List.singleton_append, encode_append, List.length_append, length_encode_one, ih,
      List.length_append, List.length_singleton]
    ring

theorem getD_drop (raw : List UInt8) (n i : Nat) : (raw.drop n).getD i 0 = raw.getD (n + i) 0 := by
  rw [List.getD_eq_getElem?_getD, List.getD_eq_getElem?_getD, List.getElem?_drop]

theorem cf32OfBytes_eq (raw : List UInt8) (nsamples : Nat) :
    cf32OfBytes raw nsamples =
      (List.range nsamples).map fun i =>
        ⟨floatAt (raw.drop (8 * i)) 0, floatAt (raw.drop (8 * i)) 1⟩ := by
  refine List.map_congr_left fun i _ => ?_
  simp only [floatAt, getD_drop]
  grind

/-- What is read is decoded sample by sample. -/
theorem decode_eq (format : SdrFileFormat) (raw : List UInt8) (nsamples : Nat) :
    decode format raw nsamples =
      (List.range nsamples).map fun i =>
        decodeSample format (raw.drop (bytesPerSample format * i)) := by
  cases format with
  | cu8 => simp only [decode, cu8ToCf32, decodeSample, bytesPerSample, getD_drop, Nat.add_zero]
  | cs16 =>
    refine List.map_congr_left fun i _ => ?_
    simp only [decodeSample, bytesPerSample, int16At, getD_drop]
    grind
  | cf32 => exact cf32OfBytes_eq raw nsamples
  | guess => exact cf32OfBytes_eq raw nsamples
  | invalid => exact cf32OfBytes_eq raw nsamples

/-- The sample of its bytes, with more behind them. -/
theorem decodeSample_encode (format : SdrFileFormat) (s : Cf32) (rest : List UInt8) :
    decodeSample format (encode format [s] ++ rest) = decodeSample format (encode format [s]) := by
  cases format with
  | cu8 => rfl
  | cs16 => rfl
  | cf32 => rfl
  | guess => rfl
  | invalid => rfl

/-- **The samples of their bytes.** -/
theorem decode_encode (format : SdrFileFormat) (samples : List Cf32) :
    decode format (encode format samples) samples.length =
      samples.map fun s => decodeSample format (encode format [s]) := by
  induction samples with
  | nil => rw [decode_eq]; rfl
  | cons s samples ih =>
    have hbytes : encode format (s :: samples) = encode format [s] ++ encode format samples :=
      encode_append format [s] samples
    rw [decode_eq, List.length_cons, List.range_succ_eq_map, List.map_cons, List.map_map,
      List.map_cons, ← ih, decode_eq, hbytes]
    congr 1
    · rw [Nat.mul_zero, List.drop_zero, decodeSample_encode]
    · refine List.map_congr_left fun i _ => ?_
      rw [Function.comp_apply, Nat.mul_succ, Nat.add_comm, ← List.drop_drop,
        List.drop_left' (length_encode_one format s)]

/-- The bytes of the first samples, and those of the others. -/
theorem encode_take_drop (format : SdrFileFormat) {samples : List Cf32} {n : Nat}
    (h : n ≤ samples.length) :
    (encode format samples).take (bytesPerSample format * n) = encode format (samples.take n) ∧
    (encode format samples).drop (bytesPerSample format * n) = encode format (samples.drop n) := by
  have hsplit : encode format samples =
      encode format (samples.take n) ++ encode format (samples.drop n) := by
    rw [← encode_append, List.take_append_drop]
  have hlength : (encode format (samples.take n)).length = bytesPerSample format * n := by
    rw [length_encode, List.length_take, Nat.min_eq_left h]
  rw [hsplit]
  exact ⟨List.take_left' hlength, List.drop_left' hlength⟩

/-! ## Writing -/

/-- How many bytes a file is asked to write for a chunk. -/
def asked (size chunk : Nat) : FileKind → Nat
  | .gz => size * chunk % 2 ^ 32
  | .plain => size * chunk

theorem written_eq (size chunk : Nat) (buffer : List UInt8) (kind : FileKind) :
    written size chunk buffer kind = buffer.take (asked size chunk kind) := by
  cases kind with
  | gz => rw [written, asked, UInt32.toNat_ofNat']
  | plain => rfl

theorem asked_le (size chunk : Nat) (kind : FileKind) : asked size chunk kind ≤ size * chunk := by
  cases kind with
  | gz => exact Nat.mod_le _ _
  | plain => exact le_refl _

/-- A number of bytes that a file of this kind can be asked for. -/
def Fits (bytes : Nat) : FileKind → Prop
  | .gz => bytes < 2 ^ 32
  | .plain => True

theorem asked_eq_iff {size chunk : Nat} {kind : FileKind} :
    asked size chunk kind = size * chunk ↔ Fits (size * chunk) kind := by
  cases kind with
  | gz =>
    refine ⟨fun h => ?_, Nat.mod_eq_of_lt⟩
    rw [Fits, ← h]
    exact Nat.mod_lt _ (by decide)
  | plain => exact iff_of_true rfl trivial

theorem fits_zero (kind : FileKind) : Fits 0 kind := by
  cases kind with
  | gz => exact Nat.two_pow_pos 32
  | plain => trivial

theorem Fits.mono {bytes less : Nat} {kind : FileKind} (h : Fits bytes kind) (hle : less ≤ bytes) :
    Fits less kind := by
  cases kind with
  | gz => exact Nat.lt_of_le_of_lt hle h
  | plain => trivial

/-- **Bytes that were written for samples**: all of them if they fit, and fewer if they do not. -/
structure Wrote (fits : Prop) (format : SdrFileFormat) (samples : List Cf32) (bytes : List UInt8) :
    Prop where
  complete : fits → bytes = encode format samples
  short : ¬ fits → bytes.length < bytesPerSample format * samples.length

section Wrote
variable {fits : Prop} {format : SdrFileFormat} {samples : List Cf32} {bytes : List UInt8}

theorem Wrote.length_le (h : Wrote fits format samples bytes) :
    bytes.length ≤ bytesPerSample format * samples.length := by
  by_cases hfits : fits
  · rw [h.complete hfits, length_encode]
  · exact (h.short hfits).le

theorem wrote_nil (hfits : fits) (format : SdrFileFormat) : Wrote fits format [] [] :=
  ⟨fun _ => (encode_eq format []).symm, fun h => absurd hfits h⟩

theorem Wrote.append {fitsMore : Prop} {more : List Cf32} {bytesMore : List UInt8}
    (h : Wrote fits format samples bytes) (hmore : Wrote fitsMore format more bytesMore) :
    Wrote (fits ∧ fitsMore) format (samples ++ more) (bytes ++ bytesMore) := by
  constructor
  · intro hfits
    rw [h.complete hfits.1, hmore.complete hfits.2, encode_append]
  · intro hfits
    have hfirst := h.length_le
    have hsecond := hmore.length_le
    rw [List.length_append, List.length_append, Nat.mul_add]
    by_cases hboth : fits
    · have := hmore.short fun hrest => hfits ⟨hboth, hrest⟩
      omega
    · have := h.short hboth
      omega

theorem Wrote.congr {p q : Prop} (h : Wrote p format samples bytes) (hiff : p ↔ q) :
    Wrote q format samples bytes :=
  ⟨fun hq => h.complete (hiff.mpr hq), fun hq => h.short fun hp => hq (hiff.mp hp)⟩

/-- One chunk. -/
theorem wrote_chunk (kind : FileKind) (format : SdrFileFormat) (chunk : List Cf32) :
    Wrote (Fits (bytesPerSample format * chunk.length) kind) format chunk
      (written (bytesPerSample format) chunk.length (encode format chunk) kind) := by
  have hle := asked_le (bytesPerSample format) chunk.length kind
  rw [written_eq]
  constructor
  · intro hfits
    rw [asked_eq_iff.mpr hfits, ← length_encode, List.take_length]
  · intro hfits
    have hne := mt asked_eq_iff.mp hfits
    rw [List.length_take, length_encode]
    omega

end Wrote

/-- One turn of the loop. -/
theorem txLoop_step (kind : FileKind) (format : SdrFileFormat) (sdrBufferLen fuel : Nat)
    {input : List Cf32} (h : input ≠ []) (file : List UInt8) :
    txLoop kind format sdrBufferLen (fuel + 1) input file =
      txLoop kind format sdrBufferLen fuel (input.drop (min input.length sdrBufferLen))
        (file ++ written (bytesPerSample format) (min input.length sdrBufferLen)
          (encode format (input.take (min input.length sdrBufferLen))) kind) := by
  cases input with
  | nil => exact absurd rfl h
  | cons s input => rfl

/-- **The loop returns**, and the file has grown.  The first chunk is the longest. -/
theorem txLoop_wrote (kind : FileKind) (format : SdrFileFormat) {sdrBufferLen : Nat}
    (hlen : 0 < sdrBufferLen) {fuel : Nat} {input : List Cf32} (hfuel : input.length ≤ fuel)
    (file : List UInt8) :
    ∃ bytes, txLoop kind format sdrBufferLen fuel input file = some (file ++ bytes) ∧
      Wrote (Fits (bytesPerSample format * min input.length sdrBufferLen) kind) format input
        bytes := by
  have hnil : Fits (bytesPerSample format * min ([] : List Cf32).length sdrBufferLen) kind := by
    rw [List.length_nil, Nat.zero_min, Nat.mul_zero]
    exact fits_zero kind
  induction fuel generalizing input file with
  | zero =>
    obtain rfl := List.length_eq_zero_iff.mp (Nat.le_zero.mp hfuel)
    exact ⟨[], by rw [List.append_nil]; rfl, wrote_nil hnil format⟩
  | succ fuel ih =>
    by_cases hinput : input = []
    · subst hinput
      exact ⟨[], by rw [List.append_nil]; rfl, wrote_nil hnil format⟩
    · have hpos := List.length_pos_of_ne_nil hinput
      have hstep := txLoop_step kind format sdrBufferLen fuel hinput file
      generalize hchunk : min input.length sdrBufferLen = chunk at hstep
      have hless : (input.drop chunk).length ≤ fuel := by
        rw [List.length_drop]
        omega
      have htake : (input.take chunk).length = chunk := by
        rw [List.length_take]
        omega
      have hfirst := wrote_chunk kind format (input.take chunk)
      rw [htake] at hfirst
      obtain ⟨bytes, hloop, hwrote⟩ := ih hless (file ++ written (bytesPerSample format) chunk
        (encode format (input.take chunk)) kind)
      rw [List.append_assoc] at hloop
      have hall := hfirst.append hwrote
      rw [List.take_append_drop] at hall
      refine ⟨_, hstep.trans hloop, hall.congr (and_iff_left_of_imp fun hfits => hfits.mono ?_)⟩
      rw [List.length_drop]
      exact Nat.mul_le_mul_left _ (by omega)

/-! ## Blocks -/

/-- A device that writes, with what is in its file. -/
def writer (kind : FileKind) (format : SdrFileFormat) (sdrBufferLen : UInt32) (file : List UInt8) :
    Device :=
  ⟨none, some (kind, file), format, format, sdrBufferLen⟩

/-- The blocks fit into the requests to write them. -/
def BlocksFit (kind : FileKind) (format : SdrFileFormat) (sdrBufferLen : UInt32)
    (blocks : List (List Cf32)) : Prop :=
  ∀ block ∈ blocks, Fits (bytesPerSample format * min block.length sdrBufferLen.toNat) kind

theorem processTx_wrote (kind : FileKind) (format : SdrFileFormat) {sdrBufferLen : UInt32}
    (hlen : 1 ≤ sdrBufferLen) (block : List Cf32) (file : List UInt8) :
    ∃ bytes, processTx (writer kind format sdrBufferLen file) block =
        some (0, writer kind format sdrBufferLen (file ++ bytes)) ∧
      Wrote (Fits (bytesPerSample format * min block.length sdrBufferLen.toNat) kind) format block
        bytes := by
  have hpos : 0 < sdrBufferLen.toNat := UInt32.le_iff_toNat_le.mp hlen
  obtain ⟨bytes, hloop, hwrote⟩ := txLoop_wrote kind format hpos (le_refl block.length) file
  exact ⟨bytes, congrArg (Option.map _) hloop, hwrote⟩

/-- **Every block is written behind the one before.** -/
theorem processTxAll_wrote (kind : FileKind) (format : SdrFileFormat) {sdrBufferLen : UInt32}
    (hlen : 1 ≤ sdrBufferLen) (blocks : List (List Cf32)) (file : List UInt8) :
    ∃ bytes, processTxAll (writer kind format sdrBufferLen file) blocks =
        some (writer kind format sdrBufferLen (file ++ bytes)) ∧
      Wrote (BlocksFit kind format sdrBufferLen blocks) format blocks.flatten bytes := by
  induction blocks generalizing file with
  | nil => exact ⟨[], by rw [List.append_nil]; rfl, wrote_nil (List.forall_mem_nil _) format⟩
  | cons block blocks ih =>
    obtain ⟨first, hfirst, hwrote⟩ := processTx_wrote kind format hlen block file
    obtain ⟨rest, hrest, hmore⟩ := ih (file ++ first)
    rw [List.append_assoc] at hrest
    refine ⟨first ++ rest, ?_, (hwrote.append hmore).congr ?_⟩
    · rw [processTxAll, hfirst, Option.bind_some]
      exact hrest
    · rw [BlocksFit, BlocksFit, List.forall_mem_cons]

/-! ## Reading -/

/-- A device that reads, with what is left of its file. -/
def reader (kind : FileKind) (format : SdrFileFormat) (sdrBufferLen : UInt32) (file : List UInt8) :
    Device :=
  ⟨some (kind, file), none, format, format, sdrBufferLen⟩

/-- A number of bytes that a call can return. -/
def Returns (bytes : Nat) : FileKind → Prop
  | .gz => bytes < 2 ^ 31
  | .plain => True

theorem Returns.mono {bytes less : Nat} {kind : FileKind} (h : Returns bytes kind)
    (hle : less ≤ bytes) : Returns less kind := by
  cases kind with
  | gz => exact Nat.lt_of_le_of_lt hle h
  | plain => trivial

/-- Whole samples are asked for, even where the number of bytes does not fit. -/
theorem dvd_asked (format : SdrFileFormat) (count : Nat) (kind : FileKind) :
    bytesPerSample format ∣ asked (bytesPerSample format) count kind := by
  cases kind with
  | gz =>
    refine (Nat.dvd_mod_iff ?_).mpr (Nat.dvd_mul_right _ _)
    cases format with
    | cu8 => decide
    | cs16 => decide
    | cf32 => decide
    | guess => decide
    | invalid => decide
  | plain => exact Nat.dvd_mul_right _ _

/-- The samples that are read back. -/
def stored (format : SdrFileFormat) (samples : List Cf32) : List Cf32 :=
  samples.map fun s => decodeSample format (encode format [s])

/-- **One call**: it takes `m` samples from the file, and returns them unless there are none or the
number of their bytes is no `int`. -/
theorem processRx_reader (kind : FileKind) (format : SdrFileFormat) (sdrBufferLen : UInt32)
    {samples : List Cf32} {k m : Nat}
    (hk : asked (bytesPerSample format) sdrBufferLen.toNat kind = bytesPerSample format * k)
    (hm : m = min k samples.length) :
    (processRx (reader kind format sdrBufferLen (encode format samples))).2 =
      reader kind format sdrBufferLen (encode format (samples.drop m)) ∧
    (0 < m ∧ Returns (bytesPerSample format * m) kind →
      (processRx (reader kind format sdrBufferLen (encode format samples))).1 =
        some (stored format (samples.take m))) ∧
    (¬ (0 < m ∧ Returns (bytesPerSample format * m) kind) →
      (processRx (reader kind format sdrBufferLen (encode format samples))).1 = none) := by
  have hpos := bytesPerSample_pos format
  have hle : m ≤ samples.length := by omega
  obtain ⟨htake, hdrop⟩ := encode_take_drop format hle
  have hcount : min (bytesPerSample format * k) (encode format samples).length =
      bytesPerSample format * m := by
    rw [length_encode, hm, Nat.mul_min_mul_left]
  have hdecode :
      decode format (encode format (samples.take m)) m = stored format (samples.take m) := by
    have hall := decode_encode format (samples.take m)
    rwa [List.length_take, Nat.min_eq_left hle] at hall
  cases kind with
  | gz =>
    have hasked : (UInt32.ofNat (bytesPerSample format * sdrBufferLen.toNat)).toNat =
        bytesPerSample format * k := by
      rw [UInt32.toNat_ofNat']
      exact hk
    have hbound : bytesPerSample format * m < 2 ^ 32 := by
      rw [← hcount, ← hasked]
      exact Nat.lt_of_le_of_lt (Nat.min_le_left _ _) (UInt32.toNat_lt _)
    simp only [processRx, reader, hasked, hcount, htake, hdrop]
    by_cases hreturns : 0 < m ∧ Returns (bytesPerSample format * m) .gz
    · have hresult : gzreadResult (bytesPerSample format * m) = (bytesPerSample format * m : Nat) :=
        if_pos hreturns.2
      have hsome : 0 < bytesPerSample format * m := Nat.mul_pos hpos hreturns.1
      rw [hresult, if_neg (by omega), Int.toNat_natCast, Nat.mul_div_cancel_left _ hpos, hdecode]
      exact ⟨rfl, fun _ => rfl, fun h => absurd hreturns h⟩
    · have hresult : gzreadResult (bytesPerSample format * m) ≤ 0 := by
        rw [gzreadResult]
        split
        · rename_i hfits
          have hzero : m = 0 := Nat.eq_zero_of_not_pos fun hm => hreturns ⟨hm, hfits⟩
          rw [hzero, Nat.mul_zero]
          exact le_refl _
        · omega
      rw [if_pos hresult]
      exact ⟨rfl, fun h => absurd h hreturns, fun _ => rfl⟩
  | plain =>
    have hasked : bytesPerSample format * sdrBufferLen.toNat = bytesPerSample format * k := hk
    simp only [processRx, reader, hasked, hcount, htake, hdrop,
      Nat.mul_div_cancel_left _ hpos, hdecode]
    by_cases hzero : m = 0
    · rw [if_pos hzero]
      exact ⟨rfl, fun h => absurd hzero h.1.ne', fun _ => rfl⟩
    · rw [if_neg hzero]
      exact ⟨rfl, fun _ => rfl, fun h => absurd ⟨Nat.pos_of_ne_zero hzero, trivial⟩ h⟩

section Replay
variable {kind : FileKind} {format : SdrFileFormat} {sdrBufferLen : UInt32} {samples : List Cf32}
variable {k : Nat}
variable (hk : asked (bytesPerSample format) sdrBufferLen.toNat kind = bytesPerSample format * k)
include hk

/-- A call that returns its samples, and the calls behind it. -/
theorem replay_returned (calls : Nat) (hpos : 0 < min k samples.length)
    (hreturns : Returns (bytesPerSample format * min k samples.length) kind) :
    (replay (calls + 1) (reader kind format sdrBufferLen (encode format samples))).flatten =
      stored format (samples.take (min k samples.length)) ++
        (replay calls (reader kind format sdrBufferLen
          (encode format (samples.drop (min k samples.length))))).flatten := by
  obtain ⟨hleft, hblock, -⟩ := processRx_reader kind format sdrBufferLen hk rfl
  rw [replay, hleft, hblock ⟨hpos, hreturns⟩]
  rfl

/-- A call that returns -1. -/
theorem replay_lost (calls : Nat)
    (h : ¬ (0 < min k samples.length ∧
      Returns (bytesPerSample format * min k samples.length) kind)) :
    replay (calls + 1) (reader kind format sdrBufferLen (encode format samples)) =
      replay calls (reader kind format sdrBufferLen
        (encode format (samples.drop (min k samples.length)))) := by
  obtain ⟨hleft, -, hnone⟩ := processRx_reader kind format sdrBufferLen hk rfl
  rw [replay, hleft, hnone h]
  rfl

/-- **Calls lose nothing** if something is asked for, and its number of bytes can be returned. -/
theorem replay_complete (hpos : 0 < k)
    (hreturns : Returns (bytesPerSample format * min k samples.length) kind)
    {calls : Nat} (hcalls : samples.length ≤ calls) :
    (replay calls (reader kind format sdrBufferLen (encode format samples))).flatten =
      stored format samples := by
  induction calls generalizing samples with
  | zero =>
    obtain rfl := List.length_eq_zero_iff.mp (Nat.le_zero.mp hcalls)
    rfl
  | succ calls ih =>
    have hless : Returns (bytesPerSample format *
        min k (samples.drop (min k samples.length)).length) kind := by
      refine hreturns.mono (Nat.mul_le_mul_left _ ?_)
      rw [List.length_drop]
      omega
    have hlater : (samples.drop (min k samples.length)).length ≤ calls := by
      rw [List.length_drop]
      omega
    by_cases hsome : 0 < min k samples.length
    · rw [replay_returned hk calls hsome hreturns, ih hless hlater, stored, stored,
        ← List.map_append, List.take_append_drop]
      rfl
    · have hnil : samples = [] := List.length_eq_zero_iff.mp (by omega)
      rw [replay_lost hk calls fun h => hsome h.1, ih hless hlater, hnil, List.drop_nil]

/-- Calls return no more than there is. -/
theorem length_replay_le (calls : Nat) :
    (replay calls (reader kind format sdrBufferLen (encode format samples))).flatten.length ≤
      samples.length := by
  induction calls generalizing samples with
  | zero => exact Nat.zero_le _
  | succ calls ih =>
    have hlater := @ih (samples.drop (min k samples.length))
    rw [List.length_drop] at hlater
    by_cases hreturns : 0 < min k samples.length ∧
        Returns (bytesPerSample format * min k samples.length) kind
    · rw [replay_returned hk calls hreturns.1 hreturns.2, List.length_append, stored,
        List.length_map, List.length_take]
      omega
    · rw [replay_lost hk calls hreturns]
      omega

/-- **Calls lose samples** if nothing is asked for, or too much. -/
theorem length_replay_lt (hsamples : samples ≠ [])
    (h : ¬ (0 < k ∧ Returns (bytesPerSample format * min k samples.length) kind)) (calls : Nat) :
    (replay calls (reader kind format sdrBufferLen (encode format samples))).flatten.length <
      samples.length := by
  have hpos := List.length_pos_of_ne_nil hsamples
  have hlost : ¬ (0 < min k samples.length ∧
      Returns (bytesPerSample format * min k samples.length) kind) :=
    fun hboth => h ⟨by omega, hboth.2⟩
  induction calls with
  | zero => exact hpos
  | succ calls ih =>
    rw [replay_lost hk calls hlost]
    by_cases hzero : min k samples.length = 0
    · rw [hzero, List.drop_zero]
      exact ih
    · refine Nat.lt_of_le_of_lt (length_replay_le hk calls) ?_
      rw [List.length_drop]
      omega

end Replay

/-! ## Both together -/

/-- **A file keeps the samples**: it has the bytes of every sample in order, and calls that read
it return every sample once. -/
def Keeps (kind : FileKind) (format : SdrFileFormat) (writeLen readLen : UInt32)
    (blocks : List (List Cf32)) : Prop :=
  ∃ file, processTxAll (writer kind format writeLen []) blocks =
      some (writer kind format writeLen file) ∧
    file = blocks.flatten.flatMap (fun s => encode format [s]) ∧
    ∀ calls ≥ blocks.flatten.length,
      (replay calls (reader kind format readLen file)).flatten =
        blocks.flatten.map fun s => decodeSample format (encode format [s])

/-- The reads of a file with this many samples. -/
def ReadsFit (kind : FileKind) (format : SdrFileFormat) (readLen : UInt32) (count : Nat) : Prop :=
  0 < asked (bytesPerSample format) readLen.toNat kind ∧
    Returns (min (asked (bytesPerSample format) readLen.toNat kind)
      (bytesPerSample format * count)) kind

/-- **When a file keeps the samples.** -/
theorem keeps_iff (kind : FileKind) (format : SdrFileFormat) {writeLen readLen : UInt32}
    (hwrite : 1 ≤ writeLen) (blocks : List (List Cf32)) :
    Keeps kind format writeLen readLen blocks ↔
      BlocksFit kind format writeLen blocks ∧
        (blocks.flatten = [] ∨ ReadsFit kind format readLen blocks.flatten.length) := by
  obtain ⟨bytes, hwritten, hwrote⟩ := processTxAll_wrote kind format hwrite blocks []
  rw [List.nil_append] at hwritten
  obtain ⟨k, hk⟩ := dvd_asked format readLen.toNat kind
  have hreads : ReadsFit kind format readLen blocks.flatten.length ↔
      0 < k ∧ Returns (bytesPerSample format * min k blocks.flatten.length) kind := by
    rw [ReadsFit, hk, Nat.mul_min_mul_left,
      Nat.mul_pos_iff_of_pos_left (bytesPerSample_pos format)]
  rw [hreads]
  constructor
  · rintro ⟨file, hfile, hencoded, hreplay⟩
    have hsame : some (kind, file) = some (kind, bytes) :=
      congrArg Device.tx (Option.some.inj (hfile.symm.trans hwritten))
    obtain rfl : file = bytes := congrArg Prod.snd (Option.some.inj hsame)
    rw [← encode_eq] at hencoded
    subst hencoded
    refine ⟨?_, ?_⟩
    · by_contra hfits
      exact absurd (hwrote.short hfits) (by rw [length_encode]; exact lt_irrefl _)
    · by_cases hnil : blocks.flatten = []
      · exact Or.inl hnil
      · refine Or.inr ?_
        by_contra hreturns
        have hlt := length_replay_lt hk hnil hreturns blocks.flatten.length
        rw [hreplay _ (le_refl _), List.length_map] at hlt
        exact lt_irrefl _ hlt
  · rintro ⟨hfits, hreads⟩
    obtain rfl := hwrote.complete hfits
    refine ⟨_, hwritten, encode_eq format _, fun calls hcalls => ?_⟩
    rcases hreads with hnil | ⟨hpos, hreturns⟩
    · have hnone := @length_replay_le kind format readLen blocks.flatten k hk calls
      rw [hnil] at hnone ⊢
      exact List.length_eq_zero_iff.mp (Nat.le_zero.mp hnone)
    · exact replay_complete hk hpos hreturns hcalls

/-- **The file backend keeps every sample of a plain file**, and of a compressed one exactly if no
chunk has as many bytes as an `unsigned int` has values; and the reader asks for a number of
bytes that is neither 0 nor too large for the `int` that `gzread` returns. -/
theorem sdr_file_keeps_samples_iff (format : SdrFileFormat) {writeLen readLen : UInt32}
    (hwrite : 1 ≤ writeLen) (hread : 1 ≤ readLen) (blocks : List (List Cf32)) :
    Keeps .plain format writeLen readLen blocks ∧
    (Keeps .gz format writeLen readLen blocks ↔
      (∀ block ∈ blocks, bytesPerSample format * min block.length writeLen.toNat < 2 ^ 32) ∧
      (blocks.flatten = [] ∨
        0 < bytesPerSample format * readLen.toNat % 2 ^ 32 ∧
        min (bytesPerSample format * readLen.toNat % 2 ^ 32)
          (bytesPerSample format * blocks.flatten.length) < 2 ^ 31)) := by
  constructor
  · have hpos : 0 < readLen.toNat := UInt32.le_iff_toNat_le.mp hread
    rw [keeps_iff .plain format hwrite]
    exact ⟨fun _ _ => trivial,
      Or.inr ⟨Nat.mul_pos (bytesPerSample_pos format) hpos, trivial⟩⟩
  · exact keeps_iff .gz format hwrite blocks

/-- Two blocks in chunks of two samples, and read in threes. -/
theorem sdr_file_keeps_four_samples :
    Keeps .gz .cf32 2 3 [[⟨0, 1⟩, ⟨2, 3⟩, ⟨4, 5⟩], [⟨6, 7⟩]] :=
  (sdr_file_keeps_samples_iff .cf32 (by decide) (by decide) _).2.mpr
    ⟨by decide, Or.inr (by decide)⟩

/-- A reader for `2 ^ 29` samples asks `gzread` for 0 bytes, and loses the only sample. -/
theorem sdr_file_loses_sample :
    ¬ Keeps .gz .cf32 1 536870912 [[⟨0x3f800000, 0⟩]] := by
  rintro ⟨file, -, rfl, hreplay⟩
  exact absurd (hreplay 1 (le_refl _)) (by decide)

end SdrFile
end SdrModem
