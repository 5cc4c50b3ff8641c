import SdrModem.Config
import SdrModem.Modulator
import SdrModem.MsbBits

/-!
# The sync word

A sync word is a string of hexadecimal digits in the settings
(`app_config_parse_syncword`), a number with its count of bits in
`gfsk_correlator_create_template`, and the beginning of a byte string that
`gfsk_modem_modulate` sends.  All three have the same bits in the same order.
-/
namespace SdrModem
open Libc MsbBits

/-- `app_config_parse_syncword`, with the settings. -/
def appConfigSetSyncword (hex : String) (settings : GfskModemSettings) : Int × GfskModemSettings :=
  match appConfigParseSyncword hex with
  | .error code => (code, settings)
  | .ok (syncword, syncwordBits) =>
    (0, { settings with syncword := syncword, syncwordBits := syncwordBits })

/-! ## The template -/

/-- The symbols of `gfsk_correlator_create_template`. -/
def gfskCorrelatorSymbols (syncword : UInt64) (syncwordBits : Nat) : List ℚ :=
  (List.range syncwordBits).map fun i =>
    if syncword >>> UInt64.ofNat (syncwordBits - i - 1) &&& 1 ≠ 0 then 1 else -1

/-- A symbol and its pulse are added to the template. -/
def gfskCorrelatorAddPulse (sps : Nat) (pulse template : List ℚ) (symbol : ℚ) (i : Nat) : List ℚ :=
  let center : Int := i * sps + sps / 2
  template.mapIdx fun j value =>
    let pulseIndex : Int := j - center + pulse.length / 2
    if pulseIndex ≥ 0 ∧ pulseIndex < pulse.length then
      value + symbol * pulse.getD pulseIndex.toNat 0
    else value

/-- The pulses of symbols, one behind the other. -/
def superpose (sps : Nat) (pulse : List ℚ) (templateLen : Nat) (symbols : List ℚ) : List ℚ :=
  symbols.zipIdx.foldl (fun template s => gfskCorrelatorAddPulse sps pulse template s.1 s.2)
    (List.replicate templateLen 0)

/-- `gfsk_correlator_create_template`, before the mean is subtracted. -/
def gfskCorrelatorTemplate (sps : Nat) (pulse : List ℚ) (templateLen : Nat) (syncword : UInt64)
    (syncwordBits : Nat) : List ℚ :=
  superpose sps pulse templateLen (gfskCorrelatorSymbols syncword syncwordBits)

/-! ## Hexadecimal digits -/

/-- The digits in order. -/
def hexAlphabet : List Char := "0123456789abcdef".toList

/-- What a digit is worth, in either case. -/
def hexValue (c : Char) : Nat := hexAlphabet.idxOf c.toLower

/-- **A string that spells a sync word.** -/
structure Spells (hex : String) (digits : List Char) : Prop where
  text : hex.toList = digits ∨ hex.toList = '0' :: 'x' :: digits ∨ hex.toList = '0' :: 'X' :: digits
  length_pos : 1 ≤ digits.length
  length_le : digits.length ≤ 16
  digit : ∀ d ∈ digits, d.toLower ∈ hexAlphabet

/-- The bits of the digits, the highest of every digit first. -/
def digitBits (digits : List Char) : List Bool := digits.flatMap fun d => bits 4 (hexValue d)

/-- How bytes are spelled. -/
def hexSpelling (bytes : List UInt8) : List Char :=
  bytes.flatMap fun b => [hexAlphabet.getD (b.toNat / 16) ' ', hexAlphabet.getD (b.toNat % 16) ' ']

/-- The parser knows the digits. -/
theorem hexToNibble_eq (c : Char) :
    appConfigHexToNibble c =
      if c.toLower ∈ hexAlphabet then some (UInt64.ofNat (hexValue c)) else none := by
  by_cases hascii : c.toNat < 128
  · have hall : ∀ n < 128, appConfigHexToNibble (Char.ofNat n) =
        if (Char.ofNat n).toLower ∈ hexAlphabet then some (UInt64.ofNat (hexValue (Char.ofNat n)))
        else none := by
      decide +kernel
    have hone := hall c.toNat hascii
    rwa [Char.ofNat_toNat] at hone
  · have hlower : c.toLower = c :=
      dif_neg fun h => hascii (Nat.lt_of_le_of_lt (UInt32.le_iff_toNat_le.mp h.2) (by decide))
    have hmem : c.toLower ∉ hexAlphabet := by
      have hsmall : hexAlphabet.all (fun d => d.toNat < 128) = true := by decide
      rw [hlower]
      exact fun h => hascii (of_decide_eq_true (List.all_eq_true.mp hsmall c h))
    have hnone : digitValue c = none := by
      rw [digitValue, if_neg (by omega), if_neg (by omega), if_neg (by omega)]
    rw [if_neg hmem, appConfigHexToNibble, isDigit, hnone]
    rfl

theorem hexValue_lt {c : Char} (h : c.toLower ∈ hexAlphabet) : hexValue c < 16 :=
  List.idxOf_lt_length_of_mem h

/-! ## The number of the digits -/

/-- One more digit. -/
theorem toNat_shift_or {word : UInt64} (hword : word.toNat < 2 ^ 60) {d : Nat} (hd : d < 16) :
    (word <<< 4 ||| UInt64.ofNat d).toNat = word.toNat * 16 + d := by
  have hshift : (word <<< 4).toNat = word.toNat <<< 4 := by
    have hfour : UInt64.toNat 4 % 64 = 4 := rfl
    rw [UInt64.toNat_shiftLeft, hfour, Nat.shiftLeft_eq]
    exact Nat.mod_eq_of_lt (by omega)
  rw [UInt64.toNat_or, hshift, UInt64.toNat_ofNat_of_lt' (hd.trans (by decide)),
    ← Nat.shiftLeft_add_eq_or_of_lt hd, Nat.shiftLeft_eq]

theorem ofDigits_lt {digits : List Nat} (hdigits : ∀ d ∈ digits, d < 16) {n : Nat}
    (hlength : digits.length ≤ n) : Nat.ofDigits 16 digits.reverse < 2 ^ (4 * n) := by
  have hlt := Nat.ofDigits_lt_base_pow_length (by decide : 1 < 16)
    fun d hd => hdigits d (List.mem_reverse.mp hd)
  rw [List.length_reverse] at hlt
  calc Nat.ofDigits 16 digits.reverse < 16 ^ digits.length := hlt
    _ ≤ 16 ^ n := Nat.pow_le_pow_right (by decide) hlength
    _ = 2 ^ (4 * n) := by rw [Nat.pow_mul]

/-- **The loop of the parser**: the number that the digits are. -/
theorem foldl_nibbles {digits : List Nat} (hdigits : ∀ d ∈ digits, d < 16)
    (hlength : digits.length ≤ 16) :
    ((digits.map UInt64.ofNat).foldl
        (fun (word nibble : UInt64) => word <<< 4 ||| nibble) 0).toNat =
      Nat.ofDigits 16 digits.reverse := by
  induction digits using List.reverseRecOn with
  | nil => rfl
  | append_singleton digits d ih =>
    rw [List.length_append, List.length_singleton] at hlength
    have hd : d < 16 := hdigits d (List.mem_append_right _ (List.mem_singleton_self d))
    have hfirst : ∀ e ∈ digits, e < 16 := fun e he => hdigits e (List.mem_append_left _ he)
    have hnumber := ih hfirst (by omega)
    have hlt : Nat.ofDigits 16 digits.reverse < 2 ^ (4 * 15) := ofDigits_lt hfirst (by omega)
    rw [List.map_append, List.foldl_append, List.map_singleton, List.foldl_cons, List.foldl_nil,
      toNat_shift_or (by rw [hnumber]; exact hlt) hd, hnumber, ofDigits_reverse_append]

/-! ## The parser -/

/-- The nibbles of digits, ... -/
theorem mapM_hexToNibble {digits : List Char} (h : ∀ d ∈ digits, d.toLower ∈ hexAlphabet) :
    digits.mapM appConfigHexToNibble = some ((digits.map hexValue).map UInt64.ofNat) := by
  induction digits with
  | nil => rfl
  | cons d digits ih =>
    obtain ⟨hd, hdigits⟩ := List.forall_mem_cons.mp h
    rw [List.mapM_cons, hexToNibble_eq, if_pos hd, ih hdigits]
    rfl

/-- ... and of other characters. -/
theorem mapM_hexToNibble_none {digits : List Char} (h : ¬ ∀ d ∈ digits, d.toLower ∈ hexAlphabet) :
    digits.mapM appConfigHexToNibble = none := by
  induction digits with
  | nil => exact absurd (List.forall_mem_nil _) h
  | cons d digits ih =>
    rw [List.mapM_cons, hexToNibble_eq]
    by_cases hd : d.toLower ∈ hexAlphabet
    · rw [if_pos hd, ih fun hdigits => h (List.forall_mem_cons.mpr ⟨hd, hdigits⟩)]
      rfl
    · rw [if_neg hd]
      rfl

/-- What is left of a string behind its prefix. -/
def withoutPrefix (text : List Char) : List Char :=
  if "0x".toList.isPrefixOf text || "0X".toList.isPrefixOf text then text.drop 2 else text

theorem withoutPrefix_cases (text : List Char) :
    text = withoutPrefix text ∨ text = '0' :: 'x' :: withoutPrefix text ∨
      text = '0' :: 'X' :: withoutPrefix text := by
  by_cases hlower : "0x".toList <+: text
  · obtain ⟨rest, rfl⟩ := hlower
    exact Or.inr (Or.inl rfl)
  · by_cases hupper : "0X".toList <+: text
    · obtain ⟨rest, rfl⟩ := hupper
      exact Or.inr (Or.inr rfl)
    · refine Or.inl (if_neg ?_).symm
      rw [Bool.or_eq_true, List.isPrefixOf_iff_prefix, List.isPrefixOf_iff_prefix]
      exact not_or.mpr ⟨hlower, hupper⟩

/-- The prefix has a character that is no digit. -/
theorem withoutPrefix_of_digits {digits : List Char} (h : ∀ d ∈ digits, d.toLower ∈ hexAlphabet) :
    withoutPrefix digits = digits := by
  rcases withoutPrefix_cases digits with heq | heq | heq
  · exact heq.symm
  · exact absurd (h 'x' (by rw [heq]; exact List.mem_cons_of_mem _ List.mem_cons_self)) (by decide)
  · exact absurd (h 'X' (by rw [heq]; exact List.mem_cons_of_mem _ List.mem_cons_self)) (by decide)

theorem spells_iff {hex : String} {digits : List Char} :
    Spells hex digits ↔ digits = withoutPrefix hex.toList ∧ 1 ≤ digits.length ∧
      digits.length ≤ 16 ∧ ∀ d ∈ digits, d.toLower ∈ hexAlphabet := by
  constructor
  · rintro ⟨htext, hpos, hle, hdigit⟩
    refine ⟨?_, hpos, hle, hdigit⟩
    rcases htext with htext | htext | htext
    · rw [htext, withoutPrefix_of_digits hdigit]
    · rw [htext]
      rfl
    · rw [htext]
      rfl
  · rintro ⟨rfl, hpos, hle, hdigit⟩
    exact ⟨withoutPrefix_cases _, hpos, hle, hdigit⟩

/-- The parser, with the prefix taken off. -/
theorem parseSyncword_eq (hex : String) :
    appConfigParseSyncword hex =
      if (withoutPrefix hex.toList).length = 0 || 16 < (withoutPrefix hex.toList).length then
        .error einval
      else
        match (withoutPrefix hex.toList).mapM appConfigHexToNibble with
        | none => .error einval
        | some nibbles =>
          .ok (nibbles.foldl (fun word nibble => word <<< 4 ||| nibble) 0,
            UInt32.ofNat ((withoutPrefix hex.toList).length * 4)) := rfl

/-- **What the parser accepts.** -/
theorem parseSyncword_of_spells {hex : String} {digits : List Char} (h : Spells hex digits) :
    ∃ word : UInt64, word.toNat = Nat.ofDigits 16 (digits.map hexValue).reverse ∧
      appConfigParseSyncword hex = .ok (word, UInt32.ofNat (digits.length * 4)) := by
  obtain ⟨rfl, hpos, hle, hdigit⟩ := spells_iff.mp h
  have hvalues : ∀ v ∈ (withoutPrefix hex.toList).map hexValue, v < 16 := by
    intro v hv
    obtain ⟨d, hd, rfl⟩ := List.mem_map.mp hv
    exact hexValue_lt (hdigit d hd)
  refine ⟨_, foldl_nibbles hvalues (by rw [List.length_map]; exact hle), ?_⟩
  have hlength : ¬ (decide ((withoutPrefix hex.toList).length = 0) ||
      decide (16 < (withoutPrefix hex.toList).length)) = true := by
    rw [Bool.or_eq_true, decide_eq_true_iff, decide_eq_true_iff]
    omega
  rw [parseSyncword_eq, if_neg hlength, mapM_hexToNibble hdigit]

/-- **What it does not accept.** -/
theorem parseSyncword_of_not_spells {hex : String} (h : ∀ digits, ¬ Spells hex digits) :
    appConfigParseSyncword hex = .error einval := by
  rw [parseSyncword_eq]
  split
  · rfl
  · rename_i hlength
    rw [Bool.or_eq_true, decide_eq_true_iff, decide_eq_true_iff] at hlength
    rw [mapM_hexToNibble_none fun hdigit =>
      h _ (spells_iff.mpr ⟨rfl, by omega, by omega, hdigit⟩)]

/-! ## The template and the modulator -/

/-- The expression for a symbol. -/
theorem shiftRight_and_one (word : UInt64) {k : Nat} (hk : k < 64) :
    word >>> UInt64.ofNat k &&& 1 ≠ 0 ↔ word.toNat.testBit k = true := by
  have hone : UInt64.toNat 1 = 1 := rfl
  have hzero : UInt64.toNat 0 = 0 := rfl
  rw [Ne, ← UInt64.toNat_inj, UInt64.toNat_and, UInt64.toNat_shiftRight,
    UInt64.toNat_ofNat_of_lt' (hk.trans (by decide)), Nat.mod_eq_of_lt hk, hone, hzero,
    Nat.testBit, Nat.and_comm, bne_iff_ne]

/-- **The symbols of a number are its bits.** -/
theorem symbols_eq (word : UInt64) {n : Nat} (hn : n ≤ 64) :
    gfskCorrelatorSymbols word n = (bits n word.toNat).map fun b => if b then 1 else -1 := by
  rw [gfskCorrelatorSymbols, bits, List.map_map]
  refine List.map_congr_left fun i hi => ?_
  have hlt := List.mem_range.mp hi
  have hbit := shiftRight_and_one word (show n - i - 1 < 64 by omega)
  have hindex : n - i - 1 = n - 1 - i := by omega
  rw [hindex] at hbit
  rw [Function.comp_apply, hindex]
  exact if_congr hbit rfl rfl

theorem hexValue_getD {v : Nat} (hv : v < 16) : hexValue (hexAlphabet.getD v ' ') = v := by
  have hall : ∀ v < 16, hexValue (hexAlphabet.getD v ' ') = v := by decide
  exact hall v hv

/-- **The modulator sends the bits of the digits.** -/
theorem inputBits_eq (bytes : List UInt8) : inputBits bytes = digitBits (hexSpelling bytes) := by
  have hbyte : ∀ b : UInt8, byteBits b = digitBits (hexSpelling [b]) := by
    intro b
    have hbound := b.toNat_lt
    have hlow : b.toNat % 16 < 2 ^ 4 := Nat.mod_lt _ (by decide)
    have hbits : digitBits (hexSpelling [b]) =
        bits 4 (hexValue (hexAlphabet.getD (b.toNat / 16) ' ')) ++
          bits 4 (hexValue (hexAlphabet.getD (b.toNat % 16) ' ')) := rfl
    have hsplit : b.toNat / 16 * 2 ^ 4 + b.toNat % 16 = b.toNat := Nat.div_add_mod' b.toNat 16
    have hboth : byteBits b = bits (4 + 4) (b.toNat / 16 * 2 ^ 4 + b.toNat % 16) := by
      rw [hsplit]
      rfl
    rw [hbits, hexValue_getD (by omega), hexValue_getD hlow, hboth, bits_append 4 hlow]
  rw [inputBits, digitBits, hexSpelling, List.flatMap_assoc]
  exact congrArg (bytes.flatMap ·) (funext hbyte)

theorem digitBits_eq {digits : List Char} (h : ∀ d ∈ digits, d.toLower ∈ hexAlphabet) :
    digitBits digits =
      bits (4 * digits.length) (Nat.ofDigits 16 (digits.map hexValue).reverse) := by
  have hvalues : ∀ v ∈ digits.map hexValue, v < 2 ^ 4 := by
    intro v hv
    obtain ⟨d, hd, rfl⟩ := List.mem_map.mp hv
    exact hexValue_lt (h d hd)
  have hbits := bits_ofDigits 4 hvalues
  rw [List.length_map, List.flatMap_map] at hbits
  exact hbits.symm

/-- Digits in either case have the same bits. -/
theorem digitBits_toLower {digits : List Char} (h : ∀ d ∈ digits, d.toLower ∈ hexAlphabet) :
    digitBits (digits.map Char.toLower) = digitBits digits := by
  have hfixed : hexAlphabet.all (fun c => c.toLower = c) = true := by decide
  rw [digitBits, List.flatMap_map]
  refine List.flatMap_congr fun d hd => ?_
  rw [hexValue, of_decide_eq_true (List.all_eq_true.mp hfixed _ (h d hd)), hexValue]

/-- **What digits become**: a number, the symbols of the template, and the first bits that are
sent. -/
structure UsedAs (digits : List Char) (syncword : UInt64) (syncwordBits : UInt32) : Prop where
  number : syncword.toNat = Nat.ofDigits 16 (digits.map hexValue).reverse
  length : syncwordBits.toNat = 4 * digits.length
  symbols : gfskCorrelatorSymbols syncword syncwordBits.toNat =
    (digitBits digits).map fun b => if b then 1 else -1
  template : ∀ sps pulse templateLen,
    gfskCorrelatorTemplate sps pulse templateLen syncword syncwordBits.toNat =
      superpose sps pulse templateLen ((digitBits digits).map fun b => if b then 1 else -1)
  sent : ∀ bytes, digits.map Char.toLower <+: hexSpelling bytes →
    digitBits digits <+: inputBits bytes

theorem setSyncword_of_spells {hex : String} {digits : List Char} (h : Spells hex digits)
    (settings : GfskModemSettings) :
    ∃ syncword syncwordBits,
      appConfigSetSyncword hex settings =
        (0, { settings with syncword := syncword, syncwordBits := syncwordBits }) ∧
      UsedAs digits syncword syncwordBits := by
  obtain ⟨word, hnumber, hparse⟩ := parseSyncword_of_spells h
  have hle := h.length_le
  have hlength : (UInt32.ofNat (digits.length * 4)).toNat = 4 * digits.length := by
    rw [UInt32.toNat_ofNat', Nat.mod_eq_of_lt (by omega), Nat.mul_comm]
  have hsymbols : gfskCorrelatorSymbols word (UInt32.ofNat (digits.length * 4)).toNat =
      (digitBits digits).map fun b => if b then 1 else -1 := by
    rw [hlength, symbols_eq word (by omega), hnumber, digitBits_eq h.digit]
  refine ⟨word, UInt32.ofNat (digits.length * 4), by rw [appConfigSetSyncword, hparse],
    ⟨hnumber, hlength, hsymbols, fun sps pulse templateLen => ?_, fun bytes hbytes => ?_⟩⟩
  · rw [gfskCorrelatorTemplate, hsymbols]
  · obtain ⟨rest, hrest⟩ := hbytes
    refine ⟨digitBits rest, ?_⟩
    rw [inputBits_eq, ← hrest, ← digitBits_toLower h.digit, digitBits, digitBits, digitBits,
      List.flatMap_append]

/-- **The sync word is read and used bit for bit.** -/
theorem syncword_bit_for_bit (hex : String) (settings : GfskModemSettings) :
    ((appConfigSetSyncword hex settings).1 = 0 ↔ ∃ digits, Spells hex digits) ∧
    ((appConfigSetSyncword hex settings).1 ≠ 0 → (appConfigSetSyncword hex settings).2 = settings) ∧
    ∀ digits, Spells hex digits → ∃ syncword syncwordBits,
      appConfigSetSyncword hex settings =
        (0, { settings with syncword := syncword, syncwordBits := syncwordBits }) ∧
      UsedAs digits syncword syncwordBits := by
  by_cases h : ∃ digits, Spells hex digits
  · obtain ⟨digits, hspells⟩ := h
    obtain ⟨syncword, syncwordBits, hresult, -⟩ := setSyncword_of_spells hspells settings
    have hcode : (appConfigSetSyncword hex settings).1 = 0 := by rw [hresult]
    exact ⟨iff_of_true hcode ⟨digits, hspells⟩, fun hfailed => absurd hcode hfailed,
      fun other hother => setSyncword_of_spells hother settings⟩
  · have hresult : appConfigSetSyncword hex settings = (einval, settings) := by
      rw [appConfigSetSyncword, parseSyncword_of_not_spells (not_exists.mp h)]
    have hcode : einval ≠ 0 := by decide
    rw [hresult]
    exact ⟨iff_of_false hcode h, fun _ => rfl, fun digits hspells => absurd ⟨digits, hspells⟩ h⟩

end SdrModem
