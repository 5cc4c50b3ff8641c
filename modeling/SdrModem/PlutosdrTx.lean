import Mathlib.Tactic.Linarith
import SdrModem.ConfigAdmits
import SdrModem.Demodulator

/-!
# The samples of the plutosdr: `plutosdr_process_tx`

The samples are put into the buffer of the device in batches of half of `sdr_buffer_len`,
with 16 bits for a component, and every batch is pushed.  The results of the pushes are
given.  The loop has no other bound than the samples that are left, so it is run with fuel:
it returns if some amount is enough.
-/
namespace SdrModem

/-- The body of the inner loop: to the interval of 16 bits, and to an integer. -/
def plutosdrTxComponent (x : ℚ) : Int :=
  let r := x * 32768
  rint (if r > 32767 then 32767 else if r < -32768 then -32768 else r)

/-- `iio_buffer_push_partial`: what is in the buffer, and the result. -/
structure IioPush where
  output : List Int
  result : Int
deriving DecidableEq, Repr

/-- The loop of `plutosdr_process_tx` with half of `sdr_buffer_len`, the results of the pushes
by their number, and the samples that are left. -/
def plutosdrProcessTxLoop (half : Nat) (results : Nat → Int) :
    Nat → Nat → List Iq → Option (Int × List IioPush)
  | _, _, [] => some (0, [])
  | 0, _, _ :: _ => none
  | fuel + 1, number, x :: xs =>
    let batch := if (x :: xs).length > half then half else (x :: xs).length
    let output := ((x :: xs).take batch).flatMap fun x =>
      [plutosdrTxComponent x.re, plutosdrTxComponent x.im]
    if results number < 0 then some (-1, [⟨output, results number⟩])
    else (plutosdrProcessTxLoop half results fuel (number + 1) ((x :: xs).drop batch)).map
      fun (code, pushes) => (code, ⟨output, results number⟩ :: pushes)

/-- `plutosdr_process_tx`: the code, and the pushes.  `txBuffer` is false if `tx_buffer` is
`NULL`. -/
def plutosdrProcessTx (fuel : Nat) (txBuffer : Bool) (sdrBufferLen : UInt32)
    (results : Nat → Int) (input : List Iq) : Option (Int × List IioPush) :=
  if txBuffer then plutosdrProcessTxLoop (sdrBufferLen.toNat / 2) results fuel 0 input
  else some (-1, [])

/-! ## What is transmitted -/

/-- The value of a component: scaled and rounded, and within 16 bits. -/
def dacValue (x : ℚ) : Int := max (-32768) (min 32767 (rint (x * 32768)))

/-- The components of samples, in order. -/
def txComponents (input : List Iq) : List Int :=
  input.flatMap fun x => [dacValue x.re, dacValue x.im]

/-- Everything that is pushed. -/
def pushed (pushes : List IioPush) : List Int := pushes.flatMap IioPush.output

/-- **What a call that has returned may have done**, with a buffer of this many samples. -/
structure TxOutcome (bufferLen : Nat) (input : List Iq) (code : Int) (pushes : List IioPush) :
    Prop where
  code_eq : code = 0 ∨ code = -1
  /-- a sample has two components -/
  fits : ∀ p ∈ pushes, p.output.length ≤ 2 * bufferLen
  /-- no push follows one that has failed -/
  last_failed : ∀ p ∈ pushes.dropLast, 0 ≤ p.result
  complete : code = 0 → pushed pushes = txComponents input ∧ ∀ p ∈ pushes, 0 ≤ p.result
  part : code = -1 → pushed pushes <+: txComponents input

/-- **The input is transmitted**: the call returns, and has done what it may. -/
def TransmitsInput (txBuffer : Bool) (sdrBufferLen : UInt32) (results : Nat → Int)
    (input : List Iq) : Prop :=
  ∃ fuel code pushes, plutosdrProcessTx fuel txBuffer sdrBufferLen results input =
    some (code, pushes) ∧ TxOutcome sdrBufferLen.toNat input code pushes

/-! ## A component -/

theorem rint_intCast (n : Int) : rint n = n :=
  le_antisymm (Ieee754.roundInt_le (le_refl _)) (Ieee754.le_roundInt (le_refl _))

/-- **To clamp and to round** can be done in either order. -/
theorem plutosdrTxComponent_eq (x : ℚ) : plutosdrTxComponent x = dacValue x := by
  unfold plutosdrTxComponent dacValue
  dsimp only
  generalize x * 32768 = r
  by_cases habove : r > 32767
  · have hleast : 32767 ≤ rint r := Ieee754.le_roundInt (by push_cast; linarith)
    have hconst : rint 32767 = 32767 := rint_intCast 32767
    rw [if_pos habove, hconst]
    omega
  · rw [if_neg habove]
    by_cases hbelow : r < -32768
    · have hmost : rint r ≤ -32768 := Ieee754.roundInt_le (by push_cast; linarith)
      have hconst : rint (-32768) = -32768 := rint_intCast (-32768)
      rw [if_pos hbelow, hconst]
      omega
    · rw [if_neg hbelow]
      have hleast : -32768 ≤ rint r := Ieee754.le_roundInt (by push_cast; linarith)
      have hmost : rint r ≤ 32767 := Ieee754.roundInt_le (by push_cast; linarith)
      omega

/-! ## The loop -/

section Loop
variable {half : Nat} {results : Nat → Int}

/-- The components of a batch, as they are pushed. -/
theorem batch_eq (input : List Iq) :
    (input.flatMap fun x => [plutosdrTxComponent x.re, plutosdrTxComponent x.im]) =
      txComponents input := by
  simp only [plutosdrTxComponent_eq]
  rfl

theorem length_txComponents (input : List Iq) : (txComponents input).length = 2 * input.length := by
  induction input with
  | nil => rfl
  | cons x xs ih =>
    change (txComponents xs).length + 1 + 1 = 2 * (xs.length + 1)
    omega

theorem txComponents_append (xs ys : List Iq) :
    txComponents (xs ++ ys) = txComponents xs ++ txComponents ys := List.flatMap_append

/-- **Whatever has been done when the loop returns** is right. -/
theorem TxOutcome.of_loop {fuel number : Nat} {input : List Iq} {code : Int}
    {pushes : List IioPush}
    (h : plutosdrProcessTxLoop half results fuel number input = some (code, pushes)) :
    TxOutcome half input code pushes := by
  induction fuel generalizing number input code pushes with
  | zero =>
    match input with
    | [] =>
      rw [plutosdrProcessTxLoop] at h
      obtain ⟨rfl, rfl⟩ := Prod.mk.inj (Option.some.inj h)
      exact ⟨Or.inl rfl, nofun, nofun, fun _ => ⟨rfl, nofun⟩, nofun⟩
    | _ :: _ => cases h
  | succ fuel ih =>
    match input with
    | [] =>
      rw [plutosdrProcessTxLoop] at h
      obtain ⟨rfl, rfl⟩ := Prod.mk.inj (Option.some.inj h)
      exact ⟨Or.inl rfl, nofun, nofun, fun _ => ⟨rfl, nofun⟩, nofun⟩
    | x :: xs =>
      rw [plutosdrProcessTxLoop, batch_eq] at h
      dsimp only at h
      generalize hbatch : (if (x :: xs).length > half then half else (x :: xs).length) = batch at h
      have hfits : (txComponents ((x :: xs).take batch)).length ≤ 2 * half := by
        rw [length_txComponents, List.length_take]
        split at hbatch <;> omega
      have hsplit : txComponents (x :: xs) =
          txComponents ((x :: xs).take batch) ++ txComponents ((x :: xs).drop batch) := by
        rw [← txComponents_append, List.take_append_drop]
      split at h
      · rename_i hfailed
        obtain ⟨rfl, rfl⟩ := Prod.mk.inj (Option.some.inj h)
        refine ⟨Or.inr rfl, ?_, nofun, nofun, fun _ => ?_⟩
        · rintro p hp
          obtain rfl := List.mem_singleton.mp hp
          exact hfits
        · have hone : pushed [⟨txComponents ((x :: xs).take batch), results number⟩] =
              txComponents ((x :: xs).take batch) := List.append_nil _
          rw [hone, hsplit]
          exact List.prefix_append _ _
      · rename_i hok
        obtain ⟨⟨code', rest⟩, hrest, h⟩ := Option.map_eq_some_iff.mp h
        obtain ⟨rfl, rfl⟩ := Prod.mk.inj h
        have hnext := ih hrest
        have hnonneg : 0 ≤ results number := not_lt.mp hok
        refine ⟨hnext.code_eq, ?_, ?_, fun hcode => ⟨?_, ?_⟩, fun hcode => ?_⟩
        · intro p hp
          rcases List.mem_cons.mp hp with rfl | hp
          · exact hfits
          · exact hnext.fits p hp
        · intro p hp
          cases rest with
          | nil => cases hp
          | cons q rest =>
            rcases List.mem_cons.mp hp with rfl | hp
            · exact hnonneg
            · exact hnext.last_failed p hp
        · rw [hsplit, ← (hnext.complete hcode).1]
          rfl
        · intro p hp
          rcases List.mem_cons.mp hp with rfl | hp
          · exact hnonneg
          · exact (hnext.complete hcode).2 p hp
        · rw [hsplit]
          exact (List.prefix_append_right_inj _).mpr (hnext.part hcode)

/-- **With room for a sample the loop ends.** -/
theorem loop_returns (hhalf : 1 ≤ half) {fuel : Nat} (number : Nat) {input : List Iq}
    (hfuel : input.length ≤ fuel) :
    ∃ code pushes, plutosdrProcessTxLoop half results fuel number input = some (code, pushes) := by
  induction fuel generalizing number input with
  | zero =>
    obtain rfl := List.length_eq_zero_iff.mp (Nat.le_zero.mp hfuel)
    exact ⟨0, [], by rw [plutosdrProcessTxLoop]⟩
  | succ fuel ih =>
    match input with
    | [] => exact ⟨0, [], by rw [plutosdrProcessTxLoop]⟩
    | x :: xs =>
      rw [plutosdrProcessTxLoop]
      dsimp only
      split
      · exact ⟨_, _, rfl⟩
      · generalize hbatch : (if (x :: xs).length > half then half else (x :: xs).length) = batch
        have hlive : 1 ≤ batch := by
          rw [List.length_cons] at hbatch
          split at hbatch <;> omega
        obtain ⟨code, pushes, hrest⟩ := ih (number + 1)
          (show ((x :: xs).drop batch).length ≤ fuel by rw [List.length_drop]; omega)
        rw [hrest]
        exact ⟨_, _, rfl⟩

/-- One push is enough if it fails. -/
theorem loop_one_failed (half : Nat) {number : Nat} (hfailed : results number < 0) (x : Iq)
    (xs : List Iq) : ∃ code pushes,
      plutosdrProcessTxLoop half results 1 number (x :: xs) = some (code, pushes) := by
  rw [plutosdrProcessTxLoop]
  dsimp only
  rw [if_pos hfailed]
  exact ⟨_, _, rfl⟩

/-- **A push that fails ends the loop.** -/
theorem loop_returns_of_failed (number count : Nat) (hfailed : results (number + count) < 0)
    (input : List Iq) : ∃ fuel code pushes,
      plutosdrProcessTxLoop half results fuel number input = some (code, pushes) := by
  induction count generalizing number input with
  | zero =>
    match input with
    | [] => exact ⟨0, 0, [], by rw [plutosdrProcessTxLoop]⟩
    | x :: xs => exact ⟨1, loop_one_failed half hfailed x xs⟩
  | succ count ih =>
    match input with
    | [] => exact ⟨0, 0, [], by rw [plutosdrProcessTxLoop]⟩
    | x :: xs =>
      obtain ⟨fuel, code, pushes, hrest⟩ := ih (number + 1)
        (by rw [Nat.add_right_comm]; exact hfailed)
        ((x :: xs).drop (if (x :: xs).length > half then half else (x :: xs).length))
      by_cases hnow : results number < 0
      · exact ⟨1, loop_one_failed half hnow x xs⟩
      · refine ⟨fuel + 1, ?_⟩
        rw [plutosdrProcessTxLoop]
        dsimp only
        rw [if_neg hnow, hrest]
        exact ⟨_, _, rfl⟩

/-- **Without room for a sample it goes on and on**, and pushes nothing. -/
theorem loop_goes_on (hresults : ∀ n, 0 ≤ results n) {input : List Iq} (hinput : input ≠ [])
    (fuel number : Nat) : plutosdrProcessTxLoop 0 results fuel number input = none := by
  induction fuel generalizing number with
  | zero =>
    match input with
    | [] => exact absurd rfl hinput
    | _ :: _ => rfl
  | succ fuel ih =>
    match input with
    | [] => exact absurd rfl hinput
    | x :: xs =>
      have hmore : (x :: xs).length > 0 := by simp
      rw [plutosdrProcessTxLoop]
      dsimp only
      rw [if_pos hmore, if_neg (not_lt.mpr (hresults number)), List.drop_zero, ih]
      rfl

end Loop

/-- **When the input is transmitted.** -/
theorem plutosdr_transmits_iff (txBuffer : Bool) (sdrBufferLen : UInt32) (results : Nat → Int)
    (input : List Iq) :
    TransmitsInput txBuffer sdrBufferLen results input ↔
      2 ≤ sdrBufferLen.toNat ∨ input = [] ∨ (∃ n, results n < 0) ∨ txBuffer = false := by
  constructor
  · rintro ⟨fuel, code, pushes, hreturns, -⟩
    by_contra hnot
    simp only [not_or, not_exists, not_lt] at hnot
    obtain ⟨hsmall, hinput, hresults, hbuffer⟩ := hnot
    have hhalf : sdrBufferLen.toNat / 2 = 0 := by omega
    rw [Bool.not_eq_false] at hbuffer
    rw [plutosdrProcessTx, if_pos hbuffer, hhalf, loop_goes_on hresults hinput] at hreturns
    cases hreturns
  · intro hcondition
    by_cases hbuffer : txBuffer = true
    · have hreturns : ∃ fuel code pushes, plutosdrProcessTxLoop (sdrBufferLen.toNat / 2) results
          fuel 0 input = some (code, pushes) := by
        rcases hcondition with hlarge | rfl | ⟨n, hn⟩ | hnone
        · exact ⟨_, loop_returns (by omega) 0 (le_refl input.length)⟩
        · exact ⟨0, 0, [], by rw [plutosdrProcessTxLoop]⟩
        · exact loop_returns_of_failed 0 n (by rwa [Nat.zero_add]) input
        · rw [hnone] at hbuffer
          cases hbuffer
      obtain ⟨fuel, code, pushes, hreturns⟩ := hreturns
      refine ⟨fuel, code, pushes, ?_, ?_⟩
      · rw [plutosdrProcessTx, if_pos hbuffer, hreturns]
      · have h := TxOutcome.of_loop hreturns
        exact { h with fits := fun p hp => (h.fits p hp).trans (by omega) }
    · refine ⟨0, -1, [], if_neg hbuffer, Or.inr rfl, nofun, nofun, nofun, fun _ => ?_⟩
      exact List.nil_prefix

/-- A buffer of one sample is admitted, and a call with a sample never returns. -/
theorem plutosdr_one_sample_never_returns :
    ∃ config, appConfigCreate queueEnv
        (optionArgs ((.sdrBufferLen, "1") :: serverOptions "8093")) = .ok config ∧
      config.appConfig.sdrBufferLen = 1 ∧
      ¬ TransmitsInput true config.appConfig.sdrBufferLen (fun _ => 0) [⟨1, 0⟩] := by
  have hvalues : (appConfigCreate queueEnv
      (optionArgs ((.sdrBufferLen, "1") :: serverOptions "8093"))).map
      (fun config => config.settings .sdrBufferLen) = .ok 1 := by decide
  obtain ⟨config, hconfig, hvalue⟩ := map_ok.mp hvalues
  have hlen : config.appConfig.sdrBufferLen = 1 := hvalue
  refine ⟨config, hconfig, hlen, ?_⟩
  rintro ⟨fuel, code, pushes, hreturns, -⟩
  rw [hlen, plutosdrProcessTx, if_pos rfl] at hreturns
  have hhalf : UInt32.toNat 1 / 2 = 0 := rfl
  rw [hhalf, loop_goes_on (fun _ => le_refl 0) (List.cons_ne_nil _ _)] at hreturns
  cases hreturns

end SdrModem
