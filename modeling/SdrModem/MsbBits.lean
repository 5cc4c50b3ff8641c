import Mathlib.Data.List.Induction
import Mathlib.Data.Nat.Bitwise
import Mathlib.Data.Nat.Digits.Defs

/-!
# Bits with the highest first

The bits of a number in a given width, the highest first, with leading zeros.  Numbers that
are written one behind the other have their bits one behind the other, so the bits of a
number in a base that is a power of two are those of its digits.
-/
namespace MsbBits

/-- The bits of a number of this width. -/
def bits (width v : Nat) : List Bool := (List.range width).map fun i => v.testBit (width - 1 - i)

/-- Two numbers one behind the other. -/
theorem bits_append (a : Nat) {b x y : Nat} (h : y < 2 ^ b) :
    bits (a + b) (x * 2 ^ b + y) = bits a x ++ bits b y := by
  rw [bits, List.range_add, List.map_append, List.map_map, bits, bits, Nat.mul_comm x]
  congr 1
  · refine List.map_congr_left fun i hi => ?_
    have hlt := List.mem_range.mp hi
    rw [Nat.testBit_two_pow_mul_add _ h, if_neg (by omega)]
    congr 1
    omega
  · refine List.map_congr_left fun i hi => ?_
    have hlt := List.mem_range.mp hi
    rw [Function.comp_apply, Nat.testBit_two_pow_mul_add _ h, if_pos (by omega)]
    congr 1
    omega

/-- A digit behind the others. -/
theorem ofDigits_reverse_append (base : Nat) (digits : List Nat) (d : Nat) :
    Nat.ofDigits base (digits ++ [d]).reverse = Nat.ofDigits base digits.reverse * base + d := by
  rw [List.reverse_append, List.reverse_singleton, List.singleton_append, Nat.ofDigits_cons,
    Nat.add_comm, Nat.mul_comm]

/-- **The bits of a number are those of its digits.** -/
theorem bits_ofDigits (k : Nat) {digits : List Nat} (h : ∀ d ∈ digits, d < 2 ^ k) :
    bits (k * digits.length) (Nat.ofDigits (2 ^ k) digits.reverse) = digits.flatMap (bits k) := by
  induction digits using List.reverseRecOn with
  | nil => rfl
  | append_singleton digits d ih =>
    have hd : d < 2 ^ k := h d (List.mem_append_right _ (List.mem_singleton_self d))
    have hdigits := ih fun e he => h e (List.mem_append_left _ he)
    rw [ofDigits_reverse_append, List.length_append, List.length_singleton, Nat.mul_add,
      Nat.mul_one, bits_append _ hd, hdigits, List.flatMap_append, List.flatMap_singleton]

end MsbBits
