import Mathlib.Data.List.Basic
import Mathlib.Data.Nat.Bitwise
import Mathlib.Tactic.Ring

/- digest: Numbers written in a fixed number of bits, the most significant bit first. -/

set_option autoImplicit false
set_option relaxedAutoImplicit false

namespace KernelAv.Lib.BitStrings

/-- The last `w` binary digits of a number, the most significant one first. -/
def natBits (w n : Nat) : List Bool :=
  (List.range w).map fun i => n.testBit (w - 1 - i)

/-- The number that a bit string spells. -/
def bitsVal (bits : List Bool) : Nat :=
  bits.foldl (fun n b => 2 * n + b.toNat) 0

/-- The bits of a byte sequence, each byte with its most significant bit first. -/
def bytesBits (bytes : List UInt8) : List Bool :=
  bytes.flatMap fun b => natBits 8 b.toNat

@[simp] theorem natBits_length (w n : Nat) : (natBits w n).length = w := by
  simp [natBits]

/-- A number is written as its high digits and behind them its low ones. -/
theorem natBits_add (v w n : Nat) :
    natBits (v + w) n = natBits v (n >>> w) ++ natBits w n := by
  rw [natBits, natBits, natBits, List.range_add, List.map_append, List.map_map]
  congr 1
  · refine List.map_congr_left fun i hi => ?_
    have hlt : i < v := List.mem_range.mp hi
    have hidx : v + w - 1 - i = w + (v - 1 - i) := by omega
    rw [hidx, Nat.testBit_shiftRight]
  · refine List.map_congr_left fun i hi => ?_
    have hidx : v + w - 1 - (v + i) = w - 1 - i := by omega
    rw [Function.comp_apply, hidx]

theorem natBits_mod (w n : Nat) : natBits w (n % 2 ^ w) = natBits w n := by
  refine List.map_congr_left fun i hi => ?_
  have hlt : i < w := List.mem_range.mp hi
  have hidx : w - 1 - i < w := by omega
  rw [Nat.testBit_mod_two_pow, decide_eq_true hidx, Bool.true_and]

@[simp] theorem bytesBits_append (xs ys : List UInt8) :
    bytesBits (xs ++ ys) = bytesBits xs ++ bytesBits ys :=
  List.flatMap_append

/-- A number of `k` bytes is written byte after byte. -/
theorem natBits_bytes (k n : Nat) :
    natBits (k * 8) n = (List.range k).flatMap fun i => natBits 8 (n >>> (8 * (k - 1 - i))) := by
  induction k generalizing n with
  | zero => simp [natBits]
  | succ k ih =>
    have hsplit : (k + 1) * 8 = k * 8 + 8 := Nat.succ_mul k 8
    rw [hsplit, natBits_add, ih, List.range_succ, List.flatMap_append, List.flatMap_singleton]
    congr 1
    · refine List.flatMap_congr fun i hi => ?_
      have hlt : i < k := List.mem_range.mp hi
      have hidx : 8 * (k + 1 - 1 - i) = 8 + 8 * (k - 1 - i) := by omega
      rw [hidx, Nat.shiftRight_add]
    · simp

private theorem foldl_shift (bits : List Bool) (n : Nat) :
    bits.foldl (fun n b => 2 * n + b.toNat) n = n * 2 ^ bits.length + bitsVal bits := by
  rw [bitsVal]
  induction bits generalizing n with
  | nil => simp
  | cons b bits ih =>
    rw [List.foldl_cons, List.foldl_cons, ih, ih (2 * 0 + b.toNat), List.length_cons]
    ring

theorem bitsVal_append (xs ys : List Bool) :
    bitsVal (xs ++ ys) = bitsVal xs * 2 ^ ys.length + bitsVal ys := by
  rw [bitsVal, List.foldl_append, foldl_shift, ← bitsVal]

theorem bitsVal_natBits (w n : Nat) : bitsVal (natBits w n) = n % 2 ^ w := by
  induction w with
  | zero => simp [natBits, bitsVal, Nat.mod_one]
  | succ w ih =>
    have htop : bitsVal (natBits 1 (n >>> w)) = n / 2 ^ w % 2 := by
      have hdigits : natBits 1 (n >>> w) = [n.testBit w] := by simp [natBits]
      have hbit : n.testBit w = decide (n / 2 ^ w % 2 = 1) := Nat.testBit_eq_decide_div_mod_eq
      rw [hdigits, hbit]
      rcases Nat.mod_two_eq_zero_or_one (n / 2 ^ w) with h | h <;> simp [h, bitsVal]
    rw [Nat.add_comm w 1, natBits_add, bitsVal_append, natBits_length, htop, ih,
      Nat.pow_add, Nat.pow_one, Nat.mul_comm 2 (2 ^ w), Nat.mod_mul]
    ring

end KernelAv.Lib.BitStrings
