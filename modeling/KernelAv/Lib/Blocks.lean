import Mathlib.Data.List.Basic
import Mathlib.Tactic.Ring

/- digest: A sequence cut into complete blocks of one size, and what is left behind them. -/

set_option autoImplicit false
set_option relaxedAutoImplicit false

namespace KernelAv.Lib.Blocks

variable {α : Type}

/-- The complete blocks of `B` elements that a sequence starts with. -/
def blocks (B : Nat) (xs : List α) : List (List α) :=
  (List.range (xs.length / B)).map fun i => (xs.drop (i * B)).take B

/-- The elements behind the last complete block. -/
def rest (B : Nat) (xs : List α) : List α :=
  xs.drop (xs.length / B * B)

section

variable {B : Nat} {xs ys : List α}

@[simp] theorem blocks_nil (B : Nat) : blocks B ([] : List α) = [] := by
  simp [blocks]

@[simp] theorem rest_nil (B : Nat) : rest B ([] : List α) = [] := by
  simp [rest]

theorem rest_length (B : Nat) (xs : List α) : (rest B xs).length = xs.length % B := by
  have hdiv : B * (xs.length / B) + xs.length % B = xs.length := Nat.div_add_mod _ _
  rw [Nat.mul_comm] at hdiv
  rw [rest, List.length_drop]
  omega

/-- The blocks of a prefix are not changed by what comes behind it. -/
private theorem block_append {i : Nat} (hi : i < xs.length / B) :
    ((xs ++ ys).drop (i * B)).take B = (xs.drop (i * B)).take B := by
  have hle : (i + 1) * B ≤ xs.length / B * B := Nat.mul_le_mul_right B hi
  have hdiv : xs.length / B * B ≤ xs.length := Nat.div_mul_le_self _ _
  have hexp : (i + 1) * B = i * B + B := Nat.succ_mul i B
  have hdrop : i * B ≤ xs.length := by omega
  have htake : B ≤ (xs.drop (i * B)).length := by
    rw [List.length_drop]
    omega
  rw [List.drop_append_of_le_length hdrop, List.take_append_of_le_length htake]

private theorem div_append_short (h : xs.length % B + ys.length < B) :
    (xs ++ ys).length / B = xs.length / B := by
  have hdiv : B * (xs.length / B) + xs.length % B = xs.length := Nat.div_add_mod _ _
  have hsum : (xs ++ ys).length = B * (xs.length / B) + (xs.length % B + ys.length) := by
    rw [List.length_append]
    omega
  rw [hsum, Nat.mul_add_div (by omega), Nat.div_eq_of_lt h, Nat.add_zero]

/-- Elements that do not complete a block go behind the rest. -/
theorem blocks_append_short (h : xs.length % B + ys.length < B) :
    blocks B (xs ++ ys) = blocks B xs := by
  rw [blocks, blocks, div_append_short h]
  exact List.map_congr_left fun i hi => block_append (List.mem_range.mp hi)

theorem rest_append_short (h : xs.length % B + ys.length < B) :
    rest B (xs ++ ys) = rest B xs ++ ys := by
  rw [rest, rest, div_append_short h, List.drop_append_of_le_length (Nat.div_mul_le_self _ _)]

private theorem div_append_full (hB : 0 < B) (h : xs.length % B + ys.length = B) :
    (xs ++ ys).length / B = xs.length / B + 1 ∧
      (xs.length / B + 1) * B = (xs ++ ys).length := by
  have hdiv : B * (xs.length / B) + xs.length % B = xs.length := Nat.div_add_mod _ _
  have hsum : (xs ++ ys).length = B * (xs.length / B + 1) := by
    rw [List.length_append, Nat.mul_add]
    omega
  refine ⟨?_, by rw [hsum, Nat.mul_comm]⟩
  rw [hsum, Nat.mul_div_cancel_left _ hB]

/-- Elements that complete a block make the rest and themselves the last block. -/
theorem blocks_append_full (hB : 0 < B) (h : xs.length % B + ys.length = B) :
    blocks B (xs ++ ys) = blocks B xs ++ [rest B xs ++ ys] := by
  have hlast : ((xs ++ ys).drop (xs.length / B * B)).take B = rest B xs ++ ys := by
    have hlen : (rest B xs ++ ys).length = B := by
      rw [List.length_append, rest_length, h]
    rw [List.drop_append_of_le_length (Nat.div_mul_le_self _ _), ← rest]
    exact List.take_of_length_le (by omega)
  rw [blocks, (div_append_full hB h).1, List.range_succ, List.map_append, List.map_singleton,
    hlast]
  congr 1
  exact List.map_congr_left fun i hi => block_append (List.mem_range.mp hi)

theorem rest_append_full (hB : 0 < B) (h : xs.length % B + ys.length = B) :
    rest B (xs ++ ys) = [] := by
  have hdiv := div_append_full hB h
  rw [rest, hdiv.1, hdiv.2, List.drop_length]

end

section

variable {β : Type} {w : Nat} {f : α → List β}

theorem length_flatMap_const (hf : ∀ a, (f a).length = w) (xs : List α) :
    (xs.flatMap f).length = xs.length * w := by
  induction xs with
  | nil => simp
  | cons x xs ih =>
    rw [List.flatMap_cons, List.length_append, hf, ih, List.length_cons]
    ring

theorem take_flatMap_const (hf : ∀ a, (f a).length = w) (n : Nat) (xs : List α) :
    (xs.flatMap f).take (n * w) = (xs.take n).flatMap f := by
  induction xs generalizing n with
  | nil => simp
  | cons x xs ih =>
    cases n with
    | zero => simp
    | succ n =>
      have hsum : (n + 1) * w = (f x).length + n * w := by rw [hf]; ring
      rw [List.flatMap_cons, hsum, List.take_length_add_append, ih]
      rfl

theorem drop_flatMap_const (hf : ∀ a, (f a).length = w) (n : Nat) (xs : List α) :
    (xs.flatMap f).drop (n * w) = (xs.drop n).flatMap f := by
  induction xs generalizing n with
  | nil => simp
  | cons x xs ih =>
    cases n with
    | zero => simp
    | succ n =>
      have hsum : (n + 1) * w = (f x).length + n * w := by rw [hf]; ring
      rw [List.flatMap_cons, hsum, List.drop_length_add_append, ih]
      rfl

/-- Cutting commutes with writing each element as `w` others. -/
theorem blocks_flatMap (hw : 0 < w) (hf : ∀ a, (f a).length = w) (B : Nat) (xs : List α) :
    blocks (B * w) (xs.flatMap f) = (blocks B xs).map (List.flatMap f) := by
  rw [blocks, blocks, length_flatMap_const hf, Nat.mul_div_mul_right _ _ hw, List.map_map]
  refine List.map_congr_left fun i _ => ?_
  rw [← Nat.mul_assoc, drop_flatMap_const hf, take_flatMap_const hf]
  rfl

end

end KernelAv.Lib.Blocks
