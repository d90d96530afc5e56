/- digest: The distance of two TLSH digests: symmetric, bounded, zero for the same digest only. -/

import KernelAv.Daemon.Scan
import KernelAv.Daemon.TlshCodec
import KernelAv.Lib.DigitSums
import KernelAv.Userspace.TlshDiffTable
import Mathlib.Algebra.BigOperators.Fin
import Mathlib.Algebra.Order.BigOperators.Group.Finset

set_option autoImplicit false
set_option relaxedAutoImplicit false

namespace KernelAv.Daemon.TlshDiff

open KernelAv.Lib.CText
open KernelAv.Lib.DigitSums
open KernelAv.Daemon.Tlsh
open KernelAv.Daemon.TlshCodec
open KernelAv.Userspace.TlshDiffTable
open KernelAv.Daemon.Scan

section Definitions

def RANGE_LVALUE : Int := 256
def RANGE_QRATIO : Int := 16
def LENGTH_MULT : Int := 12
def QRATIO_MULT : Int := 12

/-- The difference on a ring of `r` values; the unsigned differences are read as `int`. -/
def mod_diff (x y r : Int) : Int :=
  let d := if x < y then (y - x, x + r - y) else (x - y, y + r - x)
  if d.2 < d.1 then d.2 else d.1

def byteDiff (x y : UInt8) : Nat := (bit_pairs_diff_table.getD x.toNat []).getD y.toNat 0

def h_distance (x y : Vector UInt8 TLSH_CODE_SIZE) : Int :=
  (List.finRange TLSH_CODE_SIZE).foldl (fun diff i => diff + byteDiff (x.get i) (y.get i)) 0

/-- What the two Q ratios add. -/
def qratioDiff (x y : UInt8) : Int :=
  let qdiff := mod_diff x.toNat y.toNat RANGE_QRATIO
  if qdiff ≤ 1 then qdiff else (qdiff - 1) * QRATIO_MULT

/-- What the two lengths add. -/
def lengthDiff (x y : UInt8) : Int :=
  let ldiff := mod_diff x.toNat y.toNat RANGE_LVALUE
  if ldiff = 0 then 0 else if ldiff = 1 then 1 else ldiff * LENGTH_MULT

def tlsh_total_diff (a b : tlsh_digest) : Int :=
  let diff := lengthDiff a.Lvalue b.Lvalue
  let diff := diff + qratioDiff a.Q1ratio b.Q1ratio
  let diff := diff + qratioDiff a.Q2ratio b.Q2ratio
  let diff := if a.checksum ≠ b.checksum then diff + 1 else diff
  diff + h_distance a.tmp_code b.tmp_code

def av_tlsh_diff (hash_a hash_b : Bytes) : Int :=
  match tlsh_from_hex hash_a with
  | none => -1
  | some a =>
      match tlsh_from_hex hash_b with
      | none => -1
      | some b => tlsh_total_diff a b

end Definitions

section Table

/-- The distance of two pairs of bits: their difference, but 6 for the greatest. -/
def pairDiff (a b : Nat) : Nat := if a + 3 = b ∨ b + 3 = a then 6 else (a - b) + (b - a)

/-- The distances of a pair of bits from all four. -/
def pairRow : Nat → List Nat
  | 0 => [0, 1, 2, 6]
  | 1 => [1, 0, 1, 2]
  | 2 => [2, 1, 0, 1]
  | _ => [6, 2, 1, 0]

private theorem pairRow_length (a : Nat) : (pairRow a).length = 4 := by
  unfold pairRow
  split
  · rfl
  · rfl
  · rfl
  · rfl

private theorem pairRow_entry {a b : Nat} (ha : a < 4) (hb : b < 4) :
    (pairRow a)[b]? = some (pairDiff a b) := by
  have hall : ∀ a b : Fin 4, (pairRow a)[b.val]? = some (pairDiff a b) := by decide
  exact hall ⟨a, ha⟩ ⟨b, hb⟩

/-- The four pairs of a byte, the highest first. -/
def pairRows (x : Nat) : List (List Nat) :=
  [pairRow (x / 64), pairRow (x / 16 % 4), pairRow (x / 4 % 4), pairRow (x % 4)]

/-- The rows from `x` to the last hold the sums of the distances of the pairs. -/
def rowsAre : Nat → List (List Nat) → Bool
  | x, [] => Nat.beq x 256
  | x, r :: rs => begins (pairRows x) 0 List.isEmpty r && rowsAre (Nat.succ x) rs

private theorem rowsAre_get : ∀ (rs : List (List Nat)) (x : Nat), rowsAre x rs = true →
    ∀ i, x + i < 256 → rs[i]? = some (sums (pairRows (x + i)) 0)
  | [], x, h, i, hi => by
      have hx := Nat.eq_of_beq_eq_true h
      omega
  | r :: rs, x, h, i, hi => by
      rw [rowsAre, Bool.and_eq_true] at h
      cases i with
      | zero => rw [List.getElem?_cons_zero, begins_nil h.1, Nat.add_zero]
      | succ i =>
          rw [List.getElem?_cons_succ, rowsAre_get rs _ h.2 i (by omega),
            Nat.succ_add_eq_add_succ]

/-- The table of the source, row by row. -/
private theorem table_rows : rowsAre 0 bit_pairs_diff_table = true := by decide +kernel

/-- The highest pair of a place picks an entry of the first row. -/
private theorem pairRow_step {a : Nat} {ps : List (List Nat)} (ha : a < 4)
    (hps : ∀ p ∈ ps, p.length = 4) {n : Nat} (hn : ps.length = n) (s : Nat) {y i j : Nat}
    (hy : y = 4 ^ n * i + j) (hi : i < 4) (hj : j < 4 ^ n) :
    (sums (pairRow a :: ps) s)[y]? = (sums ps (s + pairDiff a i))[j]? := by
  subst hy hn
  rw [sums_getElem? _ _ hps s i j hj, pairRow_entry ha hi, Option.bind_some]

private theorem pairRow_cons {a : Nat} {ps : List (List Nat)} (hps : ∀ p ∈ ps, p.length = 4) :
    ∀ p ∈ pairRow a :: ps, p.length = 4 := by
  intro p hp
  rcases List.mem_cons.mp hp with rfl | hp
  · exact pairRow_length a
  · exact hps p hp

/-- The entry of a row that the four pairs of a byte pick. -/
private theorem pairRows_entry {x y : Nat} (hx : x < 256) (hy : y < 256) :
    (sums (pairRows x) 0)[y]? = some (pairDiff (x / 64) (y / 64) +
      pairDiff (x / 16 % 4) (y / 16 % 4) + pairDiff (x / 4 % 4) (y / 4 % 4) +
        pairDiff (x % 4) (y % 4)) := by
  have h0 : ∀ p ∈ ([] : List (List Nat)), p.length = 4 := fun p hp => nomatch hp
  have h1 := pairRow_cons (a := x % 4) h0
  have h2 := pairRow_cons (a := x / 4 % 4) h1
  have h3 := pairRow_cons (a := x / 16 % 4) h2
  rw [pairRows,
    pairRow_step (by omega) h3 (n := 3) rfl _ (i := y / 64) (j := y % 64) (by omega) (by omega)
      (by omega),
    pairRow_step (by omega) h2 (n := 2) rfl _ (i := y / 16 % 4) (j := y % 16) (by omega)
      (by omega) (by omega),
    pairRow_step (by omega) h1 (n := 1) rfl _ (i := y / 4 % 4) (j := y % 4) (by omega) (by omega)
      (by omega),
    pairRow_step (by omega) h0 (n := 0) rfl _ (i := y % 4) (j := 0) (by omega) (by omega)
      (by omega),
    sums, List.getElem?_cons_zero, Nat.zero_add]

/-- An entry of the table is the sum of the distances of the four pairs of the two bytes. -/
theorem byteDiff_eq (x y : UInt8) : byteDiff x y =
    pairDiff (x.toNat / 64) (y.toNat / 64) + pairDiff (x.toNat / 16 % 4) (y.toNat / 16 % 4) +
      pairDiff (x.toNat / 4 % 4) (y.toNat / 4 % 4) + pairDiff (x.toNat % 4) (y.toNat % 4) := by
  have hx := x.toNat_lt
  have hy := y.toNat_lt
  have hrow := rowsAre_get bit_pairs_diff_table 0 table_rows x.toNat (by omega)
  rw [Nat.zero_add] at hrow
  rw [byteDiff, List.getD_eq_getElem?_getD, List.getD_eq_getElem?_getD, hrow, Option.getD_some,
    pairRows_entry hx hy, Option.getD_some]

theorem pairDiff_comm (a b : Nat) : pairDiff a b = pairDiff b a := by
  rw [pairDiff, pairDiff]
  split
  · rw [if_pos (by omega)]
  · rw [if_neg (by omega), Nat.add_comm]

theorem pairDiff_eq_zero {a b : Nat} : pairDiff a b = 0 ↔ a = b := by
  rw [pairDiff]
  split
  · omega
  · omega

theorem pairDiff_le {a b : Nat} (ha : a < 4) (hb : b < 4) : pairDiff a b ≤ 6 := by
  rw [pairDiff]
  split
  · omega
  · omega

theorem byteDiff_comm (x y : UInt8) : byteDiff x y = byteDiff y x := by
  rw [byteDiff_eq, byteDiff_eq, pairDiff_comm (x.toNat / 64), pairDiff_comm (x.toNat / 16 % 4),
    pairDiff_comm (x.toNat / 4 % 4), pairDiff_comm (x.toNat % 4)]

theorem byteDiff_eq_zero {x y : UInt8} : byteDiff x y = 0 ↔ x = y := by
  rw [byteDiff_eq]
  constructor
  · intro h
    have h3 : x.toNat / 64 = y.toNat / 64 := pairDiff_eq_zero.mp (by omega)
    have h2 : x.toNat / 16 % 4 = y.toNat / 16 % 4 := pairDiff_eq_zero.mp (by omega)
    have h1 : x.toNat / 4 % 4 = y.toNat / 4 % 4 := pairDiff_eq_zero.mp (by omega)
    have h0 : x.toNat % 4 = y.toNat % 4 := pairDiff_eq_zero.mp (by omega)
    apply UInt8.toNat_inj.mp
    omega
  · rintro rfl
    simp only [pairDiff_eq_zero.mpr]

theorem byteDiff_le (x y : UInt8) : byteDiff x y ≤ 24 := by
  have hx := x.toNat_lt
  have hy := y.toNat_lt
  have h3 := pairDiff_le (a := x.toNat / 64) (b := y.toNat / 64) (by omega) (by omega)
  have h2 := pairDiff_le (a := x.toNat / 16 % 4) (b := y.toNat / 16 % 4) (by omega) (by omega)
  have h1 := pairDiff_le (a := x.toNat / 4 % 4) (b := y.toNat / 4 % 4) (by omega) (by omega)
  have h0 := pairDiff_le (a := x.toNat % 4) (b := y.toNat % 4) (by omega) (by omega)
  rw [byteDiff_eq]
  omega

end Table

section Ring

variable {r x y : Int}

theorem mod_diff_comm (x y r : Int) : mod_diff x y r = mod_diff y x r := by
  by_cases hxy : x < y
  · simp only [mod_diff, if_pos hxy, if_neg (show ¬ y < x by omega)]
  · by_cases hyx : y < x
    · simp only [mod_diff, if_neg hxy, if_pos hyx]
    · obtain rfl : x = y := by omega
      rfl

/-- Of two values of the ring, the shorter way from one to the other. -/
theorem mod_diff_bounds (hx : 0 ≤ x ∧ x < r) (hy : 0 ≤ y ∧ y < r) :
    0 ≤ mod_diff x y r ∧ 2 * mod_diff x y r ≤ r ∧ (mod_diff x y r = 0 ↔ x = y) := by
  by_cases hxy : x < y
  · simp only [mod_diff, if_pos hxy]
    split
    · omega
    · omega
  · simp only [mod_diff, if_neg hxy]
    split
    · omega
    · omega

end Ring

section Parts

variable {x y : UInt8}

theorem qratioDiff_comm (x y : UInt8) : qratioDiff x y = qratioDiff y x := by
  rw [qratioDiff, qratioDiff, mod_diff_comm]

theorem qratioDiff_bounds (hx : x < 16) (hy : y < 16) :
    0 ≤ qratioDiff x y ∧ qratioDiff x y ≤ 84 ∧ (qratioDiff x y = 0 ↔ x = y) := by
  have hx' : x.toNat < 16 := hx
  have hy' : y.toNat < 16 := hy
  have hrange : RANGE_QRATIO = 16 := rfl
  have hmult : QRATIO_MULT = 12 := rfl
  have hring := mod_diff_bounds (r := RANGE_QRATIO) (x := x.toNat) (y := y.toNat)
    ⟨by omega, by omega⟩ ⟨by omega, by omega⟩
  rw [← UInt8.toNat_inj]
  simp only [qratioDiff, hmult]
  rw [hrange] at hring ⊢
  split
  · omega
  · omega

theorem lengthDiff_comm (x y : UInt8) : lengthDiff x y = lengthDiff y x := by
  rw [lengthDiff, lengthDiff, mod_diff_comm]

theorem lengthDiff_bounds (x y : UInt8) :
    0 ≤ lengthDiff x y ∧ lengthDiff x y ≤ 1536 ∧ (lengthDiff x y = 0 ↔ x = y) := by
  have hx := x.toNat_lt
  have hy := y.toNat_lt
  have hrange : RANGE_LVALUE = 256 := rfl
  have hmult : LENGTH_MULT = 12 := rfl
  have hring := mod_diff_bounds (r := RANGE_LVALUE) (x := x.toNat) (y := y.toNat)
    ⟨by omega, by omega⟩ ⟨by omega, by omega⟩
  rw [← UInt8.toNat_inj]
  simp only [lengthDiff, hmult]
  rw [hrange] at hring ⊢
  split
  · omega
  · split
    · omega
    · omega

end Parts

section Code

variable {x y : Vector UInt8 TLSH_CODE_SIZE}

theorem h_distance_eq (x y : Vector UInt8 TLSH_CODE_SIZE) :
    h_distance x y = ((∑ i, byteDiff (x.get i) (y.get i) : Nat) : Int) := by
  have hfold : ∀ (is : List (Fin TLSH_CODE_SIZE)) (diff : Int),
      is.foldl (fun (diff : Int) i => diff + byteDiff (x.get i) (y.get i)) diff =
        diff + ((is.map fun i => byteDiff (x.get i) (y.get i)).sum : Nat) := by
    intro is
    induction is with
    | nil => exact fun diff => (Int.add_zero diff).symm
    | cons i is ih =>
        intro diff
        rw [List.foldl_cons, ih, List.map_cons, List.sum_cons, Nat.cast_add, Int.add_assoc]
  rw [h_distance, hfold, Int.zero_add, Fin.sum_univ_def]

theorem h_distance_comm (x y : Vector UInt8 TLSH_CODE_SIZE) : h_distance x y = h_distance y x := by
  rw [h_distance_eq, h_distance_eq,
    Finset.sum_congr rfl fun i _ => byteDiff_comm (x.get i) (y.get i)]

theorem h_distance_bounds (x y : Vector UInt8 TLSH_CODE_SIZE) :
    0 ≤ h_distance x y ∧ h_distance x y ≤ 768 ∧ (h_distance x y = 0 ↔ x = y) := by
  rw [h_distance_eq]
  refine ⟨Int.natCast_nonneg _, ?_, ?_⟩
  · have hsum := Finset.sum_le_card_nsmul Finset.univ
      (fun i : Fin TLSH_CODE_SIZE => byteDiff (x.get i) (y.get i)) 24 fun i _ => byteDiff_le _ _
    have hsize : TLSH_CODE_SIZE * 24 = 768 := rfl
    rw [Finset.card_univ, Fintype.card_fin, smul_eq_mul, hsize] at hsum
    exact_mod_cast hsum
  · rw [Int.natCast_eq_zero, Finset.sum_eq_zero_iff]
    constructor
    · intro h
      apply Vector.ext
      intro i hi
      have hbyte := byteDiff_eq_zero.mp (h ⟨i, hi⟩ (Finset.mem_univ _))
      exact hbyte
    · rintro rfl
      exact fun i _ => byteDiff_eq_zero.mpr rfl

end Code

section Total

variable {a b : tlsh_digest}

/-- What the two checksums add. -/
def checksumDiff (x y : UInt8) : Int := if x ≠ y then 1 else 0

theorem tlsh_total_diff_eq (a b : tlsh_digest) : tlsh_total_diff a b =
    lengthDiff a.Lvalue b.Lvalue + qratioDiff a.Q1ratio b.Q1ratio +
      qratioDiff a.Q2ratio b.Q2ratio + checksumDiff a.checksum b.checksum +
        h_distance a.tmp_code b.tmp_code := by
  simp only [tlsh_total_diff, checksumDiff]
  split
  · rfl
  · rw [Int.add_zero]

theorem checksumDiff_comm (x y : UInt8) : checksumDiff x y = checksumDiff y x := by
  simp only [checksumDiff, ne_comm]

theorem checksumDiff_bounds (x y : UInt8) :
    0 ≤ checksumDiff x y ∧ checksumDiff x y ≤ 1 ∧ (checksumDiff x y = 0 ↔ x = y) := by
  by_cases h : x = y
  · rw [checksumDiff, if_neg (not_not.mpr h)]
    exact ⟨le_refl 0, by decide, iff_of_true rfl h⟩
  · rw [checksumDiff, if_pos h]
    exact ⟨by decide, le_refl 1, iff_of_false (by decide) h⟩

theorem tlsh_total_diff_comm (a b : tlsh_digest) : tlsh_total_diff a b = tlsh_total_diff b a := by
  rw [tlsh_total_diff_eq, tlsh_total_diff_eq, lengthDiff_comm, qratioDiff_comm,
    qratioDiff_comm a.Q2ratio, checksumDiff_comm, h_distance_comm]

/-- Digests whose ratios have four bits: the distance is at most 2473, and zero for no others. -/
theorem tlsh_total_diff_bounds (ha1 : a.Q1ratio < 16) (ha2 : a.Q2ratio < 16)
    (hb1 : b.Q1ratio < 16) (hb2 : b.Q2ratio < 16) :
    0 ≤ tlsh_total_diff a b ∧ tlsh_total_diff a b ≤ 2473 ∧ (tlsh_total_diff a b = 0 ↔ a = b) := by
  obtain ⟨hl, hl', hlz⟩ := lengthDiff_bounds a.Lvalue b.Lvalue
  obtain ⟨hq1, hq1', hq1z⟩ := qratioDiff_bounds ha1 hb1
  obtain ⟨hq2, hq2', hq2z⟩ := qratioDiff_bounds ha2 hb2
  obtain ⟨hc, hc', hcz⟩ := checksumDiff_bounds a.checksum b.checksum
  obtain ⟨hh, hh', hhz⟩ := h_distance_bounds a.tmp_code b.tmp_code
  rw [tlsh_total_diff_eq]
  refine ⟨by omega, by omega, ?_⟩
  constructor
  · intro h
    have h1 := hlz.mp (by omega)
    have h2 := hq1z.mp (by omega)
    have h3 := hq2z.mp (by omega)
    have h4 := hcz.mp (by omega)
    have h5 := hhz.mp (by omega)
    cases a
    cases b
    simp only at h1 h2 h3 h4 h5
    rw [h1, h2, h3, h4, h5]
  · rintro rfl
    have h1 := hlz.mpr rfl
    have h2 := hq1z.mpr rfl
    have h3 := hq2z.mpr rfl
    have h4 := hcz.mpr rfl
    have h5 := hhz.mpr rfl
    omega

end Total

section Texts

/-- A text of 70 hexadecimal digits. -/
def IsHash (s : Bytes) : Prop := s.length = TLSH_DIGEST_HEXLEN ∧ ∀ b ∈ s, isHexDigit b = true

instance (s : Bytes) : Decidable (IsHash s) := inferInstanceAs (Decidable (_ ∧ _))

variable {s t : Bytes}

theorem isHash_iff : IsHash s ↔ ∃ d, tlsh_from_hex s = some d := (from_hex_accepts s).symm

theorem isHash_written (d : tlsh_digest) : IsHash (tlsh_to_hex d) :=
  isHash_iff.mpr ⟨_, from_hex_written d⟩

/-- Texts of one digest are the same up to case. -/
theorem same_digest_iff {a b : tlsh_digest} (ha : tlsh_from_hex s = some a)
    (hb : tlsh_from_hex t = some b) : a = b ↔ s.map toupper = t.map toupper := by
  rw [← to_hex_from_hex ha, ← to_hex_from_hex hb]
  refine ⟨fun h => h ▸ rfl, fun h => ?_⟩
  obtain ⟨ha1, ha2⟩ := from_hex_ratios ha
  obtain ⟨hb1, hb2⟩ := from_hex_ratios hb
  have hback := from_hex_to_hex ha1 ha2
  rw [h, from_hex_to_hex hb1 hb2] at hback
  exact (Option.some.inj hback).symm

theorem av_tlsh_diff_total {a b : tlsh_digest} (ha : tlsh_from_hex s = some a)
    (hb : tlsh_from_hex t = some b) : av_tlsh_diff s t = tlsh_total_diff a b := by
  simp only [av_tlsh_diff, ha, hb]

theorem av_tlsh_diff_malformed (h : ¬ IsHash s ∨ ¬ IsHash t) : av_tlsh_diff s t = -1 := by
  rw [av_tlsh_diff]
  cases ha : tlsh_from_hex s with
  | none => rfl
  | some a =>
      cases hb : tlsh_from_hex t with
      | none => rfl
      | some b =>
          rcases h with h | h
          · exact absurd (isHash_iff.mpr ⟨a, ha⟩) h
          · exact absurd (isHash_iff.mpr ⟨b, hb⟩) h

theorem av_tlsh_diff_wellformed (hs : IsHash s) (ht : IsHash t) :
    0 ≤ av_tlsh_diff s t ∧ (av_tlsh_diff s t = 0 ↔ s.map toupper = t.map toupper) := by
  obtain ⟨a, ha⟩ := isHash_iff.mp hs
  obtain ⟨b, hb⟩ := isHash_iff.mp ht
  obtain ⟨ha1, ha2⟩ := from_hex_ratios ha
  obtain ⟨hb1, hb2⟩ := from_hex_ratios hb
  obtain ⟨hpos, -, hzero⟩ := tlsh_total_diff_bounds ha1 ha2 hb1 hb2
  rw [av_tlsh_diff_total ha hb, hzero]
  exact ⟨hpos, same_digest_iff ha hb⟩

/-- The distance is negative for a malformed text only. -/
theorem av_tlsh_diff_neg : av_tlsh_diff s t < 0 ↔ ¬ IsHash s ∨ ¬ IsHash t := by
  constructor
  · intro h
    by_contra hboth
    rw [not_or, not_not, not_not] at hboth
    exact absurd h (not_lt.mpr (av_tlsh_diff_wellformed hboth.1 hboth.2).1)
  · intro h
    rw [av_tlsh_diff_malformed h]
    decide

end Texts

section Corpus

variable (L : HashLibrary) (D : Avd) (io : TlshIo)

/-- The library whose distance is the one of the source. -/
def withDiff : HashLibrary := { L with tlsh_diff := av_tlsh_diff }

def wellFormed (e : CorpusEntry) : Bool := decide (IsHash e.hash)

/-- A malformed entry is passed over. -/
theorem lowerBest_malformed {file_hash : Bytes} {e : CorpusEntry} (h : ¬ IsHash e.hash)
    (best : Int × Bytes) : lowerBest (withDiff L) file_hash best e = best := by
  have hneg : (withDiff L).tlsh_diff file_hash e.hash < 0 := av_tlsh_diff_neg.mpr (.inr h)
  rw [lowerBest, if_pos hneg]

/-- The loop over the corpus goes over its well-formed entries. -/
theorem foldl_lowerBest (file_hash : Bytes) : ∀ (es : List CorpusEntry) (best : Int × Bytes),
    es.foldl (lowerBest (withDiff L) file_hash) best =
      (es.filter wellFormed).foldl (lowerBest (withDiff L) file_hash) best
  | [], _ => rfl
  | e :: es, best => by
      rw [List.foldl_cons, foldl_lowerBest file_hash es]
      by_cases h : IsHash e.hash
      · have hkeep : wellFormed e = true := decide_eq_true h
        rw [List.filter_cons_of_pos hkeep, List.foldl_cons]
      · have hdrop : ¬ wellFormed e = true := fun hkeep => h (of_decide_eq_true hkeep)
        rw [List.filter_cons_of_neg hdrop, lowerBest_malformed L h]

/-- A check that gets as far as its loop gives what it gives for the well-formed entries. -/
theorem check_tlsh_corpus_filter {file_hash : Bytes} (hdup : io.dup_ok = true)
    (hhash : io.hash = .hashed file_hash) :
    check_tlsh_corpus (withDiff L) D io = check_tlsh_corpus (withDiff L)
      { D with tlsh_corpus := D.tlsh_corpus.filter wellFormed } io := by
  simp only [check_tlsh_corpus, hdup, hhash, Bool.not_true, Bool.false_eq_true, if_false]
  rw [foldl_lowerBest]
  generalize hes : D.tlsh_corpus.filter wellFormed = es
  by_cases hempty : D.tlsh_corpus = []
  · rw [hempty, List.filter_nil] at hes
    rw [if_pos hempty, if_pos hes.symm]
  · rw [if_neg hempty]
    by_cases hnone : es = []
    · have hlow : ¬ ((0 : Int) ≤ -1 ∧ (-1 : Int) ≤ TLSH_MATCH_MAX_DIFF) := by decide
      rw [hnone, if_pos rfl, List.foldl_nil]
      simp only [if_neg hlow, ite_self]
    · rw [if_neg hnone]

end Corpus

section Main

/-- A digest of a code of zeros. -/
def zeros (Lvalue : UInt8) : tlsh_digest := ⟨0, Lvalue, 0, 0, Vector.replicate TLSH_CODE_SIZE 0⟩

/-- A corpus with a malformed entry, and the check of a file whose hash is this. -/
def shortEntry : Avd := ⟨true, [], [⟨lit "00", lit "short"⟩]⟩

def hashedAs (d : tlsh_digest) : TlshIo := ⟨some 64, true, .hashed (tlsh_to_hex d)⟩

end Main

end KernelAv.Daemon.TlshDiff
