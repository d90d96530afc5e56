/- digest: The TLSH digest of some bytes, by the counts of their windows and not by a run. -/

import KernelAv.Daemon.TlshCodec
import KernelAv.Daemon.TlshQuartiles
import Mathlib.Data.Fin.VecNotation
import Mathlib.Data.Finset.Prod
import Mathlib.Data.Fintype.Basic

set_option autoImplicit false
set_option relaxedAutoImplicit false

namespace KernelAv.Daemon.TlshDigest

open KernelAv.Lib.CText
open KernelAv.Daemon.Tlsh
open KernelAv.Daemon.TlshCodec
open KernelAv.Daemon.TlshQuartiles

section Definition

/-- The six mappings of the window that ends at `i`. -/
def mapping (data : Bytes) (i : Nat) : Fin 6 → UInt8 :=
  let c (d : Nat) : UInt8 := data.getD (i - d) 0
  ![fast_b_mapping 49 (c 0) (c 1) (c 2), fast_b_mapping 12 (c 0) (c 1) (c 3),
    fast_b_mapping 178 (c 0) (c 2) (c 3), fast_b_mapping 166 (c 0) (c 2) (c 4),
    fast_b_mapping 84 (c 0) (c 1) (c 4), fast_b_mapping 230 (c 0) (c 3) (c 4)]

/-- The checksum, folded from left to right over the places from 4 on. -/
def checksumOf (data : Bytes) : UInt8 :=
  (List.range' 4 (data.length - 4)).foldl
    (fun c i => fast_b_mapping 1 (data.getD i 0) (data.getD (i - 1) 0) c) 0

/-- The pairs of a place and a mapping that hit a bucket. -/
def hits (data : Bytes) (b : Nat) : Finset (Nat × Fin 6) :=
  (Finset.Ico 4 data.length ×ˢ Finset.univ).filter fun p => (mapping data p.1 p.2).toNat = b

def bucketOf (data : Bytes) (b : Nat) : Nat := (hits data b).card

/-- The digest of some bytes, for the counts of their buckets. -/
structure DigestBy (count : Nat → Nat) (data : Bytes) (q : Nat × Nat × Nat) (d : tlsh_digest) :
    Prop where
  length : MIN_DATA_LENGTH ≤ data.length
  quartiles : Quartiles count q
  q3 : q.2.2 ≠ 0
  nonzero : EFF_BUCKETS / 2 < ((Finset.range EFF_BUCKETS).filter fun b => 0 < count b).card
  checksum : d.checksum = checksumOf data
  Lvalue : l_capturing (UInt32.ofNat data.length) = some d.Lvalue
  Q1ratio : d.Q1ratio = UInt8.ofNat (q.1 * 100 / q.2.2 % 16)
  Q2ratio : d.Q2ratio = UInt8.ofNat (q.2.1 * 100 / q.2.2 % 16)
  tmp_code : ∀ (i : Fin TLSH_CODE_SIZE) (j : Fin 4),
    (d.tmp_code.get i >>> UInt8.ofNat (2 * j)) &&& 3 =
      quartileBits q.1 q.2.1 q.2.2 (count (4 * i + j))

/-- The same, for some quartiles. -/
def IsDigest (count : Nat → Nat) (data : Bytes) (d : tlsh_digest) : Prop :=
  ∃ q, DigestBy count data q d

end Definition

section Bits

/-- Four pairs of bits lie side by side in their byte. -/
private theorem pack_bits {x : Nat → UInt8} (hx : ∀ j, x j < 4) (j : Fin 4) :
    ((List.range 4).foldl (fun h j => h + (x j <<< UInt8.ofNat (j * 2))) 0 >>>
      UInt8.ofNat (2 * j)) &&& 3 = x j := by
  have hall : ∀ n0 n1 n2 n3 j : Fin 4,
      (((0 : UInt8) + (UInt8.ofNat n0 <<< (0 : UInt8)) + (UInt8.ofNat n1 <<< (2 : UInt8)) +
        (UInt8.ofNat n2 <<< (4 : UInt8)) + (UInt8.ofNat n3 <<< (6 : UInt8))) >>>
          UInt8.ofNat (2 * j)) &&& (3 : UInt8) = UInt8.ofNat (![n0, n1, n2, n3] j) := by
    decide +kernel
  have hback : ∀ k, UInt8.ofNat (x k).toNat = x k := fun k => UInt8.ofNat_toNat
  have hj := hall ⟨(x 0).toNat, hx 0⟩ ⟨(x 1).toNat, hx 1⟩ ⟨(x 2).toNat, hx 2⟩
    ⟨(x 3).toNat, hx 3⟩ j
  simp only [hback] at hj
  refine Eq.trans hj ?_
  match j with
  | 0 => exact hback 0
  | 1 => exact hback 1
  | 2 => exact hback 2
  | 3 => exact hback 3

/-- The two bits of a bucket, in its byte. -/
theorem codeByte_bits (q1 q2 q3 : Nat) (a_bucket : Vector Nat BUCKET_COUNT) (i : Nat) (j : Fin 4) :
    (codeByte q1 q2 q3 a_bucket i >>> UInt8.ofNat (2 * j)) &&& 3 =
      quartileBits q1 q2 q3 (a_bucket.getD (4 * i + j) 0) :=
  pack_bits (x := fun j => quartileBits q1 q2 q3 (a_bucket.getD (4 * i + j) 0))
    (fun _ => quartileBits_lt _ _ _ _) j

/-- A byte is known by its four pairs of bits. -/
private theorem bits_ext {x y : UInt8}
    (h : ∀ j : Fin 4, (x >>> UInt8.ofNat (2 * j)) &&& 3 = (y >>> UInt8.ofNat (2 * j)) &&& 3) :
    x = y := by
  let bits (b : UInt8) (j : Fin 4) : UInt8 := (b >>> UInt8.ofNat (2 * j)) &&& 3
  have hjoin : ∀ b : UInt8, b = bits b 0 + (bits b 1 <<< (2 : UInt8)) +
      (bits b 2 <<< (4 : UInt8)) + (bits b 3 <<< (6 : UInt8)) := by
    refine forall_byte ?_
    decide +kernel
  have hbits : bits x = bits y := funext h
  rw [hjoin x, hjoin y, hbits]

end Bits

section Summary

variable {a_bucket : Vector Nat BUCKET_COUNT} {count : Nat → Nat} {data : Bytes}

theorem nonzero_card (hcount : ∀ b, b < BUCKET_COUNT → a_bucket.getD b 0 = count b) :
    nonzero a_bucket = ((Finset.range EFF_BUCKETS).filter fun b => 0 < count b).card := by
  have hsame : ((Finset.range EFF_BUCKETS).filter fun b => 0 < count b) =
      (Finset.range EFF_BUCKETS).filter fun b => 0 < a_bucket.getD b 0 := by
    apply Finset.filter_congr
    intro b hb
    have hb' : b < BUCKET_COUNT := (Finset.mem_range.mp hb).trans (by decide)
    rw [hcount b hb']
  rw [hsame, nonzero, List.countP_eq_length_filter]
  rfl

/-- What `tlsh_final` makes of some counters is the digest for their counts. -/
theorem summarize_iff (hcount : ∀ b, b < BUCKET_COUNT → a_bucket.getD b 0 = count b)
    (hlen : MIN_DATA_LENGTH ≤ data.length) (d : tlsh_digest) :
    summarize a_bucket (UInt32.ofNat data.length) (checksumOf data) = some (some d) ↔
      IsDigest count data d := by
  obtain ⟨⟨q1, q2, q3⟩, hq, hranks⟩ := find_quartile_ranks a_bucket
  have hranks := hranks.congr fun b hb => hcount b (hb.trans (by decide))
  obtain ⟨Lvalue, hL⟩ := l_capturing_ends (UInt32.ofNat data.length)
  have hcode : ∀ (i : Fin TLSH_CODE_SIZE) (j : Fin 4),
      (codeByte q1 q2 q3 a_bucket i >>> UInt8.ofNat (2 * j)) &&& 3 =
        quartileBits q1 q2 q3 (count (4 * i + j)) := by
    intro i j
    have hb : 4 * i.val + j.val < BUCKET_COUNT := by
      have hsize : TLSH_CODE_SIZE = 32 := rfl
      have hcount : BUCKET_COUNT = 256 := rfl
      omega
    rw [← hcount _ hb]
    exact codeByte_bits q1 q2 q3 a_bucket i j
  simp only [summarize, hq, hL, Option.bind_eq_bind, Option.bind_some]
  constructor
  · intro h
    split at h
    · cases h
    · rename_i hq3
      split at h
      · cases h
      · rename_i hnonzero
        rw [nonzero_card hcount, not_le] at hnonzero
        obtain rfl := Option.some.inj (Option.some.inj h)
        refine ⟨(q1, q2, q3), hlen, hranks, hq3, hnonzero, rfl, hL, rfl, rfl, fun i j => ?_⟩
        have hget : (Vector.ofFn fun i : Fin TLSH_CODE_SIZE => codeByte q1 q2 q3 a_bucket i).get i =
            codeByte q1 q2 q3 a_bucket i := Vector.getElem_ofFn i.isLt
        rw [← hcode, hget]
  · rintro ⟨q, hd⟩
    obtain rfl := hd.quartiles.unique hranks
    have hnonzero := hd.nonzero
    rw [← nonzero_card hcount] at hnonzero
    have hmany : ¬ nonzero a_bucket ≤ 4 * TLSH_CODE_SIZE / 2 := not_le.mpr hnonzero
    rw [if_neg hd.q3, if_neg hmany]
    have htmp : (Vector.ofFn fun i : Fin TLSH_CODE_SIZE => codeByte q1 q2 q3 a_bucket i) =
        d.tmp_code := by
      apply Vector.ext
      intro i hi
      rw [Vector.getElem_ofFn]
      refine bits_ext fun j => ?_
      exact (hcode ⟨i, hi⟩ j).trans (hd.tmp_code ⟨i, hi⟩ j).symm
    obtain rfl : Lvalue = d.Lvalue := Option.some.inj (hL.symm.trans hd.Lvalue)
    rw [htmp, ← hd.checksum, ← hd.Q1ratio, ← hd.Q2ratio]

/-- Counts with enough in them have a digest. -/
theorem exists_digest {q : Nat × Nat × Nat} (hlen : MIN_DATA_LENGTH ≤ data.length)
    (hq : Quartiles count q) (hq3 : q.2.2 ≠ 0)
    (hnonzero : EFF_BUCKETS / 2 < ((Finset.range EFF_BUCKETS).filter fun b => 0 < count b).card) :
    ∃ d, IsDigest count data d := by
  let a : Vector Nat BUCKET_COUNT := Vector.ofFn fun b => count b
  have hcount : ∀ b, b < BUCKET_COUNT → a.getD b 0 = count b := by
    intro b hb
    rw [Vector.getD, Array.getD_eq_getD_getElem?, Vector.getElem?_toArray,
      Vector.getElem?_eq_getElem hb, Vector.getElem_ofFn, Option.getD_some]
  obtain ⟨q', hfind, hranks⟩ := find_quartile_ranks a
  obtain rfl := (hranks.congr fun b hb => hcount b (hb.trans (by decide))).unique hq
  obtain ⟨Lvalue, hL⟩ := l_capturing_ends (UInt32.ofNat data.length)
  have hmany : ¬ nonzero a ≤ 4 * TLSH_CODE_SIZE / 2 := by
    rw [nonzero_card hcount]
    exact not_le.mpr hnonzero
  have hfinal : ∃ d, summarize a (UInt32.ofNat data.length) (checksumOf data) = some (some d) := by
    simp only [summarize, hfind, hL, Option.bind_eq_bind, Option.bind_some, if_neg hq3,
      if_neg hmany]
    exact ⟨_, rfl⟩
  obtain ⟨d, hd⟩ := hfinal
  exact ⟨d, (summarize_iff hcount hlen d).mp hd⟩

/-- The ratios of a digest have four bits. -/
theorem DigestBy.ratios_lt {q : Nat × Nat × Nat} {d : tlsh_digest} (hd : DigestBy count data q d) :
    d.Q1ratio < 16 ∧ d.Q2ratio < 16 := by
  have hlt : ∀ n, UInt8.ofNat (n % 16) < 16 := by
    intro n
    rw [UInt8.lt_iff_toNat_lt, UInt8.toNat_ofNat']
    exact (Nat.mod_le _ _).trans_lt (Nat.mod_lt _ (by decide))
  rw [hd.Q1ratio, hd.Q2ratio]
  exact ⟨hlt _, hlt _⟩

/-- Only one digest has this text, whatever the counts. -/
theorem IsDigest.of_text {count' : Nat → Nat} {d d' : tlsh_digest} (hd : IsDigest count data d)
    (hd' : IsDigest count' data d') (htext : tlsh_to_hex d = tlsh_to_hex d') : d = d' := by
  obtain ⟨q, hq⟩ := hd
  obtain ⟨q', hq'⟩ := hd'
  have hback := from_hex_to_hex hq.ratios_lt.1 hq.ratios_lt.2
  have hback' := from_hex_to_hex hq'.ratios_lt.1 hq'.ratios_lt.2
  rw [htext, hback'] at hback
  exact (Option.some.inj hback).symm

end Summary

end KernelAv.Daemon.TlshDigest
