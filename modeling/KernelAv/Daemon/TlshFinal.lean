/- digest: The TLSH digest of any counters and length, and that no step of its making falls over. -/

import KernelAv.Daemon.TlshChecked
import KernelAv.Daemon.TlshDigest

set_option autoImplicit false
set_option relaxedAutoImplicit false

namespace KernelAv.Daemon.TlshFinal

open KernelAv.Lib
open KernelAv.Lib.Selection
open KernelAv.Daemon.Tlsh
open KernelAv.Daemon.TlshQuartiles
open KernelAv.Daemon.TlshDigest

section Definitions

/-- The count of a bucket, of 32 bits. -/
def count (counts : Vector UInt32 BUCKET_COUNT) (i : Nat) : Nat := (counts.getD i 0).toNat

/-- The counts of the buckets in use, in order. -/
def ordered (counts : Vector UInt32 BUCKET_COUNT) : List Nat :=
  ((List.range EFF_BUCKETS).map (count counts)).mergeSort fun a b => decide (a ≤ b)

/-- The bits `2 * (i % 4)` and the next of the byte `i / 4`. -/
def codeOf (d : tlsh_digest) (i : Nat) : Nat :=
  (d.tmp_code.getD (i / 4) 0).toNat >>> (2 * (i % 4)) % 4

/-- The bracket of `topval` that holds a length; the last one has no upper end. -/
structure Bracket (len i : Nat) : Prop where
  place : i < 170
  low : i ≠ 0 → topval.getD (i - 1) 0 < len
  high : i ≠ 169 → len ≤ topval.getD i 0

/-- The digest of some counters and a length. -/
structure Digest (counts : Vector UInt32 BUCKET_COUNT) (len q1 q2 q3 : Nat) (d : tlsh_digest) :
    Prop where
  first : (ordered counts)[31]? = some q1
  second : (ordered counts)[63]? = some q2
  third : (ordered counts)[95]? = some q3
  third_pos : q3 ≠ 0
  code : ∀ i, i < EFF_BUCKETS →
    codeOf d i = [q1, q2, q3].countP fun q => decide (q < count counts i)
  Q1ratio : d.Q1ratio.toNat = 100 * q1 / q3 % 16
  Q2ratio : d.Q2ratio.toNat = 100 * q2 / q3 % 16
  ratios_lt : d.Q1ratio.toNat < 16 ∧ d.Q2ratio.toNat < 16
  Lvalue : Bracket len d.Lvalue.toNat

/-- The context of a stream whose counters are these. -/
def context (counts : Vector UInt32 BUCKET_COUNT) (slide_window : Vector UInt8 SLIDING_WND_SIZE)
    (data_len : UInt32) (checksum : UInt8) : tlsh_ctx :=
  ⟨some (counts.map UInt32.toNat), slide_window, data_len, checksum, false⟩

end Definitions

section Parts

theorem map_getD (counts : Vector UInt32 BUCKET_COUNT) {b : Nat} (hb : b < BUCKET_COUNT) :
    (counts.map UInt32.toNat).getD b 0 = count counts b := by
  simp only [count, Vector.getD, Array.getD_eq_getD_getElem?, Vector.getElem?_toArray,
    Vector.getElem?_eq_getElem hb, Vector.getElem_map, Option.getD_some]

/-- The bits of a bucket say how many quartiles are below its count. -/
theorem quartileBits_countP {q1 q2 q3 : Nat} (h12 : q1 ≤ q2) (h23 : q2 ≤ q3) (k : Nat) :
    (quartileBits q1 q2 q3 k).toNat = [q1, q2, q3].countP fun q => decide (q < k) := by
  have hcount : ([q1, q2, q3].countP fun q => decide (q < k)) =
      0 + (if q3 < k then 1 else 0) + (if q2 < k then 1 else 0) + (if q1 < k then 1 else 0) := by
    simp only [List.countP_cons, List.countP_nil, decide_eq_true_eq]
  rw [hcount, quartileBits]
  by_cases h3 : q3 < k
  · rw [if_pos h3, if_pos h3, if_pos (show q2 < k by omega), if_pos (show q1 < k by omega)]
    rfl
  · by_cases h2 : q2 < k
    · rw [if_neg h3, if_neg h3, if_pos h2, if_pos h2, if_pos (show q1 < k by omega)]
      rfl
    · rw [if_neg h3, if_neg h3, if_neg h2, if_neg h2]
      by_cases h1 : q1 < k
      · rw [if_pos h1, if_pos h1]
        rfl
      · rw [if_neg h1, if_neg h1]
        rfl

/-- With more than half of the buckets hit, the third quartile is not zero. -/
theorem third_quartile_pos {f : Nat → Nat} {q3 : Nat} (hq3 : HasRank EFF_BUCKETS f 95 q3)
    (hmany : 64 < ((Finset.range EFF_BUCKETS).filter fun b => 0 < f b).card) : q3 ≠ 0 := by
  rintro rfl
  have hupto := hq3.upto
  have hsplit := Finset.card_filter_add_card_filter_not (s := Finset.range EFF_BUCKETS)
    fun b => 0 < f b
  have hsame : ((Finset.range EFF_BUCKETS).filter fun b => ¬ 0 < f b) =
      (Finset.range EFF_BUCKETS).filter fun b => f b ≤ 0 := by
    apply Finset.filter_congr
    intro b _
    exact not_lt
  rw [hsame, Finset.card_range] at hsplit
  have hsize : EFF_BUCKETS = 128 := rfl
  omega

/-- `l_capturing` gives the bracket. -/
theorem l_capturing_bracket {len : UInt32} {v : UInt8} (h : l_capturing len = some v) :
    Bracket len.toNat v.toNat := by
  by_cases hle : len.toNat ≤ topval.getD 169 0
  · obtain ⟨t, ht, hcap⟩ := captures_exists hle
    rw [l_capturing_finds ht hcap] at h
    obtain rfl := Option.some.inj h
    have hback : (UInt8.ofNat t).toNat = t := by
      rw [UInt8.toNat_ofNat']
      omega
    rw [hback]
    exact ⟨ht, hcap.2, fun _ => hcap.1⟩
  · have hbeyond := not_le.mp hle
    rw [l_capturing, if_pos hbeyond] at h
    obtain rfl := Option.some.inj h
    refine ⟨by decide, fun _ => ?_, fun hne => absurd rfl hne⟩
    exact (show topval.getD 168 0 < topval.getD 169 0 by decide).trans hbeyond

theorem codeOf_eq {d : tlsh_digest} {q1 q2 q3 : Nat} {a_bucket : Vector Nat BUCKET_COUNT}
    (hcode : d.tmp_code = Vector.ofFn fun i => codeByte q1 q2 q3 a_bucket i) {i : Nat}
    (hi : i < EFF_BUCKETS) :
    codeOf d i = (quartileBits q1 q2 q3 (a_bucket.getD i 0)).toNat := by
  have hbyte : i / 4 < TLSH_CODE_SIZE := Nat.div_lt_of_lt_mul hi
  have hget : d.tmp_code.getD (i / 4) 0 = codeByte q1 q2 q3 a_bucket (i / 4) := by
    rw [hcode, Vector.getD, Array.getD_eq_getD_getElem?, Vector.getElem?_toArray,
      Vector.getElem?_eq_getElem hbyte, Vector.getElem_ofFn, Option.getD_some]
  have hplace : (UInt8.ofNat (2 * (i % 4))).toNat % 8 = 2 * (i % 4) := by
    rw [UInt8.toNat_ofNat']
    omega
  have hbits := codeByte_bits q1 q2 q3 a_bucket (i / 4) ⟨i % 4, Nat.mod_lt _ (by decide)⟩
  simp only [Nat.div_add_mod] at hbits
  rw [← hbits, codeOf, hget, UInt8.toNat_and, UInt8.toNat_shiftRight, hplace]
  exact (Nat.and_two_pow_sub_one_eq_mod _ 2).symm

end Parts

section Length

variable {len len' : UInt32} {v v' : UInt8}

/-- The place of a length is the first entry that is not below it. -/
theorem l_capturing_isLeast (h : l_capturing len = some v)
    (hle : len.toNat ≤ topval.getD 169 0) :
    IsLeast {i | i < 170 ∧ len.toNat ≤ topval.getD i 0} v.toNat := by
  have hbracket := l_capturing_bracket h
  constructor
  · refine ⟨hbracket.place, ?_⟩
    by_cases hlast : v.toNat = 169
    · rw [hlast]
      exact hle
    · exact hbracket.high hlast
  · rintro i ⟨-, hi⟩
    by_contra hlt
    have hbefore := hbracket.low (by omega)
    have hmono := topval_mono (show i ≤ v.toNat - 1 by omega) (by have hp := hbracket.place; omega)
    omega

/-- Brackets are in the order of the lengths that they hold. -/
theorem bracket_mono {m n i j : Nat} (hmn : m ≤ n) (hi : Bracket m i) (hj : Bracket n j) :
    i ≤ j := by
  by_contra hlt
  have hplace := hi.place
  have hlow := hi.low (by omega)
  have hhigh := hj.high (by omega)
  have hmono := topval_mono (show j ≤ i - 1 by omega) (by omega)
  omega

/-- `l_capturing` ends, reads within the table, and gives the first entry that is not below the
length, or 169 beyond the table; a greater length has no lower place. -/
theorem l_capturing_least (len : UInt32) :
    ∃ v, TlshChecked.l_capturing len = .ok v ∧ l_capturing len = some v ∧
      (len.toNat ≤ topval.getD 169 0 →
        IsLeast {i | i < topval.length ∧ len.toNat ≤ topval.getD i 0} v.toNat) ∧
      (topval.getD 169 0 < len.toNat → v = 169) ∧
      ∀ len' v', len ≤ len' → l_capturing len' = some v' → v ≤ v' := by
  obtain ⟨v, hv⟩ := l_capturing_ends len
  have hchecked : TlshChecked.l_capturing len = .ok v := by
    rw [TlshChecked.l_capturing_ok, hv, Checked.ofOption]
  refine ⟨v, hchecked, hv, fun hle => l_capturing_isLeast hv hle, fun hbeyond => ?_,
    fun len' v' hlen hv' => ?_⟩
  · rw [l_capturing, if_pos hbeyond] at hv
    exact (Option.some.inj hv).symm
  · rw [UInt8.le_iff_toNat_le]
    exact bracket_mono (UInt32.le_iff_toNat_le.mp hlen) (l_capturing_bracket hv)
      (l_capturing_bracket hv')

end Length

section Main

variable (counts : Vector UInt32 BUCKET_COUNT) (data_len : UInt32) (checksum : UInt8)

/-- What `tlsh_final` makes of the counters of a stream that is long enough. -/
theorem summarize_counts : ∃ o, summarize (counts.map UInt32.toNat) data_len checksum = some o ∧
    (o.isSome ↔
      64 < ((Finset.range EFF_BUCKETS).filter fun b => 0 < count counts b).card) ∧
    ∀ d, o = some d → d.checksum = checksum ∧
      ∃ q1 q2 q3, Digest counts data_len.toNat q1 q2 q3 d := by
  obtain ⟨⟨q1, q2, q3⟩, hq, hraw⟩ := find_quartile_ranks (counts.map UInt32.toNat)
  obtain ⟨v, hv⟩ := l_capturing_ends data_len
  have hcounts : ∀ b, b < BUCKET_COUNT →
      (counts.map UInt32.toNat).getD b 0 = count counts b := fun b hb => map_getD counts hb
  have hranks := hraw.congr fun b hb => hcounts b (hb.trans (by decide))
  have hmany : ¬ nonzero (counts.map UInt32.toNat) ≤ 4 * TLSH_CODE_SIZE / 2 ↔
      64 < ((Finset.range EFF_BUCKETS).filter fun b => 0 < count counts b).card := by
    rw [nonzero_card hcounts]
    exact not_le
  simp only [summarize, hq, hv, Option.bind_eq_bind, Option.bind_some]
  by_cases hfew : nonzero (counts.map UInt32.toNat) ≤ 4 * TLSH_CODE_SIZE / 2
  · refine ⟨none, ?_, ?_, fun d hd => absurd hd.symm (Option.some_ne_none d)⟩
    · by_cases hzero : q3 = 0
      · rw [if_pos hzero]
      · rw [if_neg hzero, if_pos hfew]
    · rw [← hmany]
      exact ⟨fun h => absurd h Bool.false_ne_true, fun h => absurd hfew h⟩
  · have hpos : q3 ≠ 0 := third_quartile_pos hranks.q3 (hmany.mp hfew)
    rw [if_neg hpos, if_neg hfew]
    refine ⟨_, rfl, iff_of_true (Option.isSome_some) (hmany.mp hfew), fun d hd => ?_⟩
    have hmade := Option.some.inj hd
    have hcode : d.tmp_code = Vector.ofFn fun i : Fin TLSH_CODE_SIZE =>
        codeByte q1 q2 q3 (counts.map UInt32.toNat) i := by rw [← hmade]
    have hsum : d.checksum = checksum := by rw [← hmade]
    have hQ1 : d.Q1ratio = UInt8.ofNat (q1 * 100 / q3 % 16) := by rw [← hmade]
    have hQ2 : d.Q2ratio = UInt8.ofNat (q2 * 100 / q3 % 16) := by rw [← hmade]
    have hL : d.Lvalue = v := by rw [← hmade]
    have hratio : ∀ q, (UInt8.ofNat (q * 100 / q3 % 16)).toNat = 100 * q / q3 % 16 := by
      intro q
      rw [UInt8.toNat_ofNat', Nat.mul_comm q 100]
      exact Nat.mod_eq_of_lt ((Nat.mod_lt _ (by decide)).trans (by decide))
    refine ⟨hsum, q1, q2, q3, hranks.q1.sorted (by decide), hranks.q2.sorted (by decide),
      hranks.q3.sorted (by decide), hpos, fun i hi => ?_, ?_, ?_, ⟨?_, ?_⟩, ?_⟩
    · rw [codeOf_eq hcode hi, hcounts i (hi.trans (by decide))]
      exact quartileBits_countP (hranks.q1.mono (by decide) hranks.q2)
        (hranks.q2.mono (by decide) hranks.q3) _
    · rw [hQ1, hratio q1]
    · rw [hQ2, hratio q2]
    · rw [hQ1, hratio q1]
      exact Nat.mod_lt _ (by decide)
    · rw [hQ2, hratio q2]
      exact Nat.mod_lt _ (by decide)
    · rw [hL]
      exact l_capturing_bracket hv

/-- Whatever the counters and the length, `tlsh_final` falls over nothing; it gives a digest
exactly for 50 bytes or more and more than 64 buckets hit of those in use, and that digest is the
one of the counters and the length. -/
theorem tlsh_final_of_counts (slide_window : Vector UInt8 SLIDING_WND_SIZE) :
    ∃ o, TlshChecked.tlsh_final (context counts slide_window data_len checksum) = .ok o ∧
      tlsh_final (context counts slide_window data_len checksum) = some o ∧
      (o.isSome ↔ 50 ≤ data_len.toNat ∧
        64 < ((Finset.range EFF_BUCKETS).filter fun b => 0 < count counts b).card) ∧
      ∀ d, o = some d → d.checksum = checksum ∧
        ∃ q1 q2 q3, Digest counts data_len.toNat q1 q2 q3 d := by
  obtain ⟨o, hchecked, hfinal⟩ := TlshChecked.tlsh_final_ok
    (context counts slide_window data_len checksum) fun a_bucket ha b hb => by
      obtain rfl := Option.some.inj ha
      rw [map_getD counts hb]
      exact UInt32.toNat_lt _
  refine ⟨o, hchecked, hfinal, ?_⟩
  have hfinal : (if data_len.toNat < MIN_DATA_LENGTH then some none
      else summarize (counts.map UInt32.toNat) data_len checksum) = some o := hfinal
  by_cases hshort : data_len.toNat < MIN_DATA_LENGTH
  · rw [if_pos hshort] at hfinal
    obtain rfl := Option.some.inj hfinal
    exact ⟨⟨fun h => absurd h Bool.false_ne_true, fun h => absurd h.1 (not_le.mpr hshort)⟩,
      fun d hd => absurd hd.symm (Option.some_ne_none d)⟩
  · obtain ⟨o', hsum, hsome, hdigest⟩ := summarize_counts counts data_len checksum
    rw [if_neg hshort, hsum] at hfinal
    obtain rfl := Option.some.inj hfinal
    refine ⟨?_, hdigest⟩
    rw [hsome]
    exact (and_iff_right (not_lt.mp hshort)).symm

end Main

end KernelAv.Daemon.TlshFinal
